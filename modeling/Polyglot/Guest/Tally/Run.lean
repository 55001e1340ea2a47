import Polyglot.Guest.Linkage
import Polyglot.Guest.Tally

/-!
# Polyglot.Guest.Tally.Run

Running Tally programs.  A name is read through its linked slot while that holds a value, and
through the scope chain otherwise.  It is written through its linked slot if it has one, and into
the innermost scope otherwise.
-/

namespace Polyglot.Tally

/-- The linked slot of a name. -/
def linked? (g : Option Linkage) (x : FreeVariable) : Option SlotId :=
  g.bind fun l => l.slot? x.name

/-- Read a name. -/
def readVar (g : Option Linkage) (st : Store) (c : Context) (x : FreeVariable) :
    Except RuntimeError Value :=
  match (linked? g x).bind st.read with
  | some v => .ok v
  | none => x.evaluate st c

/-- Write a name. -/
def writeVar (g : Option Linkage) (st : Store) (c : Context) (x : FreeVariable) (v : Value) :
    Except RuntimeError Store :=
  match linked? g x with
  | some s => st.write s v
  | none =>
    match c.scope with
    | none => .error (.other "no scope to assign into")
    | some sc => st.writeName sc x.name v

/-- The value of a right side.  Sums wrap around. -/
def Expr.eval (g : Option Linkage) (st : Store) (c : Context) : Expr → Except RuntimeError Value
  | .int n => .ok (.int n)
  | .str s => .ok (.str s)
  | .ref x => readVar g st c x
  | .add x n =>
    match readVar g st c x with
    | .error e => .error e
    | .ok (.int m) => .ok (.int (m + n))
    | .ok v => .error (.typeMismatch "int" v.typeName)

/-- Run one assignment. -/
def Assignment.run (g : Option Linkage) (st : Store) (c : Context) (a : Assignment) :
    Except RuntimeError (Value × Store) :=
  match a.expr.eval g st c with
  | .error e => .error e
  | .ok v => (writeVar g st c a.target v).map fun st => (v, st)

/-- Run assignments in order, up to the first that fails; the result is the last value assigned,
and `last` if there is none. -/
def run (g : Option Linkage) (c : Context) :
    List Assignment → Value → Store → Except RuntimeError Value × Store
  | [], last, st => (.ok last, st)
  | a :: rest, _, st =>
    match a.run g st c with
    | .error e => (.error e, st)
    | .ok (v, st) => run g c rest v st

end Polyglot.Tally
