import Polyglot.Call.Site
import Polyglot.Guest.Linkage
import Polyglot.Guest.Script

/-!
# Polyglot.Guest.Script.Run

Running scripted programs.  A program runs in a context and changes the store and the call
sites; a statement that fails ends the program, and what was changed before stays changed.
-/

namespace Polyglot.Script

/-- What running programs change: the store, and the call sites by name. -/
structure Machine where
  store : Store
  sites : Dict String CallSite
  deriving Inhabited

/-- A free variable, as a program meets one; an unusable name is an error of the program. -/
def freeVariable (name : Symbol) : Except RuntimeError FreeVariable :=
  match FreeVariable.ofSymbol name with
  | .ok x => .ok x
  | .error e => .error (.other e.message)

/-- The value of an expression. -/
def Expr.eval (st : Store) (c : Context) : Expr → Except RuntimeError Value
  | .value v => .ok v
  | .var name =>
    match freeVariable name with
    | .error e => .error e
    | .ok x => x.evaluate st c

/-- The values of expressions, up to the first that fails. -/
def evalAll (st : Store) (c : Context) : List Expr → Except RuntimeError (List Value)
  | [] => .ok []
  | e :: es =>
    match e.eval st c with
    | .error err => .error err
    | .ok v => (evalAll st c es).map (v :: ·)

/-- Give a name a value in the innermost scope. -/
def setInnermost (st : Store) (c : Context) (name : Symbol) (v : Value) :
    Except RuntimeError Store :=
  match c.scope with
  | none => .error (.other "no scope")
  | some sc => st.writeName sc name v

/-- Assign to a variable. -/
def assignTo (st : Store) (c : Context) (name : Symbol) (v : Value) : Except RuntimeError Store :=
  match freeVariable name with
  | .error e => .error e
  | .ok x => x.assign st c v

/-- The slot of a linked global. -/
def linkedSlot (g : Option Linkage) (name : Symbol) : Except RuntimeError SlotId :=
  match g.bind fun l => l.slot? name with
  | none => .error (.other "not linked")
  | some s => .ok s

/-- Write a linked global. -/
def setLinked (g : Option Linkage) (st : Store) (name : Symbol) (v : Value) :
    Except RuntimeError Store :=
  match linkedSlot g name with
  | .error e => .error e
  | .ok s => st.write s v

/-- The sum that an addition assigns to its variable. -/
def increased (st : Store) (c : Context) (x : FreeVariable) (n : Int64) :
    Except RuntimeError Value :=
  match x.evaluate st c with
  | .error e => .error e
  | .ok (.int m) => .ok (.int (m + n))
  | .ok v => .error (.typeMismatch Kind.int.name v.typeName)

/-- Store a value that was computed, and yield it. -/
def Machine.storing (m : Machine) (v : Except RuntimeError Value)
    (put : Value → Except RuntimeError Store) : Except RuntimeError Value × Machine :=
  match v with
  | .error e => (.error e, m)
  | .ok v =>
    match put v with
    | .error e => (.error e, m)
    | .ok st => (.ok v, { m with store := st })

/-- Add to a variable. -/
def Machine.add (m : Machine) (c : Context) (name : Symbol) (n : Int64) :
    Except RuntimeError Value × Machine :=
  match freeVariable name with
  | .error e => (.error e, m)
  | .ok x => m.storing (increased m.store c x n) (x.assign m.store c)

/-- Take a name out of the innermost scope. -/
def Machine.remove (m : Machine) (c : Context) (name : Symbol) :
    Except RuntimeError Value × Machine :=
  match c.scope with
  | none => (.error (.other "no scope"), m)
  | some sc =>
    let (removed, st) := m.store.removeName sc name
    (.ok (.bool removed.isSome), { m with store := st })

/-- The names of the innermost scope. -/
def innermostNames (st : Store) (c : Context) : Except RuntimeError Value :=
  match c.scope with
  | none => .error (.other "no scope")
  | some sc => .ok (.list ((st.names sc).map fun n => .str n.text))

/-- Call through a call site. -/
def Machine.invoke (m : Machine) (c : Context) (site : String) (args : List Expr) :
    Except RuntimeError Value × Machine :=
  match m.sites.get? site with
  | none => (.error (.other "no binder"), m)
  | some s =>
    match evalAll m.store c args with
    | .error e => (.error e, m)
    | .ok args =>
      let (result, s) := s.invoke m.store c args
      (result, { m with sites := m.sites.insert site s })

mutual
/-- Run one statement of code with the given linkage. -/
def Statement.run (g : Option Linkage) :
    Statement → Context → Machine → Except RuntimeError Value × Machine
  | .const e, c, m => (e.eval m.store c, m)
  | .set name e, c, m => m.storing (e.eval m.store c) (setInnermost m.store c name)
  | .assign name e, c, m => m.storing (e.eval m.store c) (assignTo m.store c name)
  | .add name n, c, m => m.add c name n
  | .remove name, c, m => m.remove c name
  | .names, c, m => (innermostNames m.store c, m)
  | .globalGet name, _, m =>
    ((linkedSlot g name).map fun s => (m.store.read s).getD .nil, m)
  | .globalSet name e, c, m => m.storing (e.eval m.store c) (setLinked g m.store name)
  | .depth, c, m => (.ok (.int (Int64.ofNat c.depth)), m)
  | .module, c, m =>
    (.ok (match c.module with
      | some id => .int (Int64.ofNat id.number.toNat)
      | none => .nil), m)
  | .push body, c, m =>
    let (sc, st) := m.store.newScope
    let (c, st) := st.push c sc
    runAll g body .nil c { m with store := st }
  | .invoke site args, c, m => m.invoke c site args
  | .fail message, _, m => (.error (.other message), m)

/-- Run statements in order; the result is that of the last one, and `last` if there is none. -/
def runAll (g : Option Linkage) :
    List Statement → Value → Context → Machine → Except RuntimeError Value × Machine
  | [], last, _, m => (.ok last, m)
  | s :: rest, _, c, m =>
    match s.run g c m with
    | (.error e, m) => (.error e, m)
    | (.ok v, m) => runAll g rest v c m
end

end Polyglot.Script
