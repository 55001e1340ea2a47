import Polyglot.FreeVariable

/-!
# Polyglot.Procedure

What procedures do when they are called.  A call reads the store at most, and only a `lookup`
procedure does.
-/

namespace Polyglot.Procedure

/-- The sum of the integers among the values, wrapping around. -/
def sumInts (args : List Value) : Int64 := (args.filterMap Value.asInt?).foldl (· + ·) 0

/-- Read the variable named by the second argument in the context that is the first. -/
def lookUp (st : Store) (args : List Value) : Except RuntimeError Value :=
  match args[0]?.bind Value.asContext? with
  | none => .error (.other "no context")
  | some c =>
    match args[1]?.bind Value.asStr? with
    | none => .error (.other "no name")
    | some name =>
      match FreeVariable.ofText name with
      | .error e => .error (.other e.message)
      | .ok x => x.evaluate st c

/-- Call a procedure with the arguments it takes. -/
def call (p : Procedure) (st : Store) (args : List Value) : Except RuntimeError Value :=
  match p.behaviour with
  | .list => .ok (.list args)
  | .tag => .ok (.list (.str p.name.text :: args))
  | .count => .ok (.int (Int64.ofNat args.length))
  | .sum => .ok (.int (sumInts args))
  | .first =>
    match args with
    | [] => .error (.other "no arguments")
    | v :: _ => .ok v
  | .kinds => .ok (.list (args.map fun v => .str v.typeName))
  | .lookup => lookUp st args
  | .unbound => .error (.unboundName p.name)
  | .fail => .error (.other p.name.text)

end Polyglot.Procedure
