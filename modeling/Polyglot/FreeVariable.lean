import Polyglot.Store

/-!
# Polyglot.FreeVariable

Names that are looked up when they are used.  Reading a free variable goes through the scopes of
the context from the innermost outward, and the first scope that holds a value for the name
wins.  Assigning one stores into the innermost scope that has a slot for the name, whether or
not that slot holds a value, and never introduces a name.
-/

namespace Polyglot

/-- A name that can be looked up: not the invalid symbol, and not empty. -/
structure FreeVariable where
  name : Symbol
  nonempty : name.text ≠ ""
  deriving DecidableEq

namespace FreeVariable

/-- The variable of a symbol, unless the symbol cannot name one. -/
def ofSymbol : Symbol → Except ArgumentError FreeVariable
  | .invalid => .error .invalidSymbol
  | .named t => if h : t = "" then .error .emptySymbol else .ok ⟨.named t, h⟩

/-- The variable with this name, unless the name is empty. -/
def ofText (name : String) : Except ArgumentError FreeVariable := ofSymbol (.named name)

/-- The value of the variable in a context. -/
def evaluate (x : FreeVariable) (st : Store) (c : Context) : Except RuntimeError Value :=
  match c.scopes.findSome? fun sc => st.readName sc x.name with
  | some v => .ok v
  | none => .error (.unboundName x.name)

/-- The slot that an assignment in a context stores into. -/
def target? (x : FreeVariable) (st : Store) (c : Context) : Option SlotId :=
  c.scopes.findSome? fun sc => st.slotIn sc x.name

/-- Assign to the variable in a context. -/
def assign (x : FreeVariable) (st : Store) (c : Context) (v : Value) : Except RuntimeError Store :=
  match x.target? st c with
  | some s => st.write s v
  | none => .error (.unboundName x.name)

/-- The variable as a developer sees it. -/
def inspect (x : FreeVariable) : String :=
  Text.inspectRecord "FreeVariableReference" [("name", x.name.inspect)]

end FreeVariable

end Polyglot
