import Polyglot.Error
import Polyglot.Value

/-!
# Polyglot.Slot

Storage locations.  A slot has a name and a declared type, and it holds a value or none.  It
takes only values of its type.  A slot is a plain cell, or it belongs to a generation of static
slots, in which it has a position.
-/

namespace Polyglot

/-- The values a slot takes: all of them, or those of one kind. -/
inductive SlotType where
  | any
  | of (kind : Kind)
  deriving DecidableEq, Inhabited

namespace SlotType

/-- Whether a slot of this type takes the value. -/
def accepts : SlotType → Value → Bool
  | any, _ => true
  | of k, v => v.kind = k

/-- Refuse a value that a slot of this type does not take, naming the slot. -/
def check (t : SlotType) (slot : Symbol) (v : Value) : Except RuntimeError Unit :=
  match t with
  | any => .ok ()
  | of k => if v.kind = k then .ok () else .error (.slotTypeMismatch slot k.name v.typeName)

/-- The type in messages. -/
def display : SlotType → String
  | any => "any"
  | of k => k.name

/-- The type as a developer sees it. -/
def inspect : SlotType → String
  | any => "Any"
  | of k => Text.inspectApply "Of" [k.inspect]

theorem check_eq_ok_iff {t : SlotType} {n : Symbol} {v : Value} :
    t.check n v = .ok () ↔ t.accepts v = true := by
  cases t <;> simp [check, accepts]

end SlotType

/-- How a slot was made. -/
inductive Storage where
  | cell
  | static (generation : GenerationId) (index : Nat)
  deriving DecidableEq, Inhabited

/-- A storage location. -/
structure Slot where
  name : Symbol
  type : SlotType := .any
  storage : Storage := .cell
  value : Option Value := none
  deriving Inhabited

namespace Slot

/-- Whether the slot holds a value. -/
def isBound (s : Slot) : Bool := s.value.isSome

/-- The slot after taking a value, unless it is not of the slot's type. -/
def set (s : Slot) (v : Value) : Except RuntimeError Slot :=
  match s.type.check s.name v with
  | .error e => .error e
  | .ok _ => .ok { s with value := some v }

/-- The slot as a developer sees it. -/
def inspect (s : Slot) : String :=
  match s.storage with
  | .cell => Text.inspectRecord "CellSlot"
      [("name", s.name.inspect), ("type", s.type.inspect), ("bound", Text.inspectBool s.isBound)]
  | .static g i => Text.inspectApply "StaticSlot"
      [s.name.text ++ " " ++ g.display ++ "#" ++ toString i ++ ": " ++ s.type.display]

end Slot

end Polyglot
