import Polyglot.Text.Quoted

/-!
# Polyglot.Text.Inspection

The one-line texts in which the library's records show themselves to a developer: records with
named fields, constructors applied to arguments, lists and optional parts.
-/

namespace Polyglot.Text

/-- A record: its name, then its fields in braces. -/
def inspectRecord (name : String) (fields : List (String × String)) : String :=
  name ++ " \x7b " ++ ", ".intercalate (fields.map fun f => f.1 ++ ": " ++ f.2) ++ " \x7d"

/-- A constructor applied to arguments. -/
def inspectApply (name : String) (args : List String) : String :=
  name ++ "(" ++ ", ".intercalate args ++ ")"

/-- A list, between brackets. -/
def inspectList (items : List String) : String :=
  "[" ++ ", ".intercalate items ++ "]"

/-- A part that may be absent. -/
def inspectOption : Option String → String
  | none => "None"
  | some s => inspectApply "Some" [s]

/-- A truth value. -/
def inspectBool (b : Bool) : String := if b then "true" else "false"

end Polyglot.Text
