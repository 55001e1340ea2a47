import Polyglot.Slot

/-!
# Polyglot.Guest.Declaration

The top-level names that compiled code defines.
-/

namespace Polyglot

/-- Properties of a top-level name. -/
structure BindingFlags where
  /-- Assigned once, when the module is initialized. -/
  const : Bool := false
  /-- Visible to other modules. -/
  exported : Bool := false
  /-- Readers may use the value in place of the name. -/
  inlinable : Bool := false
  deriving DecidableEq, Inhabited

namespace BindingFlags

/-- The names of the flags that are set. -/
def names (f : BindingFlags) : List String :=
  (if f.const then ["CONST"] else []) ++ (if f.exported then ["EXPORTED"] else []) ++
    (if f.inlinable then ["INLINABLE"] else [])

/-- The flags with these names. -/
def ofNames (ns : List String) : BindingFlags :=
  { const := "CONST" ∈ ns, exported := "EXPORTED" ∈ ns, inlinable := "INLINABLE" ∈ ns }

/-- The flags as a developer sees them. -/
def inspect (f : BindingFlags) : String :=
  Text.inspectApply "BindingFlags"
    [if f.names = [] then "0x0" else " | ".intercalate f.names]

end BindingFlags

/-- A top-level name that code defines. -/
structure Declaration where
  name : Symbol
  type : SlotType := .any
  flags : BindingFlags := {}
  deriving DecidableEq, Inhabited

/-- The declaration as a developer sees it. -/
def Declaration.inspect (d : Declaration) : String :=
  Text.inspectRecord "TopLevelDecl"
    [("name", d.name.inspect), ("slot_type", d.type.inspect), ("flags", d.flags.inspect)]

end Polyglot
