import Polyglot.Guest.Declaration
import Polyglot.Store

/-!
# Polyglot.Guest.Linkage

Global linking.  The top-level names of a module get one static slot each before any of its code
runs: one for every distinct name, of the type and with the flags of its first declaration.  All
slots of one linkage belong to one generation.  Code that knows its linkage reaches a global
through the slot, and the same slots are filed in the module's scope.
-/

namespace Polyglot

/-- A top-level name and its slot. -/
structure LinkedGlobal where
  name : Symbol
  slot : SlotId
  flags : BindingFlags
  deriving DecidableEq

/-- The globals of one module, in the order of their declarations. -/
structure Linkage where
  generation : GenerationId
  globals : List LinkedGlobal
  deriving DecidableEq

namespace Linkage

/-- Make slots for the declared names that are not among the globals yet. -/
def extend (f : FactoryId) (globals : List LinkedGlobal) (st : Store) :
    List Declaration → List LinkedGlobal × Store
  | [] => (globals, st)
  | d :: ds =>
    if globals.any fun g => g.name = d.name then extend f globals st ds
    else
      let (s, st) := st.newStatic f d.name d.type
      extend f (globals ++ [⟨d.name, s, d.flags⟩]) st ds

/-- Link declarations: a new generation with one slot for each distinct name. -/
def link (st : Store) (ds : List Declaration) : Linkage × Store :=
  let (f, st) := st.newFactory
  let (globals, st) := extend f [] st ds
  (⟨(st.factory f).generation, globals⟩, st)

/-- The global with a name. -/
def global? (l : Linkage) (name : Symbol) : Option LinkedGlobal :=
  l.globals.find? fun g => g.name = name

/-- The slot of a name. -/
def slot? (l : Linkage) (name : Symbol) : Option SlotId := (l.global? name).map LinkedGlobal.slot

/-- The flags of a name. -/
def flags? (l : Linkage) (name : Symbol) : Option BindingFlags :=
  (l.global? name).map LinkedGlobal.flags

/-- The names, in the order of their declarations. -/
def names (l : Linkage) : List Symbol := l.globals.map LinkedGlobal.name

/-- The names that other modules may see. -/
def exports (l : Linkage) : List Symbol :=
  (l.globals.filter fun g => g.flags.exported).map LinkedGlobal.name

/-- How many globals there are. -/
def size (l : Linkage) : Nat := l.globals.length

/-- Make a scope that files all slots of the linkage. -/
def newScope (l : Linkage) (st : Store) : ScopeId × Store :=
  st.newScopeWith (l.globals.map LinkedGlobal.slot)

end Linkage

end Polyglot
