import Polyglot.Dict
import Polyglot.Heap
import Polyglot.Slot

/-!
# Polyglot.Store

The mutable state that running programs share: slots, the scopes that file slots under names,
the links of scope chains, the factories of static slots, and the counters from which module and
generation numbers are taken.

An operation that can fail returns the new store only when it succeeds, so a failed operation
changes nothing.  Places in the tables are never reused.
-/

namespace Polyglot

/-- A scope files slots under names. -/
structure Scope where
  bindings : Dict Symbol SlotId
  deriving Inhabited

/-- A factory of static slots: its generation and the slots it made, oldest first. -/
structure StaticFactory where
  generation : GenerationId
  slots : List SlotId
  deriving Inhabited

/-- The shared mutable state of running programs. -/
structure Store where
  slots : Heap Slot
  scopes : Heap Scope
  factories : Heap StaticFactory
  /-- Every static slot ever made; static slots are kept for good. -/
  retained : Array SlotId
  /-- How many links of scope chains were made. -/
  links : Nat
  /-- How many module numbers were given out. -/
  modules : Nat
  /-- How many generation numbers were given out. -/
  generations : Nat
  deriving Inhabited

namespace Store

/-- The store in which nothing was made. -/
def empty : Store :=
  { slots := .empty, scopes := .empty, factories := .empty, retained := #[], links := 0
    modules := 0, generations := 0 }

/-! ## Slots -/

/-- A slot; a place that was never given out reads as an empty cell without a name. -/
def slot (st : Store) (s : SlotId) : Slot := (st.slots.get? s.index).getD default

/-- The value a slot holds. -/
def read (st : Store) (s : SlotId) : Option Value := (st.slot s).value

/-- Make a slot. -/
def newSlot (st : Store) (s : Slot) : SlotId × Store :=
  (⟨st.slots.size⟩, { st with slots := st.slots.add s })

/-- Store a value in a slot, unless it is not of the slot's type. -/
def write (st : Store) (s : SlotId) (v : Value) : Except RuntimeError Store :=
  match (st.slot s).set v with
  | .error e => .error e
  | .ok new => .ok { st with slots := st.slots.modify s.index fun _ => new }

/-! ## Scopes -/

/-- The names of a scope and their slots. -/
def bindings (st : Store) (sc : ScopeId) : Dict Symbol SlotId :=
  ((st.scopes.get? sc.index).getD default).bindings

/-- Replace what a scope files. -/
def setBindings (st : Store) (sc : ScopeId) (d : Dict Symbol SlotId) : Store :=
  { st with scopes := st.scopes.modify sc.index fun _ => ⟨d⟩ }

/-- Make a scope that files the given slots under the given names. -/
def newScopeOf (st : Store) (d : Dict Symbol SlotId) : ScopeId × Store :=
  (⟨st.scopes.size⟩, { st with scopes := st.scopes.add ⟨d⟩ })

/-- Make a scope without names. -/
def newScope (st : Store) : ScopeId × Store := st.newScopeOf .empty

/-- File slots under their own names; of two slots with one name the first is kept. -/
def fileSlots (st : Store) (d : Dict Symbol SlotId) : List SlotId → Dict Symbol SlotId
  | [] => d
  | s :: rest =>
    let name := (st.slot s).name
    st.fileSlots (if d.contains name then d else d.insert name s) rest

/-- Make a scope that files slots under their own names. -/
def newScopeWith (st : Store) (slots : List SlotId) : ScopeId × Store :=
  st.newScopeOf (st.fileSlots .empty slots)

/-- The slot a scope files under a name, whether or not it holds a value. -/
def slotIn (st : Store) (sc : ScopeId) (name : Symbol) : Option SlotId :=
  (st.bindings sc).get? name

/-- The value of a name in one scope. -/
def readName (st : Store) (sc : ScopeId) (name : Symbol) : Option Value :=
  (st.slotIn sc name).bind st.read

/-- Whether a scope files a slot under the name. -/
def containsName (st : Store) (sc : ScopeId) (name : Symbol) : Bool := (st.slotIn sc name).isSome

/-- Whether a scope files a slot under the name and the slot holds a value. -/
def isBoundIn (st : Store) (sc : ScopeId) (name : Symbol) : Bool := (st.readName sc name).isSome

/-- File a slot under its own name; the slot it replaces is returned. -/
def bindSlot (st : Store) (sc : ScopeId) (s : SlotId) : Option SlotId × Store :=
  let name := (st.slot s).name
  (st.slotIn sc name, st.setBindings sc ((st.bindings sc).insert name s))

/-- Take a name out of a scope; the slot that was filed under it is returned and lives on. -/
def removeName (st : Store) (sc : ScopeId) (name : Symbol) : Option SlotId × Store :=
  match st.slotIn sc name with
  | none => (none, st)
  | some s => (some s, st.setBindings sc ((st.bindings sc).erase name))

/-- The slot filed under a name, or else a new slot, which is then filed under it. -/
def slotOrNew (st : Store) (sc : ScopeId) (name : Symbol) (new : Slot) : SlotId × Store :=
  match st.slotIn sc name with
  | some s => (s, st)
  | none =>
    let (s, st) := st.newSlot new
    (s, st.setBindings sc ((st.bindings sc).insert name s))

/-- Give a name a value in one scope; a name that is new to the scope gets an untyped cell. -/
def writeName (st : Store) (sc : ScopeId) (name : Symbol) (v : Value) :
    Except RuntimeError Store :=
  let (s, st) := st.slotOrNew sc name { name }
  st.write s v

/-- The names of a scope, in the order of their texts. -/
def names (st : Store) (sc : ScopeId) : List Symbol :=
  (st.bindings sc).keys.mergeSort fun a b => decide (a.text ≤ b.text)

/-- How many names a scope has. -/
def nameCount (st : Store) (sc : ScopeId) : Nat := (st.bindings sc).size

/-- A scope as a developer sees it. -/
def inspectScope (st : Store) (sc : ScopeId) : String :=
  Text.inspectRecord "Scope" [("names", Text.inspectList ((st.names sc).map Symbol.inspect))]

/-! ## Contexts and module numbers -/

/-- Put a scope in front of a context's chain, as a new link. -/
def push (st : Store) (c : Context) (sc : ScopeId) : Context × Store :=
  (c.cons ⟨⟨st.links⟩, sc⟩, { st with links := st.links + 1 })

/-- Take the next module number. -/
def nextModule (st : Store) : ModuleId × Store :=
  (.ofCount st.modules, { st with modules := st.modules + 1 })

/-- The context of a module: its scope alone, and its number. -/
def moduleContext (st : Store) (m : ModuleId) (sc : ScopeId) : Context × Store :=
  let (c, st) := st.push .empty sc
  ({ c with module := some m }, st)

/-! ## Slot factories -/

/-- Make a factory of static slots, which takes the next generation number. -/
def newFactory (st : Store) : FactoryId × Store :=
  (⟨st.factories.size⟩,
    { st with
      factories := st.factories.add ⟨.ofCount st.generations, []⟩
      generations := st.generations + 1 })

/-- A factory of static slots. -/
def factory (st : Store) (f : FactoryId) : StaticFactory :=
  (st.factories.get? f.index).getD default

/-- Make a static slot; every request makes another one, also for a name that was asked for
before. -/
def newStatic (st : Store) (f : FactoryId) (name : Symbol) (type : SlotType) : SlotId × Store :=
  let made := st.factory f
  let (s, st) := st.newSlot
    { name, type, storage := .static made.generation made.slots.length }
  (s, { st with
    factories := st.factories.modify f.index fun _ => { made with slots := made.slots ++ [s] }
    retained := st.retained.push s })

/-- Ask a scope for a slot: the one filed under the name, or a new cell of the type. -/
def newInScope (st : Store) (sc : ScopeId) (name : Symbol) (type : SlotType) : SlotId × Store :=
  st.slotOrNew sc name { name, type }

/-- Where new slots come from: a factory of static slots, or a scope. -/
inductive SlotFactory where
  | static (factory : FactoryId)
  | dictionary (scope : ScopeId)

/-- Ask a slot factory for a slot. -/
def newFrom (st : Store) (name : Symbol) (type : SlotType) : SlotFactory → SlotId × Store
  | .static f => st.newStatic f name type
  | .dictionary sc => st.newInScope sc name type

/-- A slot factory as a developer sees it. -/
def inspectFactory (st : Store) : SlotFactory → String
  | .static f =>
    let made := st.factory f
    Text.inspectRecord "StaticSlotFactory"
      [("generation", made.generation.inspect), ("slots", toString made.slots.length)]
  | .dictionary sc => Text.inspectRecord "DictionarySlotFactory" [("scope", st.inspectScope sc)]

end Store

end Polyglot
