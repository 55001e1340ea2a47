import Mathlib.Logic.Relation
import Polyglot.FreeVariable
import Polyglot.Proofs.Store.Frame

/-!
# Polyglot.Proofs.Store.Operation

Everything that can be done to a store.  An operation that fails leaves the store as it is
(`operate`), and one that does not fail is made of a few elementary changes (`Change`).  Slots and
scopes are made, filled and shared by such changes and by nothing else, whatever runs, so a fact
about every change is a fact about every program.

Only two changes can take a name away from the slot that it is filed under:

```
bind       another slot is filed under the name
remove     the name is taken out
```

`Evolves P` relates a store to those that come of it when these two are kept to scopes in `P`.
Elsewhere every name stays filed under its slot (`Evolves.slotIn`).  Slots change at most the
values they hold (`Evolves.retains`), and the generations that static slots belong to are those
whose numbers were given out (`Counted.evolves`).
-/

namespace Polyglot.Store

/-- Something that is done to a store. -/
inductive Operation where
  /-- Make a cell without a value. -/
  | newCell (name : Symbol) (type : SlotType)
  /-- Make an untyped cell that holds a value. -/
  | newCellOf (name : Symbol) (v : Value)
  | write (s : SlotId) (v : Value)
  | newScope
  | newScopeWith (slots : List SlotId)
  | bindSlot (sc : ScopeId) (s : SlotId)
  | removeName (sc : ScopeId) (name : Symbol)
  /-- Ask a scope for the slot of a name; if it has none, a cell is filed under the name.  The cell
  may be called otherwise. -/
  | slotOrNew (sc : ScopeId) (name cell : Symbol) (type : SlotType)
  | writeName (sc : ScopeId) (name : Symbol) (v : Value)
  | assign (x : FreeVariable) (c : Context) (v : Value)
  | newFactory
  | newStatic (f : FactoryId) (name : Symbol) (type : SlotType)
  | push (c : Context) (sc : ScopeId)
  | nextModule

/-- The store after an operation.  One that fails changes nothing, and neither does a request to a
factory that there is not. -/
def operate (st : Store) : Operation → Store
  | .newCell name type => (st.newSlot { name, type }).2
  | .newCellOf name v => (st.newSlot { name, value := some v }).2
  | .write s v => (st.write s v).toOption.getD st
  | .newScope => st.newScope.2
  | .newScopeWith slots => (st.newScopeWith slots).2
  | .bindSlot sc s => (st.bindSlot sc s).2
  | .removeName sc name => (st.removeName sc name).2
  | .slotOrNew sc name cell type => (st.slotOrNew sc name { name := cell, type }).2
  | .writeName sc name v => (st.writeName sc name v).toOption.getD st
  | .assign x c v => (x.assign st c v).toOption.getD st
  | .newFactory => st.newFactory.2
  | .newStatic f name type =>
    if f.index < st.factories.size then (st.newStatic f name type).2 else st
  | .push c sc => (st.push c sc).2
  | .nextModule => st.nextModule.2

/-- The scope in which an operation may take a name away from its slot. -/
def Operation.unfiles? : Operation → Option ScopeId
  | .bindSlot sc _ => some sc
  | .removeName sc _ => some sc
  | _ => none

/-- An assignment that succeeds stores into the first slot under the name. -/
theorem exists_write_of_assign {st st' : Store} {x : FreeVariable} {c : Context} {v : Value}
    (ha : x.assign st c v = .ok st') :
    ∃ s, x.target? st c = some s ∧ st.write s v = .ok st' := by
  rw [FreeVariable.assign] at ha
  split at ha
  · next s hs => exact ⟨s, hs, ha⟩
  · cases ha

/-! ## Elementary changes -/

/-- An elementary change of a store; names are taken away from their slots at most in scopes in
`P`. -/
inductive Change (P : ScopeId → Prop) (st : Store) : Store → Prop where
  | cell (new : Slot) (hcell : new.storage = .cell) : Change P st (st.newSlot new).2
  | static (f : FactoryId) (name : Symbol) (type : SlotType)
      (hf : f.index < st.factories.size) : Change P st (st.newStatic f name type).2
  | factory : Change P st st.newFactory.2
  /-- A slot takes a value. -/
  | value {st' : Store} (s : SlotId) (v : Value) (hw : st.write s v = .ok st') : Change P st st'
  | scope (d : Dict Symbol SlotId) : Change P st (st.newScopeOf d).2
  /-- A slot is filed under a name that is new to the scope. -/
  | file (sc : ScopeId) (name : Symbol) (s : SlotId) (hnew : st.slotIn sc name = none) :
      Change P st (st.setBindings sc ((st.bindings sc).insert name s))
  | bind (sc : ScopeId) (s : SlotId) (hsc : P sc) : Change P st (st.bindSlot sc s).2
  | remove (sc : ScopeId) (name : Symbol) (hsc : P sc) :
      Change P st (st.setBindings sc ((st.bindings sc).erase name))
  | push (c : Context) (sc : ScopeId) : Change P st (st.push c sc).2
  | number : Change P st st.nextModule.2

/-- Changes that lead from one store to another. -/
def Evolves (P : ScopeId → Prop) : Store → Store → Prop := Relation.ReflTransGen (Change P)

namespace Evolves

variable {P : ScopeId → Prop} {st st' st'' : Store}

theorem refl (st : Store) : Evolves P st st := Relation.ReflTransGen.refl

theorem trans (h : Evolves P st st') (h' : Evolves P st' st'') : Evolves P st st'' :=
  Relation.ReflTransGen.trans h h'

theorem of_change (h : Change P st st') : Evolves P st st' := Relation.ReflTransGen.single h

theorem of_eq (h : st' = st) : Evolves P st st' := by
  rw [h]
  exact refl st

/-- What one change keeps is kept. -/
theorem keeps (I : Store → Prop) (hstep : ∀ st st', Change P st st' → I st → I st')
    (h : Evolves P st st') (hi : I st) : I st' := by
  induction h with
  | refl => exact hi
  | tail _ hchange ih => exact hstep _ _ hchange ih

theorem of_write {s : SlotId} {v : Value} (hw : st.write s v = .ok st') : Evolves P st st' :=
  of_change (.value s v hw)

theorem slotOrNew (st : Store) (sc : ScopeId) (name : Symbol) {new : Slot}
    (hcell : new.storage = .cell) : Evolves P st (st.slotOrNew sc name new).2 := by
  rw [Store.slotOrNew]
  split
  · exact refl st
  · next hnew =>
      have hmade : Evolves P st (st.newSlot new).2 := of_change (.cell new hcell)
      exact hmade.trans (of_change (.file sc name ⟨st.slots.size⟩ hnew))

theorem of_writeName {sc : ScopeId} {name : Symbol} {v : Value}
    (hw : st.writeName sc name v = .ok st') : Evolves P st st' :=
  (slotOrNew st sc name rfl).trans (of_write hw)

theorem of_assign {x : FreeVariable} {c : Context} {v : Value}
    (ha : x.assign st c v = .ok st') : Evolves P st st' := by
  obtain ⟨s, -, hw⟩ := exists_write_of_assign ha
  exact of_write hw

theorem removeName (st : Store) {sc : ScopeId} (name : Symbol) (hsc : P sc) :
    Evolves P st (st.removeName sc name).2 := by
  rw [Store.removeName]
  split
  · exact refl st
  · exact of_change (.remove sc name hsc)

/-- What can fail changes nothing when it does. -/
theorem getD {result : Except RuntimeError Store}
    (h : ∀ st', result = .ok st' → Evolves P st st') :
    Evolves P st (result.toOption.getD st) := by
  cases result with
  | error e => exact refl st
  | ok st' => exact h st' rfl

/-- An operation is made of changes, and takes names away from their slots only where it is said
to. -/
theorem operate (op : Operation) (hP : ∀ sc, op.unfiles? = some sc → P sc) :
    Evolves P st (st.operate op) := by
  cases op with
  | newCell name type => exact of_change (.cell _ rfl)
  | newCellOf name v => exact of_change (.cell _ rfl)
  | write s v => exact getD fun _ => of_write
  | newScope => exact of_change (.scope _)
  | newScopeWith slots => exact of_change (.scope _)
  | bindSlot sc s => exact of_change (.bind sc s (hP sc rfl))
  | removeName sc name => exact removeName st name (hP sc rfl)
  | slotOrNew sc name cell type => exact slotOrNew st sc name rfl
  | writeName sc name v => exact getD fun _ => of_writeName
  | assign x c v => exact getD fun _ => of_assign
  | newFactory => exact of_change .factory
  | newStatic f name type =>
      rw [Store.operate]
      split
      · next hf => exact of_change (.static f name type hf)
      · exact refl st
  | push c sc => exact of_change (.push c sc)
  | nextModule => exact of_change .number

end Evolves

/-! ## Names stay filed -/

variable {st st' st'' : Store}

theorem lt_of_slotIn {sc : ScopeId} {n : Symbol} {s : SlotId} (hs : st.slotIn sc n = some s) :
    sc.index < st.scopes.size := by
  cases hsc : st.scopes.get? sc.index with
  | none =>
      rw [slotIn, bindings, hsc] at hs
      cases hs
  | some scope => exact Heap.lt_size_of_get? hsc

/-- Storing a value touches no scope, and nothing of slots but values. -/
theorem of_write {s : SlotId} {v : Value} (hw : st.write s v = .ok st') :
    st'.scopes = st.scopes ∧ st'.factories = st.factories ∧ st'.generations = st.generations ∧
      st'.slots.size = st.slots.size ∧
      ∀ t, st'.slot t = { st.slot t with value := (st'.slot t).value } := by
  simp only [write, Slot.set] at hw
  split at hw
  · cases hw
  · next new hset =>
      split at hset
      · cases hset
      · cases hset
        cases hw
        refine ⟨rfl, rfl, rfl, Heap.size_modify _ _ _, fun t => ?_⟩
        rw [slot, Heap.get?_modify]
        split
        · next ht =>
            have hts : s = t := by cases s; cases t; simp_all
            subst hts
            cases hget : st.slots.get? s.index <;> simp [slot, hget]
        · rfl

section Filed

variable {P : ScopeId → Prop} {sc : ScopeId} {n : Symbol} {s : SlotId}

theorem slotIn_setBindings_of_ne {sc' : ScopeId} (d : Dict Symbol SlotId) (hne : sc ≠ sc') :
    (st.setBindings sc' d).slotIn sc n = st.slotIn sc n := by
  have hindex : sc'.index ≠ sc.index := fun hi => hne (by cases sc; cases sc'; simp_all)
  rw [slotIn, bindings, setBindings, Heap.get?_modify, if_neg hindex, ← bindings, ← slotIn]

/-- Filing a slot under another name leaves a name filed under its slot. -/
theorem slotIn_insert_of_ne {sc' : ScopeId} {name : Symbol} (t : SlotId)
    (hname : sc = sc' → n ≠ name) (hs : st.slotIn sc n = some s) :
    (st.setBindings sc' ((st.bindings sc').insert name t)).slotIn sc n = some s := by
  by_cases hsc : sc = sc'
  · have hset := bindings_setBindings st ((st.bindings sc).insert name t) sc (lt_of_slotIn hs)
    rw [if_pos rfl] at hset
    rw [← hsc, slotIn, hset, Dict.get?_insert_of_ne _ _ (hname hsc), ← slotIn, hs]
  · rw [slotIn_setBindings_of_ne _ hsc, hs]

/-- One change leaves a name filed under its slot, unless names of the scope may be taken away. -/
theorem Change.slotIn (h : Change P st st') (hsc : ¬ P sc) (hs : st.slotIn sc n = some s) :
    st'.slotIn sc n = some s := by
  cases h with
  | cell new hcell => exact hs
  | static f name type hf => exact hs
  | factory => exact hs
  | value t v hw =>
      have hscopes := (of_write hw).1
      rw [← hs, Store.slotIn, bindings, hscopes, Store.slotIn, bindings]
  | scope d => rw [(extends_newScopeOf st d).slotIn (lt_of_slotIn hs), hs]
  | file sc' name t hnew =>
      refine slotIn_insert_of_ne t (fun heq hn => ?_) hs
      rw [heq, hn, hnew] at hs
      cases hs
  | bind sc' t hsc' =>
      have hne : sc ≠ sc' := fun heq => hsc (heq ▸ hsc')
      exact (slotIn_setBindings_of_ne _ hne).trans hs
  | remove sc' name hsc' =>
      have hne : sc ≠ sc' := fun heq => hsc (heq ▸ hsc')
      exact (slotIn_setBindings_of_ne _ hne).trans hs
  | push c sc' => exact hs
  | number => exact hs

/-- **A name stays filed under its slot** until names of its scope are taken away. -/
theorem Evolves.slotIn (h : Evolves P st st') (hsc : ¬ P sc) (hs : st.slotIn sc n = some s) :
    st'.slotIn sc n = some s :=
  h.keeps (fun st => st.slotIn sc n = some s) (fun _ _ hchange => hchange.slotIn hsc) hs

end Filed

/-! ## What stays of a slot -/

/-- Slots are as they were but for the values they hold; more of them may have been made. -/
structure Retains (st st' : Store) : Prop where
  slot : ∀ s, s.index < st.slots.size → st'.slot s = { st.slot s with value := (st'.slot s).value }
  slots : st.slots.size ≤ st'.slots.size

namespace Retains

theorem of_eq (h : st'.slots = st.slots) : Retains st st' :=
  ⟨fun s _ => by rw [Store.slot, h, Store.slot], Nat.le_of_eq (by rw [h])⟩

theorem of_extends (h : Extends st st') : Retains st st' :=
  ⟨fun s hs => by rw [h.slot s hs], h.slots⟩

theorem trans (h : Retains st st') (h' : Retains st' st'') : Retains st st'' where
  slot s hs := by
    rw [h'.slot s (Nat.lt_of_lt_of_le hs h.slots), h.slot s hs]
  slots := Nat.le_trans h.slots h'.slots

end Retains

theorem Change.retains {P : ScopeId → Prop} (h : Change P st st') : Retains st st' := by
  cases h with
  | cell new hcell => exact .of_extends (extends_newSlot st new)
  | static f name type hf => exact .of_extends (extends_newStatic st f name type)
  | factory => exact .of_eq rfl
  | value s v hw =>
      obtain ⟨-, -, -, hsize, hslot⟩ := of_write hw
      exact ⟨fun t _ => hslot t, Nat.le_of_eq hsize.symm⟩
  | scope d => exact .of_eq rfl
  | file sc name s hnew => exact .of_eq rfl
  | bind sc s hsc => exact .of_eq rfl
  | remove sc name hsc => exact .of_eq rfl
  | push c sc => exact .of_eq rfl
  | number => exact .of_eq rfl

/-- **Slots change at most what they hold**, whatever is done. -/
theorem Evolves.retains {P : ScopeId → Prop} (h : Evolves P st st') : Retains st st' :=
  h.keeps (Retains st) (fun _ _ hchange hr => hr.trans hchange.retains) (.of_eq rfl)

/-! ## Generations -/

/-- The static slots of a store belong to generations whose numbers were given out, and so do its
factories. -/
structure Counted (st : Store) : Prop where
  slot : ∀ s g i, (st.slot s).storage = .static g i → ∃ k < st.generations, g = .ofCount k
  factory : ∀ i f, st.factories.get? i = some f → ∃ k < st.generations, f.generation = .ofCount k

namespace Counted

theorem empty : Counted .empty := by
  refine ⟨fun s g i hs => ?_, fun i f hf => ?_⟩
  · rw [Store.slot, Store.empty, Heap.get?_empty] at hs
    cases hs
  · rw [Store.empty, Heap.get?_empty] at hf
    cases hf

/-- A cell belongs to no generation. -/
theorem newCell {new : Slot} (hc : Counted st) (hcell : new.storage = .cell) :
    Counted (st.newSlot new).2 := by
  refine ⟨fun s g i hs => ?_, hc.factory⟩
  rw [slot_newSlot] at hs
  split at hs
  · rw [hcell] at hs
    cases hs
  · exact hc.slot s g i hs

theorem newFactory (hc : Counted st) : Counted st.newFactory.2 := by
  have hold : ∀ {g : GenerationId}, (∃ k < st.generations, g = .ofCount k) →
      ∃ k < st.newFactory.2.generations, g = .ofCount k := fun ⟨k, hk, hg⟩ =>
    ⟨k, Nat.lt_succ_of_lt hk, hg⟩
  refine ⟨fun s g i hs => hold (hc.slot s g i hs), fun i f hf => ?_⟩
  rw [Store.newFactory, Heap.get?_add] at hf
  split at hf
  · cases hf
    exact ⟨st.generations, Nat.lt_succ_self _, rfl⟩
  · exact hold (hc.factory i f hf)

/-- A static slot is of the generation of its factory. -/
theorem newStatic (hc : Counted st) {f : FactoryId} (hf : f.index < st.factories.size)
    (name : Symbol) (type : SlotType) : Counted (st.newStatic f name type).2 := by
  have hcounted : ∃ k < st.generations, (st.factory f).generation = .ofCount k := by
    cases hget : st.factories.get? f.index with
    | none => exact absurd (Heap.get?_eq_none_iff.1 hget) (Nat.not_le.2 hf)
    | some old =>
        have hold : st.factory f = old := by rw [Store.factory, hget, Option.getD_some]
        rw [hold]
        exact hc.factory f.index old hget
  refine ⟨fun s g i hs => ?_, fun i made hmade => ?_⟩
  · rw [slot_newStatic] at hs
    split at hs
    · cases hs
      exact hcounted
    · exact hc.slot s g i hs
  · rw [Store.newStatic, Heap.get?_modify] at hmade
    split at hmade
    · obtain ⟨old, -, rfl⟩ := Option.map_eq_some_iff.1 hmade
      exact hcounted
    · exact hc.factory i made hmade

theorem change {P : ScopeId → Prop} (hc : Counted st) (h : Change P st st') : Counted st' := by
  cases h with
  | cell new hcell => exact hc.newCell hcell
  | static f name type hf => exact hc.newStatic hf name type
  | factory => exact hc.newFactory
  | value s v hw =>
      obtain ⟨-, hfactories, hgenerations, -, hslot⟩ := of_write hw
      refine ⟨fun t g i ht => ?_, fun i f hf => ?_⟩
      · rw [hgenerations]
        exact hc.slot t g i (by rwa [hslot t] at ht)
      · rw [hgenerations]
        exact hc.factory i f (hfactories ▸ hf)
  | scope d => exact ⟨hc.slot, hc.factory⟩
  | file sc name s hnew => exact ⟨hc.slot, hc.factory⟩
  | bind sc s hsc => exact ⟨hc.slot, hc.factory⟩
  | remove sc name hsc => exact ⟨hc.slot, hc.factory⟩
  | push c sc => exact ⟨hc.slot, hc.factory⟩
  | number => exact ⟨hc.slot, hc.factory⟩

/-- **Generations are counted**, whatever is done. -/
theorem evolves {P : ScopeId → Prop} (hc : Counted st) (h : Evolves P st st') : Counted st' :=
  h.keeps Counted (fun _ _ hchange hc => hc.change hchange) hc

/-- The next generation is that of no slot there is. -/
theorem next_free (hc : Counted st) (hbound : st.generations < UInt32.size) {s : SlotId}
    {g : GenerationId} {i : Nat} (hs : (st.slot s).storage = .static g i) :
    g ≠ .ofCount st.generations := by
  intro hg
  obtain ⟨k, hlt, hk⟩ := hc.slot s g i hs
  have heq := GenerationId.ofCount_inj (Nat.lt_trans hlt hbound) hbound (hk.symm.trans hg)
  exact Nat.ne_of_lt hlt heq

end Counted

end Polyglot.Store
