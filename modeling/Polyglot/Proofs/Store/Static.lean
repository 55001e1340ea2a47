import Polyglot.Proofs.Store.Holding

/-!
# Polyglot.Proofs.Store.Static

What one operation does to static slots.  It can do two things:

```
newFactory, newStatic        add to the tables of static slots
write, writeName, assign     store a value in a slot
```

Every operation that is neither `newFactory` nor `newStatic` leaves the tables alone
(`statics_attempt`).  A slot that was there holds what it did, unless it is the slot that a value is
to be stored in and accepts the value (`read_attempt`).  Whether it does is up to the slot, and
which slot it is may be a matter of names (`Operation.stores?`).
-/

namespace Polyglot.Store

/-! ## Making and storing -/

namespace Operation

/-- The static slot that an operation hands out, with its factory. -/
def makes (st : Store) : Operation → List (FactoryId × SlotId)
  | .newStatic f name type =>
    if f.index < st.factories.size then [(f, (st.newStatic f name type).1)] else []
  | _ => []

/-- The slot that an operation is to store into, and the value. -/
def stores? (st : Store) : Operation → Option (SlotId × Value)
  | .write s v => some (s, v)
  | .writeName sc name v => some ((st.slotOrNew sc name { name }).1, v)
  | .assign x c v => (x.target? st c).map fun s => (s, v)
  | _ => none

end Operation

/-- What a slot accepts of a value that is to be stored: nothing if storing fails, and nothing if
there is no such slot. -/
def accepted (stored? : Option (SlotId × Value)) :
    Except RuntimeError Unit × Store → List (SlotId × Value)
  | (.error _, _) => []
  | (.ok _, st) => stored?.toList.filter fun p => p.1.index < st.slots.size

/-! ## The last value -/

/-- The last value that a slot took, if it took one. -/
def lastTaken (taken : List (SlotId × Value)) (s : SlotId) : Option Value :=
  (taken.filter fun p => p.1 = s).getLast?.map Prod.snd

theorem lastTaken_append (taken new : List (SlotId × Value)) (s : SlotId) :
    lastTaken (taken ++ new) s = (lastTaken new s).or (lastTaken taken s) := by
  simp [lastTaken, List.getLast?_append, Option.map_or]

theorem lastTaken_singleton (t : SlotId) (v : Value) (s : SlotId) :
    lastTaken [(t, v)] s = if t = s then some v else none := by
  by_cases hts : t = s <;> simp [lastTaken, hts]

theorem lastTaken_eq_none {taken : List (SlotId × Value)} {s : SlotId}
    (h : ∀ p ∈ taken, p.1 ≠ s) : lastTaken taken s = none := by
  have hnil : (taken.filter fun p => p.1 = s) = [] := List.filter_eq_nil_iff.2 (by simpa using h)
  rw [lastTaken, hnil, List.getLast?_nil, Option.map_none]

/-! ## What slots hold after an operation -/

variable {st st' : Store} {s : SlotId}

/-- Only slots that there are accept values. -/
theorem lt_of_mem_accepted {stored? : Option (SlotId × Value)}
    {result : Except RuntimeError Unit × Store} {p : SlotId × Value}
    (hp : p ∈ accepted stored? result) : p.1.index < result.2.slots.size := by
  obtain ⟨outcome, st⟩ := result
  cases outcome with
  | error e => cases hp
  | ok u => exact of_decide_eq_true (List.mem_filter.1 hp).2

/-- A new slot leaves what there was as it is. -/
theorem Extends.read (h : Extends st st') (hs : s.index < st.slots.size) :
    st'.read s = st.read s := by
  rw [Store.read, h.slot s hs, Store.read]

theorem read_slotOrNew (sc : ScopeId) (name : Symbol) (new : Slot)
    (hs : s.index < st.slots.size) : (st.slotOrNew sc name new).2.read s = st.read s := by
  rw [slotOrNew]
  split
  · rfl
  · exact (extends_newSlot st new).read hs

theorem slot_of_write_of_ne {t : SlotId} {v : Value} (hw : st.write t v = .ok st') (hne : s ≠ t) :
    st'.slot s = st.slot s := by
  have hindex : t.index ≠ s.index := fun h => hne (by cases s; cases t; simp_all)
  simp only [write] at hw
  split at hw
  · cases hw
  · cases hw
    rw [slot, Heap.get?_modify_of_ne _ _ hindex, slot]

/-- A value that is put in a slot changes what this slot holds, if it is accepted, and what no other
slot holds. -/
theorem read_put (t : SlotId) (v : Value) (hs : s.index < st.slots.size) :
    (st.put t v).2.read s =
      (lastTaken (accepted (some (t, v)) (st.put t v)) s).or (st.read s) := by
  cases hw : st.write t v with
  | error e =>
      rw [put_eq, settle, hw]
      rfl
  | ok st' =>
      have hput : st.put t v = (.ok (), st') := by
        rw [put_eq, settle, hw]
        rfl
      have hsize : st'.slots.size = st.slots.size := (of_write hw).2.2.2.1
      have haccepted : accepted (some (t, v)) (.ok (), st') =
          if t.index < st.slots.size then [(t, v)] else [] := by
        by_cases ht : t.index < st.slots.size <;> simp [accepted, hsize, ht]
      rw [hput, haccepted]
      by_cases hst : s = t
      · subst hst
        have hself := (writes_of_write hs hw).slot_self
        rw [if_pos hs, lastTaken_singleton, if_pos rfl, read, hself, Option.some_or]
      · have hnone : lastTaken (if t.index < st.slots.size then [(t, v)] else []) s = none := by
          split
          · rw [lastTaken_singleton, if_neg (Ne.symm hst)]
          · rfl
        rw [hnone, Option.none_or, read, slot_of_write_of_ne hw hst, read]

/-- An operation changes what a slot holds to the value that the slot accepts, if it accepts one. -/
theorem read_attempt (op : Operation) (hs : s.index < st.slots.size) :
    (st.attempt op).2.read s =
      (lastTaken (accepted (op.stores? st) (st.attempt op)) s).or (st.read s) := by
  cases op with
  | newCell name type => exact (extends_newSlot st _).read hs
  | newCellOf name v => exact (extends_newSlot st _).read hs
  | write t v => exact read_put t v hs
  | newScope => rfl
  | newScopeWith slots => rfl
  | bindSlot sc t => rfl
  | removeName sc name =>
      have hremove : (st.removeName sc name).2.read s = st.read s := by
        rw [removeName]
        split <;> rfl
      exact hremove
  | slotOrNew sc name cell type => exact read_slotOrNew sc name _ hs
  | writeName sc name v =>
      have hfiled := read_slotOrNew sc name { name } hs
      have hslots : s.index < (st.slotOrNew sc name { name }).2.slots.size :=
        Nat.lt_of_lt_of_le hs
          (Evolves.slotOrNew (P := fun _ => True) st sc name rfl).retains.slots
      have hput := read_put (st.slotOrNew sc name { name }).1 v hslots
      rw [hfiled] at hput
      exact hput
  | assign x c v =>
      cases htarget : x.target? st c with
      | none =>
          simp only [attempt, Operation.stores?, htarget]
          rfl
      | some t =>
          simp only [attempt, Operation.stores?, htarget]
          exact read_put t v hs
  | newFactory => rfl
  | newStatic f name type =>
      have hstatic : (st.operate (.newStatic f name type)).read s = st.read s := by
        rw [operate]
        split
        · exact (extends_newStatic st f name type).read hs
        · rfl
      exact hstatic
  | push c sc => rfl
  | nextModule => rfl

/-! ## The tables of static slots -/

/-- What a store knows of static slots: the factories, the slots that are kept for good, and how
many generations there are. -/
def statics (st : Store) : Heap StaticFactory × Array SlotId × Nat :=
  (st.factories, st.retained, st.generations)

theorem statics_slotOrNew (sc : ScopeId) (name : Symbol) (new : Slot) :
    (st.slotOrNew sc name new).2.statics = st.statics := by
  rw [slotOrNew]
  split <;> rfl

theorem statics_put (st : Store) (t : SlotId) (v : Value) :
    (st.put t v).2.statics = st.statics := by
  rw [put]
  split <;> rfl

/-- An operation makes a factory, or it makes a static slot, or it leaves the tables alone. -/
theorem statics_attempt (st : Store) (op : Operation) :
    op = .newFactory ∨
    (∃ f name type, op = .newStatic f name type ∧ f.index < st.factories.size) ∨
    (st.attempt op).2.statics = st.statics ∧ op.makes st = [] := by
  cases op with
  | newFactory => exact .inl rfl
  | newStatic f name type =>
      rcases Nat.lt_or_ge f.index st.factories.size with hlt | hge
      · exact .inr (.inl ⟨f, name, type, rfl, hlt⟩)
      · have hno : ¬ f.index < st.factories.size := Nat.not_lt.2 hge
        have hsame : st.operate (.newStatic f name type) = st := if_neg hno
        exact .inr (.inr ⟨congrArg statics hsame, if_neg hno⟩)
  | removeName sc name =>
      have hsame : (st.removeName sc name).2.statics = st.statics := by
        rw [removeName]
        split <;> rfl
      exact .inr (.inr ⟨hsame, rfl⟩)
  | slotOrNew sc name cell type => exact .inr (.inr ⟨statics_slotOrNew sc name _, rfl⟩)
  | write t v => exact .inr (.inr ⟨statics_put st t v, rfl⟩)
  | writeName sc name v =>
      have hput := statics_put (st.slotOrNew sc name { name }).2
        (st.slotOrNew sc name { name }).1 v
      exact .inr (.inr ⟨hput.trans (statics_slotOrNew sc name { name }), rfl⟩)
  | assign x c v =>
      refine .inr (.inr ⟨?_, rfl⟩)
      rw [attempt]
      split
      · exact statics_put st _ v
      · rfl
  | _ => exact .inr (.inr ⟨rfl, rfl⟩)

theorem factory_newFactory (f : FactoryId) :
    st.newFactory.2.factory f =
      if f.index = st.factories.size then ⟨.ofCount st.generations, []⟩ else st.factory f := by
  rw [factory, newFactory, Heap.get?_add]
  by_cases hf : f.index = st.factories.size
  · rw [if_pos hf, if_pos hf, Option.getD_some]
  · rw [if_neg hf, if_neg hf, factory]

theorem factory_newStatic {f : FactoryId} (hf : f.index < st.factories.size) (name : Symbol)
    (type : SlotType) (f' : FactoryId) :
    (st.newStatic f name type).2.factory f' =
      if f' = f then ⟨(st.factory f).generation, (st.factory f).slots ++ [⟨st.slots.size⟩]⟩
      else st.factory f' := by
  have hcells : (st.newStatic f name type).2.factories = st.factories.modify f.index fun _ =>
      ⟨(st.factory f).generation, (st.factory f).slots ++ [⟨st.slots.size⟩]⟩ := rfl
  rw [factory, hcells]
  by_cases hff : f' = f
  · subst hff
    cases hget : st.factories.get? f'.index with
    | none => exact absurd (Heap.get?_eq_none_iff.1 hget) (Nat.not_le.2 hf)
    | some old => rw [Heap.get?_modify_self, hget, Option.map_some, Option.getD_some, if_pos rfl]
  · have hindex : f.index ≠ f'.index := fun h => hff (by cases f; cases f'; simp_all)
    rw [Heap.get?_modify_of_ne _ _ hindex, if_neg hff, factory]

/-- A factory that there is not has no slots. -/
theorem slots_factory_of_ge {f : FactoryId} (hf : st.factories.size ≤ f.index) :
    (st.factory f).slots = [] := by
  rw [factory, Heap.get?_eq_none_iff.2 hf]
  rfl

end Polyglot.Store
