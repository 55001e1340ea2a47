import Mathlib.Data.List.Nodup
import Polyglot.Proofs.Guest.Linkage
import Polyglot.Proofs.Store.Static

/-!
# Polyglot.Proofs.Guest.StaticSlots

Static slots of different origin stay apart.  Three tables have to agree on them while factories,
linked modules and programs come and go in any order:

```
factory.slots     the slots that one factory handed out, oldest first
retained          the slots that all factories handed out, oldest first
generations       how many factories there are, and the number that the next one takes
```

A `History` is a store with two records of how it came about: which factory handed out which slot,
and which slot accepted which value.  Every act adds to the records and keeps the tables in
agreement with them (`Agrees.act`), and therefore they agree after all acts (`Agrees.of_acts`).

The number of the factory and the place that a slot has in its list tell the slot from all others
(`Agrees.eq_of_storage_eq`).  So no name is needed to say what a slot holds: it is the last value
that this very slot accepted (`static_slots_apart`).
-/

namespace Polyglot.Store

/-! ## Acts and their record -/

/-- Something that is done while static slots are made and used: an operation on the store, or the
linking of declarations. -/
inductive Act where
  | operation (op : Operation)
  | link (ds : List Declaration)

/-- A store with the record of how it came about. -/
structure History where
  store : Store
  /-- The static slots that were handed out, oldest first, each with its factory. -/
  made : List (FactoryId × SlotId)
  /-- The values that slots accepted, oldest first. -/
  taken : List (SlotId × Value)

namespace History

/-- Nothing happened. -/
def empty : History := ⟨.empty, [], []⟩

/-- Do something and put it on record. -/
def act (h : History) : Act → History
  | .operation op =>
    let result := h.store.attempt op
    { store := result.2
      made := h.made ++ op.makes h.store
      taken := h.taken ++ accepted (op.stores? h.store) result }
  | .link ds =>
    let (linkage, store) := Linkage.link h.store ds
    { store
      made := h.made ++ linkage.globals.map fun g => (h.store.newFactory.1, g.slot)
      taken := h.taken }

/-- What happened when all of it is done, one after the other. -/
def of (acts : List Act) : History := acts.foldl act .empty

end History

/-! ## Tables and record -/

variable {st : Store}

/-- The tables of static slots agree with the record, and slots hold what they accepted last. -/
structure Agrees (st : Store) (made : List (FactoryId × SlotId)) (taken : List (SlotId × Value)) :
    Prop where
  retained : st.retained.toList = made.map Prod.snd
  distinct : (made.map Prod.snd).Nodup
  bounds : ∀ p ∈ made, p.1.index < st.factories.size ∧ p.2.index < st.slots.size
  slots : ∀ f, (st.factory f).slots = (made.filter fun p => p.1 = f).map Prod.snd
  storage : ∀ f (i : Nat) s, (st.factory f).slots[i]? = some s →
    (st.slot s).storage = .static (st.factory f).generation i
  generation : ∀ f, f.index < st.factories.size →
    (st.factory f).generation = .ofCount f.index
  generations : st.generations = st.factories.size
  stored : ∀ p ∈ taken, p.1.index < st.slots.size
  read : ∀ p ∈ made, st.read p.2 = lastTaken taken p.2

namespace Agrees

variable {made : List (FactoryId × SlotId)} {taken : List (SlotId × Value)}

theorem empty : Agrees .empty [] [] where
  retained := rfl
  distinct := List.nodup_nil
  bounds p hp := nomatch hp
  slots f := slots_factory_of_ge (Nat.zero_le _)
  storage f i s hs := by
    have hnone : (Store.empty.factory f).slots = [] := slots_factory_of_ge (Nat.zero_le _)
    rw [hnone] at hs
    cases hs
  generation f hf := absurd hf (Nat.not_lt_zero _)
  generations := rfl
  stored p hp := nomatch hp
  read p hp := nomatch hp

/-- What a factory lists was handed out by it. -/
theorem mem_made (ha : Agrees st made taken) {f : FactoryId} {i : Nat} {s : SlotId}
    (hs : (st.factory f).slots[i]? = some s) : (f, s) ∈ made := by
  have hmem := List.mem_of_getElem? hs
  rw [ha.slots f] at hmem
  obtain ⟨p, hp, rfl⟩ := List.mem_map.1 hmem
  obtain ⟨hp, hf⟩ := List.mem_filter.1 hp
  rwa [← of_decide_eq_true hf]

theorem lt_of_listed (ha : Agrees st made taken) {f : FactoryId} {i : Nat} {s : SlotId}
    (hs : (st.factory f).slots[i]? = some s) : s.index < st.slots.size :=
  (ha.bounds _ (ha.mem_made hs)).2

/-- A slot that is made next has accepted nothing yet. -/
theorem lastTaken_next (ha : Agrees st made taken) : lastTaken taken ⟨st.slots.size⟩ = none := by
  refine lastTaken_eq_none fun p hp heq => ?_
  have hlt := ha.stored p hp
  rw [heq] at hlt
  exact Nat.lt_irrefl _ hlt

/-- An act that leaves the tables alone, makes more slots at most, and stores what is accepted. -/
theorem of_statics (ha : Agrees st made taken) {st' : Store} {new : List (SlotId × Value)}
    (hstatics : st'.statics = st.statics) (hretains : Retains st st')
    (hread : ∀ s, s.index < st.slots.size → st'.read s = (lastTaken new s).or (st.read s))
    (hnew : ∀ p ∈ new, p.1.index < st'.slots.size) :
    Agrees st' made (taken ++ new) := by
  simp only [statics, Prod.mk.injEq] at hstatics
  obtain ⟨hfactories, hretained, hgenerations⟩ := hstatics
  have hfactory : ∀ f, st'.factory f = st.factory f := fun f => by
    rw [Store.factory, hfactories, Store.factory]
  refine ⟨?_, ha.distinct, fun p hp => ?_, fun f => ?_, fun f i s hs => ?_, fun f hf => ?_, ?_,
    fun p hp => ?_, fun p hp => ?_⟩
  · rw [hretained]
    exact ha.retained
  · have hmade := ha.bounds p hp
    rw [hfactories]
    exact ⟨hmade.1, Nat.lt_of_lt_of_le hmade.2 hretains.slots⟩
  · rw [hfactory]
    exact ha.slots f
  · rw [hfactory] at hs ⊢
    rw [hretains.slot s (ha.lt_of_listed hs)]
    exact ha.storage f i s hs
  · rw [hfactories] at hf
    rw [hfactory]
    exact ha.generation f hf
  · rw [hgenerations, hfactories]
    exact ha.generations
  · rcases List.mem_append.1 hp with hold | hnow
    · exact Nat.lt_of_lt_of_le (ha.stored p hold) hretains.slots
    · exact hnew p hnow
  · rw [lastTaken_append, hread p.2 (ha.bounds p hp).2, ha.read p hp]

/-- A new factory takes the next generation and lists no slots. -/
theorem newFactory (ha : Agrees st made taken) : Agrees st.newFactory.2 made taken := by
  have hold : ∀ p ∈ made, p.1.index ≠ st.factories.size := fun p hp =>
    Nat.ne_of_lt (ha.bounds p hp).1
  have hsize : st.newFactory.2.factories.size = st.factories.size + 1 := Heap.size_add _ _
  refine ⟨ha.retained, ha.distinct, fun p hp => ?_, fun f => ?_, fun f i s hs => ?_,
    fun f hf => ?_, ?_, ha.stored, ha.read⟩
  · have hmade := ha.bounds p hp
    exact ⟨by omega, hmade.2⟩
  · rw [factory_newFactory]
    split
    · next hf =>
        have hnil : (made.filter fun p => p.1 = f) = [] := by
          refine List.filter_eq_nil_iff.2 fun p hp heq => hold p hp ?_
          rw [of_decide_eq_true heq, hf]
        rw [hnil, List.map_nil]
    · exact ha.slots f
  · rw [factory_newFactory] at hs ⊢
    split at hs
    · cases hs
    · next hf =>
        rw [if_neg hf]
        exact ha.storage f i s hs
  · rw [factory_newFactory]
    split
    · next hnew => rw [hnew, ha.generations]
    · next hne => exact ha.generation f (by omega)
  · rw [hsize, ← ha.generations]
    rfl

/-- The slots of all factories know their places when one more is made, and so does this one. -/
theorem storage_newStatic (ha : Agrees st made taken) {f : FactoryId}
    (hf : f.index < st.factories.size) (name : Symbol) (type : SlotType) {f' : FactoryId} {i : Nat}
    {s : SlotId} (hs : ((st.newStatic f name type).2.factory f').slots[i]? = some s) :
    ((st.newStatic f name type).2.slot s).storage =
      .static ((st.newStatic f name type).2.factory f').generation i := by
  rw [factory_newStatic hf] at hs ⊢
  rw [slot_newStatic]
  by_cases hff : f' = f
  · subst hff
    rw [if_pos rfl] at hs ⊢
    rcases getElem?_concat_cases hs with hold | ⟨hi, rfl⟩
    · rw [if_neg (Nat.ne_of_lt (ha.lt_of_listed hold))]
      exact ha.storage f' i s hold
    · rw [if_pos rfl, hi]
  · rw [if_neg hff] at hs ⊢
    rw [if_neg (Nat.ne_of_lt (ha.lt_of_listed hs))]
    exact ha.storage f' i s hs

/-- A new static slot is the next one of its factory, and it holds nothing. -/
theorem newStatic (ha : Agrees st made taken) {f : FactoryId} (hf : f.index < st.factories.size)
    (name : Symbol) (type : SlotType) :
    Agrees (st.newStatic f name type).2 (made ++ [(f, (st.newStatic f name type).1)]) taken := by
  have hnew : (st.newStatic f name type).1 = ⟨st.slots.size⟩ := rfl
  have hslots : (st.newStatic f name type).2.slots.size = st.slots.size + 1 := Heap.size_add _ _
  have hfactories : (st.newStatic f name type).2.factories.size = st.factories.size :=
    Heap.size_modify _ _ _
  rw [hnew]
  refine ⟨?_, ?_, fun p hp => ?_, fun f' => ?_, fun f' i s => ha.storage_newStatic hf name type,
    fun f' hf' => ?_, ?_, fun p hp => ?_, fun p hp => ?_⟩
  · have hretained : (st.newStatic f name type).2.retained =
        st.retained.push ⟨st.slots.size⟩ := rfl
    rw [hretained, Array.toList_push, ha.retained, List.map_append, List.map_singleton]
  · rw [List.map_append, List.map_singleton, List.nodup_append]
    refine ⟨ha.distinct, List.nodup_singleton _, fun s hs t ht heq => ?_⟩
    obtain ⟨p, hp, rfl⟩ := List.mem_map.1 hs
    have hlt := (ha.bounds p hp).2
    rw [heq, List.mem_singleton.1 ht] at hlt
    exact Nat.lt_irrefl _ hlt
  · rw [hfactories, hslots]
    rcases List.mem_append.1 hp with hold | hnow
    · have hmade := ha.bounds p hold
      exact ⟨hmade.1, by omega⟩
    · rw [List.mem_singleton.1 hnow]
      exact ⟨hf, Nat.lt_succ_self _⟩
  · -- The new entry of the record passes the filter of its own factory only.
    rw [factory_newStatic hf, List.filter_append, List.map_append, ← ha.slots f']
    by_cases hff : f' = f
    · simp [hff]
    · simp [hff, Ne.symm hff]
  · rw [factory_newStatic hf]
    rw [hfactories] at hf'
    split
    · next hff =>
        rw [hff]
        exact ha.generation f hf
    · exact ha.generation f' hf'
  · rw [hfactories, ← ha.generations]
    rfl
  · have hlt := ha.stored p hp
    omega
  · rcases List.mem_append.1 hp with hold | hnow
    · rw [(extends_newStatic st f name type).read (ha.bounds p hold).2]
      exact ha.read p hold
    · rw [List.mem_singleton.1 hnow, ha.lastTaken_next, Store.read, slot_newStatic, if_pos rfl]

/-- Going through declarations hands out the slots of the globals that are added. -/
theorem extend (ha : Agrees st made taken) {f : FactoryId} (hf : f.index < st.factories.size)
    (ds : List Declaration) (known : List LinkedGlobal) :
    ∃ new, (Linkage.extend f known st ds).1 = known ++ new ∧
      Agrees (Linkage.extend f known st ds).2 (made ++ new.map fun g => (f, g.slot)) taken := by
  induction ds generalizing known st made with
  | nil => exact ⟨[], by simp [Linkage.extend], by simpa [Linkage.extend] using ha⟩
  | cons d ds ih =>
      rw [Linkage.extend]
      split
      · exact ih ha hf known
      · have hsize : (st.newStatic f d.name d.type).2.factories.size = st.factories.size :=
          Heap.size_modify _ _ _
        obtain ⟨new, hglobals, hagrees⟩ := ih (ha.newStatic hf d.name d.type) (hsize ▸ hf)
          (known ++ [⟨d.name, (st.newStatic f d.name d.type).1, d.flags⟩])
        refine ⟨⟨d.name, (st.newStatic f d.name d.type).1, d.flags⟩ :: new, ?_, ?_⟩
        · rw [hglobals, List.append_assoc, List.singleton_append]
        · rwa [List.append_assoc] at hagrees

theorem link (ha : Agrees st made taken) (ds : List Declaration) :
    Agrees (Linkage.link st ds).2
      (made ++ (Linkage.link st ds).1.globals.map fun g => (st.newFactory.1, g.slot)) taken := by
  have hf : st.newFactory.1.index < st.newFactory.2.factories.size := by simp [Store.newFactory]
  obtain ⟨new, hglobals, hagrees⟩ := ha.newFactory.extend hf ds []
  have hnew : (Linkage.link st ds).1.globals = new := hglobals
  rw [hnew]
  exact hagrees

theorem attempt (ha : Agrees st made taken) (op : Operation) :
    Agrees (st.attempt op).2 (made ++ op.makes st)
      (taken ++ accepted (op.stores? st) (st.attempt op)) := by
  rcases statics_attempt st op with rfl | ⟨f, name, type, rfl, hf⟩ | ⟨hstatics, hmakes⟩
  · have hmakes : Operation.makes st .newFactory = [] := rfl
    have htakes : accepted (Operation.stores? st .newFactory) (st.attempt .newFactory) = [] := rfl
    rw [hmakes, htakes, List.append_nil, List.append_nil]
    exact ha.newFactory
  · have hmakes : Operation.makes st (.newStatic f name type) =
        [(f, (st.newStatic f name type).1)] := if_pos hf
    have htakes : accepted (Operation.stores? st (.newStatic f name type))
        (st.attempt (.newStatic f name type)) = [] := rfl
    have hleft : (st.attempt (.newStatic f name type)).2 = (st.newStatic f name type).2 := if_pos hf
    rw [hmakes, htakes, hleft, List.append_nil]
    exact ha.newStatic hf name type
  · rw [hmakes, List.append_nil]
    have hretains : Retains st (st.attempt op).2 := by
      rw [attempt_eq]
      exact (Evolves.operate (P := fun _ => True) op fun _ _ => trivial).retains
    exact ha.of_statics hstatics hretains (fun s hs => read_attempt op hs) fun p hp =>
      lt_of_mem_accepted hp

/-- One more act keeps the tables in agreement with the record. -/
theorem act {h : History} (ha : Agrees h.store h.made h.taken) (a : Act) :
    Agrees (h.act a).store (h.act a).made (h.act a).taken := by
  cases a with
  | operation op => exact ha.attempt op
  | link ds => exact ha.link ds

theorem foldl {h : History} (ha : Agrees h.store h.made h.taken) (acts : List Act) :
    Agrees (acts.foldl History.act h).store (acts.foldl History.act h).made
      (acts.foldl History.act h).taken := by
  induction acts generalizing h with
  | nil => exact ha
  | cons a acts ih => exact ih (ha.act a)

/-- **The tables agree with the record** after all acts. -/
theorem of_acts (acts : List Act) :
    Agrees (History.of acts).store (History.of acts).made (History.of acts).taken :=
  empty.foldl acts

/-! ## Telling slots apart -/

/-- A slot that was handed out has a place in the list of its factory, and the number of the factory
and the place are its own. -/
theorem exists_place (ha : Agrees st made taken) {p : FactoryId × SlotId} (hp : p ∈ made) :
    ∃ i : Nat, (st.factory p.1).slots[i]? = some p.2 ∧
      (st.slot p.2).storage = .static (.ofCount p.1.index) i := by
  have hlisted : p.2 ∈ (st.factory p.1).slots := by
    rw [ha.slots p.1]
    exact List.mem_map_of_mem (List.mem_filter.2 ⟨hp, decide_eq_true rfl⟩)
  obtain ⟨i, hi⟩ := List.mem_iff_getElem?.1 hlisted
  refine ⟨i, hi, ?_⟩
  rw [← ha.generation p.1 (ha.bounds p hp).1]
  exact ha.storage p.1 i p.2 hi

/-- Slots that are alike in generation and place are the same slot, while there are numbers for
generations. -/
theorem eq_of_storage_eq (ha : Agrees st made taken) (hbound : st.generations ≤ UInt32.size)
    {p q : FactoryId × SlotId} (hp : p ∈ made) (hq : q ∈ made)
    (heq : (st.slot p.2).storage = (st.slot q.2).storage) : p = q := by
  obtain ⟨i, hi, hpi⟩ := ha.exists_place hp
  obtain ⟨j, hj, hqj⟩ := ha.exists_place hq
  have hlt : ∀ r ∈ made, r.1.index < UInt32.size := fun r hr =>
    Nat.lt_of_lt_of_le (ha.bounds r hr).1 (ha.generations ▸ hbound)
  rw [hpi, hqj] at heq
  obtain ⟨hgeneration, rfl⟩ := Storage.static.inj heq
  -- A factory was made for each generation, so its number is that of the generation.
  have hindex := GenerationId.ofCount_inj (hlt p hp) (hlt q hq) hgeneration
  have hfactory : p.1 = q.1 := congrArg FactoryId.mk hindex
  have hslot : p.2 = q.2 := by
    rw [hfactory] at hi
    exact Option.some.inj (hi.symm.trans hj)
  exact Prod.ext hfactory hslot

end Agrees

/-- **Static slots never alias.**  Factories are made, slots are asked of them, declarations are
linked, and values are stored, by these and by all other operations, in any order.  Then

* the slots that are kept for good are those that were handed out, in this order, no two of them are
  the same, and no two are alike in generation and place;
* another request to a factory raises their number by one;
* a factory lists exactly the slots that it handed out, in this order, and each of them belongs to
  the generation of the factory and knows its place in the list;
* a slot holds the last value that this very slot accepted, or nothing if it accepted none. -/
theorem static_slots_apart (acts : List Act) :
    let h := History.of acts
    let st := h.store
    st.retained.toList = h.made.map Prod.snd ∧
    (h.made.map Prod.snd).Nodup ∧
    (st.generations ≤ UInt32.size → (h.made.map fun p => (st.slot p.2).storage).Nodup) ∧
    (∀ f name type, f.index < st.factories.size →
      (st.attempt (.newStatic f name type)).2.retained.size = st.retained.size + 1) ∧
    (∀ f, (st.factory f).slots = (h.made.filter fun p => p.1 = f).map Prod.snd) ∧
    (∀ f (i : Nat) s, (st.factory f).slots[i]? = some s →
      (st.slot s).storage = .static (st.factory f).generation i) ∧
    ∀ p ∈ h.made, st.read p.2 = lastTaken h.taken p.2 := by
  intro h st
  have ha : Agrees st h.made h.taken := Agrees.of_acts acts
  refine ⟨ha.retained, ha.distinct, fun hbound => ?_, fun f name type hf => ?_, ha.slots,
    ha.storage, ha.read⟩
  · have hmade : h.made.Nodup := List.Nodup.of_map Prod.snd ha.distinct
    exact hmade.map_on fun p hp q hq heq => ha.eq_of_storage_eq hbound hp hq heq
  · have hleft : (st.attempt (.newStatic f name type)).2 = (st.newStatic f name type).2 := if_pos hf
    rw [hleft]
    exact Array.size_push _

/-- Two factories and a linked module have a slot called `x` each.  The second one accepts an
integer and refuses a text. -/
def threeOfOneName : List Act :=
  [.operation .newFactory, .operation .newFactory, .operation (.newStatic ⟨0⟩ (.named "x") .any),
    .operation (.newStatic ⟨1⟩ (.named "x") (.of .int)), .link [{ name := .named "x" }],
    .operation (.write ⟨1⟩ (.int 3)), .operation (.write ⟨1⟩ (.str "w"))]

/-- The three slots are told apart, and the integer is in the second one only. -/
theorem static_slots_apart_threeOfOneName :
    let h := History.of threeOfOneName
    h.made = [(⟨0⟩, ⟨0⟩), (⟨1⟩, ⟨1⟩), (⟨2⟩, ⟨2⟩)] ∧
    (h.made.map fun p => (h.store.slot p.2).storage).Nodup ∧
    (h.store.attempt (.newStatic ⟨2⟩ (.named "x") .any)).2.retained.size = 4 ∧
    (h.store.slot ⟨2⟩).storage = .static (h.store.factory ⟨2⟩).generation 0 ∧
    h.store.read ⟨0⟩ = none ∧ h.store.read ⟨1⟩ = some (.int 3) := by
  intro h
  obtain ⟨-, -, hplaces, hmore, -, hstorage, hread⟩ := static_slots_apart threeOfOneName
  have hmade : h.made = [(⟨0⟩, ⟨0⟩), (⟨1⟩, ⟨1⟩), (⟨2⟩, ⟨2⟩)] := rfl
  refine ⟨hmade, hplaces (by decide), hmore ⟨2⟩ _ _ (by decide), hstorage ⟨2⟩ 0 ⟨2⟩ rfl, ?_, ?_⟩
  · exact hread (⟨0⟩, ⟨0⟩) (by rw [hmade]; simp)
  · exact hread (⟨1⟩, ⟨1⟩) (by rw [hmade]; simp)

end Polyglot.Store
