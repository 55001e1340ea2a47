import Polyglot.Proofs.Store.Operation

/-!
# Polyglot.Proofs.Store.Filing

A scope files a slot under the slot's own name.  Nothing in the tables says so; it is kept by
everything that files a slot:

```
newScopeWith, bindSlot     take the name from the slot
writeName                  makes a cell of the name that is new
slotOrNew                  makes a cell; a dictionary of slots calls it by the name
```

It holds of every store that operations lead to (`Reached.wellFiled`), if they hand in slots that
there are and call cells by the names that the cells are filed under (`Operation.Proper`).
-/

namespace Polyglot.Store

/-- The names of a dictionary are those of their slots, and these were made. -/
def Filed (st : Store) (d : Dict Symbol SlotId) : Prop :=
  ∀ n s, d.get? n = some s → s.index < st.slots.size ∧ (st.slot s).name = n

/-- Every scope files slots under their own names. -/
def WellFiled (st : Store) : Prop := ∀ sc, st.Filed (st.bindings sc)

variable {st st' : Store}

/-! ## Dictionaries of slots -/

namespace Filed

variable {d : Dict Symbol SlotId}

theorem empty (st : Store) : st.Filed .empty := fun n s hs => by
  rw [Dict.get?_empty] at hs
  cases hs

theorem insert (hd : st.Filed d) {s : SlotId} (hs : s.index < st.slots.size) {name : Symbol}
    (hname : (st.slot s).name = name) : st.Filed (d.insert name s) := by
  intro n t ht
  by_cases hn : n = name
  · rw [hn, Dict.get?_insert_self] at ht
    obtain rfl := Option.some.inj ht
    exact ⟨hs, hname.trans hn.symm⟩
  · rw [Dict.get?_insert_of_ne d s hn] at ht
    exact hd n t ht

theorem erase (hd : st.Filed d) (name : Symbol) : st.Filed (d.erase name) := by
  intro n t ht
  rw [Dict.get?_erase] at ht
  split at ht
  · cases ht
  · exact hd n t ht

/-- Slots keep their names. -/
theorem of_retains (hd : st.Filed d) (hr : Retains st st') : st'.Filed d := by
  intro n s hs
  have hslot := hd n s hs
  refine ⟨Nat.lt_of_lt_of_le hslot.1 hr.slots, ?_⟩
  rw [hr.slot s hslot.1]
  exact hslot.2

theorem fileSlots (hd : st.Filed d) {slots : List SlotId}
    (hslots : ∀ s ∈ slots, s.index < st.slots.size) : st.Filed (st.fileSlots d slots) := by
  induction slots generalizing d with
  | nil => exact hd
  | cons s slots ih =>
      have hrest : ∀ t ∈ slots, t.index < st.slots.size := fun t ht =>
        hslots t (List.mem_cons_of_mem s ht)
      rw [Store.fileSlots]
      split
      · exact ih hd hrest
      · exact ih (hd.insert (hslots s List.mem_cons_self) rfl) hrest

end Filed

/-! ## Scopes -/

/-- Replacing what one scope files leaves every scope with what it filed, or with that. -/
theorem bindings_setBindings_cases (st : Store) (sc sc' : ScopeId) (d : Dict Symbol SlotId) :
    (st.setBindings sc d).bindings sc' = d ∨
      (st.setBindings sc d).bindings sc' = st.bindings sc' := by
  rcases Nat.lt_or_ge sc.index st.scopes.size with hlt | hge
  · rw [bindings_setBindings st d sc' hlt]
    split
    · exact .inl rfl
    · exact .inr rfl
  · have hnone : st.scopes.get? sc.index = none := Heap.get?_eq_none_iff.2 hge
    right
    rw [bindings, setBindings, Heap.get?_modify, bindings]
    split
    · next hsc => rw [← hsc, hnone, Option.map_none]
    · rfl

namespace WellFiled

theorem empty : WellFiled .empty := fun _ => Filed.empty _

/-- The slot that is filed under a name was made and bears the name. -/
theorem of_slotIn (hw : st.WellFiled) {sc : ScopeId} {n : Symbol} {s : SlotId}
    (hs : st.slotIn sc n = some s) : s.index < st.slots.size ∧ (st.slot s).name = n :=
  hw sc n s hs

theorem of_retains (hw : st.WellFiled) (hr : Retains st st') (hscopes : st'.scopes = st.scopes) :
    st'.WellFiled := by
  intro sc
  have hbindings : st'.bindings sc = st.bindings sc := by rw [bindings, hscopes, bindings]
  rw [hbindings]
  exact (hw sc).of_retains hr

theorem setBindings (hw : st.WellFiled) {d : Dict Symbol SlotId} (hd : st.Filed d)
    (sc : ScopeId) : (st.setBindings sc d).WellFiled := by
  intro sc'
  rcases bindings_setBindings_cases st sc sc' d with hnew | hold
  · rw [hnew]
    exact hd
  · rw [hold]
    exact hw sc'

theorem newScopeOf (hw : st.WellFiled) {d : Dict Symbol SlotId} (hd : st.Filed d) :
    (st.newScopeOf d).2.WellFiled := by
  intro sc
  rw [bindings_newScopeOf]
  split
  · exact hd
  · exact hw sc

theorem newSlot (hw : st.WellFiled) (new : Slot) : (st.newSlot new).2.WellFiled :=
  hw.of_retains (.of_extends (extends_newSlot st new)) rfl

theorem write (hw : st.WellFiled) {s : SlotId} {v : Value} (h : st.write s v = .ok st') :
    st'.WellFiled :=
  hw.of_retains (Change.value (P := fun _ => True) s v h).retains (of_write h).1

theorem bindSlot (hw : st.WellFiled) (sc : ScopeId) {s : SlotId} (hs : s.index < st.slots.size) :
    (st.bindSlot sc s).2.WellFiled :=
  hw.setBindings ((hw sc).insert hs rfl) sc

theorem removeName (hw : st.WellFiled) (sc : ScopeId) (name : Symbol) :
    (st.removeName sc name).2.WellFiled := by
  rw [Store.removeName]
  split
  · exact hw
  · exact hw.setBindings ((hw sc).erase name) sc

/-- A cell that is called by the name that is asked for is filed under its own name. -/
theorem slotOrNew (hw : st.WellFiled) (sc : ScopeId) (new : Slot) :
    (st.slotOrNew sc new.name new).2.WellFiled := by
  rw [Store.slotOrNew]
  split
  · exact hw
  · have hmade : (st.newSlot new).2.WellFiled := hw.newSlot new
    refine hmade.setBindings ((hmade sc).insert ?_ ?_) sc
    · simp [Store.newSlot]
    · rw [slot_newSlot]
      simp [Store.newSlot]

/-- What can fail changes nothing when it does. -/
theorem getD {result : Except RuntimeError Store} (hw : st.WellFiled)
    (h : ∀ st', result = .ok st' → st'.WellFiled) : (result.toOption.getD st).WellFiled := by
  cases result with
  | error e => exact hw
  | ok st' => exact h st' rfl

end WellFiled

/-! ## Stores that can be reached -/

/-- Whether an operation hands in slots that there are, and calls a cell by the name that it is
filed under. -/
def Operation.Proper (st : Store) : Operation → Prop
  | .newScopeWith slots => ∀ s ∈ slots, s.index < st.slots.size
  | .bindSlot _ s => s.index < st.slots.size
  | .slotOrNew _ name cell _ => cell = name
  | _ => True

/-- Whether operations are proper where they are done, one after the other. -/
def Proper (st : Store) : List Operation → Prop
  | [] => True
  | op :: ops => op.Proper st ∧ (st.operate op).Proper ops

/-- A store that proper operations lead to. -/
def Reached (st : Store) : Prop :=
  ∃ ops, Proper .empty ops ∧ ops.foldl operate .empty = st

/-- One operation keeps every slot under its own name. -/
theorem WellFiled.operate (hw : st.WellFiled) {op : Operation} (hop : op.Proper st) :
    (st.operate op).WellFiled := by
  cases op with
  | newCell name type => exact hw.newSlot _
  | newCellOf name v => exact hw.newSlot _
  | write s v => exact hw.getD fun _ => hw.write
  | newScope => exact hw.newScopeOf (Filed.empty st)
  | newScopeWith slots => exact hw.newScopeOf ((Filed.empty st).fileSlots hop)
  | bindSlot sc s => exact hw.bindSlot sc hop
  | removeName sc name => exact hw.removeName sc name
  | slotOrNew sc name cell type =>
      obtain rfl : cell = name := hop
      exact hw.slotOrNew sc { name := cell, type }
  | writeName sc name v => exact hw.getD fun _ => (hw.slotOrNew sc { name }).write
  | assign x c v =>
      refine hw.getD fun st' hassign => ?_
      obtain ⟨s, -, hwrite⟩ := exists_write_of_assign hassign
      exact hw.write hwrite
  | newFactory => exact hw.of_retains (.of_eq rfl) rfl
  | newStatic f name type =>
      rw [Store.operate]
      split
      · exact hw.of_retains (.of_extends (extends_newStatic st f name type)) rfl
      · exact hw
  | push c sc => exact hw.of_retains (.of_eq rfl) rfl
  | nextModule => exact hw.of_retains (.of_eq rfl) rfl

theorem WellFiled.foldl (hw : st.WellFiled) {ops : List Operation} (hops : st.Proper ops) :
    (ops.foldl Store.operate st).WellFiled := by
  induction ops generalizing st with
  | nil => exact hw
  | cons op ops ih => exact ih (hw.operate hops.1) hops.2

/-- **Slots are filed under their own names** in every store that operations lead to. -/
theorem Reached.wellFiled (h : Reached st) : st.WellFiled := by
  obtain ⟨ops, hops, rfl⟩ := h
  exact WellFiled.empty.foldl hops

end Polyglot.Store
