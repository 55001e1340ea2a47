import Polyglot.Guest.Linkage

/-!
# Polyglot.Proofs.Store.Frame

What the operations of the store leave alone.  There are two relations between a store and a
later one:

```
Extends st st'       what there was is as it was; more slots and scopes may have been made
Confined sc st st'   only the scope sc changed and slots that are filed in it;
                     what is filed in it besides are new slots
```

Making something extends the store, and a program that works in one scope is confined to it.  Both
relations are reflexive and transitive.  A program does two things to a store: it puts a value in a
slot (`Writes`), and it files a name under a new slot (`Files`).
-/

namespace Polyglot.Store

/-- What there was is as it was. -/
structure Extends (st st' : Store) : Prop where
  slot : ∀ s, s.index < st.slots.size → st'.slot s = st.slot s
  slots : st.slots.size ≤ st'.slots.size
  bindings : ∀ sc, sc.index < st.scopes.size → st'.bindings sc = st.bindings sc
  scopes : st.scopes.size ≤ st'.scopes.size

/-- Only one scope changed, and slots that are filed in it. -/
structure Confined (sc : ScopeId) (st st' : Store) : Prop where
  slot : ∀ s, s.index < st.slots.size → (∀ n, st.slotIn sc n ≠ some s) → st'.slot s = st.slot s
  slots : st.slots.size ≤ st'.slots.size
  bindings : ∀ sc', sc' ≠ sc → st'.bindings sc' = st.bindings sc'
  scopes : st'.scopes.size = st.scopes.size
  filed : ∀ n s, st'.slotIn sc n = some s → st.slotIn sc n = some s ∨ st.slots.size ≤ s.index

variable {st st' st'' : Store} {sc : ScopeId}

namespace Extends

theorem of_eq (hslots : st'.slots = st.slots) (hscopes : st'.scopes = st.scopes) :
    Extends st st' :=
  ⟨fun s _ => by rw [Store.slot, hslots, Store.slot], Nat.le_of_eq (by rw [hslots]),
    fun sc _ => by rw [Store.bindings, hscopes, Store.bindings], Nat.le_of_eq (by rw [hscopes])⟩

theorem refl (st : Store) : Extends st st := of_eq rfl rfl

theorem trans (h : Extends st st') (h' : Extends st' st'') : Extends st st'' :=
  ⟨fun s hs => (h'.slot s (Nat.lt_of_lt_of_le hs h.slots)).trans (h.slot s hs),
    Nat.le_trans h.slots h'.slots,
    fun sc hsc => (h'.bindings sc (Nat.lt_of_lt_of_le hsc h.scopes)).trans (h.bindings sc hsc),
    Nat.le_trans h.scopes h'.scopes⟩

theorem slotIn (h : Extends st st') (hsc : sc.index < st.scopes.size) (n : Symbol) :
    st'.slotIn sc n = st.slotIn sc n := by
  rw [Store.slotIn, h.bindings sc hsc, Store.slotIn]

end Extends

namespace Confined

theorem of_eq (sc : ScopeId) (hslots : st'.slots = st.slots) (hscopes : st'.scopes = st.scopes) :
    Confined sc st st' :=
  ⟨fun s _ _ => by rw [Store.slot, hslots, Store.slot], Nat.le_of_eq (by rw [hslots]),
    fun sc' _ => by rw [Store.bindings, hscopes, Store.bindings], by rw [hscopes],
    fun n s hs => .inl (by rwa [Store.slotIn, Store.bindings, hscopes] at hs)⟩

theorem refl (sc : ScopeId) (st : Store) : Confined sc st st := of_eq sc rfl rfl

theorem trans (h : Confined sc st st') (h' : Confined sc st' st'') : Confined sc st st'' := by
  refine ⟨fun s hs hno => ?_, Nat.le_trans h.slots h'.slots,
    fun sc' hne => (h'.bindings sc' hne).trans (h.bindings sc' hne), h'.scopes.trans h.scopes,
    fun n s hs => ?_⟩
  · refine (h'.slot s (Nat.lt_of_lt_of_le hs h.slots) fun n hn => ?_).trans (h.slot s hs hno)
    rcases h.filed n s hn with hold | hnew
    · exact hno n hold
    · exact Nat.not_le.2 hs hnew
  · rcases h'.filed n s hs with hold | hnew
    · exact h.filed n s hold
    · exact .inr (Nat.le_trans h.slots hnew)

theorem slotIn (h : Confined sc st st') {sc' : ScopeId} (hne : sc' ≠ sc) (n : Symbol) :
    st'.slotIn sc' n = st.slotIn sc' n := by
  rw [Store.slotIn, h.bindings sc' hne, Store.slotIn]

end Confined

/-! ## Slots -/

theorem slot_newSlot (st : Store) (new : Slot) (s : SlotId) :
    (st.newSlot new).2.slot s = if s.index = st.slots.size then new else st.slot s := by
  rw [slot, newSlot, Heap.get?_add]
  by_cases hs : s.index = st.slots.size
  · rw [if_pos hs, if_pos hs, Option.getD_some]
  · rw [if_neg hs, if_neg hs, slot]

theorem extends_newSlot (st : Store) (new : Slot) : Extends st (st.newSlot new).2 := by
  refine ⟨fun s hs => ?_, by simp [newSlot], fun _ _ => rfl, Nat.le_refl _⟩
  rw [slot_newSlot, if_neg (Nat.ne_of_lt hs)]

theorem extends_newFactory (st : Store) : Extends st st.newFactory.2 := .of_eq rfl rfl

theorem slot_newStatic (st : Store) (f : FactoryId) (name : Symbol) (type : SlotType)
    (s : SlotId) : (st.newStatic f name type).2.slot s =
      if s.index = st.slots.size then
        { name, type
          storage := .static (st.factory f).generation (st.factory f).slots.length }
      else st.slot s :=
  slot_newSlot st _ s

theorem extends_newStatic (st : Store) (f : FactoryId) (name : Symbol) (type : SlotType) :
    Extends st (st.newStatic f name type).2 :=
  (extends_newSlot st _).trans (.of_eq rfl rfl)

theorem extends_nextModule (st : Store) : Extends st st.nextModule.2 := .of_eq rfl rfl

theorem extends_moduleContext (st : Store) (m : ModuleId) (sc : ScopeId) :
    Extends st (st.moduleContext m sc).2 := .of_eq rfl rfl

/-! ## Writing -/

/-- Another value is in one slot, and all else is as it was. -/
structure Writes (s : SlotId) (v : Value) (st st' : Store) : Prop where
  slot : ∀ t, st'.slot t = if t = s then { st.slot s with value := some v } else st.slot t
  slots : st'.slots.size = st.slots.size
  scopes : st'.scopes = st.scopes

/-- Storing succeeds only by putting the value in the slot. -/
theorem writes_of_write {s : SlotId} {v : Value} (hs : s.index < st.slots.size)
    (hw : st.write s v = .ok st') : Writes s v st st' := by
  have hnew : st' = { st with
      slots := st.slots.modify s.index fun _ => { st.slot s with value := some v } } := by
    cases hcheck : (st.slot s).type.check (st.slot s).name v with
    | error e => simp [write, Slot.set, hcheck] at hw
    | ok u => simpa [write, Slot.set, hcheck] using hw.symm
  subst hnew
  refine ⟨fun t => ?_, by simp, rfl⟩
  rw [slot, Heap.get?_modify]
  by_cases ht : t = s
  · subst ht
    cases hget : st.slots.get? t.index with
    | none => exact absurd (Heap.get?_eq_none_iff.1 hget) (Nat.not_le.2 hs)
    | some old => simp
  · have hne : s.index ≠ t.index := fun hi => ht (by cases s; cases t; simp_all)
    rw [if_neg hne, if_neg ht, slot]

/-- A slot of any type takes every value. -/
theorem write_any (v : Value) {s : SlotId} (hs : s.index < st.slots.size)
    (hany : (st.slot s).type = .any) : ∃ st', st.write s v = .ok st' ∧ Writes s v st st' := by
  have hcheck : (st.slot s).type.check (st.slot s).name v = .ok () := by
    rw [hany]
    rfl
  have hw : st.write s v = .ok { st with
      slots := st.slots.modify s.index fun _ => { st.slot s with value := some v } } := by
    rw [write, Slot.set, hcheck]
  exact ⟨_, hw, writes_of_write hs hw⟩

namespace Writes

variable {s : SlotId} {v : Value}

theorem bindings (h : Writes s v st st') (sc : ScopeId) : st'.bindings sc = st.bindings sc := by
  rw [Store.bindings, h.scopes, Store.bindings]

theorem slotIn (h : Writes s v st st') (sc : ScopeId) (n : Symbol) :
    st'.slotIn sc n = st.slotIn sc n := by
  rw [Store.slotIn, h.bindings, Store.slotIn]

theorem slot_self (h : Writes s v st st') : st'.slot s = { st.slot s with value := some v } := by
  rw [h.slot, if_pos rfl]

theorem slot_of_ne (h : Writes s v st st') {t : SlotId} (ht : t ≠ s) : st'.slot t = st.slot t := by
  rw [h.slot, if_neg ht]

/-- Writing is confined to a scope in which the slot is filed. -/
theorem confined (h : Writes s v st st') {n : Symbol} (hs : st.slotIn sc n = some s) :
    Confined sc st st' where
  slot t _ hno := h.slot_of_ne fun hts => hno n (hts ▸ hs)
  slots := Nat.le_of_eq h.slots.symm
  bindings sc' _ := h.bindings sc'
  scopes := by rw [h.scopes]
  filed n s hs := .inl (h.slotIn sc n ▸ hs)

end Writes

/-! ## Scopes -/

theorem bindings_setBindings (st : Store) (d : Dict Symbol SlotId) (sc' : ScopeId)
    (hsc : sc.index < st.scopes.size) :
    (st.setBindings sc d).bindings sc' = if sc' = sc then d else st.bindings sc' := by
  rw [bindings, setBindings, Heap.get?_modify]
  by_cases hs : sc' = sc
  · subst hs
    cases hget : st.scopes.get? sc'.index with
    | none => exact absurd (Heap.get?_eq_none_iff.1 hget) (Nat.not_le.2 hsc)
    | some old => simp
  · have hne : sc.index ≠ sc'.index := fun hi => hs (by cases sc; cases sc'; simp_all)
    rw [if_neg hne, if_neg hs, bindings]

theorem bindings_newScopeOf (st : Store) (d : Dict Symbol SlotId) (sc : ScopeId) :
    (st.newScopeOf d).2.bindings sc =
      if sc.index = st.scopes.size then d else st.bindings sc := by
  rw [bindings, newScopeOf, Heap.get?_add]
  by_cases hsc : sc.index = st.scopes.size
  · rw [if_pos hsc, if_pos hsc, Option.getD_some]
  · rw [if_neg hsc, if_neg hsc, bindings]

theorem extends_newScopeOf (st : Store) (d : Dict Symbol SlotId) :
    Extends st (st.newScopeOf d).2 := by
  refine ⟨fun _ _ => rfl, Nat.le_refl _, fun sc hsc => ?_, by simp [newScopeOf]⟩
  rw [bindings_newScopeOf, if_neg (Nat.ne_of_lt hsc)]

/-! ## Names -/

theorem readName_of_slotIn {n : Symbol} {s : SlotId} (hs : st.slotIn sc n = some s) :
    st.readName sc n = (st.slot s).value := by
  rw [readName, hs, Option.bind_some, read]

/-- A name holds what it did, if it is filed under the same slot and the slot is as it was. -/
theorem readName_congr {n : Symbol} (hname : st'.slotIn sc n = st.slotIn sc n)
    (hslot : ∀ s, st.slotIn sc n = some s → st'.slot s = st.slot s) :
    st'.readName sc n = st.readName sc n := by
  cases hs : st.slotIn sc n with
  | none => simp [readName, hname, hs]
  | some s => rw [readName_of_slotIn (hname.trans hs), hslot s hs, readName_of_slotIn hs]

/-- One name more is filed in a scope, under a slot of its own, and all else is as it was. -/
structure Files (sc : ScopeId) (n : Symbol) (new : Slot) (st st' : Store) : Prop where
  slotIn : ∀ m, st'.slotIn sc m = if m = n then some ⟨st.slots.size⟩ else st.slotIn sc m
  slot : ∀ s, st'.slot s = if s.index = st.slots.size then new else st.slot s
  slots : st'.slots.size = st.slots.size + 1
  bindings : ∀ sc', sc' ≠ sc → st'.bindings sc' = st.bindings sc'
  scopes : st'.scopes.size = st.scopes.size

/-- A name that is new to a scope gets a new slot. -/
theorem slotOrNew_of_none {n : Symbol} (new : Slot) (hsc : sc.index < st.scopes.size)
    (hnone : st.slotIn sc n = none) :
    ∃ st', st.slotOrNew sc n new = (⟨st.slots.size⟩, st') ∧ Files sc n new st st' := by
  refine ⟨(st.newSlot new).2.setBindings sc ((st.bindings sc).insert n ⟨st.slots.size⟩), ?_,
    fun m => ?_, slot_newSlot st new, by simp [setBindings, newSlot], fun sc' hne => ?_,
    by simp [setBindings, newSlot]⟩
  · rw [slotOrNew, hnone]
    rfl
  · rw [slotIn, bindings_setBindings (st.newSlot new).2 _ sc (by exact hsc), if_pos rfl,
      Dict.get?_insert, slotIn]
  · rw [bindings_setBindings (st.newSlot new).2 _ sc' (by exact hsc), if_neg hne]
    rfl

namespace Files

variable {n : Symbol} {new : Slot}

theorem slotIn_self (h : Files sc n new st st') : st'.slotIn sc n = some ⟨st.slots.size⟩ := by
  rw [h.slotIn, if_pos rfl]

theorem slotIn_of_ne (h : Files sc n new st st') {m : Symbol} (hm : m ≠ n) :
    st'.slotIn sc m = st.slotIn sc m := by
  rw [h.slotIn, if_neg hm]

theorem slot_new (h : Files sc n new st st') : st'.slot ⟨st.slots.size⟩ = new := by
  rw [h.slot, if_pos rfl]

theorem slot_of_lt (h : Files sc n new st st') {s : SlotId} (hs : s.index < st.slots.size) :
    st'.slot s = st.slot s := by
  rw [h.slot, if_neg (Nat.ne_of_lt hs)]

/-- What a name is filed under: its own new slot, or the slot that it had. -/
theorem cases (h : Files sc n new st st') {m : Symbol} {s : SlotId}
    (hs : st'.slotIn sc m = some s) :
    m = n ∧ s = ⟨st.slots.size⟩ ∨ m ≠ n ∧ st.slotIn sc m = some s := by
  by_cases hm : m = n
  · subst hm
    exact .inl ⟨rfl, Option.some.inj (hs.symm.trans h.slotIn_self)⟩
  · exact .inr ⟨hm, (h.slotIn_of_ne hm).symm.trans hs⟩

theorem confined (h : Files sc n new st st') : Confined sc st st' where
  slot _ hlt _ := h.slot_of_lt hlt
  slots := by rw [h.slots]; exact Nat.le_succ _
  bindings := h.bindings
  scopes := h.scopes
  filed m s hs := by
    rcases h.cases hs with ⟨-, rfl⟩ | ⟨-, hold⟩
    · exact .inr (Nat.le_refl _)
    · exact .inl hold

end Files

end Polyglot.Store
