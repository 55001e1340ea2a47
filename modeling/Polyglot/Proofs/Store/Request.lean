import Polyglot.Proofs.Store.Holding

/-!
# Polyglot.Proofs.Store.Request

What a request for a slot is answered with.  A request names a variable and a type, and the slot
that answers it is meant to store values of that type under that name: from then on it gives no
other value, and it refuses every other value and stays as it is (`Honours`).  A slot is held to
this by its own type (`honours_iff`), and where that type comes from differs:

```
factory of static slots   a new slot, of the type asked for
scope, name is new        a new cell, of the type asked for
scope, name is known      the slot that is filed under the name, of whatever type it is
```

So a request is honoured in the first two cases, and in the last one if any value was asked for or
the slot happens to be of the type (`request_honoured_iff`).  Otherwise the type asked for is
dropped without a word (`request_drops_type`).
-/

namespace Polyglot

theorem exists_value_of_kind (k : Kind) : ∃ v : Value, v.kind = k := by
  cases k with
  | nil => exact ⟨.nil, rfl⟩
  | bool => exact ⟨.bool true, rfl⟩
  | int => exact ⟨.int 0, rfl⟩
  | float => exact ⟨.float default, rfl⟩
  | str => exact ⟨.str "", rfl⟩
  | symbol => exact ⟨.symbol .invalid, rfl⟩
  | list => exact ⟨.list [], rfl⟩
  | procedure => exact ⟨.procedure default, rfl⟩
  | context => exact ⟨.context .empty, rfl⟩
  | native => exact ⟨.native "", rfl⟩

/-- A slot that is not of a kind takes values of other kinds. -/
theorem SlotType.exists_accepted_of_ne {t : SlotType} {k : Kind} (h : t ≠ of k) :
    ∃ v : Value, t.accepts v = true ∧ v.kind ≠ k := by
  cases t with
  | any =>
      obtain ⟨v, hv⟩ := exists_value_of_kind (if k = .nil then .bool else .nil)
      refine ⟨v, rfl, ?_⟩
      rw [hv]
      split
      · next hk => simp [hk]
      · next hk => exact fun heq => hk heq.symm
  | of k' =>
      obtain ⟨v, hv⟩ := exists_value_of_kind k'
      refine ⟨v, accepts_of_iff.2 hv, fun hk => h ?_⟩
      rw [← hv, hk]

namespace Store

variable {st : Store} {s : SlotId} {name : Symbol} {type : SlotType}

/-! ## What is asked of a slot -/

/-- Whether a slot is what a request asked for: it bears the name, and after any further operations
it gives only values of the type, and every other value is refused and changes nothing. -/
structure Honours (st : Store) (s : SlotId) (name : Symbol) (type : SlotType) : Prop where
  named : (st.slot s).name = name
  gives : ∀ later v, (st.run later).read s = some v → type.accepts v = true
  refuses : ∀ later v, type.accepts v = false → ∃ k, type = .of k ∧
    (st.run later).attempt (.write s v) =
      (.error (.slotTypeMismatch name k.name v.typeName), st.run later)

/-- Slots keep their names and their types. -/
theorem slot_run (hs : s.index < st.slots.size) (later : List Operation) :
    (st.run later).slot s = { st.slot s with value := (st.run later).read s } := by
  have hretains := (evolves_foldl st later).retains
  rw [← run_eq] at hretains
  exact hretains.slot s hs

theorem Typed.run (ht : st.Typed) (later : List Operation) : (st.run later).Typed := by
  rw [run_eq]
  exact ht.foldl later

/-- A value that is not of a slot's type is refused, and nothing changes. -/
theorem attempt_write_of_refused {v : Value} (h : (st.slot s).type.accepts v = false) :
    ∃ k, (st.slot s).type = .of k ∧ st.attempt (.write s v) =
      (.error (.slotTypeMismatch (st.slot s).name k.name v.typeName), st) := by
  cases htype : (st.slot s).type with
  | any =>
      rw [htype] at h
      cases h
  | of k =>
      have hkind : v.kind ≠ k := fun hk => by
        rw [htype, SlotType.accepts_of_iff.2 hk] at h
        cases h
      refine ⟨k, rfl, ?_⟩
      rw [attempt, put, SlotType.check_eq_error_iff.2 ⟨k, htype, hkind, rfl⟩]

/-- **A slot is what was asked for exactly when its own type says so**: the type asked for is that
of the slot, or every value is welcome. -/
theorem honours_iff (ht : st.Typed) (hs : s.index < st.slots.size) :
    st.Honours s name type ↔
      (st.slot s).name = name ∧ (type = .any ∨ (st.slot s).type = type) := by
  constructor
  · intro h
    refine ⟨h.named, ?_⟩
    cases type with
    | any => exact .inl rfl
    | of k =>
        right
        refine Decidable.by_contra fun hne => ?_
        -- A value that the slot takes and the type does not would have to be refused.
        obtain ⟨v, haccepts, hkind⟩ := SlotType.exists_accepted_of_ne hne
        have hnot : (SlotType.of k).accepts v = false := by
          rw [Bool.eq_false_iff]
          exact fun hv => hkind (SlotType.accepts_of_iff.1 hv)
        obtain ⟨k', -, hrefused⟩ := h.refuses [] v hnot
        have htaken : (st.attempt (.write s v)).1 = .ok () := by
          rw [attempt, put, SlotType.check_eq_ok_iff.2 haccepts]
        rw [run_eq, List.foldl_nil] at hrefused
        rw [hrefused] at htaken
        cases htaken
  · rintro ⟨hname, htype⟩
    have hkept : ∀ later, ((st.run later).slot s).name = name ∧
        ((st.run later).slot s).type = (st.slot s).type := fun later => by
      rw [slot_run hs later]
      exact ⟨hname, rfl⟩
    refine ⟨hname, fun later v hv => ?_, fun later v hv => ?_⟩
    · rcases htype with rfl | rfl
      · rfl
      · have haccepts := ht.run later s v hv
        rwa [(hkept later).2] at haccepts
    · rcases htype with rfl | rfl
      · cases hv
      · rw [← (hkept later).2] at hv ⊢
        obtain ⟨k, hk, hrefused⟩ := attempt_write_of_refused hv
        rw [(hkept later).1] at hrefused
        exact ⟨k, hk, hrefused⟩

/-! ## What a request is answered with -/

/-- The slot that there is already for a request; a factory of static slots never has one. -/
def SlotFactory.found? (st : Store) (name : Symbol) : SlotFactory → Option SlotId
  | .static _ => none
  | .dictionary sc => st.slotIn sc name

/-- A slot that there is already is the answer, and nothing changes. -/
theorem newFrom_of_found {source : SlotFactory} (h : source.found? st name = some s)
    (type : SlotType) : st.newFrom name type source = (s, st) := by
  cases source with
  | static f => cases h
  | dictionary sc => exact slotOrNew_of_some _ h

/-- Otherwise a new slot is made, of the name and the type, which holds nothing. -/
theorem slot_newFrom_of_new {source : SlotFactory} (h : source.found? st name = none)
    (type : SlotType) :
    let made := st.newFrom name type source
    made.1.index = st.slots.size ∧ made.2.slots.size = st.slots.size + 1 ∧
      ∃ storage, made.2.slot made.1 = { name, type, storage, value := none } := by
  cases source with
  | static f =>
      refine ⟨rfl, Heap.size_add _ _, .static (st.factory f).generation
        (st.factory f).slots.length, ?_⟩
      exact (slot_newStatic st f name type ⟨st.slots.size⟩).trans (if_pos rfl)
  | dictionary sc =>
      have hmade : (st.newFrom name type (.dictionary sc)).1 = ⟨st.slots.size⟩ ∧
          (st.newFrom name type (.dictionary sc)).2.slots.size = st.slots.size + 1 := by
        have hnone : st.slotIn sc name = none := h
        rw [newFrom, newInScope, slotOrNew, hnone]
        exact ⟨rfl, Heap.size_add _ _⟩
      refine ⟨congrArg SlotId.index hmade.1, hmade.2, .cell, ?_⟩
      exact slot_slotOrNew_of_none { name, type } h

theorem Typed.newFrom (ht : st.Typed) (name : Symbol) (type : SlotType) (source : SlotFactory) :
    (st.newFrom name type source).2.Typed := by
  cases source with
  | static f => exact ht.newStatic f name type
  | dictionary sc => exact ht.slotOrNew sc name (Slot.fits_of_none rfl)

/-- **When a request is honoured.**  In a store that operations lead to, a request to a factory or
to a scope is answered with a slot of that name.  The slot is what was asked for exactly when there
was no slot for the name yet, or the one there was has the type asked for, or every value is
welcome.  A slot that was not there yet holds nothing; one that was is handed out as it is. -/
theorem request_honoured_iff {st : Store} (hst : st.Reached) (source : SlotFactory)
    (name : Symbol) (type : SlotType) :
    let made := st.newFrom name type source
    (made.2.slot made.1).name = name ∧
    (made.2.Honours made.1 name type ↔
      ∀ s, source.found? st name = some s → type = .any ∨ (st.slot s).type = type) ∧
    (∀ s, source.found? st name = some s → made = (s, st)) ∧
    (source.found? st name = none → made.1.index = st.slots.size ∧
      made.2.read made.1 = none ∧ (made.2.slot made.1).type = type) := by
  intro made
  have htyped : made.2.Typed := hst.typed.newFrom name type source
  cases hfound : source.found? st name with
  | some s =>
      have hmade : made = (s, st) := newFrom_of_found hfound type
      obtain ⟨hs, hname⟩ : s.index < st.slots.size ∧ (st.slot s).name = name := by
        cases source with
        | static f => cases hfound
        | dictionary sc => exact hst.wellFiled.of_slotIn hfound
      rw [hmade, honours_iff hst.typed hs]
      simp [hname]
  | none =>
      obtain ⟨hindex, hsize, storage, hslot⟩ :
          made.1.index = st.slots.size ∧ made.2.slots.size = st.slots.size + 1 ∧
            ∃ storage, made.2.slot made.1 = { name, type, storage, value := none } :=
        slot_newFrom_of_new hfound type
      have hlt : made.1.index < made.2.slots.size := by omega
      rw [honours_iff htyped hlt, read, hslot]
      simp [hindex]

/-- A factory of static slots, and a scope in which `n` holds a text. -/
def textInScope : Store :=
  Store.empty.run [.newFactory, .newScope, .writeName ⟨0⟩ (.named "n") (.str "w")]

theorem reached_textInScope : textInScope.Reached :=
  ⟨[.newFactory, .newScope, .writeName ⟨0⟩ (.named "n") (.str "w")], by
    simp [Proper, Operation.Proper], (run_eq .empty _).symm⟩

/-- The factory makes a slot of integers called `n`, the scope makes one for a new name, and the
slot of `n` in the scope will do where every value is welcome. -/
theorem request_honoured_iff_textInScope :
    let static := textInScope.newFrom (.named "n") (.of .int) (.static ⟨0⟩)
    let cell := textInScope.newFrom (.named "m") (.of .int) (.dictionary ⟨0⟩)
    let known := textInScope.newFrom (.named "n") .any (.dictionary ⟨0⟩)
    static.2.Honours static.1 (.named "n") (.of .int) ∧
    cell.2.Honours cell.1 (.named "m") (.of .int) ∧
    known.2.Honours known.1 (.named "n") .any ∧ known = (⟨0⟩, textInScope) := by
  have hany := request_honoured_iff reached_textInScope (.dictionary ⟨0⟩) (.named "n") .any
  refine ⟨?_, ?_, hany.2.1.2 fun _ _ => .inl rfl, hany.2.2.1 ⟨0⟩ rfl⟩
  · exact (request_honoured_iff reached_textInScope (.static ⟨0⟩) (.named "n")
      (.of .int)).2.1.2 fun _ hs => nomatch hs
  · exact (request_honoured_iff reached_textInScope (.dictionary ⟨0⟩) (.named "m")
      (.of .int)).2.1.2 fun _ hs => nomatch hs

/-- **A request drops the type of a known name.**  A slot of integers is asked for where `n` holds
a text.  The slot that is handed out gives the text and goes on to take other values that are no
integers. -/
theorem request_drops_type :
    textInScope.Reached ∧
    let made := textInScope.newFrom (.named "n") (.of .int) (.dictionary ⟨0⟩)
    made.2.read made.1 = some (.str "w") ∧
    (made.2.attempt (.write made.1 (.bool true))).1 = .ok () ∧
    (made.2.run [.write made.1 (.bool true)]).read made.1 = some (.bool true) ∧
    ¬ made.2.Honours made.1 (.named "n") (.of .int) := by
  refine ⟨reached_textInScope, rfl, rfl, rfl, fun hhonours => ?_⟩
  have haccepts := hhonours.gives [] (.str "w") rfl
  cases haccepts

end Store

end Polyglot
