import Polyglot.Proofs.Store.Filing

/-!
# Polyglot.Proofs.Store.Holding

What slots hold, and what a failure leaves behind.  A slot holds nothing or a value of its type
(`Reached.typed`), and a slot that holds a value never holds nothing again, whether or not a scope
still files it (`Evolves.isSome_read`).

Two operations work in two steps, of which the second can fail:

```
writeName    file a new cell if the name is new, then store
assign       look for the slot, then store
```

`attempt` carries an operation out step by step, so that what was done before a failure stays
done.  It comes to the same as `operate`, which forgets everything about an operation that fails
(`attempt_eq`): a cell that was just made takes every value, so storing fails only when nothing was
filed before.
-/

namespace Polyglot

/-! ## Values and types -/

namespace SlotType

theorem accepts_of_iff {k : Kind} {v : Value} : (of k).accepts v = true ↔ v.kind = k := by
  simp [accepts]

/-- A value that a slot does not take is refused by name: the slot, its kind and the value's. -/
theorem check_eq_error_iff {t : SlotType} {n : Symbol} {v : Value} {e : RuntimeError} :
    t.check n v = .error e ↔
      ∃ k, t = of k ∧ v.kind ≠ k ∧ e = .slotTypeMismatch n k.name v.typeName := by
  cases t with
  | any => simp [check]
  | of k =>
      by_cases hk : v.kind = k
      · simp [check, hk]
      · simp [check, hk, eq_comm (a := e)]

end SlotType

/-- A slot that holds nothing or a value of its type. -/
def Slot.Fits (s : Slot) : Prop := ∀ v, s.value = some v → s.type.accepts v = true

theorem Slot.fits_of_none {s : Slot} (h : s.value = none) : s.Fits := fun v hv => by
  rw [h] at hv
  cases hv

namespace Store

variable {st st' : Store}

/-! ## Storing -/

/-- Storing puts a value of the slot's type in the slot and leaves every other slot alone. -/
theorem slot_of_write {s : SlotId} {v : Value} (hw : st.write s v = .ok st') (t : SlotId) :
    st'.slot t = st.slot t ∨
      st'.slot t = { st.slot t with value := some v } ∧ (st.slot t).type.accepts v = true := by
  rcases Nat.lt_or_ge s.index st.slots.size with hlt | hge
  · have hwrites : Writes s v st st' := writes_of_write hlt hw
    by_cases hts : t = s
    · subst hts
      have hcheck : (st.slot t).type.check (st.slot t).name v = .ok () := by
        cases hc : (st.slot t).type.check (st.slot t).name v with
        | error e => simp [write, Slot.set, hc] at hw
        | ok u => rfl
      exact .inr ⟨hwrites.slot_self, SlotType.check_eq_ok_iff.1 hcheck⟩
    · exact .inl (hwrites.slot_of_ne hts)
  · -- There is no such slot, so nothing is changed.
    left
    have hnone : st.slots.get? s.index = none := Heap.get?_eq_none_iff.2 hge
    simp only [write] at hw
    split at hw
    · cases hw
    · cases hw
      rw [slot, Heap.get?_modify]
      split
      · next ht => rw [← ht, hnone, slot, ← ht, hnone, Option.map_none]
      · rfl

/-- A slot that takes every value refuses none. -/
theorem exists_write_of_any {s : SlotId} (v : Value) (hany : (st.slot s).type = .any) :
    ∃ st', st.write s v = .ok st' := by
  rw [write, Slot.set, hany]
  exact ⟨_, rfl⟩

theorem slotOrNew_of_some {sc : ScopeId} {name : Symbol} {s : SlotId} (new : Slot)
    (hs : st.slotIn sc name = some s) : st.slotOrNew sc name new = (s, st) := by
  rw [slotOrNew, hs]

theorem slot_slotOrNew_of_none {sc : ScopeId} {name : Symbol} (new : Slot)
    (hnone : st.slotIn sc name = none) :
    (st.slotOrNew sc name new).2.slot (st.slotOrNew sc name new).1 = new := by
  have hmade : (st.slotOrNew sc name new).2.slot (st.slotOrNew sc name new).1 =
      (st.newSlot new).2.slot ⟨st.slots.size⟩ := by
    rw [slotOrNew, hnone]
    rfl
  rw [hmade, slot_newSlot, if_pos rfl]

/-! ## Slots hold values of their types -/

/-- Every slot holds nothing or a value of its type. -/
def Typed (st : Store) : Prop := ∀ s, (st.slot s).Fits

namespace Typed

theorem empty : Typed .empty := fun s => by
  apply Slot.fits_of_none
  rw [slot, Store.empty, Heap.get?_empty]
  rfl

theorem of_eq (ht : st.Typed) (h : st'.slots = st.slots) : st'.Typed := fun s => by
  rw [slot, h]
  exact ht s

theorem newSlot (ht : st.Typed) {new : Slot} (hnew : new.Fits) : (st.newSlot new).2.Typed := by
  intro s
  rw [slot_newSlot]
  split
  · exact hnew
  · exact ht s

theorem write (ht : st.Typed) {s : SlotId} {v : Value} (h : st.write s v = .ok st') :
    st'.Typed := by
  intro t
  rcases slot_of_write h t with hsame | ⟨htakes, haccepts⟩
  · rw [hsame]
    exact ht t
  · rw [htakes]
    intro u hu
    obtain rfl : v = u := Option.some.inj hu
    exact haccepts

theorem newStatic (ht : st.Typed) (f : FactoryId) (name : Symbol) (type : SlotType) :
    (st.newStatic f name type).2.Typed := fun s => by
  rw [slot_newStatic]
  split
  · exact Slot.fits_of_none rfl
  · exact ht s

theorem slotOrNew (ht : st.Typed) (sc : ScopeId) (name : Symbol) {new : Slot}
    (hnew : new.Fits) : (st.slotOrNew sc name new).2.Typed := by
  rw [Store.slotOrNew]
  split
  · exact ht
  · exact (ht.newSlot hnew).of_eq rfl

/-- What can fail changes nothing when it does. -/
theorem getD {result : Except RuntimeError Store} (ht : st.Typed)
    (h : ∀ st', result = .ok st' → st'.Typed) : (result.toOption.getD st).Typed := by
  cases result with
  | error e => exact ht
  | ok st' => exact h st' rfl

/-- One operation leaves in every slot what its type allows. -/
theorem operate (ht : st.Typed) (op : Operation) : (st.operate op).Typed := by
  cases op with
  | newCell name type => exact ht.newSlot (Slot.fits_of_none rfl)
  | newCellOf name v => exact ht.newSlot fun _ _ => rfl
  | write s v => exact ht.getD fun _ => ht.write
  | newScope => exact ht.of_eq rfl
  | newScopeWith slots => exact ht.of_eq rfl
  | bindSlot sc s => exact ht.of_eq rfl
  | removeName sc name =>
      rw [Store.operate, Store.removeName]
      split <;> exact ht.of_eq rfl
  | slotOrNew sc name cell type => exact ht.slotOrNew sc name (Slot.fits_of_none rfl)
  | writeName sc name v =>
      exact ht.getD fun _ => (ht.slotOrNew sc name (Slot.fits_of_none rfl)).write
  | assign x c v =>
      refine ht.getD fun st' hassign => ?_
      obtain ⟨s, -, hwrite⟩ := exists_write_of_assign hassign
      exact ht.write hwrite
  | newFactory => exact ht.of_eq rfl
  | newStatic f name type =>
      rw [Store.operate]
      split
      · exact ht.newStatic f name type
      · exact ht
  | push c sc => exact ht.of_eq rfl
  | nextModule => exact ht.of_eq rfl

theorem foldl (ht : st.Typed) (ops : List Operation) : (ops.foldl Store.operate st).Typed := by
  induction ops generalizing st with
  | nil => exact ht
  | cons op ops ih => exact ih (ht.operate op)

end Typed

/-- **Slots hold values of their types** in every store that operations lead to. -/
theorem Reached.typed (h : Reached st) : st.Typed := by
  obtain ⟨ops, -, rfl⟩ := h
  exact Typed.empty.foldl ops

/-! ## A value stays a value -/

/-- Operations are made of changes. -/
theorem evolves_foldl (st : Store) (ops : List Operation) :
    Evolves (fun _ => True) st (ops.foldl operate st) := by
  induction ops generalizing st with
  | nil => exact .refl st
  | cons op ops ih => exact (Evolves.operate op fun _ _ => trivial).trans (ih (st.operate op))

theorem lt_of_isSome_read {s : SlotId} (hs : (st.read s).isSome = true) :
    s.index < st.slots.size := by
  cases hget : st.slots.get? s.index with
  | none =>
      rw [read, slot, hget] at hs
      cases hs
  | some old => exact Heap.lt_size_of_get? hget

/-- What was there before something was made holds what it did. -/
theorem Extends.isSome_read (h : Extends st st') {s : SlotId} (hs : (st.read s).isSome = true) :
    (st'.read s).isSome = true := by
  rw [read, h.slot s (lt_of_isSome_read hs)]
  exact hs

/-- One change takes no value out of a slot without putting another one in. -/
theorem Change.isSome_read {P : ScopeId → Prop} (h : Change P st st') {s : SlotId}
    (hs : (st.read s).isSome = true) : (st'.read s).isSome = true := by
  cases h with
  | cell new hcell => exact (extends_newSlot st new).isSome_read hs
  | static f name type hf => exact (extends_newStatic st f name type).isSome_read hs
  | factory => exact hs
  | value t v hw =>
      rcases slot_of_write hw s with hsame | ⟨htakes, -⟩
      · rw [read, hsame]
        exact hs
      · rw [read, htakes, Option.isSome_some]
  | scope d => exact hs
  | file sc name t hnew => exact hs
  | bind sc t hsc => exact hs
  | remove sc name hsc => exact hs
  | push c sc => exact hs
  | number => exact hs

/-- **A slot that holds a value never holds nothing again**, whatever is done. -/
theorem Evolves.isSome_read {P : ScopeId → Prop} (h : Evolves P st st') {s : SlotId}
    (hs : (st.read s).isSome = true) : (st'.read s).isSome = true :=
  h.keeps (fun st => (st.read s).isSome = true) (fun _ _ hchange => hchange.isSome_read) hs

/-! ## What a failure leaves behind -/

/-- Check a value against the type of a slot, and store it if the check passes. -/
def put (st : Store) (s : SlotId) (v : Value) : Except RuntimeError Unit × Store :=
  match (st.slot s).type.check (st.slot s).name v with
  | .error e => (.error e, st)
  | .ok _ =>
    (.ok (), { st with
      slots := st.slots.modify s.index fun _ => { st.slot s with value := some v } })

/-- Carry out an operation step by step: what was done before a failure stays done. -/
def attempt (st : Store) : Operation → Except RuntimeError Unit × Store
  | .write s v => st.put s v
  | .writeName sc name v =>
    let (s, filed) := st.slotOrNew sc name { name }
    filed.put s v
  | .assign x c v =>
    match x.target? st c with
    | some s => st.put s v
    | none => (.error (.unboundName x.name), st)
  | op => (.ok (), st.operate op)

/-- What an operation reports. -/
def report (st : Store) : Operation → Except RuntimeError Unit
  | .write s v => (st.write s v).map fun _ => ()
  | .writeName sc name v => (st.writeName sc name v).map fun _ => ()
  | .assign x c v => (x.assign st c v).map fun _ => ()
  | _ => .ok ()

/-- What is left of a store by something that may fail, and whether it failed. -/
def settle (st : Store) (result : Except RuntimeError Store) : Except RuntimeError Unit × Store :=
  (result.map fun _ => (), result.toOption.getD st)

theorem put_eq (st : Store) (s : SlotId) (v : Value) : st.put s v = st.settle (st.write s v) := by
  cases hcheck : (st.slot s).type.check (st.slot s).name v <;>
    simp [put, settle, write, Slot.set, hcheck, Except.map, Except.toOption]

/-- Giving a name a value fails only where nothing new was filed. -/
theorem put_slotOrNew (st : Store) (sc : ScopeId) (name : Symbol) (v : Value) :
    (st.slotOrNew sc name { name }).2.put (st.slotOrNew sc name { name }).1 v =
      st.settle (st.writeName sc name v) := by
  have hwrite : st.writeName sc name v =
      (st.slotOrNew sc name { name }).2.write (st.slotOrNew sc name { name }).1 v := rfl
  rw [put_eq, hwrite]
  cases hslot : st.slotIn sc name with
  | some s => rw [slotOrNew_of_some { name } hslot]
  | none =>
      -- The cell is a new one and takes every value, so neither side falls back.
      have htype := congrArg Slot.type (slot_slotOrNew_of_none { name } hslot)
      obtain ⟨st', hst'⟩ := exists_write_of_any v htype
      simp only [settle, hst', Except.toOption, Option.getD_some]

/-- Carried out step by step, an operation reports and leaves what it does as a whole. -/
theorem attempt_eq (st : Store) (op : Operation) :
    st.attempt op = (st.report op, st.operate op) := by
  cases op with
  | write s v => exact put_eq st s v
  | writeName sc name v => exact put_slotOrNew st sc name v
  | assign x c v =>
      have hassign : st.attempt (.assign x c v) = st.settle (x.assign st c v) := by
        cases hs : x.target? st c with
        | none =>
            simp only [attempt, FreeVariable.assign, hs]
            rfl
        | some s =>
            simp only [attempt, FreeVariable.assign, hs]
            exact put_eq st s v
      exact hassign
  | _ => rfl

/-- What fails leaves the store as it is. -/
theorem operate_of_report_error {op : Operation} {e : RuntimeError} (h : st.report op = .error e) :
    st.operate op = st := by
  have hnone : ∀ result : Except RuntimeError Store, result.map (fun _ => ()) = .error e →
      result.toOption.getD st = st := fun result hresult => by
    cases result with
    | error e => rfl
    | ok st' => cases hresult
  cases op with
  | write s v => exact hnone _ h
  | writeName sc name v => exact hnone _ h
  | assign x c v => exact hnone _ h
  | _ => cases h

/-! ## Whole runs -/

/-- Carry out operations one after the other, whether or not they fail. -/
def run (st : Store) (ops : List Operation) : Store :=
  ops.foldl (fun st op => (st.attempt op).2) st

theorem run_eq (st : Store) (ops : List Operation) : st.run ops = ops.foldl operate st := by
  simp only [run, attempt_eq]

/-- **Slots and scopes keep their shape.**  After any operations, failed ones among them,

* every scope files a slot under the slot's own name;
* a slot that takes values of one kind holds nothing or a value of that kind;
* a slot that holds a value holds one after any further operations, filed or not;
* an operation that fails, carried out step by step, leaves the store as it is. -/
theorem run_keeps_shape {ops : List Operation} (hops : Proper .empty ops) :
    let st := Store.empty.run ops
    (∀ sc n s, st.slotIn sc n = some s → (st.slot s).name = n) ∧
    (∀ s k, (st.slot s).type = .of k → st.read s = none ∨ ∃ v, st.read s = some v ∧ v.kind = k) ∧
    (∀ s, (st.read s).isSome = true → ∀ later, ((st.run later).read s).isSome = true) ∧
    (∀ op e, (st.attempt op).1 = .error e → (st.attempt op).2 = st) ∧
    ∀ op, st.attempt op = (st.report op, st.operate op) := by
  intro st
  have hst : st.Reached := ⟨ops, hops, (run_eq .empty ops).symm⟩
  refine ⟨fun sc n s hs => (hst.wellFiled.of_slotIn hs).2, fun s k htype => ?_,
    fun s hs later => ?_, fun op e h => ?_, attempt_eq st⟩
  · cases hread : st.read s with
    | none => exact .inl rfl
    | some v =>
        have haccepts := hst.typed s v hread
        rw [htype] at haccepts
        exact .inr ⟨v, rfl, SlotType.accepts_of_iff.1 haccepts⟩
  · rw [run_eq]
    exact (evolves_foldl st later).isSome_read hs
  · rw [attempt_eq] at h ⊢
    exact operate_of_report_error h

/-- A scope in which `x` takes integers.  It refuses a text, takes a 1, and is taken out. -/
def removedCell : List Operation :=
  [.newScope, .newCell (.named "x") (.of .int), .bindSlot ⟨0⟩ ⟨0⟩,
    .writeName ⟨0⟩ (.named "x") (.str "w"), .writeName ⟨0⟩ (.named "x") (.int 1),
    .removeName ⟨0⟩ (.named "x")]

theorem proper_removedCell : Proper .empty removedCell := by
  simp only [removedCell, Proper, Operation.Proper, true_and, and_true]
  decide

/-- The cell that no scope files any more holds an integer, also when its name is given a text
later, and it still refuses a text itself. -/
theorem run_keeps_shape_removedCell :
    let st := Store.empty.run removedCell
    (∃ v, st.read ⟨0⟩ = some v ∧ v.kind = .int) ∧
    ((st.run [.writeName ⟨0⟩ (.named "x") (.str "w")]).read ⟨0⟩).isSome = true ∧
    (st.attempt (.write ⟨0⟩ (.str "w"))).2 = st := by
  obtain ⟨-, htyped, hstays, hfails, -⟩ := run_keeps_shape proper_removedCell
  refine ⟨?_, hstays ⟨0⟩ rfl _, hfails (.write ⟨0⟩ (.str "w")) _ rfl⟩
  rcases htyped ⟨0⟩ .int rfl with hnone | hsome
  · cases hnone
  · exact hsome

end Store

end Polyglot
