import Polyglot.Proofs.Store.Filing

/-!
# Polyglot.Proofs.Store.Assignment

Reading and assigning variables.  Both go through the scopes of a context from the innermost
outward, and they stop at different slots:

```
evaluate     the first slot under the name that holds a value     (source?)
assign       the first slot under the name                        (target?)
```

The two are the same slot unless the first one under the name holds nothing, as the slot of a
name does that is declared and not assigned yet (`assign_meets_evaluate`).  There an assignment
succeeds although the name cannot be read, or it leaves the slot alone that is read
(`assign_misses_evaluate`).

Whatever slot it is, an assigned value is read back, and nothing else can tell that it was
assigned (`assign_reads_back`).  This rests on slots being filed under their own names.
-/

namespace Polyglot.FreeVariable

/-! ## The slot that is read -/

/-- The slot that reading takes its value from. -/
def source? (x : FreeVariable) (st : Store) (c : Context) : Option SlotId :=
  c.scopes.findSome? fun sc => (st.slotIn sc x.name).filter fun s => (st.read s).isSome

variable {x : FreeVariable} {st st' : Store} {c : Context}

theorem isSome_read_of_source? {s : SlotId} (hs : x.source? st c = some s) :
    (st.read s).isSome = true := by
  obtain ⟨sc, -, hsc⟩ := List.exists_of_findSome?_eq_some hs
  exact (Option.filter_eq_some_iff.1 hsc).2

theorem read_source? (x : FreeVariable) (st : Store) (c : Context) :
    (x.source? st c).bind st.read = c.scopes.findSome? fun sc => st.readName sc x.name := by
  rw [source?]
  induction c.scopes with
  | nil => rfl
  | cons sc scopes ih =>
      rw [List.findSome?_cons, List.findSome?_cons, Store.readName]
      cases hslot : st.slotIn sc x.name with
      | none => simpa using ih
      | some s =>
          cases hread : st.read s with
          | none => simpa [Option.filter_some, hread] using ih
          | some v => simp [Option.filter_some, hread]

theorem evaluate_eq_ok_iff {v : Value} :
    x.evaluate st c = .ok v ↔ ∃ s, x.source? st c = some s ∧ st.read s = some v := by
  rw [← Option.bind_eq_some_iff, read_source?, evaluate]
  split
  · next u hu => simp [hu]
  · next hnone => simp [hnone]

theorem evaluate_eq_unbound_iff :
    x.evaluate st c = .error (.unboundName x.name) ↔ x.source? st c = none := by
  cases hs : x.source? st c with
  | none =>
      have hread := read_source? x st c
      rw [hs, Option.bind_none] at hread
      simp [evaluate, ← hread]
  | some s =>
      obtain ⟨v, hv⟩ := Option.isSome_iff_exists.1 (isSome_read_of_source? hs)
      have hok : x.evaluate st c = .ok v := evaluate_eq_ok_iff.2 ⟨s, hs, hv⟩
      simp [hok]

/-! ## The slot that is assigned -/

theorem exists_slotIn_of_target? {s : SlotId} (hs : x.target? st c = some s) :
    ∃ sc ∈ c.scopes, st.slotIn sc x.name = some s :=
  List.exists_of_findSome?_eq_some hs

theorem target?_eq_none_iff :
    x.target? st c = none ↔ ∀ sc ∈ c.scopes, st.containsName sc x.name = false := by
  simp [target?, Store.containsName]

/-- Storing a value is refused for its kind only. -/
theorem write_ne_unbound {s : SlotId} {v : Value} {n : Symbol} :
    st.write s v ≠ .error (.unboundName n) := by
  intro hw
  simp only [Store.write, Slot.set, SlotType.check] at hw
  grind

theorem assign_eq_unbound_iff {v : Value} :
    x.assign st c v = .error (.unboundName x.name) ↔ x.target? st c = none := by
  cases hs : x.target? st c with
  | none => simp [assign, hs]
  | some s => simpa [assign, hs] using write_ne_unbound

/-- The first slot under the name, if there is one, holds a value. -/
def Settled (x : FreeVariable) (st : Store) (c : Context) : Prop :=
  ∀ s, x.target? st c = some s → (st.read s).isSome = true

/-- If the first slot under the name holds a value, it is the one that is read. -/
theorem Settled.target?_eq_source? (h : x.Settled st c) : x.target? st c = x.source? st c := by
  rw [Settled, target?] at h
  rw [target?, source?]
  generalize c.scopes = scopes at h ⊢
  induction scopes with
  | nil => rfl
  | cons sc scopes ih =>
      rw [List.findSome?_cons] at h
      rw [List.findSome?_cons, List.findSome?_cons]
      cases hslot : st.slotIn sc x.name with
      | none => simpa using ih (by simpa [hslot] using h)
      | some s =>
          have hread : (st.read s).isSome = true := h s (by rw [hslot])
          simp [Option.filter_some, hread]

theorem target?_eq_source?_iff : x.target? st c = x.source? st c ↔ x.Settled st c :=
  ⟨fun heq _ hs => isSome_read_of_source? (heq ▸ hs), Settled.target?_eq_source?⟩

theorem exists_isBoundIn_of_source? {s : SlotId} (hs : x.source? st c = some s) :
    ∃ sc ∈ c.scopes, st.isBoundIn sc x.name = true := by
  obtain ⟨sc, hsc, hslot⟩ := List.exists_of_findSome?_eq_some hs
  obtain ⟨hfiled, hread⟩ := Option.filter_eq_some_iff.1 hslot
  exact ⟨sc, hsc, by simpa [Store.isBoundIn, Store.readName, hfiled] using hread⟩

/-- **Where assigning and reading meet.**  An assignment fails for want of the name exactly when
no enclosing scope has a slot for it.  It is made to the slot that is read exactly when the first
slot under the name, if there is one, holds a value, and then

* it fails for want of the name exactly when reading does;
* it stores into the slot that reading takes its value from, or is refused by that slot;
* it succeeds only if an enclosing scope binds the name already. -/
theorem assign_meets_evaluate (x : FreeVariable) (st : Store) (c : Context) (v : Value) :
    (x.assign st c v = .error (.unboundName x.name) ↔
      ∀ sc ∈ c.scopes, st.containsName sc x.name = false) ∧
    (x.target? st c = x.source? st c ↔ x.Settled st c) ∧
    (x.Settled st c →
      (x.assign st c v = .error (.unboundName x.name) ↔
        x.evaluate st c = .error (.unboundName x.name)) ∧
      (∀ u, x.evaluate st c = .ok u →
        ∃ s, x.source? st c = some s ∧ st.read s = some u ∧ x.assign st c v = st.write s v) ∧
      ∀ st', x.assign st c v = .ok st' → ∃ sc ∈ c.scopes, st.isBoundIn sc x.name = true) := by
  refine ⟨assign_eq_unbound_iff.trans target?_eq_none_iff, target?_eq_source?_iff, fun h => ?_⟩
  have hsame := h.target?_eq_source?
  refine ⟨?_, fun u hu => ?_, fun st' hassign => ?_⟩
  · rw [assign_eq_unbound_iff, evaluate_eq_unbound_iff, hsame]
  · obtain ⟨s, hs, hread⟩ := evaluate_eq_ok_iff.1 hu
    refine ⟨s, hs, hread, ?_⟩
    rw [assign, hsame, hs]
  · cases hs : x.source? st c with
    | none => simp [assign, hsame, hs] at hassign
    | some s => exact exists_isBoundIn_of_source? hs

/-- An outer scope in which `y` is 1, and an inner one in which `y` is declared and not assigned
yet. -/
def declaredInside : Store :=
  [.newScope, .newScope, .writeName ⟨0⟩ (.named "y") (.int 1), .newCell (.named "y") .any,
    .bindSlot ⟨1⟩ ⟨1⟩].foldl Store.operate .empty

/-- The context of the outer scope. -/
def outerContext : Context := Context.empty.cons ⟨⟨0⟩, ⟨0⟩⟩

/-- The context of the inner scope inside the outer one. -/
def innerContext : Context := outerContext.cons ⟨⟨1⟩, ⟨1⟩⟩

/-- The context of the inner scope alone. -/
def aloneContext : Context := Context.empty.cons ⟨⟨2⟩, ⟨1⟩⟩

/-- The variable `y`. -/
def variableY : FreeVariable := ⟨.named "y", by decide⟩

/-- In the outer scope an assignment of another kind of value is made to the slot that is read. -/
theorem assign_meets_evaluate_outerContext :
    variableY.Settled declaredInside outerContext ∧
    ∃ s, variableY.source? declaredInside outerContext = some s ∧
      variableY.assign declaredInside outerContext (.str "w") =
        declaredInside.write s (.str "w") := by
  obtain ⟨-, hiff, hmeet⟩ :=
    assign_meets_evaluate variableY declaredInside outerContext (.str "w")
  have hsettled := hiff.1 rfl
  obtain ⟨s, hs, -, hassign⟩ := (hmeet hsettled).2.1 (.int 1) rfl
  exact ⟨hsettled, s, hs, hassign⟩

/-- **A slot without a value is assigned and not read.**  In the inner scope alone the name cannot
be read and no scope binds it, and an assignment succeeds and binds it.  Inside the outer scope the
name is read there, and an assignment leaves the slot alone that is read. -/
theorem assign_misses_evaluate :
    (variableY.evaluate declaredInside aloneContext = .error (.unboundName variableY.name) ∧
      (∀ sc ∈ aloneContext.scopes, declaredInside.isBoundIn sc variableY.name = false) ∧
      ∃ st', variableY.assign declaredInside aloneContext (.int 9) = .ok st' ∧
        st'.isBoundIn ⟨1⟩ variableY.name = true) ∧
    variableY.evaluate declaredInside innerContext = .ok (.int 1) ∧
    variableY.source? declaredInside innerContext = some ⟨0⟩ ∧
    ∃ st', variableY.assign declaredInside innerContext (.int 9) = .ok st' ∧
      st'.read ⟨0⟩ = some (.int 1) ∧ st'.read ⟨1⟩ = some (.int 9) :=
  ⟨⟨rfl, by decide, _, rfl, rfl⟩, rfl, rfl, _, rfl, rfl, rfl⟩

/-! ## What an assignment leaves alone -/

/-- What is read depends on what the name holds in the enclosing scopes. -/
theorem evaluate_congr (h : ∀ sc, st'.readName sc x.name = st.readName sc x.name) (c : Context) :
    x.evaluate st' c = x.evaluate st c := by
  simp only [evaluate, h]

/-- A value in the first slot under the name is read back. -/
theorem evaluate_of_writes {s : SlotId} {v : Value} (hs : x.target? st c = some s)
    (hw : st.Writes s v st') : x.evaluate st' c = .ok v := by
  have htarget : x.target? st' c = some s := by
    simp only [target?, hw.slotIn]
    exact hs
  have hread : st'.read s = some v := by rw [Store.read, hw.slot_self]
  have hsettled : x.Settled st' c := fun t ht => by
    obtain rfl : s = t := Option.some.inj (htarget.symm.trans ht)
    rw [hread, Option.isSome_some]
  exact evaluate_eq_ok_iff.2 ⟨s, hsettled.target?_eq_source? ▸ htarget, hread⟩

/-- Slots of other names are other slots. -/
theorem readName_of_writes (hw : st.WellFiled) {s : SlotId} {v : Value}
    (hwrites : st.Writes s v st') {n : Symbol} (hn : n ≠ (st.slot s).name) (sc : ScopeId) :
    st'.readName sc n = st.readName sc n := by
  refine Store.readName_congr (hwrites.slotIn sc n) fun t ht => hwrites.slot_of_ne fun hts => ?_
  have hname := (hw.of_slotIn ht).2
  rw [hts] at hname
  exact hn hname.symm

/-- A successful assignment puts the value in one slot, which bears the name. -/
theorem exists_writes_of_assign (hw : st.WellFiled) {v : Value} (h : x.assign st c v = .ok st') :
    ∃ s, x.target? st c = some s ∧ (st.slot s).name = x.name ∧ st.Writes s v st' := by
  obtain ⟨s, hs, hwrite⟩ := Store.exists_write_of_assign h
  obtain ⟨sc, -, hfiled⟩ := exists_slotIn_of_target? hs
  obtain ⟨hmade, hname⟩ := hw.of_slotIn hfiled
  exact ⟨s, hs, hname, Store.writes_of_write hmade hwrite⟩

/-- **An assigned value is read back, and nothing else changes.**  In a store that operations lead
to, an assignment that succeeds

* is read back in its context;
* changes the value of one slot, which bears the name, and no other slot;
* leaves every scope with the names and slots it had;
* leaves every other name as it was, in whatever context it is read.

One that fails changes nothing. -/
theorem assign_reads_back {st : Store} (hst : st.Reached) (x : FreeVariable) (c : Context)
    (v : Value) :
    (∀ st', x.assign st c v = .ok st' →
      x.evaluate st' c = .ok v ∧
      (∃ s, (st.slot s).name = x.name ∧ st'.slot s = { st.slot s with value := some v } ∧
        ∀ t, t ≠ s → st'.slot t = st.slot t) ∧
      (∀ sc, st'.bindings sc = st.bindings sc) ∧
      ∀ (y : FreeVariable) (c' : Context), y.name ≠ x.name →
        y.evaluate st' c' = y.evaluate st c') ∧
    ∀ e, x.assign st c v = .error e → st.operate (.assign x c v) = st := by
  refine ⟨fun st' h => ?_, fun e h => by rw [Store.operate, h]; rfl⟩
  obtain ⟨s, hs, hname, hwrites⟩ := exists_writes_of_assign hst.wellFiled h
  refine ⟨evaluate_of_writes hs hwrites,
    ⟨s, hname, hwrites.slot_self, fun t ht => hwrites.slot_of_ne ht⟩, hwrites.bindings,
    fun y c' hy => evaluate_congr (fun sc => ?_) c'⟩
  exact readName_of_writes hst.wellFiled hwrites (hname ▸ hy) sc

/-- Two scopes that share the slot of `y`; the inner one has a slot of integers for `x` besides. -/
def sharedSlot : Store :=
  [.newScope, .newScope, .newCell (.named "y") .any, .bindSlot ⟨0⟩ ⟨0⟩, .bindSlot ⟨1⟩ ⟨0⟩,
    .newCell (.named "x") (.of .int), .bindSlot ⟨1⟩ ⟨1⟩].foldl Store.operate .empty

theorem reached_sharedSlot : sharedSlot.Reached := by
  refine ⟨_, ?_, rfl⟩
  simp only [Store.Proper, Store.Operation.Proper, true_and, and_true]
  decide

/-- The variable `x`. -/
def variableX : FreeVariable := ⟨.named "x", by decide⟩

/-- An assignment through the inner scope is read back, and `x` is as it was also where only the
outer scope is seen; an assignment of a text to `x` fails and changes nothing. -/
theorem assign_reads_back_sharedSlot :
    (∃ st', variableY.assign sharedSlot innerContext (.int 9) = .ok st' ∧
      variableY.evaluate st' innerContext = .ok (.int 9) ∧
      variableX.evaluate st' outerContext = variableX.evaluate sharedSlot outerContext) ∧
    sharedSlot.operate (.assign variableX innerContext (.str "w")) = sharedSlot := by
  have hassign := assign_reads_back reached_sharedSlot variableY innerContext (.int 9)
  obtain ⟨hread, -, -, hothers⟩ := hassign.1 _ rfl
  exact ⟨⟨_, rfl, hread, hothers variableX outerContext (by decide)⟩,
    (assign_reads_back reached_sharedSlot variableX innerContext (.str "w")).2 _ rfl⟩

end Polyglot.FreeVariable
