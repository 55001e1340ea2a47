import Mathlib.Data.Fintype.EquivFin
import Mathlib.Data.Fintype.Lattice
import Mathlib.Data.List.Induction
import Polyglot.Proofs.Host.Claimant

/-!
# Polyglot.Proofs.Host.Contention

Assemblies that claim code at the same time.  Their steps come in any order (`Contest.run`); a list
of the assemblies that take a step, one after the other, says in which.  Each assembly has a number
of its own, and nobody owns the code in the beginning.

Two things hold after any steps.  Who owns code is said by what the assemblies hold (`Sound`): what
one of them holds it owns, and nobody else owns any of the code.  And if all assemblies claim one
list and keep it, then one that was refused an object was behind the one that has it (`Outrun`), so
the assembly that came farthest was refused none.

When all assemblies are done, these two say which of them succeeded and who owns what
(`interleaved_claims_safe`).
-/

namespace Polyglot.Host

open Claimant

/-- Assemblies that are to claim code, and the host in which they do. -/
structure Contest (n : Nat) where
  host : Host
  claimants : Fin n → Claimant
  /-- Each assembly has a number of its own. -/
  distinct : ∀ i j, (claimants i).module = (claimants j).module → i = j
  /-- The code was made. -/
  made : ∀ i, ∀ id ∈ (claimants i).code, id.index < host.codes.size
  /-- Nobody owns the code. -/
  free : ∀ i, ∀ id ∈ (claimants i).code, host.owner id = none

/-- The state of the assemblies and of the host. -/
structure Standing (n : Nat) where
  host : Host
  progress : Fin n → Progress

namespace Contest

variable {n : Nat} (k : Contest n)

/-- Nothing is claimed yet. -/
def start : Standing n := ⟨k.host, fun _ => {}⟩

/-- One assembly takes a step. -/
def step (s : Standing n) (i : Fin n) : Standing n :=
  let (p, h) := (k.claimants i).advance (s.progress i) s.host
  ⟨h, Function.update s.progress i p⟩

/-- Assemblies take steps, one after the other. -/
def run (order : List (Fin n)) : Standing n := order.foldl k.step k.start

theorem run_concat (order : List (Fin n)) (i : Fin n) :
    k.run (order ++ [i]) = k.step (k.run order) i := by
  rw [run, List.foldl_append, List.foldl_cons, List.foldl_nil, ← run]

/-- The assembly that takes a step. -/
theorem step_claimant (s : Standing n) (i : Fin n) :
    Claimant.Step (k.claimants i) (s.progress i) s.host
      ((k.step s i).progress i) (k.step s i).host := by
  simpa [step] using step_advance (k.claimants i) (s.progress i) s.host

/-- The assemblies that do not take a step. -/
theorem progress_step_of_ne (s : Standing n) {i j : Fin n} (hj : j ≠ i) :
    (k.step s i).progress j = s.progress j := by
  simp [step, hj]

/-! ## Who owns what -/

/-- Owners are said by what the assemblies hold. -/
structure Sound (s : Standing n) : Prop where
  size : s.host.codes.size = k.host.codes.size
  coherent : ∀ i, (k.claimants i).Coherent (s.progress i)
  /-- What an assembly holds it owns. -/
  owner : ∀ i id, (k.claimants i).Holds (s.progress i) id →
    s.host.owner id = some (k.claimants i).module
  /-- What is owned is held, or was owned in the beginning. -/
  holds : ∀ id m, s.host.owner id = some m → k.host.owner id = some m ∨
    ∃ i, (k.claimants i).module = m ∧ (k.claimants i).Holds (s.progress i) id
  /-- Code that no assembly claims has the owner it had. -/
  others : ∀ id, (∀ i, id ∉ (k.claimants i).code) → s.host.owner id = k.host.owner id

variable {k}

theorem Sound.made {s : Standing n} (hs : k.Sound s) (i : Fin n) :
    ∀ id ∈ (k.claimants i).code, id.index < s.host.codes.size := fun id hid => by
  rw [hs.size]
  exact k.made i id hid

/-- The code that the assemblies claim is owned by the one that holds it. -/
theorem Sound.exists_holds {s : Standing n} (hs : k.Sound s) {i : Fin n} {id : CodeId}
    {m : ModuleId} (hid : id ∈ (k.claimants i).code) (ho : s.host.owner id = some m) :
    ∃ j, (k.claimants j).module = m ∧ (k.claimants j).Holds (s.progress j) id := by
  refine (hs.holds id m ho).resolve_left fun hold => ?_
  rw [k.free i id hid] at hold
  cases hold

theorem sound_start (k : Contest n) : k.Sound k.start where
  size := rfl
  coherent i := coherent_start _
  owner i id hid := by simp [start, Holds] at hid
  holds id m ho := .inl ho
  others id hid := rfl

/-- What others own they own after a step. -/
theorem Sound.owner_step {s : Standing n} (hs : k.Sound s) {i : Fin n} {id : CodeId}
    {o : ModuleId} (ho : s.host.owner id = some o) (hne : o ≠ (k.claimants i).module) :
    (k.step s i).host.owner id = some o :=
  (k.step_claimant s i).owner_of_ne (hs.made i) ho hne

theorem Sound.step {s : Standing n} (hs : k.Sound s) (i : Fin n) : k.Sound (k.step s i) := by
  have hstep := k.step_claimant s i
  refine ⟨hstep.size_eq.trans hs.size, fun j => ?_, fun j id hid => ?_, fun id m ho => ?_,
    fun id hid => ?_⟩
  · by_cases hj : j = i
    · subst hj
      exact hstep.coherent (hs.coherent j)
    · rw [k.progress_step_of_ne s hj]
      exact hs.coherent j
  · by_cases hj : j = i
    · subst hj
      exact hstep.owner_of_holds (hs.coherent j) (hs.made j) (hs.owner j) hid
    · rw [k.progress_step_of_ne s hj] at hid
      exact hs.owner_step (hs.owner j id hid) fun hm => hj (k.distinct j i hm)
  · rcases hstep.holds_of_owner (hs.made i) ho with hold | ⟨hm, hnew⟩
    · refine (hs.holds id m hold).imp_right ?_
      rintro ⟨j, rfl, hj⟩
      refine ⟨j, rfl, ?_⟩
      by_cases hji : j = i
      · subst hji
        exact hstep.holds hj ho
      · rw [k.progress_step_of_ne s hji]
        exact hj
    · exact .inr ⟨i, hm.symm, hnew⟩
  · rw [hstep.owner_of_not_mem (hs.made i) (hid i), hs.others id hid]

/-- **Owners are said by what the assemblies hold**, in whatever order they take steps. -/
theorem sound_run (k : Contest n) (order : List (Fin n)) : k.Sound (k.run order) := by
  induction order using List.reverseRecOn with
  | nil => exact sound_start k
  | append_singleton order i ih =>
      rw [run_concat]
      exact ih.step i

/-! ## When all are done -/

theorem Sound.owner_of_succeeded {s : Standing n} (hs : k.Sound s) {i : Fin n}
    (hi : (k.claimants i).Ordinary) (hsucc : (s.progress i).Succeeded) {id : CodeId}
    (hid : id ∈ (k.claimants i).code) : s.host.owner id = some (k.claimants i).module := by
  apply hs.owner i id
  rw [Progress.Succeeded] at hsucc
  simp only [Holds, hsucc]
  exact ⟨trivial, hi, hid⟩

theorem Sound.eq_of_succeeded {s : Standing n} (hs : k.Sound s) {i j : Fin n}
    (hi : (k.claimants i).Ordinary) (hj : (k.claimants j).Ordinary)
    (hisucc : (s.progress i).Succeeded) (hjsucc : (s.progress j).Succeeded) {id : CodeId}
    (hid : id ∈ (k.claimants i).code) (hjd : id ∈ (k.claimants j).code) : i = j := by
  have hiowner := hs.owner_of_succeeded hi hisucc hid
  have hjowner := hs.owner_of_succeeded hj hjsucc hjd
  exact k.distinct i j (Option.some.inj (hiowner.symm.trans hjowner))

theorem Sound.owner_of_ended {s : Standing n} (hs : k.Sound s)
    (hended : ∀ i, (s.progress i).Ended) {i : Fin n} {id : CodeId} {m : ModuleId}
    (hid : id ∈ (k.claimants i).code) (ho : s.host.owner id = some m) :
    ∃ j, (k.claimants j).Ordinary ∧ (s.progress j).Succeeded ∧ (k.claimants j).module = m ∧
      id ∈ (k.claimants j).code := by
  obtain ⟨j, hm, hholds⟩ := hs.exists_holds hid ho
  obtain ⟨verdict, hverdict⟩ := hended j
  simp only [Holds, hverdict] at hholds
  obtain ⟨rfl, hordinary, hmem⟩ := hholds
  exact ⟨j, hordinary, hverdict, hm, hmem⟩

/-! ## Coming to an end -/

/-- An assembly that took so many steps has so many fewer left, or is done. -/
theorem ended_or_remaining_le (k : Contest n) (order : List (Fin n)) (i : Fin n) :
    ((k.run order).progress i).Ended ∨
      (k.claimants i).remaining ((k.run order).progress i) + order.count i ≤
        (k.claimants i).steps := by
  induction order using List.reverseRecOn with
  | nil => exact .inr (by simp [run, start, remaining, steps])
  | append_singleton order j ih =>
      have hstep := k.step_claimant (k.run order) j
      rw [run_concat]
      by_cases hij : i = j
      · subst hij
        by_cases hended : ((k.run order).progress i).Ended
        · left
          rwa [(hstep.eq_of_ended hended).1]
        · have hlt := (hstep.remaining_lt ((sound_run k order).coherent i)).resolve_left hended
          have hle := ih.resolve_left hended
          right
          rw [List.count_append, List.count_singleton_self]
          omega
      · rw [k.progress_step_of_ne _ hij]
        simpa [List.count_append, List.count_singleton, Ne.symm hij] using ih

theorem ended_of_count (k : Contest n) {order : List (Fin n)} {i : Fin n}
    (hcount : (k.claimants i).steps ≤ order.count i) : ((k.run order).progress i).Ended := by
  rcases ended_or_remaining_le k order i with hended | hle
  · exact hended
  · apply ((sound_run k order).coherent i).ended
    omega

/-! ## One list for all -/

/-- An assembly that was refused an object is behind another one. -/
def Outrun (s : Standing n) : Prop :=
  ∀ i, (s.progress i).Failed → ∃ j, (s.progress i).claimed < (s.progress j).claimed

theorem claimed_le_step (k : Contest n) (s : Standing n) (i j : Fin n) :
    (s.progress j).claimed ≤ ((k.step s i).progress j).claimed := by
  by_cases hj : j = i
  · subst hj
    exact (k.step_claimant s j).claimed_le
  · rw [k.progress_step_of_ne s hj]

/-- If all claim one list, an assembly that cannot claim the next object is behind the one that
has it. -/
theorem Sound.exists_ahead {s : Standing n} (hs : k.Sound s)
    (hsame : ∀ i j, (k.claimants i).code = (k.claimants j).code) {i : Fin n}
    (hstage : (s.progress i).stage = .claiming) {id : CodeId} {o : ModuleId}
    (hid : (k.claimants i).code[(s.progress i).claimed]? = some id)
    (ho : s.host.owner id = some o) (hne : o ≠ (k.claimants i).module) :
    ∃ j, (s.progress i).claimed < (s.progress j).claimed := by
  obtain ⟨j, rfl, hj⟩ := hs.exists_holds (List.mem_of_getElem? hid) ho
  refine ⟨j, Nat.lt_of_not_le fun hle => hne ?_⟩
  -- Otherwise the object would be among those that the assembly itself has claimed.
  have hmem := (hs.coherent j).mem_take hj
  rw [hsame j i] at hmem
  have hholds : (k.claimants i).Holds (s.progress i) id := by
    simp only [Holds, hstage]
    exact List.take_subset_take_left _ hle hmem
  exact Option.some.inj (ho.symm.trans (hs.owner i id hholds))

theorem Outrun.step {s : Standing n} (hs : k.Sound s)
    (hsame : ∀ i j, (k.claimants i).code = (k.claimants j).code) (hrun : Outrun s) (i : Fin n) :
    Outrun (k.step s i) := by
  intro j hfailed
  have hbefore : ((k.step s i).progress j).claimed = (s.progress j).claimed ∧
      ∃ x, (s.progress j).claimed < (s.progress x).claimed := by
    by_cases hj : j = i
    · subst hj
      obtain ⟨hclaimed, hold | ⟨hstage, id, o, hid, ho, hne⟩⟩ :=
        (k.step_claimant s j).of_failed hfailed
      · exact ⟨hclaimed, hrun j hold⟩
      · exact ⟨hclaimed, hs.exists_ahead hsame hstage hid ho hne⟩
    · rw [k.progress_step_of_ne s hj] at hfailed ⊢
      exact ⟨rfl, hrun j hfailed⟩
  obtain ⟨hclaimed, x, hx⟩ := hbefore
  exact ⟨x, hclaimed ▸ Nat.lt_of_lt_of_le hx (claimed_le_step k s i x)⟩

theorem outrun_run (hsame : ∀ i j, (k.claimants i).code = (k.claimants j).code)
    (order : List (Fin n)) : Outrun (k.run order) := by
  induction order using List.reverseRecOn with
  | nil => exact fun i hfailed => by simp [run, start, Progress.Failed] at hfailed
  | append_singleton order i ih =>
      rw [run_concat]
      exact ih.step (sound_run k order) hsame i

/-- If all claim one list, the assembly that came farthest succeeds. -/
theorem exists_succeeded (hsame : ∀ i j, (k.claimants i).code = (k.claimants j).code)
    (hpos : 0 < n) {order : List (Fin n)} (hended : ∀ i, ((k.run order).progress i).Ended) :
    ∃ i, ((k.run order).progress i).Succeeded := by
  have : Nonempty (Fin n) := ⟨⟨0, hpos⟩⟩
  obtain ⟨i, hfarthest⟩ := Finite.exists_max fun i => ((k.run order).progress i).claimed
  rcases (hended i).succeeded_or_failed with hsucc | hfailed
  · exact ⟨i, hsucc⟩
  · obtain ⟨j, hj⟩ := outrun_run hsame order i hfailed
    exact absurd (hfarthest j) (Nat.not_le.2 hj)

/-! ## The main result -/

/-- **Interleaved claims are safe.**  Let assemblies with numbers of their own claim lists of code
that nobody owns, one object in a step, and let their steps come in any order.

* At any time, what an assembly claimed and did not give back it owns, and a step of another
  assembly takes nothing away that somebody owns.
* Of ordinary assemblies that share an object at most one succeeds.
* Every assembly is done once it took so many steps as it takes at most.

When all are done,

* the owner of an object is an ordinary assembly that succeeded and has the object in its list;
* an ordinary assembly that succeeded owns its whole list;
* of ordinary assemblies that claim one and the same list exactly one succeeded, if there is
  something to claim and somebody to claim it. -/
theorem interleaved_claims_safe (k : Contest n) (order : List (Fin n)) :
    let s := k.run order
    (∀ i id, (k.claimants i).Holds (s.progress i) id →
      s.host.owner id = some (k.claimants i).module) ∧
    (∀ i j id, j ≠ i → s.host.owner id = some (k.claimants j).module →
      (k.step s i).host.owner id = some (k.claimants j).module) ∧
    (∀ i j, (k.claimants i).Ordinary → (k.claimants j).Ordinary →
      (∃ id ∈ (k.claimants i).code, id ∈ (k.claimants j).code) →
      (s.progress i).Succeeded → (s.progress j).Succeeded → i = j) ∧
    (∀ i, (k.claimants i).steps ≤ order.count i → (s.progress i).Ended) ∧
    ((∀ i, (s.progress i).Ended) →
      (∀ i, ∀ id ∈ (k.claimants i).code, ∀ m, s.host.owner id = some m →
        ∃ j, (k.claimants j).Ordinary ∧ (s.progress j).Succeeded ∧ (k.claimants j).module = m ∧
          id ∈ (k.claimants j).code) ∧
      (∀ i, (k.claimants i).Ordinary → (s.progress i).Succeeded →
        ∀ id ∈ (k.claimants i).code, s.host.owner id = some (k.claimants i).module) ∧
      ∀ ids : List CodeId, ids ≠ [] → 0 < n →
        (∀ i, (k.claimants i).Ordinary ∧ (k.claimants i).code = ids) →
        ∃! i, (s.progress i).Succeeded) := by
  intro s
  have hs : k.Sound s := sound_run k order
  refine ⟨hs.owner, fun i j id hij ho => hs.owner_step ho fun hm => hij (k.distinct j i hm),
    fun i j hi hj ⟨id, hid, hjd⟩ hisucc hjsucc => hs.eq_of_succeeded hi hj hisucc hjsucc hid hjd,
    fun i => ended_of_count k, fun hended => ?_⟩
  refine ⟨fun i id hid m ho => hs.owner_of_ended hended hid ho,
    fun i hi hsucc id hid => hs.owner_of_succeeded hi hsucc hid, fun ids hids hpos hall => ?_⟩
  have hsame : ∀ i j, (k.claimants i).code = (k.claimants j).code := fun i j =>
    (hall i).2.trans (hall j).2.symm
  obtain ⟨i, hi⟩ := exists_succeeded hsame hpos hended
  obtain ⟨id, hid⟩ := List.exists_mem_of_ne_nil ids hids
  have hlisted : ∀ x, id ∈ (k.claimants x).code := fun x => by
    rw [(hall x).2]
    exact hid
  exact ⟨i, hi, fun j hj =>
    hs.eq_of_succeeded (hall j).1 (hall i).1 hj hi (hlisted j) (hlisted i)⟩

/-- Three ordinary modules of the same two objects, one of which is listed twice. -/
def threeOfOneList : Contest 3 where
  host := ((Host.empty.addCode ⟨"a", "x", .plain, none, none⟩).2.addCode
    ⟨"b", "x", .plain, none, none⟩).2
  claimants i := ⟨.ofCount i, "main", [⟨0⟩, ⟨1⟩, ⟨0⟩]⟩
  distinct := by decide
  made := by decide
  free := by decide

/-- They take their steps in turns, the last of them first. -/
def inTurns : List (Fin 3) := (List.replicate 8 [2, 0, 1]).flatten

/-- All of them come to an end, one of them succeeds, and the objects are its own. -/
theorem interleaved_claims_safe_threeOfOneList :
    ∃ i, ((threeOfOneList.run inTurns).progress i).Succeeded ∧
      (∀ j, ((threeOfOneList.run inTurns).progress j).Succeeded → j = i) ∧
      (threeOfOneList.run inTurns).host.owner ⟨1⟩ = some (threeOfOneList.claimants i).module := by
  obtain ⟨-, -, -, hends, hdone⟩ := interleaved_claims_safe threeOfOneList inTurns
  have hcounts : ∀ i, (threeOfOneList.claimants i).steps ≤ inTurns.count i := by decide
  obtain ⟨-, howns, hone⟩ := hdone fun i => hends i (hcounts i)
  have hlists : ∀ i, (threeOfOneList.claimants i).Ordinary ∧
      (threeOfOneList.claimants i).code = [⟨0⟩, ⟨1⟩, ⟨0⟩] := by decide
  obtain ⟨i, hi, honly⟩ := hone [⟨0⟩, ⟨1⟩, ⟨0⟩] (by decide) (by decide) hlists
  obtain ⟨hordinary, hlist⟩ := hlists i
  exact ⟨i, hi, honly, howns i hordinary hi ⟨1⟩ (by rw [hlist]; decide)⟩

end Contest

end Polyglot.Host
