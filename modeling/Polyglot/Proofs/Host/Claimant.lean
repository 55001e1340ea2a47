import Mathlib.Logic.Function.Iterate
import Polyglot.Proofs.Host.Assembly

/-!
# Polyglot.Proofs.Host.Claimant

Claiming, one object at a time.  Assemblies may be under way at the same time, and then each of
them claims and gives back one object in a step that nobody interrupts, and anything can happen
between two of its steps.  An assembly that claims is somewhere in

```
claiming      the next object of the list is claimed                      claim
              or it cannot be                                             refuse
              or the list is at its end and the module keeps its code     keep
              or gives it back, as the bootstrap module does              yield
releasing     the next object that was claimed is given back              release
              or all of them were                                         finish
ended         nothing happens any more                                    idle
```

What a step is comes from `Step`, and whose code it touches from the facts about owners below it:
a step changes no owner but from nobody to the module of the assembly and back.

An assembly that nobody interrupts does what `claimAll` and `releaseAll` do (`alone_claimPhase`),
and that is what `createModule` does to owners (`createModule_claimPhase`).
-/

namespace Polyglot.Host

/-- An assembly, as far as it claims code. -/
structure Claimant where
  module : ModuleId
  name : String
  code : List CodeId

namespace Claimant

/-- What an assembly does next. -/
inductive Stage where
  /-- It claims the next object. -/
  | claiming
  /-- It gives back what it claimed; `released` objects were given back already. -/
  | releasing (released : Nat) (verdict : Except ModuleError Unit)
  /-- It is done with claiming. -/
  | ended (verdict : Except ModuleError Unit)

/-- How far an assembly has come: how many objects it claimed, and what it does next. -/
structure Progress where
  claimed : Nat := 0
  stage : Stage := .claiming

/-- Whether the module keeps its code. -/
def Ordinary (a : Claimant) : Prop := a.name ≠ bootstrapName

instance (a : Claimant) : Decidable a.Ordinary := inferInstanceAs (Decidable (_ ≠ _))

/-- What follows when all objects are claimed. -/
def afterClaiming (a : Claimant) : Stage :=
  if a.Ordinary then .ended (.ok ()) else .releasing 0 (.ok ())

/-- One step of an assembly. -/
def advance (a : Claimant) (p : Progress) (h : Host) : Progress × Host :=
  match p.stage with
  | .claiming =>
    match a.code[p.claimed]? with
    | none => ({ p with stage := a.afterClaiming }, h)
    | some id =>
      match h.bind a.module id with
      | .error e => ({ p with stage := .releasing 0 (.error e) }, h)
      | .ok h => ({ p with claimed := p.claimed + 1 }, h)
  | .releasing n verdict =>
    match (a.code.take p.claimed)[n]? with
    | none => ({ p with stage := .ended verdict }, h)
    | some id => ({ p with stage := .releasing (n + 1) verdict }, h.unbind a.module id)
  | .ended _ => (p, h)

variable {a : Claimant} {p p' : Progress} {h h' : Host}

/-! ## The steps -/

/-- The steps there are. -/
inductive Step (a : Claimant) (p : Progress) (h : Host) : Progress → Host → Prop where
  | claim {h' : Host} (id : CodeId) (hstage : p.stage = .claiming)
      (hid : a.code[p.claimed]? = some id) (hbind : h.bind a.module id = .ok h') :
      Step a p h { p with claimed := p.claimed + 1 } h'
  | refuse (id : CodeId) (e : ModuleError) (hstage : p.stage = .claiming)
      (hid : a.code[p.claimed]? = some id) (hbind : h.bind a.module id = .error e) :
      Step a p h { p with stage := .releasing 0 (.error e) } h
  | keep (hstage : p.stage = .claiming) (hall : a.code[p.claimed]? = none) (ha : a.Ordinary) :
      Step a p h { p with stage := .ended (.ok ()) } h
  | yield (hstage : p.stage = .claiming) (hall : a.code[p.claimed]? = none) (ha : ¬ a.Ordinary) :
      Step a p h { p with stage := .releasing 0 (.ok ()) } h
  | release (n : Nat) (verdict : Except ModuleError Unit) (id : CodeId)
      (hstage : p.stage = .releasing n verdict) (hid : (a.code.take p.claimed)[n]? = some id) :
      Step a p h { p with stage := .releasing (n + 1) verdict } (h.unbind a.module id)
  | finish (n : Nat) (verdict : Except ModuleError Unit) (hstage : p.stage = .releasing n verdict)
      (hall : (a.code.take p.claimed)[n]? = none) :
      Step a p h { p with stage := .ended verdict } h
  | idle (verdict : Except ModuleError Unit) (hstage : p.stage = .ended verdict) : Step a p h p h

theorem step_advance (a : Claimant) (p : Progress) (h : Host) :
    Step a p h (a.advance p h).1 (a.advance p h).2 := by
  rw [advance]
  split
  · next hstage =>
      split
      · next hall =>
          by_cases ha : a.Ordinary
          · simpa [afterClaiming, ha] using Step.keep hstage hall ha
          · simpa [afterClaiming, ha] using Step.yield hstage hall ha
      · next id hid =>
          split
          · next e hbind => exact .refuse id e hstage hid hbind
          · next h' hbind => exact .claim id hstage hid hbind
  · next n verdict hstage =>
      split
      · next hall => exact .finish n verdict hstage hall
      · next id hid => exact .release n verdict id hstage hid
  · next verdict hstage => exact .idle verdict hstage

/-! ## Owners -/

/-- Claiming an object succeeds if nobody or the module itself owns it. -/
theorem owner_of_bind_eq_ok {m : ModuleId} {id : CodeId} (hid : id.index < h.codes.size)
    (hbind : h.bind m id = .ok h') :
    (h.owner id = none ∨ h.owner id = some m) ∧
      (∀ j, h'.owner j = if j = id then some m else h.owner j) ∧
      h'.codes.size = h.codes.size := by
  obtain ⟨c, hc, rfl⟩ := exists_of_bind_eq_ok hbind
  have howner : (h.owner id = none ∨ h.owner id = some m) ∧ c.owner = some m := by
    rw [Host.owner]
    cases ho : (h.code id).owner with
    | none =>
        simp only [Code.bind, ho, Except.ok.injEq] at hc
        simp [← hc]
    | some o =>
        by_cases hom : o = m
        · simp only [Code.bind, ho, hom, if_true, Except.ok.injEq] at hc
          simp [← hc, ho, hom]
        · simp [Code.bind, ho, hom] at hc
  refine ⟨howner.1, fun j => ?_, size_setCode h id c⟩
  rw [owner_setCode, howner.2]
  simp [hid]

/-- Claiming an object fails if another module owns it. -/
theorem owner_of_bind_eq_error {m : ModuleId} {id : CodeId} {e : ModuleError}
    (hbind : h.bind m id = .error e) : ∃ o, h.owner id = some o ∧ o ≠ m := by
  rw [Host.owner]
  cases ho : (h.code id).owner with
  | none => simp [Host.bind, Code.bind, ho, Except.map] at hbind
  | some o =>
      refine ⟨o, rfl, fun hom => ?_⟩
      simp [Host.bind, Code.bind, ho, hom, Except.map] at hbind

namespace Step

variable (hstep : Step a p h p' h')

include hstep

theorem size_eq : h'.codes.size = h.codes.size := by
  cases hstep with
  | claim id hstage hid hbind =>
      obtain ⟨c, -, rfl⟩ := exists_of_bind_eq_ok hbind
      exact size_setCode h id c
  | release n verdict id hstage hid => rw [Host.unbind, size_setCode]
  | refuse | keep | yield | finish | idle => rfl

/-- What another module owns it owns after the step. -/
theorem owner_of_ne (hmade : ∀ id ∈ a.code, id.index < h.codes.size) {j : CodeId} {o : ModuleId}
    (ho : h.owner j = some o) (hne : o ≠ a.module) : h'.owner j = some o := by
  cases hstep with
  | claim id hstage hid hbind =>
      obtain ⟨hfree, howner, -⟩ := owner_of_bind_eq_ok (hmade id (List.mem_of_getElem? hid)) hbind
      rw [howner, if_neg, ho]
      rintro rfl
      simp [ho, hne] at hfree
  | release n verdict id hstage hid =>
      rw [owner_unbind, if_neg, ho]
      rintro ⟨-, hown⟩
      exact hne (Option.some.inj (ho.symm.trans hown))
  | refuse | keep | yield | finish | idle => exact ho

/-- An object that is not in the list keeps its owner. -/
theorem owner_of_not_mem (hmade : ∀ id ∈ a.code, id.index < h.codes.size) {j : CodeId}
    (hj : j ∉ a.code) : h'.owner j = h.owner j := by
  cases hstep with
  | claim id hstage hid hbind =>
      have hmem := List.mem_of_getElem? hid
      obtain ⟨-, howner, -⟩ := owner_of_bind_eq_ok (hmade id hmem) hbind
      rw [howner, if_neg]
      rintro rfl
      exact hj hmem
  | release n verdict id hstage hid =>
      rw [owner_unbind, if_neg]
      rintro ⟨rfl, -⟩
      exact hj (List.mem_of_mem_take (List.mem_of_getElem? hid))
  | refuse | keep | yield | finish | idle => rfl

end Step

/-! ## What is held -/

/-- The objects that an assembly claimed and did not give back. -/
def Holds (a : Claimant) (p : Progress) (id : CodeId) : Prop :=
  match p.stage with
  | .claiming => id ∈ a.code.take p.claimed
  | .releasing n _ => id ∈ a.code.take p.claimed ∧ id ∉ a.code.take n
  | .ended verdict => verdict = .ok () ∧ a.Ordinary ∧ id ∈ a.code

/-- What is true of an assembly at any time: it claims no more than its list, an ordinary one gives
back only what it claimed in vain, and one that succeeded claimed all. -/
def Coherent (a : Claimant) (p : Progress) : Prop :=
  p.claimed ≤ a.code.length ∧
  match p.stage with
  | .claiming => True
  | .releasing _ verdict => a.Ordinary → verdict ≠ .ok ()
  | .ended verdict => a.Ordinary → verdict = .ok () → p.claimed = a.code.length

theorem coherent_start (a : Claimant) : a.Coherent {} := ⟨Nat.zero_le _, trivial⟩

theorem Coherent.mem_take (hc : a.Coherent p) {id : CodeId} (hid : a.Holds p id) :
    id ∈ a.code.take p.claimed := by
  obtain ⟨-, hstage⟩ := hc
  cases hs : p.stage with
  | claiming => simpa only [Holds, hs] using hid
  | releasing n verdict =>
      simp only [Holds, hs] at hid
      exact hid.1
  | ended verdict =>
      simp only [Holds, hs] at hid hstage
      rw [hstage hid.2.1 hid.1, List.take_length]
      exact hid.2.2

theorem mem_take_succ {ids : List CodeId} {n : Nat} {id j : CodeId} (hid : ids[n]? = some id) :
    j ∈ ids.take (n + 1) ↔ j ∈ ids.take n ∨ j = id := by
  rw [List.take_add_one, hid]
  simp

theorem take_of_getElem?_eq_none {ids : List CodeId} {n : Nat} (hall : ids[n]? = none) :
    ids.take n = ids :=
  List.take_of_length_le (List.getElem?_eq_none_iff.1 hall)

theorem getElem?_of_getElem?_take {ids : List CodeId} {m n : Nat} {id : CodeId}
    (hid : (ids.take m)[n]? = some id) : n < m ∧ ids[n]? = some id := by
  rw [List.getElem?_take] at hid
  split at hid
  · next hlt => exact ⟨hlt, hid⟩
  · cases hid

namespace Step

theorem coherent (hstep : Step a p h p' h') (hc : a.Coherent p) : a.Coherent p' := by
  obtain ⟨hle, hstate⟩ := hc
  cases hstep with
  | claim id hstage hid hbind =>
      have hlt := (List.getElem?_eq_some_iff.1 hid).1
      exact ⟨hlt, by simp [hstage]⟩
  | refuse id e hstage hid hbind => exact ⟨hle, by simp⟩
  | keep hstage hall ha =>
      have hge := List.getElem?_eq_none_iff.1 hall
      exact ⟨hle, fun _ _ => Nat.le_antisymm hle hge⟩
  | yield hstage hall ha => exact ⟨hle, fun hord => absurd hord ha⟩
  | release n verdict id hstage hid =>
      simp only [hstage] at hstate
      exact ⟨hle, hstate⟩
  | finish n verdict hstage hall =>
      simp only [hstage] at hstate
      exact ⟨hle, fun hord hok => absurd hok (hstate hord)⟩
  | idle verdict hstage => exact ⟨hle, hstate⟩

/-- Everything that is held after a step is owned, if it was so before. -/
theorem owner_of_holds (hstep : Step a p h p' h') (hc : a.Coherent p)
    (hmade : ∀ id ∈ a.code, id.index < h.codes.size)
    (hown : ∀ id, a.Holds p id → h.owner id = some a.module) {j : CodeId} (hj : a.Holds p' j) :
    h'.owner j = some a.module := by
  cases hstep with
  | claim id hstage hid hbind =>
      obtain ⟨-, howner, -⟩ := owner_of_bind_eq_ok (hmade id (List.mem_of_getElem? hid)) hbind
      simp only [Holds, hstage, mem_take_succ hid] at hj hown
      rw [howner]
      split
      · rfl
      · next hne => exact hown j (hj.resolve_right hne)
  | refuse id e hstage hid hbind =>
      simp only [Holds, hstage] at hj hown
      exact hown j hj.1
  | keep hstage hall ha =>
      simp only [Holds, hstage, take_of_getElem?_eq_none hall] at hj hown
      exact hown j hj.2.2
  | yield hstage hall ha =>
      simp only [Holds, hstage] at hj hown
      exact hown j hj.1
  | release n verdict id hstage hid =>
      simp only [Holds, hstage, mem_take_succ (getElem?_of_getElem?_take hid).2] at hj hown
      rw [owner_unbind, if_neg fun hcase => hj.2 (.inr hcase.1)]
      exact hown j ⟨hj.1, fun hmem => hj.2 (.inl hmem)⟩
  | finish n verdict hstage hall =>
      obtain ⟨-, hstate⟩ := hc
      simp only [hstage] at hstate
      exact absurd hj.1 (hstate hj.2.1)
  | idle verdict hstage => exact hown j hj

/-- Whatever somebody owns after a step was owned before or is held now. -/
theorem holds_of_owner (hstep : Step a p h p' h')
    (hmade : ∀ id ∈ a.code, id.index < h.codes.size) {j : CodeId} {o : ModuleId}
    (ho : h'.owner j = some o) : h.owner j = some o ∨ o = a.module ∧ a.Holds p' j := by
  cases hstep with
  | claim id hstage hid hbind =>
      obtain ⟨-, howner, -⟩ := owner_of_bind_eq_ok (hmade id (List.mem_of_getElem? hid)) hbind
      rw [howner] at ho
      split at ho
      · next hj =>
          right
          refine ⟨(Option.some.inj ho).symm, ?_⟩
          simp only [Holds, hstage, mem_take_succ hid]
          exact .inr hj
      · exact .inl ho
  | release n verdict id hstage hid =>
      rw [owner_unbind] at ho
      split at ho
      · cases ho
      · exact .inl ho
  | refuse | keep | yield | finish | idle => exact .inl ho

/-- Whatever is held before a step and still owned is still held. -/
theorem holds (hstep : Step a p h p' h') {j : CodeId} (hj : a.Holds p j)
    (ho : h'.owner j = some a.module) : a.Holds p' j := by
  cases hstep with
  | claim id hstage hid hbind =>
      simp only [Holds, hstage, mem_take_succ hid] at hj ⊢
      exact .inl hj
  | refuse id e hstage hid hbind =>
      simp only [Holds, hstage] at hj ⊢
      simpa using hj
  | keep hstage hall ha =>
      simp only [Holds, hstage, take_of_getElem?_eq_none hall] at hj
      exact ⟨rfl, ha, hj⟩
  | yield hstage hall ha =>
      simp only [Holds, hstage] at hj ⊢
      simpa using hj
  | release n verdict id hstage hid =>
      simp only [Holds, hstage, mem_take_succ (getElem?_of_getElem?_take hid).2] at hj ⊢
      refine ⟨hj.1, fun hmem => hmem.elim hj.2 fun hid => ?_⟩
      rw [owner_unbind] at ho
      split at ho
      · cases ho
      · next hcase => exact hcase ⟨hid, ho⟩
  | finish n verdict hstage hall =>
      -- The claimed objects were all given back, so none of them is held any more.
      simp only [Holds, hstage] at hj
      have hgiven := take_of_getElem?_eq_none hall
      rw [List.take_take] at hgiven
      rw [← hgiven] at hj
      exact absurd (List.take_subset_take_left a.code (Nat.min_le_left _ _) hj.1) hj.2
  | idle verdict hstage => exact hj

end Step

/-! ## Coming to an end -/

namespace Progress

/-- Whether an assembly is done with claiming. -/
def Ended (p : Progress) : Prop := ∃ verdict, p.stage = .ended verdict

/-- Whether an assembly claimed all it wanted. -/
def Succeeded (p : Progress) : Prop := p.stage = .ended (.ok ())

/-- Whether an assembly could not claim an object. -/
def Failed (p : Progress) : Prop :=
  ∃ e, p.stage = .ended (.error e) ∨ ∃ n, p.stage = .releasing n (.error e)

theorem Ended.succeeded_or_failed (h : p.Ended) : p.Succeeded ∨ p.Failed := by
  obtain ⟨verdict, hstage⟩ := h
  cases verdict with
  | ok => exact .inl hstage
  | error e => exact .inr ⟨e, .inl hstage⟩

end Progress

/-- How many steps an assembly takes at most from the first to the last. -/
def steps (a : Claimant) : Nat := 2 * a.code.length + 2

/-- How many steps an assembly has left at most. -/
def remaining (a : Claimant) (p : Progress) : Nat :=
  match p.stage with
  | .claiming => a.steps - p.claimed
  | .releasing n _ => p.claimed - n + 1
  | .ended _ => 0

/-- Every step brings an assembly nearer to its end. -/
theorem Step.remaining_lt (hstep : Step a p h p' h') (hc : a.Coherent p) :
    p.Ended ∨ a.remaining p' < a.remaining p := by
  have hle := hc.1
  cases hstep with
  | claim id hstage hid hbind =>
      have hlt := (List.getElem?_eq_some_iff.1 hid).1
      simp only [remaining, hstage, steps]
      omega
  | refuse id e hstage hid hbind =>
      have hlt := (List.getElem?_eq_some_iff.1 hid).1
      simp only [remaining, hstage, steps]
      omega
  | keep hstage hall ha =>
      simp only [remaining, hstage, steps]
      omega
  | yield hstage hall ha =>
      have hge := List.getElem?_eq_none_iff.1 hall
      simp only [remaining, hstage, steps]
      omega
  | release n verdict id hstage hid =>
      have hlt := (getElem?_of_getElem?_take hid).1
      simp only [remaining, hstage]
      omega
  | finish n verdict hstage hall =>
      simp only [remaining, hstage]
      omega
  | idle verdict hstage => exact .inl ⟨verdict, hstage⟩

/-- An assembly that has no step left is done. -/
theorem Coherent.ended (hc : a.Coherent p) (hnone : a.remaining p = 0) : p.Ended := by
  have hle := hc.1
  cases hstage : p.stage with
  | claiming =>
      simp only [remaining, hstage, steps] at hnone
      omega
  | releasing n verdict =>
      simp only [remaining, hstage] at hnone
      omega
  | ended verdict => exact ⟨verdict, hstage⟩

/-- An assembly that is done stays as it is. -/
theorem Step.eq_of_ended (hstep : Step a p h p' h') (hended : p.Ended) : p' = p ∧ h' = h := by
  obtain ⟨verdict, hverdict⟩ := hended
  cases hstep with
  | idle => exact ⟨rfl, rfl⟩
  | claim id hstage | refuse id e hstage | keep hstage | yield hstage | release n v id hstage
    | finish n v hstage => simp [hstage] at hverdict

/-- No step forgets a claim. -/
theorem Step.claimed_le (hstep : Step a p h p' h') : p.claimed ≤ p'.claimed := by
  cases hstep with
  | claim => exact Nat.le_succ _
  | refuse | keep | yield | release | finish | idle => exact Nat.le_refl _

/-- An assembly that failed did so before, or is refused an object now that another module owns. -/
theorem Step.of_failed (hstep : Step a p h p' h') (hfailed : p'.Failed) :
    p'.claimed = p.claimed ∧ (p.Failed ∨ p.stage = .claiming ∧
      ∃ id o, a.code[p.claimed]? = some id ∧ h.owner id = some o ∧ o ≠ a.module) := by
  cases hstep with
  | claim id hstage hid hbind => simp [Progress.Failed, hstage] at hfailed
  | refuse id e hstage hid hbind =>
      obtain ⟨o, ho, hne⟩ := owner_of_bind_eq_error hbind
      exact ⟨rfl, .inr ⟨hstage, id, o, hid, ho, hne⟩⟩
  | keep hstage hall ha => simp [Progress.Failed] at hfailed
  | yield hstage hall ha => simp [Progress.Failed] at hfailed
  | release n verdict id hstage hid =>
      obtain ⟨e, he⟩ : ∃ e, verdict = .error e := by simpa [Progress.Failed] using hfailed
      exact ⟨rfl, .inl ⟨e, .inr ⟨n, by rw [hstage, he]⟩⟩⟩
  | finish n verdict hstage hall =>
      obtain ⟨e, he⟩ : ∃ e, verdict = .error e := by simpa [Progress.Failed] using hfailed
      exact ⟨rfl, .inl ⟨e, .inr ⟨n, by rw [hstage, he]⟩⟩⟩
  | idle verdict hstage => exact ⟨rfl, .inl hfailed⟩

/-! ## Without interruption -/

/-- What an assembly comes to when its claims were made or refused: a bootstrap module gives back
what it claimed. -/
def conclude (a : Claimant) : Except ModuleError Unit × Host → Except ModuleError Unit × Host
  | (.error e, h) => (.error e, h)
  | (.ok _, h) => (.ok (), if a.Ordinary then h else h.releaseAll a.module a.code)

/-- All claiming and giving back that an assembly does. -/
def claimPhase (a : Claimant) (h : Host) : Except ModuleError Unit × Host :=
  a.conclude (h.claimAll a.module a.code)

/-- Whether steps without interruption lead from one state to another. -/
def Leads (a : Claimant) (p : Progress) (h : Host) (p' : Progress) (h' : Host) : Prop :=
  ∃ t, (fun s : Progress × Host => a.advance s.1 s.2)^[t] (p, h) = (p', h')

theorem leads_of_advance {p₁ : Progress} {h₁ : Host} (hfirst : a.advance p h = (p₁, h₁))
    (hrest : a.Leads p₁ h₁ p' h') : a.Leads p h p' h' := by
  obtain ⟨t, ht⟩ := hrest
  exact ⟨t + 1, by rw [Function.iterate_succ_apply, hfirst, ht]⟩

theorem leads_refl (a : Claimant) (p : Progress) (h : Host) : a.Leads p h p h := ⟨0, rfl⟩

theorem leads_release (a : Claimant) (verdict : Except ModuleError Unit) (c : Nat)
    (done rest : List CodeId) (hcode : a.code.take c = done ++ rest) (h : Host) :
    a.Leads ⟨c, .releasing done.length verdict⟩ h ⟨c, .ended verdict⟩
      (h.releaseAll a.module rest) := by
  induction rest generalizing done h with
  | nil =>
      rw [releaseAll, List.foldl_nil]
      refine leads_of_advance ?_ (leads_refl _ _ _)
      simp [advance, hcode]
  | cons id rest ih =>
      have hnext := ih (done ++ [id]) (by simp [hcode]) (h.unbind a.module id)
      rw [List.length_append, List.length_singleton] at hnext
      refine leads_of_advance ?_ hnext
      simp [advance, hcode]

theorem leads_claim (a : Claimant) (done rest : List CodeId) (hcode : a.code = done ++ rest)
    (h : Host) :
    ∃ c, a.Leads ⟨done.length, .claiming⟩ h
      ⟨c, .ended (a.conclude (claimFrom a.module done rest h)).1⟩
      (a.conclude (claimFrom a.module done rest h)).2 := by
  induction rest generalizing done h with
  | nil =>
      rw [List.append_nil] at hcode
      refine ⟨done.length, ?_⟩
      by_cases ha : a.Ordinary
      · simp only [claimFrom, conclude, if_pos ha]
        refine leads_of_advance ?_ (leads_refl _ _ _)
        simp [advance, hcode, afterClaiming, ha]
      · simp only [claimFrom, conclude, if_neg ha]
        have hrelease := leads_release a (.ok ()) done.length [] a.code (by simp [hcode]) h
        refine leads_of_advance ?_ hrelease
        simp [advance, hcode, afterClaiming, ha]
  | cons id rest ih =>
      rw [claimFrom]
      cases hbind : h.bind a.module id with
      | error e =>
          have hrelease := leads_release a (.error e) done.length [] done (by simp [hcode]) h
          refine ⟨done.length, leads_of_advance ?_ hrelease⟩
          simp [advance, hcode, hbind]
      | ok h₁ =>
          obtain ⟨c, hnext⟩ := ih (done ++ [id]) (by simp [hcode]) h₁
          rw [List.length_append, List.length_singleton] at hnext
          refine ⟨c, leads_of_advance ?_ hnext⟩
          simp [advance, hcode, hbind]

/-- **Claiming one object at a time is claiming.**  An assembly that nobody interrupts ends with
the verdict of `claimAll`, and leaves what `claimAll` leaves, or what is left of that when a
bootstrap module gives its code back. -/
theorem alone_claimPhase (a : Claimant) (h : Host) :
    ∃ c, a.Leads {} h ⟨c, .ended (a.claimPhase h).1⟩ (a.claimPhase h).2 :=
  a.leads_claim [] a.code (List.nil_append a.code).symm h

end Claimant

/-- The assembly that creating a module is. -/
def claimant (h : Host) (name : String) (ids : List CodeId) : Claimant :=
  ⟨.ofCount h.store.modules, name, ids⟩

/-- Creating a module, after all providers were found, has the verdict and the owners of claiming
the code. -/
theorem createModule_claimPhase {h : Host} {c : Compiler} {name : String} {ids : List CodeId}
    (scope : Option ScopeId) (hfound : h.ProvidersFound c name ids) :
    (h.createModule c name scope ids).1.map (fun _ => ()) =
        ((h.claimant name ids).claimPhase (h.beforeClaim c name ids)).1 ∧
      KeepsOwners ((h.claimant name ids).claimPhase (h.beforeClaim c name ids)).2
        (h.createModule c name scope ids).2 := by
  obtain ⟨providers, hfails, hsucceeds⟩ := createModule_of_resolvable scope hfound
  rw [Claimant.claimPhase, claimant]
  cases hclaim : (h.beforeClaim c name ids).claimAll (.ofCount h.store.modules) ids with
  | mk verdict h' =>
      cases verdict with
      | error e =>
          rw [hfails e h' hclaim]
          exact ⟨rfl, .refl h'⟩
      | ok u =>
          rw [hsucceeds h' hclaim]
          refine ⟨rfl, ?_⟩
          have hfinish := finish_owner h' c (.ofCount h.store.modules) name scope ids providers
          rw [Claimant.conclude]
          split
          · next hordinary =>
              have hname : name ≠ bootstrapName := hordinary
              rwa [if_neg hname] at hfinish
          · next hbootstrap =>
              have hname : name = bootstrapName := not_not.1 hbootstrap
              rwa [if_pos hname] at hfinish

end Polyglot.Host
