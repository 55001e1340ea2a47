import Mathlib.Data.List.Induction
import Polyglot.Call.Site
import Polyglot.Proofs.Call.Guard

/-!
# Polyglot.Proofs.Call.Site

What remembering does to a call site: nothing but save searches.  The state of a site after any
calls is a function of the calls alone (`after_new`):

```
choice = the last shape that could be bound, with the candidate a search finds for it
binds  = how many calls had another shape than the last call before them that could be bound
```

Since the remembered guard is that of one shape and no other, a remembered candidate is used for
that shape only, and for that shape a search would find it again.  So a site answers every call
like one that remembers nothing (`answers_like_new_site`).
-/

namespace Polyglot

/-- One use of a call site: the candidate is asked for, or it is called as well. -/
inductive Call where
  | bind (c : Context) (s : Shape)
  | invoke (st : Store) (c : Context) (args : List Value)

namespace Call

/-- The context of a call. -/
def context : Call → Context
  | bind c _ => c
  | invoke _ c _ => c

/-- The shape of a call. -/
def shape : Call → Shape
  | bind _ s => s
  | invoke _ _ args => .ofArgs args

/-- What a call answers. -/
inductive Answer where
  | bound (result : Except BindingError Candidate)
  | value (result : Except RuntimeError Value)

/-- The answer to a call of a site with this name when `m` is the candidate for it. -/
def answer (name : Symbol) (m : Option Candidate) : Call → Answer
  | bind _ s =>
    .bound (match m with
      | some m => .ok m
      | none => .error (.noApplicableMethod name.text s.display))
  | invoke st c args =>
    .value (match m with
      | some m => m.invoke st c args
      | none => .error (.binding (.noApplicableMethod name.text (Shape.ofArgs args).display)))

end Call

/-- Whether a call can be bound to the candidate: the guard for the call's shape holds for it. -/
def Candidate.Takes (m : Candidate) (call : Call) : Prop :=
  (m.builders.guard call.context call.shape).holds call.shape = true

instance (m : Candidate) (call : Call) : Decidable (m.Takes call) :=
  inferInstanceAs (Decidable (_ = true))

/-! ## Histories of calls -/

section History

variable (ms : List Candidate)

/-- Whether the candidate at a place is the first that a call can be bound to. -/
def FirstFor (call : Call) (i : Nat) : Prop :=
  (∃ m, ms[i]? = some m ∧ m.Takes call) ∧ ∀ j m, j < i → ms[j]? = some m → ¬ m.Takes call

/-- The shape of the last call that could be bound. -/
def lastBound (calls : List Call) : Option Shape :=
  ((calls.filter fun call => ms.any fun m => decide (m.Takes call)).getLast?).map Call.shape

/-- How many calls had another shape than the last call before them that could be bound. -/
def rebinds (calls : List Call) : Nat :=
  (List.range calls.length).countP fun i =>
    decide (lastBound ms (calls.take i) ≠ (calls[i]?).map Call.shape)

theorem lastBound_concat (calls : List Call) (call : Call) :
    lastBound ms (calls ++ [call]) =
      if ∃ m ∈ ms, m.Takes call then some call.shape else lastBound ms calls := by
  have hany : (ms.any fun m => decide (m.Takes call)) = true ↔ ∃ m ∈ ms, m.Takes call := by simp
  by_cases h : ∃ m ∈ ms, m.Takes call
  · rw [if_pos h, lastBound, List.filter_append, List.filter_cons, if_pos (hany.2 h),
      List.filter_nil, List.getLast?_concat, Option.map_some]
  · rw [if_neg h, lastBound, List.filter_append, List.filter_cons,
      if_neg (fun hc => h (hany.1 hc)), List.filter_nil, List.append_nil, lastBound]

theorem rebinds_concat (calls : List Call) (call : Call) :
    rebinds ms (calls ++ [call]) =
      rebinds ms calls + if lastBound ms calls = some call.shape then 0 else 1 := by
  have hearlier : (List.range calls.length).countP (fun i =>
      decide (lastBound ms ((calls ++ [call]).take i) ≠ ((calls ++ [call])[i]?).map Call.shape)) =
      rebinds ms calls := by
    refine List.countP_congr fun i hi => ?_
    have hi : i < calls.length := List.mem_range.1 hi
    rw [List.take_append_of_le_length (Nat.le_of_lt hi), List.getElem?_append_left hi]
  rw [rebinds, List.length_append, List.length_singleton, List.range_succ, List.countP_append,
    hearlier, List.countP_singleton, List.take_left, List.getElem?_concat_length, Option.map_some]
  by_cases h : lastBound ms calls = some call.shape <;> simp [h]

end History

/-! ## The state of a site after calls -/

namespace CallSite

/-- A site that was not used yet. -/
@[reducible]
def new (name : Symbol) (ms : List Candidate) : CallSite := { name, candidates := ms }

/-- Use a site once. -/
def step (site : CallSite) : Call → Call.Answer × CallSite
  | .bind c s => (.bound (site.bind c s).1, (site.bind c s).2)
  | .invoke st c args => (.value (site.invoke st c args).1, (site.invoke st c args).2)

/-- A site after calls. -/
def after (site : CallSite) (calls : List Call) : CallSite :=
  calls.foldl (fun site call => (site.step call).2) site

/-- The first candidate that a search finds; the context plays no part in it. -/
def firstTaking (ms : List Candidate) (s : Shape) : Option (Fin ms.length) :=
  ms.findFinIdx? fun m => m.accepts .empty s

theorem search_eq_firstTaking (site : CallSite) (c : Context) (s : Shape) :
    site.search c s = firstTaking site.candidates s := rfl

theorem firstTaking_isSome_iff (ms : List Candidate) (call : Call) :
    (firstTaking ms call.shape).isSome = true ↔ ∃ m ∈ ms, m.Takes call := by
  rw [firstTaking, List.isSome_findFinIdx?, List.any_eq_true]
  rfl

/-- A shape that could be bound once can be bound again, in whatever context. -/
theorem firstTaking_isSome_of_lastBound {ms : List Candidate} {calls : List Call} {s : Shape}
    (h : lastBound ms calls = some s) : (firstTaking ms s).isSome = true := by
  obtain ⟨call, hlast, rfl⟩ := Option.map_eq_some_iff.1 h
  have hbound := (List.mem_filter.1 (List.mem_of_getLast? hlast)).2
  rw [firstTaking_isSome_iff]
  obtain ⟨m, hm, htakes⟩ := List.any_eq_true.1 hbound
  exact ⟨m, hm, of_decide_eq_true htakes⟩

/-- What a site remembers after calls. -/
def choiceAfter (ms : List Candidate) (calls : List Call) : Option (Fin ms.length × Guard) :=
  (lastBound ms calls).bind fun s => (firstTaking ms s).map fun i => (i, .exact s)

/-- The state of a site with these candidates after calls. -/
@[reducible]
def stateAfter (name : Symbol) (ms : List Candidate) (calls : List Call) : CallSite where
  name := name
  candidates := ms
  choice := choiceAfter ms calls
  binds := rebinds ms calls

/-- The remembered candidate is the one that a search finds. -/
theorem remembered_stateAfter (name : Symbol) (ms : List Candidate) (calls : List Call)
    (s : Shape) :
    (stateAfter name ms calls).remembered s =
      if lastBound ms calls = some s then firstTaking ms s else none := by
  simp only [remembered, choiceAfter]
  cases hlast : lastBound ms calls with
  | none => simp
  | some t =>
      obtain ⟨i, hfound⟩ := Option.isSome_iff_exists.1 (firstTaking_isSome_of_lastBound hlast)
      by_cases hts : t = s
      · subst hts
        simp [hfound]
      · simp [hfound, hts]

/-- One more call leaves the site's memory alone or replaces it by what a search finds. -/
theorem choiceAfter_concat (ms : List Candidate) (calls : List Call) (call : Call) :
    choiceAfter ms (calls ++ [call]) =
      match firstTaking ms call.shape with
      | some i => some (i, .exact call.shape)
      | none => choiceAfter ms calls := by
  rw [choiceAfter, lastBound_concat]
  cases hfound : firstTaking ms call.shape with
  | none =>
      have hnone : ¬ ∃ m ∈ ms, m.Takes call := by
        rw [← firstTaking_isSome_iff, hfound]
        simp
      rw [if_neg hnone, choiceAfter]
  | some i =>
      have hsome : ∃ m ∈ ms, m.Takes call := by
        rw [← firstTaking_isSome_iff, hfound]
        rfl
      rw [if_pos hsome, Option.bind_some, hfound, Option.map_some]

/-- A call that cannot be bound changes only how many searches were made. -/
theorem stateAfter_concat_of_none (name : Symbol) {ms : List Candidate} (calls : List Call)
    {call : Call} (h : firstTaking ms call.shape = none) :
    stateAfter name ms (calls ++ [call]) =
      { stateAfter name ms calls with binds := rebinds ms calls + 1 } := by
  have hlast : lastBound ms calls ≠ some call.shape := fun hlast => by
    simpa [h] using firstTaking_isSome_of_lastBound hlast
  have hchoice : choiceAfter ms (calls ++ [call]) = choiceAfter ms calls := by
    rw [choiceAfter_concat, h]
  have hbinds : rebinds ms (calls ++ [call]) = rebinds ms calls + 1 := by
    rw [rebinds_concat, if_neg hlast]
  simp only [stateAfter, hchoice, hbinds]

/-- Choosing a candidate finds what a search finds, and brings the site to the state after one
more call. -/
theorem choose_stateAfter (name : Symbol) (ms : List Candidate) (calls : List Call) (call : Call) :
    (stateAfter name ms calls).choose call.context call.shape =
      (firstTaking ms call.shape, stateAfter name ms (calls ++ [call])) := by
  rw [choose, remembered_stateAfter, search_eq_firstTaking]
  by_cases hlast : lastBound ms calls = some call.shape
  · -- The call repeats the last shape that could be bound, so nothing is searched for.
    obtain ⟨i, hfound⟩ := Option.isSome_iff_exists.1 (firstTaking_isSome_of_lastBound hlast)
    have hchoice : choiceAfter ms (calls ++ [call]) = choiceAfter ms calls := by
      rw [choiceAfter_concat, hfound, choiceAfter, hlast, Option.bind_some, hfound, Option.map_some]
    have hbinds : rebinds ms (calls ++ [call]) = rebinds ms calls := by
      rw [rebinds_concat, if_pos hlast, Nat.add_zero]
    simp only [if_pos hlast, hfound, stateAfter, hchoice, hbinds]
  · cases hfound : firstTaking ms call.shape with
    | none => simp only [if_neg hlast, stateAfter_concat_of_none name calls hfound]
    | some i =>
        have hchoice : choiceAfter ms (calls ++ [call]) = some (i, .exact call.shape) := by
          rw [choiceAfter_concat, hfound]
        have hbinds : rebinds ms (calls ++ [call]) = rebinds ms calls + 1 := by
          rw [rebinds_concat, if_neg hlast]
        simp only [if_neg hlast, stateAfter, hchoice, hbinds]

/-- Every use of a site that choosing brings to a state brings it there too, and answers for the
chosen candidate. -/
theorem step_eq_of_choose {site later : CallSite} {call : Call}
    {i : Option (Fin site.candidates.length)}
    (h : site.choose call.context call.shape = (i, later)) :
    site.step call = (call.answer site.name (i.map site.candidates.get), later) := by
  cases call with
  | bind c s =>
      change site.choose c s = (i, later) at h
      cases i <;> simp only [step, bind, h, Call.answer, Option.map_none, Option.map_some]
  | invoke st c args =>
      change site.choose c (.ofArgs args) = (i, later) at h
      cases i <;> simp only [step, invoke, bind, h, Call.answer, Option.map_none, Option.map_some]

/-- Binding fails exactly when no candidate is chosen. -/
theorem bind_eq_error_iff {site later : CallSite} {c : Context} {s : Shape}
    {i : Option (Fin site.candidates.length)} (h : site.choose c s = (i, later)) :
    (site.bind c s).1 = .error (.noApplicableMethod site.name.text s.display) ↔
      i.map Fin.val = none := by
  cases i <;> simp [bind, h]

theorem step_stateAfter (name : Symbol) (ms : List Candidate) (calls : List Call) (call : Call) :
    (stateAfter name ms calls).step call =
      (call.answer name ((firstTaking ms call.shape).map ms.get),
        stateAfter name ms (calls ++ [call])) :=
  step_eq_of_choose (choose_stateAfter name ms calls call)

/-- The state of a site is a function of the calls that were made. -/
theorem after_new (name : Symbol) (ms : List Candidate) (calls : List Call) :
    (new name ms).after calls = stateAfter name ms calls := by
  induction calls using List.reverseRecOn with
  | nil => rfl
  | append_singleton calls call ih =>
      rw [after, List.foldl_append, List.foldl_cons, List.foldl_nil, ← after, ih, step_stateAfter]

/-! ## The main result -/

theorem firstTaking_eq_some_iff (ms : List Candidate) (call : Call) (i : Nat) :
    (firstTaking ms call.shape).map Fin.val = some i ↔ FirstFor ms call i := by
  rw [firstTaking, ← List.findIdx?_eq_map_findFinIdx?_val, List.findIdx?_eq_some_iff_getElem]
  constructor
  · rintro ⟨hi, htakes, hbefore⟩
    refine ⟨⟨ms[i], List.getElem?_eq_getElem hi, htakes⟩, fun j m hj hm => ?_⟩
    obtain ⟨hlt, rfl⟩ := List.getElem?_eq_some_iff.1 hm
    exact hbefore j hj
  · rintro ⟨⟨m, hm, htakes⟩, hbefore⟩
    obtain ⟨hi, rfl⟩ := List.getElem?_eq_some_iff.1 hm
    exact ⟨hi, htakes, fun j hj => hbefore j _ hj (List.getElem?_eq_getElem (Nat.lt_trans hj hi))⟩

theorem firstTaking_eq_none_iff (ms : List Candidate) (call : Call) :
    (firstTaking ms call.shape).map Fin.val = none ↔ ∀ m ∈ ms, ¬ m.Takes call := by
  rw [Option.map_eq_none_iff, ← Option.not_isSome_iff_eq_none, firstTaking_isSome_iff]
  simp

/-- **Transparency of the memory of a call site**: after any calls, failed ones among them, a
site chooses for the next call what a site chooses that was not used yet, which is the first
candidate whose guard holds for the call, and it answers that no method is applicable exactly
when there is none.  It searched once for every call whose shape was not that of the last call
before it that could be bound, and a call that cannot be bound changes nothing but that number. -/
theorem answers_like_new_site (name : Symbol) (ms : List Candidate) (earlier : List Call)
    (call : Call) :
    let site := (new name ms).after earlier
    let chosen := (site.choose call.context call.shape).1.map Fin.val
    chosen = ((new name ms).choose call.context call.shape).1.map Fin.val ∧
    (∀ i, chosen = some i ↔ FirstFor ms call i) ∧
    (chosen = none ↔ ∀ m ∈ ms, ¬ m.Takes call) ∧
    ((site.bind call.context call.shape).1 =
        .error (.noApplicableMethod name.text call.shape.display) ↔ chosen = none) ∧
    (site.step call).1 = ((new name ms).step call).1 ∧
    (site.step call).1 = call.answer name (chosen.bind fun i => ms[i]?) ∧
    site.binds = rebinds ms earlier ∧
    (chosen = none → (site.step call).2 = { site with binds := site.binds + 1 }) := by
  have hchoose := choose_stateAfter name ms earlier call
  have hnew : (new name ms).choose call.context call.shape =
      (firstTaking ms call.shape, stateAfter name ms [call]) := choose_stateAfter name ms [] call
  have hpick : ((firstTaking ms call.shape).map Fin.val).bind (fun i => ms[i]?) =
      (firstTaking ms call.shape).map ms.get := by
    cases firstTaking ms call.shape <;> simp
  rw [after_new]
  intro site chosen
  have hchosen : chosen = (firstTaking ms call.shape).map Fin.val := by
    simp only [chosen, site, hchoose]
  rw [hchosen, step_stateAfter, step_eq_of_choose hnew, hnew]
  refine ⟨rfl, firstTaking_eq_some_iff ms call, firstTaking_eq_none_iff ms call,
    bind_eq_error_iff hchoose, rfl, by rw [hpick], rfl, fun hnone => ?_⟩
  exact stateAfter_concat_of_none name earlier (Option.map_eq_none_iff.1 hnone)

end CallSite

end Polyglot
