import Polyglot.Host.Assembly

/-!
# Polyglot.Proofs.Host.Claim

Claiming code for a module and giving it back.  `h.ownedBy m taken` is the host `h` in which the
module `m` owns the code objects in `taken` besides, and with a number `m` that owns nothing yet

* claiming code that nobody owns leads to `ownedBy` for that code (`claimAll_of_free`);
* claiming code of which somebody owns a part fails at the first such object and gives back what
  was claimed before it, so that the host is the one from before (`claimAll_of_owned`);
* giving back takes the code out of `ownedBy` again (`releaseAll_ownedBy`).

A code object may occur in a list more than once.
-/

namespace Polyglot.Host

/-! ## Code objects -/

theorem code_addCode (h : Host) (c : Code) (id : CodeId) :
    (h.addCode c).2.code id = if id.index = h.codes.size then c else h.code id := by
  rw [code, addCode, Heap.get?_add]
  by_cases hid : id.index = h.codes.size
  · rw [if_pos hid, if_pos hid, Option.getD_some]
  · rw [if_neg hid, if_neg hid, code]

theorem code_addCode_self (h : Host) (c : Code) : (h.addCode c).2.code (h.addCode c).1 = c := by
  rw [code_addCode]
  exact if_pos rfl

theorem code_setCode (h : Host) {id : CodeId} (c : Code) (hid : id.index < h.codes.size)
    (j : CodeId) : (h.setCode id c).code j = if j = id then c else h.code j := by
  rw [code, setCode, Heap.get?_modify]
  by_cases hj : j = id
  · subst hj
    rw [if_pos rfl, if_pos rfl]
    cases hget : h.codes.get? j.index with
    | none => exact absurd (Heap.get?_eq_none_iff.1 hget) (Nat.not_le.2 hid)
    | some old => rfl
  · have hne : id.index ≠ j.index := fun hi => hj (by cases j; cases id; simp_all)
    rw [if_neg hne, if_neg hj, code]

theorem setCode_of_ge {h : Host} {id : CodeId} (c : Code) (hid : h.codes.size ≤ id.index) :
    h.setCode id c = h := by
  have hcodes : (h.setCode id c).codes = h.codes := Heap.ext_get? fun i => by
    rw [setCode, Heap.get?_modify]
    split
    · next hi =>
        rw [← hi, Heap.get?_eq_none_iff.2 hid]
        rfl
    · rfl
  exact congrArg (fun codes => { h with codes }) hcodes

/-- The module that owns a code object. -/
def owner (h : Host) (id : CodeId) : Option ModuleId := (h.code id).owner

theorem owner_of_ge (h : Host) {id : CodeId} (hge : h.codes.size ≤ id.index) :
    h.owner id = none := by
  rw [owner, code, Heap.get?_eq_none_iff.2 hge]
  rfl

/-! ## Owning besides -/

/-- The host in which a module owns the code objects in `taken` besides. -/
def ownedBy (h : Host) (m : ModuleId) (taken : CodeId → Bool) : Host :=
  { h with codes := ⟨h.codes.cells.mapIdx fun i c =>
      if taken ⟨i⟩ then { c with owner := some m } else c⟩ }

section Claiming

variable {h : Host} {m : ModuleId} {taken : CodeId → Bool}

theorem get?_ownedBy (h : Host) (m : ModuleId) (taken : CodeId → Bool) (i : Nat) :
    (h.ownedBy m taken).codes.get? i =
      (h.codes.get? i).map fun c => if taken ⟨i⟩ then { c with owner := some m } else c := by
  simp [ownedBy, Heap.get?]

theorem ownedBy_nothing (h : Host) (m : ModuleId) : h.ownedBy m (fun _ => false) = h := by
  have hcodes : (h.ownedBy m fun _ => false).codes = h.codes := Heap.ext_get? fun i => by
    simp [get?_ownedBy]
  exact congrArg (fun codes => { h with codes }) hcodes

/-- Replacing one code object of `ownedBy` by what it is in another set of owned code. -/
theorem setCode_ownedBy {id : CodeId} {c : Code} {taken' : CodeId → Bool}
    (hself : ∀ old, h.codes.get? id.index = some old →
      c = if taken' id then { old with owner := some m } else old)
    (hothers : ∀ j, j ≠ id → taken' j = taken j) :
    (h.ownedBy m taken).setCode id c = h.ownedBy m taken' := by
  have hcodes : ((h.ownedBy m taken).setCode id c).codes = (h.ownedBy m taken').codes := by
    refine Heap.ext_get? fun i => ?_
    rw [setCode, Heap.get?_modify, get?_ownedBy, get?_ownedBy]
    by_cases hi : id.index = i
    · subst hi
      cases hold : h.codes.get? id.index with
      | none => simp
      | some old => simpa [hold] using hself old hold
    · have hne : (⟨i⟩ : CodeId) ≠ id := fun hid => hi (by rw [← hid])
      rw [if_neg hi, hothers _ hne]
  exact congrArg (fun codes => { h with codes }) hcodes

theorem code_of_get? {id : CodeId} {c : Code} (hc : h.codes.get? id.index = some c) :
    h.code id = c := by
  rw [code, hc, Option.getD_some]

theorem code_ownedBy_of_get? {id : CodeId} {c : Code} (hc : h.codes.get? id.index = some c) :
    (h.ownedBy m taken).code id = if taken id then { c with owner := some m } else c := by
  rw [code, get?_ownedBy, hc, Option.map_some, Option.getD_some]

theorem code_ownedBy_of_none {id : CodeId} (hc : h.codes.get? id.index = none) :
    (h.ownedBy m taken).code id = default := by
  rw [code, get?_ownedBy, hc, Option.map_none, Option.getD_none]

/-- What claiming one object does when it succeeds. -/
theorem exists_of_bind_eq_ok {h' : Host} {id : CodeId} (hb : h.bind m id = .ok h') :
    ∃ c, (h.code id).bind m = .ok c ∧ h.setCode id c = h' := by
  cases hc : (h.code id).bind m with
  | error e => simp [bind, hc, Except.map] at hb
  | ok c => exact ⟨c, rfl, by simpa [bind, hc, Except.map] using hb⟩

/-- Claiming one object that nobody owns, or that was claimed before. -/
theorem bind_ownedBy {id : CodeId} (hfree : h.owner id = none) :
    (h.ownedBy m taken).bind m id = .ok (h.ownedBy m fun j => taken j || decide (j = id)) := by
  rw [bind]
  cases hc : h.codes.get? id.index with
  | none =>
      rw [code_ownedBy_of_none hc]
      exact congrArg Except.ok (setCode_ownedBy (by simp [hc]) fun j hj => by simp [hj])
  | some c =>
      have hnone : c.owner = none := by rw [← hfree, owner, code_of_get? hc]
      rw [code_ownedBy_of_get? hc]
      cases htaken : taken id <;>
        · simp only [Code.bind, hnone, if_true, if_false, Bool.false_eq_true, Except.map]
          refine congrArg Except.ok (setCode_ownedBy ?_ fun j hj => by simp [hj])
          simp [hc]

/-- Claiming one object that another module owns. -/
theorem bind_ownedBy_error {id : CodeId} {o : ModuleId} (howner : h.owner id = some o)
    (hother : o ≠ m) (htaken : taken id = false) :
    (h.ownedBy m taken).bind m id = .error (.codeAlreadyBound (h.code id).source o.display) := by
  rw [bind]
  cases hc : h.codes.get? id.index with
  | none =>
      rw [owner, code, hc] at howner
      cases howner
  | some c =>
      have hsome : c.owner = some o := by rw [← howner, owner, code_of_get? hc]
      rw [code_ownedBy_of_get? hc, code_of_get? hc, htaken]
      simp [Code.bind, hsome, hother, Except.map]

/-- Giving one object back. -/
theorem unbind_ownedBy {id : CodeId} (hfresh : ∀ j, h.owner j ≠ some m)
    (hfree : ∀ j, taken j = true → h.owner j = none) :
    (h.ownedBy m taken).unbind m id = h.ownedBy m fun j => taken j && decide (j ≠ id) := by
  rw [unbind]
  refine setCode_ownedBy (fun c hc => ?_) fun j hj => by simp [hj]
  have hcode : h.owner id = c.owner := by rw [owner, code_of_get? hc]
  rw [code_ownedBy_of_get? hc]
  cases htaken : taken id with
  | false =>
      have hother : c.owner ≠ some m := hcode ▸ hfresh id
      simp [Code.unbind, hother]
  | true =>
      have hnone : c.owner = none := hcode ▸ hfree id htaken
      simp [Code.unbind, ← hnone]

/-- Giving objects back. -/
theorem releaseAll_ownedBy (hfresh : ∀ j, h.owner j ≠ some m) (ids : List CodeId)
    (hfree : ∀ j, taken j = true → h.owner j = none) :
    (h.ownedBy m taken).releaseAll m ids = h.ownedBy m fun j => taken j && decide (j ∉ ids) := by
  induction ids generalizing taken with
  | nil => simp [releaseAll]
  | cons id ids ih =>
      have hrest : ∀ j, (taken j && decide (j ≠ id)) = true → h.owner j = none := fun j hj =>
        hfree j (Bool.and_eq_true_iff.1 hj).1
      rw [releaseAll, List.foldl_cons, ← releaseAll, unbind_ownedBy hfresh hfree, ih hrest]
      congr 1
      funext j
      simp [Bool.and_assoc]

end Claiming

/-! ## Claiming a list -/

section Lists

variable {h : Host} {m : ModuleId}

/-- Claiming objects that nobody owns, after others were claimed. -/
theorem claimFrom_of_free {ids : List CodeId} (hfree : ∀ id ∈ ids, h.owner id = none)
    (done : List CodeId) :
    claimFrom m done ids (h.ownedBy m fun j => decide (j ∈ done)) =
      (.ok (), h.ownedBy m fun j => decide (j ∈ done ++ ids)) := by
  induction ids generalizing done with
  | nil => simp [claimFrom]
  | cons id ids ih =>
      have hstep : (fun j => decide (j ∈ done) || decide (j = id)) =
          fun j => decide (j ∈ done ++ [id]) := by
        funext j
        simp
      rw [claimFrom, bind_ownedBy (hfree id List.mem_cons_self), hstep]
      simp only
      rw [ih (fun j hj => hfree j (List.mem_cons_of_mem id hj)) (done ++ [id]),
        List.append_assoc, List.singleton_append]

/-- Claiming objects of which one is owned by another module, after others were claimed. -/
theorem claimFrom_of_owned (hfresh : ∀ j, h.owner j ≠ some m) {before : List CodeId}
    {id : CodeId} {o : ModuleId} (after : List CodeId) (hbefore : ∀ j ∈ before, h.owner j = none)
    (howner : h.owner id = some o) (done : List CodeId) (hdone : ∀ j ∈ done, h.owner j = none) :
    claimFrom m done (before ++ id :: after) (h.ownedBy m fun j => decide (j ∈ done)) =
      (.error (.codeAlreadyBound (h.code id).source o.display), h) := by
  induction before generalizing done with
  | nil =>
      have hother : o ≠ m := fun ho => hfresh id (ho ▸ howner)
      have htaken : decide (id ∈ done) = false := by
        rw [decide_eq_false_iff_not]
        intro hmem
        rw [hdone id hmem] at howner
        cases howner
      rw [List.nil_append, claimFrom, bind_ownedBy_error howner hother htaken]
      simp only
      rw [releaseAll_ownedBy hfresh done fun j hj => hdone j (of_decide_eq_true hj)]
      simp [ownedBy_nothing]
  | cons first before ih =>
      have hfirst : h.owner first = none := hbefore first List.mem_cons_self
      have hstep : (fun j => decide (j ∈ done) || decide (j = first)) =
          fun j => decide (j ∈ done ++ [first]) := by
        funext j
        simp
      have hclaimed : ∀ j ∈ done ++ [first], h.owner j = none := by
        intro j hj
        rcases List.mem_append.1 hj with hold | hnew
        · exact hdone j hold
        · exact List.mem_singleton.1 hnew ▸ hfirst
      rw [List.cons_append, claimFrom, bind_ownedBy hfirst, hstep]
      exact ih (fun j hj => hbefore j (List.mem_cons_of_mem first hj)) _ hclaimed

/-- Claiming code that nobody owns. -/
theorem claimAll_of_free {ids : List CodeId} (hfree : ∀ id ∈ ids, h.owner id = none) :
    h.claimAll m ids = (.ok (), h.ownedBy m fun j => decide (j ∈ ids)) := by
  have hclaim := claimFrom_of_free (m := m) hfree []
  simpa [claimAll, ownedBy_nothing] using hclaim

/-- Claiming code of which some is owned already: the first such object is named, and nothing
changes. -/
theorem claimAll_of_owned (hfresh : ∀ j, h.owner j ≠ some m) {before : List CodeId}
    {id : CodeId} {o : ModuleId} (after : List CodeId) (hbefore : ∀ j ∈ before, h.owner j = none)
    (howner : h.owner id = some o) :
    h.claimAll m (before ++ id :: after) =
      (.error (.codeAlreadyBound (h.code id).source o.display), h) := by
  have hclaim := claimFrom_of_owned hfresh after hbefore howner [] fun j hj =>
    absurd hj List.not_mem_nil
  simpa [claimAll, ownedBy_nothing] using hclaim

/-- Either nobody owns any of the code, or there is a first object that somebody owns. -/
theorem free_or_first_owned (h : Host) (ids : List CodeId) :
    (∀ id ∈ ids, h.owner id = none) ∨
      ∃ before id after o, ids = before ++ id :: after ∧ (∀ j ∈ before, h.owner j = none) ∧
        h.owner id = some o := by
  cases hfind : ids.find? fun id => (h.owner id).isSome with
  | none =>
      left
      intro id hid
      have hnone := List.find?_eq_none.1 hfind id hid
      simpa using hnone
  | some id =>
      right
      obtain ⟨hsome, before, after, hsplit, hbefore⟩ := List.find?_eq_some_iff_append.1 hfind
      obtain ⟨o, ho⟩ := Option.isSome_iff_exists.1 hsome
      exact ⟨before, id, after, o, hsplit, fun j hj => by simpa using hbefore j hj, ho⟩

end Lists

end Polyglot.Host
