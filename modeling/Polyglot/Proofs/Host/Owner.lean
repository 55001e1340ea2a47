import Polyglot.Module
import Polyglot.Proofs.Host.Compiling
import Polyglot.Proofs.Store.Numbers

/-!
# Polyglot.Proofs.Host.Owner

Who owns code, and what leaves that alone.  Owners change where code is claimed and where it is
given back (`owner_ownedBy`, `owner_releaseAll`), and nowhere else: compiling adds code that
nobody owns (`Adds.keepsOwners`), and linking, preparing, announcing and running keep every owner
(`keepsOwners_moduleScope` to `keepsOwners_execute`).
-/

namespace Polyglot.Host

open Polyglot.Language

/-- Between the two states no code changed its owner, and neither code nor a module number was
taken back. -/
structure KeepsOwners (h h' : Host) : Prop where
  owner : ∀ id, h'.owner id = h.owner id
  codes : h.codes.size ≤ h'.codes.size
  modules : h.store.modules ≤ h'.store.modules

namespace KeepsOwners

theorem refl (h : Host) : KeepsOwners h h := ⟨fun _ => rfl, Nat.le_refl _, Nat.le_refl _⟩

theorem trans {h₁ h₂ h₃ : Host} (h₁₂ : KeepsOwners h₁ h₂) (h₂₃ : KeepsOwners h₂ h₃) :
    KeepsOwners h₁ h₃ :=
  ⟨fun id => (h₂₃.owner id).trans (h₁₂.owner id), Nat.le_trans h₁₂.codes h₂₃.codes,
    Nat.le_trans h₁₂.modules h₂₃.modules⟩

/-- The state that a step was seen to end in. -/
theorem ends {α : Type} {h h' : Host} {r : α × Host} {a : α} (hk : KeepsOwners h r.2)
    (hr : r = (a, h')) : KeepsOwners h h' := by
  rw [hr] at hk
  exact hk

/-- Only code and the counter of modules matter. -/
theorem of_codes_eq {h h' : Host} (hcodes : h'.codes = h.codes)
    (hmodules : h.store.modules ≤ h'.store.modules) : KeepsOwners h h' :=
  ⟨fun id => by rw [Host.owner, Host.code, hcodes, Host.owner, Host.code],
    Nat.le_of_eq (congrArg Heap.size hcodes.symm), hmodules⟩

end KeepsOwners

theorem Adds.keepsOwners {h h' : Host} (ha : Adds h h') : KeepsOwners h h' :=
  ⟨ha.owner, ha.size, Nat.le_of_eq (congrArg Store.modules ha.store.symm)⟩

theorem OnlyLoads.keepsOwners {h h' : Host} (hl : OnlyLoads h h') : KeepsOwners h h' :=
  .of_codes_eq hl.codes (Nat.le_of_eq (congrArg Store.modules hl.store.symm))

/-! ## Owners after claiming and giving back -/

section Owners

variable (h : Host)

theorem owner_setCode (id : CodeId) (c : Code) (j : CodeId) :
    (h.setCode id c).owner j =
      if j = id ∧ id.index < h.codes.size then c.owner else h.owner j := by
  rcases Nat.lt_or_ge id.index h.codes.size with hlt | hge
  · rw [owner, code_setCode h c hlt]
    by_cases hj : j = id
    · rw [if_pos hj, if_pos ⟨hj, hlt⟩]
    · rw [if_neg hj, if_neg (fun hc => hj hc.1), owner]
  · rw [setCode_of_ge c hge, if_neg (fun hc => Nat.not_lt.2 hge hc.2)]

theorem owner_ownedBy (m : ModuleId) (taken : CodeId → Bool) (j : CodeId) :
    (h.ownedBy m taken).owner j =
      if taken j = true ∧ j.index < h.codes.size then some m else h.owner j := by
  cases hc : h.codes.get? j.index with
  | none =>
      have hge := Heap.get?_eq_none_iff.1 hc
      rw [if_neg (fun ht => Nat.not_lt.2 hge ht.2), owner_of_ge h hge, owner,
        code_ownedBy_of_none hc]
      rfl
  | some c =>
      rw [owner, code_ownedBy_of_get? hc, owner, code_of_get? hc]
      by_cases ht : taken j = true <;> simp [ht, Heap.lt_size_of_get? hc]

@[simp] theorem size_ownedBy (m : ModuleId) (taken : CodeId → Bool) :
    (h.ownedBy m taken).codes.size = h.codes.size := by
  simp [ownedBy, Heap.size]

theorem owner_unbind (m : ModuleId) (id j : CodeId) :
    (h.unbind m id).owner j = if j = id ∧ h.owner j = some m then none else h.owner j := by
  rw [unbind, owner_setCode]
  by_cases hj : j = id
  · subst hj
    rcases Nat.lt_or_ge j.index h.codes.size with hlt | hge
    · rw [if_pos ⟨rfl, hlt⟩, Code.unbind, ← owner]
      by_cases ho : h.owner j = some m
      · rw [if_pos ho, if_pos ⟨rfl, ho⟩]
      · rw [if_neg ho, if_neg (fun hc => ho hc.2), owner]
    · rw [if_neg (fun hc => Nat.not_lt.2 hge hc.2), owner_of_ge h hge,
        if_neg (fun hc => Option.some_ne_none m hc.2.symm)]
  · rw [if_neg (fun hc => hj hc.1), if_neg (fun hc => hj hc.1)]

theorem owner_releaseAll (m : ModuleId) (ids : List CodeId) (j : CodeId) :
    (h.releaseAll m ids).owner j = if j ∈ ids ∧ h.owner j = some m then none else h.owner j := by
  induction ids generalizing h with
  | nil => simp [releaseAll]
  | cons id ids ih =>
      rw [releaseAll, List.foldl_cons, ← releaseAll, ih, owner_unbind]
      by_cases hj : j = id <;> by_cases ho : h.owner j = some m <;> simp [hj, ho]

@[simp] theorem size_setCode (id : CodeId) (c : Code) :
    (h.setCode id c).codes.size = h.codes.size := by
  simp [setCode]

@[simp] theorem size_releaseAll (m : ModuleId) (ids : List CodeId) :
    (h.releaseAll m ids).codes.size = h.codes.size := by
  induction ids generalizing h with
  | nil => rfl
  | cons id ids ih => rw [releaseAll, List.foldl_cons, ← releaseAll, ih, unbind, size_setCode]

@[simp] theorem store_releaseAll (m : ModuleId) (ids : List CodeId) :
    (h.releaseAll m ids).store = h.store := by
  induction ids generalizing h with
  | nil => rfl
  | cons id ids ih =>
      rw [releaseAll, List.foldl_cons, ← releaseAll, ih]
      rfl

end Owners

/-! ## Linking, preparing and announcing -/

theorem keepsOwners_emit (h : Host) (e : Event) : KeepsOwners h (h.emit e) :=
  .of_codes_eq rfl (Nat.le_refl _)

theorem keepsOwners_setStore {h : Host} {st : Store} (hle : h.store.modules ≤ st.modules) :
    KeepsOwners h (h.setStore st) :=
  .of_codes_eq rfl hle

theorem keepsOwners_setCode {h : Host} {id : CodeId} {c : Code}
    (hc : c.owner = (h.code id).owner) : KeepsOwners h (h.setCode id c) := by
  refine ⟨fun j => ?_, by simp, Nat.le_refl _⟩
  rw [owner_setCode]
  split
  · next hj => rw [hc, hj.1, owner]
  · rfl

theorem keepsOwners_linkCode (l : Linkage) (h : Host) (id : CodeId) :
    KeepsOwners h (linkCode l h id) := by
  have hset : KeepsOwners h (h.setCode id
      { h.code id with compiled := (h.code id).compiled.link l }) := keepsOwners_setCode rfl
  simp only [linkCode]
  split
  · exact hset.trans (keepsOwners_emit _ _)
  · exact hset

theorem keepsOwners_foldl {α : Type} {f : Host → α → Host}
    (hf : ∀ h a, KeepsOwners h (f h a)) (as : List α) (h : Host) :
    KeepsOwners h (as.foldl f h) :=
  List.foldlRecOn as f (.refl h) fun h' hk a _ => hk.trans (hf h' a)

theorem keepsOwners_linkGlobals (h : Host) (ids : List CodeId) :
    KeepsOwners h (h.linkGlobals ids).2 :=
  (keepsOwners_setStore (by simp)).trans (keepsOwners_foldl (keepsOwners_linkCode _) ids _)

theorem keepsOwners_moduleScope (h : Host) (o : Options) (scope : Option ScopeId)
    (ids : List CodeId) : KeepsOwners h (h.moduleScope o scope ids).2 := by
  simp only [moduleScope]
  split
  · exact .refl h
  · split
    · exact (keepsOwners_linkGlobals h ids).trans (keepsOwners_setStore (by simp))
    · exact keepsOwners_setStore (by simp)

theorem keepsOwners_prepare (m : Module) (h : Host) (p : ProviderId) :
    KeepsOwners h (prepare m h p) := by
  simp only [prepare]
  split
  · split
    · exact .refl h
    · exact keepsOwners_emit h _
  · exact .of_codes_eq rfl (Nat.le_refl _)

theorem keepsOwners_announce (h : Host) (l : Listener) (m : Module) :
    KeepsOwners h (h.announce l m) := by
  cases l with
  | silent => exact .refl h
  | recording => exact keepsOwners_emit h _

/-! ## Running -/

theorem keepsOwners_runCode (h : Host) (id : CodeId) (c : Context) :
    KeepsOwners h (h.runCode id c).2 := by
  simp only [runCode]
  split
  · exact .refl h
  · exact .of_codes_eq rfl (Nat.le_of_eq (Script.modules_runAll _ _ _ _ _).symm)
  · exact keepsOwners_setStore (Nat.le_of_eq (Tally.modules_run _ _ _ _ _).symm)

theorem keepsOwners_runCodes (c : Context) (ids : List CodeId) (last : Value) (h : Host) :
    KeepsOwners h (runCodes c ids last h).2 := by
  induction ids generalizing last h with
  | nil => exact .refl h
  | cons id ids ih =>
      have hfirst := keepsOwners_runCode h id c
      simp only [runCodes]
      split
      · next e h' hr => exact hfirst.ends hr
      · next v h' hr => exact (hfirst.ends hr).trans (ih v h')

theorem keepsOwners_execute (h : Host) (m : Module) : KeepsOwners h (h.execute m).2 :=
  (keepsOwners_setStore (by simp)).trans (keepsOwners_runCodes _ _ _ _)

end Polyglot.Host
