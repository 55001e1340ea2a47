import Polyglot.Proofs.Host.Owner

/-!
# Polyglot.Proofs.Host.Assembly

How assembling a module can end.  Let `n` be how many module numbers were given out, and let no
code be owned by the module `n`.  Then `createModule` ends in one of three ways:

```
a language cannot be resolved     the error of the first such code     (createModule_of_refused)
code is owned already             the first such code is named         (createModule_of_owned)
neither                           the module `n`, which now owns its
                                  code unless it is the bootstrap one  (createModule_of_free)
```

Languages are looked up code by code, and a lookup may load implementations.  `turnAfter` is the
state in which the lookup for a code object is made, after those for the code before it.
-/

namespace Polyglot.Host

open Polyglot.Language

/-! ## Looking for providers -/

section Turns

/-- The state after the providers of code objects were looked for, one after the other. -/
def turnAfter (h : Host) (r : RegistryId) (before : List CodeId) : Host :=
  before.foldl (fun h id => (h.providerOf r id).2) h

/-- Whether the provider of a code object was not recorded, and the registry refuses to resolve
its language when it is asked after the code in `before`. -/
def Unresolvable (h : Host) (r : RegistryId) (before : List CodeId) (id : CodeId)
    (e : RegistryError) : Prop :=
  (h.code id).provider = none ∧
    ((h.turnAfter r before).resolve r (h.code id).language).1 = .error e

variable {h : Host} {r : RegistryId}

theorem turnAfter_cons (h : Host) (r : RegistryId) (id : CodeId) (ids : List CodeId) :
    h.turnAfter r (id :: ids) = (h.providerOf r id).2.turnAfter r ids := rfl

theorem onlyLoads_providerOf (h : Host) (r : RegistryId) (id : CodeId) :
    OnlyLoads h (h.providerOf r id).2 := by
  simp only [providerOf]
  split
  · exact .refl h
  · exact onlyLoads_resolve h r _

theorem onlyLoads_turnAfter (h : Host) (r : RegistryId) (before : List CodeId) :
    OnlyLoads h (h.turnAfter r before) := by
  induction before generalizing h with
  | nil => exact .refl h
  | cons id before ih => exact (onlyLoads_providerOf h r id).trans (ih _)

theorem unresolvable_nil_iff {id : CodeId} {e : RegistryError} :
    h.Unresolvable r [] id e ↔ (h.providerOf r id).1 = .error e := by
  rw [Unresolvable, providerOf]
  cases (h.code id).provider with
  | none => simp [turnAfter]
  | some p => simp

/-- Asking one code object earlier is asking in the state after it. -/
theorem unresolvable_cons_iff {first id : CodeId} {before : List CodeId} {e : RegistryError} :
    h.Unresolvable r (first :: before) id e ↔
      (h.providerOf r first).2.Unresolvable r before id e := by
  rw [Unresolvable, Unresolvable, (onlyLoads_providerOf h r first).code, turnAfter_cons]

/-- Whether the registry refuses none of the languages it is asked for on behalf of the code. -/
def Resolvable (h : Host) (r : RegistryId) (ids : List CodeId) : Prop :=
  ∀ before id after e, ids = before ++ id :: after → ¬ h.Unresolvable r before id e

theorem resolvable_cons_iff {id : CodeId} {ids : List CodeId} :
    h.Resolvable r (id :: ids) ↔
      (∃ p, (h.providerOf r id).1 = .ok p) ∧ (h.providerOf r id).2.Resolvable r ids := by
  constructor
  · intro hr
    refine ⟨?_, fun before j after e hsplit hu => ?_⟩
    · cases hp : (h.providerOf r id).1 with
      | ok p => exact ⟨p, rfl⟩
      | error e => exact absurd (unresolvable_nil_iff.2 hp) (hr [] id ids e rfl)
    · exact hr (id :: before) j after e (by rw [hsplit, List.cons_append])
        (unresolvable_cons_iff.2 hu)
  · rintro ⟨⟨p, hp⟩, hr⟩ before j after e hsplit hu
    cases before with
    | nil =>
        obtain ⟨rfl, -⟩ := List.cons.inj hsplit
        rw [unresolvable_nil_iff, hp] at hu
        cases hu
    | cons first before =>
        obtain ⟨rfl, hrest⟩ := List.cons.inj hsplit
        exact hr before j after e hrest (unresolvable_cons_iff.1 hu)

/-- All providers are found. -/
theorem distinctProviders_of_resolvable {ids : List CodeId} (hr : h.Resolvable r ids)
    (found : List ProviderId) :
    ∃ ps, distinctProviders r found ids h = (.ok ps, h.turnAfter r ids) := by
  induction ids generalizing h found with
  | nil => exact ⟨found, rfl⟩
  | cons id ids ih =>
      obtain ⟨⟨p, hp⟩, hrest⟩ := resolvable_cons_iff.1 hr
      obtain ⟨ps, hps⟩ := ih hrest (if p ∈ found then found else found ++ [p])
      have hpair : h.providerOf r id = (.ok p, (h.providerOf r id).2) := by rw [← hp]
      refine ⟨ps, ?_⟩
      rw [distinctProviders, hpair, turnAfter_cons]
      exact hps

/-- The first language that is refused ends the search. -/
theorem distinctProviders_of_unresolvable {before after : List CodeId} {id : CodeId}
    {e : RegistryError} (hr : h.Resolvable r before) (hu : h.Unresolvable r before id e)
    (found : List ProviderId) :
    distinctProviders r found (before ++ id :: after) h =
      (.error e, h.turnAfter r (before ++ [id])) := by
  induction before generalizing h found with
  | nil =>
      have hpair : h.providerOf r id = (.error e, (h.providerOf r id).2) := by
        rw [← unresolvable_nil_iff.1 hu]
      rw [List.nil_append, distinctProviders, hpair]
      rfl
  | cons first before ih =>
      obtain ⟨⟨p, hp⟩, hrest⟩ := resolvable_cons_iff.1 hr
      have hpair : h.providerOf r first = (.ok p, (h.providerOf r first).2) := by rw [← hp]
      rw [List.cons_append, distinctProviders, hpair, List.cons_append, turnAfter_cons]
      exact ih hrest (unresolvable_cons_iff.1 hu) _

/-- Either no language is refused, or there is a first one that is. -/
theorem resolvable_or_first_unresolvable (h : Host) (r : RegistryId) (ids : List CodeId) :
    h.Resolvable r ids ∨ ∃ before id after e, ids = before ++ id :: after ∧
      h.Resolvable r before ∧ h.Unresolvable r before id e := by
  induction ids generalizing h with
  | nil =>
      left
      intro before id after e hsplit
      exact absurd (congrArg List.length hsplit) (by simp)
  | cons id ids ih =>
      cases hp : (h.providerOf r id).1 with
      | error e =>
          right
          refine ⟨[], id, ids, e, rfl, fun before j after e' hsplit => ?_,
            unresolvable_nil_iff.2 hp⟩
          exact absurd (congrArg List.length hsplit) (by simp)
      | ok p =>
          rcases ih (h.providerOf r id).2 with hr | ⟨before, j, after, e, rfl, hr, hu⟩
          · exact .inl (resolvable_cons_iff.2 ⟨⟨p, hp⟩, hr⟩)
          · exact .inr ⟨id :: before, j, after, e, rfl, resolvable_cons_iff.2 ⟨⟨p, hp⟩, hr⟩,
              unresolvable_cons_iff.2 hu⟩

theorem onlyLoads_providersToPrepare (h : Host) (c : Compiler) (name : String)
    (ids : List CodeId) : OnlyLoads h (h.providersToPrepare c name ids).2 := by
  rw [providersToPrepare]
  split
  · exact .refl h
  · rcases resolvable_or_first_unresolvable h c.registry ids with
      hr | ⟨before, id, after, e, rfl, hr, hu⟩
    · obtain ⟨ps, hps⟩ := distinctProviders_of_resolvable hr []
      rw [hps]
      exact onlyLoads_turnAfter h c.registry ids
    · rw [distinctProviders_of_unresolvable hr hu []]
      exact onlyLoads_turnAfter h c.registry _

end Turns

/-! ## The three ways to end -/

section Endings

variable {h : Host} {c : Compiler} {name : String} {scope : Option ScopeId} {ids : List CodeId}

/-- Whether the providers that are to prepare a module can all be found. -/
def ProvidersFound (h : Host) (c : Compiler) (name : String) (ids : List CodeId) : Prop :=
  name = bootstrapName ∨ h.Resolvable c.registry ids

/-- What decides how assembly ends. -/
inductive Ending (h : Host) (c : Compiler) (name : String) (ids : List CodeId) : Prop where
  | refused (before : List CodeId) (id : CodeId) (after : List CodeId) (e : RegistryError)
      (hids : ids = before ++ id :: after) (hname : name ≠ bootstrapName)
      (hresolved : h.Resolvable c.registry before)
      (hrefused : h.Unresolvable c.registry before id e)
  | owned (before : List CodeId) (id : CodeId) (after : List CodeId) (o : ModuleId)
      (hids : ids = before ++ id :: after) (hfound : h.ProvidersFound c name ids)
      (hbefore : ∀ j ∈ before, h.owner j = none) (howner : h.owner id = some o)
  | free (hfound : h.ProvidersFound c name ids) (hfree : ∀ j ∈ ids, h.owner j = none)

theorem ending (h : Host) (c : Compiler) (name : String) (ids : List CodeId) :
    Ending h c name ids := by
  by_cases hfound : h.ProvidersFound c name ids
  · rcases free_or_first_owned h ids with hfree | ⟨before, id, after, o, hids, hbefore, howner⟩
    · exact .free hfound hfree
    · exact .owned before id after o hids hfound hbefore howner
  · have hname : name ≠ bootstrapName := fun hb => hfound (.inl hb)
    rcases resolvable_or_first_unresolvable h c.registry ids with
      hr | ⟨before, id, after, e, hids, hr, hu⟩
    · exact absurd (.inr hr) hfound
    · exact .refused before id after e hids hname hr hu

/-- The state in which code is claimed for the module: languages were loaded, and the number of
the module is taken. -/
def beforeClaim (h : Host) (c : Compiler) (name : String) (ids : List CodeId) : Host :=
  let loaded := if name = bootstrapName then h else h.turnAfter c.registry ids
  loaded.setStore loaded.store.nextModule.2

theorem onlyLoads_beforeClaim (h : Host) (c : Compiler) (name : String) (ids : List CodeId) :
    ∃ loaded, OnlyLoads h loaded ∧
      h.beforeClaim c name ids = loaded.setStore h.store.nextModule.2 := by
  refine ⟨if name = bootstrapName then h else h.turnAfter c.registry ids, ?_, ?_⟩
  · split
    · exact .refl h
    · exact onlyLoads_turnAfter h c.registry ids
  · rw [beforeClaim]
    split
    · rfl
    · rw [(onlyLoads_turnAfter h c.registry ids).store]

theorem keepsOwners_beforeClaim (h : Host) (c : Compiler) (name : String) (ids : List CodeId) :
    KeepsOwners h (h.beforeClaim c name ids) := by
  obtain ⟨loaded, hl, heq⟩ := onlyLoads_beforeClaim h c name ids
  rw [heq]
  exact hl.keepsOwners.trans (keepsOwners_setStore (by rw [hl.store]; simp))

@[simp] theorem modules_beforeClaim (h : Host) (c : Compiler) (name : String)
    (ids : List CodeId) :
    (h.beforeClaim c name ids).store.modules = h.store.modules + 1 := by
  obtain ⟨loaded, -, heq⟩ := onlyLoads_beforeClaim h c name ids
  rw [heq]
  rfl

@[simp] theorem code_beforeClaim (h : Host) (c : Compiler) (name : String) (ids : List CodeId)
    (id : CodeId) : (h.beforeClaim c name ids).code id = h.code id := by
  obtain ⟨loaded, hl, heq⟩ := onlyLoads_beforeClaim h c name ids
  rw [heq]
  exact hl.code id

@[simp] theorem size_beforeClaim (h : Host) (c : Compiler) (name : String) (ids : List CodeId) :
    (h.beforeClaim c name ids).codes.size = h.codes.size := by
  obtain ⟨loaded, hl, heq⟩ := onlyLoads_beforeClaim h c name ids
  rw [heq]
  exact congrArg Heap.size hl.codes

/-- A language that the registry refuses ends the assembly before a number is taken. -/
theorem createModule_of_refused {before after : List CodeId} {id : CodeId} {e : RegistryError}
    (hname : name ≠ bootstrapName) (hr : h.Resolvable c.registry before)
    (hu : h.Unresolvable c.registry before id e) :
    h.createModule c name scope (before ++ id :: after) =
      (.error (.registry e), h.turnAfter c.registry (before ++ [id])) := by
  rw [createModule, providersToPrepare, if_neg hname, distinctProviders_of_unresolvable hr hu []]

/-- Assembly after all providers were found: it ends as claiming the code does. -/
theorem createModule_of_resolvable (scope : Option ScopeId)
    (hr : h.ProvidersFound c name ids) :
    ∃ providers,
      (∀ e h', (h.beforeClaim c name ids).claimAll (.ofCount h.store.modules) ids =
          (.error e, h') →
        h.createModule c name scope ids = (.error e, h')) ∧
      ∀ h', (h.beforeClaim c name ids).claimAll (.ofCount h.store.modules) ids = (.ok (), h') →
        h.createModule c name scope ids =
          (.ok (h'.finish c (.ofCount h.store.modules) name scope ids providers).1,
            (h'.finish c (.ofCount h.store.modules) name scope ids providers).2) := by
  obtain ⟨providers, loaded, hfound, hstore, hbefore⟩ : ∃ providers loaded,
      h.providersToPrepare c name ids = (.ok providers, loaded) ∧ loaded.store = h.store ∧
        h.beforeClaim c name ids = loaded.setStore loaded.store.nextModule.2 := by
    by_cases hname : name = bootstrapName
    · exact ⟨[], h, by rw [providersToPrepare, if_pos hname], rfl, by
        rw [beforeClaim, if_pos hname]⟩
    · obtain ⟨ps, hps⟩ := distinctProviders_of_resolvable (hr.resolve_left hname) []
      exact ⟨ps, _, by rw [providersToPrepare, if_neg hname, hps],
        (onlyLoads_turnAfter h c.registry ids).store, by rw [beforeClaim, if_neg hname]⟩
  have hnumber : loaded.store.nextModule.1 = .ofCount h.store.modules := by rw [hstore]; rfl
  refine ⟨providers, fun e h' hclaim => ?_, fun h' hclaim => ?_⟩
  · rw [createModule, hfound]
    simp only [hnumber, ← hbefore, hclaim]
  · rw [createModule, hfound]
    simp only [hnumber, ← hbefore, hclaim]

/-- Code that somebody owns ends the assembly when it is claimed. -/
theorem createModule_of_owned {before after : List CodeId} {id : CodeId} {o : ModuleId}
    (hr : h.ProvidersFound c name (before ++ id :: after))
    (hfresh : ∀ j, h.owner j ≠ some (.ofCount h.store.modules))
    (hbefore : ∀ j ∈ before, h.owner j = none) (howner : h.owner id = some o) :
    h.createModule c name scope (before ++ id :: after) =
      (.error (.codeAlreadyBound (h.code id).source o.display),
        h.beforeClaim c name (before ++ id :: after)) := by
  have hkeeps := keepsOwners_beforeClaim h c name (before ++ id :: after)
  have hclaim := claimAll_of_owned (h := h.beforeClaim c name (before ++ id :: after))
    (m := .ofCount h.store.modules) (fun j => hkeeps.owner j ▸ hfresh j) after
    (fun j hj => (hkeeps.owner j).trans (hbefore j hj)) ((hkeeps.owner id).trans howner)
  obtain ⟨providers, hfails, -⟩ := createModule_of_resolvable scope hr
  rw [hfails _ _ hclaim, code_beforeClaim]

/-- What finishing a module does to owners. -/
theorem finish_owner (h : Host) (c : Compiler) (m : ModuleId) (name : String)
    (scope : Option ScopeId) (ids : List CodeId) (providers : List ProviderId) :
    KeepsOwners (if name = bootstrapName then h.releaseAll m ids else h)
      (h.finish c m name scope ids providers).2 := by
  have hscope := keepsOwners_moduleScope h c.options scope ids
  have hrelease : KeepsOwners (if name = bootstrapName then h.releaseAll m ids else h)
      (if name = bootstrapName then (h.moduleScope c.options scope ids).2.releaseAll m ids
        else (h.moduleScope c.options scope ids).2) := by
    split
    · refine ⟨fun j => ?_, by simpa using hscope.codes, by simpa using hscope.modules⟩
      rw [owner_releaseAll, owner_releaseAll, hscope.owner]
    · exact hscope
  exact (hrelease.trans (keepsOwners_foldl (keepsOwners_prepare _) providers _)).trans
    (keepsOwners_announce _ _ _)

/-- What is known of a module that was just assembled. -/
structure Assembled (h : Host) (m : Module) (h' : Host) : Prop where
  id : m.id = .ofCount h.store.modules
  free : ∀ id ∈ m.code, h.owner id = none
  owner : ∀ id, h'.owner id =
    if id ∈ m.code ∧ m.name ≠ bootstrapName ∧ id.index < h.codes.size then some m.id
    else h.owner id
  codes : h.codes.size ≤ h'.codes.size
  modules : h.store.modules < h'.store.modules

/-- Finishing a module that has claimed free code: the code stays with an ordinary module, and is
given back by a bootstrap module. -/
theorem owner_finish_ownedBy (c : Compiler) (m : ModuleId) (name : String)
    (scope : Option ScopeId) (providers : List ProviderId)
    (hfree : ∀ j ∈ ids, h.owner j = none) (j : CodeId) :
    ((h.ownedBy m fun j => decide (j ∈ ids)).finish c m name scope ids providers).2.owner j =
      if j ∈ ids ∧ name ≠ bootstrapName ∧ j.index < h.codes.size then some m else h.owner j := by
  rw [(finish_owner _ c m name scope ids providers).owner]
  split
  · next hbootstrap =>
      rw [owner_releaseAll, owner_ownedBy,
        if_neg (fun hc : j ∈ ids ∧ name ≠ bootstrapName ∧ j.index < h.codes.size =>
          hc.2.1 hbootstrap)]
      by_cases hj : j ∈ ids
      · simp [hj, hfree j hj]
      · simp [hj]
  · next hordinary =>
      rw [owner_ownedBy]
      simp [hordinary]

/-- Code that nobody owns is assembled. -/
theorem createModule_of_free (scope : Option ScopeId) (hr : h.ProvidersFound c name ids)
    (hfree : ∀ j ∈ ids, h.owner j = none) :
    ∃ m h', h.createModule c name scope ids = (.ok m, h') ∧ m.name = name ∧ m.code = ids ∧
      Assembled h m h' := by
  have hkeeps := keepsOwners_beforeClaim h c name ids
  have hfree' : ∀ j ∈ ids, (h.beforeClaim c name ids).owner j = none := fun j hj =>
    (hkeeps.owner j).trans (hfree j hj)
  obtain ⟨providers, -, hsucceeds⟩ := createModule_of_resolvable scope hr
  have hcreate := hsucceeds _ (claimAll_of_free hfree')
  have howner := owner_finish_ownedBy c (.ofCount h.store.modules) name scope providers hfree'
  have hfinish := finish_owner ((h.beforeClaim c name ids).ownedBy (.ofCount h.store.modules)
    fun j => decide (j ∈ ids)) c (.ofCount h.store.modules) name scope ids providers
  refine ⟨_, _, hcreate, rfl, rfl, rfl, hfree, fun j => ?_, ?_, ?_⟩
  · rw [howner, hkeeps.owner, size_beforeClaim]
    rfl
  · refine Nat.le_trans hkeeps.codes (Nat.le_trans ?_ hfinish.codes)
    split <;> simp
  · refine Nat.lt_of_lt_of_le ?_ hfinish.modules
    have hmodules := modules_beforeClaim h c name ids
    split
    · rw [store_releaseAll]
      exact Nat.lt_of_lt_of_eq (Nat.lt_succ_self _) hmodules.symm
    · exact Nat.lt_of_lt_of_eq (Nat.lt_succ_self _) hmodules.symm

/-- Assembly makes a module, or else every owner stays. -/
theorem createModule_cases (h : Host) (c : Compiler) (name : String) (scope : Option ScopeId)
    (ids : List CodeId) (hfresh : ∀ j, h.owner j ≠ some (.ofCount h.store.modules)) :
    (∃ e, (h.createModule c name scope ids).1 = .error e ∧
      KeepsOwners h (h.createModule c name scope ids).2) ∨
    ∃ m, (h.createModule c name scope ids).1 = .ok m ∧ m.code = ids ∧
      Assembled h m (h.createModule c name scope ids).2 := by
  cases ending h c name ids with
  | refused before id after e hids hname hr hu =>
      subst hids
      rw [createModule_of_refused hname hr hu]
      exact .inl ⟨_, rfl, (onlyLoads_turnAfter h c.registry _).keepsOwners⟩
  | owned before id after o hids hfound hbefore howner =>
      subst hids
      rw [createModule_of_owned hfound hfresh hbefore howner]
      exact .inl ⟨_, rfl, keepsOwners_beforeClaim h c name _⟩
  | free hfound hfree =>
      obtain ⟨m, h', heq, -, hcode, hm⟩ := createModule_of_free scope hfound hfree
      rw [heq]
      exact .inr ⟨m, rfl, hcode, hm⟩

end Endings

end Polyglot.Host
