import Polyglot.Proofs.Guest.Linkage
import Polyglot.Proofs.Host.Assembly

/-!
# Polyglot.Proofs.Host.Growth

How a host grows when modules are compiled.  `Grows n h h'` says that `h'` has all that `h` has:
the store was extended, and of the first `n` code objects the compiled form is what it was.

The code of a new module is the code that it was assembled from, given the linkage of the module
if there is one (`Makes.compiled`).
-/

namespace Polyglot.Host

open Polyglot.Language

/-- A host that has all that another one has, where of code objects the first `n` count. -/
structure Grows (n : Nat) (h h' : Host) : Prop where
  compiled : ∀ id, id.index < n → (h'.code id).compiled = (h.code id).compiled
  codes : h.codes.size ≤ h'.codes.size
  store : h.store.Extends h'.store

variable {n : Nat} {h h' h'' : Host}

namespace Grows

theorem of_codes_eq (hcodes : h'.codes = h.codes) (hstore : h.store.Extends h'.store) :
    Grows n h h' :=
  ⟨fun id _ => by rw [code, hcodes, code], Nat.le_of_eq (by rw [hcodes]), hstore⟩

theorem refl (n : Nat) (h : Host) : Grows n h h := of_codes_eq rfl (.refl _)

theorem trans (hg : Grows n h h') (hg' : Grows n h' h'') : Grows n h h'' :=
  ⟨fun id hid => (hg'.compiled id hid).trans (hg.compiled id hid),
    Nat.le_trans hg.codes hg'.codes, hg.store.trans hg'.store⟩

theorem mono {m : Nat} (hg : Grows n h h') (hle : m ≤ n) : Grows m h h' :=
  ⟨fun id hid => hg.compiled id (Nat.lt_of_lt_of_le hid hle), hg.codes, hg.store⟩

/-- The state that a step was seen to end in. -/
theorem ends {α : Type} {r : α × Host} {a : α} (hg : Grows n h r.2) (hr : r = (a, h')) :
    Grows n h h' := by
  rw [hr] at hg
  exact hg

end Grows

theorem Adds.grows (ha : Adds h h') : Grows h.codes.size h h' :=
  ⟨fun id hid => by rw [ha.code id hid], ha.size, by rw [ha.store]; exact .refl _⟩

theorem OnlyLoads.grows (hl : OnlyLoads h h') : Grows n h h' :=
  .of_codes_eq hl.codes (hl.store ▸ .refl _)

/-! ## Small steps -/

theorem grows_emit (h : Host) (e : Event) : Grows n h (h.emit e) := .of_codes_eq rfl (.refl _)

theorem grows_setStore {st : Store} (hx : h.store.Extends st) : Grows n h (h.setStore st) :=
  .of_codes_eq rfl hx

/-- Changing the owner of code leaves the host as it is otherwise. -/
theorem grows_setCode {id : CodeId} {c : Code} (hc : c.compiled = (h.code id).compiled) :
    Grows n h (h.setCode id c) := by
  refine ⟨fun j _ => ?_, by simp [setCode], .refl _⟩
  rcases Nat.lt_or_ge id.index h.codes.size with hlt | hge
  · rw [code_setCode h c hlt]
    split
    · next hj => rw [hc, hj]
    · rfl
  · rw [setCode_of_ge c hge]

/-! ## Claiming and giving back -/

theorem grows_unbind (h : Host) (m : ModuleId) (id : CodeId) : Grows n h (h.unbind m id) := by
  refine grows_setCode ?_
  rw [Code.unbind]
  split <;> rfl

theorem grows_releaseAll (h : Host) (m : ModuleId) (ids : List CodeId) :
    Grows n h (h.releaseAll m ids) :=
  List.foldlRecOn ids _ (.refl n h) fun h' hg id _ => hg.trans (grows_unbind h' m id)

theorem compiled_of_bind {c c' : Code} {m : ModuleId} (hb : c.bind m = .ok c') :
    c'.compiled = c.compiled := by
  rw [Code.bind] at hb
  split at hb
  · cases hb
    rfl
  · split at hb
    · cases hb
      rfl
    · cases hb

theorem grows_claimFrom (m : ModuleId) (done ids : List CodeId) (h : Host) :
    Grows n h (claimFrom m done ids h).2 := by
  induction ids generalizing done h with
  | nil => exact .refl n h
  | cons id ids ih =>
      rw [claimFrom]
      split
      · exact grows_releaseAll h m done
      · next h' hbind =>
          obtain ⟨c, hc, rfl⟩ := exists_of_bind_eq_ok hbind
          exact (grows_setCode (compiled_of_bind hc)).trans (ih _ _)

/-! ## Linking -/

/-- Compiled code after it was given the linkage of its module, if there is one. -/
def givenLinkage (g : Option Linkage) (c : Compiled) : Compiled :=
  match g with
  | none => c
  | some l => c.link l

theorem link_link (l : Linkage) (c : Compiled) : (c.link l).link l = c.link l := by
  cases c with
  | plain => rfl
  | script p g => rfl
  | tally as g => cases g <;> rfl

theorem compiled_linkCode (l : Linkage) (h : Host) (id j : CodeId) :
    ((linkCode l h id).code j).compiled =
      if j = id then ((h.code j).compiled).link l else (h.code j).compiled := by
  have hset : ((h.setCode id { h.code id with compiled := (h.code id).compiled.link l }).code
      j).compiled = if j = id then ((h.code j).compiled).link l else (h.code j).compiled := by
    rcases Nat.lt_or_ge id.index h.codes.size with hlt | hge
    · rw [code_setCode h _ hlt]
      split
      · next hj => rw [hj]
      · rfl
    · rw [setCode_of_ge _ hge]
      split
      · next hj =>
          have hdefault : h.code j = default := by
            rw [hj, code, Heap.get?_eq_none_iff.2 hge]
            rfl
          rw [hdefault]
          rfl
      · rfl
  simp only [linkCode]
  split <;> exact hset

theorem compiled_linkAll (l : Linkage) (ids : List CodeId) (h : Host) (j : CodeId) :
    ((ids.foldl (linkCode l) h).code j).compiled =
      if j ∈ ids then ((h.code j).compiled).link l else (h.code j).compiled := by
  induction ids generalizing h with
  | nil => simp
  | cons id ids ih =>
      rw [List.foldl_cons, ih, compiled_linkCode]
      by_cases hj : j = id <;> by_cases hmem : j ∈ ids <;> simp [hj, hmem, link_link]

theorem keeps_linkCode (l : Linkage) (h : Host) (id : CodeId) :
    (linkCode l h id).codes.size = h.codes.size ∧ (linkCode l h id).store = h.store := by
  simp only [linkCode]
  split <;> simp [setCode, emit, store]

theorem keeps_linkAll (l : Linkage) (ids : List CodeId) (h : Host) :
    (ids.foldl (linkCode l) h).codes.size = h.codes.size ∧
      (ids.foldl (linkCode l) h).store = h.store := by
  induction ids generalizing h with
  | nil => exact ⟨rfl, rfl⟩
  | cons id ids ih =>
      obtain ⟨hsize, hstore⟩ := keeps_linkCode l h id
      obtain ⟨hsizes, hstores⟩ := ih (linkCode l h id)
      exact ⟨hsizes.trans hsize, hstores.trans hstore⟩

theorem grows_linkAll (l : Linkage) {ids : List CodeId} (hids : ∀ id ∈ ids, n ≤ id.index)
    (h : Host) : Grows n h (ids.foldl (linkCode l) h) := by
  obtain ⟨hsize, hstore⟩ := keeps_linkAll l ids h
  refine ⟨fun id hid => ?_, Nat.le_of_eq hsize.symm, by rw [hstore]; exact .refl _⟩
  rw [compiled_linkAll, if_neg fun hmem => Nat.not_le.2 hid (hids id hmem)]

/-! ## Assembly -/

theorem extends_newScope (st : Store) (l : Linkage) : st.Extends (l.newScope st).2 :=
  Store.extends_newScopeOf st _

theorem grows_moduleScope (h : Host) (o : Options) (scope : Option ScopeId) (ids : List CodeId)
    (hids : ∀ id ∈ ids, n ≤ id.index) : Grows n h (h.moduleScope o scope ids).2 := by
  simp only [moduleScope]
  split
  · exact .refl n h
  · split
    · have hlink : h.store.Extends (Linkage.link h.store (h.declarationsOf ids)).2 :=
        (Linkage.linked_link (P := fun _ _ => True) h.store fun _ _ => trivial).2
      exact ((grows_setStore hlink).trans (grows_linkAll _ hids _)).trans
        (grows_setStore (extends_newScope _ _))
    · exact grows_setStore (Store.extends_newScopeOf h.store .empty)

/-- What linking does to the code of a module. -/
theorem compiled_moduleScope (h : Host) (o : Options) (scope : Option ScopeId)
    (ids : List CodeId) {id : CodeId} (hid : id ∈ ids) :
    ((h.moduleScope o scope ids).2.code id).compiled =
      givenLinkage (h.moduleScope o scope ids).1.2 (h.code id).compiled := by
  simp only [moduleScope]
  split
  · rfl
  · split
    · exact (compiled_linkAll _ ids _ id).trans (if_pos hid)
    · rfl

theorem grows_prepare (m : Module) (h : Host) (p : ProviderId) : Grows n h (prepare m h p) := by
  simp only [prepare]
  split
  · split
    · exact .refl n h
    · exact grows_emit h _
  · exact .of_codes_eq rfl (.refl _)

theorem grows_announce (h : Host) (l : Listener) (m : Module) : Grows n h (h.announce l m) := by
  cases l with
  | silent => exact .refl n h
  | recording => exact grows_emit h _

theorem grows_foldl {α : Type} {f : Host → α → Host} (hf : ∀ h a, Grows n h (f h a))
    (as : List α) (h : Host) : Grows n h (as.foldl f h) :=
  List.foldlRecOn as f (.refl n h) fun h' hg a _ => hg.trans (hf h' a)

/-- After a module has its scope, finishing it leaves compiled code and the store as they are. -/
theorem finish_after_moduleScope (h : Host) (c : Compiler) (m : ModuleId) (name : String)
    (scope : Option ScopeId) (ids : List CodeId) (providers : List ProviderId) :
    Grows n (h.moduleScope c.options scope ids).2
      (h.finish c m name scope ids providers).2 := by
  have hrelease : Grows n (h.moduleScope c.options scope ids).2
      (if name = bootstrapName then (h.moduleScope c.options scope ids).2.releaseAll m ids
        else (h.moduleScope c.options scope ids).2) := by
    split
    · exact grows_releaseAll _ m ids
    · exact .refl n _
  exact (hrelease.trans (grows_foldl (grows_prepare _) providers _)).trans (grows_announce _ _ _)

/-- Before a module is finished, assembly leaves compiled code and the store as they are. -/
theorem createModule_before_finish (h : Host) (c : Compiler) (name : String)
    (scope : Option ScopeId) (ids : List CodeId) :
    ((∃ e, (h.createModule c name scope ids).1 = .error e) ∧
      ∀ n, Grows n h (h.createModule c name scope ids).2) ∨
    ∃ h₁ m providers, (∀ n, Grows n h h₁) ∧ h.createModule c name scope ids =
      (.ok (h₁.finish c m name scope ids providers).1,
        (h₁.finish c m name scope ids providers).2) := by
  have hloads := onlyLoads_providersToPrepare h c name ids
  rw [createModule]
  split
  · next e h₁ hp => exact .inl ⟨⟨_, rfl⟩, fun n => (hloads.ends hp).grows⟩
  · next providers h₁ hp =>
      have hclaim : ∀ n, Grows n h ((h₁.setStore h₁.store.nextModule.2).claimAll
          h₁.store.nextModule.1 ids).2 := fun n =>
        ((hloads.ends hp).grows.trans (grows_setStore (Store.extends_nextModule h₁.store))).trans
          (grows_claimFrom _ [] ids _)
      simp only
      split
      · next e h₂ hc => exact .inl ⟨⟨_, rfl⟩, fun n => (hclaim n).ends hc⟩
      · next h₂ hc => exact .inr ⟨h₂, _, providers, fun n => (hclaim n).ends hc, rfl⟩

theorem grows_createModule (h : Host) (c : Compiler) (name : String) (scope : Option ScopeId)
    {ids : List CodeId} (hids : ∀ id ∈ ids, n ≤ id.index) :
    Grows n h (h.createModule c name scope ids).2 := by
  rcases createModule_before_finish h c name scope ids with ⟨-, hg⟩ | ⟨h₁, m, ps, hg, heq⟩
  · exact hg n
  · rw [heq]
    exact ((hg n).trans (grows_moduleScope h₁ c.options scope ids hids)).trans
      (finish_after_moduleScope h₁ c m name scope ids ps)

/-- How a module came about: it got its scope in a host `mid`, which has all that `h` has, and
nothing was taken away from then on. -/
structure Makes (h mid h' : Host) (o : Options) (scope : Option ScopeId) (ids : List CodeId)
    (m : Module) : Prop where
  code : m.code = ids
  globals : m.globals = (mid.moduleScope o scope ids).1.2
  place : m.scope = (mid.moduleScope o scope ids).1.1
  before : ∀ n, Grows n h mid
  after : ∀ n, Grows n (mid.moduleScope o scope ids).2 h'

theorem exists_makes {c : Compiler} {name : String} {scope : Option ScopeId} {ids : List CodeId}
    {m : Module} (hm : h.createModule c name scope ids = (.ok m, h')) :
    ∃ mid, Makes h mid h' c.options scope ids m := by
  rcases createModule_before_finish h c name scope ids with
    ⟨⟨e, he⟩, -⟩ | ⟨mid, number, providers, hg, heq⟩
  · rw [hm] at he
    cases he
  · rw [hm] at heq
    obtain ⟨hmodule, hend⟩ := Prod.mk.inj heq
    rw [Except.ok.inj hmodule, hend]
    exact ⟨mid, rfl, rfl, rfl, hg, fun n =>
      finish_after_moduleScope mid c number name scope ids providers⟩

namespace Makes

variable {mid : Host} {o : Options} {scope : Option ScopeId} {ids : List CodeId} {m : Module}

theorem compiled_before (hm : Makes h mid h' o scope ids m) (id : CodeId) :
    (mid.code id).compiled = (h.code id).compiled :=
  (hm.before (id.index + 1)).compiled id (Nat.lt_succ_self _)

/-- The code of a module is the code it was made from, given the module's linkage. -/
theorem compiled (hm : Makes h mid h' o scope ids m) {id : CodeId} (hid : id ∈ ids) :
    (h'.code id).compiled = givenLinkage m.globals (h.code id).compiled := by
  rw [(hm.after (id.index + 1)).compiled id (Nat.lt_succ_self _),
    compiled_moduleScope mid o scope ids hid, ← hm.globals, hm.compiled_before]

/-- No code is lost. -/
theorem codes (hm : Makes h mid h' o scope ids m) : h.codes.size ≤ h'.codes.size :=
  have hscope : Grows 0 mid (mid.moduleScope o scope ids).2 :=
    grows_moduleScope mid o scope ids fun _ _ => Nat.zero_le _
  (((hm.before 0).trans hscope).trans (hm.after 0)).codes

end Makes

theorem grows_compileModule (h : Host) (c : Compiler) (name : String) (scope : Option ScopeId)
    (units : List SourceUnit) (sink : Sink) :
    Grows h.codes.size h (h.compileModule c name scope units sink).2.1 := by
  have hunits := compileUnits_adds c units h sink
  rw [compileModule]
  simp only
  split
  · next hus =>
      rw [hus] at hunits
      exact hunits.1.grows
  · next ids h₁ sink₁ hus =>
      rw [hus] at hunits
      split
      · exact hunits.1.grows
      · refine hunits.1.grows.trans (grows_createModule h₁ c name scope fun id hid => ?_)
        obtain ⟨u, hmade⟩ := exists_unit (hunits.2 ids rfl) hid
        exact hmade.later

/-- A module that was compiled was assembled from the code of its units. -/
theorem exists_createModule_of_compileModule {c : Compiler} {name : String}
    {scope : Option ScopeId} {units : List SourceUnit} {sink sink' : Sink} {m : Module}
    (hm : h.compileModule c name scope units sink = (.ok m, h', sink')) :
    ∃ ids h₁, Adds h h₁ ∧ List.Forall₂ (MadeFor h.codes.size h₁) ids units ∧
      h₁.createModule c name scope ids = (.ok m, h') := by
  have hunits := compileUnits_adds c units h sink
  rw [compileModule] at hm
  simp only at hm
  split at hm
  · cases hm
  · next ids h₁ sink₁ hus =>
      rw [hus] at hunits
      split at hm
      · cases hm
      · obtain ⟨hres, hrest⟩ := Prod.mk.inj hm
        exact ⟨ids, h₁, hunits.1, hunits.2 ids rfl, Prod.ext hres (Prod.mk.inj hrest).1⟩

end Polyglot.Host
