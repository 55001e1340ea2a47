import Polyglot.Proofs.Host.Action
import Polyglot.Proofs.Host.Growth

/-!
# Polyglot.Proofs.Host.Origin

Where code comes from.  A code object is owned, linked and given back, but what it was compiled
from, the language it is in and the provider that compiled it are settled when it is added, and
nothing that an application does changes them (`keepsOrigins_run`).  So the provider that code
remembers is the one that compiled it (`CompiledBy`), whatever was registered or overridden since.
-/

namespace Polyglot

/-- What code was compiled from, and by which provider. -/
def Code.origin (c : Code) : String × String × Option ProviderId :=
  (c.source, c.language, c.provider)

namespace Host

/-- Code that there was has the origin that it had. -/
structure KeepsOrigins (h h' : Host) : Prop where
  origin : ∀ id, id.index < h.codes.size → (h'.code id).origin = (h.code id).origin
  codes : h.codes.size ≤ h'.codes.size

namespace KeepsOrigins

theorem of_codes_eq {h h' : Host} (hcodes : h'.codes = h.codes) : KeepsOrigins h h' :=
  ⟨fun id _ => by rw [Host.code, hcodes, Host.code], Nat.le_of_eq (by rw [hcodes])⟩

theorem refl (h : Host) : KeepsOrigins h h := of_codes_eq rfl

theorem trans {h₁ h₂ h₃ : Host} (h₁₂ : KeepsOrigins h₁ h₂) (h₂₃ : KeepsOrigins h₂ h₃) :
    KeepsOrigins h₁ h₃ :=
  ⟨fun id hid => (h₂₃.origin id (Nat.lt_of_lt_of_le hid h₁₂.codes)).trans (h₁₂.origin id hid),
    Nat.le_trans h₁₂.codes h₂₃.codes⟩

/-- The state that a step was seen to end in. -/
theorem ends {α : Type} {h h' : Host} {r : α × Host} {a : α} (hk : KeepsOrigins h r.2)
    (hr : r = (a, h')) : KeepsOrigins h h' := by
  rw [hr] at hk
  exact hk

end KeepsOrigins

theorem Adds.keepsOrigins {h h' : Host} (ha : Adds h h') : KeepsOrigins h h' :=
  ⟨fun id hid => by rw [ha.code id hid], ha.size⟩

theorem OnlyLoads.keepsOrigins {h h' : Host} (hl : OnlyLoads h h') : KeepsOrigins h h' :=
  .of_codes_eq hl.codes

/-! ## Claiming and giving back -/

theorem keepsOrigins_setCode {h : Host} {id : CodeId} {c : Code}
    (hc : c.origin = (h.code id).origin) : KeepsOrigins h (h.setCode id c) := by
  refine ⟨fun j _ => ?_, by simp⟩
  rcases Nat.lt_or_ge id.index h.codes.size with hlt | hge
  · rw [code_setCode h c hlt]
    split
    · next hj => rw [hc, hj]
    · rfl
  · rw [setCode_of_ge c hge]

theorem keepsOrigins_foldl {α : Type} {f : Host → α → Host}
    (hf : ∀ h a, KeepsOrigins h (f h a)) (as : List α) (h : Host) :
    KeepsOrigins h (as.foldl f h) :=
  List.foldlRecOn as f (.refl h) fun h' hk a _ => hk.trans (hf h' a)

theorem keepsOrigins_unbind (h : Host) (m : ModuleId) (id : CodeId) :
    KeepsOrigins h (h.unbind m id) := by
  refine keepsOrigins_setCode ?_
  rw [Code.unbind]
  split <;> rfl

theorem keepsOrigins_releaseAll (h : Host) (m : ModuleId) (ids : List CodeId) :
    KeepsOrigins h (h.releaseAll m ids) :=
  keepsOrigins_foldl (fun h id => keepsOrigins_unbind h m id) ids h

theorem origin_of_bind {c c' : Code} {m : ModuleId} (hb : c.bind m = .ok c') :
    c'.origin = c.origin := by
  rw [Code.bind] at hb
  split at hb
  · cases hb
    rfl
  · split at hb
    · cases hb
      rfl
    · cases hb

theorem keepsOrigins_claimFrom (m : ModuleId) (done ids : List CodeId) (h : Host) :
    KeepsOrigins h (claimFrom m done ids h).2 := by
  induction ids generalizing done h with
  | nil => exact .refl h
  | cons id ids ih =>
      rw [claimFrom]
      split
      · exact keepsOrigins_releaseAll h m done
      · next h' hbind =>
          obtain ⟨c, hc, rfl⟩ := exists_of_bind_eq_ok hbind
          exact (keepsOrigins_setCode (origin_of_bind hc)).trans (ih _ _)

/-! ## Assembly -/

theorem keepsOrigins_linkCode (l : Linkage) (h : Host) (id : CodeId) :
    KeepsOrigins h (linkCode l h id) := by
  have hset : KeepsOrigins h (h.setCode id
      { h.code id with compiled := (h.code id).compiled.link l }) := keepsOrigins_setCode rfl
  simp only [linkCode]
  split
  · exact hset.trans (.of_codes_eq rfl)
  · exact hset

theorem keepsOrigins_moduleScope (h : Host) (o : Options) (scope : Option ScopeId)
    (ids : List CodeId) : KeepsOrigins h (h.moduleScope o scope ids).2 := by
  simp only [moduleScope]
  split
  · exact .refl h
  · split
    · have hstore : KeepsOrigins h (h.setStore (Linkage.link h.store (h.declarationsOf ids)).2) :=
        .of_codes_eq rfl
      exact (hstore.trans (keepsOrigins_foldl (keepsOrigins_linkCode _) ids _)).trans
        (.of_codes_eq rfl)
    · exact .of_codes_eq rfl

theorem keepsOrigins_prepare (m : Module) (h : Host) (p : ProviderId) :
    KeepsOrigins h (prepare m h p) := by
  simp only [prepare]
  split
  · split <;> exact .of_codes_eq rfl
  · exact .of_codes_eq rfl

theorem keepsOrigins_announce (h : Host) (l : Listener) (m : Module) :
    KeepsOrigins h (h.announce l m) := by
  cases l <;> exact .of_codes_eq rfl

theorem keepsOrigins_finish (h : Host) (c : Compiler) (m : ModuleId) (name : String)
    (scope : Option ScopeId) (ids : List CodeId) (providers : List ProviderId) :
    KeepsOrigins h (h.finish c m name scope ids providers).2 := by
  have hscope := keepsOrigins_moduleScope h c.options scope ids
  have hrelease : KeepsOrigins h
      (if name = bootstrapName then (h.moduleScope c.options scope ids).2.releaseAll m ids
        else (h.moduleScope c.options scope ids).2) := by
    split
    · exact hscope.trans (keepsOrigins_releaseAll _ m ids)
    · exact hscope
  exact (hrelease.trans (keepsOrigins_foldl (keepsOrigins_prepare _) providers _)).trans
    (keepsOrigins_announce _ _ _)

theorem keepsOrigins_createModule (h : Host) (c : Compiler) (name : String)
    (scope : Option ScopeId) (ids : List CodeId) :
    KeepsOrigins h (h.createModule c name scope ids).2 := by
  have hloads := onlyLoads_providersToPrepare h c name ids
  simp only [createModule]
  split
  · next e h₁ hp => exact (hloads.ends hp).keepsOrigins
  · next providers h₁ hp =>
      have hnumber : KeepsOrigins h (h₁.setStore h₁.store.nextModule.2) :=
        (hloads.ends hp).keepsOrigins.trans (.of_codes_eq rfl)
      have hclaim := hnumber.trans (keepsOrigins_claimFrom h₁.store.nextModule.1 [] ids _)
      split
      · next e h₂ hc => exact hclaim.ends hc
      · next h₂ hc =>
          exact (hclaim.ends hc).trans (keepsOrigins_finish h₂ c _ name scope ids providers)

theorem keepsOrigins_compileModule (h : Host) (c : Compiler) (name : String)
    (scope : Option ScopeId) (units : List SourceUnit) (sink : Sink) :
    KeepsOrigins h (h.compileModule c name scope units sink).2.1 := by
  have hunits := (compileUnits_adds c units h sink).1.keepsOrigins
  simp only [compileModule]
  split
  · next hus => rw [hus] at hunits; exact hunits
  · next ids h₁ sink₁ hus =>
      rw [hus] at hunits
      split
      · exact hunits
      · exact hunits.trans (keepsOrigins_createModule h₁ c name scope ids)

/-! ## Running -/

theorem codes_runCode (h : Host) (id : CodeId) (c : Context) :
    (h.runCode id c).2.codes = h.codes := by
  simp only [runCode]
  split <;> rfl

theorem codes_runCodes (c : Context) (ids : List CodeId) (last : Value) (h : Host) :
    (runCodes c ids last h).2.codes = h.codes := by
  induction ids generalizing last h with
  | nil => rfl
  | cons id ids ih =>
      have hfirst := codes_runCode h id c
      simp only [runCodes]
      split
      · next e h' hr => rw [hr] at hfirst; exact hfirst
      · next v h' hr =>
          rw [hr] at hfirst
          rw [ih, hfirst]

theorem Use.keepsOrigins (u : Use) (h : Host) : KeepsOrigins h (u.effect h) := by
  cases u with
  | addCode source language compiled => exact (adds_addCode h rfl).keepsOrigins
  | compileUnit c u sink => exact (compileUnit_adds h c u sink).1.keepsOrigins
  | execute m => exact .of_codes_eq (codes_runCodes _ _ _ _)
  | runCode id c => exact .of_codes_eq (codes_runCode h id c)
  | addRegistry resolver => exact .of_codes_eq rfl
  | addResolver => exact .of_codes_eq rfl
  | insertFactory r location f => exact .of_codes_eq rfl
  | register r l override ids =>
      cases hr : h.register r l override ids with
      | error e => rw [effect, hr]; exact .refl h
      | ok h' => rw [effect, hr]; exact (onlyLoads_of_register hr).keepsOrigins
  | resolve r id => exact (onlyLoads_resolve h r id).keepsOrigins
  | tryResolve r id => exact (onlyLoads_tryResolve h r id).keepsOrigins
  | resolveByExtension r extension =>
      exact (onlyLoads_resolveByExtension h r extension).keepsOrigins
  | resolveByType r type => exact (onlyLoads_resolveByType h r type).keepsOrigins
  | construct f place => exact (onlyLoads_constructApart h f place).keepsOrigins
  | attachProgram unit p => exact .of_codes_eq rfl
  | setSite name site => exact .of_codes_eq rfl
  | changeStore f onward => exact .of_codes_eq rfl

theorem keepsOrigins_perform (h : Host) (a : Action) : KeepsOrigins h (h.perform a).2 := by
  cases a with
  | create c name scope code =>
      simp only [perform]
      split
      · exact keepsOrigins_createModule h c name scope code
      · exact .refl h
  | compile c name scope units sink => exact keepsOrigins_compileModule h c name scope units sink
  | use u => exact u.keepsOrigins h

/-- **Code keeps its origin**, whatever an application does. -/
theorem keepsOrigins_run (h : Host) (actions : List Action) :
    KeepsOrigins h (h.run actions).2 := by
  induction actions generalizing h with
  | nil => exact .refl h
  | cons a actions ih => exact (keepsOrigins_perform h a).trans (ih (h.perform a).2)

/-! ## The provider that compiled code -/

/-- Whether a code object was compiled from a unit, by the provider that the registry had for the
unit then, and any actions led from there to the host `h`. -/
def CompiledBy (h : Host) (id : CodeId) (p : ProviderId) : Prop :=
  ∃ (start : Host) (c : Compiler) (u : SourceUnit) (sink : Sink) (actions : List Action),
    (start.providerFor c.registry u).1 = .ok p ∧ (start.compileUnit c u sink).1 = .ok id ∧
      ((start.compileUnit c u sink).2.1.run actions).2 = h

/-- Compiling a unit makes code that remembers the provider. -/
theorem provider_of_compileUnit {h h' : Host} {c : Compiler} {u : SourceUnit} {sink sink' : Sink}
    {p : ProviderId} {id : CodeId} (hp : (h.providerFor c.registry u).1 = .ok p)
    (hid : h.compileUnit c u sink = (.ok id, h', sink')) :
    (h'.code id).provider = some p ∧ id.index < h'.codes.size := by
  rw [compileUnit] at hid
  cases hfound : h.providerFor c.registry u with
  | mk result h₁ =>
      rw [hfound] at hp hid
      obtain rfl : result = .ok p := hp
      simp only at hid
      split at hid
      · cases hid
      · next code h₂ sink₂ _ =>
          obtain ⟨hid, hrest⟩ := Prod.mk.inj hid
          obtain ⟨hhost, -⟩ := Prod.mk.inj hrest
          rw [← hhost, ← Except.ok.inj hid, code_addCode_self]
          exact ⟨rfl, by simp [addCode]⟩

/-- **Code remembers the provider that compiled it**, whatever was registered or overridden
since. -/
theorem CompiledBy.provider {h : Host} {id : CodeId} {p : ProviderId} (hc : h.CompiledBy id p) :
    (h.code id).provider = some p := by
  obtain ⟨start, c, u, sink, actions, hp, hid, rfl⟩ := hc
  have hunit : start.compileUnit c u sink =
      (.ok id, (start.compileUnit c u sink).2.1, (start.compileUnit c u sink).2.2) := by
    rw [← hid]
  have hmade := provider_of_compileUnit hp hunit
  have hkept := (keepsOrigins_run (start.compileUnit c u sink).2.1 actions).origin id hmade.2
  exact (congrArg (fun o => o.2.2) hkept).trans hmade.1

/-! ## Units compiled together

Compiling a module compiles its units one after the other, as the application could do itself.  So
the code of such a module was compiled by providers too (`compiledBy_of_compileModule`), also when
another module is assembled from it. -/

/-- Who compiled code is settled for good. -/
theorem CompiledBy.run {h : Host} {id : CodeId} {p : ProviderId} (hc : h.CompiledBy id p)
    (actions : List Action) : (h.run actions).2.CompiledBy id p := by
  obtain ⟨start, c, u, sink, before, hp, hid, rfl⟩ := hc
  exact ⟨start, c, u, sink, before ++ actions, hp, hid, by rw [run_append]⟩

theorem compiledBy_of_compileUnit {h h' : Host} {c : Compiler} {u : SourceUnit} {sink sink' : Sink}
    {id : CodeId} (hid : h.compileUnit c u sink = (.ok id, h', sink')) :
    ∃ p, h'.CompiledBy id p := by
  cases hp : (h.providerFor c.registry u).1 with
  | ok p => exact ⟨p, h, c, u, sink, [], hp, by rw [hid], by rw [hid]; rfl⟩
  | error e =>
      rw [compileUnit] at hid
      split at hid
      · cases hid
      · next hfound => rw [hfound] at hp; cases hp

/-- Compiling units is compiling one after the other. -/
theorem exists_run_eq_compileUnits (c : Compiler) (us : List SourceUnit) (h : Host) (sink : Sink) :
    ∃ actions, (h.run actions).2 = (compileUnits c us h sink).2.1 := by
  induction us generalizing h sink with
  | nil => exact ⟨[], rfl⟩
  | cons u us ih =>
      obtain ⟨actions, hrun⟩ := ih (h.compileUnit c u sink).2.1 (h.compileUnit c u sink).2.2
      rw [compileUnits]
      split
      · next e h₁ sink₁ hu =>
          exact ⟨[.use (.compileUnit c u sink)], by simp [run, perform, Use.effect, hu]⟩
      · next id h₁ sink₁ hu =>
          rw [hu] at hrun
          refine ⟨.use (.compileUnit c u sink) :: actions, ?_⟩
          have hfirst :
              (h.run (.use (.compileUnit c u sink) :: actions)).2 = (h₁.run actions).2 := by
            simp [run, perform, Use.effect, hu]
          rw [hfirst, hrun]
          split
          · next hus => rw [hus]
          · next hus => rw [hus]

/-- Each of the units was compiled by some provider. -/
theorem compiledBy_of_compileUnits {c : Compiler} {us : List SourceUnit} {h h' : Host}
    {sink sink' : Sink} {ids : List CodeId}
    (hus : compileUnits c us h sink = (.ok ids, h', sink')) :
    ∀ id ∈ ids, ∃ p, h'.CompiledBy id p := by
  induction us generalizing h sink ids with
  | nil =>
      cases hus
      intro id hid
      cases hid
  | cons u us ih =>
      rw [compileUnits] at hus
      split at hus
      · cases hus
      · next first h₁ sink₁ hu =>
          split at hus
          · cases hus
          · next rest h₂ sink₂ hrest =>
              cases hus
              obtain ⟨p, hp⟩ := compiledBy_of_compileUnit hu
              obtain ⟨actions, hrun⟩ := exists_run_eq_compileUnits c us h₁ sink₁
              have hlater := hp.run actions
              rw [hrun, hrest] at hlater
              intro id hid
              cases List.mem_cons.1 hid with
              | inl hfirst => exact ⟨p, hfirst ▸ hlater⟩
              | inr hmem => exact ih hrest id hmem

/-- Code of a module that was compiled was compiled by a provider. -/
theorem compiledBy_of_compileModule {c : Compiler} {name : String} {scope : Option ScopeId}
    {units : List SourceUnit} {h h' : Host} {sink sink' : Sink} {m : Module}
    (hm : h.compileModule c name scope units sink = (.ok m, h', sink')) :
    ∀ id ∈ m.code, ∃ p, h'.CompiledBy id p := by
  rw [compileModule] at hm
  split at hm
  · cases hm
  · next ids h₁ sink₁ hus =>
      simp only at hm
      split at hm
      · cases hm
      · obtain ⟨hcreate, hrest⟩ := Prod.mk.inj hm
        obtain ⟨mid, hmakes⟩ := exists_makes (Prod.ext hcreate (Prod.mk.inj hrest).1)
        have hexist : ∀ id ∈ ids, id.index < h₁.codes.size := by
          intro id hid
          have hall := (compileUnits_adds c units h sink).2 ids (by rw [hus])
          rw [hus] at hall
          obtain ⟨u, hmade⟩ := exists_unit hall hid
          exact hmade.inRange
        intro id hid
        rw [hmakes.code] at hid
        obtain ⟨p, hp⟩ := compiledBy_of_compileUnits hus id hid
        have hlater := hp.run [.create c name scope ids]
        simp only [run, perform, if_pos hexist] at hlater
        rw [← (Prod.mk.inj hrest).1]
        exact ⟨p, hlater⟩

end Host

end Polyglot
