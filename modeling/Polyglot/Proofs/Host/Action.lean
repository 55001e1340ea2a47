import Polyglot.Embedding
import Polyglot.Proofs.Host.Assembly

/-!
# Polyglot.Proofs.Host.Action

Everything an application can do with an embedding, one action after the other.  Two actions may
make a module: assembling code, and compiling source units.  The others are the uses of an
embedding, of which none changes who owns code (`Use.keepsOwners`).

`run` does actions in order and collects the modules that were returned, and the states that it
leads to from code that nobody owns are `Reachable`.
-/

namespace Polyglot

open Polyglot.Language

namespace Host

/-- A use of an embedding that makes no module. -/
inductive Use where
  /-- Code is made without a provider. -/
  | addCode (source language : String) (compiled : Compiled)
  | compileUnit (c : Compiler) (u : SourceUnit) (sink : Sink)
  | execute (m : Module)
  | runCode (id : CodeId) (c : Context)
  | addRegistry (resolver : Option ResolverId)
  | addResolver
  | insertFactory (r : ResolverId) (location : String) (f : Factory)
  | register (r : RegistryId) (l : Locator) (override : Bool) (ids : List String)
  | resolve (r : RegistryId) (id : String)
  | tryResolve (r : RegistryId) (id : String)
  | resolveByExtension (r : RegistryId) (extension : String)
  | resolveByType (r : RegistryId) (type : String)
  | construct (f : Factory) (place : FactoryPlace)
  | attachProgram (unit : String) (p : Script.Program)
  | setSite (name : String) (site : CallSite)
  /-- Slots, scopes and contexts are made and changed, and numbers are taken. -/
  | changeStore (f : Store → Store) (onward : ∀ st, st.modules ≤ (f st).modules)

/-- The state after a use. -/
def Use.effect : Use → Host → Host
  | addCode source language compiled, h => (h.addCode { source, language, compiled }).2
  | compileUnit c u sink, h => (h.compileUnit c u sink).2.1
  | execute m, h => (h.execute m).2
  | runCode id c, h => (h.runCode id c).2
  | addRegistry resolver, h => (h.addRegistry resolver).2
  | addResolver, h => h.addResolver.2
  | insertFactory r location f, h => h.insertFactory r location f
  | register r l override ids, h => (h.register r l override ids).toOption.getD h
  | resolve r id, h => (h.resolve r id).2
  | tryResolve r id, h => (h.tryResolve r id).2
  | resolveByExtension r extension, h => (h.resolveByExtension r extension).2
  | resolveByType r type, h => (h.resolveByType r type).2
  | construct f place, h => (h.constructApart f place).2
  | attachProgram unit p, h => h.attachProgram unit p
  | setSite name site, h => h.setSite name site
  | changeStore f _, h => h.setStore (f h.store)

/-- No use changes who owns code. -/
theorem Use.keepsOwners (u : Use) (h : Host) : KeepsOwners h (u.effect h) := by
  cases u with
  | addCode source language compiled => exact (adds_addCode h rfl).keepsOwners
  | compileUnit c u sink => exact (compileUnit_adds h c u sink).1.keepsOwners
  | execute m => exact keepsOwners_execute h m
  | runCode id c => exact keepsOwners_runCode h id c
  | addRegistry resolver => exact .of_codes_eq rfl (Nat.le_refl _)
  | addResolver => exact .of_codes_eq rfl (Nat.le_refl _)
  | insertFactory r location f => exact (onlyLoads_insertFactory h r location f).keepsOwners
  | register r l override ids =>
      cases hr : h.register r l override ids with
      | error e => rw [effect, hr]; exact .refl h
      | ok h' => rw [effect, hr]; exact (onlyLoads_of_register hr).keepsOwners
  | resolve r id => exact (onlyLoads_resolve h r id).keepsOwners
  | tryResolve r id => exact (onlyLoads_tryResolve h r id).keepsOwners
  | resolveByExtension r extension => exact (onlyLoads_resolveByExtension h r extension).keepsOwners
  | resolveByType r type => exact (onlyLoads_resolveByType h r type).keepsOwners
  | construct f place => exact (onlyLoads_constructApart h f place).keepsOwners
  | attachProgram unit p => exact .of_codes_eq rfl (Nat.le_refl _)
  | setSite name site => exact .of_codes_eq rfl (Nat.le_refl _)
  | changeStore f onward => exact keepsOwners_setStore (onward h.store)

/-- What an application does with an embedding. -/
inductive Action where
  /-- Assemble code that exists. -/
  | create (c : Compiler) (name : String) (scope : Option ScopeId) (code : List CodeId)
  | compile (c : Compiler) (name : String) (scope : Option ScopeId) (units : List SourceUnit)
      (sink : Sink)
  | use (u : Use)

/-- Do one action; the module it returns, if it does. -/
def perform (h : Host) : Action → Option Module × Host
  | .create c name scope code =>
    if ∀ id ∈ code, id.index < h.codes.size then
      let (result, h) := h.createModule c name scope code
      (result.toOption, h)
    else (none, h)
  | .compile c name scope units sink =>
    let (result, h, _) := h.compileModule c name scope units sink
    (result.toOption, h)
  | .use u => (none, u.effect h)

/-- Do actions in order, and collect the modules that are returned. -/
def run (h : Host) : List Action → List Module × Host
  | [] => ([], h)
  | a :: as =>
    let (made, h) := h.perform a
    let (rest, h) := h.run as
    (made.toList ++ rest, h)

/-- Whether actions lead to a state from one in which nobody owns code. -/
def Reachable (h : Host) : Prop :=
  ∃ start actions, (∀ id, start.owner id = none) ∧ (run start actions).2 = h

theorem run_append (h : Host) (before after : List Action) :
    h.run (before ++ after) = ((h.run before).1 ++ ((h.run before).2.run after).1,
      ((h.run before).2.run after).2) := by
  induction before generalizing h with
  | nil => rfl
  | cons a before ih => simp only [List.cons_append, run, ih, List.append_assoc]

/-! ## Module numbers -/

theorem store_claimFrom (m : ModuleId) (done ids : List CodeId) (h : Host) :
    (claimFrom m done ids h).2.store = h.store := by
  induction ids generalizing done h with
  | nil => rfl
  | cons id ids ih =>
      rw [claimFrom]
      split
      · rw [store_releaseAll]
      · next h' hbind =>
          rw [ih]
          obtain ⟨c, -, rfl⟩ := exists_of_bind_eq_ok hbind
          rfl

theorem modules_le_createModule (h : Host) (c : Compiler) (name : String) (scope : Option ScopeId)
    (ids : List CodeId) : h.store.modules ≤ (h.createModule c name scope ids).2.store.modules := by
  have hproviders := (onlyLoads_providersToPrepare h c name ids).store
  simp only [createModule]
  split
  · next hp =>
      rw [hp] at hproviders
      exact Nat.le_of_eq (congrArg Store.modules hproviders.symm)
  · next providers h₁ hp =>
      rw [hp] at hproviders
      have hclaim := store_claimFrom (h₁.store.nextModule).1 [] ids
        (h₁.setStore h₁.store.nextModule.2)
      have hnext : h.store.modules ≤
          ((h₁.setStore h₁.store.nextModule.2).claimAll
            h₁.store.nextModule.1 ids).2.store.modules := by
        rw [claimAll, hclaim]
        show h.store.modules ≤ h₁.store.modules + 1
        rw [← hproviders]
        exact Nat.le_succ _
      split
      · next hc => rw [hc] at hnext; exact hnext
      · next h₂ hc =>
          rw [hc] at hnext
          refine Nat.le_trans hnext ?_
          have hfinish := (finish_owner h₂ c h₁.store.nextModule.1 name scope ids
            providers).modules
          split at hfinish
          · rwa [store_releaseAll] at hfinish
          · exact hfinish

theorem modules_le_perform (h : Host) (a : Action) :
    h.store.modules ≤ (h.perform a).2.store.modules := by
  cases a with
  | create c name scope code =>
      simp only [perform]
      split
      · exact modules_le_createModule h c name scope code
      · exact Nat.le_refl _
  | compile c name scope units sink =>
      have hunits := (compileUnits_adds c units h sink).1.keepsOwners.modules
      simp only [perform, compileModule]
      split
      · next hus => rw [hus] at hunits; exact hunits
      · next hus =>
          rw [hus] at hunits
          split
          · exact hunits
          · exact Nat.le_trans hunits (modules_le_createModule _ c name scope _)
  | use u => exact (u.keepsOwners h).modules

theorem modules_le_run (h : Host) (actions : List Action) :
    h.store.modules ≤ (h.run actions).2.store.modules := by
  induction actions generalizing h with
  | nil => exact Nat.le_refl _
  | cons a actions ih => exact Nat.le_trans (modules_le_perform h a) (ih (h.perform a).2)

/-! ## One action -/

/-- Whether the owners of code are modules whose numbers were given out. -/
def OwnersCounted (h : Host) : Prop :=
  ∀ id m, h.owner id = some m → ∃ k < h.store.modules, m = .ofCount k

theorem OwnersCounted.of_keepsOwners {h h' : Host} (hc : h.OwnersCounted)
    (hk : KeepsOwners h h') : h'.OwnersCounted := by
  intro id m ho
  obtain ⟨k, hlt, rfl⟩ := hc id m (hk.owner id ▸ ho)
  exact ⟨k, Nat.lt_of_lt_of_le hlt hk.modules, rfl⟩

/-- The next number is that of no owner. -/
theorem OwnersCounted.next_free {h : Host} (hc : h.OwnersCounted)
    (hbound : h.store.modules < UInt32.size) (id : CodeId) :
    h.owner id ≠ some (.ofCount h.store.modules) := by
  intro ho
  obtain ⟨k, hlt, heq⟩ := hc id _ ho
  exact Nat.ne_of_gt hlt (ModuleId.ofCount_inj hbound (Nat.lt_trans hlt hbound) heq)

/-- One action keeps owners, or else it ends with the assembly of the module it returns. -/
theorem perform_cases {h : Host} (a : Action) (hcounted : h.OwnersCounted)
    (hbound : (h.perform a).2.store.modules < UInt32.size) :
    ((h.perform a).1 = none ∧ KeepsOwners h (h.perform a).2) ∨
    ∃ h₁ m, KeepsOwners h h₁ ∧ (h.perform a).1 = some m ∧
      (∀ id ∈ m.code, id.index < h₁.codes.size) ∧ Assembled h₁ m (h.perform a).2 := by
  cases a with
  | create c name scope code =>
      simp only [perform] at hbound ⊢
      split
      · next hexist =>
          rw [if_pos hexist] at hbound
          have hnext := hcounted.next_free
            (Nat.lt_of_le_of_lt (modules_le_createModule h c name scope code) hbound)
          rcases createModule_cases h c name scope code hnext with
            ⟨e, hres, hk⟩ | ⟨m, hres, hcode, hm⟩
          · exact .inl ⟨by rw [hres]; rfl, hk⟩
          · exact .inr ⟨h, m, .refl h, by rw [hres]; rfl, hcode ▸ hexist, hm⟩
      · exact .inl ⟨rfl, .refl h⟩
  | compile c name scope units sink =>
      have hunits := compileUnits_adds c units h sink
      simp only [perform, compileModule] at hbound ⊢
      split
      · next hus =>
          rw [hus] at hunits
          exact .inl ⟨rfl, hunits.1.keepsOwners⟩
      · next ids h₁ sink₁ hus =>
          rw [hus] at hunits hbound
          split
          · exact .inl ⟨rfl, hunits.1.keepsOwners⟩
          · next herrors =>
              simp only [if_neg herrors] at hbound
              have hnext := (hcounted.of_keepsOwners hunits.1.keepsOwners).next_free
                (Nat.lt_of_le_of_lt (modules_le_createModule h₁ c name scope ids) hbound)
              rcases createModule_cases h₁ c name scope ids hnext with
                ⟨e, hres, hk⟩ | ⟨m, hres, hcode, hm⟩
              · exact .inl ⟨by rw [hres]; rfl, hunits.1.keepsOwners.trans hk⟩
              · refine .inr ⟨h₁, m, hunits.1.keepsOwners, by rw [hres]; rfl, fun id hid => ?_, hm⟩
                obtain ⟨u, hu⟩ := exists_unit (hunits.2 ids rfl) (hcode ▸ hid)
                exact hu.inRange
  | use u => exact .inl ⟨rfl, u.keepsOwners h⟩

end Host

end Polyglot
