import Polyglot.Proofs.Guest.Running
import Polyglot.Proofs.Host.Action
import Polyglot.Proofs.Host.Growth

/-!
# Polyglot.Proofs.Host.Activity

What an embedding does to the store.  Whatever an application does with it, modules being assembled
and executed and languages being loaded, the store evolves by elementary changes
(`evolves_afterAll`).  Names are taken away from their slots in the scopes that
`Activity.unfilesAll` counts up: those that the application itself changes so, and those in which a
statement does so when code is executed.
-/

namespace Polyglot.Host

open Store (Evolves)

/-- An action that does not change the store behind the embedding's back. -/
def Action.Regular : Action → Prop
  | .use (.changeStore _ _) => False
  | _ => True

/-- Something that an application does: an operation of the store, or an action. -/
inductive Activity where
  | operate (op : Store.Operation)
  | act (a : Action) (regular : a.Regular)

/-- The host after an activity. -/
def after (h : Host) : Activity → Host
  | .operate op => h.setStore (h.store.operate op)
  | .act a _ => (h.perform a).2

/-- The host after activities. -/
def afterAll (h : Host) (activities : List Activity) : Host := activities.foldl after h

/-! ## Where names are taken away -/

/-- The scopes that names are taken out of while code runs in a context. -/
def unfilesOfCode (h : Host) (id : CodeId) (c : Context) : List ScopeId :=
  match (h.code id).compiled with
  | .script p g => Script.unfilesAll g p.body c h.machine
  | _ => []

/-- The scopes that names are taken out of while code objects run in order. -/
def unfilesOfCodes (c : Context) : List CodeId → Host → List ScopeId
  | [], _ => []
  | id :: ids, h =>
    h.unfilesOfCode id c ++
      match h.runCode id c with
      | (.error _, _) => []
      | (.ok _, h) => unfilesOfCodes c ids h

/-- The scopes that names are taken out of while a module is executed. -/
def unfilesOfModule (h : Host) (m : Module) : List ScopeId :=
  let (c, st) := h.store.moduleContext m.id m.scope
  unfilesOfCodes c m.code (h.setStore st)

/-- The scopes in which an activity takes names away from their slots. -/
def Activity.unfiles (h : Host) : Activity → List ScopeId
  | .operate op => op.unfiles?.toList
  | .act (.use (.execute m)) _ => h.unfilesOfModule m
  | .act (.use (.runCode id c)) _ => h.unfilesOfCode id c
  | .act _ _ => []

/-- The scopes in which activities take names away from their slots. -/
def Activity.unfilesAll (h : Host) : List Activity → List ScopeId
  | [] => []
  | a :: as => a.unfiles h ++ unfilesAll (h.after a) as

/-! ## Running -/

section Evolution

variable {P : ScopeId → Prop} {h : Host}

theorem evolves_runCode (h : Host) (id : CodeId) (c : Context)
    (hP : ∀ sc ∈ h.unfilesOfCode id c, P sc) : Evolves P h.store (h.runCode id c).2.store := by
  rw [unfilesOfCode] at hP
  simp only [runCode]
  split
  · exact .refl _
  · next p g hcode =>
      rw [hcode] at hP
      exact Script.evolves_runAll g p.body .nil c h.machine hP
  · next as g _ => exact Tally.evolves_run g c as .nil h.store

theorem evolves_runCodes (c : Context) (ids : List CodeId) (last : Value) (h : Host)
    (hP : ∀ sc ∈ unfilesOfCodes c ids h, P sc) :
    Evolves P h.store (runCodes c ids last h).2.store := by
  induction ids generalizing last h with
  | nil => exact .refl _
  | cons id ids ih =>
      rw [unfilesOfCodes] at hP
      have hfirst := evolves_runCode h id c fun sc hsc => hP sc (List.mem_append_left _ hsc)
      simp only [runCodes]
      split
      · next e h' hr => rw [hr] at hfirst; exact hfirst
      · next v h' hr =>
          rw [hr] at hfirst hP
          exact hfirst.trans (ih v h' fun sc hsc => hP sc (List.mem_append_right _ hsc))

theorem evolves_execute (h : Host) (m : Module) (hP : ∀ sc ∈ h.unfilesOfModule m, P sc) :
    Evolves P h.store (h.execute m).2.store := by
  have hcontext : Evolves P h.store (h.store.moduleContext m.id m.scope).2 :=
    .of_change (.push .empty m.scope)
  exact hcontext.trans (evolves_runCodes _ m.code .nil _ hP)

/-! ## Assembly -/

theorem store_prepare (m : Module) (h : Host) (p : ProviderId) :
    (prepare m h p).store = h.store := by
  simp only [prepare]
  split
  · split <;> rfl
  · rfl

theorem store_foldl {α : Type} {f : Host → α → Host} (hf : ∀ h a, (f h a).store = h.store)
    (as : List α) (h : Host) : (as.foldl f h).store = h.store :=
  List.foldlRecOn (motive := fun h' => h'.store = h.store) as f rfl
    fun h' hs a _ => (hf h' a).trans hs

theorem store_announce (h : Host) (l : Listener) (m : Module) :
    (h.announce l m).store = h.store := by
  cases l <;> rfl

/-- After a module has its scope, nothing happens to the store. -/
theorem store_finish (h : Host) (c : Compiler) (m : ModuleId) (name : String)
    (scope : Option ScopeId) (ids : List CodeId) (providers : List ProviderId) :
    (h.finish c m name scope ids providers).2.store =
      (h.moduleScope c.options scope ids).2.store := by
  simp only [finish, store_announce, store_foldl (store_prepare _)]
  split
  · exact store_releaseAll _ m ids
  · rfl

theorem evolves_moduleScope (h : Host) (o : Options) (scope : Option ScopeId) (ids : List CodeId) :
    Evolves P h.store (h.moduleScope o scope ids).2.store := by
  simp only [moduleScope]
  split
  · exact .refl _
  · split
    · have hlinked : (h.linkGlobals ids).2.store =
          (Linkage.link h.store (h.declarationsOf ids)).2 := (keeps_linkAll _ ids _).2
      have hscope := (h.linkGlobals ids).1.evolves_newScope (P := P) (h.linkGlobals ids).2.store
      rw [hlinked] at hscope ⊢
      exact (Linkage.evolves_link h.store _).trans hscope
    · exact .of_change (.scope _)

theorem evolves_createModule (h : Host) (c : Compiler) (name : String) (scope : Option ScopeId)
    (ids : List CodeId) : Evolves P h.store (h.createModule c name scope ids).2.store := by
  have hloads := onlyLoads_providersToPrepare h c name ids
  simp only [createModule]
  split
  · next e h₁ hp => exact .of_eq (hloads.ends hp).store
  · next providers h₁ hp =>
      have hnumber : Evolves P h.store h₁.store.nextModule.2 := by
        rw [(hloads.ends hp).store]
        exact .of_change .number
      have hclaim : ((h₁.setStore h₁.store.nextModule.2).claimAll
          h₁.store.nextModule.1 ids).2.store = h₁.store.nextModule.2 := store_claimFrom _ _ _ _
      split
      · next e h₂ hc =>
          rw [hc] at hclaim
          rwa [show h₂.store = _ from hclaim]
      · next h₂ hc =>
          rw [hc] at hclaim
          rw [← show h₂.store = _ from hclaim] at hnumber
          rw [store_finish]
          exact hnumber.trans (evolves_moduleScope h₂ c.options scope ids)

theorem evolves_compileModule (h : Host) (c : Compiler) (name : String) (scope : Option ScopeId)
    (units : List SourceUnit) (sink : Sink) :
    Evolves P h.store (h.compileModule c name scope units sink).2.1.store := by
  have hunits := (compileUnits_adds c units h sink).1.store
  simp only [compileModule]
  split
  · next hus => rw [hus] at hunits; exact .of_eq hunits
  · next ids h₁ sink₁ hus =>
      rw [hus] at hunits
      rw [← show h₁.store = h.store from hunits]
      split
      · exact .refl _
      · exact evolves_createModule h₁ c name scope ids

/-! ## Activities -/

/-- A use of the embedding changes the store by elementary changes. -/
theorem evolves_use {u : Use} (hregular : (Action.use u).Regular) (h : Host)
    (hP : ∀ sc ∈ (Activity.act (.use u) hregular).unfiles h, P sc) :
    Evolves P h.store (u.effect h).store := by
  cases u with
  | addCode source language compiled => exact .refl _
  | compileUnit c u sink => exact .of_eq (compileUnit_adds h c u sink).1.store
  | execute m => exact evolves_execute h m hP
  | runCode id c => exact evolves_runCode h id c hP
  | addRegistry resolver => exact .refl _
  | addResolver => exact .refl _
  | insertFactory r location f => exact .refl _
  | register r l override ids =>
      cases hr : h.register r l override ids with
      | error e => rw [Use.effect, hr]; exact .refl _
      | ok h' => rw [Use.effect, hr]; exact .of_eq (onlyLoads_of_register hr).store
  | resolve r id => exact .of_eq (onlyLoads_resolve h r id).store
  | tryResolve r id => exact .of_eq (onlyLoads_tryResolve h r id).store
  | resolveByExtension r extension =>
      exact .of_eq (onlyLoads_resolveByExtension h r extension).store
  | resolveByType r type => exact .of_eq (onlyLoads_resolveByType h r type).store
  | construct f place => exact .of_eq (onlyLoads_constructApart h f place).store
  | attachProgram unit p => exact .refl _
  | setSite name site => exact .refl _
  | changeStore f onward => exact hregular.elim

/-- An activity makes elementary changes, and takes names away only where it is said to. -/
theorem evolves_after (h : Host) (a : Activity) (hP : ∀ sc ∈ a.unfiles h, P sc) :
    Evolves P h.store (h.after a).store := by
  cases a with
  | operate op => exact .operate op fun sc hsc => hP sc (Option.mem_toList.2 hsc)
  | act a regular =>
      cases a with
      | create c name scope code =>
          simp only [after, perform]
          split
          · exact evolves_createModule h c name scope code
          · exact .refl _
      | compile c name scope units sink => exact evolves_compileModule h c name scope units sink
      | use u => exact evolves_use regular h hP

/-- **Whatever an application does, the store evolves by elementary changes**, which take names
away only where they are said to. -/
theorem evolves_afterAll (h : Host) (activities : List Activity)
    (hP : ∀ sc ∈ Activity.unfilesAll h activities, P sc) :
    Evolves P h.store (h.afterAll activities).store := by
  induction activities generalizing h with
  | nil => exact .refl _
  | cons a activities ih =>
      have hfirst := evolves_after h a fun sc hsc => hP sc (List.mem_append_left _ hsc)
      exact hfirst.trans (ih (h.after a) fun sc hsc => hP sc (List.mem_append_right _ hsc))

end Evolution

end Polyglot.Host
