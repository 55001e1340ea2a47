import Polyglot.Proofs.Guest.Globals
import Polyglot.Proofs.Host.Origin

/-!
# Polyglot.Proofs.Host.Callbacks

The calls that assembly makes into code, providers and the application, and the order they are made
in, among its other deeds that they can see:

```
claim      the module becomes the owner of its code
link       each code object is given the linkage, if globals are linked
release    the bootstrap module gives its code back
prepare    each provider prepares the module, unless it is the bootstrap module
announce   the application is told of the module
```

`Does` relates two states by the deeds that were done between them, each with the state it was done
in; what happens besides cannot be seen by anyone who is called (`Silent`), and leaves the owners of
code as they are.  A successful assembly looks for the providers of the code (`Finds`), and from
then on it does what is listed in `deedsOf` (`callbacks_in_order`).  Providers and the application
record the owners that they see, so that the record shows in which state each of them was called.
-/

namespace Polyglot.Host

open Polyglot.Language

/-! ## Calls -/

/-- A call that assembly makes out of the library. -/
inductive Callback where
  | link (code : CodeId) (globals : Linkage)
  | prepare (provider : ProviderId) (m : Module)
  | announce (m : Module)

namespace Callback

/-- The state after a call. -/
def effect (l : Listener) : Callback → Host → Host
  | link id globals, h => linkCode globals h id
  | prepare p m, h => Host.prepare m h p
  | announce m, h => h.announce l m

/-- What a call leaves in the record. -/
def shown (l : Listener) : Callback → Host → List Event
  | link id globals, h =>
    match (h.code id).compiled with
    | .script _ _ => [.link (h.code id).source globals.names]
    | _ => []
  | prepare p m, h =>
    match h.provider p with
    | .script _ quiet =>
      if quiet then []
      else [.context p m.name m.id m.file (h.store.nameCount m.scope) (m.code.map h.owner)]
    | .tally _ _ => []
  | announce m, h =>
    match l with
    | .silent => []
    | .recording => [.moduleCreated m.name m.id (m.code.map h.owner)]

/-- Whether code is given its linkage. -/
def isLink : Callback → Bool
  | link _ _ => true
  | _ => false

theorem events_effect (l : Listener) (cb : Callback) (h : Host) :
    (cb.effect l h).events.toList = h.events.toList ++ cb.shown l h := by
  cases cb with
  | link id globals =>
      cases hc : (h.code id).compiled <;> simp [effect, shown, linkCode, hc, emit, setCode]
  | prepare p m =>
      cases hp : h.provider p with
      | script name quiet =>
          cases quiet with
          | true => simp [effect, shown, Host.prepare, hp]
          | false =>
              simp only [effect, shown, Host.prepare, hp, emit, Bool.false_eq_true, if_false,
                Array.toList_push]
              rfl
      | tally prepared count => simp [effect, shown, Host.prepare, hp]
  | announce m =>
      cases l with
      | silent => simp [effect, shown, Host.announce]
      | recording =>
          simp only [effect, shown, Host.announce, emit, Array.toList_push]
          rfl

theorem keepsOwners_effect (l : Listener) (cb : Callback) (h : Host) :
    KeepsOwners h (cb.effect l h) := by
  cases cb with
  | link id globals => exact keepsOwners_linkCode globals h id
  | prepare p m => exact keepsOwners_prepare m h p
  | announce m => exact keepsOwners_announce h l m

end Callback

/-! ## Deeds -/

/-- What assembly does that those whom it calls can see: a call, or a change of the owners of
code. -/
inductive Deed where
  | call (cb : Callback)
  /-- A module becomes the owner of code that nobody owns. -/
  | claim (m : ModuleId) (ids : List CodeId)
  /-- A module gives code back. -/
  | release (m : ModuleId) (ids : List CodeId)

namespace Deed

/-- The state after a deed. -/
def effect (l : Listener) : Deed → Host → Host
  | call cb, h => cb.effect l h
  | claim m ids, h => (h.claimAll m ids).2
  | release m ids, h => h.releaseAll m ids

/-- What a deed leaves in the record. -/
def shown (l : Listener) : Deed → Host → List Event
  | call cb, h => cb.shown l h
  | _, _ => []

end Deed

theorem events_releaseAll (h : Host) (m : ModuleId) (ids : List CodeId) :
    (h.releaseAll m ids).events = h.events := by
  induction ids generalizing h with
  | nil => rfl
  | cons id ids ih => exact ih (h.unbind m id)

theorem events_claimFrom (m : ModuleId) (done ids : List CodeId) (h : Host) :
    (claimFrom m done ids h).2.events = h.events := by
  induction ids generalizing done h with
  | nil => rfl
  | cons id ids ih =>
      rw [claimFrom]
      cases hb : h.bind m id with
      | error e => exact events_releaseAll h m done
      | ok h₁ =>
          obtain ⟨c, -, rfl⟩ := exists_of_bind_eq_ok hb
          exact ih (done ++ [id]) (h.setCode id c)

theorem Deed.events_effect (l : Listener) (d : Deed) (h : Host) :
    (d.effect l h).events.toList = h.events.toList ++ d.shown l h := by
  cases d with
  | call cb => exact cb.events_effect l h
  | claim m ids =>
      rw [effect, claimAll, events_claimFrom]
      exact (List.append_nil _).symm
  | release m ids =>
      rw [effect, events_releaseAll]
      exact (List.append_nil _).symm

/-- What happened cannot be seen by code, providers or the application: it made no call, changed no
provider and no compiled code, and left all code to its owners. -/
structure Silent (h h' : Host) : Prop where
  events : h'.events = h.events
  providers : h'.providers = h.providers
  codes : h'.codes = h.codes

namespace Silent

theorem refl (h : Host) : Silent h h := ⟨rfl, rfl, rfl⟩

theorem setStore (h : Host) (st : Store) : Silent h (h.setStore st) := ⟨rfl, rfl, rfl⟩

theorem owner {h h' : Host} (hs : Silent h h') (id : CodeId) : h'.owner id = h.owner id := by
  rw [Host.owner, code, hs.codes, ← code, ← Host.owner]

end Silent

/-- Deeds that were done between two states, each with the state it was done in. -/
inductive Does (l : Listener) : Host → List (Deed × Host) → Host → Prop where
  | done (h : Host) : Does l h [] h
  | silent {h h₁ h' : Host} {deeds : List (Deed × Host)} (hs : Silent h h₁)
      (rest : Does l h₁ deeds h') : Does l h deeds h'
  | deed {h h' : Host} {deeds : List (Deed × Host)} (d : Deed)
      (rest : Does l (d.effect l h) deeds h') : Does l h ((d, h) :: deeds) h'

namespace Does

variable {l : Listener} {h h₁ h' : Host} {deeds more : List (Deed × Host)}

theorem append (hd : Does l h deeds h₁) (hmore : Does l h₁ more h') :
    Does l h (deeds ++ more) h' := by
  induction hd with
  | done h => exact hmore
  | silent hs _ ih => exact .silent hs (ih hmore)
  | deed d _ ih => exact .deed d (ih hmore)

/-- The record grows by what the deeds leave there. -/
theorem events (hd : Does l h deeds h') :
    h'.events.toList = h.events.toList ++ deeds.flatMap fun deed => deed.1.shown l deed.2 := by
  induction hd with
  | done h => simp
  | silent hs _ ih => rw [ih, hs.events]
  | deed d _ ih => rw [ih, d.events_effect, List.flatMap_cons, List.append_assoc]

/-- As long as only calls are made, they find the owners that the first of them finds.  Induction on
the deeds. -/
theorem of_call_mem {cbs : List Callback} (hd : Does l h deeds h')
    (hcalls : deeds.map Prod.fst = cbs.map .call) {cb : Callback} {now : Host}
    (hcall : (.call cb, now) ∈ deeds) : cb ∈ cbs ∧ ∀ id, now.owner id = h.owner id := by
  induction hd generalizing cbs with
  | done h => cases hcall
  | silent hs _ ih =>
      obtain ⟨hcb, howner⟩ := ih hcalls hcall
      exact ⟨hcb, fun id => (howner id).trans (hs.owner id)⟩
  | deed d _ ih =>
      cases cbs with
      | nil => cases hcalls
      | cons first cbs =>
          obtain ⟨rfl, hrest⟩ := List.cons.inj hcalls
          rcases List.mem_cons.1 hcall with hhere | hlater
          · obtain ⟨hsame, rfl⟩ := Prod.mk.inj hhere
            exact ⟨Deed.call.inj hsame ▸ List.mem_cons_self, fun id => rfl⟩
          · obtain ⟨hcb, howner⟩ := ih hrest hlater
            exact ⟨List.mem_cons_of_mem first hcb,
              fun id => (howner id).trans ((first.keepsOwners_effect l _).owner id)⟩

end Does

/-- Calls that are made one after the other, each with the state it is made in. -/
def callsFrom (l : Listener) : List Callback → Host → List (Deed × Host)
  | [], _ => []
  | cb :: cbs, h => (.call cb, h) :: callsFrom l cbs (cb.effect l h)

section CallsFrom

variable {l : Listener}

theorem does_callsFrom (cbs : List Callback) (h : Host) :
    Does l h (callsFrom l cbs h) (cbs.foldl (fun h cb => cb.effect l h) h) := by
  induction cbs generalizing h with
  | nil => exact .done h
  | cons cb cbs ih => exact .deed (.call cb) (ih _)

@[simp] theorem map_fst_callsFrom (cbs : List Callback) (h : Host) :
    (callsFrom l cbs h).map Prod.fst = cbs.map Deed.call := by
  induction cbs generalizing h with
  | nil => rfl
  | cons cb cbs ih => rw [callsFrom, List.map_cons, ih, List.map_cons]

end CallsFrom

/-! ## The providers of the code -/

/-- Between the states `h` and `h'` the provider of each code object is found in order: the one that
it remembers, or else the one that the registry resolves its language to when it is its turn. -/
inductive Finds (r : RegistryId) : Host → List CodeId → List ProviderId → Host → Prop where
  | nil (h : Host) : Finds r h [] [] h
  | remembered {h h' : Host} {id : CodeId} {p : ProviderId} {ids : List CodeId}
      {ps : List ProviderId} (hp : (h.code id).provider = some p) (rest : Finds r h ids ps h') :
      Finds r h (id :: ids) (p :: ps) h'
  | resolved {h h₁ h' : Host} {id : CodeId} {p : ProviderId} {ids : List CodeId}
      {ps : List ProviderId} (hnone : (h.code id).provider = none)
      (hp : h.resolve r (h.code id).language = (.ok p, h₁)) (rest : Finds r h₁ ids ps h') :
      Finds r h (id :: ids) (p :: ps) h'

namespace Finds

variable {r : RegistryId} {h h' : Host} {ids : List CodeId} {ps : List ProviderId}

/-- A provider that code remembers is the one that is found for it. -/
theorem getElem?_of_provider (hf : Finds r h ids ps h') {i : Nat} {id : CodeId} {p : ProviderId}
    (hid : ids[i]? = some id) (hp : (h.code id).provider = some p) : ps[i]? = some p := by
  induction hf generalizing i with
  | nil h => cases hid
  | remembered hfirst _ ih =>
      cases i with
      | zero =>
          obtain rfl := Option.some.inj hid
          exact hfirst.symm.trans hp
      | succ i => exact ih hid hp
  | @resolved h h₁ h' first q ids ps hnone hq _ ih =>
      cases i with
      | zero =>
          obtain rfl := Option.some.inj hid
          rw [hnone] at hp
          cases hp
      | succ i =>
          have hcode := ((onlyLoads_resolve h r (h.code first).language).ends hq).code id
          exact ih hid (by rw [hcode, hp])

end Finds

/-- The providers that are to prepare a module are those of its code, each once. -/
theorem finds_of_distinctProviders {r : RegistryId} {ids : List CodeId} {h h' : Host}
    {ps : List ProviderId} (known : List ProviderId)
    (hps : distinctProviders r known.eraseDups ids h = (.ok ps, h')) :
    ∃ instances, Finds r h ids instances h' ∧ ps = (known ++ instances).eraseDups := by
  induction ids generalizing known h with
  | nil =>
      obtain ⟨hfound, hend⟩ := Prod.mk.inj hps
      rw [← hend, ← Except.ok.inj hfound]
      exact ⟨[], .nil h, by rw [List.append_nil]⟩
  | cons id ids ih =>
      rw [distinctProviders] at hps
      split at hps
      · cases hps
      · next p h₁ hp =>
          have hknown : (if p ∈ known.eraseDups then known.eraseDups
              else known.eraseDups ++ [p]) = (known ++ [p]).eraseDups := by
            rw [eraseDups_concat]
            simp only [List.mem_eraseDups]
          rw [hknown] at hps
          obtain ⟨instances, hfinds, hdistinct⟩ := ih (known ++ [p]) hps
          refine ⟨p :: instances, ?_, by rw [hdistinct, List.append_assoc, List.singleton_append]⟩
          rw [providerOf] at hp
          split at hp
          · next q hq =>
              obtain ⟨hsame, hend⟩ := Prod.mk.inj hp
              rw [← Except.ok.inj hsame, hend]
              exact .remembered (hend ▸ hq) hfinds
          · next hnone => exact .resolved hnone hp hfinds

/-- A bootstrap module is prepared by nobody, and an ordinary one by the providers of its code. -/
theorem finds_of_providersToPrepare {h ready : Host} {c : Compiler} {name : String}
    {ids : List CodeId} {ps : List ProviderId}
    (hps : h.providersToPrepare c name ids = (.ok ps, ready)) :
    ∃ instances, ps = (if name = bootstrapName then [] else instances.eraseDups) ∧
      (name = bootstrapName → ready = h) ∧
      (name ≠ bootstrapName → Finds c.registry h ids instances ready) := by
  rw [providersToPrepare] at hps
  split at hps
  · next hname =>
      obtain ⟨hnone, hend⟩ := Prod.mk.inj hps
      refine ⟨[], ?_, fun _ => hend.symm, fun hne => absurd hname hne⟩
      rw [if_pos hname, Except.ok.inj hnone]
  · next hname =>
      obtain ⟨instances, hfinds, hdistinct⟩ := finds_of_distinctProviders [] hps
      refine ⟨instances, ?_, fun hb => absurd hb hname, fun _ => hfinds⟩
      rw [if_neg hname, hdistinct, List.nil_append]

/-! ## Claiming -/

/-- Claiming one object for a module succeeds only if nobody else owns it. -/
theorem eq_ownedBy_of_bind {h h' : Host} {m : ModuleId} {taken : CodeId → Bool} {id : CodeId}
    (hb : (h.ownedBy m taken).bind m id = .ok h') :
    h' = h.ownedBy m fun j => taken j || decide (j = id) := by
  obtain ⟨c, hc, rfl⟩ := exists_of_bind_eq_ok hb
  have hclaimed : c = { (h.ownedBy m taken).code id with owner := some m } := by
    rw [Code.bind] at hc
    split at hc
    · exact (Except.ok.inj hc).symm
    · next o ho =>
        split at hc
        · next hself =>
            have howner : ((h.ownedBy m taken).code id).owner = some m := by rw [ho, hself]
            rw [← Except.ok.inj hc, ← howner]
        · cases hc
  refine setCode_ownedBy (fun old hold => ?_) fun j hj => by simp [hj]
  rw [hclaimed, code_ownedBy_of_get? hold]
  cases htaken : taken id <;> simp

theorem eq_ownedBy_of_claimFrom {m : ModuleId} {ids done : List CodeId} {h h' : Host}
    (hc : claimFrom m done ids (h.ownedBy m fun j => decide (j ∈ done)) = (.ok (), h')) :
    h' = h.ownedBy m fun j => decide (j ∈ done ++ ids) := by
  induction ids generalizing done with
  | nil =>
      rw [List.append_nil]
      exact (Prod.mk.inj hc).2.symm
  | cons id ids ih =>
      rw [claimFrom] at hc
      split at hc
      · cases hc
      · next h₁ hb =>
          have hstep : (fun j => decide (j ∈ done) || decide (j = id)) =
              fun j => decide (j ∈ done ++ [id]) := by
            funext j
            simp
          rw [eq_ownedBy_of_bind hb, hstep] at hc
          rw [ih hc, List.append_assoc, List.singleton_append]

/-- After code was claimed for a module, the module owns it. -/
theorem eq_ownedBy_of_claimAll {h h' : Host} {m : ModuleId} {ids : List CodeId}
    (hc : h.claimAll m ids = (.ok (), h')) : h' = h.ownedBy m fun j => decide (j ∈ ids) := by
  have hnone : h = h.ownedBy m fun j => decide (j ∈ ([] : List CodeId)) := by
    simp [ownedBy_nothing]
  rw [claimAll, hnone] at hc
  have hall := eq_ownedBy_of_claimFrom hc
  rwa [List.nil_append] at hall

/-! ## Assembly -/

/-- The calls that give code objects a linkage, if there is one. -/
def linkCallbacks (g : Option Linkage) (ids : List CodeId) : List Callback :=
  match g with
  | none => []
  | some l => ids.map fun id => .link id l

theorem isLink_of_mem_linkCallbacks {g : Option Linkage} {ids : List CodeId} {cb : Callback}
    (hcb : cb ∈ linkCallbacks g ids) : cb.isLink = true := by
  cases g with
  | none => cases hcb
  | some l =>
      obtain ⟨id, -, rfl⟩ := List.mem_map.1 hcb
      rfl

/-- What is done for a module, in order, if `instances` are the providers of its code. -/
def deedsOf (m : Module) (instances : List ProviderId) : List Deed :=
  .claim m.id m.code :: ((linkCallbacks m.globals m.code).map .call ++
    ((if m.name = bootstrapName then [.release m.id m.code]
      else instances.eraseDups.map fun p => .call (.prepare p m)) ++ [.call (.announce m)]))

/-- Globals are linked when no scope was supplied, there is code, and linking is switched on. -/
theorem isSome_globals_moduleScope (h : Host) (o : Options) (scope : Option ScopeId)
    (ids : List CodeId) : (h.moduleScope o scope ids).1.2.isSome = true ↔
      scope = none ∧ ids ≠ [] ∧ o.linkGlobals = true := by
  simp only [moduleScope]
  split
  · simp
  · split
    · next hlinks => simpa using hlinks
    · next hlinks => simpa using hlinks

theorem does_linkAll (listener : Listener) (l : Linkage) (ids : List CodeId) (h : Host) :
    Does listener h (callsFrom listener (ids.map fun id => .link id l) h)
      (ids.foldl (linkCode l) h) := by
  have hlinks := does_callsFrom (l := listener) (ids.map fun id => Callback.link id l) h
  rw [List.foldl_map] at hlinks
  exact hlinks

/-- A module gets its scope without any deeds but the calls that link its code. -/
theorem does_moduleScope (listener : Listener) (h : Host) (o : Options) (scope : Option ScopeId)
    (ids : List CodeId) : ∃ linking, Does listener h linking (h.moduleScope o scope ids).2 ∧
      linking.map Prod.fst = (linkCallbacks (h.moduleScope o scope ids).1.2 ids).map .call := by
  simp only [moduleScope]
  split
  · exact ⟨[], .done h, rfl⟩
  · split
    · have hlinked : Does listener h
          (callsFrom listener (ids.map fun id => .link id (h.linkGlobals ids).1)
            (h.setStore (Linkage.link h.store (h.declarationsOf ids)).2) ++ [])
          ((h.linkGlobals ids).2.setStore
            ((h.linkGlobals ids).1.newScope (h.linkGlobals ids).2.store).2) :=
        .silent (.setStore h _) ((does_linkAll listener _ ids _).append
          (.silent (.setStore _ _) (.done _)))
      exact ⟨_, hlinked, by rw [List.append_nil, map_fst_callsFrom]; rfl⟩
    · exact ⟨[], .silent (.setStore h _) (.done _), rfl⟩

/-- The state in which the first provider is asked to prepare a module. -/
def readyToPrepare (h : Host) (c : Compiler) (id : ModuleId) (name : String)
    (scope : Option ScopeId) (ids : List CodeId) : Host :=
  let h := (h.moduleScope c.options scope ids).2
  if name = bootstrapName then h.releaseAll id ids else h

/-- Giving back the code of a bootstrap module, in the state `h`. -/
def releasing (h : Host) (id : ModuleId) (name : String) (ids : List CodeId) :
    List (Deed × Host) :=
  if name = bootstrapName then [(.release id ids, h)] else []

/-- The calls to the providers and to the application. -/
def finalCallbacks (m : Module) (providers : List ProviderId) : List Callback :=
  providers.map (fun p => .prepare p m) ++ [.announce m]

theorem isLink_of_mem_finalCallbacks {m : Module} {providers : List ProviderId} {cb : Callback}
    (hcb : cb ∈ finalCallbacks m providers) : cb.isLink = false := by
  rcases List.mem_append.1 hcb with hprepare | hannounce
  · obtain ⟨p, -, rfl⟩ := List.mem_map.1 hprepare
    rfl
  · rw [List.mem_singleton.1 hannounce]
    rfl

/-- When its code is linked, a module is finished by giving back the code of a bootstrap module,
asking the providers and telling the application. -/
theorem does_finish (h : Host) (c : Compiler) (id : ModuleId) (name : String)
    (scope : Option ScopeId) (ids : List CodeId) (providers : List ProviderId) :
    Does c.listener (h.moduleScope c.options scope ids).2
      (releasing (h.moduleScope c.options scope ids).2 id name ids ++ callsFrom c.listener
        (finalCallbacks (h.finish c id name scope ids providers).1 providers)
        (h.readyToPrepare c id name scope ids))
      (h.finish c id name scope ids providers).2 := by
  have hcalls := does_callsFrom (l := c.listener)
    (finalCallbacks (h.finish c id name scope ids providers).1 providers)
    (h.readyToPrepare c id name scope ids)
  rw [finalCallbacks, List.foldl_append, List.foldl_map, ← finalCallbacks] at hcalls
  rw [releasing]
  by_cases hname : name = bootstrapName
  · rw [if_pos hname]
    refine .deed (.release id ids) ?_
    have hready : h.readyToPrepare c id name scope ids =
        (h.moduleScope c.options scope ids).2.releaseAll id ids := if_pos hname
    rw [Deed.effect, ← hready]
    exact hcalls
  · rw [if_neg hname, List.nil_append]
    have hready : h.readyToPrepare c id name scope ids = (h.moduleScope c.options scope ids).2 :=
      if_neg hname
    rw [← hready]
    exact hcalls

/-- A module that claimed code owns it. -/
theorem owner_claimed (h : Host) (m : ModuleId) {ids : List CodeId} {id : CodeId} (hid : id ∈ ids)
    (hexists : id.index < h.codes.size) :
    (h.ownedBy m fun j => decide (j ∈ ids)).owner id = some m := by
  rw [owner_ownedBy, if_pos ⟨decide_eq_true hid, hexists⟩]

/-- While providers prepare a module and the application is told, an ordinary module owns its code,
and nobody owns that of a bootstrap module. -/
theorem owner_readyToPrepare (h : Host) (c : Compiler) (m : ModuleId) (name : String)
    (scope : Option ScopeId) {ids : List CodeId} {id : CodeId} (hid : id ∈ ids)
    (hexists : id.index < h.codes.size) :
    ((h.ownedBy m fun j => decide (j ∈ ids)).readyToPrepare c m name scope ids).owner id =
      if name = bootstrapName then none else some m := by
  have hscope := (keepsOwners_moduleScope (h.ownedBy m fun j => decide (j ∈ ids)) c.options scope
    ids).owner id
  rw [owner_claimed h m hid hexists] at hscope
  rw [readyToPrepare]
  split
  · rw [owner_releaseAll, if_pos ⟨hid, hscope⟩]
  · exact hscope

/-- What a module is that was finished. -/
theorem of_finish {h h' : Host} {c : Compiler} {id : ModuleId} {name : String}
    {scope : Option ScopeId} {ids : List CodeId} {providers : List ProviderId} {m : Module}
    (hfinish : h.finish c id name scope ids providers = (m, h')) :
    m.id = id ∧ m.name = name ∧ m.code = ids ∧
      m.globals = (h.moduleScope c.options scope ids).1.2 := by
  obtain ⟨rfl, -⟩ := Prod.mk.inj hfinish
  exact ⟨rfl, rfl, rfl, rfl⟩

/-- A module claims its code and does the rest of what is listed for it, and whoever is called finds
the code owned as it should be. -/
theorem exists_deeds_of_finish {h h' : Host} {c : Compiler} {id : ModuleId} {name : String}
    {scope : Option ScopeId} {ids : List CodeId} {providers instances : List ProviderId}
    {m : Module} (hexist : ∀ i ∈ ids, i.index < h.codes.size)
    (hclaim : h.claimAll id ids = (.ok (), h.ownedBy id fun i => decide (i ∈ ids)))
    (hproviders : providers = if name = bootstrapName then [] else instances.eraseDups)
    (hfinish : (h.ownedBy id fun i => decide (i ∈ ids)).finish c id name scope ids providers =
      (m, h')) :
    ∃ deeds, Does c.listener h deeds h' ∧ deeds.map Prod.fst = deedsOf m instances ∧
      ∀ cb now, (.call cb, now) ∈ deeds → ∀ i ∈ ids,
        now.owner i = if name = bootstrapName ∧ cb.isLink = false then none else some id := by
  let claimed := h.ownedBy id fun i => decide (i ∈ ids)
  let linked := (claimed.moduleScope c.options scope ids).2
  let ready := claimed.readyToPrepare c id name scope ids
  obtain ⟨rfl, rfl, rfl, hglobals⟩ := of_finish hfinish
  obtain ⟨linking, hlinking, hlinks⟩ := does_moduleScope c.listener claimed c.options scope m.code
  have hrest := claimed.does_finish c m.id m.name scope m.code providers
  rw [hfinish] at hrest
  rw [← hglobals] at hlinks
  refine ⟨(.claim m.id m.code, h) :: (linking ++ (releasing linked m.id m.name m.code ++
    callsFrom c.listener (finalCallbacks m providers) ready)), ?_, ?_, fun cb now hcall i hi => ?_⟩
  · refine .deed (.claim m.id m.code) ?_
    rw [Deed.effect, hclaim]
    exact hlinking.append hrest
  · rw [deedsOf, List.map_cons, List.map_append, hlinks, List.map_append, map_fst_callsFrom,
      releasing, finalCallbacks, hproviders]
    by_cases hname : m.name = bootstrapName <;> simp [hname]
  · rcases List.mem_cons.1 hcall with hfirst | hcall
    · cases (Prod.mk.inj hfirst).1
    rcases List.mem_append.1 hcall with hlink | hcall
    · obtain ⟨hcb, howner⟩ := hlinking.of_call_mem hlinks hlink
      rw [isLink_of_mem_linkCallbacks hcb, if_neg (fun hno => Bool.noConfusion hno.2), howner]
      exact owner_claimed h m.id hi (hexist i hi)
    rcases List.mem_append.1 hcall with hrelease | hlater
    · rw [releasing] at hrelease
      split at hrelease
      · cases (Prod.mk.inj (List.mem_singleton.1 hrelease)).1
      · cases hrelease
    · obtain ⟨hcb, howner⟩ :=
        (does_callsFrom _ ready).of_call_mem (map_fst_callsFrom (l := c.listener) _ ready) hlater
      rw [isLink_of_mem_finalCallbacks hcb, howner]
      simp only [and_true]
      exact owner_readyToPrepare h c m.id m.name scope hi (hexist i hi)

/-- A successful assembly finds providers, takes a number, claims the code, and finishes. -/
theorem exists_finish_of_createModule {h h' : Host} {c : Compiler} {name : String}
    {scope : Option ScopeId} {ids : List CodeId} {m : Module}
    (hm : h.createModule c name scope ids = (.ok m, h')) :
    ∃ providers ready numbered id, h.providersToPrepare c name ids = (.ok providers, ready) ∧
      numbered = ready.setStore ready.store.nextModule.2 ∧
      numbered.claimAll id ids = (.ok (), numbered.ownedBy id fun i => decide (i ∈ ids)) ∧
      (numbered.ownedBy id fun i => decide (i ∈ ids)).finish c id name scope ids providers =
        (m, h') := by
  rw [createModule] at hm
  split at hm
  · cases hm
  · next providers ready hp =>
      simp only at hm
      split at hm
      · cases hm
      · next claimed hclaim =>
          obtain rfl := eq_ownedBy_of_claimAll hclaim
          obtain ⟨hmodule, hend⟩ := Prod.mk.inj hm
          exact ⟨providers, ready, _, _, hp, rfl, hclaim, Prod.ext (Except.ok.inj hmodule) hend⟩

/-- What is to hold of the deeds of a successful assembly: in the state `ready` the providers of the
code were found, which are `instances`, and what was done from then on are `deeds`. -/
structure CallsInOrder (h h' : Host) (c : Compiler) (m : Module) (ready : Host)
    (instances : List ProviderId) (deeds : List (Deed × Host)) : Prop where
  /-- Before the deeds languages are loaded, and only for an ordinary module. -/
  loads : OnlyLoads h ready
  bootstrap : m.name = bootstrapName → ready = h
  found : m.name ≠ bootstrapName → Finds c.registry h m.code instances ready
  /-- The provider of code that was compiled is the one that compiled it. -/
  compiled : m.name ≠ bootstrapName → ∀ (i : Nat) id p, m.code[i]? = some id →
    h.CompiledBy id p → instances[i]? = some p
  made : Does c.listener ready deeds h'
  order : deeds.map Prod.fst = deedsOf m instances
  /-- The record shows every call, and providers and the application show the owners they saw. -/
  record : h'.events.toList =
    ready.events.toList ++ deeds.flatMap fun deed => deed.1.shown c.listener deed.2
  /-- Whoever is called finds the code owned by the module.  But when a bootstrap module is
  announced, nobody owns its code. -/
  owners : ∀ cb now, (.call cb, now) ∈ deeds → ∀ id ∈ m.code,
    now.owner id = if m.name = bootstrapName ∧ cb.isLink = false then none else some m.id

/-- **The calls of an assembly come in order**: once the code is claimed, it is linked object by
object, if globals are linked at all; then each provider of the code prepares the module once, in
the order in which the providers first occur, unless it is the bootstrap module; and then the
application is told. -/
theorem callbacks_in_order {h h' : Host} {c : Compiler} {name : String} {scope : Option ScopeId}
    {ids : List CodeId} {m : Module} (hexist : ∀ id ∈ ids, id.index < h.codes.size)
    (hm : h.createModule c name scope ids = (.ok m, h')) :
    m.name = name ∧ m.code = ids ∧
    (m.globals.isSome = true ↔ scope = none ∧ ids ≠ [] ∧ c.options.linkGlobals = true) ∧
    ∃ ready instances deeds, CallsInOrder h h' c m ready instances deeds := by
  obtain ⟨providers, ready, numbered, id, hproviders, hnumbered, hclaim, hfinish⟩ :=
    exists_finish_of_createModule hm
  have hloads := (onlyLoads_providersToPrepare h c name ids).ends hproviders
  obtain ⟨instances, hprepare, hbootstrap, hfinds⟩ := finds_of_providersToPrepare hproviders
  have hcodes : numbered.codes = h.codes := by
    rw [hnumbered]
    exact hloads.codes
  obtain ⟨deeds, hdeeds, horder, howners⟩ :=
    exists_deeds_of_finish (by rwa [hcodes]) hclaim hprepare hfinish
  have hmade : Does c.listener ready deeds h' := by
    rw [hnumbered] at hdeeds
    exact .silent (.setStore ready _) hdeeds
  obtain ⟨rfl, rfl, rfl, hglobals⟩ := of_finish hfinish
  refine ⟨rfl, rfl, hglobals ▸ isSome_globals_moduleScope _ c.options scope m.code, ready,
    instances, deeds,
    { loads := hloads
      bootstrap := hbootstrap
      found := hfinds
      compiled := fun hne i id p hi hc => (hfinds hne).getElem?_of_provider hi hc.provider
      made := hmade
      order := horder
      record := hmade.events
      owners := howners }⟩

/-- A compiler whose modules are recorded. -/
def recordingCompiler : Compiler := { registry := ⟨0⟩, listener := .recording }

/-- A unit of the language `x`. -/
def unitOfX : SourceUnit := { id := "u", text := "", language := some "x" }

/-- The language `x` is registered, and a program is there for the unit. -/
def beforeOverride : Host :=
  (Host.empty.run [.use (.addRegistry none),
    .use (.register ⟨0⟩ (.resolved ⟨"old", 0, 0, [], .script "x" false⟩) false ["x"]),
    .use (.attachProgram "u" { declarations := [{ name := .named "a" }] })]).2

/-- Another implementation takes over the language, and code of it is made without a provider. -/
def overriding : List Action :=
  [.use (.register ⟨0⟩ (.resolved ⟨"new", 0, 0, [], .script "x" false⟩) true ["x"]),
    .use (.addCode "v" "x" (.script { declarations := [{ name := .named "b" }] } none))]

/-- The unit is compiled before the language is taken over. -/
def afterOverride : Host :=
  ((beforeOverride.compileUnit recordingCompiler unitOfX .raising).2.1.run overriding).2

/-- The provider that prepared a module, and the owners that it saw, if an entry of the record is
about that. -/
def Event.preparing? : Event → Option (ProviderId × List (Option ModuleId))
  | .context p _ _ _ _ owners => some (p, owners)
  | _ => none

/-- The code of the unit, which is listed twice, still belongs to the provider that compiled it, and
the other code to the provider that took over.  Each of the two prepares the module once, and sees
that the module owns its code. -/
theorem callbacks_in_order_afterOverride : ∃ m h',
    afterOverride.createModule recordingCompiler "main" none [⟨0⟩, ⟨1⟩, ⟨0⟩] = (.ok m, h') ∧
    h'.events.toList.filterMap Event.preparing? =
      [(⟨0⟩, List.replicate 3 (some m.id)), (⟨1⟩, List.replicate 3 (some m.id))] ∧
    ∃ ready instances deeds,
      CallsInOrder afterOverride h' recordingCompiler m ready instances deeds ∧
      instances[0]? = some ⟨0⟩ ∧ instances[2]? = some ⟨0⟩ := by
  have hcompiled : afterOverride.CompiledBy ⟨0⟩ ⟨0⟩ :=
    ⟨beforeOverride, recordingCompiler, unitOfX, .raising, overriding, by decide +kernel,
      by decide +kernel, rfl⟩
  have hid : (afterOverride.createModule recordingCompiler "main" none
      [⟨0⟩, ⟨1⟩, ⟨0⟩]).1.toOption.map Module.id = some ⟨0⟩ := by decide +kernel
  have hprepared : (afterOverride.createModule recordingCompiler "main" none
      [⟨0⟩, ⟨1⟩, ⟨0⟩]).2.events.toList.filterMap Event.preparing? =
        [(⟨0⟩, List.replicate 3 (some ⟨0⟩)), (⟨1⟩, List.replicate 3 (some ⟨0⟩))] := by
    decide +kernel
  cases hm : afterOverride.createModule recordingCompiler "main" none [⟨0⟩, ⟨1⟩, ⟨0⟩] with
  | mk result h' =>
      rw [hm] at hid hprepared
      cases result with
      | error e => cases hid
      | ok m =>
          obtain ⟨hname, hcode, -, ready, instances, deeds, hdeeds⟩ :=
            callbacks_in_order (by decide +kernel) hm
          have hordinary : m.name ≠ bootstrapName := by
            rw [hname]
            decide
          have hnumber : m.id = ⟨0⟩ := Option.some.inj hid
          exact ⟨m, h', rfl, hnumber ▸ hprepared, ready, instances, deeds, hdeeds,
            hdeeds.compiled hordinary 0 ⟨0⟩ ⟨0⟩ (by rw [hcode]; rfl) hcompiled,
            hdeeds.compiled hordinary 2 ⟨0⟩ ⟨0⟩ (by rw [hcode]; rfl) hcompiled⟩

end Polyglot.Host
