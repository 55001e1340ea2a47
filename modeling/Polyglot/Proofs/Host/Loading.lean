import Polyglot.Host.Compiling

/-!
# Polyglot.Proofs.Host.Loading

What looking up a language can change.  Factories run during a lookup, and they may register and
look up languages themselves, to any depth; but all of that stays among the languages:

```
registries, tables of factories   may change
providers                         may be added unused, those there are stay as they are
record of calls                   grows by calls to factories
store, call sites, code, programs stay as they are
```

`OnlyLoads` says so of two states, and every operation of `Polyglot.Host.Loading` satisfies it
(`onlyLoads_resolve` and its relatives).  A lookup is made of small steps, and what holds across
each of these holds across the lookup (`Steady`).
-/

namespace Polyglot

open Polyglot.Language

/-- Whether a provider prepared no module and counted no compilation. -/
def Provider.Unused : Provider → Prop
  | .script _ _ => True
  | .tally prepared debugCompiles => prepared = [] ∧ debugCompiles = 0

namespace Host

/-- Between the two states nothing happened but the loading of languages. -/
structure OnlyLoads (h h' : Host) : Prop where
  machine : h'.machine = h.machine
  codes : h'.codes = h.codes
  programs : h'.programs = h.programs
  events : ∃ types : List String, h'.events.toList = h.events.toList ++ types.map Event.construct
  providers : ∀ i p, h.providers.get? i = some p → h'.providers.get? i = some p
  made : ∀ i p, h.providers.get? i = none → h'.providers.get? i = some p → p.Unused

namespace OnlyLoads

/-- Steps that touch only registries and tables of factories. -/
theorem of_providers_eq {h h' : Host} (hmachine : h'.machine = h.machine)
    (hcodes : h'.codes = h.codes) (hprograms : h'.programs = h.programs)
    (hevents : h'.events = h.events) (hproviders : h'.providers = h.providers) :
    OnlyLoads h h' :=
  ⟨hmachine, hcodes, hprograms, ⟨[], by simp [hevents]⟩, fun _ _ hp => hproviders ▸ hp,
    fun _ _ hnone hp => by rw [hproviders, hnone] at hp; cases hp⟩

theorem refl (h : Host) : OnlyLoads h h := of_providers_eq rfl rfl rfl rfl rfl

theorem trans {h₁ h₂ h₃ : Host} (h₁₂ : OnlyLoads h₁ h₂) (h₂₃ : OnlyLoads h₂ h₃) :
    OnlyLoads h₁ h₃ := by
  obtain ⟨types, htypes⟩ := h₁₂.events
  obtain ⟨more, hmore⟩ := h₂₃.events
  refine ⟨h₂₃.machine.trans h₁₂.machine, h₂₃.codes.trans h₁₂.codes,
    h₂₃.programs.trans h₁₂.programs, ⟨types ++ more, ?_⟩,
    fun i p hp => h₂₃.providers i p (h₁₂.providers i p hp), fun i p hnone hp => ?_⟩
  · rw [hmore, htypes, List.map_append, List.append_assoc]
  · cases hmid : h₂.providers.get? i with
    | none => exact h₂₃.made i p hmid hp
    | some q =>
        rw [h₂₃.providers i q hmid] at hp
        cases hp
        exact h₁₂.made i p hnone hmid

/-- The state that a step was seen to end in. -/
theorem ends {α : Type} {h h' : Host} {r : α × Host} {a : α} (hl : OnlyLoads h r.2)
    (hr : r = (a, h')) : OnlyLoads h h' := by
  rw [hr] at hl
  exact hl

theorem store {h h' : Host} (hl : OnlyLoads h h') : h'.store = h.store := by
  rw [Host.store, hl.machine, Host.store]

theorem code {h h' : Host} (hl : OnlyLoads h h') (id : CodeId) : h'.code id = h.code id := by
  rw [Host.code, hl.codes, Host.code]

end OnlyLoads

/-! ## Small steps -/

theorem onlyLoads_setRegistry (h : Host) (r : RegistryId) (new : Registry) :
    OnlyLoads h (h.setRegistry r new) :=
  .of_providers_eq rfl rfl rfl rfl rfl

theorem onlyLoads_insertFactory (h : Host) (r : ResolverId) (location : String) (f : Factory) :
    OnlyLoads h (h.insertFactory r location f) :=
  .of_providers_eq rfl rfl rfl rfl rfl

theorem onlyLoads_emit_construct (h : Host) (type : String) :
    OnlyLoads h (h.emit (.construct type)) :=
  ⟨rfl, rfl, rfl, ⟨[type], by simp [emit]⟩, fun _ _ hp => hp, fun _ _ hnone hp => by
    rw [emit, hnone] at hp
    cases hp⟩

theorem onlyLoads_addProvider (h : Host) {p : Provider} (hunused : p.Unused) :
    OnlyLoads h (h.addProvider p).2 := by
  refine ⟨rfl, rfl, rfl, ⟨[], by simp [addProvider]⟩, fun i q hq => ?_, fun i q hnone hq => ?_⟩
  · rw [addProvider, Heap.get?_add_of_lt p (Heap.lt_size_of_get? hq), hq]
  · rw [addProvider, Heap.get?_add, hnone] at hq
    split at hq
    · cases hq
      exact hunused
    · cases hq

theorem onlyLoads_countCall (h : Host) (f : Factory) (place : FactoryPlace) :
    OnlyLoads h (h.countCall f place) := by
  cases place with
  | registered r type =>
      simp only [countCall]
      split
      · exact .refl h
      · exact onlyLoads_setRegistry h r _
  | located t location type => exact onlyLoads_insertFactory h t location _
  | loose => exact .refl h

theorem onlyLoads_setLoading (h : Host) (r : RegistryId) (type : String) (state : Loading) :
    OnlyLoads h (h.setLoading r type state) := by
  simp only [setLoading]
  split
  · exact .refl h
  · exact onlyLoads_setRegistry h r _

theorem onlyLoads_of_register {h h' : Host} {r : RegistryId} {l : Locator} {override : Bool}
    {ids : List String} (hr : h.register r l override ids = .ok h') : OnlyLoads h h' := by
  rw [register] at hr
  cases hreg : (h.registry r).register l override ids with
  | error e => simp [hreg, Except.map] at hr
  | ok new =>
      rw [hreg] at hr
      obtain rfl := Except.ok.inj hr
      exact onlyLoads_setRegistry h r new

theorem onlyLoads_produce (h : Host) (p : Product) : OnlyLoads h (h.produce p).2 := by
  cases p with
  | script name quiet => exact onlyLoads_addProvider h trivial
  | shared label name quiet =>
      simp only [produce]
      split
      · exact .refl h
      · have hadd := onlyLoads_addProvider h (p := .script name quiet) trivial
        exact ⟨hadd.machine, hadd.codes, hadd.programs, hadd.events, hadd.providers, hadd.made⟩
  | tally => exact onlyLoads_addProvider h ⟨rfl, rfl⟩
  | refusal reason => exact .refl h
  | breakdown message => exact .refl h

/-! ## Factories and lookups -/

/-- A relation between states that holds across every small step of a lookup, and across steps that
follow one another. -/
structure Steady (R : Host → Host → Prop) : Prop where
  refl : ∀ h, R h h
  trans : ∀ {h₁ h₂ h₃ : Host}, R h₁ h₂ → R h₂ h₃ → R h₁ h₃
  registers : ∀ {h h' : Host} {r : RegistryId} {l : Locator} {override : Bool} {ids : List String},
    h.register r l override ids = .ok h' → R h h'
  counts : ∀ h f place, R h (countCall h f place)
  records : ∀ h type, R h (h.emit (.construct type))
  notes : ∀ h r type state, R h (setLoading h r type state)
  produces : ∀ h p, R h (produce h p).2

namespace Steady

variable {R : Host → Host → Prop} (hR : Steady R)
include hR

/-- The state that a step was seen to end in. -/
theorem follow {α : Type} {h₀ h h' : Host} {r : α × Host} {a : α} (h₀₁ : R h₀ h) (hstep : R h r.2)
    (hr : r = (a, h')) : R h₀ h' := by
  rw [hr] at hstep
  exact hR.trans h₀₁ hstep

mutual
theorem runErrand {lookUp : Lookup} (hsafe : ∀ id h, R h (lookUp id h).2)
    (home : Option RegistryId) : ∀ (e : Errand) (h : Host),
      R h (Host.runErrand lookUp home e h).2
  | .register l ids override, h => by
      cases home with
      | none => exact hR.refl h
      | some r =>
          simp only [Host.runErrand]
          split
          · exact hR.refl h
          · next hr => exact hR.registers hr
  | .resolve id, h => by
      cases home with
      | none => exact hR.refl h
      | some r =>
          simp only [Host.runErrand]
          split
          · next hl => exact hR.follow (hR.refl h) (hsafe id h) hl
          · next hl => exact hR.follow (hR.refl h) (hsafe id h) hl
  | .attempt es others, h => by
      have htried := runErrands hsafe home es h
      rw [Host.runErrand]
      split
      · next h' he =>
          exact hR.trans (hR.follow (hR.refl h) htried he) (runErrands hsafe home others h')
      · next he => exact hR.follow (hR.refl h) htried he

theorem runErrands {lookUp : Lookup} (hsafe : ∀ id h, R h (lookUp id h).2)
    (home : Option RegistryId) : ∀ (es : List Errand) (h : Host),
      R h (Host.runErrands lookUp home es h).2
  | [], h => hR.refl h
  | e :: es, h => by
      have hfirst := runErrand hsafe home e h
      rw [Host.runErrands]
      split
      · next he => exact hR.follow (hR.refl h) hfirst he
      · next h' he =>
          exact hR.trans (hR.follow (hR.refl h) hfirst he) (runErrands hsafe home es h')
end

theorem construct {lookUp : Lookup} (hsafe : ∀ id h, R h (lookUp id h).2)
    (home : Option RegistryId) (h : Host) (f : Factory) (place : FactoryPlace) :
    R h (Host.construct lookUp home h f place).2 := by
  have hasked : R h ((h.countCall f place).emit (.construct f.typeName)) :=
    hR.trans (hR.counts h f place) (hR.records _ _)
  simp only [Host.construct]
  split
  · exact hasked
  · have herrands := hR.runErrands hsafe home f.errands
      ((h.countCall f place).emit (.construct f.typeName))
    split
    · next reason h' he => exact hR.follow hasked herrands he
    · next u h' he => exact hR.trans (hR.follow hasked herrands he) (hR.produces h' f.product)

theorem loadFrom {lookUp : Lookup} (hsafe : ∀ id h, R h (lookUp id h).2) (h : Host)
    (r : RegistryId) (type : String) (f : Factory) (place : FactoryPlace) :
    R h (Host.loadFrom lookUp h r type f place).2 := by
  have hstarted := hR.notes h r type .building
  have hbuilt := hR.construct hsafe (some r) (h.setLoading r type .building) f place
  simp only [Host.loadFrom]
  split
  · next e h' hc => exact hR.trans (hR.follow hstarted hbuilt hc) (hR.notes h' r type .absent)
  · next p h' hc => exact hR.trans (hR.follow hstarted hbuilt hc) (hR.notes h' r type (.loaded p))

theorem load {lookUp : Lookup} (hsafe : ∀ id h, R h (lookUp id h).2) (h : Host) (r : RegistryId)
    (type : String) (l : Locator) : R h (Host.load lookUp h r type l).2 := by
  simp only [Host.load]
  split
  · exact hR.refl h
  · exact hR.loadFrom hsafe h r type _ _

/-- Induction on how many factories may wait for one another. -/
theorem instanceOf (r : RegistryId) (depth : Nat) (type : String) (h : Host) :
    R h (Host.instanceOf r depth type h).2 := by
  induction depth generalizing type h with
  | zero => exact hR.refl h
  | succ depth ih =>
      simp only [Host.instanceOf]
      split
      · exact hR.refl h
      · split
        · exact hR.refl h
        · exact hR.refl h
        · refine hR.load (fun id h => ?_) h r type _
          split
          · exact hR.refl h
          · exact hR.refl h
          · exact ih _ h

theorem resolveByType (h : Host) (r : RegistryId) (type : String) :
    R h (h.resolveByType r type).2 :=
  hR.instanceOf r _ type h

theorem tryResolve (h : Host) (r : RegistryId) (id : String) : R h (h.tryResolve r id).2 := by
  simp only [Host.tryResolve]
  split
  · exact hR.refl h
  · exact hR.refl h
  · next type _ =>
      have hl := hR.resolveByType h r type
      split
      · next e h' hr => exact hR.follow (hR.refl h) hl hr
      · next p h' hr => exact hR.follow (hR.refl h) hl hr

theorem resolve (h : Host) (r : RegistryId) (id : String) : R h (h.resolve r id).2 := by
  have hl := hR.tryResolve h r id
  simp only [Host.resolve]
  split
  · next e h' hr => exact hR.follow (hR.refl h) hl hr
  · next h' hr => exact hR.follow (hR.refl h) hl hr
  · next p h' hr => exact hR.follow (hR.refl h) hl hr

theorem resolveByExtension (h : Host) (r : RegistryId) (extension : String) :
    R h (h.resolveByExtension r extension).2 := by
  simp only [Host.resolveByExtension]
  split
  · exact hR.refl h
  · exact hR.resolve h r _

end Steady

section Lookups

/-- Whatever happens during a lookup is the loading of languages. -/
theorem steady_onlyLoads : Steady OnlyLoads where
  refl := .refl
  trans := .trans
  registers := onlyLoads_of_register
  counts := onlyLoads_countCall
  records := onlyLoads_emit_construct
  notes := onlyLoads_setLoading
  produces := onlyLoads_produce

theorem onlyLoads_resolveByType (h : Host) (r : RegistryId) (type : String) :
    OnlyLoads h (h.resolveByType r type).2 :=
  steady_onlyLoads.resolveByType h r type

theorem onlyLoads_tryResolve (h : Host) (r : RegistryId) (id : String) :
    OnlyLoads h (h.tryResolve r id).2 :=
  steady_onlyLoads.tryResolve h r id

theorem onlyLoads_resolve (h : Host) (r : RegistryId) (id : String) :
    OnlyLoads h (h.resolve r id).2 :=
  steady_onlyLoads.resolve h r id

theorem onlyLoads_resolveByExtension (h : Host) (r : RegistryId) (extension : String) :
    OnlyLoads h (h.resolveByExtension r extension).2 :=
  steady_onlyLoads.resolveByExtension h r extension

theorem onlyLoads_providerFor (h : Host) (r : RegistryId) (u : SourceUnit) :
    OnlyLoads h (h.providerFor r u).2 := by
  cases hl : u.language with
  | some language =>
      have hfound := onlyLoads_resolve h r language
      simp only [providerFor, hl]
      split
      · next hf => cases hf
      · next hf => exact hfound.ends (Option.some.inj hf)
      · next hf => exact hfound.ends (Option.some.inj hf)
  | none =>
      simp only [providerFor, hl]
      split
      · exact .refl h
      · next hf =>
          obtain ⟨extension, -, hf⟩ := Option.map_eq_some_iff.1 hf
          exact (onlyLoads_resolveByExtension h r extension).ends hf
      · next hf =>
          obtain ⟨extension, -, hf⟩ := Option.map_eq_some_iff.1 hf
          exact (onlyLoads_resolveByExtension h r extension).ends hf

theorem onlyLoads_constructApart (h : Host) (f : Factory) (place : FactoryPlace) :
    OnlyLoads h (h.constructApart f place).2 :=
  steady_onlyLoads.construct (fun _ h => .refl h) none h f place

end Lookups

/-! ## Compiling a unit -/

theorem compileWithProvider_keeps (h : Host) (p : ProviderId) (u : SourceUnit) (o : Options)
    (sink : Sink) : (h.compileWithProvider p u o sink).2.1.codes = h.codes ∧
      (h.compileWithProvider p u o sink).2.1.machine = h.machine := by
  simp only [compileWithProvider]
  split <;> exact ⟨rfl, rfl⟩

end Host

end Polyglot
