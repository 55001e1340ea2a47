import Polyglot.Proofs.Host.Assembly
import Polyglot.Proofs.Host.Compiling
import Polyglot.Proofs.Host.Reporting

/-!
# Polyglot.Proofs.Host.Outcome

How compiling a module ends, whatever the sink.  Units are compiled in order (`turnAfterUnits`),
and let `E` be the number of errors that were reported meanwhile.

```
a unit fails                          the error of the first such unit, and no later one is tried
all units compile, and E is not zero  `E` errors were reported
all units compile, and E is zero      a module
```

Assembly cannot fail, because the code of the units is new, so that nobody owns it, and remembers
its provider, so that no language is looked up for it (`createModule_of_recorded`).  If there is
no module, nothing happened but that languages were loaded and units compiled (`OnlyCompiles`).
-/

namespace Polyglot

open Polyglot.Language

/-- The names of the modules that a provider prepared, as far as it remembers them. -/
def Provider.preparedModules : Provider → List String
  | .script _ _ => []
  | .tally prepared _ => prepared

/-- Whether code was given no linkage. -/
def Compiled.Unlinked : Compiled → Prop
  | .plain => True
  | .script _ g => g = none
  | .tally _ g => g = none

/-- Whether a call was made into a factory, or to compile a unit. -/
def Event.OfCompiling : Event → Prop
  | .construct _ => True
  | .compile _ _ _ => True
  | _ => False

namespace Host

variable {h h' h'' : Host} {c : Compiler} {u : SourceUnit} {sink : Sink}

/-! ## Units in order -/

/-- The host and the sink after units were compiled one after the other, whatever came of them. -/
def turnAfterUnits (h : Host) (c : Compiler) (sink : Sink) (before : List SourceUnit) :
    Host × Sink :=
  before.foldl (fun s u => (s.1.compileUnit c u s.2).2) (h, sink)

/-- Whether the provider of a unit is found, and compiles the unit. -/
def UnitCompiles (h : Host) (c : Compiler) (u : SourceUnit) (sink : Sink) : Prop :=
  ∃ p h₁ code, h.providerFor c.registry u = (.ok p, h₁) ∧
    (h₁.compileWithProvider p u c.options sink).1 = .ok code

/-- Whether a unit fails with an error. -/
inductive UnitFails (h : Host) (c : Compiler) (u : SourceUnit) (sink : Sink) :
    ModuleError → Prop where
  /-- No provider is found. -/
  | notFound (e : ModuleError) (h₁ : Host) (hp : h.providerFor c.registry u = (.error e, h₁)) :
      UnitFails h c u sink e
  /-- The provider fails. -/
  | failed (p : ProviderId) (h₁ : Host) (e : CompilationError)
      (hp : h.providerFor c.registry u = (.ok p, h₁))
      (he : (h₁.compileWithProvider p u c.options sink).1 = .error e) :
      UnitFails h c u sink (.compilation e)

/-- Whether every unit compiles when its turn comes. -/
def AllCompile (h : Host) (c : Compiler) (sink : Sink) (units : List SourceUnit) : Prop :=
  ∀ before u after, units = before ++ u :: after →
    UnitCompiles (h.turnAfterUnits c sink before).1 c u (h.turnAfterUnits c sink before).2

/-- Whether a unit is the first one that fails, after those in `before`, and its error. -/
structure FirstFailing (h : Host) (c : Compiler) (sink : Sink) (units before : List SourceUnit)
    (u : SourceUnit) (e : ModuleError) : Prop where
  split : ∃ after, units = before ++ u :: after
  compile : AllCompile h c sink before
  fails : UnitFails (h.turnAfterUnits c sink before).1 c u (h.turnAfterUnits c sink before).2 e

theorem turnAfterUnits_cons (h : Host) (c : Compiler) (sink : Sink) (u : SourceUnit)
    (us : List SourceUnit) : h.turnAfterUnits c sink (u :: us) =
      (h.compileUnit c u sink).2.1.turnAfterUnits c (h.compileUnit c u sink).2.2 us := rfl

theorem compileUnit_of_compiles (hu : UnitCompiles h c u sink) :
    ∃ id, h.compileUnit c u sink = (.ok id, (h.compileUnit c u sink).2) := by
  obtain ⟨p, h₁, code, hp, hcode⟩ := hu
  simp only [compileUnit, hp]
  cases hc : h₁.compileWithProvider p u c.options sink with
  | mk result rest =>
      rw [hc] at hcode
      obtain rfl : result = .ok code := hcode
      exact ⟨_, rfl⟩

theorem compileUnit_of_fails {e : ModuleError} (hu : UnitFails h c u sink e) :
    h.compileUnit c u sink = (.error e, (h.compileUnit c u sink).2) := by
  cases hu with
  | notFound e h₁ hp => simp only [compileUnit, hp]
  | failed p h₁ e hp he =>
      simp only [compileUnit, hp]
      cases hc : h₁.compileWithProvider p u c.options sink with
      | mk result rest =>
          rw [hc] at he
          obtain rfl : result = .error e := he
          rfl

theorem unitCompiles_or_fails (h : Host) (c : Compiler) (u : SourceUnit) (sink : Sink) :
    UnitCompiles h c u sink ∨ ∃ e, UnitFails h c u sink e := by
  cases hp : h.providerFor c.registry u with
  | mk found h₁ =>
      cases found with
      | error e => exact .inr ⟨e, .notFound e h₁ hp⟩
      | ok p =>
          cases hc : (h₁.compileWithProvider p u c.options sink).1 with
          | error e => exact .inr ⟨_, .failed p h₁ e hp hc⟩
          | ok code => exact .inl ⟨p, h₁, code, hp, hc⟩

theorem allCompile_nil : AllCompile h c sink [] := fun before u after hsplit => by
  cases before <;> cases hsplit

theorem allCompile_cons_iff {us : List SourceUnit} : AllCompile h c sink (u :: us) ↔
    UnitCompiles h c u sink ∧
      AllCompile (h.compileUnit c u sink).2.1 c (h.compileUnit c u sink).2.2 us := by
  constructor
  · intro hall
    exact ⟨hall [] u us rfl, fun before v after hsplit =>
      hall (u :: before) v after (by rw [hsplit, List.cons_append])⟩
  · rintro ⟨hu, hrest⟩ before v after hsplit
    cases before with
    | nil =>
        obtain ⟨rfl, -⟩ := List.cons.inj hsplit
        exact hu
    | cons first before =>
        obtain ⟨rfl, hus⟩ := List.cons.inj hsplit
        exact hrest before v after hus

/-- Units that all compile. -/
theorem compileUnits_of_allCompile {us : List SourceUnit} (hall : AllCompile h c sink us) :
    ∃ ids, compileUnits c us h sink = (.ok ids, h.turnAfterUnits c sink us) := by
  induction us generalizing h sink with
  | nil => exact ⟨[], rfl⟩
  | cons u us ih =>
      obtain ⟨hu, hrest⟩ := allCompile_cons_iff.1 hall
      obtain ⟨id, hid⟩ := compileUnit_of_compiles hu
      obtain ⟨ids, hids⟩ := ih hrest
      refine ⟨id :: ids, ?_⟩
      rw [compileUnits, hid]
      simp only [hids]
      rfl

/-- The first unit that fails ends the compilation. -/
theorem compileUnits_of_firstFailing {units before : List SourceUnit} {e : ModuleError}
    (hf : FirstFailing h c sink units before u e) :
    compileUnits c units h sink = (.error e, h.turnAfterUnits c sink (before ++ [u])) := by
  obtain ⟨⟨after, rfl⟩, hall, hu⟩ := hf
  induction before generalizing h sink with
  | nil =>
      have hfirst : UnitFails h c u sink e := hu
      rw [List.nil_append, compileUnits, compileUnit_of_fails hfirst]
      rfl
  | cons first before ih =>
      obtain ⟨hfirst, hrest⟩ := allCompile_cons_iff.1 hall
      obtain ⟨id, hid⟩ := compileUnit_of_compiles hfirst
      rw [List.cons_append, compileUnits, hid]
      simp only [ih hrest hu]
      rfl

/-- Either all units compile, or there is a first one that fails. -/
theorem allCompile_or_firstFailing (h : Host) (c : Compiler) (sink : Sink)
    (units : List SourceUnit) : AllCompile h c sink units ∨
      ∃ before u e, FirstFailing h c sink units before u e := by
  induction units generalizing h sink with
  | nil => exact .inl allCompile_nil
  | cons u us ih =>
      rcases unitCompiles_or_fails h c u sink with hu | ⟨e, hu⟩
      · rcases ih (h.compileUnit c u sink).2.1 (h.compileUnit c u sink).2.2 with
          hall | ⟨before, v, e, ⟨after, rfl⟩, hall, hv⟩
        · exact .inl (allCompile_cons_iff.2 ⟨hu, hall⟩)
        · exact .inr ⟨u :: before, v, e, ⟨after, rfl⟩, allCompile_cons_iff.2 ⟨hu, hall⟩, hv⟩
      · exact .inr ⟨[], u, e, ⟨us, rfl⟩, allCompile_nil, hu⟩

theorem FirstFailing.not_allCompile {units before : List SourceUnit} {e : ModuleError}
    (hf : FirstFailing h c sink units before u e) : ¬ AllCompile h c sink units := fun hall => by
  obtain ⟨after, hunits⟩ := hf.split
  obtain ⟨id, hid⟩ := compileUnit_of_compiles (hall before u after hunits)
  rw [compileUnit_of_fails hf.fails] at hid
  cases (Prod.mk.inj hid).1

/-! ## What compiling units can change -/

/-- Nothing happened but that languages were loaded and units compiled.  No number was taken, no
slot was made, nothing was linked and no module was prepared or announced. -/
structure OnlyCompiles (h h' : Host) : Prop extends Adds h h' where
  programs : h'.programs = h.programs
  /-- New code is not linked, and remembers its provider. -/
  fresh : ∀ id, h.codes.size ≤ id.index → id.index < h'.codes.size →
    (h'.code id).compiled.Unlinked ∧ (h'.code id).provider ≠ none
  events : ∃ es : List Event, h'.events.toList = h.events.toList ++ es ∧ ∀ e ∈ es, e.OfCompiling
  providers : ∀ i p, h.providers.get? i = some p →
    ∃ p', h'.providers.get? i = some p' ∧ p'.preparedModules = p.preparedModules
  made : ∀ i p, h.providers.get? i = none → h'.providers.get? i = some p → p.preparedModules = []

namespace OnlyCompiles

/-- Steps that make no code. -/
theorem of_codes_eq (hcodes : h'.codes = h.codes) (hmachine : h'.machine = h.machine)
    (hprograms : h'.programs = h.programs)
    (hevents : ∃ es : List Event,
      h'.events.toList = h.events.toList ++ es ∧ ∀ e ∈ es, e.OfCompiling)
    (hproviders : ∀ i p, h.providers.get? i = some p →
      ∃ p', h'.providers.get? i = some p' ∧ p'.preparedModules = p.preparedModules)
    (hmade : ∀ i p, h.providers.get? i = none → h'.providers.get? i = some p →
      p.preparedModules = []) : OnlyCompiles h h' where
  toAdds := .of_codes_eq hcodes hmachine
  programs := hprograms
  fresh id hid hlt := by
    rw [hcodes] at hlt
    exact absurd hlt (Nat.not_lt.2 hid)
  events := hevents
  providers := hproviders
  made := hmade

theorem trans (hc : OnlyCompiles h h') (hc' : OnlyCompiles h' h'') : OnlyCompiles h h'' where
  toAdds := hc.toAdds.trans hc'.toAdds
  programs := hc'.programs.trans hc.programs
  fresh id hid hlt := by
    rcases Nat.lt_or_ge id.index h'.codes.size with hold | hnew
    · rw [hc'.code id hold]
      exact hc.fresh id hid hold
    · exact hc'.fresh id hnew hlt
  events := by
    obtain ⟨es, hes, hall⟩ := hc.events
    obtain ⟨es', hes', hall'⟩ := hc'.events
    refine ⟨es ++ es', by rw [hes', hes, List.append_assoc], fun e he => ?_⟩
    exact (List.mem_append.1 he).elim (hall e) (hall' e)
  providers i p hp := by
    obtain ⟨q, hq, hsame⟩ := hc.providers i p hp
    obtain ⟨q', hq', hsame'⟩ := hc'.providers i q hq
    exact ⟨q', hq', hsame'.trans hsame⟩
  made i p hnone hp := by
    cases hmid : h'.providers.get? i with
    | none => exact hc'.made i p hmid hp
    | some q =>
        obtain ⟨q', hq', hsame⟩ := hc'.providers i q hmid
        rw [hp] at hq'
        rw [Option.some.inj hq', hsame]
        exact hc.made i q hnone hmid

end OnlyCompiles

theorem preparedModules_of_unused {p : Provider} (hp : p.Unused) : p.preparedModules = [] := by
  cases p with
  | script name quiet => rfl
  | tally prepared count => exact hp.1

theorem OnlyLoads.onlyCompiles (hl : OnlyLoads h h') : OnlyCompiles h h' := by
  obtain ⟨types, htypes⟩ := hl.events
  refine .of_codes_eq hl.codes hl.machine hl.programs
    ⟨types.map .construct, htypes, fun e he => ?_⟩ (fun i p hp => ⟨p, hl.providers i p hp, rfl⟩)
    fun i p hnone hp => preparedModules_of_unused (hl.made i p hnone hp)
  obtain ⟨type, -, rfl⟩ := List.mem_map.1 he
  trivial

theorem onlyCompiles_afterProvider (h : Host) (p : ProviderId) (u : SourceUnit) (o : Options) :
    OnlyCompiles h (h.afterProvider p u o) := by
  cases hp : h.provider p with
  | script name quiet =>
      simp only [afterProvider, hp]
      refine .of_codes_eq rfl rfl rfl
        ⟨[.compile p u.id o], by simp [emit], by simp [Event.OfCompiling]⟩
        (fun i q hq => ⟨q, hq, rfl⟩) fun i q hnone hq => ?_
      rw [emit, hnone] at hq
      cases hq
  | tally prepared count =>
      simp only [afterProvider, hp]
      refine .of_codes_eq rfl rfl rfl ⟨[], (List.append_nil _).symm, by simp⟩
        (fun i q hq => ?_) fun i q hnone hq => ?_
      · by_cases hi : p.index = i
        · subst hi
          rw [provider, hq] at hp
          obtain rfl : q = .tally prepared count := hp
          rw [Heap.get?_modify_self, hq]
          exact ⟨_, rfl, rfl⟩
        · rw [Heap.get?_modify_of_ne _ _ hi]
          exact ⟨q, hq, rfl⟩
      · rw [Heap.get?_modify, hnone] at hq
        split at hq <;> cases hq

theorem onlyCompiles_addCode (h : Host) {code : Code} (howner : code.owner = none)
    (hunlinked : code.compiled.Unlinked) (hprovider : code.provider ≠ none) :
    OnlyCompiles h (h.addCode code).2 where
  toAdds := adds_addCode h howner
  programs := rfl
  fresh id hid hlt := by
    have hlast : id.index = h.codes.size := by
      simp only [addCode, Heap.size_add] at hlt
      omega
    rw [code_addCode, if_pos hlast]
    exact ⟨hunlinked, hprovider⟩
  events := ⟨[], (List.append_nil _).symm, by simp⟩
  providers i p hp := ⟨p, hp, rfl⟩
  made i p hnone hp := by
    rw [addCode, hnone] at hp
    cases hp

theorem of_unitResult_eq_ok {p : ProviderId} {code : Code} (hu : h.unitResult p u = .ok code) :
    code.owner = none ∧ code.compiled.Unlinked := by
  rw [unitResult] at hu
  split at hu
  · split at hu
    · cases hu
    · cases hu
      exact ⟨rfl, rfl⟩
  · cases hu
    exact ⟨rfl, rfl⟩

theorem onlyCompiles_compileUnit (h : Host) (c : Compiler) (u : SourceUnit) (sink : Sink) :
    OnlyCompiles h (h.compileUnit c u sink).2.1 := by
  have hfound := onlyLoads_providerFor h c.registry u
  simp only [compileUnit]
  split
  · next e h₁ hp => exact (hfound.ends hp).onlyCompiles
  · next p h₁ hp =>
      have hcompiled : OnlyCompiles h (h₁.afterProvider p u c.options) :=
        (hfound.ends hp).onlyCompiles.trans (onlyCompiles_afterProvider h₁ p u c.options)
      rw [compileWithProvider_eq]
      split
      · next e h₂ sink₂ hc =>
          obtain ⟨-, heq⟩ := Prod.mk.inj hc
          obtain ⟨rfl, -⟩ := Prod.mk.inj heq
          exact hcompiled
      · next code h₂ sink₂ hc =>
          obtain ⟨hcode, heq⟩ := Prod.mk.inj hc
          obtain ⟨rfl, -⟩ := Prod.mk.inj heq
          obtain ⟨howner, hunlinked⟩ := of_unitResult_eq_ok (Sink.of_tell_eq_ok hcode)
          exact hcompiled.trans
            (onlyCompiles_addCode _ (by exact howner) (by exact hunlinked) (by simp))

theorem onlyCompiles_turnAfterUnits (h : Host) (c : Compiler) (sink : Sink)
    (us : List SourceUnit) : OnlyCompiles h (h.turnAfterUnits c sink us).1 := by
  induction us generalizing h sink with
  | nil => exact (OnlyLoads.refl h).onlyCompiles
  | cons u us ih => exact (onlyCompiles_compileUnit h c u sink).trans (ih _ _)

/-! ## Assembly of what was compiled -/

/-- Providers that are recorded are not looked up. -/
theorem distinctProviders_of_recorded {ids : List CodeId}
    (hrecorded : ∀ id ∈ ids, (h.code id).provider ≠ none) (found : List ProviderId) :
    ∃ ps, ∀ r, distinctProviders r found ids h = (.ok ps, h) := by
  induction ids generalizing found with
  | nil => exact ⟨found, fun _ => rfl⟩
  | cons id ids ih =>
      obtain ⟨p, hp⟩ := Option.ne_none_iff_exists'.1 (hrecorded id List.mem_cons_self)
      obtain ⟨ps, hps⟩ := ih (fun j hj => hrecorded j (List.mem_cons_of_mem id hj))
        (if p ∈ found then found else found ++ [p])
      refine ⟨ps, fun r => ?_⟩
      rw [distinctProviders, providerOf, hp]
      exact hps r

/-- Code that nobody owns and that remembers its provider is assembled in the same way with any
registry. -/
theorem createModule_of_recorded (c : Compiler) (name : String) (scope : Option ScopeId)
    {ids : List CodeId} (hfree : ∀ id ∈ ids, h.owner id = none)
    (hrecorded : ∀ id ∈ ids, (h.code id).provider ≠ none) :
    ∃ m h', m.name = name ∧ m.code = ids ∧
      ∀ r, h.createModule { c with registry := r } name scope ids = (.ok m, h') := by
  obtain ⟨providers, hproviders⟩ : ∃ providers, ∀ r,
      h.providersToPrepare { c with registry := r } name ids = (.ok providers, h) := by
    by_cases hname : name = bootstrapName
    · exact ⟨[], fun r => by rw [providersToPrepare, if_pos hname]⟩
    · obtain ⟨ps, hps⟩ := distinctProviders_of_recorded hrecorded []
      exact ⟨ps, fun r => by rw [providersToPrepare, if_neg hname, hps]⟩
  obtain ⟨claimed, hclaim⟩ : ∃ claimed,
      (h.setStore h.store.nextModule.2).claimAll h.store.nextModule.1 ids = (.ok (), claimed) :=
    ⟨_, claimAll_of_free hfree⟩
  let finished := claimed.finish c h.store.nextModule.1 name scope ids providers
  refine ⟨finished.1, finished.2, rfl, rfl, fun r => ?_⟩
  rw [createModule, hproviders r]
  simp only [hclaim]
  rfl

/-! ## The outcome -/

section Outcome

variable {name : String} {scope : Option ScopeId} {units : List SourceUnit}
  {new : List Diagnostic}

/-- The sink is told of diagnostics, and nothing else happens to it. -/
theorem exists_heard_turnAfterUnits (h : Host) (c : Compiler) (sink : Sink)
    (us : List SourceUnit) : ∃ new, (h.turnAfterUnits c sink us).2 = sink.heard new := by
  induction us generalizing h sink with
  | nil => exact ⟨[], sink.heard_nil.symm⟩
  | cons u us ih =>
      obtain ⟨ds, result, after, hcourse⟩ := exists_course_compileUnit h c u
      obtain ⟨front, -, -, hfront⟩ := hcourse.exists_heard sink
      obtain ⟨new, hnew⟩ := ih (h.compileUnit c u sink).2.1 (h.compileUnit c u sink).2.2
      refine ⟨front ++ new, ?_⟩
      rw [turnAfterUnits_cons, hnew, hfront, Sink.heard_heard]

theorem compileModule_of_firstFailing (name : String) (scope : Option ScopeId)
    {before : List SourceUnit} {e : ModuleError} (hf : FirstFailing h c sink units before u e) :
    h.compileModule c name scope units sink =
      (.error e, h.turnAfterUnits c sink (before ++ [u])) := by
  rw [compileModule, compileUnits_of_firstFailing hf]

theorem compileModule_of_reported (name : String) (scope : Option ScopeId)
    (hall : AllCompile h c sink units)
    (hnew : (h.turnAfterUnits c sink units).2 = sink.heard new)
    (herrors : 0 < new.countP Diagnostic.isError) :
    h.compileModule c name scope units sink =
      (.error (.diagnosticsReported name (new.countP Diagnostic.isError)),
        h.turnAfterUnits c sink units) := by
  obtain ⟨ids, hids⟩ := compileUnits_of_allCompile hall
  rw [compileModule, hids]
  simp only [hnew, Sink.errorCount_heard]
  rw [if_pos herrors, ← hnew]

/-- What was compiled can be assembled, and no language is looked up for it. -/
theorem exists_createModule_of_allCompile (name : String) (scope : Option ScopeId)
    (hall : AllCompile h c sink units) :
    ∃ m h', compileUnits c units h sink = (.ok m.code, h.turnAfterUnits c sink units) ∧
      ∀ r, (h.turnAfterUnits c sink units).1.createModule { c with registry := r } name scope
        m.code = (.ok m, h') := by
  obtain ⟨ids, hids⟩ := compileUnits_of_allCompile hall
  have hmade := (compileUnits_adds c units h sink).2 ids (by rw [hids])
  rw [hids] at hmade
  have hcompiles := onlyCompiles_turnAfterUnits h c sink units
  have hfree : ∀ id ∈ ids, (h.turnAfterUnits c sink units).1.owner id = none := by
    intro id hid
    obtain ⟨u, hu⟩ := exists_unit hmade hid
    exact hcompiles.free id hu.later
  have hrecorded : ∀ id ∈ ids, ((h.turnAfterUnits c sink units).1.code id).provider ≠ none := by
    intro id hid
    obtain ⟨u, hu⟩ := exists_unit hmade hid
    exact (hcompiles.fresh id hu.later hu.inRange).2
  obtain ⟨m, h', -, rfl, hm⟩ := createModule_of_recorded c name scope hfree hrecorded
  exact ⟨m, h', hids, hm⟩

theorem compileModule_of_allCompile (name : String) (scope : Option ScopeId)
    (hall : AllCompile h c sink units)
    (hnew : (h.turnAfterUnits c sink units).2 = sink.heard new)
    (herrors : new.countP Diagnostic.isError = 0) :
    ∃ m h', h.compileModule c name scope units sink =
        (.ok m, h', (h.turnAfterUnits c sink units).2) ∧
      ∀ r, (h.turnAfterUnits c sink units).1.createModule { c with registry := r } name scope
        m.code = (.ok m, h') := by
  obtain ⟨m, h', hids, hm⟩ := exists_createModule_of_allCompile name scope hall
  refine ⟨m, h', ?_, hm⟩
  rw [compileModule, hids]
  simp only [hnew, Sink.errorCount_heard, herrors, Nat.lt_irrefl, if_false]
  rw [hm c.registry]

/-- **The outcome of compiling a module.**  Let `new` be what is reported to the sink meanwhile.

* There is a module exactly when every unit compiles and no error is reported.
* When every unit compiles and errors are reported, their number is the error.
* The first unit that fails gives the error, and ends the compilation.  Unless every unit
  compiles there is such a unit.
* Assembly of what was compiled makes the module, with whatever registry it is given.
* If there is no module, nothing happened but that languages were loaded and units compiled. -/
theorem compileModule_outcome (h : Host) (c : Compiler) (name : String) (scope : Option ScopeId)
    (units : List SourceUnit) (sink : Sink) :
    ∃ new, (h.compileModule c name scope units sink).2.2 = sink.heard new ∧
    ((∃ m, (h.compileModule c name scope units sink).1 = .ok m) ↔
      AllCompile h c sink units ∧ new.countP Diagnostic.isError = 0) ∧
    (AllCompile h c sink units → 0 < new.countP Diagnostic.isError →
      (h.compileModule c name scope units sink).1 =
        .error (.diagnosticsReported name (new.countP Diagnostic.isError))) ∧
    (∀ before u e, FirstFailing h c sink units before u e →
      h.compileModule c name scope units sink =
        (.error e, h.turnAfterUnits c sink (before ++ [u]))) ∧
    (AllCompile h c sink units ∨ ∃ before u e, FirstFailing h c sink units before u e) ∧
    (∀ m, (h.compileModule c name scope units sink).1 = .ok m → ∀ r,
      (h.turnAfterUnits c sink units).1.createModule { c with registry := r } name scope m.code =
        (.ok m, (h.compileModule c name scope units sink).2.1)) ∧
    ∀ e, (h.compileModule c name scope units sink).1 = .error e →
      OnlyCompiles h (h.compileModule c name scope units sink).2.1 := by
  have hfirst : ∀ before u e, FirstFailing h c sink units before u e →
      h.compileModule c name scope units sink =
        (.error e, h.turnAfterUnits c sink (before ++ [u])) :=
    fun before u e hf => compileModule_of_firstFailing name scope hf
  have hsplit := allCompile_or_firstFailing h c sink units
  rcases hsplit with hall | ⟨before, u, e, hf⟩
  · obtain ⟨new, hnew⟩ := exists_heard_turnAfterUnits h c sink units
    rcases Nat.eq_zero_or_pos (new.countP Diagnostic.isError) with hnone | hsome
    · obtain ⟨m, h', heq, hm⟩ := compileModule_of_allCompile name scope hall hnew hnone
      refine ⟨new, by rw [heq, hnew], ⟨fun _ => ⟨hall, hnone⟩, fun _ => ⟨m, by rw [heq]⟩⟩,
        fun _ hpos => absurd hnone (Nat.ne_of_gt hpos), hfirst, .inl hall, fun m' hm' => ?_,
        fun e he => ?_⟩
      · rw [heq] at hm' ⊢
        cases hm'
        exact hm
      · rw [heq] at he
        cases he
    · have heq := compileModule_of_reported name scope hall hnew hsome
      refine ⟨new, by rw [heq, hnew], ⟨fun ⟨m, hm⟩ => ?_, fun ⟨_, hnone⟩ => ?_⟩,
        fun _ _ => by rw [heq], hfirst, .inl hall, fun m hm => ?_, fun e he => ?_⟩
      · rw [heq] at hm
        cases hm
      · exact absurd hnone (Nat.ne_of_gt hsome)
      · rw [heq] at hm
        cases hm
      · rw [heq]
        exact onlyCompiles_turnAfterUnits h c sink units
  · have heq := hfirst before u e hf
    obtain ⟨new, hnew⟩ := exists_heard_turnAfterUnits h c sink (before ++ [u])
    refine ⟨new, by rw [heq, hnew], ⟨fun ⟨m, hm⟩ => ?_, fun ⟨hall, _⟩ => ?_⟩,
      fun hall _ => absurd hall hf.not_allCompile, hfirst, .inr ⟨before, u, e, hf⟩,
      fun m hm => ?_, fun e' he => ?_⟩
    · rw [heq] at hm
      cases hm
    · exact absurd hall hf.not_allCompile
    · rw [heq] at hm
      cases hm
    · rw [heq]
      exact onlyCompiles_turnAfterUnits h c sink (before ++ [u])

end Outcome

end Host

end Polyglot
