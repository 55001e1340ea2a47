import Polyglot.Proofs.Host.Session

/-!
# Polyglot.Proofs.Host.Instantiation

How implementations come to have providers in a session of one registry.  An implementation gets
its provider when it is first looked up, from the factory to which its first locator leads at that
moment, and it keeps it:

```
not loaded, nothing under its location    no provider, and nothing changes
not loaded, its factory fails             no provider, and it is still not loaded
not loaded, its factory makes a provider  this provider, from now on
loaded                                    its provider, and nothing changes
```

All lookups that reach an implementation are lookups by its type name (`Reaches`), so this is
about them.  `lazy_instantiation` says it of every session that begins with an empty registry.
-/

namespace Polyglot

open Polyglot.Language

namespace Host

variable {r : RegistryId} {h : Host} {type : String}

/-! ## Lookups that reach an implementation -/

/-- Whether lookups by an identifier are lookups of an implementation by its type name. -/
structure Reaches (h : Host) (r : RegistryId) (id type : String) : Prop where
  resolve : h.resolve r id = h.resolveByType r type
  tryResolve : h.tryResolve r id =
    ((h.resolveByType r type).1.map some, (h.resolveByType r type).2)
  resolveByExtension : ∀ extension, ofExtension extension = .ok id →
    h.resolveByExtension r extension = h.resolveByType r type

/-- An identifier leads to the implementation that it stands for when the lookup begins. -/
theorem reaches_of_typeNameOf? {id : String} (hid : (h.registry r).typeNameOf? id = some type) :
    Reaches h r id type := by
  have hfound : h.implementationOf r id = .ok (some type) := by
    rw [Registry.typeNameOf?] at hid
    rw [implementationOf]
    cases hf : (h.registry r).find id with
    | error e =>
        rw [hf] at hid
        cases hid
    | ok found =>
        rw [hf] at hid
        obtain rfl : found = some type := hid
        rfl
  have hresolve : h.resolve r id = h.resolveByType r type := by
    rw [resolve_eq, lookUpAt, hfound, Host.resolveByType]
  refine ⟨hresolve, ?_, fun extension hextension => ?_⟩
  · rw [tryResolve, hfound]
    simp only
    cases h.resolveByType r type with
    | mk result h' => cases result <;> rfl
  · rw [Host.resolveByExtension, hextension]
    exact hresolve

theorem depthBound_eq_succ (h : Host) (r : RegistryId) : ∃ depth, h.depthBound r = depth + 1 :=
  ⟨_, rfl⟩

/-- An implementation that is loaded is given as it is. -/
theorem resolveByType_of_loaded {p : ProviderId} (hp : (h.registry r).loaded? type = some p) :
    h.resolveByType r type = (.ok p, h) := by
  obtain ⟨depth, hdepth⟩ := depthBound_eq_succ h r
  obtain ⟨⟨l, loading⟩, hi, hloaded⟩ := Option.bind_eq_some_iff.1 hp
  rw [resolveByType, hdepth, instanceOf_succ, hi]
  cases loading with
  | loaded q =>
      obtain rfl := Option.some.inj hloaded
      rfl
  | _ => cases hloaded

/-- Whether a lookup of an implementation goes where its first locator leads at that moment: it asks
the factory there, or says that there is none and changes nothing. -/
inductive Retries (j : Journal) (h : Host) (r : RegistryId) (type : String) : Prop where
  | asks (l : Locator) (f : Factory) (rest : Journal) (hlocator : j.locator? type = some l)
      (hleads : LeadsTo (h.table? r) l f)
      (hstarts : (Request.resolveByType type).journal r h =
        .started type (h.table? r) f :: rest)
  | misses (location : String) (hlocator : j.locator? type = some (.deferred location type))
      (hnothing : NothingAt (h.table? r) location type)
      (hmisses : h.resolveByType r type =
        (.error (.missingImplementation type location), h))

/-! ## Answers -/

theorem exists_instanceJournal_eq (r : RegistryId) (depth : Nat) (type : String) (h : Host) :
    ∃ k, instanceJournal r depth type h = k ++ [.answered type (instanceOf r depth type h).1] := by
  cases depth with
  | zero => exact ⟨[], rfl⟩
  | succ depth => exact ⟨_, rfl⟩

namespace Told

variable {j : Journal}

theorem loaded? (ht : Told r j h) (type : String) :
    (h.registry r).loaded? type = j.provider? type :=
  ht.shows.loaded? type

/-- An implementation that was answered to a lookup with a provider is loaded, and one that was
not is not loaded. -/
theorem loaded?_of_answered {result : Except RegistryError ProviderId}
    (ht : Told r (j ++ [.answered type result]) h) :
    (h.registry r).loaded? type = result.toOption := by
  obtain ⟨hj, ha⟩ := Journal.lawful_concat_iff.1 ht.lawful
  have hwaiting : j.waiting = [] := by
    rw [← ht.waiting, Journal.waiting_concat]
    rfl
  rw [ht.loaded?, Journal.provider?_concat_of_none rfl]
  cases ha with
  | unknown hunknown => exact hj.sound.provider?_of_unknown hunknown
  | loaded p hmade => exact hmade
  | waiting hmem =>
      rw [hwaiting] at hmem
      exact absurd hmem List.not_mem_nil
  | missing before table location hmissed hlocator =>
      subst hmissed
      rw [Journal.provider?_concat_of_none rfl]
      exact (Journal.lawful_concat_iff.1 hj).2.1
  | failed before e hended =>
      subst hended
      obtain ⟨hbefore, he⟩ := Journal.lawful_concat_iff.1 hj
      rw [Journal.provider?_concat_of_none rfl]
      exact hbefore.unmade_of_ended he

theorem loaded?_resolveByType (ht : Told r j h) (type : String) :
    ((h.resolveByType r type).2.registry r).loaded? type = (h.resolveByType r type).1.toOption := by
  have hafter := ht.resolveByType type
  obtain ⟨k, hk⟩ := exists_instanceJournal_eq r (h.depthBound r) type h
  rw [hk, ← List.append_assoc] at hafter
  rw [Host.resolveByType] at hafter ⊢
  exact hafter.loaded?_of_answered

/-- A provider stays, whatever is asked of the registry. -/
theorem loaded?_serve (ht : Told r j h) {p : ProviderId}
    (hp : (h.registry r).loaded? type = some p) (later : List (Step r)) :
    ((h.serve later).registry r).loaded? type = some p := by
  rw [ht.loaded?] at hp
  rw [(ht.serve later).loaded?, Journal.provider?, List.findSome?_append]
  exact (congrArg (Option.or · _) hp).trans rfl

/-- Between requests no implementation waits for its factory. -/
theorem absent_of_unloaded {i : Implementation} (ht : Told r j h)
    (hi : (h.registry r).implementations.get? type = some i)
    (hunloaded : (h.registry r).loaded? type = none) : i.loading = .absent := by
  rw [ht.loading_eq hi, Journal.loading_eq_absent_iff, ht.waiting, ← ht.loaded?]
  exact ⟨hunloaded, List.not_mem_nil⟩

theorem retries (ht : Told r j h) (hknown : type ∈ j.types)
    (hunloaded : (h.registry r).loaded? type = none) : Retries j h r type := by
  obtain ⟨i, hi⟩ := ht.describes.exists_implementation hknown
  have habsent := ht.absent_of_unloaded hi hunloaded
  obtain ⟨-, -, l, n, hl, hlocator⟩ := ht.of_absent hi habsent
  obtain ⟨depth, hdepth⟩ := depthBound_eq_succ h r
  have hload : h.resolveByType r type = h.load (lookUpAt r depth) r type i.locator := by
    rw [Host.resolveByType, hdepth, instanceOf_succ, hi]
    simp only [habsent]
  cases hlocate : h.locate r i.locator with
  | error e =>
      obtain ⟨location, hdeferred, hnothing, rfl⟩ := missing_of_locate hlocate
      rw [ht.describes.typeName hi] at hdeferred hnothing hlocate
      obtain rfl := eq_deferred_of_recounted (hlocator.symm.trans hdeferred)
      refine .misses location hl hnothing ?_
      simp only [hload, load, hlocate]
  | ok found =>
      obtain ⟨f, place⟩ := found
      have hstarts : ∃ rest, (Request.resolveByType type).journal r h =
          .started type (h.table? r) f :: rest := by
        obtain ⟨l', loading⟩ := i
        obtain rfl : loading = .absent := habsent
        rw [Request.journal, hdepth, instanceJournal, hi]
        simp only [attemptJournal, hlocate]
        exact ⟨_, rfl⟩
      obtain ⟨rest, hrest⟩ := hstarts
      exact .asks l f rest hl (leadsTo_of_recounted (hlocator ▸ leadsTo_of_locate hlocate)) hrest

end Told

/-- **Lazy instantiation.**  In a session that begins with an empty registry, the following holds
of its factories, also of those that were asked while others were at work.

* A factory is asked only for an implementation without a provider, and it is the one that the
  first locator of the implementation leads to: the locator's own, or the one that the table of
  the registry has at that moment under the location and the type name.
* An implementation is missing only where it has no provider and the table has no such factory.
* When a factory has made the provider of an implementation, none is asked for it again, and
  every later lookup of the implementation is answered with this provider.
* Every answer is right: a provider that was made, or the failure that came just before.

After the session

* a lookup by an identifier, or by the extension it comes from, is a lookup of the implementation
  that the identifier stands for when the lookup begins;
* a lookup is answered with a provider exactly when the implementation is loaded after it;
* an implementation that is loaded is given as it is, whatever is asked of the registry in
  between, and no factory is asked;
* an implementation that is not loaded is tried again;
* the providers are those of the implementations that are loaded, in the order in which these
  were registered;
* the factories that a request asks are those of which the host makes a record. -/
theorem lazy_instantiation {resolver : Option ResolverId}
    (hempty : h.registries.get? r.index = some (.empty resolver)) (steps : List (Step r)) :
    (∀ (before : Journal) type table f after,
      h.log steps = before ++ .started type table f :: after →
      before.provider? type = none ∧ ∃ l, before.locator? type = some l ∧ LeadsTo table l f) ∧
    (∀ (before : Journal) type table after,
      h.log steps = before ++ .missed type table :: after →
      before.provider? type = none ∧
        ∃ location, before.locator? type = some (.deferred location type) ∧
          NothingAt table location type) ∧
    (∀ (before : Journal) type p after,
      h.log steps = before ++ .ended type (.ok p) :: after →
      (∀ table f, .started type table f ∉ after) ∧ (∀ result, .ended type result ∉ after) ∧
        ∀ result, .answered type result ∈ after → result = .ok p) ∧
    (∀ (before : Journal) type result after,
      h.log steps = before ++ .answered type result :: after → Answer before type result) ∧
    (∀ id type, ((h.serve steps).registry r).typeNameOf? id = some type →
      Reaches (h.serve steps) r id type) ∧
    (∀ type, (((h.serve steps).resolveByType r type).2.registry r).loaded? type =
      ((h.serve steps).resolveByType r type).1.toOption) ∧
    (∀ type p, ((h.serve steps).registry r).loaded? type = some p → ∀ later : List (Step r),
      ((h.serve steps).serve later).resolveByType r type = (.ok p, (h.serve steps).serve later)) ∧
    (∀ type ∈ (h.log steps).types, ((h.serve steps).registry r).loaded? type = none →
      Retries (h.log steps) (h.serve steps) r type) ∧
    ((h.serve steps).registry r).loadedProviders =
      (h.log steps).types.filterMap ((h.serve steps).registry r).loaded? ∧
    ∀ q : Request, (q.effect r (h.serve steps)).events.toList =
      (h.serve steps).events.toList ++ (q.journal r (h.serve steps)).asked := by
  have ht := told_serve hempty steps
  refine ⟨fun before type table f after hsplit => ?_, fun before type table after hsplit => ?_,
    fun before type p after hsplit => ?_,
    fun before type result after hsplit => ht.lawful before _ after hsplit,
    fun id type hid => reaches_of_typeNameOf? hid, ht.loaded?_resolveByType,
    fun type p hp later => resolveByType_of_loaded (ht.loaded?_serve hp later),
    fun type hknown hunloaded => ht.retries hknown hunloaded, ?_, fun q => q.events_effect _⟩
  · obtain ⟨hunmade, -, hleads⟩ := ht.lawful before _ after hsplit
    exact ⟨hunmade, hleads⟩
  · obtain ⟨hunmade, -, hnothing⟩ := ht.lawful before _ after hsplit
    exact ⟨hunmade, hnothing⟩
  · exact (Journal.Lawful.of_made (hsplit ▸ ht.lawful)).2
  · rw [ht.shows.loadedProviders, funext ht.loaded?]

/-- A factory that refuses its first request.  Later it does without a language that it does not
find, and takes a name for another implementation before it makes a provider. -/
def reluctant : Factory where
  typeName := "first"
  calls := 0
  failTimes := 1
  errands := [.attempt [.resolve "none"] [], .register (.deferred "there" "second") ["x"] true]
  product := .tally

/-- A host whose first registry looks in a table with this factory. -/
def withReluctant : Host :=
  ((Host.empty.addResolver.2.insertFactory ⟨0⟩ "here" reluctant).addRegistry (some ⟨0⟩)).2

/-- An implementation at the location of this factory is looked up twice. -/
def secondAttempt : List (Step ⟨0⟩) :=
  [.ask (.register ⟨.deferred "here" "first", false, ["x", "y"]⟩),
    .ask (.resolve "x"), .ask (.resolve "x")]

/-- The second lookup loads what its identifier stood for, and the other implementation is still
to be tried. -/
theorem lazy_instantiation_secondAttempt :
    let h := withReluctant.serve secondAttempt
    h.resolve ⟨0⟩ "Y" = (.ok ⟨0⟩, h) ∧ (h.registry ⟨0⟩).loadedProviders = [⟨0⟩] ∧
      Reaches h ⟨0⟩ "x" "second" ∧
      Retries (withReluctant.log secondAttempt) h ⟨0⟩ "second" := by
  have hempty : withReluctant.registries.get? 0 = some (.empty (some ⟨0⟩)) := rfl
  obtain ⟨-, -, -, -, hreaches, -, hloaded, hretries, hproviders, -⟩ :=
    lazy_instantiation (r := ⟨0⟩) hempty secondAttempt
  refine ⟨?_, ?_, hreaches "x" "second" (by decide +kernel),
    hretries "second" (by decide +kernel) (by decide +kernel)⟩
  · have hgiven := hloaded "first" ⟨0⟩ (by decide +kernel) []
    rw [serve] at hgiven
    rw [(hreaches "Y" "first" (by decide +kernel)).resolve, hgiven]
  · rw [hproviders]
    decide +kernel

end Host

end Polyglot
