import Polyglot.Proofs.Host.Recording

/-!
# Polyglot.Proofs.Host.Lookups

The journal of what happens in a registry during a lookup.  Each function that looks up and loads
languages has a companion that lists what happens in the registry meanwhile:

```
runErrand       errandJournal
runErrands      errandsJournal
construct       constructJournal
load            attemptJournal
lookUpAt        seekJournal
instanceOf      instanceJournal
```

The host and its journal never disagree: if the journal so far is lawful and describes the
registry, then so does the journal with what happens next (`Recorded.instanceOf`).  The bound on
the depth of lookups plays no part in what happens, because implementations that wait for one
another are different, and there are fewer type names than the bound.

The factories that a journal says were asked are those that the host counted and recorded
(`events_instanceOf`).
-/

namespace Polyglot

open Polyglot.Language

namespace Host

/-! ## What happens -/

mutual
/-- What happens while an errand is done, where `note` is what happens during a lookup. -/
def errandJournal (lookUp : Lookup) (note : String → Host → Journal) (r : RegistryId) :
    Errand → Host → Journal
  | .register l ids override, h => [.registered ⟨l, override, ids⟩ (h.registry r)]
  | .resolve id, h => note id h
  | .attempt es others, h =>
    errandsJournal lookUp note r es h ++
      match runErrands lookUp (some r) es h with
      | (.error _, h) => errandsJournal lookUp note r others h
      | (.ok _, _) => []

/-- What happens while errands are done, up to the first that fails. -/
def errandsJournal (lookUp : Lookup) (note : String → Host → Journal) (r : RegistryId) :
    List Errand → Host → Journal
  | [], _ => []
  | e :: es, h =>
    errandJournal lookUp note r e h ++
      match runErrand lookUp (some r) e h with
      | (.error _, _) => []
      | (.ok _, h) => errandsJournal lookUp note r es h
end

/-- What happens while a factory is at work. -/
def constructJournal (lookUp : Lookup) (note : String → Host → Journal) (r : RegistryId) (h : Host)
    (f : Factory) (place : FactoryPlace) : Journal :=
  if f.calls < f.failTimes then []
  else errandsJournal lookUp note r f.errands
    ((h.countCall f place).emit (.construct f.typeName))

/-- What happens while the provider of an implementation is made that is not loaded. -/
def attemptJournal (lookUp : Lookup) (note : String → Host → Journal) (h : Host) (r : RegistryId)
    (type : String) (l : Locator) : Journal :=
  match h.locate r l with
  | .error _ => [.missed type (h.table? r)]
  | .ok (f, place) =>
    let begun := h.setLoading r type .building
    .started type (h.table? r) f :: (constructJournal lookUp note r begun f place ++
      [.ended type (construct lookUp (some r) begun f place).1])

/-- How a request for a language is answered, where `depth` bounds how many factories may wait for
one another. -/
def lookUpAt (r : RegistryId) (depth : Nat) : Lookup := fun id h =>
  match h.implementationOf r id with
  | .error e => (.error e, h)
  | .ok none => (.error (.unknownLanguage id), h)
  | .ok (some type) => instanceOf r depth type h

/-- What happens during a lookup by identifier, where `note` is what happens during a lookup by
type name. -/
def seekJournal (r : RegistryId) (note : String → Host → Journal) (id : String) (h : Host) :
    Journal :=
  match h.implementationOf r id with
  | .error _ => []
  | .ok none => [.sought id none]
  | .ok (some type) => .sought id (some type) :: note type h

/-- What happens during a lookup by type name. -/
def instanceJournal (r : RegistryId) : Nat → String → Host → Journal
  | 0, type, h => [.answered type (instanceOf r 0 type h).1]
  | depth + 1, type, h =>
    (match (h.registry r).implementations.get? type with
      | some { locator, loading := .absent } =>
        attemptJournal (lookUpAt r depth) (seekJournal r (instanceJournal r depth)) h r type locator
      | _ => []) ++ [.answered type (instanceOf r (depth + 1) type h).1]

theorem instanceOf_succ (r : RegistryId) (depth : Nat) (type : String) (h : Host) :
    instanceOf r (depth + 1) type h =
      match (h.registry r).implementations.get? type with
      | none => (.error (.unknownLanguage type), h)
      | some i =>
        match i.loading with
        | .loaded p => (.ok p, h)
        | .building => (.error (.invalidImplementation type ownProvider), h)
        | .absent => h.load (lookUpAt r depth) r type i.locator := rfl

/-! ## Locators -/

section Locate

variable {r : RegistryId} {h : Host}

theorem leadsTo_of_locate {l : Locator} {f : Factory} {place : FactoryPlace}
    (hl : h.locate r l = .ok (f, place)) : LeadsTo (h.table? r) l f := by
  cases l with
  | resolved f₀ =>
      cases hl
      obtain ⟨type, calls, failTimes, errands, product⟩ := f
      exact ⟨calls, rfl⟩
  | deferred location type =>
      simp only [locate] at hl
      split at hl
      · cases hl
      · next t ht =>
          split at hl
          · cases hl
          · next f' hf =>
              cases hl
              exact ⟨h.resolver t, by rw [table?, ht, Option.map_some], hf⟩

theorem missing_of_locate {l : Locator} {e : RegistryError} (hl : h.locate r l = .error e) :
    ∃ location, l = .deferred location l.typeName ∧ NothingAt (h.table? r) location l.typeName ∧
      e = .missingImplementation l.typeName location := by
  cases l with
  | resolved f => cases hl
  | deferred location type =>
      refine ⟨location, rfl, ?_⟩
      simp only [locate] at hl
      split at hl
      · next hnone =>
          cases hl
          refine ⟨fun t ht => ?_, rfl⟩
          rw [table?, hnone] at ht
          cases ht
      · next t ht =>
          split at hl
          · next hnone =>
              cases hl
              refine ⟨fun t' ht' => ?_, rfl⟩
              rw [table?, ht, Option.map_some] at ht'
              rw [← Option.some.inj ht']
              exact hnone
          · cases hl

theorem eq_deferred_of_recounted {l : Locator} {n : Nat} {location type : String}
    (hl : l.recounted n = .deferred location type) : l = .deferred location type := by
  cases l with
  | resolved f => cases hl
  | deferred location' type' => exact hl

end Locate

/-! ## Lookups are recorded -/

namespace Recorded

variable {r : RegistryId} {names ws : List String} {j : Journal} {h h' : Host} {type : String}

theorem resolver_insertFactory (h : Host) (t t' : ResolverId) (location : String) (f : Factory) :
    (h.insertFactory t location f).resolver t' = h.resolver t' ∨
      (h.insertFactory t location f).resolver t' = (h.resolver t').insert location f := by
  by_cases ht : t.index = t'.index
  · rw [resolver, insertFactory, ← ht, Heap.get?_modify_self, resolver, ← ht]
    cases h.resolvers.get? t.index with
    | none => exact .inl rfl
    | some table => exact .inr rfl
  · refine .inl ?_
    rw [resolver, insertFactory, Heap.get?_modify_of_ne _ _ ht, resolver]

/-- Whether a factory that a registry keeps at a place is there. -/
def KeptAt (h : Host) (r : RegistryId) (f : Factory) : FactoryPlace → Prop
  | .registered s type =>
    s = r ∧ ∃ i, (h.registry r).implementations.get? type = some i ∧ i.locator = .resolved f
  | _ => True

/-- Counting a request changes the count of a locator, or that of a factory in a table. -/
theorem countCall (hr : Recorded r names ws j h) {f : Factory} {place : FactoryPlace}
    (hnames : ∀ n ∈ f.names, n ∈ names) (hkept : KeptAt h r f place) :
    Recorded r names ws j (h.countCall f place) := by
  cases place with
  | loose => exact hr
  | located t location type =>
      refine ⟨hr.lawful, hr.waiting, hr.registry, fun table htable => ?_⟩
      obtain ⟨t', ht', rfl⟩ := Option.map_eq_some_iff.1 htable
      have hbefore : (h.resolver t').Within names :=
        hr.table _ (Option.map_eq_some_iff.2 ⟨t', ht', rfl⟩)
      rcases resolver_insertFactory h t t' location { f with calls := f.calls + 1 } with heq | heq
      · exact heq ▸ hbefore
      · rw [Host.countCall, heq]
        refine hbefore.insert location ?_
        rw [Factory.names_eq]
        exact f.names_eq ▸ hnames
  | registered s type =>
      obtain ⟨rfl, i, hi, hl⟩ := hkept
      have hrecounted : Locator.resolved { f with calls := f.calls + 1 } =
          i.locator.recounted (f.calls + 1) := by
        rw [hl]
        rfl
      have hself : i.loading = j.loading type := hr.loading_eq hi
      simp only [Host.countCall, hi]
      exact hr.waiting ▸ hr.setImplementation hi hrecounted hr.lawful rfl hself fun _ _ => rfl

/-- What is known of a factory to which the locator of an implementation leads. -/
theorem of_locate (hr : Recorded r names ws j h) {i : Implementation} {f : Factory}
    {place : FactoryPlace} (hi : (h.registry r).implementations.get? type = some i)
    (hlocate : h.locate r i.locator = .ok (f, place)) :
    (∀ n ∈ f.names, n ∈ names) ∧ ∀ s type', place = .registered s type' →
      s = r ∧ type' = type ∧ i.locator = .resolved f := by
  have htype := hr.describes.typeName hi
  have hwithin := hr.within type i hi
  have hleads := leadsTo_of_locate hlocate
  cases hl : i.locator with
  | resolved f₀ =>
      rw [hl] at hlocate htype hwithin
      cases hlocate
      exact ⟨fun n hn => hwithin n (List.mem_cons_of_mem _ hn),
        fun s type' heq => by cases heq; exact ⟨rfl, htype, rfl⟩⟩
  | deferred location type' =>
      rw [hl] at hlocate hleads
      obtain ⟨t, ht, hf⟩ := hleads
      refine ⟨hr.table t ht (location, type') f hf, fun s type'' heq => ?_⟩
      subst heq
      simp only [locate] at hlocate
      split at hlocate
      · cases hlocate
      · split at hlocate <;> cases hlocate

/-! ### Factories and lookups -/

/-- A way to answer requests, with what it is said to do in the registry meanwhile. -/
def Notes (r : RegistryId) (names ws : List String) (lookUp : Lookup)
    (note : String → Host → Journal) : Prop :=
  ∀ id j h, Recorded r names ws j h → Recorded r names ws (j ++ note id h) (lookUp id h).2

variable {lookUp : Lookup} {note : String → Host → Journal}

/-- The state that a step was seen to end in. -/
theorem ends {α : Type} {step : α × Host} {a : α} (hr : Recorded r names ws j step.2)
    (hstep : step = (a, h')) : Recorded r names ws j h' := by
  rw [hstep] at hr
  exact hr

mutual
theorem errand (hnotes : Notes r names ws lookUp note) : ∀ (e : Errand) {j : Journal} {h : Host},
    (∀ n ∈ e.names, n ∈ names) → Recorded r names ws j h →
      Recorded r names ws (j ++ errandJournal lookUp note r e h)
        (runErrand lookUp (some r) e h).2
  | .register l ids override, j, h, hnames, hr => by
      have hdone := hr.registered ⟨l, override, ids⟩ hnames
      rw [errandJournal, runErrand]
      cases hreg : h.register r l override ids with
      | error err => rwa [hreg] at hdone
      | ok h' => rwa [hreg] at hdone
  | .resolve id, j, h, _, hr => by
      have hlooked := hnotes id j h hr
      rw [errandJournal, runErrand]
      cases hlook : lookUp id h with
      | mk result h' =>
          rw [hlook] at hlooked
          cases result <;> exact hlooked
  | .attempt es others, j, h, hnames, hr => by
      have htried := errands hnotes es (fun n hn => hnames n (List.mem_append_left _ hn)) hr
      rw [errandJournal, runErrand, ← List.append_assoc]
      cases he : runErrands lookUp (some r) es h with
      | mk result h' =>
          rw [he] at htried
          cases result with
          | error reason =>
              exact errands hnotes others (fun n hn => hnames n (List.mem_append_right _ hn)) htried
          | ok u => exact (List.append_nil _).symm ▸ htried

theorem errands (hnotes : Notes r names ws lookUp note) :
    ∀ (es : List Errand) {j : Journal} {h : Host},
      (∀ n ∈ namesOf es, n ∈ names) → Recorded r names ws j h →
        Recorded r names ws (j ++ errandsJournal lookUp note r es h)
          (runErrands lookUp (some r) es h).2
  | [], j, h, _, hr => (List.append_nil j).symm ▸ hr
  | e :: es, j, h, hnames, hr => by
      have hfirst := errand hnotes e (fun n hn => hnames n (List.mem_append_left _ hn)) hr
      rw [errandsJournal, runErrands, ← List.append_assoc]
      cases he : runErrand lookUp (some r) e h with
      | mk result h' =>
          rw [he] at hfirst
          cases result with
          | error reason => exact (List.append_nil _).symm ▸ hfirst
          | ok u =>
              exact errands hnotes es (fun n hn => hnames n (List.mem_append_right _ hn)) hfirst
end

theorem produce (hr : Recorded r names ws j h) (product : Product) :
    Recorded r names ws j (h.produce product).2 := by
  cases product with
  | shared label name quiet =>
      simp only [Host.produce]
      split <;> exact hr.of_registries_eq rfl rfl
  | _ => exact hr.of_registries_eq rfl rfl

theorem construct (hnotes : Notes r names ws lookUp note) (hr : Recorded r names ws j h)
    {f : Factory} {place : FactoryPlace} (hnames : ∀ n ∈ f.names, n ∈ names)
    (hkept : KeptAt h r f place) :
    Recorded r names ws (j ++ constructJournal lookUp note r h f place)
      (Host.construct lookUp (some r) h f place).2 := by
  have hasked : Recorded r names ws j ((h.countCall f place).emit (.construct f.typeName)) :=
    (hr.countCall hnames hkept).of_registries_eq rfl rfl
  have hdone := errands hnotes f.errands (f.names_eq ▸ hnames) hasked
  simp only [Host.construct, constructJournal]
  split
  · simpa using hasked
  · cases he : runErrands lookUp (some r) f.errands
      ((h.countCall f place).emit (.construct f.typeName)) with
    | mk result h' =>
        rw [he] at hdone
        cases result with
        | error reason => exact hdone
        | ok u => exact hdone.produce f.product

theorem get?_setLoading (hr : Recorded r names ws j h) {i : Implementation} (state : Loading)
    (hi : (h.registry r).implementations.get? type = some i) :
    ((h.setLoading r type state).registry r).implementations.get? type =
      some { i with loading := state } := by
  obtain ⟨reg, hreg, -, -⟩ := hr.registry
  rw [setLoading_eq state hi, registry_of_get? (get?_setRegistry hreg _),
    Registry.setImplementation]
  exact Dict.get?_insert_self _ _ _

/-- Where the locator of an implementation leads nowhere. -/
theorem missed (hr : Recorded r names ws j h) {i : Implementation} {e : RegistryError}
    (hi : (h.registry r).implementations.get? type = some i) (habsent : i.loading = .absent)
    (hlocate : h.locate r i.locator = .error e) :
    Recorded r names ws (j ++ [.missed type (h.table? r)] ++ [.answered type (.error e)]) h := by
  obtain ⟨hunmade, hnew, l, n, hl, hlocator⟩ := hr.of_absent hi habsent
  obtain ⟨location, hdeferred, hnothing, rfl⟩ := missing_of_locate hlocate
  rw [hr.describes.typeName hi] at hdeferred hnothing ⊢
  obtain rfl := eq_deferred_of_recounted (hlocator.symm.trans hdeferred)
  have hmissed : Recorded r names ws (j ++ [.missed type (h.table? r)]) h :=
    hr.concat ⟨hunmade, hnew, location, hl, hnothing⟩ rfl rfl fun _ => rfl
  refine hmissed.answered (.missing j (h.table? r) location rfl ?_)
  rw [Journal.locator?_congr (Journal.done_concat_of_none rfl), hl]

/-- Loading an implementation, from asking its factory to the answer. -/
theorem load (hnotes : Notes r names (type :: ws) lookUp note) (hr : Recorded r names ws j h)
    {i : Implementation} (hi : (h.registry r).implementations.get? type = some i)
    (habsent : i.loading = .absent) :
    Recorded r names ws (j ++ (attemptJournal lookUp note h r type i.locator ++
        [.answered type (Host.load lookUp h r type i.locator).1]))
      (Host.load lookUp h r type i.locator).2 := by
  cases hlocate : h.locate r i.locator with
  | error e =>
      simp only [attemptJournal, Host.load, hlocate]
      rw [← List.append_assoc]
      exact hr.missed hi habsent hlocate
  | ok made =>
      obtain ⟨f, place⟩ := made
      obtain ⟨hnames, hplace⟩ := hr.of_locate hi hlocate
      have hkept : KeptAt (h.setLoading r type .building) r f place := by
        cases place with
        | registered s type' =>
            obtain ⟨rfl, rfl, hl⟩ := hplace s type' rfl
            exact ⟨rfl, _, hr.get?_setLoading .building hi, hl⟩
        | _ => trivial
      have hstarted := hr.started hi habsent (leadsTo_of_locate hlocate)
      have hbuilt := hstarted.construct hnotes hnames hkept
      simp only [attemptJournal, Host.load, loadFrom, hlocate]
      cases hc : Host.construct lookUp (some r) (h.setLoading r type .building) f place with
      | mk result h' =>
          rw [hc] at hbuilt
          have hended := hbuilt.ended result
          have hflat : ∀ (k : Journal) (e₀ e₁ e₂ : Entry),
              j ++ (e₀ :: (k ++ [e₁]) ++ [e₂]) = j ++ [e₀] ++ k ++ [e₁] ++ [e₂] := by simp
          rw [hflat]
          cases result with
          | error e => exact hended.answered (.failed _ e rfl)
          | ok p =>
              refine hended.answered (.loaded p ?_)
              have hunmade := hbuilt.lawful.sound.unmade type
                (hbuilt.waiting ▸ List.mem_cons_self)
              rw [Journal.provider?_concat, hunmade]
              exact if_pos rfl

/-- Lookups by identifier, when lookups by type name are recorded. -/
theorem seek {depth : Nat}
    (hinstance : ∀ type j h, Recorded r names ws j h →
      Recorded r names ws (j ++ instanceJournal r depth type h)
        (Host.instanceOf r depth type h).2) :
    Notes r names ws (lookUpAt r depth) (seekJournal r (instanceJournal r depth)) := by
  intro id j h hr
  simp only [seekJournal, lookUpAt]
  cases hf : h.implementationOf r id with
  | error e => simpa using hr
  | ok found =>
      have hsought := hr.sought hf
      cases found with
      | none => exact hsought
      | some type =>
          have hfound := hinstance type _ h hsought
          rwa [List.append_assoc] at hfound

/-- Lookups by type name.  Induction on the bound on their depth, which is never reached: fewer
types can wait than there are names. -/
theorem instanceOf {depth : Nat} (hdepth : names.length < depth + ws.length)
    (hr : Recorded r names ws j h) :
    Recorded r names ws (j ++ instanceJournal r depth type h)
      (Host.instanceOf r depth type h).2 := by
  induction depth generalizing ws type j h with
  | zero =>
      rw [Nat.zero_add] at hdepth
      exact absurd hdepth (Nat.not_lt.2 hr.length_waiting_le)
  | succ depth ih =>
      rw [instanceJournal, instanceOf_succ]
      cases hi : (h.registry r).implementations.get? type with
      | none => exact hr.answered (.unknown (hr.describes.unknown hi))
      | some i =>
          obtain ⟨l, loading⟩ := i
          have hloading := (hr.loading_eq hi).symm
          cases loading with
          | loaded p => exact hr.answered (.loaded p (Journal.loading_eq_loaded_iff.1 hloading))
          | building =>
              exact hr.answered (.waiting (Journal.loading_eq_building_iff.1 hloading).2)
          | absent =>
              refine hr.load (seek fun type j h hr => ih ?_ hr) hi rfl
              rw [List.length_cons]
              omega

end Recorded

/-! ## Factories that were asked -/

section Events

variable {lookUp : Lookup} {note : String → Host → Journal}

/-- Whether the record of calls grows by the factories that were asked during lookups. -/
def KeepsRecord (lookUp : Lookup) (note : String → Host → Journal) : Prop :=
  ∀ id h, (lookUp id h).2.events.toList = h.events.toList ++ (note id h).asked

theorem events_register {h h' : Host} {r : RegistryId} {l : Locator} {override : Bool}
    {ids : List String} (hr : h.register r l override ids = .ok h') : h'.events = h.events := by
  rw [register] at hr
  cases hreg : (h.registry r).register l override ids with
  | error e => rw [hreg] at hr; cases hr
  | ok new => rw [hreg] at hr; cases hr; rfl

theorem events_setLoading (h : Host) (r : RegistryId) (type : String) (state : Loading) :
    (h.setLoading r type state).events = h.events := by
  simp only [setLoading]
  split <;> rfl

theorem events_countCall (h : Host) (f : Factory) (place : FactoryPlace) :
    (h.countCall f place).events = h.events := by
  cases place with
  | registered r type => simp only [countCall]; split <;> rfl
  | _ => rfl

theorem events_produce (h : Host) (product : Product) :
    (h.produce product).2.events = h.events := by
  cases product with
  | shared label name quiet => simp only [produce]; split <;> rfl
  | _ => rfl

mutual
theorem events_runErrand (hrecord : KeepsRecord lookUp note) (r : RegistryId) :
    ∀ (e : Errand) (h : Host), (runErrand lookUp (some r) e h).2.events.toList =
      h.events.toList ++ (errandJournal lookUp note r e h).asked
  | .register l ids override, h => by
      rw [errandJournal, runErrand]
      cases hreg : h.register r l override ids with
      | error err => exact (List.append_nil _).symm
      | ok h' =>
          simp only [events_register hreg]
          exact (List.append_nil _).symm
  | .resolve id, h => by
      have hlooked := hrecord id h
      rw [errandJournal, runErrand]
      cases hlook : lookUp id h with
      | mk result h' =>
          rw [hlook] at hlooked
          cases result <;> exact hlooked
  | .attempt es others, h => by
      have htried := events_runErrands hrecord r es h
      rw [errandJournal, runErrand, Journal.asked_append, ← List.append_assoc, ← htried]
      cases he : runErrands lookUp (some r) es h with
      | mk result h' =>
          cases result with
          | error reason => exact events_runErrands hrecord r others h'
          | ok u => exact (List.append_nil _).symm

theorem events_runErrands (hrecord : KeepsRecord lookUp note) (r : RegistryId) :
    ∀ (es : List Errand) (h : Host), (runErrands lookUp (some r) es h).2.events.toList =
      h.events.toList ++ (errandsJournal lookUp note r es h).asked
  | [], h => (List.append_nil _).symm
  | e :: es, h => by
      have hfirst := events_runErrand hrecord r e h
      rw [errandsJournal, runErrands, Journal.asked_append, ← List.append_assoc, ← hfirst]
      cases he : runErrand lookUp (some r) e h with
      | mk result h' =>
          cases result with
          | error reason => exact (List.append_nil _).symm
          | ok u => exact events_runErrands hrecord r es h'
end

theorem events_construct (hrecord : KeepsRecord lookUp note) (r : RegistryId) (h : Host)
    (f : Factory) (place : FactoryPlace) : (construct lookUp (some r) h f place).2.events.toList =
      h.events.toList ++
        .construct f.typeName :: (constructJournal lookUp note r h f place).asked := by
  have hasked : ((h.countCall f place).emit (.construct f.typeName)).events.toList =
      h.events.toList ++ [.construct f.typeName] := by
    rw [emit, events_countCall, Array.toList_push]
  simp only [construct, constructJournal]
  split
  · exact hasked
  · have herrands := events_runErrands hrecord r f.errands
      ((h.countCall f place).emit (.construct f.typeName))
    rw [hasked, List.append_assoc, List.singleton_append] at herrands
    cases he : runErrands lookUp (some r) f.errands
      ((h.countCall f place).emit (.construct f.typeName)) with
    | mk result h' =>
        rw [he] at herrands
        cases result with
        | error reason => exact herrands
        | ok u => simpa only [events_produce] using herrands

theorem events_load (hrecord : KeepsRecord lookUp note) (h : Host) (r : RegistryId) (type : String)
    (l : Locator) : (load lookUp h r type l).2.events.toList =
      h.events.toList ++ (attemptJournal lookUp note h r type l).asked := by
  simp only [load, attemptJournal]
  cases hlocate : h.locate r l with
  | error e => exact (List.append_nil _).symm
  | ok made =>
      obtain ⟨f, place⟩ := made
      have hbuilt := events_construct hrecord r (h.setLoading r type .building) f place
      rw [events_setLoading] at hbuilt
      simp only [loadFrom]
      cases hc : construct lookUp (some r) (h.setLoading r type .building) f place with
      | mk result h' =>
          rw [hc] at hbuilt
          have hflat : ∀ k : Journal,
              Journal.asked (.started type (h.table? r) f :: (k ++ [.ended type result])) =
                .construct f.typeName :: k.asked := by
            simp [Journal.asked, Entry.asked?]
          rw [hflat]
          cases result with
          | error e => simpa only [events_setLoading] using hbuilt
          | ok p => simpa only [events_setLoading] using hbuilt

/-- The record of calls grows by the factories that were asked.  Induction on the bound on the
depth of lookups. -/
theorem events_instanceOf (r : RegistryId) (depth : Nat) (type : String) (h : Host) :
    (instanceOf r depth type h).2.events.toList =
      h.events.toList ++ (instanceJournal r depth type h).asked := by
  induction depth generalizing type h with
  | zero => exact (List.append_nil _).symm
  | succ depth ih =>
      have hrecord : KeepsRecord (lookUpAt r depth) (seekJournal r (instanceJournal r depth)) := by
        intro id h
        simp only [lookUpAt, seekJournal]
        cases h.implementationOf r id with
        | error e => exact (List.append_nil _).symm
        | ok found =>
            cases found with
            | none => exact (List.append_nil _).symm
            | some type => exact ih type h
      rw [instanceOf_succ, instanceJournal]
      cases (h.registry r).implementations.get? type with
      | none => exact (List.append_nil _).symm
      | some i =>
          obtain ⟨l, loading⟩ := i
          cases loading with
          | absent =>
              rw [Journal.asked_append]
              exact (events_load hrecord h r type l).trans (congrArg _ (List.append_nil _).symm)
          | _ => exact (List.append_nil _).symm

end Events

end Host

end Polyglot
