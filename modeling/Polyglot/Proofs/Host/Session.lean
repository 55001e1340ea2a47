import Mathlib.Data.List.Basic
import Polyglot.Proofs.Host.Lookups

/-!
# Polyglot.Proofs.Host.Session

Sessions of one registry: requests that are made to it one after the other, with anything between
them that leaves the registry alone.

```
state     serve     after all steps
journal   log       what happened in the registry, also inside factories
```

From an empty registry on, the journal of a session is lawful and describes the registry
(`told_serve`).  So whatever a lawful journal says can be read off the registry: what identifiers
stand for, how many implementations there are, and which providers (`Shows`).
-/

namespace Polyglot

open Polyglot.Language

namespace Host

/-! ## Sessions -/

/-- Something that is asked of a registry. -/
inductive Request where
  | register (c : Registration)
  | resolve (id : String)
  | tryResolve (id : String)
  | resolveByExtension (extension : String)
  | resolveByType (type : String)

variable {r : RegistryId}

/-- What happens in a registry during a lookup by identifier. -/
def lookupJournal (r : RegistryId) (id : String) (h : Host) : Journal :=
  seekJournal r (instanceJournal r (h.depthBound r)) id h

namespace Request

/-- The state after a request; a registration that is refused leaves it as it is. -/
def effect (r : RegistryId) : Request → Host → Host
  | register c, h => (h.register r c.locator c.override c.ids).toOption.getD h
  | resolve id, h => (h.resolve r id).2
  | tryResolve id, h => (h.tryResolve r id).2
  | resolveByExtension extension, h => (h.resolveByExtension r extension).2
  | resolveByType type, h => (h.resolveByType r type).2

/-- What happens in the registry during a request. -/
def journal (r : RegistryId) : Request → Host → Journal
  | register c, h => [.registered c (h.registry r)]
  | resolve id, h => lookupJournal r id h
  | tryResolve id, h => lookupJournal r id h
  | resolveByExtension extension, h =>
    match ofExtension extension with
    | .error _ => []
    | .ok id => lookupJournal r id h
  | resolveByType type, h => instanceJournal r (h.depthBound r) type h

end Request

/-- A step of a session. -/
inductive Step (r : RegistryId) where
  | ask (q : Request)
  /-- Anything that leaves the registry alone. -/
  | elsewhere (f : Host → Host)
      (apart : ∀ h, (f h).registries.get? r.index = h.registries.get? r.index)

namespace Step

/-- The state after a step. -/
def effect : Step r → Host → Host
  | ask q, h => q.effect r h
  | elsewhere f _, h => f h

/-- What happens in the registry during a step. -/
def journal : Step r → Host → Journal
  | ask q, h => q.journal r h
  | elsewhere _ _, _ => []

end Step

/-- The state after the steps of a session. -/
def serve (h : Host) : List (Step r) → Host
  | [] => h
  | s :: steps => (s.effect h).serve steps

/-- What happens in the registry during a session. -/
def log (h : Host) : List (Step r) → Journal
  | [] => []
  | s :: steps => s.journal h ++ (s.effect h).log steps

/-! ## Lookups are lookups by type name -/

theorem resolve_eq (h : Host) (r : RegistryId) (id : String) :
    h.resolve r id = lookUpAt r (h.depthBound r) id h := by
  simp only [resolve, tryResolve, lookUpAt, resolveByType]
  cases h.implementationOf r id with
  | error e => rfl
  | ok found =>
      cases found with
      | none => rfl
      | some type =>
          simp only
          cases instanceOf r (h.depthBound r) type h with
          | mk result h' => cases result <;> rfl

theorem tryResolve_snd (h : Host) (r : RegistryId) (id : String) :
    (h.tryResolve r id).2 = (h.resolve r id).2 := by
  simp only [resolve]
  cases h.tryResolve r id with
  | mk result h' =>
      cases result with
      | error e => rfl
      | ok found => cases found <;> rfl

/-! ## What can be seen of a registry -/

theorem mem_types_of_standsFor {j : Journal} {k type : String} (hk : j.standsFor k = some type) :
    type ∈ j.types := by
  obtain ⟨c, hc, rfl⟩ := Option.map_eq_some_iff.1 hk
  rw [Journal.types, List.mem_eraseDups]
  exact List.mem_map_of_mem (List.mem_reverse.1 (List.mem_of_find?_eq_some hc))

/-- What can be seen of a registry, as a journal tells it. -/
structure Journal.Shows (j : Journal) (reg : Registry) : Prop where
  typeNameOf? : ∀ x, reg.typeNameOf? x = if Usable x then j.standsFor (spelling x) else none
  implementationCount : reg.implementationCount = j.types.length
  loaded? : ∀ type, reg.loaded? type = j.provider? type
  loadedProviders : reg.loadedProviders = j.types.filterMap j.provider?
  /-- What an identifier stands for is one of the implementations. -/
  identifiers : ∀ k type, reg.identifiers.get? k = some type →
    ∃ n < reg.implementationCount, ∃ i, reg.implementations.entries[n]? = some (type, i)
  /-- An implementation is found by its type name, under which it was registered. -/
  implementations : ∀ (n : Nat) type i, reg.implementations.entries[n]? = some (type, i) →
    reg.implementations.get? type = some i ∧ i.locator.typeName = type

theorem Journal.Describes.shows {j : Journal} {reg : Registry} (hd : j.Describes reg)
    (hj : j.Lawful) : j.Shows reg := by
  have hprovider : ∀ type i, reg.implementations.get? type = some i →
      i.loading.provider? = j.provider? type := by
    intro type i hi
    rw [(hd.implementation type i hi).2, loading]
    cases j.provider? type with
    | some p => rfl
    | none => by_cases hw : type ∈ j.waiting <;> simp [hw, Loading.provider?]
  refine ⟨fun x => ?_, ?_, fun type => ?_, ?_, fun k type hk => ?_, fun n type i hn => ?_⟩
  · by_cases hx : Usable x
    · rw [if_pos hx, Registry.typeNameOf?, Registry.find, key_of_usable hx]
      exact hd.identifiers _
    · rw [if_neg hx, Registry.typeNameOf?, Registry.find, key_of_not_usable hx]
      rfl
  · rw [Registry.implementationCount, ← Dict.length_keys, hd.types]
  · rw [Registry.loaded?]
    cases hi : reg.implementations.get? type with
    | some i => exact hprovider type i hi
    | none => exact (hj.sound.provider?_of_unknown (hd.unknown hi)).symm
  · rw [Registry.loadedProviders, ← hd.types, Dict.keys, List.filterMap_map]
    exact List.filterMap_congr fun e he => hprovider e.1 e.2 (Dict.get?_eq_some_iff.2 he)
  · obtain ⟨i, hi⟩ := hd.exists_implementation
      (mem_types_of_standsFor ((hd.identifiers k).symm.trans hk))
    obtain ⟨n, hn⟩ := List.mem_iff_getElem?.1 (Dict.get?_eq_some_iff.1 hi)
    obtain ⟨hlt, -⟩ := List.getElem?_eq_some_iff.1 hn
    exact ⟨n, hlt, i, hn⟩
  · have hi := Dict.get?_eq_some_iff.2 (List.mem_of_getElem? hn)
    exact ⟨hi, hd.typeName hi⟩

/-! ## What a session leaves -/

/-- The type names that a registry knows, or may come to know from its factories and from those in
its table. -/
def possibleNames (h : Host) (r : RegistryId) : List String :=
  (h.registry r).possibleNames ++ (h.table? r).elim [] Resolver.possibleNames

/-- The depth bound counts every possible name once. -/
theorem length_possibleNames (h : Host) (r : RegistryId) :
    (h.possibleNames r).length < h.depthBound r := by
  rw [possibleNames, List.length_append, Registry.length_possibleNames, depthBound]
  cases h.table? r with
  | none => exact Nat.lt_succ_self _
  | some t =>
      rw [Option.elim_some, Option.elim_some, Resolver.length_possibleNames]
      exact Nat.lt_succ_self _

/-- Whether a lawful journal tells all that happened in a registry that no factory works on. -/
def Told (r : RegistryId) (j : Journal) (h : Host) : Prop :=
  Recorded r (h.possibleNames r) [] j h

/-- All that may come to be known is what the registry and its table lead to. -/
theorem told_of_describes {j : Journal} {h : Host} {reg : Registry} (hlawful : j.Lawful)
    (hwaiting : j.waiting = []) (hreg : h.registries.get? r.index = some reg)
    (hd : j.Describes reg) : Told r j h := by
  refine ⟨hlawful, hwaiting, ⟨reg, hreg, hd, fun type i hi n hn => ?_⟩, fun t ht k f hf n hn => ?_⟩
  · rw [← registry_of_get? hreg] at hi
    exact List.mem_append_left _ ((h.registry r).within_possibleNames type i hi n hn)
  · refine List.mem_append_right _ ?_
    rw [ht]
    exact t.within_possibleNames k f hf n hn

namespace Recorded

variable {names more ws : List String} {j : Journal} {h : Host}

theorem mono (hr : Recorded r names ws j h) (hsub : ∀ n ∈ names, n ∈ more) :
    Recorded r more ws j h := by
  obtain ⟨reg, hreg, hd, hw⟩ := hr.registry
  exact ⟨hr.lawful, hr.waiting, ⟨reg, hreg, hd, fun type i hi n hn => hsub n (hw type i hi n hn)⟩,
    fun t ht k f hf n hn => hsub n (hr.table t ht k f hf n hn)⟩

theorem told (hr : Recorded r names [] j h) : Told r j h := by
  obtain ⟨reg, hreg, hd, -⟩ := hr.registry
  exact told_of_describes hr.lawful hr.waiting hreg hd

end Recorded

namespace Told

variable {j : Journal} {h : Host}

theorem nil {resolver : Option ResolverId}
    (hempty : h.registries.get? r.index = some (.empty resolver)) : Told r [] h :=
  told_of_describes Journal.lawful_nil rfl hempty (.nil resolver)

theorem resolveByType (ht : Told r j h) (type : String) :
    Told r (j ++ instanceJournal r (h.depthBound r) type h) (h.resolveByType r type).2 :=
  (Recorded.instanceOf (h.length_possibleNames r) ht).told

theorem lookup (ht : Told r j h) (id : String) :
    Told r (j ++ lookupJournal r id h) (h.resolve r id).2 := by
  rw [resolve_eq]
  have hbound := h.length_possibleNames r
  exact (Recorded.seek (fun type j' h' hr => hr.instanceOf hbound) id j h ht).told

/-- One request. -/
theorem request (ht : Told r j h) (q : Request) : Told r (j ++ q.journal r h) (q.effect r h) := by
  cases q with
  | register c =>
      have hmore : Recorded r (h.possibleNames r ++ c.locator.names) [] j h :=
        ht.mono fun n hn => List.mem_append_left _ hn
      exact (hmore.registered c fun n hn => List.mem_append_right _ hn).told
  | resolve id => exact ht.lookup id
  | tryResolve id =>
      simp only [Request.effect, tryResolve_snd]
      exact ht.lookup id
  | resolveByExtension extension =>
      simp only [Request.effect, Request.journal, Host.resolveByExtension]
      cases ofExtension extension with
      | error e => simpa using ht
      | ok id => exact ht.lookup id
  | resolveByType type => exact ht.resolveByType type

/-- One step. -/
theorem step (ht : Told r j h) (s : Step r) : Told r (j ++ s.journal h) (s.effect h) := by
  cases s with
  | ask q => exact ht.request q
  | elsewhere f apart =>
      obtain ⟨reg, hreg, hd, -⟩ := ht.registry
      rw [Step.journal, List.append_nil]
      exact told_of_describes ht.lawful ht.waiting ((apart h).trans hreg) hd

/-- A whole session.  Induction on its steps. -/
theorem serve (ht : Told r j h) (steps : List (Step r)) :
    Told r (j ++ h.log steps) (h.serve steps) := by
  induction steps generalizing j h with
  | nil => simpa [log, Host.serve] using ht
  | cons s steps ih =>
      have hrest := ih (ht.step s)
      rwa [List.append_assoc] at hrest

end Told

theorem Told.shows {j : Journal} {h : Host} (ht : Told r j h) : j.Shows (h.registry r) :=
  ht.describes.shows ht.lawful

theorem told_serve {h : Host} {resolver : Option ResolverId}
    (hempty : h.registries.get? r.index = some (.empty resolver)) (steps : List (Step r)) :
    Told r (h.log steps) (h.serve steps) :=
  (Told.nil hempty).serve steps

/-! ## Factories that were asked -/

theorem events_lookup (h : Host) (r : RegistryId) (id : String) :
    (h.resolve r id).2.events.toList = h.events.toList ++ (lookupJournal r id h).asked := by
  rw [resolve_eq]
  simp only [lookUpAt, lookupJournal, seekJournal]
  cases h.implementationOf r id with
  | error e => exact (List.append_nil _).symm
  | ok found =>
      cases found with
      | none => exact (List.append_nil _).symm
      | some type => exact events_instanceOf r _ type h

/-- The factories that were asked during a request, as its journal says, are those of which the
host made a record. -/
theorem Request.events_effect (q : Request) (h : Host) :
    (q.effect r h).events.toList = h.events.toList ++ (q.journal r h).asked := by
  cases q with
  | register c =>
      cases hreg : h.register r c.locator c.override c.ids with
      | error e =>
          rw [effect, hreg]
          exact (List.append_nil _).symm
      | ok h' =>
          rw [effect, hreg, Except.toOption, Option.getD_some, events_register hreg]
          exact (List.append_nil _).symm
  | resolve id =>
      rw [effect, journal]
      exact events_lookup h r id
  | tryResolve id =>
      rw [effect, journal, tryResolve_snd]
      exact events_lookup h r id
  | resolveByExtension extension =>
      rw [effect, journal, Host.resolveByExtension]
      cases ofExtension extension with
      | error e => exact (List.append_nil _).symm
      | ok id =>
          simp only
          exact events_lookup h r id
  | resolveByType type =>
      rw [effect, journal, Host.resolveByType]
      exact events_instanceOf r _ type h

end Host

end Polyglot
