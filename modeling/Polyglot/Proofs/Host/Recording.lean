import Polyglot.Proofs.Host.Journal

/-!
# Polyglot.Proofs.Host.Recording

Hosts whose registry is recorded in a journal.  The journal is lawful and describes the registry,
and it says which types wait for their factories (`Recorded`).  What a host does with a registry
in one step goes with an entry of the journal, or with none:

```
a registration that is done      registered
a registration that is refused   registered
finding a type name              sought
asking a factory                 started
finding none                     missed
the end of a factory             ended
an answer                        answered
everything elsewhere             none
```

There are never more waiting types than type names that may come to be known
(`Recorded.length_waiting_le`).
-/

namespace Polyglot

open Polyglot.Language

namespace Host

/-! ## Registries that are described -/

namespace Journal.Describes

variable {j j' : Journal} {reg : Registry}

theorem nil (resolver : Option ResolverId) : Describes [] (.empty resolver) where
  identifiers _ := rfl
  types := rfl
  implementation _ _ hi := by cases hi

theorem exists_implementation (hd : j.Describes reg) {type : String} (ht : type ∈ j.types) :
    ∃ i, reg.implementations.get? type = some i := by
  rw [← hd.types, Dict.mem_keys_iff] at ht
  exact Option.isSome_iff_exists.1 ht

theorem mem_types (hd : j.Describes reg) {type : String} {i : Implementation}
    (hi : reg.implementations.get? type = some i) : type ∈ j.types := by
  rw [← hd.types, Dict.mem_keys_iff, hi]
  rfl

theorem unknown (hd : j.Describes reg) {type : String}
    (hi : reg.implementations.get? type = none) : type ∉ j.types := fun hmem => by
  obtain ⟨i, hi'⟩ := hd.exists_implementation hmem
  rw [hi] at hi'
  cases hi'

theorem typeName (hd : j.Describes reg) {type : String} {i : Implementation}
    (hi : reg.implementations.get? type = some i) : i.locator.typeName = type := by
  obtain ⟨⟨l, n, hl, heq⟩, -⟩ := hd.implementation type i hi
  rw [heq, Locator.typeName_recounted, typeName_of_locator? hl]

/-- The types that are known are among the possible ones. -/
theorem mem_names (hd : j.Describes reg) {names : List String} (hw : reg.Within names)
    {type : String} (ht : type ∈ j.types) : type ∈ names := by
  obtain ⟨i, hi⟩ := hd.exists_implementation ht
  exact hw type i hi type (hd.typeName hi ▸ i.locator.typeName_mem_names)

/-- Another state of one implementation, in a journal that has no more registrations. -/
theorem setImplementation (hd : j.Describes reg) {type : String} {i i' : Implementation} {n : Nat}
    (hi : reg.implementations.get? type = some i) (hlocator : i'.locator = i.locator.recounted n)
    (hdone : j'.done = j.done) (hself : i'.loading = j'.loading type)
    (hothers : ∀ t, t ≠ type → j'.loading t = j.loading t) :
    j'.Describes (reg.setImplementation type i') where
  identifiers k := by rw [standsFor_congr hdone]; exact hd.identifiers k
  types := by
    have hmem : type ∈ reg.implementations.keys := hd.types ▸ hd.mem_types hi
    rw [types_congr hdone, ← hd.types, Registry.setImplementation]
    exact (Dict.keys_insert _ _ _).trans (if_pos hmem)
  implementation t k hk := by
    rw [Registry.setImplementation] at hk
    simp only [Dict.get?_insert] at hk
    rw [locator?_congr hdone]
    by_cases ht : t = type
    · obtain ⟨⟨l, m, hl, heq⟩, -⟩ := hd.implementation type i hi
      rw [if_pos ht] at hk
      cases hk
      refine ⟨⟨l, n, ht ▸ hl, ?_⟩, ht ▸ hself⟩
      rw [hlocator, heq, Locator.recounted_recounted]
    · rw [if_neg ht] at hk
      rw [hothers t ht]
      exact hd.implementation t k hk

/-- An entry that changes neither registrations nor loading. -/
theorem concat (hd : j.Describes reg) {e : Entry} (hdone : e.done? = none)
    (hwaiting : e.waiting j.waiting = j.waiting) (hmade : ∀ type, e.made? type = none) :
    Describes (j ++ [e]) reg where
  identifiers k := by rw [standsFor_congr (done_concat_of_none hdone)]; exact hd.identifiers k
  types := by rw [types_congr (done_concat_of_none hdone)]; exact hd.types
  implementation type i hi := by
    have hloading : loading (j ++ [e]) type = j.loading type := by
      rw [loading, provider?_concat_of_none (hmade type), waiting_concat, hwaiting, loading]
    rw [locator?_congr (done_concat_of_none hdone), hloading]
    exact hd.implementation type i hi

/-- A registration that is done. -/
theorem registered (hd : j.Describes reg) (hj : j.Lawful) {c : Registration} {found : Registry}
    (hdone : (Entry.registered c found).done? = some c) :
    Describes (j ++ [.registered c found]) (reg.registered c.locator c.ids) where
  identifiers k := by
    rw [standsFor_concat hdone, Registry.get?_identifiers_registered, hd.identifiers]
  types := by
    rw [types_concat hdone, Registry.keys_implementations_registered, hd.types]
  implementation type i hi := by
    have hloading : loading (j ++ [.registered c found]) type = j.loading type := by
      rw [loading, provider?_concat_of_none rfl, waiting_concat, loading]
      rfl
    rw [hloading, locator?_concat hdone]
    rw [Registry.get?_implementations_registered] at hi
    split at hi
    · next hnew =>
        obtain ⟨rfl, hnone⟩ := hnew
        cases hi
        have hunknown := hd.unknown hnone
        obtain ⟨n, hn⟩ := c.locator.exists_eq_recounted
        refine ⟨⟨c.locator, n, ?_, hn⟩, (hj.sound.loading_of_unknown hunknown).symm⟩
        rw [locator?_of_unknown hunknown]
        exact if_pos rfl
    · obtain ⟨⟨l, n, hl, heq⟩, hload⟩ := hd.implementation type i hi
      exact ⟨⟨l, n, by rw [hl]; rfl, heq⟩, hload⟩

end Journal.Describes

/-! ## Hosts that are recorded -/

/-- Whether a lawful journal describes a registry of the host, where the types in `ws` wait for
their factories, and all types that may come to be known are among `names`. -/
structure Recorded (r : RegistryId) (names ws : List String) (j : Journal) (h : Host) : Prop where
  lawful : j.Lawful
  waiting : j.waiting = ws
  registry : ∃ reg, h.registries.get? r.index = some reg ∧ j.Describes reg ∧ reg.Within names
  table : ∀ t, h.table? r = some t → t.Within names

variable {r : RegistryId} {names ws : List String} {j : Journal} {h h' : Host} {type : String}

theorem registry_of_get? {reg : Registry} (hreg : h.registries.get? r.index = some reg) :
    h.registry r = reg := by
  rw [registry, hreg, Option.getD_some]

theorem get?_setRegistry {reg : Registry} (hreg : h.registries.get? r.index = some reg)
    (new : Registry) : (h.setRegistry r new).registries.get? r.index = some new := by
  rw [setRegistry, Heap.get?_modify_self, hreg, Option.map_some]

/-- A registry that looks in the same table as before finds the same one. -/
theorem table?_setRegistry {reg : Registry} (hreg : h.registries.get? r.index = some reg)
    (new : Registry) (hnew : new.resolver = reg.resolver) :
    (h.setRegistry r new).table? r = h.table? r := by
  rw [table?, registry_of_get? (get?_setRegistry hreg new), hnew, table?, registry_of_get? hreg]
  rfl

theorem leadsTo_of_recounted {table : Option Resolver} {l : Locator} {n : Nat} {f : Factory}
    (hl : LeadsTo table (l.recounted n) f) : LeadsTo table l f := by
  cases l with
  | resolved f₀ =>
      obtain ⟨m, rfl⟩ := hl
      exact ⟨m, rfl⟩
  | deferred location type => exact hl

/-- How far loading has come when a factory has ended. -/
def loadingAfter : Except ConstructionFailure ProviderId → Loading
  | .ok p => .loaded p
  | .error _ => .absent

namespace Recorded

theorem describes (hr : Recorded r names ws j h) : j.Describes (h.registry r) := by
  obtain ⟨reg, hreg, hd, -⟩ := hr.registry
  rwa [registry_of_get? hreg]

theorem within (hr : Recorded r names ws j h) : (h.registry r).Within names := by
  obtain ⟨reg, hreg, -, hw⟩ := hr.registry
  rwa [registry_of_get? hreg]

/-- Steps that leave registries and tables alone. -/
theorem of_registries_eq (hr : Recorded r names ws j h) (hregistries : h'.registries = h.registries)
    (hresolvers : h'.resolvers = h.resolvers) : Recorded r names ws j h' := by
  have hresolver : h'.resolver = h.resolver := by
    funext t
    rw [resolver, hresolvers, resolver]
  have htable : h'.table? r = h.table? r := by
    simp only [table?, Host.registry, hregistries, hresolver]
  exact ⟨hr.lawful, hr.waiting, hregistries ▸ hr.registry, htable ▸ hr.table⟩

/-- The types that wait for their factories are fewer than the possible names. -/
theorem length_waiting_le (hr : Recorded r names ws j h) : ws.length ≤ names.length := by
  have hs := hr.lawful.sound
  rw [← hr.waiting]
  exact hs.nodup.length_le_of_subset fun type ht =>
    hr.describes.mem_names hr.within (hs.known type ht)

theorem loading_eq (hr : Recorded r names ws j h) {i : Implementation}
    (hi : (h.registry r).implementations.get? type = some i) : i.loading = j.loading type :=
  (hr.describes.implementation type i hi).2

theorem setImplementation (hr : Recorded r names ws j h) {j' : Journal} {i i' : Implementation}
    {n : Nat} (hi : (h.registry r).implementations.get? type = some i)
    (hlocator : i'.locator = i.locator.recounted n) (hlawful : j'.Lawful) (hdone : j'.done = j.done)
    (hself : i'.loading = j'.loading type)
    (hothers : ∀ t, t ≠ type → j'.loading t = j.loading t) :
    Recorded r names j'.waiting j'
      (h.setRegistry r ((h.registry r).setImplementation type i')) := by
  obtain ⟨reg, hreg, hd, hw⟩ := hr.registry
  rw [registry_of_get? hreg] at hi ⊢
  refine ⟨hlawful, rfl, ⟨_, get?_setRegistry hreg _,
    hd.setImplementation hi hlocator hdone hself hothers, fun t k hk => ?_⟩,
    (table?_setRegistry hreg (reg.setImplementation type i') rfl).symm ▸ hr.table⟩
  rw [Registry.setImplementation] at hk
  simp only [Dict.get?_insert] at hk
  split at hk
  · cases hk
    rw [hlocator, Locator.names_recounted]
    exact hw type i hi
  · exact hw t k hk

/-- An entry that changes neither registrations nor loading. -/
theorem concat (hr : Recorded r names ws j h) {e : Entry} (he : e.Lawful j)
    (hdone : e.done? = none) (hwaiting : e.waiting j.waiting = j.waiting)
    (hmade : ∀ type, e.made? type = none) : Recorded r names ws (j ++ [e]) h := by
  obtain ⟨reg, hreg, hd, hw⟩ := hr.registry
  exact ⟨Journal.lawful_concat_iff.2 ⟨hr.lawful, he⟩,
    by rw [Journal.waiting_concat, hwaiting, hr.waiting],
    ⟨reg, hreg, hd.concat hdone hwaiting hmade, hw⟩, hr.table⟩

theorem answered (hr : Recorded r names ws j h) {result : Except RegistryError ProviderId}
    (ha : Answer j type result) : Recorded r names ws (j ++ [.answered type result]) h :=
  hr.concat ha rfl rfl fun _ => rfl

theorem sought (hr : Recorded r names ws j h) {id : String} {found : Option String}
    (hf : h.implementationOf r id = .ok found) :
    Recorded r names ws (j ++ [.sought id found]) h := by
  refine hr.concat ?_ rfl rfl fun _ => rfl
  by_cases hid : Usable id
  · rw [implementationOf, Registry.find, key_of_usable hid] at hf
    exact ⟨hid, (Except.ok.inj hf).symm.trans (hr.describes.identifiers _)⟩
  · rw [implementationOf, Registry.find, key_of_not_usable hid] at hf
    cases hf

/-! ### Registrations -/

theorem registered_error (hr : Recorded r names ws j h) {c : Registration} {e : RegistryError}
    (he : c.outcome (h.registry r) = .error e) :
    Recorded r names ws (j ++ [.registered c (h.registry r)]) h :=
  hr.concat hr.describes (by simp only [Entry.done?, he]) rfl fun _ => rfl

theorem registered_ok (hr : Recorded r names ws j h) {c : Registration} {new : Registry}
    (hok : c.outcome (h.registry r) = .ok new) (hnames : ∀ n ∈ c.locator.names, n ∈ names) :
    Recorded r names ws (j ++ [.registered c (h.registry r)]) (h.setRegistry r new) := by
  have hdone : (Entry.registered c (h.registry r)).done? = some c := by
    simp only [Entry.done?, hok]
  obtain ⟨rfl, -⟩ := Registry.of_register_eq_ok hok
  obtain ⟨reg, hget, -, -⟩ := hr.registry
  have hresolver : ((h.registry r).registered c.locator c.ids).resolver = reg.resolver := by
    rw [registry_of_get? hget]
    rfl
  refine ⟨Journal.lawful_concat_iff.2 ⟨hr.lawful, hr.describes⟩, ?_, ⟨_, get?_setRegistry hget _,
    hr.describes.registered hr.lawful hdone, fun t i hi => ?_⟩,
    (table?_setRegistry hget _ hresolver).symm ▸ hr.table⟩
  · rw [Journal.waiting_concat, ← hr.waiting]
    rfl
  · rw [Registry.get?_implementations_registered] at hi
    split at hi
    · cases hi
      exact hnames
    · exact hr.within t i hi

/-- What a registration does in a recorded host, whatever comes of it. -/
theorem registered (hr : Recorded r names ws j h) (c : Registration)
    (hnames : ∀ n ∈ c.locator.names, n ∈ names) :
    Recorded r names ws (j ++ [.registered c (h.registry r)])
      ((h.register r c.locator c.override c.ids).toOption.getD h) := by
  cases hc : c.outcome (h.registry r) with
  | error e =>
      have hreg : h.register r c.locator c.override c.ids = .error e := congrArg _ hc
      rw [hreg]
      exact hr.registered_error hc
  | ok new =>
      have hreg : h.register r c.locator c.override c.ids = .ok (h.setRegistry r new) :=
        congrArg _ hc
      rw [hreg]
      exact hr.registered_ok hc hnames

/-! ### Loading -/

theorem setLoading_eq {i : Implementation} (state : Loading)
    (hi : (h.registry r).implementations.get? type = some i) : h.setLoading r type state =
      h.setRegistry r ((h.registry r).setImplementation type { i with loading := state }) := by
  rw [setLoading]
  simp only [hi]

/-- What is known of an implementation that is not loaded. -/
theorem of_absent (hr : Recorded r names ws j h) {i : Implementation}
    (hi : (h.registry r).implementations.get? type = some i) (habsent : i.loading = .absent) :
    j.provider? type = none ∧ type ∉ j.waiting ∧
      ∃ l n, j.locator? type = some l ∧ i.locator = l.recounted n := by
  obtain ⟨hlocator, hloading⟩ := hr.describes.implementation type i hi
  obtain ⟨hunmade, hnew⟩ := Journal.loading_eq_absent_iff.1 (hloading.symm.trans habsent)
  exact ⟨hunmade, hnew, hlocator⟩

theorem started (hr : Recorded r names ws j h) {i : Implementation} {table : Option Resolver}
    {f : Factory} (hi : (h.registry r).implementations.get? type = some i)
    (habsent : i.loading = .absent) (hleads : LeadsTo table i.locator f) :
    Recorded r names (type :: ws) (j ++ [.started type table f])
      (h.setLoading r type .building) := by
  obtain ⟨hunmade, hnew, l, n, hl, hlocator⟩ := hr.of_absent hi habsent
  obtain ⟨n', hn'⟩ := i.locator.exists_eq_recounted
  have hwaiting : Journal.waiting (j ++ [.started type table f]) = type :: ws := by
    rw [Journal.waiting_concat, ← hr.waiting]
    rfl
  have hlawful : Journal.Lawful (j ++ [.started type table f]) :=
    Journal.lawful_concat_iff.2
      ⟨hr.lawful, hunmade, hnew, l, hl, leadsTo_of_recounted (hlocator ▸ hleads)⟩
  rw [setLoading_eq _ hi, ← hwaiting]
  refine hr.setImplementation hi hn' hlawful (Journal.done_concat_of_none rfl) ?_ fun t ht => ?_
  · rw [Journal.loading, Journal.provider?_concat_of_none rfl, hunmade, hwaiting]
    exact (if_pos List.mem_cons_self).symm
  · have hmem : t ∈ type :: ws ↔ t ∈ ws := by simp [ht]
    simp only [Journal.loading, Journal.provider?_concat_of_none (e := .started type table f) rfl,
      hwaiting, hmem, hr.waiting]

theorem ended (hr : Recorded r names (type :: ws) j h)
    (result : Except ConstructionFailure ProviderId) :
    Recorded r names ws (j ++ [.ended type result])
      (h.setLoading r type (loadingAfter result)) := by
  have hs := hr.lawful.sound
  have hmem : type ∈ j.waiting := hr.waiting ▸ List.mem_cons_self
  obtain ⟨i, hi⟩ := hr.describes.exists_implementation (hs.known type hmem)
  obtain ⟨n, hn⟩ := i.locator.exists_eq_recounted
  have hlawful : Journal.Lawful (j ++ [.ended type result]) :=
    Journal.lawful_concat_iff.2 ⟨hr.lawful, ws, hr.waiting⟩
  have hwaiting : Journal.waiting (j ++ [.ended type result]) = ws := by
    rw [Journal.waiting_concat, hr.waiting]
    rfl
  have hnot : type ∉ ws := (List.nodup_cons.1 (hr.waiting ▸ hs.nodup)).1
  rw [setLoading_eq _ hi]
  refine hwaiting ▸
    hr.setImplementation hi hn hlawful (Journal.done_concat_of_none rfl) ?_ fun t ht => ?_
  · rw [Journal.loading, Journal.provider?_concat, hs.unmade type hmem, hwaiting]
    cases result with
    | error e => exact (if_neg hnot).symm
    | ok p => simp [Entry.made?, loadingAfter]
  · have hmade : (Entry.ended type result).made? t = none := by
      cases result with
      | error e => rfl
      | ok p => exact if_neg fun heq => ht heq.symm
    simp only [Journal.loading, Journal.provider?_concat_of_none hmade, hwaiting, hr.waiting,
      List.mem_cons, ht, false_or]

end Recorded

end Host

end Polyglot
