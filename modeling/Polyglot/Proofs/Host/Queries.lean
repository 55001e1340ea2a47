import Polyglot.Proofs.Host.Answers
import Polyglot.Proofs.Language.Listing
import Polyglot.Proofs.Language.Spelling

/-!
# Polyglot.Proofs.Host.Queries

The queries of a registry tell one story, which is that of its journal (`OneStory`):

```
listings        the registered spellings that are asked for, in ascending order
registered      a registration that was done names the identifier, up to its spelling
type name       there is one exactly for what is registered
loaded          it is registered, and a factory made the provider of its type
lookups         they find nothing where nothing is registered, and refuse what says nothing
```

All of it rests on one invariant: what a registry files are spellings of identifiers that say
something (`Describes.exists_of_get?`).  `queries_agree` says so of every session that begins with
an empty registry, and of every registry that a registration finds on the way.
-/

namespace Polyglot

open Polyglot.Language

namespace Host

/-! ## What registrations file -/

namespace Journal

variable {j : Journal} {c : Registration} {id k type : String}

theorem usable_of_mem_done (hc : c ∈ j.done) (hid : id ∈ c.ids) : Usable id := by
  obtain ⟨e, -, he⟩ := List.mem_filterMap.1 hc
  cases e with
  | registered c' found =>
      simp only [Entry.done?] at he
      split at he
      · cases he
      · next new hok =>
          obtain rfl := Option.some.inj he
          exact (Registry.of_register_eq_ok hok).2 id hid
  | _ => cases he

theorem exists_done_of_standsFor (hk : j.standsFor k = some type) :
    ∃ c ∈ j.done, c.locator.typeName = type ∧ ∃ id ∈ c.ids, spelling id = k := by
  obtain ⟨c, hfind, htype⟩ := Option.map_eq_some_iff.1 hk
  have hmem : k ∈ c.ids.map spelling := by simpa using List.find?_some hfind
  exact ⟨c, List.mem_reverse.1 (List.mem_of_find?_eq_some hfind), htype, List.mem_map.1 hmem⟩

theorem exists_standsFor_of_done (hc : c ∈ j.done) (hid : id ∈ c.ids) :
    ∃ type, j.standsFor (spelling id) = some type := by
  rw [← Option.isSome_iff_exists, standsFor, Option.isSome_map, List.find?_isSome]
  exact ⟨c, List.mem_reverse.2 hc, by simpa using ⟨id, hid, rfl⟩⟩

namespace Describes

variable {reg : Registry}

/-- What is filed is the spelling of an identifier that says something. -/
theorem exists_of_get? (hd : j.Describes reg) (hk : reg.identifiers.get? k = some type) :
    Usable k ∧ spelling k = k := by
  obtain ⟨c, hc, -, id, hid, rfl⟩ := exists_done_of_standsFor ((hd.identifiers k).symm.trans hk)
  exact ⟨usable_spelling_iff.2 (usable_of_mem_done hc hid), spelling_spelling id⟩

end Describes

/-- The providers that a journal knows of are those that it says were made. -/
theorem exists_provider?_iff :
    (∃ p, j.provider? type = some p) ↔ ∃ p, Entry.ended type (.ok p) ∈ j := by
  rw [← Option.isSome_iff_exists, provider?, List.findSome?_isSome_iff]
  constructor
  · rintro ⟨e, he, hmade⟩
    cases e with
    | ended t result =>
        cases result with
        | error failure => cases hmade
        | ok p =>
            by_cases ht : t = type
            · exact ⟨p, ht ▸ he⟩
            · simp [Entry.made?, ht] at hmade
    | _ => cases hmade
  · rintro ⟨p, hp⟩
    exact ⟨_, hp, by simp [Entry.made?]⟩

/-! ## One story -/

/-- Whether the queries of a registry agree with one another and with a journal. -/
structure OneStory (j : Journal) (reg : Registry) : Prop where
  ascending : ∀ type extensions, (reg.listIdentifiers type extensions).Pairwise (· < ·)
  /-- Listings hold the keys that are registered, their own keys, and asked for. -/
  listed : ∀ type extensions k, k ∈ reg.listIdentifiers type extensions ↔
    (key k = .ok k ∧ reg.isRegistered k = true) ∧
      (∀ wanted, type = some wanted → reg.typeNameOf? k = some wanted) ∧
      (extensions = true → k.toList.head? = some '.')
  registered_iff_named : ∀ x, reg.isRegistered x = true ↔ ∃ type, reg.typeNameOf? x = some type
  registered_iff_listed : ∀ x, reg.isRegistered x = true ↔
    ∃ k, key x = .ok k ∧ k ∈ reg.listIdentifiers none false
  registered_iff_done : ∀ x, reg.isRegistered x = true ↔
    ∃ c ∈ j.done, ∃ id ∈ c.ids, Usable x ∧ spelling id = spelling x
  loaded_iff_made : ∀ x, reg.isLoaded x = true ↔
    ∃ type, reg.typeNameOf? x = some type ∧ ∃ p, Entry.ended type (.ok p) ∈ j

theorem isRegistered_iff {reg : Registry} {x : String} : reg.isRegistered x = true ↔
    ∃ type, Usable x ∧ reg.identifiers.get? (spelling x) = some type := by
  simp only [Registry.isRegistered, Option.isSome_iff_exists, typeNameOf?_eq_some_iff]

theorem mem_listIdentifiers_iff_listed (hd : j.Describes reg) (type : Option String)
    (extensions : Bool) (k : String) : k ∈ reg.listIdentifiers type extensions ↔
    (key k = .ok k ∧ reg.isRegistered k = true) ∧
      (∀ wanted, type = some wanted → reg.typeNameOf? k = some wanted) ∧
      (extensions = true → k.toList.head? = some '.') := by
  rw [Registry.listIdentifiers, Registry.mem_listing, isRegistered_iff, key_eq_ok_iff]
  constructor
  · rintro ⟨t, hget, hextension, hwanted⟩
    obtain ⟨husable, hspelling⟩ := hd.exists_of_get? hget
    have hself : reg.identifiers.get? (spelling k) = some t := by rw [hspelling, hget]
    refine ⟨⟨⟨husable, hspelling⟩, t, husable, hself⟩, fun wanted hw => ?_, fun he => ?_⟩
    · rw [typeNameOf?_eq_some_iff, hself, hwanted wanted hw]
      exact ⟨husable, rfl⟩
    · simpa [Registry.isExtensionKey] using hextension he
  · rintro ⟨⟨⟨husable, hspelling⟩, t, -, hget⟩, hwanted, hextension⟩
    rw [hspelling] at hget
    refine ⟨t, hget, fun he => by simpa [Registry.isExtensionKey] using hextension he,
      fun wanted hw => ?_⟩
    have hnamed := (typeNameOf?_eq_some_iff.1 (hwanted wanted hw)).2
    rw [hspelling, hget] at hnamed
    exact Option.some.inj hnamed

theorem Describes.oneStory (hd : j.Describes reg) (hj : j.Lawful) : j.OneStory reg where
  ascending := Registry.pairwise_listing reg.identifiers
  listed := mem_listIdentifiers_iff_listed hd
  registered_iff_named x := by rw [Registry.isRegistered, Option.isSome_iff_exists]
  registered_iff_listed x := by
    rw [isRegistered_iff]
    simp only [Registry.listIdentifiers, Registry.mem_listing, key_eq_ok_iff]
    constructor
    · rintro ⟨t, husable, hget⟩
      exact ⟨_, ⟨husable, rfl⟩, t, hget, by simp, by simp⟩
    · rintro ⟨_, ⟨husable, rfl⟩, t, hget, -, -⟩
      exact ⟨t, husable, hget⟩
  registered_iff_done x := by
    rw [isRegistered_iff]
    constructor
    · rintro ⟨t, husable, hget⟩
      obtain ⟨c, hc, -, id, hid, hspelling⟩ :=
        exists_done_of_standsFor ((hd.identifiers _).symm.trans hget)
      exact ⟨c, hc, id, hid, husable, hspelling⟩
    · rintro ⟨c, hc, id, hid, husable, hspelling⟩
      obtain ⟨t, ht⟩ := exists_standsFor_of_done hc hid
      exact ⟨t, husable, by rw [hd.identifiers, ← hspelling, ht]⟩
  loaded_iff_made x := by
    have hloaded := (hd.shows hj).loaded?
    simp only [Registry.isLoaded, Option.isSome_iff_exists, Option.bind_eq_some_iff, hloaded,
      ← exists_provider?_iff]
    constructor
    · rintro ⟨p, t, ht, hp⟩
      exact ⟨t, ht, p, hp⟩
    · rintro ⟨t, ht, p, hp⟩
      exact ⟨p, t, ht, hp⟩

end Journal

/-- **One story.**  Consider a session that begins with an empty registry.

* The queries of the registry after the session agree with one another and with the journal of
  the session, and so do those of every registry that a registration finds on the way, also while
  factories are at work.
* What is listed is registered, is its own key, and is found by every query.
* A lookup finds nothing exactly under an identifier that says something and is not registered.
* It ends with an argument error exactly when the identifier says nothing, and the error names
  this identifier. -/
theorem queries_agree {h : Host} {r : RegistryId} {resolver : Option ResolverId}
    (hempty : h.registries.get? r.index = some (.empty resolver)) (steps : List (Step r)) :
    (h.log steps).OneStory ((h.serve steps).registry r) ∧
    (∀ (before : Journal) c found after, h.log steps = before ++ .registered c found :: after →
      before.OneStory found) ∧
    (∀ type extensions, ∀ k ∈ ((h.serve steps).registry r).listIdentifiers type extensions,
      key k = .ok k ∧ ((h.serve steps).registry r).isRegistered k = true ∧
        (∃ t, ((h.serve steps).registry r).typeNameOf? k = some t ∧
          Reaches (h.serve steps) r k t) ∧
        ((h.serve steps).tryResolve r k).1 ≠ .ok none) ∧
    (∀ x, ((h.serve steps).tryResolve r x).1 = .ok none ↔
      Usable x ∧ ((h.serve steps).registry r).isRegistered x = false) ∧
    ∀ x e, ((h.serve steps).tryResolve r x).1 = .error (.argument e) ↔
      (Text.trim x = "" ∨ Text.trim x = ".") ∧ e = .invalidIdentifier x := by
  have ht := told_serve hempty steps
  have hstory := ht.describes.oneStory ht.lawful
  have hnone : ∀ x, ((h.serve steps).tryResolve r x).1 = .ok none ↔
      Usable x ∧ ((h.serve steps).registry r).isRegistered x = false := by
    intro x
    rw [tryResolve_eq_none_iff, Registry.isRegistered, Option.isSome_eq_false_iff,
      Option.isNone_iff_eq_none]
  refine ⟨hstory, fun before c found after hsplit => ?_, fun type extensions k hk => ?_, hnone,
    fun x e => ?_⟩
  · have hd : before.Describes found := ht.lawful before _ after hsplit
    have hj : before.Lawful := Journal.Lawful.of_append (hsplit ▸ ht.lawful)
    exact hd.oneStory hj
  · obtain ⟨⟨hkey, hregistered⟩, -, -⟩ := (hstory.listed type extensions k).1 hk
    obtain ⟨t, hnamed⟩ := (hstory.registered_iff_named k).1 hregistered
    refine ⟨hkey, hregistered, ⟨t, hnamed, reaches_of_typeNameOf? hnamed⟩, fun hno => ?_⟩
    rw [((hnone k).1 hno).2] at hregistered
    cases hregistered
  · rw [tryResolve_eq_argument_iff, Usable, ← not_or, Decidable.not_not]

/-- One implementation that is looked up and one that is not, under names and extensions. -/
def loadedAndNot : List (Step ⟨0⟩) :=
  [.ask (.register ⟨.resolved ⟨"first", 0, 0, [], .tally⟩, false, [" Ink", ".INK"]⟩),
    .ask (.register ⟨.deferred "there" "second", false, ["pen"]⟩), .ask (.resolve "ink")]

theorem queries_agree_loadedAndNot :
    let h := (Host.empty.addRegistry none).2.serve loadedAndNot
    ".ink" ∈ (h.registry ⟨0⟩).listIdentifiers (some "first") true ∧
      (∃ p, Entry.ended "first" (.ok p) ∈ (Host.empty.addRegistry none).2.log loadedAndNot) ∧
      (h.tryResolve ⟨0⟩ "ink ").1 ≠ .ok none ∧ (h.tryResolve ⟨0⟩ ".pen").1 = .ok none ∧
      (h.tryResolve ⟨0⟩ " . ").1 = .error (.argument (.invalidIdentifier " . ")) := by
  have hempty : (Host.empty.addRegistry none).2.registries.get? 0 = some (.empty none) := rfl
  obtain ⟨hstory, -, -, hnone, hargument⟩ := queries_agree (r := ⟨0⟩) hempty loadedAndNot
  refine ⟨(hstory.listed _ _ _).2 ?_, ?_, fun h => ?_, (hnone _).2 ?_, (hargument _ _).2 ?_⟩
  · refine ⟨⟨by decide +kernel, by decide +kernel⟩, fun wanted hw => ?_, by decide +kernel⟩
    cases hw
    decide +kernel
  · obtain ⟨type, hnamed, hmade⟩ := (hstory.loaded_iff_made ".Ink").1 (by decide +kernel)
    obtain rfl : "first" = type := Option.some.inj (Eq.trans (by decide +kernel) hnamed)
    exact hmade
  · have hregistered : (Host.registry ((Host.empty.addRegistry none).2.serve loadedAndNot)
        ⟨0⟩).isRegistered "ink " = true := by decide +kernel
    rw [((hnone _).1 h).2] at hregistered
    cases hregistered
  · decide +kernel
  · decide +kernel

end Host

end Polyglot
