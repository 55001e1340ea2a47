import Polyglot.Proofs.Host.Answers
import Polyglot.Proofs.Host.Configured
import Polyglot.Proofs.Host.Loading

/-!
# Polyglot.Proofs.Host.Located

Where configured languages are loaded from.  A configured language is registered with a location,
and nothing is loaded.  The first lookup that reaches its implementation asks the table of factories
of the configuration:

```
nothing under location and type name   no such implementation, and nothing changes
a factory there                        the factory that was put there last is asked
```

There is one implementation for each type name, and it keeps the locator of its first registration.
So of several configured languages with one type name the first gives the location for all of them
(`configured_location`), and another location that a later one names is not used.
-/

namespace Polyglot

open Polyglot.Language

/-! ## Tables of factories -/

namespace Language.Resolver

/-- A table in which factories were put, each under a location. -/
def filled (inserted : List (String × Factory)) : Resolver :=
  inserted.foldl (fun t e => t.insert e.1 e.2) .empty

/-- The factory that was put in a table last under a location, of those with a type name. -/
def lastUnder (inserted : List (String × Factory)) (location type : String) : Option Factory :=
  (inserted.reverse.find? fun e => e.1 = location ∧ e.2.typeName = type).map Prod.snd

/-- A table finds the factory that was put there last. -/
theorem locate_filled (inserted : List (String × Factory)) (location type : String) :
    (filled inserted).locate location type = lastUnder inserted location type := by
  induction inserted using List.reverseRecOn with
  | nil => rfl
  | append_singleton front e ih =>
      rw [filled, List.foldl_append, List.foldl_cons, List.foldl_nil, ← filled, lastUnder,
        List.reverse_append, List.reverse_singleton, List.singleton_append, List.find?_cons, locate,
        insert, Dict.get?_insert]
      by_cases he : e.1 = location ∧ e.2.typeName = type
      · rw [if_pos (by rw [he.1, he.2]), decide_eq_true he]
        rfl
      · rw [if_neg fun heq => he ⟨(Prod.mk.inj heq).1.symm, (Prod.mk.inj heq).2.symm⟩,
          decide_eq_false he]
        exact ih

end Language.Resolver

namespace Host

variable {h h' : Host} {r : RegistryId} {type : String}

/-! ## The table of a registry -/

/-- Whether every registry looks for implementations where it did before. -/
def SameResolvers (h h' : Host) : Prop := ∀ r, (h'.registry r).resolver = (h.registry r).resolver

theorem sameResolvers_of_registries (heq : h'.registries = h.registries) : SameResolvers h h' :=
  fun r => by rw [registry, heq, registry]

theorem sameResolvers_setRegistry {new : Registry} (hnew : new.resolver = (h.registry r).resolver) :
    SameResolvers h (h.setRegistry r new) := by
  intro s
  by_cases hs : r.index = s.index
  · obtain rfl : r = s := by cases r; cases s; simp_all
    cases hget : h.registries.get? r.index with
    | none => rw [registry, setRegistry, Heap.get?_modify_self, hget, registry, hget]; rfl
    | some reg => rw [registry_of_get? (get?_setRegistry hget new), hnew]
  · rw [registry, setRegistry, Heap.get?_modify_of_ne _ _ hs, registry]

theorem sameResolvers_of_register {l : Locator} {override : Bool} {ids : List String}
    (hr : h.register r l override ids = .ok h') : SameResolvers h h' := by
  rw [register] at hr
  cases hreg : (h.registry r).register l override ids with
  | error e =>
      rw [hreg] at hr
      cases hr
  | ok new =>
      rw [hreg] at hr
      obtain rfl := Except.ok.inj hr
      obtain ⟨rfl, -⟩ := Registry.of_register_eq_ok hreg
      exact sameResolvers_setRegistry rfl

/-- Whatever happens during a lookup, registries look for implementations where they did. -/
theorem steady_sameResolvers : Steady SameResolvers where
  refl h r := rfl
  trans hsame hsame' r := (hsame' r).trans (hsame r)
  registers := sameResolvers_of_register
  counts h f place := by
    cases place with
    | registered r type =>
        simp only [countCall]
        split
        · exact fun _ => rfl
        · exact sameResolvers_setRegistry rfl
    | located t location type => exact sameResolvers_of_registries rfl
    | loose => exact fun _ => rfl
  records h type := sameResolvers_of_registries rfl
  notes h r type state := by
    simp only [setLoading]
    split
    · exact fun _ => rfl
    · exact sameResolvers_setRegistry rfl
  produces h p := by
    cases p with
    | shared label name quiet =>
        simp only [produce]
        split <;> exact sameResolvers_of_registries rfl
    | _ => exact sameResolvers_of_registries rfl

theorem Request.resolver_effect (q : Request) (h : Host) :
    ((q.effect r h).registry r).resolver = (h.registry r).resolver := by
  cases q with
  | register c =>
      rw [effect]
      cases hreg : h.register r c.locator c.override c.ids with
      | error e => rfl
      | ok h' => exact sameResolvers_of_register hreg r
  | resolve id => exact steady_sameResolvers.resolve h r id r
  | tryResolve id => exact steady_sameResolvers.tryResolve h r id r
  | resolveByExtension extension => exact steady_sameResolvers.resolveByExtension h r extension r
  | resolveByType type => exact steady_sameResolvers.resolveByType h r type r

/-- A registry looks for implementations in one table, whatever is asked of it. -/
theorem resolver_serve (h : Host) (steps : List (Step r)) :
    ((h.serve steps).registry r).resolver = (h.registry r).resolver := by
  induction steps generalizing h with
  | nil => rfl
  | cons s steps ih =>
      rw [serve, ih]
      cases s with
      | ask q => exact q.resolver_effect h
      | elsewhere f apart => rw [Step.effect, registry, apart, ← registry]

/-! ## Asking a table -/

/-- What becomes of a lookup of an implementation when a table is asked for it at a location: the
answer and the state afterwards.  The lookups of the factory that is found there are nested in this
one. -/
def asked (h : Host) (r : RegistryId) (type : String) (t : ResolverId) (location : String) :
    Option Factory → Except RegistryError ProviderId × Host
  | none => (.error (.missingImplementation type location), h)
  | some f =>
    match construct (lookUpAt r (h.depthBound r - 1)) (some r) (h.setLoading r type .building) f
        (.located t location type) with
    | (.error e, h) =>
      (.error (.invalidImplementation type e.reason), h.setLoading r type .absent)
    | (.ok p, h) => (.ok p, h.setLoading r type (.loaded p))

/-- An implementation that is not loaded is looked for at its location. -/
theorem resolveByType_eq_asked {location : String} {t : ResolverId}
    (hi : (h.registry r).implementations.get? type =
      some { locator := .deferred location type, loading := .absent })
    (ht : (h.registry r).resolver = some t) :
    h.resolveByType r type = h.asked r type t location ((h.resolver t).locate location type) := by
  obtain ⟨depth, hdepth⟩ := depthBound_eq_succ h r
  rw [resolveByType, hdepth, instanceOf_succ, hi]
  simp only [load, locate, ht]
  cases (h.resolver t).locate location type with
  | none => rfl
  | some f =>
      rw [asked, hdepth, Nat.add_sub_cancel]
      rfl

/-! ## After a configuration -/

theorem loaded?_registered (reg : Registry) (l : Locator) (ids : List String) (type : String) :
    (reg.registered l ids).loaded? type = reg.loaded? type := by
  rw [Registry.loaded?, Registry.get?_implementations_registered, Registry.loaded?]
  split
  · next hnew =>
      rw [hnew.2]
      rfl
  · rfl

/-- Registering loads nothing, and a registry keeps its table.  Induction on the registrations. -/
theorem keeps_of_outcomes {cs : List Registration} {reg reg' : Registry}
    (hok : Registration.outcomes cs reg = .ok reg') :
    reg'.resolver = reg.resolver ∧ ∀ type, reg'.loaded? type = reg.loaded? type := by
  induction cs generalizing reg with
  | nil =>
      obtain rfl : reg = reg' := Except.ok.inj hok
      exact ⟨rfl, fun _ => rfl⟩
  | cons c cs ih =>
      obtain ⟨mid, hc, hcs⟩ := Registration.exists_of_outcomes_cons hok
      obtain ⟨rfl, -⟩ := Registry.of_register_eq_ok hc
      obtain ⟨hresolver, hloaded⟩ := ih hcs
      exact ⟨hresolver, fun type => (hloaded type).trans (loaded?_registered _ _ _ type)⟩

variable {c : Config} {resolver : ResolverId} {listener : Listener} {made : Embedding × Host}
variable {l first : LanguageSetup}

/-- The first of the languages with a type name. -/
def firstOfType (ls : List LanguageSetup) (type : String) : Option LanguageSetup :=
  ls.find? fun l => l.typeName = type

theorem exists_firstOfType {ls : List LanguageSetup} (hl : l ∈ ls) :
    ∃ first, firstOfType ls l.typeName = some first := by
  rw [← Option.isSome_iff_exists, firstOfType, List.find?_isSome]
  exact ⟨l, hl, decide_eq_true rfl⟩

/-- A language is loaded from its own location if no earlier one of its type name gives another. -/
theorem location_of_firstOfType {front back : List LanguageSetup}
    (hfirst : firstOfType (front ++ l :: back) l.typeName = some first)
    (hown : ∀ l' ∈ front, l'.typeName = l.typeName → l'.location = l.location) :
    first.location = l.location := by
  rw [firstOfType, List.find?_append, List.find?_cons, decide_eq_true rfl] at hfirst
  cases hfront : front.find? fun l' => l'.typeName = l.typeName with
  | none =>
      rw [hfront] at hfirst
      rw [Option.some.inj hfirst]
  | some l' =>
      rw [hfront] at hfirst
      obtain rfl : l' = first := Option.some.inj hfirst
      exact hown l' (List.mem_of_find?_eq_some hfront) (by simpa using List.find?_some hfront)

section Made

variable (hmade : Embedding.ofConfig h c resolver listener = .ok made)
include hmade

theorem outcomes_of_ofConfig :
    Registration.outcomes (c.languages.map LanguageSetup.registration) (.empty (some resolver)) =
      .ok (made.2.registry made.1.registry) := by
  rw [← registry_ofConfig h c resolver listener, hmade]
  rfl

/-- An identifier of a configured language stands for it, and nothing is loaded. -/
theorem unloaded_ofConfig (hl : l ∈ c.languages) {id : String} (hid : id ∈ l.identifiers) :
    (made.2.registry made.1.registry).typeNameOf? id = some l.typeName ∧
      (made.2.registry made.1.registry).isLoaded id = false := by
  have hok := outcomes_of_ofConfig hmade
  obtain ⟨hcompatible, hleaves⟩ :=
    Registration.of_outcomes_eq_ok LanguageSetup.override_registration hok
  have hmem := List.mem_map_of_mem (f := LanguageSetup.registration) hl
  have hid' : (made.2.registry made.1.registry).typeNameOf? id = some l.typeName :=
    typeNameOf?_eq_some_iff.2 ⟨(hcompatible.admissible _ hmem id hid).1,
      (hleaves.identifiers _ _).2 (.inr ⟨_, hmem, List.mem_map_of_mem hid, rfl⟩)⟩
  refine ⟨hid', ?_⟩
  rw [Registry.isLoaded, hid', Option.bind_some, (keeps_of_outcomes hok).2]
  rfl

/-- Whatever is asked afterwards, an implementation that is not loaded is known by the locator of
the first language of its type name. -/
theorem implementation_ofConfig (steps : List (Step made.1.registry))
    (hfirst : firstOfType c.languages type = some first)
    (hunloaded : ((made.2.serve steps).registry made.1.registry).loaded? type = none) :
    ((made.2.serve steps).registry made.1.registry).implementations.get? type =
      some { locator := .deferred first.location type, loading := .absent } := by
  obtain ⟨j, hdone, ht⟩ := told_ofConfig hmade steps
  obtain rfl : first.typeName = type := by simpa using List.find?_some hfirst
  have hlocator : (j ++ made.2.log steps).locator? first.typeName =
      some (.deferred first.location first.typeName) := by
    have hmine : (j.done.find? fun c => c.locator.typeName = first.typeName) =
        some first.registration := by
      rw [hdone, List.find?_map]
      exact congrArg _ hfirst
    rw [Journal.locator?, Journal.done, List.filterMap_append, List.find?_append, ← Journal.done,
      hmine]
    rfl
  have hknown : first.typeName ∈ (j ++ made.2.log steps).types :=
    Journal.mem_types_iff.2 ⟨_, hlocator⟩
  obtain ⟨⟨l, loading⟩, hi⟩ := ht.describes.exists_implementation hknown
  obtain ⟨⟨l', n, hl', rfl⟩, -⟩ := ht.describes.implementation _ _ hi
  obtain rfl := Option.some.inj (hl'.symm.trans hlocator)
  obtain rfl : loading = .absent := ht.absent_of_unloaded hi hunloaded
  exact hi

end Made

/-- **Locations.**  Every language of an accepted configuration has a first one with its type name.
The location of the first one is its own, unless an earlier one of its type name gives another.

* Right after the configuration each of its identifiers stands for its type name, and nothing is
  loaded.
* Whatever is asked of the registry afterwards, and whatever happens elsewhere, as long as the
  language is not loaded, a lookup by an identifier that stands for it asks the table of the
  configuration for the location of the first one.  Of the factories in the table the one counts
  that was put there last, and if there is none, the implementation is missing at that location
  (`asked`). -/
theorem configured_location (hmade : Embedding.ofConfig h c resolver listener = .ok made)
    (hl : l ∈ c.languages) :
    ∃ first, firstOfType c.languages l.typeName = some first ∧
      (∀ front back, c.languages = front ++ l :: back →
        (∀ l' ∈ front, l'.typeName = l.typeName → l'.location = l.location) →
          first.location = l.location) ∧
      (∀ id ∈ l.identifiers,
        (made.2.registry made.1.registry).typeNameOf? id = some l.typeName ∧
          (made.2.registry made.1.registry).isLoaded id = false) ∧
      ∀ (steps : List (Step made.1.registry)) (id : String),
        let now := made.2.serve steps
        (now.registry made.1.registry).typeNameOf? id = some l.typeName →
        (now.registry made.1.registry).isLoaded id = false →
        Reaches now made.1.registry id l.typeName ∧
          ∀ inserted, now.resolver resolver = .filled inserted →
            now.resolveByType made.1.registry l.typeName =
              now.asked made.1.registry l.typeName resolver first.location
                (Resolver.lastUnder inserted first.location l.typeName) := by
  obtain ⟨first, hfirst⟩ := exists_firstOfType hl
  refine ⟨first, hfirst, fun front back hsplit => location_of_firstOfType (hsplit ▸ hfirst),
    fun id hid => unloaded_ofConfig hmade hl hid, ?_⟩
  intro steps id now hid hunloaded
  refine ⟨reaches_of_typeNameOf? hid, fun inserted htable => ?_⟩
  have hresolver : (now.registry made.1.registry).resolver = some resolver := by
    rw [resolver_serve, (keeps_of_outcomes (outcomes_of_ofConfig hmade)).1]
    rfl
  rw [Registry.isLoaded, hid, Option.bind_some, Option.isSome_eq_false_iff,
    Option.isNone_iff_eq_none] at hunloaded
  rw [resolveByType_eq_asked (implementation_ofConfig hmade steps hfirst hunloaded) hresolver,
    htable, Resolver.locate_filled]

/-- One type name at two locations. -/
def twoPlaces : List LanguageSetup := [⟨"T", "here", ["x"], []⟩, ⟨"T", "there", ["y"], []⟩]

/-- A factory at each of the two locations. -/
def placed : List (String × Factory) :=
  ["here", "there"].map fun location => (location, ⟨"T", 0, 0, [], .script location false⟩)

/-- A host with a table of these factories. -/
def withPlaced : Host :=
  placed.foldl (fun h e => h.insertFactory ⟨0⟩ e.1 e.2) Host.empty.addResolver.2

theorem exists_ofConfig_twoPlaces :
    ∃ made, Embedding.ofConfig withPlaced { languages := twoPlaces } ⟨0⟩ .silent = .ok made := by
  rw [exists_ofConfig_iff, compatible_empty_iff]
  decide +kernel

theorem configured_location_twoPlaces :
    ∃ made, Embedding.ofConfig withPlaced { languages := twoPlaces } ⟨0⟩ .silent = .ok made ∧
      Reaches made.2 made.1.registry "y" "T" ∧
      made.2.resolveByType made.1.registry "T" = made.2.asked made.1.registry "T" ⟨0⟩ "here"
        (Resolver.lastUnder placed "here" "T") := by
  obtain ⟨made, hmade⟩ := exists_ofConfig_twoPlaces
  have htable : (Embedding.ofConfig withPlaced { languages := twoPlaces } ⟨0⟩ .silent).map
      (fun made => made.2.resolver ⟨0⟩) = .ok (.filled placed) := rfl
  rw [hmade] at htable
  obtain ⟨first, hfirst, -, hbefore, hafter⟩ := configured_location hmade
    (l := ⟨"T", "there", ["y"], []⟩) (by decide)
  obtain rfl : ⟨"T", "here", ["x"], []⟩ = first := Option.some.inj hfirst
  obtain ⟨hy, hunloaded⟩ := hbefore "y" (by decide)
  obtain ⟨hreaches, hasked⟩ := hafter [] "y" hy hunloaded
  exact ⟨made, hmade, hreaches, hasked placed (Except.ok.inj htable)⟩

/-- The second language is not loaded from its own location. -/
theorem configured_location_otherPlace :
    ∃ made, Embedding.ofConfig withPlaced { languages := twoPlaces } ⟨0⟩ .silent = .ok made ∧
      ¬ ∀ l ∈ twoPlaces, ∀ id ∈ l.identifiers,
        made.2.resolve made.1.registry id = made.2.asked made.1.registry l.typeName ⟨0⟩ l.location
          (Resolver.lastUnder placed l.location l.typeName) := by
  obtain ⟨made, hmade⟩ := exists_ofConfig_twoPlaces
  refine ⟨made, hmade, fun hown => ?_⟩
  have hsame := hown ⟨"T", "there", ["y"], []⟩ (by decide) "y" (by decide)
  let loaded (after : Except RegistryError ProviderId × Host) := (after.2.provider ⟨0⟩).name
  have hnames : (Embedding.ofConfig withPlaced { languages := twoPlaces } ⟨0⟩ .silent).map
      (fun made => (loaded (made.2.resolve made.1.registry "y"),
        loaded (made.2.asked made.1.registry "T" ⟨0⟩ "there"
          (Resolver.lastUnder placed "there" "T")))) = .ok ("here", "there") :=
    rfl
  rw [hmade] at hnames
  obtain ⟨hloaded, hplaced⟩ := Prod.mk.inj (Except.ok.inj hnames)
  exact absurd (hloaded.symm.trans ((congrArg loaded hsame).trans hplaced)) (by decide)

end Host

end Polyglot
