import Mathlib.Data.List.Induction
import Polyglot.Host.Loading
import Polyglot.Proofs.Language.Names
import Polyglot.Proofs.Language.Registration

/-!
# Polyglot.Proofs.Host.Journal

Journals of a registry.  A journal lists what happened in one registry, oldest first, also while
factories were at work:

```
registered    a registration was asked for, and perhaps refused
sought        an identifier was looked up
started       the factory of an implementation began to make its provider
missed        there was no factory where an implementation was looked for
ended         the factory made a provider, or failed
answered      a lookup of an implementation was answered
```

A journal says by itself what identifiers stand for (`standsFor`), which implementations are known
(`types`), which have a provider (`provider?`) and which wait for their factory (`waiting`).  What
it does not know is the table in which a registry looks for factories, which others may change; so
the table is kept as it was found.  A journal is lawful when every entry is right after the entries
before it, and a factory is the one to which the first locator of its implementation leads
(`LeadsTo`).  In a lawful journal a factory
that made a provider was the last one to be asked for its type, and every later lookup of the type
is answered with that provider (`Lawful.of_made`).
-/

namespace Polyglot

open Polyglot.Language

/-- What a registration asks for. -/
structure Registration where
  locator : Locator
  override : Bool
  ids : List String

/-- What comes of a registration in a registry. -/
def Registration.outcome (c : Registration) (reg : Registry) : Except RegistryError Registry :=
  reg.register c.locator c.override c.ids

namespace Host

/-- Something that happened in a registry. -/
inductive Entry where
  /-- A registration was asked for, and found the registry so. -/
  | registered (c : Registration) (found : Registry)
  /-- An identifier was looked up, which stood for a type name or for nothing. -/
  | sought (id : String) (type : Option String)
  /-- A factory was asked for the provider of an implementation, at a time when the registry had
  this table to look in. -/
  | started (type : String) (table : Option Resolver) (f : Factory)
  /-- No factory was found for an implementation, with this table to look in. -/
  | missed (type : String) (table : Option Resolver)
  /-- The factory ended. -/
  | ended (type : String) (result : Except ConstructionFailure ProviderId)
  /-- A lookup of an implementation was answered. -/
  | answered (type : String) (result : Except RegistryError ProviderId)

/-- What happened in a registry, oldest first. -/
abbrev Journal := List Entry

namespace Entry

/-- The registration that was done. -/
def done? : Entry → Option Registration
  | registered c found =>
    match c.outcome found with
    | .error _ => none
    | .ok _ => some c
  | _ => none

/-- The provider that was made for an implementation. -/
def made? (type : String) : Entry → Option ProviderId
  | ended t (.ok p) => if t = type then some p else none
  | _ => none

/-- The call that the library made into a factory. -/
def asked? : Entry → Option Event
  | started _ _ f => some (.construct f.typeName)
  | _ => none

/-- The types that wait for their factories, the one that waits for the shortest time first. -/
def waiting (types : List String) : Entry → List String
  | started type _ _ => type :: types
  | ended _ _ => types.tail
  | _ => types

end Entry

namespace Journal

/-- The registrations that were done. -/
def done (j : Journal) : List Registration := j.filterMap Entry.done?

/-- The type name that a spelling stands for: that of the latest registration under it. -/
def standsFor (j : Journal) (k : String) : Option String :=
  (j.done.reverse.find? fun c => k ∈ c.ids.map spelling).map fun c => c.locator.typeName

/-- The type names of the implementations, in the order of their first registrations. -/
def types (j : Journal) : List String := (j.done.map fun c => c.locator.typeName).eraseDups

/-- The locator with which an implementation was registered first. -/
def locator? (j : Journal) (type : String) : Option Locator :=
  (j.done.find? fun c => c.locator.typeName = type).map Registration.locator

/-- The provider of an implementation. -/
def provider? (j : Journal) (type : String) : Option ProviderId := j.findSome? (Entry.made? type)

/-- The types that wait for their factories, the one that waits for the shortest time first. -/
def waiting (j : Journal) : List String := j.foldl Entry.waiting []

/-- The calls that the library made into factories. -/
def asked (j : Journal) : List Event := j.filterMap Entry.asked?

/-- How far the loading of an implementation has come. -/
def loading (j : Journal) (type : String) : Loading :=
  match j.provider? type with
  | some p => .loaded p
  | none => if type ∈ j.waiting then .building else .absent

theorem loading_eq_absent_iff {j : Journal} {type : String} :
    j.loading type = .absent ↔ j.provider? type = none ∧ type ∉ j.waiting := by
  rw [loading]
  cases j.provider? type <;> by_cases hw : type ∈ j.waiting <;> simp [hw]

theorem loading_eq_building_iff {j : Journal} {type : String} :
    j.loading type = .building ↔ j.provider? type = none ∧ type ∈ j.waiting := by
  rw [loading]
  cases j.provider? type <;> by_cases hw : type ∈ j.waiting <;> simp [hw]

theorem loading_eq_loaded_iff {j : Journal} {type : String} {p : ProviderId} :
    j.loading type = .loaded p ↔ j.provider? type = some p := by
  rw [loading]
  cases j.provider? type <;> by_cases hw : type ∈ j.waiting <;> simp [hw]

/-! ## Journals with one more entry -/

section Concat

variable (j : Journal) (e : Entry)

theorem asked_append (j k : Journal) : asked (j ++ k) = j.asked ++ k.asked :=
  List.filterMap_append

theorem done_concat : done (j ++ [e]) = j.done ++ e.done?.toList := by
  cases h : e.done? <;> simp [done, h]

theorem provider?_concat (type : String) :
    provider? (j ++ [e]) type = (j.provider? type).or (e.made? type) := by
  simp [provider?, List.findSome?_append]

@[simp] theorem waiting_concat : waiting (j ++ [e]) = e.waiting j.waiting := by
  simp [waiting]

variable {j e}

theorem done_concat_of_none (he : e.done? = none) : done (j ++ [e]) = j.done := by
  rw [done_concat, he, Option.toList_none, List.append_nil]

theorem standsFor_congr {j' : Journal} (h : j'.done = j.done) : j'.standsFor = j.standsFor := by
  funext k
  rw [standsFor, h, standsFor]

theorem types_congr {j' : Journal} (h : j'.done = j.done) : j'.types = j.types := by
  rw [types, h, types]

theorem locator?_congr {j' : Journal} (h : j'.done = j.done) : j'.locator? = j.locator? := by
  funext type
  rw [locator?, h, locator?]

variable {c : Registration}

theorem standsFor_concat (he : e.done? = some c) (k : String) :
    standsFor (j ++ [e]) k =
      if k ∈ c.ids.map spelling then some c.locator.typeName else j.standsFor k := by
  have hdone : (done (j ++ [e])).reverse = c :: j.done.reverse := by
    rw [done_concat, he, List.reverse_append]
    rfl
  rw [standsFor, hdone, List.find?_cons, standsFor]
  by_cases hk : k ∈ c.ids.map spelling
  · rw [decide_eq_true hk, if_pos hk, Option.map_some]
  · rw [decide_eq_false hk, if_neg hk]

theorem types_concat (he : e.done? = some c) : types (j ++ [e]) =
    if c.locator.typeName ∈ j.types then j.types else j.types ++ [c.locator.typeName] := by
  have hdone : done (j ++ [e]) = j.done ++ [c] := by
    rw [done_concat, he, Option.toList_some]
  rw [types, hdone, List.map_append, List.eraseDups_append, ← types, List.map_singleton,
    List.removeAll, List.filter_cons, List.filter_nil, List.elem_eq_mem]
  by_cases hmem : c.locator.typeName ∈ j.types
  · rw [if_pos hmem, decide_eq_true (List.mem_eraseDups.1 hmem)]
    exact List.append_nil _
  · rw [if_neg hmem, decide_eq_false fun h => hmem (List.mem_eraseDups.2 h)]
    rfl

theorem locator?_concat (he : e.done? = some c) (type : String) :
    locator? (j ++ [e]) type =
      (j.locator? type).or (if c.locator.typeName = type then some c.locator else none) := by
  rw [locator?, done_concat, he, List.find?_append, locator?]
  cases hfind : j.done.find? fun c => c.locator.typeName = type with
  | some found => simp
  | none => by_cases htype : c.locator.typeName = type <;> simp [htype]

end Concat

theorem mem_types_iff {j : Journal} {type : String} :
    type ∈ j.types ↔ ∃ l, j.locator? type = some l := by
  rw [types, List.mem_eraseDups, ← Option.isSome_iff_exists, locator?, Option.isSome_map,
    List.find?_isSome]
  simp

theorem locator?_of_unknown {j : Journal} {type : String} (hunknown : type ∉ j.types) :
    j.locator? type = none :=
  Option.eq_none_iff_forall_ne_some.2 fun l hl => hunknown (mem_types_iff.2 ⟨l, hl⟩)

theorem typeName_of_locator? {j : Journal} {type : String} {l : Locator}
    (hl : j.locator? type = some l) : l.typeName = type := by
  obtain ⟨c, hc, rfl⟩ := Option.map_eq_some_iff.1 hl
  simpa using List.find?_some hc

/-! ## Journals that describe a registry -/

/-- Whether a registry is as a journal says. -/
structure Describes (j : Journal) (reg : Registry) : Prop where
  identifiers : ∀ k, reg.identifiers.get? k = j.standsFor k
  types : reg.implementations.keys = j.types
  /-- Implementations have their first locator, and are as far as the journal says. -/
  implementation : ∀ type i, reg.implementations.get? type = some i →
    (∃ l n, j.locator? type = some l ∧ i.locator = l.recounted n) ∧ i.loading = j.loading type

end Journal

/-! ## Lawful journals -/

/-- Whether a locator leads to a factory, for a registry that looks in a table if it has one.  A
factory that comes with its locator may have been asked before; otherwise it is the one that the
table has under the location and the type name. -/
def LeadsTo (table : Option Resolver) : Locator → Factory → Prop
  | .resolved f₀, f => ∃ n, f = { f₀ with calls := n }
  | .deferred location type, f => ∃ t, table = some t ∧ t.table.get? (location, type) = some f

/-- Whether there is no factory for an implementation at a location, for a registry that looks in a
table if it has one. -/
def NothingAt (table : Option Resolver) (location type : String) : Prop :=
  ∀ t, table = some t → t.table.get? (location, type) = none

/-- The right answers to a lookup of an implementation. -/
inductive Answer (j : Journal) (type : String) : Except RegistryError ProviderId → Prop where
  | unknown (hunknown : type ∉ j.types) : Answer j type (.error (.unknownLanguage type))
  | loaded (p : ProviderId) (hmade : j.provider? type = some p) : Answer j type (.ok p)
  | waiting (hwaiting : type ∈ j.waiting) :
      Answer j type (.error (.invalidImplementation type ownProvider))
  /-- Nothing was found under the location when it was looked at for this very lookup. -/
  | missing (before : Journal) (table : Option Resolver) (location : String)
      (hmissed : j = before ++ [.missed type table])
      (hlocator : j.locator? type = some (.deferred location type)) :
      Answer j type (.error (.missingImplementation type location))
  /-- The factory was asked for this very lookup, and failed. -/
  | failed (before : Journal) (e : ConstructionFailure)
      (hended : j = before ++ [.ended type (.error e)]) :
      Answer j type (.error (.invalidImplementation type e.reason))

/-- Whether an entry is right after the entries of a journal. -/
def Entry.Lawful (j : Journal) : Entry → Prop
  | registered _ found => j.Describes found
  | sought id type => Usable id ∧ type = j.standsFor (spelling id)
  | started type table f =>
    j.provider? type = none ∧ type ∉ j.waiting ∧ ∃ l, j.locator? type = some l ∧ LeadsTo table l f
  | missed type table =>
    j.provider? type = none ∧ type ∉ j.waiting ∧
      ∃ location, j.locator? type = some (.deferred location type) ∧ NothingAt table location type
  | ended type _ => ∃ rest, j.waiting = type :: rest
  | answered type result => Answer j type result

namespace Journal

/-- Whether every entry is right after the entries before it. -/
def Lawful (j : Journal) : Prop := ∀ before e after, j = before ++ e :: after → e.Lawful before

theorem lawful_nil : Lawful [] := fun before e after h => by
  cases before <;> cases h

theorem Lawful.of_append {j k : Journal} (h : Lawful (j ++ k)) : Lawful j :=
  fun before e after hsplit => h before e (after ++ k) (by rw [hsplit]; simp)

theorem lawful_concat_iff {j : Journal} {e : Entry} :
    Lawful (j ++ [e]) ↔ Lawful j ∧ e.Lawful j := by
  refine ⟨fun h => ⟨h.of_append, h j e [] rfl⟩, fun ⟨hj, he⟩ before e' after hsplit => ?_⟩
  rcases List.eq_nil_or_concat after with rfl | ⟨rest, last, rfl⟩
  · obtain ⟨rfl, hlast⟩ := List.append_inj' hsplit rfl
    obtain rfl := List.head_eq_of_cons_eq hlast
    exact he
  · rw [List.concat_eq_append, ← List.cons_append, ← List.append_assoc] at hsplit
    exact hj before e' rest (List.append_inj' hsplit rfl).1

/-- What holds of types that wait for their factories, and of types with a provider. -/
structure Sound (j : Journal) : Prop where
  nodup : j.waiting.Nodup
  unmade : ∀ type ∈ j.waiting, j.provider? type = none
  known : ∀ type ∈ j.waiting, type ∈ j.types
  made : ∀ type p, j.provider? type = some p → type ∈ j.types

namespace Sound

variable {j : Journal} {type : String}

theorem provider?_of_unknown (hs : Sound j) (hunknown : type ∉ j.types) :
    j.provider? type = none :=
  Option.eq_none_iff_forall_ne_some.2 fun p hp => hunknown (hs.made type p hp)

theorem loading_of_unknown (hs : Sound j) (hunknown : type ∉ j.types) :
    j.loading type = .absent :=
  loading_eq_absent_iff.2
    ⟨hs.provider?_of_unknown hunknown, fun hw => hunknown (hs.known type hw)⟩

end Sound

theorem mem_types_concat {j : Journal} {type : String} (e : Entry) (hmem : type ∈ j.types) :
    type ∈ types (j ++ [e]) := by
  rw [types, List.mem_eraseDups] at hmem ⊢
  rw [done_concat, List.map_append]
  exact List.mem_append_left _ hmem

/-- Entries that make nothing. -/
theorem provider?_concat_of_none {j : Journal} {e : Entry} {type : String}
    (he : e.made? type = none) : provider? (j ++ [e]) type = j.provider? type := by
  rw [provider?_concat, he, Option.or_none]

/-- Entries that start nothing and end nothing. -/
theorem Sound.concat_of_waiting_eq {j : Journal} {e : Entry} (hs : Sound j)
    (hwaiting : e.waiting j.waiting = j.waiting) (hmade : ∀ type, e.made? type = none) :
    Sound (j ++ [e]) := by
  have hw : waiting (j ++ [e]) = j.waiting := by rw [waiting_concat, hwaiting]
  refine ⟨hw ▸ hs.nodup, fun type ht => ?_, fun type ht => ?_, fun type p hp => ?_⟩
  · rw [provider?_concat_of_none (hmade type), hs.unmade type (hw ▸ ht)]
  · exact mem_types_concat e (hs.known type (hw ▸ ht))
  · rw [provider?_concat_of_none (hmade type)] at hp
    exact mem_types_concat e (hs.made type p hp)

theorem Sound.concat_started {j : Journal} {type : String} {table : Option Resolver} {f : Factory}
    (hs : Sound j) (hunmade : j.provider? type = none) (hnew : type ∉ j.waiting)
    (hknown : type ∈ j.types) : Sound (j ++ [.started type table f]) := by
  have hw : waiting (j ++ [.started type table f]) = type :: j.waiting := waiting_concat j _
  refine ⟨hw ▸ List.nodup_cons.2 ⟨hnew, hs.nodup⟩, fun t ht => ?_, fun t ht => ?_,
    fun t p hp => ?_⟩
  · rw [provider?_concat_of_none rfl]
    rcases List.mem_cons.1 (hw ▸ ht) with rfl | ht
    · exact hunmade
    · exact hs.unmade t ht
  · rcases List.mem_cons.1 (hw ▸ ht) with rfl | ht
    · exact mem_types_concat _ hknown
    · exact mem_types_concat _ (hs.known t ht)
  · rw [provider?_concat_of_none rfl] at hp
    exact mem_types_concat _ (hs.made t p hp)

theorem Sound.concat_ended {j : Journal} {type : String} {rest : List String} (hs : Sound j)
    (hrest : j.waiting = type :: rest) (result : Except ConstructionFailure ProviderId) :
    Sound (j ++ [.ended type result]) := by
  have hw : waiting (j ++ [.ended type result]) = rest := by
    rw [waiting_concat, hrest]
    rfl
  obtain ⟨hnot, hnodup⟩ := List.nodup_cons.1 (hrest ▸ hs.nodup)
  have hwaited : ∀ t ∈ rest, t ∈ j.waiting := fun t ht => hrest ▸ List.mem_cons_of_mem type ht
  have hothers : ∀ t, t ≠ type → (Entry.ended type result).made? t = none := fun t ht => by
    cases result with
    | error e => rfl
    | ok p => exact if_neg fun h => ht h.symm
  refine ⟨hw ▸ hnodup, fun t ht => ?_, fun t ht => ?_, fun t p hp => ?_⟩
  · rw [hw] at ht
    rw [provider?_concat_of_none (hothers t fun h => hnot (h ▸ ht)), hs.unmade t (hwaited t ht)]
  · rw [hw] at ht
    exact mem_types_concat _ (hs.known t (hwaited t ht))
  · by_cases ht : t = type
    · exact mem_types_concat _ (hs.known t (by rw [hrest, ht]; exact List.mem_cons_self))
    · rw [provider?_concat_of_none (hothers t ht)] at hp
      exact mem_types_concat _ (hs.made t p hp)

/-- Induction on the entries. -/
theorem Lawful.sound {j : Journal} (hj : j.Lawful) : Sound j := by
  induction j using List.reverseRecOn with
  | nil =>
      exact ⟨List.nodup_nil, fun _ h => absurd h List.not_mem_nil,
        fun _ h => absurd h List.not_mem_nil, fun _ _ h => by cases h⟩
  | append_singleton j e ih =>
      obtain ⟨hbefore, he⟩ := lawful_concat_iff.1 hj
      have hs := ih hbefore
      cases e with
      | registered c found => exact hs.concat_of_waiting_eq rfl fun _ => rfl
      | sought id type => exact hs.concat_of_waiting_eq rfl fun _ => rfl
      | answered type result => exact hs.concat_of_waiting_eq rfl fun _ => rfl
      | missed type table => exact hs.concat_of_waiting_eq rfl fun _ => rfl
      | started type table f =>
          obtain ⟨hunmade, hnew, l, hl, -⟩ := he
          exact hs.concat_started hunmade hnew (mem_types_iff.2 ⟨l, hl⟩)
      | ended type result =>
          obtain ⟨rest, hrest⟩ := he
          exact hs.concat_ended hrest result

/-- A factory that ends was waited for, so that there was no provider yet. -/
theorem Lawful.unmade_of_ended {j : Journal} {type : String}
    {result : Except ConstructionFailure ProviderId} (hj : j.Lawful)
    (he : (Entry.ended type result).Lawful j) : j.provider? type = none := by
  obtain ⟨rest, hrest⟩ := he
  exact hj.sound.unmade type (hrest ▸ List.mem_cons_self)

/-- When there is a provider, every lookup is answered with it. -/
theorem Lawful.eq_of_answer {j : Journal} {type : String} {p : ProviderId}
    {result : Except RegistryError ProviderId} (hj : j.Lawful) (hp : j.provider? type = some p)
    (ha : Answer j type result) : result = .ok p := by
  cases ha with
  | unknown hunknown =>
      rw [hj.sound.provider?_of_unknown hunknown] at hp
      cases hp
  | loaded q hq =>
      obtain rfl := Option.some.inj (hq.symm.trans hp)
      rfl
  | waiting hwaiting =>
      rw [hj.sound.unmade type hwaiting] at hp
      cases hp
  | missing before table location hmissed hlocator =>
      subst hmissed
      rw [provider?_concat_of_none rfl, (lawful_concat_iff.1 hj).2.1] at hp
      cases hp
  | failed before e hended =>
      subst hended
      obtain ⟨hbefore, he⟩ := lawful_concat_iff.1 hj
      rw [provider?_concat_of_none rfl, hbefore.unmade_of_ended he] at hp
      cases hp

/-- **One success.**  When a factory has made the provider of an implementation, there was none
before, no factory is asked for the implementation again, and every later lookup is answered with
this provider. -/
theorem Lawful.of_made {before after : Journal} {type : String} {p : ProviderId}
    (hj : Lawful (before ++ .ended type (.ok p) :: after)) :
    before.provider? type = none ∧ (∀ table f, .started type table f ∉ after) ∧
      (∀ result, .ended type result ∉ after) ∧
      ∀ result, .answered type result ∈ after → result = .ok p := by
  have hbefore : before.provider? type = none :=
    hj.of_append.unmade_of_ended (hj before _ after rfl)
  -- what is known where a later entry stands
  have hlater : ∀ e ∈ after, ∃ k : Journal, k.Lawful ∧ e.Lawful k ∧ k.provider? type = some p := by
    intro e he
    obtain ⟨mid, rest, rfl⟩ := List.append_of_mem he
    refine ⟨before ++ .ended type (.ok p) :: mid, ?_, hj _ e rest (by simp), ?_⟩
    · exact Lawful.of_append (k := e :: rest) (by simpa using hj)
    · simp only [provider?] at hbefore
      simp [provider?, List.findSome?_append, hbefore, Entry.made?]
  refine ⟨hbefore, fun table f hmem => ?_, fun result hmem => ?_, fun result hmem => ?_⟩
  · obtain ⟨k, -, ⟨hunmade, -⟩, hp⟩ := hlater _ hmem
    rw [hunmade] at hp
    cases hp
  · obtain ⟨k, hk, he, hp⟩ := hlater _ hmem
    rw [hk.unmade_of_ended he] at hp
    cases hp
  · obtain ⟨k, hk, ha, hp⟩ := hlater _ hmem
    exact hk.eq_of_answer hp ha

end Journal

end Host

end Polyglot
