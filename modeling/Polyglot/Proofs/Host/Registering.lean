import Polyglot.Proofs.Host.Filling
import Polyglot.Proofs.Host.Session

/-!
# Polyglot.Proofs.Host.Registering

What a registry makes of a history of registrations, which come from the application and from
factories at work, in the order in which they are executed.

A registration is refused exactly when an identifier says nothing, or when without override an
identifier stands for another type at that moment.  Then it changes nothing.  Otherwise it is
done, and the history of what was done decides everything:

```
an identifier stands for     the type of the latest registration under it
implementations              the types, each once, in the order of their first registrations
```

`registration_history` says so of every session that begins with an empty registry, and says
that the numbers in its tables are in range all the time.
-/

namespace Polyglot

open Polyglot.Language

/-- The registry that a registration leaves; a refused one leaves what it found. -/
def Registration.left (c : Registration) (found : Registry) : Registry :=
  (c.outcome found).toOption.getD found

namespace Host

variable {r : RegistryId} {j : Journal} {c : Registration} {found : Registry}

theorem outcome_eq_error_iff (hd : j.Describes found) {e : RegistryError} :
    c.outcome found = .error e ↔
      Refused j.standsFor c.locator.typeName c.override c.ids e := by
  rw [Registration.outcome, Registry.register_eq_error_iff, funext hd.identifiers]

/-- There is a reason to refuse exactly when there is one of the two. -/
theorem exists_refused_iff {standsFor : String → Option String} {type : String} {override : Bool}
    {ids : List String} : (∃ e, Refused standsFor type override ids e) ↔
      (∃ id ∈ ids, ¬ Usable id) ∨
        override = false ∧ ∃ id ∈ ids, ∃ other, TakenBy standsFor type id other := by
  constructor
  · rintro ⟨e, hr⟩
    cases hr with
    | invalid front id back hids hfront hid => exact .inl ⟨id, by simp [hids], hid⟩
    | taken front id back other hids husable hoverride hfront hid =>
        exact .inr ⟨hoverride, id, by simp [hids], other, hid⟩
  · intro hreason
    rcases Registry.refused_or_free standsFor type override ids with hr | ⟨husable, hfree⟩
    · exact hr
    · rcases hreason with ⟨id, hid, hno⟩ | ⟨hoverride, id, hid, other, hother⟩
      · exact absurd (husable id hid) hno
      · exact absurd hother (hfree hoverride id hid other)

/-- A registration leaves the registry as the journal with this registration tells it. -/
theorem shows_left (hd : j.Describes found) (hj : Journal.Lawful (j ++ [.registered c found])) :
    Journal.Shows (j ++ [.registered c found]) (c.left found) := by
  rw [Registration.left]
  cases hc : c.outcome found with
  | error e =>
      have hdone : (Entry.registered c found).done? = none := by simp only [Entry.done?, hc]
      exact (hd.concat hdone rfl fun _ => rfl).shows hj
  | ok new =>
      have hdone : (Entry.registered c found).done? = some c := by simp only [Entry.done?, hc]
      obtain ⟨rfl, -⟩ := Registry.of_register_eq_ok hc
      exact (hd.registered hj.of_append hdone).shows hj

/-- The registrations of a lawful journal fill the tables of every registry that it describes. -/
theorem exists_tables (hj : j.Lawful) : ∃ t, Tables.empty.after j.registrations = .ok t ∧
    j.Fills t ∧ ∀ reg, j.Describes reg → t.Represents reg := by
  obtain ⟨t, ht, hn⟩ := hj.after_registrations
  exact ⟨t, ht, hn.fills, fun reg hd => hn.represents hd⟩

theorem effect_of_refused {h : Host} {e : RegistryError}
    (hc : c.outcome (h.registry r) = .error e) : Request.effect r (.register c) h = h := by
  have hreg : h.register r c.locator c.override c.ids = .error e := congrArg _ hc
  rw [Request.effect, hreg]
  rfl

/-- **Histories of registrations.**  In a session that begins with an empty registry, consider a
registration wherever it occurs, and what happened before it.

* It is refused with an error exactly when the error names the first identifier that says
  nothing, or else, without override, the first that stands for another type, and both types.
* It is refused at all exactly when there is such an identifier.
* The registry that it finds, and the registry that it leaves, show the history up to there.

A lookup goes by what its identifier stands for where it begins.  After the session the registry
shows the whole history, and a registration that is refused changes nothing of the host.

At any time the registrations so far have filled the tables of the registry without going by a
number that is out of range.  All numbers that the tables then keep are in range, so that no
lookup and no registration stops there, and the tables represent the registry that the next
registration finds. -/
theorem registration_history {h : Host} {resolver : Option ResolverId}
    (hempty : h.registries.get? r.index = some (.empty resolver)) (steps : List (Step r)) :
    (∀ (before : Journal) c found after, h.log steps = before ++ .registered c found :: after →
      (∀ e, c.outcome found = .error e ↔
        Refused before.standsFor c.locator.typeName c.override c.ids e) ∧
      ((∃ e, c.outcome found = .error e) ↔
        (∃ id ∈ c.ids, ¬ Usable id) ∨
          c.override = false ∧
            ∃ id ∈ c.ids, ∃ other, TakenBy before.standsFor c.locator.typeName id other) ∧
      before.Shows found ∧
      Journal.Shows (before ++ [.registered c found]) (c.left found)) ∧
    (∀ (before : Journal) id type after, h.log steps = before ++ .sought id type :: after →
      Usable id ∧ type = before.standsFor (spelling id)) ∧
    (h.log steps).Shows ((h.serve steps).registry r) ∧
    (∀ c e, c.outcome ((h.serve steps).registry r) = .error e →
      Request.effect r (.register c) (h.serve steps) = h.serve steps) ∧
    ∀ (before : Journal) after, h.log steps = before ++ after →
      ∃ t, Tables.empty.after before.registrations = .ok t ∧ before.Fills t ∧
        (∀ c found rest, after = .registered c found :: rest → t.Represents found) ∧
        (after = [] → t.Represents ((h.serve steps).registry r)) := by
  have ht := told_serve hempty steps
  refine ⟨fun (before : Journal) c found after hsplit => ?_,
    fun before id type after hsplit => ht.lawful before _ after hsplit, ht.shows,
    fun c e hc => effect_of_refused hc, fun before after hsplit => ?_⟩
  · have hd : before.Describes found := ht.lawful before _ after hsplit
    have hj : Journal.Lawful (before ++ [.registered c found]) := by
      refine Journal.Lawful.of_append (k := after) ?_
      rw [List.append_assoc, List.singleton_append, ← hsplit]
      exact ht.lawful
    refine ⟨fun e => outcome_eq_error_iff hd, ?_, hd.shows hj.of_append, shows_left hd hj⟩
    simp only [outcome_eq_error_iff hd, exists_refused_iff]
  · obtain ⟨t, hafter, hfills, hrepresents⟩ :=
      exists_tables (j := before) (Journal.Lawful.of_append (hsplit ▸ ht.lawful))
    refine ⟨t, hafter, hfills, fun c found rest hrest => hrepresents found ?_, fun hend => ?_⟩
    · exact ht.lawful before _ rest (hrest ▸ hsplit)
    · rw [hend, List.append_nil] at hsplit
      exact hrepresents _ (hsplit ▸ ht.describes)

/-- Two types under one name, and then a lookup whose factory takes the name for a third. -/
def contestedName : List (Step ⟨0⟩) :=
  [.ask (.register ⟨.resolved ⟨"first", 0, 0, [], .tally⟩, false, ["x", ".x"]⟩),
    .ask (.register ⟨.resolved ⟨"second", 0, 0, [], .tally⟩, false, ["y", " X "]⟩),
    .ask (.register ⟨.resolved ⟨"second", 0, 0,
      [.register (.deferred "there" "third") ["X"] true], .tally⟩, false, ["y"]⟩),
    .ask (.resolve "Y")]

/-- The second registration is refused, which the third one shows; the factory's override counts.
The tables have three descriptors then, and none of the lookups stops. -/
theorem registration_history_contestedName :
    let h := (Host.empty.addRegistry none).2
    let left := (h.serve contestedName).registry ⟨0⟩
    ((left.typeNameOf? " x" = some "third" ∧ left.typeNameOf? ".X" = some "first" ∧
      left.typeNameOf? "." = none) ∧ left.implementationCount = 3) ∧
      ∃ t, Tables.empty.after (h.log contestedName).registrations = .ok t ∧
        t.typeNameOf? " x" = .ok (some "third") ∧ t.descriptorCount = 3 := by
  have hempty : (Host.empty.addRegistry none).2.registries.get? 0 = some (.empty none) := rfl
  obtain ⟨-, -, hshows, -, htables⟩ := registration_history (r := ⟨0⟩) hempty contestedName
  obtain ⟨t, hafter, hfills, -⟩ := htables _ [] (List.append_nil _).symm
  refine ⟨?_, t, hafter, ?_⟩
  · simp only [hshows.typeNameOf?, hshows.implementationCount]
    decide +kernel
  · simp only [hfills.typeNameOf?, hfills.descriptorCount]
    decide +kernel

end Host

end Polyglot
