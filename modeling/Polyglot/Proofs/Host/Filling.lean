import Polyglot.Proofs.Host.Journal
import Polyglot.Proofs.Language.Tables

/-!
# Polyglot.Proofs.Host.Filling

What a history of registrations makes of the tables of a registry.  The tables are filled by the
registrations of a journal one after the other, also by those that are refused, and each of them
goes by the numbers that it finds in the tables (`Tables.after`).

Along a lawful journal no number is ever out of range.  The tables that are there after it hold
the locators of first registrations, under numbers that agree with what the journal says: each
entry keeps them so (`Journal.Numbered.step`), and so does the whole journal
(`Journal.Lawful.after_registrations`).  Nor does any lookup in them stop, whatever is looked up
(`Journal.Fills`).
-/

namespace Polyglot

open Polyglot.Language

/-- The tables after registrations, one after the other.  A registration that is refused leaves
what it finds. -/
def Language.Tables.after (t : Tables) : List Registration → Except OutOfRange Tables
  | [] => .ok t
  | c :: cs =>
    match t.register c.locator c.override c.ids with
    | .error stop => .error stop
    | .ok (.error _) => t.after cs
    | .ok (.ok t') => t'.after cs

theorem Language.Tables.after_append {t t' : Tables} {cs : List Registration}
    (h : t.after cs = .ok t') (more : List Registration) :
    t.after (cs ++ more) = t'.after more := by
  induction cs generalizing t with
  | nil => rw [List.nil_append, Except.ok.inj h]
  | cons c cs ih =>
      rw [after] at h
      rw [List.cons_append, after]
      cases hc : t.register c.locator c.override c.ids with
      | error stop => simp [hc] at h
      | ok result => cases result <;> simp only [hc] at h ⊢ <;> exact ih h

namespace Host

/-- The registration that was asked for, whether it was done or refused. -/
def Entry.registration? : Entry → Option Registration
  | .registered c _ => some c
  | _ => none

namespace Journal

/-- The registrations that were asked for. -/
def registrations (j : Journal) : List Registration := j.filterMap Entry.registration?

/-- What holds of the tables of a registry, as a journal tells it.  Every number that they keep is
that of a descriptor, and whatever is asked of them is answered: nothing stops. -/
structure Fills (j : Journal) (t : Tables) : Prop where
  byType : ∀ type n, t.byType.get? type = some n → n < t.descriptorCount
  byId : ∀ k n, t.byId.get? k = some n → n < t.descriptorCount
  descriptorCount : t.descriptorCount = j.types.length
  /-- What is found is the locator with which the implementation was registered first. -/
  findByType : ∀ type, t.findByType type = .ok (j.locator? type)
  find : ∀ x, t.find x = .ok ((key x).map fun k => (j.standsFor k).bind j.locator?)
  typeNameOf? : ∀ x,
    t.typeNameOf? x = .ok (if Usable x then j.standsFor (spelling x) else none)
  registers : ∀ l override ids, ∃ result, t.register l override ids = .ok result
  refuses : ∀ l override ids e, t.register l override ids = .ok (.error e) ↔
    Refused j.standsFor l.typeName override ids e

/-- Whether tables hold what a journal says, under numbers that agree with it. -/
structure Numbered (j : Journal) (t : Tables) : Prop where
  numbers : t.Numbers j.types j.standsFor
  locators : ∀ type, t.locator? type = j.locator? type

variable {j : Journal} {t : Tables} {c : Registration} {e : Entry} {reg found : Registry}

theorem Numbered.fills (ht : j.Numbered t) : j.Fills t := by
  have hlocators := funext ht.locators
  refine ⟨fun _ _ => ht.numbers.lt_of_byType, fun _ _ => ht.numbers.lt_of_byId,
    ht.numbers.length, fun type => ?_, fun x => ?_, ht.numbers.typeNameOf?,
    ht.numbers.exists_register, fun _ _ _ _ => ht.numbers.register_eq_error_iff⟩
  · rw [ht.numbers.findByType, ht.locators]
  · rw [ht.numbers.find, hlocators]

theorem Numbered.represents (ht : j.Numbered t) (hd : j.Describes reg) : t.Represents reg := by
  rw [Tables.Represents, hd.types, funext hd.identifiers]
  exact ht.numbers

/-! ## Filling tables along a journal -/

theorem numbered_nil : Numbered [] Tables.empty :=
  ⟨Tables.numbers_empty, fun _ => rfl⟩

/-- Entries that are no registrations, and registrations that are refused. -/
theorem Numbered.concat (ht : j.Numbered t) (he : e.done? = none) : Numbered (j ++ [e]) t := by
  have hdone := done_concat_of_none (j := j) he
  refine ⟨?_, fun type => ?_⟩
  · rw [types_congr hdone, standsFor_congr hdone]
    exact ht.numbers
  · rw [locator?_congr hdone, ht.locators]

/-- A registration that is done adds its locator if the type is new. -/
theorem Numbered.registered (ht : j.Numbered t) (he : e.done? = some c) :
    Numbered (j ++ [e]) (t.registered c.locator c.ids) := by
  refine ⟨?_, fun type => ?_⟩
  · rw [types_concat he, funext (standsFor_concat he)]
    exact ht.numbers.registered c.locator c.ids
  · rw [locator?_concat he, ← ht.locators, ht.numbers.locator?_registered]

/-- One entry.  A registration ends in the tables as it ends in the registry that it finds. -/
theorem Numbered.step (ht : j.Numbered t) (he : e.Lawful j) :
    ∃ t', t.after (registrations [e]) = .ok t' ∧ Numbered (j ++ [e]) t' := by
  cases e with
  | registered c found =>
      have hd : Journal.Describes j found := he
      cases hc : c.outcome found with
      | error reason =>
          have hdone : (Entry.registered c found).done? = none := by simp only [Entry.done?, hc]
          rw [Registration.outcome, Registry.register_eq_error_iff, funext hd.identifiers] at hc
          refine ⟨t, ?_, ht.concat hdone⟩
          simp only [registrations, List.filterMap, Entry.registration?, Tables.after,
            ht.numbers.register_of_refused hc]
      | ok new =>
          have hdone : (Entry.registered c found).done? = some c := by simp only [Entry.done?, hc]
          rw [Registration.outcome, Registry.register_eq_ok_iff, funext hd.identifiers] at hc
          refine ⟨_, ?_, ht.registered hdone⟩
          simp only [registrations, List.filterMap, Entry.registration?, Tables.after,
            ht.numbers.register_of_free hc.1 hc.2.1]
  | _ => exact ⟨t, rfl, ht.concat rfl⟩

/-- A whole journal.  Induction on its entries. -/
theorem Lawful.after_registrations (hj : j.Lawful) :
    ∃ t, Tables.empty.after j.registrations = .ok t ∧ j.Numbered t := by
  induction j using List.reverseRecOn with
  | nil => exact ⟨_, rfl, numbered_nil⟩
  | append_singleton j e ih =>
      obtain ⟨hbefore, he⟩ := lawful_concat_iff.1 hj
      obtain ⟨t, hafter, ht⟩ := ih hbefore
      obtain ⟨t', hafter', ht'⟩ := ht.step he
      refine ⟨t', ?_, ht'⟩
      rw [registrations, List.filterMap_append, ← registrations, Tables.after_append hafter]
      exact hafter'

end Journal

end Host

end Polyglot
