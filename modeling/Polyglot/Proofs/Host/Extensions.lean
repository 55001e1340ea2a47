import Polyglot.Proofs.Host.Configured
import Polyglot.Proofs.Host.Queries
import Polyglot.Proofs.Language.Extension

/-!
# Polyglot.Proofs.Host.Extensions

Lookups by extension, of extensions that were registered.  A registration and a configuration file
an extension under an identifier, and from then on the identifier stands for an implementation.  A
lookup by the extension is a lookup of this implementation exactly as far as the extension is tidy
(`Aliased`): an extension that begins with two dots, or that is configured with a blank in front,
is filed under an identifier that no lookup by extension asks for.

`extension_aliases` says so of every session that begins with an empty registry or with a
configuration.
-/

namespace Polyglot

open Polyglot.Language

namespace Host

variable {h : Host} {r : RegistryId} {j : Journal} {c : Registration} {extension id : String}

/-- What a registry makes of an extension that was registered under an identifier. -/
structure Aliased (h : Host) (r : RegistryId) (extension id : String) : Prop where
  /-- The identifier stands for an implementation. -/
  registered : ∃ type, (h.registry r).typeNameOf? id = some type
  /-- A lookup by a tidy extension is a lookup of this implementation, which is known. -/
  found : Tidy extension id → ∀ type, (h.registry r).typeNameOf? id = some type →
    h.resolveByExtension r extension = h.resolveByType r type ∧
      ∀ unknown, (h.resolveByExtension r extension).1 ≠ .error (.unknownLanguage unknown)
  /-- A lookup by an extension asks for the identifier only if the extension is tidy. -/
  asked : (∃ k, ofExtension extension = .ok k ∧ spelling k = spelling id) ↔ Tidy extension id

theorem ne_unknownLanguage_of_known {type : String} (hd : j.Describes (h.registry r))
    (hk : (h.registry r).identifiers.get? (spelling id) = some type) (unknown : String) :
    (h.resolveByType r type).1 ≠ .error (.unknownLanguage unknown) := by
  intro he
  obtain ⟨i, hi⟩ := hd.exists_implementation
    (mem_types_of_standsFor ((hd.identifiers _).symm.trans hk))
  cases loadFailure_of_resolveByType hi he

/-- An extension that came with a registration is looked up as the identifier it came under. -/
theorem Told.aliased (ht : Told r j h) (hc : c ∈ j.done) (hid : id ∈ c.ids)
    (ha : Alias extension id) : Aliased h r extension id := by
  have husable := Journal.usable_of_mem_done hc hid
  have hmeets := ofExtension_meets_iff ha husable
  refine ⟨?_, fun htidy type htype => ?_, hmeets⟩
  · obtain ⟨type, htype⟩ := Journal.exists_standsFor_of_done hc hid
    rw [← ht.describes.identifiers] at htype
    exact ⟨type, typeNameOf?_eq_some_iff.2 ⟨husable, htype⟩⟩
  · obtain ⟨k, hk, hsame⟩ := hmeets.2 htidy
    obtain ⟨-, hget⟩ := typeNameOf?_eq_some_iff.1 htype
    have hkey : (h.registry r).typeNameOf? k = some type := by
      rw [typeNameOf?_eq_some_iff, ← usable_spelling_iff, hsame, usable_spelling_iff]
      exact ⟨husable, hget⟩
    rw [(reaches_of_typeNameOf? hkey).resolveByExtension extension hk]
    exact ⟨rfl, ne_unknownLanguage_of_known ht.describes hget⟩

/-! ## From the start -/

/-- Whether a registry is at its start, and holds the languages of a configuration only. -/
inductive Started : Host → RegistryId → List LanguageSetup → Prop where
  | empty {h : Host} {r : RegistryId} (resolver : Option ResolverId)
      (hempty : h.registries.get? r.index = some (.empty resolver)) : Started h r []
  | configured {h : Host} {c : Config} {resolver : ResolverId} {listener : Listener}
      {made : Embedding × Host} (hmade : Embedding.ofConfig h c resolver listener = .ok made) :
      Started made.2 made.1.registry c.languages

/-- Whether an extension was registered under an identifier, with a configured language or in a
registration that was done. -/
inductive Enrolled (ls : List LanguageSetup) (j : Journal) (extension : String) :
    String → Prop where
  | configured (l : LanguageSetup) (hl : l ∈ ls) (hextension : extension ∈ l.extensions) :
      Enrolled ls j extension (LanguageSetup.dotted extension)
  | registered (c : Registration) (hc : c ∈ j.done) (hextension : extension ∈ c.ids)
      (hdot : (Text.trim extension).toList.head? = some '.') : Enrolled ls j extension extension

theorem Started.told {ls : List LanguageSetup} (hs : Started h r ls) (steps : List (Step r)) :
    ∃ j : Journal, j.done = ls.map LanguageSetup.registration ∧
      Told r (j ++ h.log steps) (h.serve steps) := by
  cases hs with
  | empty resolver hempty => exact ⟨[], rfl, told_serve hempty steps⟩
  | configured hmade => exact told_ofConfig hmade steps

/-- **Extensions.**  Consider a registry at any moment after it was empty, or after it was made
from a configuration, and an extension that came with the configuration or with a registration
that was done.  The identifier that it is registered under stands for an implementation.  If the
extension is tidy, then a lookup by it is a lookup of this implementation, which is known;
otherwise no lookup by the extension asks for this identifier. -/
theorem extension_aliases {ls : List LanguageSetup} (hs : Started h r ls) (steps : List (Step r))
    (he : Enrolled ls (h.log steps) extension id) : Aliased (h.serve steps) r extension id := by
  obtain ⟨j, hdone, ht⟩ := hs.told steps
  have hboth : ∀ c, c ∈ Journal.done (j ++ h.log steps) ↔
      c ∈ ls.map LanguageSetup.registration ∨ c ∈ (h.log steps).done := by
    simp [← hdone, Journal.done]
  cases he with
  | configured l hl hextension =>
      refine ht.aliased ((hboth _).2 (.inl (List.mem_map_of_mem hl))) ?_ .configured
      exact List.mem_append_right l.names (List.mem_map_of_mem hextension)
  | registered c hc hextension hdot =>
      exact ht.aliased ((hboth c).2 (.inr hc)) hextension (.given hdot)

/-- An extension with blanks around it and in upper case, which another registration takes. -/
def takenExtension : List (Step ⟨0⟩) :=
  [.ask (.register ⟨.deferred "here" "First", false, [" .SS ", "..ss"]⟩),
    .ask (.register ⟨.deferred "there" "Second", true, [".ss"]⟩)]

theorem extension_aliases_takenExtension :
    let h := (Host.empty.addRegistry none).2.serve takenExtension
    h.resolveByExtension ⟨0⟩ " .SS " = h.resolveByType ⟨0⟩ "Second" ∧
      ∃ made, Embedding.ofConfig .empty { languages := twoLanguages } ⟨0⟩ .silent = .ok made ∧
        ∃ type, (made.2.registry made.1.registry).typeNameOf? ".X " = some type ∧
          made.2.resolveByExtension made.1.registry "X " =
            made.2.resolveByType made.1.registry type := by
  constructor
  · have hempty : (Host.empty.addRegistry none).2.registries.get? 0 = some (.empty none) := rfl
    have ha := extension_aliases (r := ⟨0⟩) (.empty none hempty) takenExtension
      (.registered ⟨.deferred "here" "First", false, [" .SS ", "..ss"]⟩ (List.mem_cons_self ..)
        (List.mem_cons_self ..) (by decide +kernel))
    exact (ha.found ⟨by decide +kernel, .inl rfl⟩ "Second" (by decide +kernel)).1
  · obtain ⟨made, hmade⟩ := (exists_ofConfig_iff .empty { languages := twoLanguages } ⟨0⟩
      .silent).2 (compatible_empty_iff.2 (by decide +kernel))
    have ha := extension_aliases (.configured hmade) []
      (.configured _ (List.mem_cons_self ..) (List.mem_cons_of_mem _ (List.mem_cons_self ..)))
    obtain ⟨type, htype⟩ := ha.registered
    refine ⟨made, hmade, type, htype, (ha.found ⟨by decide +kernel, .inr ?_⟩ type htype).1⟩
    intro c hc
    obtain rfl : 'X' = c := Option.some.inj hc
    decide

/-- An extension with two dots in front. -/
def twoDots : List (Step ⟨0⟩) :=
  [.ask (.register ⟨.deferred "here" "First", false, ["..ss"]⟩)]

/-- An extension with two dots, and a configured one with a blank in front, are registered, but
lookups by them ask for other identifiers, which are unknown or stand for something else. -/
theorem extension_aliases_strays :
    let h := (Host.empty.addRegistry none).2.serve twoDots
    let h' := (Host.empty.addRegistry none).2.serve takenExtension
    ((h.registry ⟨0⟩).typeNameOf? "..ss" = some "First" ∧
      (h.resolveByExtension ⟨0⟩ "..ss").1 = .error (.unknownLanguage ".ss")) ∧
    ((h'.registry ⟨0⟩).typeNameOf? "..ss" = some "First" ∧
      (h'.resolveByExtension ⟨0⟩ "..ss").1 = .error (.missingImplementation "Second" "there")) ∧
    (Embedding.ofConfig .empty { languages := [⟨"Second", "there", [], [" tt"]⟩] } ⟨0⟩ .silent).map
      (fun made => ((made.2.registry made.1.registry).typeNameOf? (LanguageSetup.dotted " tt"),
        (made.2.resolveByExtension made.1.registry " tt").1)) =
      .ok (some "Second", .error (.unknownLanguage ".tt")) := by
  decide +kernel

end Host

end Polyglot
