import Polyglot.Proofs.Host.Answers
import Polyglot.Proofs.Language.Spelling
import Polyglot.Proofs.Text.LetterCase

/-!
# Polyglot.Proofs.Host.LetterCase

Identifiers that differ in letter case at most.  A registry files an identifier under the lower
case of its text as a whole, in which a capital sigma that ends a word becomes the final sigma and
not the small one.  So of two such identifiers

```
capital sigmas at the same ends of words   one identifier in every registry
otherwise                                  two, and registering one does nothing for the other
```

which is `letter_case`.  Identifiers without capital sigmas are always of the first sort.
-/

namespace Polyglot

open Polyglot.Language

/-! ## Spellings -/

namespace Language

/-- Whether two identifiers have the same length, and differ in letter case at most. -/
def SameLetters (a b : String) : Prop := List.Forall₂ Text.SameLetter a.toList b.toList

instance : DecidableRel SameLetters := fun _ _ => inferInstanceAs (Decidable (List.Forall₂ _ _ _))

/-- Whether two identifiers, without blanks around them, have capital sigmas at the same ends of
words. -/
def SigmasMatch (a b : String) : Prop :=
  ∀ i, Text.WordEnds [] (Text.trimChars a.toList) i →
    ((Text.trimChars a.toList)[i]? = some 'Σ' ↔ (Text.trimChars b.toList)[i]? = some 'Σ')

variable {a b : String}

theorem spelling_eq_iff (hletters : SameLetters a b) :
    spelling a = spelling b ↔ SigmasMatch a b := by
  rw [← String.toList_inj, toList_spelling, toList_spelling]
  exact Text.lowercaseFrom_eq_iff (Text.forall₂_trimChars hletters) rfl

theorem usable_iff_of_spelling (hsame : spelling a = spelling b) : Usable a ↔ Usable b := by
  rw [← usable_spelling_iff, hsame, usable_spelling_iff]

end Language

namespace Host

variable {a b : String}

/-! ## One identifier -/

/-- Whether an identifier does whatever another one does, in every registry. -/
structure Follows (b a : String) : Prop where
  typeNameOf? : ∀ reg : Registry, reg.typeNameOf? b = reg.typeNameOf? a
  isRegistered : ∀ reg : Registry, reg.isRegistered b = reg.isRegistered a
  isLoaded : ∀ reg : Registry, reg.isLoaded b = reg.isLoaded a
  resolve : ∀ (h : Host) (r : RegistryId), (h.registry r).isRegistered a = true →
    h.resolve r b = h.resolve r a
  tryResolve : ∀ (h : Host) (r : RegistryId), (h.registry r).isRegistered a = true →
    h.tryResolve r b = h.tryResolve r a
  /-- When the other one is registered, this one stands for the same type. -/
  registered : ∀ (reg reg' : Registry) (l : Locator) (override : Bool) (ids : List String),
    reg.register l override ids = .ok reg' → a ∈ ids → reg'.typeNameOf? b = some l.typeName
  /-- And it cannot be registered for another type without override. -/
  contested : ∀ (reg : Registry) (type : String), reg.typeNameOf? a = some type →
    ∀ (l : Locator) (ids : List String), l.typeName ≠ type → b ∈ ids → (∀ id ∈ ids, Usable id) →
      ∃ id ∈ ids, ∃ other, reg.typeNameOf? id = some other ∧
        reg.register l false ids = .error (.conflict (spelling id) other l.typeName)

/-- An identifier that stands for one type is in conflict with every other type. -/
theorem conflict_of_typeNameOf? {reg : Registry} {type id : String} {l : Locator}
    {ids : List String} (hid : reg.typeNameOf? id = some type) (hne : l.typeName ≠ type)
    (hmem : id ∈ ids) (husable : ∀ id ∈ ids, Usable id) :
    ∃ id ∈ ids, ∃ other, reg.typeNameOf? id = some other ∧
      reg.register l false ids = .error (.conflict (spelling id) other l.typeName) := by
  have hget := (typeNameOf?_eq_some_iff.1 hid).2
  rcases Registry.refused_or_free reg.identifiers.get? l.typeName false ids with
    ⟨e, hrefused⟩ | ⟨-, hfree⟩
  · have herror := Registry.register_of_refused hrefused
    cases hrefused with
    | invalid front x back hids hfront hx =>
        exact absurd (husable x (by simp [hids])) hx
    | taken front x back other hids husable' hoverride hfront hx =>
        have hxs : x ∈ ids := by simp [hids]
        exact ⟨x, hxs, other, typeNameOf?_eq_some_iff.2 ⟨husable x hxs, hx.1⟩, herror⟩
  · exact absurd ⟨hget, hne.symm⟩ (hfree rfl id hmem type)

theorem follows_of_spelling (hsame : spelling a = spelling b) : Follows b a := by
  have hnames (reg : Registry) : reg.typeNameOf? b = reg.typeNameOf? a := by
    refine Option.ext fun type => ?_
    rw [typeNameOf?_eq_some_iff, typeNameOf?_eq_some_iff, hsame, usable_iff_of_spelling hsame]
  have hreach (h : Host) (r : RegistryId) (ha : (h.registry r).isRegistered a = true) :
      ∃ type, Reaches h r a type ∧ Reaches h r b type := by
    obtain ⟨type, htype⟩ := Option.isSome_iff_exists.1 ha
    exact ⟨type, reaches_of_typeNameOf? htype, reaches_of_typeNameOf? ((hnames _).trans htype)⟩
  constructor
  case typeNameOf? => exact hnames
  case isRegistered =>
    intro reg
    rw [Registry.isRegistered, hnames, Registry.isRegistered]
  case isLoaded =>
    intro reg
    rw [Registry.isLoaded, hnames, Registry.isLoaded]
  case resolve =>
    intro h r ha
    obtain ⟨type, hra, hrb⟩ := hreach h r ha
    rw [hra.resolve, hrb.resolve]
  case tryResolve =>
    intro h r ha
    obtain ⟨type, hra, hrb⟩ := hreach h r ha
    rw [hra.tryResolve, hrb.tryResolve]
  case registered =>
    intro reg reg' l override ids hok hmem
    obtain ⟨rfl, husable⟩ := Registry.of_register_eq_ok hok
    rw [hnames, typeNameOf?_of_usable (husable a hmem), Registry.get?_identifiers_registered,
      if_pos (List.mem_map_of_mem hmem)]
  case contested =>
    intro reg type hid l ids hne hmem husable
    exact conflict_of_typeNameOf? ((hnames reg).trans hid) hne hmem husable

/-! ## Two identifiers -/

/-- Whether registering an identifier does nothing for another one: that one stands for what it
stood for, and it can be registered when it could be before. -/
def Ignores (b a : String) : Prop :=
  ∀ (reg reg' : Registry) (l : Locator) (override : Bool),
    reg.register l override [a] = .ok reg' →
      reg'.typeNameOf? b = reg.typeNameOf? b ∧
      ∀ (l' : Locator) (override' : Bool), (∃ left, reg'.register l' override' [b] = .ok left) ↔
        ∃ left, reg.register l' override' [b] = .ok left

theorem ignores_of_spelling (hne : spelling a ≠ spelling b) : Ignores b a := by
  intro reg reg' l override hok
  obtain ⟨rfl, -⟩ := Registry.of_register_eq_ok hok
  have hget : (reg.registered l [a]).identifiers.get? (spelling b) =
      reg.identifiers.get? (spelling b) := by
    rw [Registry.get?_identifiers_registered, if_neg (by simpa using hne.symm)]
  refine ⟨Option.ext fun type => ?_, fun l' override' => ?_⟩
  · rw [typeNameOf?_eq_some_iff, typeNameOf?_eq_some_iff, hget]
  · simp only [Registry.register_eq_ok_iff, List.forall_mem_singleton, TakenBy, hget,
      exists_and_left, exists_eq', and_true]

/-- **Letter case.**  Two identifiers that differ in letter case at most are one identifier in
every registry if they have capital sigmas at the same ends of words.  Otherwise they are two. -/
theorem letter_case (hletters : SameLetters a b) :
    (SigmasMatch a b → Follows b a) ∧ (¬ SigmasMatch a b → Ignores b a) := by
  rw [← spelling_eq_iff hletters]
  exact ⟨follows_of_spelling, ignores_of_spelling⟩

/-- Inside a word the sigma is the small one in both spellings. -/
theorem letter_case_innerSigma : SameLetters "ΣΟΦΙΑ" "σοφια" ∧ Follows "σοφια" "ΣΟΦΙΑ" := by
  have hletters : SameLetters "ΣΟΦΙΑ" "σοφια" := by decide +kernel
  exact ⟨hletters, (letter_case hletters).1 ((spelling_eq_iff hletters).1 (by decide +kernel))⟩

/-- At the end of a word it is not, so that both can be registered for different types. -/
theorem letter_case_finalSigma :
    SameLetters "ΟΔΟΣ" "οδοσ" ∧
    ∃ reg reg', (Registry.empty none).register (.deferred "there" "A") false ["ΟΔΟΣ"] = .ok reg ∧
      reg.typeNameOf? "ΟΔΟΣ" = some "A" ∧ reg.typeNameOf? "οδοσ" = none ∧
      reg.register (.deferred "elsewhere" "B") false ["οδοσ"] = .ok reg' := by
  have hfree (l : Locator) (override : Bool) (id : String) (hid : Usable id) :
      (Registry.empty none).register l override [id] =
        .ok ((Registry.empty none).registered l [id]) :=
    Registry.register_of_free (by simpa using hid) fun _ _ _ _ ht => by cases ht.1
  have hignores : Ignores "οδοσ" "ΟΔΟΣ" := ignores_of_spelling (by decide +kernel)
  have hfirst := hfree (.deferred "there" "A") false "ΟΔΟΣ" (by decide +kernel)
  obtain ⟨-, hsecond⟩ := hignores _ _ _ _ hfirst
  obtain ⟨reg', hreg'⟩ := (hsecond (.deferred "elsewhere" "B") false).2
    ⟨_, hfree _ _ "οδοσ" (by decide +kernel)⟩
  exact ⟨by decide +kernel, _, reg', hfirst, by decide +kernel, by decide +kernel, hreg'⟩

end Host

end Polyglot
