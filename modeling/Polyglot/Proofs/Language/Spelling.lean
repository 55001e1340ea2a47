import Polyglot.Proofs.Language.Registration
import Polyglot.Proofs.Text.Lowercase

/-!
# Polyglot.Proofs.Language.Spelling

The spelling of an identifier is an identifier, and it is spelled as it is (`spelling_spelling`,
`usable_spelling_iff`).  So a registry files spellings, and what it files can be looked up again.
-/

namespace Polyglot.Language

open Polyglot.Text

theorem trim_spelling (id : String) : trim (spelling id) = spelling id :=
  trim_lowercase_trim id

theorem spelling_spelling (id : String) : spelling (spelling id) = spelling id := by
  rw [spelling, trim_spelling, spelling, lowercase_lowercase]

theorem toList_spelling (id : String) :
    (spelling id).toList = lowercaseFrom [] (trimChars id.toList) := by
  rw [spelling, toList_lowercase, toList_trim]

theorem spelling_eq_empty_iff {id : String} : spelling id = "" ↔ trim id = "" := by
  rw [← String.toList_inj, ← String.toList_inj, toList_spelling, toList_trim]
  exact lowercaseFrom_eq_nil_iff

theorem spelling_eq_dot_iff {id : String} : spelling id = "." ↔ trim id = "." := by
  rw [← String.toList_inj, ← String.toList_inj, toList_spelling, toList_trim]
  show lowercaseFrom [] (trimChars id.toList) = ['.'] ↔ trimChars id.toList = ['.']
  constructor
  · intro h
    have hhead : (trimChars id.toList).head? = some '.' := by
      rw [← head?_lowercaseFrom (by decide) [], h, List.head?_cons]
    obtain ⟨rest, hrest⟩ := List.head?_eq_some_iff.1 hhead
    rw [hrest, lowercaseFrom_dot, List.cons_inj_right, lowercaseFrom_eq_nil_iff] at h
    rw [hrest, h]
  · intro h
    rw [h, lowercaseFrom_dot]
    rfl

/-- Blanks and letter case do not make an identifier usable. -/
theorem usable_spelling_iff {id : String} : Usable (spelling id) ↔ Usable id := by
  simp only [Usable, trim_spelling, ne_eq, spelling_eq_empty_iff, spelling_eq_dot_iff]

theorem key_eq_ok_iff {id k : String} : key id = .ok k ↔ Usable id ∧ spelling id = k := by
  by_cases hid : Usable id
  · simp [key_of_usable hid, hid]
  · simp [key_of_not_usable hid, hid]

end Polyglot.Language
