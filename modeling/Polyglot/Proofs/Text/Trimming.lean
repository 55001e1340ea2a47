import Mathlib.Data.List.DropRight
import Polyglot.Text.Blank

/-!
# Polyglot.Proofs.Text.Trimming

Texts without blanks at their ends.  Trimming gives such a text (`trimmed_trimChars`) and leaves
such a text as it is (`trimChars_of_trimmed`).
-/

namespace Polyglot.Text

/-- Whether a list of characters neither begins nor ends with a blank. -/
structure Trimmed (cs : List Char) : Prop where
  head : ∀ c, cs.head? = some c → isBlank c = false
  last : ∀ c, cs.getLast? = some c → isBlank c = false

variable {cs : List Char}

/-! ## One end -/

theorem dropBlanksRight_of_last (h : ∀ c, cs.getLast? = some c → isBlank c = false) :
    dropBlanksRight cs = cs := by
  show cs.rdropWhile isBlank = cs
  rw [List.rdropWhile_eq_self_iff]
  intro hne
  simp [h _ (List.getLast?_eq_some_getLast hne)]

theorem last_dropBlanksRight (cs : List Char) (c : Char)
    (h : (dropBlanksRight cs).getLast? = some c) : isBlank c = false := by
  have hne : cs.rdropWhile isBlank ≠ [] := by
    intro hnil
    rw [show dropBlanksRight cs = [] from hnil] at h
    simp at h
  have hlast := List.rdropWhile_last_not isBlank cs hne
  have hc : (cs.rdropWhile isBlank).getLast hne = c :=
    Option.some.inj ((List.getLast?_eq_some_getLast hne).symm.trans h)
  simpa [hc] using hlast

theorem dropBlanksRight_isPrefix (cs : List Char) : dropBlanksRight cs <+: cs :=
  List.rdropWhile_prefix isBlank cs

/-- A character that is no blank keeps all that stands before it. -/
theorem dropBlanksRight_cons {c : Char} (hc : isBlank c = false) (cs : List Char) :
    dropBlanksRight (c :: cs) = c :: dropBlanksRight cs := by
  unfold dropBlanksRight
  rw [List.reverse_cons, List.dropWhile_append]
  split
  · next hall =>
      have hnil : cs.reverse.dropWhile isBlank = [] := by simpa using hall
      simp [hnil, hc]
  · simp

theorem dropBlanksRight_suffix {ds : List Char} (h : ds <:+ cs) :
    dropBlanksRight ds <:+ dropBlanksRight cs := by
  obtain ⟨front, rfl⟩ := h
  unfold dropBlanksRight
  rw [List.reverse_suffix, List.reverse_append, List.dropWhile_append]
  split
  · next hall =>
      have hnil : ds.reverse.dropWhile isBlank = [] := by simpa using hall
      rw [hnil]
      exact List.nil_prefix
  · exact List.prefix_append _ _

theorem head?_dropBlanksRight (h : dropBlanksRight cs ≠ []) :
    (dropBlanksRight cs).head? = cs.head? := by
  obtain ⟨rest, hrest⟩ := dropBlanksRight_isPrefix cs
  exact (List.head?_append_of_ne_nil _ h).symm.trans (congrArg List.head? hrest)

theorem dropWhile_of_head {p : Char → Bool} (h : ∀ c, cs.head? = some c → p c = false) :
    cs.dropWhile p = cs := by
  cases cs with
  | nil => rfl
  | cons c cs => simp [h c rfl]

theorem head_dropWhile (p : Char → Bool) (cs : List Char) (c : Char)
    (h : (cs.dropWhile p).head? = some c) : p c = false := by
  have hnot := List.head?_dropWhile_not p cs
  rwa [h] at hnot

/-! ## Both ends -/

theorem trimmed_trimChars (cs : List Char) : Trimmed (trimChars cs) := by
  constructor
  · intro c h
    obtain ⟨rest, hrest⟩ := dropBlanksRight_isPrefix (cs.dropWhile isBlank)
    apply head_dropWhile isBlank cs
    rw [← hrest, List.head?_append, ← trimChars, h, Option.some_or]
  · exact last_dropBlanksRight _

theorem trimChars_of_trimmed (h : Trimmed cs) : trimChars cs = cs := by
  rw [trimChars, dropWhile_of_head h.head, dropBlanksRight_of_last h.last]

theorem trimChars_isInfix (cs : List Char) : trimChars cs <:+: cs :=
  (dropBlanksRight_isPrefix _).isInfix.trans (List.dropWhile_suffix _).isInfix

theorem trimChars_cons {c : Char} (hc : isBlank c = false) (cs : List Char) :
    trimChars (c :: cs) = c :: dropBlanksRight cs := by
  rw [trimChars, List.dropWhile_cons_of_neg (by simp [hc]), dropBlanksRight_cons hc]

theorem Trimmed.last_of_suffix {ds : List Char} (h : Trimmed cs) (hds : ds <:+ cs) (c : Char)
    (hc : ds.getLast? = some c) : isBlank c = false := by
  obtain ⟨front, rfl⟩ := hds
  exact h.last c (by simp [List.getLast?_append, hc])

@[simp] theorem toList_trim (s : String) : (trim s).toList = trimChars s.toList :=
  String.toList_ofList

end Polyglot.Text
