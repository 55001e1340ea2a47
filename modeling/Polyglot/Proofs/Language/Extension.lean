import Polyglot.Config
import Polyglot.Proofs.Language.Spelling

/-!
# Polyglot.Proofs.Language.Extension

File extensions and the identifiers that they are registered under.  An extension is registered
as it is given, with a dot in front, or it is configured, with or without its dot.  A lookup by
extension has an identifier of its own: it leaves out the blanks around the extension and all the
dots in front, and puts one dot there.

```
extension     registered as     looked up as
.ss           .ss               .ss
ss (blank)    .ss (blank)       .ss             one identifier: the blank is at the end
..ss          ..ss              .ss             two identifiers
(blank) ss    . (blank) ss      .ss             two identifiers
```

The two are one identifier exactly for extensions that are tidy (`ofExtension_meets_iff`).  An
extension that holds no dot is looked up with a dot in front, if there is anything to it
(`ofExtension_of_no_dot`).
-/

namespace Polyglot.Language

open Polyglot.Text

/-- Whether an identifier is what an extension is registered under. -/
inductive Alias (extension : String) : String → Prop where
  /-- It is given in a registration, and begins with a dot. -/
  | given (hdot : (trim extension).toList.head? = some '.') : Alias extension extension
  /-- It is configured. -/
  | configured : Alias extension (LanguageSetup.dotted extension)

/-- Whether an extension begins with at most one dot, and with no blank if it comes without its
dot. -/
def Tidy (extension id : String) : Prop :=
  ¬ ['.', '.'] <+: (trim extension).toList ∧
    (id = extension ∨ ∀ c, extension.toList.head? = some c → isBlank c = false)

/-- An extension without blanks around it and without the dots in front. -/
def bare (extension : String) : List Char :=
  (trimChars extension.toList).dropWhile (· = '.')

variable {extension id : String} {body : List Char}

theorem ofExtension_of_bare (hbare : bare extension ≠ []) :
    ofExtension extension = .ok (String.ofList ('.' :: bare extension)) := by
  simp only [bare] at hbare ⊢
  rw [ofExtension]
  split
  · contradiction
  · rfl

theorem ofExtension_of_not_bare (hbare : bare extension = []) :
    ofExtension extension = .error (.invalidIdentifier extension) := by
  simp only [bare] at hbare
  rw [ofExtension, hbare]

/-- The identifier of a lookup by extension has no blanks around it. -/
theorem trimChars_dot_bare (extension : String) :
    trimChars ('.' :: bare extension) = '.' :: bare extension := by
  have hlast := (trimmed_trimChars extension.toList).last_of_suffix
    (List.dropWhile_suffix fun c => decide (c = '.'))
  rw [trimChars_cons (by decide), bare, dropBlanksRight_of_last hlast]

/-! ## Two identifiers with one dot in front -/

theorem usable_iff_of_dot (hbody : (trim id).toList = '.' :: body) : Usable id ↔ body ≠ [] := by
  have hempty : trim id ≠ "" := by
    intro h
    rw [h] at hbody
    cases hbody
  have hdot : trim id = "." ↔ body = [] := by
    rw [← String.toList_inj, hbody]
    show '.' :: body = ['.'] ↔ body = []
    simp
  simp [Usable, hempty, hdot]

/-- A lookup by extension meets an identifier that ends like it when there is nothing more to the
identifier. -/
theorem ofExtension_meets_iff_bare (hbody : (trim id).toList = '.' :: body)
    (hsuffix : bare extension <:+ body) (hid : Usable id) :
    (∃ k, ofExtension extension = .ok k ∧ spelling k = spelling id) ↔ bare extension = body := by
  -- after the one dot, lower case tells the extension from what it is only the end of
  have hspelling : ∀ k, k = String.ofList ('.' :: bare extension) →
      (spelling k = spelling id ↔ bare extension = body) := by
    rintro k rfl
    rw [← String.toList_inj, toList_spelling, toList_spelling, ← toList_trim id, hbody,
      String.toList_ofList, trimChars_dot_bare, lowercaseFrom_dot, lowercaseFrom_dot,
      List.cons_inj_right]
    exact ⟨eq_of_lowercaseFrom_eq hsuffix, fun h => by rw [h]⟩
  constructor
  · rintro ⟨k, hk, hsame⟩
    by_cases hbare : bare extension = []
    · rw [ofExtension_of_not_bare hbare] at hk
      cases hk
    · rw [ofExtension_of_bare hbare] at hk
      exact (hspelling k (Except.ok.inj hk).symm).1 hsame
  · intro h
    have hbare : bare extension ≠ [] := h ▸ (usable_iff_of_dot hbody).1 hid
    exact ⟨_, ofExtension_of_bare hbare, (hspelling _ rfl).2 h⟩

/-! ## Extensions with a dot in front -/

theorem exists_body_of_dot (hdot : (trim extension).toList.head? = some '.') :
    ∃ body, (trim extension).toList = '.' :: body ∧ bare extension <:+ body ∧
      (bare extension = body ↔ ¬ ['.', '.'] <+: (trim extension).toList) := by
  obtain ⟨body, hbody⟩ := List.head?_eq_some_iff.1 hdot
  have hbare : bare extension = body.dropWhile (· = '.') := by
    rw [bare, ← toList_trim, hbody]
    exact List.dropWhile_cons_of_pos (by simp)
  refine ⟨body, hbody, hbare ▸ List.dropWhile_suffix _, ?_⟩
  rw [hbare, hbody, List.dropWhile_eq_self_iff]
  cases body with
  | nil => simp
  | cons c cs => simp [eq_comm]

theorem head?_trim_of_dot (hdot : extension.toList.head? = some '.') :
    (trim extension).toList.head? = some '.' := by
  obtain ⟨rest, hrest⟩ := List.head?_eq_some_iff.1 hdot
  rw [toList_trim, hrest, trimChars_cons (by decide), List.head?_cons]

/-! ## Extensions that get their dot -/

theorem toList_trim_dot_append (extension : String) :
    (trim ("." ++ extension)).toList = '.' :: dropBlanksRight extension.toList := by
  rw [toList_trim, String.toList_append]
  exact trimChars_cons (by decide) _

theorem bare_suffix (extension : String) : bare extension <:+ dropBlanksRight extension.toList :=
  (List.dropWhile_suffix _).trans (dropBlanksRight_suffix (List.dropWhile_suffix _))

theorem bare_eq_iff_of_no_dot (hdot : extension.toList.head? ≠ some '.')
    (hbody : dropBlanksRight extension.toList ≠ []) :
    bare extension = dropBlanksRight extension.toList ↔
      ∀ c, extension.toList.head? = some c → isBlank c = false := by
  have hhead := head?_dropBlanksRight hbody
  constructor
  · intro h c hc
    -- nothing is left out of what is filed, so that trimming found no blank in front
    have htrimmed : trimChars extension.toList = dropBlanksRight extension.toList := by
      refine (dropBlanksRight_suffix (List.dropWhile_suffix _)).eq_of_length_le ?_
      rw [← h]
      exact (List.dropWhile_suffix _).length_le
    refine (trimmed_trimChars extension.toList).head c ?_
    rw [htrimmed, hhead, hc]
  · intro hblank
    rw [bare, trimChars, dropWhile_of_head hblank]
    refine dropWhile_of_head fun c hc => ?_
    rw [hhead] at hc
    exact decide_eq_false fun heq => hdot (heq ▸ hc)

theorem tidy_iff_of_no_dot (hdot : extension.toList.head? ≠ some '.') :
    Tidy extension ("." ++ extension) ↔
      ∀ c, extension.toList.head? = some c → isBlank c = false := by
  have hne : "." ++ extension ≠ extension := by
    intro h
    have hlength := congrArg String.length h
    rw [String.length_append, show ".".length = 1 from rfl] at hlength
    omega
  constructor
  · rintro ⟨-, hsame | hblank⟩
    · exact absurd hsame hne
    · exact hblank
  · refine fun hblank => ⟨fun hdots => hdot ?_, .inr hblank⟩
    rw [toList_trim, trimChars, dropWhile_of_head hblank] at hdots
    obtain ⟨rest, hrest⟩ := hdots.trans (dropBlanksRight_isPrefix _)
    rw [← hrest]
    rfl

/-- **Extensions.**  A lookup by extension goes by the identifier that the extension is registered
under, up to its spelling, exactly when the extension is tidy. -/
theorem ofExtension_meets_iff (ha : Alias extension id) (hid : Usable id) :
    (∃ k, ofExtension extension = .ok k ∧ spelling k = spelling id) ↔ Tidy extension id := by
  -- an identifier that is the extension itself, which begins with a dot
  have hself : (trim extension).toList.head? = some '.' → id = extension →
      ((∃ k, ofExtension extension = .ok k ∧ spelling k = spelling id) ↔ Tidy extension id) := by
    rintro hdot rfl
    obtain ⟨body, hbody, hsuffix, hone⟩ := exists_body_of_dot hdot
    rw [ofExtension_meets_iff_bare hbody hsuffix hid, hone, Tidy]
    simp
  cases ha with
  | given hdot => exact hself hdot rfl
  | configured =>
      by_cases hdot : extension.toList.head? = some '.'
      · exact hself (head?_trim_of_dot hdot) (if_pos hdot)
      · have hput : LanguageSetup.dotted extension = "." ++ extension := if_neg hdot
        rw [hput] at hid ⊢
        have hbody := toList_trim_dot_append extension
        rw [ofExtension_meets_iff_bare hbody (bare_suffix extension) hid,
          bare_eq_iff_of_no_dot hdot ((usable_iff_of_dot hbody).1 hid), tidy_iff_of_no_dot hdot]

/-! ## Extensions without dots -/

theorem bare_eq_of_no_dot (hdot : '.' ∉ extension.toList) :
    bare extension = (trim extension).toList := by
  rw [bare, toList_trim]
  refine dropWhile_of_head fun c hc => decide_eq_false ?_
  rintro rfl
  exact hdot ((trimChars_isInfix _).subset (List.mem_of_mem_head? hc))

theorem toList_trim_eq_nil_iff : (trim extension).toList = [] ↔ trim extension = "" := by
  rw [← String.toList_inj]
  rfl

/-- An extension without dots has an identifier unless it is blank. -/
theorem ofExtension_of_no_dot (hdot : '.' ∉ extension.toList) : ofExtension extension =
    if trim extension = "" then .error (.invalidIdentifier extension)
    else .ok ("." ++ trim extension) := by
  have hbare := bare_eq_of_no_dot hdot
  split
  · next hblank => exact ofExtension_of_not_bare (hbare.trans (toList_trim_eq_nil_iff.2 hblank))
  · next hnonblank =>
      have hne : bare extension ≠ [] := by
        rw [hbare]
        exact mt toList_trim_eq_nil_iff.1 hnonblank
      have hid : String.ofList ('.' :: bare extension) = "." ++ trim extension := by
        rw [← String.toList_inj, String.toList_ofList, hbare, String.toList_append]
        rfl
      rw [ofExtension_of_bare hne, hid]

/-- The identifier of an extension is its own trimmed form. -/
theorem trim_dot_trim (extension : String) :
    trim ("." ++ trim extension) = "." ++ trim extension := by
  rw [← String.toList_inj, toList_trim_dot_append, toList_trim,
    dropBlanksRight_of_last (trimmed_trimChars _).last, ← toList_trim, String.toList_append]
  rfl

theorem usable_dot_trim (hnonblank : trim extension ≠ "") : Usable ("." ++ trim extension) := by
  rw [usable_iff_of_dot (by rw [trim_dot_trim, String.toList_append]; rfl)]
  exact mt toList_trim_eq_nil_iff.1 hnonblank

end Polyglot.Language
