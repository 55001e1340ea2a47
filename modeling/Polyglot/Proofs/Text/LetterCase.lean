import Mathlib.Data.List.Forall2
import Polyglot.Proofs.Text.Lowercase

/-!
# Polyglot.Proofs.Text.LetterCase

Texts that differ in letter case at most: their characters have the same lower case one by one
(`SameLetter`).  Two such characters are the same one, or both are letters of the table of runs.
All of these letters have a case, none is passed over, and none is a blank.  So such texts have
their blanks and their words at the same places, and the lower case of a whole text differs from
that of its characters at one place only:

```
a word ends with a capital sigma      ς, and with the small one σ
```

Two such texts have the same lower case exactly when they have their capital sigmas at the same
ends of words (`lowercaseFrom_eq_iff`).
-/

namespace Polyglot.Text

/-! ## Letters of the table -/

/-- The code points of a class as the bits of one number. -/
def CodeRanges.bits (ranges : CodeRanges) : Nat :=
  ranges.foldr (fun r n => (1 <<< (r.2 + 1 - r.1) - 1) <<< r.1 ||| n) 0

theorem CodeRanges.testBit_bits (ranges : CodeRanges) (c : Char) :
    ranges.bits.testBit c.toNat = ranges.covers c := by
  induction ranges with
  | nil => exact Nat.zero_testBit _
  | cons r ranges ih =>
      have hr : ((1 <<< (r.2 + 1 - r.1) - 1) <<< r.1).testBit c.toNat =
          (decide (r.1 ≤ c.toNat) && decide (c.toNat ≤ r.2)) := by
        rw [Nat.testBit_shiftLeft, Nat.one_shiftLeft, Nat.testBit_two_pow_sub_one,
          Bool.eq_iff_iff]
        simp only [Bool.and_eq_true, decide_eq_true_eq]
        omega
      rw [bits, List.foldr_cons, ← bits, Nat.testBit_or, ih, hr]
      rfl

/-- The code points that have another one as their lower case, or are the lower case of another. -/
def letters : List Nat := capitals ++ images

theorem letters_cased : Text.bits letters ||| casedRanges.bits = casedRanges.bits := by
  decide +kernel

theorem letters_not_caseIgnorable : Text.bits letters &&& caseIgnorableRanges.bits = 0 := by
  decide +kernel

section Letter

variable {c d : Char}

theorem isCased_of_letter (hc : c.toNat ∈ letters) : isCased c = true := by
  have hbit := congrArg (Nat.testBit · c.toNat) letters_cased
  simpa [Nat.testBit_or, testBit_bits, CodeRanges.testBit_bits, hc, isCased] using hbit.symm

theorem isCaseIgnorable_of_letter (hc : c.toNat ∈ letters) : isCaseIgnorable c = false := by
  have hbit := congrArg (Nat.testBit · c.toNat) letters_not_caseIgnorable
  simpa [Nat.testBit_and, testBit_bits, CodeRanges.testBit_bits, hc, isCaseIgnorable] using hbit

theorem not_caseless_of_letter (hc : c.toNat ∈ letters) : c.toNat ∉ caseless := by
  intro hcaseless
  rcases List.mem_append.1 hc with hcapital | himage
  · exact capitals_disjoint hcapital (List.mem_append_right _ hcaseless)
  · exact given_disjoint (List.mem_append_left _ himage) (List.mem_cons_of_mem _ hcaseless)

end Letter

/-! ## Characters -/

/-- Whether two characters differ in letter case at most. -/
def SameLetter (c d : Char) : Prop := lowerAlone c = lowerAlone d

instance : DecidableRel SameLetter := fun _ _ => inferInstanceAs (Decidable (_ = _))

namespace SameLetter

variable {c d : Char}

/-- The dotted capital I is the only one with its lower case. -/
theorem dotted_iff (h : SameLetter c d) : c.toNat = 0x130 ↔ d.toNat = 0x130 := by
  have hlength := congrArg List.length h
  rw [length_lowerAlone, length_lowerAlone] at hlength
  split at hlength <;> split at hlength <;> simp_all

theorem eq_or_letters (h : SameLetter c d) :
    c = d ∨ c.toNat ∈ letters ∧ d.toNat ∈ letters := by
  by_cases hdotted : c.toNat = 0x130
  · exact .inl (Char.toNat_inj.1 (hdotted.trans (h.dotted_iff.1 hdotted).symm))
  · have hdotted' : d.toNat ≠ 0x130 := fun hd => hdotted (h.dotted_iff.2 hd)
    have hlower : lowerLetter c = lowerLetter d := by
      rwa [SameLetter, lowerAlone_of_ne hdotted, lowerAlone_of_ne hdotted',
        List.singleton_inj] at h
    rcases lowerLetter_cases c with hc | ⟨hc, himage⟩ <;>
      rcases lowerLetter_cases d with hd | ⟨hd, himage'⟩
    · exact .inl (hc.symm.trans (hlower.trans hd))
    · rw [← hlower, hc] at himage'
      exact .inr ⟨List.mem_append_right _ himage', List.mem_append_left _ hd⟩
    · rw [hlower, hd] at himage
      exact .inr ⟨List.mem_append_left _ hc, List.mem_append_right _ himage⟩
    · exact .inr ⟨List.mem_append_left _ hc, List.mem_append_left _ hd⟩

theorem isCased_eq (h : SameLetter c d) : isCased c = isCased d := by
  rcases h.eq_or_letters with rfl | ⟨hc, hd⟩
  · rfl
  · rw [isCased_of_letter hc, isCased_of_letter hd]

theorem isCaseIgnorable_eq (h : SameLetter c d) : isCaseIgnorable c = isCaseIgnorable d := by
  rcases h.eq_or_letters with rfl | ⟨hc, hd⟩
  · rfl
  · rw [isCaseIgnorable_of_letter hc, isCaseIgnorable_of_letter hd]

theorem eq_of_caseless (h : SameLetter c d) (hc : c.toNat ∈ caseless) : c = d :=
  h.eq_or_letters.resolve_right fun hletters => not_caseless_of_letter hletters.1 hc

theorem isBlank_eq (h : SameLetter c d) : isBlank c = isBlank d := by
  rcases h.eq_or_letters with rfl | ⟨hc, hd⟩
  · rfl
  · have hnot : ∀ {x : Char}, x.toNat ∈ letters → isBlank x = false := fun hx =>
      Bool.eq_false_iff.2 fun hblank => not_caseless_of_letter hx (caseless_of_isBlank hblank)
    rw [hnot hc, hnot hd]

end SameLetter

/-! ## Texts -/

section Texts

variable {cs ds before before' rest rest' : List Char}

theorem forall₂_dropWhile {p : Char → Bool} (hp : ∀ {c d}, SameLetter c d → p c = p d)
    (h : List.Forall₂ SameLetter cs ds) :
    List.Forall₂ SameLetter (cs.dropWhile p) (ds.dropWhile p) := by
  induction h with
  | nil => exact .nil
  | @cons c d cs ds hcd h ih =>
      rw [List.dropWhile_cons, List.dropWhile_cons, hp hcd]
      split
      · exact ih
      · exact .cons hcd h

theorem forall₂_trimChars (h : List.Forall₂ SameLetter cs ds) :
    List.Forall₂ SameLetter (trimChars cs) (trimChars ds) := by
  have hfront := forall₂_dropWhile SameLetter.isBlank_eq h
  exact List.rel_reverse (forall₂_dropWhile SameLetter.isBlank_eq (List.rel_reverse hfront))

theorem startsCased_cons (c : Char) (cs : List Char) :
    startsCased (c :: cs) = if isCaseIgnorable c then startsCased cs else isCased c := by
  rw [startsCased, List.dropWhile_cons]
  by_cases hc : isCaseIgnorable c = true
  · rw [if_pos hc, if_pos hc, startsCased]
  · rw [if_neg hc, if_neg hc]

theorem startsCased_cons_eq {c d : Char} (hcd : SameLetter c d)
    (h : startsCased cs = startsCased ds) : startsCased (c :: cs) = startsCased (d :: ds) := by
  rw [startsCased_cons, startsCased_cons, hcd.isCaseIgnorable_eq, hcd.isCased_eq, h]

theorem startsCased_eq (h : List.Forall₂ SameLetter cs ds) : startsCased cs = startsCased ds := by
  induction h with
  | nil => rfl
  | cons hcd _ ih => exact startsCased_cons_eq hcd ih

/-! ## Ends of words -/

/-- Whether a word ends at a place of a text, where `before` is the text in front of it, read
backwards: a letter stands before the place, and none after it. -/
def WordEnds (before cs : List Char) (i : Nat) : Prop :=
  startsCased ((cs.take i).reverse ++ before) = true ∧ startsCased (cs.drop (i + 1)) = false

instance (before cs : List Char) (i : Nat) : Decidable (WordEnds before cs i) :=
  inferInstanceAs (Decidable (_ ∧ _))

theorem wordEnds_zero_iff {c : Char} : WordEnds before (c :: cs) 0 ↔
    startsCased before = true ∧ startsCased cs = false :=
  Iff.rfl

theorem wordEnds_succ_iff {c : Char} {i : Nat} : WordEnds before (c :: cs) (i + 1) ↔
    WordEnds (c :: before) cs i := by
  rw [WordEnds, List.take_succ_cons, List.reverse_cons, List.append_assoc, List.drop_succ_cons]
  rfl

theorem lowerSigma_eq_small_iff : lowerSigma before rest = 'σ' ↔
    ¬ (startsCased before = true ∧ startsCased rest = false) := by
  rw [lowerSigma]
  cases startsCased before <;> cases startsCased rest <;> decide

/-- At the end of a word a capital sigma has a lower case of its own, and nothing else has. -/
theorem lowerAt_eq_iff {c d : Char} (hcd : SameLetter c d)
    (hbefore : startsCased before = startsCased before')
    (hrest : startsCased rest = startsCased rest') :
    lowerAt before rest c = lowerAt before' rest' d ↔
      (startsCased before = true ∧ startsCased rest = false → (c = 'Σ' ↔ d = 'Σ')) := by
  have hsmall : lowerAlone 'Σ' = ['σ'] := by decide +kernel
  by_cases hc : c = 'Σ' <;> by_cases hd : d = 'Σ'
  · simp [lowerAt, hc, hd, lowerSigma, hbefore, hrest]
  · subst hc
    rw [lowerAt, if_pos rfl, lowerAt, if_neg hd, ← hcd, hsmall, List.singleton_inj,
      lowerSigma_eq_small_iff]
    simp [hd]
  · subst hd
    rw [lowerAt, if_neg hc, lowerAt, if_pos rfl, hcd, hsmall, List.singleton_inj, eq_comm,
      lowerSigma_eq_small_iff, hbefore, hrest]
    simp [hc]
  · have hsame : lowerAlone c = lowerAlone d := hcd
    simp [lowerAt, hc, hd, hsame]

/-- **Lower case.**  Texts that differ in letter case at most have the same lower case exactly when
they have capital sigmas at the same ends of words.  Induction on the texts. -/
theorem lowercaseFrom_eq_iff (h : List.Forall₂ SameLetter cs ds)
    (hbefore : startsCased before = startsCased before') :
    lowercaseFrom before cs = lowercaseFrom before' ds ↔
      ∀ i, WordEnds before cs i → (cs[i]? = some 'Σ' ↔ ds[i]? = some 'Σ') := by
  induction h generalizing before before' with
  | nil => simp [lowercaseFrom]
  | @cons c d cs ds hcd h ih =>
      have hlength : (lowerAt before cs c).length = (lowerAt before' ds d).length := by
        rw [length_lowerAt, length_lowerAt, hcd]
      have hparts : lowerAt before cs c ++ lowercaseFrom (c :: before) cs =
          lowerAt before' ds d ++ lowercaseFrom (d :: before') ds ↔
          lowerAt before cs c = lowerAt before' ds d ∧
            lowercaseFrom (c :: before) cs = lowercaseFrom (d :: before') ds :=
        ⟨fun happend => List.append_inj happend hlength, fun heq => by rw [heq.1, heq.2]⟩
      rw [lowercaseFrom_cons, lowercaseFrom_cons, hparts,
        lowerAt_eq_iff hcd hbefore (startsCased_eq h), ih (startsCased_cons_eq hcd hbefore)]
      refine Iff.trans (and_congr ?_ (forall_congr' fun i => ?_)) Nat.and_forall_add_one
      · rw [wordEnds_zero_iff, List.getElem?_cons_zero, List.getElem?_cons_zero, Option.some_inj,
          Option.some_inj]
      · rw [wordEnds_succ_iff, List.getElem?_cons_succ, List.getElem?_cons_succ]

end Texts

end Polyglot.Text
