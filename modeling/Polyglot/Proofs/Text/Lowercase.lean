import Mathlib.Data.List.Basic
import Polyglot.Text.Lowercase
import Polyglot.Proofs.Text.Trimming

/-!
# Polyglot.Proofs.Text.Lowercase

What lower case leaves alone.  The table of runs has capitals on one side, and there are the
characters that lower case gives on the other.  Two facts about these sets decide everything:

```
capitals, the dotted capital I    are given for nothing
blanks and the dot                are no capitals, and are given for nothing else
```

So lower case has no effect on a text in lower case (`lowercase_lowercase`), and it neither takes
blanks from the ends of a text nor puts any there (`trimmed_lowercaseFrom`).  It leaves no
character out, so that it tells a text from what stands at its end (`eq_of_lowercaseFrom_eq`).
-/

namespace Polyglot.Text

/-! ## Sets of code points -/

/-- A set of code points as the bits of one number, so that whole sets are compared at once. -/
def bits (ns : List Nat) : Nat := ns.foldr (fun n m => 1 <<< n ||| m) 0

theorem testBit_bits (ns : List Nat) (n : Nat) : (bits ns).testBit n = decide (n ∈ ns) := by
  induction ns with
  | nil => simp [bits]
  | cons m ns ih =>
      have hm : (1 <<< m).testBit n = decide (n = m) := by
        rw [Nat.one_shiftLeft, Nat.testBit_two_pow]
        exact decide_eq_decide.2 eq_comm
      rw [bits, List.foldr_cons, ← bits, Nat.testBit_or, ih, hm]
      simp

theorem disjoint_of_bits {ns ms : List Nat} (h : bits ns &&& bits ms = 0) : ns.Disjoint ms := by
  intro n hn hm
  have hbit := congrArg (Nat.testBit · n) h
  simp [Nat.testBit_and, testBit_bits, hn, hm] at hbit

/-! ## The table -/

/-- The letters of a run, from its first one on. -/
def lettersFrom (first count step : Nat) : List Nat :=
  (List.range count).map fun k => first + step * k

/-- The code points that have a lower case in the table. -/
def capitals : List Nat := lowercaseRuns.flatMap fun (first, last, step, _) =>
  lettersFrom first ((last - first) / step + 1) step

/-- The code points that are the lower case of others in the table. -/
def images : List Nat := lowercaseRuns.flatMap fun (first, last, step, image) =>
  lettersFrom image ((last - first) / step + 1) step

/-- The code points that lower case gives for others: besides the images, the two characters of a
dotted capital I and the two sigmas. -/
def given : List Nat := images ++ [0x69, 0x307, 0x3C2, 0x3C3]

/-- The code points of blanks, and of the dot. -/
def caseless : List Nat :=
  [0x9, 0xA, 0xB, 0xC, 0xD, 0x20, 0x2E, 0x85, 0xA0, 0x1680, 0x2000, 0x2001, 0x2002, 0x2003, 0x2004,
    0x2005, 0x2006, 0x2007, 0x2008, 0x2009, 0x200A, 0x2028, 0x2029, 0x202F, 0x205F, 0x3000]

theorem capitals_disjoint : capitals.Disjoint (given ++ caseless) :=
  disjoint_of_bits (by decide +kernel)

theorem given_disjoint : given.Disjoint (0x130 :: caseless) :=
  disjoint_of_bits (by decide +kernel)

theorem isValidChar_of_mem_images : ∀ n ∈ images, n.isValidChar := by
  decide +kernel

theorem of_lowercaseIn?_eq_some {n m first last step image : Nat}
    (h : lowercaseIn? n (first, last, step, image) = some m) :
    first ≤ n ∧ n ≤ last ∧ (n - first) % step = 0 ∧ m = image + (n - first) := by
  simp only [lowercaseIn?] at h
  split at h
  · next hin =>
      simp only [Bool.and_eq_true, decide_eq_true_eq, beq_iff_eq] at hin
      exact ⟨hin.1.1, hin.1.2, hin.2, (Option.some.inj h).symm⟩
  · cases h

theorem mem_of_lowercaseIn? {r : Nat × Nat × Nat × Nat} {n m : Nat} (hr : r ∈ lowercaseRuns)
    (h : lowercaseIn? n r = some m) : n ∈ capitals ∧ m ∈ images := by
  obtain ⟨first, last, step, image⟩ := r
  obtain ⟨hfirst, hlast, hstep, rfl⟩ := of_lowercaseIn?_eq_some h
  have hk : (n - first) / step ∈ List.range ((last - first) / step + 1) := by
    rw [List.mem_range, Nat.lt_succ_iff]
    exact Nat.div_le_div_right (by omega)
  have hoffset : step * ((n - first) / step) = n - first :=
    Nat.mul_div_cancel' (Nat.dvd_of_mod_eq_zero hstep)
  constructor
  · refine List.mem_flatMap.2 ⟨_, hr, List.mem_map.2 ⟨_, hk, ?_⟩⟩
    omega
  · refine List.mem_flatMap.2 ⟨_, hr, List.mem_map.2 ⟨_, hk, ?_⟩⟩
    omega

/-! ## One letter -/

theorem toNat_ofNat {n : Nat} (h : n.isValidChar) : (Char.ofNat n).toNat = n := by
  rw [Char.ofNat, dif_pos h]
  rfl

/-- The first run is that of the ASCII capitals. -/
theorem toLower_cases (c : Char) :
    c.toLower = c ∨ c.toNat ∈ capitals ∧ c.toLower.toNat ∈ images := by
  by_cases h : 'A'.val ≤ c.val ∧ c.val ≤ 'Z'.val
  · right
    have hfirst : 0x41 ≤ c.toNat := UInt32.le_iff_toNat_le.1 h.1
    have hlast : c.toNat ≤ 0x5A := UInt32.le_iff_toNat_le.1 h.2
    have hlower : c.toLower.toNat = c.toNat + 0x20 := by
      refine (congrArg Char.toNat (dif_pos h)).trans ?_
      show (c.val + 0x20).toNat = c.val.toNat + 0x20
      rw [UInt32.toNat_add]
      exact Nat.mod_eq_of_lt (Nat.lt_of_le_of_lt (Nat.add_le_add_right hlast _) (by decide))
    have hrun : lowercaseIn? c.toNat (0x41, 0x5A, 1, 0x61) = some c.toLower.toNat := by
      simp only [lowercaseIn?, hfirst, hlast, hlower, Nat.mod_one]
      simp
      omega
    exact mem_of_lowercaseIn? List.mem_cons_self hrun
  · left
    exact dif_neg h

/-- The lower case of a letter is the letter itself, or an image. -/
theorem lowerLetter_cases (c : Char) :
    lowerLetter c = c ∨ c.toNat ∈ capitals ∧ (lowerLetter c).toNat ∈ images := by
  rw [lowerLetter]
  split
  · exact toLower_cases c
  · split
    · next n hn =>
        obtain ⟨r, hr, hrun⟩ := List.exists_of_findSome?_eq_some hn
        have hmem := mem_of_lowercaseIn? hr hrun
        rw [toNat_ofNat (isValidChar_of_mem_images n hmem.2)]
        exact .inr hmem
    · exact .inl rfl

theorem lowerLetter_of_not_mem {c : Char} (h : c.toNat ∉ capitals) : lowerLetter c = c :=
  (lowerLetter_cases c).resolve_right fun hmem => h hmem.1

/-- Whether a character is its own lower case wherever it stands. -/
def IsLower (c : Char) : Prop := c ≠ 'Σ' ∧ lowerAlone c = [c]

theorem lowerAlone_of_ne {c : Char} (h : c.toNat ≠ 0x130) : lowerAlone c = [lowerLetter c] :=
  if_neg h

theorem isLower_of_not_mem {c : Char} (h : c.toNat ∉ capitals) (hdotted : c.toNat ≠ 0x130) :
    IsLower c := by
  constructor
  · rintro rfl
    exact h (mem_of_lowercaseIn? (r := (0x3A3, 0x3AB, 1, 0x3C3)) (m := 0x3C3)
      (by decide +kernel) (by decide)).1
  · rw [lowerAlone_of_ne hdotted, lowerLetter_of_not_mem h]

theorem isLower_of_given {c : Char} (h : c.toNat ∈ given) : IsLower c := by
  apply isLower_of_not_mem
  · exact fun hcapital => capitals_disjoint hcapital (List.mem_append_left _ h)
  · exact fun hdotted => given_disjoint h (by simp [hdotted])

theorem isLower_of_caseless {c : Char} (h : c.toNat ∈ caseless) : IsLower c := by
  apply isLower_of_not_mem
  · exact fun hcapital => capitals_disjoint hcapital (List.mem_append_right _ h)
  · intro hdotted
    rw [hdotted] at h
    revert h
    decide

/-! ## One character in a text -/

/-- The lower case of a character between others. -/
def lowerAt (before rest : List Char) (c : Char) : List Char :=
  if c = 'Σ' then [lowerSigma before rest] else lowerAlone c

theorem lowercaseFrom_cons (before rest : List Char) (c : Char) :
    lowercaseFrom before (c :: rest) = lowerAt before rest c ++ lowercaseFrom (c :: before) rest :=
  rfl

section LowerAt

variable {before rest : List Char} {c d x : Char}

theorem lowerAt_of_isLower (h : IsLower c) : lowerAt before rest c = [c] := by
  rw [lowerAt, if_neg h.1, h.2]

theorem given_lowerSigma (before after : List Char) : (lowerSigma before after).toNat ∈ given := by
  apply List.mem_append_right
  rw [lowerSigma]
  split <;> decide

/-- A character is left as it is, or it is replaced by others. -/
theorem lowerAt_cases (before rest : List Char) (c : Char) :
    IsLower c ∨ lowerAt before rest c ≠ [] ∧ ∀ x ∈ lowerAt before rest c, x.toNat ∈ given := by
  by_cases hsigma : c = 'Σ'
  · right
    simp [lowerAt, hsigma, given_lowerSigma]
  · rw [lowerAt, if_neg hsigma]
    by_cases hdotted : c.toNat = 0x130
    · right
      rw [lowerAlone, if_pos hdotted]
      refine ⟨by simp, fun x hx => List.mem_append_right _ ?_⟩
      simp only [List.mem_cons, List.not_mem_nil, or_false] at hx
      rcases hx with rfl | rfl <;> decide
    · rw [lowerAlone_of_ne hdotted]
      rcases lowerLetter_cases c with hsame | ⟨-, himage⟩
      · left
        exact ⟨hsigma, by rw [lowerAlone_of_ne hdotted, hsame]⟩
      · right
        simp [given, himage]

theorem lowerAt_ne_nil (before rest : List Char) (c : Char) : lowerAt before rest c ≠ [] := by
  rcases lowerAt_cases before rest c with h | h
  · simp [lowerAt_of_isLower h]
  · exact h.1

theorem isLower_of_mem_lowerAt (h : x ∈ lowerAt before rest c) : IsLower x := by
  rcases lowerAt_cases before rest c with hc | ⟨-, hgiven⟩
  · rw [lowerAt_of_isLower hc, List.mem_singleton] at h
    rwa [h]
  · exact isLower_of_given (hgiven x h)

/-- A blank or a dot is the lower case of itself only. -/
theorem eq_of_caseless (hd : d.toNat ∈ caseless) (h : d ∈ lowerAt before rest c) : d = c := by
  rcases lowerAt_cases before rest c with hc | ⟨-, hgiven⟩
  · rwa [lowerAt_of_isLower hc, List.mem_singleton] at h
  · exact absurd (List.mem_cons_of_mem _ hd) (given_disjoint (hgiven d h))

end LowerAt

/-! ## Texts -/

theorem lowercaseFrom_of_isLower {cs : List Char} (h : ∀ c ∈ cs, IsLower c) (before : List Char) :
    lowercaseFrom before cs = cs := by
  induction cs generalizing before with
  | nil => rfl
  | cons c cs ih =>
      have hc := h c List.mem_cons_self
      rw [lowercaseFrom_cons, lowerAt_of_isLower hc, ih fun x hx => h x (List.mem_cons_of_mem c hx)]
      rfl

theorem isLower_of_mem_lowercaseFrom {cs before : List Char} {x : Char}
    (h : x ∈ lowercaseFrom before cs) : IsLower x := by
  induction cs generalizing before with
  | nil => simp [lowercaseFrom] at h
  | cons c cs ih =>
      rw [lowercaseFrom_cons, List.mem_append] at h
      rcases h with h | h
      · exact isLower_of_mem_lowerAt h
      · exact ih h

@[simp] theorem toList_lowercase (s : String) :
    (lowercase s).toList = lowercaseFrom [] s.toList :=
  String.toList_ofList

/-- Lower case has no effect on a text in lower case. -/
theorem lowercase_lowercase (s : String) : lowercase (lowercase s) = lowercase s := by
  have hlower : ∀ c ∈ (lowercase s).toList, IsLower c := by
    intro c hc
    rw [toList_lowercase] at hc
    exact isLower_of_mem_lowercaseFrom hc
  rw [lowercase, lowercaseFrom_of_isLower hlower, String.ofList_toList]

theorem lowercaseFrom_eq_nil_iff {before cs : List Char} :
    lowercaseFrom before cs = [] ↔ cs = [] := by
  cases cs with
  | nil => simp [lowercaseFrom]
  | cons c cs => simp [lowercaseFrom_cons, lowerAt_ne_nil]

section Ends

variable {d : Char} (hd : d.toNat ∈ caseless)

include hd

theorem head?_lowerAt_iff (before rest : List Char) (c : Char) :
    (lowerAt before rest c).head? = some d ↔ c = d := by
  constructor
  · intro h
    exact (eq_of_caseless hd (List.mem_of_head? h)).symm
  · rintro rfl
    simp [lowerAt_of_isLower (isLower_of_caseless hd)]

theorem getLast?_lowerAt_iff (before rest : List Char) (c : Char) :
    (lowerAt before rest c).getLast? = some d ↔ c = d := by
  constructor
  · intro h
    exact (eq_of_caseless hd (List.mem_of_getLast? h)).symm
  · rintro rfl
    simp [lowerAt_of_isLower (isLower_of_caseless hd)]

theorem head?_lowercaseFrom (before cs : List Char) :
    (lowercaseFrom before cs).head? = some d ↔ cs.head? = some d := by
  cases cs with
  | nil => simp [lowercaseFrom]
  | cons c cs =>
      have hsome : (lowerAt before cs c).head? ≠ none := by simp [lowerAt_ne_nil]
      rw [lowercaseFrom_cons, List.head?_append,
        Option.or_of_isSome (Option.isSome_iff_ne_none.2 hsome),
        head?_lowerAt_iff hd, List.head?_cons, Option.some_inj]

/-- Induction on the text. -/
theorem getLast?_lowercaseFrom (before cs : List Char) :
    (lowercaseFrom before cs).getLast? = some d ↔ cs.getLast? = some d := by
  induction cs generalizing before with
  | nil => simp [lowercaseFrom]
  | cons c cs ih =>
      rw [lowercaseFrom_cons, List.getLast?_append]
      cases cs with
      | nil => simp [lowercaseFrom, getLast?_lowerAt_iff hd]
      | cons x xs =>
          have hsome : (lowercaseFrom (c :: before) (x :: xs)).getLast? ≠ none := by
            simp [lowercaseFrom_eq_nil_iff]
          rw [Option.or_of_isSome (Option.isSome_iff_ne_none.2 hsome), ih, List.getLast?_cons_cons]

end Ends

theorem lowercaseFrom_dot (before cs : List Char) :
    lowercaseFrom before ('.' :: cs) = '.' :: lowercaseFrom ('.' :: before) cs := by
  rw [lowercaseFrom_cons, lowerAt_of_isLower (isLower_of_caseless (by decide))]
  rfl

theorem caseless_of_isBlank {c : Char} (h : isBlank c = true) : c.toNat ∈ caseless := by
  simp only [isBlank, Bool.or_eq_true, Bool.and_eq_true, decide_eq_true_eq, beq_iff_eq] at h
  simp only [caseless, List.mem_cons, List.not_mem_nil, or_false]
  omega

/-- Lower case neither takes blanks from the ends of a text nor puts any there. -/
theorem trimmed_lowercaseFrom {cs : List Char} (h : Trimmed cs) (before : List Char) :
    Trimmed (lowercaseFrom before cs) := by
  constructor
  · intro c hc
    by_contra hblank
    have hcaseless := caseless_of_isBlank (by simpa using hblank)
    exact hblank (h.head c ((head?_lowercaseFrom hcaseless before cs).1 hc))
  · intro c hc
    by_contra hblank
    have hcaseless := caseless_of_isBlank (by simpa using hblank)
    exact hblank (h.last c ((getLast?_lowercaseFrom hcaseless before cs).1 hc))

/-! ## Length -/

theorem length_lowerAlone (c : Char) :
    (lowerAlone c).length = if c.toNat = 0x130 then 2 else 1 := by
  rw [lowerAlone]
  split <;> rfl

/-- What stands around a character has no effect on the length of its lower case. -/
theorem length_lowerAt (before rest : List Char) (c : Char) :
    (lowerAt before rest c).length = (lowerAlone c).length := by
  by_cases hc : c = 'Σ'
  · rw [lowerAt, if_pos hc, hc, length_lowerAlone]
    rfl
  · rw [lowerAt, if_neg hc]

/-- What stands in front of a text has no effect on its length in lower case. -/
theorem length_lowercaseFrom_eq (before before' cs : List Char) :
    (lowercaseFrom before cs).length = (lowercaseFrom before' cs).length := by
  induction cs generalizing before before' with
  | nil => rfl
  | cons c cs ih =>
      rw [lowercaseFrom_cons, lowercaseFrom_cons, List.length_append, List.length_append,
        length_lowerAt, length_lowerAt, ih]

theorem length_lowercaseFrom_append (before front cs : List Char) :
    front.length + (lowercaseFrom before cs).length ≤
      (lowercaseFrom before (front ++ cs)).length := by
  induction front generalizing before with
  | nil => simp
  | cons c front ih =>
      have hc := List.length_pos_iff.2 (lowerAt_ne_nil before (front ++ cs) c)
      have hrest := ih (c :: before)
      have hsame := length_lowercaseFrom_eq before (c :: before) cs
      rw [List.cons_append, lowercaseFrom_cons, List.length_append, List.length_cons]
      omega

/-- Lower case tells a text from what stands at its end. -/
theorem eq_of_lowercaseFrom_eq {before cs ds : List Char} (hsuffix : ds <:+ cs)
    (h : lowercaseFrom before ds = lowercaseFrom before cs) : ds = cs := by
  obtain ⟨front, rfl⟩ := hsuffix
  have hlength := length_lowercaseFrom_append before front ds
  rw [← h] at hlength
  have hfront : front = [] := List.length_eq_zero_iff.1 (by omega)
  rw [hfront, List.nil_append]

theorem trim_lowercase_trim (s : String) : trim (lowercase (trim s)) = lowercase (trim s) := by
  have htrimmed : Trimmed (lowercase (trim s)).toList := by
    rw [toList_lowercase, toList_trim]
    exact trimmed_lowercaseFrom (trimmed_trimChars _) []
  rw [trim, trimChars_of_trimmed htrimmed, String.ofList_toList]

end Polyglot.Text
