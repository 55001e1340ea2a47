import Mathlib.Algebra.Field.Rat
import Mathlib.Algebra.GroupWithZero.Basic
import Mathlib.Tactic.NormNum
import Polyglot.Binary64

/-!
# Polyglot.Proofs.Value.Quantity

What the bits of a double-precision number stand for:

```
exponent e     fraction f     the bits stand for
0              f              ± f · 2 ^ -1074
1 to 2046      f              ± (2 ^ 52 + f) · 2 ^ (e - 1075)
2047           0              ± infinity
2047           not 0          nothing
```

Numbers are compared by their bits.  The main statement is that this compares what the bits stand
for (`same_iff`).  Every finite number is a whole multiple of the smallest positive one, and a
greater exponent makes a greater multiple (`units_lt_units`), so two sets of bits stand for one
number only if they are the same or both stand for zero.
-/

namespace Polyglot.Binary64

/-- What bits stand for: a number, or an infinity. -/
inductive Quantity where
  | finite (q : ℚ)
  | infinite (negative : Bool)
  deriving DecidableEq

/-- The sign of a number, as a factor. -/
def sign (x : Binary64) : ℚ := if x.isNegative then -1 else 1

/-- What the bits stand for, if they stand for anything. -/
def quantity? (x : Binary64) : Option Quantity :=
  if x.isNaN then none
  else if x.isInfinite then some (.infinite x.isNegative)
  else some (.finite (x.sign * (x.parts.1 * 2 ^ x.parts.2)))

theorem isSome_quantity? (x : Binary64) : x.quantity?.isSome = !x.isNaN := by
  cases hn : x.isNaN <;> cases hi : x.isInfinite <;> simp [quantity?, hn, hi]

/-! ## The fields of the bits -/

theorem fraction_lt (x : Binary64) : x.fraction < 2 ^ 52 := Nat.mod_lt _ (Nat.two_pow_pos 52)

/-- Sign, exponent and fraction are all there is. -/
theorem bits_eq_iff {x y : Binary64} :
    x.bits = y.bits ↔
      x.isNegative = y.isNegative ∧ x.exponentField = y.exponentField ∧
        x.fraction = y.fraction := by
  constructor
  · intro h
    simp [isNegative, exponentField, fraction, h]
  · intro h
    have hx := x.bits.toNat_lt
    have hy := y.bits.toNat_lt
    simp only [isNegative, exponentField, fraction, Nat.pow_eq, decide_eq_decide] at h
    have heq : x.bits.toNat = y.bits.toNat := by omega
    exact UInt64.toNat_inj.1 heq

/-! ## Multiples of the smallest positive number -/

/-- How many times the smallest positive number goes into the number with these fields. -/
def units (e f : Nat) : Nat := if e = 0 then f else (f + 2 ^ 52) * 2 ^ (e - 1)

/-- The smallest positive number. -/
def smallest : ℚ := 2 ^ (-1074 : ℤ)

theorem smallest_ne_zero : smallest ≠ 0 := zpow_ne_zero _ (by norm_num)

/-- A finite number is a whole multiple of the smallest positive one. -/
theorem parts_eq_units (x : Binary64) :
    (x.parts.1 : ℚ) * 2 ^ x.parts.2 = units x.exponentField x.fraction * smallest := by
  have hexponent : x.parts.2 = ((x.exponentField - 1 : ℕ) : ℤ) + (-1074) := by
    by_cases he : x.exponentField = 0 <;> simp [parts, he]
    omega
  have hunits : units x.exponentField x.fraction = x.parts.1 * 2 ^ (x.exponentField - 1) := by
    by_cases he : x.exponentField = 0 <;> simp [units, parts, he]
  have hpower : (2 : ℚ) ^ x.parts.2 = 2 ^ (x.exponentField - 1) * smallest := by
    rw [hexponent, zpow_add₀ (by norm_num), zpow_natCast, smallest]
  rw [hunits, hpower, Nat.cast_mul, Nat.cast_pow, Nat.cast_ofNat, mul_assoc]

theorem units_eq_zero_iff {e f : Nat} : units e f = 0 ↔ e = 0 ∧ f = 0 := by
  by_cases he : e = 0 <;> simp [units, he]

/-- A number with a greater exponent is greater. -/
theorem units_lt_units {e f e' : Nat} (hf : f < 2 ^ 52) (he : e < e') (f' : Nat) :
    units e f < units e' f' := by
  have habove : 2 ^ 52 * 2 ^ e ≤ units e' f' := by
    have hpower : 2 ^ e ≤ 2 ^ (e' - 1) := Nat.pow_le_pow_right (by decide) (by omega)
    rw [units, if_neg (by omega)]
    exact Nat.mul_le_mul (by omega) hpower
  have hbelow : units e f < 2 ^ 52 * 2 ^ e := by
    by_cases hzero : e = 0
    · simpa [units, hzero] using hf
    · have hpower : 2 ^ e = 2 * 2 ^ (e - 1) := by
        rw [← Nat.pow_succ', Nat.succ_eq_add_one, Nat.sub_add_cancel (by omega)]
      have hpos : 0 < 2 ^ (e - 1) := Nat.two_pow_pos _
      rw [units, if_neg hzero, hpower, ← Nat.mul_assoc]
      exact Nat.mul_lt_mul_of_pos_right (by omega) hpos
  omega

/-- The fields can be told from the number. -/
theorem units_inj {e f e' f' : Nat} (hf : f < 2 ^ 52) (hf' : f' < 2 ^ 52) :
    units e f = units e' f' ↔ e = e' ∧ f = f' := by
  constructor
  · intro h
    have he : e = e' := by
      rcases Nat.lt_trichotomy e e' with hlt | heq | hgt
      · have hunits := units_lt_units hf hlt f'
        omega
      · exact heq
      · have hunits := units_lt_units hf' hgt f
        omega
    subst he
    refine ⟨rfl, ?_⟩
    by_cases hzero : e = 0
    · simpa [units, hzero] using h
    · have hpos : 0 < 2 ^ (e - 1) := Nat.two_pow_pos _
      have hsum : f + 2 ^ 52 = f' + 2 ^ 52 := by
        simp only [units, if_neg hzero] at h
        exact Nat.eq_of_mul_eq_mul_right hpos h
      omega
  · rintro ⟨rfl, rfl⟩
    rfl

/-- Opposite signs leave only zero to both sides. -/
theorem signed_eq_iff (s t : Bool) (m n : Nat) :
    (if s then -1 else 1) * (m : ℚ) = (if t then -1 else 1) * n ↔
      s = t ∧ m = n ∨ m = 0 ∧ n = 0 := by
  cases s <;> cases t <;> simp <;> omega

theorem isZero_iff {x : Binary64} :
    x.isZero = true ↔ units x.exponentField x.fraction = 0 := by
  simp [isZero, units_eq_zero_iff]

/-- Finite numbers are equal if their bits are, or if both are zero. -/
theorem finite_eq_iff (x y : Binary64) :
    x.sign * (x.parts.1 * 2 ^ x.parts.2) = y.sign * (y.parts.1 * 2 ^ y.parts.2) ↔
      x.bits = y.bits ∨ x.isZero = true ∧ y.isZero = true := by
  rw [parts_eq_units, parts_eq_units, ← mul_assoc, ← mul_assoc, mul_left_inj' smallest_ne_zero,
    sign, sign, signed_eq_iff, bits_eq_iff, isZero_iff, isZero_iff,
    units_inj x.fraction_lt y.fraction_lt]

/-! ## Comparing numbers -/

/-- Infinities are equal if their bits are. -/
theorem infinite_eq_iff {x y : Binary64} (hx : x.isInfinite = true) (hy : y.isInfinite = true) :
    x.isNegative = y.isNegative ↔ x.bits = y.bits := by
  simp only [isInfinite, decide_eq_true_eq] at hx hy
  simp [bits_eq_iff, hx, hy]

theorem isInfinite_eq_of_bits {x y : Binary64} (h : x.bits = y.bits) :
    x.isInfinite = y.isInfinite := by
  rw [isInfinite, isInfinite, (bits_eq_iff.1 h).2.1, (bits_eq_iff.1 h).2.2]

theorem isInfinite_of_isZero {x : Binary64} (h : x.isZero = true) : x.isInfinite = false := by
  simp only [isZero, decide_eq_true_eq] at h
  simp [isInfinite, h]

theorem quantity?_of_isInfinite {x : Binary64} (hn : x.isNaN = false) (hi : x.isInfinite = true) :
    x.quantity? = some (.infinite x.isNegative) := by
  simp [quantity?, hn, hi]

theorem quantity?_of_finite {x : Binary64} (hn : x.isNaN = false) (hi : x.isInfinite = false) :
    x.quantity? = some (.finite (x.sign * (x.parts.1 * 2 ^ x.parts.2))) := by
  simp [quantity?, hn, hi]

/-- Numbers that stand for something stand for the same exactly when their bits are equal or both
are zero. -/
theorem quantity?_eq_iff {x y : Binary64} (hx : x.isNaN = false) (hy : y.isNaN = false) :
    x.quantity? = y.quantity? ↔ x.bits = y.bits ∨ x.isZero = true ∧ y.isZero = true := by
  cases hxi : x.isInfinite <;> cases hyi : y.isInfinite
  · rw [quantity?_of_finite hx hxi, quantity?_of_finite hy hyi, ← finite_eq_iff, Option.some_inj,
      Quantity.finite.injEq]
  · have hbits : x.bits ≠ y.bits := fun h => by simp [isInfinite_eq_of_bits h, hyi] at hxi
    have hzero : y.isZero ≠ true := fun h => by simp [isInfinite_of_isZero h] at hyi
    simp [quantity?_of_finite hx hxi, quantity?_of_isInfinite hy hyi, hbits, hzero]
  · have hbits : x.bits ≠ y.bits := fun h => by simp [isInfinite_eq_of_bits h, hyi] at hxi
    have hzero : x.isZero ≠ true := fun h => by simp [isInfinite_of_isZero h] at hxi
    simp [quantity?_of_isInfinite hx hxi, quantity?_of_finite hy hyi, hbits, hzero]
  · have hzero : x.isZero ≠ true := fun h => by simp [isInfinite_of_isZero h] at hxi
    simp [quantity?_of_isInfinite hx hxi, quantity?_of_isInfinite hy hyi, hzero,
      infinite_eq_iff hxi hyi]

/-- **Comparing bits compares numbers**: two numbers are the same when their bits stand for
something, and for the same. -/
theorem same_iff {x y : Binary64} :
    x.same y = true ↔ ∃ q, x.quantity? = some q ∧ y.quantity? = some q := by
  cases hx : x.isNaN
  case true => simp [same, quantity?, hx]
  cases hy : y.isNaN
  case true => simp [same, quantity?, hy]
  have hsame : x.same y = true ↔ x.quantity? = y.quantity? := by
    simp [same, hx, hy, quantity?_eq_iff hx hy]
  obtain ⟨q, hq⟩ : ∃ q, x.quantity? = some q := by
    rw [← Option.isSome_iff_exists, isSome_quantity?, hx, Bool.not_false]
  rw [hsame, hq]
  simp [eq_comm]

end Polyglot.Binary64
