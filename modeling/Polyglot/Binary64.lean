import Polyglot.Text.Hexadecimal

/-!
# Polyglot.Binary64

Double-precision numbers by their IEEE 754 bits: one sign bit, eleven exponent bits, fifty-two
fraction bits.  The library never computes with them; it stores them, compares them and writes
them, and all three are defined on the bits.
-/

namespace Polyglot

/-- A double-precision number. -/
structure Binary64 where
  bits : UInt64
  deriving DecidableEq, Inhabited

namespace Binary64

/-- The number whose bits have the given hexadecimal digits. -/
def ofHex (s : String) : Binary64 := ⟨UInt64.ofNat (Text.readHex s.toList)⟩

/-- The sixteen hexadecimal digits of the bits. -/
def toHex (x : Binary64) : String := Text.writeHex 16 x.bits.toNat

/-- Whether the sign bit is set. -/
def isNegative (x : Binary64) : Bool := Nat.pow 2 63 ≤ x.bits.toNat

/-- The eleven exponent bits. -/
def exponentField (x : Binary64) : Nat := x.bits.toNat / Nat.pow 2 52 % Nat.pow 2 11

/-- The fifty-two fraction bits. -/
def fraction (x : Binary64) : Nat := x.bits.toNat % Nat.pow 2 52

/-- Whether the bits stand for no number. -/
def isNaN (x : Binary64) : Bool := x.exponentField = 2047 ∧ x.fraction ≠ 0

/-- Whether the bits stand for an infinity. -/
def isInfinite (x : Binary64) : Bool := x.exponentField = 2047 ∧ x.fraction = 0

/-- Whether the bits stand for zero, of either sign. -/
def isZero (x : Binary64) : Bool := x.exponentField = 0 ∧ x.fraction = 0

/-- Equality of numbers: a NaN equals nothing, the two zeros are equal, and otherwise equal
numbers have equal bits. -/
def same (x y : Binary64) : Bool :=
  !x.isNaN && !y.isNaN && (x.bits = y.bits || x.isZero && y.isZero)

/-- The significand `m` and the exponent `q` of a finite number, whose size is `m * 2 ^ q`. -/
def parts (x : Binary64) : Nat × Int :=
  if x.exponentField = 0 then (x.fraction, -1074)
  else (x.fraction + Nat.pow 2 52, (x.exponentField : Int) - 1075)

end Binary64

end Polyglot
