/-!
# Polyglot.Text.Numeral

Decimal numerals for 64-bit integers: one optional sign, then one or more ASCII digits, and
nothing else.  A numeral outside the 64-bit range is refused.
-/

namespace Polyglot.Text

/-- The value of a digit. -/
def digitValue? (c : Char) : Option Nat :=
  if c.isDigit then some (c.toNat - '0'.toNat) else none

/-- The number whose leading digits have the value `acc` and whose other digits are given. -/
def digitsFrom (acc : Nat) : List Char → Option Nat
  | [] => some acc
  | c :: cs =>
    match digitValue? c with
    | none => none
    | some d => digitsFrom (10 * acc + d) cs

/-- A natural number written in one or more digits. -/
def readNat? : List Char → Option Nat
  | [] => none
  | cs => digitsFrom 0 cs

/-- An integer with an optional sign. -/
def readInt? : List Char → Option Int
  | '+' :: cs => (readNat? cs).map Int.ofNat
  | '-' :: cs => (readNat? cs).map fun n => -Int.ofNat n
  | cs => (readNat? cs).map Int.ofNat

/-- A 64-bit integer; a numeral out of range is no number. -/
def readInt64? (s : String) : Option Int64 :=
  match readInt? s.toList with
  | none => none
  | some n =>
    if Int64.minValue.toInt ≤ n ∧ n ≤ Int64.maxValue.toInt then some (Int64.ofInt n) else none

/-- The decimal numeral of a 64-bit integer. -/
def writeInt64 (n : Int64) : String := toString n.toInt

end Polyglot.Text
