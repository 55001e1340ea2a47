/-!
# Polyglot.Text.Hexadecimal

Numbers and bytes written in hexadecimal digits, which may be small or capital when they are
read and are small when they are written.
-/

namespace Polyglot.Text

/-- The value of a hexadecimal digit. -/
def hexValue? (c : Char) : Option Nat :=
  if '0' ≤ c ∧ c ≤ '9' then some (c.toNat - '0'.toNat)
  else if 'a' ≤ c ∧ c ≤ 'f' then some (c.toNat - 'a'.toNat + 10)
  else if 'A' ≤ c ∧ c ≤ 'F' then some (c.toNat - 'A'.toNat + 10)
  else none

/-- The number with the given digits; what is no digit counts as a zero. -/
def readHex (cs : List Char) : Nat := cs.foldl (fun n c => 16 * n + (hexValue? c).getD 0) 0

/-- The digits of a number, padded with zeros to a width. -/
def writeHex (width n : Nat) : String :=
  let digits := Nat.toDigits 16 n
  String.ofList (List.replicate (width - digits.length) '0' ++ digits)

/-- The bytes with the given digits, two a byte; an odd digit at the end is left out. -/
def readHexBytes : List Char → List UInt8
  | a :: b :: cs => UInt8.ofNat (readHex [a, b]) :: readHexBytes cs
  | _ => []

end Polyglot.Text
