import Polyglot.Binary64.Decimal
import Polyglot.Json.Reading

/-!
# Polyglot.Json.Number

Reading JSON numbers.  A number without point and exponent is an integer if it fits into 64 bits;
any other number is read in double precision, by scaling the digits that fit into 64 bits with a
power of ten.  That can miss the nearest double-precision number by its last bit.  Negative zero
is a number in double precision.
-/

namespace Polyglot.Json

/-- A JSON number. -/
inductive Number where
  | natural (n : Nat)
  | negative (n : Nat)
  | float (x : Binary64)
  deriving DecidableEq

/-- The greatest 64-bit significand. -/
def maxSignificand : Nat := UInt64.size - 1

/-- The digits at the front of a text, and the rest. -/
def spanDigits (cs : List Char) : List Char × List Char := cs.span Char.isDigit

/-- Append digits to a significand as long as it fits into 64 bits: the significand, and how many
digits were left over. -/
def appendDigits (significand : Nat) : List Char → Nat × Nat
  | [] => (significand, 0)
  | d :: ds =>
    let next := 10 * significand + (d.toNat - '0'.toNat)
    if next ≤ maxSignificand then appendDigits next ds else (significand, ds.length + 1)

/-- A power of ten in double precision. -/
def powerOfTen (n : Nat) : Float := Float.ofScientific 1 false n

/-- Scale down by a power of ten; powers beyond the range are applied in steps. -/
def scaleDown : Nat → Float → Nat → Float
  | 0, f, _ => f
  | steps + 1, f, n =>
    if n ≤ 308 then f / powerOfTen n
    else if f == 0 then f
    else scaleDown steps (f / powerOfTen 308) (n - 308)

/-- The number `significand * 10 ^ exponent`, unless it is out of range. -/
def ofParts (negative : Bool) (significand : Nat) (exponent : Int) : Except Fault Number :=
  let f := (UInt64.ofNat significand).toFloat
  let signed (x : Float) : Number := .float ⟨(if negative then -x else x).toBits⟩
  if exponent < 0 then .ok (signed (scaleDown 4 f (-exponent).toNat))
  else if 308 < exponent then if significand = 0 then .ok (signed f) else .error .malformed
  else
    let x := f * powerOfTen exponent.toNat
    if x.isInf then .error .malformed else .ok (signed x)

/-- The exponent, whose letter was read. -/
def readExponent (negative : Bool) (significand : Nat) (before : Int) : Reader Number := fun cs =>
  let (down, cs) := match cs with
    | '+' :: cs => (false, cs)
    | '-' :: cs => (true, cs)
    | cs => (false, cs)
  match spanDigits cs with
  | ([], []) => .error .ended
  | ([], _ :: _) => .error .malformed
  | (ds, rest) =>
    let n := ds.foldl (fun n d => 10 * n + (d.toNat - '0'.toNat)) 0
    if Nat.pow 2 31 ≤ n then
      if significand ≠ 0 ∧ !down then .error .malformed
      else (ofParts negative 0 0).map fun x => (x, rest)
    else (ofParts negative significand (if down then before - n else before + n)).map fun x =>
      (x, rest)

/-- An exponent, if there is one. -/
def readTail (negative : Bool) (significand : Nat) (exponent : Int) : Reader Number
  | 'e' :: cs => readExponent negative significand exponent cs
  | 'E' :: cs => readExponent negative significand exponent cs
  | cs => (ofParts negative significand exponent).map fun x => (x, cs)

/-- The digits after the point, which was read, and an exponent. -/
def readFraction (negative : Bool) (significand : Nat) (before : Int) : Reader Number := fun cs =>
  match spanDigits cs with
  | ([], []) => .error .ended
  | ([], _ :: _) => .error .malformed
  | (ds, rest) =>
    let (s, left) := appendDigits significand ds
    readTail negative s (before - (ds.length - left)) rest

/-- An integer that fits into 64 bits, of the given sign. -/
def ofInteger (isNegative : Bool) (n : Nat) : Except Fault Number :=
  if !isNegative then .ok (.natural n)
  else if n = 0 ∨ Nat.pow 2 63 < n then ofParts true n 0
  else .ok (.negative n)

/-- A number whose sign was read. -/
def readUnsigned (negative : Bool) : Reader Number := fun cs =>
  match spanDigits cs with
  | ([], []) => .error .ended
  | ([], _ :: _) => .error .malformed
  | ('0' :: _ :: _, _) => .error .malformed
  | (ds, rest) =>
    let (s, left) := appendDigits 0 ds
    match rest with
    | '.' :: rest => readFraction negative s left rest
    | 'e' :: rest => readExponent negative s left rest
    | 'E' :: rest => readExponent negative s left rest
    | rest =>
      (if left = 0 then ofInteger negative s else ofParts negative s left).map fun x => (x, rest)

/-! ## Numbers whose value does not matter -/

/-- Take one or more digits. -/
def skipDigits : Reader Unit := fun cs =>
  match spanDigits cs with
  | ([], _) => .error .malformed
  | (_, rest) => .ok ((), rest)

/-- Take an exponent, if there is one. -/
def skipExponent : Reader Unit := fun cs =>
  match cs with
  | [] => .ok ((), [])
  | c :: rest =>
    if c = 'e' ∨ c = 'E' then
      match rest with
      | '+' :: rest => skipDigits rest
      | '-' :: rest => skipDigits rest
      | rest => skipDigits rest
    else .ok ((), cs)

/-- Take a number whose sign was read. -/
def skipUnsigned : Reader Unit := fun cs =>
  match spanDigits cs with
  | ([], _) => .error .malformed
  | ('0' :: _ :: _, _) => .error .malformed
  | (_, '.' :: rest) =>
    match skipDigits rest with
    | .error e => .error e
    | .ok (_, rest) => skipExponent rest
  | (_, rest) => skipExponent rest

/-- Messages give a number in double precision by its even digits at a tie, positionally from
`10 ^ -5` up to `10 ^ 16` and with an exponent otherwise. -/
def messageStyle : Binary64.DecimalStyle := ⟨.even, Binary64.moderate⟩

/-- The number in messages. -/
def Number.describe : Number → String
  | natural n => "integer `" ++ toString n ++ "`"
  | negative n => "integer `-" ++ toString n ++ "`"
  | float x => "floating point `" ++ Binary64.writeIn messageStyle x ++ "`"

end Polyglot.Json
