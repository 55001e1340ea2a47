import Polyglot.Binary64

/-!
# Polyglot.Binary64.Decimal

The fewest decimal digits that read back as a given double-precision number, and the styles in
which the library writes them.

A finite number `m * 2 ^ q` is what every real number in an interval around it rounds to: half
way to the neighbour above, and half way to the neighbour below, which is twice as near when `m`
is the least normal significand.  The ends belong to the interval when `m` is even.  For one
digit, two digits, and so on, the decimal grid of that many digits is tried; the first grid with a
point in the interval wins, and of two such points the one nearer to the number.  At a tie, when
both are equally near, the style decides.  All of it is exact arithmetic on natural numbers: the
number is the fraction `value / unit`.
-/

namespace Polyglot

/-- Decimal digits `d` and a point position `point`: the number `0.d * 10 ^ point`. -/
structure Decimal where
  digits : List Char
  point : Int
  deriving DecidableEq

/-- Which of two neighbours on a grid stands for a number half way between them: the upper one, or
the even one. -/
inductive TieRule where
  | upper
  | even
  deriving DecidableEq

/-- Whether `c` rather than `c + 1` stands for the number half way between them. -/
def TieRule.keepsLower : TieRule → Nat → Bool
  | upper, _ => false
  | even, c => c % 2 = 0

namespace Binary64

/-- The interval of the reals that round to one number, as fractions over `unit`. -/
structure Rounding where
  low : Nat
  value : Nat
  high : Nat
  unit : Nat
  closed : Bool

/-- The interval of a finite number that is not zero. -/
def rounding (x : Binary64) : Rounding :=
  let (m, q) := x.parts
  let below := if x.fraction = 0 ∧ 1 < x.exponentField then 1 else 2
  let e := q - 2
  let scale := if 0 ≤ e then Nat.pow 2 e.toNat else 1
  { low := (4 * m - below) * scale
    value := 4 * m * scale
    high := (4 * m + 2) * scale
    unit := if 0 ≤ e then 1 else Nat.pow 2 (-e).toNat
    closed := m % 2 = 0 }

/-- Whether the fraction `num / den` lies in the interval. -/
def Rounding.contains (r : Rounding) (num den : Nat) : Bool :=
  if r.closed then r.low * den ≤ num * r.unit && num * r.unit ≤ r.high * den
  else r.low * den < num * r.unit && num * r.unit < r.high * den

/-- The number of digits of a natural number. -/
def digitCount (n : Nat) : Nat := (Nat.toDigits 10 n).length

/-- The power of ten `p` with `10 ^ (p - 1) ≤ value / unit < 10 ^ p`. -/
def Rounding.magnitude (r : Rounding) : Int :=
  if r.unit ≤ r.value then (digitCount (r.value / r.unit) : Int)
  else 1 - (digitCount ((r.unit - 1) / r.value) : Int)

/-- The point of the grid of step `10 ^ step` that stands for the number, if one of its two
neighbours on the grid lies in the interval. -/
def Rounding.onGrid? (r : Rounding) (tie : TieRule) (step : Int) : Option Nat :=
  let up := if 0 ≤ step then Nat.pow 10 step.toNat else 1
  let down := if 0 ≤ step then 1 else Nat.pow 10 (-step).toNat
  let num := r.value * down
  let den := r.unit * up
  let c := num / den
  match r.contains (c * up) down, r.contains ((c + 1) * up) down with
  | true, true =>
    match compare (2 * (num - c * den)) den with
    | .lt => some c
    | .gt => some (c + 1)
    | .eq => if tie.keepsLower c then some c else some (c + 1)
  | true, false => some c
  | false, true => some (c + 1)
  | false, false => none

/-- The coarsest grid among those of `digits`, `digits + 1`, … digits with a point in the
interval, as that point and the exponent of its step; `tries` grids are looked at. -/
def Rounding.coarsest (r : Rounding) (tie : TieRule) (digits : Nat) : Nat → Nat × Int
  | 0 => (0, 0)
  | tries + 1 =>
    let step := r.magnitude - digits
    match r.onGrid? tie step with
    | some c => (c, step)
    | none => r.coarsest tie (digits + 1) tries

/-- A list of digits without the zeros at its end. -/
def dropZerosRight (ds : List Char) : List Char := (ds.reverse.dropWhile (· == '0')).reverse

/-- The shortest decimal of a finite number, its sign left out; seventeen digits always do. -/
def shortest (tie : TieRule) (x : Binary64) : Decimal :=
  if x.isZero then ⟨['0'], 1⟩
  else
    let (c, step) := x.rounding.coarsest tie 1 17
    let ds := Nat.toDigits 10 c
    ⟨dropZerosRight ds, ds.length + step⟩

/-! ## Layouts -/

/-- `n` zeros. -/
def zeros (n : Nat) : List Char := List.replicate n '0'

/-- All digits around a decimal point, which is left out of a whole number. -/
def positional (d : Decimal) : List Char :=
  let n : Int := d.digits.length
  if d.point ≤ 0 then ['0', '.'] ++ zeros (-d.point).toNat ++ d.digits
  else if n ≤ d.point then d.digits ++ zeros (d.point - n).toNat
  else d.digits.take d.point.toNat ++ ['.'] ++ d.digits.drop d.point.toNat

/-- An exponent with its sign, which positive exponents have too. -/
def signedExponent (n : Int) : List Char :=
  (if n < 0 then '-' else '+') :: Nat.toDigits 10 n.natAbs

/-- One digit before the point, and an exponent of ten after the letter e. -/
def scientific (d : Decimal) : List Char :=
  let mantissa := match d.digits with
    | [] => ['0']
    | [c] => [c]
    | c :: cs => c :: '.' :: cs
  mantissa ++ 'e' :: signedExponent (d.point - 1)

/-- Positional with a digit after the point for moderate sizes, scientific for the others. -/
def moderate (d : Decimal) : List Char :=
  if d.point ≤ -5 ∨ 16 < d.point then scientific d
  else if (d.digits.length : Int) ≤ d.point then positional d ++ ['.', '0']
  else positional d

/-! ## Styles -/

/-- How numbers are written: which digits at a tie, and in which layout. -/
structure DecimalStyle where
  tie : TieRule
  layout : Decimal → List Char

/-- A finite number in a style, its sign in front. -/
def writeIn (style : DecimalStyle) (x : Binary64) : String :=
  String.ofList ((if x.isNegative then ['-'] else []) ++ style.layout (x.shortest style.tie))

/-- Numbers are shown with all their digits and without an exponent, the upper ones at a tie. -/
def shownStyle : DecimalStyle := ⟨.upper, positional⟩

/-- How a number is shown. -/
def write (x : Binary64) : String :=
  if x.isNaN then "NaN"
  else if x.isInfinite then (if x.isNegative then "-inf" else "inf")
  else writeIn shownStyle x

end Binary64

end Polyglot
