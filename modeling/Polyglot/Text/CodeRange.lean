/-!
# Polyglot.Text.CodeRange

Character classes given by code points.  A class is a list of pairs `(first, last)`, both ends
included; a character belongs to it when one of the pairs covers its code point.  The class
tables of this library are such lists, and only `covers` reads them.
-/

namespace Polyglot.Text

/-- A class of characters, as pairs of a first and a last code point. -/
abbrev CodeRanges := List (Nat × Nat)

/-- Whether one of the pairs covers the character. -/
def CodeRanges.covers (ranges : CodeRanges) (c : Char) : Bool :=
  ranges.any fun r => r.1 ≤ c.toNat && c.toNat ≤ r.2

theorem CodeRanges.covers_iff {ranges : CodeRanges} {c : Char} :
    ranges.covers c = true ↔ ∃ r ∈ ranges, r.1 ≤ c.toNat ∧ c.toNat ≤ r.2 := by
  simp [covers, List.any_eq_true]

end Polyglot.Text
