import Polyglot.Text.Inspection

/-!
# Polyglot.Symbol

Names of variables, procedures and declarations.  A symbol is known by its text, so two symbols
are the same exactly when their texts are.  One more symbol stands where no name is known yet:
the invalid symbol, whose text is empty and which differs from the symbol of the empty text.
-/

namespace Polyglot

/-- A name, or the placeholder for a name that is not known. -/
inductive Symbol where
  | invalid
  | named (text : String)
  deriving DecidableEq, Inhabited

namespace Symbol

/-- The text of a symbol; the invalid symbol has the empty text. -/
def text : Symbol → String
  | invalid => ""
  | named t => t

/-- Whether this is the placeholder. -/
def isInvalid : Symbol → Bool
  | invalid => true
  | named _ => false

/-- Whether the text is empty. -/
def isEmpty (s : Symbol) : Bool := s.text = ""

/-- The symbol as a developer sees it. -/
def inspect : Symbol → String
  | invalid => Text.inspectApply "Symbol" ["<invalid>"]
  | named t => Text.inspectApply "Symbol" [Text.quote t]

@[simp] theorem text_named (t : String) : (named t).text = t := rfl

@[simp] theorem text_invalid : invalid.text = "" := rfl

theorem isEmpty_iff {s : Symbol} : s.isEmpty = true ↔ s.text = "" := by
  simp [isEmpty]

end Symbol

end Polyglot
