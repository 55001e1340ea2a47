import Polyglot.Text.Hexadecimal
import Polyglot.Text.Inspection

/-!
# Polyglot.Json.Reading

Reading JSON from the front of a text.  A reader takes what it needs and returns the rest, or the
first fault it meets.  There are three sorts of faults: the text ended early, the text is not
JSON, or it is JSON so far but not of the content that is wanted.

This module reads the parts that other readers are made of: blanks, fixed words, and texts
between quotes.  Texts are read strictly, or loosely where their content does not matter; a loose
reader takes escapes of lone surrogates, which stand for no character.
-/

namespace Polyglot.Json

/-- What is wrong with a text. -/
inductive Fault where
  /-- It is not JSON. -/
  | malformed
  /-- It ended early. -/
  | ended
  /-- It is JSON so far, and not what is wanted. -/
  | content (message : String)
  deriving DecidableEq

/-- Takes something from the front of a text and returns the rest. -/
abbrev Reader (α : Type) := List Char → Except Fault (α × List Char)

/-- Whether a character may stand between the parts of a JSON text. -/
def isSpace (c : Char) : Bool := c = ' ' || c = '\n' || c = '\t' || c = '\r'

/-- The text after the blanks at its front. -/
def skipSpace (cs : List Char) : List Char := cs.dropWhile isSpace

/-- Take exactly these characters. -/
def readWord : List Char → Reader Unit
  | [], cs => .ok ((), cs)
  | _ :: _, [] => .error .ended
  | w :: ws, c :: cs => if c = w then readWord ws cs else .error .malformed

/-! ## Texts between quotes -/

/-- Where in a quoted text the reader is. -/
inductive QuoteState where
  /-- Between characters. -/
  | plain
  /-- After a backslash. -/
  | escape
  /-- Among the digits of a code unit, of which `missing` are still to come; `value` is that of
  the digits before, and `lead` the leading surrogate that came before the unit. -/
  | digits (missing value : Nat) (lead : Option Nat)
  /-- After a leading surrogate, where a backslash has to follow. -/
  | afterLead (lead : Nat)
  /-- After that backslash, where the letter u has to follow. -/
  | afterLeadEscape (lead : Nat)

/-- The character of a one-letter escape. -/
def simpleEscape? (c : Char) : Option Char :=
  if c = '"' ∨ c = '\\' ∨ c = '/' then some c
  else if c = 'b' then some (Char.ofNat 8)
  else if c = 'f' then some (Char.ofNat 12)
  else if c = 'n' then some '\n'
  else if c = 'r' then some '\r'
  else if c = 't' then some '\t'
  else none

/-- Whether a text has room for the four digits of a code unit; room is counted in bytes. -/
def hasRoom (cs : List Char) : Bool := 4 ≤ (String.ofList cs).utf8ByteSize

/-- What follows a complete code unit: the state, and the characters read. -/
def afterUnit (strict : Bool) (unit : Nat) (lead : Option Nat) (read : List Char) :
    Except Fault (QuoteState × List Char) :=
  if !strict then .ok (.plain, read)
  else match lead with
    | some l =>
      if 0xDC00 ≤ unit ∧ unit ≤ 0xDFFF then
        .ok (.plain, Char.ofNat (0x10000 + (l - 0xD800) * 0x400 + (unit - 0xDC00)) :: read)
      else .error .malformed
    | none =>
      if 0xDC00 ≤ unit ∧ unit ≤ 0xDFFF then .error .malformed
      else if 0xD800 ≤ unit ∧ unit ≤ 0xDBFF then .ok (.afterLead unit, read)
      else .ok (.plain, Char.ofNat unit :: read)

/-- What one character does inside a quoted text that goes on with `rest`. -/
def quoteStep (strict : Bool) (state : QuoteState) (read : List Char) (c : Char)
    (rest : List Char) : Except Fault (QuoteState × List Char) :=
  match state with
  | .plain =>
    if c = '\\' then .ok (.escape, read)
    else if c.toNat < 0x20 then .error .malformed
    else .ok (.plain, c :: read)
  | .escape =>
    if c = 'u' then if hasRoom rest then .ok (.digits 4 0 none, read) else .error .ended
    else match simpleEscape? c with
      | some d => .ok (.plain, d :: read)
      | none => .error .malformed
  | .digits missing value lead =>
    match Text.hexValue? c with
    | none => .error .malformed
    | some d =>
      if missing ≤ 1 then afterUnit strict (16 * value + d) lead read
      else .ok (.digits (missing - 1) (16 * value + d) lead, read)
  | .afterLead lead => if c = '\\' then .ok (.afterLeadEscape lead, read) else .error .malformed
  | .afterLeadEscape lead =>
    if c = 'u' then if hasRoom rest then .ok (.digits 4 0 (some lead), read) else .error .ended
    else .error .malformed

/-- The rest of a quoted text, up to and with its closing quote; `read` are the characters read
before, backwards. -/
def readQuotedFrom (strict : Bool) : QuoteState → List Char → Reader String
  | _, _, [] => .error .ended
  | state, read, c :: cs =>
    match state, c with
    | .plain, '"' => .ok (String.ofList read.reverse, cs)
    | _, _ =>
      match quoteStep strict state read c cs with
      | .error e => .error e
      | .ok (state, read) => readQuotedFrom strict state read cs

/-- A text whose opening quote was read. -/
def readQuoted : Reader String := readQuotedFrom true .plain []

/-- A text whose opening quote was read and whose content does not matter. -/
def skipQuoted : Reader Unit := fun cs =>
  match readQuotedFrom false .plain [] cs with
  | .error e => .error e
  | .ok (_, cs) => .ok ((), cs)

end Polyglot.Json
