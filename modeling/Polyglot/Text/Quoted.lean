import Polyglot.Text.Hidden

/-!
# Polyglot.Text.Quoted

Text as a developer reads it: between double quotes, with the characters that would be misread
written as escapes.  Quotes and backslashes are escaped, the common control characters have
short escapes, and every other hidden character is given by its code point.
-/

namespace Polyglot.Text

/-- The escape of a character by its code point, in lower-case hexadecimal digits. -/
def codePointEscape (c : Char) : List Char :=
  ['\\', 'u', '{'] ++ Nat.toDigits 16 c.toNat ++ ['}']

/-- How one character stands between the quotes. -/
def quoteChar (c : Char) : List Char :=
  if c = '"' then ['\\', '"']
  else if c = '\\' then ['\\', '\\']
  else if c = '\n' then ['\\', 'n']
  else if c = '\t' then ['\\', 't']
  else if c = '\r' then ['\\', 'r']
  else if c.toNat = 0 then ['\\', '0']
  else if isHidden c then codePointEscape c
  else [c]

/-- A text between double quotes. -/
def quote (s : String) : String :=
  String.ofList ('"' :: s.toList.flatMap quoteChar ++ ['"'])

end Polyglot.Text
