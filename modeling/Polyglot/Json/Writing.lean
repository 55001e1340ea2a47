/-!
# Polyglot.Json.Writing

Writing JSON on several lines, two spaces for each level of nesting.  An empty list stays on its
line.
-/

namespace Polyglot.Json

/-- How one character stands in a JSON text between quotes. -/
def writeChar (c : Char) : List Char :=
  if c = '"' then ['\\', '"']
  else if c = '\\' then ['\\', '\\']
  else if c = '\n' then ['\\', 'n']
  else if c = '\r' then ['\\', 'r']
  else if c = '\t' then ['\\', 't']
  else if c.toNat = 8 then ['\\', 'b']
  else if c.toNat = 12 then ['\\', 'f']
  else if c.toNat < 16 then ['\\', 'u', '0', '0', '0'] ++ Nat.toDigits 16 c.toNat
  else if c.toNat < 32 then ['\\', 'u', '0', '0'] ++ Nat.toDigits 16 c.toNat
  else [c]

/-- A JSON text between quotes. -/
def writeText (s : String) : String :=
  String.ofList ('"' :: s.toList.flatMap writeChar ++ ['"'])

/-- A line break and the indentation of a level. -/
def newLine (level : Nat) : String := String.ofList ('\n' :: List.replicate (2 * level) ' ')

/-- Parts inside brackets, each on a line of its own. -/
def writeBlock (level : Nat) (opening closing : String) (parts : List String) : String :=
  if parts = [] then opening ++ closing
  else
    opening ++ newLine (level + 1) ++ ("," ++ newLine (level + 1)).intercalate parts ++
      newLine level ++ closing

/-- A list, on the given level. -/
def writeList (level : Nat) (items : List String) : String := writeBlock level "[" "]" items

/-- An object, on the given level. -/
def writeObject (level : Nat) (fields : List (String × String)) : String :=
  writeBlock level "\x7b" "\x7d" (fields.map fun f => writeText f.1 ++ ": " ++ f.2)

end Polyglot.Json
