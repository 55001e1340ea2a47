/-!
# Polyglot.Text.Lines

A text cut into lines.  A line ends at a line feed, which does not belong to it, and a carriage
return right before that line feed is dropped with it.  Text after the last line feed is a line
of its own unless it is empty.
-/

namespace Polyglot.Text

/-- A line read backwards, without the carriage return at its end. -/
def dropReturn : List Char → List Char
  | '\r' :: cs => cs
  | cs => cs

/-- The lines of a text whose current line begins with `current`, read backwards. -/
def linesFrom (current : List Char) : List Char → List (List Char)
  | [] => if current.isEmpty then [] else [current.reverse]
  | c :: cs =>
    if c = '\n' then (dropReturn current).reverse :: linesFrom [] cs
    else linesFrom (c :: current) cs

/-- The lines of a text. -/
def lines (s : String) : List String := (linesFrom [] s.toList).map String.ofList

end Polyglot.Text
