/-!
# Polyglot.Source.Path

File names and extensions.  Names in a path are separated by slashes; empty names and single
dots do not count.  The file name is the last name, unless that leads to the parent directory,
and its extension is what follows its last dot, if something precedes that dot.
-/

namespace Polyglot.Source

/-- The names of a path, in order. -/
def pathNames (path : List Char) : List (List Char) :=
  (path.splitOn '/').filter fun n => n ≠ [] && n ≠ ['.']

/-- The file name of a path. -/
def fileName? (path : List Char) : Option (List Char) :=
  match (pathNames path).getLast? with
  | none => none
  | some n => if n = ['.', '.'] then none else some n

/-- What follows the last dot of a file name, if something precedes that dot. -/
def extensionOf? (name : List Char) : Option (List Char) :=
  if '.' ∈ name.drop 1 then some (name.reverse.takeWhile (· ≠ '.')).reverse else none

/-- The extension of a path, without the dot. -/
def extension? (path : String) : Option String :=
  ((fileName? path.toList).bind extensionOf?).map String.ofList

end Polyglot.Source
