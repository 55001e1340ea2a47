import Polyglot.Diagnostic.Sink
import Polyglot.FreeVariable
import Polyglot.Guest.Declaration
import Polyglot.Source
import Polyglot.Text.Alphanumeric
import Polyglot.Text.Blank

/-!
# Polyglot.Guest.Tally

Tally, a small language of assignments, one on each line:

```text
# a comment
name = 42
name = "text"
name = other
name = other + 1
```

Empty lines and lines that begin with `#` are skipped.  A line is cut at its first `=`; the name
on the left may be any text but the empty one.  The right side is the first of these that fits:
an integer, a text between quotes, a name and an integer around the first `+`, or a name of
letters, numbers and underscores.  A line with a `+` that does not read as a sum is refused, and
so is everything else.
-/

namespace Polyglot.Tally

/-- The right side of an assignment. -/
inductive Expr where
  | int (n : Int64)
  | str (s : String)
  | ref (x : FreeVariable)
  | add (x : FreeVariable) (n : Int64)
  deriving DecidableEq

/-- One assignment. -/
structure Assignment where
  target : FreeVariable
  expr : Expr
  deriving DecidableEq

/-! ## Reading -/

/-- A text cut at the first occurrence of a character, which belongs to neither part. -/
def cutAt (sep : Char) : List Char → Option (List Char × List Char)
  | [] => none
  | c :: cs =>
    if c = sep then some ([], cs) else (cutAt sep cs).map fun p => (c :: p.1, p.2)

/-- A variable named by a text. -/
def nameOf? (cs : List Char) : Option FreeVariable :=
  (FreeVariable.ofText (String.ofList cs)).toOption

/-- The text between a quote at the start and another one at the end. -/
def unquote? : List Char → Option (List Char)
  | '"' :: cs => if cs.getLast? = some '"' then some cs.dropLast else none
  | _ => none

/-- A sum, cut at its plus sign. -/
def sumOf? (left right : List Char) : Option Expr :=
  match nameOf? (Text.trimChars left), Text.readInt64? (String.ofList (Text.trimChars right)) with
  | some x, some n => some (.add x n)
  | _, _ => none

/-- Whether a character may stand in a bare name on the right side. -/
def isNameChar (c : Char) : Bool := Text.isAlphanumeric c || c = '_'

/-- Read the right side of an assignment. -/
def readExpr? (cs : List Char) : Option Expr :=
  match Text.readInt64? (String.ofList cs) with
  | some n => some (.int n)
  | none =>
    match unquote? cs with
    | some inner => some (.str (String.ofList inner))
    | none =>
      match cutAt '+' cs with
      | some (left, right) => sumOf? left right
      | none => if cs.all isNameChar then (nameOf? cs).map .ref else none

/-- Read an assignment. -/
def readLine? (cs : List Char) : Option Assignment :=
  match cutAt '=' cs with
  | none => none
  | some (left, right) =>
    match nameOf? (Text.trimChars left), readExpr? (Text.trimChars right) with
    | some target, some expr => some { target, expr }
    | _, _ => none

/-- Whether a line without blanks around it says nothing. -/
def isSkipped (cs : List Char) : Bool := cs.isEmpty || cs.head? = some '#'

/-- What is reported about a line that cannot be read; `index` counts lines from zero. -/
def unreadable (unit : String) (index : Nat) (line : String) : Diagnostic :=
  { severity := .error
    message := "cannot parse '" ++ line ++ "'"
    source := some unit
    span := some
      { line := UInt32.ofNat index + 1, col := 1, len := UInt32.ofNat line.utf8ByteSize } }

/-- Read lines, of which the first has the number `index`.  A line that cannot be read is
reported to the sink and left out, unless the sink answers with an error. -/
def readLines (unit : String) (sink : Sink) (index : Nat) :
    List String → Except CompilationError (List Assignment) × Sink
  | [] => (.ok [], sink)
  | raw :: rest =>
    let cs := Text.trimChars raw.toList
    if isSkipped cs then readLines unit sink (index + 1) rest
    else
      match readLine? cs with
      | some a =>
        match readLines unit sink (index + 1) rest with
        | (.error e, sink) => (.error e, sink)
        | (.ok as, sink) => (.ok (a :: as), sink)
      | none =>
        match sink.report (unreadable unit index (String.ofList cs)) with
        | (.error e, sink) => (.error e, sink)
        | (.ok _, sink) => readLines unit sink (index + 1) rest

/-- Read a source unit. -/
def read (u : SourceUnit) (sink : Sink) : Except CompilationError (List Assignment) × Sink :=
  readLines u.id sink 0 (Text.lines u.text)

/-- Every assignment declares its target. -/
def declarations (as : List Assignment) : List Declaration :=
  as.map fun a => { name := a.target.name }

end Polyglot.Tally
