import Polyglot.Source.Path
import Polyglot.Text.Inspection
import Polyglot.Text.Lines

/-!
# Polyglot.Source

Source units: immutable pieces of source text, each with an identity, which is usually a path,
and perhaps the name of its language.
-/

namespace Polyglot

/-- What a source unit holds. -/
inductive SourceKind where
  | file
  | statements
  | expression
  | interactive
  deriving DecidableEq, Inhabited

/-- The kind with this name; a unit of no known kind is a file. -/
def SourceKind.ofName : String → SourceKind
  | "statements" => statements
  | "expression" => expression
  | "interactive" => interactive
  | _ => file

/-- The kind as a developer sees it. -/
def SourceKind.inspect : SourceKind → String
  | file => "File"
  | statements => "Statements"
  | expression => "Expression"
  | interactive => "Interactive"

/-- Why a file cannot be read. -/
inductive FileError where
  | notFound
  | invalidData
  deriving DecidableEq

/-- The text of a file, which must be there and must be valid UTF-8. -/
def textOfFile : Option ByteArray → Except FileError String
  | none => .error .notFound
  | some bytes =>
    match String.fromUTF8? bytes with
    | some text => .ok text
    | none => .error .invalidData

/-- A piece of source text and its identity. -/
structure SourceUnit where
  id : String
  text : String := ""
  /-- The identifier of the unit's language, if it is known. -/
  language : Option String := none
  kind : SourceKind := .file
  deriving DecidableEq, Inhabited

namespace SourceUnit

/-- The unit of a file, known by its path. -/
def ofFile (path : String) (content : Option ByteArray) : Except FileError SourceUnit :=
  (textOfFile content).map fun text => { id := path, text }

/-- The extension of the unit's identity, without the dot. -/
def extension? (u : SourceUnit) : Option String := Source.extension? u.id

/-- The number of lines of the text. -/
def lineCount (u : SourceUnit) : Nat := (Text.lines u.text).length

/-- The unit as a developer sees it. -/
def inspect (u : SourceUnit) : String :=
  Text.inspectRecord "SourceUnit"
    [("id", Text.quote u.id), ("language", Text.inspectOption (u.language.map Text.quote)),
      ("kind", u.kind.inspect), ("len", toString u.text.utf8ByteSize)]

end SourceUnit

end Polyglot
