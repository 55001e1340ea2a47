import Polyglot.Error
import Polyglot.Text.Blank
import Polyglot.Text.Lowercase

/-!
# Polyglot.Language.Identifier

Identifiers of languages.  They are names, such as the name of the language, and file
extensions, which begin with a dot.  Blanks around an identifier and letter case do not count,
so each identifier has a key, and two identifiers are one when their keys agree.
-/

namespace Polyglot.Language

/-- The key of an identifier; the empty identifier and a lone dot have none. -/
def key (identifier : String) : Except ArgumentError String :=
  let trimmed := Text.trim identifier
  if trimmed = "" ∨ trimmed = "." then .error (.invalidIdentifier identifier)
  else .ok (Text.lowercase trimmed)

/-- The keys of identifiers, or the error of the first that has none. -/
def keys : List String → Except ArgumentError (List String)
  | [] => .ok []
  | id :: ids =>
    match key id with
    | .error e => .error e
    | .ok k => (keys ids).map (k :: ·)

/-- The identifier of a file extension, which may be given with or without its dot. -/
def ofExtension (extension : String) : Except ArgumentError String :=
  match (Text.trimChars extension.toList).dropWhile (· = '.') with
  | [] => .error (.invalidIdentifier extension)
  | bare => .ok (String.ofList ('.' :: bare))

end Polyglot.Language
