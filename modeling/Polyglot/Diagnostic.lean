import Polyglot.Text.Inspection

/-!
# Polyglot.Diagnostic

Messages about source text: how serious, what, in which source unit and where in it.
-/

namespace Polyglot

/-- A place in a source text: line and column, counted from one, and a length in bytes. -/
structure Span where
  line : UInt32 := 0
  col : UInt32 := 0
  len : UInt32 := 0
  deriving DecidableEq, Inhabited

namespace Span

/-- A place without length. -/
def point (line col : UInt32) : Span := { line, col }

/-- Whether the place has no length. -/
def isEmpty (s : Span) : Bool := s.len == 0

/-- The place in messages, and as a developer sees it. -/
def display (s : Span) : String := toString s.line.toNat ++ ":" ++ toString s.col.toNat

end Span

/-- How serious a diagnostic is. -/
inductive Severity where
  | warning
  | error
  /-- The unit cannot be compiled any further. -/
  | fatal
  deriving DecidableEq, Inhabited

namespace Severity

/-- Rank in the order of seriousness. -/
def rank : Severity → Nat
  | warning => 0
  | error => 1
  | fatal => 2

/-- Whether the first is less serious. -/
def less (a b : Severity) : Bool := a.rank < b.rank

/-- Whether the severity is an error or worse. -/
def isError (s : Severity) : Bool := error.rank ≤ s.rank

/-- The severity in messages. -/
def display : Severity → String
  | warning => "warning"
  | error => "error"
  | fatal => "fatal"

/-- The severity as a developer sees it. -/
def inspect : Severity → String
  | warning => "Warning"
  | error => "Error"
  | fatal => "Fatal"

/-- The severity with this name. -/
def ofName? (s : String) : Option Severity := [warning, error, fatal].find? fun v => v.display = s

end Severity

/-- One message about a source unit. -/
structure Diagnostic where
  severity : Severity
  message : String
  source : Option String := none
  span : Option Span := none
  deriving DecidableEq, Inhabited

namespace Diagnostic

/-- Whether the diagnostic is an error or worse. -/
def isError (d : Diagnostic) : Bool := d.severity.isError

/-- The place a diagnostic points at, with the separator that follows it. -/
def place (d : Diagnostic) : String :=
  match d.source, d.span with
  | some id, some span => id ++ ":" ++ span.display ++ ": "
  | some id, none => id ++ ": "
  | none, some span => span.display ++ ": "
  | none, none => ""

/-- The diagnostic as one line of text. -/
def display (d : Diagnostic) : String := d.place ++ d.severity.display ++ ": " ++ d.message

/-- The diagnostic as a developer sees it. -/
def inspect (d : Diagnostic) : String :=
  Text.inspectRecord "Diagnostic"
    [("severity", d.severity.inspect), ("message", Text.quote d.message),
      ("source_id", Text.inspectOption (d.source.map Text.quote)),
      ("span", Text.inspectOption (d.span.map Span.display))]

end Diagnostic

end Polyglot
