import Polyglot.Error

/-!
# Polyglot.Diagnostic.Sink

Where diagnostics go.  A language never decides on its own that a diagnostic ends a compilation:
it reports the diagnostic to a sink, and the sink either lets it go on or answers with the error
that it must stop with.  A sink may decide by what was reported to it before.
-/

namespace Polyglot

/-- A destination for diagnostics: what was reported so far, oldest first, and how it answers a
further report. -/
structure Sink where
  answer : List Diagnostic → Diagnostic → Option CompilationError
  seen : List Diagnostic := []

namespace Sink

/-- Stops at the first error. -/
def raising : Sink :=
  { answer := fun _ d => if d.isError then some (.reported d) else none }

/-- Goes on after errors, and stops at a fatal one. -/
def collecting : Sink :=
  { answer := fun _ d => if d.severity = .fatal then some (.reported d) else none }

/-- Goes on whatever is reported. -/
def accepting : Sink := { answer := fun _ _ => none }

/-- Report a diagnostic. -/
def report (s : Sink) (d : Diagnostic) : Except CompilationError Unit × Sink :=
  ((match s.answer s.seen d with
    | some e => .error e
    | none => .ok ()), { s with seen := s.seen ++ [d] })

/-- Report diagnostics one after the other, up to the first that is answered with an error. -/
def reportAll (s : Sink) : List Diagnostic → Except CompilationError Unit × Sink
  | [] => (.ok (), s)
  | d :: ds =>
    match s.report d with
    | (.error e, s) => (.error e, s)
    | (.ok _, s) => s.reportAll ds

/-- How many of the reported diagnostics were errors or worse. -/
def errorCount (s : Sink) : Nat := s.seen.countP Diagnostic.isError

@[simp] theorem seen_report (s : Sink) (d : Diagnostic) : (s.report d).2.seen = s.seen ++ [d] := rfl

@[simp] theorem answer_report (s : Sink) (d : Diagnostic) : (s.report d).2.answer = s.answer := rfl

end Sink

end Polyglot
