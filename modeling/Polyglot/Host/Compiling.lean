import Polyglot.Host.Loading
import Polyglot.Source

/-!
# Polyglot.Host.Compiling

Compiling source units.  The language of a unit is the one it is tagged with, or else the one
that its file extension stands for.  Units are compiled in order, and the first failure ends the
compilation; errors that the sink accepts do not.
-/

namespace Polyglot

open Polyglot.Language

/-- Whether the embedding application hears of new modules. -/
inductive Listener where
  | silent
  | recording
  deriving DecidableEq, Inhabited

/-- A compiler: where its languages are registered, who hears of its modules, and its switches. -/
structure Compiler where
  registry : RegistryId
  listener : Listener := .silent
  options : Options := {}

namespace Host

/-- The provider for a unit. -/
def providerFor (h : Host) (r : RegistryId) (u : SourceUnit) :
    Except ModuleError ProviderId × Host :=
  let found := match u.language with
    | some language => some (h.resolve r language)
    | none => u.extension?.map (h.resolveByExtension r)
  match found with
  | none => (.error (.undeterminedLanguage u.id), h)
  | some (.error e, h) => (.error (.registry e), h)
  | some (.ok p, h) => (.ok p, h)

/-- Compile a unit of a scripted language. -/
def compileScript (name : String) (u : SourceUnit) (p : Script.Program) (sink : Sink) :
    Except CompilationError Code × Sink :=
  match sink.reportAll p.diagnostics with
  | (.error e, sink) => (.error e, sink)
  | (.ok _, sink) =>
    match p.failure with
    | some message => (.error (.failed name u.id message), sink)
    | none =>
      (.ok { source := u.id, language := p.language.getD name, compiled := .script p none }, sink)

/-- Compile a unit of Tally. -/
def compileTally (u : SourceUnit) (sink : Sink) : Except CompilationError Code × Sink :=
  match Tally.read u sink with
  | (.error e, sink) => (.error e, sink)
  | (.ok as, sink) =>
    (.ok { source := u.id, language := "tally", compiled := .tally as none }, sink)

/-- Let a provider compile a unit. -/
def compileWithProvider (h : Host) (p : ProviderId) (u : SourceUnit) (o : Options) (sink : Sink) :
    Except CompilationError Code × Host × Sink :=
  match h.provider p with
  | .script name _ =>
    let (result, sink) := compileScript name u (h.program u.id) sink
    (result, h.emit (.compile p u.id o), sink)
  | .tally prepared count =>
    let count := if o.debugMode then count + 1 else count
    let (result, sink) := compileTally u sink
    (result, { h with providers := h.providers.modify p.index fun _ => .tally prepared count },
      sink)

/-- Compile a unit with the provider for its language, which the code remembers. -/
def compileUnit (h : Host) (c : Compiler) (u : SourceUnit) (sink : Sink) :
    Except ModuleError CodeId × Host × Sink :=
  match h.providerFor c.registry u with
  | (.error e, h) => (.error e, h, sink)
  | (.ok p, h) =>
    match h.compileWithProvider p u c.options sink with
    | (.error e, h, sink) => (.error (.compilation e), h, sink)
    | (.ok code, h, sink) =>
      let (id, h) := h.addCode { code with provider := some p }
      (.ok id, h, sink)

/-- Compile units in order, up to the first that fails. -/
def compileUnits (c : Compiler) :
    List SourceUnit → Host → Sink → Except ModuleError (List CodeId) × Host × Sink
  | [], h, sink => (.ok [], h, sink)
  | u :: us, h, sink =>
    match h.compileUnit c u sink with
    | (.error e, h, sink) => (.error e, h, sink)
    | (.ok id, h, sink) =>
      match compileUnits c us h sink with
      | (.error e, h, sink) => (.error e, h, sink)
      | (.ok ids, h, sink) => (.ok (id :: ids), h, sink)

end Host

end Polyglot
