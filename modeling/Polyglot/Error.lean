import Polyglot.Diagnostic
import Polyglot.Symbol

/-!
# Polyglot.Error

What can go wrong, by the phase in which it does: malformed input to a constructor, registration
and loading of languages, compilation of a source unit, assembly of a module, binding of a call,
and evaluation.  Each cause is one constructor; its wording is in `message`, and `inspect` shows
the cause and its parts to a developer.

An unbound variable is a failure of the guest program, a missing language one of the host's
configuration, and the two are never mixed up: see `Failure.isNameResolution` and
`Failure.isConfiguration`.
-/

namespace Polyglot

/-- Input that is refused before anything changes. -/
inductive ArgumentError where
  /-- A name was empty. -/
  | emptySymbol
  /-- A name was the invalid symbol. -/
  | invalidSymbol
  /-- A language identifier was empty or a lone dot. -/
  | invalidIdentifier (identifier : String)
  deriving DecidableEq

namespace ArgumentError

/-- The error in words. -/
def message : ArgumentError → String
  | emptySymbol => "symbol must not be empty"
  | invalidSymbol => "symbol is the invalid sentinel"
  | invalidIdentifier id => "invalid language identifier '" ++ id ++ "'"

/-- The error as a developer sees it. -/
def inspect : ArgumentError → String
  | emptySymbol => "EmptySymbol"
  | invalidSymbol => "InvalidSymbol"
  | invalidIdentifier id => Text.inspectApply "InvalidIdentifier" [Text.quote id]

end ArgumentError

/-- Registering and loading languages. -/
inductive RegistryError where
  /-- The identifier belongs to another implementation. -/
  | conflict (identifier existing requested : String)
  /-- The implementation is not where it should be. -/
  | missingImplementation (typeName location : String)
  /-- The implementation was found, and its constructor failed. -/
  | invalidImplementation (typeName reason : String)
  /-- Nothing is registered under the identifier or type name. -/
  | unknownLanguage (identifier : String)
  | argument (e : ArgumentError)
  deriving DecidableEq

namespace RegistryError

/-- The error in words. -/
def message : RegistryError → String
  | conflict id existing requested =>
    "identifier '" ++ id ++ "' is registered to '" ++ existing ++ "', cannot map it to '" ++
      requested ++ "'"
  | missingImplementation type location =>
    "implementation '" ++ type ++ "' not found in '" ++ location ++ "'"
  | invalidImplementation type reason =>
    "implementation '" ++ type ++ "' failed to initialize: " ++ reason
  | unknownLanguage id => "unknown language '" ++ id ++ "'"
  | argument e => e.message

/-- The error as a developer sees it. -/
def inspect : RegistryError → String
  | conflict id existing requested => Text.inspectRecord "Conflict"
      [("identifier", Text.quote id), ("existing", Text.quote existing),
        ("requested", Text.quote requested)]
  | missingImplementation type location => Text.inspectRecord "MissingImplementation"
      [("type_name", Text.quote type), ("location", Text.quote location)]
  | invalidImplementation type reason => Text.inspectRecord "InvalidImplementation"
      [("type_name", Text.quote type), ("reason", Text.quote reason)]
  | unknownLanguage id => Text.inspectApply "UnknownLanguage" [Text.quote id]
  | argument e => Text.inspectApply "Argument" [e.inspect]

end RegistryError

/-- Compiling one source unit. -/
inductive CompilationError where
  /-- A diagnostic that the sink turned into a failure. -/
  | reported (diagnostic : Diagnostic)
  /-- The provider failed for a reason of its own. -/
  | failed (language source message : String)
  deriving DecidableEq

namespace CompilationError

/-- The error in words. -/
def message : CompilationError → String
  | reported d => d.display
  | failed language source message =>
    language ++ " compiler failed on '" ++ source ++ "': " ++ message

/-- The error as a developer sees it. -/
def inspect : CompilationError → String
  | reported d => Text.inspectApply "Reported" [d.inspect]
  | failed language source message => Text.inspectRecord "Failed"
      [("language", Text.quote language), ("source_id", Text.quote source),
        ("message", Text.quote message)]

end CompilationError

/-- Compiling source units into a module, or assembling one from code. -/
inductive ModuleError where
  | registry (e : RegistryError)
  | compilation (e : CompilationError)
  /-- Errors were reported without stopping the compilation, so nothing was linked. -/
  | diagnosticsReported (module : String) (errors : Nat)
  /-- The unit has no language tag, and its name no extension. -/
  | undeterminedLanguage (unit : String)
  /-- The code belongs to another module already. -/
  | codeAlreadyBound (source module : String)
  deriving DecidableEq

namespace ModuleError

/-- The error in words. -/
def message : ModuleError → String
  | registry e => e.message
  | compilation e => e.message
  | diagnosticsReported module errors =>
    "module '" ++ module ++ "' not created: " ++ toString errors ++ " error(s) reported"
  | undeterminedLanguage unit =>
    "source unit '" ++ unit ++ "' has no language tag and no usable file extension"
  | codeAlreadyBound source module =>
    "code object from '" ++ source ++ "' is already bound to " ++ module

/-- The error as a developer sees it. -/
def inspect : ModuleError → String
  | registry e => Text.inspectApply "Registry" [e.inspect]
  | compilation e => Text.inspectApply "Compilation" [e.inspect]
  | diagnosticsReported module errors => Text.inspectRecord "DiagnosticsReported"
      [("module", Text.quote module), ("errors", toString errors)]
  | undeterminedLanguage unit => Text.inspectApply "UndeterminedLanguage" [Text.quote unit]
  | codeAlreadyBound source module => Text.inspectRecord "CodeAlreadyBound"
      [("source_id", Text.quote source), ("module", Text.quote module)]

end ModuleError

/-- Binding a call site. -/
inductive BindingError where
  /-- No candidate takes arguments of this shape. -/
  | noApplicableMethod (name shape : String)
  deriving DecidableEq

namespace BindingError

/-- The error in words. -/
def message : BindingError → String
  | noApplicableMethod name shape =>
    "no applicable method '" ++ name ++ "' for arguments (" ++ shape ++ ")"

/-- The error as a developer sees it. -/
def inspect : BindingError → String
  | noApplicableMethod name shape => Text.inspectRecord "NoApplicableMethod"
      [("name", Text.quote name), ("shape", Text.quote shape)]

end BindingError

/-- Evaluation. -/
inductive RuntimeError where
  /-- No enclosing scope binds the variable. -/
  | unboundName (name : Symbol)
  /-- A slot refused a value of another kind. -/
  | slotTypeMismatch (slot : Symbol) (expected actual : String)
  /-- A value has the wrong kind. -/
  | typeMismatch (expected actual : String)
  | binding (e : BindingError)
  | other (message : String)
  deriving DecidableEq

namespace RuntimeError

/-- The error in words. -/
def message : RuntimeError → String
  | unboundName name => "unbound variable '" ++ name.text ++ "'"
  | slotTypeMismatch slot expected actual =>
    "slot '" ++ slot.text ++ "' holds " ++ expected ++ ", got " ++ actual
  | typeMismatch expected actual =>
    "type mismatch: expected " ++ expected ++ ", got " ++ actual
  | binding e => e.message
  | other message => message

/-- The error as a developer sees it. -/
def inspect : RuntimeError → String
  | unboundName name => Text.inspectRecord "UnboundName" [("name", name.inspect)]
  | slotTypeMismatch slot expected actual => Text.inspectRecord "SlotTypeMismatch"
      [("slot", slot.inspect), ("expected", Text.quote expected), ("actual", Text.quote actual)]
  | typeMismatch expected actual => Text.inspectRecord "TypeMismatch"
      [("expected", Text.quote expected), ("actual", Text.quote actual)]
  | binding e => Text.inspectApply "Binding" [e.inspect]
  | other message => Text.inspectRecord "Other" [("message", Text.quote message)]

end RuntimeError

/-- A failure of any phase. -/
inductive Failure where
  | argument (e : ArgumentError)
  | registry (e : RegistryError)
  | compilation (e : CompilationError)
  | module (e : ModuleError)
  | binding (e : BindingError)
  | runtime (e : RuntimeError)
  deriving DecidableEq

namespace Failure

/-- The failure in words. -/
def message : Failure → String
  | argument e => e.message
  | registry e => e.message
  | compilation e => e.message
  | module e => e.message
  | binding e => e.message
  | runtime e => e.message

/-- The failure as a developer sees it. -/
def inspect : Failure → String
  | argument e => Text.inspectApply "Argument" [e.inspect]
  | registry e => Text.inspectApply "Registry" [e.inspect]
  | compilation e => Text.inspectApply "Compilation" [e.inspect]
  | module e => Text.inspectApply "Module" [e.inspect]
  | binding e => Text.inspectApply "Binding" [e.inspect]
  | runtime e => Text.inspectApply "Runtime" [e.inspect]

/-- Whether a guest program used a variable that is not bound. -/
def isNameResolution : Failure → Bool
  | runtime (.unboundName _) => true
  | _ => false

/-- Whether the host is set up wrongly: a language cannot be registered, found or loaded. -/
def isConfiguration : Failure → Bool
  | registry _ => true
  | module (.registry _) => true
  | _ => false

/-- Whether evaluation failed. -/
def isRuntime : Failure → Bool
  | runtime _ => true
  | _ => false

end Failure

end Polyglot
