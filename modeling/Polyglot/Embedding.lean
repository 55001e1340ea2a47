import Polyglot.Config
import Polyglot.Host.Assembly

/-!
# Polyglot.Embedding

The face of the library towards an application: a registry of languages, the compiler that uses
it, and the switches both were made with.
-/

namespace Polyglot

open Polyglot.Language

/-- A registry of languages and the compiler for it. -/
structure Embedding where
  compiler : Compiler
  options : Options := {}

namespace Embedding

/-- The registry of the languages. -/
def registry (e : Embedding) : RegistryId := e.compiler.registry

/-- Set up an embedding with a registry of its own. -/
def create (h : Host) (resolver : Option ResolverId) (listener : Listener) (options : Options) :
    Embedding × Host :=
  let (registry, h) := h.addRegistry resolver
  ({ compiler := { registry, listener, options }, options }, h)

/-- Register configured languages in order, up to the first that cannot be.  They are loaded from
their locations when they are first used. -/
def registerAll (r : RegistryId) : List LanguageSetup → Host → Except RegistryError Host
  | [], h => .ok h
  | l :: ls, h =>
    match h.register r (.deferred l.location l.typeName) false l.identifiers with
    | .error e => .error e
    | .ok h => registerAll r ls h

/-- Set up an embedding with the languages of a configuration. -/
def ofConfig (h : Host) (c : Config) (resolver : ResolverId) (listener : Listener) :
    Except RegistryError (Embedding × Host) :=
  let (e, h) := create h (some resolver) listener c.options
  (registerAll e.registry c.languages h).map fun h => (e, h)

/-- The embedding as a developer sees it. -/
def inspect (e : Embedding) (h : Host) : String :=
  Text.inspectRecord "Runtime"
    [("registry", (h.registry e.registry).inspect), ("options", e.options.inspectForRuntime)]

end Embedding

/-- The compiler as a developer sees it. -/
def Compiler.inspect (c : Compiler) (h : Host) : String :=
  Text.inspectRecord "ModuleCompiler"
    [("registry", (h.registry c.registry).inspect), ("options", c.options.inspectForCompiler)]

end Polyglot
