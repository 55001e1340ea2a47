import Polyglot.Guest.Script.Run
import Polyglot.Guest.Tally
import Polyglot.Language.Registry

/-!
# Polyglot.Host

Everything one embedding holds: the machine that guest programs run on, the code that was
compiled, the registries of languages, the tables their implementations are found in, the
providers that were made, the programs of scripted languages, and a record of the calls that the
library made into providers, code and the embedding application.
-/

namespace Polyglot

open Polyglot.Language

/-- What a provider makes of a source unit. -/
inductive Compiled where
  /-- Declares nothing, and yields the length of the scope chain it runs in. -/
  | plain
  /-- A scripted program, and the linkage it was given last. -/
  | script (program : Script.Program) (linkage : Option Linkage)
  /-- A Tally program, and the linkage it was given first. -/
  | tally (assignments : List Tally.Assignment) (linkage : Option Linkage)
  deriving Inhabited

namespace Compiled

/-- The top-level names the code defines, in order. -/
def declarations : Compiled → List Declaration
  | plain => []
  | script p _ => p.declarations
  | tally as _ => Tally.declarations as

/-- The code after it was given a linkage. -/
def link (l : Linkage) : Compiled → Compiled
  | plain => plain
  | script p _ => script p (some l)
  | tally as old => tally as (some (old.getD l))

end Compiled

/-- The compiled form of one source unit.  At most one module owns it. -/
structure Code where
  source : String
  language : String
  compiled : Compiled
  /-- The provider that compiled it, if it was compiled here. -/
  provider : Option ProviderId := none
  /-- The module that owns it. -/
  owner : Option ModuleId := none
  deriving Inhabited

/-- A provider: the compiler of one language. -/
inductive Provider where
  | script (name : String) (quiet : Bool)
  /-- Tally remembers the modules it prepared and counts the compilations in debug mode. -/
  | tally (prepared : List String) (debugCompiles : Nat)
  deriving Inhabited

/-- The name of a provider's language. -/
def Provider.name : Provider → String
  | script name _ => name
  | tally _ _ => "tally"

/-- Switches of a compiler. -/
structure Options where
  /-- Ask providers for debugging support. -/
  debugMode : Bool := false
  /-- Link the globals of modules that are made without a scope. -/
  linkGlobals : Bool := true
  deriving DecidableEq, Inhabited

namespace Options

/-- The switches of a compiler as a developer sees them. -/
def inspectForCompiler (o : Options) : String :=
  Text.inspectRecord "CompilerOptions"
    [("link_globals", Text.inspectBool o.linkGlobals), ("debug_mode", Text.inspectBool o.debugMode)]

/-- The switches of a runtime as a developer sees them. -/
def inspectForRuntime (o : Options) : String :=
  Text.inspectRecord "RuntimeOptions"
    [("debug_mode", Text.inspectBool o.debugMode), ("link_globals", Text.inspectBool o.linkGlobals)]

end Options

/-- A call that the library made into code of the embedding. -/
inductive Event where
  /-- A factory was asked for a provider. -/
  | construct (typeName : String)
  /-- A scripted provider compiled a unit. -/
  | compile (provider : ProviderId) (unit : String) (options : Options)
  /-- Scripted code was given its linkage. -/
  | link (source : String) (names : List Symbol)
  /-- A scripted provider prepared a module; the owners of its code are as they were then. -/
  | context (provider : ProviderId) (module : String) (id : ModuleId) (file : Option String)
      (names : Nat) (owners : List (Option ModuleId))
  /-- The application was told of a new module; the owners of its code are as they were then. -/
  | moduleCreated (module : String) (id : ModuleId) (owners : List (Option ModuleId))
  /-- Scripted code ran. -/
  | run (source : String)
  deriving DecidableEq

/-- Everything one embedding holds. -/
structure Host where
  machine : Script.Machine
  codes : Heap Code
  registries : Heap Registry
  resolvers : Heap Resolver
  providers : Heap Provider
  /-- The scripted providers that several factories share, by label. -/
  shared : Dict String ProviderId
  /-- The programs of scripted languages, by the identity of the unit they belong to. -/
  programs : Dict String Script.Program
  events : Array Event
  deriving Inhabited

namespace Host

/-- An embedding in which nothing happened. -/
def empty : Host :=
  { machine := ⟨.empty, .empty⟩, codes := .empty, registries := .empty, resolvers := .empty
    providers := .empty, shared := .empty, programs := .empty, events := #[] }

/-- The store that guest programs share. -/
def store (h : Host) : Store := h.machine.store

/-- Replace the store. -/
def setStore (h : Host) (st : Store) : Host := { h with machine := { h.machine with store := st } }

/-- A call site that guest programs can reach by name. -/
def site? (h : Host) (name : String) : Option CallSite := h.machine.sites.get? name

/-- Put a call site within reach of guest programs. -/
def setSite (h : Host) (name : String) (s : CallSite) : Host :=
  { h with machine := { h.machine with sites := h.machine.sites.insert name s } }

/-- Record a call into the embedding. -/
def emit (h : Host) (e : Event) : Host := { h with events := h.events.push e }

/-- A code object. -/
def code (h : Host) (c : CodeId) : Code := (h.codes.get? c.index).getD default

/-- Add a code object. -/
def addCode (h : Host) (c : Code) : CodeId × Host :=
  (⟨h.codes.size⟩, { h with codes := h.codes.add c })

/-- A registry. -/
def registry (h : Host) (r : RegistryId) : Registry := (h.registries.get? r.index).getD default

/-- Replace a registry. -/
def setRegistry (h : Host) (r : RegistryId) (new : Registry) : Host :=
  { h with registries := h.registries.modify r.index fun _ => new }

/-- Add a registry. -/
def addRegistry (h : Host) (resolver : Option ResolverId) : RegistryId × Host :=
  (⟨h.registries.size⟩, { h with registries := h.registries.add (.empty resolver) })

/-- A table of factories. -/
def resolver (h : Host) (r : ResolverId) : Resolver := (h.resolvers.get? r.index).getD default

/-- Add a table of factories. -/
def addResolver (h : Host) : ResolverId × Host :=
  (⟨h.resolvers.size⟩, { h with resolvers := h.resolvers.add .empty })

/-- Make a factory reachable in a table. -/
def insertFactory (h : Host) (r : ResolverId) (location : String) (f : Factory) : Host :=
  { h with resolvers := h.resolvers.modify r.index fun t => t.insert location f }

/-- A provider. -/
def provider (h : Host) (p : ProviderId) : Provider := (h.providers.get? p.index).getD default

/-- Add a provider. -/
def addProvider (h : Host) (p : Provider) : ProviderId × Host :=
  (⟨h.providers.size⟩, { h with providers := h.providers.add p })

/-- Attach a program to the identity of a source unit. -/
def attachProgram (h : Host) (unit : String) (p : Script.Program) : Host :=
  { h with programs := h.programs.insert unit p }

/-- The program of a source unit, empty if none was attached. -/
def program (h : Host) (unit : String) : Script.Program := (h.programs.get? unit).getD {}

end Host

end Polyglot
