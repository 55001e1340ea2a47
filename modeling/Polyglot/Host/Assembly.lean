import Polyglot.Host.Compiling
import Polyglot.Module

/-!
# Polyglot.Host.Assembly

Assembling modules from compiled code.  Assembly is all or nothing.  The providers of the code
are found first; then a module number is taken and every code object is claimed for it; then
globals are linked, providers prepare the module, and the application is told.  Code that
belongs to another module cannot be claimed, and a claim that fails gives back what was claimed
before it.

The bootstrap module claims its code only while it is assembled, and no provider prepares it.
-/

namespace Polyglot

open Polyglot.Language

/-- The name of the bootstrap module. -/
def bootstrapName : String := "__bootstrap__"

namespace Code

/-- Claim code for a module; claiming it again for the same module changes nothing. -/
def bind (c : Code) (m : ModuleId) : Except ModuleError Code :=
  match c.owner with
  | none => .ok { c with owner := some m }
  | some owner =>
    if owner = m then .ok c else .error (.codeAlreadyBound c.source owner.display)

/-- Give code back, if the module owns it. -/
def unbind (c : Code) (m : ModuleId) : Code :=
  if c.owner = some m then { c with owner := none } else c

end Code

namespace Host

/-! ## Claiming -/

/-- Replace a code object. -/
def setCode (h : Host) (id : CodeId) (c : Code) : Host :=
  { h with codes := h.codes.modify id.index fun _ => c }

/-- Claim one code object. -/
def bind (h : Host) (m : ModuleId) (id : CodeId) : Except ModuleError Host :=
  ((h.code id).bind m).map (h.setCode id)

/-- Give one code object back. -/
def unbind (h : Host) (m : ModuleId) (id : CodeId) : Host := h.setCode id ((h.code id).unbind m)

/-- Give code objects back. -/
def releaseAll (h : Host) (m : ModuleId) (ids : List CodeId) : Host :=
  ids.foldl (fun h id => h.unbind m id) h

/-- Claim code objects in order; when one cannot be claimed, those in `claimed` are given back. -/
def claimFrom (m : ModuleId) (claimed : List CodeId) :
    List CodeId → Host → Except ModuleError Unit × Host
  | [], h => (.ok (), h)
  | id :: ids, h =>
    match h.bind m id with
    | .error e => (.error e, h.releaseAll m claimed)
    | .ok h => claimFrom m (claimed ++ [id]) ids h

/-- Claim all code objects for a module, or none of them. -/
def claimAll (h : Host) (m : ModuleId) (ids : List CodeId) : Except ModuleError Unit × Host :=
  claimFrom m [] ids h

/-! ## Providers of code -/

/-- The provider of a code object: the one that compiled it, or else the one that its language
stands for now. -/
def providerOf (h : Host) (r : RegistryId) (id : CodeId) :
    Except RegistryError ProviderId × Host :=
  match (h.code id).provider with
  | some p => (.ok p, h)
  | none => h.resolve r (h.code id).language

/-- The providers of code objects besides those in `found`, each once, in the order in which they
first occur. -/
def distinctProviders (r : RegistryId) (found : List ProviderId) :
    List CodeId → Host → Except RegistryError (List ProviderId) × Host
  | [], h => (.ok found, h)
  | id :: ids, h =>
    match h.providerOf r id with
    | (.error e, h) => (.error e, h)
    | (.ok p, h) => distinctProviders r (if p ∈ found then found else found ++ [p]) ids h

/-! ## Linking -/

/-- Give a code object its linkage. -/
def linkCode (l : Linkage) (h : Host) (id : CodeId) : Host :=
  let code := h.code id
  let h := h.setCode id { code with compiled := code.compiled.link l }
  match code.compiled with
  | .script _ _ => h.emit (.link code.source l.names)
  | _ => h

/-- The names that code objects declare, in order. -/
def declarationsOf (h : Host) (ids : List CodeId) : List Declaration :=
  ids.flatMap fun id => (h.code id).compiled.declarations

/-- Link the globals of code objects and give each of them the linkage. -/
def linkGlobals (h : Host) (ids : List CodeId) : Linkage × Host :=
  let (l, st) := Linkage.link h.store (h.declarationsOf ids)
  (l, ids.foldl (linkCode l) (h.setStore st))

/-- The scope of a new module, and its globals if they are linked. -/
def moduleScope (h : Host) (o : Options) (scope : Option ScopeId) (ids : List CodeId) :
    (ScopeId × Option Linkage) × Host :=
  match scope with
  | some sc => ((sc, none), h)
  | none =>
    if ids ≠ [] ∧ o.linkGlobals then
      let (l, h) := h.linkGlobals ids
      let (sc, st) := l.newScope h.store
      ((sc, some l), h.setStore st)
    else
      let (sc, st) := h.store.newScope
      ((sc, none), h.setStore st)

/-! ## Announcing -/

/-- The modules that own the code of a module. -/
def ownersOf (h : Host) (m : Module) : List (Option ModuleId) :=
  m.code.map fun id => (h.code id).owner

/-- Let a provider prepare a module. -/
def prepare (m : Module) (h : Host) (p : ProviderId) : Host :=
  match h.provider p with
  | .script _ quiet =>
    if quiet then h
    else h.emit (.context p m.name m.id m.file (h.store.nameCount m.scope) (h.ownersOf m))
  | .tally prepared count =>
    { h with providers := h.providers.modify p.index fun _ => .tally (prepared ++ [m.name]) count }

/-- Tell the application of a module. -/
def announce (h : Host) (l : Listener) (m : Module) : Host :=
  match l with
  | .silent => h
  | .recording => h.emit (.moduleCreated m.name m.id (h.ownersOf m))

/-- The source of a list of code objects that has exactly one. -/
def fileOf (h : Host) : List CodeId → Option String
  | [id] => some (h.code id).source
  | _ => none

/-! ## Assembly -/

/-- The providers that are to prepare a module. -/
def providersToPrepare (h : Host) (c : Compiler) (name : String) (ids : List CodeId) :
    Except RegistryError (List ProviderId) × Host :=
  if name = bootstrapName then (.ok [], h) else distinctProviders c.registry [] ids h

/-- Finish a module whose code is claimed for the number `id`. -/
def finish (h : Host) (c : Compiler) (id : ModuleId) (name : String) (scope : Option ScopeId)
    (ids : List CodeId) (providers : List ProviderId) : Module × Host :=
  let ((sc, globals), h) := h.moduleScope c.options scope ids
  let h := if name = bootstrapName then h.releaseAll id ids else h
  let m : Module := { id, name, scope := sc, code := ids, file := h.fileOf ids, globals }
  (m, (providers.foldl (prepare m) h).announce c.listener m)

/-- Assemble a module from compiled code, in the given scope or else in a new one. -/
def createModule (h : Host) (c : Compiler) (name : String) (scope : Option ScopeId)
    (ids : List CodeId) : Except ModuleError Module × Host :=
  match h.providersToPrepare c name ids with
  | (.error e, h) => (.error (.registry e), h)
  | (.ok providers, h) =>
    let (id, st) := h.store.nextModule
    match (h.setStore st).claimAll id ids with
    | (.error e, h) => (.error e, h)
    | (.ok _, h) =>
      let (m, h) := h.finish c id name scope ids providers
      (.ok m, h)

/-- Compile units into a module.  No module is made if a unit fails, or if any error was
reported, whether the sink accepted it or not. -/
def compileModule (h : Host) (c : Compiler) (name : String) (scope : Option ScopeId)
    (units : List SourceUnit) (sink : Sink) : Except ModuleError Module × Host × Sink :=
  let before := sink.errorCount
  match compileUnits c units h sink with
  | (.error e, h, sink) => (.error e, h, sink)
  | (.ok ids, h, sink) =>
    let errors := sink.errorCount - before
    if 0 < errors then (.error (.diagnosticsReported name errors), h, sink)
    else
      let (result, h) := h.createModule c name scope ids
      (result, h, sink)

end Host

end Polyglot
