import Polyglot.Host

/-!
# Polyglot.Host.Loading

Finding and loading languages.  An implementation is loaded when its provider is first asked for.
Its factory runs then, wherever it was found, and may itself register and ask for languages in the
registry that looks it up; a provider that was made stays, and a failure is not remembered, so that
the next request tries again.

A factory that asks, directly or through others, for the implementation it is making cannot get
it; such a request fails without running a factory.
-/

namespace Polyglot.Host

open Polyglot.Language

/-- Where a factory is kept. -/
inductive FactoryPlace where
  /-- With the implementation of a type name in a registry. -/
  | registered (registry : RegistryId) (typeName : String)
  /-- Under a location and a type name in a table of factories. -/
  | located (resolver : ResolverId) (location typeName : String)
  /-- Nowhere: it is used once. -/
  | loose

/-- Why a factory made no provider. -/
inductive ConstructionFailure where
  | refused (reason : String)
  | brokeDown (message : Option String)
  deriving DecidableEq

/-- The failure in words. -/
def ConstructionFailure.reason : ConstructionFailure → String
  | refused reason => reason
  | brokeDown none => "constructor panicked"
  | brokeDown (some message) => "constructor panicked: " ++ message

/-- The reason for which a factory cannot have the provider it is making. -/
def ownProvider : String := "constructor waits for itself"

/-! ## Registration -/

/-- Register an implementation in a registry. -/
def register (h : Host) (r : RegistryId) (l : Locator) (override : Bool) (ids : List String) :
    Except RegistryError Host :=
  ((h.registry r).register l override ids).map (h.setRegistry r)

/-! ## Factories -/

/-- Make what a factory ends with. -/
def produce (h : Host) : Product → Except ConstructionFailure ProviderId × Host
  | .script name quiet =>
    let (p, h) := h.addProvider (.script name quiet)
    (.ok p, h)
  | .shared label name quiet =>
    match h.shared.get? label with
    | some p => (.ok p, h)
    | none =>
      let (p, h) := h.addProvider (.script name quiet)
      (.ok p, { h with shared := h.shared.insert label p })
  | .tally =>
    let (p, h) := h.addProvider (.tally [] 0)
    (.ok p, h)
  | .refusal reason => (.error (.refused reason), h)
  | .breakdown message => (.error (.brokeDown message), h)

/-- Count a request to a factory where it is kept. -/
def countCall (h : Host) (f : Factory) : FactoryPlace → Host
  | .registered r type =>
    let reg := h.registry r
    match reg.implementations.get? type with
    | none => h
    | some i => h.setRegistry r
        (reg.setImplementation type { i with locator := .resolved { f with calls := f.calls + 1 } })
  | .located r location _ => h.insertFactory r location { f with calls := f.calls + 1 }
  | .loose => h

/-- How a request for a language by identifier is answered. -/
abbrev Lookup := String → Host → Except RegistryError ProviderId × Host

/-- The reason for which an errand fails without a registry. -/
def registryGone : String := "registry gone"

mutual
/-- Do an errand in a registry, if there is one. -/
def runErrand (lookUp : Lookup) (home : Option RegistryId) :
    Errand → Host → Except String Unit × Host
  | .register l ids override, h =>
    match home with
    | none => (.error registryGone, h)
    | some r =>
      match h.register r l override ids with
      | .error e => (.error e.message, h)
      | .ok h => (.ok (), h)
  | .resolve id, h =>
    match home with
    | none => (.error registryGone, h)
    | some _ =>
      match lookUp id h with
      | (.error e, h) => (.error e.message, h)
      | (.ok _, h) => (.ok (), h)
  | .attempt es others, h =>
    match runErrands lookUp home es h with
    | (.error _, h) => runErrands lookUp home others h
    | (.ok _, h) => (.ok (), h)

/-- Do errands, up to the first that fails. -/
def runErrands (lookUp : Lookup) (home : Option RegistryId) :
    List Errand → Host → Except String Unit × Host
  | [], h => (.ok (), h)
  | e :: es, h =>
    match runErrand lookUp home e h with
    | (.error reason, h) => (.error reason, h)
    | (.ok _, h) => runErrands lookUp home es h
end

/-- Ask a factory for a provider, on behalf of a registry if there is one. -/
def construct (lookUp : Lookup) (home : Option RegistryId) (h : Host) (f : Factory)
    (place : FactoryPlace) : Except ConstructionFailure ProviderId × Host :=
  let h := (h.countCall f place).emit (.construct f.typeName)
  if f.calls < f.failTimes then (.error (.refused ("attempt " ++ toString f.calls)), h)
  else
    match runErrands lookUp home f.errands h with
    | (.error reason, h) => (.error (.refused reason), h)
    | (.ok _, h) => h.produce f.product

/-! ## Lookup -/

/-- The factory that a locator leads to, and where it is kept. -/
def locate (h : Host) (r : RegistryId) : Locator → Except RegistryError (Factory × FactoryPlace)
  | .resolved f => .ok (f, .registered r f.typeName)
  | .deferred location type =>
    match (h.registry r).resolver with
    | none => .error (.missingImplementation type location)
    | some t =>
      match (h.resolver t).locate location type with
      | none => .error (.missingImplementation type location)
      | some f => .ok (f, .located t location type)

/-- Note how far the loading of an implementation has come. -/
def setLoading (h : Host) (r : RegistryId) (typeName : String) (state : Loading) : Host :=
  let reg := h.registry r
  match reg.implementations.get? typeName with
  | none => h
  | some i => h.setRegistry r (reg.setImplementation typeName { i with loading := state })

/-- Let a factory make the provider of an implementation that is not loaded. -/
def loadFrom (lookUp : Lookup) (h : Host) (r : RegistryId) (typeName : String) (f : Factory)
    (place : FactoryPlace) : Except RegistryError ProviderId × Host :=
  match construct lookUp (some r) (h.setLoading r typeName .building) f place with
  | (.error e, h) =>
    (.error (.invalidImplementation typeName e.reason), h.setLoading r typeName .absent)
  | (.ok p, h) => (.ok p, h.setLoading r typeName (.loaded p))

/-- Make the provider of an implementation that is not loaded. -/
def load (lookUp : Lookup) (h : Host) (r : RegistryId) (typeName : String) (l : Locator) :
    Except RegistryError ProviderId × Host :=
  match h.locate r l with
  | .error e => (.error e, h)
  | .ok (f, place) => h.loadFrom lookUp r typeName f place

/-- The type name that an identifier stands for at this moment. -/
def implementationOf (h : Host) (r : RegistryId) (id : String) :
    Except RegistryError (Option String) :=
  match (h.registry r).find id with
  | .error e => .error (.argument e)
  | .ok type => .ok type

/-- The provider of an implementation, which is loaded if need be; `depth` bounds how many
factories may wait for one another. -/
def instanceOf (r : RegistryId) : Nat → String → Host → Except RegistryError ProviderId × Host
  | 0, typeName, h => (.error (.invalidImplementation typeName ownProvider), h)
  | depth + 1, typeName, h =>
    match (h.registry r).implementations.get? typeName with
    | none => (.error (.unknownLanguage typeName), h)
    | some i =>
      match i.loading with
      | .loaded p => (.ok p, h)
      | .building => (.error (.invalidImplementation typeName ownProvider), h)
      | .absent =>
        h.load
          (fun id h =>
            match h.implementationOf r id with
            | .error e => (.error e, h)
            | .ok none => (.error (.unknownLanguage id), h)
            | .ok (some type) => instanceOf r depth type h)
          r typeName i.locator

/-- The table in which a registry looks for implementations. -/
def table? (h : Host) (r : RegistryId) : Option Resolver := (h.registry r).resolver.map h.resolver

/-- A number of nested lookups that is enough when no factory asks for what it is making: every
locator that is known to the registry, or can come to be known, counts once. -/
def depthBound (h : Host) (r : RegistryId) : Nat :=
  (h.registry r).weight + (h.table? r).elim 0 Resolver.weight + 1

/-- The provider of an implementation, by its type name. -/
def resolveByType (h : Host) (r : RegistryId) (typeName : String) :
    Except RegistryError ProviderId × Host :=
  instanceOf r (h.depthBound r) typeName h

/-- The provider of a language, or nothing if the identifier is not registered. -/
def tryResolve (h : Host) (r : RegistryId) (id : String) :
    Except RegistryError (Option ProviderId) × Host :=
  match h.implementationOf r id with
  | .error e => (.error e, h)
  | .ok none => (.ok none, h)
  | .ok (some type) =>
    match h.resolveByType r type with
    | (.error e, h) => (.error e, h)
    | (.ok p, h) => (.ok (some p), h)

/-- The provider of a language. -/
def resolve (h : Host) (r : RegistryId) (id : String) : Except RegistryError ProviderId × Host :=
  match h.tryResolve r id with
  | (.error e, h) => (.error e, h)
  | (.ok none, h) => (.error (.unknownLanguage id), h)
  | (.ok (some p), h) => (.ok p, h)

/-- The provider for a file extension, with or without its dot. -/
def resolveByExtension (h : Host) (r : RegistryId) (extension : String) :
    Except RegistryError ProviderId × Host :=
  match ofExtension extension with
  | .error e => (.error (.argument e), h)
  | .ok id => h.resolve r id

/-- No language can be looked up here. -/
def noLookup : Lookup := fun id h => (.error (.unknownLanguage id), h)

/-- Ask a factory for a provider outside any lookup. -/
def constructApart (h : Host) (f : Factory) (place : FactoryPlace) :
    Except ConstructionFailure ProviderId × Host :=
  construct noLookup none h f place

end Polyglot.Host
