import Polyglot.Identity
import Polyglot.Language.Identifier
import Polyglot.Language.Locator

/-!
# Polyglot.Language.Registry

The registry of languages: which implementations are known, which identifier stands for which
implementation, and which implementations have been loaded.

An implementation is known by its type name.  It is entered once, with the locator of its first
registration, and is never removed; what can change is the implementation that an identifier
stands for.  Registering is all or nothing.

A registry is given here as it looks from outside.  `Polyglot.Language.Tables` has the tables in
which it keeps its languages by number.
-/

namespace Polyglot.Language

/-- How far the loading of an implementation has come. -/
inductive Loading where
  /-- No provider was made yet, or making one failed. -/
  | absent
  /-- A provider is being made. -/
  | building
  /-- The provider there is. -/
  | loaded (provider : ProviderId)
  deriving DecidableEq, Inhabited

/-- The provider of an implementation that is loaded. -/
def Loading.provider? : Loading → Option ProviderId
  | loaded p => some p
  | _ => none

/-- One implementation: how it is found, and its provider. -/
structure Implementation where
  locator : Locator
  loading : Loading := .absent

/-- A registry of languages. -/
structure Registry where
  /-- The implementations by type name, in the order of their first registration. -/
  implementations : Dict String Implementation
  /-- The type name each identifier stands for. -/
  identifiers : Dict String String
  /-- Where implementations are looked for that were registered by location. -/
  resolver : Option ResolverId
  deriving Inhabited

namespace Registry

/-- A registry without languages. -/
def empty (resolver : Option ResolverId) : Registry :=
  { implementations := .empty, identifiers := .empty, resolver }

/-! ## Registration -/

/-- The first of the keys that stands for another implementation, with that implementation's type
name. -/
def conflict? (r : Registry) (typeName : String) : List String → Option (String × String)
  | [] => none
  | k :: ks =>
    match r.identifiers.get? k with
    | some existing => if existing = typeName then r.conflict? typeName ks else some (k, existing)
    | none => r.conflict? typeName ks

/-- Let all keys stand for one implementation. -/
def assignAll {ν : Type} (d : Dict String ν) (implementation : ν) (ks : List String) :
    Dict String ν :=
  ks.foldl (fun d k => d.insert k implementation) d

/-- Enter an implementation, unless one of its type name is known already. -/
def enter (d : Dict String Implementation) (l : Locator) : Dict String Implementation :=
  if d.contains l.typeName then d else d.insert l.typeName { locator := l }

/-- Register an implementation under identifiers.  Every identifier must be valid, and unless the
registration overrides others, none may stand for another implementation. -/
def register (r : Registry) (l : Locator) (override : Bool) (ids : List String) :
    Except RegistryError Registry :=
  match keys ids with
  | .error e => .error (.argument e)
  | .ok ks =>
    match (if override then none else r.conflict? l.typeName ks) with
    | some (k, existing) => .error (.conflict k existing l.typeName)
    | none => .ok { r with
        implementations := enter r.implementations l
        identifiers := assignAll r.identifiers l.typeName ks }

/-! ## Queries -/

/-- The type name an identifier stands for, or nothing if it is not registered. -/
def find (r : Registry) (identifier : String) : Except ArgumentError (Option String) :=
  (key identifier).map r.identifiers.get?

/-- The type name an identifier stands for; an invalid identifier stands for none. -/
def typeNameOf? (r : Registry) (identifier : String) : Option String :=
  match r.find identifier with
  | .ok t => t
  | .error _ => none

/-- Whether the identifier is registered. -/
def isRegistered (r : Registry) (identifier : String) : Bool := (r.typeNameOf? identifier).isSome

/-- The provider of an implementation that is loaded. -/
def loaded? (r : Registry) (typeName : String) : Option ProviderId :=
  (r.implementations.get? typeName).bind fun i => i.loading.provider?

/-- Whether the implementation behind an identifier is loaded. -/
def isLoaded (r : Registry) (identifier : String) : Bool :=
  ((r.typeNameOf? identifier).bind r.loaded?).isSome

/-- The providers there are, in the order in which their implementations were registered. -/
def loadedProviders (r : Registry) : List ProviderId :=
  r.implementations.entries.filterMap fun e => e.2.loading.provider?

/-- Whether a key is that of a file extension. -/
def isExtensionKey (k : String) : Bool := k.toList.head? = some '.'

/-- The keys of identifiers in order, of one implementation if one is wanted, and of the file
extensions only if that is asked for. -/
def listing {ν : Type} [DecidableEq ν] (d : Dict String ν) (wanted : Option ν)
    (extensionsOnly : Bool) : List String :=
  let chosen := d.entries.filter fun e =>
    (!extensionsOnly || isExtensionKey e.1) && wanted.all fun v => e.2 = v
  (chosen.map Prod.fst).mergeSort fun a b => decide (a ≤ b)

/-- The keys of all identifiers in order, of one implementation if a type name is given, and of
the file extensions only if that is asked for. -/
def listIdentifiers (r : Registry) (typeName : Option String) (extensionsOnly : Bool) :
    List String :=
  listing r.identifiers typeName extensionsOnly

/-- The file extensions, in order. -/
def listExtensions (r : Registry) : List String := r.listIdentifiers none true

/-- How many implementations are known. -/
def implementationCount (r : Registry) : Nat := r.implementations.size

/-- Change how an implementation stands. -/
def setImplementation (r : Registry) (typeName : String) (i : Implementation) : Registry :=
  { r with implementations := r.implementations.insert typeName i }

/-- How many locators the registry knows, or may come to know from the factories of these. -/
def weight (r : Registry) : Nat :=
  r.implementations.entries.foldr (fun e n => e.2.locator.weight + n) 0

/-- The registry as a developer sees it. -/
def inspect (r : Registry) : String :=
  Text.inspectRecord "ProviderRegistry"
    [("descriptors", toString r.implementations.size),
      ("identifiers", toString r.identifiers.size),
      ("has_resolver", Text.inspectBool r.resolver.isSome)]

end Registry

end Polyglot.Language
