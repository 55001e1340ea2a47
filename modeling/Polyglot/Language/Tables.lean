import Polyglot.Language.Registry

/-!
# Polyglot.Language.Tables

The tables in which a registry keeps its languages.  Descriptors are numbered in the order in
which they came, and two tables lead to their numbers:

```
descriptors    0, 1, 2, …            the locators
byType         type name             number of the descriptor
byId           key of identifier     number of the descriptor
```

A number that is not that of a descriptor stops whoever goes by it (`OutOfRange`).  Whatever the
registry does with its tables is given here with this way of ending.  `Registry` is what can be
seen of the tables.
-/

namespace Polyglot.Language

/-- What stops an access to a descriptor that there is not. -/
structure OutOfRange where
  number : Nat
  size : Nat
  deriving DecidableEq

/-- The tables of a registry. -/
structure Tables where
  /-- The descriptors, which are known by their places in this list. -/
  descriptors : List Locator
  /-- The number of the descriptor of each type name. -/
  byType : Dict String Nat
  /-- The number of the descriptor behind the key of each identifier. -/
  byId : Dict String Nat

namespace Tables

/-- Tables without languages. -/
def empty : Tables := { descriptors := [], byType := .empty, byId := .empty }

/-- The descriptor with a number. -/
def descriptor (t : Tables) (n : Nat) : Except OutOfRange Locator :=
  match t.descriptors[n]? with
  | some l => .ok l
  | none => .error ⟨n, t.descriptors.length⟩

/-! ## Registration -/

/-- The first of the keys behind which there is another descriptor than the one that exists
already, with the number of that other one. -/
def conflict? (t : Tables) (existing : Option Nat) : List String → Option (String × Nat)
  | [] => none
  | k :: ks =>
    match t.byId.get? k with
    | some n => if some n = existing then t.conflict? existing ks else some (k, n)
    | none => t.conflict? existing ks

/-- The number of the descriptor of a type name, and the tables with a new descriptor if there was
none. -/
def enter (t : Tables) (l : Locator) : Nat × Tables :=
  match t.byType.get? l.typeName with
  | some n => (n, t)
  | none =>
    let n := t.descriptors.length
    (n, { t with descriptors := t.descriptors ++ [l], byType := t.byType.insert l.typeName n })

/-- Let all keys lead to one descriptor. -/
def assign (t : Tables) (n : Nat) (ks : List String) : Tables :=
  { t with byId := Registry.assignAll t.byId n ks }

/-- Register an implementation under identifiers.  The descriptor is read once more when all is
done, for the record of it. -/
def register (t : Tables) (l : Locator) (override : Bool) (ids : List String) :
    Except OutOfRange (Except RegistryError Tables) :=
  match keys ids with
  | .error e => .ok (.error (.argument e))
  | .ok ks =>
    match (if override then none else t.conflict? (t.byType.get? l.typeName) ks) with
    | some (k, n) =>
      (t.descriptor n).map fun existing => .error (.conflict k existing.typeName l.typeName)
    | none =>
      let entered := t.enter l
      let new := entered.2.assign entered.1 ks
      (new.descriptor entered.1).map fun _ => .ok new

/-! ## Queries -/

/-- The descriptor with a number that was found or not. -/
def descriptorFor (t : Tables) : Option Nat → Except OutOfRange (Option Locator)
  | none => .ok none
  | some n => (t.descriptor n).map some

/-- The descriptor of a type name. -/
def findByType (t : Tables) (type : String) : Except OutOfRange (Option Locator) :=
  t.descriptorFor (t.byType.get? type)

/-- The descriptor behind an identifier. -/
def find (t : Tables) (identifier : String) :
    Except OutOfRange (Except ArgumentError (Option Locator)) :=
  match key identifier with
  | .error e => .ok (.error e)
  | .ok k => (t.descriptorFor (t.byId.get? k)).map .ok

/-- The type name an identifier stands for; an invalid identifier stands for none. -/
def typeNameOf? (t : Tables) (identifier : String) : Except OutOfRange (Option String) :=
  (t.find identifier).map fun
    | .ok l => l.map Locator.typeName
    | .error _ => none

/-- Whether the identifier is registered, which no descriptor is read for. -/
def isRegistered (t : Tables) (identifier : String) : Bool :=
  match key identifier with
  | .error _ => false
  | .ok k => t.byId.contains k

/-- The keys of all identifiers in order, of one implementation if a type name is given, and of
the file extensions only if that is asked for. -/
def listIdentifiers (t : Tables) (typeName : Option String) (extensionsOnly : Bool) :
    List String :=
  match typeName with
  | none => Registry.listing t.byId none extensionsOnly
  | some type =>
    match t.byType.get? type with
    | none => []
    | some n => Registry.listing t.byId (some n) extensionsOnly

/-- How many descriptors there are. -/
def descriptorCount (t : Tables) : Nat := t.descriptors.length

end Tables

end Polyglot.Language
