import Polyglot.Dict
import Polyglot.Text.Inspection

/-!
# Polyglot.Language.Locator

How the implementation of a language is found and made.  A locator either holds a factory, or
names a location where a resolver, a table of factories, is to find one later.

A factory belongs to an implementation, which is known by its type name, and makes a provider of
it.  Making one can fail, it may first need other languages, and it may itself register some, all
of which may fail in turn, with or without an end to the factory.
-/

namespace Polyglot.Language

/-- What a factory ends with. -/
inductive Product where
  /-- A new scripted provider; a quiet one does nothing when a module is made. -/
  | script (name : String) (quiet : Bool)
  /-- The one scripted provider with this label, made at first use. -/
  | shared (label name : String) (quiet : Bool)
  /-- A new provider of Tally. -/
  | tally
  /-- No provider, for a reason. -/
  | refusal (reason : String)
  /-- No provider, because the factory broke down, perhaps with a message. -/
  | breakdown (message : Option String)
  deriving DecidableEq

mutual
/-- Names one implementation of a language. -/
inductive Locator where
  | resolved (factory : Factory)
  | deferred (location typeName : String)

/-- Makes providers of one implementation. -/
structure Factory where
  typeName : String
  /-- How often the factory was asked for a provider. -/
  calls : Nat
  /-- How many requests it refuses before it does its work. -/
  failTimes : Nat
  /-- What it does with the registry that asks it before it makes a provider. -/
  errands : List Errand
  product : Product

/-- Something a factory does with the registry that asks it. -/
inductive Errand where
  /-- Registers an implementation. -/
  | register (locator : Locator) (ids : List String) (override : Bool)
  /-- Asks for the provider of a language. -/
  | resolve (id : String)
  /-- Does errands up to the first that fails; if one fails, does others instead and goes on. -/
  | attempt (errands otherwise : List Errand)
end

instance : Inhabited Factory := ⟨⟨"", 0, 0, [], .breakdown none⟩⟩

instance : Inhabited Locator := ⟨.resolved default⟩

/-- The factory as a developer sees it. -/
def Factory.inspect (f : Factory) : String :=
  Text.inspectRecord "ProviderFactory" [("type_name", Text.quote f.typeName)]

namespace Locator

/-- The type name of the implementation. -/
def typeName : Locator → String
  | resolved f => f.typeName
  | deferred _ type => type

/-- The location where a resolver is to find the implementation. -/
def location? : Locator → Option String
  | resolved _ => none
  | deferred location _ => some location

/-- The locator as a developer sees it. -/
def inspect : Locator → String
  | resolved f => Text.inspectApply "Resolved" [Text.quote f.typeName]
  | deferred location type => Text.inspectRecord "Deferred"
      [("location", Text.quote location), ("type_name", Text.quote type)]

end Locator

mutual
/-- How many locators there are in a locator, itself included. -/
def Locator.weight : Locator → Nat
  | .resolved f => 1 + f.weight
  | .deferred _ _ => 1

/-- How many locators a factory may come to register. -/
def Factory.weight : Factory → Nat
  | ⟨_, _, _, errands, _⟩ => weightOf errands

/-- How many locators there are in a list of errands. -/
def weightOf : List Errand → Nat
  | [] => 0
  | e :: es => e.weight + weightOf es

/-- How many locators there are in one errand. -/
def Errand.weight : Errand → Nat
  | .register l _ _ => l.weight
  | .resolve _ => 0
  | .attempt es others => weightOf es + weightOf others
end

/-- A table of factories by location and type name. -/
structure Resolver where
  table : Dict (String × String) Factory
  deriving Inhabited

namespace Resolver

/-- The table without factories. -/
def empty : Resolver := ⟨.empty⟩

/-- Make a factory reachable under a location; the last one for a type name counts. -/
def insert (r : Resolver) (location : String) (f : Factory) : Resolver :=
  ⟨r.table.insert (location, f.typeName) f⟩

/-- The factory under a location with a type name. -/
def locate (r : Resolver) (location typeName : String) : Option Factory :=
  r.table.get? (location, typeName)

/-- How many factories there are. -/
def size (r : Resolver) : Nat := r.table.size

/-- How many locators the factories may come to register. -/
def weight (r : Resolver) : Nat := r.table.entries.foldr (fun e n => e.2.weight + n) 0

end Resolver

end Polyglot.Language
