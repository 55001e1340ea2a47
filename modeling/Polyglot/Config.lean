import Polyglot.Host
import Polyglot.Json.Record
import Polyglot.Json.Writing

/-!
# Polyglot.Config

Configurations: the languages that an application uses and the switches of its runtime, as a JSON
text.

```json
{
  "languages": [
    {
      "type_name": "SchemeProvider",
      "location": "scheme-package",
      "names": ["Scheme", "scm"],
      "extensions": [".ss", "scm"]
    }
  ],
  "options": { "debug_mode": false, "link_globals": true }
}
```

Names and extensions, the list of languages, the options and each of them may be left out.
-/

namespace Polyglot

/-- One language: its implementation, and the names and extensions it is known under. -/
structure LanguageSetup where
  typeName : String := ""
  location : String := ""
  names : List String := []
  extensions : List String := []
  deriving DecidableEq, Inhabited

namespace LanguageSetup

/-- An extension with its dot. -/
def dotted (extension : String) : String :=
  if extension.toList.head? = some '.' then extension else "." ++ extension

/-- The identifiers of the language: its names, then its extensions with their dots. -/
def identifiers (l : LanguageSetup) : List String := l.names ++ l.extensions.map dotted

/-- The setup as a developer sees it. -/
def inspect (l : LanguageSetup) : String :=
  Text.inspectRecord "LanguageSetup"
    [("type_name", Text.quote l.typeName), ("location", Text.quote l.location),
      ("names", Text.inspectList (l.names.map Text.quote)),
      ("extensions", Text.inspectList (l.extensions.map Text.quote))]

/-- The setup as JSON, on the given level. -/
def write (level : Nat) (l : LanguageSetup) : String :=
  let texts (ss : List String) := Json.writeList (level + 1) (ss.map Json.writeText)
  Json.writeObject level
    [("type_name", Json.writeText l.typeName), ("location", Json.writeText l.location),
      ("names", texts l.names), ("extensions", texts l.extensions)]

/-- Read a setup. -/
def read : Json.Reader LanguageSetup :=
  Json.readRecord "struct LanguageSetup"
    [{ name := "type_name", required := true
       read := fun cs => (Json.readText cs).map fun r =>
         (fun l => { l with typeName := r.1 }, r.2) },
     { name := "location", required := true
       read := fun cs => (Json.readText cs).map fun r =>
         (fun l => { l with location := r.1 }, r.2) },
     { name := "names", required := false
       read := fun cs => (Json.readList Json.readText cs).map fun r =>
         (fun l => { l with names := r.1 }, r.2) },
     { name := "extensions", required := false
       read := fun cs => (Json.readList Json.readText cs).map fun r =>
         (fun l => { l with extensions := r.1 }, r.2) }]
    {}

end LanguageSetup

namespace Options

/-- The switches as JSON, on the given level. -/
def write (level : Nat) (o : Options) : String :=
  Json.writeObject level
    [("debug_mode", Text.inspectBool o.debugMode), ("link_globals", Text.inspectBool o.linkGlobals)]

/-- Read switches; one that is left out keeps its default. -/
def read : Json.Reader Options :=
  Json.readRecord "struct RuntimeOptions"
    [{ name := "debug_mode", required := false
       read := fun cs => (Json.readBool cs).map fun r =>
         (fun o => { o with debugMode := r.1 }, r.2) },
     { name := "link_globals", required := false
       read := fun cs => (Json.readBool cs).map fun r =>
         (fun o => { o with linkGlobals := r.1 }, r.2) }]
    {}

end Options

/-- The languages and the switches of a runtime. -/
structure Config where
  languages : List LanguageSetup := []
  options : Options := {}
  deriving DecidableEq, Inhabited

namespace Config

/-- Read a configuration from its JSON text. -/
def ofText (text : String) : Except Json.Fault Config :=
  Json.readWhole
    (Json.readRecord "struct RuntimeConfig"
      [{ name := "languages", required := false
         read := fun cs => (Json.readList LanguageSetup.read cs).map fun r =>
           (fun c => { c with languages := r.1 }, r.2) },
       { name := "options", required := false
         read := fun cs => (Options.read cs).map fun r =>
           (fun c => { c with options := r.1 }, r.2) }]
      {})
    text

/-- What an application is told of a text that is JSON but no configuration. -/
def reason? : Json.Fault → Option String
  | .content message => some ("invalid configuration: " ++ message)
  | _ => none

/-- The JSON text of a configuration. -/
def toText (c : Config) : String :=
  Json.writeObject 0
    [("languages", Json.writeList 1 (c.languages.map (LanguageSetup.write 2))),
      ("options", c.options.write 1)]

/-- The configuration as a developer sees it. -/
def inspect (c : Config) : String :=
  Text.inspectRecord "RuntimeConfig"
    [("languages", Text.inspectList (c.languages.map LanguageSetup.inspect)),
      ("options", c.options.inspectForRuntime)]

end Config

end Polyglot
