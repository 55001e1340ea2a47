import Polyglot.Guest.Tally.Run
import Polyglot.Host

/-!
# Polyglot.Module

Modules: compiled code bound to one scope.  A module never changes; its state is in the scope and
in the slots of its globals.
-/

namespace Polyglot

/-- A compiled program image. -/
structure Module where
  id : ModuleId
  name : String
  scope : ScopeId
  code : List CodeId
  /-- The source of the module's code, when it has exactly one code object. -/
  file : Option String
  /-- The static slots of its globals, if they were linked. -/
  globals : Option Linkage

namespace Module

/-- The module as a developer sees it. -/
def inspect (m : Module) : String :=
  Text.inspectRecord "Module"
    [("id", m.id.inspect), ("name", Text.quote m.name),
      ("file_name", Text.inspectOption (m.file.map Text.quote)), ("code", toString m.code.length),
      ("linked", Text.inspectOption (m.globals.map fun g => toString g.size))]

end Module

/-- The code as a developer sees it. -/
def Code.inspect (c : Code) : String :=
  Text.inspectRecord "CodeObject"
    [("source_id", Text.quote c.source), ("language", Text.quote c.language),
      ("module", Text.inspectOption (c.owner.map ModuleId.inspect))]

namespace Host

/-! ## Running -/

/-- Run code in a context. -/
def runCode (h : Host) (id : CodeId) (c : Context) : Except RuntimeError Value × Host :=
  let code := h.code id
  match code.compiled with
  | .plain => (.ok (.int (Int64.ofNat c.depth)), h)
  | .script p g =>
    let h := h.emit (.run code.source)
    let (result, m) := Script.runAll g p.body .nil c h.machine
    (result, { h with machine := m })
  | .tally as g =>
    let (result, st) := Tally.run g c as .nil h.store
    (result, h.setStore st)

/-- Run code objects in order, up to the first that fails; the result is that of the last one,
and `last` if there is none. -/
def runCodes (c : Context) : List CodeId → Value → Host → Except RuntimeError Value × Host
  | [], last, h => (.ok last, h)
  | id :: ids, _, h =>
    match h.runCode id c with
    | (.error e, h) => (.error e, h)
    | (.ok v, h) => runCodes c ids v h

/-- Run a module: its code in order, in a fresh context of its scope. -/
def execute (h : Host) (m : Module) : Except RuntimeError Value × Host :=
  let (c, st) := h.store.moduleContext m.id m.scope
  runCodes c m.code .nil (h.setStore st)

/-- The value of a top-level name of a module. -/
def topLevel (h : Host) (m : Module) (name : String) : Option Value :=
  h.store.readName m.scope (.named name)

end Host

end Polyglot
