import Polyglot.Identity
import Polyglot.Text.Inspection

/-!
# Polyglot.Context

The environment in which a call runs: a chain of scopes, innermost first, and the module on
whose behalf the call is made.  Contexts are values.  Putting a scope in front of a chain makes
a new context and leaves the old one as it was.

Each link of a chain has an identity of its own, because two contexts count as the same chain
when they share their innermost link, and not when they merely go through the same scopes.  The
store hands the identities out (`Polyglot.Store.push`).
-/

namespace Polyglot

/-- One link of a chain: its identity and the scope it puts in front. -/
structure Link where
  id : LinkId
  scope : ScopeId
  deriving DecidableEq

/-- A chain of scopes with its length, and the module it runs for. -/
structure Context where
  chain : List Link := []
  depth : Nat := 0
  module : Option ModuleId := none
  deriving DecidableEq, Inhabited

namespace Context

/-- The context without scopes and without a module. -/
def empty : Context := {}

/-- The context with one more link in front. -/
def cons (link : Link) (c : Context) : Context :=
  { c with chain := link :: c.chain, depth := c.depth + 1 }

/-- The innermost link. -/
def innermost (c : Context) : Option Link := c.chain.head?

/-- The innermost scope. -/
def scope (c : Context) : Option ScopeId := c.innermost.map Link.scope

/-- The scopes, innermost first. -/
def scopes (c : Context) : List ScopeId := c.chain.map Link.scope

/-- Whether two contexts share their innermost link.  Contexts without scopes are compared by
their modules. -/
def sameChain (a b : Context) : Bool :=
  match a.innermost, b.innermost with
  | some x, some y => x.id = y.id
  | none, none => a.module = b.module
  | _, _ => false

/-- The context as a developer sees it. -/
def inspect (c : Context) : String :=
  Text.inspectRecord "ExecutionContext"
    [("depth", toString c.depth), ("module", Text.inspectOption (c.module.map ModuleId.inspect))]

end Context

end Polyglot
