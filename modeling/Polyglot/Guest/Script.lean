import Polyglot.Guest.Declaration

/-!
# Polyglot.Guest.Script

Programs of scripted languages.  A scripted language is one whose programs the host writes down
as data: what a unit declares, which diagnostics its compilation reports, whether it fails, and
which statements run.
-/

namespace Polyglot.Script

/-- Something to compute: a value as it stands, or a variable. -/
inductive Expr where
  | value (v : Value)
  | var (name : Symbol)
  deriving Inhabited

/-- One step of a program.  Each yields a value. -/
inductive Statement where
  /-- Yields a value. -/
  | const (e : Expr)
  /-- Gives a name a value in the innermost scope. -/
  | set (name : Symbol) (e : Expr)
  /-- Assigns to a variable. -/
  | assign (name : Symbol) (e : Expr)
  /-- Adds to a variable that holds an integer. -/
  | add (name : Symbol) (n : Int64)
  /-- Takes a name out of the innermost scope. -/
  | remove (name : Symbol)
  /-- Yields the names of the innermost scope. -/
  | names
  /-- Reads a linked global. -/
  | globalGet (name : Symbol)
  /-- Writes a linked global. -/
  | globalSet (name : Symbol) (e : Expr)
  /-- Yields the length of the scope chain. -/
  | depth
  /-- Yields the number of the module. -/
  | module
  /-- Runs statements with a new scope in front of the chain. -/
  | push (body : List Statement)
  /-- Calls through a call site. -/
  | invoke (site : String) (args : List Expr)
  /-- Fails. -/
  | fail (message : String)
  deriving Inhabited

/-- A program: what its compilation does, and what it runs. -/
structure Program where
  declarations : List Declaration := []
  body : List Statement := []
  /-- What the compilation reports. -/
  diagnostics : List Diagnostic := []
  /-- The message with which the compilation fails. -/
  failure : Option String := none
  /-- The language that the code is said to be in, if it is not the provider's. -/
  language : Option String := none
  deriving Inhabited

end Polyglot.Script
