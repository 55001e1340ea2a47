import Polyglot.Binary64.Decimal
import Polyglot.Context
import Polyglot.Symbol
import Polyglot.Text.Numeral

/-!
# Polyglot.Value

The values that pass between the host, its call sites and the guest languages.

Equality of values is a partial equivalence: numbers in double precision are compared as
numbers, so a value that holds a NaN at any depth differs from itself; procedures and native
objects are compared by identity, and contexts by their chains.
-/

namespace Polyglot

/-- The kinds of values, on which slot types and call guards are built. -/
inductive Kind where
  | nil | bool | int | float | str | symbol | list | procedure | context | native
  deriving DecidableEq, Inhabited

namespace Kind

/-- The name of a kind in messages. -/
def name : Kind → String
  | nil => "nil"
  | bool => "bool"
  | int => "int"
  | float => "float"
  | str => "string"
  | symbol => "symbol"
  | list => "list"
  | procedure => "procedure"
  | context => "context"
  | native => "native"

/-- The kind as a developer sees it. -/
def inspect : Kind → String
  | nil => "Nil"
  | bool => "Bool"
  | int => "Int"
  | float => "Float"
  | str => "Str"
  | symbol => "Symbol"
  | list => "List"
  | procedure => "Procedure"
  | context => "Context"
  | native => "Native"

/-- All kinds. -/
def all : List Kind := [nil, bool, int, float, str, symbol, list, procedure, context, native]

theorem mem_all (k : Kind) : k ∈ all := by cases k <;> decide

/-- The kind with this name. -/
def ofName? (s : String) : Option Kind := all.find? fun k => k.name = s

end Kind

/-- What a procedure does with its arguments. -/
inductive Behaviour where
  /-- Returns its arguments as a list. -/
  | list
  /-- Returns its arguments as a list, with the procedure's name in front. -/
  | tag
  /-- Returns the number of its arguments. -/
  | count
  /-- Returns the sum of its integer arguments, wrapping around, and ignores the others. -/
  | sum
  /-- Returns its first argument. -/
  | first
  /-- Returns the names of the kinds of its arguments. -/
  | kinds
  /-- Reads a variable: its arguments are a context and a name. -/
  | lookup
  /-- Fails as if its own name were an unbound variable. -/
  | unbound
  /-- Fails with its own name as the message. -/
  | fail
  deriving DecidableEq, Inhabited

/-- The behaviour with this name; every name without one means failure. -/
def Behaviour.ofName : String → Behaviour
  | "list" => list
  | "tag" => tag
  | "count" => count
  | "sum" => sum
  | "first" => first
  | "kinds" => kinds
  | "lookup" => lookup
  | "unbound" => unbound
  | _ => fail

/-- A callable value.  Procedures are told apart by `id`. -/
structure Procedure where
  id : String
  name : Symbol
  behaviour : Behaviour
  deriving DecidableEq, Inhabited

/-- The procedure as a developer sees it. -/
def Procedure.inspect (p : Procedure) : String := "#<procedure " ++ p.name.text ++ ">"

/-- A value. -/
inductive Value where
  /-- No value. -/
  | nil
  | bool (b : Bool)
  | int (n : Int64)
  | float (x : Binary64)
  | str (s : String)
  | symbol (s : Symbol)
  | list (items : List Value)
  | procedure (p : Procedure)
  /-- The environment of a call, passed as an argument. -/
  | context (c : Context)
  /-- An object of the host that holds a text; objects are told apart by it. -/
  | native (label : String)
  deriving Inhabited

namespace Value

/-- The kind of a value. -/
def kind : Value → Kind
  | nil => .nil
  | bool _ => .bool
  | int _ => .int
  | float _ => .float
  | str _ => .str
  | symbol _ => .symbol
  | list _ => .list
  | procedure _ => .procedure
  | context _ => .context
  | native _ => .native

/-- The name of a value's kind. -/
def typeName (v : Value) : String := v.kind.name

/-- Whether the value is the absence of one. -/
def isNil : Value → Bool
  | nil => true
  | _ => false

/-- The integer in a value. -/
def asInt? : Value → Option Int64
  | int n => some n
  | _ => none

/-- The text in a value. -/
def asStr? : Value → Option String
  | str s => some s
  | _ => none

/-- The items of a list. -/
def asList? : Value → Option (List Value)
  | list items => some items
  | _ => none

/-- The context in a value. -/
def asContext? : Value → Option Context
  | context c => some c
  | _ => none

/-- The text that a native object holds. -/
def asNative? : Value → Option String
  | native label => some label
  | _ => none

/-! ## Equality -/

mutual
/-- Equality of values. -/
def same : Value → Value → Bool
  | nil, nil => true
  | bool a, bool b => a == b
  | int a, int b => a == b
  | float a, float b => a.same b
  | str a, str b => a == b
  | symbol a, symbol b => decide (a = b)
  | list a, list b => sameItems a b
  | procedure a, procedure b => a.id == b.id
  | context a, context b => a.sameChain b
  | native a, native b => a == b
  | _, _ => false

/-- Equality of lists of values, position by position. -/
def sameItems : List Value → List Value → Bool
  | [], [] => true
  | a :: as, b :: bs => same a b && sameItems as bs
  | _, _ => false
end

/-! ## Inspection -/

mutual
/-- The value as a developer sees it. -/
def inspect : Value → String
  | nil => "Nil"
  | bool b => Text.inspectApply "Bool" [Text.inspectBool b]
  | int n => Text.inspectApply "Int" [Text.writeInt64 n]
  | float x => Text.inspectApply "Float" [x.write]
  | str s => Text.inspectApply "Str" [Text.quote s]
  | symbol s => Text.inspectApply "Symbol" [s.text]
  | list items => Text.inspectList (inspectItems items)
  | procedure p => p.inspect
  | context _ => "Context(...)"
  | native _ => "Native(...)"

/-- The items of a list as a developer sees them. -/
def inspectItems : List Value → List String
  | [] => []
  | v :: vs => inspect v :: inspectItems vs
end

end Value

end Polyglot
