import Polyglot.Call.Shape
import Polyglot.Error

/-!
# Polyglot.Call.Builder

How the arguments that a procedure takes are made from the arguments that a caller writes.  The
caller's arguments are the logical ones; each argument of the procedure is made by one builder,
which passes a logical argument through, supplies a default or a constant, collects the logical
arguments from some index on, or passes the context.

The builders of a procedure work in the order of their priorities, lower first, and those of
equal priority in the order in which they were given.  The context comes first and the collected
rest last.
-/

namespace Polyglot

/-- Makes one argument of a procedure. -/
inductive Builder where
  /-- Passes the context. -/
  | context
  /-- Passes the logical argument at an index, which must be there. -/
  | simple (index : Nat) (kind : Option Kind)
  /-- Passes the logical argument at an index, or a default if there is none. -/
  | default (index : Nat) (value : Value) (kind : Option Kind)
  /-- Collects the logical arguments from an index on into a list. -/
  | params (start : Nat) (kind : Option Kind)
  /-- Passes a constant. -/
  | constant (value : Value)
  /-- A builder of the host: passes a list of its tag and the number of logical arguments. -/
  | custom (tag : String) (priority consumes : Nat) (variadic : Bool) (guard : Option Guard)
  /-- A builder of the host that says no more than how many arguments it consumes. -/
  | bare (consumes : Nat)

namespace Builder

/-- Priority of the context, which comes first. -/
def contextPriority : Nat := 0

/-- Priority of ordinary arguments. -/
def normalPriority : Nat := 100

/-- Priority of the collected rest, which comes last. -/
def paramsPriority : Nat := 200

/-- The rank of a builder; builders of lower rank work first. -/
def priority : Builder → Nat
  | context => contextPriority
  | params _ _ => paramsPriority
  | custom _ p _ _ _ => p
  | _ => normalPriority

/-- How many logical arguments a builder stands for in the arity that callers see. -/
def consumed : Builder → Nat
  | simple _ _ | default _ _ _ => 1
  | custom _ _ n _ _ | bare n => n
  | _ => 0

/-- Whether a builder takes all further logical arguments. -/
def isVariadic : Builder → Bool
  | params _ _ => true
  | custom _ _ _ v _ => v
  | _ => false

/-- Refuse a value of another kind than the one asked for. -/
def checkKind (expected : Option Kind) (v : Value) : Except RuntimeError Unit :=
  match expected with
  | none => .ok ()
  | some k => if v.kind = k then .ok () else .error (.typeMismatch k.name v.typeName)

/-- Refuse a list that holds a value of another kind; the first such value is named. -/
def checkKinds (expected : Option Kind) : List Value → Except RuntimeError Unit
  | [] => .ok ()
  | v :: vs =>
    match checkKind expected v with
    | .error e => .error e
    | .ok _ => checkKinds expected vs

/-- Make the argument. -/
def build (b : Builder) (c : Context) (args : List Value) : Except RuntimeError Value :=
  match b with
  | context => .ok (.context c)
  | simple i k =>
    match args[i]? with
    | none => .error (.other ("missing argument " ++ toString i))
    | some v => (checkKind k v).map fun _ => v
  | default i d k =>
    match args[i]? with
    | none => .ok d
    | some v => (checkKind k v).map fun _ => v
  | params start k => (checkKinds k (args.drop start)).map fun _ => .list (args.drop start)
  | constant v => .ok v
  | custom tag _ _ _ _ => .ok (.list [.str tag, .int (Int64.ofNat args.length)])
  | bare _ => .ok (.str "bare")

/-- The condition under which the builder can make its argument, as far as the shape of the call
tells; `none` where it always can.  No builder asks anything of the context. -/
def check (b : Builder) (_c : Context) (s : Shape) : Option Guard :=
  match b with
  | simple i none => some (.atLeast (i + 1))
  | simple i (some k) => some (.conj [.atLeast (i + 1), .kind i k])
  | default i _ (some k) => if i < s.size then some (.kind i k) else none
  | params start (some k) =>
    if start < s.size then
      some (.conj ((List.range' start (s.size - start)).map fun i => .kind i k))
    else none
  | custom _ _ _ _ g => g
  | _ => none

/-- An optional kind as a developer sees it. -/
def inspectKind (k : Option Kind) : String := Text.inspectOption (k.map Kind.inspect)

/-- The builder as a developer sees it. -/
def inspect : Builder → String
  | context => "ContextArgBuilder"
  | simple i k => Text.inspectRecord "SimpleArgBuilder"
      [("index", toString i), ("kind", inspectKind k)]
  | default i v k => Text.inspectRecord "DefaultArgBuilder"
      [("index", toString i), ("default", v.inspect), ("kind", inspectKind k)]
  | params start k => Text.inspectRecord "ParamsArgBuilder"
      [("start", toString start), ("kind", inspectKind k)]
  | constant v => Text.inspectRecord "ConstantArgBuilder" [("value", v.inspect)]
  | custom tag p n v g => Text.inspectRecord "Custom"
      [("tag", Text.quote tag), ("priority", toString p), ("consumes", toString n),
        ("variadic", Text.inspectBool v), ("guard", Text.inspectOption (g.map Guard.inspect))]
  | bare n => Text.inspectApply "Bare" [toString n]

end Builder

/-- The builders of one procedure, in the order in which they work. -/
structure BuilderSet where
  builders : List Builder

namespace BuilderSet

/-- Order builders by priority, keeping the order of those of equal priority. -/
def ofList (bs : List Builder) : BuilderSet :=
  ⟨bs.mergeSort fun a b => decide (a.priority ≤ b.priority)⟩

/-- How many logical arguments callers see, a collected rest not counted. -/
def arity (bs : BuilderSet) : Nat :=
  (bs.builders.filter fun b => !b.isVariadic).foldr (fun b n => b.consumed + n) 0

/-- Whether one of the builders takes all further logical arguments. -/
def isVariadic (bs : BuilderSet) : Bool := bs.builders.any Builder.isVariadic

/-- Make arguments one after the other, up to the first failure. -/
def buildList (c : Context) (args : List Value) : List Builder → Except RuntimeError (List Value)
  | [] => .ok []
  | b :: bs =>
    match b.build c args with
    | .error e => .error e
    | .ok v => (buildList c args bs).map (v :: ·)

/-- Make all arguments of the procedure, one for each builder. -/
def build (bs : BuilderSet) (c : Context) (args : List Value) : Except RuntimeError (List Value) :=
  buildList c args bs.builders

/-- The guard for calls of a shape in a context.  It fixes the number of arguments, allows no more
of them than the builders see unless a builder takes all further ones, and asks what each builder
asks.  A shape that does not meet its own guard cannot be bound. -/
def guard (bs : BuilderSet) (c : Context) (s : Shape) : Guard :=
  .conj (.count s.size :: (if bs.isVariadic then [] else [.atMost bs.arity]) ++
    bs.builders.filterMap fun b => b.check c s)

/-- The builders as a developer sees them. -/
def inspect (bs : BuilderSet) : String :=
  Text.inspectRecord "ArgBuilderSet"
    [("builders", Text.inspectList (bs.builders.map Builder.inspect))]

end BuilderSet

end Polyglot
