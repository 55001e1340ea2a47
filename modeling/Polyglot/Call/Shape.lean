import Polyglot.Value

/-!
# Polyglot.Call.Shape

Call shapes and guards.  The shape of a call is the kinds of its arguments, and a guard is a
condition on shapes.  A binding that was made for one shape stays valid for another as long as
its guard holds.
-/

namespace Polyglot

/-- The kinds of the arguments of a call. -/
structure Shape where
  kinds : List Kind := []
  deriving DecidableEq, Inhabited

namespace Shape

/-- The shape of a list of arguments. -/
def ofArgs (args : List Value) : Shape := ⟨args.map Value.kind⟩

/-- The number of arguments. -/
def size (s : Shape) : Nat := s.kinds.length

/-- The kind of one argument. -/
def kindAt? (s : Shape) (index : Nat) : Option Kind := s.kinds[index]?

/-- The shape in messages. -/
def display (s : Shape) : String := ", ".intercalate (s.kinds.map Kind.name)

/-- The shape as a developer sees it. -/
def inspect (s : Shape) : String :=
  Text.inspectRecord "CallShape" [("arg_kinds", Text.inspectList (s.kinds.map Kind.inspect))]

end Shape

/-- A condition on the shape of a call. -/
inductive Guard where
  | count (n : Nat)
  | atLeast (n : Nat)
  | atMost (n : Nat)
  | kind (index : Nat) (kind : Kind)
  | all (guards : List Guard)
  deriving Inhabited

namespace Guard

mutual
/-- Whether a shape meets the condition. -/
def holds : Guard → Shape → Bool
  | count n, s => s.size = n
  | atLeast n, s => n ≤ s.size
  | atMost n, s => s.size ≤ n
  | kind i k, s => s.kindAt? i = some k
  | all gs, s => allHold gs s

/-- Whether a shape meets all conditions of a list. -/
def allHold : List Guard → Shape → Bool
  | [], _ => true
  | g :: gs, s => holds g s && allHold gs s
end

/-- The conditions that a guard is the conjunction of, one level deep. -/
def conjuncts : Guard → List Guard
  | all gs => gs
  | g => [g]

/-- The conjunction of guards.  Conjunctions among them are opened, and a single condition stands
for itself. -/
def conj (gs : List Guard) : Guard :=
  match gs.flatMap conjuncts with
  | [g] => g
  | flat => all flat

/-- Conditions that the arguments from `index` on have exactly these kinds. -/
def kindsFrom (index : Nat) : List Kind → List Guard
  | [] => []
  | k :: ks => kind index k :: kindsFrom (index + 1) ks

/-- The guard that holds for one shape and no other. -/
def exact (s : Shape) : Guard := conj (count s.size :: kindsFrom 0 s.kinds)

mutual
/-- The guard as a developer sees it. -/
def inspect : Guard → String
  | count n => Text.inspectApply "ArgCount" [toString n]
  | atLeast n => Text.inspectApply "ArgCountAtLeast" [toString n]
  | atMost n => Text.inspectApply "ArgCountAtMost" [toString n]
  | kind i k => Text.inspectRecord "ArgKind" [("index", toString i), ("kind", k.inspect)]
  | all gs => Text.inspectApply "All" [Text.inspectList (inspectAll gs)]

/-- The guards of a list as a developer sees them. -/
def inspectAll : List Guard → List String
  | [] => []
  | g :: gs => inspect g :: inspectAll gs
end

end Guard

end Polyglot
