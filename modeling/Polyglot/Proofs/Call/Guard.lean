import Polyglot.Call.Shape

/-!
# Polyglot.Proofs.Call.Guard

What guards say about shapes.  A conjunction holds for the shapes for which all of its parts
hold, however its parts are nested and whether or not it was simplified (`conj_holds_iff`), and
the exact guard of a shape holds for that shape alone (`exact_holds_iff`).

A guard is a tree, whose leaves are the conditions that are no conjunctions.  It asks for its
leaves and nothing else (`holds_iff_leaves`), and conjunctions change the tree but not the leaves:

```
conj [count 1, all [atLeast 1, all [atMost 3]]]  =  all [count 1, atLeast 1, all [atMost 3]]
conj [all [all [count 1]]]                       =  all [count 1]
conj [all [count 1]]                             =  count 1
```
-/

namespace Polyglot.Guard

theorem allHold_iff (gs : List Guard) (s : Shape) :
    allHold gs s = true ↔ ∀ g ∈ gs, g.holds s = true := by
  induction gs with
  | nil => simp [allHold]
  | cons g gs ih => simp [allHold, ih]

@[simp] theorem all_holds_iff (gs : List Guard) (s : Shape) :
    (all gs).holds s = true ↔ ∀ g ∈ gs, g.holds s = true := by
  rw [holds, allHold_iff]

/-- Opening a conjunction keeps what it asks. -/
theorem conjuncts_hold_iff (g : Guard) (s : Shape) :
    (∀ part ∈ g.conjuncts, part.holds s = true) ↔ g.holds s = true := by
  cases g <;> simp [conjuncts]

theorem flatMap_conjuncts_hold_iff (gs : List Guard) (s : Shape) :
    (∀ part ∈ gs.flatMap conjuncts, part.holds s = true) ↔ ∀ g ∈ gs, g.holds s = true := by
  induction gs with
  | nil => simp
  | cons g gs ih =>
      rw [List.flatMap_cons, List.forall_mem_append, conjuncts_hold_iff, ih, List.forall_mem_cons]

/-- A conjunction asks for all of its parts. -/
@[simp] theorem conj_holds_iff (gs : List Guard) (s : Shape) :
    (conj gs).holds s = true ↔ ∀ g ∈ gs, g.holds s = true := by
  rw [← flatMap_conjuncts_hold_iff, conj]
  -- A single part stands for itself, and any other number of parts for their conjunction.
  split
  · next g hone => simp [hone]
  · exact all_holds_iff _ s

/-- The conditions on the kinds from `index` on, position by position. -/
theorem kindsFrom_hold_iff (ks : List Kind) (index : Nat) (s : Shape) :
    (∀ g ∈ kindsFrom index ks, g.holds s = true) ↔
      ∀ j k, ks[j]? = some k → s.kindAt? (index + j) = some k := by
  induction ks generalizing index with
  | nil => simp [kindsFrom]
  | cons k ks ih =>
      rw [kindsFrom, List.forall_mem_cons, ih (index + 1)]
      constructor
      · rintro ⟨hhead, htail⟩ j k' hj
        cases j with
        | zero => simpa [holds, ← Option.some.inj hj] using hhead
        | succ j => simpa [Nat.add_comm, Nat.add_left_comm] using htail j k' hj
      · intro hall
        refine ⟨by simpa [holds] using hall 0 k rfl, fun j k' hj => ?_⟩
        simpa [Nat.add_comm, Nat.add_left_comm] using hall (j + 1) k' hj

/-- The exact guard of a shape holds for that shape alone. -/
@[simp] theorem exact_holds_iff (s t : Shape) : (exact s).holds t = true ↔ s = t := by
  rw [exact, conj_holds_iff, List.forall_mem_cons, kindsFrom_hold_iff]
  constructor
  · rintro ⟨hcount, hkinds⟩
    have hsize : t.size = s.size := by simpa [holds] using hcount
    have heq : t.kinds = s.kinds := by
      apply List.ext_getElem hsize
      intro j ht hs
      have hj := hkinds j s.kinds[j] (List.getElem?_eq_getElem hs)
      rw [Shape.kindAt?, Nat.zero_add, List.getElem?_eq_getElem ht] at hj
      exact Option.some.inj hj
    cases s
    cases t
    exact congrArg Shape.mk heq.symm
  · rintro rfl
    exact ⟨by simp [holds], fun j k hj => by simpa [Shape.kindAt?] using hj⟩

/-! ## Leaves -/

mutual
/-- The conditions of a guard that are no conjunctions, at any depth, in their order. -/
def leaves : Guard → List Guard
  | all gs => leavesOf gs
  | g => [g]

/-- The leaves of guards, one guard after the other. -/
def leavesOf : List Guard → List Guard
  | [] => []
  | g :: gs => leaves g ++ leavesOf gs
end

theorem leavesOf_append (gs gs' : List Guard) :
    leavesOf (gs ++ gs') = leavesOf gs ++ leavesOf gs' := by
  induction gs with
  | nil => rfl
  | cons g gs ih => simp [leavesOf, ih]

/-- Opening a conjunction keeps its leaves. -/
theorem leavesOf_conjuncts (g : Guard) : leavesOf g.conjuncts = g.leaves := by
  cases g <;> simp [conjuncts, leaves, leavesOf]

theorem leavesOf_flatMap_conjuncts (gs : List Guard) :
    leavesOf (gs.flatMap conjuncts) = leavesOf gs := by
  induction gs with
  | nil => rfl
  | cons g gs ih => rw [List.flatMap_cons, leavesOf_append, leavesOf_conjuncts, ih, leavesOf]

/-- A conjunction has the leaves of its parts, each as often and in the same order. -/
theorem leaves_conj (gs : List Guard) : (conj gs).leaves = leavesOf gs := by
  rw [← leavesOf_flatMap_conjuncts, conj]
  split
  · next g hone => simp [hone, leavesOf]
  · rfl

example : conj [count 1, all [atLeast 1, all [atMost 3]]] =
    all [count 1, atLeast 1, all [atMost 3]] := rfl

mutual
/-- A guard holds when all of its leaves do. -/
theorem holds_iff_leaves (s : Shape) :
    ∀ g : Guard, g.holds s = true ↔ ∀ leaf ∈ g.leaves, leaf.holds s = true
  | count _ | atLeast _ | atMost _ | kind _ _ => by simp [leaves]
  | all gs => by rw [holds, allHold_iff_leavesOf s gs, leaves]

theorem allHold_iff_leavesOf (s : Shape) :
    ∀ gs : List Guard, allHold gs s = true ↔ ∀ leaf ∈ leavesOf gs, leaf.holds s = true
  | [] => by simp [allHold, leavesOf]
  | g :: gs => by
      rw [allHold, Bool.and_eq_true, holds_iff_leaves s g, allHold_iff_leavesOf s gs, leavesOf,
        List.forall_mem_append]
end

/-- **The algebra of guards.**  A conjunction of guards holds for a shape exactly when every one of
the guards does.  Opening conjunctions and leaving out the conjunction of one guard keep the leaves,
of which alone it depends whether a guard holds, however deep they are.  The exact guard of a shape
holds for this shape and for no other. -/
theorem guard_algebra :
    (∀ (gs : List Guard) (s : Shape),
      (conj gs).holds s = true ↔ ∀ g ∈ gs, g.holds s = true) ∧
    (∀ gs : List Guard, (conj gs).leaves = (all gs).leaves) ∧
    (∀ (g : Guard) (s : Shape), g.holds s = true ↔ ∀ leaf ∈ g.leaves, leaf.holds s = true) ∧
    ∀ s t : Shape, (exact s).holds t = true ↔ s = t := by
  refine ⟨conj_holds_iff, fun gs => ?_, fun g s => holds_iff_leaves s g, exact_holds_iff⟩
  rw [leaves_conj, leaves]

end Polyglot.Guard
