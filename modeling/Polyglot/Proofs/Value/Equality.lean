import Mathlib.Data.List.Forall2
import Polyglot.Proofs.Value.Quantity
import Polyglot.Value

/-!
# Polyglot.Proofs.Value.Equality

Equality of values is equality of what it sees of them.  A value has an essence, in which numbers
are what their bits stand for and other leaves are what tells them apart:

```
a number                  what its bits stand for; a NaN has no essence
a procedure               its identity
a context                 its innermost link or, without links, its module
a native object           its identity
a list                    the essences of its items; none if one of them has none
```

Two values are equal exactly when they have one essence (`same_iff`).  So equality is symmetric and
transitive, and the values that it leaves out, not even equal to themselves, are those that hold a
NaN at some depth (`isSome_essence?_iff`).
-/

namespace Polyglot

/-- Where a chain begins: the innermost link or, without links, the module. -/
def Context.anchor (c : Context) : LinkId ⊕ Option ModuleId :=
  match c.innermost with
  | some x => .inl x.id
  | none => .inr c.module

theorem Context.sameChain_iff_anchor {a b : Context} :
    a.sameChain b = true ↔ a.anchor = b.anchor := by
  cases ha : a.innermost <;> cases hb : b.innermost <;> simp [sameChain, anchor, ha, hb]

namespace Value

/-- Induction on values: from the items of a list to the list. -/
@[elab_as_elim, induction_eliminator]
theorem leaf_or_list {motive : Value → Prop} (leaf : ∀ v : Value, v.kind ≠ .list → motive v)
    (list : ∀ items, (∀ v ∈ items, motive v) → motive (.list items)) : ∀ v, motive v
  | .list items => list items fun v _ => leaf_or_list leaf list v
  | .nil | .bool _ | .int _ | .float _ | .str _ | .symbol _ | .procedure _ | .context _ |
    .native _ => leaf _ (by simp [kind])

/-- What equality sees of a value. -/
inductive Essence where
  | nil
  | bool (b : Bool)
  | int (n : Int64)
  | number (q : Binary64.Quantity)
  | str (s : String)
  | symbol (s : Symbol)
  | list (items : List Essence)
  | procedure (id : String)
  | context (anchor : LinkId ⊕ Option ModuleId)
  | native (label : String)

mutual
/-- The essence of a value, unless it holds a NaN. -/
def essence? : Value → Option Essence
  | nil => some .nil
  | bool b => some (.bool b)
  | int n => some (.int n)
  | float x => x.quantity?.map .number
  | str s => some (.str s)
  | symbol s => some (.symbol s)
  | list items => (essences? items).map .list
  | procedure p => some (.procedure p.id)
  | context c => some (.context c.anchor)
  | native label => some (.native label)

/-- The essences of values, unless one of them holds a NaN. -/
def essences? : List Value → Option (List Essence)
  | [] => some []
  | v :: vs => (essence? v).bind fun e => (essences? vs).map (e :: ·)
end

theorem sameItems_iff {as bs : List Value} :
    sameItems as bs = true ↔ List.Forall₂ (fun a b => a.same b = true) as bs := by
  induction as generalizing bs with
  | nil => cases bs <;> simp [sameItems]
  | cons a as ih => cases bs <;> simp [sameItems, ih]

theorem essences?_eq_some_iff {vs : List Value} {es : List Essence} :
    essences? vs = some es ↔ List.Forall₂ (fun v e => v.essence? = some e) vs es := by
  induction vs generalizing es with
  | nil => cases es <;> simp [essences?]
  | cons v vs ih => cases es <;> simp [essences?, Option.bind_eq_some_iff, ih]

/-- Lists are equal if they have the same essences, if that is so of their items. -/
theorem sameItems_iff_essences? {as : List Value}
    (hitems : ∀ a ∈ as, ∀ b : Value,
      a.same b = true ↔ ∃ e, a.essence? = some e ∧ b.essence? = some e) (bs : List Value) :
    sameItems as bs = true ↔ ∃ es, essences? as = some es ∧ essences? bs = some es := by
  induction as generalizing bs with
  | nil => cases bs <;> simp [sameItems, essences?_eq_some_iff]
  | cons a as ih =>
      cases bs with
      | nil => simp [sameItems, essences?_eq_some_iff]
      | cons b bs =>
          have hhead := hitems a List.mem_cons_self b
          have htail := ih (fun v hv => hitems v (List.mem_cons_of_mem a hv)) bs
          simp only [sameItems, Bool.and_eq_true, hhead, htail, essences?, Option.bind_eq_some_iff,
            Option.map_eq_some_iff]
          grind

/-- **Equal values are those with one essence.** -/
theorem same_iff {a b : Value} :
    a.same b = true ↔ ∃ e, a.essence? = some e ∧ b.essence? = some e := by
  induction a generalizing b with
  | leaf a ha =>
      cases a <;> cases b <;>
        simp_all [kind, same, essence?, Binary64.same_iff, Context.sameChain_iff_anchor] <;>
        exact eq_comm
  | list as ih =>
      have hitems := sameItems_iff_essences? fun v hv b => ih v hv
      cases b <;> simp [same, essence?, hitems]

/-! ## Values that hold a NaN -/

/-- A value occurs in itself, and in a list if it occurs in an item. -/
inductive Occurs (v : Value) : Value → Prop where
  | here : Occurs v v
  | item {w : Value} {items : List Value} (hw : w ∈ items) (h : Occurs v w) : Occurs v (list items)

theorem occurs_list_iff {v : Value} {items : List Value} (hv : v.kind ≠ .list) :
    Occurs v (list items) ↔ ∃ w ∈ items, Occurs v w := by
  constructor
  · intro h
    cases h with
    | here => exact absurd rfl hv
    | item hw h => exact ⟨_, hw, h⟩
  · rintro ⟨w, hw, h⟩
    exact .item hw h

theorem occurs_leaf_iff {v w : Value} (hw : w.kind ≠ .list) : Occurs v w ↔ v = w := by
  constructor
  · intro h
    cases h with
    | here => rfl
    | item hmem h => exact absurd rfl hw
  · rintro rfl
    exact .here

theorem isSome_essences?_iff {vs : List Value} :
    (essences? vs).isSome = true ↔ ∀ v ∈ vs, v.essence?.isSome = true := by
  induction vs with
  | nil => simp [essences?]
  | cons v vs ih =>
      rw [List.forall_mem_cons, ← ih, essences?]
      cases v.essence? <;> cases essences? vs <;> simp

/-- **A value has an essence unless it holds a NaN**, at whatever depth. -/
theorem isSome_essence?_iff {v : Value} :
    v.essence?.isSome = true ↔ ∀ x, Occurs (.float x) v → x.isNaN = false := by
  induction v with
  | leaf v hv =>
      simp only [occurs_leaf_iff hv]
      cases v with
      | float x => simp [essence?, Binary64.isSome_quantity?]
      | list items => exact absurd rfl hv
      | _ => simp [essence?]
  | list items ih =>
      have hfloat : ∀ x : Binary64, (float x).kind ≠ .list := fun x => by simp [kind]
      simp only [essence?, Option.isSome_map, isSome_essences?_iff, occurs_list_iff (hfloat _)]
      constructor
      · rintro hsome x ⟨w, hw, hx⟩
        exact (ih w hw).1 (hsome w hw) x hx
      · intro hnone w hw
        exact (ih w hw).2 fun x hx => hnone x ⟨w, hw, hx⟩

/-! ## The laws of equality -/

theorem same_self_iff {v : Value} : v.same v = true ↔ v.essence?.isSome = true := by
  rw [same_iff, Option.isSome_iff_exists]
  simp

theorem same_comm (a b : Value) : a.same b = b.same a := by
  rw [Bool.eq_iff_iff, same_iff, same_iff]
  simp only [and_comm]

theorem same_trans {a b c : Value} (hab : a.same b = true) (hbc : b.same c = true) :
    a.same c = true := by
  obtain ⟨e, ha, hb⟩ := same_iff.1 hab
  obtain ⟨e', hb', hc⟩ := same_iff.1 hbc
  have he : e = e' := Option.some.inj (hb.symm.trans hb')
  exact same_iff.2 ⟨e, ha, he ▸ hc⟩

theorem kind_eq_of_same {a b : Value} (h : a.same b = true) : a.kind = b.kind := by
  cases a <;> cases b <;> simp [same] at h <;> rfl

theorem same_list_iff {as bs : List Value} :
    (list as).same (list bs) = true ↔
      as.length = bs.length ∧
        ∀ (i : Nat) a b, as[i]? = some a → bs[i]? = some b → a.same b = true := by
  rw [same, sameItems_iff, List.forall₂_iff_get]
  simp only [List.get_eq_getElem, List.getElem?_eq_some_iff]
  grind

/-- Outside lists, numbers, procedures and contexts, a value equals itself and nothing else. -/
theorem same_iff_eq {v w : Value} (hv : v.kind ∉ [.list, .float, .procedure, .context]) :
    v.same w = true ↔ v = w := by
  cases v <;> cases w <;> simp_all [kind, same]

/-- **Equality of values is a partial equivalence.**  It is symmetric and transitive, and a value
equals itself exactly when no NaN occurs in it, at whatever depth.  Equal values are of one kind.

Lists are equal if they have one length and equal items, position by position, and numbers if their
bits stand for the same number, so that the two zeros are equal.  Procedures are told apart by their
identities, contexts by their chains, and all other values by what they are. -/
theorem same_partial_equivalence :
    (∀ a b : Value, a.same b = b.same a) ∧
      (∀ a b c : Value, a.same b = true → b.same c = true → a.same c = true) ∧
      (∀ v : Value, v.same v = true ↔ ∀ x, Occurs (.float x) v → x.isNaN = false) ∧
      (∀ a b : Value, a.same b = true → a.kind = b.kind) ∧
      (∀ as bs : List Value, (list as).same (list bs) = true ↔
        as.length = bs.length ∧
          ∀ (i : Nat) a b, as[i]? = some a → bs[i]? = some b → a.same b = true) ∧
      (∀ x y : Binary64, (float x).same (float y) = true ↔
        ∃ q, x.quantity? = some q ∧ y.quantity? = some q) ∧
      (∀ p q : Procedure, (procedure p).same (procedure q) = true ↔ p.id = q.id) ∧
      (∀ c d : Context, (context c).same (context d) = c.sameChain d) ∧
      ∀ v w : Value, v.kind ∉ [.list, .float, .procedure, .context] →
        (v.same w = true ↔ v = w) := by
  refine ⟨same_comm, fun a b c => same_trans, fun v => ?_, fun a b => kind_eq_of_same,
    fun as bs => same_list_iff, fun x y => Binary64.same_iff, fun p q => ?_, fun c d => ?_,
    fun v w => same_iff_eq⟩
  · rw [same_self_iff, isSome_essence?_iff]
  · simp [same]
  · rw [same]

/-- A list that holds a text and, one level deeper, a number. -/
def nested (x : Binary64) : Value := list [str "x", list [float x]]

/-- Lists that hold the zeros of either sign are equal, and so each equals itself by way of the
other; a list that holds a NaN does not equal itself, and a text equals no list. -/
theorem same_partial_equivalence_nested :
    let plus := nested (.ofHex "0000000000000000")
    let minus := nested (.ofHex "8000000000000000")
    let nan := nested (.ofHex "7ff8000000000000")
    plus ≠ minus ∧ plus.same minus = true ∧ minus.same plus = true ∧ plus.same plus = true ∧
      plus.kind = minus.kind ∧ nan.same nan = false ∧ ¬ (str "x").same plus = true := by
  intro plus minus nan
  obtain ⟨hcomm, htrans, hself, hkind, -, -, -, -, hplain⟩ := same_partial_equivalence
  have hdiffer : plus ≠ minus := by
    simp only [plus, minus, nested, ne_eq, list.injEq, List.cons.injEq, float.injEq]
    decide
  have hsame : plus.same minus = true := by decide
  have hback : minus.same plus = true := (hcomm minus plus).trans hsame
  have hoccurs : Occurs (float (.ofHex "7ff8000000000000")) nan :=
    .item (List.mem_cons_of_mem _ List.mem_cons_self) (.item List.mem_cons_self .here)
  have hnan : ¬ nan.same nan = true := fun h => by
    have hnumber := (hself nan).1 h _ hoccurs
    revert hnumber
    decide
  have htext : ¬ (str "x").same plus = true := fun h => by
    have heq : str "x" = plus := (hplain (str "x") plus (by decide)).1 h
    simp [plus, nested] at heq
  exact ⟨hdiffer, hsame, hback, htrans plus minus plus hsame hback, hkind plus minus hsame,
    Bool.eq_false_iff.2 hnan, htext⟩

end Value

end Polyglot
