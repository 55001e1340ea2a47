import Mathlib.Data.Finset.Card
import Mathlib.Data.List.Forall2
import Polyglot.Symbol.Table

/-!
# Polyglot.Proofs.Symbol.Numbering

Numbers stand for texts.  A table keeps both directions:

```
texts        0 ↦ "x"    1 ↦ ""    2 ↦ "y"        an array that only grows
numbers      "x" ↦ 0    "" ↦ 1    "y" ↦ 2        a dictionary
```

`Records` says that the two directions are inverse to each other and that the texts are those that
were entered, each once; entering a text keeps it so (`Records.enter`).  A place fits in thirty-two
bits and is not the invalid number as long as there are no more than `2 ^ 32 - 1` texts, and then a
number stands for its text (`Records.standsFor`), whatever is entered later (`StandsFor.enterAll`).
-/

namespace Polyglot.SymbolTable

variable {t : SymbolTable} {s : String} {n : UInt32}

/-! ## Entering -/

theorem enter_of_known (hs : t.numbers.get? s = some n) : t.enter s = (n, t) := by
  rw [enter, hs]

theorem enter_of_new (hs : t.numbers.get? s = none) :
    t.enter s = (UInt32.ofNat t.texts.size,
      ⟨t.texts.push s, t.numbers.insert s (UInt32.ofNat t.texts.size)⟩) := by
  rw [enter, hs]

theorem enterAll_cons (t : SymbolTable) (s : String) (rest : List String) :
    t.enterAll (s :: rest) =
      ((t.enter s).1 :: ((t.enter s).2.enterAll rest).1, ((t.enter s).2.enterAll rest).2) := rfl

/-- A text that was just entered has the number that was answered. -/
theorem get?_enter_self (t : SymbolTable) (s : String) :
    (t.enter s).2.numbers.get? s = some (t.enter s).1 := by
  cases hs : t.numbers.get? s with
  | some n => rw [enter_of_known hs, hs]
  | none => rw [enter_of_new hs, Dict.get?_insert_self]

/-! ## What a table records -/

/-- The texts of a table are those that were entered, each once, and the number of a text is its
place. -/
structure Records (t : SymbolTable) (entered : List String) : Prop where
  nodup : t.texts.toList.Nodup
  mem : ∀ s, s ∈ t.texts.toList ↔ s ∈ entered
  number : ∀ s n, t.numbers.get? s = some n ↔
    ∃ i, t.texts[i]? = some s ∧ n = UInt32.ofNat i

namespace Records

variable {entered : List String}

theorem empty : Records .empty [] :=
  ⟨List.nodup_nil, fun _ => Iff.rfl, fun s n => by simp [SymbolTable.empty]⟩

/-- A text without a number was not entered. -/
theorem not_mem_of_get? (h : t.Records entered) (hs : t.numbers.get? s = none) :
    s ∉ t.texts.toList := by
  intro hmem
  obtain ⟨i, hi⟩ := List.mem_iff_getElem?.1 hmem
  have hnumber := (h.number s (UInt32.ofNat i)).2 ⟨i, by simpa using hi, rfl⟩
  rw [hs] at hnumber
  cases hnumber

theorem mem_of_get? (h : t.Records entered) (hs : t.numbers.get? s = some n) :
    s ∈ entered := by
  obtain ⟨i, hi, -⟩ := (h.number s n).1 hs
  exact (h.mem s).1 (Array.mem_toList_iff.2 (Array.mem_of_getElem? hi))

/-- Entering a text records it. -/
theorem enter (h : t.Records entered) (s : String) :
    (t.enter s).2.Records (entered ++ [s]) := by
  cases hs : t.numbers.get? s with
  | some n =>
      have hmem := h.mem_of_get? hs
      rw [enter_of_known hs]
      refine ⟨h.nodup, fun u => ?_, h.number⟩
      rw [h.mem u, List.mem_append, List.mem_singleton]
      exact ⟨.inl, fun hu => hu.elim id fun heq => heq ▸ hmem⟩
  | none =>
      have hnew := h.not_mem_of_get? hs
      rw [enter_of_new hs]
      refine ⟨?_, fun u => ?_, fun u n => ?_⟩
      · rw [Array.toList_push, List.nodup_append]
        refine ⟨h.nodup, by simp, fun a ha b hb heq => hnew ?_⟩
        rwa [← List.mem_singleton.1 hb, ← heq]
      · rw [Array.toList_push, List.mem_append, h.mem u, List.mem_append]
      · rw [Dict.get?_insert]
        simp only [Array.getElem?_push]
        by_cases hu : u = s
        · subst hu
          -- The new text is at the last place only.
          have hold : ∀ i, t.texts[i]? ≠ some u := fun i hi =>
            hnew (Array.mem_toList_iff.2 (Array.mem_of_getElem? hi))
          simp only [if_pos, Option.some.injEq]
          constructor
          · intro hn
            exact ⟨t.texts.size, by simp, hn.symm⟩
          · rintro ⟨i, hi, hn⟩
            split at hi
            · next hsize => rw [hn, hsize]
            · exact absurd hi (hold i)
        · have hplace : ∀ i, (if i = t.texts.size then some s else t.texts[i]?) = some u ↔
              t.texts[i]? = some u := by
            intro i
            by_cases hi : i = t.texts.size
            · have hsu : s ≠ u := fun heq => hu heq.symm
              simp [hi, hsu]
            · rw [if_neg hi]
          simp only [if_neg hu, h.number u n, hplace]

theorem enterAll (h : t.Records entered) (texts : List String) :
    (t.enterAll texts).2.Records (entered ++ texts) := by
  induction texts generalizing t entered with
  | nil => simpa [SymbolTable.enterAll] using h
  | cons s rest ih =>
      have hrest := ih (h.enter s)
      rw [enterAll_cons]
      simpa using hrest

/-- There are as many texts as different ones were entered. -/
theorem size_eq (h : t.Records entered) : t.texts.size = entered.toFinset.card := by
  have hsame : t.texts.toList.toFinset = entered.toFinset := by
    ext s
    simpa using h.mem s
  rw [← hsame, List.toFinset_card_of_nodup h.nodup, Array.length_toList]

end Records

/-! ## Numbers that stand for texts -/

/-- A number stands for a text: either is found from the other. -/
def StandsFor (t : SymbolTable) (n : UInt32) (s : String) : Prop :=
  t.numbers.get? s = some n ∧ t.texts[n.toNat]? = some s

/-- As long as there are not too many texts, their numbers stand for them and are valid. -/
theorem Records.standsFor {entered : List String} (h : t.Records entered)
    (hfew : entered.toFinset.card < UInt32.size) (hs : t.numbers.get? s = some n) :
    t.StandsFor n s ∧ n ≠ invalidNumber := by
  obtain ⟨i, hi, hn⟩ := (h.number s n).1 hs
  obtain ⟨hlt, -⟩ := Array.getElem?_eq_some_iff.1 hi
  have hbound : i + 1 < UInt32.size := by
    have hsize := h.size_eq
    omega
  have htoNat : n.toNat = i := by rw [hn, UInt32.toNat_ofNat_of_lt' (Nat.lt_of_succ_lt hbound)]
  refine ⟨⟨hs, by rw [htoNat, hi]⟩, fun hinvalid => ?_⟩
  have hmax : invalidNumber.toNat + 1 = UInt32.size := rfl
  rw [hinvalid] at htoNat
  omega

namespace StandsFor

theorem enter_eq (h : t.StandsFor n s) : t.enter s = (n, t) := enter_of_known h.1

theorem text_eq (h : t.StandsFor n s) (hn : n ≠ invalidNumber) : t.text n = s := by
  simp [text, hn, h.2]

theorem symbol_eq (h : t.StandsFor n s) (hn : n ≠ invalidNumber) : t.symbol n = .named s := by
  rw [symbol, if_neg hn, h.text_eq hn]

/-- Numbers are equal exactly when their texts are. -/
theorem eq_iff (h : t.StandsFor n s) {n' : UInt32} {s' : String} (h' : t.StandsFor n' s') :
    n = n' ↔ s = s' := by
  constructor
  · rintro rfl
    exact Option.some.inj (h.2.symm.trans h'.2)
  · rintro rfl
    exact Option.some.inj (h.1.symm.trans h'.1)

/-- Entering a text leaves numbers what they stand for. -/
theorem enter (h : t.StandsFor n s) (u : String) : (t.enter u).2.StandsFor n s := by
  cases hu : t.numbers.get? u with
  | some m =>
      rw [enter_of_known hu]
      exact h
  | none =>
      have hne : s ≠ u := by
        rintro rfl
        rw [h.1] at hu
        cases hu
      obtain ⟨hlt, -⟩ := Array.getElem?_eq_some_iff.1 h.2
      rw [enter_of_new hu]
      refine ⟨by rw [Dict.get?_insert_of_ne _ _ hne, h.1], ?_⟩
      rw [Array.getElem?_push, if_neg (Nat.ne_of_lt hlt), h.2]

theorem enterAll (h : t.StandsFor n s) (texts : List String) :
    (t.enterAll texts).2.StandsFor n s := by
  induction texts generalizing t with
  | nil => exact h
  | cons u rest ih => exact ih (h.enter u)

end StandsFor

/-- Every number that was answered stands for the text that was entered, after all of them. -/
theorem Records.standsFor_answers {entered calls : List String} (h : t.Records entered)
    (hfew : (entered ++ calls).toFinset.card < UInt32.size) :
    List.Forall₂ (fun s n => (t.enterAll calls).2.StandsFor n s ∧ n ≠ invalidNumber) calls
      (t.enterAll calls).1 := by
  induction calls generalizing t entered with
  | nil => exact .nil
  | cons s rest ih =>
      have hsplit : entered ++ s :: rest = (entered ++ [s]) ++ rest := by simp
      have hfirst : (entered ++ [s]).toFinset.card < UInt32.size := by
        have hsub : (entered ++ [s]).toFinset ⊆ (entered ++ s :: rest).toFinset := by
          intro u hu
          rw [hsplit, List.mem_toFinset, List.mem_append, ← List.mem_toFinset]
          exact .inl hu
        exact Nat.lt_of_le_of_lt (Finset.card_le_card hsub) hfew
      obtain ⟨hstands, hvalid⟩ := (h.enter s).standsFor hfirst (get?_enter_self t s)
      rw [enterAll_cons]
      exact .cons ⟨hstands.enterAll rest, hvalid⟩ (ih (h.enter s) (hsplit ▸ hfew))

/-- **Interning is faithful and stable.**  After any texts were entered, no more than `2 ^ 32 - 1`
different ones, the number that was answered to each of them is valid.  Now and whatever is entered
later, entering the text again answers the same number and changes nothing, and the number has the
text and is its symbol.  Two of the numbers are equal exactly when the texts are. -/
theorem interning_faithful {calls : List String} {numbers : List UInt32} {t : SymbolTable}
    (hentered : empty.enterAll calls = (numbers, t)) (hfew : calls.toFinset.card < UInt32.size) :
    numbers.length = calls.length ∧
      (∀ p ∈ calls.zip numbers, p.2 ≠ invalidNumber ∧ ∀ later,
        let t' := (t.enterAll later).2
        t'.enter p.1 = (p.2, t') ∧ t'.text p.2 = p.1 ∧ t'.symbol p.2 = .named p.1) ∧
      ∀ p ∈ calls.zip numbers, ∀ q ∈ calls.zip numbers, p.2 = q.2 ↔ p.1 = q.1 := by
  have hanswers : List.Forall₂ (fun s n => t.StandsFor n s ∧ n ≠ invalidNumber) calls numbers := by
    have hall := Records.empty.standsFor_answers hfew
    rwa [hentered] at hall
  have hpair : ∀ p ∈ calls.zip numbers, t.StandsFor p.2 p.1 ∧ p.2 ≠ invalidNumber :=
    fun p hp => (List.forall₂_iff_zip.1 hanswers).2 hp
  refine ⟨hanswers.length_eq.symm, fun p hp => ?_, fun p hp q hq => ?_⟩
  · obtain ⟨hstands, hvalid⟩ := hpair p hp
    refine ⟨hvalid, fun later => ?_⟩
    have hlater := hstands.enterAll later
    exact ⟨hlater.enter_eq, hlater.text_eq hvalid, hlater.symbol_eq hvalid⟩
  · exact (hpair p hp).1.eq_iff (hpair q hq).1

/-- The empty text gets a number like any other, and the numbers keep their texts when another text
is entered. -/
theorem interning_faithful_emptyText :
    let t := (empty.enterAll ["x", "", "x"]).2
    let t' := (t.enterAll ["y"]).2
    empty.enterAll ["x", "", "x"] = ([0, 1, 0], t) ∧ (1 : UInt32) ≠ invalidNumber ∧
      t.symbol 1 = .named "" ∧ t'.text 1 = "" ∧ t'.enter "x" = (0, t') := by
  intro t t'
  have hfew : ["x", "", "x"].toFinset.card < UInt32.size :=
    Nat.lt_of_le_of_lt (List.toFinset_card_le _) (by decide)
  have hnumbers : (empty.enterAll ["x", "", "x"]).1 = [0, 1, 0] := by decide
  have hentered : empty.enterAll ["x", "", "x"] = ([0, 1, 0], t) := Prod.ext hnumbers rfl
  obtain ⟨-, hstands, -⟩ := interning_faithful hentered hfew
  obtain ⟨-, hx⟩ := hstands ("x", 0) (by simp)
  obtain ⟨hvalid, hempty⟩ := hstands ("", 1) (by simp)
  exact ⟨hentered, hvalid, (hempty []).2.2, (hempty ["y"]).2.1, (hx ["y"]).1⟩

end Polyglot.SymbolTable
