/-!
# Polyglot.Heap

A growing table of records.  A record is known by the number it got when it was added, records
are never removed, and so a number once given out means the same record for ever.  The table is
seen through `get?`; the lemmas here say what each operation does to that view.
-/

namespace Polyglot

/-- A growing table of records. -/
structure Heap (α : Type) where
  cells : Array α

namespace Heap

variable {α : Type}

/-- The table without records. -/
def empty : Heap α := ⟨#[]⟩

instance : Inhabited (Heap α) := ⟨empty⟩

/-- How many records there are, which is also the number of the next one. -/
def size (h : Heap α) : Nat := h.cells.size

/-- The record with this number. -/
def get? (h : Heap α) (i : Nat) : Option α := h.cells[i]?

/-- Add a record; its number is the size before. -/
def add (h : Heap α) (a : α) : Heap α := ⟨h.cells.push a⟩

/-- Change the record with this number, if there is one. -/
def modify (h : Heap α) (i : Nat) (f : α → α) : Heap α := ⟨h.cells.modify i f⟩

@[simp] theorem size_empty : (empty : Heap α).size = 0 := rfl

@[simp] theorem size_add (h : Heap α) (a : α) : (h.add a).size = h.size + 1 := by
  simp [size, add]

@[simp] theorem size_modify (h : Heap α) (i : Nat) (f : α → α) : (h.modify i f).size = h.size := by
  simp [size, modify]

@[simp] theorem get?_empty (i : Nat) : (empty : Heap α).get? i = none := by
  simp [get?, empty]

theorem get?_add (h : Heap α) (a : α) (i : Nat) :
    (h.add a).get? i = if i = h.size then some a else h.get? i :=
  Array.getElem?_push

@[simp] theorem get?_add_size (h : Heap α) (a : α) : (h.add a).get? h.size = some a := by
  simp [get?_add]

theorem get?_add_of_lt {h : Heap α} {i : Nat} (a : α) (hi : i < h.size) :
    (h.add a).get? i = h.get? i := by
  rw [get?_add, if_neg (Nat.ne_of_lt hi)]

theorem get?_modify (h : Heap α) (i j : Nat) (f : α → α) :
    (h.modify i f).get? j = if i = j then (h.get? j).map f else h.get? j := by
  simp [get?, modify, Array.getElem?_modify]

theorem get?_modify_self (h : Heap α) (i : Nat) (f : α → α) :
    (h.modify i f).get? i = (h.get? i).map f := by
  simp [get?_modify]

theorem get?_modify_of_ne {i j : Nat} (h : Heap α) (f : α → α) (hij : i ≠ j) :
    (h.modify i f).get? j = h.get? j := by
  simp [get?_modify, hij]

theorem get?_eq_none_iff {h : Heap α} {i : Nat} : h.get? i = none ↔ h.size ≤ i := by
  simp [get?, size]

/-- Tables with the same records are the same. -/
theorem ext_get? {h h' : Heap α} (hget : ∀ i, h.get? i = h'.get? i) : h = h' := by
  cases h
  cases h'
  exact congrArg Heap.mk (Array.ext_getElem? hget)

theorem lt_size_of_get? {h : Heap α} {i : Nat} {a : α} (hi : h.get? i = some a) : i < h.size := by
  rcases Nat.lt_or_ge i h.size with hlt | hge
  · exact hlt
  · rw [get?_eq_none_iff.2 hge] at hi
    cases hi

end Heap

end Polyglot
