/-!
# Polyglot.Dict

Finite maps that remember the order in which their keys came.  A key occurs once, which the type
guarantees; giving a known key a new value leaves it in its place, and a new key goes last.  The
map is seen through `get?` and `keys`.
-/

namespace Polyglot

/-- A finite map with its keys in the order in which they came. -/
structure Dict (κ ν : Type) where
  entries : List (κ × ν)
  nodup : (entries.map Prod.fst).Nodup

namespace Dict

variable {κ ν : Type} [DecidableEq κ]

/-- The map without keys. -/
def empty : Dict κ ν := ⟨[], List.nodup_nil⟩

instance : Inhabited (Dict κ ν) := ⟨⟨[], List.nodup_nil⟩⟩

/-- The keys, in the order in which they came. -/
def keys (d : Dict κ ν) : List κ := d.entries.map Prod.fst

/-- How many keys there are. -/
def size (d : Dict κ ν) : Nat := d.entries.length

/-- The value of a key. -/
def get? (d : Dict κ ν) (k : κ) : Option ν :=
  (d.entries.find? fun e => decide (e.1 = k)).map Prod.snd

/-- Whether the key has a value. -/
def contains (d : Dict κ ν) (k : κ) : Bool := (d.get? k).isSome

/-- The entries after giving `k` the value `v`. -/
def insertEntries (k : κ) (v : ν) : List (κ × ν) → List (κ × ν)
  | [] => [(k, v)]
  | e :: es => if e.1 = k then (k, v) :: es else e :: insertEntries k v es

theorem mem_keys_insertEntries {k j : κ} {v : ν} {es : List (κ × ν)} :
    j ∈ (insertEntries k v es).map Prod.fst ↔ j = k ∨ j ∈ es.map Prod.fst := by
  induction es with
  | nil => simp [insertEntries]
  | cons e es ih => by_cases h : e.1 = k <;> simp [insertEntries, h, ih]; grind

theorem nodup_insertEntries {k : κ} {v : ν} {es : List (κ × ν)} (h : (es.map Prod.fst).Nodup) :
    ((insertEntries k v es).map Prod.fst).Nodup := by
  induction es with
  | nil => simp [insertEntries]
  | cons e es ih =>
    rw [List.map_cons, List.nodup_cons] at h
    by_cases hk : e.1 = k
    · simpa [insertEntries, hk] using ⟨hk ▸ by simpa using h.1, h.2⟩
    · rw [insertEntries, if_neg hk, List.map_cons, List.nodup_cons]
      refine ⟨fun hmem => ?_, ih h.2⟩
      rcases mem_keys_insertEntries.1 hmem with heq | hin
      · exact hk heq
      · exact h.1 hin

/-- Give a key a value. -/
def insert (d : Dict κ ν) (k : κ) (v : ν) : Dict κ ν :=
  ⟨insertEntries k v d.entries, nodup_insertEntries d.nodup⟩

/-- Take a key out. -/
def erase (d : Dict κ ν) (k : κ) : Dict κ ν :=
  ⟨d.entries.filter fun e => decide (e.1 ≠ k), d.nodup.sublist ((List.filter_sublist).map _)⟩

/-! ## The view -/

omit [DecidableEq κ] in
theorem nodup_keys (d : Dict κ ν) : d.keys.Nodup := d.nodup

omit [DecidableEq κ] in
@[simp] theorem length_keys (d : Dict κ ν) : d.keys.length = d.size := by
  simp [keys, size]

@[simp] theorem get?_empty (k : κ) : (empty : Dict κ ν).get? k = none := rfl

theorem find?_insertEntries (es : List (κ × ν)) (k j : κ) (v : ν) :
    ((insertEntries k v es).find? fun e => decide (e.1 = j)).map Prod.snd =
      if j = k then some v else (es.find? fun e => decide (e.1 = j)).map Prod.snd := by
  induction es with
  | nil => by_cases h : k = j <;> simp [insertEntries, h, eq_comm]
  | cons e es ih =>
    by_cases hk : e.1 = k
    · by_cases hj : j = k
      · simp [insertEntries, hk, hj]
      · have hkj : ¬ k = j := fun h => hj h.symm
        simp [insertEntries, hk, hj, hkj]
    · by_cases hj : e.1 = j
      · have hjk : ¬ j = k := fun h => hk (hj.trans h)
        simp [insertEntries, hj, hjk]
      · simp only [insertEntries, if_neg hk, List.find?_cons, decide_eq_false hj, ih]

theorem get?_insert (d : Dict κ ν) (k j : κ) (v : ν) :
    (d.insert k v).get? j = if j = k then some v else d.get? j :=
  find?_insertEntries d.entries k j v

@[simp] theorem get?_insert_self (d : Dict κ ν) (k : κ) (v : ν) :
    (d.insert k v).get? k = some v := by
  simp [get?_insert]

theorem get?_insert_of_ne {k j : κ} (d : Dict κ ν) (v : ν) (h : j ≠ k) :
    (d.insert k v).get? j = d.get? j := by
  simp [get?_insert, h]

theorem keys_insertEntries (k : κ) (v : ν) (es : List (κ × ν)) :
    (insertEntries k v es).map Prod.fst =
      if k ∈ es.map Prod.fst then es.map Prod.fst else es.map Prod.fst ++ [k] := by
  induction es with
  | nil => simp [insertEntries]
  | cons e es ih =>
    by_cases hk : e.1 = k
    · simp [insertEntries, hk]
    · have hk' : ¬ k = e.1 := fun h => hk h.symm
      rw [insertEntries, if_neg hk, List.map_cons, ih]
      by_cases hmem : k ∈ es.map Prod.fst <;> simp [hmem, hk']

theorem keys_insert (d : Dict κ ν) (k : κ) (v : ν) :
    (d.insert k v).keys = if k ∈ d.keys then d.keys else d.keys ++ [k] :=
  keys_insertEntries k v d.entries

theorem mem_keys_insert {d : Dict κ ν} {k j : κ} {v : ν} :
    j ∈ (d.insert k v).keys ↔ j = k ∨ j ∈ d.keys :=
  mem_keys_insertEntries

theorem find?_filter_ne (es : List (κ × ν)) (k j : κ) :
    ((es.filter fun e => decide (e.1 ≠ k)).find? fun e => decide (e.1 = j)).map Prod.snd =
      if j = k then none else (es.find? fun e => decide (e.1 = j)).map Prod.snd := by
  induction es with
  | nil => simp
  | cons e es ih => by_cases hk : e.1 = k <;> by_cases hj : e.1 = j <;> grind

theorem get?_erase (d : Dict κ ν) (k j : κ) :
    (d.erase k).get? j = if j = k then none else d.get? j :=
  find?_filter_ne d.entries k j

theorem mem_keys_iff {d : Dict κ ν} {k : κ} : k ∈ d.keys ↔ (d.get? k).isSome := by
  simp [keys, get?]

theorem get?_eq_some_iff {d : Dict κ ν} {k : κ} {v : ν} :
    d.get? k = some v ↔ (k, v) ∈ d.entries := by
  obtain ⟨es, hnd⟩ := d
  induction es with
  | nil => simp [get?]
  | cons e es ih =>
    rw [List.map_cons, List.nodup_cons] at hnd
    have ih := ih hnd.2
    simp only [get?, List.find?_cons, List.mem_cons] at ih ⊢
    by_cases hk : e.1 = k
    · have hno : (k, v) ∉ es := fun hin => hnd.1 (hk ▸ List.mem_map.2 ⟨(k, v), hin, rfl⟩)
      simp [hk, hno]
      constructor <;> intro h <;> simp_all [Prod.ext_iff]
    · have hne : (k, v) ≠ e := fun h => hk (by rw [← h])
      simp [hk, hne, ih]

end Dict

end Polyglot
