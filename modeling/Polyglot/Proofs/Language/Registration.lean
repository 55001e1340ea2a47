import Polyglot.Language.Registry

/-!
# Polyglot.Proofs.Language.Registration

What one registration does.  It is refused for one of two reasons, of which the first one comes
before the second (`register_eq_error_iff`):

```
an identifier is empty or a lone dot        the first such identifier is named
without override, an identifier stands      the first such identifier is named, with
for an implementation of another type       both type names
```

A registration that is not refused lets all its identifiers stand for its type name, and enters
its locator unless one of the type name is there already (`get?_identifiers_registered`,
`get?_implementations_registered`).
-/

namespace Polyglot.Language

/-! ## Identifiers -/

/-- Whether an identifier says something: it is neither empty nor a lone dot. -/
def Usable (id : String) : Prop := Text.trim id ≠ "" ∧ Text.trim id ≠ "."

instance : DecidablePred Usable := fun _ => inferInstanceAs (Decidable (_ ∧ _))

/-- An identifier as it counts, without blanks around it and without letter case. -/
def spelling (id : String) : String := Text.lowercase (Text.trim id)

theorem key_of_usable {id : String} (hid : Usable id) : key id = .ok (spelling id) := by
  rw [key, if_neg (by rw [not_or]; exact hid), spelling]

theorem key_of_not_usable {id : String} (hid : ¬ Usable id) :
    key id = .error (.invalidIdentifier id) := by
  rw [Usable, ← not_or, Decidable.not_not] at hid
  rw [key, if_pos hid]

theorem keys_of_usable {ids : List String} (hids : ∀ id ∈ ids, Usable id) :
    keys ids = .ok (ids.map spelling) := by
  induction ids with
  | nil => rfl
  | cons id ids ih =>
      have hrest : ∀ j ∈ ids, Usable j := fun j hj => hids j (List.mem_cons_of_mem id hj)
      rw [keys, key_of_usable (hids id List.mem_cons_self)]
      simp only [ih hrest, Except.map, List.map_cons]

theorem keys_of_not_usable {front back : List String} {id : String}
    (hfront : ∀ j ∈ front, Usable j) (hid : ¬ Usable id) :
    keys (front ++ id :: back) = .error (.invalidIdentifier id) := by
  induction front with
  | nil => rw [List.nil_append, keys, key_of_not_usable hid]
  | cons j front ih =>
      have hrest : ∀ i ∈ front, Usable i := fun i hi => hfront i (List.mem_cons_of_mem j hi)
      rw [List.cons_append, keys, key_of_usable (hfront j List.mem_cons_self)]
      simp only [ih hrest, Except.map]

/-- Either all identifiers are usable, or there is a first one that is not. -/
theorem usable_or_first_not (ids : List String) :
    (∀ id ∈ ids, Usable id) ∨
      ∃ front id back, ids = front ++ id :: back ∧ (∀ j ∈ front, Usable j) ∧ ¬ Usable id := by
  cases hfind : ids.find? fun id => decide (¬ Usable id) with
  | none => exact .inl fun id hid => by simpa using List.find?_eq_none.1 hfind id hid
  | some id =>
      obtain ⟨hid, front, back, hsplit, hfront⟩ := List.find?_eq_some_iff_append.1 hfind
      exact .inr ⟨front, id, back, hsplit, fun j hj => by simpa using hfront j hj,
        by simpa using hid⟩

/-! ## Refusals -/

/-- Whether an identifier stands for another type than the given one, where `standsFor` says what
the spellings stand for. -/
def TakenBy (standsFor : String → Option String) (type id other : String) : Prop :=
  standsFor (spelling id) = some other ∧ other ≠ type

/-- Why a registration is refused where spellings stand for what `standsFor` says. -/
inductive Refused (standsFor : String → Option String) (type : String) (override : Bool)
    (ids : List String) : RegistryError → Prop where
  /-- The first identifier that is not usable. -/
  | invalid (front : List String) (id : String) (back : List String)
      (hids : ids = front ++ id :: back) (hfront : ∀ j ∈ front, Usable j) (hid : ¬ Usable id) :
      Refused standsFor type override ids (.argument (.invalidIdentifier id))
  /-- The first identifier that stands for another type, where all are usable. -/
  | taken (front : List String) (id : String) (back : List String) (other : String)
      (hids : ids = front ++ id :: back) (husable : ∀ j ∈ ids, Usable j)
      (hoverride : override = false) (hfront : ∀ j ∈ front, ∀ t, ¬ TakenBy standsFor type j t)
      (hid : TakenBy standsFor type id other) :
      Refused standsFor type override ids (.conflict (spelling id) other type)

namespace Registry

variable {r r' : Registry} {l : Locator} {override : Bool} {ids : List String}

theorem conflict?_cons_of_free {type id : String} (ks : List String)
    (hfree : ∀ t, ¬ TakenBy r.identifiers.get? type id t) :
    r.conflict? type (spelling id :: ks) = r.conflict? type ks := by
  rw [conflict?]
  cases hget : r.identifiers.get? (spelling id) with
  | none => rfl
  | some existing =>
      have hsame : existing = type :=
        Decidable.byContradiction fun hother => hfree existing ⟨hget, hother⟩
      exact if_pos hsame

theorem conflict?_of_free {type : String}
    (hfree : ∀ id ∈ ids, ∀ t, ¬ TakenBy r.identifiers.get? type id t) :
    r.conflict? type (ids.map spelling) = none := by
  induction ids with
  | nil => rfl
  | cons id ids ih =>
      rw [List.map_cons, conflict?_cons_of_free _ (hfree id List.mem_cons_self)]
      exact ih fun j hj => hfree j (List.mem_cons_of_mem id hj)

theorem conflict?_of_taken {type id other : String} {front : List String} (back : List String)
    (hfront : ∀ j ∈ front, ∀ t, ¬ TakenBy r.identifiers.get? type j t)
    (hid : TakenBy r.identifiers.get? type id other) :
    r.conflict? type ((front ++ id :: back).map spelling) = some (spelling id, other) := by
  induction front with
  | nil =>
      rw [List.nil_append, List.map_cons, conflict?, hid.1]
      exact if_neg hid.2
  | cons j front ih =>
      rw [List.cons_append, List.map_cons,
        conflict?_cons_of_free _ (hfront j List.mem_cons_self)]
      exact ih fun i hi => hfront i (List.mem_cons_of_mem j hi)

/-- Either no identifier is taken, or there is a first one that is. -/
theorem free_or_first_taken (standsFor : String → Option String) (type : String)
    (ids : List String) :
    (∀ id ∈ ids, ∀ t, ¬ TakenBy standsFor type id t) ∨
      ∃ front id back other, ids = front ++ id :: back ∧
        (∀ j ∈ front, ∀ t, ¬ TakenBy standsFor type j t) ∧ TakenBy standsFor type id other := by
  induction ids with
  | nil => exact .inl fun id hid => absurd hid List.not_mem_nil
  | cons id ids ih =>
      by_cases hid : ∃ t, TakenBy standsFor type id t
      · obtain ⟨other, hother⟩ := hid
        exact .inr ⟨[], id, ids, other, rfl, fun j hj => absurd hj List.not_mem_nil, hother⟩
      · have hfree : ∀ t, ¬ TakenBy standsFor type id t := fun t ht => hid ⟨t, ht⟩
        rcases ih with hrest | ⟨front, j, back, other, rfl, hfront, hj⟩
        · refine .inl fun i hi => ?_
          rcases List.mem_cons.1 hi with rfl | hi
          · exact hfree
          · exact hrest i hi
        · refine .inr ⟨id :: front, j, back, other, rfl, fun i hi => ?_, hj⟩
          rcases List.mem_cons.1 hi with rfl | hi
          · exact hfree
          · exact hfront i hi

/-- The registry after a registration that is not refused. -/
def registered (r : Registry) (l : Locator) (ids : List String) : Registry :=
  { r with
    implementations := enter r.implementations l
    identifiers := assignAll r.identifiers l.typeName (ids.map spelling) }

theorem register_of_free (husable : ∀ id ∈ ids, Usable id)
    (hfree : override = false → ∀ id ∈ ids, ∀ t, ¬ TakenBy r.identifiers.get? l.typeName id t) :
    r.register l override ids = .ok (r.registered l ids) := by
  rw [register, keys_of_usable husable]
  cases override with
  | true => rfl
  | false =>
      simp only [Bool.false_eq_true, if_false, conflict?_of_free (hfree rfl)]
      rfl

theorem register_of_refused {e : RegistryError}
    (hr : Refused r.identifiers.get? l.typeName override ids e) :
    r.register l override ids = .error e := by
  cases hr with
  | invalid front id back hids hfront hid =>
      rw [hids, register, keys_of_not_usable hfront hid]
  | taken front id back other hids husable hoverride hfront hid =>
      rw [register, keys_of_usable husable, hoverride, hids]
      simp only [Bool.false_eq_true, if_false, conflict?_of_taken back hfront hid]

/-- What decides how a registration ends. -/
theorem refused_or_free (standsFor : String → Option String) (type : String) (override : Bool)
    (ids : List String) : (∃ e, Refused standsFor type override ids e) ∨
      (∀ id ∈ ids, Usable id) ∧
        (override = false → ∀ id ∈ ids, ∀ t, ¬ TakenBy standsFor type id t) := by
  rcases usable_or_first_not ids with husable | ⟨front, id, back, hids, hfront, hid⟩
  · cases override with
    | true => exact .inr ⟨husable, fun h => by cases h⟩
    | false =>
        rcases free_or_first_taken standsFor type ids with
          hfree | ⟨front, id, back, other, hids, hfront, hid⟩
        · exact .inr ⟨husable, fun _ => hfree⟩
        · exact .inl ⟨_, .taken front id back other hids husable rfl hfront hid⟩
  · exact .inl ⟨_, .invalid front id back hids hfront hid⟩

theorem register_eq_error_iff {e : RegistryError} : r.register l override ids = .error e ↔
    Refused r.identifiers.get? l.typeName override ids e := by
  refine ⟨fun herror => ?_, register_of_refused⟩
  rcases refused_or_free r.identifiers.get? l.typeName override ids with
    ⟨e', hr⟩ | ⟨husable, hfree⟩
  · rw [register_of_refused hr] at herror
    exact Except.error.inj herror ▸ hr
  · rw [register_of_free husable hfree] at herror
    cases herror

theorem register_eq_ok_iff : r.register l override ids = .ok r' ↔
    (∀ id ∈ ids, Usable id) ∧
      (override = false → ∀ id ∈ ids, ∀ t, ¬ TakenBy r.identifiers.get? l.typeName id t) ∧
      r.registered l ids = r' := by
  rcases refused_or_free r.identifiers.get? l.typeName override ids with
    ⟨e, hr⟩ | ⟨husable, hfree⟩
  · rw [register_of_refused hr]
    constructor
    · intro hok
      cases hok
    rintro ⟨husable, hfree, -⟩
    cases hr with
    | invalid front id back hids hfront hid => exact absurd (husable id (by simp [hids])) hid
    | taken front id back other hids _ hoverride hfront hid =>
        exact absurd hid (hfree hoverride id (by simp [hids]) other)
  · rw [register_of_free husable hfree, Except.ok.injEq]
    exact ⟨fun heq => ⟨husable, hfree, heq⟩, fun h => h.2.2⟩

theorem of_register_eq_ok (hok : r.register l override ids = .ok r') :
    r' = r.registered l ids ∧ ∀ id ∈ ids, Usable id := by
  obtain ⟨husable, -, rfl⟩ := register_eq_ok_iff.1 hok
  exact ⟨rfl, husable⟩

/-! ## What a registration leaves -/

theorem get?_assignAll {ν : Type} (d : Dict String ν) (v : ν) (ks : List String) (k : String) :
    (assignAll d v ks).get? k = if k ∈ ks then some v else d.get? k := by
  induction ks generalizing d with
  | nil => simp [assignAll]
  | cons j ks ih =>
      rw [assignAll, List.foldl_cons, ← assignAll, ih, Dict.get?_insert]
      by_cases hk : k ∈ ks <;> by_cases hj : k = j <;> simp [hk, hj]

@[simp] theorem get?_identifiers_registered (r : Registry) (l : Locator) (ids : List String)
    (k : String) : (r.registered l ids).identifiers.get? k =
      if k ∈ ids.map spelling then some l.typeName else r.identifiers.get? k :=
  get?_assignAll _ _ _ k

theorem keys_implementations_registered (r : Registry) (l : Locator) (ids : List String) :
    (r.registered l ids).implementations.keys =
      if l.typeName ∈ r.implementations.keys then r.implementations.keys
      else r.implementations.keys ++ [l.typeName] := by
  show (enter r.implementations l).keys = _
  rw [enter, Dict.contains]
  by_cases hmem : l.typeName ∈ r.implementations.keys
  · rw [if_pos hmem, if_pos (Dict.mem_keys_iff.1 hmem)]
  · rw [if_neg hmem, if_neg fun h => hmem (Dict.mem_keys_iff.2 h), Dict.keys_insert, if_neg hmem]

/-- An implementation that is known stays as it is, and a new one is entered with its locator. -/
theorem get?_implementations_registered (r : Registry) (l : Locator) (ids : List String)
    (type : String) : (r.registered l ids).implementations.get? type =
      if type = l.typeName ∧ r.implementations.get? type = none then some { locator := l }
      else r.implementations.get? type := by
  show (enter r.implementations l).get? type = _
  rw [enter, Dict.contains]
  by_cases hsome : (r.implementations.get? l.typeName).isSome = true
  · have hno : ¬ (type = l.typeName ∧ r.implementations.get? type = none) := by
      rintro ⟨rfl, hnone⟩
      rw [hnone] at hsome
      cases hsome
    rw [if_pos hsome, if_neg hno]
  · have hnone : r.implementations.get? l.typeName = none := by simpa using hsome
    rw [if_neg hsome, Dict.get?_insert]
    by_cases htype : type = l.typeName
    · rw [if_pos htype, if_pos ⟨htype, htype ▸ hnone⟩]
    · rw [if_neg htype, if_neg fun h => htype h.1]

end Registry

end Polyglot.Language
