import Mathlib.Data.List.Basic
import Polyglot.Language.Tables
import Polyglot.Proofs.Language.Listing
import Polyglot.Proofs.Language.Registration

/-!
# Polyglot.Proofs.Language.Tables

The tables of a registry agree.  Where the type names are `types`, in the order in which they
came, and keys stand for what `standsFor` says, then (`Numbers`)

```
byType    type name    its place among the type names
byId      key          the place of the type name that the key stands for
```

Every number kept is therefore that of a descriptor (`lt_of_byType`, `lt_of_byId`), and no lookup
and no registration goes by another one.  A registration keeps the tables so (`Numbers.registered`).

Tables represent a registry when they number what it knows.  Then they answer every question as
the registry does, and a registration leads both to the same error, or to tables that represent
the registry it leads to (`Represents.register`).
-/

namespace Polyglot.Language.Tables

variable {t : Tables} {types : List String} {standsFor : String → Option String}
variable {type k : String} {n : Nat} {l : Locator} {override : Bool} {ids : List String}

/-- Whether tables number these type names in this order, and the keys by what they stand for. -/
structure Numbers (t : Tables) (types : List String) (standsFor : String → Option String) :
    Prop where
  descriptors : t.descriptors.map Locator.typeName = types
  byType : ∀ type, t.byType.get? type = types.idxOf? type
  byId : ∀ k, t.byId.get? k = (standsFor k).bind types.idxOf?
  known : ∀ k type, standsFor k = some type → type ∈ types

/-- The first locator of a type name among the descriptors. -/
def locator? (t : Tables) (type : String) : Option Locator :=
  t.descriptors.find? fun l => l.typeName = type

/-- The tables after a registration that is not refused. -/
def registered (t : Tables) (l : Locator) (ids : List String) : Tables :=
  (t.enter l).2.assign (t.enter l).1 (ids.map spelling)

theorem numbers_empty : empty.Numbers [] fun _ => none :=
  ⟨rfl, fun _ => rfl, fun _ => rfl, fun _ _ h => nomatch h⟩

/-! ## Places in a list -/

theorem getElem?_of_idxOf? (h : types.idxOf? type = some n) : types[n]? = some type := by
  obtain ⟨hlt, htype, -⟩ := List.idxOf?_eq_some_iff.1 h
  rw [List.getElem?_eq_getElem hlt, htype]

theorem exists_idxOf? (h : type ∈ types) : ∃ n, types.idxOf? type = some n :=
  Option.isSome_iff_exists.1 (List.isSome_idxOf?.2 h)

/-- Types at the same place are the same. -/
theorem eq_of_idxOf? {other : String} (h : types.idxOf? type = some n)
    (hother : types.idxOf? other = some n) : other = type :=
  Option.some.inj ((getElem?_of_idxOf? hother).symm.trans (getElem?_of_idxOf? h))

theorem idxOf?_concat (types : List String) (new type : String) :
    (types ++ [new]).idxOf? type =
      (types.idxOf? type).or (if new = type then some types.length else none) := by
  simp only [List.idxOf?, List.findIdx?_append]
  by_cases h : new = type <;> simp [h, List.findIdx?_cons]

/-- Type names with one more of them, if it is new. -/
def withType (types : List String) (new : String) : List String :=
  if new ∈ types then types else types ++ [new]

theorem mem_withType_of_mem (new : String) (h : type ∈ types) : type ∈ withType types new := by
  rw [withType]
  split
  · exact h
  · exact List.mem_append_left _ h

theorem idxOf?_withType_of_mem (new : String) (h : type ∈ types) :
    (withType types new).idxOf? type = types.idxOf? type := by
  rw [withType]
  split
  · rfl
  · obtain ⟨n, hn⟩ := exists_idxOf? h
    rw [idxOf?_concat, hn, Option.some_or]

/-! ## Numbers are in range -/

namespace Numbers

variable (hn : t.Numbers types standsFor)
include hn

theorem length : t.descriptorCount = types.length := by
  rw [descriptorCount, ← hn.descriptors, List.length_map]

theorem exists_descriptor (hplace : types.idxOf? type = some n) :
    ∃ l, t.descriptor n = .ok l ∧ t.descriptors[n]? = some l ∧ l.typeName = type := by
  have hat := getElem?_of_idxOf? hplace
  rw [← hn.descriptors, List.getElem?_map] at hat
  obtain ⟨l, hl, hname⟩ := Option.map_eq_some_iff.1 hat
  exact ⟨l, by rw [descriptor, hl], hl, hname⟩

theorem lt_of_idxOf? (hplace : types.idxOf? type = some n) : n < t.descriptorCount := by
  rw [hn.length]
  exact (List.idxOf?_eq_some_iff.1 hplace).1

theorem lt_of_byType (h : t.byType.get? type = some n) : n < t.descriptorCount :=
  hn.lt_of_idxOf? ((hn.byType type).symm.trans h)

theorem lt_of_byId (h : t.byId.get? k = some n) : n < t.descriptorCount := by
  rw [hn.byId] at h
  obtain ⟨type, -, hplace⟩ := Option.bind_eq_some_iff.1 h
  exact hn.lt_of_idxOf? hplace

theorem byId_of_standsFor (hk : standsFor k = some type) :
    t.byId.get? k = types.idxOf? type := by
  rw [hn.byId, hk, Option.bind_some]

theorem byId_eq_none_iff : t.byId.get? k = none ↔ standsFor k = none := by
  cases hk : standsFor k with
  | none => simp [hn.byId, hk]
  | some type =>
      obtain ⟨n, hplace⟩ := exists_idxOf? (hn.known k type hk)
      simp [hn.byId_of_standsFor hk, hplace]

/-- A key has the number of a type exactly when it stands for the type. -/
theorem byId_eq_some_iff (hplace : types.idxOf? type = some n) :
    t.byId.get? k = some n ↔ standsFor k = some type := by
  constructor
  · intro h
    rw [hn.byId] at h
    obtain ⟨other, hk, hother⟩ := Option.bind_eq_some_iff.1 h
    rw [hk, eq_of_idxOf? hplace hother]
  · intro hk
    rw [hn.byId_of_standsFor hk, hplace]

/-! ## Registration -/

theorem conflict?_cons_of_free {id : String} (ks : List String)
    (hfree : ∀ other, ¬ TakenBy standsFor type id other) :
    t.conflict? (t.byType.get? type) (spelling id :: ks) =
      t.conflict? (t.byType.get? type) ks := by
  rw [conflict?]
  cases hk : standsFor (spelling id) with
  | none => rw [hn.byId_eq_none_iff.2 hk]
  | some existing =>
      have hsame : existing = type :=
        Decidable.byContradiction fun hother => hfree existing ⟨hk, hother⟩
      obtain ⟨n, hplace⟩ := exists_idxOf? (hn.known _ _ hk)
      rw [hn.byId_of_standsFor hk, hplace]
      exact if_pos (by rw [hn.byType, ← hsame, hplace])

theorem conflict?_of_free (hfree : ∀ id ∈ ids, ∀ other, ¬ TakenBy standsFor type id other) :
    t.conflict? (t.byType.get? type) (ids.map spelling) = none := by
  induction ids with
  | nil => rfl
  | cons id ids ih =>
      rw [List.map_cons, hn.conflict?_cons_of_free _ (hfree id List.mem_cons_self)]
      exact ih fun j hj => hfree j (List.mem_cons_of_mem id hj)

theorem conflict?_of_taken {id other : String} {front : List String} (back : List String)
    (hplace : types.idxOf? other = some n)
    (hfront : ∀ j ∈ front, ∀ other, ¬ TakenBy standsFor type j other)
    (hid : TakenBy standsFor type id other) :
    t.conflict? (t.byType.get? type) ((front ++ id :: back).map spelling) =
      some (spelling id, n) := by
  induction front with
  | nil =>
      have hapart : some n ≠ t.byType.get? type := fun h =>
        hid.2 (eq_of_idxOf? ((hn.byType type).symm.trans h.symm) hplace)
      rw [List.nil_append, List.map_cons, conflict?, hn.byId_of_standsFor hid.1, hplace]
      exact if_neg hapart
  | cons j front ih =>
      rw [List.cons_append, List.map_cons,
        hn.conflict?_cons_of_free _ (hfront j List.mem_cons_self)]
      exact ih fun i hi => hfront i (List.mem_cons_of_mem j hi)

/-- A refusal names the type of a descriptor that there is. -/
theorem register_of_refused {e : RegistryError}
    (hr : Refused standsFor l.typeName override ids e) :
    t.register l override ids = .ok (.error e) := by
  cases hr with
  | invalid front id back hids hfront hid =>
      rw [hids, register, keys_of_not_usable hfront hid]
  | taken front id back other hids husable hoverride hfront hid =>
      obtain ⟨n, hplace⟩ := exists_idxOf? (hn.known _ _ hid.1)
      obtain ⟨existing, hat, -, rfl⟩ := hn.exists_descriptor hplace
      rw [register, keys_of_usable husable, hoverride, hids]
      simp only [Bool.false_eq_true, if_false, hn.conflict?_of_taken back hplace hfront hid, hat,
        Except.map]

/-! ### What a registration leaves -/

theorem enter_of_known (hplace : types.idxOf? l.typeName = some n) : t.enter l = (n, t) := by
  rw [enter, hn.byType, hplace]

theorem enter_of_new (hnew : l.typeName ∉ types) :
    t.enter l = (types.length, { t with
      descriptors := t.descriptors ++ [l]
      byType := t.byType.insert l.typeName types.length }) := by
  have hlength : t.descriptors.length = types.length := hn.length
  rw [enter, hn.byType, List.idxOf?_eq_none_iff.2 hnew, hlength]

theorem descriptors_enter (l : Locator) : (t.enter l).2.descriptors =
    if l.typeName ∈ types then t.descriptors else t.descriptors ++ [l] := by
  by_cases hknown : l.typeName ∈ types
  · obtain ⟨n, hplace⟩ := exists_idxOf? hknown
    rw [hn.enter_of_known hplace, if_pos hknown]
  · rw [hn.enter_of_new hknown, if_neg hknown]

/-- The number that an implementation is entered under is the place of its type name. -/
theorem idxOf?_enter (l : Locator) :
    (withType types l.typeName).idxOf? l.typeName = some (t.enter l).1 := by
  by_cases hknown : l.typeName ∈ types
  · obtain ⟨n, hplace⟩ := exists_idxOf? hknown
    rw [idxOf?_withType_of_mem _ hknown, hn.enter_of_known hplace, hplace]
  · rw [withType, if_neg hknown, idxOf?_concat, List.idxOf?_eq_none_iff.2 hknown, Option.none_or,
      if_pos rfl, hn.enter_of_new hknown]

theorem enter (l : Locator) : (t.enter l).2.Numbers (withType types l.typeName) standsFor := by
  by_cases hknown : l.typeName ∈ types
  · obtain ⟨n, hplace⟩ := exists_idxOf? hknown
    rw [hn.enter_of_known hplace, withType, if_pos hknown]
    exact hn
  · have hdescriptors := hn.descriptors_enter l
    rw [if_neg hknown] at hdescriptors
    refine ⟨?_, fun type => ?_, fun k => ?_, fun k type hk => ?_⟩
    · rw [hdescriptors, List.map_append, hn.descriptors, withType, if_neg hknown,
        List.map_singleton]
    · rw [hn.enter_of_new hknown, withType, if_neg hknown, idxOf?_concat]
      refine (Dict.get?_insert _ _ type _).trans ?_
      by_cases htype : type = l.typeName
      · rw [if_pos htype, htype, List.idxOf?_eq_none_iff.2 hknown, Option.none_or, if_pos rfl]
      · rw [if_neg htype, if_neg fun h => htype h.symm, Option.or_none, hn.byType]
    · rw [hn.enter_of_new hknown]
      refine (hn.byId k).trans (Option.bind_congr fun type hk => ?_)
      exact (idxOf?_withType_of_mem _ (hn.known k type hk)).symm
    · exact mem_withType_of_mem _ (hn.known k type hk)

theorem assign (hplace : types.idxOf? type = some n) (ks : List String) :
    (t.assign n ks).Numbers types fun k => if k ∈ ks then some type else standsFor k := by
  refine ⟨hn.descriptors, hn.byType, fun k => ?_, fun k other hk => ?_⟩
  · refine (Registry.get?_assignAll _ _ _ k).trans ?_
    split
    · exact hplace.symm
    · exact hn.byId k
  · split at hk
    · exact Option.some.inj hk ▸ List.isSome_idxOf?.1 (Option.isSome_of_eq_some hplace)
    · exact hn.known k other hk

/-- A registration numbers its type name, and lets all its identifiers stand for it. -/
theorem registered (l : Locator) (ids : List String) :
    (t.registered l ids).Numbers (withType types l.typeName)
      fun k => if k ∈ ids.map spelling then some l.typeName else standsFor k :=
  (hn.enter l).assign (hn.idxOf?_enter l) (ids.map spelling)

theorem exists_descriptor_entered (l : Locator) (ids : List String) :
    ∃ l', (t.registered l ids).descriptor (t.enter l).1 = .ok l' :=
  ((hn.registered l ids).exists_descriptor (hn.idxOf?_enter l)).imp fun _ h => h.1

theorem register_of_free (husable : ∀ id ∈ ids, Usable id)
    (hfree : override = false → ∀ id ∈ ids, ∀ other, ¬ TakenBy standsFor l.typeName id other) :
    t.register l override ids = .ok (.ok (t.registered l ids)) := by
  obtain ⟨l', hread⟩ := hn.exists_descriptor_entered l ids
  have hnone : (if override then none
      else t.conflict? (t.byType.get? l.typeName) (ids.map spelling)) = none := by
    cases override with
    | true => rfl
    | false => exact hn.conflict?_of_free (hfree rfl)
  rw [Tables.registered] at hread
  rw [register, keys_of_usable husable]
  simp only [hnone, hread, Except.map, Tables.registered]

/-- No registration stops. -/
theorem exists_register (l : Locator) (override : Bool) (ids : List String) :
    ∃ result, t.register l override ids = .ok result := by
  rcases Registry.refused_or_free standsFor l.typeName override ids with
    ⟨e, hr⟩ | ⟨husable, hfree⟩
  · exact ⟨_, hn.register_of_refused hr⟩
  · exact ⟨_, hn.register_of_free husable hfree⟩

theorem register_eq_error_iff {e : RegistryError} :
    t.register l override ids = .ok (.error e) ↔
      Refused standsFor l.typeName override ids e := by
  refine ⟨fun herror => ?_, hn.register_of_refused⟩
  rcases Registry.refused_or_free standsFor l.typeName override ids with
    ⟨e', hr⟩ | ⟨husable, hfree⟩
  · rw [hn.register_of_refused hr] at herror
    exact Except.error.inj (Except.ok.inj herror) ▸ hr
  · rw [hn.register_of_free husable hfree] at herror
    cases Except.ok.inj herror

/-! ## Queries -/

/-- Going by numbers that are in range never stops. -/
theorem descriptorFor_idxOf? (type : String) :
    t.descriptorFor (types.idxOf? type) = .ok (t.locator? type) := by
  have hplace : types.idxOf? type = t.descriptors.findIdx? fun l => l.typeName = type := by
    rw [List.idxOf?, ← hn.descriptors, List.findIdx?_map]
    exact congrArg t.descriptors.findIdx? (funext fun l => beq_eq_decide _ _)
  rw [locator?, List.find?_eq_bind_findIdx?_getElem?, ← hplace]
  cases h : types.idxOf? type with
  | none => rfl
  | some n =>
      obtain ⟨l, hread, hat, -⟩ := hn.exists_descriptor h
      rw [Option.bind_some, hat, descriptorFor, hread, Except.map]

theorem locator?_eq_none_iff : t.locator? type = none ↔ type ∉ types := by
  rw [locator?, List.find?_eq_none, ← hn.descriptors]
  simp

theorem typeName_locator? (hknown : type ∈ types) :
    (t.locator? type).map Locator.typeName = some type := by
  cases h : t.locator? type with
  | none => exact absurd hknown (hn.locator?_eq_none_iff.1 h)
  | some l => exact congrArg some (by simpa using List.find?_some h)

/-- A registration adds its locator only if there is none of the type name. -/
theorem locator?_registered (l : Locator) (ids : List String) (type : String) :
    (t.registered l ids).locator? type =
      (t.locator? type).or (if l.typeName = type then some l else none) := by
  have hdescriptors : (t.registered l ids).descriptors =
      if l.typeName ∈ types then t.descriptors else t.descriptors ++ [l] := hn.descriptors_enter l
  rw [locator?, hdescriptors]
  by_cases hknown : l.typeName ∈ types
  · rw [if_pos hknown, ← locator?]
    cases h : t.locator? type with
    | some l' => rfl
    | none =>
        have hunknown : type ∉ types := hn.locator?_eq_none_iff.1 h
        rw [Option.none_or, if_neg fun htype : l.typeName = type => hunknown (htype ▸ hknown)]
  · rw [if_neg hknown, List.find?_append, ← locator?, List.find?_singleton]
    simp

theorem findByType (type : String) : t.findByType type = .ok (t.locator? type) := by
  rw [Tables.findByType, hn.byType, hn.descriptorFor_idxOf?]

theorem find (id : String) :
    t.find id = .ok ((key id).map fun k => (standsFor k).bind t.locator?) := by
  rw [Tables.find]
  cases key id with
  | error e => rfl
  | ok k =>
      cases hk : standsFor k with
      | none =>
          simp only [hn.byId_eq_none_iff.2 hk, descriptorFor, Except.map, hk, Option.bind_none]
      | some type =>
          simp only [hn.byId_of_standsFor hk, hn.descriptorFor_idxOf?, Except.map, hk,
            Option.bind_some]

theorem typeNameOf? (id : String) :
    t.typeNameOf? id = .ok (if Usable id then standsFor (spelling id) else none) := by
  rw [Tables.typeNameOf?, hn.find]
  by_cases hid : Usable id
  · rw [key_of_usable hid, if_pos hid]
    cases hk : standsFor (spelling id) with
    | none => simp [Except.map, hk]
    | some type => simp [Except.map, hk, hn.typeName_locator? (hn.known _ _ hk)]
  · rw [key_of_not_usable hid, if_neg hid]
    rfl

end Numbers

/-! ## The registry that tables represent -/

/-- Whether tables number the implementations and the identifiers of a registry. -/
def Represents (t : Tables) (reg : Registry) : Prop :=
  t.Numbers reg.implementations.keys reg.identifiers.get?

theorem represents_empty (resolver : Option ResolverId) : empty.Represents (.empty resolver) :=
  numbers_empty

namespace Represents

variable {reg : Registry} (ht : t.Represents reg)
include ht

/-- A registration ends in the same way in the tables as in the registry, and never goes by a
number that there is not. -/
theorem register (l : Locator) (override : Bool) (ids : List String) :
    (∃ e, reg.register l override ids = .error e ∧ t.register l override ids = .ok (.error e)) ∨
      ∃ reg' t', reg.register l override ids = .ok reg' ∧
        t.register l override ids = .ok (.ok t') ∧ t'.Represents reg' := by
  rcases Registry.refused_or_free reg.identifiers.get? l.typeName override ids with
    ⟨e, hr⟩ | ⟨husable, hfree⟩
  · exact .inl ⟨e, Registry.register_of_refused hr, Numbers.register_of_refused ht hr⟩
  · refine .inr ⟨_, _, Registry.register_of_free husable hfree,
      Numbers.register_of_free ht husable hfree, ?_⟩
    rw [Represents, Registry.keys_implementations_registered,
      funext (Registry.get?_identifiers_registered reg l ids)]
    exact Numbers.registered ht l ids

theorem typeNameOf? (id : String) : t.typeNameOf? id = .ok (reg.typeNameOf? id) := by
  rw [Numbers.typeNameOf? ht, Registry.typeNameOf?, Registry.find]
  by_cases hid : Usable id
  · rw [key_of_usable hid, if_pos hid]
    rfl
  · rw [key_of_not_usable hid, if_neg hid]
    rfl

/-- A lookup finds a descriptor of the type name that the registry finds. -/
theorem find (id : String) : ∃ found, t.find id = .ok found ∧
    found.map (fun l => l.map Locator.typeName) = reg.find id := by
  refine ⟨_, Numbers.find ht id, ?_⟩
  rw [Registry.find]
  cases key id with
  | error e => rfl
  | ok k =>
      simp only [Except.map]
      cases hk : reg.identifiers.get? k with
      | none => rfl
      | some type => rw [Option.bind_some, Numbers.typeName_locator? ht (ht.known k type hk)]

theorem isRegistered (id : String) : t.isRegistered id = reg.isRegistered id := by
  rw [Tables.isRegistered, Registry.isRegistered, Registry.typeNameOf?, Registry.find]
  cases key id with
  | error e => rfl
  | ok k =>
      simp only [Except.map, Dict.contains]
      rw [← Bool.not_inj_iff, Option.not_isSome, Option.not_isSome, Bool.eq_iff_iff,
        Option.isNone_iff_eq_none, Option.isNone_iff_eq_none]
      exact Numbers.byId_eq_none_iff ht

theorem implementationCount : t.descriptorCount = reg.implementationCount := by
  rw [Numbers.length ht, Dict.length_keys, Registry.implementationCount]

/-- Numbers in a listing choose the same keys as type names. -/
theorem listIdentifiers (type : Option String) (extensions : Bool) :
    t.listIdentifiers type extensions = reg.listIdentifiers type extensions := by
  cases type with
  | none =>
      refine Registry.listing_eq_of_mem fun k => ?_
      rw [Registry.mem_listing_none, Registry.mem_listing_none, Ne, Ne,
        Numbers.byId_eq_none_iff ht]
  | some type =>
      rw [Tables.listIdentifiers, ht.byType, Registry.listIdentifiers]
      cases hplace : reg.implementations.keys.idxOf? type with
      | none =>
          have hunknown : type ∉ reg.implementations.keys := List.idxOf?_eq_none_iff.1 hplace
          refine (List.eq_nil_iff_forall_not_mem.2 fun k hk => ?_).symm
          exact hunknown (ht.known k type (Registry.mem_listing_some.1 hk).1)
      | some n =>
          refine Registry.listing_eq_of_mem fun k => ?_
          rw [Registry.mem_listing_some, Registry.mem_listing_some,
            Numbers.byId_eq_some_iff ht hplace]

end Represents

end Polyglot.Language.Tables
