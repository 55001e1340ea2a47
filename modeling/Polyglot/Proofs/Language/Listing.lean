import Mathlib.Data.List.Basic
import Polyglot.Language.Registry

/-!
# Polyglot.Proofs.Language.Listing

Listings of identifiers.  A listing is in strictly ascending order, and it holds the keys that
stand for a wanted implementation (`mem_listing`).  These two facts determine it, so that tables
with the same keys of wanted implementations have the same listings (`listing_eq_of_mem`), and so
have registries in which keys stand for the same types, whatever the order in which the keys came
(`listIdentifiers_congr`).
-/

namespace Polyglot

/-! ## Dictionaries with the same content -/

/-- Dictionaries with the same keys have as many of them. -/
theorem Dict.size_eq_of_mem_keys {κ ν : Type} {d d' : Dict κ ν}
    (h : ∀ k, k ∈ d.keys ↔ k ∈ d'.keys) : d.size = d'.size := by
  rw [← length_keys, ← length_keys]
  exact ((List.perm_ext_iff_of_nodup d.nodup_keys d'.nodup_keys).2 h).length_eq

namespace Language.Registry

section Listing

variable {μ ν : Type} [DecidableEq μ] [DecidableEq ν] {wanted : Option ν} {extensions : Bool}
variable {k : String}

theorem mem_listing {d : Dict String ν} : k ∈ listing d wanted extensions ↔
    ∃ v, d.get? k = some v ∧ (extensions = true → isExtensionKey k = true) ∧
      ∀ w, wanted = some w → v = w := by
  simp only [listing, List.mem_mergeSort, List.mem_map, List.mem_filter, Bool.and_eq_true,
    Bool.or_eq_true, Bool.not_eq_true', Option.all_eq_true, decide_eq_true_eq]
  constructor
  · rintro ⟨⟨j, v⟩, ⟨hentry, hextension, hwanted⟩, rfl⟩
    refine ⟨v, Dict.get?_eq_some_iff.2 hentry, fun h => ?_, fun w h => hwanted w h⟩
    exact hextension.resolve_left (by simp [h])
  · rintro ⟨v, hget, hextension, hwanted⟩
    refine ⟨(k, v), ⟨Dict.get?_eq_some_iff.1 hget, ?_, fun w h => hwanted w h⟩, rfl⟩
    cases extensions with
    | false => exact .inl rfl
    | true => exact .inr (hextension rfl)

/-- Where no implementation is wanted, every key is listed. -/
theorem mem_listing_none {d : Dict String ν} : k ∈ listing d none extensions ↔
    d.get? k ≠ none ∧ (extensions = true → isExtensionKey k = true) := by
  rw [mem_listing, Option.ne_none_iff_exists']
  simp

theorem mem_listing_some {d : Dict String ν} {v : ν} : k ∈ listing d (some v) extensions ↔
    d.get? k = some v ∧ (extensions = true → isExtensionKey k = true) := by
  rw [mem_listing]
  simp

theorem nodup_listing (d : Dict String ν) (wanted : Option ν) (extensions : Bool) :
    (listing d wanted extensions).Nodup := by
  rw [listing, (List.mergeSort_perm _ _).nodup_iff]
  exact d.nodup.sublist (List.filter_sublist.map Prod.fst)

/-- Listings are in strictly ascending order. -/
theorem pairwise_listing (d : Dict String ν) (wanted : Option ν) (extensions : Bool) :
    (listing d wanted extensions).Pairwise (· < ·) := by
  have hsorted : (listing d wanted extensions).Pairwise (· ≤ ·) := by
    refine (List.pairwise_mergeSort ?_ ?_ _).imp of_decide_eq_true
    · intro a b c hab hbc
      exact decide_eq_true (String.le_trans (of_decide_eq_true hab) (of_decide_eq_true hbc))
    · intro a b
      simpa using String.le_total a b
  exact (hsorted.and (nodup_listing d wanted extensions)).imp fun h =>
    Std.lt_of_le_of_ne h.1 h.2

/-- Listings with the same keys are the same. -/
theorem listing_eq_of_mem {d : Dict String ν} {d' : Dict String μ} {wanted' : Option μ}
    (h : ∀ k, k ∈ listing d wanted extensions ↔ k ∈ listing d' wanted' extensions) :
    listing d wanted extensions = listing d' wanted' extensions := by
  have hperm : (listing d wanted extensions).Perm (listing d' wanted' extensions) := by
    rwa [List.perm_ext_iff_of_nodup (nodup_listing ..) (nodup_listing ..)]
  refine hperm.eq_of_pairwise ?_ (pairwise_listing d wanted extensions)
    (pairwise_listing d' wanted' extensions)
  intro a b _ _ hab hba
  exact absurd (String.lt_trans hab hba) (String.lt_irrefl a)

end Listing

/-- Where keys stand for the same types, listings are the same. -/
theorem listIdentifiers_congr {r r' : Registry}
    (h : ∀ k, r.identifiers.get? k = r'.identifiers.get? k) (type : Option String)
    (extensions : Bool) : r.listIdentifiers type extensions = r'.listIdentifiers type extensions :=
  listing_eq_of_mem fun k => by rw [mem_listing, mem_listing, h]

end Language.Registry

end Polyglot
