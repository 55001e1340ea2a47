import Polyglot.Proofs.Host.Instantiation

/-!
# Polyglot.Proofs.Host.Answers

How a lookup by identifier ends, in any host:

```
the identifier says nothing         an argument error            nothing changes
it stands for no implementation     nothing, or no such language nothing changes
it stands for an implementation     what the lookup of this implementation gives
```

A lookup of an implementation that is known ends with its provider, or with an error that says
why this implementation cannot be loaded (`LoadFailure`).  So an argument error always speaks of
the identifier that was looked up, and a missing language of an identifier that is not registered.
-/

namespace Polyglot

open Polyglot.Language

namespace Host

variable {h : Host} {r : RegistryId} {id type : String}

/-! ## Implementations -/

/-- Whether an error says why an implementation that is known under a type name cannot be loaded. -/
inductive LoadFailure (i : Implementation) (type : String) : RegistryError → Prop where
  | missing (location : String) :
      LoadFailure i type (.missingImplementation i.locator.typeName location)
  | invalid (reason : String) : LoadFailure i type (.invalidImplementation type reason)

theorem resolveByType_of_unknown (hunknown : (h.registry r).implementations.get? type = none) :
    h.resolveByType r type = (.error (.unknownLanguage type), h) := by
  obtain ⟨depth, hdepth⟩ := depthBound_eq_succ h r
  rw [resolveByType, hdepth, instanceOf_succ, hunknown]

theorem loadFailure_of_load {lookUp : Lookup} {i : Implementation} {e : RegistryError}
    (he : (h.load lookUp r type i.locator).1 = .error e) : LoadFailure i type e := by
  simp only [load] at he
  cases hlocate : h.locate r i.locator with
  | error e' =>
      obtain ⟨location, -, -, rfl⟩ := missing_of_locate hlocate
      simp only [hlocate, Except.error.injEq] at he
      exact he ▸ .missing location
  | ok made =>
      obtain ⟨f, place⟩ := made
      simp only [hlocate, loadFrom] at he
      split at he
      · exact Except.error.inj he ▸ .invalid _
      · cases he

theorem loadFailure_of_resolveByType {i : Implementation} {e : RegistryError}
    (hi : (h.registry r).implementations.get? type = some i)
    (he : (h.resolveByType r type).1 = .error e) : LoadFailure i type e := by
  obtain ⟨depth, hdepth⟩ := depthBound_eq_succ h r
  rw [resolveByType, hdepth, instanceOf_succ, hi] at he
  obtain ⟨l, loading⟩ := i
  cases loading with
  | loaded p => cases he
  | building => exact Except.error.inj he ▸ .invalid _
  | absent => exact loadFailure_of_load he

theorem resolveByType_ne_argument (h : Host) (r : RegistryId) (type : String) (e : ArgumentError) :
    (h.resolveByType r type).1 ≠ .error (.argument e) := by
  intro he
  cases hi : (h.registry r).implementations.get? type with
  | none =>
      rw [resolveByType_of_unknown hi] at he
      cases he
  | some i => cases loadFailure_of_resolveByType hi he

/-! ## Identifiers -/

theorem implementationOf_of_usable (hid : Usable id) :
    h.implementationOf r id = .ok ((h.registry r).identifiers.get? (spelling id)) := by
  rw [implementationOf, Registry.find, key_of_usable hid]
  rfl

theorem implementationOf_of_not_usable (hid : ¬ Usable id) :
    h.implementationOf r id = .error (.argument (.invalidIdentifier id)) := by
  rw [implementationOf, Registry.find, key_of_not_usable hid]
  rfl

theorem tryResolve_of_not_usable (hid : ¬ Usable id) :
    h.tryResolve r id = (.error (.argument (.invalidIdentifier id)), h) := by
  rw [tryResolve, implementationOf_of_not_usable hid]

theorem tryResolve_of_unregistered (hid : Usable id)
    (hnone : (h.registry r).identifiers.get? (spelling id) = none) :
    h.tryResolve r id = (.ok none, h) := by
  rw [tryResolve, implementationOf_of_usable hid, hnone]

theorem typeNameOf?_of_usable {reg : Registry} (hid : Usable id) :
    reg.typeNameOf? id = reg.identifiers.get? (spelling id) := by
  rw [Registry.typeNameOf?, Registry.find, key_of_usable hid]
  rfl

theorem typeNameOf?_of_not_usable {reg : Registry} (hid : ¬ Usable id) :
    reg.typeNameOf? id = none := by
  rw [Registry.typeNameOf?, Registry.find, key_of_not_usable hid]
  rfl

theorem typeNameOf?_eq_some_iff {reg : Registry} :
    reg.typeNameOf? id = some type ↔
      Usable id ∧ reg.identifiers.get? (spelling id) = some type := by
  by_cases hid : Usable id
  · simp [typeNameOf?_of_usable hid, hid]
  · simp [typeNameOf?_of_not_usable hid, hid]

/-- Nothing is found exactly under identifiers that say something and are not registered. -/
theorem tryResolve_eq_none_iff :
    (h.tryResolve r id).1 = .ok none ↔ Usable id ∧ (h.registry r).typeNameOf? id = none := by
  by_cases hid : Usable id
  · rw [typeNameOf?_of_usable hid]
    cases hget : (h.registry r).identifiers.get? (spelling id) with
    | none => simp [tryResolve_of_unregistered hid hget, hid]
    | some type =>
        have hreaches := reaches_of_typeNameOf? (typeNameOf?_eq_some_iff.2 ⟨hid, hget⟩)
        rw [hreaches.tryResolve]
        cases (h.resolveByType r type).1 <;> simp [Except.map]
  · simp [tryResolve_of_not_usable hid, hid]

/-- An argument error is about the identifier that was looked up, which says nothing. -/
theorem tryResolve_eq_argument_iff {e : ArgumentError} :
    (h.tryResolve r id).1 = .error (.argument e) ↔
      ¬ Usable id ∧ e = .invalidIdentifier id := by
  by_cases hid : Usable id
  · cases hget : (h.registry r).identifiers.get? (spelling id) with
    | none => simp [tryResolve_of_unregistered hid hget, hid]
    | some type =>
        have hreaches := reaches_of_typeNameOf? (typeNameOf?_eq_some_iff.2 ⟨hid, hget⟩)
        have hno := resolveByType_ne_argument h r type e
        rw [hreaches.tryResolve]
        cases hresult : (h.resolveByType r type).1 with
        | error e' =>
            rw [hresult] at hno
            simpa [Except.map, hid] using hno
        | ok p => simp [Except.map, hid]
  · simp [tryResolve_of_not_usable hid, hid, eq_comm]

theorem resolve_ne_argument (hid : Usable id) (e : ArgumentError) :
    (h.resolve r id).1 ≠ .error (.argument e) := by
  have hno : (h.tryResolve r id).1 ≠ .error (.argument e) := fun he =>
    (tryResolve_eq_argument_iff.1 he).1 hid
  rw [resolve]
  cases htry : h.tryResolve r id with
  | mk result h' =>
      rw [htry] at hno
      cases result with
      | error failure =>
          intro he
          exact hno (congrArg Except.error (Except.error.inj he))
      | ok found => cases found <;> simp

end Host

end Polyglot
