import Polyglot.Language.Registry

/-!
# Polyglot.Proofs.Language.Names

The type names that a registry knows or may come to know: those of its locators, and of the
locators that their factories may register, to any depth; and those of the locators that the
factories in its table may register.  Asking a factory for providers changes none of them
(`names_recounted`).

There is one name for each locator that a weight counts (`Registry.length_possibleNames`,
`Resolver.length_possibleNames`).
-/

namespace Polyglot.Language

mutual
/-- The type name of a locator, and those that its factory may register. -/
def Locator.names : Locator → List String
  | .resolved f => f.typeName :: f.names
  | .deferred _ type => [type]

/-- The type names that a factory may register. -/
def Factory.names : Factory → List String
  | ⟨_, _, _, errands, _⟩ => namesOf errands

/-- The type names that errands may register. -/
def namesOf : List Errand → List String
  | [] => []
  | e :: es => e.names ++ namesOf es

/-- The type names that one errand may register. -/
def Errand.names : Errand → List String
  | .register l _ _ => l.names
  | .resolve _ => []
  | .attempt es others => namesOf es ++ namesOf others
end

mutual
theorem Locator.length_names : ∀ l : Locator, l.names.length = l.weight
  | .resolved f => by
      rw [Locator.names, Locator.weight, List.length_cons, f.length_names, Nat.add_comm]
  | .deferred _ _ => rfl

theorem Factory.length_names : ∀ f : Factory, f.names.length = f.weight
  | ⟨_, _, _, errands, _⟩ => by rw [Factory.names, Factory.weight, length_namesOf errands]

theorem length_namesOf : ∀ es : List Errand, (namesOf es).length = weightOf es
  | [] => rfl
  | e :: es => by
      rw [namesOf, weightOf, List.length_append, e.length_names, length_namesOf es]

theorem Errand.length_names : ∀ e : Errand, e.names.length = e.weight
  | .register l _ _ => by rw [Errand.names, Errand.weight, l.length_names]
  | .resolve _ => rfl
  | .attempt es others => by
      rw [Errand.names, Errand.weight, List.length_append, length_namesOf es, length_namesOf others]
end

theorem Locator.typeName_mem_names (l : Locator) : l.typeName ∈ l.names := by
  cases l <;> simp [Locator.names, Locator.typeName]

theorem Factory.names_eq (f : Factory) : f.names = namesOf f.errands := by
  obtain ⟨type, calls, failTimes, errands, product⟩ := f
  rfl

/-! ## Counting requests -/

/-- The locator with another count of the requests to its factory. -/
def Locator.recounted (n : Nat) : Locator → Locator
  | .resolved f => .resolved { f with calls := n }
  | .deferred location type => .deferred location type

namespace Locator

variable (l : Locator) (n m : Nat)

@[simp] theorem typeName_recounted : (l.recounted n).typeName = l.typeName := by
  cases l <;> rfl

@[simp] theorem names_recounted : (l.recounted n).names = l.names := by
  cases l with
  | resolved f => simp [recounted, names, Factory.names_eq]
  | deferred location type => rfl

@[simp] theorem recounted_recounted : (l.recounted n).recounted m = l.recounted m := by
  cases l <;> rfl

theorem exists_eq_recounted : ∃ n, l = l.recounted n := by
  cases l with
  | resolved f =>
      obtain ⟨type, calls, failTimes, errands, product⟩ := f
      exact ⟨calls, rfl⟩
  | deferred location type => exact ⟨0, rfl⟩

end Locator

/-! ## Registries and tables -/

theorem length_flatMap_eq_foldr {α : Type} {names : α → List String} {weight : α → Nat}
    (h : ∀ a, (names a).length = weight a) (as : List α) :
    (as.flatMap names).length = as.foldr (fun a n => weight a + n) 0 := by
  induction as with
  | nil => rfl
  | cons a as ih => rw [List.flatMap_cons, List.length_append, List.foldr_cons, h a, ih]

namespace Registry

/-- The type names that a registry knows, or may come to know from what it knows. -/
def possibleNames (r : Registry) : List String :=
  r.implementations.entries.flatMap fun e => e.2.locator.names

theorem length_possibleNames (r : Registry) : r.possibleNames.length = r.weight :=
  length_flatMap_eq_foldr (fun e => e.2.locator.length_names) _

/-- Whether the registry knows, or may come to know, only types among the given ones. -/
def Within (r : Registry) (names : List String) : Prop :=
  ∀ type i, r.implementations.get? type = some i → ∀ n ∈ i.locator.names, n ∈ names

theorem within_possibleNames (r : Registry) : r.Within r.possibleNames := fun type i hi _ hn =>
  List.mem_flatMap.2 ⟨(type, i), Dict.get?_eq_some_iff.1 hi, hn⟩

end Registry

namespace Resolver

/-- The type names that the factories in a table may register. -/
def possibleNames (t : Resolver) : List String := t.table.entries.flatMap fun e => e.2.names

theorem length_possibleNames (t : Resolver) : t.possibleNames.length = t.weight :=
  length_flatMap_eq_foldr (fun e => e.2.length_names) _

/-- Whether the factories in the table may register only types among the given ones. -/
def Within (t : Resolver) (names : List String) : Prop :=
  ∀ k f, t.table.get? k = some f → ∀ n ∈ f.names, n ∈ names

theorem within_possibleNames (t : Resolver) : t.Within t.possibleNames := fun k f hf _ hn =>
  List.mem_flatMap.2 ⟨(k, f), Dict.get?_eq_some_iff.1 hf, hn⟩

theorem Within.insert {t : Resolver} {names : List String} (ht : t.Within names)
    (location : String) {f : Factory} (hf : ∀ n ∈ f.names, n ∈ names) :
    (t.insert location f).Within names := by
  intro k f' hk
  rw [Resolver.insert, Dict.get?_insert] at hk
  split at hk
  · exact Option.some.inj hk ▸ hf
  · exact ht k f' hk

end Resolver

end Polyglot.Language
