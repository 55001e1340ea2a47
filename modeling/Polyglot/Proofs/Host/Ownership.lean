import Polyglot.Proofs.Host.Action

/-!
# Polyglot.Proofs.Host.Ownership

Who owns code after any actions.  Begin with code that nobody owns, do any actions in any order,
and note the modules that were returned.  Then code is owned by those modules that contain it and
are not bootstrap modules, and by nobody else (`Ledger.owner_iff`); since claiming asks that the
code be free, no two such modules share code (`Ledger.disjoint`), and so an owner once known
stays.

`ledger_run` carries this through every action, and `ownership` collects what follows.
-/

namespace Polyglot

/-- Whether a module keeps the code that it is made of. -/
def Module.Ordinary (m : Module) : Prop := m.name ≠ bootstrapName

instance (m : Module) : Decidable m.Ordinary := inferInstanceAs (Decidable (_ ≠ _))

namespace Host

/-- What the modules that were returned say about the owners of code. -/
structure Ledger (returned : List Module) (h : Host) : Prop where
  owner_iff : ∀ id m, h.owner id = some m ↔
    ∃ r ∈ returned, r.Ordinary ∧ r.id = m ∧ id ∈ r.code
  disjoint : returned.Pairwise fun r r' =>
    r.Ordinary → r'.Ordinary → ∀ id ∈ r.code, id ∉ r'.code
  counted : ∀ r ∈ returned, ∃ k < h.store.modules, r.id = .ofCount k
  exist : ∀ r ∈ returned, ∀ id ∈ r.code, id.index < h.codes.size

namespace Ledger

variable {returned : List Module} {h h' : Host}

/-- Before anything is returned, nobody owns anything. -/
theorem nil (hfree : ∀ id, h.owner id = none) : Ledger [] h := by
  refine ⟨fun id m => ?_, List.Pairwise.nil, ?_, ?_⟩
  · simp [hfree id]
  · simp
  · simp

theorem ownersCounted (hl : Ledger returned h) : h.OwnersCounted := by
  intro id m ho
  obtain ⟨r, hr, -, rfl, -⟩ := (hl.owner_iff id m).1 ho
  exact hl.counted r hr

/-- Code that no ordinary module contains belongs to nobody. -/
theorem owner_eq_none (hl : Ledger returned h) {id : CodeId}
    (hno : ∀ r ∈ returned, r.Ordinary → id ∉ r.code) : h.owner id = none := by
  cases ho : h.owner id with
  | none => rfl
  | some m =>
      obtain ⟨r, hr, hordinary, -, hid⟩ := (hl.owner_iff id m).1 ho
      exact absurd hid (hno r hr hordinary)

theorem of_keepsOwners (hl : Ledger returned h) (hk : KeepsOwners h h') : Ledger returned h' := by
  refine ⟨fun id m => ?_, hl.disjoint, fun r hr => ?_, fun r hr id hid => ?_⟩
  · rw [hk.owner]
    exact hl.owner_iff id m
  · obtain ⟨k, hlt, heq⟩ := hl.counted r hr
    exact ⟨k, Nat.lt_of_lt_of_le hlt hk.modules, heq⟩
  · exact Nat.lt_of_lt_of_le (hl.exist r hr id hid) hk.codes

/-- A module that was just assembled is entered. -/
theorem concat (hl : Ledger returned h) {m : Module} (hm : Assembled h m h')
    (hexist : ∀ id ∈ m.code, id.index < h.codes.size) : Ledger (returned ++ [m]) h' := by
  refine ⟨fun id o => ?_, ?_, fun r hr => ?_, fun r hr id hid => ?_⟩
  · rw [hm.owner]
    simp only [List.mem_append, List.mem_singleton]
    constructor
    · intro ho
      split at ho
      · next hnew => exact ⟨m, .inr rfl, hnew.2.1, Option.some.inj ho, hnew.1⟩
      · obtain ⟨r, hr, hrest⟩ := (hl.owner_iff id o).1 ho
        exact ⟨r, .inl hr, hrest⟩
    · rintro ⟨r, hold | rfl, hordinary, rfl, hid⟩
      · -- what an older module owns is not free, so the new module does not contain it
        have ho := (hl.owner_iff id r.id).2 ⟨r, hold, hordinary, rfl, hid⟩
        have hnot : id ∉ m.code := fun hin => by
          rw [hm.free id hin] at ho
          cases ho
        rw [if_neg (fun hc => hnot hc.1), ho]
      · rw [if_pos ⟨hid, hordinary, hexist id hid⟩]
  · refine List.pairwise_append.2 ⟨hl.disjoint, List.pairwise_singleton _ _, ?_⟩
    intro r hr m' hm' hordinary _ id hid hin
    rw [List.mem_singleton.1 hm'] at hin
    have ho := (hl.owner_iff id r.id).2 ⟨r, hr, hordinary, rfl, hid⟩
    rw [hm.free id hin] at ho
    cases ho
  · rcases List.mem_append.1 hr with hold | hnew
    · obtain ⟨k, hlt, heq⟩ := hl.counted r hold
      exact ⟨k, Nat.lt_trans hlt hm.modules, heq⟩
    · rw [List.mem_singleton.1 hnew]
      exact ⟨h.store.modules, hm.modules, hm.id⟩
  · rcases List.mem_append.1 hr with hold | hnew
    · exact Nat.lt_of_lt_of_le (hl.exist r hold id hid) hm.codes
    · rw [List.mem_singleton.1 hnew] at hid
      exact Nat.lt_of_lt_of_le (hexist id hid) hm.codes

/-- One action keeps the ledger, with the module that it returns entered. -/
theorem perform (hl : Ledger returned h) (a : Action)
    (hbound : (h.perform a).2.store.modules < UInt32.size) :
    Ledger (returned ++ (h.perform a).1.toList) (h.perform a).2 := by
  rcases perform_cases a hl.ownersCounted hbound with ⟨hnone, hk⟩ | ⟨h₁, m, hk, hsome, hexist, hm⟩
  · rw [hnone, Option.toList_none, List.append_nil]
    exact hl.of_keepsOwners hk
  · rw [hsome, Option.toList_some]
    exact (hl.of_keepsOwners hk).concat hm hexist

end Ledger

/-- Induction on the actions. -/
theorem Ledger.run {returned : List Module} {h : Host} (hl : Ledger returned h)
    (actions : List Action) (hbound : (h.run actions).2.store.modules < UInt32.size) :
    Ledger (returned ++ (h.run actions).1) (h.run actions).2 := by
  induction actions generalizing h returned with
  | nil => simpa [Host.run] using hl
  | cons a actions ih =>
      have hfirst : (h.perform a).2.store.modules < UInt32.size :=
        Nat.lt_of_le_of_lt (modules_le_run (h.perform a).2 actions) hbound
      have hrest := ih (hl.perform a hfirst) hbound
      rwa [List.append_assoc] at hrest

theorem ledger_run {h : Host} (hfree : ∀ id, h.owner id = none) (actions : List Action)
    (hbound : (h.run actions).2.store.modules < UInt32.size) :
    Ledger (h.run actions).1 (h.run actions).2 :=
  (Ledger.nil hfree).run actions hbound

/-- In a state that can be reached, the number that is next belongs to no owner. -/
theorem Reachable.next_free {h : Host} (hr : h.Reachable) (hbound : h.store.modules < UInt32.size)
    (id : CodeId) : h.owner id ≠ some (.ofCount h.store.modules) := by
  obtain ⟨start, actions, hfree, rfl⟩ := hr
  exact (ledger_run hfree actions hbound).ownersCounted.next_free hbound id

/-- **Ownership of code.**  Do actions, and then more of them, beginning with code that nobody
owns.  After the first actions

* code is owned by the module with a number exactly when an ordinary module with that number was
  returned and contains the code;
* no two ordinary modules that were returned share code;
* what is owned will have the same owner after the other actions;
* code that only bootstrap modules contain is not owned;
* a bootstrap module cannot be assembled from code of which some is owned. -/
theorem ownership {h : Host} (hfree : ∀ id, h.owner id = none) (before after : List Action)
    (hbound : (h.run (before ++ after)).2.store.modules < UInt32.size) :
    (∀ id m, (h.run before).2.owner id = some m ↔
      ∃ r ∈ (h.run before).1, r.Ordinary ∧ r.id = m ∧ id ∈ r.code) ∧
    ((h.run before).1.Pairwise fun r r' =>
      r.Ordinary → r'.Ordinary → ∀ id ∈ r.code, id ∉ r'.code) ∧
    (∀ id m, (h.run before).2.owner id = some m →
      (h.run (before ++ after)).2.owner id = some m) ∧
    (∀ id, (∀ r ∈ (h.run before).1, id ∈ r.code → r.name = bootstrapName) →
      (h.run before).2.owner id = none) ∧
    ∀ (c : Compiler) (scope : Option ScopeId) (code : List CodeId),
      (∃ id ∈ code, (h.run before).2.owner id ≠ none) →
      ∃ source owner, ((h.run before).2.createModule c bootstrapName scope code).1 =
        .error (.codeAlreadyBound source owner) := by
  have hlater := ledger_run hfree (before ++ after) hbound
  rw [run_append] at hbound hlater ⊢
  have hbound' : (h.run before).2.store.modules < UInt32.size :=
    Nat.lt_of_le_of_lt (modules_le_run (h.run before).2 after) hbound
  have hl := ledger_run hfree before hbound'
  refine ⟨hl.owner_iff, hl.disjoint, fun id m ho => ?_, fun id honly => ?_,
    fun c scope code howned => ?_⟩
  · obtain ⟨r, hr, hrest⟩ := (hl.owner_iff id m).1 ho
    exact (hlater.owner_iff id m).2 ⟨r, List.mem_append_left _ hr, hrest⟩
  · exact hl.owner_eq_none fun r hr hordinary hid => hordinary (honly r hr hid)
  · rcases free_or_first_owned (h.run before).2 code with
      hnone | ⟨first, id, rest, o, rfl, hfirst, ho⟩
    · obtain ⟨id, hid, hsome⟩ := howned
      exact absurd (hnone id hid) hsome
    · rw [createModule_of_owned (.inl rfl) (hl.ownersCounted.next_free hbound') hfirst ho]
      exact ⟨_, _, rfl⟩

/-- One language, and two code objects of it: an ordinary module is assembled from the first,
which is listed twice, and a bootstrap module from the second. -/
def twoAssemblies : List Action :=
  [.use (.addRegistry none),
    .use (.register ⟨0⟩ (.resolved ⟨"t", 0, 0, [], .script "x" false⟩) false ["x"]),
    .use (.addCode "a" "x" .plain), .use (.addCode "b" "x" .plain),
    .create { registry := ⟨0⟩ } "main" none [⟨0⟩, ⟨0⟩],
    .create { registry := ⟨0⟩ } bootstrapName none [⟨1⟩]]

/-- The state after the two assemblies. -/
def afterTwoAssemblies : Host := (Host.empty.run twoAssemblies).2

/-- Both assemblies succeed.  The first object stays with the ordinary module, the second is free
again, and no bootstrap module can have the first. -/
theorem ownership_afterTwoAssemblies :
    (Host.empty.run (twoAssemblies ++
      [.create { registry := ⟨0⟩ } "other" none [⟨1⟩, ⟨0⟩]])).2.owner ⟨0⟩ = some (.ofCount 0) ∧
    afterTwoAssemblies.owner ⟨1⟩ = none ∧
    ∃ source owner,
      (afterTwoAssemblies.createModule { registry := ⟨0⟩ } bootstrapName none [⟨1⟩, ⟨0⟩]).1 =
        .error (.codeAlreadyBound source owner) := by
  have howned : afterTwoAssemblies.owner ⟨0⟩ = some (.ofCount 0) := by decide +kernel
  obtain ⟨-, -, hstays, hbootstrap, hfails⟩ := ownership (h := Host.empty) (fun _ => rfl)
    twoAssemblies [.create { registry := ⟨0⟩ } "other" none [⟨1⟩, ⟨0⟩]] (by decide +kernel)
  refine ⟨hstays _ _ howned, hbootstrap _ (by decide +kernel), hfails _ _ _ ⟨⟨0⟩, by decide, ?_⟩⟩
  exact fun hnone => Option.some_ne_none _ (howned.symm.trans hnone)

end Host

end Polyglot
