import Polyglot.Proofs.Host.Journal
import Polyglot.Proofs.Language.Listing

/-!
# Polyglot.Proofs.Host.Commuting

Registrations without override, one after the other.  All of them are accepted exactly when they
are compatible with the registry and with one another (`exists_outcomes_iff`), which does not
depend on their order.  Neither does what an accepted run leaves: a spelling stands for what it
stood for or for the type that was registered under it, and the implementations are those that
were there and those that came (`Leaves`).  They are entered in another order, but no query by
identifier tells, and no listing (`answersAlike_of_perm`).
-/

namespace Polyglot

open Polyglot.Language

/-- Whether two registries give the same answers about identifiers. -/
structure Language.Registry.AnswersAlike (reg reg' : Registry) : Prop where
  typeNameOf? : ∀ x, reg.typeNameOf? x = reg'.typeNameOf? x
  isRegistered : ∀ x, reg.isRegistered x = reg'.isRegistered x
  listIdentifiers : ∀ type extensions,
    reg.listIdentifiers type extensions = reg'.listIdentifiers type extensions
  implementationCount : reg.implementationCount = reg'.implementationCount

theorem Language.Registry.answersAlike_of_get? {reg reg' : Registry}
    (hids : ∀ k, reg.identifiers.get? k = reg'.identifiers.get? k)
    (htypes : ∀ t, t ∈ reg.implementations.keys ↔ t ∈ reg'.implementations.keys) :
    reg.AnswersAlike reg' := by
  have hnames : ∀ x, reg.typeNameOf? x = reg'.typeNameOf? x := by
    intro x
    rw [Registry.typeNameOf?, Registry.find, funext hids, ← Registry.find, ← Registry.typeNameOf?]
  exact ⟨hnames, fun x => by rw [Registry.isRegistered, hnames, ← Registry.isRegistered],
    Registry.listIdentifiers_congr hids, Dict.size_eq_of_mem_keys htypes⟩

namespace Registration

/-- What comes of registrations one after the other, up to the first that is refused. -/
def outcomes : List Registration → Registry → Except RegistryError Registry
  | [], reg => .ok reg
  | c :: cs, reg => c.outcome reg >>= outcomes cs

/-- Whether a registration without override has no reason to be refused: all its identifiers say
something, and none stands for another type. -/
def Admissible (reg : Registry) (c : Registration) : Prop :=
  ∀ id ∈ c.ids, Usable id ∧ ∀ t, ¬ TakenBy reg.identifiers.get? c.locator.typeName id t

/-- Whether registrations without override have no reason to be refused in any order. -/
structure Compatible (reg : Registry) (cs : List Registration) : Prop where
  admissible : ∀ c ∈ cs, c.Admissible reg
  /-- What is registered under one spelling is of one type. -/
  agree : ∀ c ∈ cs, ∀ c' ∈ cs, ∀ id ∈ c.ids, ∀ id' ∈ c'.ids, spelling id = spelling id' →
    c.locator.typeName = c'.locator.typeName

/-- Whether a registry is what registrations left of another one. -/
structure Leaves (cs : List Registration) (reg reg' : Registry) : Prop where
  identifiers : ∀ k t, reg'.identifiers.get? k = some t ↔
    reg.identifiers.get? k = some t ∨ ∃ c ∈ cs, k ∈ c.ids.map spelling ∧ c.locator.typeName = t
  types : ∀ t, t ∈ reg'.implementations.keys ↔
    t ∈ reg.implementations.keys ∨ ∃ c ∈ cs, c.locator.typeName = t

variable {reg reg' : Registry} {c : Registration} {cs cs' : List Registration}

/-! ## One registration -/

theorem outcome_eq_ok_iff (hc : c.override = false) :
    c.outcome reg = .ok reg' ↔ c.Admissible reg ∧ reg.registered c.locator c.ids = reg' := by
  rw [outcome, Registry.register_eq_ok_iff]
  constructor
  · rintro ⟨husable, hfree, heq⟩
    exact ⟨fun id hid => ⟨husable id hid, hfree hc id hid⟩, heq⟩
  · rintro ⟨hadmissible, heq⟩
    exact ⟨fun id hid => (hadmissible id hid).1, fun _ id hid => (hadmissible id hid).2, heq⟩

theorem Admissible.leaves (ha : c.Admissible reg) :
    Leaves [c] reg (reg.registered c.locator c.ids) where
  identifiers k t := by
    have hfree : k ∈ c.ids.map spelling → reg.identifiers.get? k = some t →
        c.locator.typeName = t := by
      rintro hk hget
      obtain ⟨id, hid, rfl⟩ := List.mem_map.1 hk
      exact Decidable.byContradiction fun hne => (ha id hid).2 t ⟨hget, fun h => hne h.symm⟩
    rw [Registry.get?_identifiers_registered]
    simp only [List.mem_singleton, exists_eq_left]
    by_cases hk : k ∈ c.ids.map spelling
    · rw [if_pos hk, Option.some_inj]
      exact ⟨fun h => .inr ⟨hk, h⟩, fun h => h.elim (hfree hk) And.right⟩
    · rw [if_neg hk]
      exact ⟨.inl, fun h => h.resolve_right fun hthere => hk hthere.1⟩
  types t := by
    rw [Registry.keys_implementations_registered]
    simp only [List.mem_singleton, exists_eq_left]
    split
    · next hmem =>
        refine ⟨.inl, fun h => ?_⟩
        rcases h with hthere | rfl
        · exact hthere
        · exact hmem
    · simp [eq_comm]

/-! ## One after the other -/

/-- After another registration one is admissible when it was before, and when the two have no
spelling in common or one type. -/
theorem Leaves.admissible_iff {c' : Registration} (hl : Leaves [c] reg reg') :
    c'.Admissible reg' ↔ c'.Admissible reg ∧ ∀ id ∈ c'.ids, ∀ id' ∈ c.ids,
      spelling id' = spelling id → c.locator.typeName = c'.locator.typeName := by
  have hget : ∀ k t, reg'.identifiers.get? k = some t ↔ reg.identifiers.get? k = some t ∨
      k ∈ c.ids.map spelling ∧ c.locator.typeName = t := by
    simpa using hl.identifiers
  constructor
  · refine fun ha => ⟨fun id hid => ⟨(ha id hid).1, fun t ht => ?_⟩,
      fun id hid id' hid' hsame => ?_⟩
    · exact (ha id hid).2 t ⟨(hget _ _).2 (.inl ht.1), ht.2⟩
    · refine Decidable.byContradiction fun hne => (ha id hid).2 c.locator.typeName ⟨?_, hne⟩
      exact (hget _ _).2 (.inr ⟨List.mem_map.2 ⟨id', hid', hsame⟩, rfl⟩)
  · rintro ⟨ha, hagree⟩ id hid
    refine ⟨(ha id hid).1, fun t ht => ?_⟩
    rcases (hget _ _).1 ht.1 with hbefore | ⟨hmem, rfl⟩
    · exact (ha id hid).2 t ⟨hbefore, ht.2⟩
    · obtain ⟨id', hid', hsame⟩ := List.mem_map.1 hmem
      exact ht.2 (hagree id hid id' hid' hsame)

/-- A registration and others are compatible when it is admissible and the others are compatible
with what it leaves. -/
theorem Leaves.compatible_cons_iff (hl : Leaves [c] reg reg') (ha : c.Admissible reg) :
    Compatible reg (c :: cs) ↔ Compatible reg' cs := by
  constructor
  · intro hcs
    refine ⟨fun c' hc' => hl.admissible_iff.2 ⟨hcs.admissible c' (List.mem_cons_of_mem c hc'), ?_⟩,
      fun c' hc' c'' hc'' => hcs.agree c' (List.mem_cons_of_mem c hc') c''
        (List.mem_cons_of_mem c hc'')⟩
    intro id hid id' hid' hsame
    exact hcs.agree c List.mem_cons_self c' (List.mem_cons_of_mem c hc') id' hid' id hid hsame
  · intro hcs
    have hrest := fun c' hc' => hl.admissible_iff.1 (hcs.admissible c' hc')
    constructor
    · intro c' hc'
      rcases List.mem_cons.1 hc' with rfl | hc'
      · exact ha
      · exact (hrest c' hc').1
    · intro c₁ h₁ c₂ h₂ id₁ hid₁ id₂ hid₂ hsame
      rcases List.mem_cons.1 h₁ with heq₁ | hmem₁ <;> rcases List.mem_cons.1 h₂ with heq₂ | hmem₂
      · rw [heq₁, heq₂]
      · subst heq₁
        exact (hrest c₂ hmem₂).2 id₂ hid₂ id₁ hid₁ hsame
      · subst heq₂
        exact ((hrest c₁ hmem₁).2 id₁ hid₁ id₂ hid₂ hsame.symm).symm
      · exact hcs.agree c₁ hmem₁ c₂ hmem₂ id₁ hid₁ id₂ hid₂ hsame

theorem Leaves.cons {mid : Registry} (hfirst : Leaves [c] reg mid) (hrest : Leaves cs mid reg') :
    Leaves (c :: cs) reg reg' where
  identifiers k t := by
    rw [hrest.identifiers, hfirst.identifiers]
    simp [or_assoc]
  types t := by
    rw [hrest.types, hfirst.types]
    simp [or_assoc]

/-! ## One after the other -/

theorem exists_of_outcomes_cons (hok : outcomes (c :: cs) reg = .ok reg') :
    ∃ mid, c.outcome reg = .ok mid ∧ outcomes cs mid = .ok reg' := by
  rw [outcomes] at hok
  cases hc : c.outcome reg with
  | error e =>
      rw [hc] at hok
      cases hok
  | ok mid =>
      rw [hc] at hok
      exact ⟨mid, rfl, hok⟩

/-- Registrations that are compatible are accepted.  Induction on them. -/
theorem outcomes_of_compatible (hplain : ∀ c ∈ cs, c.override = false) (hcs : Compatible reg cs) :
    ∃ reg', outcomes cs reg = .ok reg' := by
  induction cs generalizing reg with
  | nil => exact ⟨reg, rfl⟩
  | cons c cs ih =>
      have ha := hcs.admissible c List.mem_cons_self
      have hok := (outcome_eq_ok_iff (hplain c List.mem_cons_self)).2 ⟨ha, rfl⟩
      obtain ⟨reg', hrest⟩ := ih (fun c' hc' => hplain c' (List.mem_cons_of_mem c hc'))
        ((ha.leaves.compatible_cons_iff ha).1 hcs)
      exact ⟨reg', by rw [outcomes, hok]; exact hrest⟩

/-- Registrations that are accepted are compatible, and leave what they say.  Induction on
them. -/
theorem of_outcomes_eq_ok (hplain : ∀ c ∈ cs, c.override = false)
    (hok : outcomes cs reg = .ok reg') : Compatible reg cs ∧ Leaves cs reg reg' := by
  induction cs generalizing reg with
  | nil =>
      obtain rfl : reg = reg' := Except.ok.inj hok
      exact ⟨⟨by simp, by simp⟩, ⟨by simp, by simp⟩⟩
  | cons c cs ih =>
      obtain ⟨mid, hc, hcs⟩ := exists_of_outcomes_cons hok
      obtain ⟨ha, rfl⟩ := (outcome_eq_ok_iff (hplain c List.mem_cons_self)).1 hc
      have hrest : ∀ c' ∈ cs, c'.override = false := fun c' hc' =>
        hplain c' (List.mem_cons_of_mem c hc')
      obtain ⟨hcompatible, hleaves⟩ := ih hrest hcs
      exact ⟨(ha.leaves.compatible_cons_iff ha).2 hcompatible, ha.leaves.cons hleaves⟩

theorem exists_outcomes_iff (hplain : ∀ c ∈ cs, c.override = false) :
    (∃ reg', outcomes cs reg = .ok reg') ↔ Compatible reg cs :=
  ⟨fun ⟨_, hok⟩ => (of_outcomes_eq_ok hplain hok).1, outcomes_of_compatible hplain⟩

/-! ## Another order -/

theorem Compatible.of_perm (hcs : Compatible reg cs) (hperm : cs.Perm cs') :
    Compatible reg cs' where
  admissible c hc := hcs.admissible c (hperm.mem_iff.2 hc)
  agree c hc c' hc' := hcs.agree c (hperm.mem_iff.2 hc) c' (hperm.mem_iff.2 hc')

theorem exists_outcomes_iff_of_perm (hplain : ∀ c ∈ cs, c.override = false) (hperm : cs.Perm cs') :
    (∃ reg', outcomes cs reg = .ok reg') ↔ ∃ reg', outcomes cs' reg = .ok reg' := by
  rw [exists_outcomes_iff hplain,
    exists_outcomes_iff fun c hc => hplain c (hperm.mem_iff.2 hc)]
  exact ⟨fun h => h.of_perm hperm, fun h => h.of_perm hperm.symm⟩

/-- **Order.**  Accepted registrations without override leave registries that give the same
answers, whatever their order. -/
theorem answersAlike_of_perm {left left' : Registry} (hplain : ∀ c ∈ cs, c.override = false)
    (hperm : cs.Perm cs') (hleft : outcomes cs reg = .ok left)
    (hleft' : outcomes cs' reg = .ok left') : left.AnswersAlike left' := by
  obtain ⟨-, hl⟩ := of_outcomes_eq_ok hplain hleft
  obtain ⟨-, hl'⟩ := of_outcomes_eq_ok (fun c hc => hplain c (hperm.mem_iff.2 hc)) hleft'
  refine Registry.answersAlike_of_get? (fun k => Option.ext fun t => ?_) fun t => ?_
  · rw [hl.identifiers, hl'.identifiers]
    simp only [hperm.mem_iff]
  · rw [hl.types, hl'.types]
    simp only [hperm.mem_iff]

end Registration

end Polyglot
