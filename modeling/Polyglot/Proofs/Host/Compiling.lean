import Mathlib.Data.List.Forall2
import Polyglot.Proofs.Host.Claim
import Polyglot.Proofs.Host.Loading

/-!
# Polyglot.Proofs.Host.Compiling

What compiling source units does to a host.  `Adds h h'` says that code objects which nobody owns
were added after those of `h`, and that nothing happened to slots and scopes.  Compiling units is
such a step, whether it fails or not, and when it succeeds each unit has a code object among the
new ones (`compileUnits_adds`).
-/

namespace Polyglot.Host

open Polyglot.Language

variable {h h' h'' : Host}

/-! ## The code of a unit -/

/-- Whether code is what a unit is compiled to.  Nobody owns it, and if it is a Tally program it
was read from the text of the unit and is not linked. -/
structure MadeFrom (u : SourceUnit) (c : Code) : Prop where
  owner : c.owner = none
  program : ∀ as g, c.compiled = .tally as g → g = none ∧ ∃ sink, (Tally.read u sink).1 = .ok as

theorem madeFrom_of_compileScript {name : String} {u : SourceUnit} {p : Script.Program}
    {sink : Sink} {c : Code} (hc : (compileScript name u p sink).1 = .ok c) : MadeFrom u c := by
  simp only [compileScript] at hc
  split at hc
  · cases hc
  · split at hc
    · cases hc
    · cases hc
      exact ⟨rfl, fun _ _ heq => by cases heq⟩

theorem madeFrom_of_compileTally {u : SourceUnit} {sink : Sink} {c : Code}
    (hc : (compileTally u sink).1 = .ok c) : MadeFrom u c := by
  simp only [compileTally] at hc
  split at hc
  · cases hc
  · next as sink' hread =>
      cases hc
      refine ⟨rfl, fun as' g heq => ?_⟩
      cases heq
      exact ⟨rfl, sink, by rw [hread]⟩

theorem madeFrom_of_compileWithProvider {p : ProviderId} {u : SourceUnit} {o : Options}
    {sink : Sink} {c : Code} (hc : (h.compileWithProvider p u o sink).1 = .ok c) :
    MadeFrom u c := by
  simp only [compileWithProvider] at hc
  split at hc
  · exact madeFrom_of_compileScript hc
  · exact madeFrom_of_compileTally hc

/-! ## Adding code -/

/-- Code objects that nobody owns were added after those that were there. -/
structure Adds (h h' : Host) : Prop where
  code : ∀ id, id.index < h.codes.size → h'.code id = h.code id
  free : ∀ id, h.codes.size ≤ id.index → h'.owner id = none
  size : h.codes.size ≤ h'.codes.size
  machine : h'.machine = h.machine

namespace Adds

theorem of_codes_eq (hcodes : h'.codes = h.codes) (hmachine : h'.machine = h.machine) :
    Adds h h' where
  code id _ := by rw [Host.code, hcodes, Host.code]
  free id hid := owner_of_ge h' (by rwa [hcodes])
  size := Nat.le_of_eq (by rw [hcodes])
  machine := hmachine

theorem refl (h : Host) : Adds h h := of_codes_eq rfl rfl

theorem trans (ha : Adds h h') (ha' : Adds h' h'') : Adds h h'' where
  code id hid := (ha'.code id (Nat.lt_of_lt_of_le hid ha.size)).trans (ha.code id hid)
  free id hid := by
    rcases Nat.lt_or_ge id.index h'.codes.size with hlt | hge
    · rw [Host.owner, ha'.code id hlt, ← Host.owner]
      exact ha.free id hid
    · exact ha'.free id hge
  size := Nat.le_trans ha.size ha'.size
  machine := ha'.machine.trans ha.machine

/-- No owner changes. -/
theorem owner (ha : Adds h h') (id : CodeId) : h'.owner id = h.owner id := by
  rcases Nat.lt_or_ge id.index h.codes.size with hlt | hge
  · rw [Host.owner, ha.code id hlt, Host.owner]
  · rw [ha.free id hge, owner_of_ge h hge]

theorem store (ha : Adds h h') : h'.store = h.store := by
  rw [Host.store, ha.machine, Host.store]

end Adds

theorem OnlyLoads.adds (hl : OnlyLoads h h') : Adds h h' := .of_codes_eq hl.codes hl.machine

theorem adds_addCode (h : Host) {c : Code} (hc : c.owner = none) : Adds h (h.addCode c).2 where
  code id hid := by rw [code_addCode, if_neg (Nat.ne_of_lt hid)]
  free id hid := by
    rw [owner, code_addCode]
    split
    · exact hc
    · rw [← owner, owner_of_ge h hid]
  size := by simp [addCode]
  machine := rfl

/-! ## Compiling units -/

/-- Whether a code object is one of a unit, added after the first `n`. -/
structure MadeFor (n : Nat) (h : Host) (id : CodeId) (u : SourceUnit) : Prop where
  later : n ≤ id.index
  inRange : id.index < h.codes.size
  made : MadeFrom u (h.code id)

theorem MadeFor.of_adds {n : Nat} {id : CodeId} {u : SourceUnit} (hm : MadeFor n h id u)
    (ha : Adds h h') : MadeFor n h' id u :=
  ⟨hm.later, Nat.lt_of_lt_of_le hm.inRange ha.size, ha.code id hm.inRange ▸ hm.made⟩

theorem MadeFor.mono {n m : Nat} {id : CodeId} {u : SourceUnit} (hm : MadeFor n h id u)
    (hle : m ≤ n) : MadeFor m h id u :=
  ⟨Nat.le_trans hle hm.later, hm.inRange, hm.made⟩

theorem compileUnit_adds (h : Host) (c : Compiler) (u : SourceUnit) (sink : Sink) :
    Adds h (h.compileUnit c u sink).2.1 ∧
      ∀ id, (h.compileUnit c u sink).1 = .ok id →
        MadeFor h.codes.size (h.compileUnit c u sink).2.1 id u := by
  have hfound := onlyLoads_providerFor h c.registry u
  simp only [compileUnit]
  split
  · next e h₁ hp => exact ⟨(hfound.ends hp).adds, fun _ hid => by cases hid⟩
  · next p h₁ hp =>
      obtain ⟨hcodes, hmachine⟩ := compileWithProvider_keeps h₁ p u c.options sink
      have hcompiled := (hfound.ends hp).adds.trans (.of_codes_eq hcodes hmachine)
      split
      · next e h₂ sink' hc =>
          rw [hc] at hcompiled
          exact ⟨hcompiled, fun _ hid => by cases hid⟩
      · next code h₂ sink' hc =>
          rw [hc] at hcompiled
          have hmade : MadeFrom u code :=
            madeFrom_of_compileWithProvider (h := h₁) (by rw [hc])
          refine ⟨hcompiled.trans (adds_addCode h₂ (by exact hmade.owner)), fun id hid => ?_⟩
          cases hid
          refine ⟨hcompiled.size, by simp [addCode], ?_⟩
          rw [code_addCode_self]
          exact ⟨hmade.owner, hmade.program⟩

/-- Induction on the units. -/
theorem compileUnits_adds (c : Compiler) (us : List SourceUnit) (h : Host) (sink : Sink) :
    Adds h (compileUnits c us h sink).2.1 ∧
      ∀ ids, (compileUnits c us h sink).1 = .ok ids →
        List.Forall₂ (MadeFor h.codes.size (compileUnits c us h sink).2.1) ids us := by
  induction us generalizing h sink with
  | nil =>
      refine ⟨.refl h, fun ids hids => ?_⟩
      cases hids
      exact .nil
  | cons u us ih =>
      have hfirst := compileUnit_adds h c u sink
      simp only [compileUnits]
      split
      · next e h₁ sink₁ hu =>
          rw [hu] at hfirst
          exact ⟨hfirst.1, fun _ hids => by cases hids⟩
      · next first h₁ sink₁ hu =>
          rw [hu] at hfirst
          have hrest := ih h₁ sink₁
          split
          · next e h₂ sink₂ hus =>
              rw [hus] at hrest
              exact ⟨hfirst.1.trans hrest.1, fun _ hids => by cases hids⟩
          · next more h₂ sink₂ hus =>
              rw [hus] at hrest
              refine ⟨hfirst.1.trans hrest.1, fun ids hids => ?_⟩
              cases hids
              exact .cons ((hfirst.2 first rfl).of_adds hrest.1)
                ((hrest.2 more rfl).imp fun id u hm => hm.mono hfirst.1.size)

theorem exists_unit {n : Nat} {ids : List CodeId} {us : List SourceUnit}
    (hm : List.Forall₂ (MadeFor n h) ids us) {id : CodeId} (hid : id ∈ ids) :
    ∃ u, MadeFor n h id u := by
  induction hm with
  | nil => cases hid
  | cons hfirst _ ih =>
      rcases List.mem_cons.1 hid with rfl | hid
      · exact ⟨_, hfirst⟩
      · exact ih hid

end Polyglot.Host
