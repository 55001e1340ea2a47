import Polyglot.Proofs.Host.Growth
import Polyglot.Proofs.Tally.Meaning

/-!
# Polyglot.Proofs.Tally.Module

Modules of Tally programs.  `Runs h m ps` says that in the host `h` the module `m` consists of the
programs `ps`, and keeps the environment of its names in its scope.  Then executing `m` is what
`ps` mean (`Runs.execute`), and what happens elsewhere leaves the environment alone
(`Runs.of_grows`, `Runs.of_confined`).

A module that was just compiled from units consists of the programs of their texts, and none of
its names holds a value.  This is so whether its globals were linked, were not linked, or were to
be looked up in a new scope that was handed over (`runs_of_compileModule`).
-/

namespace Polyglot.Tally

open Polyglot.Host
open Store (Extends Confined)

/-! ## New homes -/

/-- A home that is new since an earlier store: no name holds a value, and no scope and no cell of
the earlier store has a part in it. -/
structure NewHome (old : Store) (g : Option Linkage) (sc : ScopeId) (st : Store) : Prop where
  home : Home g sc st
  empty : st.env sc = fun _ => none
  scope : old.scopes.size ≤ sc.index
  cells : ∀ n s, st.slotIn sc n = some s → old.slots.size ≤ s.index

namespace NewHome

variable {old st st' : Store} {g : Option Linkage} {sc : ScopeId}

theorem of_extends (hn : NewHome old g sc st) (hx : st.Extends st') : NewHome old g sc st' := by
  obtain ⟨hhome, henv⟩ := hn.home.of_extends hx
  refine ⟨hhome, henv.trans hn.empty, hn.scope, fun n s hs => ?_⟩
  rw [hx.slotIn hn.home.scope] at hs
  exact hn.cells n s hs

/-- A new scope without names is a home. -/
theorem newScope (hx : old.Extends st) : NewHome old none st.newScope.1 st.newScope.2 := by
  have hnone : ∀ n, st.newScope.2.slotIn st.newScope.1 n = none := fun n => by
    have hbindings := Store.bindings_newScopeOf st .empty ⟨st.scopes.size⟩
    rw [if_pos rfl] at hbindings
    exact congrArg (Dict.get? · n) hbindings
  refine ⟨⟨by simp [Store.newScope, Store.newScopeOf], fun n s hs => ?_, fun n n' s hs => ?_,
    fun x s hs => (by cases hs)⟩, funext fun n => ?_, hx.scopes, fun n s hs => ?_⟩
  · rw [hnone] at hs
    cases hs
  · rw [hnone] at hs
    cases hs
  · rw [Store.env, Store.readName, hnone]
    rfl
  · rw [hnone] at hs
    cases hs

/-- The scope of a new linkage of names of any type is a home. -/
theorem linkage {ds : List Declaration} (hx : old.Extends st) (hany : ∀ d ∈ ds, d.type = .any) :
    NewHome old (some (Linkage.link st ds).1)
      ((Linkage.link st ds).1.newScope (Linkage.link st ds).2).1
      ((Linkage.link st ds).1.newScope (Linkage.link st ds).2).2 := by
  obtain ⟨hlinked, hlink⟩ := Linkage.linked_link (P := fun _ t => t = .any) st hany
  have hscope := Store.extends_newScopeOf (Linkage.link st ds).2
    ((Linkage.link st ds).2.fileSlots .empty
      ((Linkage.link st ds).1.globals.map LinkedGlobal.slot))
  have hslotIn := Linkage.slotIn_newScope (Linkage.link st ds).1 hlinked
  have hfiled := hlinked.of_extends hscope
  refine ⟨⟨by simp [Linkage.newScope, Store.newScopeWith, Store.newScopeOf], fun n s hs => ?_,
    fun n n' s hs hs' => ?_, fun x s hs => (hslotIn x.name).trans hs⟩, funext fun n => ?_,
    Nat.le_trans hx.scopes hlink.scopes, fun n s hs => ?_⟩
  · rw [hslotIn] at hs
    obtain ⟨-, hlt, -, htype, -⟩ := hfiled.name_of_slot? hs
    exact ⟨hlt, htype⟩
  · rw [hslotIn] at hs hs'
    obtain ⟨-, -, hname, -⟩ := hfiled.name_of_slot? hs
    obtain ⟨-, -, hname', -⟩ := hfiled.name_of_slot? hs'
    rw [← hname, hname']
  · rw [Store.env, Store.readName, hslotIn]
    cases hs : (Linkage.link st ds).1.slot? n with
    | none => rfl
    | some s =>
        obtain ⟨-, -, -, -, hread⟩ := hfiled.name_of_slot? hs
        exact hread
  · rw [hslotIn] at hs
    exact Nat.le_trans hx.slots (hfiled.name_of_slot? hs).1

end NewHome

/-- The scope that assembly finds for a module is a new home. -/
theorem NewHome.moduleScope {old : Store} {h : Host} (o : Options) {scope : Option ScopeId}
    {ids : List CodeId} (hx : old.Extends h.store)
    (hscope : ∀ sc, scope = some sc → NewHome old none sc h.store)
    (hany : ∀ d ∈ h.declarationsOf ids, d.type = .any) :
    NewHome old (h.moduleScope o scope ids).1.2 (h.moduleScope o scope ids).1.1
      (h.moduleScope o scope ids).2.store := by
  simp only [Host.moduleScope]
  split
  · next sc => exact hscope sc rfl
  · split
    · have hnew := NewHome.linkage hx hany
      have hstore : (h.linkGlobals ids).2.store =
          (Linkage.link h.store (h.declarationsOf ids)).2 :=
        (keeps_linkAll _ ids _).2
      simp only [hstore]
      exact hnew
    · exact NewHome.newScope hx

/-! ## Modules -/

/-- A module of a host consists of these programs, and its scope keeps the environment. -/
structure Runs (h : Host) (m : Module) (ps : List (List Assignment)) : Prop where
  home : Home m.globals m.scope h.store
  exist : ∀ id ∈ m.code, id.index < h.codes.size
  code : m.code.map (fun id => (h.code id).compiled) = ps.map fun as => .tally as m.globals

/-- What the names of a module hold. -/
def envOf (h : Host) (m : Module) : Env := h.store.env m.scope

namespace Runs

variable {h h' : Host} {m : Module} {ps : List (List Assignment)}

/-- A module stays when the host grows. -/
theorem of_grows (hr : Runs h m ps) (hg : Grows h.codes.size h h') :
    Runs h' m ps ∧ envOf h' m = envOf h m := by
  obtain ⟨hhome, henv⟩ := hr.home.of_extends hg.store
  refine ⟨⟨hhome, fun id hid => Nat.lt_of_lt_of_le (hr.exist id hid) hg.codes, ?_⟩, henv⟩
  rw [← hr.code]
  exact List.map_congr_left fun id hid => hg.compiled id (hr.exist id hid)

/-- A module stays when something happens in another scope that shares no cell with its own. -/
theorem of_confined (hr : Runs h m ps) (hcodes : h'.codes = h.codes) {other : ScopeId}
    (hc : Confined other h.store h'.store) (hne : m.scope ≠ other)
    (hapart : ∀ n n' s, h.store.slotIn m.scope n = some s → h.store.slotIn other n' ≠ some s) :
    Runs h' m ps ∧ envOf h' m = envOf h m := by
  obtain ⟨hhome, henv⟩ := hr.home.of_confined hc hne hapart
  refine ⟨⟨hhome, fun id hid => ?_, ?_⟩, henv⟩
  · rw [hcodes]
    exact hr.exist id hid
  · rw [← hr.code]
    exact List.map_congr_left fun id _ => by rw [Host.code, hcodes, Host.code]

end Runs

/-! ## Executing -/

/-- Induction on the code. -/
theorem runCodes_eq_programMeaning {g : Option Linkage} {sc : ScopeId} {c : Context}
    (hc : c.scopes = [sc]) (ids : List CodeId) {ps : List (List Assignment)} (last : Value)
    {h : Host} (hhome : Home g sc h.store)
    (hcode : ids.map (fun id => (h.code id).compiled) = ps.map fun as => .tally as g) :
    (runCodes c ids last h).1 = (programMeaning ps last (h.store.env sc)).1 ∧
      (runCodes c ids last h).2.store.env sc = (programMeaning ps last (h.store.env sc)).2 ∧
      Home g sc (runCodes c ids last h).2.store ∧
      Confined sc h.store (runCodes c ids last h).2.store ∧
      (runCodes c ids last h).2.codes = h.codes := by
  induction ids generalizing ps last h with
  | nil =>
      obtain rfl : ps = [] := List.map_eq_nil_iff.1 hcode.symm
      exact ⟨rfl, rfl, hhome, .refl sc _, rfl⟩
  | cons id ids ih =>
      cases ps with
      | nil => cases hcode
      | cons as ps =>
          obtain ⟨hfirst, hrest⟩ : (h.code id).compiled = .tally as g ∧ _ :=
            List.cons.inj hcode
          obtain ⟨hres, henv, hhome', hconf⟩ := hhome.run hc as .nil
          have hrun : h.runCode id c = ((Tally.run g c as .nil h.store).1,
              h.setStore (Tally.run g c as .nil h.store).2) := by
            rw [runCode, hfirst]
          rw [runCodes, hrun, programMeaning]
          cases hm : meaning as .nil (h.store.env sc) with
          | mk result env =>
              rw [hm] at hres henv
              cases result with
              | error e =>
                  rw [hres]
                  exact ⟨rfl, henv, hhome', hconf, rfl⟩
              | ok v =>
                  rw [hres]
                  obtain ⟨hres', henv', hhome'', hconf', hcodes⟩ := ih v
                    (h := h.setStore (Tally.run g c as .nil h.store).2) hhome' hrest
                  rw [show (h.setStore (Tally.run g c as .nil h.store).2).store.env sc = env
                    from henv] at hres' henv'
                  exact ⟨hres', henv', hhome'', hconf.trans hconf', hcodes⟩

/-- **Executing a Tally module is what its programs mean.** -/
theorem Runs.execute {h : Host} {m : Module} {ps : List (List Assignment)} (hr : Runs h m ps) :
    (h.execute m).1 = (programMeaning ps .nil (envOf h m)).1 ∧
      envOf (h.execute m).2 m = (programMeaning ps .nil (envOf h m)).2 ∧
      Runs (h.execute m).2 m ps ∧ Confined m.scope h.store (h.execute m).2.store ∧
      (h.execute m).2.codes = h.codes := by
  obtain ⟨hhome, henv⟩ := hr.home.of_extends (Store.extends_moduleContext h.store m.id m.scope)
  have hscopes : (h.store.moduleContext m.id m.scope).1.scopes = [m.scope] := rfl
  obtain ⟨hres, henv', hhome', hconf, hcodes⟩ := runCodes_eq_programMeaning hscopes m.code .nil
    (h := h.setStore (h.store.moduleContext m.id m.scope).2) hhome hr.code
  rw [show (h.setStore (h.store.moduleContext m.id m.scope).2).store.env m.scope = envOf h m
    from henv] at hres henv'
  have hcontext : Confined m.scope h.store (h.store.moduleContext m.id m.scope).2 :=
    .of_eq m.scope rfl rfl
  refine ⟨hres, henv', ⟨hhome', fun id hid => ?_, ?_⟩, hcontext.trans hconf, hcodes⟩
  · exact Nat.lt_of_lt_of_eq (hr.exist id hid) (congrArg Heap.size hcodes.symm)
  · rw [← hr.code]
    exact List.map_congr_left fun id _ => congrArg (fun codes : Heap Code =>
      ((codes.get? id.index).getD default).compiled) hcodes

/-! ## Compiling -/

/-- Whether code is a Tally program. -/
def isTally : Compiled → Bool
  | .tally _ _ => true
  | _ => false

theorem givenLinkage_tally (g : Option Linkage) (as : List Assignment) :
    givenLinkage g (.tally as none) = .tally as g := by
  cases g <;> rfl

/-- Unlinked code of a unit that turns out to be a Tally program. -/
theorem eq_tally_of_madeFrom {u : SourceUnit} {c : Code} {g : Option Linkage}
    (hm : MadeFrom u c) (ht : isTally (givenLinkage g c.compiled) = true) :
    c.compiled = .tally (programOf u.text) none := by
  cases hc : c.compiled with
  | plain =>
      rw [hc] at ht
      cases g <;> cases ht
  | script p l =>
      rw [hc] at ht
      cases g <;> cases ht
  | tally as l =>
      obtain ⟨rfl, sink, hread⟩ := hm.program as l hc
      rw [eq_programOf_of_read hread]

section Compiling

variable {old : Store} {h h' : Host} {c : Compiler} {name : String} {scope : Option ScopeId}
  {m : Module}

/-- Programs declare names of any type. -/
theorem declarations_any {ids : List CodeId}
    (htally : ∀ id ∈ ids, ∃ as g, (h.code id).compiled = .tally as g) :
    ∀ d ∈ h.declarationsOf ids, d.type = .any := by
  intro d hd
  obtain ⟨id, hid, hd⟩ := List.mem_flatMap.1 hd
  obtain ⟨as, g, hcode⟩ := htally id hid
  rw [hcode] at hd
  obtain ⟨a, -, rfl⟩ := List.mem_map.1 hd
  rfl

/-- The code from which a module of Tally programs was assembled. -/
theorem eq_tally_of_makes {mid : Host} {o : Options} {ids : List CodeId} {n : Nat} {id : CodeId}
    {u : SourceUnit} (hmakes : Makes h mid h' o scope ids m)
    (ht : ∀ id ∈ m.code, isTally (h'.code id).compiled = true) (hid : id ∈ ids)
    (hu : MadeFor n h id u) : (h.code id).compiled = .tally (programOf u.text) none :=
  eq_tally_of_madeFrom hu.made (hmakes.compiled hid ▸ ht id (hmakes.code ▸ hid))

/-- A module assembled from Tally programs that are not linked yet. -/
theorem runs_of_createModule {us : List SourceUnit} {ids : List CodeId} {n : Nat}
    (hx : old.Extends h.store) (hscope : ∀ sc, scope = some sc → NewHome old none sc h.store)
    (hmade : List.Forall₂ (MadeFor n h) ids us)
    (hm : h.createModule c name scope ids = (.ok m, h'))
    (ht : ∀ id ∈ m.code, isTally (h'.code id).compiled = true) :
    Runs h' m (us.map fun u => programOf u.text) ∧ NewHome old m.globals m.scope h'.store ∧
      ∀ sc, scope = some sc → m.scope = sc := by
  obtain ⟨mid, hmakes⟩ := exists_makes hm
  have hany : ∀ d ∈ mid.declarationsOf ids, d.type = .any := declarations_any fun id hid => by
    obtain ⟨u, hu⟩ := exists_unit hmade hid
    exact ⟨_, _, (hmakes.compiled_before id).trans (eq_tally_of_makes hmakes ht hid hu)⟩
  have hnew := (NewHome.moduleScope c.options (hx.trans (hmakes.before 0).store)
    (fun sc hsc => (hscope sc hsc).of_extends (hmakes.before 0).store) hany).of_extends
      (hmakes.after 0).store
  rw [← hmakes.globals, ← hmakes.place] at hnew
  refine ⟨⟨hnew.home, fun id hid => ?_, ?_⟩, hnew, fun sc hsc => ?_⟩
  · obtain ⟨u, hu⟩ := exists_unit hmade (hmakes.code ▸ hid)
    exact Nat.lt_of_lt_of_le hu.inRange hmakes.codes
  · have hmembers := (List.forall₂_and_left ids us).2 ⟨fun id hid => hid, hmade⟩
    rw [hmakes.code, List.map_map, ← List.forall₂_eq_eq_eq, List.forall₂_map_left_iff,
      List.forall₂_map_right_iff]
    exact hmembers.imp fun id u hboth => by
      rw [hmakes.compiled hboth.1, eq_tally_of_makes hmakes ht hboth.1 hboth.2,
        givenLinkage_tally, Function.comp_apply]
  · subst hsc
    exact hmakes.place

/-- **A module compiled from Tally units** consists of the programs of their texts, and no name
has a value in it. -/
theorem runs_of_compileModule {units : List SourceUnit} {sink sink' : Sink}
    (hx : old.Extends h.store) (hscope : ∀ sc, scope = some sc → NewHome old none sc h.store)
    (hm : h.compileModule c name scope units sink = (.ok m, h', sink'))
    (ht : ∀ id ∈ m.code, isTally (h'.code id).compiled = true) :
    Runs h' m (units.map fun u => programOf u.text) ∧ NewHome old m.globals m.scope h'.store ∧
      ∀ sc, scope = some sc → m.scope = sc := by
  obtain ⟨ids, h₁, hadds, hmade, hcreate⟩ := exists_createModule_of_compileModule hm
  exact runs_of_createModule (hx.trans hadds.grows.store)
    (fun sc hsc => (hscope sc hsc).of_extends hadds.grows.store) hmade hcreate ht

end Compiling

end Polyglot.Tally
