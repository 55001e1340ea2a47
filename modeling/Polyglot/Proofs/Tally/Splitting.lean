import Polyglot.Proofs.Guest.Globals
import Polyglot.Proofs.Host.Verdict
import Polyglot.Proofs.Tally.Linking
import Polyglot.Proofs.Text.Lines

/-!
# Polyglot.Proofs.Tally.Splitting

Splitting a Tally program into units does not change what it does.

```
units   t₁, t₂, …, tₙ               globals of all declarations, units run one after the other
one     t₁ "\n" t₂ "\n" … "\n" tₙ   globals of the same declarations, one unit runs
```

Both have the same statements in the same order (`programOf_of_joined`), so their globals have the
same names (`Bench.namesOf_run`).  Running programs one after the other is running them as one, up
to the first assignment that fails (`programMeaning_flatten`).  They differ in one thing: every
unit begins with no value of its own, so that what they return can differ when the last unit has
no statement.
-/

namespace Polyglot.Tally

open Polyglot.Host

/-! ## Joined texts -/

/-- Whether reading a unit tells a sink of nothing. -/
def Silent (u : SourceUnit) : Prop := ∀ sink : Sink, (read u sink).2 = sink

/-- What a line says that is not empty, without blanks around it. -/
def statement? (line : List Char) : Option Assignment :=
  if isSkipped line then none else readLine? line

theorem filterMap_assignment? (lines : List (List Char)) :
    (lines.map String.ofList).filterMap assignment? =
      ((lines.map Text.trimChars).filter fun line => !line.isEmpty).filterMap statement? := by
  induction lines with
  | nil => rfl
  | cons line rest ih =>
      rw [List.map_cons, List.map_cons, List.filterMap_cons, List.filter_cons, ih, assignment?,
        String.toList_ofList]
      cases Text.trimChars line with
      | nil => rfl
      | cons c cs => rfl

/-- A program is what the lines of its text say. -/
theorem programOf_eq (text : String) :
    programOf text = (Text.contents text).filterMap statement? :=
  filterMap_assignment? _

theorem unreadableLines_eq_nil_iff {unit : String} {index : Nat} {lines : List (List Char)} :
    unreadableLines unit index (lines.map String.ofList) = [] ↔
      ∀ line ∈ (lines.map Text.trimChars).filter fun line => !line.isEmpty,
        isSkipped line = true ∨ (readLine? line).isSome = true := by
  induction lines generalizing index with
  | nil => simp [unreadableLines]
  | cons line rest ih =>
      rw [List.map_cons, List.map_cons, unreadableLines, String.toList_ofList, List.filter_cons]
      cases hline : Text.trimChars line with
      | nil => simpa [isSkipped] using ih
      | cons c cs =>
          simp only [List.isEmpty_cons, Bool.not_false, if_true, List.forall_mem_cons]
          split
          · next hread => simpa [hread] using ih
          · next hread => simp [hread]

theorem silent_iff_unreadableLines {u : SourceUnit} :
    Silent u ↔ unreadableLines u.id 0 (Text.lines u.text) = [] := by
  constructor
  · intro hsilent
    have hseen := congrArg Sink.seen (hsilent .accepting)
    rwa [read, readLines_eq, Sink.tell, Sink.reportAll_of_accepted fun _ _ _ => rfl] at hseen
  · intro hnone sink
    rw [read, readLines_eq, hnone]
    rfl

/-- Nothing is reported about a unit when its lines can be read. -/
theorem silent_iff {u : SourceUnit} : Silent u ↔
    ∀ line ∈ Text.contents u.text, isSkipped line = true ∨ (readLine? line).isSome = true :=
  silent_iff_unreadableLines.trans unreadableLines_eq_nil_iff

variable {us : List SourceUnit} {u : SourceUnit}

theorem contents_of_joined (hjoin : u.text = "\n".intercalate (us.map SourceUnit.text)) :
    Text.contents u.text = us.flatMap fun v => Text.contents v.text := by
  rw [hjoin, Text.contents_intercalate, List.flatMap_map]

/-- A joined text has the statements of its parts. -/
theorem programOf_of_joined (hjoin : u.text = "\n".intercalate (us.map SourceUnit.text)) :
    programOf u.text = (us.map fun v => programOf v.text).flatten := by
  rw [programOf_eq, contents_of_joined hjoin, List.filterMap_flatMap, List.flatMap_def]
  exact congrArg List.flatten (List.map_congr_left fun v _ => (programOf_eq v.text).symm)

/-- Nothing is reported about a joined text if nothing is about its parts. -/
theorem silent_of_joined (hjoin : u.text = "\n".intercalate (us.map SourceUnit.text)) :
    Silent u ↔ ∀ v ∈ us, Silent v := by
  simp only [silent_iff, contents_of_joined hjoin, List.mem_flatMap, forall_exists_index, and_imp]
  exact ⟨fun h v hv line hline => h line v hv hline, fun h line v hv hline => h v hv line hline⟩

/-! ## Programs one after the other -/

variable {as bs : List Assignment} {ps : List (List Assignment)} {env : Env}

theorem meaning_append (as bs : List Assignment) (last : Value) (env : Env) :
    meaning (as ++ bs) last env =
      match meaning as last env with
      | (.error e, env) => (.error e, env)
      | (.ok v, env) => meaning bs v env := by
  induction as generalizing last env with
  | nil => rfl
  | cons a as ih =>
      rw [List.cons_append, meaning, meaning]
      cases a.expr.meaning env with
      | error e => rfl
      | ok v => exact ih v _

/-- What was yielded before does not matter to a program with a statement. -/
theorem meaning_of_ne_nil (has : as ≠ []) (v w : Value) (env : Env) :
    meaning as v env = meaning as w env := by
  cases as with
  | nil => exact absurd rfl has
  | cons a as => rw [meaning, meaning]

theorem programMeaning_singleton (as : List Assignment) (v : Value) (env : Env) :
    programMeaning [as] v env = meaning as .nil env := by
  rw [programMeaning]
  split
  · next hm => exact hm.symm
  · next hm => exact hm.symm

/-- Whether two runs end in the same environment and fail in the same way. -/
structure EndAlike (a b : Except RuntimeError Value × Env) : Prop where
  env : a.2 = b.2
  error : ∀ e, a.1 = .error e ↔ b.1 = .error e

/-- **Programs that run one after the other** end like the one program that has all their
statements. -/
theorem programMeaning_flatten (ps : List (List Assignment)) (v w : Value) (env : Env) :
    EndAlike (programMeaning ps v env) (meaning ps.flatten w env) := by
  induction ps generalizing v w env with
  | nil => exact ⟨rfl, fun e => by simp [programMeaning, meaning]⟩
  | cons as ps ih =>
      rw [List.flatten_cons, meaning_append, programMeaning]
      by_cases has : as = []
      · rw [has]
        exact ih .nil w env
      · rw [meaning_of_ne_nil has w .nil env]
        cases meaning as .nil env with
        | mk result env' =>
            cases result with
            | error e => exact ⟨rfl, fun _ => Iff.rfl⟩
            | ok u => exact ih u u env'

/-- They also yield the same if the last of them has a statement. -/
theorem programMeaning_flatten_of_last (hlast : ps.getLast? = some as) (has : as ≠ [])
    (v w : Value) (env : Env) : programMeaning ps v env = meaning ps.flatten w env := by
  induction ps generalizing v w env with
  | nil => cases hlast
  | cons first ps ih =>
      cases ps with
      | nil =>
          obtain rfl : first = as := Option.some.inj hlast
          rw [programMeaning_singleton, List.flatten_singleton, meaning_of_ne_nil has]
      | cons second ps =>
          rw [List.getLast?_cons_cons] at hlast
          rw [List.flatten_cons, meaning_append, programMeaning]
          by_cases hfirst : first = []
          · rw [hfirst]
            exact ih hlast .nil w env
          · rw [meaning_of_ne_nil hfirst w .nil env]
            cases meaning first .nil env with
            | mk result env' =>
                cases result with
                | error e => rfl
                | ok u => exact ih hlast u u env'

/-- Names hold the same after any number of executions. -/
theorem envAfter_flatten (ps : List (List Assignment)) (k : Nat) :
    envAfter ps k = envAfter [ps.flatten] k := by
  induction k with
  | zero => rfl
  | succ k ih =>
      rw [envAfter, envAfter, ih, programMeaning_singleton]
      exact (programMeaning_flatten ps .nil .nil _).env

/-- Whether two executions fail in the same way and leave the same values. -/
structure Outcome.Alike (o o' : Outcome) : Prop where
  error : ∀ e, o.result = .error e ↔ o'.result = .error e
  get : o.get = o'.get

theorem outcome_flatten (ps : List (List Assignment)) (k : Nat) :
    (outcome ps k).Alike (outcome [ps.flatten] k) := by
  refine ⟨fun e => ?_, funext fun name => congrFun (envAfter_flatten ps (k + 1)) _⟩
  rw [outcome, outcome, ← envAfter_flatten, programMeaning_singleton]
  exact (programMeaning_flatten ps .nil .nil _).error e

theorem outcome_flatten_of_last (hlast : ps.getLast? = some as) (has : as ≠ []) (k : Nat) :
    (outcome ps k).result = (outcome [ps.flatten] k).result := by
  rw [outcome, outcome, ← envAfter_flatten, programMeaning_singleton,
    programMeaning_flatten_of_last hlast has .nil .nil]

/-! ## Names of linked globals -/

section Linked

variable {h h' : Host} {c : Compiler} {name : String} {scope : Option ScopeId} {sink : Sink}
  {m : Module} {ids : List CodeId}

/-- Whether the globals of a module, if they are linked, are the names that programs assign to, each
once, in the order in which they first occur. -/
def NamesOf (m : Module) (ps : List (List Assignment)) : Prop :=
  ∀ l, m.globals = some l → l.names = (ps.flatten.map fun a => a.target.name).eraseDups

theorem names_declarationsOf
    (hcode : List.Forall₂ (fun id u => (h.code id).compiled = .tally (programOf u.text) none)
      ids us) :
    (h.declarationsOf ids).map Declaration.name =
      (us.map fun u => programOf u.text).flatten.map fun a => a.target.name := by
  induction hcode with
  | nil => rfl
  | cons hfirst _ ih =>
      rw [Host.declarationsOf, List.flatMap_cons, List.map_append, List.map_cons, List.flatten_cons,
        List.map_append, hfirst]
      exact congrArg₂ _ List.map_map ih

theorem eq_link_of_moduleScope {o : Options} {l : Linkage}
    (hl : (h.moduleScope o scope ids).1.2 = some l) :
    l = (Linkage.link h.store (h.declarationsOf ids)).1 := by
  simp only [Host.moduleScope] at hl
  split at hl
  · cases hl
  · split at hl
    · exact (Option.some.inj hl).symm
    · cases hl

/-- The globals of a module that was compiled from Tally units. -/
theorem namesOf_of_compileModule {sink' : Sink}
    (hm : h.compileModule c name scope us sink = (.ok m, h', sink'))
    (ht : ∀ id ∈ m.code, isTally (h'.code id).compiled = true) :
    NamesOf m (us.map fun u => programOf u.text) := by
  intro l hl
  obtain ⟨ids, h₁, -, hmade, hcreate⟩ := exists_createModule_of_compileModule hm
  obtain ⟨mid, hmakes⟩ := exists_makes hcreate
  have hcode : List.Forall₂
      (fun id u => (mid.code id).compiled = .tally (programOf u.text) none) ids us :=
    ((List.forall₂_and_left ids us).2 ⟨fun _ hid => hid, hmade⟩).imp fun id u hboth =>
      (hmakes.compiled_before id).trans (eq_tally_of_makes hmakes ht hboth.1 hboth.2)
  rw [eq_link_of_moduleScope (hmakes.globals.symm.trans hl),
    (Linkage.oneSlotPerName_link _ _).names, names_declarationsOf hcode]

end Linked

namespace Bench

/-- A subject that a step leaves on the bench was there, with the same units and the same module, or
was just compiled. -/
theorem step_cases {b : Bench} {a : Step} {s : Subject} (hs : s ∈ (b.step a).subjects) :
    (∃ old ∈ b.subjects, s.units = old.units ∧ s.module = old.module) ∨
      ∃ (h h' : Host) (c : Compiler) (name : String) (sink sink' : Sink),
        h.compileModule c name s.supplied s.units sink = (.ok s.module, h', sink') ∧
          ∀ id ∈ s.module.code, isTally (h'.code id).compiled = true := by
  cases a with
  | compile setting c name units sink =>
      simp only [step, compile] at hs
      split at hs
      · exact .inl ⟨s, hs, rfl, rfl⟩
      · next m h' sink' hm =>
          split at hs
          · next hall =>
              rcases List.mem_append.1 hs with hold | hnew
              · exact .inl ⟨s, hold, rfl, rfl⟩
              · obtain rfl := List.mem_singleton.1 hnew
                exact .inr ⟨_, _, _, _, _, _, hm, List.all_eq_true.1 hall⟩
          · exact .inl ⟨s, hs, rfl, rfl⟩
  | execute i =>
      simp only [step, execute] at hs
      split at hs
      · exact .inl ⟨s, hs, rfl, rfl⟩
      · next old hold =>
          rcases List.mem_or_eq_of_mem_set hs with hs | rfl
          · exact .inl ⟨s, hs, rfl, rfl⟩
          · exact .inl ⟨old, List.mem_of_getElem? hold, rfl, rfl⟩

/-- **The globals of every linked module** are the names that its programs assign to. -/
theorem namesOf_run (h : Host) (steps : List Step) {s : Subject}
    (hs : s ∈ (run h steps).subjects) : NamesOf s.module s.programs := by
  induction steps using List.reverseRecOn generalizing s with
  | nil => cases hs
  | append_singleton steps a ih =>
      rw [run, List.foldl_append, List.foldl_cons, List.foldl_nil] at hs
      rcases step_cases hs with ⟨old, hold, hunits, hmodule⟩ | ⟨_, _, _, _, _, _, hm, ht⟩
      · rw [Subject.programs, hunits, hmodule]
        exact ih hold
      · exact namesOf_of_compileModule hm ht

end Bench

/-! ## Units that Tally compiles -/

/-- Whether the provider of every unit is found, and is Tally, when the turn of the unit comes. -/
def Entrusted (h : Host) (c : Compiler) (sink : Sink) (us : List SourceUnit) : Prop :=
  ∀ before u after, us = before ++ u :: after →
    ∃ p h₁ prepared count, (h.turnAfterUnits c sink before).1.providerFor c.registry u =
      (.ok p, h₁) ∧ h₁.provider p = .tally prepared count

section Compiling

variable {h h₁ : Host} {c : Compiler} {name : String} {sink : Sink} {p : ProviderId}
  {prepared : List String} {count : Nat}

/-- Tally compiles a unit about which nothing is reported. -/
theorem compileUnit_of_silent (hp : h.providerFor c.registry u = (.ok p, h₁))
    (ht : h₁.provider p = .tally prepared count) (hsilent : Silent u) (sink : Sink) :
    ∃ id h', h.compileUnit c u sink = (.ok id, h', sink) ∧
      (h'.code id).compiled = .tally (programOf u.text) none := by
  have hnone : h₁.unitDiagnostics p u = [] := by
    rw [unitDiagnostics, ht]
    exact silent_iff_unreadableLines.1 hsilent
  have hresult : h₁.unitResult p u = .ok
      { source := u.id, language := "tally", compiled := .tally (programOf u.text) none } := by
    rw [unitResult, ht]
  simp only [compileUnit, hp, compileWithProvider_eq, hnone, hresult]
  refine ⟨_, _, rfl, ?_⟩
  rw [code_addCode_self]

theorem entrusted_cons_iff : Entrusted h c sink (u :: us) ↔
    (∃ p h₁ prepared count, h.providerFor c.registry u = (.ok p, h₁) ∧
      h₁.provider p = .tally prepared count) ∧
    Entrusted (h.compileUnit c u sink).2.1 c (h.compileUnit c u sink).2.2 us := by
  constructor
  · intro hall
    exact ⟨hall [] u us rfl, fun before v after hsplit =>
      hall (u :: before) v after (by rw [hsplit, List.cons_append])⟩
  · rintro ⟨hu, hrest⟩ before v after hsplit
    cases before with
    | nil =>
        obtain ⟨rfl, -⟩ := List.cons.inj hsplit
        exact hu
    | cons first before =>
        obtain ⟨rfl, hus⟩ := List.cons.inj hsplit
        exact hrest before v after hus

/-- Tally compiles units about which nothing is reported.  Induction on the units. -/
theorem compileUnits_of_entrusted (he : Entrusted h c sink us) (hsilent : ∀ v ∈ us, Silent v) :
    ∃ ids h', compileUnits c us h sink = (.ok ids, h', sink) ∧
      ∀ id ∈ ids, ∃ as, (h'.code id).compiled = .tally as none := by
  induction us generalizing h with
  | nil => exact ⟨[], h, rfl, fun id hid => absurd hid List.not_mem_nil⟩
  | cons u us ih =>
      obtain ⟨⟨p, h₁, prepared, count, hp, ht⟩, hrest⟩ := entrusted_cons_iff.1 he
      obtain ⟨id, h₂, hid, hcode⟩ :=
        compileUnit_of_silent hp ht (hsilent u List.mem_cons_self) sink
      have hmade := (compileUnit_adds h c u sink).2 id (by rw [hid])
      rw [hid] at hrest hmade
      obtain ⟨ids, h₃, hids, hcodes⟩ := ih hrest fun v hv => hsilent v (List.mem_cons_of_mem _ hv)
      have hadds := (compileUnits_adds c us h₂ sink).1
      rw [hids] at hadds
      refine ⟨id :: ids, h₃, by simp only [compileUnits, hid, hids], fun j hj => ?_⟩
      rcases List.mem_cons.1 hj with rfl | hj
      · exact ⟨_, (congrArg Code.compiled (hadds.code j hmade.inRange)).trans hcode⟩
      · exact hcodes j hj

/-- Code that is linked was given the linkage of its module. -/
theorem isTally_givenLinkage (g : Option Linkage) (as : List Assignment) :
    isTally (givenLinkage g (.tally as none)) = true := by
  rw [givenLinkage_tally]
  rfl

theorem isSome_moduleScope {o : Options} {ids : List CodeId} (hids : ids ≠ [])
    (hlink : o.linkGlobals = true) : (h.moduleScope o none ids).1.2.isSome = true := by
  simp only [Host.moduleScope, if_pos (And.intro hids hlink), Option.isSome_some]

/-- **Units about which nothing is reported become a linked module**, and the sink is told of
nothing. -/
theorem exists_linked_of_entrusted (name : String) (hsome : us ≠ []) (he : Entrusted h c sink us)
    (hsilent : ∀ v ∈ us, Silent v) (hlink : c.options.linkGlobals = true) :
    ∃ m h', h.compileModule c name none us sink = (.ok m, h', sink) ∧
      (∀ id ∈ m.code, isTally (h'.code id).compiled = true) ∧ m.globals.isSome = true := by
  obtain ⟨ids, after, hids, hcodes⟩ := compileUnits_of_entrusted he hsilent
  have hall : AllCompile h c sink us := by
    rcases allCompile_or_firstFailing h c sink us with hall | ⟨before, v, e, hf⟩
    · exact hall
    · rw [compileUnits_of_firstFailing hf] at hids
      cases (Prod.mk.inj hids).1
  obtain ⟨m, h', hturn, hcreate⟩ := exists_createModule_of_allCompile name none hall
  obtain ⟨hcode, hafter⟩ := Prod.mk.inj (hids.symm.trans hturn)
  obtain rfl : ids = m.code := Except.ok.inj hcode
  have hm := hcreate c.registry
  rw [← hafter] at hm
  obtain ⟨mid, hmakes⟩ := exists_makes hm
  have hcount : m.code ≠ [] := by
    have hmade := (compileUnits_adds c us h sink).2 m.code (by rw [hids])
    intro hnil
    rw [hnil] at hmade
    exact hsome (List.forall₂_nil_left_iff.1 hmade)
  refine ⟨m, h', ?_, fun id hid => ?_, ?_⟩
  · rw [compileModule, hids]
    simp only [Nat.sub_self, Nat.lt_irrefl, if_false, hm]
  · obtain ⟨as, has⟩ := hcodes id hid
    rw [hmakes.compiled hid, has]
    exact isTally_givenLinkage m.globals as
  · rw [hmakes.globals]
    exact isSome_moduleScope hcount hlink

end Compiling

/-- A compiler with its switches as a setting wants them. -/
def Setting.compiler (setting : Setting) (c : Compiler) : Compiler :=
  { c with options := setting.options c.options }

/-- Units about which nothing is reported become a subject of the bench. -/
theorem Bench.exists_compile_of_entrusted (b : Bench) {c : Compiler} {sink : Sink} (name : String)
    (hsome : us ≠ []) (he : Entrusted b.host (Setting.linked.compiler c) sink us)
    (hsilent : ∀ v ∈ us, Silent v) :
    ∃ s, (b.compile .linked c name us sink).subjects = b.subjects ++ [s] ∧ s.units = us ∧
      s.module.globals.isSome = true := by
  obtain ⟨m, h', hm, ht, hglobals⟩ := exists_linked_of_entrusted name hsome he hsilent rfl
  refine ⟨{ units := us, supplied := none, module := m }, ?_, rfl, hglobals⟩
  rw [Setting.compiler] at hm
  simp only [Bench.compile, Setting.scope, hm, List.all_eq_true.2 ht, if_true]

/-- **Splitting a program into units does not change it.**  Let a unit have the texts of others,
joined by line feeds, and let nothing be reported about those others.  Then nothing is reported
about the unit either, and a compiler makes a linked module of the units, and one of the single
unit, wherever Tally is found for them.  Compile and execute modules in any order.  Of a module of
the units and a module of the single unit,

* the globals, if they are linked, have the same names in the same order;
* every execution fails in the one when it fails in the other, with the same error;
* every execution leaves the same values in all names;
* every execution that succeeds returns the same value if the last of the units has a statement. -/
theorem splitting_keeps_meaning {us : List SourceUnit} {u : SourceUnit} (hsome : us ≠ [])
    (hsilent : ∀ v ∈ us, Silent v) (hjoin : u.text = "\n".intercalate (us.map SourceUnit.text)) :
    Silent u ∧
    (∀ (b : Bench) (c : Compiler) (name : String) (sink : Sink), ∀ vs ∈ [us, [u]],
      Entrusted b.host (Setting.linked.compiler c) sink vs →
      ∃ s, (b.compile .linked c name vs sink).subjects = b.subjects ++ [s] ∧ s.units = vs ∧
        s.module.globals.isSome = true) ∧
    ∀ (h : Host) (steps : List Step), ∀ s ∈ (Bench.run h steps).subjects,
      ∀ s' ∈ (Bench.run h steps).subjects, s.units = us → s'.units = [u] →
      (∀ l l', s.module.globals = some l → s'.module.globals = some l' → l.names = l'.names) ∧
      ∀ (k : Nat) o o', s.history[k]? = some o → s'.history[k]? = some o' →
        (∀ e, o.result = .error e ↔ o'.result = .error e) ∧ o.get = o'.get ∧
        ∀ last, us.getLast? = some last → programOf last.text ≠ [] → o.result = o'.result := by
  have hjoined : Silent u := (silent_of_joined hjoin).2 hsilent
  refine ⟨hjoined, fun b c name sink vs hvs he => ?_, fun h steps s hs s' hs' hus hu => ?_⟩
  · have hall : vs ≠ [] ∧ ∀ v ∈ vs, Silent v := by
      rcases List.mem_cons.1 hvs with rfl | hvs
      · exact ⟨hsome, hsilent⟩
      · rw [List.mem_singleton.1 hvs]
        exact ⟨List.cons_ne_nil _ _, fun v hv => List.mem_singleton.1 hv ▸ hjoined⟩
    exact b.exists_compile_of_entrusted name hall.1 he hall.2
  · have hprograms : s'.programs = [s.programs.flatten] := by
      rw [Subject.programs, hu, List.map_singleton, programOf_of_joined hjoin, Subject.programs,
        hus]
    obtain ⟨i, hi⟩ := List.mem_iff_getElem?.1 hs
    obtain ⟨j, hj⟩ := List.mem_iff_getElem?.1 hs'
    have hf := (Bench.sound_run h steps).faithful i s hi
    have hf' := (Bench.sound_run h steps).faithful j s' hj
    refine ⟨fun l l' hl hl' => ?_, fun k o o' ho ho' => ?_⟩
    · rw [Bench.namesOf_run h steps hs l hl, Bench.namesOf_run h steps hs' l' hl', hprograms,
        List.flatten_singleton]
    · rw [hf.history k o ho, hf'.history k o' ho', hprograms]
      have halike := outcome_flatten s.programs k
      refine ⟨halike.error, halike.get, fun last hlast hstatement => ?_⟩
      refine outcome_flatten_of_last ?_ hstatement k
      rw [Subject.programs, hus, List.getLast?_map, hlast, Option.map_some]

/-- The texts of the failing units in one unit, which is called otherwise. -/
def joinedUnit : SourceUnit :=
  { id := "c", text := "x = 1\ny = x + 41\nx = y\nz = w", language := some "tally" }

/-- The failing units and the joined unit are compiled by one compiler, and each of the two modules
is executed twice. -/
def splitAndJoined : List Step :=
  [.compile .linked { registry := ⟨0⟩ } "a" failingUnits .raising,
    .compile .linked { registry := ⟨0⟩ } "b" [joinedUnit] .raising,
    .execute 0, .execute 1, .execute 1, .execute 0]

/-- Whether an execution ended with an error. -/
def Outcome.failed (o : Outcome) : Bool :=
  match o.result with
  | .error _ => true
  | .ok _ => false

/-- In a host that has Tally, both modules are linked and have the globals of one program, and fail
in the same way whenever they are executed. -/
theorem splitting_keeps_meaning_failingUnits :
    (∃ s, (Bench.compile { host := tallyHost } .linked { registry := ⟨0⟩ } "a" failingUnits
      .raising).subjects = [s] ∧ s.units = failingUnits ∧ s.module.globals.isSome = true) ∧
    ∀ s ∈ (Bench.run tallyHost splitAndJoined).subjects,
      ∀ s' ∈ (Bench.run tallyHost splitAndJoined).subjects,
        s.units = failingUnits → s'.units = [joinedUnit] →
        (∃ l l', s.module.globals = some l ∧ s'.module.globals = some l' ∧ l.names = l'.names) ∧
        s.history.map Outcome.failed = [true, true] ∧ s.history = s'.history := by
  have hsilent : ∀ v ∈ failingUnits, Silent v := by
    simp only [silent_iff]
    decide +kernel
  obtain ⟨-, hmade, hsame⟩ := splitting_keeps_meaning (by decide) hsilent
    (show joinedUnit.text = "\n".intercalate (failingUnits.map SourceUnit.text) by decide +kernel)
  refine ⟨hmade { host := tallyHost } { registry := ⟨0⟩ } "a" .raising failingUnits
    List.mem_cons_self ?_, fun s hs s' hs' hus hu => ?_⟩
  · refine entrusted_cons_iff.2 ⟨⟨⟨0⟩, _, [], 0, rfl, rfl⟩,
      entrusted_cons_iff.2 ⟨⟨⟨0⟩, _, [], 0, rfl, rfl⟩, fun before v after hsplit => ?_⟩⟩
    cases before <;> cases hsplit
  · obtain ⟨hnames, houtcomes⟩ := hsame tallyHost splitAndJoined s hs s' hs' hus hu
    have hlinked : ∀ s ∈ (Bench.run tallyHost splitAndJoined).subjects,
        s.module.globals.isSome = true := by decide +kernel
    have htwice : ∀ s ∈ (Bench.run tallyHost splitAndJoined).subjects,
        s.history.map Outcome.failed = [true, true] := by decide +kernel
    obtain ⟨l, hl⟩ := Option.isSome_iff_exists.1 (hlinked s hs)
    obtain ⟨l', hl'⟩ := Option.isSome_iff_exists.1 (hlinked s' hs')
    refine ⟨⟨l, l', hl, hl', hnames l l' hl hl'⟩, htwice s hs, ?_⟩
    have hlength : s.history.length = s'.history.length := by
      have hlast := congrArg List.length ((htwice s hs).trans (htwice s' hs').symm)
      rwa [List.length_map, List.length_map] at hlast
    refine List.ext_getElem hlength fun k hk hk' => ?_
    obtain ⟨-, hget, hresult⟩ := houtcomes k _ _ (List.getElem?_eq_getElem hk)
      (List.getElem?_eq_getElem hk')
    have hreturned := hresult _ rfl (by decide +kernel)
    generalize s.history[k] = o at hget hreturned
    generalize s'.history[k] = o' at hget hreturned
    obtain ⟨result, get⟩ := o
    obtain ⟨result', get'⟩ := o'
    exact congrArg₂ Outcome.mk hreturned hget

end Polyglot.Tally
