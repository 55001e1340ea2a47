import Mathlib.Data.List.Induction
import Polyglot.Proofs.Tally.Module

/-!
# Polyglot.Proofs.Tally.Linking

Linking globals does not change what a Tally program means.

A bench holds modules that are compiled and executed in any order, by any compilers.  There are
three settings in which one list of units can be compiled:

```
linked      the globals are linked
unlinked    the module has a scope of its own, and its globals are not linked
supplied    a new scope is handed to the compiler
```

Of every execution the bench notes what it returns and what the names of the module hold after
it.  The `k`-th execution of a module shows what the programs of its units mean when they run for
the `k`-th time (`outcome`), however its names are kept and whatever else runs in between.  So two
modules of the same units cannot be told apart (`linking_keeps_meaning`).
-/

namespace Polyglot.Tally

open Polyglot.Host
open Store (Extends Confined)

/-- What an execution shows: what it returns, and what names hold after it. -/
structure Outcome where
  result : Except RuntimeError Value
  get : String → Option Value

/-! ## Repeated execution -/

/-- What names hold after programs ran `k` times. -/
def envAfter (ps : List (List Assignment)) : Nat → Env
  | 0 => fun _ => none
  | k + 1 => (programMeaning ps .nil (envAfter ps k)).2

/-- What programs show after they ran `k` times and run once more. -/
def outcome (ps : List (List Assignment)) (k : Nat) : Outcome where
  result := (programMeaning ps .nil (envAfter ps k)).1
  get name := envAfter ps (k + 1) (.named name)

/-! ## The bench -/

/-- How the names of a module are to be kept. -/
inductive Setting where
  | linked
  | unlinked
  | supplied

/-- The scope that is handed to the compiler, if one is. -/
def Setting.scope (h : Host) : Setting → Option ScopeId × Host
  | linked => (none, h)
  | unlinked => (none, h)
  | supplied => (some h.store.newScope.1, h.setStore h.store.newScope.2)

/-- The scope that is handed over, if one is, is new. -/
theorem Setting.newHome_scope (setting : Setting) (h : Host) :
    Grows h.codes.size h (setting.scope h).2 ∧
      ∀ sc, (setting.scope h).1 = some sc → NewHome h.store none sc (setting.scope h).2.store := by
  cases setting with
  | linked => exact ⟨.refl _ _, fun sc hsc => by cases hsc⟩
  | unlinked => exact ⟨.refl _ _, fun sc hsc => by cases hsc⟩
  | supplied =>
      refine ⟨grows_setStore (Store.extends_newScopeOf _ _), fun sc hsc => ?_⟩
      cases hsc
      exact NewHome.newScope (.refl _)

/-- The switches of the compiler. -/
def Setting.options (o : Options) : Setting → Options
  | linked => { o with linkGlobals := true }
  | unlinked => { o with linkGlobals := false }
  | supplied => o

/-- A module on the bench, and what its executions showed. -/
structure Subject where
  units : List SourceUnit
  supplied : Option ScopeId
  module : Module
  history : List Outcome := []

namespace Subject

/-- The programs of the units. -/
def programs (s : Subject) : List (List Assignment) := s.units.map fun u => programOf u.text

/-- The module after it was executed in a host. -/
def executed (s : Subject) (h : Host) : Subject :=
  { s with history := s.history ++ [{
      result := (h.execute s.module).1
      get := (h.execute s.module).2.topLevel s.module }] }

end Subject

/-- A host, and modules of Tally programs that are compiled and executed in it. -/
structure Bench where
  host : Host
  subjects : List Subject := []

/-- What is done on a bench. -/
inductive Step where
  | compile (setting : Setting) (c : Compiler) (name : String) (units : List SourceUnit)
      (sink : Sink)
  | execute (i : Nat)

namespace Bench

/-- Compile units; a module of Tally programs goes on the bench. -/
def compile (b : Bench) (setting : Setting) (c : Compiler) (name : String)
    (units : List SourceUnit) (sink : Sink) : Bench :=
  let (supplied, h) := setting.scope b.host
  match h.compileModule { c with options := setting.options c.options } name supplied units
    sink with
  | (.error _, h, _) => { b with host := h }
  | (.ok module, h, _) =>
    if module.code.all fun id => isTally (h.code id).compiled then
      { host := h, subjects := b.subjects ++ [{ units, supplied, module }] }
    else { b with host := h }

/-- Execute a module of the bench. -/
def execute (b : Bench) (i : Nat) : Bench :=
  match b.subjects[i]? with
  | none => b
  | some s =>
    { host := (b.host.execute s.module).2, subjects := b.subjects.set i (s.executed b.host) }

/-- One step. -/
def step (b : Bench) : Step → Bench
  | .compile setting c name units sink => b.compile setting c name units sink
  | .execute i => b.execute i

/-- A bench without modules after steps. -/
def run (h : Host) (steps : List Step) : Bench := steps.foldl step { host := h }

/-! ## What stays true on the bench -/

theorem getElem?_set_cases {α : Type} {a a' : α} {l : List α} {i j : Nat}
    (ha : (l.set i a)[j]? = some a') : j = i ∧ a' = a ∨ j ≠ i ∧ l[j]? = some a' := by
  rw [List.getElem?_set] at ha
  split at ha
  · next hij =>
      split at ha
      · exact .inl ⟨hij.symm, (Option.some.inj ha).symm⟩
      · cases ha
  · next hij => exact .inr ⟨fun hji => hij hji.symm, ha⟩

/-- Whether a module consists of the programs of its units, its names hold what they are to hold
after as many executions as there were, and all of these showed what they were to show. -/
structure Faithful (h : Host) (s : Subject) : Prop where
  runs : Runs h s.module s.programs
  env : envOf h s.module = envAfter s.programs s.history.length
  history : ∀ (k : Nat) o, s.history[k]? = some o → o = outcome s.programs k
  supplied : ∀ sc, s.supplied = some sc → s.module.scope = sc

/-- An execution shows what the programs of the units mean. -/
theorem Faithful.executed {h : Host} {s : Subject} (hf : Faithful h s) :
    Faithful (h.execute s.module).2 (s.executed h) := by
  obtain ⟨hres, henv, hruns, -, -⟩ := hf.runs.execute
  rw [hf.env] at hres henv
  have hshown : outcome s.programs s.history.length =
      ⟨(h.execute s.module).1, (h.execute s.module).2.topLevel s.module⟩ := by
    rw [outcome, envAfter, ← hres, ← henv]
    rfl
  refine ⟨hruns, ?_, fun k o ho => ?_, hf.supplied⟩
  · rw [Subject.executed, List.length_append]
    exact henv
  · rcases getElem?_concat_cases ho with ho | ⟨rfl, rfl⟩
    · exact hf.history k o ho
    · exact hshown.symm

/-- Whether two scopes share no cell. -/
structure Apart (st : Store) (sc sc' : ScopeId) : Prop where
  scopes : sc ≠ sc'
  cells : ∀ n n' s, st.slotIn sc n = some s → st.slotIn sc' n' ≠ some s

theorem Apart.symm {st : Store} {sc sc' : ScopeId} (ha : Apart st sc sc') : Apart st sc' sc :=
  ⟨ha.scopes.symm, fun n n' s hs hs' => ha.cells n' n s hs' hs⟩

/-- Scopes stay apart when something happens in a third one. -/
theorem Apart.of_confined {st st' : Store} {sc sc' other : ScopeId} (ha : Apart st sc sc')
    (hc : Confined other st st') (hne : sc ≠ other) (hne' : sc' ≠ other) : Apart st' sc sc' := by
  refine ⟨ha.scopes, fun n n' s hs => ?_⟩
  rw [hc.slotIn hne] at hs
  rw [hc.slotIn hne']
  exact ha.cells n n' s hs

/-- Scopes stay apart when something happens in one of them: what is filed there besides is new. -/
theorem Apart.of_confined_self {st st' : Store} {sc sc' : ScopeId} (ha : Apart st sc sc')
    (hc : Confined sc st st') (hold : ∀ n s, st.slotIn sc' n = some s → s.index < st.slots.size) :
    Apart st' sc sc' := by
  refine ⟨ha.scopes, fun n n' s hs hs' => ?_⟩
  rw [hc.slotIn ha.scopes.symm] at hs'
  rcases hc.filed n s hs with hfiled | hnew
  · exact ha.cells n n' s hfiled hs'
  · exact Nat.not_le.2 (hold n' s hs') hnew

/-- Whether all modules are faithful and kept apart. -/
structure Sound (b : Bench) : Prop where
  faithful : ∀ (i : Nat) s, b.subjects[i]? = some s → Faithful b.host s
  apart : ∀ (i j : Nat) s s', b.subjects[i]? = some s → b.subjects[j]? = some s' → i ≠ j →
    Apart b.host.store s.module.scope s'.module.scope

variable {b : Bench} {h : Host}

namespace Sound

theorem nil (h : Host) : Sound { host := h } :=
  ⟨fun _ _ hs => (by cases hs), fun _ _ _ _ hs => (by cases hs)⟩

/-- Modules stay as they are when the host grows. -/
theorem of_grows (hb : Sound b) (hg : Grows b.host.codes.size b.host h) :
    Sound { b with host := h } := by
  refine ⟨fun i s hs => ?_, fun i j s s' hs hs' hij => ?_⟩
  · have hf := hb.faithful i s hs
    obtain ⟨hruns, henv⟩ := hf.runs.of_grows hg
    exact ⟨hruns, henv.trans hf.env, hf.history, hf.supplied⟩
  · have ha := hb.apart i j s s' hs hs' hij
    refine ⟨ha.scopes, fun n n' t ht => ?_⟩
    rw [hg.store.slotIn (hb.faithful i s hs).runs.home.scope] at ht
    rw [hg.store.slotIn (hb.faithful j s' hs').runs.home.scope]
    exact ha.cells n n' t ht

/-- A new module is apart from those that were there. -/
theorem concat (hb : Sound b) (hg : Grows b.host.codes.size b.host h) {s : Subject}
    (hruns : Runs h s.module s.programs)
    (hnew : NewHome b.host.store s.module.globals s.module.scope h.store)
    (hhistory : s.history = []) (hsupplied : ∀ sc, s.supplied = some sc → s.module.scope = sc) :
    Sound { host := h, subjects := b.subjects ++ [s] } := by
  have hold := hb.of_grows hg
  have hapart : ∀ (i : Nat) s', b.subjects[i]? = some s' →
      Apart h.store s'.module.scope s.module.scope := fun i s' hs' => by
    have hhome := (hb.faithful i s' hs').runs.home
    refine ⟨fun heq => ?_, fun n n' t ht ht' => ?_⟩
    · have hlt := hhome.scope
      rw [heq] at hlt
      exact Nat.not_le.2 hlt hnew.scope
    · rw [hg.store.slotIn hhome.scope] at ht
      exact Nat.not_le.2 (hhome.cells n t ht).1 (hnew.cells n' t ht')
  refine ⟨fun i s' hs' => ?_, fun i j s₁ s₂ hs₁ hs₂ hij => ?_⟩
  · rcases getElem?_concat_cases hs' with hs' | ⟨-, rfl⟩
    · exact hold.faithful i s' hs'
    · refine ⟨hruns, ?_, fun k o ho => ?_, hsupplied⟩
      · rw [hhistory]
        exact hnew.empty
      · rw [hhistory] at ho
        cases ho
  · rcases getElem?_concat_cases hs₁ with hs₁ | ⟨hi, rfl⟩
    · rcases getElem?_concat_cases hs₂ with hs₂ | ⟨-, rfl⟩
      · exact hold.apart i j s₁ s₂ hs₁ hs₂ hij
      · exact hapart i s₁ hs₁
    · rcases getElem?_concat_cases hs₂ with hs₂ | ⟨hj, -⟩
      · exact (hapart j s₂ hs₂).symm
      · exact absurd (hi.trans hj.symm) hij

/-- Compiling leaves the modules of the bench as they are, and may put a new one beside them. -/
theorem compile (hb : Sound b) (setting : Setting) (c : Compiler) (name : String)
    (units : List SourceUnit) (sink : Sink) :
    Sound (b.compile setting c name units sink) := by
  obtain ⟨hfirst, hscope⟩ := setting.newHome_scope b.host
  have hgrows := hfirst.trans ((grows_compileModule (setting.scope b.host).2
    { c with options := setting.options c.options } name (setting.scope b.host).1 units
    sink).mono hfirst.codes)
  simp only [Bench.compile]
  split
  · next hm =>
      rw [hm] at hgrows
      exact hb.of_grows hgrows
  · next m h' sink' hm =>
      rw [hm] at hgrows
      split
      · next hall =>
          obtain ⟨hruns, hnew, hsupplied⟩ := runs_of_compileModule hfirst.store hscope hm
            (List.all_eq_true.1 hall)
          exact hb.concat hgrows hruns hnew rfl hsupplied
      · exact hb.of_grows hgrows

/-- Executing a module changes what its own names hold, in the way its programs say. -/
theorem execute (hb : Sound b) (i : Nat) : Sound (b.execute i) := by
  rw [Bench.execute]
  split
  · exact hb
  · next s hi =>
      obtain ⟨-, -, -, hconf, hcodes⟩ := (hb.faithful i s hi).runs.execute
      have hself : ∀ (j : Nat) t, j ≠ i → b.subjects[j]? = some t →
          Apart (b.host.execute s.module).2.store s.module.scope t.module.scope :=
        fun j t hj ht => (hb.apart i j s t hi ht hj.symm).of_confined_self hconf fun n c hc =>
          ((hb.faithful j t ht).runs.home.cells n c hc).1
      refine ⟨fun j t ht => ?_, fun j k t t' ht ht' hjk => ?_⟩
      · rcases getElem?_set_cases ht with ⟨-, rfl⟩ | ⟨hj, hold⟩
        · exact (hb.faithful i s hi).executed
        · have ha := hb.apart j i t s hold hi hj
          have hf := hb.faithful j t hold
          obtain ⟨hruns, henv⟩ := hf.runs.of_confined hcodes hconf ha.scopes ha.cells
          exact ⟨hruns, henv.trans hf.env, hf.history, hf.supplied⟩
      · rcases getElem?_set_cases ht with ⟨rfl, rfl⟩ | ⟨hj, hold⟩
        · rcases getElem?_set_cases ht' with ⟨rfl, -⟩ | ⟨hk, hold'⟩
          · exact absurd rfl hjk
          · exact hself k t' hk hold'
        · rcases getElem?_set_cases ht' with ⟨rfl, rfl⟩ | ⟨hk, hold'⟩
          · exact (hself j t hj hold).symm
          · exact (hb.apart j k t t' hold hold' hjk).of_confined hconf
              (hb.apart j i t s hold hi hj).scopes (hb.apart k i t' s hold' hi hk).scopes

end Sound

/-- Induction on the steps. -/
theorem sound_run (h : Host) (steps : List Step) : Sound (run h steps) := by
  induction steps using List.reverseRecOn with
  | nil => exact .nil h
  | append_singleton steps a ih =>
      rw [run, List.foldl_append, List.foldl_cons, List.foldl_nil]
      cases a with
      | compile setting c name units sink => exact ih.compile setting c name units sink
      | execute i => exact ih.execute i

end Bench

/-- **Linking does not change what a program means.**  Compile and execute modules in any order.
Of any two modules of the same units,

* every execution returns the same value or error, and leaves the same values in all names;
* the errors are those of Tally: a name without a value, or a value that cannot be added to;
* the names of a module are those of the scope that was handed to the compiler, if one was.

The two may have been compiled in different settings, by different compilers and under different
names. -/
theorem linking_keeps_meaning (h : Host) (steps : List Step) {s s' : Subject}
    (hs : s ∈ (Bench.run h steps).subjects) (hs' : s' ∈ (Bench.run h steps).subjects)
    (hunits : s.units = s'.units) :
    (∀ (k : Nat) o o', s.history[k]? = some o → s'.history[k]? = some o' → o = o') ∧
    (∀ o ∈ s.history, ∀ e, o.result = .error e → IsTallyError e) ∧
    ∀ sc, s.supplied = some sc → s.module.scope = sc := by
  have hsound := Bench.sound_run h steps
  obtain ⟨i, hi⟩ := List.mem_iff_getElem?.1 hs
  obtain ⟨j, hj⟩ := List.mem_iff_getElem?.1 hs'
  have hf := hsound.faithful i s hi
  have hf' := hsound.faithful j s' hj
  refine ⟨fun k o o' ho ho' => ?_, fun o ho e he => ?_, hf.supplied⟩
  · rw [hf.history k o ho, hf'.history k o' ho', Subject.programs, hunits, Subject.programs]
  · obtain ⟨k, hk⟩ := List.mem_iff_getElem?.1 ho
    rw [hf.history k o hk] at he
    exact isTallyError_of_programMeaning he

/-- A host with one language, Tally. -/
def tallyHost : Host :=
  let h := (Host.empty.addRegistry none).2
  (h.register ⟨0⟩ (.resolved ⟨"tally", 0, 0, [], .tally⟩) false ["tally"]).toOption.getD h

/-- Units that share names, and whose last assignment fails whenever they are executed. -/
def failingUnits : List SourceUnit :=
  [{ id := "a", text := "x = 1\ny = x + 41", language := some "tally" },
    { id := "b", text := "x = y\nz = w", language := some "tally" }]

/-- The units are compiled in every setting, and each module is executed twice. -/
def threeSettings : List Step :=
  [.compile .linked { registry := ⟨0⟩ } "a" failingUnits .raising,
    .compile .unlinked { registry := ⟨0⟩ } "b" failingUnits .collecting,
    .compile .supplied { registry := ⟨0⟩ } "c" failingUnits .accepting,
    .execute 0, .execute 1, .execute 0, .execute 2, .execute 2, .execute 1]

/-- Of the three modules only the first is linked, and all have one history. -/
theorem linking_keeps_meaning_of_threeSettings :
    (Bench.run tallyHost threeSettings).subjects.map (fun s => s.module.globals.isSome) =
      [true, false, false] ∧
    ∀ s ∈ (Bench.run tallyHost threeSettings).subjects,
      ∀ s' ∈ (Bench.run tallyHost threeSettings).subjects, s.history = s'.history := by
  refine ⟨by decide +kernel, fun s hs s' hs' => ?_⟩
  have hunits : ∀ s ∈ (Bench.run tallyHost threeSettings).subjects, s.units = failingUnits := by
    decide +kernel
  have htwice : ∀ s ∈ (Bench.run tallyHost threeSettings).subjects, s.history.length = 2 := by
    decide +kernel
  obtain ⟨hsame, -, -⟩ := linking_keeps_meaning tallyHost threeSettings hs hs'
    ((hunits s hs).trans (hunits s' hs').symm)
  exact List.ext_getElem ((htwice s hs).trans (htwice s' hs').symm) fun k hk hk' =>
    hsame k _ _ (List.getElem?_eq_getElem hk) (List.getElem?_eq_getElem hk')

end Polyglot.Tally
