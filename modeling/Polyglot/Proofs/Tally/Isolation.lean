import Polyglot.Proofs.Tally.Linking

/-!
# Polyglot.Proofs.Tally.Isolation

Modules of Tally programs do not influence each other.  A module that shares a bench with others,
which are compiled and executed between its own executions, shows what it shows on a bench of its
own on which it is executed as often (`modules_isolated`).  This is so because on either bench its
executions show what the programs of its units mean (`Bench.Faithful`).
-/

namespace Polyglot.Tally

namespace Bench

/-- A bench for one module: units are compiled, and the module is executed `k` times. -/
def alone (h : Host) (setting : Setting) (c : Compiler) (name : String) (units : List SourceUnit)
    (sink : Sink) (k : Nat) : Bench :=
  run h (.compile setting c name units sink :: List.replicate k (.execute 0))

/-- Compiling puts no more than one module on an empty bench, and it is not executed yet. -/
theorem subjects_compile_nil (h : Host) (setting : Setting) (c : Compiler) (name : String)
    (units : List SourceUnit) (sink : Sink) :
    (compile { host := h } setting c name units sink).subjects = [] ∨
    ∃ s, (compile { host := h } setting c name units sink).subjects = [s] ∧ s.units = units ∧
      s.history = [] := by
  simp only [compile]
  split
  · exact .inl rfl
  · split
    · exact .inr ⟨_, rfl, rfl, rfl⟩
    · exact .inl rfl

/-- The only module of a bench is executed again and again. -/
theorem subjects_replicate_execute (k : Nat) {b : Bench} {s : Subject} (hs : b.subjects = [s]) :
    ∃ s', ((List.replicate k (Step.execute 0)).foldl step b).subjects = [s'] ∧
      s'.units = s.units ∧ s'.history.length = s.history.length + k := by
  induction k generalizing b s with
  | zero => exact ⟨s, hs, rfl, rfl⟩
  | succ k ih =>
      have hone : (b.execute 0).subjects = [s.executed b.host] := by
        rw [execute, hs]
        rfl
      obtain ⟨s', hs', hunits, hlength⟩ := ih (b := b.execute 0) hone
      refine ⟨s', hs', hunits, ?_⟩
      rw [hlength, Subject.executed, List.length_append, List.length_singleton]
      omega

/-- If the units become a module at all, it is executed as often as was asked for. -/
theorem subjects_alone {h : Host} {setting : Setting} {c : Compiler} {name : String}
    {units : List SourceUnit} {sink : Sink}
    (hmade : (alone h setting c name units sink 0).subjects ≠ []) (k : Nat) :
    ∃ s, (alone h setting c name units sink k).subjects = [s] ∧ s.units = units ∧
      s.history.length = k := by
  cases subjects_compile_nil h setting c name units sink with
  | inl hnone => exact absurd hnone hmade
  | inr hone =>
      obtain ⟨s, hs, hunits, hhistory⟩ := hone
      obtain ⟨s', hs', hunits', hlength⟩ := subjects_replicate_execute k hs
      rw [hhistory, List.length_nil, Nat.zero_add] at hlength
      exact ⟨s', hs', hunits'.trans hunits, hlength⟩

end Bench

/-- Modules of the same units that were executed equally often have shown the same, and their names
hold the same. -/
theorem Bench.Faithful.agree {h h' : Host} {s s' : Subject} (hs : Bench.Faithful h s)
    (hs' : Bench.Faithful h' s') (hunits : s.units = s'.units)
    (hlength : s.history.length = s'.history.length) :
    s.history = s'.history ∧ h.topLevel s.module = h'.topLevel s'.module := by
  have hprograms : s.programs = s'.programs := by rw [Subject.programs, hunits, Subject.programs]
  have henv : envOf h s.module = envOf h' s'.module := by
    rw [hs.env, hs'.env, hprograms, hlength]
  refine ⟨List.ext_getElem hlength fun k hk hk' => ?_, funext fun n => congrFun henv (.named n)⟩
  have hshown := hs.history k _ (List.getElem?_eq_getElem hk)
  have hshown' := hs'.history k _ (List.getElem?_eq_getElem hk')
  rw [hshown, hshown', hprograms]

/-- **Modules are isolated.**  Compile and execute modules in any order, and compile the units of
one of them again on a bench of its own, where it is executed as often as it was among the others.
If the units become a module there,

* its executions return the same values and errors in the same order, and after each of them its
  names hold the same values;
* in the end every name holds the same value, whatever the other modules did meanwhile.

The texts, the names and the compilers of the modules are any, and so are the settings in which
they are compiled. -/
theorem modules_isolated (h : Host) (steps : List Step) {s : Subject}
    (hs : s ∈ (Bench.run h steps).subjects) (h' : Host) (setting : Setting) (c : Compiler)
    (name : String) (sink : Sink)
    (hmade : (Bench.alone h' setting c name s.units sink 0).subjects ≠ []) :
    let alone := Bench.alone h' setting c name s.units sink s.history.length
    ∃ s', alone.subjects = [s'] ∧ s'.history = s.history ∧
      ∀ n, alone.host.topLevel s'.module n = (Bench.run h steps).host.topLevel s.module n := by
  obtain ⟨s', hs', hunits, hlength⟩ := Bench.subjects_alone hmade s.history.length
  obtain ⟨i, hi⟩ := List.mem_iff_getElem?.1 hs
  have hfaithful := (Bench.sound_run h steps).faithful i s hi
  have hfaithful' := (Bench.sound_run h' _).faithful 0 s' (by rw [← Bench.alone, hs']; rfl)
  obtain ⟨hhistory, hnames⟩ := hfaithful'.agree hfaithful hunits hlength
  exact ⟨s', hs', hhistory, fun n => congrFun hnames n⟩

/-- Two modules that use the same name, one linked and one not, of which the second fails whenever
it is executed; each is executed twice, in turns. -/
def sharedNames : List Step :=
  [.compile .linked { registry := ⟨0⟩ } "a"
      [{ id := "a", text := "x = 1\ny = x + 41", language := some "tally" }] .raising,
    .compile .unlinked { registry := ⟨0⟩ } "b"
      [{ id := "b", text := "x = \"b\"\nz = y", language := some "tally" }] .raising,
    .execute 0, .execute 1, .execute 0, .execute 1]

/-- Each of the two modules shows what it shows alone, where it is linked. -/
theorem modules_isolated_sharedNames :
    (Bench.run tallyHost sharedNames).subjects.map (fun s => s.history.length) = [2, 2] ∧
    ∀ s ∈ (Bench.run tallyHost sharedNames).subjects, ∃ s',
      (Bench.alone tallyHost .linked { registry := ⟨0⟩ } "alone" s.units .raising
        s.history.length).subjects = [s'] ∧ s'.history = s.history := by
  have hmade : ∀ s ∈ (Bench.run tallyHost sharedNames).subjects,
      (Bench.alone tallyHost .linked { registry := ⟨0⟩ } "alone" s.units .raising 0).subjects ≠
        [] := by decide +kernel
  refine ⟨by decide +kernel, fun s hs => ?_⟩
  obtain ⟨s', hs', hhistory, -⟩ := modules_isolated tallyHost sharedNames hs tallyHost .linked
    { registry := ⟨0⟩ } "alone" .raising (hmade s hs)
  exact ⟨s', hs', hhistory⟩

end Polyglot.Tally
