import Polyglot.Host.Compiling
import Polyglot.Proofs.Tally.Meaning

/-!
# Polyglot.Proofs.Host.Reporting

What a sink can decide.  A provider goes the same way whatever sink it reports to: it has
diagnostics to report, one after the other, and ends with a result of its own.

```
report d₁, report d₂, …, report dₙ, end with the result
```

The sink is asked after each report, and all it can do is end the compilation there.  So a
compilation is given by its diagnostics, its result, and the host it leaves (`Course`), and every
sink sees the first of these diagnostics, as far as it goes on (`exists_course_compileUnits`).
-/

namespace Polyglot

open Polyglot.Language

/-! ## Reporting in order -/

namespace Sink

variable {s : Sink} {ds front back : List Diagnostic} {d : Diagnostic} {e : CompilationError}

/-- The sink after it was told of more diagnostics. -/
def heard (s : Sink) (ds : List Diagnostic) : Sink := { s with seen := s.seen ++ ds }

@[simp] theorem heard_nil (s : Sink) : s.heard [] = s := by
  rw [heard, List.append_nil]

@[simp] theorem heard_heard (s : Sink) (ds es : List Diagnostic) :
    (s.heard ds).heard es = s.heard (ds ++ es) := by
  rw [heard, heard, heard, List.append_assoc]

theorem errorCount_heard (s : Sink) (ds : List Diagnostic) :
    (s.heard ds).errorCount - s.errorCount = ds.countP Diagnostic.isError := by
  rw [errorCount, errorCount, heard, List.countP_append, Nat.add_sub_cancel_left]

theorem reportAll_cons_of_none (ds : List Diagnostic) (hd : s.answer s.seen d = none) :
    s.reportAll (d :: ds) = (s.heard [d]).reportAll ds := by
  rw [reportAll, report, hd]
  rfl

theorem reportAll_cons_of_some (ds : List Diagnostic) (hd : s.answer s.seen d = some e) :
    s.reportAll (d :: ds) = (.error e, s.heard [d]) := by
  rw [reportAll, report, hd]
  rfl

/-- A sink is told of the first diagnostics, and of all of them if it accepts them. -/
theorem exists_heard_of_reportAll (s : Sink) (ds : List Diagnostic) :
    s.reportAll ds = (.ok (), s.heard ds) ∨
      ∃ e front d back, ds = front ++ d :: back ∧
        s.reportAll ds = (.error e, s.heard (front ++ [d])) := by
  induction ds generalizing s with
  | nil => exact .inl (by rw [reportAll, heard_nil])
  | cons d ds ih =>
      cases hd : s.answer s.seen d with
      | some e => exact .inr ⟨e, [], d, ds, rfl, reportAll_cons_of_some ds hd⟩
      | none =>
          rw [reportAll_cons_of_none ds hd]
          rcases ih (s.heard [d]) with hok | ⟨e, front, d', back, rfl, herror⟩
          · exact .inl (by rw [hok, heard_heard, List.singleton_append])
          · refine .inr ⟨e, d :: front, d', back, rfl, ?_⟩
            rw [herror, heard_heard, List.singleton_append, List.cons_append]

theorem reportAll_append (s : Sink) (ds es : List Diagnostic) :
    s.reportAll (ds ++ es) =
      match s.reportAll ds with
      | (.error e, s) => (.error e, s)
      | (.ok _, s) => s.reportAll es := by
  induction ds generalizing s with
  | nil => rfl
  | cons d ds ih =>
      cases hd : s.answer s.seen d with
      | some e => rw [List.cons_append, reportAll_cons_of_some _ hd, reportAll_cons_of_some _ hd]
      | none => rw [List.cons_append, reportAll_cons_of_none _ hd, reportAll_cons_of_none _ hd, ih]

/-- Report diagnostics and end with a result, unless the sink ends it before. -/
def tell {α : Type} (s : Sink) (ds : List Diagnostic) (result : Except CompilationError α) :
    Except CompilationError α × Sink :=
  match s.reportAll ds with
  | (.error e, s) => (.error e, s)
  | (.ok _, s) => (result, s)

theorem of_tell_eq_ok {α : Type} {result : Except CompilationError α} {a : α}
    (ht : (s.tell ds result).1 = .ok a) : result = .ok a := by
  rw [tell] at ht
  split at ht
  · cases ht
  · exact ht

end Sink

/-! ## Providers -/

namespace Tally

/-- What is reported about lines, of which the first has the number `index`. -/
def unreadableLines (unit : String) (index : Nat) : List String → List Diagnostic
  | [] => []
  | raw :: rest =>
    let cs := Text.trimChars raw.toList
    if isSkipped cs ∨ (readLine? cs).isSome then unreadableLines unit (index + 1) rest
    else unreadable unit index (String.ofList cs) :: unreadableLines unit (index + 1) rest

/-- Reading reports the lines that cannot be read, and ends with the others. -/
theorem readLines_eq (unit : String) (sink : Sink) (index : Nat) (lines : List String) :
    readLines unit sink index lines =
      sink.tell (unreadableLines unit index lines) (.ok (lines.filterMap assignment?)) := by
  induction lines generalizing sink index with
  | nil => rfl
  | cons line lines ih =>
      rw [readLines, unreadableLines, List.filterMap_cons, assignment?]
      by_cases hskip : isSkipped (Text.trimChars line.toList) = true
      · simp only [hskip, if_true, true_or]
        exact ih sink (index + 1)
      · cases hline : readLine? (Text.trimChars line.toList) with
        | some a =>
            simp only [hskip, Option.isSome_some, or_true, if_true, if_false, Bool.false_eq_true]
            rw [ih, Sink.tell, Sink.tell]
            cases sink.reportAll (unreadableLines unit (index + 1) lines) with
            | mk result sink' => cases result <;> rfl
        | none =>
            simp only [hskip, Option.isSome_none, Bool.false_eq_true, or_self, if_false]
            rw [Sink.tell, Sink.reportAll]
            cases sink.report _ with
            | mk result sink' =>
                cases result with
                | error e => rfl
                | ok u => exact ih sink' (index + 1)

end Tally

namespace Host

variable {h : Host}

/-- What a provider reports about a unit. -/
def unitDiagnostics (h : Host) (p : ProviderId) (u : SourceUnit) : List Diagnostic :=
  match h.provider p with
  | .script _ _ => (h.program u.id).diagnostics
  | .tally _ _ => Tally.unreadableLines u.id 0 (Text.lines u.text)

/-- What a provider ends with when nothing stops it. -/
def unitResult (h : Host) (p : ProviderId) (u : SourceUnit) : Except CompilationError Code :=
  match h.provider p with
  | .script name _ =>
    match (h.program u.id).failure with
    | some message => .error (.failed name u.id message)
    | none => .ok
      { source := u.id, language := (h.program u.id).language.getD name
        compiled := .script (h.program u.id) none }
  | .tally _ _ =>
    .ok { source := u.id, language := "tally", compiled := .tally (Tally.programOf u.text) none }

/-- The host after a provider compiled a unit, whatever came of it. -/
def afterProvider (h : Host) (p : ProviderId) (u : SourceUnit) (o : Options) : Host :=
  match h.provider p with
  | .script _ _ => h.emit (.compile p u.id o)
  | .tally prepared count =>
    let count := if o.debugMode then count + 1 else count
    { h with providers := h.providers.modify p.index fun _ => .tally prepared count }

theorem compileScript_eq (name : String) (u : SourceUnit) (p : Script.Program) (sink : Sink) :
    compileScript name u p sink = sink.tell p.diagnostics (match p.failure with
      | some message => .error (.failed name u.id message)
      | none => .ok
        { source := u.id, language := p.language.getD name, compiled := .script p none }) := by
  rw [compileScript, Sink.tell]
  cases sink.reportAll p.diagnostics with
  | mk result sink' =>
      cases result with
      | error e => rfl
      | ok done => cases p.failure <;> rfl

theorem compileTally_eq (u : SourceUnit) (sink : Sink) : compileTally u sink =
    sink.tell (Tally.unreadableLines u.id 0 (Text.lines u.text))
      (.ok { source := u.id, language := "tally",
             compiled := .tally (Tally.programOf u.text) none }) := by
  rw [compileTally, Tally.read, Tally.readLines_eq, Sink.tell, Sink.tell]
  cases sink.reportAll (Tally.unreadableLines u.id 0 (Text.lines u.text)) with
  | mk result sink' => cases result <;> rfl

/-- What a provider does to the host, and where it is heading, does not depend on the sink. -/
theorem compileWithProvider_eq (h : Host) (p : ProviderId) (u : SourceUnit) (o : Options)
    (sink : Sink) : h.compileWithProvider p u o sink =
      ((sink.tell (h.unitDiagnostics p u) (h.unitResult p u)).1, h.afterProvider p u o,
        (sink.tell (h.unitDiagnostics p u) (h.unitResult p u)).2) := by
  rw [compileWithProvider, unitDiagnostics, unitResult, afterProvider]
  cases h.provider p with
  | script name quiet => simp only [compileScript_eq]
  | tally prepared count => simp only [compileTally_eq]

/-! ## The course of a compilation -/

/-- Errors that come of a unit and not of a sink. -/
inductive UnitError : ModuleError → Prop where
  | undetermined (unit : String) : UnitError (.undeterminedLanguage unit)
  | registry (e : RegistryError) : UnitError (.registry e)
  | failed (language unit message : String) :
      UnitError (.compilation (.failed language unit message))

/-- A computation that reports diagnostics in order and ends with a result in a host, unless the
sink stops it before. -/
structure Course {α : Type} (run : Sink → Except ModuleError α × Host × Sink)
    (ds : List Diagnostic) (result : Except ModuleError α) (after : Host) : Prop where
  passed : ∀ s s', s.reportAll ds = (.ok (), s') → run s = (result, after, s')
  stopped : ∀ s s' e, s.reportAll ds = (.error e, s') →
    ∃ h', run s = (.error (.compilation e), h', s')
  own : ∀ e, result = .error e → UnitError e

namespace Course

variable {α : Type} {run : Sink → Except ModuleError α × Host × Sink} {ds : List Diagnostic}
  {result : Except ModuleError α} {after : Host}

/-- The sink after a computation was told of some first part of its diagnostics. -/
theorem exists_heard (hc : Course run ds result after) (s : Sink) :
    ∃ front back, ds = front ++ back ∧ (run s).2.2 = s.heard front := by
  rcases s.exists_heard_of_reportAll ds with hok | ⟨e, front, d, back, hsplit, herror⟩
  · exact ⟨ds, [], (List.append_nil ds).symm, by rw [hc.passed _ _ hok]⟩
  · obtain ⟨h', hrun⟩ := hc.stopped _ _ _ herror
    exact ⟨front ++ [d], back, by rw [hsplit, List.append_assoc, List.singleton_append],
      by rw [hrun]⟩

end Course

theorem unitError_of_providerFor {r : RegistryId} {u : SourceUnit} {e : ModuleError} {h' : Host}
    (hp : h.providerFor r u = (.error e, h')) : UnitError e := by
  simp only [providerFor] at hp
  split at hp
  · cases hp
    exact .undetermined _
  · cases hp
    exact .registry _
  · cases hp

theorem unitError_of_unitResult {p : ProviderId} {u : SourceUnit} {e : CompilationError}
    (hu : h.unitResult p u = .error e) : UnitError (.compilation e) := by
  rw [unitResult] at hu
  split at hu
  · split at hu
    · cases hu
      exact .failed _ _ _
    · cases hu
  · cases hu

theorem exists_course_compileUnit (h : Host) (c : Compiler) (u : SourceUnit) :
    ∃ ds result after, Course (h.compileUnit c u) ds result after := by
  cases hp : h.providerFor c.registry u with
  | mk found h₁ =>
      cases found with
      | error e =>
          refine ⟨[], .error e, h₁, fun s s' hs => ?_, fun s s' e' hs => ?_, fun e' he => ?_⟩
          · cases hs
            simp only [compileUnit, hp]
          · cases hs
          · cases he
            exact unitError_of_providerFor hp
      | ok p =>
          cases hu : h₁.unitResult p u with
          | error e =>
              refine ⟨h₁.unitDiagnostics p u, .error (.compilation e),
                h₁.afterProvider p u c.options, fun s s' hs => ?_, fun s s' e' hs => ?_,
                fun e' he => ?_⟩
              · simp only [compileUnit, hp, compileWithProvider_eq, Sink.tell, hs, hu]
              · exact ⟨h₁.afterProvider p u c.options, by
                  simp only [compileUnit, hp, compileWithProvider_eq, Sink.tell, hs]⟩
              · cases he
                exact unitError_of_unitResult hu
          | ok code =>
              let added := (h₁.afterProvider p u c.options).addCode { code with provider := some p }
              refine ⟨h₁.unitDiagnostics p u, .ok added.1, added.2, fun s s' hs => ?_,
                fun s s' e' hs => ?_, fun e' he => ?_⟩
              · simp only [compileUnit, hp, compileWithProvider_eq, Sink.tell, hs, hu]
                rfl
              · exact ⟨h₁.afterProvider p u c.options, by
                  simp only [compileUnit, hp, compileWithProvider_eq, Sink.tell, hs]⟩
              · cases he

/-- Induction on the units: the diagnostics of a unit come before those of the next one. -/
theorem exists_course_compileUnits (c : Compiler) (us : List SourceUnit) (h : Host) :
    ∃ ds result after, Course (compileUnits c us h) ds result after := by
  induction us generalizing h with
  | nil =>
      refine ⟨[], .ok [], h, fun s s' hs => ?_, fun s s' e hs => ?_, fun e he => ?_⟩
      · cases hs
        rfl
      · cases hs
      · cases he
  | cons u us ih =>
      obtain ⟨ds, result, h₁, hfirst⟩ := exists_course_compileUnit h c u
      cases result with
      | error e =>
          refine ⟨ds, .error e, h₁, fun s s' hs => ?_, fun s s' e' hs => ?_, fun e' he => ?_⟩
          · simp only [compileUnits, hfirst.passed s s' hs]
          · obtain ⟨h', hrun⟩ := hfirst.stopped s s' e' hs
            exact ⟨h', by simp only [compileUnits, hrun]⟩
          · cases he
            exact hfirst.own e rfl
      | ok id =>
          obtain ⟨ds', result', h₂, hrest⟩ := ih h₁
          refine ⟨ds ++ ds', result'.map (id :: ·), h₂, fun s s' hs => ?_, fun s s' e hs => ?_,
            fun e he => ?_⟩
          · rw [Sink.reportAll_append] at hs
            cases hds : s.reportAll ds with
            | mk answer s₁ =>
                rw [hds] at hs
                cases answer with
                | error e => cases hs
                | ok done =>
                    simp only [compileUnits, hfirst.passed s s₁ hds, hrest.passed s₁ s' hs]
                    cases result' <;> rfl
          · rw [Sink.reportAll_append] at hs
            cases hds : s.reportAll ds with
            | mk answer s₁ =>
                rw [hds] at hs
                cases answer with
                | error e' =>
                    cases hs
                    obtain ⟨h', hrun⟩ := hfirst.stopped s s' e hds
                    exact ⟨h', by simp only [compileUnits, hrun]⟩
                | ok done =>
                    obtain ⟨h', hrun⟩ := hrest.stopped s₁ s' e hs
                    exact ⟨h', by simp only [compileUnits, hfirst.passed s s₁ hds, hrun]⟩
          · cases result' with
            | error e' =>
                cases he
                exact hrest.own e rfl
            | ok ids => cases he

end Host

end Polyglot
