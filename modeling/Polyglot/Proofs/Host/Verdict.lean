import Polyglot.Proofs.Host.Outcome

/-!
# Polyglot.Proofs.Host.Verdict

The sink never decides which programs compile.  Three sinks are told of the same diagnostics, as
far as each of them goes on:

```
raising       d₁ … dᵢ           up to the first error
collecting    d₁ … dᵢ … dⱼ      up to the first fatal one, or all
accepting     d₁ … dᵢ … dⱼ … dₙ all
```

If there is no error among them, all three see the whole course and end in the same way.  If
there is one, the raising sink ends the compilation with the first of them, and the others cannot
end with a module either, because an error was reported (`sinks_agree`).
-/

namespace Polyglot

theorem isError_of_fatal {d : Diagnostic} (hd : d.severity = .fatal) : d.isError = true := by
  rw [Diagnostic.isError, hd]
  rfl

namespace Sink

variable {s : Sink} {ds front : List Diagnostic} {d : Diagnostic} {e : CompilationError}

theorem reportAll_of_accepted (ha : ∀ seen, ∀ d ∈ ds, s.answer seen d = none) :
    s.reportAll ds = (.ok (), s.heard ds) := by
  induction ds generalizing s with
  | nil => rw [reportAll, heard_nil]
  | cons d ds ih =>
      rw [reportAll_cons_of_none ds (ha s.seen d List.mem_cons_self), ih, heard_heard,
        List.singleton_append]
      exact fun seen d' hd' => ha seen d' (List.mem_cons_of_mem d hd')

theorem reportAll_of_stopped (back : List Diagnostic)
    (ha : ∀ seen, ∀ d ∈ front, s.answer seen d = none)
    (hd : (s.heard front).answer (s.heard front).seen d = some e) :
    s.reportAll (front ++ d :: back) = (.error e, s.heard (front ++ [d])) := by
  rw [reportAll_append, reportAll_of_accepted ha]
  simp only [reportAll_cons_of_some back hd, heard_heard]

theorem answer_collecting (seen : List Diagnostic) (d : Diagnostic) :
    collecting.answer seen d = if d.severity = .fatal then some (.reported d) else none := rfl

/-- All of the diagnostics, or those up to the first fatal one, which is an error. -/
theorem reportAll_collecting (ds : List Diagnostic) :
    collecting.reportAll ds = (.ok (), collecting.heard ds) ∨
      ∃ front d back, ds = front ++ d :: back ∧ d.isError = true ∧
        collecting.reportAll ds = (.error (.reported d), collecting.heard (front ++ [d])) := by
  cases hfind : ds.find? fun d => decide (d.severity = .fatal) with
  | none =>
      refine .inl (reportAll_of_accepted fun seen d hd => ?_)
      have hno := List.find?_eq_none.1 hfind d hd
      rw [answer_collecting, if_neg (by simpa using hno)]
  | some d =>
      obtain ⟨hd, front, back, rfl, hfront⟩ := List.find?_eq_some_iff_append.1 hfind
      have hfatal : d.severity = .fatal := by simpa using hd
      refine .inr ⟨front, d, back, rfl, isError_of_fatal hfatal, ?_⟩
      refine reportAll_of_stopped back (fun seen d' hd' => ?_) (if_pos hfatal)
      have hno := hfront d' hd'
      rw [answer_collecting, if_neg (by simpa using hno)]

end Sink

namespace Host

variable {h : Host} {c : Compiler} {name : String} {scope : Option ScopeId}
  {units : List SourceUnit} {ds : List Diagnostic} {result : Except ModuleError Module}
  {after : Host}

/-- The course of compiling a module.  What it ends with counts only if no error is reported. -/
structure ModuleCourse (h : Host) (c : Compiler) (name : String) (scope : Option ScopeId)
    (units : List SourceUnit) (ds : List Diagnostic) (result : Except ModuleError Module)
    (after : Host) : Prop where
  quiet : ds.countP Diagnostic.isError = 0 → ∀ s : Sink, s.reportAll ds = (.ok (), s.heard ds) →
    h.compileModule c name scope units s = (result, after, s.heard ds)
  loud : 0 < ds.countP Diagnostic.isError → ∀ s : Sink, s.reportAll ds = (.ok (), s.heard ds) →
    ∃ e h', h.compileModule c name scope units s = (.error e, h', s.heard ds) ∧
      (UnitError e ∨ e = .diagnosticsReported name (ds.countP Diagnostic.isError))
  stopped : ∀ (s s' : Sink) e, s.reportAll ds = (.error e, s') →
    ∃ h', h.compileModule c name scope units s = (.error (.compilation e), h', s')
  own : ∀ e, result = .error e → UnitError e

/-- If units can be compiled, the code can be assembled. -/
theorem exists_createModule_of_course {ids : List CodeId}
    (hc : Course (compileUnits c units h) ds (.ok ids) after) (name : String)
    (scope : Option ScopeId) : ∃ m h', after.createModule c name scope ids = (.ok m, h') := by
  have hrun := hc.passed .accepting _ (Sink.reportAll_of_accepted fun _ _ _ => rfl)
  rcases allCompile_or_firstFailing h c .accepting units with hall | ⟨before, u, e, hf⟩
  · obtain ⟨m, h', hids, hm⟩ := exists_createModule_of_allCompile name scope hall
    rw [hrun] at hids
    obtain ⟨hcode, hturn⟩ := Prod.mk.inj hids
    refine ⟨m, h', ?_⟩
    rw [Except.ok.inj hcode, ← hm c.registry, ← hturn]
  · rw [compileUnits_of_firstFailing hf] at hrun
    cases (Prod.mk.inj hrun).1

theorem exists_moduleCourse (h : Host) (c : Compiler) (name : String) (scope : Option ScopeId)
    (units : List SourceUnit) :
    ∃ ds result after, ModuleCourse h c name scope units ds result after := by
  obtain ⟨ds, result, after, hc⟩ := exists_course_compileUnits c units h
  have hstopped : ∀ (s s' : Sink) e, s.reportAll ds = (.error e, s') →
      ∃ h', h.compileModule c name scope units s = (.error (.compilation e), h', s') := by
    intro s s' e hs
    obtain ⟨h', hrun⟩ := hc.stopped s s' e hs
    exact ⟨h', by rw [compileModule, hrun]⟩
  cases result with
  | error e =>
      have hends : ∀ s : Sink, s.reportAll ds = (.ok (), s.heard ds) →
          h.compileModule c name scope units s = (.error e, after, s.heard ds) := by
        intro s hs
        rw [compileModule, hc.passed s _ hs]
      refine ⟨ds, .error e, after, fun _ => hends,
        fun _ s hs => ⟨e, after, hends s hs, .inl (hc.own e rfl)⟩, hstopped, fun e' he' => ?_⟩
      cases he'
      exact hc.own e rfl
  | ok ids =>
      obtain ⟨m, h', hm⟩ := exists_createModule_of_course hc name scope
      refine ⟨ds, .ok m, h', fun hnone s hs => ?_, fun hsome s hs => ?_, hstopped,
        fun e he => by cases he⟩
      · rw [compileModule, hc.passed s _ hs]
        simp only [Sink.errorCount_heard, hnone, Nat.lt_irrefl, if_false, hm]
      · refine ⟨_, after, ?_, .inr rfl⟩
        rw [compileModule, hc.passed s _ hs]
        simp only [Sink.errorCount_heard, hsome, if_true]

/-- The three sinks. -/
def threeSinks : List Sink := [.raising, .collecting, .accepting]

/-- Without an error, every sink is told of everything. -/
theorem reportAll_of_quiet (hquiet : ds.countP Diagnostic.isError = 0) {s : Sink}
    (hs : s ∈ threeSinks) : s.reportAll ds = (.ok (), s.heard ds) := by
  have hno : ∀ d ∈ ds, ¬ d.isError = true := List.countP_eq_zero.1 hquiet
  simp only [threeSinks, List.mem_cons, List.not_mem_nil, or_false] at hs
  rcases hs with rfl | rfl | rfl
  · exact Sink.reportAll_of_accepted fun _ d hd => if_neg (hno d hd)
  · exact Sink.reportAll_of_accepted fun _ d hd =>
      if_neg fun hfatal => hno d hd (isError_of_fatal hfatal)
  · exact Sink.reportAll_of_accepted fun _ _ _ => rfl

/-- With an error, the raising sink ends the compilation at the first one. -/
theorem raising_of_first_error (hc : ModuleCourse h c name scope units ds result after)
    {d : Diagnostic} (hd : ds.find? Diagnostic.isError = some d) :
    (h.compileModule c name scope units .raising).1 = .error (.compilation (.reported d)) := by
  obtain ⟨herror, front, back, rfl, hfront⟩ := List.find?_eq_some_iff_append.1 hd
  have hs : Sink.raising.reportAll (front ++ d :: back) =
      (.error (.reported d), Sink.raising.heard (front ++ [d])) :=
    Sink.reportAll_of_stopped back (fun _ d' hd' => if_neg (by simpa using hfront d' hd'))
      (if_pos herror)
  obtain ⟨h', hrun⟩ := hc.stopped _ _ _ hs
  rw [hrun]

/-- With an error, the collecting sink has collected the first one, and counts those that the
compilation may end with. -/
theorem collecting_of_first_error (hc : ModuleCourse h c name scope units ds result after)
    {d : Diagnostic} (hd : ds.find? Diagnostic.isError = some d) :
    ∃ e h' seen, h.compileModule c name scope units .collecting =
        (.error e, h', Sink.collecting.heard seen) ∧
      seen.find? Diagnostic.isError = some d ∧
      ∀ module n, e = .diagnosticsReported module n → n = seen.countP Diagnostic.isError := by
  rcases Sink.reportAll_collecting ds with hs | ⟨front, f, back, rfl, hf, hs⟩
  · have hloud : 0 < ds.countP Diagnostic.isError :=
      List.countP_pos_iff.2 ⟨d, List.mem_of_find?_eq_some hd, List.find?_some hd⟩
    obtain ⟨e, h', hrun, hown⟩ := hc.loud hloud _ hs
    refine ⟨e, h', ds, hrun, hd, fun module n he => ?_⟩
    subst he
    rcases hown with hunit | heq
    · cases hunit
    · cases heq
      rfl
  · obtain ⟨h', hrun⟩ := hc.stopped _ _ _ hs
    refine ⟨_, h', front ++ [f], hrun, ?_, fun module n he => by cases he⟩
    -- the fatal diagnostic is an error, so the first error is not after it
    rw [List.append_cons, List.find?_append] at hd
    cases hfirst : (front ++ [f]).find? Diagnostic.isError with
    | some d' =>
        rw [hfirst] at hd
        exact hd
    | none => exact absurd hf (List.find?_eq_none.1 hfirst f (by simp))

theorem accepting_of_error (hc : ModuleCourse h c name scope units ds result after)
    (hloud : 0 < ds.countP Diagnostic.isError) :
    ∃ e, (h.compileModule c name scope units .accepting).1 = .error e := by
  obtain ⟨e, h', hrun, -⟩ := hc.loud hloud .accepting (Sink.reportAll_of_accepted fun _ _ _ => rfl)
  exact ⟨e, by rw [hrun]⟩

/-- **Sinks agree.**  Compile the same units in the same state with three sinks: one that raises
every error, one that collects them, and one that accepts everything.

* There is the same module in the same host in all three cases, or in none of them.
* If the first sink ends the compilation with a diagnostic, this is the first error that the
  second one collected.
* If the second one collected no error, all three end with the same error if they end with one.
* The number of errors that the second compilation ends with is the number of those that its sink
  has counted. -/
theorem sinks_agree (h : Host) (c : Compiler) (name : String) (scope : Option ScopeId)
    (units : List SourceUnit) :
    ((∃ m h', ∀ s ∈ threeSinks,
        ∃ s', h.compileModule c name scope units s = (.ok m, h', s')) ∨
      ∀ s ∈ threeSinks,
        ∃ e, (h.compileModule c name scope units s).1 = .error e) ∧
    (∀ d, (h.compileModule c name scope units .raising).1 = .error (.compilation (.reported d)) →
      (h.compileModule c name scope units .collecting).2.2.seen.find? Diagnostic.isError =
        some d) ∧
    ((h.compileModule c name scope units .collecting).2.2.errorCount = 0 →
      ∀ e, ∀ s ∈ threeSinks,
        (h.compileModule c name scope units s).1 = .error e →
          ∀ s' ∈ threeSinks,
            (h.compileModule c name scope units s').1 = .error e) ∧
    ∀ module n,
      (h.compileModule c name scope units .collecting).1 = .error (.diagnosticsReported module n) →
      n = (h.compileModule c name scope units .collecting).2.2.errorCount := by
  obtain ⟨ds, result, after, hc⟩ := exists_moduleCourse h c name scope units
  rcases Nat.eq_zero_or_pos (ds.countP Diagnostic.isError) with hquiet | hloud
  · have hrun : ∀ s ∈ threeSinks, h.compileModule c name scope units s =
        (result, after, s.heard ds) := fun s hs => hc.quiet hquiet s (reportAll_of_quiet hquiet hs)
    have hends : ∀ s ∈ threeSinks, (h.compileModule c name scope units s).1 = result :=
      fun s hs => by rw [hrun s hs]
    refine ⟨?_, fun d hd => ?_, fun _ e s hs he s' hs' => ?_, fun module n hn => ?_⟩
    · cases result with
      | ok m => exact .inl ⟨m, after, fun s hs => ⟨_, hrun s hs⟩⟩
      | error e => exact .inr fun s hs => ⟨e, hends s hs⟩
    · cases hc.own _ ((hends .raising (by simp [threeSinks])).symm.trans hd)
    · exact (hends s' hs').trans ((hends s hs).symm.trans he)
    · cases hc.own _ ((hends .collecting (by simp [threeSinks])).symm.trans hn)
  · obtain ⟨d, hd⟩ := Option.isSome_iff_exists.1
      (List.find?_isSome.2 (List.countP_pos_iff.1 hloud))
    have hraising := raising_of_first_error hc hd
    obtain ⟨e, h', seen, hcollecting, hfirst, hcount⟩ := collecting_of_first_error hc hd
    have herrors : (Sink.collecting.heard seen).errorCount = seen.countP Diagnostic.isError := rfl
    rw [hcollecting]
    refine ⟨.inr fun s hs => ?_, fun d' hd' => ?_, fun hnone => ?_, fun module n hn => ?_⟩
    · simp only [threeSinks, List.mem_cons, List.not_mem_nil, or_false] at hs
      rcases hs with rfl | rfl | rfl
      · exact ⟨_, hraising⟩
      · exact ⟨e, by rw [hcollecting]⟩
      · exact accepting_of_error hc hloud
    · rw [hraising] at hd'
      cases hd'
      exact hfirst
    · have hpos : 0 < seen.countP Diagnostic.isError :=
        List.countP_pos_iff.2 ⟨d, List.mem_of_find?_eq_some hfirst, List.find?_some hfirst⟩
      rw [herrors] at hnone
      exact absurd hnone (Nat.ne_of_gt hpos)
    · exact (hcount module n (Except.error.inj hn)).trans herrors.symm

end Host

end Polyglot
