import Polyglot.Proofs.Call.Site

/-!
# Polyglot.Proofs.Call.Acceptance

What a guard promises.  Whether a call can be bound is decided on the kinds of its arguments, and
its arguments are built from their values; each builder does the one in `check` and the other in
`build`:

```
             asks of the shape                   fails to build if
simple i     a place i, of the right kind        argument i is missing or of another kind
default i    the right kind at i, if i is there  argument i is there and of another kind
params i     the right kind from i on            an argument from i on is of another kind
context      nothing                             never
constant     nothing                             never
```

The two columns say the same (`accepts_iff_builds`), so a set of builders takes a call exactly
when it can build its arguments and has a place for all of them (`guard_holds_iff_buildable`).
A call site therefore never reports a failure of a builder (`guard_promises_arguments`).
-/

namespace Polyglot

namespace Shape

@[simp] theorem size_ofArgs (args : List Value) : (ofArgs args).size = args.length := by
  simp [ofArgs, size]

@[simp] theorem kindAt?_ofArgs (args : List Value) (i : Nat) :
    (ofArgs args).kindAt? i = args[i]?.map Value.kind := by
  simp [ofArgs, kindAt?]

end Shape

/-! ## One builder -/

namespace Builder

/-- Whether a builder is one of the library's own, and not one that an application supplies. -/
def isBuiltIn : Builder → Bool
  | custom _ _ _ _ _ => false
  | bare _ => false
  | _ => true

/-- Whether a shape has what a builder asks for. -/
def Accepts (b : Builder) (c : Context) (s : Shape) : Prop :=
  ∀ g, b.check c s = some g → g.holds s = true

/-- Whether a builder can make its argument. -/
def Builds (b : Builder) (c : Context) (args : List Value) : Prop :=
  ∃ v, b.build c args = .ok v

theorem checkKind_none (v : Value) : checkKind none v = .ok () := rfl

theorem checkKind_some_eq_ok_iff {k : Kind} {v : Value} :
    checkKind (some k) v = .ok () ↔ v.kind = k := by
  by_cases hk : v.kind = k <;> simp [checkKind, hk]

theorem checkKinds_eq_ok_iff {k : Option Kind} {vs : List Value} :
    checkKinds k vs = .ok () ↔ ∀ v ∈ vs, checkKind k v = .ok () := by
  induction vs with
  | nil => simp [checkKinds]
  | cons v vs ih =>
      cases hv : checkKind k v with
      | error e => simp [checkKinds, hv]
      | ok u => simp [checkKinds, hv, ih]

/-- What is made after a check is made if the check succeeds. -/
theorem exists_map_eq_ok_iff {check : Except RuntimeError Unit} {v : Value} :
    (∃ w, check.map (fun _ => v) = .ok w) ↔ check = .ok () := by
  cases check <;> simp [Except.map]

theorem builds_simple_iff {i : Nat} {k : Option Kind} {c : Context} {args : List Value} :
    (simple i k).Builds c args ↔ ∃ v, args[i]? = some v ∧ checkKind k v = .ok () := by
  cases hv : args[i]? with
  | none => simp [Builds, build, hv]
  | some v =>
      simp only [Builds, build, hv, exists_map_eq_ok_iff, Option.some.injEq, exists_eq_left']

theorem builds_default_iff {i : Nat} {d : Value} {k : Option Kind} {c : Context}
    {args : List Value} :
    (default i d k).Builds c args ↔ ∀ v, args[i]? = some v → checkKind k v = .ok () := by
  cases hv : args[i]? with
  | none => simp [Builds, build, hv]
  | some v =>
      simp only [Builds, build, hv, exists_map_eq_ok_iff, Option.some.injEq, forall_eq']

theorem builds_params_iff {start : Nat} {k : Option Kind} {c : Context} {args : List Value} :
    (params start k).Builds c args ↔ ∀ v ∈ args.drop start, checkKind k v = .ok () := by
  rw [Builds, build, exists_map_eq_ok_iff, checkKinds_eq_ok_iff]

theorem accepts_simple_iff {i : Nat} {k : Option Kind} {c : Context} {args : List Value} :
    (simple i k).Accepts c (.ofArgs args) ↔ ∃ v, args[i]? = some v ∧ checkKind k v = .ok () := by
  cases k with
  | none =>
      have hguard : (simple i none).Accepts c (.ofArgs args) ↔ i + 1 ≤ args.length := by
        simp [Accepts, check, Guard.holds]
      simp only [hguard, checkKind_none, and_true]
      constructor
      · intro hi
        exact ⟨args[i], List.getElem?_eq_getElem hi⟩
      · rintro ⟨v, hv⟩
        exact (List.getElem?_eq_some_iff.1 hv).1
  | some k =>
      have hplace : args[i]?.map Value.kind = some k → i + 1 ≤ args.length := fun h => by
        obtain ⟨v, hv, -⟩ := Option.map_eq_some_iff.1 h
        exact (List.getElem?_eq_some_iff.1 hv).1
      have hguard : (simple i (some k)).Accepts c (.ofArgs args) ↔
          i + 1 ≤ args.length ∧ args[i]?.map Value.kind = some k := by
        simp [Accepts, check, Guard.holds]
      rw [hguard, and_iff_right_of_imp hplace, Option.map_eq_some_iff]
      simp only [checkKind_some_eq_ok_iff]

theorem accepts_default_iff {i : Nat} {d : Value} {k : Option Kind} {c : Context}
    {args : List Value} :
    (default i d k).Accepts c (.ofArgs args) ↔ ∀ v, args[i]? = some v → checkKind k v = .ok () := by
  cases k with
  | none => simp [Accepts, check, checkKind_none]
  | some k =>
      by_cases hi : i < args.length
      · simp [Accepts, check, Guard.holds, hi, checkKind_some_eq_ok_iff]
      · have hnone : args[i]? = none := List.getElem?_eq_none (Nat.not_lt.1 hi)
        simp [Accepts, check, hi]

/-- The arguments from `start` on, place by place. -/
theorem forall_mem_drop_iff {start : Nat} {k : Kind} {args : List Value} :
    (∀ v ∈ args.drop start, v.kind = k) ↔
      ∀ i ∈ List.range' start (args.length - start), args[i]?.map Value.kind = some k := by
  constructor
  · intro hkinds i hi
    obtain ⟨hle, hlt⟩ : start ≤ i ∧ i < args.length := by
      have hbounds := List.mem_range'_1.1 hi
      omega
    have hplace : args[i]? = (args.drop start)[i - start]? := by
      rw [List.getElem?_drop, Nat.add_sub_of_le hle]
    have hmem : args[i] ∈ args.drop start := by
      apply List.mem_of_getElem? (i := i - start)
      rw [← hplace, List.getElem?_eq_getElem hlt]
    rw [List.getElem?_eq_getElem hlt, Option.map_some, hkinds _ hmem]
  · intro hplaces v hv
    obtain ⟨j, hj⟩ := List.mem_iff_getElem?.1 hv
    rw [List.getElem?_drop] at hj
    have hlt : start + j < args.length := (List.getElem?_eq_some_iff.1 hj).1
    have hkind := hplaces (start + j) (by rw [List.mem_range'_1]; omega)
    rw [hj, Option.map_some] at hkind
    exact Option.some.inj hkind

theorem accepts_params_iff {start : Nat} {k : Option Kind} {c : Context} {args : List Value} :
    (params start k).Accepts c (.ofArgs args) ↔
      ∀ v ∈ args.drop start, checkKind k v = .ok () := by
  cases k with
  | none => simp [Accepts, check, checkKind_none]
  | some k =>
      simp only [checkKind_some_eq_ok_iff]
      by_cases hstart : start < args.length
      · rw [forall_mem_drop_iff, Accepts, check, Shape.size_ofArgs, if_pos hstart]
        simp only [Option.some.injEq, forall_eq', Guard.conj_holds_iff, List.forall_mem_map,
          Guard.holds, decide_eq_true_eq, Shape.kindAt?_ofArgs]
      · have hnone : args.drop start = [] := List.drop_eq_nil_of_le (Nat.not_lt.1 hstart)
        simp [Accepts, check, hstart, hnone]

/-- What a builder asks of the shape of a call is what it needs of its arguments. -/
theorem accepts_iff_builds {b : Builder} (hb : b.isBuiltIn = true) (c : Context)
    (args : List Value) : b.Accepts c (.ofArgs args) ↔ b.Builds c args := by
  cases b with
  | context => simp [Accepts, check, Builds, build]
  | simple i k => rw [accepts_simple_iff, builds_simple_iff]
  | default i d k => rw [accepts_default_iff, builds_default_iff]
  | params start k => rw [accepts_params_iff, builds_params_iff]
  | constant v => simp [Accepts, check, Builds, build]
  | custom tag p n v g => simp [isBuiltIn] at hb
  | bare n => simp [isBuiltIn] at hb

end Builder

/-! ## A set of builders -/

namespace BuilderSet

/-- Whether all builders are the library's own. -/
def BuiltIn (bs : BuilderSet) : Prop := ∀ b ∈ bs.builders, b.isBuiltIn = true

/-- Ordering builders by their priorities keeps what they are. -/
theorem builtIn_ofList_iff (bs : List Builder) :
    (ofList bs).BuiltIn ↔ ∀ b ∈ bs, b.isBuiltIn = true := by
  simp [BuiltIn, ofList]

/-- Whether the arguments of a call can be built, and none of them is left over. -/
def Buildable (bs : BuilderSet) (c : Context) (args : List Value) : Prop :=
  (∃ physical, bs.build c args = .ok physical) ∧
    (bs.isVariadic = true ∨ args.length ≤ bs.arity)

theorem exists_buildList_eq_ok_iff (c : Context) (args : List Value) (bs : List Builder) :
    (∃ physical, buildList c args bs = .ok physical) ↔ ∀ b ∈ bs, b.Builds c args := by
  induction bs with
  | nil => simp [buildList]
  | cons b bs ih =>
      rw [List.forall_mem_cons, ← ih, Builder.Builds]
      cases hb : b.build c args with
      | error e => simp [buildList, hb]
      | ok v => cases hrest : buildList c args bs <;> simp [buildList, hb, hrest, Except.map]

/-- What the guard of a set of builders asks of a shape: that no argument is left over, and what
each builder asks. -/
theorem guard_holds_iff (bs : BuilderSet) (c : Context) (s : Shape) :
    (bs.guard c s).holds s = true ↔
      (bs.isVariadic = true ∨ s.size ≤ bs.arity) ∧ ∀ b ∈ bs.builders, b.Accepts c s := by
  have hparts : (∀ g ∈ bs.builders.filterMap (fun b => b.check c s), g.holds s = true) ↔
      ∀ b ∈ bs.builders, b.Accepts c s := by
    simp only [List.mem_filterMap, Builder.Accepts]
    grind
  rw [guard, Guard.conj_holds_iff, List.forall_mem_append, List.forall_mem_cons, hparts]
  cases bs.isVariadic <;> simp [Guard.holds]

theorem guard_holds_iff_buildable {bs : BuilderSet} (hbs : bs.BuiltIn) (c : Context)
    (args : List Value) :
    (bs.guard c (.ofArgs args)).holds (.ofArgs args) = true ↔ bs.Buildable c args := by
  have hparts : (∀ b ∈ bs.builders, b.Accepts c (.ofArgs args)) ↔
      ∃ physical, bs.build c args = .ok physical := by
    rw [build, exists_buildList_eq_ok_iff]
    exact forall₂_congr fun b hb => Builder.accepts_iff_builds (hbs b hb) c args
  rw [guard_holds_iff, hparts, Shape.size_ofArgs, Buildable, and_comm]

end BuilderSet

/-! ## Call sites -/

/-- Whether all builders of a candidate are the library's own. -/
def Candidate.BuiltIn (m : Candidate) : Prop := m.builders.BuiltIn

theorem Candidate.takes_invoke_iff {m : Candidate} (hm : m.BuiltIn) (st : Store) (c : Context)
    (args : List Value) : m.Takes (.invoke st c args) ↔ m.builders.Buildable c args :=
  BuilderSet.guard_holds_iff_buildable hm c args

namespace CallSite

/-- What a call answers in any state of a site: a failure if no candidate takes it, and else what
the first candidate that takes it answers. -/
theorem invoke_after_new (name : Symbol) (ms : List Candidate) (earlier : List Call) (st : Store)
    (c : Context) (args : List Value) :
    (∀ m ∈ ms, ¬ m.Takes (.invoke st c args)) ∧
      (((new name ms).after earlier).invoke st c args).1 =
        .error (.binding (.noApplicableMethod name.text (Shape.ofArgs args).display)) ∨
    ∃ m ∈ ms, m.Takes (.invoke st c args) ∧
      (((new name ms).after earlier).invoke st c args).1 = m.invoke st c args := by
  have hstep := congrArg Prod.fst (step_stateAfter name ms earlier (.invoke st c args))
  rw [← after_new] at hstep
  cases hfound : firstTaking ms (Call.invoke st c args).shape with
  | none =>
      left
      refine ⟨(firstTaking_eq_none_iff ms (.invoke st c args)).1 (by rw [hfound]; rfl), ?_⟩
      rw [hfound] at hstep
      exact Call.Answer.value.inj hstep
  | some i =>
      right
      have hfirst := (firstTaking_eq_some_iff ms (.invoke st c args) i).1 (by rw [hfound]; rfl)
      obtain ⟨m, hm, htakes⟩ := hfirst.1
      have hget : ms.get i = m := by
        rw [List.getElem?_eq_getElem i.isLt] at hm
        exact Option.some.inj hm
      refine ⟨m, List.mem_of_getElem? hm, htakes, ?_⟩
      rw [hfound, Option.map_some, hget] at hstep
      exact Call.Answer.value.inj hstep

/-- **Guards promise arguments.**  The guard of a set of the library's builders holds for a call
exactly when the arguments of the call can be built and none of them is left over.

So a call site whose candidates use these builders never reports a failure of a builder, whatever
it was used for before.  If no candidate has a use for the arguments it says that no method is
applicable; otherwise one candidate builds its arguments, and the site answers what the procedure
answers to them. -/
theorem guard_promises_arguments :
    (∀ bs : BuilderSet, bs.BuiltIn → ∀ (c : Context) (args : List Value),
      (bs.guard c (.ofArgs args)).holds (.ofArgs args) = true ↔
        (∃ physical, bs.build c args = .ok physical) ∧
          (bs.isVariadic = true ∨ args.length ≤ bs.arity)) ∧
    ∀ (name : Symbol) (ms : List Candidate), (∀ m ∈ ms, m.BuiltIn) →
      ∀ (earlier : List Call) (st : Store) (c : Context) (args : List Value),
        let answer := (((new name ms).after earlier).invoke st c args).1
        (∀ m ∈ ms, ¬ m.builders.Buildable c args) ∧
          answer = .error (.binding (.noApplicableMethod name.text (Shape.ofArgs args).display)) ∨
        ∃ m ∈ ms, ∃ physical, m.builders.build c args = .ok physical ∧
          (m.builders.isVariadic = true ∨ args.length ≤ m.builders.arity) ∧
          answer = m.procedure.call st physical := by
  refine ⟨fun bs hbs c args => BuilderSet.guard_holds_iff_buildable hbs c args,
    fun name ms hms earlier st c args => ?_⟩
  rcases invoke_after_new name ms earlier st c args with ⟨hnone, hfails⟩ | ⟨m, hm, htakes, hcalls⟩
  · left
    refine ⟨fun m hm hbuildable => hnone m hm ?_, hfails⟩
    exact (Candidate.takes_invoke_iff (hms m hm) st c args).2 hbuildable
  · right
    obtain ⟨⟨physical, hbuilt⟩, hplaces⟩ :=
      (Candidate.takes_invoke_iff (hms m hm) st c args).1 htakes
    refine ⟨m, hm, physical, hbuilt, hplaces, ?_⟩
    rw [hcalls, Candidate.invoke, hbuilt]

/-- A procedure that lists what it is given: the context, a text, an integer or else 7, nil, and
any further integers. -/
def lister : Candidate where
  builders := .ofList [.params 2 (some .int), .simple 0 (some .str), .context,
    .default 1 (.int 7) (some .int), .constant .nil]
  procedure := ⟨"lister", .named "list", .list⟩

/-- The context comes first and the further integers last. -/
theorem builders_lister :
    lister.builders = ⟨[.context, .simple 0 (some .str), .default 1 (.int 7) (some .int),
      .constant .nil, .params 2 (some .int)]⟩ := by
  simp [lister, BuilderSet.ofList, List.mergeSort, Builder.priority, Builder.contextPriority,
    Builder.normalPriority, Builder.paramsPriority]

/-- Its guard lets integers follow the text and nothing else, and a site calls it although it was
called in vain before. -/
theorem guard_promises_arguments_lister :
    lister.BuiltIn ∧
    (lister.builders.guard .empty (.ofArgs [.str "a", .int 1, .int 2])).holds
      (.ofArgs [.str "a", .int 1, .int 2]) = true ∧
    (lister.builders.guard .empty (.ofArgs [.str "a", .int 1, .nil])).holds
      (.ofArgs [.str "a", .int 1, .nil]) ≠ true ∧
    (((new (.named "list") [lister]).after [.invoke .empty .empty [.nil]]).invoke
      .empty .empty [.str "a"]).1 =
        .ok (.list [.context .empty, .str "a", .int 7, .nil, .list []]) := by
  have hbuiltIn : lister.BuiltIn := (BuilderSet.builtIn_ofList_iff _).2 (by decide)
  obtain ⟨hguard, hsite⟩ := guard_promises_arguments
  refine ⟨hbuiltIn, ?_, ?_, ?_⟩
  · rw [hguard _ hbuiltIn, builders_lister]
    exact ⟨⟨_, rfl⟩, .inl rfl⟩
  · rw [ne_eq, hguard _ hbuiltIn, builders_lister]
    rintro ⟨⟨physical, hbuilt⟩, -⟩
    cases hbuilt
  · have hms : ∀ m ∈ [lister], m.BuiltIn := fun m hm => List.mem_singleton.1 hm ▸ hbuiltIn
    rcases hsite (.named "list") [lister] hms [.invoke .empty .empty [.nil]] .empty .empty
      [.str "a"] with ⟨hnone, -⟩ | ⟨m, hm, physical, hbuilt, -, hanswer⟩
    · refine absurd ?_ (hnone lister List.mem_cons_self)
      rw [BuilderSet.Buildable, builders_lister]
      exact ⟨⟨_, rfl⟩, .inl rfl⟩
    · obtain rfl := List.mem_singleton.1 hm
      rw [builders_lister] at hbuilt
      cases hbuilt
      exact hanswer

end CallSite

end Polyglot
