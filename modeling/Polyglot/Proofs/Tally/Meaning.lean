import Mathlib.Logic.Function.Basic
import Polyglot.Guest.Tally.Run
import Polyglot.Proofs.Store.Frame

/-!
# Polyglot.Proofs.Tally.Meaning

What a Tally program means, without slots, scopes and linkage.  A state is an environment, which
says what each name holds:

```
name = right side     the right side is computed in the environment, and from then on the name
                      holds the result
```

A program runs to its end or to the first assignment that fails, and the environment at that
point stays (`meaning`).  A text means what the program read from it means (`programOf`).

A module keeps its environment in a scope (`Store.env`).  `Home g sc st` says what is needed for
that: the scope files cells of any type, no cell under two names, and every slot of the linkage
`g` is filed under its name.  In such a state `Tally.run` is `meaning`, whether or not there is a
linkage, and it leaves such a state (`Home.run`).
-/

namespace Polyglot

/-- What each name holds. -/
abbrev Env := Symbol → Option Value

/-- What the names of a scope hold. -/
def Store.env (st : Store) (sc : ScopeId) : Env := st.readName sc

namespace Tally

/-! ## Meaning -/

/-- What a name holds, which it is an error to ask of a name without a value. -/
def look (env : Env) (x : FreeVariable) : Except RuntimeError Value :=
  match env x.name with
  | some v => .ok v
  | none => .error (.unboundName x.name)

/-- What was looked up, increased by an integer.  Sums wrap around. -/
def increased (n : Int64) : Except RuntimeError Value → Except RuntimeError Value
  | .error e => .error e
  | .ok (.int m) => .ok (.int (m + n))
  | .ok v => .error (.typeMismatch "int" v.typeName)

/-- The value of a right side. -/
def Expr.meaning (env : Env) : Expr → Except RuntimeError Value
  | .int n => .ok (.int n)
  | .str s => .ok (.str s)
  | .ref x => look env x
  | .add x n => increased n (look env x)

/-- What assignments do and yield, up to the first that fails. -/
def meaning : List Assignment → Value → Env → Except RuntimeError Value × Env
  | [], last, env => (.ok last, env)
  | a :: rest, _, env =>
    match a.expr.meaning env with
    | .error e => (.error e, env)
    | .ok v => meaning rest v (Function.update env a.target.name (some v))

/-- What the programs of one module do and yield, up to the first that fails. -/
def programMeaning : List (List Assignment) → Value → Env → Except RuntimeError Value × Env
  | [], last, env => (.ok last, env)
  | as :: rest, _, env =>
    match meaning as .nil env with
    | (.error e, env) => (.error e, env)
    | (.ok v, env) => programMeaning rest v env

/-- Whether an error is one of the two that Tally programs end with. -/
def IsTallyError : RuntimeError → Prop
  | .unboundName _ => True
  | .typeMismatch _ _ => True
  | _ => False

theorem isTallyError_of_look {env : Env} {x : FreeVariable} {e : RuntimeError}
    (hl : look env x = .error e) : IsTallyError e := by
  rw [look] at hl
  split at hl
  · cases hl
  · cases hl
    trivial

theorem isTallyError_of_expr {env : Env} {e : RuntimeError} (a : Expr)
    (ha : a.meaning env = .error e) : IsTallyError e := by
  cases a with
  | int n => cases ha
  | str s => cases ha
  | ref x => exact isTallyError_of_look ha
  | add x n =>
      rw [Expr.meaning, increased.eq_def] at ha
      split at ha
      · next hl =>
          cases ha
          exact isTallyError_of_look hl
      · cases ha
      · cases ha
        trivial

theorem isTallyError_of_meaning {as : List Assignment} {last : Value} {env : Env}
    {e : RuntimeError} (ha : (meaning as last env).1 = .error e) : IsTallyError e := by
  induction as generalizing last env with
  | nil => cases ha
  | cons a as ih =>
      rw [meaning] at ha
      split at ha
      · next he =>
          cases ha
          exact isTallyError_of_expr a.expr he
      · exact ih ha

theorem isTallyError_of_programMeaning {ps : List (List Assignment)} {last : Value} {env : Env}
    {e : RuntimeError} (hp : (programMeaning ps last env).1 = .error e) : IsTallyError e := by
  induction ps generalizing last env with
  | nil => cases hp
  | cons as ps ih =>
      rw [programMeaning] at hp
      split at hp
      · next he =>
          cases hp
          exact isTallyError_of_meaning (by rw [he])
      · exact ih hp

/-! ## Reading -/

/-- The assignment on a line, if there is one. -/
def assignment? (line : String) : Option Assignment :=
  let cs := Text.trimChars line.toList
  if isSkipped cs then none else readLine? cs

/-- The program that a text stands for. -/
def programOf (text : String) : List Assignment := (Text.lines text).filterMap assignment?

/-- Whatever a sink lets pass, what was read are the assignments on the lines. -/
theorem eq_filterMap_of_readLines {unit : String} {sink : Sink} {index : Nat} {lines : List String}
    {as : List Assignment} (hr : (readLines unit sink index lines).1 = .ok as) :
    as = lines.filterMap assignment? := by
  induction lines generalizing sink index as with
  | nil =>
      cases hr
      rfl
  | cons line lines ih =>
      rw [readLines] at hr
      rw [List.filterMap_cons, assignment?]
      split at hr
      · next hskip =>
          rw [if_pos hskip]
          exact ih hr
      · next hskip =>
          rw [if_neg hskip]
          split at hr
          · next a ha =>
              rw [ha]
              split at hr
              · cases hr
              · next rest sink' hrest =>
                  cases hr
                  exact congrArg (a :: ·) (ih (by rw [hrest]))
          · next hnone =>
              rw [hnone]
              split at hr
              · cases hr
              · exact ih hr

theorem eq_programOf_of_read {u : SourceUnit} {sink : Sink} {as : List Assignment}
    (hr : (read u sink).1 = .ok as) : as = programOf u.text :=
  eq_filterMap_of_readLines hr

/-! ## Where environments are kept -/

/-- A scope keeps the environment of a program with this linkage. -/
structure Home (g : Option Linkage) (sc : ScopeId) (st : Store) : Prop where
  scope : sc.index < st.scopes.size
  cells : ∀ n s, st.slotIn sc n = some s → s.index < st.slots.size ∧ (st.slot s).type = .any
  names : ∀ n n' s, st.slotIn sc n = some s → st.slotIn sc n' = some s → n = n'
  linked : ∀ x s, linked? g x = some s → st.slotIn sc x.name = some s

namespace Home

variable {g : Option Linkage} {sc : ScopeId} {st st' : Store}

open Store (Extends Confined)

/-- A home stays when its scope and its cells do, and so does what is kept in it. -/
theorem of_untouched (h : Home g sc st) (hscopes : st.scopes.size ≤ st'.scopes.size)
    (hslots : st.slots.size ≤ st'.slots.size) (hnames : ∀ n, st'.slotIn sc n = st.slotIn sc n)
    (hcells : ∀ n s, st.slotIn sc n = some s → st'.slot s = st.slot s) :
    Home g sc st' ∧ st'.env sc = st.env sc := by
  refine ⟨⟨Nat.lt_of_lt_of_le h.scope hscopes, fun n s hs => ?_, fun n n' s hs hs' => ?_,
    fun x s hs => ?_⟩, ?_⟩
  · rw [hnames] at hs
    rw [hcells n s hs]
    exact ⟨Nat.lt_of_lt_of_le (h.cells n s hs).1 hslots, (h.cells n s hs).2⟩
  · rw [hnames] at hs hs'
    exact h.names n n' s hs hs'
  · rw [hnames]
    exact h.linked x s hs
  · funext n
    exact Store.readName_congr (hnames n) (hcells n)

/-- A home stays when other things are made. -/
theorem of_extends (h : Home g sc st) (hx : Extends st st') :
    Home g sc st' ∧ st'.env sc = st.env sc :=
  h.of_untouched hx.scopes hx.slots (hx.slotIn h.scope) fun n s hs => hx.slot s (h.cells n s hs).1

/-- A home stays when something happens in another scope that shares no cell with it. -/
theorem of_confined (h : Home g sc st) {other : ScopeId} (hc : Confined other st st')
    (hne : sc ≠ other) (hapart : ∀ n n' s, st.slotIn sc n = some s → st.slotIn other n' ≠ some s) :
    Home g sc st' ∧ st'.env sc = st.env sc :=
  h.of_untouched (Nat.le_of_eq hc.scopes.symm) hc.slots (hc.slotIn hne) fun n s hs =>
    hc.slot s (h.cells n s hs).1 fun n' => hapart n n' s hs

/-! ## Assignments -/

/-- A home stays when one of its cells is written, and one name holds the value then. -/
theorem of_writes (h : Home g sc st) {n : Symbol} {s : SlotId} (hs : st.slotIn sc n = some s)
    {v : Value} (hw : Store.Writes s v st st') :
    Home g sc st' ∧ st'.env sc = Function.update (st.env sc) n (some v) := by
  refine ⟨⟨?_, fun m t ht => ?_, fun m m' t ht ht' => ?_, fun x t ht => ?_⟩, funext fun m => ?_⟩
  · rw [hw.scopes]
    exact h.scope
  · rw [hw.slotIn] at ht
    rw [hw.slots]
    refine ⟨(h.cells m t ht).1, ?_⟩
    by_cases hts : t = s
    · rw [hts, hw.slot_self]
      exact (h.cells n s hs).2
    · rw [hw.slot_of_ne hts]
      exact (h.cells m t ht).2
  · rw [hw.slotIn] at ht ht'
    exact h.names m m' t ht ht'
  · rw [hw.slotIn]
    exact h.linked x t ht
  · by_cases hm : m = n
    · subst hm
      rw [Function.update_self, Store.env, Store.readName_of_slotIn ((hw.slotIn sc m).trans hs),
        hw.slot_self]
    · rw [Function.update_of_ne hm]
      exact Store.readName_congr (hw.slotIn sc m) fun t ht =>
        hw.slot_of_ne fun hts => hm (h.names m n t ht (hts ▸ hs))

/-- Writing a cell of a home changes what one name holds. -/
theorem write (h : Home g sc st) {n : Symbol} {s : SlotId} (hs : st.slotIn sc n = some s)
    (v : Value) : ∃ st', st.write s v = .ok st' ∧
      st'.env sc = Function.update (st.env sc) n (some v) ∧ Home g sc st' ∧ Confined sc st st' := by
  obtain ⟨st', hwrite, hw⟩ := Store.write_any v (h.cells n s hs).1 (h.cells n s hs).2
  obtain ⟨hhome, henv⟩ := h.of_writes hs hw
  exact ⟨st', hwrite, henv, hhome, hw.confined hs⟩

/-- A home stays when one more name is filed, and the name holds no value. -/
theorem of_files (h : Home g sc st) {n : Symbol} (hnone : st.slotIn sc n = none)
    (hf : Store.Files sc n { name := n } st st') : Home g sc st' ∧ st'.env sc = st.env sc := by
  -- a slot that was filed before is not the new one
  have hold : ∀ m, st.slotIn sc m ≠ some ⟨st.slots.size⟩ := fun m hm =>
    Nat.lt_irrefl _ (h.cells m _ hm).1
  refine ⟨⟨Nat.lt_of_lt_of_eq h.scope hf.scopes.symm, fun m s hm => ?_, fun m m' s hm hm' => ?_,
    fun x s hx => ?_⟩, funext fun m => ?_⟩
  · rw [hf.slots]
    rcases hf.cases hm with ⟨-, rfl⟩ | ⟨-, hm⟩
    · exact ⟨Nat.lt_succ_self _, by rw [hf.slot_new]⟩
    · rw [hf.slot_of_lt (h.cells m s hm).1]
      exact ⟨Nat.lt_succ_of_lt (h.cells m s hm).1, (h.cells m s hm).2⟩
  · rcases hf.cases hm with ⟨rfl, rfl⟩ | ⟨-, hm⟩
    · rcases hf.cases hm' with ⟨rfl, -⟩ | ⟨-, hm'⟩
      · rfl
      · exact absurd hm' (hold m')
    · rcases hf.cases hm' with ⟨-, rfl⟩ | ⟨-, hm'⟩
      · exact absurd hm (hold m)
      · exact h.names m m' s hm hm'
  · have hne : x.name ≠ n := fun hname => by
      rw [← hname, h.linked x s hx] at hnone
      cases hnone
    exact (hf.slotIn_of_ne hne).trans (h.linked x s hx)
  · by_cases hm : m = n
    · subst hm
      rw [Store.env, Store.readName_of_slotIn hf.slotIn_self, hf.slot_new, Store.env,
        Store.readName, hnone]
      rfl
    · exact Store.readName_congr (hf.slotIn_of_ne hm) fun s hs =>
        hf.slot_of_lt (h.cells m s hs).1

/-- Filing one more name, without a value. -/
theorem slotOrNew (h : Home g sc st) (n : Symbol) :
    ∃ s st', st.slotOrNew sc n { name := n } = (s, st') ∧ st'.slotIn sc n = some s ∧
      st'.env sc = st.env sc ∧ Home g sc st' ∧ Confined sc st st' := by
  cases hs : st.slotIn sc n with
  | some s => exact ⟨s, st, by rw [Store.slotOrNew, hs], hs, rfl, h, .refl sc st⟩
  | none =>
      obtain ⟨st', hfile, hf⟩ := Store.slotOrNew_of_none { name := n } h.scope hs
      obtain ⟨hhome, henv⟩ := h.of_files hs hf
      exact ⟨_, st', hfile, hf.slotIn_self, henv, hhome, hf.confined⟩

/-- Giving a name of a home a value. -/
theorem writeName (h : Home g sc st) (n : Symbol) (v : Value) :
    ∃ st', st.writeName sc n v = .ok st' ∧
      st'.env sc = Function.update (st.env sc) n (some v) ∧ Home g sc st' ∧ Confined sc st st' := by
  obtain ⟨s, st₁, hfile, hs, henv, hhome, hconf⟩ := h.slotOrNew n
  obtain ⟨st₂, hw, henv', hhome', hconf'⟩ := hhome.write hs v
  exact ⟨st₂, by rw [Store.writeName, hfile, ← hw], henv ▸ henv', hhome', hconf.trans hconf'⟩

section Running

variable {c : Context}

theorem readVar_eq_look (h : Home g sc st) (hc : c.scopes = [sc]) (x : FreeVariable) :
    readVar g st c x = look (st.env sc) x := by
  have hchain : x.evaluate st c = look (st.env sc) x := by
    rw [FreeVariable.evaluate, hc, look, Store.env]
    cases hr : st.readName sc x.name <;> simp [hr]
  rw [readVar]
  split
  · next v hv =>
      obtain ⟨s, hs, hread⟩ := Option.bind_eq_some_iff.1 hv
      have henv : st.env sc x.name = some v :=
        (Store.readName_of_slotIn (h.linked x s hs)).trans hread
      rw [look, henv]
  · exact hchain

theorem eval_eq_meaning (h : Home g sc st) (hc : c.scopes = [sc]) (a : Expr) :
    a.eval g st c = a.meaning (st.env sc) := by
  cases a with
  | int n => rfl
  | str s => rfl
  | ref x => exact h.readVar_eq_look hc x
  | add x n => exact congrArg (increased n) (h.readVar_eq_look hc x)

theorem writeVar (h : Home g sc st) (hc : c.scopes = [sc]) (x : FreeVariable) (v : Value) :
    ∃ st', Tally.writeVar g st c x v = .ok st' ∧
      st'.env sc = Function.update (st.env sc) x.name (some v) ∧ Home g sc st' ∧
      Confined sc st st' := by
  have hinner : c.scope = some sc := by
    rw [Context.scope, Context.innermost, ← List.head?_map, ← Context.scopes, hc]
    rfl
  rw [Tally.writeVar]
  split
  · next s hs => exact h.write (h.linked x s hs) v
  · rw [hinner]
    exact h.writeName x.name v

/-- **Running a Tally program is what the program means**, with or without a linkage. -/
theorem run (h : Home g sc st) (hc : c.scopes = [sc]) (as : List Assignment) (last : Value) :
    (Tally.run g c as last st).1 = (meaning as last (st.env sc)).1 ∧
      (Tally.run g c as last st).2.env sc = (meaning as last (st.env sc)).2 ∧
      Home g sc (Tally.run g c as last st).2 ∧ Confined sc st (Tally.run g c as last st).2 := by
  induction as generalizing last st with
  | nil => exact ⟨rfl, rfl, h, .refl sc st⟩
  | cons a as ih =>
      rw [Tally.run, Assignment.run, meaning, h.eval_eq_meaning hc]
      cases ha : a.expr.meaning (st.env sc) with
      | error e => exact ⟨rfl, rfl, h, .refl sc st⟩
      | ok v =>
          obtain ⟨st', hw, henv, hhome, hconf⟩ := h.writeVar hc a.target v
          obtain ⟨hres, henv', hhome', hconf'⟩ := ih hhome v
          simp only [hw, Except.map]
          rw [henv] at hres henv'
          exact ⟨hres, henv', hhome', hconf.trans hconf'⟩

end Running

end Home

end Tally

end Polyglot
