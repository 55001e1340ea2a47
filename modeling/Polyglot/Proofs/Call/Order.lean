import Polyglot.Proofs.Call.Acceptance

/-!
# Polyglot.Proofs.Call.Order

In which order a procedure takes its arguments.  The builders of a procedure work by their
priorities, and those of equal priority in the order in which they were given, so two ways of
giving the same builders make the same set exactly when they agree on the order of the builders of
each priority (`ordered_eq_iff`).  This holds whatever the builders do: an application may supply
its own, with any priority (`Strategy`).

What a set does for a call is a walk over its builders in that order, which stops at the first
that fails (`mapM_eq_ok_iff`, `mapM_eq_error_iff`).  Among the library's builders there are three
priorities, so the arguments of a procedure come in three blocks:

```
context builders              the context, once for each
simple, default, constant     their values, in the order in which they were given
params builders               the arguments from the start of each on, in a list
```
-/

namespace Polyglot

/-! ## Ordering by a key -/

section Ordering

variable {α β : Type} (key : α → Nat)

/-- The elements of a list by their keys; those of equal key stay in the order in which they were
given. -/
def ordered (l : List α) : List α := l.mergeSort fun a b => decide (key a ≤ key b)

/-- Whether two lists have the same elements of each key, in the same order. -/
def SameOrder (l₁ l₂ : List α) : Prop :=
  ∀ k, l₁.filter (fun a => key a = k) = l₂.filter (fun a => key a = k)

/-- The elements of each of the given keys, key by key. -/
def buckets (keys : List Nat) (l : List α) : List α :=
  keys.flatMap fun k => l.filter fun a => key a = k

variable {key} {l l₁ l₂ : List α} {keys : List Nat}

theorem keyLe_trans (a b c : α) (hab : decide (key a ≤ key b) = true)
    (hbc : decide (key b ≤ key c) = true) : decide (key a ≤ key c) = true := by
  rw [decide_eq_true_eq] at *
  omega

theorem keyLe_total (a b : α) : (decide (key a ≤ key b) || decide (key b ≤ key a)) = true := by
  rw [Bool.or_eq_true, decide_eq_true_eq, decide_eq_true_eq]
  omega

theorem pairwise_ordered (l : List α) : (ordered key l).Pairwise fun a b => key a ≤ key b :=
  (List.pairwise_mergeSort keyLe_trans keyLe_total l).imp of_decide_eq_true

theorem ordered_perm (l : List α) : (ordered key l).Perm l := List.mergeSort_perm l _

/-- Ordering keeps the order of the elements of each key. -/
theorem sameOrder_ordered (l : List α) : SameOrder key (ordered key l) l := by
  intro k
  have hsorted : (l.filter fun a => key a = k).Pairwise fun a b =>
      decide (key a ≤ key b) = true := by
    refine List.pairwise_of_forall_mem_list fun a ha b hb => ?_
    rw [List.mem_filter, decide_eq_true_eq] at ha hb
    rw [decide_eq_true_eq]
    omega
  have hsublist : (l.filter fun a => key a = k).Sublist (ordered key l) :=
    List.sublist_mergeSort keyLe_trans keyLe_total hsorted List.filter_sublist
  have hfiltered := hsublist.filter fun a => decide (key a = k)
  rw [List.filter_filter] at hfiltered
  simp only [Bool.and_self] at hfiltered
  exact (hfiltered.eq_of_length ((ordered_perm l).filter _).length_eq.symm).symm

theorem SameOrder.mem_iff (h : SameOrder key l₁ l₂) {a : α} : a ∈ l₁ ↔ a ∈ l₂ := by
  have hmem := congrArg (a ∈ ·) (h (key a))
  simpa using hmem

theorem key_le_of_mem {a b : α} (h : (a :: l).Pairwise fun a b => key a ≤ key b)
    (hb : b ∈ a :: l) : key a ≤ key b := by
  rcases List.mem_cons.1 hb with rfl | hb
  · exact Nat.le_refl _
  · exact (List.pairwise_cons.1 h).1 b hb

/-- A list with increasing keys is determined by its elements of each key. -/
theorem SameOrder.eq (h : SameOrder key l₁ l₂) (h₁ : l₁.Pairwise fun a b => key a ≤ key b)
    (h₂ : l₂.Pairwise fun a b => key a ≤ key b) : l₁ = l₂ := by
  induction l₁ generalizing l₂ with
  | nil =>
      refine (List.eq_nil_iff_forall_not_mem.2 fun a ha => ?_).symm
      exact List.not_mem_nil (h.mem_iff.2 ha)
  | cons a l₁ ih =>
      cases l₂ with
      | nil => exact absurd (h.mem_iff.1 List.mem_cons_self) List.not_mem_nil
      | cons b l₂ =>
          -- Each head is somewhere in the other list, so neither key is less than the other.
          have hkey : key a = key b := Nat.le_antisymm
            (key_le_of_mem h₁ (h.mem_iff.2 List.mem_cons_self))
            (key_le_of_mem h₂ (h.mem_iff.1 List.mem_cons_self))
          have hhead := h (key a)
          rw [List.filter_cons_of_pos (by simp), List.filter_cons_of_pos (by simp [hkey]),
            List.cons.injEq] at hhead
          obtain ⟨rfl, htail⟩ := hhead
          have hrest : SameOrder key l₁ l₂ := fun k => by
            by_cases hk : key a = k
            · subst hk
              exact htail
            · have hall := h k
              rwa [List.filter_cons_of_neg (by simp [hk]),
                List.filter_cons_of_neg (by simp [hk])] at hall
          rw [ih hrest h₁.of_cons h₂.of_cons]

/-- Two lists are ordered alike exactly when they agree on the elements of each key. -/
theorem ordered_eq_iff : ordered key l₁ = ordered key l₂ ↔ SameOrder key l₁ l₂ := by
  constructor
  · intro h k
    rw [← sameOrder_ordered l₁ k, h, sameOrder_ordered l₂ k]
  · intro h
    refine SameOrder.eq (fun k => ?_) (pairwise_ordered l₁) (pairwise_ordered l₂)
    rw [sameOrder_ordered l₁ k, h k, sameOrder_ordered l₂ k]

theorem filter_buckets (hkeys : keys.Nodup) (l : List α) (k : Nat) :
    (buckets key keys l).filter (fun a => key a = k) =
      if k ∈ keys then l.filter (fun a => key a = k) else [] := by
  induction keys with
  | nil => rfl
  | cons p keys ih =>
      rw [List.nodup_cons] at hkeys
      have hcons : buckets key (p :: keys) l =
          l.filter (fun a => key a = p) ++ buckets key keys l := rfl
      rw [hcons, List.filter_append, ih hkeys.2, List.filter_filter]
      by_cases hk : k = p
      · subst hk
        simp [hkeys.1]
      · have hnone : l.filter (fun a => decide (key a = k) && decide (key a = p)) = [] := by
          rw [List.filter_eq_nil_iff]
          intro a _ ha
          rw [Bool.and_eq_true, decide_eq_true_eq, decide_eq_true_eq] at ha
          omega
        rw [hnone]
        simp [hk]

/-- Only keys that occur matter. -/
theorem sameOrder_of_keys (keys : List Nat) (h₁ : ∀ a ∈ l₁, key a ∈ keys)
    (h₂ : ∀ a ∈ l₂, key a ∈ keys)
    (h : ∀ k ∈ keys, l₁.filter (fun a => key a = k) = l₂.filter (fun a => key a = k)) :
    SameOrder key l₁ l₂ := by
  intro k
  by_cases hk : k ∈ keys
  · exact h k hk
  · have hnone : ∀ l : List α, (∀ a ∈ l, key a ∈ keys) → l.filter (fun a => key a = k) = [] :=
      fun l hl => List.filter_eq_nil_iff.2 fun a ha hak =>
        hk (of_decide_eq_true hak ▸ hl a ha)
    rw [hnone l₁ h₁, hnone l₂ h₂]

theorem mem_buckets_iff {a : α} : a ∈ buckets key keys l ↔ key a ∈ keys ∧ a ∈ l := by
  simp [buckets, and_comm]

theorem pairwise_buckets (hkeys : keys.Pairwise (· < ·)) (l : List α) :
    (buckets key keys l).Pairwise fun a b => key a ≤ key b := by
  rw [buckets, List.pairwise_flatMap]
  constructor
  · intro k _
    refine List.pairwise_of_forall_mem_list fun a ha b hb => ?_
    rw [List.mem_filter, decide_eq_true_eq] at ha hb
    omega
  · refine hkeys.imp fun {k k'} hlt a ha b hb => ?_
    rw [List.mem_filter, decide_eq_true_eq] at ha hb
    omega

/-- A list with few keys is ordered key by key. -/
theorem ordered_eq_buckets (hkeys : keys.Pairwise (· < ·)) (hl : ∀ a ∈ l, key a ∈ keys) :
    ordered key l = buckets key keys l := by
  refine SameOrder.eq (sameOrder_of_keys keys ?_ ?_ fun k hk => ?_) (pairwise_ordered l)
    (pairwise_buckets hkeys l)
  · exact fun a ha => hl a ((ordered_perm l).mem_iff.1 ha)
  · exact fun a ha => (mem_buckets_iff.1 ha).1
  · rw [sameOrder_ordered l k, filter_buckets (hkeys.imp Nat.ne_of_lt), if_pos hk]

theorem map_ordered {f : α → β} {key' : β → Nat} (h : ∀ a, key' (f a) = key a) (l : List α) :
    (ordered key l).map f = ordered key' (l.map f) := by
  refine List.map_mergeSort fun a _ b _ => ?_
  rw [h, h]

end Ordering

/-! ## Walking over a list -/

section Walk

variable {α β ε : Type} {f : α → Except ε β} {l : List α}

theorem mapM_cons_eq (a : α) (l : List α) :
    (a :: l).mapM f = match f a with
      | .error e => .error e
      | .ok v => (l.mapM f).map (v :: ·) := by
  rw [List.mapM_cons]
  cases f a with
  | error e => rfl
  | ok v => cases l.mapM f <;> rfl

/-- A walk that succeeds has one result for each element, in their order. -/
theorem mapM_eq_ok_iff {vs : List β} : l.mapM f = .ok vs ↔ l.map f = vs.map .ok := by
  induction l generalizing vs with
  | nil => cases vs <;> simp [pure, Except.pure]
  | cons a l ih =>
      rw [mapM_cons_eq, List.map_cons]
      cases vs with
      | nil => cases f a <;> cases l.mapM f <;> simp [Except.map]
      | cons v vs =>
          rw [List.map_cons, List.cons.injEq, ← ih]
          cases f a <;> cases l.mapM f <;> simp [Except.map]

/-- An element of a list is its head, or it comes after the head. -/
theorem exists_split_cons_iff {P : List α → α → Prop} {a : α} :
    (∃ front b back, a :: l = front ++ b :: back ∧ P front b) ↔
      P [] a ∨ ∃ front b back, l = front ++ b :: back ∧ P (a :: front) b := by
  constructor
  · rintro ⟨front, b, back, hl, h⟩
    cases front with
    | nil =>
        obtain ⟨rfl, -⟩ := List.cons.inj hl
        exact .inl h
    | cons a' front =>
        obtain ⟨rfl, hrest⟩ := List.cons.inj hl
        exact .inr ⟨front, b, back, hrest, h⟩
  · rintro (h | ⟨front, b, back, rfl, h⟩)
    · exact ⟨[], a, l, rfl, h⟩
    · exact ⟨a :: front, b, back, rfl, h⟩

/-- A walk that fails does so at the first element that does. -/
theorem mapM_eq_error_iff {e : ε} :
    l.mapM f = .error e ↔ ∃ front a back, l = front ++ a :: back ∧
      (∀ b ∈ front, ∃ v, f b = .ok v) ∧ f a = .error e := by
  induction l with
  | nil => simp [pure, Except.pure]
  | cons a l ih =>
      rw [exists_split_cons_iff, mapM_cons_eq]
      cases ha : f a with
      | error e' => simp [ha]
      | ok v =>
          have hrest : (l.mapM f).map (v :: ·) = .error e ↔ l.mapM f = .error e := by
            cases l.mapM f <;> simp [Except.map]
          simp only [hrest, ih]
          simp [ha]

theorem map_filter_isSome {γ : Type} (g : β → γ) (d : β) {f : α → Option β} {l : List α} :
    (l.filter fun a => (f a).isSome).map (fun a => g ((f a).getD d)) = (l.filterMap f).map g := by
  induction l with
  | nil => rfl
  | cons a l ih => cases ha : f a <;> simp [ha, ih]

end Walk

/-! ## Builders -/

/-- A builder of arguments as a set of builders sees it.  An application may supply its own. -/
structure Strategy where
  priority : Nat
  consumed : Nat
  isVariadic : Bool
  build : Context → List Value → Except RuntimeError Value
  check : Context → Shape → Option Guard

/-- What a set of builders does for the calls of a procedure. -/
structure Service where
  build : Context → List Value → Except RuntimeError (List Value)
  arity : Nat
  isVariadic : Bool
  guard : Context → Shape → Guard

namespace Strategy

section Working

variable (bs : List Strategy)

/-- How many arguments callers see of builders, a collected rest not counted. -/
def arityOf : Nat := (bs.filter fun b => !b.isVariadic).foldr (fun b n => b.consumed + n) 0

/-- What builders make, up to the first that fails. -/
def buildAll (c : Context) (args : List Value) : Except RuntimeError (List Value) :=
  bs.mapM fun b => b.build c args

/-- The guard of builders. -/
def guardOf (c : Context) (s : Shape) : Guard :=
  .conj (.count s.size :: (if bs.any isVariadic then [] else [.atMost (arityOf bs)]) ++
    bs.filterMap fun b => b.check c s)

/-- What builders do that work in the order of the list. -/
def serviceOf : Service := ⟨buildAll bs, arityOf bs, bs.any isVariadic, guardOf bs⟩

/-- The order in which builders work that were given in some order. -/
def inOrder : List Strategy := ordered priority bs

/-- What the set does that is made of builders, whoever supplied them. -/
def service : Service := serviceOf (inOrder bs)

end Working

end Strategy

namespace Builder

/-- A builder of the library, or of an application, as a set of builders sees it. -/
def strategy (b : Builder) : Strategy where
  priority := b.priority
  consumed := b.consumed
  isVariadic := b.isVariadic
  build := b.build
  check := b.check

/-- Whether a builder passes the context. -/
def isContext : Builder → Bool
  | context => true
  | _ => false

/-- Whether a builder passes one argument, a default or a constant. -/
def isOrdinary : Builder → Bool
  | simple _ _ | default _ _ _ | constant _ => true
  | _ => false

/-- Where the arguments begin that a builder collects. -/
def start? : Builder → Option Nat
  | params i _ => some i
  | _ => none

variable {b : Builder} {c : Context} {args : List Value} {v : Value}

/-- A check lets a value through as it is. -/
theorem eq_of_map_eq_ok {check : Except RuntimeError Unit} {w : Value}
    (h : check.map (fun _ => w) = .ok v) : v = w := by
  cases check with
  | error e => cases h
  | ok u =>
      cases h
      rfl

theorem build_eq_context (hb : b.isContext = true) (h : b.build c args = .ok v) :
    v = .context c := by
  cases b <;> cases hb
  cases h
  rfl

theorem build_eq_list (hb : b.start?.isSome = true) (h : b.build c args = .ok v) :
    v = .list (args.drop (b.start?.getD 0)) := by
  cases b with
  | params i k =>
      rw [build] at h
      exact eq_of_map_eq_ok h
  | _ => cases hb

theorem priority_mem_of_isBuiltIn (hb : b.isBuiltIn = true) :
    b.priority ∈ [contextPriority, normalPriority, paramsPriority] := by
  cases b <;> simp_all [isBuiltIn, priority]

/-- The blocks of the library's builders are their priorities. -/
theorem blocks_of_isBuiltIn (hb : b.isBuiltIn = true) :
    decide (b.priority = contextPriority) = b.isContext ∧
    decide (b.priority = normalPriority) = b.isOrdinary ∧
    decide (b.priority = paramsPriority) = b.start?.isSome := by
  cases b with
  | custom tag p n v g => cases hb
  | bare n => cases hb
  | _ => exact ⟨rfl, rfl, rfl⟩

end Builder

namespace BuilderSet

/-- What a set of builders does. -/
def service (bs : BuilderSet) : Service := ⟨bs.build, bs.arity, bs.isVariadic, bs.guard⟩

theorem buildList_eq_mapM (c : Context) (args : List Value) (bs : List Builder) :
    buildList c args bs = bs.mapM fun b => b.build c args := by
  induction bs with
  | nil => rfl
  | cons b bs ih =>
      rw [buildList, mapM_cons_eq, ih]
      cases b.build c args <;> rfl

/-- A set of builders does what its strategies do. -/
theorem service_eq (bs : BuilderSet) :
    bs.service = Strategy.serviceOf (bs.builders.map Builder.strategy) := by
  have hbuild : bs.build = Strategy.buildAll (bs.builders.map Builder.strategy) := by
    funext c args
    rw [build, buildList_eq_mapM, Strategy.buildAll, List.mapM_map]
    rfl
  have harity : bs.arity = Strategy.arityOf (bs.builders.map Builder.strategy) := by
    rw [Strategy.arityOf, List.filter_map, List.foldr_map, arity]
    rfl
  have hvariadic : bs.isVariadic = (bs.builders.map Builder.strategy).any Strategy.isVariadic := by
    rw [List.any_map, isVariadic]
    rfl
  have hguard : bs.guard = Strategy.guardOf (bs.builders.map Builder.strategy) := by
    funext c s
    rw [guard, Strategy.guardOf, hvariadic, harity, List.filterMap_map]
    rfl
  rw [service, Strategy.serviceOf, hbuild, harity, hvariadic, hguard]

/-- The builders of a set are ordered like any others. -/
theorem service_ofList (bs : List Builder) :
    (ofList bs).service = Strategy.service (bs.map Builder.strategy) := by
  have hpriority : ∀ b : Builder, b.strategy.priority = b.priority := fun _ => rfl
  have hmap : (ofList bs).builders.map Builder.strategy =
      Strategy.inOrder (bs.map Builder.strategy) := map_ordered hpriority bs
  rw [service_eq, hmap, Strategy.service]

/-- The library's builders work in three blocks. -/
theorem builders_ofList_of_builtIn {bs : List Builder} (hbs : ∀ b ∈ bs, b.isBuiltIn = true) :
    (ofList bs).builders = bs.filter Builder.isContext ++ bs.filter Builder.isOrdinary ++
      bs.filter fun b => b.start?.isSome := by
  have hordered : (ofList bs).builders = ordered Builder.priority bs := rfl
  have hkeys : [Builder.contextPriority, Builder.normalPriority, Builder.paramsPriority].Pairwise
      (· < ·) := by decide
  rw [hordered,
    ordered_eq_buckets hkeys fun b hb => Builder.priority_mem_of_isBuiltIn (hbs b hb)]
  simp only [buckets, List.flatMap_cons, List.flatMap_nil, List.append_nil, List.append_assoc]
  rw [List.filter_congr fun b hb => (Builder.blocks_of_isBuiltIn (hbs b hb)).1,
    List.filter_congr fun b hb => (Builder.blocks_of_isBuiltIn (hbs b hb)).2.1,
    List.filter_congr fun b hb => (Builder.blocks_of_isBuiltIn (hbs b hb)).2.2]

/-- What builders make is known from what each of them makes. -/
theorem eq_map_of_build {bs : List Builder} {c : Context} {args values : List Value}
    {value : Builder → Value} (h : values.map .ok = bs.map fun b => b.build c args)
    (hvalue : ∀ b ∈ bs, ∀ v, b.build c args = .ok v → v = value b) : values = bs.map value := by
  induction bs generalizing values with
  | nil => simpa using h
  | cons b bs ih =>
      cases values with
      | nil => simp at h
      | cons v values =>
          rw [List.map_cons, List.map_cons, List.cons.injEq] at h
          rw [List.map_cons, ← hvalue b List.mem_cons_self v h.1.symm,
            ← ih h.2 fun b' hb' => hvalue b' (List.mem_cons_of_mem _ hb')]

/-- The values of the library's builders come in three blocks as well. -/
theorem build_ofList_of_builtIn {bs : List Builder} (hbs : ∀ b ∈ bs, b.isBuiltIn = true)
    {c : Context} {args physical : List Value} (h : (ofList bs).build c args = .ok physical) :
    ∃ values, (bs.filter Builder.isOrdinary).map (fun b => b.build c args) = values.map .ok ∧
      physical = (bs.filter Builder.isContext).map (fun _ => .context c) ++ values ++
        (bs.filterMap Builder.start?).map fun i => .list (args.drop i) := by
  rw [build, buildList_eq_mapM, mapM_eq_ok_iff, builders_ofList_of_builtIn hbs, List.map_append,
    List.map_append, eq_comm, List.map_eq_append_iff] at h
  obtain ⟨front, lists, rfl, hfront, hlists⟩ := h
  rw [List.map_eq_append_iff] at hfront
  obtain ⟨contexts, values, rfl, hcontexts, hvalues⟩ := hfront
  have hcontext : contexts = (bs.filter Builder.isContext).map fun _ => .context c := by
    refine eq_map_of_build hcontexts fun b hb v hv => ?_
    exact Builder.build_eq_context (List.mem_filter.1 hb).2 hv
  have hlist : lists = (bs.filterMap Builder.start?).map fun i => .list (args.drop i) := by
    rw [← map_filter_isSome _ 0]
    refine eq_map_of_build hlists fun b hb v hv => ?_
    exact Builder.build_eq_list (List.mem_filter.1 hb).2 hv
  rw [hcontext, hlist]
  exact ⟨values, hvalues.symm, rfl⟩

/-- Two ways of giving builders make the same set exactly when they agree on the order of the
builders of each priority. -/
theorem ofList_eq_iff {as bs : List Builder} :
    ofList as = ofList bs ↔ SameOrder Builder.priority as bs := by
  rw [← ordered_eq_iff]
  exact ⟨congrArg builders, congrArg mk⟩

/-- **Physical argument order.**  Two ways of giving the same builders, whoever supplied them, that
agree on the order of the builders of each priority make sets that do the same: they build the same
arguments, see the same arity and have the same guards.

What a set builds has one argument for each builder, by priority and else in the order given, or
is the failure of the first builder in that order that fails.  So the library's builders make the
contexts first, then the values of simple, default and constant builders in the order given, and
last the lists of params builders. -/
theorem arguments_in_order :
    (∀ as bs : List Strategy, SameOrder Strategy.priority as bs →
      Strategy.inOrder as = Strategy.inOrder bs ∧ Strategy.service as = Strategy.service bs) ∧
    (∀ as bs : List Builder, SameOrder Builder.priority as bs →
      (ofList as).service = (ofList bs).service) ∧
    (∀ bs : List Builder, (ofList bs).service = Strategy.service (bs.map Builder.strategy)) ∧
    (∀ (bs : List Strategy) (c : Context) (args : List Value),
      (∀ physical, (Strategy.service bs).build c args = .ok physical ↔
        (Strategy.inOrder bs).map (fun b => b.build c args) = physical.map .ok) ∧
      ∀ e, (Strategy.service bs).build c args = .error e ↔
        ∃ front b back, Strategy.inOrder bs = front ++ b :: back ∧
          (∀ a ∈ front, ∃ v, a.build c args = .ok v) ∧ b.build c args = .error e) ∧
    ∀ bs : List Builder, (∀ b ∈ bs, b.isBuiltIn = true) →
      ∀ (c : Context) (args physical : List Value), (ofList bs).build c args = .ok physical →
        physical.length = bs.length ∧
        ∃ values, (bs.filter Builder.isOrdinary).map (fun b => b.build c args) = values.map .ok ∧
          physical = (bs.filter Builder.isContext).map (fun _ => .context c) ++ values ++
            (bs.filterMap Builder.start?).map fun i => .list (args.drop i) := by
  refine ⟨fun as bs h => ?_, fun as bs h => ?_, service_ofList,
    fun bs c args => ⟨fun _ => mapM_eq_ok_iff, fun _ => mapM_eq_error_iff⟩,
    fun bs hbs c args physical h => ⟨?_, build_ofList_of_builtIn hbs h⟩⟩
  · have hinOrder : Strategy.inOrder as = Strategy.inOrder bs := ordered_eq_iff.2 h
    exact ⟨hinOrder, by rw [Strategy.service, Strategy.service, hinOrder]⟩
  · rw [ofList_eq_iff.2 h]
  · rw [build, buildList_eq_mapM, mapM_eq_ok_iff] at h
    have hlength := congrArg List.length h
    rw [List.length_map, List.length_map] at hlength
    rw [← hlength]
    exact (ordered_perm bs).length_eq

/-- A builder of an application that comes right after the context and has no argument to give. -/
def refuser : Strategy where
  priority := 50
  consumed := 0
  isVariadic := false
  build _ _ := .error (.other "no argument")
  check _ _ := none

/-- The builders of a procedure may be given by priority from the start.  A builder of the
application that is given last fails before an ordinary one does. -/
theorem arguments_in_order_regrouped :
    let given : List Builder := [.params 1 none, .simple 0 none, .context, .constant .nil]
    let sorted : List Builder := [.context, .simple 0 none, .constant .nil, .params 1 none]
    let passed : List Value := [.context .empty, .str "a", .nil, .list [.int 1]]
    let hosted := [(Builder.simple 3 none).strategy, refuser]
    SameOrder Builder.priority given sorted ∧
    (ofList given).service = (ofList sorted).service ∧
    (ofList given).build .empty [.str "a", .int 1] = .ok passed ∧
    passed.length = given.length ∧
    (∃ values, (given.filter Builder.isOrdinary).map
        (fun b => b.build .empty [.str "a", .int 1]) = values.map .ok ∧
      passed = [.context .empty] ++ values ++ [.list [.int 1]]) ∧
    Strategy.service hosted = Strategy.service hosted.reverse ∧
    (Strategy.service hosted).build .empty [] = .error (.other "no argument") := by
  intro given sorted passed hosted
  obtain ⟨hstrategies, hsame, -, hwalk, hblocks⟩ := arguments_in_order
  have hbuiltIn : ∀ b ∈ given, b.isBuiltIn = true := by decide
  have hgiven : SameOrder Builder.priority given sorted := by
    refine sameOrder_of_keys [0, 100, 200] (by decide) (by decide) ?_
    simp only [List.forall_mem_cons]
    exact ⟨rfl, rfl, rfl, List.forall_mem_nil _⟩
  have hhosted : SameOrder Strategy.priority hosted hosted.reverse := by
    refine sameOrder_of_keys [50, 100] (by decide) (by decide) ?_
    simp only [List.forall_mem_cons]
    exact ⟨rfl, rfl, List.forall_mem_nil _⟩
  have hinOrder : Strategy.inOrder hosted = hosted.reverse :=
    ordered_eq_buckets (by decide : [50, 100].Pairwise (· < ·)) (by decide)
  have hbuilt : (ofList given).build .empty [.str "a", .int 1] = .ok passed := by
    rw [build, builders_ofList_of_builtIn hbuiltIn]
    rfl
  obtain ⟨hlength, hpassed⟩ := hblocks given hbuiltIn .empty [.str "a", .int 1] passed hbuilt
  refine ⟨hgiven, hsame _ _ hgiven, hbuilt, hlength, hpassed, (hstrategies _ _ hhosted).2, ?_⟩
  exact ((hwalk hosted .empty []).2 _).2
    ⟨[], refuser, [(Builder.simple 3 none).strategy], hinOrder, List.forall_mem_nil _, rfl⟩

end BuilderSet

end Polyglot
