import Mathlib.Data.List.Basic
import Polyglot.Proofs.Call.Order

/-!
# Polyglot.Proofs.Call.Delivery

No argument of a call is lost or handed over twice.  A caller writes arguments by their places,
and builders ask for them by index, but whether a call can be bound is decided by counting: the
guard of a set of builders compares the number of arguments with the number of builders that pass
one (`arity_eq_length`).  Counting is enough when the indices of these builders are `0 .. k-1` in
some order and a collected rest begins at `k` (`Covers`):

```
argument      0   1   ..   k-1   k   ..
handed to     the one builder    the list of the params builder, if there is one
              with that index
```

Reading what was built by index, and then the collected rest, gives back what the caller wrote
(`arguments_delivered`).
-/

namespace Polyglot

/-! ## One builder -/

namespace Builder

/-- The index of the argument that a builder passes. -/
def index? : Builder → Option Nat
  | simple i _ | default i _ _ => some i
  | _ => none

variable {b : Builder} {c : Context} {args : List Value} {v : Value} {i : Nat}

theorem counted_of_index (hi : b.index? = some i) : b.isVariadic = false ∧ b.consumed = 1 := by
  cases b <;> cases hi <;> exact ⟨rfl, rfl⟩

theorem consumed_of_no_index (hb : b.isBuiltIn = true) (hi : b.index? = none) :
    b.consumed = 0 := by
  cases b with
  | custom tag p n v g => cases hb
  | bare n => cases hb
  | simple j k => cases hi
  | default j d k => cases hi
  | _ => rfl

/-- What a builder passes that has an index is the argument there; where there is none, the
builder has a default for it. -/
theorem build_of_index (hi : b.index? = some i) (h : b.build c args = .ok v) :
    args[i]? = some v ∨ args.length ≤ i ∧ ∃ kind, b = .default i v kind := by
  cases b with
  | simple j kind =>
      cases hi
      rw [build] at h
      cases harg : args[i]? with
      | none =>
          rw [harg] at h
          cases h
      | some w =>
          rw [harg] at h
          rw [eq_of_map_eq_ok h]
          exact .inl rfl
  | default j d kind =>
      cases hi
      rw [build] at h
      cases harg : args[i]? with
      | none =>
          rw [harg] at h
          cases h
          exact .inr ⟨List.getElem?_eq_none_iff.1 harg, kind, rfl⟩
      | some w =>
          rw [harg] at h
          rw [eq_of_map_eq_ok h]
          exact .inl rfl
  | _ => cases hi

/-- A builder looks at no argument but its own. -/
theorem build_set (hb : b.isBuiltIn = true) (hindex : b.index? ≠ some i)
    (hstart : ∀ j, b.start? = some j → i < j) (w : Value) :
    b.build c (args.set i w) = b.build c args := by
  cases b with
  | context => rfl
  | simple j k =>
      have hij : i ≠ j := fun h => hindex (by rw [index?, h])
      rw [build, build, List.getElem?_set_ne hij]
  | default j d k =>
      have hij : i ≠ j := fun h => hindex (by rw [index?, h])
      rw [build, build, List.getElem?_set_ne hij]
  | params j k => rw [build, build, List.drop_set_of_lt (hstart j rfl)]
  | constant v => rfl
  | custom tag p n v g => cases hb
  | bare n => cases hb

end Builder

/-! ## What a set of builders counts -/

namespace BuilderSet

/-- The library's builders that are counted are those with an index. -/
theorem arity_eq_length {bs : BuilderSet} (hbs : bs.BuiltIn) :
    bs.arity = (bs.builders.filterMap Builder.index?).length := by
  obtain ⟨order⟩ := bs
  rw [BuiltIn] at hbs
  rw [arity]
  induction order with
  | nil => rfl
  | cons b order ih =>
      rw [List.forall_mem_cons] at hbs
      have hrest := ih hbs.2
      cases hindex : b.index? with
      | some i =>
          obtain ⟨hvariadic, hconsumed⟩ := Builder.counted_of_index hindex
          rw [List.filter_cons_of_pos (by rw [hvariadic]; rfl), List.foldr_cons, hrest, hconsumed,
            List.filterMap_cons_some hindex, List.length_cons, Nat.add_comm]
      | none =>
          rw [List.filterMap_cons_none hindex, ← hrest, List.filter_cons]
          split
          · rw [List.foldr_cons, Builder.consumed_of_no_index hbs.1 hindex, Nat.zero_add]
          · rfl

theorem isVariadic_iff {bs : BuilderSet} (hbs : bs.BuiltIn) :
    bs.isVariadic = true ↔ ∃ b ∈ bs.builders, b.start?.isSome = true := by
  rw [isVariadic, List.any_eq_true]
  refine exists_congr fun b => and_congr_right fun hb => ?_
  have hbuiltIn := hbs b hb
  cases b with
  | custom tag p n v g => cases hbuiltIn
  | bare n => cases hbuiltIn
  | _ => exact Iff.rfl

/-- Whether builders of the library pass the first `k` arguments, each of them once, and collect
the others, if any. -/
structure Covers (bs : List Builder) (k : Nat) : Prop where
  builtIn : ∀ b ∈ bs, b.isBuiltIn = true
  places : (bs.filterMap Builder.index?).Perm (List.range k)
  rest : bs.filterMap Builder.start? = [] ∨ bs.filterMap Builder.start? = [k]

/-! ## Reading back what was built -/

/-- The value that was made for the argument at an index. -/
def valueFor (order : List Builder) (physical : List Value) (i : Nat) : Option Value :=
  ((order.zip physical).find? fun made => decide (made.1.index? = some i)).map Prod.snd

/-- The values that were made for the first arguments, by index. -/
def positional (order : List Builder) (physical : List Value) (count : Nat) : List Value :=
  (List.range count).filterMap (valueFor order physical)

/-- The arguments that were collected. -/
def collected (order : List Builder) (physical : List Value) : List Value :=
  (order.zip physical).flatMap fun made =>
    if made.1.start?.isSome then made.2.asList?.getD [] else []

section Built

variable {order : List Builder} {c : Context} {args physical : List Value} {k p q i : Nat}
  {b b' : Builder}

/-- Each builder has made the value at its place. -/
theorem exists_value_at (h : order.map (fun b => b.build c args) = physical.map .ok)
    (hp : order[p]? = some b) : ∃ v, physical[p]? = some v ∧ b.build c args = .ok v := by
  have hat := congrArg (·[p]?) h
  simp only [List.getElem?_map, hp, Option.map_some] at hat
  obtain ⟨v, hv, hbuilt⟩ := Option.map_eq_some_iff.1 hat.symm
  exact ⟨v, hv, hbuilt.symm⟩

/-- Only one builder has a given index. -/
theorem place_unique (h : (order.filterMap Builder.index?).Nodup) (hp : order[p]? = some b)
    (hq : order[q]? = some b') (hi : b.index? = some i) (hi' : b'.index? = some i) : p = q := by
  rw [List.Nodup, List.pairwise_filterMap, List.pairwise_iff_getElem] at h
  obtain ⟨hplt, rfl⟩ := List.getElem?_eq_some_iff.1 hp
  obtain ⟨hqlt, rfl⟩ := List.getElem?_eq_some_iff.1 hq
  rcases Nat.lt_trichotomy p q with hlt | heq | hgt
  · exact absurd rfl (h p q hplt hqlt hlt i hi i hi')
  · exact heq
  · exact absurd rfl (h q p hqlt hplt hgt i hi' i hi)

/-- Looking for an index finds the value at the place of the one builder that has it. -/
theorem valueFor_eq (h : (order.filterMap Builder.index?).Nodup) (hp : order[p]? = some b)
    (hi : b.index? = some i) {v : Value} (hv : physical[p]? = some v) :
    valueFor order physical i = some v := by
  have hmem : (b, v) ∈ order.zip physical :=
    List.mem_of_getElem? (List.getElem?_zip_eq_some.2 ⟨hp, hv⟩)
  have hsome : ((order.zip physical).find? fun made => decide (made.1.index? = some i)).isSome :=
    List.find?_isSome.2 ⟨(b, v), hmem, decide_eq_true hi⟩
  obtain ⟨⟨b', v'⟩, hfound⟩ := Option.isSome_iff_exists.1 hsome
  obtain ⟨q, hq⟩ := List.mem_iff_getElem?.1 (List.mem_of_find?_eq_some hfound)
  obtain ⟨hbq, hvq⟩ := List.getElem?_zip_eq_some.1 hq
  have hi' : b'.index? = some i := by simpa using List.find?_some hfound
  have hpq : p = q := place_unique h hp hbq hi hi'
  rw [valueFor, hfound, Option.map_some, ← hvq, ← hpq, hv]

theorem valueFor_eq_none (h : ∀ b ∈ order, b.index? ≠ some i) (physical : List Value) :
    valueFor order physical i = none := by
  rw [valueFor, Option.map_eq_none_iff, List.find?_eq_none]
  intro made hmade hi
  exact h made.1 (List.of_mem_zip hmade).1 (of_decide_eq_true hi)

/-- What was collected is what the collecting builders collect. -/
theorem collected_eq (h : order.map (fun b => b.build c args) = physical.map .ok) :
    collected order physical = (order.filterMap Builder.start?).flatMap fun i => args.drop i := by
  induction order generalizing physical with
  | nil => rfl
  | cons b order ih =>
      cases physical with
      | nil => cases h
      | cons v physical =>
          rw [List.map_cons, List.map_cons, List.cons.injEq] at h
          have hcons : collected (b :: order) (v :: physical) =
              (if b.start?.isSome then v.asList?.getD [] else []) ++ collected order physical := rfl
          rw [hcons, ih h.2]
          cases hstart : b.start? with
          | none => rw [List.filterMap_cons_none hstart]; rfl
          | some i =>
              have hv := Builder.build_eq_list (by rw [hstart]; rfl) h.1
              rw [hstart] at hv
              rw [List.filterMap_cons_some hstart, hv]
              rfl

end Built

/-- Reading the first places of a list gives its front. -/
theorem filterMap_range_getElem? {α : Type} (l : List α) (n : Nat) :
    (List.range n).filterMap (fun i => l[i]?) = l.take n := by
  induction n with
  | zero => simp
  | succ n ih =>
      rw [List.range_succ, List.filterMap_append, ih, List.take_add_one]
      cases hn : l[n]? <;> simp [hn]

/-! ## The main result -/

/-- What became of the arguments of a call.  The builders are those of a procedure in the order in
which they work, and `physical` is what they made; `k` of them pass one argument each. -/
structure Delivered (order : List Builder) (k : Nat) (c : Context) (args physical : List Value) :
    Prop where
  /-- Every builder has made one value. -/
  complete : physical.length = order.length
  /-- An argument is what the builder with its index has made, and there is one such builder. -/
  passed : ∀ i, i < k → i < args.length → ∃ (p : Nat) (b : Builder), order[p]? = some b ∧
    b.index? = some i ∧ physical[p]? = args[i]? ∧
    ∀ (q : Nat) (b' : Builder), order[q]? = some b' → b'.index? = some i → q = p
  /-- The other builders would have made the same for any other argument. -/
  alone : ∀ i, i < k → ∀ w, ∀ b ∈ order, b.index? ≠ some i →
    b.build c (args.set i w) = b.build c args
  /-- Where there is no argument for an index there is a default. -/
  default : ∀ (p : Nat) (b : Builder) (i : Nat), order[p]? = some b → b.index? = some i →
    args.length ≤ i → ∃ d kind, b = .default i d kind ∧ physical[p]? = some d
  /-- The arguments from `k` on are collected. -/
  rest : ∀ (p : Nat) (b : Builder) (i : Nat), order[p]? = some b → b.start? = some i →
    physical[p]? = some (.list (args.drop k))
  /-- If they are not collected there are none. -/
  noRest : (∀ b ∈ order, b.start? = none) → args.length ≤ k
  /-- The arguments can be read off what was made. -/
  readBack : positional order physical args.length ++ collected order physical = args

/-- The order in which builders were given does not matter for what they cover. -/
theorem Covers.ofList {bs : List Builder} {k : Nat} (h : Covers bs k) :
    Covers (ofList bs).builders k := by
  have hperm : (BuilderSet.ofList bs).builders.Perm bs := ordered_perm bs
  refine ⟨fun b hb => h.builtIn b (hperm.mem_iff.1 hb), (hperm.filterMap _).trans h.places, ?_⟩
  rcases h.rest with hnone | hone
  · exact .inl (List.perm_nil.1 (hnone ▸ hperm.filterMap Builder.start?))
  · exact .inr (List.perm_singleton.1 (hone ▸ hperm.filterMap Builder.start?))

section Covers

variable {order : List Builder} {k : Nat} (h : Covers order k)
include h

theorem Covers.nodup : (order.filterMap Builder.index?).Nodup :=
  h.places.nodup_iff.2 List.nodup_range

theorem Covers.exists_place {i : Nat} (hi : i < k) :
    ∃ (p : Nat) (b : Builder), order[p]? = some b ∧ b.index? = some i := by
  obtain ⟨b, hb, hindex⟩ := List.mem_filterMap.1 (h.places.mem_iff.2 (List.mem_range.2 hi))
  obtain ⟨p, hp⟩ := List.mem_iff_getElem?.1 hb
  exact ⟨p, b, hp, hindex⟩

theorem Covers.index_lt {b : Builder} {i : Nat} (hb : b ∈ order) (hi : b.index? = some i) :
    i < k :=
  List.mem_range.1 (h.places.mem_iff.1 (List.mem_filterMap.2 ⟨b, hb, hi⟩))

theorem Covers.start_eq {b : Builder} {i : Nat} (hb : b ∈ order) (hi : b.start? = some i) :
    i = k := by
  have hmem : i ∈ order.filterMap Builder.start? := List.mem_filterMap.2 ⟨b, hb, hi⟩
  rcases h.rest with hnone | hone
  · rw [hnone] at hmem
    cases hmem
  · rw [hone] at hmem
    exact List.mem_singleton.1 hmem

/-- A set that covers the first `k` arguments takes no more than these unless it collects others. -/
theorem Covers.noRest {args : List Value}
    (hcount : BuilderSet.isVariadic ⟨order⟩ = true ∨ args.length ≤ BuilderSet.arity ⟨order⟩)
    (hstart : ∀ b ∈ order, b.start? = none) : args.length ≤ k := by
  rcases hcount with hvariadic | hcount
  · obtain ⟨b, hb, hsome⟩ := (isVariadic_iff h.builtIn).1 hvariadic
    rw [hstart b hb] at hsome
    cases hsome
  · rwa [arity_eq_length h.builtIn, h.places.length_eq, List.length_range] at hcount

variable {c : Context} {args physical : List Value}
  (hbuilt : order.map (fun b => b.build c args) = physical.map .ok)
include hbuilt

theorem Covers.valueFor_eq {i : Nat} (hi : i < args.length) :
    valueFor order physical i = (args.take k)[i]? := by
  rw [List.getElem?_take]
  split
  · next hik =>
      obtain ⟨p, b, hp, hindex⟩ := h.exists_place hik
      obtain ⟨v, hv, hmade⟩ := exists_value_at hbuilt hp
      rw [BuilderSet.valueFor_eq h.nodup hp hindex hv]
      rcases Builder.build_of_index hindex hmade with harg | ⟨hle, -⟩
      · exact harg.symm
      · omega
  · next hik =>
      exact valueFor_eq_none (fun b hb hindex => hik (h.index_lt hb hindex)) physical

/-- The positional values are the first `k` arguments. -/
theorem Covers.positional_eq : positional order physical args.length = args.take k := by
  have hread : positional order physical args.length =
      (List.range args.length).filterMap fun i => (args.take k)[i]? :=
    List.filterMap_congr fun i hi => h.valueFor_eq hbuilt (List.mem_range.1 hi)
  rw [hread, filterMap_range_getElem?, List.take_take, Nat.min_comm, ← List.take_take,
    List.take_length]

/-- The collected arguments are the others. -/
theorem Covers.collected_eq (hrest : order.filterMap Builder.start? = [] → args.length ≤ k) :
    collected order physical = args.drop k := by
  rw [BuilderSet.collected_eq hbuilt]
  rcases h.rest with hnone | hone
  · rw [hnone, List.drop_eq_nil_of_le (hrest hnone)]
    rfl
  · rw [hone, List.flatMap_cons, List.flatMap_nil, List.append_nil]

end Covers

/-- **No argument is lost or handed over twice.**  Builders of the library, given in any order,
pass the first `k` arguments, each of them once, and collect the others, if any.  Their guard takes
only calls whose arguments they can build, and then each of the first `k` arguments is what the one
builder with its index makes, a builder without an argument makes its default, the collected rest
is the arguments from `k` on, and no argument is left over.  So the arguments can be read off what
was built. -/
theorem arguments_delivered {bs : List Builder} {k : Nat} (hbs : Covers bs k) (c : Context)
    (args : List Value)
    (hguard : ((ofList bs).guard c (.ofArgs args)).holds (.ofArgs args) = true) :
    ∃ physical, (ofList bs).build c args = .ok physical ∧
      Delivered (ofList bs).builders k c args physical := by
  have h := hbs.ofList
  obtain ⟨⟨physical, hok⟩, hcount⟩ := (guard_holds_iff_buildable h.builtIn c args).1 hguard
  have hbuilt : (ofList bs).builders.map (fun b => b.build c args) = physical.map .ok := by
    rwa [build, buildList_eq_mapM, mapM_eq_ok_iff] at hok
  have hnoRest := h.noRest hcount
  refine ⟨physical, hok, ?_, fun i hik hi => ?_, fun i hik w b hb hindex => ?_,
    fun p b i hp hindex hle => ?_, fun p b i hp hstart => ?_, hnoRest, ?_⟩
  · have hlength := congrArg List.length hbuilt
    rw [List.length_map, List.length_map] at hlength
    exact hlength.symm
  · obtain ⟨p, b, hp, hindex⟩ := h.exists_place hik
    obtain ⟨v, hv, hmade⟩ := exists_value_at hbuilt hp
    refine ⟨p, b, hp, hindex, ?_, fun q b' hq hindex' => place_unique h.nodup hq hp hindex' hindex⟩
    rcases Builder.build_of_index hindex hmade with harg | ⟨hle, -⟩
    · rw [hv, harg]
    · omega
  · refine Builder.build_set (h.builtIn b hb) hindex (fun j hj => ?_) w
    rw [h.start_eq hb hj]
    exact hik
  · obtain ⟨v, hv, hmade⟩ := exists_value_at hbuilt hp
    rcases Builder.build_of_index hindex hmade with harg | ⟨-, kind, hdefault⟩
    · rw [List.getElem?_eq_none hle] at harg
      cases harg
    · exact ⟨v, kind, hdefault, hv⟩
  · obtain ⟨v, hv, hmade⟩ := exists_value_at hbuilt hp
    have hlist := Builder.build_eq_list (by rw [hstart]; rfl) hmade
    rw [hv, hlist, hstart, Option.getD_some, h.start_eq (List.mem_of_getElem? hp) hstart]
  · have hrest : (ofList bs).builders.filterMap Builder.start? = [] → args.length ≤ k :=
      fun hnone => hnoRest (List.filterMap_eq_nil_iff.1 hnone)
    rw [h.positional_eq hbuilt, h.collected_eq hbuilt hrest, List.take_append_drop]

/-- The builder of the second argument may come before that of the first.  The second argument has
a default and the others are collected, so any call with an argument is taken. -/
theorem arguments_delivered_crossed :
    let bs : List Builder := [.params 2 none, .default 1 (.int 7) none, .context, .simple 0 none]
    let long : List Value := [.str "a", .int 1, .int 2]
    Covers bs 2 ∧
    ((ofList bs).guard .empty (.ofArgs long)).holds (.ofArgs long) = true ∧
    Delivered (ofList bs).builders 2 .empty long
      [.context .empty, .int 1, .str "a", .list [.int 2]] ∧
    ((ofList bs).guard .empty (.ofArgs [.str "a"])).holds (.ofArgs [.str "a"]) = true ∧
    Delivered (ofList bs).builders 2 .empty [.str "a"]
      [.context .empty, .int 7, .str "a", .list []] := by
  intro bs long
  have hbs : Covers bs 2 := ⟨by decide, List.Perm.swap 0 1 [], .inr rfl⟩
  have horder : (ofList bs).builders =
      [.context, .default 1 (.int 7) none, .simple 0 none, .params 2 none] :=
    builders_ofList_of_builtIn hbs.builtIn
  have hcall : ∀ args physical, (ofList bs).build .empty args = .ok physical →
      ((ofList bs).guard .empty (.ofArgs args)).holds (.ofArgs args) = true ∧
        Delivered (ofList bs).builders 2 .empty args physical := fun args physical hok => by
    have hguard : ((ofList bs).guard .empty (.ofArgs args)).holds (.ofArgs args) = true := by
      refine (guard_holds_iff_buildable hbs.ofList.builtIn .empty args).2 ⟨⟨physical, hok⟩, .inl ?_⟩
      rw [isVariadic, horder]
      rfl
    obtain ⟨physical', hok', hdelivered⟩ := arguments_delivered hbs .empty args hguard
    rw [hok] at hok'
    cases hok'
    exact ⟨hguard, hdelivered⟩
  obtain ⟨hlong, hlongDelivered⟩ := hcall long
    [.context .empty, .int 1, .str "a", .list [.int 2]] (by rw [build, horder]; rfl)
  obtain ⟨hshort, hshortDelivered⟩ := hcall [.str "a"]
    [.context .empty, .int 7, .str "a", .list []] (by rw [build, horder]; rfl)
  exact ⟨hbs, hlong, hlongDelivered, hshort, hshortDelivered⟩

end BuilderSet

end Polyglot
