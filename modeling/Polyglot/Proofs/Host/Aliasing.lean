import Polyglot.Proofs.Host.Activity

/-!
# Polyglot.Proofs.Host.Aliasing

A linked global can be reached in two ways: through the slot that the module's linkage has for it,
and through its name in the module's scope.  Both lead to the same slot when the module is made
(`slotIn_of_perform`), and they do so for as long as no name is taken away from its slot in that
scope (`slot_and_scope_agree`).
-/

namespace Polyglot.Host

open Store (Evolves)

/-! ## When a module is made -/

/-- Every module that an action returns was assembled. -/
theorem exists_createModule_of_perform {h : Host} {a : Action} {m : Module}
    (hm : (h.perform a).1 = some m) : ∃ (h₁ : Host) (c : Compiler) (name : String)
      (scope : Option ScopeId) (ids : List CodeId),
      h₁.createModule c name scope ids = (.ok m, (h.perform a).2) := by
  cases a with
  | create c name scope ids =>
      simp only [perform] at hm ⊢
      split at hm
      · next hexist =>
          rw [if_pos hexist]
          cases hres : h.createModule c name scope ids with
          | mk result h' =>
              rw [hres] at hm
              cases result with
              | error e => cases hm
              | ok m' =>
                  obtain rfl : m' = m := Option.some.inj hm
                  exact ⟨h, c, name, scope, ids, hres⟩
      · cases hm
  | compile c name scope units sink =>
      simp only [perform, compileModule] at hm ⊢
      split at hm
      · cases hm
      · next ids h₁ sink₁ hus =>
          split at hm
          · cases hm
          · next herrors =>
              simp only [if_neg herrors]
              cases hres : h₁.createModule c name scope ids with
              | mk result h' =>
                  rw [hres] at hm
                  cases result with
                  | error e => cases hm
                  | ok m' =>
                      obtain rfl : m' = m := Option.some.inj hm
                      exact ⟨h₁, c, name, scope, ids, hres⟩
  | use u => cases hm

/-- The scope of a module whose globals are linked is made of their slots. -/
theorem slotIn_moduleScope {h : Host} {o : Options} {scope : Option ScopeId} {ids : List CodeId}
    {l : Linkage} (hl : (h.moduleScope o scope ids).1.2 = some l) :
    (h.moduleScope o scope ids).1.1.index < (h.moduleScope o scope ids).2.store.scopes.size ∧
    ∀ n, (h.moduleScope o scope ids).2.store.slotIn (h.moduleScope o scope ids).1.1 n =
      l.slot? n := by
  simp only [moduleScope] at hl ⊢
  split at hl
  · cases hl
  · split at hl
    · next hlinks =>
        obtain rfl := Option.some.inj hl
        rw [if_pos hlinks]
        have hlinked := (Linkage.linked_link (P := fun _ _ => True) h.store
          fun d (_ : d ∈ h.declarationsOf ids) => trivial).1
        have hstore : (h.linkGlobals ids).2.store =
            (Linkage.link h.store (h.declarationsOf ids)).2 := (keeps_linkAll _ ids _).2
        rw [← hstore] at hlinked
        exact ⟨Nat.lt_of_lt_of_eq (Nat.lt_succ_self _) (Heap.size_add _ _).symm,
          Linkage.slotIn_newScope _ hlinked⟩
    · cases hl

/-- When a module is made, its scope has for each name the slot that its linkage has. -/
theorem slotIn_of_perform {h : Host} {a : Action} {m : Module} {l : Linkage}
    (hm : (h.perform a).1 = some m) (hl : m.globals = some l) (n : Symbol) :
    (h.perform a).2.store.slotIn m.scope n = l.slot? n := by
  obtain ⟨h₁, c, name, scope, ids, hcreate⟩ := exists_createModule_of_perform hm
  obtain ⟨mid, hmakes⟩ := exists_makes hcreate
  rw [hmakes.globals] at hl
  obtain ⟨hscope, hslots⟩ := slotIn_moduleScope hl
  rw [hmakes.place, (hmakes.after 0).store.slotIn hscope, hslots]

/-! ## From then on -/

/-- A variable is evaluated in the context of a module: it has the value that its name has in the
module's scope. -/
theorem evaluate_moduleContext {x : FreeVariable} {st : Store} {m : ModuleId} {sc : ScopeId}
    {v : Value} (hv : st.readName sc x.name = some v) :
    x.evaluate (st.moduleContext m sc).2 (st.moduleContext m sc).1 = .ok v := by
  have hread : (st.moduleContext m sc).2.readName sc x.name = some v := hv
  have hscopes : (st.moduleContext m sc).1.scopes = [sc] := rfl
  rw [FreeVariable.evaluate, hscopes, List.findSome?_cons, hread]

/-- **A linked global is one slot, however it is reached.**  Let a module with linked globals be
returned, and let anything happen after that in which no name of its scope is taken away from its
slot.  Then the scope has each global under the slot of the linkage, and so

* the value of the global in the module is the value that the slot holds;
* once the slot holds a value, the variable has that value in the module's context. -/
theorem slot_and_scope_agree {h : Host} {a : Action} {m : Module} {l : Linkage}
    (hm : (h.perform a).1 = some m) (hl : m.globals = some l) (activities : List Activity)
    (hkept : m.scope ∉ Activity.unfilesAll (h.perform a).2 activities) (x : FreeVariable)
    (hx : x.name ∈ l.names) :
    let now := (h.perform a).2.afterAll activities
    let context := now.store.moduleContext m.id m.scope
    ∃ s, l.slot? x.name = some s ∧ now.store.slotIn m.scope x.name = some s ∧
      now.topLevel m x.name.text = now.store.read s ∧
      ∀ v, now.store.read s = some v → x.evaluate context.2 context.1 = .ok v := by
  obtain ⟨s, hs⟩ := Linkage.exists_slot?_of_mem_names hx
  have hevolves : Evolves (fun sc => sc ≠ m.scope) (h.perform a).2.store
      ((h.perform a).2.afterAll activities).store :=
    evolves_afterAll _ activities fun sc hsc heq => hkept (heq ▸ hsc)
  have hfiled := hevolves.slotIn (fun hne => hne rfl) ((slotIn_of_perform hm hl x.name).trans hs)
  have hread := Store.readName_of_slotIn hfiled
  have htext : Symbol.named x.name.text = x.name := by
    cases hname : x.name with
    | invalid => exact absurd (by rw [hname, Symbol.text_invalid]) x.nonempty
    | named t => rfl
  refine ⟨s, hs, hfiled, ?_, fun v hv => evaluate_moduleContext (hread.trans hv)⟩
  rw [topLevel, htext, hread, Store.read]

/-- One language, and code that declares `x`.  When it runs, it gives `x` a value, and in a scope of
its own it gives `x` another one and takes it out again. -/
def shadowingHost : Host :=
  (Host.empty.run [.use (.addRegistry none),
    .use (.register ⟨0⟩ (.resolved ⟨"t", 0, 0, [], .script "x" false⟩) false ["x"]),
    .use (.addCode "a" "x" (.script
      { declarations := [{ name := .named "x" }]
        body := [.set (.named "x") (.value (.int 1)),
          .push [.set (.named "x") (.value (.int 2)), .remove (.named "x")],
          .add (.named "x") 4] } none))]).2

/-- The code becomes a module with linked globals. -/
def assembleShadowing : Action := .create { registry := ⟨0⟩ } "main" none [⟨0⟩]

/-- The module is executed, and a name is added to its scope. -/
def executeAndAdd (m : Module) : List Activity :=
  [.act (.use (.execute m)) trivial, .operate (.writeName m.scope (.named "y") (.int 7))]

/-- The name that is taken out of another scope meanwhile stays filed in that of the module, and it
has one value on all ways. -/
theorem slot_and_scope_agree_shadowing : ∃ m v, m.scope = ⟨0⟩ ∧
    Activity.unfilesAll (shadowingHost.perform assembleShadowing).2 (executeAndAdd m) = [⟨1⟩] ∧
    let now := (shadowingHost.perform assembleShadowing).2.afterAll (executeAndAdd m)
    let context := now.store.moduleContext m.id m.scope
    now.topLevel m "x" = some v ∧ v.kind = .int ∧
      (FreeVariable.mk (.named "x") (by decide)).evaluate context.2 context.1 = .ok v := by
  have hmade : (shadowingHost.perform assembleShadowing).1.map (fun m =>
      (m.globals.map Linkage.names, m.scope,
        Activity.unfilesAll (shadowingHost.perform assembleShadowing).2 (executeAndAdd m))) =
      some (some [.named "x"], ⟨0⟩, [⟨1⟩]) := by decide +kernel
  have hkind : (shadowingHost.perform assembleShadowing).1.map (fun m =>
      (((shadowingHost.perform assembleShadowing).2.afterAll
        (executeAndAdd m)).topLevel m "x").map Value.kind) = some (some .int) := by
    decide +kernel
  obtain ⟨m, hm, hfacts⟩ := Option.map_eq_some_iff.1 hmade
  rw [hm, Option.map_some, Option.some_inj] at hkind
  obtain ⟨v, hv, hint⟩ := Option.map_eq_some_iff.1 hkind
  simp only [Prod.mk.injEq] at hfacts
  obtain ⟨hglobals, hscope, hunfiled⟩ := hfacts
  obtain ⟨l, hl, hnames⟩ := Option.map_eq_some_iff.1 hglobals
  have hkept : m.scope ∉ Activity.unfilesAll (shadowingHost.perform assembleShadowing).2
      (executeAndAdd m) := by
    rw [hunfiled, hscope]
    decide
  have hx : Symbol.named "x" ∈ l.names := by
    rw [hnames]
    exact List.mem_singleton_self _
  obtain ⟨s, -, -, hget, heval⟩ := slot_and_scope_agree hm hl (executeAndAdd m) hkept
    (FreeVariable.mk (.named "x") (by decide)) hx
  exact ⟨m, v, hscope, hunfiled, hv, hint, heval v (hget.symm.trans hv)⟩

end Polyglot.Host
