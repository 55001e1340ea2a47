import Polyglot.Proofs.Store.Operation

/-!
# Polyglot.Proofs.Store.Chains

Families of contexts.  A context is made from nothing, for a scope, for a module, in front of a
context that was made before, or as its clone, and contexts that were made in front of one context
go separate ways:

```
c₀ ── c₁ = push c₀ s ── c₃ = push c₁ t
   └─ c₂ = push c₀ s ── c₄ = push c₂ t
```

`Lineage` says which scopes and which module a context comes to by how it was made, without links
and without depths.  Two contexts share a chain when their innermost links are the same, and their
depths and modules are not looked at.  That this is enough rests on `Linked`: wherever in a family
a link is met, the same links follow it outward, for the same module.  A new link gets a number that
none has yet, so the branches of a family never meet in a link by which they could be confused.
-/

namespace Polyglot

namespace Context

/-- Two contexts share a chain when their innermost links agree and, without links, their modules
do. -/
theorem sameChain_iff {a b : Context} :
    a.sameChain b = true ↔
      a.innermost.map Link.id = b.innermost.map Link.id ∧
        (a.innermost = none → a.module = b.module) := by
  rw [sameChain]
  cases a.innermost <;> cases b.innermost <;> simp

/-- Sharing a chain is an equivalence between contexts, wherever they come from. -/
theorem sameChain_equivalence : Equivalence fun a b : Context => a.sameChain b = true where
  refl a := sameChain_iff.2 ⟨rfl, fun _ => rfl⟩
  symm {a b} h := by
    obtain ⟨hid, hmodule⟩ := sameChain_iff.1 h
    refine sameChain_iff.2 ⟨hid.symm, fun hnone => (hmodule ?_).symm⟩
    rw [hnone] at hid
    exact Option.map_eq_none_iff.1 hid
  trans {a b c} h h' := by
    obtain ⟨hid, hmodule⟩ := sameChain_iff.1 h
    obtain ⟨hid', hmodule'⟩ := sameChain_iff.1 h'
    refine sameChain_iff.2 ⟨hid.trans hid', fun hnone => (hmodule hnone).trans (hmodule' ?_)⟩
    rw [hnone] at hid
    exact Option.map_eq_none_iff.1 hid.symm

end Context

/-! ## Links are counted -/

namespace Store

variable {st st' : Store}

theorem links_of_write {s : SlotId} {v : Value} (hw : st.write s v = .ok st') :
    st'.links = st.links := by
  simp only [write] at hw
  split at hw
  · cases hw
  · cases hw
    rfl

theorem Change.links_le {P : ScopeId → Prop} (h : Change P st st') : st.links ≤ st'.links := by
  cases h with
  | value s v hw => exact Nat.le_of_eq (links_of_write hw).symm
  | push c sc => exact Nat.le_succ _
  | _ => exact Nat.le_refl _

/-- Link numbers that were given out stay given out. -/
theorem Evolves.links_le {P : ScopeId → Prop} (h : Evolves P st st') : st.links ≤ st'.links :=
  h.keeps (fun now => st.links ≤ now.links)
    (fun _ _ hchange hle => Nat.le_trans hle hchange.links_le) (Nat.le_refl _)

theorem links_le_operate (st : Store) (op : Operation) : st.links ≤ (st.operate op).links :=
  (Evolves.operate (P := fun _ => True) op fun _ _ => trivial).links_le

end Store

/-! ## Families -/

/-- Contexts over one store, in the order in which they were made. -/
structure Family where
  store : Store
  contexts : List Context

/-- Something that makes a context, or is done to the store meanwhile.  A context is known by its
place in the order of making. -/
inductive Making where
  | new
  | forScope (sc : ScopeId)
  | forModule (m : ModuleId) (sc : ScopeId)
  | push (parent : Nat) (sc : ScopeId)
  | clone (original : Nat)
  | meanwhile (op : Store.Operation)

namespace Family

/-- A store for which no context was made. -/
def start (st : Store) : Family := ⟨st, []⟩

/-- The family with one more context. -/
def add (f : Family) (made : Context × Store) : Family := ⟨made.2, f.contexts ++ [made.1]⟩

/-- The family after a making; nothing is made from a context that there is not. -/
def step (f : Family) : Making → Family
  | .new => f.add (.empty, f.store)
  | .forScope sc => f.add (f.store.push .empty sc)
  | .forModule m sc => f.add (f.store.moduleContext m sc)
  | .push parent sc =>
    match f.contexts[parent]? with
    | none => f
    | some c => f.add (f.store.push c sc)
  | .clone original =>
    match f.contexts[original]? with
    | none => f
    | some c => f.add (c, f.store)
  | .meanwhile op => { f with store := f.store.operate op }

/-- The family after one making after another. -/
def run (f : Family) (makings : List Making) : Family := makings.foldl step f

theorem step_push {f : Family} {parent : Nat} {c : Context} (hc : f.contexts[parent]? = some c)
    (sc : ScopeId) : f.step (.push parent sc) = f.add (f.store.push c sc) := by
  simp only [step, hc]

theorem step_clone {f : Family} {original : Nat} {c : Context}
    (hc : f.contexts[original]? = some c) : f.step (.clone original) = f.add (c, f.store) := by
  simp only [step, hc]

/-- The family with one more context, which has a new link in front of another and runs for a
module. -/
def front (f : Family) (base : Context) (sc : ScopeId) (module : Option ModuleId) : Family :=
  f.add ({ (f.store.push base sc).1 with module }, (f.store.push base sc).2)

/-- **What a making does**: it leaves the contexts alone, or adds one that has the links of another
or none, or adds one that has a new link in front of such. -/
theorem step_cases (f : Family) (m : Making) :
    (∃ st', f.store.links ≤ st'.links ∧ f.step m = ⟨st', f.contexts⟩) ∨
      (∃ c, (c = .empty ∨ c ∈ f.contexts) ∧ f.step m = f.add (c, f.store)) ∨
        ∃ base sc module, (base = .empty ∨ base ∈ f.contexts ∧ module = base.module) ∧
          f.step m = f.front base sc module := by
  cases m with
  | new => exact .inr (.inl ⟨.empty, .inl rfl, rfl⟩)
  | forScope sc => exact .inr (.inr ⟨.empty, sc, none, .inl rfl, rfl⟩)
  | forModule m sc => exact .inr (.inr ⟨.empty, sc, some m, .inl rfl, rfl⟩)
  | push parent sc =>
      cases hc : f.contexts[parent]? with
      | none => exact .inl ⟨f.store, Nat.le_refl _, by simp only [step, hc]⟩
      | some c =>
          have hmem : c ∈ f.contexts := List.mem_of_getElem? hc
          exact .inr (.inr ⟨c, sc, c.module, .inr ⟨hmem, rfl⟩, step_push hc sc⟩)
  | clone original =>
      cases hc : f.contexts[original]? with
      | none => exact .inl ⟨f.store, Nat.le_refl _, by simp only [step, hc]⟩
      | some c => exact .inr (.inl ⟨c, .inr (List.mem_of_getElem? hc), step_clone hc⟩)
  | meanwhile op => exact .inl ⟨_, f.store.links_le_operate op, rfl⟩

/-! ## What a link determines -/

/-- A context of the family goes outward from the link x through the links t, for the module m. -/
def Passes (f : Family) (x : Link) (t : List Link) (m : Option ModuleId) : Prop :=
  ∃ c ∈ f.contexts, x :: t <:+ c.chain ∧ c.module = m

/-- Links have numbers that were given out, and a link determines what lies outward of it and the
module.  Depths count links, and a context without links is the empty one. -/
structure Linked (f : Family) : Prop where
  counted : ∀ x t m, f.Passes x t m → x.id.index < f.store.links
  determines : ∀ x t m y u n, f.Passes x t m → f.Passes y u n → x.id = y.id →
    x = y ∧ t = u ∧ m = n
  depth : ∀ c ∈ f.contexts, c.depth = c.chain.length
  bare : ∀ c ∈ f.contexts, c.chain = [] → c = .empty

variable {f : Family}

/-- Whoever is of the family passes through its own links. -/
theorem passes_of_suffix {c : Context} {x : Link} {t : List Link} {m : Option ModuleId}
    (hc : c = .empty ∨ c ∈ f.contexts ∧ m = c.module) (hs : x :: t <:+ c.chain) :
    f.Passes x t m := by
  rcases hc with rfl | ⟨hmem, rfl⟩
  · exact absurd (List.suffix_nil.1 hs) (List.cons_ne_nil x t)
  · exact ⟨c, hmem, hs, rfl⟩

theorem passes_add {c : Context} {made : Store} {x : Link} {t : List Link}
    {m : Option ModuleId} (hp : (f.add (c, made)).Passes x t m) :
    f.Passes x t m ∨ x :: t <:+ c.chain ∧ c.module = m := by
  obtain ⟨d, hd, hs, hm⟩ := hp
  rcases List.mem_append.1 hd with hold | hnew
  · exact .inl ⟨d, hold, hs, hm⟩
  · obtain rfl := List.mem_singleton.1 hnew
    exact .inr ⟨hs, hm⟩

namespace Linked

theorem start (st : Store) : Linked (.start st) where
  counted := fun _ _ _ ⟨_, hc, _⟩ => absurd hc List.not_mem_nil
  determines := fun _ _ _ _ _ _ ⟨_, hc, _⟩ => absurd hc List.not_mem_nil
  depth := fun _ hc => absurd hc List.not_mem_nil
  bare := fun _ hc => absurd hc List.not_mem_nil

/-- A family stays as it is when only the store changes. -/
theorem meanwhile (h : f.Linked) {st' : Store} (hlinks : f.store.links ≤ st'.links) :
    Linked ⟨st', f.contexts⟩ where
  counted x t m hp := Nat.lt_of_lt_of_le (h.counted x t m hp) hlinks
  determines := h.determines
  depth := h.depth
  bare := h.bare

/-- Another context with the links of one that there is, or with none, adds no way outward. -/
theorem again (h : f.Linked) {c : Context} (hc : c = .empty ∨ c ∈ f.contexts) :
    (f.add (c, f.store)).Linked := by
  have hpasses : ∀ x t m, (f.add (c, f.store)).Passes x t m → f.Passes x t m := by
    intro x t m hp
    rcases passes_add hp with hold | ⟨hs, hm⟩
    · exact hold
    · exact passes_of_suffix (hc.imp_right fun hmem => ⟨hmem, hm.symm⟩) hs
  have hmem : ∀ d ∈ (f.add (c, f.store)).contexts, d = .empty ∨ d ∈ f.contexts := by
    intro d hd
    rcases List.mem_append.1 hd with hold | hnew
    · exact .inr hold
    · rwa [List.mem_singleton.1 hnew]
  refine ⟨fun x t m hp => h.counted x t m (hpasses x t m hp), fun x t m y u n hp hq =>
    h.determines x t m y u n (hpasses x t m hp) (hpasses y u n hq), fun d hd => ?_, fun d hd => ?_⟩
  · rcases hmem d hd with rfl | hold
    · rfl
    · exact h.depth d hold
  · rcases hmem d hd with rfl | hold
    · exact fun _ => rfl
    · exact h.bare d hold

/-- A new link in front of a context, or of none, is met in no other way outward. -/
theorem front (h : f.Linked) {base : Context} (sc : ScopeId) {module : Option ModuleId}
    (hbase : base = .empty ∨ base ∈ f.contexts ∧ module = base.module) :
    (f.front base sc module).Linked := by
  have hpasses : ∀ x t m, (f.front base sc module).Passes x t m →
      f.Passes x t m ∨ x = ⟨⟨f.store.links⟩, sc⟩ ∧ t = base.chain ∧ m = module := by
    intro x t m hp
    rcases passes_add hp with hold | ⟨hs, rfl⟩
    · exact .inl hold
    · rcases List.suffix_cons_iff.1 hs with heq | htail
      · obtain ⟨rfl, rfl⟩ := List.cons.inj heq
        exact .inr ⟨rfl, rfl, rfl⟩
      · exact .inl (passes_of_suffix hbase htail)
  -- The number of the new link is that of no link there was.
  have hfresh : ∀ x t m, f.Passes x t m → x.id ≠ ⟨f.store.links⟩ := by
    intro x t m hp heq
    have hlt := h.counted x t m hp
    rw [heq] at hlt
    exact Nat.lt_irrefl _ hlt
  have hdepth : base.depth = base.chain.length := by
    rcases hbase with rfl | ⟨hmem, -⟩
    · rfl
    · exact h.depth base hmem
  refine ⟨fun x t m hp => ?_, fun x t m y u n hp hq hid => ?_, fun d hd => ?_, fun d hd hnil => ?_⟩
  · rcases hpasses x t m hp with hold | ⟨rfl, -, -⟩
    · exact Nat.lt_succ_of_lt (h.counted x t m hold)
    · exact Nat.lt_succ_self _
  · rcases hpasses x t m hp with hx | ⟨rfl, rfl, rfl⟩ <;>
      rcases hpasses y u n hq with hy | ⟨rfl, rfl, rfl⟩
    · exact h.determines x t m y u n hx hy hid
    · exact absurd hid (hfresh x t m hx)
    · exact absurd hid.symm (hfresh y u n hy)
    · exact ⟨rfl, rfl, rfl⟩
  · rcases List.mem_append.1 hd with hold | hnew
    · exact h.depth d hold
    · rw [List.mem_singleton.1 hnew]
      exact congrArg (· + 1) hdepth
  · rcases List.mem_append.1 hd with hold | hnew
    · exact h.bare d hold hnil
    · rw [List.mem_singleton.1 hnew] at hnil
      cases hnil

/-- A making keeps a family linked. -/
theorem step (h : f.Linked) (m : Making) : (f.step m).Linked := by
  rcases f.step_cases m with ⟨st', hle, heq⟩ | ⟨c, hc, heq⟩ | ⟨base, sc, module, hbase, heq⟩
  · rw [heq]
    exact h.meanwhile hle
  · rw [heq]
    exact h.again hc
  · rw [heq]
    exact h.front sc hbase

/-- **A link determines the rest of its chain** in every family that is made. -/
theorem run (h : f.Linked) (makings : List Making) : (f.run makings).Linked := by
  induction makings generalizing f with
  | nil => exact h
  | cons m rest ih => exact ih (h.step m)

/-- **Contexts that share a chain are equal**, in a family. -/
theorem eq_of_sameChain (h : f.Linked) {a b : Context} (ha : a ∈ f.contexts) (hb : b ∈ f.contexts)
    (hsame : a.sameChain b = true) : a = b := by
  obtain ⟨hid, hmodule⟩ := Context.sameChain_iff.1 hsame
  cases hchain : a.chain with
  | nil =>
      have hnone : b.chain = [] := by
        rw [Context.innermost, Context.innermost, hchain] at hid
        exact List.head?_eq_none_iff.1 (Option.map_eq_none_iff.1 hid.symm)
      rw [h.bare a ha hchain, h.bare b hb hnone]
  | cons x t =>
      cases hchain' : b.chain with
      | nil => simp [Context.innermost, hchain, hchain'] at hid
      | cons y u =>
          have hxy : x.id = y.id := by
            simpa [Context.innermost, hchain, hchain'] using hid
          have hp : f.Passes x t a.module := ⟨a, ha, hchain ▸ List.suffix_rfl, rfl⟩
          have hq : f.Passes y u b.module := ⟨b, hb, hchain' ▸ List.suffix_rfl, rfl⟩
          obtain ⟨rfl, rfl, hm⟩ := h.determines _ _ _ _ _ _ hp hq hxy
          have hdepth : a.depth = b.depth := by
            rw [h.depth a ha, h.depth b hb, hchain, hchain']
          cases a
          cases b
          simp_all

end Linked

end Family

/-! ## Lineages -/

/-- What a context comes to: the scopes that were put in front of each other, the last one first,
and the module. -/
structure Lineage where
  scopes : List ScopeId
  module : Option ModuleId
  deriving DecidableEq

/-- The lineage of what is made, from those of the contexts before. -/
def Making.lineage? (known : List Lineage) : Making → Option Lineage
  | .new => some ⟨[], none⟩
  | .forScope sc => some ⟨[sc], none⟩
  | .forModule m sc => some ⟨[sc], some m⟩
  | .push parent sc => known[parent]?.map fun l => ⟨sc :: l.scopes, l.module⟩
  | .clone original => known[original]?
  | .meanwhile _ => none

/-- The lineages of all that is made. -/
def lineages (makings : List Making) : List Lineage :=
  makings.foldl (fun known m => known ++ (m.lineage? known).toList) []

/-- The lineage that a context shows. -/
def Context.lineage (c : Context) : Lineage := ⟨c.scopes, c.module⟩

namespace Family

variable {f : Family}

/-- The lineages that the contexts show. -/
def shown (f : Family) : List Lineage := f.contexts.map Context.lineage

theorem shown_add (f : Family) (made : Context × Store) :
    (f.add made).shown = f.shown ++ [made.1.lineage] := List.map_append

theorem getElem?_shown (f : Family) (i : Nat) :
    f.shown[i]? = f.contexts[i]?.map Context.lineage := List.getElem?_map

/-- A making shows the lineage it is to have, and changes none that was shown. -/
theorem shown_step (f : Family) (m : Making) :
    (f.step m).shown = f.shown ++ (m.lineage? f.shown).toList := by
  cases m with
  | new => exact shown_add f _
  | forScope sc => exact shown_add f _
  | forModule m sc => exact shown_add f _
  | push parent sc =>
      rw [Making.lineage?, getElem?_shown]
      cases hc : f.contexts[parent]? with
      | none => simp only [step, hc, Option.map_none, Option.toList_none, List.append_nil]
      | some c =>
          rw [step_push hc]
          exact shown_add f _
  | clone original =>
      rw [Making.lineage?, getElem?_shown]
      cases hc : f.contexts[original]? with
      | none => simp only [step, hc, Option.map_none, Option.toList_none, List.append_nil]
      | some c =>
          rw [step_clone hc]
          exact shown_add f _
  | meanwhile op => exact (List.append_nil _).symm

/-- **Contexts show their lineages**, by however many makings they came about. -/
theorem shown_run (st : Store) (makings : List Making) :
    ((start st).run makings).shown = lineages makings := by
  have hrun : ∀ f : Family, (f.run makings).shown =
      makings.foldl (fun known m => known ++ (m.lineage? known).toList) f.shown := by
    induction makings with
    | nil => exact fun f => rfl
    | cons m rest ih =>
        intro f
        rw [List.foldl_cons, ← shown_step]
        exact ih (f.step m)
  exact hrun (start st)

/-- The contexts that there were are the first of the contexts after a making. -/
theorem prefix_step (f : Family) (m : Making) : f.contexts <+: (f.step m).contexts := by
  rcases f.step_cases m with ⟨st', -, heq⟩ | ⟨c, -, heq⟩ | ⟨base, sc, module, -, heq⟩
  · have hsame : (f.step m).contexts = f.contexts := by rw [heq]
    exact hsame ▸ List.prefix_rfl
  · rw [heq]
    exact List.prefix_append _ _
  · rw [heq]
    exact List.prefix_append _ _

theorem prefix_run (f : Family) (makings : List Making) :
    f.contexts <+: (f.run makings).contexts := by
  induction makings generalizing f with
  | nil => exact List.prefix_rfl
  | cons m rest ih => exact (f.prefix_step m).trans (ih (f.step m))

/-- A context stays what it is and where it is. -/
theorem getElem?_run {i : Nat} {c : Context} (hc : f.contexts[i]? = some c)
    (makings : List Making) : (f.run makings).contexts[i]? = some c := by
  obtain ⟨rest, hrest⟩ := f.prefix_run makings
  have hlt : i < f.contexts.length := (List.getElem?_eq_some_iff.1 hc).1
  rw [← hrest, List.getElem?_append_left hlt, hc]

/-- A context that was just made by a push shares its chain with none there was. -/
theorem Linked.sameChain_push (h : f.Linked) (c : Context) (sc : ScopeId) {d : Context}
    (hd : d ∈ f.contexts) : (f.store.push c sc).1.sameChain d = false := by
  refine Bool.eq_false_iff.2 fun hsame => ?_
  have hid := (Context.sameChain_iff.1 hsame).1
  cases hchain : d.chain with
  | nil => simp [Context.innermost, hchain, Store.push, Context.cons] at hid
  | cons x t =>
      have hx : x.id = ⟨f.store.links⟩ := by
        simpa [Context.innermost, hchain, Store.push, Context.cons, eq_comm] using hid
      have hlt := h.counted x t d.module ⟨d, hd, hchain ▸ List.suffix_rfl, rfl⟩
      rw [hx] at hlt
      exact Nat.lt_irrefl _ hlt

/-- **Contexts are persistent, and sharing a chain can be relied on.**  Over any store, contexts are
made one after another, from those before or from nothing, and anything may be done to the store
meanwhile.  A context has the scopes and the module of its lineage and as many scopes as its depth
says, and stays so whatever is made later.  A push puts one scope in front, keeps the module, and
shares its chain with nobody.  Contexts that share a chain agree in depth, module, scopes, and the
value of every variable in every store. -/
theorem chains_persist (st : Store) (makings : List Making) :
    let f := (start st).run makings
    f.contexts.map (fun c => (⟨c.scopes, c.module⟩ : Lineage)) = lineages makings ∧
      (∀ c ∈ f.contexts, c.scopes.length = c.depth) ∧
      (∀ (i : Nat) c, f.contexts[i]? = some c → ∀ later, (f.run later).contexts[i]? = some c) ∧
      (∀ (i : Nat) c sc, f.contexts[i]? = some c → ∃ child,
        (f.step (.push i sc)).contexts = f.contexts ++ [child] ∧
          child.scopes = sc :: c.scopes ∧ child.depth = c.depth + 1 ∧ child.module = c.module ∧
          ∀ d ∈ f.contexts, child.sameChain d = false) ∧
      (Equivalence fun a b : Context => a.sameChain b = true) ∧
      ∀ a ∈ f.contexts, ∀ b ∈ f.contexts, a.sameChain b = true →
        a.depth = b.depth ∧ a.module = b.module ∧ a.scopes = b.scopes ∧
          ∀ (x : FreeVariable) (now : Store), x.evaluate now a = x.evaluate now b := by
  intro f
  have hlinked : f.Linked := (Linked.start st).run makings
  refine ⟨shown_run st makings, fun c hc => ?_, fun i c hc => getElem?_run hc,
    fun i c sc hc => ?_, Context.sameChain_equivalence, fun a ha b hb hsame => ?_⟩
  · rw [hlinked.depth c hc, Context.scopes, List.length_map]
  · refine ⟨(f.store.push c sc).1, ?_, rfl, rfl, rfl, fun d hd => hlinked.sameChain_push c sc hd⟩
    rw [step_push hc]
    rfl
  · obtain rfl := hlinked.eq_of_sameChain ha hb hsame
    exact ⟨rfl, rfl, rfl, fun _ _ => rfl⟩

/-- A context of a module, two contexts that put the same scope in front of it, and a clone of the
second of them. -/
def siblings : List Making :=
  [.forModule (.ofCount 0) ⟨0⟩, .push 0 ⟨1⟩, .push 0 ⟨1⟩, .meanwhile .newScope, .clone 2]

/-- The siblings have the same scopes but not the same chain; the clone has both. -/
theorem chains_persist_siblings :
    let f := (start .empty).run siblings
    ∃ one two copy, f.contexts[1]? = some one ∧ f.contexts[2]? = some two ∧
      f.contexts[3]? = some copy ∧ one.scopes = two.scopes ∧ one.sameChain two = false ∧
      two.sameChain copy = true ∧ two.depth = copy.depth ∧ two.module = copy.module ∧
      two.scopes = copy.scopes ∧
      (f.run [.push 2 ⟨0⟩]).contexts[2]? = some two := by
  obtain ⟨-, -, hstays, -, -, hsame⟩ := chains_persist .empty siblings
  refine ⟨_, _, _, rfl, rfl, rfl, rfl, by decide, by decide, ?_⟩
  obtain ⟨hdepth, hmodule, hscopes, -⟩ := hsame _ (List.mem_of_getElem? (i := 2) rfl) _
    (List.mem_of_getElem? (i := 3) rfl) (by decide)
  exact ⟨hdepth, hmodule, hscopes, hstays 2 _ rfl _⟩

end Family

end Polyglot
