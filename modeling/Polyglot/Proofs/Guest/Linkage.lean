import Mathlib.Data.List.Find
import Mathlib.Data.List.Induction
import Polyglot.Proofs.Store.Frame

/-!
# Polyglot.Proofs.Guest.Linkage

What linking makes.  `Built` says what the globals are when some of the declarations were gone
through:

```
names      the declared names, each once, in the order in which they first occur
the i-th   has the slot that was made as the i-th, with the type and the flags of the first
           declaration of its name
```

One more declaration keeps it so (`Built.known`, `Built.made`), and therefore it is so of all of
them (`built_link`).

`Linked base P gs st` says less: no two globals have one name, and each has a slot of its own name
without a value, of a type that `P` allows for the name, and made after the first `base` slots.
Linking extends the store by such globals (`linked_link`).  Their slots are told apart by the names,
and so a scope that files them has for each name the slot that the linkage has for it
(`slotIn_newScope`).
-/

namespace Polyglot

/-! ## Lists -/

/-- The place of a member after one more was put at the end. -/
theorem getElem?_concat_cases {α : Type} {a a' : α} {l : List α} {i : Nat}
    (ha : (l ++ [a])[i]? = some a') : l[i]? = some a' ∨ i = l.length ∧ a = a' := by
  rw [List.getElem?_append] at ha
  split at ha
  · exact .inl ha
  · next hi =>
      rw [List.getElem?_singleton] at ha
      split at ha
      · next hzero => exact .inr ⟨by omega, Option.some.inj ha⟩
      · cases ha

section Distinct

variable {α : Type} [DecidableEq α]

/-- One more member, which is dropped if it occurred before. -/
theorem eraseDups_concat (l : List α) (a : α) :
    (l ++ [a]).eraseDups = if a ∈ l then l.eraseDups else l.eraseDups ++ [a] := by
  rw [List.eraseDups_append]
  by_cases ha : a ∈ l <;> simp [List.removeAll, ha, List.eraseDups_cons]

theorem nodup_eraseDups (l : List α) : l.eraseDups.Nodup := by
  induction l using List.reverseRecOn with
  | nil => exact List.nodup_nil
  | append_singleton l a ih =>
      rw [eraseDups_concat]
      by_cases ha : a ∈ l
      · rwa [if_pos ha]
      · rw [if_neg ha, List.nodup_append]
        refine ⟨ih, by simp, fun b hb c hc heq => ha ?_⟩
        rwa [heq, List.mem_singleton.1 hc, List.mem_eraseDups] at hb

theorem eraseDups_of_nodup {l : List α} (hl : l.Nodup) : l.eraseDups = l := by
  induction l with
  | nil => rfl
  | cons a l ih =>
      obtain ⟨ha, hl⟩ := List.nodup_cons.1 hl
      have hkept : (l.filter fun b => !b == a) = l := by
        refine List.filter_eq_self.2 fun b hb => ?_
        have hne : b ≠ a := fun heq => ha (heq ▸ hb)
        simpa using hne
      rw [List.eraseDups_cons, hkept, ih hl]

end Distinct

/-! ## Filing slots -/

/-- What a scope files after slots were filed under their own names. -/
theorem Store.get?_fileSlots (st : Store) (slots : List SlotId) (d : Dict Symbol SlotId)
    (n : Symbol) : (st.fileSlots d slots).get? n =
      (d.get? n).or (slots.find? fun s => decide ((st.slot s).name = n)) := by
  induction slots generalizing d with
  | nil => simp [fileSlots]
  | cons s rest ih =>
      rw [fileSlots, ih]
      by_cases hknown : d.contains (st.slot s).name = true
      · rw [if_pos hknown]
        by_cases hn : (st.slot s).name = n
        · subst hn
          obtain ⟨t, ht⟩ := Option.isSome_iff_exists.1 hknown
          rw [ht, Option.some_or, Option.some_or]
        · rw [List.find?_cons_of_neg (by simpa using hn)]
      · rw [if_neg hknown, Dict.get?_insert]
        by_cases hn : n = (st.slot s).name
        · subst hn
          have hnone : d.get? (st.slot s).name = none := by
            simpa [Dict.contains] using hknown
          rw [if_pos rfl, hnone, List.find?_cons_of_pos (by simp), Option.some_or, Option.none_or]
        · have hne : ¬ (st.slot s).name = n := fun h => hn h.symm
          rw [if_neg hn, List.find?_cons_of_neg (by simpa using hne)]

/-- The names that a scope has after slots were filed under their own names. -/
theorem Store.keys_fileSlots (st : Store) (slots : List SlotId) {known : List Symbol}
    {d : Dict Symbol SlotId} (hd : d.keys = known.eraseDups) :
    (st.fileSlots d slots).keys = (known ++ slots.map fun s => (st.slot s).name).eraseDups := by
  induction slots generalizing known d with
  | nil => simpa [fileSlots] using hd
  | cons s rest ih =>
      have hone : (if d.contains (st.slot s).name then d else d.insert (st.slot s).name s).keys =
          (known ++ [(st.slot s).name]).eraseDups := by
        have hmem : (st.slot s).name ∈ d.keys ↔ (st.slot s).name ∈ known := by
          rw [hd, List.mem_eraseDups]
        have hcontains : d.contains (st.slot s).name = true ↔ (st.slot s).name ∈ known := by
          rw [Dict.contains, ← Dict.mem_keys_iff, hmem]
        rw [eraseDups_concat]
        by_cases hknown : (st.slot s).name ∈ known
        · rw [if_pos (hcontains.2 hknown), if_pos hknown, hd]
        · have hnew : (st.slot s).name ∉ d.keys := fun hk => hknown (hmem.1 hk)
          rw [if_neg (fun hk => hknown (hcontains.1 hk)), if_neg hknown, Dict.keys_insert,
            if_neg hnew, hd]
      rw [fileSlots, ih hone, List.append_assoc, List.map_cons, List.singleton_append]

namespace Linkage

open Store (Extends)

/-- The first declaration of a name. -/
def firstNamed (ds : List Declaration) (n : Symbol) : Option Declaration :=
  ds.find? fun d => d.name = n

theorem firstNamed_concat (ds : List Declaration) (d : Declaration) (n : Symbol) :
    firstNamed (ds ++ [d]) n = (firstNamed ds n).or (if d.name = n then some d else none) := by
  rw [firstNamed, List.find?_append, firstNamed]
  by_cases hn : d.name = n <;> simp [hn]

theorem name_of_firstNamed {ds : List Declaration} {n : Symbol} {d : Declaration}
    (hd : firstNamed ds n = some d) : d.name = n := by
  have hname := List.find?_some hd
  simpa using hname

theorem firstNamed_eq_none_iff {ds : List Declaration} {n : Symbol} :
    firstNamed ds n = none ↔ n ∉ ds.map Declaration.name := by
  rw [firstNamed, List.find?_eq_none]
  simp

/-! ## Going through the declarations -/

/-- The globals after the declarations in `done` were gone through.  Their slots were made from
place `base` on by the factory `f`, after the static slots in `kept`. -/
structure Built (base : Nat) (kept : List SlotId) (f : FactoryId) (gen : GenerationId)
    (done : List Declaration) (gs : List LinkedGlobal) (st : Store) : Prop where
  names : gs.map LinkedGlobal.name = (done.map Declaration.name).eraseDups
  slot : ∀ (i : Nat) g, gs[i]? = some g → g.slot = ⟨base + i⟩
  first : ∀ (i : Nat) g, gs[i]? = some g → ∃ d, firstNamed done g.name = some d ∧
    g.flags = d.flags ∧
    st.slot g.slot = { name := g.name, type := d.type, storage := .static gen i }
  slots : st.slots.size = base + gs.length
  factory : ∃ made, st.factories.get? f.index = some ⟨gen, made⟩ ∧ made.length = gs.length
  retained : st.retained.toList = kept ++ gs.map LinkedGlobal.slot

namespace Built

variable {base : Nat} {kept : List SlotId} {f : FactoryId} {gen : GenerationId}
  {done : List Declaration} {gs : List LinkedGlobal} {st : Store} {d : Declaration}

theorem mem_names (hb : Built base kept f gen done gs st) (n : Symbol) :
    n ∈ gs.map LinkedGlobal.name ↔ n ∈ done.map Declaration.name := by
  rw [hb.names, List.mem_eraseDups]

/-- A name that is known already gets no other slot. -/
theorem known (hb : Built base kept f gen done gs st)
    (hknown : d.name ∈ gs.map LinkedGlobal.name) : Built base kept f gen (done ++ [d]) gs st where
  names := by
    rw [List.map_append, List.map_singleton, eraseDups_concat, if_pos ((hb.mem_names _).1 hknown),
      hb.names]
  slot := hb.slot
  first i g hg := by
    obtain ⟨first, hfirst, hrest⟩ := hb.first i g hg
    exact ⟨first, by rw [firstNamed_concat, hfirst, Option.some_or], hrest⟩
  slots := hb.slots
  factory := hb.factory
  retained := hb.retained

/-- A name that is new gets the next slot of the factory. -/
theorem made (hb : Built base kept f gen done gs st) (hnew : d.name ∉ gs.map LinkedGlobal.name) :
    Built base kept f gen (done ++ [d])
      (gs ++ [⟨d.name, (st.newStatic f d.name d.type).1, d.flags⟩])
      (st.newStatic f d.name d.type).2 := by
  obtain ⟨made, hget, hlength⟩ := hb.factory
  have hfactory : st.factory f = ⟨gen, made⟩ := by rw [Store.factory, hget, Option.getD_some]
  have hdone : d.name ∉ done.map Declaration.name := fun hmem => hnew ((hb.mem_names _).2 hmem)
  have hold : ∀ (i : Nat) g, gs[i]? = some g → g.slot.index < st.slots.size := fun i g hg => by
    obtain ⟨hi, -⟩ := List.getElem?_eq_some_iff.1 hg
    rw [hb.slot i g hg, hb.slots]
    exact Nat.add_lt_add_left hi base
  refine ⟨?_, fun i g hg => ?_, fun i g hg => ?_, ?_, ⟨made ++ [⟨st.slots.size⟩], ?_, ?_⟩, ?_⟩
  · rw [List.map_append, List.map_append, List.map_singleton, List.map_singleton,
      eraseDups_concat, if_neg hdone, hb.names]
  · rcases getElem?_concat_cases hg with hg | ⟨rfl, rfl⟩
    · exact hb.slot i g hg
    · exact congrArg SlotId.mk hb.slots
  · rcases getElem?_concat_cases hg with hg | ⟨rfl, rfl⟩
    · obtain ⟨first, hfirst, hflags, hslot⟩ := hb.first i g hg
      refine ⟨first, by rw [firstNamed_concat, hfirst, Option.some_or], hflags, ?_⟩
      rw [Store.slot_newStatic, if_neg (Nat.ne_of_lt (hold i g hg)), hslot]
    · refine ⟨d, ?_, rfl, ?_⟩
      · rw [firstNamed_concat, firstNamed_eq_none_iff.2 hdone, Option.none_or, if_pos rfl]
      · rw [Store.slot_newStatic, hfactory, ← hlength]
        exact if_pos rfl
  · have hsize : (st.newStatic f d.name d.type).2.slots.size = st.slots.size + 1 :=
      Heap.size_add _ _
    rw [hsize, hb.slots, List.length_append, List.length_singleton, Nat.add_assoc]
  · rw [Store.newStatic, Heap.get?_modify_self]
    simp only [hfactory]
    exact congrArg (Option.map _) hget
  · rw [List.length_append, List.length_append, hlength, List.length_singleton,
      List.length_singleton]
  · have hretained : (st.newStatic f d.name d.type).2.retained =
        st.retained.push (st.newStatic f d.name d.type).1 := rfl
    rw [hretained, Array.toList_push, hb.retained, List.map_append, List.map_singleton,
      List.append_assoc]

/-- Induction on the declarations that are left. -/
theorem extend (hb : Built base kept f gen done gs st) (ds : List Declaration) :
    Built base kept f gen (done ++ ds) (extend f gs st ds).1 (extend f gs st ds).2 := by
  induction ds generalizing done gs st with
  | nil => simpa [Linkage.extend] using hb
  | cons d ds ih =>
      have hsplit : done ++ d :: ds = (done ++ [d]) ++ ds := by simp
      have hany : (gs.any fun g => g.name = d.name) = true ↔ d.name ∈ gs.map LinkedGlobal.name := by
        simp
      rw [hsplit, Linkage.extend]
      split
      · next hknown => exact ih (hb.known (hany.1 hknown))
      · next hnew => exact ih (hb.made fun hmem => hnew (hany.2 hmem))

end Built

/-- What linking makes of all declarations. -/
theorem built_link (st : Store) (ds : List Declaration) :
    Built st.slots.size st.retained.toList st.newFactory.1 (.ofCount st.generations) ds
      (link st ds).1.globals (link st ds).2 ∧
      (link st ds).1.generation = .ofCount st.generations := by
  have hnone : Built st.slots.size st.retained.toList st.newFactory.1 (.ofCount st.generations)
      [] [] st.newFactory.2 :=
    ⟨rfl, fun _ _ hg => by simp at hg, fun _ _ hg => by simp at hg, rfl,
      ⟨[], Heap.get?_add_size _ _, rfl⟩, by simp [Store.newFactory]⟩
  have hall := hnone.extend ds
  obtain ⟨made, hget, -⟩ := hall.factory
  have hfactory : (link st ds).2.factory st.newFactory.1 = ⟨.ofCount st.generations, made⟩ := by
    rw [Store.factory]
    exact congrArg (Option.getD · default) hget
  exact ⟨hall, congrArg StaticFactory.generation hfactory⟩

/-! ## Slots of their own -/

theorem extends_extend (f : FactoryId) (ds : List Declaration) (gs : List LinkedGlobal)
    (st : Store) : Extends st (extend f gs st ds).2 := by
  induction ds generalizing gs st with
  | nil => exact .refl st
  | cons d ds ih =>
      rw [extend]
      split
      · exact ih gs st
      · exact (Store.extends_newStatic st f d.name d.type).trans (ih _ _)

/-- Globals with slots of their own, all made after the first `base`. -/
structure Linked (base : Nat) (P : Symbol → SlotType → Prop) (gs : List LinkedGlobal)
    (st : Store) : Prop where
  names : (gs.map LinkedGlobal.name).Nodup
  slots : ∀ g ∈ gs, base ≤ g.slot.index ∧ g.slot.index < st.slots.size
  name : ∀ g ∈ gs, (st.slot g.slot).name = g.name
  type : ∀ g ∈ gs, P g.name (st.slot g.slot).type
  value : ∀ g ∈ gs, (st.slot g.slot).value = none

namespace Linked

variable {base : Nat} {P : Symbol → SlotType → Prop} {gs : List LinkedGlobal} {st st' : Store}

theorem of_built {kept : List SlotId} {f : FactoryId} {gen : GenerationId}
    {ds : List Declaration} (hb : Built base kept f gen ds gs st)
    (hP : ∀ d ∈ ds, P d.name d.type) : Linked base P gs st := by
  have hplace : ∀ g ∈ gs, base ≤ g.slot.index ∧ g.slot.index < st.slots.size := fun g hg => by
    obtain ⟨i, hi⟩ := List.mem_iff_getElem?.1 hg
    obtain ⟨hlt, -⟩ := List.getElem?_eq_some_iff.1 hi
    rw [hb.slot i g hi, hb.slots]
    exact ⟨Nat.le_add_right base i, Nat.add_lt_add_left hlt base⟩
  have hslot : ∀ g ∈ gs, (st.slot g.slot).name = g.name ∧ P g.name (st.slot g.slot).type ∧
      (st.slot g.slot).value = none := fun g hg => by
    obtain ⟨i, hi⟩ := List.mem_iff_getElem?.1 hg
    obtain ⟨d, hd, -, hmade⟩ := hb.first i g hi
    have hallowed := hP d (List.mem_of_find?_eq_some hd)
    rw [name_of_firstNamed hd] at hallowed
    rw [hmade]
    exact ⟨rfl, hallowed, rfl⟩
  refine ⟨?_, hplace, fun g hg => (hslot g hg).1, fun g hg => (hslot g hg).2.1,
    fun g hg => (hslot g hg).2.2⟩
  rw [hb.names]
  exact nodup_eraseDups _

theorem of_extends (h : Linked base P gs st) (hx : Extends st st') : Linked base P gs st' := by
  have hslot : ∀ g ∈ gs, st'.slot g.slot = st.slot g.slot := fun g hg =>
    hx.slot g.slot (h.slots g hg).2
  refine ⟨h.names, fun g hg => ⟨(h.slots g hg).1, Nat.lt_of_lt_of_le (h.slots g hg).2 hx.slots⟩,
    fun g hg => ?_, fun g hg => ?_, fun g hg => ?_⟩
  · rw [hslot g hg]
    exact h.name g hg
  · rw [hslot g hg]
    exact h.type g hg
  · rw [hslot g hg]
    exact h.value g hg

/-- A slot belongs to one name only. -/
theorem name_of_slot? (h : Linked base P gs st) {gen : GenerationId} {n : Symbol} {s : SlotId}
    (hs : (Linkage.mk gen gs).slot? n = some s) :
    base ≤ s.index ∧ s.index < st.slots.size ∧ (st.slot s).name = n ∧ P n (st.slot s).type ∧
      st.read s = none := by
  obtain ⟨g, hg, rfl⟩ := Option.map_eq_some_iff.1 hs
  have hmem : g ∈ gs := List.mem_of_find?_eq_some hg
  have hname : g.name = n := by simpa using List.find?_some hg
  rw [← hname]
  exact ⟨(h.slots g hmem).1, (h.slots g hmem).2, h.name g hmem, h.type g hmem, h.value g hmem⟩

end Linked

/-- Linking extends the store by globals with slots of their own. -/
theorem linked_link {P : Symbol → SlotType → Prop} (st : Store) {ds : List Declaration}
    (hP : ∀ d ∈ ds, P d.name d.type) :
    Linked st.slots.size P (link st ds).1.globals (link st ds).2 ∧ Extends st (link st ds).2 :=
  ⟨.of_built (built_link st ds).1 hP,
    (Store.extends_newFactory st).trans (extends_extend st.newFactory.1 ds [] st.newFactory.2)⟩

/-! ## The scope of a linkage -/

theorem exists_slot?_of_mem_names {l : Linkage} {n : Symbol} (hn : n ∈ l.names) :
    ∃ s, l.slot? n = some s := by
  obtain ⟨g, hg, hname⟩ := List.mem_map.1 hn
  cases hfind : l.global? n with
  | none => exact absurd (decide_eq_true hname) (List.find?_eq_none.1 hfind g hg)
  | some found => exact ⟨found.slot, by rw [slot?, hfind, Option.map_some]⟩

theorem bindings_newScope (l : Linkage) (st : Store) :
    (l.newScope st).2.bindings (l.newScope st).1 =
      st.fileSlots .empty (l.globals.map LinkedGlobal.slot) := by
  have hbindings := Store.bindings_newScopeOf st
    (st.fileSlots .empty (l.globals.map LinkedGlobal.slot)) ⟨st.scopes.size⟩
  rw [if_pos rfl] at hbindings
  exact hbindings

/-- The scope of a linkage files its slots and nothing else, if they are called as the globals. -/
theorem slotIn_newScope_of_names (l : Linkage) {st : Store}
    (hname : ∀ g ∈ l.globals, (st.slot g.slot).name = g.name) (n : Symbol) :
    (l.newScope st).2.slotIn (l.newScope st).1 n = l.slot? n := by
  rw [Store.slotIn, bindings_newScope, Store.get?_fileSlots, Dict.get?_empty, Option.none_or,
    List.find?_map, slot?, global?]
  congr 1
  refine List.find?_congr fun g hg => ?_
  rw [Function.comp_apply, hname g hg]

/-- The scope of a linkage files its slots and nothing else. -/
theorem slotIn_newScope {base : Nat} {P : Symbol → SlotType → Prop} (l : Linkage) {st : Store}
    (h : Linked base P l.globals st) (n : Symbol) :
    (l.newScope st).2.slotIn (l.newScope st).1 n = l.slot? n :=
  l.slotIn_newScope_of_names h.name n

/-- A scope that is made of globals has a name for each of them, if no two are called alike. -/
theorem nameCount_newScope (l : Linkage) {st : Store} (hnodup : l.names.Nodup)
    (hname : ∀ g ∈ l.globals, (st.slot g.slot).name = g.name) :
    (l.newScope st).2.nameCount (l.newScope st).1 = l.size := by
  have hnames : (l.globals.map LinkedGlobal.slot).map (fun s => (st.slot s).name) = l.names := by
    rw [List.map_map]
    exact List.map_congr_left hname
  have hempty : (Dict.empty : Dict Symbol SlotId).keys = ([] : List Symbol).eraseDups := rfl
  have hkeys := st.keys_fileSlots (l.globals.map LinkedGlobal.slot) hempty
  rw [List.nil_append, hnames, eraseDups_of_nodup hnodup] at hkeys
  rw [Store.nameCount, bindings_newScope, ← Dict.length_keys, hkeys, names, List.length_map, size]

end Linkage

end Polyglot
