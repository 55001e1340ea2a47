import Polyglot.Proofs.Guest.Linkage
import Polyglot.Proofs.Host.Activity

/-!
# Polyglot.Proofs.Guest.Globals

Linking makes one slot for every distinct name (`OneSlotPerName`).  What the first declaration of a
name says is decided when the declarations are gone through (`Built`), and a scope can be made of
the globals at any later time, because slots keep their names.  That the slots belong to a
generation which no earlier slot has is a fact about all states that can be reached
(`Store.Counted`).
-/

namespace Polyglot

namespace Linkage

open Store (Evolves)

/-! ## One slot for each name -/

namespace Built

variable {base : Nat} {kept : List SlotId} {f : FactoryId} {gen : GenerationId}
  {done : List Declaration} {gs : List LinkedGlobal} {st : Store}

theorem find?_of_undeclared (hb : Built base kept f gen done gs st) {n : Symbol}
    (hn : firstNamed done n = none) : (gs.find? fun g => g.name = n) = none := by
  have hnone := firstNamed_eq_none_iff.1 hn
  refine List.find?_eq_none.2 fun g hg hname => hnone ?_
  rw [← hb.mem_names, ← of_decide_eq_true hname]
  exact List.mem_map_of_mem hg

/-- The global of a name is made from the first declaration of the name. -/
theorem find?_of_declared (hb : Built base kept f gen done gs st) {n : Symbol} {d : Declaration}
    (hd : firstNamed done n = some d) : ∃ i g, (gs.find? fun g => g.name = n) = some g ∧
      gs[i]? = some g ∧ g.flags = d.flags ∧
      st.slot g.slot = { name := n, type := d.type, storage := .static gen i } := by
  cases hg : gs.find? fun g => g.name = n with
  | none =>
      have hdeclared : n ∈ gs.map LinkedGlobal.name := by
        rw [hb.mem_names, ← name_of_firstNamed hd]
        exact List.mem_map_of_mem (List.mem_of_find?_eq_some hd)
      obtain ⟨g, hmem, hname⟩ := List.mem_map.1 hdeclared
      exact absurd (decide_eq_true hname) (List.find?_eq_none.1 hg g hmem)
  | some g =>
      have hname : g.name = n := by simpa using List.find?_some hg
      obtain ⟨i, hi⟩ := List.mem_iff_getElem?.1 (List.mem_of_find?_eq_some hg)
      obtain ⟨d', hd', hflags, hslot⟩ := hb.first i g hi
      rw [hname, hd] at hd'
      obtain rfl := Option.some.inj hd'
      exact ⟨i, g, rfl, hi, hflags, hname ▸ hslot⟩

/-- What other modules may see is decided by the first declaration of each name. -/
theorem exported_eq (hb : Built base kept f gen done gs st) {g : LinkedGlobal} (hg : g ∈ gs) :
    g.flags.exported = (firstNamed done g.name).any fun d => d.flags.exported := by
  obtain ⟨i, hi⟩ := List.mem_iff_getElem?.1 hg
  obtain ⟨d, hd, hflags, -⟩ := hb.first i g hi
  rw [hd, hflags, Option.any_some]

theorem nodup_slots (hb : Built base kept f gen done gs st) :
    (gs.map LinkedGlobal.slot).Nodup := by
  refine List.pairwise_iff_getElem.2 fun i j hi hj hij heq => ?_
  rw [List.length_map] at hi hj
  rw [List.getElem_map, List.getElem_map, hb.slot i _ (List.getElem?_eq_getElem hi),
    hb.slot j _ (List.getElem?_eq_getElem hj)] at heq
  have hindex : base + i = base + j := congrArg SlotId.index heq
  omega

/-- The globals keep their names, whatever is done to the store. -/
theorem name_later {P : ScopeId → Prop} {later : Store} (hb : Built base kept f gen done gs st)
    (hlater : Evolves P st later) {g : LinkedGlobal} (hg : g ∈ gs) :
    (later.slot g.slot).name = g.name := by
  obtain ⟨i, hi⟩ := List.mem_iff_getElem?.1 hg
  obtain ⟨hlt, -⟩ := List.getElem?_eq_some_iff.1 hi
  obtain ⟨d, -, -, hslot⟩ := hb.first i g hi
  have hmade : g.slot.index < st.slots.size := by
    rw [hb.slot i g hi, hb.slots]
    exact Nat.add_lt_add_left hlt base
  rw [hlater.retains.slot g.slot hmade, hslot]

end Built

/-- What is to hold of the globals `l` that declarations were linked to, in the store before it and
in the store after it. -/
structure OneSlotPerName (ds : List Declaration) (st : Store) (l : Linkage) (st' : Store) :
    Prop where
  /-- The declared names are linked, each once, in the order in which they first occur. -/
  names : l.names = (ds.map Declaration.name).eraseDups
  undeclared : ∀ n, firstNamed ds n = none → l.slot? n = none ∧ l.flags? n = none
  /-- The first declaration of a name decides the type of its slot and its flags. -/
  declared : ∀ n d, firstNamed ds n = some d → ∃ s, l.slot? n = some s ∧ (st'.slot s).name = n ∧
    (st'.slot s).type = d.type ∧ l.flags? n = some d.flags
  exports : l.exports = l.names.filter fun n => (firstNamed ds n).any fun d => d.flags.exported
  distinct : (l.globals.map LinkedGlobal.slot).Nodup
  /-- The slots are new and hold no value, and they are numbered within their generation. -/
  fresh : ∀ (i : Nat) g, l.globals[i]? = some g → st.slots.size ≤ g.slot.index ∧
    st'.read g.slot = none ∧ (st'.slot g.slot).storage = .static l.generation i
  retained : st'.retained.size = st.retained.size + l.size
  /-- At any time, a scope that is made of the globals files exactly their slots. -/
  scope : ∀ later, Evolves (fun _ => True) st' later →
    (l.newScope later).2.nameCount (l.newScope later).1 = l.size ∧
    ∀ n, (l.newScope later).2.slotIn (l.newScope later).1 n = l.slot? n

/-- Linking makes one slot for every distinct name. -/
theorem oneSlotPerName_link (st : Store) (ds : List Declaration) :
    OneSlotPerName ds st (link st ds).1 (link st ds).2 := by
  obtain ⟨hb, hgeneration⟩ := built_link st ds
  have hnodup := (linked_link (P := fun _ _ => True) st fun d (_ : d ∈ ds) => trivial).1.names
  refine ⟨hb.names, fun n hn => ?_, fun n d hd => ?_, ?_, hb.nodup_slots, fun i g hg => ?_, ?_,
    fun later hlater => ⟨?_, ?_⟩⟩
  · have hnone := hb.find?_of_undeclared hn
    exact ⟨by rw [slot?, global?, hnone]; rfl, by rw [flags?, global?, hnone]; rfl⟩
  · obtain ⟨i, g, hfind, -, hflags, hslot⟩ := hb.find?_of_declared hd
    refine ⟨g.slot, by rw [slot?, global?, hfind]; rfl, by rw [hslot], by rw [hslot], ?_⟩
    rw [flags?, global?, hfind, Option.map_some, hflags]
  · rw [exports, names, List.filter_map]
    exact congrArg _ (List.filter_congr fun g hg => hb.exported_eq hg)
  · obtain ⟨d, -, -, hslot⟩ := hb.first i g hg
    refine ⟨?_, by rw [Store.read, hslot], by rw [hslot, hgeneration]⟩
    rw [hb.slot i g hg]
    exact Nat.le_add_right _ i
  · have hlength := congrArg List.length hb.retained
    rw [List.length_append, List.length_map, Array.length_toList, Array.length_toList] at hlength
    exact hlength
  · exact nameCount_newScope _ hnodup fun g hg => hb.name_later hlater hg
  · exact slotIn_newScope_of_names _ fun g hg => hb.name_later hlater hg

/-- **Linking makes one slot for every distinct name** that code objects declare, whatever they
declare and however often they are listed.  In a state that can be reached, no slot there is
belongs to the generation of the slots that are made, as long as there are numbers for
generations. -/
theorem link_one_slot_per_name (h : Host) (ids : List CodeId) :
    OneSlotPerName (h.declarationsOf ids) h.store (link h.store (h.declarationsOf ids)).1
      (link h.store (h.declarationsOf ids)).2 ∧
    ∀ activities, h = Host.empty.afterAll activities → h.store.generations < UInt32.size →
      ∀ s g i, (h.store.slot s).storage = .static g i →
        g ≠ (link h.store (h.declarationsOf ids)).1.generation := by
  refine ⟨oneSlotPerName_link h.store _, fun activities hh hbound s g i hs => ?_⟩
  subst hh
  have hevolves : Evolves (fun _ => True) Store.empty (Host.empty.afterAll activities).store :=
    Host.evolves_afterAll .empty activities fun _ _ => trivial
  rw [(built_link _ _).2]
  exact (Store.Counted.empty.evolves hevolves).next_free hbound hs

/-- A static slot is made apart, and two code objects declare names, some of them repeatedly and
with another type or other flags. -/
def conflictingDeclarations : List Host.Activity :=
  [.operate .newFactory, .operate (.newStatic ⟨0⟩ (.named "x") .any),
    .act (.use (.addCode "a" "s" (.script
      { declarations := [{ name := .named "x", type := .of .int }, { name := .invalid },
          { name := .named "x", flags := { exported := true } }] } none))) trivial,
    .act (.use (.addCode "b" "s" (.script
      { declarations := [{ name := .named "y", flags := { exported := true } },
          { name := .invalid, type := .of .str, flags := { exported := true } }] } none))) trivial]

/-- The code objects are linked, the first of them listed twice.  The first declarations decide, and
the generation is not that of the slot that was there. -/
theorem link_one_slot_per_name_conflictingDeclarations :
    let h := Host.empty.afterAll conflictingDeclarations
    let linked := link h.store (h.declarationsOf [⟨0⟩, ⟨1⟩, ⟨0⟩])
    linked.1.names = [.named "x", .invalid, .named "y"] ∧ linked.1.exports = [.named "y"] ∧
      (∃ s, linked.1.slot? (.named "x") = some s ∧ (linked.2.slot s).type = .of .int) ∧
      GenerationId.ofCount 0 ≠ linked.1.generation := by
  obtain ⟨hall, hgeneration⟩ := link_one_slot_per_name
    (Host.empty.afterAll conflictingDeclarations) [⟨0⟩, ⟨1⟩, ⟨0⟩]
  obtain ⟨s, hs, -, htype, -⟩ := hall.declared (.named "x")
    { name := .named "x", type := .of .int } (by decide +kernel)
  exact ⟨hall.names.trans (by decide +kernel), hall.exports.trans (by decide +kernel),
    ⟨s, hs, htype⟩, hgeneration conflictingDeclarations rfl (by decide) ⟨0⟩ _ 0 (by decide +kernel)⟩

end Linkage

end Polyglot
