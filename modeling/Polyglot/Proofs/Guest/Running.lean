import Polyglot.Guest.Script.Run
import Polyglot.Guest.Tally.Run
import Polyglot.Proofs.Store.Operation

/-!
# Polyglot.Proofs.Guest.Running

Linking and running programs are made of elementary changes of the store, one after the other
(`evolves_link`, `Script.evolves_runAll`, `Tally.evolves_run`).  Of all statements only one can take
a name away from its slot: `remove`, in the scope that is the innermost when it is executed.  The
scopes that this happens in during a run are `Script.unfilesAll`; they depend on the run, because a
program ends with the first statement that fails.
-/

namespace Polyglot

open Store (Evolves)

/-! ## Linking -/

namespace Linkage

variable {P : ScopeId → Prop}

/-- Linking asks the factory for one slot after the other. -/
theorem evolves_extend (f : FactoryId) (globals : List LinkedGlobal) {st : Store}
    (ds : List Declaration) (hf : f.index < st.factories.size) :
    Evolves P st (extend f globals st ds).2 := by
  induction ds generalizing globals st with
  | nil => exact .refl st
  | cons d ds ih =>
      simp only [extend]
      split
      · exact ih globals hf
      · have hmade : Evolves P st (st.newStatic f d.name d.type).2 :=
          .of_change (.static f d.name d.type hf)
        have hf' : f.index < (st.newStatic f d.name d.type).2.factories.size := by
          rw [Store.newStatic, Heap.size_modify]
          exact hf
        exact hmade.trans (ih _ hf')

theorem evolves_link (st : Store) (ds : List Declaration) : Evolves P st (link st ds).2 := by
  have hfactory : Evolves P st st.newFactory.2 := .of_change .factory
  have hf : st.newFactory.1.index < st.newFactory.2.factories.size := by simp [Store.newFactory]
  exact hfactory.trans (evolves_extend _ [] ds hf)

theorem evolves_newScope (l : Linkage) (st : Store) : Evolves P st (l.newScope st).2 :=
  .of_change (.scope _)

end Linkage

/-! ## Scripted programs -/

namespace Script

mutual
/-- The scopes that names are taken out of while a statement runs. -/
def Statement.unfiles (g : Option Linkage) : Statement → Context → Machine → List ScopeId
  | .remove _, c, _ => c.scope.toList
  | .push body, c, m =>
    let (sc, st) := m.store.newScope
    let (c, st) := st.push c sc
    unfilesAll g body c { m with store := st }
  | _, _, _ => []

/-- The scopes that names are taken out of while statements run in order. -/
def unfilesAll (g : Option Linkage) : List Statement → Context → Machine → List ScopeId
  | [], _, _ => []
  | s :: rest, c, m =>
    s.unfiles g c m ++
      match s.run g c m with
      | (.error _, _) => []
      | (.ok _, m) => unfilesAll g rest c m
end

variable {P : ScopeId → Prop}

theorem evolves_of_setInnermost {st st' : Store} {c : Context} {name : Symbol} {v : Value}
    (hs : setInnermost st c name v = .ok st') : Evolves P st st' := by
  simp only [setInnermost] at hs
  split at hs
  · cases hs
  · exact .of_writeName hs

theorem evolves_of_assignTo {st st' : Store} {c : Context} {name : Symbol} {v : Value}
    (ha : assignTo st c name v = .ok st') : Evolves P st st' := by
  simp only [assignTo] at ha
  split at ha
  · cases ha
  · exact .of_assign ha

theorem evolves_of_setLinked {g : Option Linkage} {st st' : Store} {name : Symbol} {v : Value}
    (hs : setLinked g st name v = .ok st') : Evolves P st st' := by
  simp only [setLinked] at hs
  split at hs
  · cases hs
  · exact .of_write hs

/-- Storing a value is what the way to store it is. -/
theorem Machine.evolves_storing {m : Machine} {v : Except RuntimeError Value}
    {put : Value → Except RuntimeError Store}
    (hput : ∀ {v st'}, put v = .ok st' → Evolves P m.store st') :
    Evolves P m.store (m.storing v put).2.store := by
  simp only [storing]
  split
  · exact .refl _
  · split
    · exact .refl _
    · next hv => exact hput hv

theorem Machine.evolves_add (m : Machine) (c : Context) (name : Symbol) (n : Int64) :
    Evolves P m.store (m.add c name n).2.store := by
  simp only [add]
  split
  · exact .refl _
  · exact evolves_storing .of_assign

theorem Machine.evolves_remove (m : Machine) (c : Context) (name : Symbol)
    (hP : ∀ sc, c.scope = some sc → P sc) : Evolves P m.store (m.remove c name).2.store := by
  simp only [remove]
  split
  · exact .refl _
  · next sc hsc => exact .removeName m.store name (hP sc hsc)

theorem Machine.store_invoke (m : Machine) (c : Context) (site : String) (args : List Expr) :
    (m.invoke c site args).2.store = m.store := by
  simp only [invoke]
  split
  · rfl
  · split <;> rfl

mutual
theorem evolves_statement (g : Option Linkage) :
    ∀ (s : Statement) (c : Context) (m : Machine), (∀ sc ∈ s.unfiles g c m, P sc) →
      Evolves P m.store (s.run g c m).2.store
  | .const _, _, m, _ => by
      rw [Statement.run]
      exact .refl m.store
  | .set _ _, _, _, _ => by
      rw [Statement.run]
      exact Machine.evolves_storing evolves_of_setInnermost
  | .assign _ _, _, _, _ => by
      rw [Statement.run]
      exact Machine.evolves_storing evolves_of_assignTo
  | .add name n, c, m, _ => by
      rw [Statement.run]
      exact m.evolves_add c name n
  | .remove name, c, m, hP => by
      rw [Statement.run]
      refine m.evolves_remove c name fun sc hsc => hP sc ?_
      rw [Statement.unfiles, hsc]
      exact List.mem_singleton_self sc
  | .names, _, m, _ => by
      rw [Statement.run]
      exact .refl m.store
  | .globalGet _, _, m, _ => by
      rw [Statement.run]
      exact .refl m.store
  | .globalSet _ _, _, _, _ => by
      rw [Statement.run]
      exact Machine.evolves_storing evolves_of_setLinked
  | .depth, _, m, _ => by
      rw [Statement.run]
      exact .refl m.store
  | .module, _, m, _ => by
      rw [Statement.run]
      exact .refl m.store
  | .push body, c, m, hP => by
      rw [Statement.unfiles] at hP
      rw [Statement.run]
      have hscope : Evolves P m.store m.store.newScope.2 := .of_change (.scope _)
      have hpush : Evolves P m.store.newScope.2
          (m.store.newScope.2.push c m.store.newScope.1).2 := .of_change (.push _ _)
      exact (hscope.trans hpush).trans (evolves_runAll g body .nil _ _ hP)
  | .invoke site args, c, m, _ => by
      rw [Statement.run]
      exact .of_eq (m.store_invoke c site args)
  | .fail _, _, m, _ => by
      rw [Statement.run]
      exact .refl m.store

/-- A scripted program makes elementary changes, and takes names away only where it is said to. -/
theorem evolves_runAll (g : Option Linkage) :
    ∀ (body : List Statement) (last : Value) (c : Context) (m : Machine),
      (∀ sc ∈ unfilesAll g body c m, P sc) →
      Evolves P m.store (runAll g body last c m).2.store
  | [], _, _, m, _ => by
      rw [runAll]
      exact .refl m.store
  | s :: rest, _, c, m, hP => by
      rw [unfilesAll] at hP
      have hfirst := evolves_statement g s c m fun sc hsc => hP sc (List.mem_append_left _ hsc)
      rw [runAll]
      split
      · next e m' hs => rw [hs] at hfirst; exact hfirst
      · next v m' hs =>
          rw [hs] at hfirst hP
          exact hfirst.trans (evolves_runAll g rest v c m' fun sc hsc =>
            hP sc (List.mem_append_right _ hsc))
end

end Script

/-! ## Tally programs -/

namespace Tally

variable {P : ScopeId → Prop}

theorem evolves_of_writeVar {g : Option Linkage} {st st' : Store} {c : Context} {x : FreeVariable}
    {v : Value} (hw : writeVar g st c x v = .ok st') : Evolves P st st' := by
  simp only [writeVar] at hw
  split at hw
  · exact .of_write hw
  · split at hw
    · cases hw
    · exact .of_writeName hw

theorem evolves_of_assignment {g : Option Linkage} {st st' : Store} {c : Context} {a : Assignment}
    {v : Value} (ha : a.run g st c = .ok (v, st')) : Evolves P st st' := by
  simp only [Assignment.run] at ha
  split at ha
  · cases ha
  · next u _ =>
      cases hw : writeVar g st c a.target u with
      | error e => simp [hw, Except.map] at ha
      | ok new =>
          simp only [hw, Except.map, Except.ok.injEq, Prod.mk.injEq] at ha
          rw [← ha.2]
          exact evolves_of_writeVar hw

/-- A Tally program makes elementary changes, and takes no name away. -/
theorem evolves_run (g : Option Linkage) (c : Context) (as : List Assignment) (last : Value)
    (st : Store) : Evolves P st (run g c as last st).2 := by
  induction as generalizing last st with
  | nil => exact .refl st
  | cons a as ih =>
      simp only [run]
      split
      · exact .refl st
      · next v st' ha => exact (evolves_of_assignment ha).trans (ih v st')

end Tally

end Polyglot
