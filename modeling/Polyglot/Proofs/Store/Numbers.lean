import Polyglot.Guest.Script.Run
import Polyglot.Guest.Tally.Run

/-!
# Polyglot.Proofs.Store.Numbers

Module numbers are taken in one place only (`Store.nextModule`).  Nothing else that changes the
store takes one, and neither does a guest program, whatever it does and however it ends
(`modules_runAll` for scripted programs, `modules_run` for Tally).
-/

namespace Polyglot

namespace Store

@[simp] theorem modules_nextModule (st : Store) : st.nextModule.2.modules = st.modules + 1 := rfl

@[simp] theorem modules_newSlot (st : Store) (s : Slot) :
    (st.newSlot s).2.modules = st.modules := rfl

@[simp] theorem modules_setBindings (st : Store) (sc : ScopeId) (d : Dict Symbol SlotId) :
    (st.setBindings sc d).modules = st.modules := rfl

@[simp] theorem modules_newScopeOf (st : Store) (d : Dict Symbol SlotId) :
    (st.newScopeOf d).2.modules = st.modules := rfl

@[simp] theorem modules_newScope (st : Store) : st.newScope.2.modules = st.modules := rfl

@[simp] theorem modules_newScopeWith (st : Store) (slots : List SlotId) :
    (st.newScopeWith slots).2.modules = st.modules := rfl

@[simp] theorem modules_push (st : Store) (c : Context) (sc : ScopeId) :
    (st.push c sc).2.modules = st.modules := rfl

@[simp] theorem modules_moduleContext (st : Store) (m : ModuleId) (sc : ScopeId) :
    (st.moduleContext m sc).2.modules = st.modules := rfl

@[simp] theorem modules_newFactory (st : Store) : st.newFactory.2.modules = st.modules := rfl

@[simp] theorem modules_newStatic (st : Store) (f : FactoryId) (name : Symbol) (type : SlotType) :
    (st.newStatic f name type).2.modules = st.modules := rfl

@[simp] theorem modules_removeName (st : Store) (sc : ScopeId) (name : Symbol) :
    (st.removeName sc name).2.modules = st.modules := by
  simp only [removeName]
  split <;> rfl

@[simp] theorem modules_slotOrNew (st : Store) (sc : ScopeId) (name : Symbol) (new : Slot) :
    (st.slotOrNew sc name new).2.modules = st.modules := by
  simp only [slotOrNew]
  split <;> rfl

theorem modules_of_write {st st' : Store} {s : SlotId} {v : Value}
    (hw : st.write s v = .ok st') : st'.modules = st.modules := by
  simp only [write] at hw
  split at hw
  · cases hw
  · cases hw
    rfl

theorem modules_of_writeName {st st' : Store} {sc : ScopeId} {name : Symbol} {v : Value}
    (hw : st.writeName sc name v = .ok st') : st'.modules = st.modules :=
  (modules_of_write hw).trans (modules_slotOrNew st sc name { name })

end Store

namespace Linkage

@[simp] theorem modules_extend (f : FactoryId) (globals : List LinkedGlobal) (st : Store)
    (ds : List Declaration) : (extend f globals st ds).2.modules = st.modules := by
  induction ds generalizing globals st with
  | nil => rfl
  | cons d ds ih =>
      simp only [extend]
      split
      · exact ih globals st
      · rw [ih, Store.modules_newStatic]

@[simp] theorem modules_link (st : Store) (ds : List Declaration) :
    (link st ds).2.modules = st.modules := by
  simp only [link, modules_extend, Store.modules_newFactory]

@[simp] theorem modules_newScope (l : Linkage) (st : Store) :
    (l.newScope st).2.modules = st.modules := rfl

end Linkage

theorem FreeVariable.modules_of_assign {x : FreeVariable} {st st' : Store} {c : Context} {v : Value}
    (ha : x.assign st c v = .ok st') : st'.modules = st.modules := by
  simp only [assign] at ha
  split at ha
  · exact Store.modules_of_write ha
  · cases ha

/-! ## Scripted programs -/

namespace Script

theorem modules_of_setInnermost {st st' : Store} {c : Context} {name : Symbol} {v : Value}
    (hs : setInnermost st c name v = .ok st') : st'.modules = st.modules := by
  simp only [setInnermost] at hs
  split at hs
  · cases hs
  · exact Store.modules_of_writeName hs

theorem modules_of_assignTo {st st' : Store} {c : Context} {name : Symbol} {v : Value}
    (ha : assignTo st c name v = .ok st') : st'.modules = st.modules := by
  simp only [assignTo] at ha
  split at ha
  · cases ha
  · exact FreeVariable.modules_of_assign ha

theorem modules_of_setLinked {g : Option Linkage} {st st' : Store} {name : Symbol} {v : Value}
    (hs : setLinked g st name v = .ok st') : st'.modules = st.modules := by
  simp only [setLinked] at hs
  split at hs
  · cases hs
  · exact Store.modules_of_write hs

/-- Storing takes no module number if the way to store takes none. -/
theorem Machine.modules_storing {m : Machine} {v : Except RuntimeError Value}
    {put : Value → Except RuntimeError Store}
    (hput : ∀ {v st'}, put v = .ok st' → st'.modules = m.store.modules) :
    (m.storing v put).2.store.modules = m.store.modules := by
  simp only [storing]
  split
  · rfl
  · split
    · rfl
    · next hv => exact hput hv

theorem Machine.modules_add (m : Machine) (c : Context) (name : Symbol) (n : Int64) :
    (m.add c name n).2.store.modules = m.store.modules := by
  simp only [add]
  split
  · rfl
  · exact modules_storing FreeVariable.modules_of_assign

theorem Machine.modules_remove (m : Machine) (c : Context) (name : Symbol) :
    (m.remove c name).2.store.modules = m.store.modules := by
  simp only [remove]
  split
  · rfl
  · exact Store.modules_removeName _ _ _

theorem Machine.modules_invoke (m : Machine) (c : Context) (site : String) (args : List Expr) :
    (m.invoke c site args).2.store.modules = m.store.modules := by
  simp only [invoke]
  split
  · rfl
  · split <;> rfl

mutual
theorem modules_statement (g : Option Linkage) :
    ∀ (s : Statement) (c : Context) (m : Machine),
      (s.run g c m).2.store.modules = m.store.modules
  | .const _, _, _ => by rw [Statement.run]
  | .set _ _, _, _ => by
      rw [Statement.run]
      exact Machine.modules_storing modules_of_setInnermost
  | .assign _ _, _, _ => by
      rw [Statement.run]
      exact Machine.modules_storing modules_of_assignTo
  | .add name n, c, m => by
      rw [Statement.run]
      exact m.modules_add c name n
  | .remove name, c, m => by
      rw [Statement.run]
      exact m.modules_remove c name
  | .names, _, _ => by rw [Statement.run]
  | .globalGet _, _, _ => by rw [Statement.run]
  | .globalSet _ _, _, _ => by
      rw [Statement.run]
      exact Machine.modules_storing modules_of_setLinked
  | .depth, _, _ => by rw [Statement.run]
  | .module, _, _ => by rw [Statement.run]
  | .push body, _, _ => by
      rw [Statement.run]
      exact modules_runAll g body _ _ _
  | .invoke site args, c, m => by
      rw [Statement.run]
      exact m.modules_invoke c site args
  | .fail _, _, _ => by rw [Statement.run]

/-- A scripted program takes no module number. -/
theorem modules_runAll (g : Option Linkage) :
    ∀ (body : List Statement) (last : Value) (c : Context) (m : Machine),
      (runAll g body last c m).2.store.modules = m.store.modules
  | [], _, _, _ => by rw [runAll]
  | s :: rest, _, c, m => by
      have hfirst := modules_statement g s c m
      rw [runAll]
      split
      · next e m' hs => rw [hs] at hfirst; exact hfirst
      · next v m' hs =>
          rw [hs] at hfirst
          rw [modules_runAll g rest v c m', hfirst]
end

end Script

/-! ## Tally programs -/

namespace Tally

theorem modules_of_writeVar {g : Option Linkage} {st st' : Store} {c : Context} {x : FreeVariable}
    {v : Value} (hw : writeVar g st c x v = .ok st') : st'.modules = st.modules := by
  simp only [writeVar] at hw
  split at hw
  · exact Store.modules_of_write hw
  · split at hw
    · cases hw
    · exact Store.modules_of_writeName hw

theorem modules_of_assignment {g : Option Linkage} {st st' : Store} {c : Context} {a : Assignment}
    {v : Value} (ha : a.run g st c = .ok (v, st')) : st'.modules = st.modules := by
  simp only [Assignment.run] at ha
  split at ha
  · cases ha
  · next u _ =>
      cases hw : writeVar g st c a.target u with
      | error e => simp [hw, Except.map] at ha
      | ok new =>
          simp only [hw, Except.map, Except.ok.injEq, Prod.mk.injEq] at ha
          rw [← ha.2, modules_of_writeVar hw]

/-- A Tally program takes no module number. -/
theorem modules_run (g : Option Linkage) (c : Context) (as : List Assignment) (last : Value)
    (st : Store) : (run g c as last st).2.modules = st.modules := by
  induction as generalizing last st with
  | nil => rfl
  | cons a as ih =>
      simp only [run]
      split
      · rfl
      · next v st' ha => rw [ih, modules_of_assignment ha]

end Tally

end Polyglot
