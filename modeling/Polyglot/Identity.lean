/-!
# Polyglot.Identity

What tells two things of one sort apart although they may look alike: places in the tables of
the host, and the numbers of modules and of slot generations.

Module and generation numbers have thirty-two bits.  They are given out in order, the `n`-th
allocation getting the number `n` reduced to thirty-two bits, so the first `2 ^ 32` allocations
are told apart.
-/

namespace Polyglot

/-- A storage location. -/
structure SlotId where
  index : Nat
  deriving DecidableEq, Inhabited

/-- A scope. -/
structure ScopeId where
  index : Nat
  deriving DecidableEq, Inhabited

/-- One link of a scope chain. -/
structure LinkId where
  index : Nat
  deriving DecidableEq, Inhabited

/-- A factory of static slots. -/
structure FactoryId where
  index : Nat
  deriving DecidableEq, Inhabited

/-- A compiled code object. -/
structure CodeId where
  index : Nat
  deriving DecidableEq, Inhabited

/-- An instance of a language provider. -/
structure ProviderId where
  index : Nat
  deriving DecidableEq, Inhabited

/-- A registry of languages. -/
structure RegistryId where
  index : Nat
  deriving DecidableEq, Inhabited

/-- A table of implementations that are found by location. -/
structure ResolverId where
  index : Nat
  deriving DecidableEq, Inhabited

/-- The number of a module. -/
structure ModuleId where
  number : UInt32
  deriving DecidableEq, Inhabited

/-- The number of a generation of static slots. -/
structure GenerationId where
  number : UInt32
  deriving DecidableEq, Inhabited

namespace ModuleId

/-- The number that the `n`-th allocation gets, counted from zero. -/
def ofCount (n : Nat) : ModuleId := ⟨UInt32.ofNat n⟩

/-- The number in messages. -/
def display (m : ModuleId) : String := "module_" ++ toString m.number.toNat

/-- The number as a developer sees it. -/
def inspect (m : ModuleId) : String := "ModuleId(" ++ toString m.number.toNat ++ ")"

theorem ofCount_inj {m n : Nat} (hm : m < UInt32.size) (hn : n < UInt32.size)
    (h : ofCount m = ofCount n) : m = n := by
  have hm' : (UInt32.ofNat m).toNat = m := UInt32.toNat_ofNat_of_lt' hm
  have hn' : (UInt32.ofNat n).toNat = n := UInt32.toNat_ofNat_of_lt' hn
  have hmn : UInt32.ofNat m = UInt32.ofNat n := congrArg ModuleId.number h
  rw [← hm', hmn, hn']

end ModuleId

namespace GenerationId

/-- The number that the `n`-th allocation gets, counted from zero. -/
def ofCount (n : Nat) : GenerationId := ⟨UInt32.ofNat n⟩

/-- The number in messages. -/
def display (g : GenerationId) : String := "gen_" ++ toString g.number.toNat

/-- The number as a developer sees it. -/
def inspect (g : GenerationId) : String := "GenerationId(" ++ toString g.number.toNat ++ ")"

theorem ofCount_inj {m n : Nat} (hm : m < UInt32.size) (hn : n < UInt32.size)
    (h : ofCount m = ofCount n) : m = n := by
  have hm' : (UInt32.ofNat m).toNat = m := UInt32.toNat_ofNat_of_lt' hm
  have hn' : (UInt32.ofNat n).toNat = n := UInt32.toNat_ofNat_of_lt' hn
  have hmn : UInt32.ofNat m = UInt32.ofNat n := congrArg GenerationId.number h
  rw [← hm', hmn, hn']

end GenerationId

end Polyglot
