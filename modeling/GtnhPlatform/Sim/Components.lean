import GtnhPlatform.Data.Table

namespace GtnhPlatform.Sim

/-- An entity identifier as it stands in an owner id, reduced to the registry's
32 bits. -/
def entityOf (ownerId : Nat) : Nat := ownerId % 2 ^ 32

structure FluidStorage where
  fluidId : Nat
  amount : Int
  capacity : Int
  maxInput : Int
  maxOutput : Int
  deriving DecidableEq

namespace FluidStorage

def removable (fluid : FluidStorage) (amt : Int) : Int :=
  let available := if fluid.amount < amt then fluid.amount else amt
  if fluid.maxOutput < available then fluid.maxOutput else available

def removeFluid (fluid : FluidStorage) (amt : Int) : FluidStorage × Int :=
  ({ fluid with amount := fluid.amount - fluid.removable amt }, fluid.removable amt)

def Yields (fluid : FluidStorage) : Prop :=
  fluid.amount < 0 ∨ fluid.maxOutput < 0 ∨ (0 < fluid.amount ∧ 0 < fluid.maxOutput)

theorem removeFluid_ne_iff (fluid : FluidStorage) (positive : 0 < amt) :
    (fluid.removeFluid amt).1 ≠ fluid ↔ fluid.Yields := by
  have balance : (fluid.removeFluid amt).1 = fluid ↔ fluid.removable amt = 0 := by
    constructor
    · intro same
      have amounts := congrArg FluidStorage.amount same
      simp only [removeFluid] at amounts
      omega
    · intro none
      simp only [removeFluid, none, Int.sub_zero]
  rw [Ne, balance, removable, Yields]
  split <;> split <;> omega

end FluidStorage

/-- Steam is a `double`; below 2^53 its subtraction of whole amounts is exact. -/
structure SteamOutputComponent where
  steamStored : Rat
  deriving DecidableEq

/-- `ItemId::pack` of a prefix of `length` bits and a payload. -/
def ItemId.pack (bits length payload : Nat) : UInt16 :=
  UInt16.ofNat (bits <<< (16 - length) ||| payload)

def ItemId.isPipe (id : UInt16) : Bool :=
  decide (ItemId.pack 0b111110 6 0 ≤ id) && decide (id < ItemId.pack 0b111111 6 0)

def ItemId.isCable (id : UInt16) : Bool :=
  decide (ItemId.pack 0b111101 6 0 ≤ id) && decide (id < ItemId.pack 0b111110 6 0)

def isInfraBlock (id : UInt16) : Bool := ItemId.isPipe id || ItemId.isCable id ||
    id == ItemId.pack 0b1110110 7 0 || id == ItemId.pack 0b1110110 7 1

inductive EnergyType where
  | electricity
  | heat
  | steam
  | rotation
  deriving DecidableEq

structure MachineInfo where
  machineClass : String
  energyIn : Option EnergyType
  energyOut : Option EnergyType
  tier : Int
  slotsIn : Int
  slotsOut : Int
  capacity : Int
  maxInput : Int
  maxOutput : Int

abbrev MachineRegistry := Table UInt16 MachineInfo

namespace MachineRegistry

def get (registry : MachineRegistry) (blockId : UInt16) : Option MachineInfo :=
  AList.lookup blockId registry

def isMachine (registry : MachineRegistry) (blockId : UInt16) : Bool :=
  (registry.get blockId).isSome

end MachineRegistry

end GtnhPlatform.Sim
