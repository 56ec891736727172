import GtnhPlatform.Actions.PlaceBlock
import GtnhPlatform.Sim.SimulationEngine

namespace GtnhPlatform.Mining

open Actions (BlockPos Block CASResult casBlock)
open Sim (ItemId.pack EnergyStorage)
open World (InventorySlot)

/-! A drill looks for ore, mines it, and asks the chunk store to take the block out. -/

def kOreIron : UInt16 := ItemId.pack 0b10 2 0
def kOreGold : UInt16 := ItemId.pack 0b10 2 1
def kOreTin : UInt16 := ItemId.pack 0b10 2 2
def kOreCopper : UInt16 := ItemId.pack 0b10 2 3
def kOreUranium : UInt16 := ItemId.pack 0b10 2 4
def kOreQuartz : UInt16 := ItemId.pack 0b10 2 5
def kOreCoal : UInt16 := ItemId.pack 0b10 2 6
def kOreRedstone : UInt16 := ItemId.pack 0b10 2 7
def kOreLapis : UInt16 := ItemId.pack 0b10 2 8
def kOreDiamond : UInt16 := ItemId.pack 0b10 2 9
def kOreElectrum : UInt16 := ItemId.pack 0b10 2 10

def kOreBlocks : List UInt16 :=
  [kOreIron, kOreGold, kOreTin, kOreCopper, kOreUranium, kOreQuartz, kOreCoal, kOreRedstone,
    kOreLapis, kOreDiamond, kOreElectrum]

def isOreBlock (blockId : UInt16) : Bool := kOreBlocks.contains blockId

/-- Redstone, lapis and diamond have no drop. -/
def oreDropTable : List (UInt16 × UInt16) :=
  [(kOreIron, ItemId.pack 0b0110 4 1), (kOreGold, ItemId.pack 0b0110 4 2),
    (kOreTin, ItemId.pack 0b0110 4 3), (kOreElectrum, ItemId.pack 0b0110 4 4),
    (kOreCopper, ItemId.pack 0b01110001 8 24), (kOreUranium, ItemId.pack 0b0110 4 5),
    (kOreQuartz, ItemId.pack 0b01110101 8 0), (kOreCoal, ItemId.pack 0b011110 6 2)]

def oreToDrop (oreBlockId : UInt16) : UInt16 := (oreDropTable.lookup oreBlockId).getD 0

/-- Layer order: 0, -1, +1, -2, +2, and so on. -/
def layerOffset (layerIndex : Int) : Int :=
  if layerIndex = 0 then 0
  else if layerIndex.tmod 2 = 1 then (-(layerIndex + 1)).tdiv 2 else layerIndex.tdiv 2

/-- Where the spiral stands: the cell, the length of a side, the side's
direction, and how far along the second or first side of that length it is. -/
structure Spiral where
  x : Int := 0
  z : Int := 0
  side : Nat := 1
  dir : Nat := 0
  second : Bool := false
  walked : Nat := 0

def Spiral.advance (spiral : Spiral) : Spiral :=
  let x := spiral.x + [1, 0, -1, 0].getD spiral.dir 0
  let z := spiral.z + [0, 1, 0, -1].getD spiral.dir 0
  if spiral.walked + 1 < spiral.side then
    { spiral with x := x, z := z, walked := spiral.walked + 1 }
  else
    { x := x
      z := z
      side := if spiral.second then spiral.side + 1 else spiral.side
      dir := (spiral.dir + 1) % 4
      second := !spiral.second
      walked := 0 }

def getSpiralOffset (n : Int) : Int × Int :=
  let spiral := Spiral.advance^[n.toNat] {}
  (spiral.x, spiral.z)

example : (List.range 10).map (fun n => getSpiralOffset n) =
    [(0, 0), (1, 0), (1, 1), (0, 1), (-1, 1), (-1, 0), (-1, -1), (0, -1), (1, -1), (2, -1)] := by
  decide

/-- The capacities of `TOOL_ENERGY_DEFS`: the drills, and the battery cells. -/
def toolCapacities : List (UInt16 × Int) :=
  [(Actions.ITEM_DRILL_ULV, 1000), (Actions.ITEM_DRILL_LV, 4000), (Actions.ITEM_DRILL_MV, 16000),
    (Actions.ITEM_DRILL_HV, 64000), (60948, 1000), (60949, 4000), (60950, 16000)]

/-- Its energy is the tool's `metadata`. -/
def consumeToolEnergy (slot : InventorySlot) (amount : Int) : Option InventorySlot :=
  match toolCapacities.lookup slot.itemId with
  | none => if (-1 : Int) < amount then none else some slot
  | some capacity =>
    let current : Int := slot.metadata.toNat
    if current < amount then none
    else some { slot with metadata := UInt16.ofInt (min (max (current - amount) 0) capacity) }

def findToolSlot (slots : List InventorySlot) : Option Nat :=
  slots.findIdx? fun slot => (toolCapacities.lookup slot.itemId).isSome

def consumeEnergy (energy : EnergyStorage) (amount : Int) : EnergyStorage × Int :=
  let available := min (if energy.current < amount then energy.current else amount) energy.maxOutput
  ({ energy with current := energy.current - available }, available)

structure DrillEnergy where
  container : Option (List InventorySlot) := none
  storage : Option EnergyStorage := none

inductive DrillState where
  | idle
  | searching
  | mining
  | outputFull
  deriving DecidableEq

structure DrillComponent where
  pos : BlockPos
  tier : Int
  energyPerTick : Int
  searchLayer : Int := 0
  searchIndex : Int := 0
  target : BlockPos := ⟨0, 0, 0⟩
  targetOreId : UInt16 := 0
  miningProgress : Int := 0
  miningTicksTotal : Int := 0
  outputBuffer : List (UInt16 × UInt8) := []
  state : DrillState := .idle

def kMaxOutputSize : Nat := 64

def calcEnergyPerTick (tier : Int) : Int := 10 * (tier + 1) * (tier + 1)

def calcMiningTicks (tier : Int) : Int := (100 : Int).tdiv (tier + 1)

def DrillComponent.new (pos : BlockPos) (tier : Int) : DrillComponent :=
  { pos := pos, tier := tier, energyPerTick := calcEnergyPerTick tier }

/-- What a request to mine has captured of the drill. -/
structure MiningRequest where
  target : BlockPos
  oreId : UInt16
  deriving DecidableEq

structure MiningReply where
  request : MiningRequest
  result : CASResult
  removed : Option Block
  deriving DecidableEq

structure DrillWorld where
  drill : DrillComponent
  energy : DrillEnergy := {}
  pendingSearches : Nat := 0
  world : BlockPos → Option Block
  searches : List BlockPos := []
  found : List (BlockPos × UInt16) := []
  requests : List MiningRequest := []
  replies : List MiningReply := []

/-- A request that does not reach the chunk store is answered for it. -/
inductive DrillInput where
  | tick
  | getBlock (index : Nat) (reached : Bool)
  | searchBlockResult (index : Nat)
  | setBlockCAS (index : Nat) (reached : Bool)
  | mineComplete (index : Nat)
  | changeWorld (pos : BlockPos) (block : Option Block)
  | changeEnergy (energy : DrillEnergy)

inductive DrillEvent where
  | sendConsumeRequest (pos : BlockPos) (amount : Int)

namespace DrillComponent

variable (drill : DrillComponent)

def offset : BlockPos :=
  let (dx, dz) := getSpiralOffset drill.searchIndex
  ⟨dx, layerOffset drill.searchLayer, dz⟩

/-- The drill's own cell is passed over. -/
def skipOwnCell : DrillComponent :=
  if drill.offset = ⟨0, 0, 0⟩ then { drill with searchIndex := drill.searchIndex + 1 } else drill

def cell : BlockPos :=
  ⟨drill.pos.x + drill.offset.x, drill.pos.y + drill.offset.y, drill.pos.z + drill.offset.z⟩

def nextCell : DrillComponent :=
  if drill.searchIndex + 1 ≥ 440 then
    { drill with searchIndex := 0, searchLayer := drill.searchLayer + 1 }
  else { drill with searchIndex := drill.searchIndex + 1 }

end DrillComponent

namespace DrillWorld

variable (state : DrillWorld)

def start (pos : BlockPos) (tier : Int) (world : BlockPos → Option Block) : DrillWorld where
  drill := DrillComponent.new pos tier
  world := world

def search : DrillWorld :=
  let drill := state.drill.skipOwnCell
  { state with
    drill := drill.nextCell
    pendingSearches := state.pendingSearches + 1
    searches := state.searches ++ [drill.cell] }

def phaseSearch : DrillWorld :=
  if 2 ≤ state.pendingSearches then state else state.search.search

def beginSearch : DrillWorld :=
  { state with
    drill := { state.drill with searchLayer := 0, searchIndex := 0, state := .searching } }

def abandon : DrillWorld :=
  { state with drill := { state.drill with state := .searching } }

def phaseEnergyCheck : DrillWorld × Bool × List DrillEvent :=
  let amount := state.drill.energyPerTick
  let container := state.energy.container.getD []
  match findToolSlot container with
  | some slotIdx =>
    match consumeToolEnergy (container.getD slotIdx .empty) amount with
    | some drained =>
      ({ state with
          energy := { state.energy with container := some (container.set slotIdx drained) } },
        true, [])
    | none => (state.abandon, false, [])
  | none =>
    match state.energy.storage with
    | none => (state.abandon, false, [])
    | some energy =>
      let drained := consumeEnergy energy amount
      ({ state with energy := { state.energy with storage := some drained.1 } }, true,
        if drained.2 < amount then [.sendConsumeRequest state.drill.pos amount] else [])

/-- A drill whose time is up asks again every tick until it is answered. -/
def phaseMine : DrillWorld :=
  let drill := { state.drill with miningProgress := state.drill.miningProgress - 1 }
  if 0 < drill.miningProgress then { state with drill := drill }
  else
    { state with
      drill := drill
      requests := state.requests ++ [⟨drill.target, drill.targetOreId⟩] }

def tick : DrillWorld × List DrillEvent :=
  match state.drill.state with
  | .idle => (state.beginSearch.phaseSearch, [])
  | .searching => (state.phaseSearch, [])
  | .mining =>
    let (checked, powered, events) := state.phaseEnergyCheck
    (if powered then checked.phaseMine else checked, events)
  | .outputFull =>
    (if state.drill.outputBuffer.length < kMaxOutputSize then state.abandon else state, [])

def getBlock (pos : BlockPos) (reached : Bool) : UInt16 :=
  if reached then ((state.world pos).map Block.blockId).getD 0 else 0

def onSearchBlockResult (pos : BlockPos) (blockId : UInt16) : DrillWorld :=
  let answered := { state with pendingSearches := state.pendingSearches - 1 }
  if state.drill.state = .searching ∧ isOreBlock blockId = true then
    { answered with
      drill := { state.drill with
        target := pos
        targetOreId := blockId
        miningTicksTotal := calcMiningTicks state.drill.tier
        miningProgress := calcMiningTicks state.drill.tier
        state := .mining } }
  else answered

/-- What the drill gives as the block it expects. -/
def anyBlock : UInt16 := 0xFFFF

def setBlockCAS (request : MiningRequest) (reached : Bool) :
    (BlockPos → Option Block) × MiningReply :=
  if reached then
    let (world, result) := casBlock state.world request.target anyBlock ⟨0, 0⟩
    (world, ⟨request, result, if result.status = 0 then state.world request.target else none⟩)
  else (state.world, ⟨request, ⟨1, ⟨0, 0⟩⟩, none⟩)

def dropOf (oreId : UInt16) : List (UInt16 × UInt8) :=
  if oreToDrop oreId ≠ 0 then [(oreToDrop oreId, 1)] else []

/-- The drop is of the ore that the drill is after when the answer comes. -/
def onMineComplete (result : CASResult) : DrillWorld :=
  if result.status ≠ 0 then
    { state with drill := { state.drill with state := .searching, targetOreId := 0 } }
  else
    let outputBuffer := state.drill.outputBuffer ++ dropOf state.drill.targetOreId
    { state with
      drill := { state.drill with
        outputBuffer := outputBuffer
        state := if kMaxOutputSize ≤ outputBuffer.length then .outputFull else .searching } }

def step : DrillInput → DrillWorld × List DrillEvent
  | .tick => state.tick
  | .getBlock index reached =>
    match state.searches[index]? with
    | none => (state, [])
    | some pos =>
      ({ state with
          searches := state.searches.eraseIdx index
          found := state.found ++ [(pos, state.getBlock pos reached)] }, [])
  | .searchBlockResult index =>
    match state.found[index]? with
    | none => (state, [])
    | some (pos, blockId) =>
      ({ state with found := state.found.eraseIdx index }.onSearchBlockResult pos blockId, [])
  | .setBlockCAS index reached =>
    match state.requests[index]? with
    | none => (state, [])
    | some request =>
      let (world, reply) := state.setBlockCAS request reached
      ({ state with
          world := world
          requests := state.requests.eraseIdx index
          replies := state.replies ++ [reply] }, [])
  | .mineComplete index =>
    match state.replies[index]? with
    | none => (state, [])
    | some reply =>
      ({ state with replies := state.replies.eraseIdx index }.onMineComplete reply.result, [])
  | .changeWorld pos block => ({ state with world := Function.update state.world pos block }, [])
  | .changeEnergy energy => ({ state with energy := energy }, [])

def machine : Machine DrillWorld DrillInput DrillEvent := ⟨step⟩

end DrillWorld

end GtnhPlatform.Mining
