import GtnhPlatform.Crafting.Consumption
import GtnhPlatform.Data.Table
import GtnhPlatform.Inventory.ActionHandler
import GtnhPlatform.Inventory.GiveItem

namespace GtnhPlatform.Crafting

open Inventory List

/-! The staged grid of each workbench, kept as nine five-byte cells. -/

structure Pos where
  x : Int
  y : Int
  z : Int
  deriving DecidableEq

def putUInt16 (value : UInt16) : List UInt8 :=
  [UInt8.ofNat (value.toNat % 256), UInt8.ofNat (value.toNat / 256)]

def getUInt16 (low high : UInt8) : UInt16 := UInt16.ofNat (low.toNat + 256 * high.toNat)

def cellBytes (item : ItemStack) : List UInt8 :=
  putUInt16 item.itemId ++ [item.count] ++ putUInt16 item.metadata

def serializeGrid (grid : List ItemStack) : List UInt8 :=
  let bytes := (grid.take 9).flatMap cellBytes
  bytes ++ replicate (45 - bytes.length) 0

def readCells : List UInt8 → List ItemStack
  | idLow :: idHigh :: count :: metaLow :: metaHigh :: rest =>
    ⟨getUInt16 idLow idHigh, count, getUInt16 metaLow metaHigh⟩ :: readCells rest
  | _ => []

def deserializeGrid (data : List UInt8) : List ItemStack := (readCells data).take 9

structure WorkbenchStateManager where
  grids : Table Pos (List ItemStack)
  entityStates : Option (Table Pos (List UInt8))

namespace WorkbenchStateManager

variable (manager : WorkbenchStateManager)

def setGridState (pos : Pos) (grid : List ItemStack) :
    WorkbenchStateManager where
  grids := AList.insert pos grid manager.grids
  entityStates := manager.entityStates.map (AList.insert pos (serializeGrid grid))

def getGridState (pos : Pos) :
    List ItemStack × WorkbenchStateManager :=
  match manager.grids.lookup pos with
  | some grid => (grid, manager)
  | none =>
    match manager.entityStates with
    | none => ([], manager)
    | some states =>
      match (states.lookup pos).getD [] with
      | [] => ([], manager)
      | state =>
        let grid := deserializeGrid state
        (grid, { manager with grids := AList.insert pos grid manager.grids })

theorem getGridState_setGridState (pos : Pos)
    (grid : List ItemStack) : ((manager.setGridState pos grid).getGridState pos).1 = grid := by
  simp [getGridState, setGridState]

end WorkbenchStateManager

open Inventory

structure RecipeManager where
  classByBlockId : Table UInt16 String
  recipesByClass : Table String (List String)
  recipes : Table String Recipe
  tierByBlockId : Table UInt16 Int
  energyInByBlockId : Table UInt16 UInt8
  listed : ∀ machineClass ids, recipesByClass.lookup machineClass = some ids →
    ∀ id ∈ ids, (recipes.lookup id).isSome

namespace RecipeManager

variable (manager : RecipeManager)

def getMachineTier (blockId : UInt16) : Int :=
  (manager.tierByBlockId.lookup blockId).getD 0

def getMachineEnergyIn (blockId : UInt16) : UInt8 :=
  (manager.energyInByBlockId.lookup blockId).getD ENERGY_TYPE_ANY

def eligible (machineId : UInt16) (inputs : List ItemStack)
    (recipe : Recipe) : Bool :=
  decide (recipe.minTier ≤ manager.getMachineTier machineId) &&
    decide (manager.getMachineTier machineId ≤ recipe.maxTier) &&
    !(recipe.energyType != ENERGY_TYPE_ANY &&
      recipe.energyType != manager.getMachineEnergyIn machineId) &&
    recipe.matchesContainer inputs

structure Best where
  recipe : Option Recipe
  minTier : Int

def prefer (best : Best) (recipe : Recipe) : Best :=
  if best.minTier < recipe.minTier then ⟨some recipe, recipe.minTier⟩ else best

def findRecipeByInputs (machineId : UInt16) (inputs : List ItemStack) :
    Option Recipe :=
  match manager.classByBlockId.lookup machineId with
  | none => none
  | some machineClass =>
    match manager.recipesByClass.lookup machineClass with
    | none => none
    | some ids =>
      (((ids.filterMap manager.recipes.lookup).filter (manager.eligible machineId inputs)).foldl
        prefer ⟨none, -1⟩).recipe

variable {recipe : Recipe}

theorem prefer_invariant (condition : Recipe → Prop) {recipes : List Recipe} (best : Best)
    (start : ∀ recipe, best.recipe = some recipe → condition recipe)
    (all : ∀ recipe ∈ recipes, condition recipe)
    (found : (recipes.foldl prefer best).recipe = some recipe) : condition recipe := by
  induction recipes generalizing best with
  | nil => exact start recipe found
  | cons candidate rest ih =>
    refine ih (prefer best candidate) ?_
      (fun other mem => all other (mem_cons_of_mem candidate mem)) found
    intro chosen chosenEq
    unfold prefer at chosenEq
    split at chosenEq
    · cases chosenEq
      exact all candidate mem_cons_self
    · exact start chosen chosenEq

variable {manager : RecipeManager} {inputs : List ItemStack} {machineId : UInt16}

variable (found : manager.findRecipeByInputs machineId inputs = some recipe)

include found

theorem findRecipeByInputs_matches :
    recipe.matchesContainer inputs = true := by
  unfold findRecipeByInputs at found
  split at found
  · exact absurd found (by simp)
  split at found
  · exact absurd found (by simp)
  refine prefer_invariant (fun recipe => recipe.matchesContainer inputs = true) ⟨none, -1⟩
    (fun recipe none => absurd none (by simp)) ?_ found
  intro candidate mem
  have passes := (mem_filter.mp mem).2
  simp only [eligible, Bool.and_eq_true] at passes
  exact passes.2

theorem findRecipeByInputs_loaded : ∃ id, manager.recipes.lookup id = some recipe := by
  unfold findRecipeByInputs at found
  split at found
  · exact absurd found (by simp)
  split at found
  · exact absurd found (by simp)
  refine prefer_invariant (fun recipe => ∃ id, manager.recipes.lookup id = some recipe)
    ⟨none, -1⟩ (fun recipe none => absurd none (by simp)) ?_ found
  intro candidate mem
  obtain ⟨id, _, loaded⟩ := mem_filterMap.mp (mem_filter.mp mem).1
  exact ⟨id, loaded⟩

omit found

end RecipeManager

/-- `ItemId::pack("0:10:11:1")` -/
def kCraftingTableMachineId : UInt16 := 0x5801

inductive CraftMessage
  | gridUpdate (pos : Pos) (grid : List ItemStack)
  | craftResponse (success : Bool) (result : Option ItemStack) (error : String)
      (grid : List ItemStack)

/-- What one cell lost is deducted, under the kind the cell held. -/
def deductCell (inventory : List PersistSlot) (cell : ItemStack × ItemStack) :
    List PersistSlot :=
  if cell.1.itemId = 0 then inventory
  else withdraw cell.1.itemId cell.1.metadata (cell.1.count.toNat - cell.2.count.toNat) inventory

def deductConsumed (originalGrid newGrid : List ItemStack) (inventory : List PersistSlot) :
    List PersistSlot :=
  ((originalGrid.zip newGrid).take 9).foldl deductCell inventory

theorem deductConsumed_length (originalGrid newGrid : List ItemStack)
    (inventory : List PersistSlot) :
    (deductConsumed originalGrid newGrid inventory).length = inventory.length := by
  unfold deductConsumed
  generalize (originalGrid.zip newGrid).take 9 = cells
  induction cells generalizing inventory with
  | nil => rfl
  | cons cell rest ih =>
    rw [foldl_cons, ih]
    unfold deductCell
    split
    · rfl
    · exact length_withdraw _ _ _ _

def Recipe.result (recipe : Recipe) : ItemStack :=
  match recipe.outputs with
  | [] => PersistSlot.empty
  | out :: _ => ⟨out.itemId, out.count, out.metadata⟩

structure CraftServer where
  recipeManager : RecipeManager
  wbStateManager : WorkbenchStateManager
  inventories : Table Nat PlayerSlots

namespace CraftServer

def emptySlots : PlayerSlots := ⟨replicate kInventorySlots PersistSlot.empty, by simp⟩

variable (server : CraftServer)

def getSlots (playerId : Nat) : PlayerSlots :=
  (server.inventories.lookup playerId).getD emptySlots

def setSlots (playerId : Nat) (slots : PlayerSlots) : CraftServer :=
  { server with inventories := AList.insert playerId slots server.inventories }

def setGridState (server : CraftServer) (pos : Pos) (grid : List ItemStack) : CraftServer :=
  { server with wbStateManager := server.wbStateManager.setGridState pos grid }

def deduct (originalGrid newGrid : List ItemStack) (slots : PlayerSlots) : PlayerSlots :=
  ⟨deductConsumed originalGrid newGrid slots.val,
    (deductConsumed_length _ _ _).trans slots.property⟩

def grant (result : ItemStack) (slots : PlayerSlots) : PlayerSlots :=
  ⟨if result.itemId = 0 then slots.val else (giveItem result.itemId result.count (-1) slots.val).1, by
    split
    · exact slots.property
    · rw [giveItem_length, slots.property]⟩

def doCraft (playerId : Nat) (pos : Pos) (grid : List ItemStack) :
    CraftServer × List CraftMessage :=
  if grid.isEmpty then
    (server, [.craftResponse false none "Workbench grid is empty" []])
  else
    match server.recipeManager.findRecipeByInputs kCraftingTableMachineId grid with
    | none => (server, [.craftResponse false none "No matching recipe" []])
    | some recipe =>
      let newGrid := recipe.consumeInputs grid
      let staged := server.setGridState pos newGrid
      let charged := staged.setSlots playerId (deduct grid newGrid (staged.getSlots playerId))
      let granted := charged.setSlots playerId
        (grant recipe.result (charged.getSlots playerId))
      (granted, [.gridUpdate pos newGrid, .craftResponse true (some recipe.result) "" newGrid])

/-- The slots of the client are ignored: the grid is the server's. -/
def handle (playerId : Nat) (pos : Pos) : CraftServer × List CraftMessage :=
  let loaded := server.wbStateManager.getGridState pos
  doCraft { server with wbStateManager := loaded.2 } playerId pos loaded.1

@[simp] theorem getSlots_setSlots (playerId : Nat) (slots : PlayerSlots) :
    (server.setSlots playerId slots).getSlots playerId = slots := by
  simp [getSlots, setSlots]

@[simp] theorem getSlots_setGridState (playerId : Nat) (pos : Pos)
    (grid : List ItemStack) :
    (server.setGridState pos grid).getSlots playerId = server.getSlots playerId := rfl

end CraftServer

end GtnhPlatform.Crafting
