import Mathlib.Data.UInt
import GtnhPlatform.Common.ResourcePort
import GtnhPlatform.Inventory.Withdraw

namespace GtnhPlatform.Crafting

open Inventory

/-- `RecipeManager::ItemStack` has the three fields of a stored slot. -/
abbrev ItemStack := PersistSlot

structure InputItem where
  itemId : UInt16
  count : UInt8
  metadata : UInt16
  consume : Bool
  replaceItem : UInt16
  replaceMeta : UInt16

structure OutputItem where
  itemId : UInt16
  count : UInt8
  metadata : UInt16

def ENERGY_TYPE_ANY : UInt8 := 255

/-- A resource charged per tick while the recipe runs. The amount is a
`uint32_t`. -/
structure ResourceRequirement where
  kind : Common.ResourceKind
  resourceId : Nat
  amount : UInt32

/-- A fluid taken once per operation. -/
structure FluidIOItem where
  fluidId : Nat
  amountMb : UInt32

structure Recipe where
  id : String
  inputs : List InputItem
  outputs : List OutputItem
  minTier : Int
  maxTier : Int
  energyType : UInt8
  hasPattern : Bool
  pattern : Vector ItemStack 9
  duration : UInt32 := 0
  resourceRequirements : List ResourceRequirement := []
  fluidInputs : List FluidIOItem := []
  machineClass : String := ""

namespace Recipe

def hasResourceRequirements (recipe : Recipe) : Bool := !recipe.resourceRequirements.isEmpty

def hasFluidInputs (recipe : Recipe) : Bool := !recipe.fluidInputs.isEmpty

def needsReservation (recipe : Recipe) : Bool :=
  recipe.hasResourceRequirements || recipe.hasFluidInputs

def resourceAmountPerTick (recipe : Recipe) : UInt32 :=
  (recipe.resourceRequirements.map fun requirement => requirement.amount).sum

end Recipe

def cellMatches (cell slot : ItemStack) : Bool :=
  if cell.itemId = 0 then slot.itemId == 0
  else slot.itemId == cell.itemId && slot.metadata == cell.metadata &&
    decide (cell.count ≤ slot.count)

def slotServes (req : InputItem) (slot : ItemStack) : Bool :=
  slot.itemId == req.itemId && decide (req.count ≤ slot.count) && slot.metadata == req.metadata

def claimSlot (req : InputItem) : List ItemStack → List Bool → Option (List Bool)
  | slot :: slots, used :: flags =>
    if !used && slotServes req slot then some (true :: flags)
    else (claimSlot req slots flags).map (used :: ·)
  | _, _ => none

def claimAll (container : List ItemStack) : List InputItem → List Bool → Bool
  | [], _ => true
  | req :: rest, used =>
    -- item 0 is the encoding of an intentionally empty slot
    if req.itemId = 0 then claimAll container rest used
    else
      match claimSlot req container used with
      | none => false
      | some used => claimAll container rest used

namespace Recipe

def matchesPattern (recipe : Recipe) (container : List ItemStack) : Bool :=
  decide (9 ≤ container.length) &&
    (recipe.pattern.toList.zip container).all fun pair => cellMatches pair.1 pair.2

def matchesInputs (recipe : Recipe) (container : List ItemStack) : Bool :=
  let requiredInputs := recipe.inputs.countP fun req => req.itemId != 0
  let available := container.countP fun slot => slot.itemId != 0 && decide (0 < slot.count)
  decide (requiredInputs ≤ available) &&
    claimAll container recipe.inputs (List.replicate container.length false)

def matchesContainer (recipe : Recipe) (container : List ItemStack) : Bool :=
  if recipe.hasPattern then recipe.matchesPattern container else recipe.matchesInputs container

end Recipe

def consumeCell (cell slot : ItemStack) : ItemStack :=
  if cell.itemId = 0 then slot else slot.less (min slot.count.toNat cell.count.toNat)

def consumePattern : List ItemStack → List ItemStack → List ItemStack
  | cell :: cells, slot :: slots => consumeCell cell slot :: consumePattern cells slots
  | _, slots => slots

/-- The first stack of a kept input becomes a stack of its replacement. -/
def replaceFirst (req : InputItem) : List ItemStack → List ItemStack
  | [] => []
  | slot :: rest =>
    if slot.itemId = req.itemId ∧ slot.metadata = req.metadata then
      { slot with itemId := req.replaceItem, metadata := req.replaceMeta } :: rest
    else slot :: replaceFirst req rest

def consumeInput (container : List ItemStack) (req : InputItem) : List ItemStack :=
  if !req.consume then
    if 0 < req.replaceItem then replaceFirst req container else container
  else withdraw req.itemId req.metadata req.count.toNat container

def Recipe.consumeInputs (recipe : Recipe) (container : List ItemStack) : List ItemStack :=
  if recipe.hasPattern then consumePattern recipe.pattern.toList container
  else recipe.inputs.foldl consumeInput container

theorem length_consumePattern (cells slots : List ItemStack) :
    (consumePattern cells slots).length = slots.length := by
  fun_induction consumePattern cells slots with
  | case1 cell cells slot slots ih => simp only [List.length_cons, ih]
  | case2 cells slots => rfl

theorem length_replaceFirst (req : InputItem) (slots : List ItemStack) :
    (replaceFirst req slots).length = slots.length := by
  induction slots with
  | nil => rfl
  | cons slot rest ih =>
    unfold replaceFirst
    split <;> simp only [List.length_cons, ih]

theorem length_consumeInput (slots : List ItemStack) (req : InputItem) :
    (consumeInput slots req).length = slots.length := by
  unfold consumeInput
  split
  · split
    · exact length_replaceFirst req slots
    · rfl
  · exact length_withdraw _ _ _ _

@[simp] theorem Recipe.length_consumeInputs (recipe : Recipe) (container : List ItemStack) :
    (recipe.consumeInputs container).length = container.length := by
  unfold Recipe.consumeInputs
  split
  · exact length_consumePattern _ _
  generalize recipe.inputs = inputs
  induction inputs generalizing container with
  | nil => rfl
  | cons req rest ih =>
    rw [List.foldl_cons, ih, length_consumeInput]

end GtnhPlatform.Crafting
