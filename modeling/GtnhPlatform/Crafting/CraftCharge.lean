import GtnhPlatform.Crafting.CraftRequest

namespace GtnhPlatform.Crafting

open Inventory List

section Charge

variable {item : ItemKey}

def cellLoss (item : ItemKey) (cell : ItemStack × ItemStack) : Nat :=
  if cell.1.itemId = item.itemId ∧ cell.1.metadata = item.metadata then
    cell.1.count.toNat - cell.2.count.toNat
  else 0

def charged (item : ItemKey) (grid newGrid : List ItemStack) : Nat :=
  (((grid.zip newGrid).take 9).map (cellLoss item)).sum

theorem deductCell_total (item : ItemKey) (inventory : List PersistSlot)
    (cell : ItemStack × ItemStack) :
    totalOf item (deductCell inventory cell) = totalOf item inventory - cellLoss item cell := by
  unfold deductCell cellLoss
  split
  · next vacant =>
    have other : ¬ (cell.1.itemId = item.itemId ∧ cell.1.metadata = item.metadata) :=
      fun same => item.real (same.1.symm.trans vacant)
    rw [if_neg other, Nat.sub_zero]
  · split
    · next same => rw [same.1, same.2, totalOf_withdraw_self]
    · next other => rw [totalOf_withdraw_of_ne item other, Nat.sub_zero]

theorem deductConsumed_total (item : ItemKey) (grid newGrid : List ItemStack)
    (inventory : List PersistSlot) : totalOf item (deductConsumed grid newGrid inventory) =
      totalOf item inventory - charged item grid newGrid := by
  unfold deductConsumed charged
  generalize (grid.zip newGrid).take 9 = cells
  induction cells generalizing inventory with
  | nil => simp
  | cons cell rest ih =>
    rw [foldl_cons, ih, deductCell_total, map_cons, sum_cons, Nat.sub_sub]

theorem charged_add_total {grid newGrid : List ItemStack}
    (shrinks : List.Forall₂ (Shrinks item) grid newGrid) (size : grid.length ≤ 9) :
    charged item grid newGrid + totalOf item newGrid = totalOf item grid := by
  have all : (grid.zip newGrid).take 9 = grid.zip newGrid := by
    apply take_of_length_le
    rw [length_zip]
    omega
  unfold charged
  rw [all]
  clear all size
  induction shrinks with
  | nil => rfl
  | cons head tail ih =>
    have here := head.amount
    simp only [zip_cons_cons, map_cons, sum_cons, totalOf_cons, cellLoss]
    omega

theorem replacedCount_eq_zero {choose : InputItem → Bool}
    (none : ∀ req ∈ inputs, req.replaces = true → choose req = false) (slots : List ItemStack) :
    replacedCount choose inputs slots = 0 := by
  induction inputs generalizing slots with
  | nil => rfl
  | cons req rest ih =>
    have here : (req.replaces && choose req) = false := by
      cases replacing : req.replaces with
      | true => simpa using none req mem_cons_self replacing
      | false => rfl
    unfold replacedCount
    rw [here, ih fun other mem => none other (mem_cons_of_mem req mem)]
    rfl

variable {grid : List ItemStack} {recipe : Recipe}

theorem consumeInputs_total_of_untouched (accepts : recipe.matchesContainer grid = true)
    (untouched : recipe.Untouched item) :
    totalOf item (recipe.consumeInputs grid) + recipe.consumedOnce item = totalOf item grid := by
  have apart : ¬ recipe.ConsumesAndReplaces item := by
    rintro ⟨aggregate, _, req, mem, replacing, kind⟩
    rcases untouched with pattern | names
    · rw [aggregate] at pattern
      exact absurd pattern (by simp)
    · rw [(names req mem replacing).1] at kind
      exact absurd kind (by simp)
  have booked := recipe.consumeInputs_total accepts apart
  have noneFrom : recipe.replacedFrom item grid = 0 := by
    unfold Recipe.replacedFrom
    split
    · rfl
    rename_i aggregate
    rcases untouched with pattern | names
    · exact absurd pattern aggregate
    · exact replacedCount_eq_zero (fun req mem replacing =>
        (names req mem replacing).1) grid
  have noneInto : recipe.replacedInto item grid = 0 := by
    unfold Recipe.replacedInto
    split
    · rfl
    rename_i aggregate
    rcases untouched with pattern | names
    · exact absurd pattern aggregate
    · exact replacedCount_eq_zero (fun req mem replacing =>
        (names req mem replacing).2) grid
  omega

theorem charged_eq_consumedOnce (accepts : recipe.matchesContainer grid = true)
    (untouched : recipe.Untouched item) (size : grid.length ≤ 9) :
    charged item grid (recipe.consumeInputs grid) = recipe.consumedOnce item := by
  have lost := charged_add_total (recipe.consumeInputs_shrinks untouched) size
  have booked := consumeInputs_total_of_untouched accepts untouched
  omega

end Charge

def Recipe.produced (recipe : Recipe) (item : ItemKey) : Nat :=
  totalOf item (recipe.outputs.map fun out => ⟨out.itemId, out.count, out.metadata⟩)

structure Recipe.Grants (recipe : Recipe) (out : OutputItem) (inventory : List PersistSlot) :
    Prop where
  only : recipe.outputs = [out]
  live : out.itemId ≠ 0
  variant : out.metadata = 0
  plain : Plain out.itemId inventory
  room : out.count.toNat ≤ grantRoom out.itemId inventory

structure CraftBooks (recipe : Recipe) (grid newGrid : List ItemStack)
    (before after : List PersistSlot) : Prop where
  staged : ∀ item, ¬ recipe.ConsumesAndReplaces item →
    totalOf item newGrid + recipe.consumedOnce item + recipe.replacedFrom item grid =
      totalOf item grid + recipe.replacedInto item grid
  charge : ∀ item, recipe.Untouched item → grid.length ≤ 9 →
    charged item grid newGrid = recipe.consumedOnce item
  held : ∀ item, (∀ out ∈ recipe.outputs, out.itemId ≠ item.itemId) →
    totalOf item after = totalOf item before - charged item grid newGrid
  granted : ∀ out, recipe.Grants out (deductConsumed grid newGrid before) → ∀ item,
    totalOf item after = totalOf item before - charged item grid newGrid +
      (if out.itemId = item.itemId ∧ out.metadata = item.metadata then out.count.toNat else 0)

namespace CraftServer

def Accepts (server : CraftServer) (grid : List ItemStack) (recipe : Recipe) : Prop :=
  grid ≠ [] ∧ server.recipeManager.findRecipeByInputs kCraftingTableMachineId grid = some recipe

variable {server : CraftServer} {grid : List ItemStack} {recipe : Recipe}

theorem doCraft_state (accepted : server.Accepts grid recipe) (playerId : Nat) (pos : Pos) :
    ((server.doCraft playerId pos grid).1.wbStateManager.getGridState pos).1 =
        recipe.consumeInputs grid ∧ (server.doCraft playerId pos grid).1.getSlots playerId =
        grant recipe.result
          (deduct grid (recipe.consumeInputs grid) (server.getSlots playerId)) := by
  obtain ⟨nonempty, found⟩ := accepted
  have staged : grid.isEmpty = false := by
    cases grid with
    | nil => exact absurd rfl nonempty
    | cons cell rest => rfl
  unfold doCraft
  simp only [staged, found, Bool.false_eq_true, if_false]
  constructor
  · exact WorkbenchStateManager.getGridState_setGridState _ _ _
  · simp only [getSlots_setSlots, getSlots_setGridState]

theorem doCraft_refused (refused : ∀ recipe, ¬ server.Accepts grid recipe) (playerId : Nat)
    (pos : Pos) : (server.doCraft playerId pos grid).1 = server := by
  unfold doCraft
  cases grid with
  | nil => rfl
  | cons cell rest =>
    cases found : server.recipeManager.findRecipeByInputs kCraftingTableMachineId (cell :: rest) with
    | none => rfl
    | some recipe => exact absurd ⟨cons_ne_nil _ _, found⟩ (refused recipe)

theorem grant_total_of_ne {item : ItemKey} (slots : PlayerSlots)
    (unmade : ∀ out ∈ recipe.outputs, out.itemId ≠ item.itemId) :
    totalOf item (grant recipe.result slots).val = totalOf item slots.val := by
  simp only [grant]
  split
  · rfl
  rename_i live
  cases outputs : recipe.outputs with
  | nil => simp [Recipe.result, outputs, PersistSlot.empty] at live
  | cons out rest =>
    have other := unmade out (by simp [outputs])
    simp only [Recipe.result, outputs]
    exact giveItem_total_of_other item (fun given => absurd given other.symm)
      (fun given => absurd given other.symm) out.count

theorem grant_total (item : ItemKey) {out : OutputItem} (slots : PlayerSlots)
    (grants : recipe.Grants out slots.val) :
    totalOf item (grant recipe.result slots).val = totalOf item slots.val +
      (if out.itemId = item.itemId ∧ out.metadata = item.metadata then out.count.toNat else 0) := by
  have result : recipe.result = ⟨out.itemId, out.count, out.metadata⟩ := by
    simp only [Recipe.result, grants.only]
  simp only [grant, result, grants.live, if_false]
  by_cases same : out.itemId = item.itemId
  · by_cases variant : item.metadata = 0
    · rw [if_pos ⟨same, grants.variant.trans variant.symm⟩, same]
      exact giveItem_total item variant (same ▸ grants.plain) (same ▸ grants.room)
    have foreign : ¬ (out.itemId = item.itemId ∧ out.metadata = item.metadata) :=
      fun both => variant (both.2.symm.trans grants.variant)
    rw [if_neg foreign, Nat.add_zero, same]
    exact giveItem_total_of_other item (fun _ => variant) (fun _ => same ▸ grants.plain) out.count
  · rw [if_neg fun both => same both.1, Nat.add_zero]
    exact giveItem_total_of_other item (fun given => absurd given.symm same)
      (fun given => absurd given.symm same) out.count

theorem doCraft_books (accepted : server.Accepts grid recipe) (playerId : Nat) (pos : Pos) :
    CraftBooks recipe grid ((server.doCraft playerId pos grid).1.wbStateManager.getGridState pos).1
      (server.getSlots playerId).val
      ((server.doCraft playerId pos grid).1.getSlots playerId).val := by
  have accepts := RecipeManager.findRecipeByInputs_matches accepted.2
  obtain ⟨staged, slots⟩ := doCraft_state accepted playerId pos
  rw [staged, slots]
  refine ⟨?_, ?_, ?_, ?_⟩
  · exact fun item apart => recipe.consumeInputs_total accepts apart
  · exact fun item untouched size => charged_eq_consumedOnce accepts untouched size
  · intro item unmade
    rw [grant_total_of_ne _ unmade]
    exact deductConsumed_total item _ _ _
  · intro out grants item
    rw [grant_total item (deduct grid _ (server.getSlots playerId)) grants]
    simp only [deduct, deductConsumed_total]

def plankRecipe : Recipe where
  id := "planks"
  inputs := [⟨17, 1, 0, true, 0, 0⟩]
  outputs := [⟨5, 4, 0⟩]
  minTier := 0
  maxTier := 32767
  energyType := ENERGY_TYPE_ANY
  hasPattern := false
  pattern := Vector.replicate 9 PersistSlot.empty

def plankManager : RecipeManager where
  classByBlockId := AList.insert kCraftingTableMachineId "crafting_table" ∅
  recipesByClass := AList.insert "crafting_table" ["planks"] ∅
  recipes := AList.insert "planks" plankRecipe ∅
  tierByBlockId := ∅
  energyInByBlockId := ∅
  listed := by
    intro machineClass ids found id mem
    by_cases table : machineClass = "crafting_table"
    · subst table
      rw [Table.lookup_insert_self] at found
      cases found
      obtain rfl := mem_singleton.mp mem
      rw [Table.lookup_insert_self]
      rfl
    · rw [Table.lookup_insert_of_ne _ _ table] at found
      simp at found

def oneLog : PlayerSlots :=
  ⟨⟨17, 1, 0⟩ :: replicate 39 PersistSlot.empty, by simp [kInventorySlots]⟩

def plankServer : CraftServer where
  recipeManager := plankManager
  wbStateManager := ⟨∅, none⟩
  inventories := AList.insert 1 oneLog ∅

def logGrid : List ItemStack := [⟨17, 1, 0⟩]

theorem plankServer_accepts : plankServer.Accepts logGrid plankRecipe := by
  refine ⟨by decide, ?_⟩
  simp only [RecipeManager.findRecipeByInputs, plankServer, plankManager, Table.lookup_insert_self]
  rfl

theorem doCraft_books_planks : plankServer.Accepts logGrid plankRecipe ∧
    CraftBooks plankRecipe logGrid
      ((plankServer.doCraft 1 ⟨0, 64, 0⟩ logGrid).1.wbStateManager.getGridState ⟨0, 64, 0⟩).1
      (plankServer.getSlots 1).val ((plankServer.doCraft 1 ⟨0, 64, 0⟩ logGrid).1.getSlots 1).val :=
  ⟨plankServer_accepts, doCraft_books plankServer_accepts 1 ⟨0, 64, 0⟩⟩

theorem craft_charges_twice :
    ¬ ∀ (server : CraftServer) (playerId : Nat) (pos : Pos) (grid : List ItemStack)
      (recipe : Recipe), server.Accepts grid recipe → ∀ item : ItemKey,
        let after := (server.doCraft playerId pos grid).1
        totalOf item (after.wbStateManager.getGridState pos).1 +
            totalOf item (after.getSlots playerId).val + recipe.consumedOnce item =
          totalOf item grid + totalOf item (server.getSlots playerId).val +
            recipe.produced item := by
  intro conserves
  have books := conserves plankServer 1 ⟨0, 64, 0⟩ logGrid plankRecipe plankServer_accepts
    ⟨17, 0, by decide⟩
  obtain ⟨staged, slots⟩ := doCraft_state plankServer_accepts 1 ⟨0, 64, 0⟩
  simp only [staged, slots] at books
  revert books
  decide +kernel

end CraftServer

end GtnhPlatform.Crafting
