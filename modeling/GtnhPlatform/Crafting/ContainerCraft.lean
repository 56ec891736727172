import GtnhPlatform.Crafting.CraftRequest

namespace GtnhPlatform.Crafting

open Inventory

/-! Crafting in a container: every output is stacked whole or put into an empty slot. -/

structure Container where
  items : Vector ItemStack 9
  dirty : UInt8
  size : UInt16
  deriving DecidableEq

open List

/-- The first stack of the kind with room for the whole output takes it. The
room is a `uint8_t`. -/
def stackOutput (out : OutputItem) : List ItemStack → Option (List ItemStack)
  | [] => none
  | slot :: rest =>
    if slot.itemId = out.itemId ∧ slot.metadata = out.metadata ∧ out.count ≤ 64 - slot.count then
      some ({ slot with count := slot.count + out.count } :: rest)
    else (stackOutput out rest).map (slot :: ·)

/-- Otherwise the first empty slot does; without one there is only a warning. -/
def fillOutput (out : OutputItem) : List ItemStack → List ItemStack
  | [] => []
  | slot :: rest =>
    if slot.itemId = 0 then ⟨out.itemId, out.count, out.metadata⟩ :: rest
    else slot :: fillOutput out rest

def addOutput (slots : List ItemStack) (out : OutputItem) : List ItemStack :=
  (stackOutput out slots).getD (fillOutput out slots)

def Recipe.craft (recipe : Recipe) (container : List ItemStack) : List ItemStack :=
  recipe.outputs.foldl addOutput (recipe.consumeInputs container)

namespace RecipeManager

def createContainer (items : List ItemStack) : Container :=
  let slots := Vector.ofFn fun i : Fin 9 => items.getD i PersistSlot.empty
  ⟨slots, 0, UInt16.ofNat (slots.toList.countP fun slot => slot.itemId != 0)⟩

def craft (manager : RecipeManager) (recipeId : String) (container : Container) :
    Option Container :=
  match manager.recipes.lookup recipeId with
  | none => none
  | some recipe =>
    let containerItems := container.items.toList
    if !recipe.matchesContainer containerItems then none
    else some (createContainer (recipe.craft containerItems))

end RecipeManager

section Output

variable {item : ItemKey} {out : OutputItem} {slots : List ItemStack}

def OutputItem.amount (item : ItemKey) (out : OutputItem) : Nat :=
  if out.itemId = item.itemId ∧ out.metadata = item.metadata then out.count.toNat else 0

def produced (item : ItemKey) (outputs : List OutputItem) : Nat :=
  (outputs.map (OutputItem.amount item)).sum

/-- The first stack of the kind that the room, taken modulo 256, admits the
output to. -/
def hostStack (out : OutputItem) (slots : List ItemStack) : Option ItemStack :=
  slots.find? fun slot => slot.itemId == out.itemId && slot.metadata == out.metadata &&
    decide (out.count ≤ 64 - slot.count)

def OutputFits (out : OutputItem) (slots : List ItemStack) : Prop :=
  out.itemId = 0 ∨ out.count = 0 ∨
    match hostStack out slots with
    | some slot => slot.count.toNat + out.count.toNat < 256
    | none => ∃ slot ∈ slots, slot.itemId = 0

theorem amountOf_output (item : ItemKey) (out : OutputItem) (count : UInt8) :
    amountOf item ⟨out.itemId, count, out.metadata⟩ =
      if out.itemId = item.itemId ∧ out.metadata = item.metadata then count.toNat else 0 := rfl

theorem stackOutput_none (host : hostStack out slots = none) : stackOutput out slots = none := by
  induction slots with
  | nil => rfl
  | cons slot rest ih =>
    simp only [hostStack, find?_cons] at host
    split at host
    · simp at host
    · next other =>
      rw [stackOutput, if_neg (by simpa [and_assoc] using other), ih host, Option.map_none]

variable {slot : ItemStack}

theorem stackOutput_some (host : hostStack out slots = some slot) :
    ∃ stacked, stackOutput out slots = some stacked ∧ slot.itemId = out.itemId ∧
      slot.metadata = out.metadata ∧
      ∀ item, totalOf item stacked + amountOf item slot =
        totalOf item slots + amountOf item { slot with count := slot.count + out.count } := by
  induction slots with
  | nil => simp [hostStack] at host
  | cons first rest ih =>
    simp only [hostStack, find?_cons] at host
    split at host
    · next hosts =>
      cases host
      simp only [Bool.and_eq_true, beq_iff_eq, decide_eq_true_eq] at hosts
      obtain ⟨⟨sameItem, sameMeta⟩, room⟩ := hosts
      refine ⟨_, by rw [stackOutput, if_pos ⟨sameItem, sameMeta, room⟩], sameItem, sameMeta, ?_⟩
      intro item
      simp only [totalOf_cons]
      omega
    · next other =>
      obtain ⟨stacked, stackedEq, sameItem, sameMeta, totals⟩ := ih host
      refine ⟨first :: stacked, ?_, sameItem, sameMeta, fun item => ?_⟩
      · rw [stackOutput, if_neg (by simpa [and_assoc] using other), stackedEq, Option.map_some]
      · have total := totals item
        simp only [totalOf_cons]
        omega

theorem fillOutput_total (item : ItemKey) (vacant : ∃ slot ∈ slots, slot.itemId = 0) :
    totalOf item (fillOutput out slots) = totalOf item slots + out.amount item := by
  induction slots with
  | nil => simp at vacant
  | cons slot rest ih =>
    rw [fillOutput]
    split
    · next empty =>
      have nothing : amountOf item slot = 0 :=
        amountOf_of_isEmpty item (by simp [PersistSlot.isEmpty, empty])
      rw [totalOf_cons, totalOf_cons, nothing, amountOf_output, OutputItem.amount]
      omega
    · next live =>
      have later : ∃ slot ∈ rest, slot.itemId = 0 := by
        simpa [live] using vacant
      rw [totalOf_cons, totalOf_cons, ih later, Nat.add_assoc]

theorem fillOutput_full (full : ¬ ∃ slot ∈ slots, slot.itemId = 0) :
    fillOutput out slots = slots := by
  induction slots with
  | nil => rfl
  | cons slot rest ih =>
    push Not at full
    rw [forall_mem_cons] at full
    rw [fillOutput, if_neg full.1, ih (by simpa using full.2)]

theorem addOutput_host (host : hostStack out slots = some slot) (item : ItemKey) :
    totalOf item (addOutput slots out) +
        (if out.itemId = item.itemId ∧ out.metadata = item.metadata then slot.count.toNat else 0) =
      totalOf item slots + (if out.itemId = item.itemId ∧ out.metadata = item.metadata then
          (slot.count.toNat + out.count.toNat) % 256 else 0) := by
  obtain ⟨stacked, stackedEq, sameItem, sameMeta, totals⟩ := stackOutput_some host
  have total := totals item
  simp only [amountOf, sameItem, sameMeta, UInt8.toNat_add] at total
  rwa [addOutput, stackedEq, Option.getD_some]

theorem addOutput_le (item : ItemKey) (out : OutputItem) (slots : List ItemStack) :
    totalOf item (addOutput slots out) ≤ totalOf item slots + out.amount item := by
  cases host : hostStack out slots with
  | none =>
    rw [addOutput, stackOutput_none host, Option.getD_none]
    by_cases vacant : ∃ slot ∈ slots, slot.itemId = 0
    · exact Nat.le_of_eq (fillOutput_total item vacant)
    · rw [fillOutput_full vacant]
      exact Nat.le_add_right _ _
  | some slot =>
    have total := addOutput_host host item
    unfold OutputItem.amount
    by_cases held : out.itemId = item.itemId ∧ out.metadata = item.metadata
    · simp only [if_pos held] at total ⊢
      omega
    · simp only [if_neg held] at total ⊢
      omega

theorem addOutput_of_fits (fits : OutputFits out slots) (item : ItemKey) :
    totalOf item (addOutput slots out) = totalOf item slots + out.amount item := by
  cases host : hostStack out slots with
  | none =>
    rw [addOutput, stackOutput_none host, Option.getD_none]
    by_cases vacant : ∃ slot ∈ slots, slot.itemId = 0
    · exact fillOutput_total item vacant
    rw [fillOutput_full vacant, OutputItem.amount]
    rcases fits with nothing | none | fits
    · have other : ¬ (out.itemId = item.itemId ∧ out.metadata = item.metadata) :=
        fun same => item.real (same.1.symm.trans nothing)
      rw [if_neg other, Nat.add_zero]
    · rw [none]
      split <;> rfl
    · rw [host] at fits
      exact absurd fits vacant
  | some slot =>
    have total := addOutput_host host item
    have width := slot.count.toNat_lt
    unfold OutputItem.amount
    rcases fits with nothing | none | fits
    · have other : ¬ (out.itemId = item.itemId ∧ out.metadata = item.metadata) :=
        fun same => item.real (same.1.symm.trans nothing)
      simp only [if_neg other] at total ⊢
      exact total
    · rw [none] at total ⊢
      rw [UInt8.toNat_zero, Nat.add_zero, Nat.mod_eq_of_lt width] at total
      rw [UInt8.toNat_zero, ite_self]
      omega
    · rw [host] at fits
      rw [Nat.mod_eq_of_lt fits] at total
      by_cases held : out.itemId = item.itemId ∧ out.metadata = item.metadata
      · simp only [if_pos held] at total ⊢
        omega
      · simp only [if_neg held] at total ⊢
        omega

theorem addOutput_of_not_fits (misfit : ¬ OutputFits out slots) :
    ∃ item, totalOf item (addOutput slots out) < totalOf item slots + out.amount item := by
  simp only [OutputFits, not_or] at misfit
  obtain ⟨real, some, misfit⟩ := misfit
  refine ⟨⟨out.itemId, out.metadata, real⟩, ?_⟩
  have positive : 0 < out.count.toNat := by
    rw [Nat.pos_iff_ne_zero, ne_eq, ← UInt8.toNat_zero, UInt8.toNat_inj]
    exact some
  have amount : out.amount ⟨out.itemId, out.metadata, real⟩ = out.count.toNat :=
    if_pos ⟨rfl, rfl⟩
  rw [amount]
  cases host : hostStack out slots with
  | none =>
    rw [host] at misfit
    rw [addOutput, stackOutput_none host, Option.getD_none, fillOutput_full misfit]
    exact Nat.lt_add_of_pos_right positive
  | some slot =>
    rw [host] at misfit
    have total := addOutput_host host ⟨out.itemId, out.metadata, real⟩
    simp only [and_self, if_true] at total
    omega

end Output

structure Adds (add : List ItemStack → OutputItem → List ItemStack)
    (fits : OutputItem → List ItemStack → Prop) : Prop where
  le : ∀ item out slots, totalOf item (add slots out) ≤ totalOf item slots + out.amount item
  full : ∀ {out slots}, fits out slots → ∀ item,
    totalOf item (add slots out) = totalOf item slots + out.amount item
  short : ∀ {out slots}, ¬ fits out slots → ∃ item,
    totalOf item (add slots out) < totalOf item slots + out.amount item

def FitAll (add : List ItemStack → OutputItem → List ItemStack)
    (fits : OutputItem → List ItemStack → Prop) : List OutputItem → List ItemStack → Prop
  | [], _ => True
  | out :: rest, slots => fits out slots ∧ FitAll add fits rest (add slots out)

theorem produced_cons (item : ItemKey) (out : OutputItem) (rest : List OutputItem) :
    produced item (out :: rest) = out.amount item + produced item rest := by
  simp [produced]

namespace Adds

variable {add : List ItemStack → OutputItem → List ItemStack}
  {fits : OutputItem → List ItemStack → Prop} {outputs : List OutputItem} {slots : List ItemStack}

theorem foldl_le (adds : Adds add fits) (item : ItemKey) :
    totalOf item (outputs.foldl add slots) ≤ totalOf item slots + produced item outputs := by
  induction outputs generalizing slots with
  | nil => exact Nat.le_refl _
  | cons out rest ih =>
    have here := adds.le item out slots
    have later := @ih (add slots out)
    rw [foldl_cons, produced_cons]
    omega

theorem total_iff (adds : Adds add fits) : (∀ item, totalOf item (outputs.foldl add slots) =
      totalOf item slots + produced item outputs) ↔ FitAll add fits outputs slots := by
  induction outputs generalizing slots with
  | nil => simp [FitAll, produced]
  | cons out rest ih =>
    rw [FitAll, ← ih]
    simp only [foldl_cons, produced_cons]
    constructor
    · intro totals
      have fitting : fits out slots := by
        by_contra misfit
        obtain ⟨item, lost⟩ := adds.short misfit
        have total := totals item
        have later := @foldl_le _ _ rest (add slots out) adds item
        omega
      refine ⟨fitting, fun item => ?_⟩
      have total := totals item
      have here := adds.full fitting item
      omega
    · rintro ⟨fitting, totals⟩ item
      have total := totals item
      have here := adds.full fitting item
      omega

end Adds

section Outputs

variable {outputs : List OutputItem} {slots : List ItemStack}

theorem adds_addOutput : Adds addOutput OutputFits :=
  ⟨addOutput_le, addOutput_of_fits, addOutput_of_not_fits⟩

def OutputsFit : List OutputItem → List ItemStack → Prop
  | [], _ => True
  | out :: rest, slots => OutputFits out slots ∧ OutputsFit rest (addOutput slots out)

theorem fitAll_addOutput :
    FitAll addOutput OutputFits outputs slots ↔ OutputsFit outputs slots := by
  induction outputs generalizing slots with
  | nil => exact Iff.rfl
  | cons out rest ih => exact and_congr_right fun _ => ih

theorem addOutputs_total_iff : (∀ item, totalOf item (outputs.foldl addOutput slots) =
      totalOf item slots + produced item outputs) ↔ OutputsFit outputs slots :=
  adds_addOutput.total_iff.trans fitAll_addOutput

theorem length_addOutput (slots : List ItemStack) (out : OutputItem) :
    (addOutput slots out).length = slots.length := by
  have filled : (fillOutput out slots).length = slots.length := by
    induction slots with
    | nil => rfl
    | cons slot rest ih =>
      rw [fillOutput]
      split <;> simp [ih]
  have stacked : ∀ result, stackOutput out slots = some result → result.length = slots.length := by
    clear filled
    induction slots with
    | nil => simp [stackOutput]
    | cons slot rest ih =>
      intro result resultEq
      rw [stackOutput] at resultEq
      split at resultEq
      · cases resultEq
        rfl
      · obtain ⟨tail, tailEq, rfl⟩ := Option.map_eq_some_iff.mp resultEq
        rw [length_cons, length_cons, ih tail tailEq]
  unfold addOutput
  cases result : stackOutput out slots with
  | none => exact filled
  | some tail => exact stacked tail result

theorem Recipe.length_craft (recipe : Recipe) (container : List ItemStack) :
    (recipe.craft container).length = container.length := by
  rw [Recipe.craft, ← recipe.length_consumeInputs container]
  generalize recipe.consumeInputs container = slots
  induction recipe.outputs generalizing slots with
  | nil => rfl
  | cons out rest ih => rw [foldl_cons, ih, length_addOutput]

end Outputs

namespace RecipeManager

variable {manager : RecipeManager} {recipeId : String} {container : Container}

theorem createContainer_items {items : List ItemStack} (nine : items.length = 9) :
    (createContainer items).items.toList = items := by
  apply ext_getElem
  · rw [Vector.length_toList, nine]
  · intro i within inside
    simp [createContainer, inside]

/-- A container that comes back holds what consumption left and every output
in full. -/
def AllOrNothing (manager : RecipeManager) (recipeId : String) (container : Container) : Prop :=
  ∀ result, manager.craft recipeId container = some result →
    ∃ recipe, manager.recipes.lookup recipeId = some recipe ∧
      ∀ item, totalOf item result.items.toList =
        totalOf item (recipe.consumeInputs container.items.toList) + produced item recipe.outputs

theorem allOrNothing_iff (manager : RecipeManager) (recipeId : String) (container : Container) :
    manager.AllOrNothing recipeId container ↔
      ∀ recipe, manager.recipes.lookup recipeId = some recipe →
        recipe.matchesContainer container.items.toList = true →
          OutputsFit recipe.outputs (recipe.consumeInputs container.items.toList) := by
  unfold AllOrNothing craft
  cases known : manager.recipes.lookup recipeId with
  | none => simp
  | some recipe =>
    cases accepts : recipe.matchesContainer container.items.toList with
    | false => simp [accepts]
    | true =>
      have nine : (recipe.craft container.items.toList).length = 9 := by
        rw [Recipe.length_craft, Vector.length_toList]
      simp only [accepts, Bool.not_true, Bool.false_eq_true, if_false, Option.some.injEq,
        forall_eq', exists_eq_left', createContainer_items nine, true_imp_iff]
      exact addOutputs_total_iff

/-- A kept stack of item 5 yields 200 of item 6. -/
def catalyst : Recipe where
  id := "catalyst"
  inputs := [⟨5, 1, 0, false, 0, 0⟩]
  outputs := [⟨6, 200, 0⟩]
  minTier := 0
  maxTier := 10
  energyType := ENERGY_TYPE_ANY
  hasPattern := false
  pattern := Vector.replicate 9 PersistSlot.empty

def catalystManager : RecipeManager where
  classByBlockId := ∅
  recipesByClass := ∅
  recipes := AList.insert "catalyst" catalyst ∅
  tierByBlockId := ∅
  energyInByBlockId := ∅
  listed := by simp

def nineStacks (first : ItemStack) : Container :=
  ⟨Vector.ofFn fun i : Fin 9 => if i.val = 0 then first else ⟨5, 1, 0⟩, 0, 9⟩

theorem catalyst_misplaced (first : ItemStack) {result : Container}
    (crafted : catalystManager.craft "catalyst" (nineStacks first) = some result)
    (wrong : totalOf ⟨6, 0, by decide⟩ result.items.toList ≠
      totalOf ⟨6, 0, by decide⟩ (catalyst.consumeInputs (nineStacks first).items.toList) + 200) :
    ¬ catalystManager.AllOrNothing "catalyst" (nineStacks first) := by
  intro all
  obtain ⟨recipe, known, totals⟩ := all result crafted
  have stored : catalystManager.recipes.lookup "catalyst" = some catalyst := AList.lookup_insert _
  cases stored.symm.trans known
  exact wrong (totals _)

theorem catalyst_loses :
    catalystManager.craft "catalyst" (nineStacks ⟨5, 1, 0⟩) = some (nineStacks ⟨5, 1, 0⟩) ∧
      ¬ catalystManager.AllOrNothing "catalyst" (nineStacks ⟨5, 1, 0⟩) ∧
      catalystManager.craft "catalyst" (nineStacks ⟨6, 100, 0⟩) = some (nineStacks ⟨6, 44, 0⟩) ∧
      ¬ catalystManager.AllOrNothing "catalyst" (nineStacks ⟨6, 100, 0⟩) := by
  have lost : catalystManager.craft "catalyst" (nineStacks ⟨5, 1, 0⟩) =
      some (nineStacks ⟨5, 1, 0⟩) := by decide +kernel
  have wrapped : catalystManager.craft "catalyst" (nineStacks ⟨6, 100, 0⟩) =
      some (nineStacks ⟨6, 44, 0⟩) := by decide +kernel
  exact ⟨lost, catalyst_misplaced _ lost (by decide +kernel), wrapped,
    catalyst_misplaced _ wrapped (by decide +kernel)⟩

end RecipeManager

end GtnhPlatform.Crafting
