import GtnhPlatform.Crafting.Recipe
import Mathlib.Data.List.Forall2

namespace GtnhPlatform.Crafting

open Inventory List InputItem

def InputItem.ofKind (item : ItemKey) (req : InputItem) : Bool :=
  decide (req.itemId = item.itemId ∧ req.metadata = item.metadata)

def InputItem.replaces (req : InputItem) : Bool := !req.consume && decide (0 < req.replaceItem)

def InputItem.replacedBy (item : ItemKey) (req : InputItem) : Bool :=
  decide (req.replaceItem = item.itemId ∧ req.replaceMeta = item.metadata)

def demanded (item : ItemKey) (inputs : List InputItem) : Nat :=
  ((inputs.filter fun req => req.ofKind item).map fun req => req.count.toNat).sum

def consumedBy (item : ItemKey) (inputs : List InputItem) : Nat :=
  ((inputs.filter fun req => req.consume && req.ofKind item).map fun req => req.count.toNat).sum

def Recipe.consumedOnce (recipe : Recipe) (item : ItemKey) : Nat :=
  if recipe.hasPattern then totalOf item recipe.pattern.toList
  else consumedBy item recipe.inputs

def firstCount (req : InputItem) (slots : List ItemStack) : Nat :=
  ((slots.find? fun slot => slot.itemId == req.itemId && slot.metadata == req.metadata).map
    fun slot => slot.count.toNat).getD 0

/-- How many items the selected replacements turn into something else. -/
def replacedCount (choose : InputItem → Bool) : List InputItem → List ItemStack → Nat
  | [], _ => 0
  | req :: rest, slots =>
    (if req.replaces && choose req then firstCount req slots else 0) +
      replacedCount choose rest (consumeInput slots req)

namespace Recipe

def replacedFrom (recipe : Recipe) (item : ItemKey) (container : List ItemStack) : Nat :=
  if recipe.hasPattern then 0
  else replacedCount (fun req => req.ofKind item) recipe.inputs container

def replacedInto (recipe : Recipe) (item : ItemKey) (container : List ItemStack) : Nat :=
  if recipe.hasPattern then 0
  else replacedCount (fun req => req.replacedBy item) recipe.inputs container

/-- No replacement of the recipe takes the kind away or brings it in. -/
def Untouched (recipe : Recipe) (item : ItemKey) : Prop := recipe.hasPattern = true ∨
    ∀ req ∈ recipe.inputs, req.replaces = true →
      req.ofKind item = false ∧ req.replacedBy item = false

def ConsumesAndReplaces (recipe : Recipe) (item : ItemKey) : Prop := recipe.hasPattern = false ∧
    (∃ req ∈ recipe.inputs, req.consume = true ∧ req.ofKind item = true) ∧
    ∃ req ∈ recipe.inputs, req.replaces = true ∧ req.ofKind item = true

end Recipe

section Demand

variable {item : ItemKey}

def unclaimed (item : ItemKey) : List ItemStack → List Bool → Nat
  | slot :: slots, used :: flags =>
    (if used then 0 else amountOf item slot) + unclaimed item slots flags
  | _, _ => 0

theorem unclaimed_fresh (item : ItemKey) (slots : List ItemStack) :
    unclaimed item slots (replicate slots.length false) = totalOf item slots := by
  induction slots with
  | nil => rfl
  | cons slot rest ih =>
    simp only [length_cons, replicate_succ, unclaimed, ih, totalOf_cons]
    rfl

variable {slots : List ItemStack}

theorem claimSlot_unclaimed (item : ItemKey) {req : InputItem}
    (claim : claimSlot req slots used = some claimed) :
    (if req.ofKind item then req.count.toNat else 0) + unclaimed item slots claimed ≤
      unclaimed item slots used := by
  induction slots generalizing used claimed with
  | nil => simp [claimSlot] at claim
  | cons slot rest ih =>
    cases used with
    | nil => simp [claimSlot] at claim
    | cons flag flags =>
      unfold claimSlot at claim
      split at claim
      · next serves =>
        cases claim
        simp only [Bool.and_eq_true, Bool.not_eq_true', slotServes, beq_iff_eq,
          decide_eq_true_eq, UInt8.le_iff_toNat_le] at serves
        obtain ⟨rfl, ⟨sameItem, enough⟩, sameMeta⟩ := serves
        simp only [unclaimed, amountOf, ofKind, sameItem, sameMeta,
          decide_eq_true_eq, Bool.false_eq_true, if_true, if_false]
        split <;> omega
      · obtain ⟨tail, tailClaim, rfl⟩ := Option.map_eq_some_iff.mp claim
        have bound := ih tailClaim
        simp only [unclaimed]
        omega

theorem demanded_cons (item : ItemKey) (req : InputItem) (rest : List InputItem) :
    demanded item (req :: rest) =
      (if req.ofKind item then req.count.toNat else 0) + demanded item rest := by
  unfold demanded
  rw [filter_cons]
  split <;> simp

theorem demanded_le_unclaimed (item : ItemKey) (claims : claimAll slots inputs used = true) :
    demanded item inputs ≤ unclaimed item slots used := by
  induction inputs generalizing used with
  | nil => exact Nat.zero_le _
  | cons req rest ih =>
    unfold claimAll at claims
    rw [demanded_cons]
    split at claims
    · next intended =>
      have other : req.ofKind item = false := by
        simp only [ofKind, intended, decide_eq_false_iff_not]
        exact fun same => item.real same.1.symm
      rw [other]
      simpa using ih claims
    · cases claim : claimSlot req slots used with
      | none => simp [claim] at claims
      | some claimed =>
        simp only [claim] at claims
        have tail := ih claims
        have step := claimSlot_unclaimed item claim
        omega

theorem consumedBy_le_demanded (inputs : List InputItem) :
    consumedBy item inputs ≤ demanded item inputs := by
  induction inputs with
  | nil => exact Nat.le_refl _
  | cons req rest ih =>
    unfold consumedBy demanded at *
    simp only [filter_cons]
    cases req.consume <;> cases req.ofKind item <;> simp <;> omega

theorem Recipe.consumedBy_le_totalOf {recipe : Recipe} (aggregate : recipe.hasPattern = false)
    (accepts : recipe.matchesContainer container = true) :
    consumedBy item recipe.inputs ≤ totalOf item container := by
  simp only [Recipe.matchesContainer, aggregate, Bool.false_eq_true, if_false,
    Recipe.matchesInputs, Bool.and_eq_true] at accepts
  have claims := demanded_le_unclaimed item accepts.2
  rw [unclaimed_fresh] at claims
  exact Nat.le_trans (consumedBy_le_demanded _) claims

end Demand

section Pattern

variable {item : ItemKey}

theorem consumeCell_amount (item : ItemKey) (served : cellMatches cell slot = true) :
    amountOf item (consumeCell cell slot) + amountOf item cell = amountOf item slot := by
  unfold cellMatches at served
  unfold consumeCell
  split
  · next intended =>
    have nothing : amountOf item cell = 0 :=
      amountOf_of_isEmpty item (by simp [PersistSlot.isEmpty, intended])
    rw [nothing, Nat.add_zero]
  · next live =>
    simp only [live, if_false, Bool.and_eq_true, beq_iff_eq, decide_eq_true_eq,
      UInt8.le_iff_toNat_le] at served
    obtain ⟨⟨sameItem, sameMeta⟩, enough⟩ := served
    rw [less_amount item (Nat.min_le_left _ _), amountOf, amountOf, ← sameItem, ← sameMeta]
    split <;> omega

theorem consumePattern_total (item : ItemKey) {cells slots : List ItemStack}
    (long : cells.length ≤ slots.length)
    (served : (cells.zip slots).all fun pair => cellMatches pair.1 pair.2) :
    totalOf item (consumePattern cells slots) + totalOf item cells = totalOf item slots := by
  induction cells generalizing slots with
  | nil => simp [consumePattern]
  | cons cell cells ih =>
    cases slots with
    | nil => simp at long
    | cons slot slots =>
      simp only [zip_cons_cons, all_cons, Bool.and_eq_true] at served
      have here := consumeCell_amount item served.1
      have tail := ih (Nat.le_of_succ_le_succ long) served.2
      simp only [consumePattern, totalOf_cons]
      omega

theorem consumePattern_shrinks (item : ItemKey) (cells slots : List ItemStack) :
    List.Forall₂ (Shrinks item) slots (consumePattern cells slots) := by
  fun_induction consumePattern cells slots with
  | case1 cell cells slot slots ih =>
    refine List.Forall₂.cons ?_ ih
    unfold consumeCell
    split
    · exact Shrinks.refl slot
    · exact less_shrinks item (Nat.min_le_left _ _)
  | case2 cells slots => exact forall₂_same.mpr fun slot _ => Shrinks.refl slot

end Pattern

section Aggregate

variable {item : ItemKey} {req : InputItem}

theorem replaceFirst_total (item : ItemKey) (slots : List ItemStack) :
    totalOf item (replaceFirst req slots) + (if req.ofKind item then firstCount req slots else 0) =
      totalOf item slots + (if req.replacedBy item then firstCount req slots else 0) := by
  induction slots with
  | nil => simp [replaceFirst, firstCount]
  | cons slot rest ih =>
    unfold replaceFirst
    split
    · next held =>
      have first : firstCount req (slot :: rest) = slot.count.toNat := by
        simp [firstCount, held.1, held.2]
      rw [first, totalOf_cons, totalOf_cons]
      simp only [amountOf, ofKind, replacedBy, held.1, held.2, decide_eq_true_eq]
      split <;> split <;> omega
    · next other =>
      have skip : firstCount req (slot :: rest) = firstCount req rest := by
        have missed : (slot.itemId == req.itemId && slot.metadata == req.metadata) = false := by
          simpa using other
        simp only [firstCount, find?_cons, missed]
      rw [skip, totalOf_cons, totalOf_cons]
      omega

theorem replaceFirst_shrinks (old : req.ofKind item = false) (new : req.replacedBy item = false)
    (slots : List ItemStack) : List.Forall₂ (Shrinks item) slots (replaceFirst req slots) := by
  induction slots with
  | nil => exact List.Forall₂.nil
  | cons slot rest ih =>
    unfold replaceFirst
    split
    · next held =>
      simp only [ofKind, replacedBy, decide_eq_false_iff_not] at old new
      refine List.Forall₂.cons ?_ (forall₂_same.mpr fun slot _ => Shrinks.refl slot)
      refine ⟨Nat.le_refl _, fun same => absurd same new, fun same => ?_⟩
      rw [held.1, held.2] at same
      exact absurd same old
    · exact List.Forall₂.cons (Shrinks.refl slot) ih

theorem consumedBy_cons (item : ItemKey) (req : InputItem) (rest : List InputItem) :
    consumedBy item (req :: rest) =
      (if req.consume && req.ofKind item then req.count.toNat else 0) + consumedBy item rest := by
  unfold consumedBy
  rw [filter_cons]
  split <;> simp

theorem consumeInput_total (item : ItemKey) (req : InputItem) (slots : List ItemStack)
    (enough : (if req.consume && req.ofKind item then req.count.toNat else 0) ≤
      totalOf item slots) : totalOf item (consumeInput slots req) +
        (if req.consume && req.ofKind item then req.count.toNat else 0) +
        (if req.replaces && req.ofKind item then firstCount req slots else 0) = totalOf item slots +
        (if req.replaces && req.replacedBy item then firstCount req slots else 0) := by
  unfold consumeInput
  cases consumed : req.consume with
  | true =>
    simp only [consumed, Bool.true_and, replaces, Bool.not_true, Bool.false_and,
      Bool.false_eq_true, if_false, Nat.add_zero] at enough ⊢
    cases kind : req.ofKind item with
    | true =>
      simp only [kind, if_true] at enough ⊢
      obtain ⟨sameItem, sameMeta⟩ := of_decide_eq_true kind
      rw [sameItem, sameMeta, totalOf_withdraw_self]
      omega
    | false =>
      simp only [Bool.false_eq_true, if_false, Nat.add_zero]
      exact totalOf_withdraw_of_ne item (of_decide_eq_false kind) _ _
  | false =>
    simp only [Bool.false_and, Bool.false_eq_true, if_false, Bool.not_false, if_true,
      Nat.add_zero, replaces, consumed, Bool.true_and, Bool.and_eq_true,
      decide_eq_true_eq]
    split
    · next replacing =>
      simp only [replacing, true_and]
      exact replaceFirst_total item slots
    · next keeping => simp [keeping]

theorem consumeInput_shrinks
    (untouched : req.replaces = true → req.ofKind item = false ∧ req.replacedBy item = false)
    (slots : List ItemStack) : List.Forall₂ (Shrinks item) slots (consumeInput slots req) := by
  unfold consumeInput
  split
  · next kept =>
    split
    · next replacing =>
      have names := untouched (by simp [replaces, kept, replacing])
      exact replaceFirst_shrinks names.1 names.2 slots
    · exact forall₂_same.mpr fun slot _ => Shrinks.refl slot
  · exact withdraw_shrinks item _ _ _ _

theorem consumeInputs_total (item : ItemKey) {inputs : List InputItem}
    (enough : consumedBy item inputs ≤ totalOf item slots)
    (apart : consumedBy item inputs = 0 ∨
      ∀ req ∈ inputs, req.replaces = true → req.ofKind item = false) :
    totalOf item (inputs.foldl consumeInput slots) + consumedBy item inputs +
        replacedCount (fun req => req.ofKind item) inputs slots =
      totalOf item slots + replacedCount (fun req => req.replacedBy item) inputs slots := by
  induction inputs generalizing slots with
  | nil => simp [consumedBy, replacedCount]
  | cons req rest ih =>
    rw [consumedBy_cons] at enough apart ⊢
    have step := consumeInput_total item req slots (by omega)
    have restApart : consumedBy item rest = 0 ∨
        ∀ req ∈ rest, req.replaces = true → req.ofKind item = false := by
      rcases apart with none | apart
      · exact Or.inl (by omega)
      · exact Or.inr fun other mem => apart other (mem_cons_of_mem req mem)
    have restEnough : consumedBy item rest ≤ totalOf item (consumeInput slots req) := by
      rcases apart with none | apart
      · omega
      have keeps : (req.replaces && req.ofKind item) = false := by
        cases replacing : req.replaces with
        | true => simpa using apart req mem_cons_self replacing
        | false => rfl
      rw [keeps] at step
      simp only [Bool.false_eq_true, if_false] at step
      omega
    have tail := ih restEnough restApart
    simp only [foldl_cons, replacedCount]
    omega

end Aggregate

namespace Recipe

variable {recipe : Recipe} {container : List ItemStack} {item : ItemKey}

theorem consumeInputs_total (accepts : recipe.matchesContainer container = true)
    (apart : ¬ recipe.ConsumesAndReplaces item) :
    totalOf item (recipe.consumeInputs container) + recipe.consumedOnce item +
        recipe.replacedFrom item container =
      totalOf item container + recipe.replacedInto item container := by
  unfold consumeInputs consumedOnce replacedFrom replacedInto
  cases aggregate : recipe.hasPattern with
  | true =>
    simp only [matchesContainer, aggregate, if_true, matchesPattern, Bool.and_eq_true,
      decide_eq_true_eq] at accepts
    simp only [if_true, Nat.add_zero]
    exact consumePattern_total item (by simpa using accepts.1) accepts.2
  | false =>
    simp only [Bool.false_eq_true, if_false]
    apply Crafting.consumeInputs_total item (consumedBy_le_totalOf aggregate accepts)
    by_cases consumed : ∃ req ∈ recipe.inputs, req.consume = true ∧ req.ofKind item = true
    · refine Or.inr fun req mem replacing => ?_
      cases kind : req.ofKind item with
      | true => exact absurd ⟨aggregate, consumed, req, mem, replacing, kind⟩ apart
      | false => rfl
    · refine Or.inl ?_
      unfold consumedBy
      have none : (recipe.inputs.filter fun req => req.consume && req.ofKind item) = [] := by
        rw [filter_eq_nil_iff]
        intro req mem both
        exact consumed ⟨req, mem, by simpa using both⟩
      rw [none]
      rfl

theorem consumeInputs_shrinks (untouched : recipe.Untouched item) :
    List.Forall₂ (Shrinks item) container (recipe.consumeInputs container) := by
  unfold consumeInputs
  cases aggregate : recipe.hasPattern with
  | true => exact consumePattern_shrinks item _ _
  | false =>
    simp only [Bool.false_eq_true, if_false]
    simp only [Untouched, aggregate, Bool.false_eq_true, false_or] at untouched
    generalize recipe.inputs = inputs at untouched
    induction inputs generalizing container with
    | nil => exact forall₂_same.mpr fun slot _ => Shrinks.refl slot
    | cons req rest ih =>
      have here := consumeInput_shrinks (untouched req mem_cons_self) container
      exact forall₂_shrinks_trans here (ih fun other mem =>
        untouched other (mem_cons_of_mem req mem))

end Recipe

end GtnhPlatform.Crafting
