import GtnhPlatform.Crafting.Consumption
import GtnhPlatform.Data.Assignment

namespace GtnhPlatform.Crafting

open Inventory List

def wanted (inputs : List InputItem) : List InputItem := inputs.filter fun req => req.itemId != 0

def ServedAt (slots : List ItemStack) (req : InputItem) (position : Nat) : Prop :=
  ∃ slot, slots[position]? = some slot ∧ slotServes req slot = true

def Unused (used : List Bool) (position : Nat) : Prop := used[position]? = some false

section ClaimSlot

variable {req : InputItem} {slots : List ItemStack} {used claimed : List Bool}

theorem servedAt_zero (slot : ItemStack) :
    ServedAt (slot :: slots) req 0 ↔ slotServes req slot = true := by
  simp [ServedAt]

theorem servedAt_succ (slot : ItemStack) (position : Nat) :
    ServedAt (slot :: slots) req (position + 1) ↔ ServedAt slots req position := by
  simp [ServedAt]

theorem claimSlot_some (claim : claimSlot req slots used = some claimed) :
    ∃ position, Unused used position ∧ ServedAt slots req position ∧
      claimed = used.set position true := by
  induction slots generalizing used claimed with
  | nil => simp [claimSlot] at claim
  | cons slot rest ih =>
    cases used with
    | nil => simp [claimSlot] at claim
    | cons flag flags =>
      unfold claimSlot at claim
      split at claim
      · next serves =>
        cases claim
        simp only [Bool.and_eq_true, Bool.not_eq_true'] at serves
        obtain ⟨rfl, serves⟩ := serves
        exact ⟨0, rfl, (servedAt_zero slot).mpr serves, rfl⟩
      · obtain ⟨tail, tailClaim, rfl⟩ := Option.map_eq_some_iff.mp claim
        obtain ⟨position, vacant, served, rfl⟩ := ih tailClaim
        exact ⟨position + 1, vacant, (servedAt_succ slot position).mpr served, rfl⟩

theorem claimSlot_none (claim : claimSlot req slots used = none) (position : Nat)
    (vacant : Unused used position) : ¬ ServedAt slots req position := by
  induction slots generalizing used position with
  | nil => simp [ServedAt]
  | cons slot rest ih =>
    cases used with
    | nil => simp [Unused] at vacant
    | cons flag flags =>
      unfold claimSlot at claim
      split at claim
      · simp at claim
      rename_i misses
      have tail := Option.map_eq_none_iff.mp claim
      cases position with
      | zero =>
        rw [servedAt_zero]
        obtain rfl : flag = false := by simpa [Unused] using vacant
        simpa using misses
      | succ position =>
        rw [servedAt_succ]
        exact ih tail position vacant

theorem unused_set (position other : Nat) :
    Unused (used.set position true) other ↔ Unused used other ∧ other ≠ position := by
  unfold Unused
  rw [getElem?_set]
  by_cases same : position = other
  · simp [same]
  · simp [same, Ne.symm same]

end ClaimSlot

section ClaimAll

variable {slots : List ItemStack}

theorem claimAll_wanted (inputs : List InputItem) (used : List Bool) :
    claimAll slots (wanted inputs) used = claimAll slots inputs used := by
  induction inputs generalizing used with
  | nil => rfl
  | cons req rest ih =>
    rw [claimAll]
    by_cases intended : req.itemId = 0
    · rw [if_pos intended, ← ih, wanted, filter_cons_of_neg (by simp [intended]), wanted]
    rw [if_neg intended, wanted, filter_cons_of_pos (by simpa using intended), claimAll,
      if_neg intended]
    cases claimSlot req slots used with
    | none => rfl
    | some claimed => exact ih claimed

variable {inputs : List InputItem} {used : List Bool}

theorem assignable_of_claimAll (claims : claimAll slots inputs used = true) :
    Assignable (ServedAt slots) (Unused used) (wanted inputs) := by
  induction inputs generalizing used with
  | nil => exact .nil
  | cons req rest ih =>
    rw [claimAll] at claims
    by_cases intended : req.itemId = 0
    · rw [if_pos intended] at claims
      rw [wanted, filter_cons_of_neg (by simp [intended])]
      exact ih claims
    rw [if_neg intended] at claims
    rw [wanted, filter_cons_of_pos (by simpa using intended)]
    cases claim : claimSlot req slots used with
    | none => simp [claim] at claims
    | some claimed =>
      rw [claim] at claims
      obtain ⟨position, vacant, served, rfl⟩ := claimSlot_some claim
      have tail := ih claims
      simp only [funext fun other => propext (@unused_set used position other)] at tail
      exact .cons served vacant tail

def DescendingCounts (inputs : List InputItem) : Prop :=
  inputs.Pairwise fun earlier later =>
    earlier.itemId = later.itemId → earlier.metadata = later.metadata → later.count ≤ earlier.count

theorem yields_of_descending {earlier later : InputItem}
    (descending : earlier.itemId = later.itemId → earlier.metadata = later.metadata →
      later.count ≤ earlier.count) : Assignable.Yields (ServedAt slots) earlier later := by
  by_cases same : earlier.itemId = later.itemId ∧ earlier.metadata = later.metadata
  · left
    rintro position ⟨slot, found, serves⟩
    have fewer := descending same.1 same.2
    simp only [slotServes, Bool.and_eq_true, beq_iff_eq, decide_eq_true_eq] at serves
    refine ⟨slot, found, ?_⟩
    simp only [slotServes, Bool.and_eq_true, beq_iff_eq, decide_eq_true_eq, ← same.1, ← same.2]
    exact ⟨⟨serves.1.1, UInt8.le_trans fewer serves.1.2⟩, serves.2⟩
  · right
    rintro position ⟨slot, found, serves⟩ ⟨other, otherFound, otherServes⟩
    cases found.symm.trans otherFound
    simp only [slotServes, Bool.and_eq_true, beq_iff_eq, decide_eq_true_eq] at serves otherServes
    exact same ⟨serves.1.1.symm.trans otherServes.1.1, serves.2.symm.trans otherServes.2⟩

theorem claimAll_of_assignable (real : ∀ req ∈ inputs, req.itemId ≠ 0)
    (descending : DescendingCounts inputs)
    (assignable : Assignable (ServedAt slots) (Unused used) inputs) :
    claimAll slots inputs used = true := by
  induction inputs generalizing used with
  | nil => rfl
  | cons req rest ih =>
    rw [forall_mem_cons] at real
    obtain ⟨first, later⟩ := pairwise_cons.mp descending
    rw [claimAll, if_neg real.1]
    cases claim : claimSlot req slots used with
    | none =>
      obtain ⟨position, vacant, served⟩ := assignable.exists_place
      exact absurd served (claimSlot_none claim position vacant)
    | some claimed =>
      obtain ⟨position, vacant, served, rfl⟩ := claimSlot_some claim
      apply ih real.2 later
      simp only [funext fun other => propext (@unused_set used position other)]
      exact assignable.claim (fun other mem => yields_of_descending (first other mem)) served

end ClaimAll

namespace Recipe

variable {recipe : Recipe} {container : List ItemStack}

def HasAssignment (recipe : Recipe) (container : List ItemStack) : Prop :=
  ∃ place : Fin (wanted recipe.inputs).length → Fin container.length, Function.Injective place ∧
      ∀ i, slotServes ((wanted recipe.inputs).get i) (container.get (place i)) = true

/-- Inputs that the first fit cannot get in each other's way with. -/
structure Orderly (recipe : Recipe) : Prop where
  positive : ∀ req ∈ wanted recipe.inputs, 0 < req.count
  descending : DescendingCounts (wanted recipe.inputs)

def Complete (recipe : Recipe) : Prop :=
  ∀ container, recipe.matchesContainer container = true ↔ recipe.HasAssignment container

theorem unused_fresh (position : Nat) :
    Unused (replicate container.length false) position ↔ position < container.length := by
  simp [Unused, getElem?_replicate]

theorem hasAssignment_iff : recipe.HasAssignment container ↔
      Assignable (ServedAt container) (Unused (replicate container.length false))
        (wanted recipe.inputs) := by
  rw [Assignable.iff_injective, HasAssignment]
  constructor
  · rintro ⟨place, injective, serve⟩
    refine ⟨fun i => place i, Fin.val_injective.comp injective, fun i => ?_⟩
    exact ⟨(unused_fresh _).mpr (place i).isLt,
      ⟨container.get (place i), getElem?_eq_getElem (place i).isLt, serve i⟩⟩
  · rintro ⟨place, injective, serve⟩
    have within := fun i => (unused_fresh _).mp (serve i).1
    refine ⟨fun i => ⟨place i, within i⟩, fun i j same => injective (Fin.mk.inj_iff.mp same), ?_⟩
    intro i
    obtain ⟨slot, found, serves⟩ := (serve i).2
    rw [getElem?_eq_getElem (within i)] at found
    cases found
    exact serves

theorem countP_wanted (inputs : List InputItem) :
    inputs.countP (fun req => req.itemId != 0) = (wanted inputs).length :=
  countP_eq_length_filter

theorem wanted_le_available (positive : ∀ req ∈ wanted recipe.inputs, 0 < req.count)
    (assignment : recipe.HasAssignment container) :
    (wanted recipe.inputs).length ≤
      container.countP fun slot => slot.itemId != 0 && decide (0 < slot.count) := by
  obtain ⟨place, injective, serve⟩ := assignment
  have slots : container = (finRange container.length).map container.get := by simp
  have chosen : List.Subperm (ofFn place) ((finRange container.length).filter
      fun position => (container.get position).itemId != 0 &&
        decide (0 < (container.get position).count)) := by
    apply subperm_of_subset (nodup_ofFn.mpr injective)
    intro position mem
    obtain ⟨i, rfl⟩ := (mem_ofFn' _ _).mp mem
    have served := serve i
    have real : ((wanted recipe.inputs).get i).itemId ≠ 0 := by
      simpa using (mem_filter.mp (get_mem (wanted recipe.inputs) i)).2
    have some := positive _ (get_mem (wanted recipe.inputs) i)
    simp only [slotServes, Bool.and_eq_true, beq_iff_eq, decide_eq_true_eq] at served
    apply mem_filter.mpr
    refine ⟨mem_finRange _, ?_⟩
    simp only [Bool.and_eq_true, bne_iff_ne, decide_eq_true_eq]
    exact ⟨served.1.1 ▸ real, UInt8.lt_of_lt_of_le some served.1.2⟩
  have bound := chosen.length_le
  rw [length_ofFn, ← countP_eq_length_filter] at bound
  rw [slots, countP_map]
  exact bound

theorem complete_of_orderly (shapeless : recipe.hasPattern = false) (orderly : recipe.Orderly) :
    recipe.Complete := by
  intro container
  simp only [matchesContainer, shapeless, Bool.false_eq_true, if_false, matchesInputs,
    Bool.and_eq_true, decide_eq_true_eq]
  constructor
  · rintro ⟨_, claims⟩
    exact hasAssignment_iff.mpr (assignable_of_claimAll claims)
  intro assignment
  refine ⟨countP_wanted _ ▸ wanted_le_available orderly.positive assignment, ?_⟩
  rw [← claimAll_wanted]
  apply claimAll_of_assignable _ orderly.descending (hasAssignment_iff.mp assignment)
  intro req mem
  simpa using (mem_filter.mp mem).2

def exactSlot (req : InputItem) : ItemStack := ⟨req.itemId, req.count, req.metadata⟩

theorem slotServes_exactSlot (req : InputItem) : slotServes req (exactSlot req) = true := by
  simp [slotServes, exactSlot]

theorem assignable_of_perm {demands : List InputItem}
    (exact : (demands.map exactSlot).Perm container) :
    Assignable (ServedAt container) (Unused (replicate container.length false)) demands := by
  have listed : List.Forall₂ (fun slot position => container[position]? = some slot) container
      (range container.length) := by
    rw [forall₂_iff_get]
    simp
  obtain ⟨places, found, permuted⟩ := perm_comp_forall₂ exact listed
  rw [forall₂_map_left_iff] at found
  refine ⟨places, found.imp ?_, permuted.symm.nodup nodup_range, ?_⟩
  · intro req position slotEq
    exact ⟨exactSlot req, slotEq, slotServes_exactSlot req⟩
  · intro position mem
    exact (unused_fresh position).mpr (mem_range.mp (permuted.mem_iff.mp mem))

theorem hasAssignment_of_perm (exact : ((wanted recipe.inputs).map exactSlot).Perm container) :
    recipe.HasAssignment container :=
  hasAssignment_iff.mpr (assignable_of_perm exact)

theorem positive_of_complete (shapeless : recipe.hasPattern = false) (complete : recipe.Complete) :
    ∀ req ∈ wanted recipe.inputs, 0 < req.count := by
  have accepted := (complete _).mpr (hasAssignment_of_perm (List.Perm.refl _))
  simp only [matchesContainer, shapeless, Bool.false_eq_true, if_false, matchesInputs,
    Bool.and_eq_true, decide_eq_true_eq, countP_wanted, countP_map] at accepted
  intro req mem
  have all := countP_eq_length.mp (Nat.le_antisymm countP_le_length accepted.1) req mem
  simp only [Function.comp_apply, exactSlot, Bool.and_eq_true] at all
  exact of_decide_eq_true all.2

@[simp] theorem claimSlot_used (req : InputItem) (slot : ItemStack) (slots : List ItemStack)
    (flags : List Bool) :
    claimSlot req (slot :: slots) (true :: flags) = (claimSlot req slots flags).map (true :: ·) := by
  simp [claimSlot]

theorem claimAll_used (slot : ItemStack) (slots : List ItemStack) (inputs : List InputItem)
    (flags : List Bool) :
    claimAll (slot :: slots) inputs (true :: flags) = claimAll slots inputs flags := by
  induction inputs generalizing flags with
  | nil => rfl
  | cons req rest ih =>
    simp only [claimAll, claimSlot_used, ih]
    cases claimSlot req slots flags with
    | none => rfl
    | some claimed => simp only [Option.map_some, ih]

theorem claimAll_front {req : InputItem} (real : req.itemId ≠ 0)
    (serves : slotServes req slot = true) (slots : List ItemStack) (inputs : List InputItem) :
    claimAll (slot :: slots) (req :: inputs) (replicate (slot :: slots).length false) =
      claimAll slots inputs (replicate slots.length false) := by
  rw [claimAll, if_neg real, length_cons, replicate_succ, claimSlot, serves]
  simp only [Bool.not_false, Bool.and_self, if_true]
  exact claimAll_used _ _ _ _

theorem claimAll_exactSlots (slots : List ItemStack) {first : List InputItem}
    (real : ∀ req ∈ first, req.itemId ≠ 0) (inputs : List InputItem) :
    claimAll (first.map exactSlot ++ slots) (first ++ inputs)
        (replicate (first.map exactSlot ++ slots).length false) =
      claimAll slots inputs (replicate slots.length false) := by
  induction first with
  | nil => rfl
  | cons req rest ih =>
    rw [forall_mem_cons] at real
    rw [← ih real.2]
    exact claimAll_front real.1 (slotServes_exactSlot req) _ _

theorem totalOf_exactSlots (item : ItemKey) (inputs : List InputItem) :
    totalOf item (inputs.map exactSlot) = demanded item inputs := by
  induction inputs with
  | nil => rfl
  | cons req rest ih =>
    rw [demanded_cons, map_cons, totalOf_cons, ih]
    by_cases held : req.itemId = item.itemId ∧ req.metadata = item.metadata <;>
      simp [amountOf, exactSlot, InputItem.ofKind, held]

theorem demanded_append (item : ItemKey) (first rest : List InputItem) :
    demanded item (first ++ rest) = demanded item first + demanded item rest := by
  simp [demanded]

theorem descending_of_complete (shapeless : recipe.hasPattern = false)
    (complete : recipe.Complete) : DescendingCounts (wanted recipe.inputs) := by
  apply pairwise_of_forall_sublist
  intro earlier later among sameItem sameMeta
  have real : ∀ req ∈ wanted recipe.inputs, req.itemId ≠ 0 := by
    intro req mem
    simpa using (mem_filter.mp mem).2
  obtain ⟨before, after, split, earlierIn, laterIn⟩ := cons_sublist_iff.mp among
  obtain ⟨first, second, rfl⟩ := append_of_mem earlierIn
  obtain ⟨third, fourth, rfl⟩ := append_of_mem (singleton_sublist.mp laterIn)
  have accepted : recipe.matchesContainer (first.map exactSlot ++
      exactSlot later :: (earlier :: (second ++ (third ++ fourth))).map exactSlot) = true := by
    apply (complete _).mpr (hasAssignment_of_perm _)
    rw [split, ← map_cons, ← map_append, append_assoc]
    apply List.Perm.map
    apply List.Perm.append_left
    rw [cons_append, ← append_assoc, ← append_assoc]
    exact @perm_middle _ later (earlier :: (second ++ third)) fourth
  rw [split] at real
  simp only [matchesContainer, shapeless, Bool.false_eq_true, if_false, matchesInputs,
    Bool.and_eq_true] at accepted
  have claims := accepted.2
  rw [← claimAll_wanted, split, append_assoc, claimAll_exactSlots _
    (fun req mem => real req (by simp [mem]))] at claims
  by_contra fewer
  have more : earlier.count.toNat < later.count.toNat := by
    rwa [UInt8.le_iff_toNat_le, Nat.not_le] at fewer
  have serves : slotServes earlier (exactSlot later) = true := by
    simp only [slotServes, exactSlot, sameItem, sameMeta, beq_self_eq_true, Bool.true_and,
      Bool.and_true, decide_eq_true_eq, UInt8.le_iff_toNat_le]
    exact Nat.le_of_lt more
  rw [cons_append, claimAll_front (real earlier (by simp)) serves] at claims
  -- what is left requires `later` and has `earlier` to offer
  have bound := demanded_le_unclaimed ⟨later.itemId, later.metadata, real later (by simp)⟩ claims
  rw [unclaimed_fresh, totalOf_exactSlots] at bound
  simp only [demanded_append, demanded_cons, InputItem.ofKind, sameItem, sameMeta, and_self,
    decide_true, if_true] at bound
  omega

theorem shapeless_complete_iff (recipe : Recipe) (shapeless : recipe.hasPattern = false) :
    recipe.Complete ↔ recipe.Orderly :=
  ⟨fun complete => ⟨positive_of_complete shapeless complete,
    descending_of_complete shapeless complete⟩, complete_of_orderly shapeless⟩

def twoStacks (first second : UInt8) : Recipe where
  id := "two_stacks"
  inputs := [⟨5, first, 0, true, 0, 0⟩, ⟨5, second, 0, true, 0, 0⟩]
  outputs := [⟨6, 1, 0⟩]
  minTier := 0
  maxTier := 10
  energyType := ENERGY_TYPE_ANY
  hasPattern := false
  pattern := Vector.replicate 9 PersistSlot.empty

theorem twoStacks_complete : (twoStacks 2 1).Complete :=
  (shapeless_complete_iff (twoStacks 2 1) rfl).mpr ⟨by decide, by unfold DescendingCounts; decide⟩

theorem twoStacks_incomplete :
    (twoStacks 1 2).matchesContainer [⟨5, 2, 0⟩, ⟨5, 1, 0⟩] = false ∧
      (twoStacks 1 2).matchesContainer [⟨5, 1, 0⟩, ⟨5, 2, 0⟩] = true ∧
      ¬ (twoStacks 1 2).Complete := by
  refine ⟨by decide, by decide, fun complete => ?_⟩
  have accepted := (complete [⟨5, 2, 0⟩, ⟨5, 1, 0⟩]).mpr
    ⟨fun i => if i.val = 0 then ⟨1, by decide⟩ else ⟨0, by decide⟩,
      by unfold Function.Injective; decide, by decide⟩
  exact absurd accepted (by decide)

end Recipe

end GtnhPlatform.Crafting
