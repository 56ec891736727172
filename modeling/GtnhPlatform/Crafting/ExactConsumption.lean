import GtnhPlatform.Crafting.Shapeless

namespace GtnhPlatform.Crafting

open Inventory List PersistSlot

def takenBy (item : ItemKey) (req : InputItem) : Nat :=
  if (req.consume || req.replaces) && req.ofKind item then req.count.toNat else 0

def madeBy (item : ItemKey) (req : InputItem) : Nat :=
  if req.replaces && req.replacedBy item then req.count.toNat else 0

def NoNewHusks (before after : List ItemStack) : Prop :=
  List.Forall₂ (fun old new => new.count = 0 → new.itemId ≠ 0 → new = old) before after

structure ExactStep (req : InputItem) (slots : List ItemStack) : Prop where
  totals : ∀ item, totalOf item (consumeInput slots req) + takenBy item req =
    totalOf item slots + madeBy item req
  husks : NoNewHusks slots (consumeInput slots req)

/-- Every input, when its turn comes, takes what it requires. -/
def ExactSteps : List InputItem → List ItemStack → Prop
  | [], _ => True
  | req :: rest, slots => ExactStep req slots ∧ ExactSteps rest (consumeInput slots req)

def firstStack (req : InputItem) (slots : List ItemStack) : Option ItemStack :=
  slots.find? fun slot => slot.itemId == req.itemId && slot.metadata == req.metadata

def InputItem.keepsKind (req : InputItem) : Bool :=
  req.replaceItem == req.itemId && req.replaceMeta == req.metadata

def FindsExactly (req : InputItem) (slots : List ItemStack) : Prop :=
  req.replaces = true → req.keepsKind = false →
    match firstStack req slots with
    | none => req.count = 0
    | some slot => slot.count = req.count ∧ req.count ≠ 0

def FindsAllExactly : List InputItem → List ItemStack → Prop
  | [], _ => True
  | req :: rest, slots => FindsExactly req slots ∧ FindsAllExactly rest (consumeInput slots req)

section Husks

theorem noNewHusks_refl (slots : List ItemStack) : NoNewHusks slots slots :=
  forall₂_same.mpr fun _ _ _ _ => rfl

theorem NoNewHusks.trans (former : NoNewHusks first second) (latter : NoNewHusks second third) :
    NoNewHusks first third := by
  unfold NoNewHusks at *
  induction former generalizing third with
  | nil => exact latter
  | cons head _ ih =>
    cases latter with
    | cons nextHead nextTail =>
      refine .cons (fun spent kind => ?_) (ih nextTail)
      obtain rfl := nextHead spent kind
      exact head spent kind

theorem less_husk {slot : ItemStack} {take : Nat} (spent : (slot.less take).count = 0) :
    (slot.less take).itemId = 0 := by
  simp only [less] at *
  split at spent
  · next gone => simp [gone]
  · next some => exact absurd spent some

theorem noNewHusks_withdraw (itemId metadata : UInt16) (remaining : Nat) (slots : List ItemStack) :
    NoNewHusks slots (withdraw itemId metadata remaining slots) := by
  induction slots generalizing remaining with
  | nil => exact .nil
  | cons slot rest ih =>
    unfold withdraw
    split
    · exact noNewHusks_refl _
    · split
      · exact .cons (fun spent kind => absurd (less_husk spent) kind) (ih _)
      · exact .cons (fun _ _ => rfl) (ih _)

theorem noNewHusks_consumePattern (cells slots : List ItemStack) :
    NoNewHusks slots (consumePattern cells slots) := by
  fun_induction consumePattern cells slots with
  | case1 cell cells slot slots ih =>
    refine .cons (fun spent kind => ?_) ih
    unfold consumeCell at *
    split at spent
    · next intended => simp [intended]
    · next live =>
      rw [if_neg live] at kind
      exact absurd (less_husk spent) kind
  | case2 cells slots => exact noNewHusks_refl slots

end Husks

section Step

variable {req : InputItem} {slots : List ItemStack}

theorem firstStack_none (missing : firstStack req slots = none) :
    replaceFirst req slots = slots := by
  induction slots with
  | nil => rfl
  | cons slot rest ih =>
    simp only [firstStack, find?_cons] at missing
    split at missing
    · simp at missing
    · next other =>
      rw [replaceFirst, if_neg (by simpa using other), ih missing]

theorem replaceFirst_keepsKind (keeps : req.keepsKind = true) (slots : List ItemStack) :
    replaceFirst req slots = slots := by
  simp only [InputItem.keepsKind, Bool.and_eq_true, beq_iff_eq] at keeps
  induction slots with
  | nil => rfl
  | cons slot rest ih =>
    rw [replaceFirst]
    split
    · next held => rw [keeps.1, keeps.2, ← held.1, ← held.2]
    · rw [ih]

variable {found : ItemStack}

theorem replaceFirst_husks (first : firstStack req slots = some found) (some : found.count ≠ 0) :
    NoNewHusks slots (replaceFirst req slots) := by
  induction slots with
  | nil => exact .nil
  | cons slot rest ih =>
    rw [replaceFirst]
    simp only [firstStack, find?_cons] at first
    split at first
    · next held =>
      cases first
      rw [if_pos (by simpa using held)]
      exact .cons (fun spent _ => absurd spent some) (noNewHusks_refl rest)
    · next other =>
      rw [if_neg (by simpa using other)]
      exact .cons (fun _ _ => rfl) (ih first)

theorem count_of_replaceFirst_husks (first : firstStack req slots = some found)
    (replacing : req.replaceItem ≠ 0) (changes : req.keepsKind = false)
    (husks : NoNewHusks slots (replaceFirst req slots)) : found.count ≠ 0 := by
  induction slots with
  | nil => simp [firstStack] at first
  | cons slot rest ih =>
    rw [replaceFirst] at husks
    simp only [firstStack, find?_cons] at first
    split at first
    · next held =>
      cases first
      simp only [Bool.and_eq_true, beq_iff_eq] at held
      rw [if_pos held] at husks
      cases husks with
      | cons head _ =>
        intro spent
        have same := head spent replacing
        have keeps : req.keepsKind = true := by
          have sameItem := congrArg itemId same
          have sameMeta := congrArg metadata same
          simp only [InputItem.keepsKind, Bool.and_eq_true, beq_iff_eq]
          exact ⟨sameItem.trans held.1, sameMeta.trans held.2⟩
        exact absurd keeps (by simp [changes])
    · next other =>
      rw [if_neg (by simpa using other)] at husks
      cases husks with
      | cons _ tail => exact ih first tail

theorem firstCount_eq : firstCount req slots =
    ((firstStack req slots).map fun slot => slot.count.toNat).getD 0 := rfl

variable (replaces : req.replaces = true)

include replaces

theorem takenBy_eq (item : ItemKey) :
    takenBy item req = if req.ofKind item then req.count.toNat else 0 := by
  simp [takenBy, replaces]

theorem madeBy_eq (item : ItemKey) :
    madeBy item req = if req.replacedBy item then req.count.toNat else 0 := by
  simp [madeBy, replaces]

theorem replaceFirst_totals_iff (changes : req.keepsKind = false) (slots : List ItemStack) :
    (∀ item, totalOf item (replaceFirst req slots) + takenBy item req =
      totalOf item slots + madeBy item req) ↔ firstCount req slots = req.count.toNat := by
  constructor
  · intro totals
    have real : req.replaceItem ≠ 0 := by
      rintro none
      simp [InputItem.replaces, none] at replaces
    have moved := @replaceFirst_total req ⟨req.replaceItem, req.replaceMeta, real⟩ slots
    have exact := totals ⟨req.replaceItem, req.replaceMeta, real⟩
    have other : req.ofKind ⟨req.replaceItem, req.replaceMeta, real⟩ = false := by
      simp only [InputItem.keepsKind, Bool.and_eq_false_iff, beq_eq_false_iff_ne] at changes
      simp only [InputItem.ofKind, decide_eq_false_iff_not]
      rintro ⟨sameItem, sameMeta⟩
      exact changes.elim (fun differs => differs sameItem.symm) (fun differs => differs sameMeta.symm)
    rw [takenBy_eq replaces, madeBy_eq replaces] at exact
    simp only [other, InputItem.replacedBy, and_self, decide_true, Bool.false_eq_true, if_false,
      if_true] at moved exact
    omega
  · intro exact item
    have moved := @replaceFirst_total req item slots
    rwa [exact, ← takenBy_eq replaces, ← madeBy_eq replaces] at moved

theorem exactStep_replace_iff (changes : req.keepsKind = false) :
    ExactStep req slots ↔ FindsExactly req slots := by
  have parts := replaces
  simp only [InputItem.replaces, Bool.and_eq_true, Bool.not_eq_true', decide_eq_true_eq] at parts
  have step : consumeInput slots req = replaceFirst req slots := by
    simp [consumeInput, parts.1, parts.2]
  have real : req.replaceItem ≠ 0 := by
    rintro none
    simp [none] at parts
  have totals := replaceFirst_totals_iff replaces changes slots
  simp only [FindsExactly, replaces, changes, forall_const]
  cases first : firstStack req slots with
  | none =>
    have count : firstCount req slots = 0 := by
      rw [firstCount_eq, first, Option.map_none, Option.getD_none]
    have unchanged := firstStack_none first
    constructor
    · rintro ⟨exact, _⟩
      rw [step] at exact
      have same := totals.mp exact
      rw [count] at same
      exact UInt8.toNat_inj.mp same.symm
    · intro nothing
      refine ⟨?_, ?_⟩
      · rw [step]
        apply totals.mpr
        rw [count, nothing]
        rfl
      · rw [step, unchanged]
        exact noNewHusks_refl slots
  | some found =>
    have count : firstCount req slots = found.count.toNat := by
      rw [firstCount_eq, first, Option.map_some, Option.getD_some]
    constructor
    · rintro ⟨exact, husks⟩
      rw [step] at exact husks
      have same := totals.mp exact
      rw [count] at same
      obtain same := UInt8.toNat_inj.mp same
      exact ⟨same, same ▸ count_of_replaceFirst_husks first real changes husks⟩
    · rintro ⟨same, some⟩
      refine ⟨?_, ?_⟩
      · rw [step]
        apply totals.mpr
        rw [count, same]
      · rw [step]
        exact replaceFirst_husks first (same ▸ some)

omit replaces

theorem exactStep_of_enough (enough : ∀ item, takenBy item req ≤ totalOf item slots)
    (finds : FindsExactly req slots) : ExactStep req slots := by
  by_cases replaces : req.replaces = true
  · cases changes : req.keepsKind with
    | false => exact (exactStep_replace_iff replaces changes).mpr finds
    | true =>
      have parts := replaces
      simp only [InputItem.replaces, Bool.and_eq_true, Bool.not_eq_true', decide_eq_true_eq]
        at parts
      have step : consumeInput slots req = slots := by
        simp [consumeInput, parts.1, parts.2, replaceFirst_keepsKind changes]
      refine ⟨fun item => ?_, ?_⟩
      · simp only [InputItem.keepsKind, Bool.and_eq_true, beq_iff_eq] at changes
        rw [step, takenBy_eq replaces, madeBy_eq replaces, InputItem.ofKind,
          InputItem.replacedBy, changes.1, changes.2]
      · rw [step]
        exact noNewHusks_refl slots
  · rw [Bool.not_eq_true] at replaces
    refine ⟨fun item => ?_, ?_⟩
    · have step := consumeInput_total item req slots (by
        simpa [takenBy, replaces] using enough item)
      simpa [takenBy, madeBy, replaces] using step
    unfold consumeInput
    cases consumes : req.consume with
    | true => exact noNewHusks_withdraw _ _ _ _
    | false =>
      have none : ¬ 0 < req.replaceItem := by
        simpa [InputItem.replaces, consumes] using replaces
      simp only [Bool.not_false, if_true, none, if_false]
      exact noNewHusks_refl slots

end Step

section Steps

variable {item : ItemKey} {inputs : List InputItem} {slots : List ItemStack}

theorem takenBy_le (item : ItemKey) (req : InputItem) (rest : List InputItem) :
    takenBy item req + demanded item rest ≤ demanded item (req :: rest) := by
  rw [demanded_cons, takenBy]
  cases kind : req.ofKind item <;> simp
  split <;> omega

theorem exactSteps_iff (enough : ∀ item, demanded item inputs ≤ totalOf item slots) :
    ExactSteps inputs slots ↔ FindsAllExactly inputs slots := by
  induction inputs generalizing slots with
  | nil => exact Iff.rfl
  | cons req rest ih =>
    have taken : ∀ item, takenBy item req ≤ totalOf item slots := by
      intro item
      have bound := enough item
      have split := takenBy_le item req rest
      omega
    have step : ExactStep req slots ↔ FindsExactly req slots := by
      refine ⟨fun exact replaces changes => ?_, exactStep_of_enough taken⟩
      exact (exactStep_replace_iff replaces changes).mp exact replaces changes
    rw [ExactSteps, FindsAllExactly, step]
    refine and_congr_right fun finds => ih fun item => ?_
    have totals := (step.mpr finds).totals item
    have bound := enough item
    have split := takenBy_le item req rest
    omega

theorem totals_of_exactSteps (exact : ExactSteps inputs slots) (item : ItemKey) :
    totalOf item (inputs.foldl consumeInput slots) + (inputs.map (takenBy item)).sum =
      totalOf item slots + (inputs.map (madeBy item)).sum := by
  induction inputs generalizing slots with
  | nil => simp
  | cons req rest ih =>
    have here := exact.1.totals item
    have later := ih exact.2
    simp only [foldl_cons, map_cons, sum_cons]
    omega

theorem husks_of_exactSteps (exact : ExactSteps inputs slots) :
    NoNewHusks slots (inputs.foldl consumeInput slots) := by
  induction inputs generalizing slots with
  | nil => exact noNewHusks_refl slots
  | cons req rest ih => exact exact.1.husks.trans (ih exact.2)

end Steps

namespace Recipe

variable {recipe : Recipe} {container : List ItemStack}

def taken (recipe : Recipe) (item : ItemKey) : Nat :=
  if recipe.hasPattern then totalOf item recipe.pattern.toList
  else (recipe.inputs.map (takenBy item)).sum

def made (recipe : Recipe) (item : ItemKey) : Nat :=
  if recipe.hasPattern then 0 else (recipe.inputs.map (madeBy item)).sum

structure ConsumesExactly (recipe : Recipe) (container : List ItemStack) : Prop where
  totals : ∀ item, totalOf item (recipe.consumeInputs container) + recipe.taken item =
    totalOf item container + recipe.made item
  steps : recipe.hasPattern = false → ExactSteps recipe.inputs container
  husks : NoNewHusks container (recipe.consumeInputs container)

def FindsExactStacks (recipe : Recipe) (container : List ItemStack) : Prop :=
  recipe.hasPattern = false → FindsAllExactly recipe.inputs container

def KeepsKinds (recipe : Recipe) : Prop :=
  recipe.hasPattern = false → ∀ req ∈ recipe.inputs, req.replaces = true → req.keepsKind = true

theorem demanded_le_totalOf (shapeless : recipe.hasPattern = false)
    (accepts : recipe.matchesContainer container = true) (item : ItemKey) :
    demanded item recipe.inputs ≤ totalOf item container := by
  simp only [matchesContainer, shapeless, Bool.false_eq_true, if_false, matchesInputs,
    Bool.and_eq_true] at accepts
  rw [← unclaimed_fresh]
  exact demanded_le_unclaimed item accepts.2

theorem consumesExactly_iff_finds (accepts : recipe.matchesContainer container = true) :
    recipe.ConsumesExactly container ↔ recipe.FindsExactStacks container := by
  cases shapeless : recipe.hasPattern with
  | true =>
    refine iff_of_true ⟨fun item => ?_, ?_, ?_⟩ ?_
    · have pattern := accepts
      simp only [matchesContainer, shapeless, if_true, matchesPattern, Bool.and_eq_true,
        decide_eq_true_eq] at pattern
      simp only [consumeInputs, taken, made, shapeless, if_true, Nat.add_zero]
      exact consumePattern_total item (by simpa using pattern.1) pattern.2
    · simp [shapeless]
    · simp only [consumeInputs, shapeless, if_true]
      exact noNewHusks_consumePattern _ _
    · simp [FindsExactStacks, shapeless]
  | false =>
    have steps := exactSteps_iff (demanded_le_totalOf shapeless accepts)
    simp only [FindsExactStacks, shapeless, forall_const, ← steps]
    constructor
    · exact fun exact => exact.steps shapeless
    intro exact
    refine ⟨fun item => ?_, fun _ => exact, ?_⟩
    · simp only [consumeInputs, taken, made, shapeless, Bool.false_eq_true, if_false]
      exact totals_of_exactSteps exact item
    · simp only [consumeInputs, shapeless, Bool.false_eq_true, if_false]
      exact husks_of_exactSteps exact

theorem findsExactStacks_of_keepsKinds (keeps : recipe.KeepsKinds) (container : List ItemStack) :
    recipe.FindsExactStacks container := by
  intro shapeless
  have keeps := keeps shapeless
  generalize recipe.inputs = inputs at *
  induction inputs generalizing container with
  | nil => exact trivial
  | cons req rest ih =>
    rw [forall_mem_cons] at keeps
    refine ⟨fun replaces changes => ?_, ih _ keeps.2⟩
    rw [keeps.1 replaces] at changes
    exact absurd changes (by decide)

end Recipe

section Misplaced

variable {req : InputItem} {slots : List ItemStack}

def ownSlot (req : InputItem) : ItemStack :=
  ⟨req.itemId, if req.count = 0 then 1 else req.count, req.metadata⟩

theorem slotServes_ownSlot (req : InputItem) : slotServes req (ownSlot req) = true := by
  simp only [slotServes, ownSlot, beq_self_eq_true, Bool.true_and, Bool.and_true,
    decide_eq_true_eq, UInt8.le_iff_toNat_le]
  split
  · next nothing => simp [nothing]
  · exact Nat.le_refl _

theorem claimSlot_within (serves : slotServes req slot = true) (before after : List ItemStack)
    (used free : List Bool) (long : used.length = before.length) :
    ∃ claimed, claimed.length = before.length + 1 ∧
      claimSlot req (before ++ slot :: after) (used ++ false :: free) = some (claimed ++ free) := by
  induction before generalizing used with
  | nil =>
    obtain rfl := length_eq_zero_iff.mp long
    exact ⟨[true], rfl, by simp [claimSlot, serves]⟩
  | cons first rest ih =>
    cases used with
    | nil => simp at long
    | cons flag flags =>
      obtain ⟨claimed, claimedLong, claim⟩ := ih flags (Nat.succ.inj long)
      simp only [cons_append, claimSlot]
      split
      · refine ⟨true :: (flags ++ [false]), ?_, by simp⟩
        simpa using Nat.succ.inj long
      · exact ⟨flag :: claimed, by simp [claimedLong], by simp [claim]⟩

theorem claimAll_ownSlots {inputs : List InputItem} (before : List ItemStack) (used : List Bool)
    (long : used.length = before.length) : claimAll (before ++ inputs.map ownSlot) inputs
      (used ++ replicate (inputs.map ownSlot).length false) = true := by
  induction inputs generalizing before used with
  | nil => rfl
  | cons req rest ih =>
    rw [claimAll, map_cons, length_cons, replicate_succ]
    split
    · next intended =>
      have later := ih (before ++ [ownSlot req]) (used ++ [false]) (by simp [long])
      simpa using later
    obtain ⟨claimed, claimedLong, claim⟩ := claimSlot_within (slotServes_ownSlot req) before
      (rest.map ownSlot) used (replicate (rest.map ownSlot).length false) long
    rw [claim]
    have later := ih (before ++ [ownSlot req]) claimed (by simp [claimedLong])
    simpa using later

variable {recipe : Recipe}

theorem Recipe.matchesContainer_ownSlots (shapeless : recipe.hasPattern = false)
    (front : List ItemStack) :
    recipe.matchesContainer (front ++ (wanted recipe.inputs).map ownSlot) = true := by
  simp only [matchesContainer, shapeless, Bool.false_eq_true, if_false, matchesInputs,
    Bool.and_eq_true, decide_eq_true_eq, countP_wanted]
  refine ⟨?_, ?_⟩
  · rw [countP_append, countP_map]
    apply Nat.le_trans _ (Nat.le_add_left _ _)
    apply Nat.le_of_eq
    symm
    apply countP_eq_length.mpr
    intro req mem
    have real := (mem_filter.mp mem).2
    simp only [Function.comp_apply, ownSlot, real, Bool.true_and]
    split
    · decide
    · next some => exact decide_eq_true (UInt8.pos_iff_ne_zero.mpr some)
  · rw [← claimAll_wanted, length_append, replicate_add]
    exact claimAll_ownSlots front _ (by simp)

def consumedLike (req : InputItem) (inputs : List InputItem) : Nat :=
  ((inputs.filter fun other => other.consume && other.itemId == req.itemId &&
    other.metadata == req.metadata).map fun other => other.count.toNat).sum

def single (req : InputItem) : ItemStack := ⟨req.itemId, 1, req.metadata⟩

theorem withdraw_zero (itemId metadata : UInt16) (slots : List ItemStack) :
    withdraw itemId metadata 0 slots = slots := by
  cases slots with
  | nil => rfl
  | cons slot rest => rw [withdraw, if_pos rfl]

theorem withdraw_empties (itemId metadata : UInt16) (remaining : Nat)
    (empty : ∀ slot ∈ front, slot = empty) (slots : List ItemStack) :
    withdraw itemId metadata remaining (front ++ slots) =
      front ++ withdraw itemId metadata remaining slots := by
  induction front with
  | nil => rfl
  | cons slot rest ih =>
    rw [forall_mem_cons] at empty
    obtain ⟨rfl, empty⟩ := empty
    have nothing : PersistSlot.empty.less (min PersistSlot.empty.count.toNat remaining) =
        PersistSlot.empty := by
      simp [PersistSlot.empty, PersistSlot.less]
    rw [cons_append, withdraw]
    split
    · next done => rw [done, withdraw_zero, cons_append]
    split
    · simp only [nothing]
      rw [show min PersistSlot.empty.count.toNat remaining = 0 from Nat.zero_min remaining,
        Nat.sub_zero, ih empty, cons_append]
    · rw [ih empty, cons_append]

theorem withdraw_other {itemId metadata : UInt16} (remaining : Nat) {front : List ItemStack}
    (other : ∀ slot ∈ front, ¬ (slot.itemId = itemId ∧ slot.metadata = metadata))
    (slots : List ItemStack) :
    withdraw itemId metadata remaining (front ++ slots) =
      front ++ withdraw itemId metadata remaining slots := by
  induction front with
  | nil => rfl
  | cons slot rest ih =>
    rw [forall_mem_cons] at other
    rw [cons_append, withdraw, if_neg other.1]
    split
    · next done => rw [done, withdraw_zero, cons_append]
    · rw [ih other.2, cons_append]

theorem withdraw_singles {take available : Nat} (enough : take ≤ available)
    (slots : List ItemStack) :
    withdraw req.itemId req.metadata take (replicate available (single req) ++ slots) =
      replicate take empty ++
        (replicate (available - take) (single req) ++ slots) := by
  induction take generalizing available with
  | zero => rw [withdraw_zero]; rfl
  | succ take ih =>
    obtain ⟨available, rfl⟩ := Nat.exists_eq_succ_of_ne_zero (Nat.ne_of_gt (Nat.zero_lt_of_lt enough))
    have one : min (single req).count.toNat (take + 1) = 1 := by
      simp [single]
    have spent : (single req).less 1 = empty := by
      simp [single, less, empty]
    rw [replicate_succ, cons_append, withdraw, if_neg (Nat.succ_ne_zero take), if_pos ⟨rfl, rfl⟩]
    simp only [one, spent, Nat.add_sub_cancel]
    rw [ih (Nat.le_of_succ_le_succ enough), replicate_succ, cons_append, Nat.succ_sub_succ]

theorem consumedLike_cons (req other : InputItem) (inputs : List InputItem) :
    consumedLike req (other :: inputs) =
      (if other.consume && other.itemId == req.itemId && other.metadata == req.metadata then
        other.count.toNat else 0) + consumedLike req inputs := by
  unfold consumedLike
  rw [filter_cons]
  split <;> simp

variable {stack : ItemStack}

theorem foldl_singles (kind : stack.itemId = req.itemId) (sameMeta : stack.metadata = req.metadata)
    {inputs : List InputItem}
    (keeps : ∀ other ∈ inputs, other.replaces = true → other.keepsKind = true) {available : Nat}
    (enough : consumedLike req inputs ≤ available) {front : List ItemStack}
    (empty : ∀ slot ∈ front, slot = PersistSlot.empty) (tail : List ItemStack) :
    ∃ done rest, (∀ slot ∈ done, slot = PersistSlot.empty) ∧ inputs.foldl consumeInput
          (front ++ (replicate available (single req) ++ stack :: tail)) =
        done ++ (replicate (available - consumedLike req inputs) (single req) ++
          stack :: rest) := by
  induction inputs generalizing available front tail with
  | nil => exact ⟨front, tail, empty, rfl⟩
  | cons other inputs ih =>
    rw [forall_mem_cons] at keeps
    rw [consumedLike_cons] at enough ⊢
    rw [foldl_cons]
    cases consumes : other.consume with
    | true =>
      have step : ∀ slots, consumeInput slots other =
          withdraw other.itemId other.metadata other.count.toNat slots := by
        intro slots
        simp [consumeInput, consumes]
      rw [step, withdraw_empties _ _ _ empty]
      by_cases same : other.itemId = req.itemId ∧ other.metadata = req.metadata
      · simp only [consumes, same.1, same.2, beq_self_eq_true, Bool.and_self, if_true]
          at enough ⊢
        rw [withdraw_singles (Nat.le_trans (Nat.le_add_right _ _) enough), ← append_assoc,
          ← Nat.sub_sub]
        apply ih keeps.2 (by omega)
        intro slot mem
        rcases mem_append.mp mem with mem | mem
        · exact empty slot mem
        · exact eq_of_mem_replicate mem
      · have unlike : (other.itemId == req.itemId && other.metadata == req.metadata) = false := by
          simpa using same
        simp only [consumes, Bool.true_and, unlike, Bool.false_eq_true, if_false,
          Nat.zero_add] at enough ⊢
        have passed : ∀ slot ∈ replicate available (single req) ++ [stack],
            ¬ (slot.itemId = other.itemId ∧ slot.metadata = other.metadata) := by
          intro slot mem held
          apply same
          rcases mem_append.mp mem with mem | mem
          · obtain rfl := eq_of_mem_replicate mem
            exact ⟨held.1.symm, held.2.symm⟩
          · obtain rfl := mem_singleton.mp mem
            exact ⟨held.1.symm.trans kind, held.2.symm.trans sameMeta⟩
        have step := withdraw_other other.count.toNat passed tail
        rw [append_assoc, append_assoc] at step
        rw [singleton_append, singleton_append] at step
        rw [step]
        exact ih keeps.2 enough empty _
    | false =>
      have step : ∀ slots, consumeInput slots other = slots := by
        intro slots
        by_cases replacing : 0 < other.replaceItem
        · have keep := keeps.1 (by simp [InputItem.replaces, consumes, replacing])
          simp [consumeInput, consumes, replacing, replaceFirst_keepsKind keep]
        · simp [consumeInput, consumes, replacing]
      simp only [consumes, Bool.false_and, Bool.false_eq_true, if_false, Nat.zero_add]
        at enough ⊢
      rw [step]
      exact ih keeps.2 enough empty tail

def misplaced (req : InputItem) (inputs : List InputItem) : List ItemStack :=
  replicate (consumedLike req inputs) (single req) ++
    [⟨req.itemId, if req.count = 1 then 2 else 1, req.metadata⟩]

theorem firstStack_behind (kind : stack.itemId = req.itemId)
    (sameMeta : stack.metadata = req.metadata) {done : List ItemStack}
    (empty : ∀ slot ∈ done, slot = empty) (rest : List ItemStack) :
    ∃ found, firstStack req (done ++ stack :: rest) = some found ∧
      (found.count = 0 ∨ found = stack) := by
  induction done with
  | nil => exact ⟨stack, by simp [firstStack, kind, sameMeta], .inr rfl⟩
  | cons slot done ih =>
    rw [forall_mem_cons] at empty
    rw [cons_append, firstStack, find?_cons]
    split
    · exact ⟨slot, rfl, .inl (empty.1 ▸ rfl)⟩
    · exact ih empty.2

theorem not_findsExactly_misplaced {inputs : List InputItem} (replaces : req.replaces = true)
    (changes : req.keepsKind = false)
    (keeps : ∀ other ∈ inputs, other.replaces = true → other.keepsKind = true)
    (tail : List ItemStack) :
    ¬ FindsExactly req (inputs.foldl consumeInput (misplaced req inputs ++ tail)) := by
  intro finds
  obtain ⟨done, rest, empty, after⟩ := @foldl_singles req
    ⟨req.itemId, if req.count = 1 then 2 else 1, req.metadata⟩ rfl rfl inputs keeps _
    (Nat.le_refl _) [] (by simp) tail
  rw [misplaced, append_assoc, singleton_append] at finds
  rw [nil_append, Nat.sub_self, replicate_zero, nil_append] at after
  rw [after] at finds
  have exact := finds replaces changes
  obtain ⟨found, first, husk | rfl⟩ := @firstStack_behind req
    ⟨req.itemId, if req.count = 1 then 2 else 1, req.metadata⟩ rfl rfl done empty rest
  · rw [first] at exact
    exact exact.2 (exact.1.symm.trans husk)
  rw [first] at exact
  have counted := exact.1
  simp only at counted
  split at counted
  · next one => exact absurd (counted.trans one) (by decide)
  · next other => exact other counted.symm

theorem findsAllExactly_append {inputs later : List InputItem} {req : InputItem}
    {slots : List ItemStack} (finds : FindsAllExactly (inputs ++ req :: later) slots) :
    FindsExactly req (inputs.foldl consumeInput slots) := by
  induction inputs generalizing slots with
  | nil => exact finds.1
  | cons other rest ih => exact ih finds.2

theorem Recipe.keepsKinds_of_consumesExactly
    (exact : ∀ container, recipe.matchesContainer container = true →
      recipe.ConsumesExactly container) : recipe.KeepsKinds := by
  intro shapeless
  by_contra changing
  have some : (recipe.inputs.find? fun req => req.replaces && !req.keepsKind).isSome = true := by
    simpa using changing
  obtain ⟨req, first⟩ := Option.isSome_iff_exists.mp some
  obtain ⟨changes, earlier, later, split, before⟩ := find?_eq_some_iff_append.mp first
  simp only [Bool.and_eq_true, Bool.not_eq_true'] at changes
  have keeps : ∀ other ∈ earlier, other.replaces = true → other.keepsKind = true := by
    intro other mem replaces
    simpa [replaces] using before other mem
  have accepts := matchesContainer_ownSlots shapeless (misplaced req earlier)
  have finds := (consumesExactly_iff_finds accepts).mp (exact _ accepts) shapeless
  rw [split] at finds
  exact not_findsExactly_misplaced changes.1 changes.2 keeps _ (findsAllExactly_append finds)

end Misplaced

theorem Recipe.consumesExactly_iff (recipe : Recipe) :
    (∀ container, recipe.matchesContainer container = true →
      (recipe.ConsumesExactly container ↔ recipe.FindsExactStacks container)) ∧
    ((∀ container, recipe.matchesContainer container = true →
      recipe.ConsumesExactly container) ↔ recipe.KeepsKinds) := by
  refine ⟨fun container accepts => consumesExactly_iff_finds accepts,
    keepsKinds_of_consumesExactly, fun keeps container accepts => ?_⟩
  exact (consumesExactly_iff_finds accepts).mpr (findsExactStacks_of_keepsKinds keeps container)

def bucket : Recipe where
  id := "bucket"
  inputs := [⟨7, 1, 0, false, 8, 0⟩]
  outputs := [⟨9, 1, 0⟩]
  minTier := 0
  maxTier := 10
  energyType := ENERGY_TYPE_ANY
  hasPattern := false
  pattern := Vector.replicate 9 PersistSlot.empty

theorem bucket_replaces_stack :
    bucket.matchesContainer [⟨7, 2, 0⟩] = true ∧ bucket.consumeInputs [⟨7, 2, 0⟩] = [⟨8, 2, 0⟩] ∧
      ¬ bucket.ConsumesExactly [⟨7, 2, 0⟩] ∧
      bucket.matchesContainer [⟨7, 0, 0⟩, ⟨7, 1, 0⟩] = true ∧
      bucket.consumeInputs [⟨7, 0, 0⟩, ⟨7, 1, 0⟩] = [⟨8, 0, 0⟩, ⟨7, 1, 0⟩] ∧
      ¬ bucket.ConsumesExactly [⟨7, 0, 0⟩, ⟨7, 1, 0⟩] := by
  refine ⟨by decide, by decide, fun exact => ?_, by decide, by decide, fun exact => ?_⟩
  · exact absurd (exact.totals ⟨8, 0, by decide⟩) (by decide)
  · exact absurd (exact.totals ⟨8, 0, by decide⟩) (by decide)

end GtnhPlatform.Crafting
