import GtnhPlatform.Crafting.ExactConsumption
import Mathlib.Algebra.Order.BigOperators.Group.List

namespace GtnhPlatform.Crafting

open Inventory List PersistSlot Recipe

/-- One turn of the written-out loop: a real input is withdrawn, whatever else
the recipe says of it. -/
def drawInput (slots : List ItemStack) (req : InputItem) : List ItemStack :=
  if req.itemId = 0 then slots else withdraw req.itemId req.metadata req.count.toNat slots

def Recipe.drawInputs (recipe : Recipe) (slots : List ItemStack) : List ItemStack :=
  recipe.inputs.foldl drawInput slots

/-- An input that `consumeInput` just withdraws, or that asks for nothing. -/
def InputItem.DrawnAlike (req : InputItem) : Prop :=
  if req.itemId = 0 then if req.consume then req.count = 0 else req.replaceItem = 0
  else req.consume = true ∨ req.count = 0 ∧ (req.replaceItem = 0 ∨ req.keepsKind = true)

/-- The inputs of a pattern recipe ask for what the cells hold. The loop takes it
from the first stacks of a kind, so of two cells of one kind the first one must
leave nothing over. -/
structure Recipe.DrawsByCell (recipe : Recipe) : Prop where
  totals : ∀ item, demanded item recipe.inputs = totalOf item recipe.pattern.toList
  counted : ∀ cell ∈ recipe.pattern.toList, cell.itemId ≠ 0 → cell.count ≠ 0
  full : recipe.pattern.toList.Pairwise fun cell later =>
    cell.itemId ≠ 0 → later.itemId = cell.itemId → later.metadata = cell.metadata → cell.count = 255

def Recipe.DrawnAlike (recipe : Recipe) : Prop :=
  if recipe.hasPattern then recipe.DrawsByCell else ∀ req ∈ recipe.inputs, req.DrawnAlike

def Recipe.KeepsItems (recipe : Recipe) : Prop := recipe.hasPattern = false ∧
    ∃ req ∈ recipe.inputs, req.itemId ≠ 0 ∧ req.consume = false ∧ req.count ≠ 0

section Less

variable {slot : ItemStack} {take : Nat}

theorem less_of_lt (some : take < slot.count.toNat) :
    slot.less take = { slot with count := (slot.less take).count } := by
  have left := less_count (Nat.le_of_lt some)
  have more : (slot.less take).count ≠ 0 := by
    intro none
    rw [none] at left
    simp only [UInt8.toNat_zero] at left
    omega
  simp only [less] at more ⊢
  split at more
  · next none => exact absurd none more
  · next other => rw [if_neg other]

theorem less_all (slot : ItemStack) : slot.less slot.count.toNat = empty := by
  simp [less, empty]

theorem count_injective {first second : ItemStack} (sameItem : first.itemId = second.itemId)
    (sameMeta : first.metadata = second.metadata)
    (sameCount : first.count.toNat = second.count.toNat) : first = second := by
  cases first
  cases second
  simp only at sameItem sameMeta sameCount
  rw [sameItem, sameMeta, UInt8.toNat_inj.mp sameCount]

theorem less_less (enough : take + more ≤ slot.count.toNat) :
    (slot.less take).less more = slot.less (take + more) := by
  have left := @less_count slot take (by omega)
  by_cases all : take + more = slot.count.toNat
  · have rest : more = (slot.less take).count.toNat := by omega
    rw [all, less_all, rest, less_all]
  have first := @less_of_lt slot take (by omega)
  have second := @less_of_lt (slot.less take) more (by omega)
  have both := @less_of_lt slot (take + more) (by omega)
  refine count_injective ?_ ?_ ?_
  · rw [second, both, first]
  · rw [second, both, first]
  · rw [less_count (by omega), left, less_count enough]
    omega

end Less

def dueFrom (due : ItemKey → Nat) (slot : ItemStack) : Nat :=
  if real : slot.itemId ≠ 0 then due ⟨slot.itemId, slot.metadata, real⟩ else 0

def drawStack (due : ItemKey → Nat) (slot : ItemStack) : ItemStack :=
  if dueFrom due slot = 0 then slot else slot.less (min slot.count.toNat (dueFrom due slot))

def draw (due : ItemKey → Nat) : List ItemStack → List ItemStack
  | [] => []
  | slot :: rest => drawStack due slot :: draw (fun item => due item - amountOf item slot) rest

section Draw

variable {due : ItemKey → Nat} {slot : ItemStack} {slots : List ItemStack}

theorem dueFrom_kind {item : ItemKey} (sameItem : slot.itemId = item.itemId)
    (sameMeta : slot.metadata = item.metadata) (due : ItemKey → Nat) :
    dueFrom due slot = due item := by
  obtain ⟨itemId, metadata, real⟩ := item
  subst sameItem sameMeta
  exact dif_pos real

theorem dueFrom_real (real : slot.itemId ≠ 0) (due : ItemKey → Nat) :
    dueFrom due slot = due ⟨slot.itemId, slot.metadata, real⟩ :=
  dif_pos real

theorem dueFrom_empty (empty : slot.itemId = 0) (due : ItemKey → Nat) : dueFrom due slot = 0 :=
  dif_neg (not_not_intro empty)

theorem draw_nothing (slots : List ItemStack) : draw (fun _ => 0) slots = slots := by
  induction slots with
  | nil => rfl
  | cons slot rest ih =>
    have none : dueFrom (fun _ => 0) slot = 0 := by
      unfold dueFrom
      split <;> rfl
    simp only [draw, drawStack, none, if_true, Nat.zero_sub, ih]

theorem draw_append (due : ItemKey → Nat) (first second : List ItemStack) :
    draw due (first ++ second) =
      draw due first ++ draw (fun item => due item - totalOf item first) second := by
  induction first generalizing due with
  | nil => rfl
  | cons slot rest ih =>
    simp only [cons_append, draw, ih, totalOf_cons, Nat.sub_sub]

theorem drawStack_less {item : ItemKey} (sameItem : slot.itemId = item.itemId)
    (sameMeta : slot.metadata = item.metadata) (remaining : Nat)
    (part : due item < slot.count.toNat ∨ due item = 0) :
    (drawStack due slot).itemId = item.itemId ∧ (drawStack due slot).metadata = item.metadata ∧
      (drawStack due slot).count.toNat = slot.count.toNat - due item ∧
      (drawStack due slot).less (min (drawStack due slot).count.toNat remaining) =
        slot.less (min slot.count.toNat (due item + remaining)) := by
  unfold drawStack
  rw [dueFrom_kind sameItem sameMeta]
  split
  · next none =>
    rw [none, Nat.zero_add]
    exact ⟨sameItem, sameMeta, rfl, rfl⟩
  rename_i owed
  have part : due item < slot.count.toNat := part.resolve_right owed
  rw [Nat.min_eq_right (Nat.le_of_lt part)]
  have kind := less_of_lt part
  have left := @less_count slot (due item) (Nat.le_of_lt part)
  refine ⟨?_, ?_, left, ?_⟩
  · rw [kind]
    exact sameItem
  · rw [kind]
    exact sameMeta
  · rw [left, less_less (by omega)]
    congr 1
    omega

theorem drawStack_all {item : ItemKey} (sameItem : slot.itemId = item.itemId)
    (sameMeta : slot.metadata = item.metadata) (whole : slot.count.toNat ≤ due item)
    (owed : due item ≠ 0) : drawStack due slot = empty := by
  rw [drawStack, dueFrom_kind sameItem sameMeta, if_neg owed, Nat.min_eq_left whole, less_all]

theorem drawStack_kind (due : ItemKey → Nat) (slot : ItemStack) : drawStack due slot = empty ∨
      (drawStack due slot).itemId = slot.itemId ∧
        (drawStack due slot).metadata = slot.metadata := by
  unfold drawStack
  split
  · exact .inr ⟨rfl, rfl⟩
  by_cases whole : slot.count.toNat ≤ dueFrom due slot
  · rw [Nat.min_eq_left whole, less_all]
    exact .inl rfl
  · have part := less_of_lt (Nat.lt_of_not_le whole)
    rw [Nat.min_eq_right (Nat.le_of_not_le whole), part]
    exact .inr ⟨rfl, rfl⟩

theorem key_ext {item other : ItemKey} (sameItem : item.itemId = other.itemId)
    (sameMeta : item.metadata = other.metadata) : item = other := by
  cases item
  cases other
  subst sameItem sameMeta
  rfl

def alsoDue (item : ItemKey) (remaining : Nat) (due : ItemKey → Nat) (other : ItemKey) : Nat :=
  due other + if item.itemId = other.itemId ∧ item.metadata = other.metadata then remaining else 0

theorem dueFrom_alsoDue_other {item : ItemKey}
    (held : ¬ (slot.itemId = item.itemId ∧ slot.metadata = item.metadata)) (remaining : Nat)
    (due : ItemKey → Nat) : dueFrom (alsoDue item remaining due) slot = dueFrom due slot := by
  unfold dueFrom
  split
  · exact congrArg (due _ + ·) (if_neg fun kind => held ⟨kind.1.symm, kind.2.symm⟩)
  · rfl

variable (item : ItemKey)

variable (remaining : Nat)

theorem alsoDue_self (due : ItemKey → Nat) :
    alsoDue item remaining due item = due item + remaining :=
  congrArg (due item + ·) (if_pos ⟨rfl, rfl⟩)

theorem alsoDue_sub {item : ItemKey} (due : ItemKey → Nat)
    (passed : due item - amountOf item slot + left = due item + remaining - amountOf item slot) :
    alsoDue item left (fun other => due other - amountOf other slot) =
      fun other => alsoDue item remaining due other - amountOf other slot := by
  funext other
  unfold alsoDue
  by_cases kind : item.itemId = other.itemId ∧ item.metadata = other.metadata
  · obtain rfl := key_ext kind.1 kind.2
    rw [if_pos kind, if_pos kind]
    exact passed
  · rw [if_neg kind, if_neg kind]
    rfl

theorem withdraw_draw (due : ItemKey → Nat) (slots : List ItemStack) :
    withdraw item.itemId item.metadata remaining (draw due slots) =
      draw (alsoDue item remaining due) slots := by
  induction slots generalizing due remaining with
  | nil => rfl
  | cons slot rest ih =>
    by_cases done : remaining = 0
    · have same : alsoDue item remaining due = due := by
        funext other
        simp only [alsoDue, done, ite_self, Nat.add_zero]
      rw [same, done, withdraw_zero]
    · rw [draw, draw, withdraw, if_neg done]
      by_cases held : slot.itemId = item.itemId ∧ slot.metadata = item.metadata
      · have amount : amountOf item slot = slot.count.toNat := if_pos held
        have target : drawStack (alsoDue item remaining due) slot =
            slot.less (min slot.count.toNat (due item + remaining)) := by
          rw [drawStack, dueFrom_kind held.1 held.2, alsoDue_self, if_neg (by omega)]
        rw [target]
        by_cases part : due item < slot.count.toNat ∨ due item = 0
        · obtain ⟨keptItem, keptMeta, left, taken⟩ := drawStack_less held.1 held.2 remaining part
          rw [if_pos ⟨keptItem, keptMeta⟩]
          simp only
          rw [taken, ih, left, alsoDue_sub remaining due (by omega)]
        · have whole : slot.count.toNat ≤ due item := by omega
          have gone := @drawStack_all due slot item held.1 held.2 whole (by omega)
          rw [gone, if_neg (fun kind => item.real kind.1.symm), ih,
            Nat.min_eq_left (by omega), less_all, alsoDue_sub remaining due (by omega)]
      · have amount : amountOf item slot = 0 := if_neg held
        have passed : ¬ ((drawStack due slot).itemId = item.itemId ∧
            (drawStack due slot).metadata = item.metadata) := by
          rintro ⟨sameItem, sameMeta⟩
          rcases drawStack_kind due slot with gone | ⟨keptItem, keptMeta⟩
          · rw [gone] at sameItem
            exact item.real sameItem.symm
          · exact held ⟨keptItem.symm.trans sameItem, keptMeta.symm.trans sameMeta⟩
        rw [if_neg passed, ih, drawStack, drawStack,
          dueFrom_alsoDue_other held, alsoDue_sub remaining due (by omega)]

theorem drawInput_draw (due : ItemKey → Nat) (slots : List ItemStack) (req : InputItem) :
    drawInput (draw due slots) req =
      draw (fun item => due item + if req.ofKind item then req.count.toNat else 0) slots := by
  unfold drawInput
  split
  · next intended =>
    congr 1
    funext item
    have other : req.ofKind item = false := by
      simp only [InputItem.ofKind, intended, decide_eq_false_iff_not]
      exact fun same => item.real same.1.symm
    rw [other]
    rfl
  · next real =>
    rw [withdraw_draw ⟨req.itemId, req.metadata, real⟩]
    congr 1
    funext item
    simp only [alsoDue, InputItem.ofKind, decide_eq_true_eq]

theorem foldl_drawInput (inputs : List InputItem) (due : ItemKey → Nat) (slots : List ItemStack) :
    inputs.foldl drawInput (draw due slots) =
      draw (fun item => due item + demanded item inputs) slots := by
  induction inputs generalizing due with
  | nil => rfl
  | cons req rest ih =>
    rw [foldl_cons, drawInput_draw, ih]
    simp only [demanded_cons, Nat.add_assoc]

theorem foldl_drawInput_eq (inputs : List InputItem) (slots : List ItemStack) :
    inputs.foldl drawInput slots = draw (fun item => demanded item inputs) slots := by
  have drawn := foldl_drawInput inputs (fun _ => 0) slots
  rw [draw_nothing] at drawn
  simpa only [Nat.zero_add] using drawn

theorem drawStack_amount (due : ItemKey → Nat) (slot : ItemStack) :
    amountOf item (drawStack due slot) = amountOf item slot - due item := by
  unfold drawStack
  split
  · next none =>
    by_cases held : slot.itemId = item.itemId ∧ slot.metadata = item.metadata
    · rw [dueFrom_kind held.1 held.2] at none
      rw [none, Nat.sub_zero]
    · rw [amountOf, if_neg held, Nat.zero_sub]
  · rw [less_amount item (Nat.min_le_left _ _), amountOf]
    split
    · next held =>
      rw [dueFrom_kind held.1 held.2]
      omega
    · exact (Nat.zero_sub _).symm

theorem totalOf_draw (due : ItemKey → Nat) (slots : List ItemStack) :
    totalOf item (draw due slots) = totalOf item slots - due item := by
  induction slots generalizing due with
  | nil => exact (Nat.zero_sub _).symm
  | cons slot rest ih =>
    rw [draw, totalOf_cons, ih, drawStack_amount, totalOf_cons]
    omega

end Draw

section Pattern

def CellsServed (cells slots : List ItemStack) : Prop := cells.length ≤ slots.length ∧
    ((cells.zip slots).all fun pair => cellMatches pair.1 pair.2) = true

def CellsMeet : (ItemKey → Nat) → List ItemStack → Prop
  | due, [] => ∀ item, due item = 0
  | due, cell :: cells =>
    (cell.itemId ≠ 0 → cell.count ≠ 0 ∧ min 255 (dueFrom due cell) = cell.count.toNat) ∧
      CellsMeet (fun item => due item - amountOf item cell) cells

variable {due : ItemKey → Nat} {cell slot : ItemStack} {cells slots : List ItemStack}

theorem cellMatches_self (cell : ItemStack) : cellMatches cell cell = true := by
  unfold cellMatches
  split
  · next empty => exact beq_iff_eq.mpr empty
  · simp

theorem cellsServed_self (cells : List ItemStack) : CellsServed cells cells := by
  refine ⟨Nat.le_refl _, ?_⟩
  induction cells with
  | nil => rfl
  | cons cell rest ih =>
    rw [zip_cons_cons, all_cons, cellMatches_self, ih]
    rfl

theorem cellsServed_cons : CellsServed (cell :: cells) (slot :: slots) ↔
      cellMatches cell slot = true ∧ CellsServed cells slots := by
  simp only [CellsServed, length_cons, Nat.add_le_add_iff_right, zip_cons_cons,
    all_cons, Bool.and_eq_true]
  constructor
  · rintro ⟨long, head, tail⟩
    exact ⟨head, long, tail⟩
  · rintro ⟨head, long, tail⟩
    exact ⟨long, head, tail⟩

theorem cellMatches_real (real : cell.itemId ≠ 0) :
    cellMatches cell slot = true ↔ slot.itemId = cell.itemId ∧ slot.metadata = cell.metadata ∧
      cell.count.toNat ≤ slot.count.toNat := by
  simp [cellMatches, real, UInt8.le_iff_toNat_le, and_assoc]

theorem drawStack_meets (real : cell.itemId ≠ 0) (counted : cell.count ≠ 0)
    (met : min 255 (dueFrom due cell) = cell.count.toNat) (served : cellMatches cell slot = true) :
    drawStack due slot = consumeCell cell slot ∧
      (fun item => due item - amountOf item slot) = fun item => due item - amountOf item cell := by
  obtain ⟨sameItem, sameMeta, enough⟩ := (cellMatches_real real).mp served
  have width := slot.count.toNat_lt
  have owed := dueFrom_real real due
  have some : cell.count.toNat ≠ 0 := fun none => counted (UInt8.toNat_inj.mp none)
  constructor
  · rw [drawStack, @dueFrom_kind slot ⟨cell.itemId, cell.metadata, real⟩ sameItem sameMeta, ← owed,
      if_neg (by omega), consumeCell, if_neg real]
    congr 1
    omega
  · funext item
    unfold amountOf
    rw [sameItem, sameMeta]
    split
    · next kind =>
      rw [dueFrom_kind kind.1 kind.2] at met
      omega
    · rfl

theorem meets_of_drawStack (real : cell.itemId ≠ 0)
    (drawn : ∀ slot, cellMatches cell slot = true → drawStack due slot = consumeCell cell slot) :
    cell.count ≠ 0 ∧ min 255 (dueFrom due cell) = cell.count.toNat := by
  have width := cell.count.toNat_lt
  have met : min 255 (dueFrom due cell) = cell.count.toNat := by
    have lost := drawn ⟨cell.itemId, 255, cell.metadata⟩ ((cellMatches_real real).mpr
      ⟨rfl, rfl, by
        rw [show (255 : UInt8).toNat = 255 from rfl]
        omega⟩)
    have left := congrArg (amountOf ⟨cell.itemId, cell.metadata, real⟩) lost
    rw [drawStack_amount, consumeCell, if_neg real, less_amount _ (Nat.min_le_left _ _), amountOf,
      if_pos ⟨rfl, rfl⟩, if_pos ⟨rfl, rfl⟩, show (255 : UInt8).toNat = 255 from rfl,
      ← dueFrom_real real due] at left
    omega
  refine ⟨fun none => ?_, met⟩
  have kept := drawn cell (cellMatches_self cell)
  have nothing : dueFrom due cell = 0 := by
    rw [none] at met
    simp only [UInt8.toNat_zero] at met
    omega
  rw [drawStack, if_pos nothing, consumeCell, if_neg real, Nat.min_self, less_all] at kept
  exact real (congrArg itemId kept)

theorem draw_eq_consumePattern_iff :
    (∀ slots, CellsServed cells slots → draw due slots = consumePattern cells slots) ↔
      CellsMeet due cells := by
  induction cells generalizing due with
  | nil =>
    constructor
    · intro drawn item
      have kept := drawn [⟨item.itemId, 1, item.metadata⟩] ⟨Nat.zero_le _, rfl⟩
      have left := congrArg (totalOf item) kept
      rw [totalOf_draw, consumePattern] at left
      · simp only [totalOf_cons, totalOf_nil, amountOf, and_self, if_true] at left
        rw [show (1 : UInt8).toNat = 1 from rfl] at left
        omega
      · rintro _ _ _ _ ⟨⟩
    · intro nothing slots _
      rw [funext nothing, draw_nothing, consumePattern]
      rintro _ _ _ _ ⟨⟩
  | cons cell cells ih =>
    constructor
    · intro drawn
      refine ⟨fun real => meets_of_drawStack real fun slot served => ?_, ?_⟩
      · have both := drawn (slot :: cells) (cellsServed_cons.mpr ⟨served, cellsServed_self cells⟩)
        exact (cons.inj both).1
      · refine ih.mp fun slots served => ?_
        have both := drawn (cell :: slots) (cellsServed_cons.mpr ⟨cellMatches_self cell, served⟩)
        exact (cons.inj both).2
    · rintro ⟨head, tail⟩ slots served
      cases slots with
      | nil => exact absurd served.1 (Nat.not_succ_le_zero _)
      | cons slot slots =>
        obtain ⟨here, rest⟩ := cellsServed_cons.mp served
        rw [draw, consumePattern, ← ih.mpr tail slots rest]
        by_cases real : cell.itemId = 0
        · have empty : slot.itemId = 0 := by simpa [cellMatches, real] using here
          have none : ∀ {stack : ItemStack}, stack.itemId = 0 → ∀ item,
              amountOf item stack = 0 := fun empty item =>
            if_neg fun kind => item.real (kind.1.symm.trans empty)
          rw [drawStack, dueFrom_empty empty, if_pos rfl, consumeCell, if_pos real]
          simp only [none empty, none real]
        · obtain ⟨counted, met⟩ := head real
          obtain ⟨same, left⟩ := drawStack_meets real counted met here
          rw [same, left]

theorem amountOf_le_totalOf (item : ItemKey) (mem : slot ∈ slots) :
    amountOf item slot ≤ totalOf item slots := by
  obtain ⟨front, back, rfl⟩ := append_of_mem mem
  rw [totalOf_append, totalOf_cons]
  omega

theorem cellsMeet_iff :
    CellsMeet due cells ↔ (∀ item, due item = totalOf item cells) ∧
      (∀ cell ∈ cells, cell.itemId ≠ 0 → cell.count ≠ 0) ∧
      cells.Pairwise fun cell later => cell.itemId ≠ 0 → later.itemId = cell.itemId →
        later.metadata = cell.metadata → cell.count = 255 := by
  induction cells generalizing due with
  | nil => simp [CellsMeet]
  | cons cell cells ih =>
    rw [CellsMeet, ih, forall_mem_cons, pairwise_cons]
    constructor
    · rintro ⟨head, totals, counted, full⟩
      have sum : ∀ item, due item = totalOf item (cell :: cells) := by
        intro item
        have tail := totals item
        rw [totalOf_cons]
        by_cases kind : cell.itemId = item.itemId ∧ cell.metadata = item.metadata
        · have met := (head (kind.1 ▸ item.real)).2
          rw [dueFrom_kind kind.1 kind.2] at met
          rw [amountOf, if_pos kind] at tail ⊢
          omega
        · rw [amountOf, if_neg kind] at tail ⊢
          omega
      refine ⟨sum, ⟨fun real => (head real).1, counted⟩, ?_, full⟩
      intro later mem real sameItem sameMeta
      have met := (head real).2
      have total := sum ⟨cell.itemId, cell.metadata, real⟩
      rw [← dueFrom_real real due, totalOf_cons, amountOf, if_pos ⟨rfl, rfl⟩] at total
      have more := @amountOf_le_totalOf later cells ⟨cell.itemId, cell.metadata, real⟩ mem
      rw [amountOf, if_pos ⟨sameItem, sameMeta⟩] at more
      have some : later.count.toNat ≠ 0 := fun none =>
        counted later mem (sameItem ▸ real) (UInt8.toNat_inj.mp none)
      apply UInt8.toNat_inj.mp
      rw [show (255 : UInt8).toNat = 255 from rfl]
      omega
    · rintro ⟨totals, ⟨counts, counted⟩, full, fullTail⟩
      refine ⟨fun real => ⟨counts real, ?_⟩, fun item => ?_, counted, fullTail⟩
      · have total := totals ⟨cell.itemId, cell.metadata, real⟩
        rw [← dueFrom_real real due, totalOf_cons, amountOf, if_pos ⟨rfl, rfl⟩] at total
        have width := cell.count.toNat_lt
        by_cases last : totalOf ⟨cell.itemId, cell.metadata, real⟩ cells = 0
        · omega
        have other : ∃ later ∈ cells,
            amountOf ⟨cell.itemId, cell.metadata, real⟩ later ≠ 0 := by
          by_contra none
          push Not at none
          exact last (sum_eq_zero (forall_mem_map.mpr none))
        obtain ⟨later, mem, held⟩ := other
        have kind : later.itemId = cell.itemId ∧ later.metadata = cell.metadata := by
          by_contra apart
          exact held (if_neg apart)
        rw [full later mem real kind.1 kind.2] at total ⊢
        rw [show (255 : UInt8).toNat = 255 from rfl] at total ⊢
        omega
      · rw [totals item, totalOf_cons]
        omega

end Pattern

instance (req : InputItem) : Decidable req.DrawnAlike := by
  unfold InputItem.DrawnAlike
  infer_instance

theorem consumeInput_plain {req : InputItem} (plain : req.DrawnAlike) (slots : List ItemStack) :
    consumeInput slots req = drawInput slots req := by
  unfold InputItem.DrawnAlike at plain
  unfold consumeInput drawInput
  split at plain
  · next empty =>
    rw [if_pos empty]
    cases consumes : req.consume with
    | true =>
      rw [consumes, if_pos rfl] at plain
      rw [plain]
      exact withdraw_zero _ _ _
    | false =>
      rw [consumes] at plain
      simp only [Bool.false_eq_true, if_false] at plain
      simp [plain]
  · next real =>
    rw [if_neg real]
    cases consumes : req.consume with
    | true => rfl
    | false =>
      rw [consumes] at plain
      obtain ⟨none, keeps⟩ := plain.resolve_left Bool.false_ne_true
      rw [none, UInt8.toNat_zero, withdraw_zero]
      rcases keeps with keeps | keeps
      · simp [keeps]
      · simp [replaceFirst_keepsKind keeps]

theorem foldl_plain {inputs : List InputItem} (plain : ∀ req ∈ inputs, req.DrawnAlike)
    (slots : List ItemStack) : inputs.foldl consumeInput slots = inputs.foldl drawInput slots := by
  induction inputs generalizing slots with
  | nil => rfl
  | cons req rest ih =>
    rw [forall_mem_cons] at plain
    rw [foldl_cons, foldl_cons, consumeInput_plain plain.1, ih plain.2]

section Real

def realCount (slot : ItemStack) : Nat := if slot.itemId = 0 then 0 else slot.count.toNat

def emptyCount (slot : ItemStack) : Nat := if slot.itemId = 0 then slot.count.toNat else 0

def realTotal (slots : List ItemStack) : Nat := (slots.map realCount).sum

/-- Counts that stand in slots of item 0. -/
def emptyTotal (slots : List ItemStack) : Nat := (slots.map emptyCount).sum

theorem realTotal_cons (slot : ItemStack) (rest : List ItemStack) :
    realTotal (slot :: rest) = realCount slot + realTotal rest := by
  simp [realTotal]

theorem emptyTotal_cons (slot : ItemStack) (rest : List ItemStack) :
    emptyTotal (slot :: rest) = emptyCount slot + emptyTotal rest := by
  simp [emptyTotal]

variable {slot : ItemStack} {take : Nat}

theorem less_counts_empty (empty : slot.itemId = 0) (enough : take ≤ slot.count.toNat) :
    realCount (slot.less take) = 0 ∧ emptyCount (slot.less take) + take = emptyCount slot := by
  by_cases all : take = slot.count.toNat
  · rw [all, less_all]
    refine ⟨rfl, ?_⟩
    simp [emptyCount, empty, PersistSlot.empty]
  have left := less_count enough
  have sameItem : (slot.less take).itemId = slot.itemId := by
    rw [@less_of_lt slot take (by omega)]
  rw [realCount, emptyCount, emptyCount, sameItem, if_pos empty, if_pos empty, if_pos empty]
  exact ⟨rfl, by omega⟩

theorem less_counts_real (real : slot.itemId ≠ 0) (enough : take ≤ slot.count.toNat) :
    realCount (slot.less take) + take = realCount slot ∧ emptyCount (slot.less take) = 0 := by
  by_cases all : take = slot.count.toNat
  · rw [all, less_all]
    refine ⟨?_, rfl⟩
    simp [realCount, real, empty]
  have left := less_count enough
  have sameItem : (slot.less take).itemId = slot.itemId := by
    rw [@less_of_lt slot take (by omega)]
  rw [realCount, emptyCount, realCount, sameItem, if_neg real, if_neg real, if_neg real]
  exact ⟨by omega, rfl⟩

theorem withdraw_counts_empty (metadata : UInt16) (remaining : Nat) (slots : List ItemStack) :
    realTotal (withdraw 0 metadata remaining slots) = realTotal slots ∧
      emptyTotal (withdraw 0 metadata remaining slots) ≤ emptyTotal slots := by
  induction slots generalizing remaining with
  | nil => exact ⟨rfl, Nat.le_refl _⟩
  | cons slot rest ih =>
    unfold withdraw
    split
    · exact ⟨rfl, Nat.le_refl _⟩
    split
    · next held =>
      have taken := less_counts_empty held.1 (Nat.min_le_left slot.count.toNat remaining)
      have tail := ih (remaining - min slot.count.toNat remaining)
      have none : realCount slot = 0 := if_pos held.1
      simp only [realTotal_cons, emptyTotal_cons]
      omega
    · have tail := ih remaining
      simp only [realTotal_cons, emptyTotal_cons]
      omega

theorem withdraw_counts_real {item : ItemKey} (remaining : Nat) (slots : List ItemStack) :
    realTotal (withdraw item.itemId item.metadata remaining slots) +
        min remaining (totalOf item slots) = realTotal slots ∧
      emptyTotal (withdraw item.itemId item.metadata remaining slots) = emptyTotal slots := by
  induction slots generalizing remaining with
  | nil => exact ⟨by simp [withdraw, realTotal], rfl⟩
  | cons slot rest ih =>
    unfold withdraw
    split
    · next done =>
      rw [done, Nat.zero_min]
      exact ⟨rfl, rfl⟩
    split
    · next held =>
      have real : slot.itemId ≠ 0 := held.1 ▸ item.real
      have taken := less_counts_real real (Nat.min_le_left slot.count.toNat remaining)
      have tail := ih (remaining - min slot.count.toNat remaining)
      have none : emptyCount slot = 0 := if_neg real
      simp only [realTotal_cons, emptyTotal_cons, totalOf_cons]
      rw [amountOf, if_pos held]
      omega
    · next other =>
      have tail := ih remaining
      simp only [realTotal_cons, emptyTotal_cons, totalOf_cons]
      rw [amountOf, if_neg other]
      omega

variable {req : InputItem}

theorem replaceFirst_counts (replacing : req.replaceItem ≠ 0) (slots : List ItemStack) :
    realTotal slots ≤ realTotal (replaceFirst req slots) ∧
      emptyTotal (replaceFirst req slots) ≤ emptyTotal slots := by
  induction slots with
  | nil => exact ⟨Nat.le_refl _, Nat.le_refl _⟩
  | cons slot rest ih =>
    unfold replaceFirst
    split
    · simp only [realTotal_cons, emptyTotal_cons, realCount, emptyCount, if_neg replacing]
      constructor
      · split <;> omega
      · omega
    · simp only [realTotal_cons, emptyTotal_cons]
      omega

def drawnCount (req : InputItem) : Nat := if req.itemId = 0 then 0 else req.count.toNat

def spentCount (req : InputItem) : Nat := if req.consume then drawnCount req else 0

theorem spentCount_le (req : InputItem) : spentCount req ≤ drawnCount req := by
  unfold spentCount
  split <;> omega

variable {slots : List ItemStack}

theorem drawInput_counts
    (enough : ∀ item, (if req.ofKind item then req.count.toNat else 0) ≤ totalOf item slots) :
    realTotal (drawInput slots req) + drawnCount req = realTotal slots ∧
      emptyTotal (drawInput slots req) = emptyTotal slots := by
  unfold drawInput drawnCount
  split
  · exact ⟨rfl, rfl⟩
  rename_i real
  have here := enough ⟨req.itemId, req.metadata, real⟩
  rw [if_pos (by simp [InputItem.ofKind])] at here
  have counts := @withdraw_counts_real ⟨req.itemId, req.metadata, real⟩ req.count.toNat slots
  simp only at counts
  omega

theorem consumeInput_counts (req : InputItem) (slots : List ItemStack) :
    realTotal slots ≤ realTotal (consumeInput slots req) + spentCount req ∧
      emptyTotal (consumeInput slots req) ≤ emptyTotal slots := by
  unfold consumeInput spentCount
  cases consumes : req.consume with
  | true =>
    simp only [Bool.not_true, Bool.false_eq_true, if_false, if_true, drawnCount]
    split
    · next empty =>
      have counts := withdraw_counts_empty req.metadata req.count.toNat slots
      rw [empty]
      omega
    · next real =>
      have counts := @withdraw_counts_real ⟨req.itemId, req.metadata, real⟩ req.count.toNat slots
      simp only at counts
      omega
  | false =>
    simp only [Bool.not_false, if_true, Bool.false_eq_true, if_false, Nat.add_zero]
    split
    · next replacing => exact replaceFirst_counts (UInt16.pos_iff_ne_zero.mp replacing) slots
    · exact ⟨Nat.le_refl _, Nat.le_refl _⟩

theorem foldl_consumeInput_counts (inputs : List InputItem) (slots : List ItemStack) :
    realTotal slots ≤ realTotal (inputs.foldl consumeInput slots) + (inputs.map spentCount).sum ∧
      emptyTotal (inputs.foldl consumeInput slots) ≤ emptyTotal slots := by
  induction inputs generalizing slots with
  | nil => exact ⟨Nat.le_refl _, Nat.le_refl _⟩
  | cons req rest ih =>
    have here := consumeInput_counts req slots
    have later := ih (consumeInput slots req)
    rw [foldl_cons, map_cons, sum_cons]
    omega

theorem foldl_drawInput_counts {inputs : List InputItem}
    (enough : ∀ item, demanded item inputs ≤ totalOf item slots) :
    realTotal (inputs.foldl drawInput slots) + (inputs.map drawnCount).sum = realTotal slots ∧
      emptyTotal (inputs.foldl drawInput slots) = emptyTotal slots := by
  induction inputs generalizing slots with
  | nil => exact ⟨rfl, rfl⟩
  | cons req rest ih =>
    simp only [demanded_cons] at enough
    have here := @drawInput_counts req slots fun item =>
      Nat.le_trans (Nat.le_add_right _ _) (enough item)
    have left : ∀ item, demanded item rest ≤ totalOf item (drawInput slots req) := by
      intro item
      have one := drawInput_draw (fun _ => 0) slots req
      rw [draw_nothing] at one
      rw [one, totalOf_draw]
      have both := enough item
      omega
    have later := ih left
    rw [foldl_cons, map_cons, sum_cons]
    omega

theorem eq_of_sum_le {items : List InputItem} {small large : InputItem → Nat}
    (below : ∀ item, small item ≤ large item)
    (total : (items.map large).sum ≤ (items.map small).sum) :
    ∀ item ∈ items, large item = small item := by
  induction items with
  | nil => exact nofun
  | cons item rest ih =>
    have bound : (rest.map small).sum ≤ (rest.map large).sum :=
      sum_le_sum fun other _ => below other
    have here := below item
    simp only [map_cons, sum_cons] at total
    rw [forall_mem_cons]
    exact ⟨by omega, ih (by omega)⟩

theorem kept_of_same {recipe : Recipe} (shapeless : recipe.hasPattern = false)
    (accepts : recipe.matchesContainer slots = true)
    (same : recipe.drawInputs slots = recipe.consumeInputs slots) :
    ∀ req ∈ recipe.inputs, req.itemId ≠ 0 → req.consume = false → req.count = 0 := by
  have drawn := (foldl_drawInput_counts (demanded_le_totalOf shapeless accepts)).1
  have spent := (foldl_consumeInput_counts recipe.inputs slots).1
  have reference : recipe.inputs.foldl consumeInput slots = recipe.inputs.foldl drawInput slots := by
    rw [consumeInputs, shapeless] at same
    exact same.symm
  rw [reference] at spent
  intro req mem real kept
  have equal := eq_of_sum_le spentCount_le (by omega) req mem
  rw [spentCount, kept, drawnCount, if_neg real] at equal
  exact UInt8.toNat_inj.mp equal

end Real

section Empty

variable {slot : ItemStack} {slots : List ItemStack} {req : InputItem}

theorem draw_unowed {due : ItemKey → Nat} (none : dueFrom due slot = 0) (slots : List ItemStack) :
    draw due (slot :: slots) = slot :: draw due slots := by
  have same : (fun item => due item - amountOf item slot) = due := by
    funext item
    unfold amountOf
    split
    · next kind =>
      rw [dueFrom_kind kind.1 kind.2] at none
      rw [none, Nat.zero_sub]
    · exact Nat.sub_zero _
  rw [draw, drawStack, if_pos none, same]

theorem emptyTotal_consumeInput_lt (empty : req.itemId = 0) (changing : ¬ req.DrawnAlike) :
    emptyTotal (consumeInput (⟨0, 255, req.metadata⟩ :: slots) req) <
      emptyTotal (⟨0, 255, req.metadata⟩ :: slots) := by
  rw [InputItem.DrawnAlike, if_pos empty] at changing
  have full : emptyCount ⟨0, 255, req.metadata⟩ = 255 := rfl
  cases consumes : req.consume with
  | true =>
    rw [consumes, if_pos rfl] at changing
    have some : req.count.toNat ≠ 0 := fun none => changing (UInt8.toNat_inj.mp none)
    have step : consumeInput (⟨0, 255, req.metadata⟩ :: slots) req =
        withdraw 0 req.metadata req.count.toNat (⟨0, 255, req.metadata⟩ :: slots) := by
      simp [consumeInput, consumes, empty]
    rw [step, withdraw, if_neg some, if_pos ⟨rfl, rfl⟩]
    simp only [emptyTotal_cons]
    have taken := @less_counts_empty ⟨0, 255, req.metadata⟩ _ rfl
      (Nat.min_le_left (255 : UInt8).toNat req.count.toNat)
    have rest := (withdraw_counts_empty req.metadata
      (req.count.toNat - min (255 : UInt8).toNat req.count.toNat) slots).2
    rw [show (255 : UInt8).toNat = 255 from rfl] at taken rest ⊢
    omega
  | false =>
    rw [consumes] at changing
    simp only [Bool.false_eq_true, if_false] at changing
    have step : consumeInput (⟨0, 255, req.metadata⟩ :: slots) req =
        ⟨req.replaceItem, 255, req.replaceMeta⟩ :: slots := by
      simp [consumeInput, consumes, UInt16.pos_iff_ne_zero.mpr changing, replaceFirst, empty]
    have gone : emptyCount ⟨req.replaceItem, 255, req.replaceMeta⟩ = 0 := if_neg changing
    rw [step, emptyTotal_cons, emptyTotal_cons, full, gone]
    omega

theorem foldl_drawInput_empty (empty : slot.itemId = 0) (inputs : List InputItem)
    (slots : List ItemStack) :
    inputs.foldl drawInput (slot :: slots) = slot :: inputs.foldl drawInput slots := by
  rw [foldl_drawInput_eq, foldl_drawInput_eq, draw_unowed (dueFrom_empty empty _)]

end Empty

section Replaced

variable {item other : ItemKey} {due : ItemKey → Nat}

def oneOf (item : ItemKey) : ItemStack := ⟨item.itemId, 1, item.metadata⟩

theorem totalOf_replicate (item : ItemKey) (number : Nat) (stack : ItemStack) :
    totalOf item (replicate number stack) = number * amountOf item stack := by
  simp [totalOf]

theorem amountOf_oneOf (item : ItemKey) : amountOf item (oneOf item) = 1 := if_pos ⟨rfl, rfl⟩

theorem amountOf_oneOf_of_ne (differs : item ≠ other) : amountOf item (oneOf other) = 0 :=
  if_neg fun kind => differs (key_ext kind.1.symm kind.2.symm)

theorem draw_replicate (owed : number ≤ due item) :
    ∀ slot ∈ draw due (replicate number (oneOf item)), slot = empty := by
  induction number generalizing due with
  | zero => exact nofun
  | succ number ih =>
    rw [replicate_succ, draw, forall_mem_cons]
    refine ⟨?_, ih ?_⟩
    · apply @drawStack_all due (oneOf item) item rfl rfl
      · rw [show (oneOf item).count.toNat = 1 from rfl]
        omega
      · omega
    · rw [amountOf_oneOf]
      omega

theorem mem_draw {slot : ItemStack} (mem : slot ∈ draw due slots) : slot = empty ∨
      ∃ old ∈ slots, slot.itemId = old.itemId ∧ slot.metadata = old.metadata := by
  induction slots generalizing due with
  | nil => exact absurd mem not_mem_nil
  | cons first rest ih =>
    rw [draw] at mem
    rcases mem_cons.mp mem with rfl | mem
    · rcases drawStack_kind due first with gone | kind
      · exact .inl gone
      · exact .inr ⟨first, mem_cons_self, kind⟩
    · rcases ih mem with gone | ⟨old, found, kind⟩
      · exact .inl gone
      · exact .inr ⟨old, mem_cons_of_mem first found, kind⟩

variable {req : InputItem}

theorem replaceFirst_behind
    (unlike : ∀ slot ∈ front, ¬ (slot.itemId = req.itemId ∧ slot.metadata = req.metadata))
    {stack : ItemStack} (kind : stack.itemId = req.itemId ∧ stack.metadata = req.metadata)
    (rest : List ItemStack) :
    replaceFirst req (front ++ stack :: rest) =
      front ++ { stack with itemId := req.replaceItem, metadata := req.replaceMeta } :: rest := by
  induction front with
  | nil => rw [nil_append, replaceFirst, if_pos kind, nil_append]
  | cons slot front ih =>
    rw [forall_mem_cons] at unlike
    rw [cons_append, replaceFirst, if_neg unlike.1, ih unlike.2, cons_append]

/-- Enough single items in front for what the inputs before withdraw of the
replaced kind, and for all they withdraw of the new one. -/
def supply (item other : ItemKey) (earlier inputs : List InputItem) : List ItemStack :=
  replicate (demanded item earlier) (oneOf item) ++ replicate (demanded other inputs) (oneOf other)

theorem totalOf_supply_old (differs : item ≠ other) (earlier inputs : List InputItem) :
    totalOf item (supply item other earlier inputs) = demanded item earlier := by
  rw [supply, totalOf_append, totalOf_replicate, totalOf_replicate, amountOf_oneOf,
    amountOf_oneOf_of_ne differs, Nat.mul_one, Nat.mul_zero, Nat.add_zero]

theorem totalOf_supply_new (differs : item ≠ other) (earlier inputs : List InputItem) :
    totalOf other (supply item other earlier inputs) = demanded other inputs := by
  rw [supply, totalOf_append, totalOf_replicate, totalOf_replicate, amountOf_oneOf,
    amountOf_oneOf_of_ne differs.symm, Nat.mul_one, Nat.mul_zero, Nat.zero_add]

theorem draw_supply (differs : item ≠ other) (earlier inputs : List InputItem) :
    ∀ slot ∈ draw (fun kind => demanded kind earlier) (supply item other earlier inputs),
      ¬ (slot.itemId = item.itemId ∧ slot.metadata = item.metadata) := by
  rw [supply, draw_append]
  intro slot mem kind
  rcases mem_append.mp mem with mem | mem
  · rw [draw_replicate (Nat.le_refl _) slot mem] at kind
    exact item.real kind.1.symm
  rcases mem_draw mem with gone | ⟨old, found, same⟩
  · rw [gone] at kind
    exact item.real kind.1.symm
  · obtain rfl := eq_of_mem_replicate found
    exact differs (key_ext (kind.1.symm.trans same.1) (kind.2.symm.trans same.2))

theorem demanded_append (item : ItemKey) (first second : List InputItem) :
    demanded item (first ++ second) = demanded item first + demanded item second := by
  simp [demanded]

theorem rows_meet {earlier inputs : List InputItem} (differs : item ≠ other)
    (kept : req.consume = false)
    (replaced : item.itemId = req.itemId ∧ item.metadata = req.metadata)
    (new : other.itemId = req.replaceItem ∧ other.metadata = req.replaceMeta)
    (enough : demanded other earlier ≤ demanded other inputs) (rest : List ItemStack) :
    consumeInput (earlier.foldl drawInput
        (supply item other earlier inputs ++ oneOf item :: oneOf other :: rest)) req =
      consumeInput (earlier.foldl drawInput
        (supply item other earlier inputs ++ oneOf other :: oneOf item :: rest)) req := by
  have replacing : 0 < req.replaceItem := UInt16.pos_iff_ne_zero.mpr (new.1 ▸ other.real)
  have step : ∀ slots, consumeInput slots req = replaceFirst req slots := by
    intro slots
    simp [consumeInput, kept, replacing]
  have settledOld : dueFrom (fun kind => demanded kind earlier -
      totalOf kind (supply item other earlier inputs)) (oneOf item) = 0 := by
    rw [@dueFrom_kind (oneOf item) item rfl rfl, totalOf_supply_old differs, Nat.sub_self]
  have settledNew : dueFrom (fun kind => demanded kind earlier -
      totalOf kind (supply item other earlier inputs)) (oneOf other) = 0 := by
    rw [@dueFrom_kind (oneOf other) other rfl rfl, totalOf_supply_new differs]
    omega
  have front := draw_supply differs earlier inputs
  have made : ({ oneOf item with
      itemId := req.replaceItem, metadata := req.replaceMeta } : ItemStack) = oneOf other := by
    rw [oneOf, oneOf, new.1, new.2]
  rw [step, step, foldl_drawInput_eq, foldl_drawInput_eq, draw_append, draw_append,
    draw_unowed settledOld, draw_unowed settledNew, draw_unowed settledNew,
    draw_unowed settledOld]
  generalize draw _ rest = rest
  generalize draw _ (supply item other earlier inputs) = before at *
  have kind : (oneOf item).itemId = req.itemId ∧ (oneOf item).metadata = req.metadata := replaced
  rw [replaced.1, replaced.2] at front
  have behind : ∀ slot ∈ before ++ [oneOf other],
      ¬ (slot.itemId = req.itemId ∧ slot.metadata = req.metadata) := by
    intro slot mem same
    rcases mem_append.mp mem with mem | mem
    · exact front slot mem same
    · rw [mem_singleton.mp mem] at same
      exact differs (key_ext (replaced.1.trans same.1.symm) (replaced.2.trans same.2.symm))
  have second := replaceFirst_behind behind kind rest
  rw [append_assoc, append_assoc, singleton_append, singleton_append] at second
  rw [replaceFirst_behind front kind, second, made]

theorem rows_part (differs : item ≠ other) (earlier inputs : List InputItem)
    (rest : List ItemStack) : inputs.foldl drawInput
        (supply item other earlier inputs ++ oneOf item :: oneOf other :: rest) ≠
      inputs.foldl drawInput
        (supply item other earlier inputs ++ oneOf other :: oneOf item :: rest) := by
  intro same
  rw [foldl_drawInput_eq, foldl_drawInput_eq, draw_append, draw_append] at same
  have heads := (cons.inj (append_cancel_left same)).1
  have settled : dueFrom (fun kind => demanded kind inputs -
      totalOf kind (supply item other earlier inputs)) (oneOf other) = 0 := by
    rw [@dueFrom_kind (oneOf other) other rfl rfl, totalOf_supply_new differs, Nat.sub_self]
  have kept : drawStack (fun kind => demanded kind inputs -
      totalOf kind (supply item other earlier inputs)) (oneOf other) = oneOf other :=
    if_pos settled
  rw [kept] at heads
  rcases drawStack_kind (fun kind => demanded kind inputs -
    totalOf kind (supply item other earlier inputs)) (oneOf item) with gone | ⟨sameItem, sameMeta⟩
  · rw [heads] at gone
    exact other.real (congrArg itemId gone)
  · rw [heads] at sameItem sameMeta
    exact differs (key_ext sameItem.symm sameMeta.symm)

end Replaced

section Failing

variable {recipe : Recipe} {earlier later : List InputItem} {req : InputItem}

theorem not_same_of_empty (shapeless : recipe.hasPattern = false)
    (split : recipe.inputs = earlier ++ req :: later) (plain : ∀ other ∈ earlier, other.DrawnAlike)
    (empty : req.itemId = 0) (changes : ¬ req.DrawnAlike) (same : recipe.inputs.foldl drawInput
        ([⟨0, 255, req.metadata⟩] ++ (wanted recipe.inputs).map ownSlot) =
      recipe.inputs.foldl consumeInput
        ([⟨0, 255, req.metadata⟩] ++ (wanted recipe.inputs).map ownSlot)) : False := by
  have accepts := matchesContainer_ownSlots shapeless [⟨0, 255, req.metadata⟩]
  have drawn := (foldl_drawInput_counts (demanded_le_totalOf shapeless accepts)).2
  rw [same] at drawn
  generalize (wanted recipe.inputs).map ownSlot = own at drawn
  rw [split, foldl_append, foldl_cons, singleton_append] at drawn
  have before := (foldl_consumeInput_counts earlier (⟨0, 255, req.metadata⟩ :: own)).2
  rw [foldl_plain plain, foldl_drawInput_empty rfl] at before drawn
  have here := @emptyTotal_consumeInput_lt (earlier.foldl drawInput own) req empty changes
  have after := (foldl_consumeInput_counts later
    (consumeInput (⟨0, 255, req.metadata⟩ :: earlier.foldl drawInput own) req)).2
  omega

theorem not_same_of_replaced (split : recipe.inputs = earlier ++ req :: later)
    (plain : ∀ other ∈ earlier, other.DrawnAlike) (real : req.itemId ≠ 0)
    (kept : req.consume = false) (replacing : req.replaceItem ≠ 0) (turning : ¬ req.keepsKind = true)
    (same : ∀ front, recipe.inputs.foldl drawInput (front ++ (wanted recipe.inputs).map ownSlot) =
      recipe.inputs.foldl consumeInput (front ++ (wanted recipe.inputs).map ownSlot)) : False := by
  let item : ItemKey := ⟨req.itemId, req.metadata, real⟩
  let other : ItemKey := ⟨req.replaceItem, req.replaceMeta, replacing⟩
  have differs : item ≠ other := by
    intro equal
    apply turning
    rw [InputItem.keepsKind, Bool.and_eq_true, beq_iff_eq, beq_iff_eq]
    exact ⟨(congrArg ItemKey.itemId equal).symm, (congrArg ItemKey.metadata equal).symm⟩
  have enough : demanded other earlier ≤ demanded other recipe.inputs := by
    rw [split, demanded_append]
    omega
  have first := same (supply item other earlier recipe.inputs ++ [oneOf item, oneOf other])
  have second := same (supply item other earlier recipe.inputs ++ [oneOf other, oneOf item])
  simp only [append_assoc, cons_append, nil_append] at first second
  apply rows_part differs earlier recipe.inputs ((wanted recipe.inputs).map ownSlot)
  rw [first, second]
  generalize (wanted recipe.inputs).map ownSlot = own
  have meet := @rows_meet item other req earlier recipe.inputs differs kept ⟨rfl, rfl⟩ ⟨rfl, rfl⟩
    enough own
  generalize supply item other earlier recipe.inputs ++ oneOf item :: oneOf other :: own = ahead
    at meet ⊢
  generalize supply item other earlier recipe.inputs ++ oneOf other :: oneOf item :: own = behind
    at meet ⊢
  rw [split, foldl_append, foldl_append, foldl_cons, foldl_cons,
    foldl_plain plain, foldl_plain plain, meet]

end Failing

theorem plain_of_same {recipe : Recipe} (shapeless : recipe.hasPattern = false)
    (same : ∀ slots, recipe.matchesContainer slots = true →
      recipe.drawInputs slots = recipe.consumeInputs slots) :
    ∀ req ∈ recipe.inputs, req.DrawnAlike := by
  have reference : ∀ front, recipe.inputs.foldl drawInput
      (front ++ (wanted recipe.inputs).map ownSlot) =
        recipe.inputs.foldl consumeInput (front ++ (wanted recipe.inputs).map ownSlot) := by
    intro front
    have agree := same _ (matchesContainer_ownSlots shapeless front)
    rwa [drawInputs, consumeInputs, shapeless] at agree
  by_contra changing
  have some : (recipe.inputs.find? fun req => !decide req.DrawnAlike).isSome = true := by
    simpa using changing
  obtain ⟨req, first⟩ := Option.isSome_iff_exists.mp some
  obtain ⟨changes, earlier, later, split, before⟩ := find?_eq_some_iff_append.mp first
  have changes : ¬ req.DrawnAlike := by simpa using changes
  have plain : ∀ other ∈ earlier, other.DrawnAlike := by simpa using before
  have mem : req ∈ recipe.inputs := by simp [split]
  by_cases empty : req.itemId = 0
  · exact not_same_of_empty shapeless split plain empty changes (reference [⟨0, 255, req.metadata⟩])
  rw [InputItem.DrawnAlike, if_neg empty] at changes
  have kept : req.consume = false := by
    simpa using fun consumes => changes (.inl consumes)
  have none : req.count = 0 := kept_of_same shapeless (matchesContainer_ownSlots shapeless [])
      (same _ (matchesContainer_ownSlots shapeless [])) req mem empty kept
  have replacing : req.replaceItem ≠ 0 := fun nothing => changes (.inr ⟨none, .inl nothing⟩)
  have turning : ¬ req.keepsKind = true := fun keeps => changes (.inr ⟨none, .inr keeps⟩)
  exact not_same_of_replaced split plain empty kept replacing turning reference

theorem Recipe.drawInputs_iff (recipe : Recipe) :
    (∀ slots, recipe.matchesContainer slots = true →
      recipe.drawInputs slots = recipe.consumeInputs slots) ↔ recipe.DrawnAlike := by
  cases shape : recipe.hasPattern with
  | true =>
    have met := @cellsMeet_iff (fun item => demanded item recipe.inputs) recipe.pattern.toList
    rw [← draw_eq_consumePattern_iff] at met
    simp only [drawInputs, foldl_drawInput_eq, consumeInputs, matchesContainer, shape, if_true,
      Recipe.DrawnAlike]
    constructor
    · intro same
      obtain ⟨totals, counted, full⟩ := met.mp fun slots served => same slots (by
        simpa [matchesPattern, CellsServed] using served)
      exact ⟨totals, counted, full⟩
    · rintro ⟨totals, counted, full⟩ slots accepts
      exact met.mpr ⟨totals, counted, full⟩ slots (by
        simpa [matchesPattern, CellsServed] using accepts)
  | false =>
    simp only [Recipe.DrawnAlike, shape, Bool.false_eq_true, if_false]
    refine ⟨plain_of_same shape, fun plain slots _ => ?_⟩
    simp only [drawInputs, consumeInputs, shape, Bool.false_eq_true, if_false, foldl_plain plain]

end GtnhPlatform.Crafting
