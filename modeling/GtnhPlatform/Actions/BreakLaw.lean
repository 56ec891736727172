import GtnhPlatform.Actions.BreakBlock
import GtnhPlatform.Actions.MachineSlot
import GtnhPlatform.InventorySync.PersistenceLaw
import GtnhPlatform.Sim.MachineComponents

namespace GtnhPlatform.Actions

open List

open Inventory (PersistSlot ItemKey amountOf totalOf totalOf_nil totalOf_cons amountOf_of_isEmpty
  kMaxStack topUp topped_count)
open InventorySync (PlayerSlots PlayerInventoryStore)
open Sim (SimulationEngine MultiblockController Position Entity)
open World (InventorySlot)

section Stack

variable {itemId metadata : UInt16}

def share (item : ItemKey) (itemId metadata : UInt16) (count : Nat) : Nat :=
  if itemId = item.itemId ∧ metadata = item.metadata then count else 0

variable (item : ItemKey)

theorem share_add (itemId metadata : UInt16) (first second : Nat) :
    share item itemId metadata (first + second) =
      share item itemId metadata first + share item itemId metadata second := by
  unfold share
  split <;> rfl

theorem amountOf_eq_share (slot : PersistSlot) :
    amountOf item slot = share item slot.itemId slot.metadata slot.count.toNat := rfl

theorem fillEmpty_total (itemId metadata : UInt16) (remaining : Nat) (inv : List PersistSlot) :
    totalOf item (fillEmpty itemId metadata remaining inv).1 +
        share item itemId metadata (fillEmpty itemId metadata remaining inv).2 =
      totalOf item inv + share item itemId metadata remaining := by
  induction inv generalizing remaining with
  | nil => rfl
  | cons slot rest ih =>
    unfold fillEmpty
    split
    · next done => rw [done]
    split
    · next free =>
      have tail := ih (remaining - min remaining 64)
      have width : (UInt8.ofNat (min remaining 64)).toNat = min remaining 64 := by
        rw [UInt8.toNat_ofNat']
        omega
      have nothing : amountOf item slot = 0 :=
        amountOf_of_isEmpty item (by simp [PersistSlot.isEmpty, free])
      have parted := share_add item itemId metadata (min remaining 64)
        (remaining - min remaining 64)
      rw [Nat.add_sub_cancel' (Nat.min_le_left _ _)] at parted
      rw [totalOf_cons, totalOf_cons, nothing, amountOf_eq_share, width]
      dsimp only
      omega
    · have tail := ih remaining
      simp only [totalOf_cons]
      omega

/-- Every stack that the first loop adds to is of the same kind. -/
def TopsOwnKind (itemId metadata : UInt16) : Nat → List PersistSlot → Prop
  | _, [] => True
  | remaining, slot :: rest =>
    if remaining = 0 then True
    else if slot.itemId = itemId ∧ slot.count < kMaxStack then
      slot.metadata = metadata ∧
        TopsOwnKind itemId metadata (remaining - min remaining (64 - slot.count.toNat)) rest
    else TopsOwnKind itemId metadata remaining rest

variable {inv : List PersistSlot}

theorem topUp_total_of_own (own : TopsOwnKind itemId metadata remaining inv) :
    totalOf item (topUp itemId remaining inv).1 +
        share item itemId metadata (topUp itemId remaining inv).2 =
      totalOf item inv + share item itemId metadata remaining := by
  induction inv generalizing remaining with
  | nil => rfl
  | cons slot rest ih =>
    unfold TopsOwnKind at own
    unfold topUp
    split at own
    · next done => simp only [done, if_true]
    rename_i some
    rw [if_neg some]
    split at own
    · next chosen =>
      obtain ⟨kind, own⟩ := own
      have tail := ih own
      have count := topped_count (min remaining (64 - slot.count.toNat)) chosen.2
        (Nat.min_le_right _ _)
      have parted := share_add item itemId metadata
        (min remaining (64 - slot.count.toNat))
        (remaining - min remaining (64 - slot.count.toNat))
      have grown := share_add item itemId metadata slot.count.toNat
        (min remaining (64 - slot.count.toNat))
      rw [Nat.add_sub_cancel' (Nat.min_le_left _ _)] at parted
      rw [if_pos chosen]
      simp only [totalOf_cons, amountOf_eq_share, count, chosen.1, kind, grown]
      omega
    · next passed =>
      have tail := ih own
      rw [if_neg passed]
      simp only [totalOf_cons]
      omega

theorem topUp_total_le (remaining : Nat) (inv : List PersistSlot) :
    totalOf item (topUp item.itemId remaining inv).1 + (topUp item.itemId remaining inv).2 ≤
        totalOf item inv + remaining ∧
      (totalOf item (topUp item.itemId remaining inv).1 + (topUp item.itemId remaining inv).2 =
        totalOf item inv + remaining → TopsOwnKind item.itemId item.metadata remaining inv) := by
  induction inv generalizing remaining with
  | nil => exact ⟨le_rfl, fun _ => trivial⟩
  | cons slot rest ih =>
    unfold TopsOwnKind topUp
    split
    · next done => exact ⟨by rw [done], fun _ => trivial⟩
    rename_i some
    split
    · next chosen =>
      have tail := ih (remaining - min remaining (64 - slot.count.toNat))
      have count := topped_count (min remaining (64 - slot.count.toNat)) chosen.2
        (Nat.min_le_right _ _)
      have space : slot.count.toNat < 64 := chosen.2
      by_cases kind : slot.metadata = item.metadata
      · simp only [totalOf_cons, amountOf, count, chosen.1, kind, and_self, if_true, true_and]
        exact ⟨by omega, fun all => tail.2 (by omega)⟩
      · simp only [totalOf_cons, amountOf, kind, and_false, if_false, false_and]
        exact ⟨by omega, fun all => by omega⟩
    · have tail := ih remaining
      simp only [totalOf_cons]
      exact ⟨by omega, fun all => tail.2 (by omega)⟩

def OwnKind (stack : InventorySlot) (inv : List PersistSlot) : Prop :=
  stack.itemId ≠ 0 → TopsOwnKind stack.itemId stack.metadata stack.count.toNat inv

theorem fitStack_total_iff (fits : (fitStack stack inv).2 = 0) :
    (∀ item, totalOf item (fitStack stack inv).1 =
        totalOf item inv + amountOf item (stackOf stack)) ↔ OwnKind stack inv := by
  by_cases nothing : stack.itemId = 0
  · refine ⟨fun _ real => absurd nothing real, fun _ item => ?_⟩
    have empty : (stackOf stack).isEmpty := by simp [PersistSlot.isEmpty, stackOf, nothing]
    rw [amountOf_of_isEmpty item empty]
    simp [fitStack, nothing]
  · simp only [OwnKind, ne_eq, nothing, not_false_eq_true, forall_const]
    have split : fitStack stack inv = fillEmpty stack.itemId stack.metadata
        (topUp stack.itemId stack.count.toNat inv).2
        (topUp stack.itemId stack.count.toNat inv).1 := if_neg nothing
    rw [split] at fits ⊢
    have filled := fun item => fillEmpty_total item stack.itemId stack.metadata
      (topUp stack.itemId stack.count.toNat inv).2 (topUp stack.itemId stack.count.toNat inv).1
    rw [fits] at filled
    constructor
    · intro gained
      have all := gained ⟨stack.itemId, stack.metadata, nothing⟩
      have placed := filled ⟨stack.itemId, stack.metadata, nothing⟩
      simp only [share, amountOf, stackOf, and_self, if_true] at all placed
      apply (topUp_total_le ⟨stack.itemId, stack.metadata, nothing⟩ _ inv).2
      dsimp only
      omega
    · intro own item
      have topped := topUp_total_of_own item own
      have placed := filled item
      have none : share item stack.itemId stack.metadata 0 = 0 := by simp [share]
      rw [amountOf_eq_share]
      dsimp only [stackOf]
      omega

end Stack

section Stacks

/-- Each stack in turn arrives as what it is. -/
def HandsOver : List InventorySlot → List PersistSlot → Prop
  | [], _ => True
  | stack :: rest, inv =>
    (∀ item, totalOf item (fitStack stack inv).1 =
      totalOf item inv + amountOf item (stackOf stack)) ∧
    HandsOver rest (fitStack stack inv).1

def Unmixed : List InventorySlot → List PersistSlot → Prop
  | [], _ => True
  | stack :: rest, inv => OwnKind stack inv ∧ Unmixed rest (fitStack stack inv).1

variable {contents : List InventorySlot} {inv all : PlayerSlots}

theorem handsOver_iff (fits : tryFitAll contents inv = some all) :
    HandsOver contents inv.slots ↔ Unmixed contents inv.slots := by
  induction contents generalizing inv with
  | nil => rfl
  | cons stack rest ih =>
    unfold tryFitAll at fits
    split at fits
    · next whole => exact and_congr (fitStack_total_iff whole) (ih fits)
    · cases fits

def itemCount (inv : List PersistSlot) : Nat :=
  (inv.map fun slot => if slot.itemId = 0 then 0 else slot.count.toNat).sum

@[simp] theorem itemCount_cons (slot : PersistSlot) (rest : List PersistSlot) :
    itemCount (slot :: rest) =
      (if slot.itemId = 0 then 0 else slot.count.toNat) + itemCount rest := by
  simp [itemCount]

section Count

variable {itemId : UInt16} (real : itemId ≠ 0)

include real

theorem topUp_itemCount (remaining : Nat) (inv : List PersistSlot) :
    itemCount (topUp itemId remaining inv).1 + (topUp itemId remaining inv).2 =
      itemCount inv + remaining := by
  induction inv generalizing remaining with
  | nil => rfl
  | cons slot rest ih =>
    unfold topUp
    split
    · next done => rw [done]
    split
    · next chosen =>
      have tail := ih (remaining - min remaining (64 - slot.count.toNat))
      have count := topped_count (min remaining (64 - slot.count.toNat)) chosen.2
        (Nat.min_le_right _ _)
      simp only [itemCount_cons, chosen.1, real, if_false, count]
      omega
    · have tail := ih remaining
      simp only [itemCount_cons]
      omega

theorem fillEmpty_itemCount (metadata : UInt16) (remaining : Nat) (inv : List PersistSlot) :
    itemCount (fillEmpty itemId metadata remaining inv).1 +
        (fillEmpty itemId metadata remaining inv).2 = itemCount inv + remaining := by
  induction inv generalizing remaining with
  | nil => rfl
  | cons slot rest ih =>
    unfold fillEmpty
    split
    · next done => rw [done]
    split
    · next free =>
      have tail := ih (remaining - min remaining 64)
      have width : (UInt8.ofNat (min remaining 64)).toNat = min remaining 64 := by
        rw [UInt8.toNat_ofNat']
        omega
      simp only [itemCount_cons, free, real, if_true, if_false, width]
      omega
    · have tail := ih remaining
      simp only [itemCount_cons]
      omega

end Count

variable {stack : InventorySlot}

theorem fitStack_itemCount {inv : List PersistSlot} (real : stack.itemId ≠ 0)
    (fits : (fitStack stack inv).2 = 0) :
    itemCount (fitStack stack inv).1 = itemCount inv + stack.count.toNat := by
  have topped := topUp_itemCount real stack.count.toNat inv
  have filled := fillEmpty_itemCount real stack.metadata
    (topUp stack.itemId stack.count.toNat inv).2 (topUp stack.itemId stack.count.toNat inv).1
  unfold fitStack at fits ⊢
  rw [if_neg real] at fits ⊢
  dsimp only at fits ⊢
  omega

theorem fitStack_of_none (none : stack.count = 0) (inv : List PersistSlot) :
    fitStack stack inv = (inv, 0) := by
  unfold fitStack
  split
  · rfl
  · cases inv with
    | nil => simp [none, topUp, fillEmpty]
    | cons slot rest => simp [none, topUp, fillEmpty]

theorem tryFitAll_itemCount (real : ∀ stack ∈ contents, stack.itemId ≠ 0)
    (fits : tryFitAll contents inv = some all) :
    itemCount all.slots =
      itemCount inv.slots + (contents.map fun stack => stack.count.toNat).sum := by
  induction contents generalizing inv with
  | nil =>
    cases fits
    rfl
  | cons stack rest ih =>
    unfold tryFitAll at fits
    split at fits
    · next whole =>
      have tail := ih (fun other mem => real other (.tail _ mem)) fits
      have head := fitStack_itemCount (real stack (.head _)) whole
      rw [map_cons, sum_cons]
      dsimp only at tail
      omega
    · cases fits

theorem tryFitAll_of_none (none : ∀ stack ∈ contents, stack.count = 0) :
    tryFitAll contents inv = some inv := by
  induction contents with
  | nil => rfl
  | cons stack rest ih =>
    unfold tryFitAll
    have same := fitStack_of_none (none stack (.head _)) inv.slots
    simp only [same, if_true]
    exact ih fun other mem => none other (.tail _ mem)

theorem tryFitAll_eq_self_iff (real : ∀ stack ∈ contents, stack.itemId ≠ 0)
    (fits : tryFitAll contents inv = some all) :
    all = inv ↔ ∀ stack ∈ contents, stack.count = 0 := by
  constructor
  · rintro rfl stack mem
    have count := tryFitAll_itemCount real fits
    have none : ∀ added ∈ contents.map fun stack => stack.count.toNat, added = 0 :=
      sum_eq_zero_iff.mp (by omega)
    exact UInt8.toNat_inj.mp (none _ (mem_map_of_mem mem))
  · intro none
    rw [tryFitAll_of_none none] at fits
    exact (Option.some.inj fits).symm

theorem handsOver_of_none (none : ∀ stack ∈ contents, stack.count = 0) :
    HandsOver contents inv.slots := by
  induction contents with
  | nil => trivial
  | cons stack rest ih =>
    have same := fitStack_of_none (none stack (.head _)) inv.slots
    have empty : (stackOf stack).isEmpty := by
      simp [PersistSlot.isEmpty, stackOf, none stack (.head _)]
    refine ⟨fun item => ?_, ?_⟩
    · rw [same, amountOf_of_isEmpty item empty, Nat.add_zero]
    · rw [same]
      exact ih fun other mem => none other (.tail _ mem)

end Stacks

section Controller

variable {engine : SimulationEngine} {controller : MultiblockController}

theorem real_of_collected {stack : InventorySlot}
    (mem : stack ∈ engine.collectControllerContents controller) : stack.itemId ≠ 0 := by
  unfold SimulationEngine.collectControllerContents at mem
  split at mem
  · cases mem
  · simpa using (mem_filter.mp mem).2

theorem collected_total (item : ItemKey) :
    totalOf item ((engine.collectControllerContents controller).map stackOf) =
      totalOf item (stacksAt engine controller.position) := by
  unfold SimulationEngine.collectControllerContents stacksAt
  cases (engine.findEntityAt controller.position).bind Entity.machine with
  | none => rfl
  | some parts =>
    dsimp only
    induction parts.container.slots with
    | nil => rfl
    | cons slot rest ih =>
      by_cases vacant : slot.itemId = 0
      · have empty : (stackOf slot).isEmpty := by simp [PersistSlot.isEmpty, stackOf, vacant]
        rw [filter_cons_of_neg (by simp [vacant]), map_cons, totalOf_cons, ih,
          amountOf_of_isEmpty item empty, Nat.zero_add]
      · rw [filter_cons_of_pos (by simp [vacant]), map_cons, map_cons,
          totalOf_cons, totalOf_cons, ih]

theorem stacksAt_clearBlock (pos other : Position) :
    stacksAt (engine.clearBlock pos).1 other = if other = pos then [] else stacksAt engine other := by
  split
  · next here =>
    subst here
    unfold stacksAt
    cases stands : engine.findEntityAt other with
    | none =>
      have same : (engine.clearBlock other).1 = engine := by
        unfold SimulationEngine.clearBlock
        rw [stands]
      rw [same, stands]
      rfl
    | some entity =>
      obtain ⟨heat, cleared, -⟩ := SimulationEngine.clearBlock_at stands
      rw [cleared]
      rfl
  · next away =>
    unfold stacksAt
    rw [(SimulationEngine.OnlyAt.clearBlock engine).elsewhere other away]

end Controller

namespace BreakServer

def Breaks (server : BreakServer) (action : SetBlockAction) (result : CASResult) : Prop :=
  (server.handle action).2.2 ≠ none ∧ result.status = 0

/-- Everything went to the player, who then gets what the block itself drops. -/
structure Moved (handler : BreakBlockHandler) (before after : BreakServer)
    (action : SetBlockAction) : Prop where
  handedOver : HandsOver (before.contentsAt action.pos) (before.playerSlots action.playerId).slots
  received : ∃ broken inv,
    tryFitAll (before.contentsAt action.pos) (before.playerSlots action.playerId) = some inv ∧
      (before.handle action).2.2 = some broken ∧
      after.playerSlots action.playerId = handler.reward broken inv
  gone : ∀ controller, before.ownerAt action.pos = some controller →
    ∀ item, totalOf item (stacksAt after.engine controller.position) = 0

structure Kept (before after : BreakServer) (action : SetBlockAction) : Prop where
  inventory : after.playerSlots action.playerId = before.playerSlots action.playerId
  contents : ∀ controller, before.ownerAt action.pos = some controller →
    stacksAt after.engine controller.position = stacksAt before.engine controller.position

structure Conserves (handler : BreakBlockHandler) (server : BreakServer)
    (action : SetBlockAction) (result : CASResult) : Prop where
  moved : server.Breaks action result →
    server.Moved handler (server.attempt handler action result).1 action
  kept : ¬ server.Breaks action result → server.Kept (server.attempt handler action result).1 action

/-- Nothing is there to be moved, or it is refused, or it is an anchor that the
chunk store lets break, and the player has no other kind of what it holds. -/
def Safe (server : BreakServer) (action : SetBlockAction) (result : CASResult) : Prop :=
  action.action ≠ LEFT_MOUSE_CLICK ∨ (∀ stack ∈ server.contentsAt action.pos, stack.count = 0) ∨
    tryFitAll (server.contentsAt action.pos) (server.playerSlots action.playerId) = none ∨
    result.status = 0 ∧ (∀ controller, server.ownerAt action.pos = some controller →
        controller.position = action.pos.cell) ∧
      Unmixed (server.contentsAt action.pos) (server.playerSlots action.playerId).slots

section Attempt

variable (handler : BreakBlockHandler) {server : BreakServer} {action : SetBlockAction}

theorem attempt_of_unsent (unsent : action.action ≠ LEFT_MOUSE_CLICK ∨
      tryFitAll (server.contentsAt action.pos) (server.playerSlots action.playerId) = none)
    (result : CASResult) :
    (server.handle action).2.2 = none ∧ (server.attempt handler action result).1 = server := by
  unfold attempt handle
  rcases unsent with other | refused
  · rw [if_pos other]
    exact ⟨rfl, rfl⟩
  · rw [refused]
    split <;> exact ⟨rfl, rfl⟩

variable {all : PlayerSlots} (left : action.action = LEFT_MOUSE_CLICK)
  (fits : tryFitAll (server.contentsAt action.pos) (server.playerSlots action.playerId) = some all)

include left fits

theorem handle_of_fits : ∃ broken,
    (server.handle action).2.2 = some broken ∧ broken.playerId = action.playerId ∧
      broken.pos = action.pos ∧ (server.handle action).1.engine = server.engine ∧
      (server.handle action).1.playerSlots action.playerId = all := by
  refine ⟨⟨action.playerId, action.requestId, action.action, action.pos, action.effExpected⟩, ?_⟩
  unfold handle
  rw [if_neg (not_not.mpr left), fits]
  refine ⟨rfl, rfl, rfl, ?_⟩
  dsimp only
  split
  · next none =>
    rw [none] at fits
    exact ⟨rfl, Option.some.inj fits⟩
  · refine ⟨rfl, ?_⟩
    unfold playerSlots
    rw [InventorySync.getSlots_setSlots, if_pos rfl]

theorem attempt_of_fits (result : CASResult) : ∃ broken, (server.handle action).2.2 = some broken ∧
      if result.status = 0 then (server.attempt handler action result).1.engine =
            (server.engine.clearBlock action.pos.cell).1 ∧
          (server.attempt handler action result).1.playerSlots action.playerId =
            handler.reward broken all
      else (server.attempt handler action result).1.engine = server.engine ∧
        (server.attempt handler action result).1.playerSlots action.playerId = all := by
  obtain ⟨broken, sent, player, pos, engine, held⟩ := handle_of_fits left fits
  refine ⟨broken, sent, ?_⟩
  have processed : (server.attempt handler action result).1 =
      ((server.handle action).1.processResult handler broken result).1 := by
    unfold attempt
    split
    · next none => rw [none] at sent; cases sent
    rename_i some
    rw [some] at sent ⊢
    cases sent
    rfl
  rw [processed]
  unfold processResult
  split
  · refine ⟨by rw [engine, pos], ?_⟩
    rw [← player] at held ⊢
    unfold playerSlots at held ⊢
    rw [InventorySync.getSlots_setSlots, if_pos rfl, held]
  · exact ⟨engine, held⟩

end Attempt

variable {server : BreakServer} {pos : BlockPos} {controller : MultiblockController}

theorem contentsAt_of_owner (owner : server.ownerAt pos = some controller) :
    server.contentsAt pos = server.engine.collectControllerContents controller := by
  simp only [contentsAt, owner]

theorem real_of_contents : ∀ stack ∈ server.contentsAt pos, stack.itemId ≠ 0 := by
  intro stack mem
  unfold contentsAt at mem
  split at mem
  · cases mem
  · exact real_of_collected mem

theorem held_of_contents {stack : InventorySlot} (mem : stack ∈ server.contentsAt pos)
    (some : stack.count ≠ 0) : ∃ controller, server.ownerAt pos = .some controller ∧
      ∃ item, totalOf item (stacksAt server.engine controller.position) ≠ 0 := by
  cases owner : server.ownerAt pos with
  | none =>
    simp only [contentsAt, owner] at mem
    cases mem
  | some controller =>
    have real := real_of_contents stack mem
    rw [contentsAt_of_owner owner] at mem
    refine ⟨controller, rfl, ⟨stack.itemId, stack.metadata, real⟩, ?_⟩
    intro nothing
    rw [← collected_total] at nothing
    have none := sum_eq_zero_iff.mp nothing _
      (mem_map_of_mem (mem_map_of_mem mem))
    simp only [amountOf, stackOf, and_self, if_true] at none
    exact some (UInt8.toNat_inj.mp none)

theorem gone_of_none (none : ∀ stack ∈ server.contentsAt pos, stack.count = 0)
    (owner : server.ownerAt pos = some controller) (item : ItemKey) :
    totalOf item (stacksAt server.engine controller.position) = 0 := by
  rw [contentsAt_of_owner owner] at none
  rw [← collected_total]
  apply sum_eq_zero_iff.mpr
  intro amount mem
  rw [map_map] at mem
  obtain ⟨stack, inContents, rfl⟩ := mem_map.mp mem
  exact amountOf_of_isEmpty item (by simp [PersistSlot.isEmpty, stackOf, none stack inContents])

section Sent

variable {handler : BreakBlockHandler} {server : BreakServer} {action : SetBlockAction}
  {result : CASResult} {all : PlayerSlots} (left : action.action = LEFT_MOUSE_CLICK)
  (fits : tryFitAll (server.contentsAt action.pos) (server.playerSlots action.playerId) = some all)

include left fits

theorem breaks_iff : server.Breaks action result ↔ result.status = 0 := by
  obtain ⟨broken, waits, -⟩ := handle_of_fits left fits
  simp [Breaks, waits]

theorem safe_of_conserves (conserves : Conserves handler server action result) :
    server.Safe action result := by
  obtain ⟨broken, waits, answered⟩ := attempt_of_fits handler left fits result
  by_cases none : ∀ stack ∈ server.contentsAt action.pos, stack.count = 0
  · exact .inr (.inl none)
  by_cases committed : result.status = 0
  · have moved := conserves.moved ((breaks_iff left fits).mpr committed)
    rw [if_pos committed] at answered
    refine .inr (.inr (.inr ⟨committed, fun controller owner => ?_,
      (handsOver_iff fits).mp moved.handedOver⟩))
    by_contra away
    obtain ⟨stack, mem, some⟩ : ∃ stack ∈ server.contentsAt action.pos, stack.count ≠ 0 := by
      simpa using none
    obtain ⟨holder, held, item, present⟩ := held_of_contents mem some
    cases owner.symm.trans held
    have gone := moved.gone controller owner item
    rw [answered.1, stacksAt_clearBlock, if_neg away] at gone
    exact present gone
  · have kept := conserves.kept fun breaks => committed ((breaks_iff left fits).mp breaks)
    rw [if_neg committed] at answered
    have same := answered.2.symm.trans kept.inventory
    exact absurd ((tryFitAll_eq_self_iff real_of_contents fits).mp same) none

theorem conserves_of_safe (safe : server.Safe action result) :
    Conserves handler server action result := by
  obtain ⟨broken, waits, answered⟩ := attempt_of_fits handler left fits result
  rcases safe with other | none | refused | ⟨committed, anchored, unmixed⟩
  · exact absurd left other
  · have same := (tryFitAll_eq_self_iff real_of_contents fits).mpr none
    constructor
    · intro breaks
      rw [if_pos ((breaks_iff left fits).mp breaks)] at answered
      refine ⟨handsOver_of_none none, ⟨broken, all, fits, waits, answered.2⟩, ?_⟩
      intro controller owner item
      rw [answered.1, stacksAt_clearBlock]
      split
      · rfl
      · exact gone_of_none none owner item
    · intro stands
      rw [if_neg fun committed => stands ((breaks_iff left fits).mpr committed)] at answered
      exact ⟨answered.2.trans same, fun controller _ => by rw [answered.1]⟩
  · rw [refused] at fits
    cases fits
  · rw [if_pos committed] at answered
    constructor
    · intro _
      refine ⟨(handsOver_iff fits).mpr unmixed, ⟨broken, all, fits, waits, answered.2⟩, ?_⟩
      intro controller owner item
      rw [answered.1, stacksAt_clearBlock, if_pos (anchored controller owner)]
      rfl
    · intro stands
      exact absurd ((breaks_iff left fits).mpr committed) stands

end Sent

theorem attempt_conserves_iff (handler : BreakBlockHandler) (server : BreakServer)
    (action : SetBlockAction) (result : CASResult) :
    Conserves handler server action result ↔ server.Safe action result := by
  by_cases unsent : action.action ≠ LEFT_MOUSE_CLICK ∨
      tryFitAll (server.contentsAt action.pos) (server.playerSlots action.playerId) = none
  · obtain ⟨none, same⟩ := attempt_of_unsent handler unsent result
    have safe : server.Safe action result := by
      rcases unsent with other | refused
      · exact .inl other
      · exact .inr (.inr (.inl refused))
    refine ⟨fun _ => safe, fun _ => ⟨fun breaks => absurd none breaks.1, fun _ => ?_⟩⟩
    rw [same]
    exact ⟨rfl, fun _ _ => rfl⟩
  · obtain ⟨left, sent⟩ := not_or.mp unsent
    obtain ⟨all, fits⟩ := Option.ne_none_iff_exists'.mp sent
    exact ⟨safe_of_conserves (not_not.mp left) fits, conserves_of_safe (not_not.mp left) fits⟩

end BreakServer

/-- A controller with three ingots in it, under a block of its own. -/
def furnaceServer : BreakServer where
  engine :=
    { entities := AList.insert (⟨5, 5, 5⟩ : Position)
        { id := 0
          machine := some
            { machine := ⟨61, 1, ⟨5, 5, 5⟩, 1, true⟩
              container := ⟨2, 1, [⟨21, 3, 0⟩]⟩
              energy := ⟨10000, 0, 32, 32, 1, .electricity⟩ } } ∅
      controllers := AList.insert 1 ⟨1, ⟨5, 5, 5⟩, 1, [Position.mbPack ⟨5, 5, 5⟩], []⟩ ∅
      nextMachineId := 2 }

def breakFurnace : SetBlockAction :=
  { action := LEFT_MOUSE_CLICK, pos := ⟨5, 5, 5⟩, expectedBlockId := 61, playerId := 7,
    requestId := 1, heldItem := 0, face := 0 }

theorem breakFurnace_duplicates :
    ¬ BreakServer.Conserves ⟨none, fun _ _ _ inv => inv, fun _ _ inv => inv⟩ furnaceServer
      breakFurnace ⟨1, ⟨62, 0⟩⟩ := by
  intro conserves
  have kept := conserves.kept fun breaks => absurd breaks.2 (by decide)
  have amount := congrArg (fun inv => totalOf ⟨21, 0, by decide⟩ inv.slots) kept.inventory
  exact absurd amount (by decide +kernel)

end GtnhPlatform.Actions
