import GtnhPlatform.Data.Machine
import GtnhPlatform.Inventory.ClickTotals

namespace GtnhPlatform.Inventory

open List

/-! The click handler: a rule works on a copy of the player's slots and cursor. -/

variable (state : ClickState)

theorem setSlot_player_length (containerId : UInt8) (slot : UInt16) (value : PersistSlot) :
    (state.setSlot containerId slot value).player.length = state.player.length := by
  unfold ClickState.setSlot
  split
  · exact length_set
  · rfl

theorem mergeLoop_length (usable : Nat → Bool) (stop : MergeResult → Bool) (index : Nat)
    (slots : List PersistSlot) (stack : PersistSlot) :
    (mergeLoop usable stop index slots stack).1.length = slots.length := by
  induction slots generalizing index stack with
  | nil => rfl
  | cons d rest ih =>
    unfold mergeLoop
    split
    · simp only
      split
      · rfl
      · simp only [length_cons, ih]
    · simp only [length_cons, ih]

theorem fillLoop_length (usable : Nat → Bool) (index : Nat) (slots : List PersistSlot)
    (stack : PersistSlot) : (fillLoop usable index slots stack).1.length = slots.length := by
  induction slots generalizing index with
  | nil => rfl
  | cons d rest ih =>
    unfold fillLoop
    split
    · rfl
    · simp only [length_cons, ih]

theorem collect_length (slots : List PersistSlot) (cursor : PersistSlot) (changed : Bool) :
    (collect slots cursor changed).1.length = slots.length := by
  induction slots generalizing cursor changed with
  | nil => rfl
  | cons s rest ih =>
    unfold collect
    split
    · simp only [length_cons, ih]
    · simp only [length_cons, ih]

theorem moveStackToRange_length (player : List PersistSlot) (srcIndex first last : Nat) :
    (moveStackToRange player srcIndex first last).1.length = player.length := by
  unfold moveStackToRange
  cases player[srcIndex]? with
  | none => rfl
  | some stack =>
    simp only
    split
    · rfl
    split
    · rw [mergeLoop_length, length_set]
    · split
      · rw [fillLoop_length, mergeLoop_length, length_set]
      · rw [length_set, fillLoop_length, mergeLoop_length, length_set]

variable (click : ContainerClick)

theorem applyToSlot_player_length (rule : PersistSlot → PersistSlot → Option (PersistSlot × PersistSlot)) :
    (applyToSlot state click rule).1.player.length = state.player.length := by
  unfold applyToSlot
  split
  · rfl
  · split
    · rfl
    · exact setSlot_player_length _ _ _ _

theorem applyQuickMove_player_length :
    (applyQuickMove state click).1.player.length = state.player.length := by
  unfold applyQuickMove
  split
  · rfl
  split
  · rfl
  split
  · split
    · unfold quickMoveToContainer
      simp only
      split
      · exact setSlot_player_length _ _ _ _
      · rw [setSlot_player_length]
        exact setSlot_player_length _ _ _ _
    · unfold quickMoveWithinPlayer
      simp only
      split <;> exact moveStackToRange_length _ _ _ _
  · split
    · unfold quickMoveToPlayer quickMoveInto
      simp only
      split
      · rw [fillLoop_length, mergeLoop_length]
      · rw [setSlot_player_length, fillLoop_length, mergeLoop_length]
    · rfl

theorem applyContainerClick_player_length :
    (applyContainerClick state click).1.player.length = state.player.length := by
  unfold applyContainerClick
  cases click.actionType with
  | click => exact applyToSlot_player_length _ _ _
  | quickMove => exact applyQuickMove_player_length _ _
  | drop =>
    simp only [applyDrop]
    split
    · rfl
    split
    · rfl
    · split
      · exact setSlot_player_length _ _ _ _
      · rfl
  | dragPlace =>
    simp only [applyDragPlace]
    split
    · rfl
    · exact applyToSlot_player_length _ _ _
  | pickupAll =>
    simp only [applyPickupAll]
    split
    · rfl
    · exact collect_length _ _ _
  | unknown byte => rfl

theorem setSlot_container_length (containerId : UInt8) (slot : UInt16) (value : PersistSlot) :
    ((state.setSlot containerId slot value).container.getD []).length =
      (state.container.getD []).length := by
  unfold ClickState.setSlot
  split
  · rfl
  · cases state.container with
    | none => rfl
    | some slots => exact length_set

variable (click : ContainerClick)

theorem applyToSlot_container_length (rule : PersistSlot → PersistSlot → Option (PersistSlot × PersistSlot)) :
    ((applyToSlot state click rule).1.container.getD []).length =
      (state.container.getD []).length := by
  unfold applyToSlot
  split
  · rfl
  · split
    · rfl
    · exact setSlot_container_length _ _ _ _

theorem quickMoveToContainer_container_length (container : List PersistSlot) (src : PersistSlot) :
    ((quickMoveToContainer state click container src).1.container.getD []).length =
      container.length := by
  have filled : (quickMoveInto container src).1.length = container.length := by
    rw [quickMoveInto, fillLoop_length, mergeLoop_length]
  unfold quickMoveToContainer
  dsimp only
  split
  · exact filled
  · rw [setSlot_container_length]
    exact filled

theorem quickMoveToPlayer_container_length (src : PersistSlot) :
    ((quickMoveToPlayer state click src).1.container.getD []).length =
      (state.container.getD []).length := by
  unfold quickMoveToPlayer
  dsimp only
  split
  · exact setSlot_container_length _ _ _ _
  · rw [setSlot_container_length]
    exact setSlot_container_length _ _ _ _

theorem applyQuickMove_container_length :
    ((applyQuickMove state click).1.container.getD []).length =
      (state.container.getD []).length := by
  unfold applyQuickMove
  split
  · rfl
  split
  · rfl
  split
  · split
    · next opened =>
      rw [quickMoveToContainer_container_length, opened]
      rfl
    · rfl
  · split
    · exact quickMoveToPlayer_container_length _ _ _
    · rfl

theorem applyPickupAll_container_length :
    ((applyPickupAll state).1.container.getD []).length = (state.container.getD []).length := by
  unfold applyPickupAll
  split
  · rfl
  · cases state.container with
    | none => rfl
    | some slots => exact collect_length _ _ _

theorem applyContainerClick_container_length (click : ContainerClick) :
    ((applyContainerClick state click).1.container.getD []).length =
      (state.container.getD []).length := by
  unfold applyContainerClick
  cases click.actionType with
  | click => exact applyToSlot_container_length _ _ _
  | quickMove => exact applyQuickMove_container_length _ _
  | drop =>
    simp only [applyDrop]
    split
    · rfl
    split
    · rfl
    · split
      · exact setSlot_container_length _ _ _ _
      · rfl
  | dragPlace =>
    simp only [applyDragPlace]
    split
    · rfl
    · exact applyToSlot_container_length _ _ _
  | pickupAll => exact applyPickupAll_container_length _
  | unknown byte => rfl

abbrev PlayerSlots := { slots : List PersistSlot // slots.length = kInventorySlots }

structure InventoryServer where
  session : Option (List PersistSlot)
  slots : PlayerSlots
  cursor : PersistSlot

structure InventoryAction where
  playerId : Nat
  click : ContainerClick

namespace InventoryServer

variable (server : InventoryServer)

def view (click : ContainerClick) : ClickState where
  player := server.slots.val
  container := if click.containerId = 1 then server.session else none
  cursor := server.cursor

def reaches (action : InventoryAction) : Bool :=
  action.playerId != 0 && (action.click.containerId == 0 || server.session.isSome)

def handle (action : InventoryAction) : InventoryServer :=
  if server.reaches action then
    let state := server.view action.click
    let result := applyContainerClick state action.click
    let session := if action.click.containerId = 1 then result.1.container else server.session
    if result.2 then
      { session := session
        slots := ⟨result.1.player,
          (applyContainerClick_player_length state action.click).trans server.slots.property⟩
        cursor := result.1.cursor }
    else { server with session := session }
  else server

theorem handle_session_length (action : InventoryAction) :
    ((server.handle action).session.getD []).length = (server.session.getD []).length := by
  have kept : (((if action.click.containerId = 1 then
      (applyContainerClick (server.view action.click) action.click).1.container
      else server.session) : Option (List PersistSlot)).getD []).length =
        (server.session.getD []).length := by
    split
    · next opened =>
      rw [applyContainerClick_container_length, view, if_pos opened]
    · rfl
  unfold handle
  split
  · dsimp only
    split
    · exact kept
    · exact kept
  · rfl

def accepted (action : InventoryAction) : Bool :=
  server.reaches action && (applyContainerClick (server.view action.click) action.click).2

def dropped (action : InventoryAction) : List PersistSlot :=
  if server.accepted action then droppedBy (server.view action.click) action.click else []

def machine : Machine InventoryServer InventoryAction PersistSlot :=
  ⟨fun server action => (server.handle action, server.dropped action)⟩

def total (item : ItemKey) (server : InventoryServer) : Nat :=
  totalOf item server.slots.val + totalOf item (server.session.getD []) +
    amountOf item server.cursor

end InventoryServer

end GtnhPlatform.Inventory
