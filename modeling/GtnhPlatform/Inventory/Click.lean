import GtnhPlatform.Inventory.Slots

namespace GtnhPlatform.Inventory

/-! The click rules; a rejected rule may leave the state touched. -/

inductive InvActionType where
  | click
  | quickMove
  | drop
  | dragPlace
  | pickupAll
  | unknown (byte : UInt8)
  deriving DecidableEq

inductive InvButton where
  | left
  | right
  | unknown (byte : UInt8)
  deriving DecidableEq

structure ContainerClick where
  actionType : InvActionType
  button : InvButton
  containerId : UInt8
  slot : UInt16

structure ClickState where
  player : List PersistSlot
  container : Option (List PersistSlot)
  cursor : PersistSlot

namespace ClickState

def slotAt (state : ClickState) (containerId : UInt8) (slot : UInt16) : Option PersistSlot :=
  if containerId = 0 then
    if kInventorySlots ≤ slot.toNat then none else state.player[slot.toNat]?
  else state.container.bind fun slots => slots[slot.toNat]?

def setSlot (state : ClickState) (containerId : UInt8) (slot : UInt16)
    (value : PersistSlot) : ClickState :=
  if containerId = 0 then { state with player := state.player.set slot.toNat value }
  else { state with container := state.container.map fun slots => slots.set slot.toNat value }

def total (item : ItemKey) (state : ClickState) : Nat :=
  totalOf item state.player + totalOf item (state.container.getD []) + amountOf item state.cursor

end ClickState

def takeOne (cursor : PersistSlot) : PersistSlot :=
  if cursor.count - 1 == 0 then PersistSlot.empty
  else { cursor with count := cursor.count - 1 }

def placeOne (tgt cursor : PersistSlot) : Option (PersistSlot × PersistSlot) :=
  if tgt.isEmpty then some ({ cursor with count := 1 }, takeOne cursor)
  else if sameStack tgt cursor && decide (tgt.count < kMaxStack) then
    some ({ tgt with count := tgt.count + 1 }, takeOne cursor)
  else none

def rightClick (tgt cursor : PersistSlot) : Option (PersistSlot × PersistSlot) :=
  if cursor.isEmpty then
    if tgt.isEmpty then none
    else
      let half := UInt8.ofNat ((tgt.count.toNat + 1) / 2)
      let left := tgt.count - half
      some (if left == 0 then PersistSlot.empty else { tgt with count := left },
        { tgt with count := half })
  else placeOne tgt cursor

def leftClick (tgt cursor : PersistSlot) : Option (PersistSlot × PersistSlot) :=
  if cursor.isEmpty then
    if tgt.isEmpty then none else some (PersistSlot.empty, tgt)
  else if tgt.isEmpty then some (cursor, PersistSlot.empty)
  else if sameStack tgt cursor && decide (tgt.count < kMaxStack) then
    let merged := mergeInto tgt cursor
    some (merged.dst, merged.src)
  else some (cursor, tgt)

variable (state : ClickState)

variable (click : ContainerClick)

def applyToSlot (rule : PersistSlot → PersistSlot → Option (PersistSlot × PersistSlot)) :
    ClickState × Bool :=
  match state.slotAt click.containerId click.slot with
  | none => (state, false)
  | some tgt =>
    match rule tgt state.cursor with
    | none => (state, false)
    | some (tgt, cursor) =>
      ({ state.setSlot click.containerId click.slot tgt with cursor := cursor }, true)

def applyClick : ClickState × Bool :=
  applyToSlot state click (if click.button = .right then rightClick else leftClick)

def applyDragPlace : ClickState × Bool :=
  if state.cursor.isEmpty then (state, false)
  else applyToSlot state click placeOne

def applyDrop : ClickState × Bool :=
  if !state.cursor.isEmpty then ({ state with cursor := PersistSlot.empty }, true)
  else
    match state.slotAt click.containerId click.slot with
    | none => (state, false)
    | some tgt =>
      if !tgt.isEmpty then
        (state.setSlot click.containerId click.slot PersistSlot.empty, true)
      else (state, false)

/-! Moving a whole stack. `usable` is the range of the loop. -/

def mergeLoop (usable : Nat → Bool) (stop : MergeResult → Bool) :
    Nat → List PersistSlot → PersistSlot → List PersistSlot × PersistSlot
  | _, [], stack => ([], stack)
  | index, d :: rest, stack =>
    if usable index && sameStack d stack && decide (d.count < kMaxStack) then
      let merged := mergeInto d stack
      if stop merged then (merged.dst :: rest, merged.src)
      else
        let (slots, left) := mergeLoop usable stop (index + 1) rest merged.src
        (merged.dst :: slots, left)
    else
      let (slots, left) := mergeLoop usable stop (index + 1) rest stack
      (d :: slots, left)

def fillLoop (usable : Nat → Bool) :
    Nat → List PersistSlot → PersistSlot → List PersistSlot × PersistSlot
  | _, [], stack => ([], stack)
  | index, d :: rest, stack =>
    if usable index && d.isEmpty then (stack :: rest, PersistSlot.empty)
    else
      let (slots, left) := fillLoop usable (index + 1) rest stack
      (d :: slots, left)

def quickMoveInto (slots : List PersistSlot) (stack : PersistSlot) :
    List PersistSlot × PersistSlot :=
  let (slots, left) := mergeLoop (fun _ => true)
    (fun merged => decide (0 < merged.moved) && merged.src.isEmpty) 0 slots stack
  fillLoop (fun _ => true) 0 slots left

def moveStackToRange (player : List PersistSlot) (srcIndex first last : Nat) :
    List PersistSlot × Bool :=
  match player[srcIndex]? with
  | none => (player, false)
  | some stack =>
    if stack.isEmpty then (player, false)
    else
      let usable := fun index => first ≤ index && index < last && index != srcIndex
      let (slots, left) := mergeLoop usable
        (fun merged => merged.moved == 0 || merged.src.isEmpty) 0
        (player.set srcIndex PersistSlot.empty) stack
      if left.isEmpty then (slots, true)
      else
        let (slots, left) := fillLoop usable 0 slots left
        if left.isEmpty then (slots, true) else (slots.set srcIndex left, false)

def quickMoveToContainer (container : List PersistSlot) (src : PersistSlot) : ClickState × Bool :=
  let taken := state.setSlot click.containerId click.slot PersistSlot.empty
  let (slots, left) := quickMoveInto container src
  let moved := { taken with container := some slots }
  if left.isEmpty then (moved, true)
  else (moved.setSlot click.containerId click.slot left, false)

def quickMoveToPlayer (src : PersistSlot) : ClickState × Bool :=
  let taken := state.setSlot click.containerId click.slot PersistSlot.empty
  let (slots, left) := quickMoveInto state.player src
  let moved := { taken with player := slots }
  if left.isEmpty then (moved, true)
  else (moved.setSlot click.containerId click.slot left, false)

def quickMoveWithinPlayer : ClickState × Bool :=
  let srcIndex := click.slot.toNat
  let (player, found) :=
    if srcIndex < kHotbarCount then
      moveStackToRange state.player srcIndex kHotbarCount kInventorySlots
    else moveStackToRange state.player srcIndex 0 kHotbarCount
  ({ state with player := player }, found)

def applyQuickMove : ClickState × Bool :=
  match state.slotAt click.containerId click.slot with
  | none => (state, false)
  | some src =>
    if src.isEmpty then (state, false)
    else if click.containerId = 0 then
      match state.container with
      | some (first :: others) => quickMoveToContainer state click (first :: others) src
      | _ => quickMoveWithinPlayer state click
    else
      match state.container with
      | some (_ :: _) => quickMoveToPlayer state click src
      | _ => (state, false)

def collect : List PersistSlot → PersistSlot → Bool → List PersistSlot × PersistSlot × Bool
  | [], cursor, changed => ([], cursor, changed)
  | s :: rest, cursor, changed =>
    if !s.isEmpty && sameStack s cursor && decide (cursor.count < kMaxStack) then
      let merged := mergeInto cursor s
      let (slots, cursor, changed) := collect rest merged.dst (changed || 0 < merged.moved)
      (merged.src :: slots, cursor, changed)
    else
      let (slots, cursor, changed) := collect rest cursor changed
      (s :: slots, cursor, changed)

def applyPickupAll : ClickState × Bool :=
  if state.cursor.isEmpty then (state, false)
  else
    let (container, cursor, changed) :=
      match state.container with
      | some slots =>
        let (slots, cursor, changed) := collect slots state.cursor false
        (some slots, cursor, changed)
      | none => (none, state.cursor, false)
    let (player, cursor, changed) := collect state.player cursor changed
    ({ player := player, container := container, cursor := cursor }, changed)

def applyContainerClick : ClickState × Bool :=
  match click.actionType with
  | .click => applyClick state click
  | .quickMove => applyQuickMove state click
  | .drop => applyDrop state click
  | .dragPlace => applyDragPlace state click
  | .pickupAll => applyPickupAll state
  | .unknown _ => (state, false)

def droppedBy : List PersistSlot :=
  if click.actionType = .drop then
    if !state.cursor.isEmpty then [state.cursor]
    else (state.slotAt click.containerId click.slot).toList
  else []

end GtnhPlatform.Inventory
