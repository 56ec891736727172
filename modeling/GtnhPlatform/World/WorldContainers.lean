import GtnhPlatform.Data.Machine
import GtnhPlatform.Data.Table
import GtnhPlatform.World.InventoryContainer

namespace GtnhPlatform.World

/-! Containers that players have open, and the loads and saves that wait. -/

structure BlockPos where
  x : UInt32
  y : UInt32
  z : UInt32
  deriving DecidableEq

def packKey (pos : BlockPos) : UInt64 :=
  (pos.x.toUInt64 <<< 32) ||| (pos.y.toUInt64 <<< 16) ||| pos.z.toUInt16.toUInt64

/-- `node` is what an iterator to the entry holds on to; `pos` is where the
entry was opened, and `changes` counts the actions that have changed it. The
source keeps neither of the last two. -/
structure OpenContainer where
  entity : Nat
  playerId : UInt64
  node : Nat
  pos : BlockPos
  changes : Nat
  deriving DecidableEq

structure PendingLoad where
  pos : BlockPos
  container : InventoryContainer
  playerId : UInt64
  key : UInt64

/-- A save captures the iterator. `changes` is the count of its entry when the
save was requested. -/
structure PendingSave where
  pos : BlockPos
  blob : StoredState
  key : UInt64
  node : Nat
  changes : Nat

/-- What happens to entries: one is released with its last contents after a save
was acknowledged, one is replaced by another, or an iterator is used after its
entry is gone. -/
inductive ContainerEvent where
  | released (node : Nat) (openedAt : BlockPos) (last : InventoryContainer) (savedAt : BlockPos)
      (saved : StoredState)
  | replaced (key : UInt64)
  | dangling (key : UInt64)
  deriving DecidableEq

/-- `online` says whether the client of the store is connected; offline it
answers at once. -/
inductive ContainerInput where
  | openBlock (playerId : UInt64) (pos : BlockPos) (entityType : UInt16) (online : Bool)
  | closeBlock (playerId : UInt64) (pos : BlockPos) (online : Bool)
  | act (playerId : UInt64) (pos : BlockPos) (action srcSlot dstSlot count : UInt8)
  | loaded (index : Nat) (stat : StoredState)
  | saved (index : Nat) (success : Bool)

structure WorldContainers where
  openContainers : Table UInt64 OpenContainer := ∅
  entities : Table Nat InventoryContainer := ∅
  nextEntity : Nat := 0
  nextNode : Nat := 0
  loads : List PendingLoad := []
  saves : List PendingSave := []
  undefined : Bool := false

namespace WorldContainers

variable (world : WorldContainers)

/-- An entry that is there keeps its node and gets the new contents. -/
def openContainer (pos : BlockPos) (container : InventoryContainer) (playerId : UInt64)
    (key : UInt64) : WorldContainers × List ContainerEvent :=
  let entity := world.nextEntity
  let created :=
    { world with
      entities := AList.insert entity container world.entities
      nextEntity := entity + 1 }
  match world.openContainers.lookup key with
  | none =>
    ({ created with
        openContainers :=
          AList.insert key ⟨entity, playerId, world.nextNode, pos, 0⟩ world.openContainers
        nextNode := world.nextNode + 1 }, [])
  | some known =>
    ({ created with
        openContainers :=
          AList.insert key ⟨entity, playerId, known.node, pos, 0⟩ world.openContainers },
      [.replaced key])

def hydrate (load : PendingLoad) (stat : StoredState) :
    WorldContainers × List ContainerEvent :=
  let opened :=
    match stat with
    | .empty => load.container
    | blob => deserializeFromBlob blob load.container
  world.openContainer load.pos opened load.playerId load.key

def onContainerOpen (playerId : UInt64) (pos : BlockPos) (entityType : UInt16) (online : Bool) :
    WorldContainers × List ContainerEvent :=
  let key := packKey pos
  if (world.openContainers.lookup key).isSome then (world, [])
  else
    let slotCount := slotCountForType entityType
    let container : InventoryContainer :=
      { entityType, slotCount, slots := List.replicate slotCount.toNat .empty }
    let load : PendingLoad := ⟨pos, container, playerId, key⟩
    if online then ({ world with loads := world.loads ++ [load] }, [])
    else world.hydrate load .empty

/-- Through an iterator whose entry is gone the behaviour is undefined. -/
def releaseContainer (save : PendingSave) : WorldContainers × List ContainerEvent :=
  match world.openContainers.lookup save.key with
  | some entry =>
    if entry.node = save.node then
      ({ world with
          entities := world.entities.erase entry.entity
          openContainers := world.openContainers.erase save.key },
        [.released entry.node entry.pos ((world.entities.lookup entry.entity).getD {}) save.pos
          save.blob])
    else ({ world with undefined := true }, [.dangling save.key])
  | none => ({ world with undefined := true }, [.dangling save.key])

def entryOf (playerId : UInt64) (pos : BlockPos) : Option OpenContainer :=
  (world.openContainers.lookup (packKey pos)).filter fun entry => entry.playerId = playerId

/-- Offline the save fails at once and the container stays open. -/
def onContainerClose (playerId : UInt64) (pos : BlockPos) (online : Bool) : WorldContainers :=
  match world.entryOf playerId pos with
  | none => world
  | some entry =>
    let container := (world.entities.lookup entry.entity).getD {}
    if online then
      { world with
        saves := world.saves ++
          [⟨pos, serializeToBlob container, packKey pos, entry.node, entry.changes⟩] }
    else world

def onContainerAction (playerId : UInt64) (pos : BlockPos)
    (action srcSlot dstSlot count : UInt8) : WorldContainers :=
  match world.entryOf playerId pos with
  | none => world
  | some entry =>
    let container := (world.entities.lookup entry.entity).getD {}
    let acted := container.act action srcSlot dstSlot count
    let changes := if acted = container then entry.changes else entry.changes + 1
    { world with
      entities := AList.insert entry.entity acted world.entities
      openContainers := AList.insert (packKey pos) { entry with changes := changes }
        world.openContainers }

def handle (input : ContainerInput) : WorldContainers × List ContainerEvent :=
  if world.undefined then (world, [])
  else
    match input with
    | .openBlock playerId pos entityType online =>
      world.onContainerOpen playerId pos entityType online
    | .closeBlock playerId pos online => (world.onContainerClose playerId pos online, [])
    | .act playerId pos action srcSlot dstSlot count =>
      (world.onContainerAction playerId pos action srcSlot dstSlot count, [])
    | .loaded index stat =>
      match world.loads[index]? with
      | none => (world, [])
      | some load => { world with loads := world.loads.eraseIdx index }.hydrate load stat
    | .saved index success =>
      match world.saves[index]? with
      | none => (world, [])
      | some save =>
        let answered := { world with saves := world.saves.eraseIdx index }
        if success then answered.releaseContainer save else (answered, [])

def machine : Machine WorldContainers ContainerInput ContainerEvent := ⟨handle⟩

end WorldContainers

end GtnhPlatform.World
