import GtnhPlatform.Inventory.ChestSessions

namespace GtnhPlatform.Inventory

/-! Machine windows. Once linked, clicks work on the entity's slots. -/

structure WindowEntity where
  pos : PosKey
  machineId : Option UInt16
  container : Option (List PersistSlot)
  busy : Bool

/-- `entity`, which the code keeps in the callback of the load only, is the one that
was found when the window was opened. -/
structure MachineSession where
  pos : PosKey
  entityType : UInt16
  slots : List PersistSlot
  entity : Nat
  link : Option Nat
  deriving DecidableEq

abbrev StateKey := PosKey × UInt16

/-- What the callback of a load remembers. -/
structure OpenedWindow where
  playerId : Nat
  entity : Nat
  key : StateKey

/-- A load that waits for the entity state store, which answers with the slots it
held when it was asked. -/
structure WindowLoad where
  window : OpenedWindow
  stored : List PersistSlot

/-- The main thread has queued the links of answered loads. An absent or unreadable
blob is an empty vector. -/
structure WindowServer where
  entities : Table Nat WindowEntity
  sessions : Table Nat MachineSession
  cache : Table StateKey (List PersistSlot)
  entityStates : Table StateKey (List PersistSlot)
  loads : List WindowLoad
  mainQueue : List OpenedWindow
  inventories : Table Nat PlayerSlots
  cursors : Table Nat PersistSlot

/-- `entityChanged` is whatever the simulation makes of an entity: a block change
takes its machine away or gives it a new one, an explosion destroys it, a tick
changes its slots. -/
inductive WindowInput where
  | openMachine (playerId : Nat) (pos : PosKey)
  | loaded (index : Nat)
  | linked
  | click (action : InventoryAction)
  | closeMachine (playerId : Nat)
  | entityChanged (entity : Nat) (becomes : Option WindowEntity)

/-- The loop that copies loaded slots over those of a session. -/
def overlay (slots loaded : List PersistSlot) : List PersistSlot :=
  loaded.take slots.length ++ slots.drop loaded.length

def restore : List PersistSlot → List PersistSlot → List PersistSlot
  | live :: rest, slot :: slots =>
    (if live.itemId = 0 ∧ slot.itemId ≠ 0 then slot else live) :: restore rest slots
  | live, _ => live

namespace WindowEntity

def freshIdle (entity : WindowEntity) (slots : List PersistSlot) : Bool :=
  !entity.busy && slots.all fun slot => slot.itemId == 0

end WindowEntity

namespace WindowServer

variable (server : WindowServer)

def getSlots (playerId : Nat) : PlayerSlots :=
  (server.inventories.lookup playerId).getD
    ⟨List.replicate kInventorySlots PersistSlot.empty, List.length_replicate⟩

def getCursor (playerId : Nat) : PersistSlot :=
  (server.cursors.lookup playerId).getD PersistSlot.empty

def container (server : WindowServer) (entity : Nat) : Option (List PersistSlot) :=
  (server.entities.lookup entity).bind WindowEntity.container

def liveLink (session : MachineSession) : Option Nat :=
  session.link.filter fun entity => (server.container entity).isSome

def slotsRef (session : MachineSession) : List PersistSlot :=
  ((server.liveLink session).bind server.container).getD session.slots

def entityAt (pos : PosKey) : Option (Nat × WindowEntity) :=
  (server.entities.entries.find? fun entry => entry.2.pos = pos).map fun entry =>
    (entry.1, entry.2)

def setContainer (entity : Nat) (slots : List PersistSlot) : WindowServer :=
  match server.entities.lookup entity with
  | none => server
  | some found =>
    { server with
      entities := AList.insert entity { found with container := some slots } server.entities }

def writeSlots (playerId : Nat) (session : MachineSession)
    (slots : List PersistSlot) : WindowServer :=
  match server.liveLink session with
  | some entity => server.setContainer entity slots
  | none =>
    { server with
      sessions := AList.insert playerId { session with slots := slots } server.sessions }

def saveSlots (key : StateKey) (slots : List PersistSlot) : WindowServer :=
  { server with
    cache := AList.insert key slots server.cache
    entityStates := AList.insert key slots server.entityStates }

/-- The callback of `loadSlots`, for whatever session the player has by now. -/
def showLoaded (window : OpenedWindow) (stored : List PersistSlot) : WindowServer :=
  let filled :=
    match server.sessions.lookup window.playerId with
    | none => server
    | some session =>
      { server with
        sessions := AList.insert window.playerId
          { session with slots := overlay session.slots stored } server.sessions }
  { filled with mainQueue := filled.mainQueue ++ [window] }

/-- `MachineOpenHandler::handle`. A position without an entity is initialised from the
chunk store, which is a change of entities. -/
def openMachine (playerId : Nat) (pos : PosKey) : WindowServer :=
  if playerId = 0 then server
  else
    match server.entityAt pos with
    | none => server
    | some (entity, found) =>
      match found.machineId with
      | none => server
      | some machineId =>
        let slotCount := (found.container.map List.length).getD 0
        let session : MachineSession :=
          { pos := pos, entityType := machineId
            slots := List.replicate slotCount PersistSlot.empty
            entity := entity, link := none }
        let opened :=
          { server with sessions := AList.insert playerId session server.sessions }
        let window : OpenedWindow :=
          { playerId := playerId, entity := entity, key := (pos, machineId) }
        match server.cache.lookup (pos, machineId) with
        | some stored => opened.showLoaded window stored
        | none =>
          { opened with
            loads := server.loads ++
              [⟨window, (server.entityStates.lookup (pos, machineId)).getD []⟩] }

def loaded (index : Nat) : WindowServer :=
  match server.loads[index]? with
  | none => server
  | some load =>
    { server with
      cache := AList.insert load.window.key load.stored server.cache
      loads := server.loads.eraseIdx index }.showLoaded load.window load.stored

def link (server : WindowServer) (window : OpenedWindow) : WindowServer :=
  match server.entities.lookup window.entity, server.sessions.lookup window.playerId with
  | some entity, some session =>
    match entity.container with
    | none => server
    | some slots =>
      let restored :=
        if entity.freshIdle slots then
          server.setContainer window.entity (restore slots session.slots)
        else server
      { restored with
        sessions := AList.insert window.playerId { session with link := some window.entity }
          restored.sessions }
  | _, _ => server

def linked : WindowServer :=
  match server.mainQueue with
  | [] => server
  | window :: rest => { server with mainQueue := rest }.link window

def seat (playerId : Nat) : InventoryServer where
  session := (server.sessions.lookup playerId).map server.slotsRef
  slots := server.getSlots playerId
  cursor := server.getCursor playerId

def setSlotsAndCursor (playerId : Nat) (slots : PlayerSlots)
    (cursor : PersistSlot) : WindowServer :=
  { server with
    inventories := AList.insert playerId slots server.inventories
    cursors := AList.insert playerId cursor server.cursors }

def clickSession (action : InventoryAction) : WindowServer :=
  match server.sessions.lookup action.playerId with
  | none => server
  | some session =>
    server.writeSlots action.playerId session
      (((server.seat action.playerId).handle action).session.getD [])

def persist (action : InventoryAction) : WindowServer :=
  if action.click.containerId = 1 then
    match server.sessions.lookup action.playerId with
    | none => server
    | some session =>
      server.saveSlots (session.pos, session.entityType) (server.slotsRef session)
  else server

def click (action : InventoryAction) : WindowServer :=
  let seat := server.seat action.playerId
  let clicked := server.clickSession action
  if seat.accepted action then
    (clicked.setSlotsAndCursor action.playerId (seat.handle action).slots
      (seat.handle action).cursor).persist action
  else clicked

def closeMachine (playerId : Nat) : WindowServer :=
  if playerId = 0 then server
  else
    match server.sessions.lookup playerId with
    | none => server
    | some session =>
      { server.saveSlots (session.pos, session.entityType) (server.slotsRef session) with
        sessions := server.sessions.erase playerId }

def entityChanged (entity : Nat) : Option WindowEntity → WindowServer
  | none => { server with entities := server.entities.erase entity }
  | some becomes => { server with entities := AList.insert entity becomes server.entities }

def step : WindowInput → WindowServer
  | .openMachine playerId pos => server.openMachine playerId pos
  | .loaded index => server.loaded index
  | .linked => server.linked
  | .click action => server.click action
  | .closeMachine playerId => server.closeMachine playerId
  | .entityChanged entity becomes => server.entityChanged entity becomes

def machine : Machine WindowServer WindowInput Empty := ⟨fun server input =>
    (server.step input, [])⟩

def stored (key : StateKey) : List PersistSlot :=
  ((server.cache ∪ server.entityStates).lookup key).getD []

end WindowServer

end GtnhPlatform.Inventory
