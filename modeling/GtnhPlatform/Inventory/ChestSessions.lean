import GtnhPlatform.Data.Table
import GtnhPlatform.Inventory.ClickAtomicity

namespace GtnhPlatform.Inventory

/-! Chests of many players, each working on a copy of the slots. -/

def kChestSlots : Nat := 27

abbrev ChestSlots := { slots : List PersistSlot // slots.length = kChestSlots }

def ChestSlots.blank : ChestSlots :=
  ⟨List.replicate kChestSlots PersistSlot.empty, List.length_replicate⟩

abbrev StoredSlots := Option ChestSlots

/-- The key of a chest. Its entity type is always `kChestEntityType`. -/
structure PosKey where
  x : Int
  y : Int
  z : Int
  deriving DecidableEq

/-- `alone`, which the code does not keep, says that no session was on the chest
when this one was opened. -/
structure ChestSession where
  pos : PosKey
  slots : ChestSlots
  alone : Bool
  deriving DecidableEq

namespace ChestSession

/-- The callback of `loadSlots`: an empty vector is not copied. -/
def fill (session : ChestSession) (stored : StoredSlots) : ChestSession :=
  { session with slots := stored.getD session.slots }

def seat (session : Option ChestSession) (slots : PlayerSlots) (cursor : PersistSlot) :
    InventoryServer where
  session := session.map fun session => session.slots.val
  slots := slots
  cursor := cursor

def click (session : ChestSession) (slots : PlayerSlots) (cursor : PersistSlot)
    (action : InventoryAction) : ChestSession :=
  { session with
    slots := ⟨((seat (some session) slots cursor).handle action).session.getD [],
      (InventoryServer.handle_session_length _ action).trans session.slots.property⟩ }

end ChestSession

/-- A request that waits for the entity state store, which answers with the
state it held when it was asked. -/
structure ChestLoad where
  playerId : Nat
  pos : PosKey
  stored : StoredSlots
  deriving DecidableEq

structure ChestServer where
  sessions : Table Nat ChestSession
  cache : Table PosKey StoredSlots
  entityStates : Table PosKey StoredSlots
  loads : List ChestLoad
  inventories : Table Nat PlayerSlots
  cursors : Table Nat PersistSlot

inductive ChestInput where
  | openChest (playerId : Nat) (pos : PosKey)
  | loaded (index : Nat)
  | click (action : InventoryAction)
  | closeChest (playerId : Nat) (pos : PosKey)

inductive ChestEvent where
  | dropped (stack : PersistSlot)
  | changed (pos : PosKey) (slots : ChestSlots)
  | shown (playerId : Nat) (session : ChestSession)

namespace ChestServer

def start (entityStates : Table PosKey StoredSlots) (inventories : Table Nat PlayerSlots)
    (cursors : Table Nat PersistSlot) : ChestServer where
  sessions := ∅
  cache := ∅
  entityStates := entityStates
  loads := []
  inventories := inventories
  cursors := cursors

variable (server : ChestServer)

def getSlots (playerId : Nat) : PlayerSlots :=
  (server.inventories.lookup playerId).getD
    ⟨List.replicate kInventorySlots PersistSlot.empty, List.length_replicate⟩

def getCursor (playerId : Nat) : PersistSlot :=
  (server.cursors.lookup playerId).getD PersistSlot.empty

def saveSlots (pos : PosKey) (slots : ChestSlots) : ChestServer :=
  { server with
    cache := AList.insert pos (some slots) server.cache
    entityStates := AList.insert pos (some slots) server.entityStates }

def showLoaded (playerId : Nat) (stored : StoredSlots) : ChestServer × List ChestEvent :=
  match server.sessions.lookup playerId with
  | none => (server, [])
  | some session =>
    ({ server with sessions := AList.insert playerId (session.fill stored) server.sessions },
      [.shown playerId (session.fill stored)])

def unopened (pos : PosKey) : Bool :=
  server.sessions.values.all fun session => session.pos != pos

/-- `ChestOpenHandler::handle`. The first snapshot, of the blank slots, is left
out. -/
def openChest (playerId : Nat) (pos : PosKey) : ChestServer × List ChestEvent :=
  if playerId = 0 then (server, [])
  else
    let session : ChestSession :=
      { pos := pos, slots := ChestSlots.blank, alone := server.unopened pos }
    let opened := { server with sessions := AList.insert playerId session server.sessions }
    match server.cache.lookup pos with
    | some stored => opened.showLoaded playerId stored
    | none =>
      ({ opened with
        loads := server.loads ++ [⟨playerId, pos, (server.entityStates.lookup pos).join⟩] }, [])

def loaded (index : Nat) : ChestServer × List ChestEvent :=
  match server.loads[index]? with
  | none => (server, [])
  | some load =>
    { server with
      cache := AList.insert load.pos load.stored server.cache
      loads := server.loads.eraseIdx index }.showLoaded load.playerId load.stored

def seat (server : ChestServer) (playerId : Nat) : InventoryServer :=
  ChestSession.seat (server.sessions.lookup playerId) (server.getSlots playerId)
    (server.getCursor playerId)

def clickSession (action : InventoryAction) : ChestServer :=
  match server.sessions.lookup action.playerId with
  | none => server
  | some session =>
    { server with
      sessions := AList.insert action.playerId
        (session.click (server.getSlots action.playerId) (server.getCursor action.playerId)
          action) server.sessions }

def setSlotsAndCursor (playerId : Nat) (slots : PlayerSlots) (cursor : PersistSlot) : ChestServer :=
  { server with
    inventories := AList.insert playerId slots server.inventories
    cursors := AList.insert playerId cursor server.cursors }

def persist (action : InventoryAction) : ChestServer × List ChestEvent :=
  if action.click.containerId = 1 then
    match server.sessions.lookup action.playerId with
    | none => (server, [])
    | some session =>
      (server.saveSlots session.pos session.slots, [.changed session.pos session.slots])
  else (server, [])

def click (action : InventoryAction) : ChestServer × List ChestEvent :=
  let seat := server.seat action.playerId
  let clicked := server.clickSession action
  if seat.accepted action then
    let result := seat.handle action
    let stored := clicked.setSlotsAndCursor action.playerId result.slots result.cursor
    let persisted := stored.persist action
    (persisted.1, (seat.dropped action).map ChestEvent.dropped ++ persisted.2)
  else (clicked, [])

/-- `ChestCloseHandler::handle`. The position is the message's. -/
def closeChest (playerId : Nat) (pos : PosKey) : ChestServer :=
  if playerId = 0 then server
  else
    match server.sessions.lookup playerId with
    | none => server
    | some session =>
      { server.saveSlots pos session.slots with sessions := server.sessions.erase playerId }

def step : ChestInput → ChestServer × List ChestEvent
  | .openChest playerId pos => server.openChest playerId pos
  | .loaded index => server.loaded index
  | .click action => server.click action
  | .closeChest playerId pos => (server.closeChest playerId pos, [])

def machine : Machine ChestServer ChestInput ChestEvent := ⟨step⟩

def stored (pos : PosKey) : StoredSlots :=
  ((server.cache ∪ server.entityStates).lookup pos).join

def contents (pos : PosKey) : ChestSlots :=
  (server.stored pos).getD ChestSlots.blank

def storedAmount (item : ItemKey) (stored : StoredSlots) : Nat :=
  totalOf item (stored.getD ChestSlots.blank).val

def total (item : ItemKey) (server : ChestServer) : Nat :=
  Table.total (storedAmount item) (server.cache ∪ server.entityStates) +
    Table.total (fun slots => totalOf item slots.val) server.inventories +
    Table.total (amountOf item) server.cursors

end ChestServer

namespace ChestEvent

def drop? : ChestEvent → Option PersistSlot
  | .dropped stack => some stack
  | _ => none

def change? (pos : PosKey) : ChestEvent → Option ChestSlots
  | .changed at_ slots => if at_ = pos then some slots else none
  | _ => none

end ChestEvent

def dropsOf (events : List ChestEvent) : List PersistSlot := events.filterMap ChestEvent.drop?

def lastChange (pos : PosKey) (events : List ChestEvent) : Option ChestSlots :=
  events.reverse.findSome? (ChestEvent.change? pos)

end GtnhPlatform.Inventory
