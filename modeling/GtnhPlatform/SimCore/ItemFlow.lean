import GtnhPlatform.PipeNetwork.ItemTransport
import GtnhPlatform.Sim.Components
import GtnhPlatform.World.InventoryContainer

namespace GtnhPlatform.SimCore

open PipeNetwork (ItemSlot ItemTransferReq ItemTransferResp ConsumedItemEvent
  PipeNetworkService)
open PipeNetwork.PipeNetworkService (ItemNodeUpdate)
open Sim (MachineRegistry)
open World (InventorySlot)

/-! Items between machines and pipes. The windows and saved states that are
brought up to date hold no items of their own. -/

def faceRoleNone : UInt8 := 0
def faceRoleInput : UInt8 := 1

structure ItemMachine where
  entity : Nat
  position : PipeNetwork.Position
  machineId : UInt16
  sideConfig : Fin 6 → UInt8
  slots : List InventorySlot

structure ItemFlowEvent where
  nodeId : Nat
  fromNodeId : Nat
  itemId : UInt16
  count : Int8
  position : PipeNetwork.Position

namespace ItemMachine

/-- The slots from `slots_in` on; a negative number is past every slot. -/
def outputItems (machine : ItemMachine) (slotsIn : Int) : List ItemSlot :=
  if slotsIn < 0 then []
  else
    ((machine.slots.drop slotsIn.toNat).filter fun slot =>
      slot.itemId != 0 && decide (0 < slot.count)).map fun slot =>
        ⟨slot.itemId.toNat, slot.count.toNat⟩

def outputsOf (registry : MachineRegistry) (machine : ItemMachine) : List ItemSlot :=
  match registry.get machine.machineId with
  | none => machine.outputItems 0
  | some info => machine.outputItems info.slotsIn

/-- What is published; the slots are not touched. -/
def pushOutputToPipe (registry : MachineRegistry) (machine : ItemMachine) : List ItemNodeUpdate :=
  if machine.outputsOf registry = [] then []
  else [{
    nodeId := machine.entity
    position := machine.position
    capacity := 0
    isSource := true
    isSink := false
    items := machine.outputsOf registry
    connectedNodes := [] }]

def faceAllowsInput (machine : ItemMachine) : Bool :=
  (List.finRange 6).any fun face =>
    machine.sideConfig face == faceRoleInput || machine.sideConfig face == faceRoleNone

def inputSlots (registry : MachineRegistry) (machine : ItemMachine) : Int :=
  match registry.get machine.machineId with
  | none => machine.slots.length
  | some info => info.slotsIn

end ItemMachine

/-- A loop over the first slots that changes the first one it is looking for. -/
def changeFirst (choose : InventorySlot → Bool) (change : InventorySlot → InventorySlot) :
    Nat → List InventorySlot → Option (List InventorySlot)
  | 0, _ => none
  | _, [] => none
  | limit + 1, slot :: rest =>
    if choose slot then some (change slot :: rest)
    else (changeFirst choose change limit rest).map (slot :: ·)

def isEmptySlot (slot : InventorySlot) : Bool := slot.itemId == 0

def canMerge (itemId : UInt16) (slot : InventorySlot) : Bool :=
  slot.itemId == itemId && decide (slot.count < 64)

/-- What is more than a stack holds is not put anywhere. -/
def mergeInto (count : UInt8) (slot : InventorySlot) : InventorySlot :=
  { slot with count := slot.count + if count < 64 - slot.count then count else 64 - slot.count }

def deliverToSlots (itemId : UInt16) (count : UInt8) (slotsIn : Nat) (slots : List InventorySlot) :
    Option (List InventorySlot) :=
  match changeFirst isEmptySlot (fun _ => ⟨itemId, count, 0⟩) slotsIn slots with
  | some filled => some filled
  | none => changeFirst (canMerge itemId) (mergeInto count) slotsIn slots

namespace ItemFlowHandler

variable (registry : MachineRegistry)

def deliver (machine : ItemMachine) (flow : ItemFlowEvent) : Option ItemMachine :=
  if machine.faceAllowsInput = false ∨ machine.inputSlots registry ≤ 0 then none
  else
    (deliverToSlots flow.itemId flow.count.toUInt8 (machine.inputSlots registry).toNat
      machine.slots).map fun slots => { machine with slots := slots }

def deliverAt (flow : ItemFlowEvent) : List ItemMachine → Option (List ItemMachine)
  | [] => none
  | machine :: rest =>
    if machine.position = flow.position then
      (deliver registry machine flow).map (· :: rest)
    else (deliverAt flow rest).map (machine :: ·)

def handle (machines : List ItemMachine) (flow : ItemFlowEvent) :
    List ItemMachine × List ItemNodeUpdate :=
  if flow.fromNodeId = 0 ∨ flow.itemId = 0 ∨ flow.count ≤ 0 then (machines, [])
  else
    match deliverAt registry flow machines with
    | none => (machines, [])
    | some delivered =>
      (delivered, [{
        nodeId := flow.fromNodeId
        position := flow.position
        capacity := 0
        isSource := false
        isSink := false
        items := []
        connectedNodes := [] }])

end ItemFlowHandler

/-- A response names no item; the one of its request stands beside it. -/
structure ItemWorld where
  machines : List ItemMachine
  pipes : PipeNetworkService
  updates : List ItemNodeUpdate := []
  requests : List ItemTransferReq := []
  responses : List (UInt16 × ItemTransferResp) := []
  flows : List ItemFlowEvent := []

/-- Messages arrive in any order: an input says which one is next. -/
inductive ItemInput where
  | recipeCompleted (machine : Nat)
  | itemNodeUpdate (index : Nat)
  | transferRequest (index : Nat)
  | transferResponse (index : Nat)
  | tick
  | itemFlow (index : Nat)

/-- What the service publishes for a stack that a machine consumes. -/
def flowOf (event : ConsumedItemEvent) : ItemFlowEvent where
  nodeId := event.sinkNodeId
  fromNodeId := event.sourceNodeId
  itemId := UInt16.ofNat event.item.itemId
  count := (UInt8.ofNat event.item.count).toInt8
  position := event.position

namespace ItemWorld

variable (registry : MachineRegistry)

def handle (state : ItemWorld) : ItemInput → ItemWorld
  | .recipeCompleted index =>
    match state.machines[index]? with
    | none => state
    | some machine =>
      { state with updates := state.updates ++ machine.pushOutputToPipe registry }
  | .itemNodeUpdate index =>
    match state.updates[index]? with
    | none => state
    | some update =>
      { state with
        updates := state.updates.eraseIdx index
        pipes := state.pipes.handleItemNodeUpdate update }
  | .transferRequest index =>
    match state.requests[index]? with
    | none => state
    | some request =>
      let (pipes, response) := state.pipes.handleItemTransferRequest request
      { state with
        requests := state.requests.eraseIdx index
        responses := state.responses ++ [(request.itemId, response)]
        pipes := pipes }
  -- the response is logged
  | .transferResponse index => { state with responses := state.responses.eraseIdx index }
  | .tick =>
    let (manager, events) := state.pipes.networkManager.tickItemNetworks
    { state with
      pipes := { state.pipes with networkManager := manager }
      flows := state.flows ++ events.map flowOf }
  | .itemFlow index =>
    match state.flows[index]? with
    | none => state
    | some flow =>
      let (machines, updates) := ItemFlowHandler.handle registry state.machines flow
      { state with
        machines := machines
        updates := state.updates ++ updates
        flows := state.flows.eraseIdx index }

def machine : Machine ItemWorld ItemInput Empty := ⟨fun state input =>
    (state.handle registry input, [])⟩

end ItemWorld

end GtnhPlatform.SimCore
