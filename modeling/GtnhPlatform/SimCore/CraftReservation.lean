import GtnhPlatform.Crafting.Recipe
import GtnhPlatform.Data.Machine
import GtnhPlatform.Data.Table
import GtnhPlatform.Data.Word

namespace GtnhPlatform.SimCore

open Common Crafting Inventory

/-! The resource reservations of a craft. Amounts on the wire are `int32_t`. -/

def kMaxRetries : Nat := 6
def kRetryBackoffTicks : Nat := 10
def kReservationExpiryTicks : Nat := 100

structure RequirementReservation where
  requirementId : Nat
  kind : ResourceKind
  resourceId : Nat
  requiredAmount : Int
  acceptedAmount : Int
  requestId : Nat
  epoch : Nat
  deriving DecidableEq

namespace RequirementReservation

variable (reservation : RequirementReservation)

def remainingAmount : Int :=
  max (reservation.requiredAmount - reservation.acceptedAmount) 0

def fullyAccepted : Bool :=
  decide (0 < reservation.requiredAmount ∧ reservation.requiredAmount ≤ reservation.acceptedAmount)

def recordAccepted (amount : Int) :
    RequirementReservation :=
  if amount ≤ 0 ∨ reservation.requiredAmount ≤ 0 then reservation
  else { reservation with
    acceptedAmount := reservation.acceptedAmount + min amount reservation.remainingAmount }

end RequirementReservation

structure PendingCraft where
  recipeId : String
  ownerId : Nat
  entityId : Nat
  requirements : List RequirementReservation
  requestId : Nat
  epoch : Nat
  retryCount : Nat
  expiryTick : Nat
  nextRetryTick : Nat
  deriving DecidableEq

namespace PendingCraft

def carries (requestId : Nat) (reservation : RequirementReservation) : Bool :=
  reservation.requestId != 0 && reservation.requestId == requestId

variable (craft : PendingCraft)

def findReservationByRequestId (requestId : Nat) :
    Option RequirementReservation :=
  craft.requirements.find? (carries requestId)

def fullyAccepted (craft : PendingCraft) : Bool :=
  !craft.requirements.isEmpty && craft.requirements.all RequirementReservation.fullyAccepted

def expired (nowTick : Nat) : Bool :=
  craft.expiryTick != 0 && decide (craft.expiryTick ≤ nowTick)

def retryDue (nowTick : Nat) : Bool := decide (craft.nextRetryTick ≤ nowTick)

def recordAccepted (requestId : Nat) (amount : Int) : PendingCraft :=
  { craft with requirements := updateFirst craft.requirements }
where
  updateFirst : List RequirementReservation → List RequirementReservation
    | [] => []
    | reservation :: rest =>
      if carries requestId reservation then reservation.recordAccepted amount :: rest
      else reservation :: updateFirst rest

end PendingCraft

structure RecipeProgress where
  recipeId : String := ""
  remainingTicks : UInt32 := 0
  isProcessing : Bool := false
  needsOutput : Bool := false
  pendingCraft : Option PendingCraft := none
  deriving DecidableEq

structure EnergyStorage where
  capacity : Int
  current : Int
  deriving DecidableEq

structure MachineEntity where
  progress : RecipeProgress
  slots : List PersistSlot
  energy : EnergyStorage
  deriving DecidableEq

structure OutstandingRequest where
  entity : Nat
  requirementId : Nat
  requested : Int
  deriving DecidableEq

structure CraftReservationClient where
  nextRequestId : Nat
  outstanding : Table Nat OutstandingRequest
  chargeByEntity : Table Nat Nat

structure CraftSystem where
  client : CraftReservationClient
  registry : Table Nat MachineEntity
  recipes : Table String Recipe

/-- What a step did, for the books. A leg is counted from 1: first the per-tick
requirements of the recipe, then its fluid inputs. -/
inductive CraftEvent where
  | begun (entity : Nat) (recipe : Recipe)
  | requested (entity leg : Nat) (charge : Bool) (message : ResourceTransferRequest)
  | accepted (entity requirementId requestId : Nat) (amount : Int)
  | declared (entity : Nat)
  | committed (entity : Nat)
  | advanced (entity : Nat)

namespace CraftReservationClient

def new : CraftReservationClient where
  nextRequestId := 1
  outstanding := ∅
  chargeByEntity := ∅

def emplace (client : CraftReservationClient) (request : OutstandingRequest) :
    CraftReservationClient :=
  { client with
    nextRequestId := client.nextRequestId + 1
    outstanding := client.outstanding.emplace client.nextRequestId request }

variable (client : CraftReservationClient)

def skip : CraftReservationClient :=
  { client with nextRequestId := client.nextRequestId + 1 }

/-- One turn of the loops of `beginReservation` and `tickPending`: the rest of a
reservation is requested under a fresh id, or under none when the publisher
fails. -/
def request (publish : Nat → Bool) (entity : Nat) (client : CraftReservationClient)
    (reservation : RequirementReservation) :
    CraftReservationClient × RequirementReservation × List CraftEvent :=
  let amount := reservation.remainingAmount
  if amount ≤ 0 then (client, reservation, [])
  else if publish client.nextRequestId then
    (client.emplace ⟨entity, reservation.requirementId, amount⟩,
      { reservation with requestId := client.nextRequestId },
      [.requested entity reservation.requirementId false
        ⟨client.nextRequestId, 0, reservation.kind, reservation.resourceId, amount⟩])
  else (client.skip, { reservation with requestId := 0 }, [])

def requestAll (publish : Nat → Bool) (entity : Nat) :
    CraftReservationClient → List RequirementReservation →
      CraftReservationClient × List RequirementReservation × List CraftEvent
  | client, [] => (client, [], [])
  | client, reservation :: rest =>
    let head := request publish entity client reservation
    let tail := requestAll publish entity head.1 rest
    (tail.1, head.2.1 :: tail.2.1, head.2.2 ++ tail.2.2)

def countCharge (entity : Nat) : CraftReservationClient :=
  { client with
    chargeByEntity := AList.insert entity ((client.chargeByEntity.lookup entity).getD 0 + 1)
      client.chargeByEntity }

def chargeAll (publish : Nat → Bool) (entity : Nat) :
    Nat → CraftReservationClient → List ResourceRequirement →
      CraftReservationClient × List CraftEvent
  | _, client, [] => (client, [])
  | leg, client, requirement :: rest =>
    let amount := wrapI32 requirement.amount.toNat
    if amount ≤ 0 then chargeAll publish entity (leg + 1) client rest
    else if publish client.nextRequestId then
      let tail := chargeAll publish entity (leg + 1)
        ((client.emplace ⟨entity, 0, amount⟩).countCharge entity) rest
      (tail.1, .requested entity leg true
        ⟨client.nextRequestId, 0, requirement.kind, requirement.resourceId, amount⟩ :: tail.2)
    else chargeAll publish entity (leg + 1) client.skip rest

def hasOutstandingCharge (entity : Nat) : Bool :=
  (client.chargeByEntity.lookup entity).isSome

def beginPerTickCharge (publish : Nat → Bool) (entity : Nat) (client : CraftReservationClient)
    (recipe : Recipe) : CraftReservationClient × List CraftEvent :=
  if !recipe.hasResourceRequirements then (client, [])
  else if client.hasOutstandingCharge entity then (client, [])
  else chargeAll publish entity 1 client recipe.resourceRequirements

def drop (entity : Nat) : CraftReservationClient :=
  { client with
    chargeByEntity := client.chargeByEntity.erase entity
    outstanding := client.outstanding.filter fun _ request => !(request.entity == entity) }

def forget (requestId : Nat) : CraftReservationClient :=
  { client with outstanding := client.outstanding.erase requestId }

def settleCharge (entity : Nat) : CraftReservationClient :=
  let count := (client.chargeByEntity.lookup entity).getD 0
  { client with
    chargeByEntity :=
      if 1 < count then AList.insert entity (count - 1) client.chargeByEntity
      else client.chargeByEntity.erase entity }

end CraftReservationClient

def newReservation (epoch requirementId : Nat) (kind : ResourceKind) (resourceId : Nat)
    (amount : UInt32) : RequirementReservation where
  requirementId := requirementId
  kind := kind
  resourceId := resourceId
  requiredAmount := wrapI32 amount.toNat
  acceptedAmount := 0
  requestId := 0
  epoch := epoch

def reservationLegs (recipe : Recipe) : List (ResourceKind × Nat × UInt32) :=
  (recipe.resourceRequirements.map fun requirement =>
    (requirement.kind, requirement.resourceId, requirement.amount)) ++
  recipe.fluidInputs.map fun fluid => (.fluid, fluid.fluidId, fluid.amountMb)

def newReservations (recipe : Recipe) (epoch : Nat) : List RequirementReservation :=
  (reservationLegs recipe).mapIdx fun index leg =>
    newReservation epoch (index + 1) leg.1 leg.2.1 leg.2.2

def consumeRange (first last : Nat) (inputs : List InputItem) (slots : List PersistSlot) :
    List PersistSlot :=
  inputs.foldl (fun slots req =>
    if req.itemId = 0 then slots
    else slots.take first ++
      withdraw req.itemId req.metadata req.count.toNat ((slots.take last).drop first) ++
      slots.drop (max first last)) slots

namespace CraftSystem

variable (system : CraftSystem)

def setMachine (entity : Nat) (machine : MachineEntity) : CraftSystem :=
  { system with registry := AList.insert entity machine system.registry }

def setProgress (entity : Nat) (machine : MachineEntity)
    (progress : RecipeProgress) : CraftSystem :=
  system.setMachine entity { machine with progress := progress }

def beginReservation (entity : Nat) (recipe : Recipe) (nowTick : Nat)
    (publish : Nat → Bool) : CraftSystem × List CraftEvent :=
  match system.registry.lookup entity with
  | none => (system, [])
  | some machine =>
    if machine.progress.pendingCraft.isSome || !recipe.needsReservation then (system, [])
    else
      let result := system.client.requestAll publish entity (newReservations recipe nowTick)
      let craft : PendingCraft := {
        recipeId := recipe.id
        ownerId := entity
        entityId := entity
        requirements := result.2.1
        requestId := ((result.2.1.map fun reservation => reservation.requestId).find?
          (· != 0)).getD 0
        epoch := nowTick
        retryCount := 0
        expiryTick := wrapU64 (nowTick + kReservationExpiryTicks)
        nextRetryTick :=
          if result.2.2.isEmpty then nowTick else wrapU64 (nowTick + kRetryBackoffTicks) }
      ({ system with client := result.1 }.setProgress entity machine
          { machine.progress with pendingCraft := some craft },
        .begun entity recipe :: result.2.2)

def cancel (entity : Nat) : CraftSystem :=
  let dropped := { system with client := system.client.drop entity }
  match system.registry.lookup entity with
  | none => dropped
  | some machine =>
    dropped.setProgress entity machine { machine.progress with pendingCraft := none }

def tickPending (entity nowTick : Nat) (publish : Nat → Bool) :
    CraftSystem × Bool × List CraftEvent :=
  match system.registry.lookup entity with
  | none => (system, false, [])
  | some machine =>
    match machine.progress.pendingCraft with
    | none => (system, false, [])
    | some craft =>
      if craft.fullyAccepted then (system, true, [])
      else if craft.expired nowTick || decide (kMaxRetries ≤ craft.retryCount) then
        (system.cancel entity, false, [])
      else if !craft.retryDue nowTick then (system, true, [])
      else
        let result := system.client.requestAll publish entity craft.requirements
        let craft := { craft with
          requirements := result.2.1
          retryCount := craft.retryCount + 1
          nextRetryTick :=
            if result.2.2.isEmpty then nowTick else wrapU64 (nowTick + kRetryBackoffTicks) }
        ({ system with client := result.1 }.setProgress entity machine
            { machine.progress with pendingCraft := some craft },
          true, result.2.2)

def commitPendingCraft (entity first last : Nat) : CraftSystem × List CraftEvent :=
  match system.registry.lookup entity with
  | none => (system, [])
  | some machine =>
    match machine.progress.pendingCraft with
    | none => (system, [])
    | some craft =>
      if !craft.fullyAccepted then (system, [])
      else
        match system.recipes.lookup craft.recipeId with
        | none => (system.cancel entity, [])
        | some recipe =>
          (system.setMachine entity { machine with
              slots := consumeRange first last recipe.inputs machine.slots
              progress := { machine.progress with
                recipeId := recipe.id
                remainingTicks := recipe.duration
                isProcessing := true
                pendingCraft := none } },
            [.committed entity])

def cancelStale (entity : Nat) (recipe : Recipe) : CraftSystem :=
  match (system.registry.lookup entity).bind fun machine => machine.progress.pendingCraft with
  | none => system
  | some craft => if craft.recipeId = recipe.id then system else system.cancel entity

def hasPending (entity : Nat) : Bool :=
  ((system.registry.lookup entity).bind fun machine => machine.progress.pendingCraft).isSome

def tickOrchestratedStart (entity : Nat) (recipe : Recipe)
    (nowTick first last : Nat) (publish : Nat → Bool) : CraftSystem × List CraftEvent :=
  let system := system.cancelStale entity recipe
  if !system.hasPending entity then system.beginReservation entity recipe nowTick publish
  else
    let ticked := system.tickPending entity nowTick publish
    if !ticked.2.1 then (ticked.1, ticked.2.2)
    else
      let committed := ticked.1.commitPendingCraft entity first last
      (committed.1, ticked.2.2 ++ committed.2)

def start (entity : Nat) (recipeId : String) (nowTick first last : Nat)
    (publish : Nat → Bool) : CraftSystem × List CraftEvent :=
  match system.registry.lookup entity, system.recipes.lookup recipeId with
  | some machine, some recipe =>
    if machine.progress.recipeId = "" && recipe.needsReservation then
      system.tickOrchestratedStart entity recipe nowTick first last publish
    else (system, [])
  | _, _ => (system, [])

def creditBuffer (entity : Nat) (amount : Int) : CraftSystem :=
  match system.registry.lookup entity with
  | none => system
  | some machine =>
    if amount ≤ 0 then system
    else system.setMachine entity { machine with
      energy := { machine.energy with
        current := min (machine.energy.current + amount) machine.energy.capacity } }

def onConsumeResponse (response : ResourceTransferResponse) : CraftSystem × List CraftEvent :=
  match system.client.outstanding.lookup response.requestId with
  | none => (system, [])
  | some pending =>
    let system := { system with client := system.client.forget response.requestId }
    let accepted := if 0 < response.acceptedAmount then
      min response.acceptedAmount pending.requested else 0
    if pending.requirementId = 0 then
      (creditBuffer { system with client := system.client.settleCharge pending.entity }
          pending.entity accepted,
        [.accepted pending.entity 0 response.requestId accepted])
    else
      match system.registry.lookup pending.entity with
      | none => (system, [])
      | some machine =>
        match machine.progress.pendingCraft with
        | none => (system, [])
        | some craft =>
          match craft.findReservationByRequestId response.requestId with
          | none => (system, [])
          | some reservation =>
            if reservation.requirementId ≠ pending.requirementId then (system, [])
            else
              let craft := craft.recordAccepted response.requestId accepted
              ((system.setProgress pending.entity machine
                  { machine.progress with pendingCraft := some craft }).creditBuffer
                    pending.entity accepted,
                .accepted pending.entity pending.requirementId response.requestId
                  accepted ::
                if craft.fullyAccepted then [.declared pending.entity] else [])

/-- `sub_sat` of two `int32_t`. -/
def subSat (a b : Int) : Int := max (-2 ^ 31) (min (2 ^ 31 - 1) (a - b))

def tickActive (entity : Nat) (publish : Nat → Bool) : CraftSystem × List CraftEvent :=
  match system.registry.lookup entity with
  | none => (system, [])
  | some machine =>
    if machine.progress.recipeId = "" then (system, [])
    else
      match system.recipes.lookup machine.progress.recipeId with
      | none =>
        (system.setProgress entity machine { machine.progress with
          isProcessing := false
          needsOutput := false
          recipeId := "" }, [])
      | some recipe =>
        if !recipe.hasResourceRequirements then (system, [])
        else
          let perTickCost := wrapI32 recipe.resourceAmountPerTick.toNat
          if machine.energy.current < perTickCost then
            let result := system.client.beginPerTickCharge publish entity recipe
            ({ system with client := result.1 }, result.2)
          else
            let remainingTicks := machine.progress.remainingTicks - 1
            let progress := { machine.progress with remainingTicks := remainingTicks }
            (system.setMachine entity { machine with
                energy := { machine.energy with
                  current := subSat machine.energy.current perTickCost }
                progress := if remainingTicks = 0 then
                  { progress with isProcessing := false, needsOutput := true, recipeId := "" }
                  else progress },
              [.advanced entity])

end CraftSystem

inductive CraftInput where
  | reload (recipes : Table String Recipe)
  | spawn (entity : Nat) (slots : List PersistSlot) (energy : EnergyStorage)
  | destroy (entity : Nat)
  | setSlots (entity : Nat) (slots : List PersistSlot)
  | start (entity : Nat) (recipeId : String) (nowTick first last : Nat) (publish : Nat → Bool)
  | active (entity : Nat) (publish : Nat → Bool)
  | response (response : ResourceTransferResponse)
  | cancel (entity : Nat)

namespace CraftSystem

def step (system : CraftSystem) : CraftInput → CraftSystem × List CraftEvent
  | .reload recipes => ({ system with recipes := recipes }, [])
  | .spawn entity slots energy =>
    ({ system with registry := system.registry.emplace entity ⟨{}, slots, energy⟩ }, [])
  | .destroy entity => ({ system with registry := system.registry.erase entity }, [])
  | .setSlots entity slots =>
    match system.registry.lookup entity with
    | none => (system, [])
    | some machine => (system.setMachine entity { machine with slots := slots }, [])
  | .start entity recipeId nowTick first last publish =>
    system.start entity recipeId nowTick first last publish
  | .active entity publish => system.tickActive entity publish
  | .response response => system.onConsumeResponse response
  | .cancel entity => (system.cancel entity, [])

def machine : Machine CraftSystem CraftInput CraftEvent := ⟨step⟩

def initial : CraftSystem := ⟨CraftReservationClient.new, ∅, ∅⟩

end CraftSystem

end GtnhPlatform.SimCore
