import GtnhPlatform.Sim.SimulationEngine
import Mathlib.Algebra.Order.BigOperators.Group.List

namespace GtnhPlatform.Sim

open Content

structure MachineKit where
  machineId : UInt16
  slotCount : UInt16
  energyType : EnergyType
  capacity : Int

structure Kit where
  machine : Option MachineKit
  heatIntake : Bool
  steamOutput : Bool
  batteryBuffer : Bool

namespace Kit

def bare : Kit := ⟨none, false, false, false⟩

def moreSlots (kit : Kit) (slots : UInt16) : Kit :=
  { kit with machine := kit.machine.map fun machine =>
      { machine with slotCount := machine.slotCount + slots } }

def renamed (kit : Kit) (machineId : UInt16) : Kit :=
  { kit with machine := kit.machine.map fun machine => { machine with machineId := machineId } }

end Kit

def MachineParts.kit (parts : MachineParts) : MachineKit where
  machineId := parts.machine.machineId
  slotCount := parts.container.slotCount
  energyType := parts.energy.type
  capacity := parts.energy.capacity

def Entity.kit (entity : Entity) : Kit where
  machine := entity.machine.map MachineParts.kit
  heatIntake := entity.heatIntake.isSome
  steamOutput := entity.steamOutput.isSome
  batteryBuffer := entity.batteryBuffer.isSome

namespace Content

def kitFor (content : Content) (blockId : UInt16) (hatchSlots : UInt16) : Kit :=
  if isInfraBlock blockId then .bare
  else
    match content.machines.get blockId with
    | none => .bare
    | some info => {
        machine := some {
          machineId := blockId
          slotCount := (UInt32.ofInt (info.slotsIn + info.slotsOut)).toUInt16 + hatchSlots
          energyType := energyType info
          capacity := info.capacity }
        heatIntake := energyType info == .heat
        steamOutput := info.energyOut == some .steam
        batteryBuffer := info.machineClass == "battery_buffer" }

def calledFor (content : Content) (block : Option Block) (hatchSlots : UInt16) : Kit :=
  match block with
  | none => .bare
  | some block => content.kitFor block.id hatchSlots

variable {content : Content} {blockId : UInt16}

theorem kitFor_of_not_machine
    (plain : content.isMachineBlock blockId = false) (hatchSlots : UInt16) :
    content.kitFor blockId hatchSlots = .bare := by
  rw [kitFor]
  split
  · rfl
  rename_i other
  rw [isMachineBlock, MachineRegistry.isMachine] at plain
  cases found : content.machines.get blockId with
  | none => rfl
  | some info => simp [other, found] at plain

theorem kitFor_machine (machine : content.isMachineBlock blockId = true) (hatchSlots : UInt16) :
    ∃ info, content.machines.get blockId = some info ∧
      content.kitFor blockId hatchSlots = {
        machine := some {
          machineId := blockId
          slotCount := (UInt32.ofInt (info.slotsIn + info.slotsOut)).toUInt16 + hatchSlots
          energyType := energyType info
          capacity := info.capacity }
        heatIntake := energyType info == .heat
        steamOutput := info.energyOut == some .steam
        batteryBuffer := info.machineClass == "battery_buffer" } := by
  rw [isMachineBlock, MachineRegistry.isMachine, Bool.and_eq_true, Bool.not_eq_true'] at machine
  obtain ⟨info, found⟩ := Option.isSome_iff_exists.mp machine.2
  refine ⟨info, found, ?_⟩
  rw [kitFor, if_neg (by simp [machine.1]), found]

theorem kitFor_moreSlots (content : Content) (blockId : UInt16) (hatchSlots : UInt16) :
    content.kitFor blockId hatchSlots = (content.kitFor blockId 0).moreSlots hatchSlots := by
  cases machine : content.isMachineBlock blockId with
  | false =>
    rw [kitFor_of_not_machine machine, kitFor_of_not_machine machine]
    rfl
  | true =>
    obtain ⟨info, found, kit⟩ := kitFor_machine machine hatchSlots
    obtain ⟨same, sameFound, plain⟩ := kitFor_machine machine 0
    cases found.symm.trans sameFound
    rw [kit, plain, UInt16.add_zero]
    rfl

theorem calledFor_bare (none : (content.calledFor block hatchSlots).machine = none) :
    content.calledFor block hatchSlots = .bare := by
  cases block with
  | none => rfl
  | some block =>
    cases machine : content.isMachineBlock block.id with
    | false => exact kitFor_of_not_machine machine hatchSlots
    | true =>
      obtain ⟨info, found, kit⟩ := kitFor_machine machine hatchSlots
      rw [calledFor, kit] at none
      exact absurd none (by simp)

end Content

namespace SimulationEngine

def HatchSlotsAt (engine : SimulationEngine) (pos : Position) (slots : UInt16) : Prop :=
  slots = 0 ∨ ∃ id controller, engine.controllers.lookup id = some controller ∧
    controller.position = pos ∧ totalHatchSlots controller.hatches = slots

variable (content : Content)

def Fits (engine : SimulationEngine) (pos : Position) (entity : Entity) :
    Prop :=
  ∃ slots, engine.HatchSlotsAt pos slots ∧ entity.kit = content.calledFor entity.block slots

/-- Every entity carries what its current block calls for. -/
def ComponentsMatch (engine : SimulationEngine) : Prop :=
  ∀ pos entity, engine.findEntityAt pos = some entity → engine.Fits content pos entity

def Anchors (engine : SimulationEngine) (pos : Position) (entity : Entity) : Prop :=
  engine.ownerOf pos entity ≠ 0 ∧
    ∃ controller, engine.controllers.lookup (engine.ownerOf pos entity).toNat = some controller ∧
      controller.position = pos

def Accepts (engine : SimulationEngine) (pos : Position)
    (blockId : UInt16) (entity : Entity) : Prop :=
  if content.isMachineBlock blockId then
    entity.machine.isSome → ∃ slots, engine.HatchSlotsAt pos slots ∧
      entity.kit.renamed blockId = content.kitFor blockId slots
  else entity.heatIntake = none ∧ entity.steamOutput = none ∧ entity.batteryBuffer = none

/-- What an event must find at its position. -/
def Compatible (engine : SimulationEngine) (event : BlockChanged) : Prop :=
  ∀ entity, engine.findEntityAt event.position = some entity →
    if event.blockId = 0 then
      (entity.heatIntake = none ∨ engine.Anchors event.position entity) ∧
        entity.steamOutput = none ∧ entity.batteryBuffer = none
    else engine.Accepts content event.position event.blockId entity

variable (engine : SimulationEngine)

theorem findEntityAt_putEntity (pos other : Position) (entity : Entity) :
    (engine.putEntity pos entity).findEntityAt other =
      if other = pos then some entity else engine.findEntityAt other :=
  Table.lookup_insert_eq engine.entities pos entity other

@[simp] theorem findEntityAt_putEntity_self (pos : Position) (entity : Entity) :
    (engine.putEntity pos entity).findEntityAt pos = some entity := by
  rw [findEntityAt_putEntity, if_pos rfl]

theorem lookup_removeBlockFromController (mbId : UInt32) (pos : Position) (id : Nat) :
    (engine.removeBlockFromController mbId pos).controllers.lookup id =
      (engine.controllers.lookup id).map fun controller =>
        if id = mbId.toNat then
          { controller with blocks := controller.blocks.filter (· != pos.mbPack) }
        else controller :=
  Table.lookup_mapValues _ engine.controllers id

@[simp] theorem hatchSlotsAt_removeBlockFromController (mbId : UInt32) (pos other : Position)
    (slots : UInt16) : (engine.removeBlockFromController mbId pos).HatchSlotsAt other slots ↔
      engine.HatchSlotsAt other slots := by
  unfold HatchSlotsAt
  simp only [lookup_removeBlockFromController, Option.map_eq_some_iff]
  constructor
  · rintro (none | ⟨id, _, ⟨controller, found, rfl⟩, position, total⟩)
    · exact .inl none
    refine .inr ⟨id, controller, found, ?_, ?_⟩
    · rw [← position]
      split <;> rfl
    · rw [← total]
      split <;> rfl
  · rintro (none | ⟨id, controller, found, position, total⟩)
    · exact .inl none
    refine .inr ⟨id, _, ⟨controller, found, rfl⟩, ?_, ?_⟩
    · rw [← position]
      split <;> rfl
    · rw [← total]
      split <;> rfl

@[simp] theorem hatchSlotsAt_leaveOld (pos other : Position) (entity : Entity) (blockId : UInt16)
    (mbId : UInt32) (slots : UInt16) :
    (engine.leaveOld pos entity blockId mbId).HatchSlotsAt other slots ↔
      engine.HatchSlotsAt other slots := by
  unfold leaveOld
  split
  · rfl
  · split <;> simp

@[simp] theorem hatchSlotsAt_leaveNew (pos other : Position) (mbId : UInt32) (slots : UInt16) :
    (engine.leaveNew pos mbId).HatchSlotsAt other slots ↔ engine.HatchSlotsAt other slots := by
  unfold leaveNew
  split <;> simp

@[simp] theorem hatchSlotsAt_putEntity (pos other : Position) (entity : Entity) (slots : UInt16) :
    (engine.putEntity pos entity).HatchSlotsAt other slots ↔ engine.HatchSlotsAt other slots :=
  Iff.rfl

/-- Ids of controllers to come are free. -/
def Fresh : Prop :=
  ∀ id, engine.nextMachineId ≤ id → engine.controllers.lookup id = none

structure OnlyAt (pos : Position) (engine next : SimulationEngine) : Prop where
  elsewhere : ∀ other, other ≠ pos → next.findEntityAt other = engine.findEntityAt other
  anchors : ∀ id controller, engine.controllers.lookup id = some controller →
    controller.position ≠ pos → ∃ kept, next.controllers.lookup id = some kept ∧
      kept.position = controller.position ∧ kept.hatches = controller.hatches
  fresh : engine.Fresh → next.Fresh

variable {content : Content} {pos : Position} {blockId : UInt16} {controller : MultiblockController}

theorem matchedController_spec {engine : SimulationEngine}
    (matched : matchedController content engine pos blockId mbId = some controller) :
    controller.id = engine.nextMachineId ∧ controller.position = pos := by
  unfold matchedController at matched
  split at matched
  · obtain ⟨found, -, rfl⟩ := Option.map_eq_some_iff.mp matched
    exact ⟨rfl, rfl⟩
  · cases matched

namespace OnlyAt

variable {pos : Position} {engine next : SimulationEngine}

theorem refl : OnlyAt pos engine engine where
  elsewhere _ _ := rfl
  anchors _ controller found _ := ⟨controller, found, rfl, rfl⟩
  fresh := id

theorem trans (former : OnlyAt pos engine next) (latter : OnlyAt pos next last) :
    OnlyAt pos engine last where
  elsewhere other away := (latter.elsewhere other away).trans (former.elsewhere other away)
  anchors := by
    intro id controller found away
    obtain ⟨kept, keptFound, position, hatches⟩ := former.anchors id controller found away
    obtain ⟨later, laterFound, laterPosition, laterHatches⟩ :=
      latter.anchors id kept keptFound (by rwa [position])
    exact ⟨later, laterFound, laterPosition.trans position, laterHatches.trans hatches⟩
  fresh := latter.fresh ∘ former.fresh

theorem hatchSlotsAt (only : OnlyAt pos engine next) (away : other ≠ pos)
    (hatches : engine.HatchSlotsAt other slots) : next.HatchSlotsAt other slots := by
  rcases hatches with none | ⟨id, controller, found, rfl, total⟩
  · exact .inl none
  · obtain ⟨kept, keptFound, position, hatches⟩ := only.anchors id controller found away
    exact .inr ⟨id, kept, keptFound, position, by rw [hatches, total]⟩

theorem putEntity (engine : SimulationEngine) (entity : Entity) :
    OnlyAt pos engine (engine.putEntity pos entity) where
  elsewhere other away := by rw [findEntityAt_putEntity, if_neg away]
  anchors _ controller found _ := ⟨controller, found, rfl, rfl⟩
  fresh := id

theorem removeBlockFromController (engine : SimulationEngine) (mbId : UInt32) :
    OnlyAt pos engine (engine.removeBlockFromController mbId pos) where
  elsewhere _ _ := rfl
  anchors id controller found _ := by
    refine ⟨_, by rw [lookup_removeBlockFromController, found]; rfl, ?_, ?_⟩ <;>
      split <;> rfl
  fresh fresh id bound := by
    rw [lookup_removeBlockFromController, fresh id bound, Option.map_none]

theorem leaveOld (engine : SimulationEngine) (entity : Entity) (blockId : UInt16) (mbId : UInt32) :
    OnlyAt pos engine (engine.leaveOld pos entity blockId mbId) := by
  unfold SimulationEngine.leaveOld
  split
  · exact refl
  · split
    · exact removeBlockFromController engine _
    · exact refl

theorem leaveNew (engine : SimulationEngine) (mbId : UInt32) :
    OnlyAt pos engine (engine.leaveNew pos mbId) := by
  unfold SimulationEngine.leaveNew
  split
  · exact removeBlockFromController engine mbId
  · exact refl

variable {controller : MultiblockController}

theorem destroyController {id : Nat} (found : engine.controllers.lookup id = some controller)
    (anchored : controller.position = pos) : OnlyAt pos engine (engine.destroyController id).1 := by
  have erased : OnlyAt pos engine { engine with controllers := engine.controllers.erase id } := {
    elsewhere := fun _ _ => rfl
    anchors := by
      intro other kept keptFound away
      refine ⟨kept, ?_, rfl, rfl⟩
      rw [Table.lookup_erase_eq, if_neg, keptFound]
      rintro rfl
      rw [found] at keptFound
      exact away (Option.some.inj keptFound ▸ anchored)
    fresh := by
      intro fresh other bound
      change AList.lookup other (engine.controllers.erase id) = none
      rw [Table.lookup_erase_eq]
      split
      · rfl
      · exact fresh other bound }
  unfold SimulationEngine.destroyController
  simp only [found, anchored]
  split
  · exact erased
  · exact erased.trans (putEntity _ _)

theorem leaveController (engine : SimulationEngine) (mbId : UInt32) :
    OnlyAt pos engine (engine.leaveController pos mbId).1 := by
  unfold SimulationEngine.leaveController
  split
  · exact refl
  split
  · exact refl
  rename_i controller found
  split
  · next anchored => exact destroyController found anchored
  · exact removeBlockFromController engine mbId

theorem clearBlock (engine : SimulationEngine) : OnlyAt pos engine (engine.clearBlock pos).1 := by
  unfold SimulationEngine.clearBlock
  split
  · exact refl
  rename_i entity found
  have left : OnlyAt pos engine
      (engine.leaveController pos (engine.ownerOf pos entity)).1 :=
    leaveController engine _
  dsimp only
  split
  · exact left
  · split <;> exact left.trans (putEntity _ _)

theorem lookup_emplace_of_some {table : Table Nat MultiblockController} {id : Nat}
    {present : MultiblockController} (found : table.lookup id = some present)
    (controller : MultiblockController) :
    (table.emplace controller.id controller).lookup id = some present := by
  cases taken : table.lookup controller.id with
  | some other => rw [Table.emplace_of_some controller taken, found]
  | none =>
    rw [Table.lookup_emplace_of_none controller taken, if_neg, found]
    rintro rfl
    rw [found] at taken
    cases taken

theorem register (engine : SimulationEngine) (named : controller.id = engine.nextMachineId) :
    OnlyAt pos engine { engine with
      controllers := engine.controllers.emplace controller.id controller
      nextMachineId := engine.nextMachineId + 1 } where
  elsewhere _ _ := rfl
  anchors _ kept found _ := ⟨kept, lookup_emplace_of_some found controller, rfl, rfl⟩
  fresh := by
    intro fresh id bound
    change engine.nextMachineId + 1 ≤ id at bound
    change AList.lookup id (engine.controllers.emplace controller.id controller) = none
    rw [Table.lookup_emplace_of_none controller (fresh _ named.ge), if_neg (by omega)]
    exact fresh id (by omega)

variable (content : Content)

theorem addMachine (engine : SimulationEngine) (blockId : UInt16)
    (mbId : UInt32) (entity : Entity) :
    OnlyAt pos engine (addMachine content engine pos blockId mbId entity).1 := by
  have counted : OnlyAt pos engine { engine with nextMachineId := engine.nextMachineId + 1 } := {
    elsewhere := fun _ _ => rfl
    anchors := fun _ controller found _ => ⟨controller, found, rfl, rfl⟩
    fresh := fun fresh id bound => fresh id (Nat.le_of_succ_le bound) }
  unfold SimulationEngine.addMachine
  dsimp only
  split
  · exact counted.trans (putEntity _ _)
  · next controller matched =>
    exact (counted.trans (register _ (matchedController_spec matched).1)).trans (putEntity _ _)

theorem renameMachine (engine : SimulationEngine) (blockId : UInt16) (mbId : UInt32)
    (entity : Entity) (parts : MachineParts) :
    OnlyAt pos engine (renameMachine content engine pos blockId mbId entity parts).1 :=
  putEntity _ _

theorem setBlock (engine : SimulationEngine) (entity : Entity) (event : BlockChanged) :
    OnlyAt event.position engine (setBlock content engine entity event).1 := by
  have written : ∀ block, OnlyAt event.position engine
      (((engine.leaveOld event.position entity event.blockId event.mbId).leaveNew
        event.position event.mbId).putEntity event.position { entity with block := block }) :=
    fun block => ((leaveOld engine entity _ _).trans (leaveNew _ _)).trans (putEntity _ _)
  unfold SimulationEngine.setBlock
  dsimp only
  split
  · split
    · exact (written _).trans (addMachine content _ _ _ _)
    · exact (written _).trans (renameMachine content _ _ _ _ _)
  · split
    · exact (written _).trans (putEntity _ _)
    · exact written _

theorem onBlockChanged (engine : SimulationEngine) (event : BlockChanged) :
    OnlyAt event.position engine (onBlockChanged content engine event).1 := by
  unfold SimulationEngine.onBlockChanged
  split
  · exact clearBlock engine
  · split <;> exact setBlock content engine _ event

end OnlyAt

variable {entity : Entity}

variable {engine : SimulationEngine}

theorem destroyController_at {id : Nat} (stands : engine.findEntityAt pos = some entity)
    (found : engine.controllers.lookup id = some controller)
    (anchored : controller.position = pos) :
    engine.destroyController id =
      ({ engine with controllers := engine.controllers.erase id }.putEntity pos
          { entity with machine := none, heatIntake := none },
        [.multiblockSave id, .machineOwnerRemoved entity.id, .multiblockDestroyed id]) := by
  have stillThere : ({ engine with controllers := engine.controllers.erase id } :
      SimulationEngine).findEntityAt controller.position = some entity := by
    rw [anchored]
    exact stands
  unfold destroyController
  simp only [found]
  rw [stillThere, anchored]

theorem leaveController_at (stands : engine.findEntityAt pos = some entity) :
    (engine.leaveController pos (engine.ownerOf pos entity)).1.findEntityAt pos =
        some { entity with machine := none, heatIntake := none } ∧ engine.Anchors pos entity ∨
      (engine.leaveController pos (engine.ownerOf pos entity)).1.findEntityAt pos =
        some entity ∧ ¬engine.Anchors pos entity := by
  unfold leaveController Anchors
  split
  · next none => exact .inr ⟨stands, fun anchors => anchors.1 none⟩
  rename_i named
  cases found : engine.controllers.lookup (engine.ownerOf pos entity).toNat with
  | none => exact .inr ⟨stands, by simp⟩
  | some controller =>
    dsimp only
    split
    · next anchored =>
      refine .inl ⟨?_, named, controller, rfl, anchored⟩
      rw [destroyController_at stands found anchored]
      simp
    · next away =>
      refine .inr ⟨stands, ?_⟩
      rintro ⟨-, other, same, anchored⟩
      exact away (Option.some.inj same ▸ anchored)

theorem clearBlock_at (stands : engine.findEntityAt pos = some entity) :
    ∃ heat, (engine.clearBlock pos).1.findEntityAt pos =
        some { entity with block := none, machine := none, heatIntake := heat } ∧
      (heat = none ↔ entity.heatIntake = none ∨ engine.Anchors pos entity) := by
  unfold clearBlock
  simp only [stands]
  rcases leaveController_at stands with ⟨left, anchors⟩ | ⟨left, stays⟩
  · refine ⟨none, ?_, by simp [anchors]⟩
    simp [left]
  refine ⟨entity.heatIntake, ?_, by simp [stays]⟩
  simp only [left]
  split
  · simp
  · next plain =>
    have bare : entity.machine = none := by simpa using plain
    simp [bare]

theorem slotCount_assignHatchSlots (hatches : List HatchSlot) (parts : MachineParts) :
    (parts.assignHatchSlots hatches).container.slotCount =
      parts.container.slotCount + totalHatchSlots hatches := by
  unfold MachineParts.assignHatchSlots
  dsimp only
  split
  · next same =>
    have zero : (totalHatchSlots hatches).toNat = 0 := by omega
    rw [UInt16.toNat_inj.mp (zero.trans UInt16.toNat_zero.symm), UInt16.add_zero]
  · rw [UInt16.ofNat_add, UInt16.ofNat_toNat, UInt16.ofNat_toNat]

variable (controller : MultiblockController)

theorem kit_anchorParts (parts : MachineParts) :
    (anchorParts controller parts).kit =
      { parts.kit with slotCount := parts.kit.slotCount + totalHatchSlots controller.hatches } := by
  unfold anchorParts MachineParts.kit
  rw [slotCount_assignHatchSlots]
  unfold MachineParts.assignHatchSlots
  dsimp only
  split <;> rfl

theorem kit_anchor (entity : Entity) (block : Option Block) :
    ({ entity with
        machine := entity.machine.map (anchorParts controller), block := block } : Entity).kit =
      entity.kit.moreSlots (totalHatchSlots controller.hatches) := by
  unfold Entity.kit Kit.moreSlots
  simp only [Option.map_map, Kit.mk.injEq, and_self, and_true]
  cases entity.machine with
  | none => rfl
  | some parts => exact congrArg some (kit_anchorParts controller parts)

theorem kit_equip (machine : content.isMachineBlock blockId = true) (bare : entity.kit = .bare)
    (pos : Position) (mbId : UInt32) (instanceId : Nat) :
    (equip content pos blockId mbId instanceId entity).kit = content.kitFor blockId 0 := by
  obtain ⟨info, found, kit⟩ := kitFor_machine machine 0
  have heat : entity.heatIntake.isSome = false := congrArg Kit.heatIntake bare
  have steam : entity.steamOutput.isSome = false := congrArg Kit.steamOutput bare
  have battery : entity.batteryBuffer.isSome = false := congrArg Kit.batteryBuffer bare
  rw [kit]
  unfold equip Entity.kit MachineParts.kit defaultMachineSlotCount
    newEnergyStorage givesSteam newBatteryBuffer
  simp only [found, Option.map_some, UInt16.add_zero, Kit.mk.injEq, true_and]
  refine ⟨?_, ?_, ?_⟩
  · by_cases hot : energyType info = .heat <;> simp [hot, heat]
  · by_cases gives : info.energyOut = some .steam <;> simp [gives, steam]
  · by_cases stores : info.machineClass = "battery_buffer" <;> simp [stores, battery]

theorem addMachine_at {engine : SimulationEngine} (machine : content.isMachineBlock blockId = true)
    (bare : entity.kit = .bare) {block : Block} (blocked : entity.block = some block)
    (named : block.id = blockId) (fresh : engine.Fresh) (pos : Position) (mbId : UInt32) :
    ∃ placed, (addMachine content engine pos blockId mbId entity).1.findEntityAt pos = some placed ∧
      (addMachine content engine pos blockId mbId entity).1.Fits content pos placed := by
  have equipped := kit_equip machine bare pos mbId engine.nextMachineId
  unfold addMachine
  dsimp only
  split
  · refine ⟨_, findEntityAt_putEntity_self _ _ _, 0, .inl rfl, ?_⟩
    rw [equipped]
    change _ = content.calledFor entity.block 0
    rw [blocked, ← named]
    rfl
  · next controller matched =>
    obtain ⟨id, position⟩ := matchedController_spec matched
    refine ⟨_, findEntityAt_putEntity_self _ _ _, totalHatchSlots controller.hatches,
      .inr ⟨controller.id, controller, ?_, position, rfl⟩, ?_⟩
    · change AList.lookup controller.id
        (engine.controllers.emplace controller.id controller) = some controller
      rw [Table.lookup_emplace_of_none controller (fresh _ (by rw [id]; exact Nat.le_succ _)),
        if_pos rfl]
    · change ({ equip content pos blockId mbId engine.nextMachineId entity with
        machine := _, block := _ } : Entity).kit = content.calledFor (entity.block.map _) _
      rw [blocked, Option.map_some]
      change _ = content.kitFor block.id _
      rw [named, kitFor_moreSlots, ← equipped]
      exact kit_anchor controller _ _

theorem kit_bare_iff (stripped : entity.machine = none) : entity.kit = .bare ↔
      entity.heatIntake = none ∧ entity.steamOutput = none ∧ entity.batteryBuffer = none := by
  simp [Entity.kit, Kit.bare, stripped]

theorem fits_bare_iff {engine : SimulationEngine}
    (plain : ∀ slots, content.calledFor entity.block slots = .bare) :
    engine.Fits content pos entity ↔ entity.kit = .bare := by
  constructor
  · rintro ⟨slots, -, kit⟩
    rw [kit, plain]
  · intro bare
    exact ⟨0, .inl rfl, by rw [bare, plain]⟩

theorem Fits.bare {engine : SimulationEngine} (fits : engine.Fits content pos entity)
    (stripped : entity.machine = none) : entity.kit = .bare := by
  obtain ⟨slots, -, kit⟩ := fits
  rw [kit]
  apply calledFor_bare
  rw [← kit, Entity.kit, stripped]
  rfl

theorem kit_renamed (found : entity.machine = some parts) {machine : MachineComponent} :
    ({ entity with
        block := block, machine := some { parts with machine := machine } } : Entity).kit =
      entity.kit.renamed machine.machineId := by
  simp [Entity.kit, Kit.renamed, MachineParts.kit, found]

theorem OnlyAt.componentsMatch_iff {engine next : SimulationEngine} (only : OnlyAt pos engine next)
    (holds : engine.ComponentsMatch content) : next.ComponentsMatch content ↔
      ∀ entity, next.findEntityAt pos = some entity → next.Fits content pos entity := by
  constructor
  · intro next entity stands
    exact next pos entity stands
  intro here other entity stands
  by_cases same : other = pos
  · obtain rfl := same
    exact here entity stands
  · rw [only.elsewhere other same] at stands
    obtain ⟨slots, hatches, kit⟩ := holds other entity stands
    exact ⟨slots, only.hatchSlotsAt same hatches, kit⟩

theorem setBlock_at (content : Content) {engine : SimulationEngine} (event : BlockChanged)
    (fresh : engine.Fresh) (bare : entity.machine = none → entity.kit = .bare) :
    ∃ placed, (setBlock content engine entity event).1.findEntityAt event.position = some placed ∧
      ((setBlock content engine entity event).1.Fits content event.position placed ↔
        engine.Accepts content event.position event.blockId entity) := by
  have left : OnlyAt event.position engine ((engine.leaveOld event.position entity event.blockId
      event.mbId).leaveNew event.position event.mbId) :=
    (OnlyAt.leaveOld engine entity _ _).trans (OnlyAt.leaveNew _ _)
  unfold setBlock Accepts
  dsimp only
  split
  · next machine =>
    cases parts : entity.machine with
    | none =>
      have bareBlock : Entity.kit { entity with block := some ⟨event.blockId, event.metadata,
          effectiveMbId entity event.blockId event.mbId⟩ } = .bare := bare parts
      obtain ⟨placed, stands, fits⟩ := addMachine_at machine bareBlock rfl rfl
        ((left.trans (OnlyAt.putEntity _ _)).fresh fresh) event.position event.mbId
      exact ⟨placed, stands, iff_of_true fits (by simp)⟩
    | some parts =>
      refine ⟨_, findEntityAt_putEntity_self _ _ _, ?_⟩
      unfold Fits
      rw [kit_renamed parts]
      simp [renameMachine, calledFor]
  · next plain =>
    have calledFor : ∀ (stripped : Entity) slots,
        stripped.block = some ⟨event.blockId, event.metadata,
          effectiveMbId entity event.blockId event.mbId⟩ →
        content.calledFor stripped.block slots = .bare := by
      intro stripped slots blocked
      rw [blocked]
      exact kitFor_of_not_machine (by simpa using plain) slots
    split
    · refine ⟨_, findEntityAt_putEntity_self _ _ _, ?_⟩
      rw [fits_bare_iff fun slots => calledFor _ slots rfl]
      exact kit_bare_iff rfl
    rename_i none
    refine ⟨_, findEntityAt_putEntity_self _ _ _, ?_⟩
    rw [fits_bare_iff fun slots => calledFor _ slots rfl]
    exact kit_bare_iff (by simpa using none)

variable {engine : SimulationEngine}

theorem componentsMatch_onBlockChanged (fresh : engine.Fresh)
    (holds : engine.ComponentsMatch content) :
    (onBlockChanged content engine event).1.ComponentsMatch content ↔
      engine.Compatible content event := by
  have only := OnlyAt.onBlockChanged content engine event
  rw [only.componentsMatch_iff holds]
  unfold onBlockChanged Compatible
  split
  · cases stands : engine.findEntityAt event.position with
    | none => simp [clearBlock, stands]
    | some entity =>
      obtain ⟨heat, cleared, cools⟩ := clearBlock_at stands
      simp only [cleared, Option.some.injEq, forall_eq']
      rw [fits_bare_iff fun _ => rfl, kit_bare_iff rfl]
      exact and_congr cools Iff.rfl
  · cases stands : engine.findEntityAt event.position with
    | none =>
      have unequipped : (engine.newEntity event.allocator).kit = .bare := rfl
      obtain ⟨placed, there, fits⟩ := setBlock_at content event fresh fun _ => unequipped
      simp only [there, Option.some.injEq, forall_eq', fits]
      simp [Accepts, newEntity]
    | some entity =>
      obtain ⟨placed, there, fits⟩ := setBlock_at content event fresh
        (holds _ _ stands).bare
      simp only [there, Option.some.injEq, forall_eq', fits]

theorem Fits.heatIntake (fits : engine.Fits content pos entity) :
    entity.heatIntake.isSome = (content.calledFor entity.block 0).heatIntake := by
  obtain ⟨slots, -, kit⟩ := fits
  refine (congrArg Kit.heatIntake kit).trans ?_
  cases entity.block with
  | none => rfl
  | some block =>
    rw [calledFor, kitFor_moreSlots]
    rfl

theorem not_componentsMatch_of_heat (pos : Position)
    (stale : (engine.findEntityAt pos).map (fun entity =>
      (entity.heatIntake.isSome, (content.calledFor entity.block 0).heatIntake)) =
        some (true, false)) :
    ¬engine.ComponentsMatch content := by
  obtain ⟨entity, stands, heat⟩ := Option.map_eq_some_iff.mp stale
  intro all
  have fits := (all pos entity stands).heatIntake
  obtain ⟨carried, called⟩ := Prod.mk.inj heat
  rw [carried, called] at fits
  cases fits

theorem componentsMatch_new (content : Content) : new.ComponentsMatch content := by
  intro pos entity stands
  rw [findEntityAt, new, AList.lookup_empty] at stands
  cases stands

theorem fresh_new : new.Fresh := fun _ _ => AList.lookup_empty _

theorem fresh_final (content : Content) (events : List BlockChanged) :
    ((machine content).final new events).Fresh :=
  (machine content).invariant (fun _ _ => True) (fun _ engine _ => engine.Fresh) fresh_new
    (fun _ engine _ event fresh _ => (OnlyAt.onBlockChanged content engine event).fresh fresh)
    events ((machine content).along_true new events)

/-- In every state of a run the entities carry what their blocks call for,
exactly when every event was compatible with what it found. -/
theorem components_match_iff (content : Content) (events : List BlockChanged) :
    (∀ before after, events = before ++ after →
        ((machine content).final new before).ComponentsMatch content) ↔
      (machine content).Along (Compatible content) new events := by
  have keeps : ∀ engine event, engine.Fresh ∧ engine.ComponentsMatch content →
      (((machine content).step engine event).1.Fresh ∧
        ((machine content).step engine event).1.ComponentsMatch content ↔
          engine.Compatible content event) := fun engine event holds =>
    (and_iff_right ((OnlyAt.onBlockChanged content engine event).fresh holds.1)).trans
      (componentsMatch_onBlockChanged holds.1 holds.2)
  rw [← (machine content).always_iff keeps ⟨fresh_new, componentsMatch_new content⟩ events]
  constructor
  · intro all before after split
    exact ⟨fresh_final content before, all before after split⟩
  · intro all before after split
    exact (all before after split).2

def nextId : Allocator where
  val alive := alive.sum + 1
  property alive taken := by
    have bound : alive.sum + 1 ≤ alive.sum := List.le_sum_of_mem taken
    omega

def heatFurnace : UInt16 := ItemId.pack 0b1110000 7 0
def chemicalReactorLv : UInt16 := ItemId.pack 0b1110010 7 3

def furnaceAndReactor : Content where
  machines := AList.insert heatFurnace ⟨"furnace", some .heat, none, 0, 1, 1, 10000, 32, 0⟩
    (AList.insert chemicalReactorLv
      ⟨"chemical_reactor", some .electricity, none, 1, 2, 1, 10000, 32, 0⟩ ∅)
  patterns := PatternRegistry.new

def place (blockId : UInt16) : BlockChanged where
  position := ⟨4, 10, 5⟩
  blockId := blockId
  allocator := nextId

theorem replaced_furnace_keeps_its_kit : ¬((machine furnaceAndReactor).final new
        [place heatFurnace, place chemicalReactorLv]).ComponentsMatch furnaceAndReactor ∧
      ¬((machine furnaceAndReactor).final new
        [place heatFurnace, place 0]).ComponentsMatch furnaceAndReactor := by
  constructor
  · apply not_componentsMatch_of_heat ⟨4, 10, 5⟩
    decide +kernel
  · apply not_componentsMatch_of_heat ⟨4, 10, 5⟩
    decide +kernel

end SimulationEngine

end GtnhPlatform.Sim
