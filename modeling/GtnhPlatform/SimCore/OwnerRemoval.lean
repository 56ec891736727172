import GtnhPlatform.Sim.ExplosionSystem
import GtnhPlatform.Sim.MachineComponents
import GtnhPlatform.SimCore.ResourceDrain

namespace GtnhPlatform.SimCore

open Common Sim SimulationEngine List

/-! The engine wired to the drain handler. The reservations that the wiring cancels
as well hold no ports. -/

structure SimWorld where
  engine : SimulationEngine
  owner : DrainOwner

inductive SimInput where
  | blockChanged (event : BlockChanged)
  | explosionTick
  | overheat (pos : Position) (component : Option OverheatComponent)
  | portRegister (port : ResourcePort)
  | portRemove (key : ResourcePortRegistrationKey)
  | drain (request : ResourceTransferRequest)
  | simulate (buffers : Registry)

inductive SimOutput where
  | engine (event : EngineEvent)
  | blockCleared (pos : Position)
  | owner (output : OwnerOutput)
  deriving DecidableEq

namespace SimWorld

/-- The wiring of `onMachineOwnerRemoved`. -/
def announce (owner : DrainOwner) : List EngineEvent → DrainOwner × List OwnerOutput
  | [] => (owner, [])
  | .machineOwnerRemoved ownerId :: rest =>
    let removed := owner.step (.ownerRemoved ownerId)
    let later := announce removed.1 rest
    (later.1, removed.2 ++ later.2)
  | _ :: rest => announce owner rest

/-- The heat systems set and take away what the explosion system counts. -/
def setOverheat (engine : SimulationEngine) (pos : Position)
    (component : Option OverheatComponent) : SimulationEngine :=
  match engine.findEntityAt pos with
  | none => engine
  | some entity => engine.putEntity pos { entity with overheat := component }

def message (world : SimWorld) (input : OwnerInput) : SimWorld × List SimOutput :=
  let handled := world.owner.step input
  ({ world with owner := handled.1 }, handled.2.map .owner)

variable (content : Content)

def step (world : SimWorld) : SimInput → SimWorld × List SimOutput
  | .blockChanged event =>
    let changed := SimulationEngine.onBlockChanged content world.engine event
    let announced := announce world.owner changed.2
    (⟨changed.1, announced.1⟩, changed.2.map .engine ++ announced.2.map .owner)
  | .explosionTick =>
    let exploded := world.engine.explosionTick
    ({ world with engine := exploded.1 }, exploded.2.map .blockCleared)
  | .overheat pos component =>
    ({ world with engine := setOverheat world.engine pos component }, [])
  | .portRegister port => world.message (.portRegister port)
  | .portRemove key => world.message (.portRemove key)
  | .drain request => world.message (.drain request)
  | .simulate buffers => world.message (.simulate buffers)

def machine : Machine SimWorld SimInput SimOutput := ⟨step content⟩

def MachineAt (engine : SimulationEngine) (pos : Position) (ownerId : Nat) : Prop :=
  ∃ entity, engine.findEntityAt pos = some entity ∧ entity.id = ownerId ∧ entity.machine.isSome

structure Forgotten (world : SimWorld) (pos : Position) (ownerId : Nat) : Prop where
  ports : ∀ portId port, world.owner.handler.ports.lookup portId = some port →
    port.ownerId ≠ ownerId
  replay : ∀ requestId entry, world.owner.handler.replay.lookup requestId = some entry →
    entry.ownerId ≠ ownerId
  controllers : ∀ id controller, world.engine.controllers.lookup id = some controller →
    controller.position ≠ pos

def Announced (world : SimWorld) (input : SimInput) : Prop :=
  ∀ pos ownerId, MachineAt world.engine pos ownerId →
    ¬MachineAt (step content world input).1.engine pos ownerId →
      (step content world input).2.count (.engine (.machineOwnerRemoved ownerId)) = 1 ∧
        (step content world input).1.Forgotten pos ownerId

def Forgettable (owner : DrainOwner) (ownerId : Nat) : Prop :=
  owner.handler.ownsPort ownerId = true ∨
    ∀ requestId entry, owner.handler.replay.lookup requestId = some entry → entry.ownerId ≠ ownerId

def Orderly (world : SimWorld) : SimInput → Prop
  | .blockChanged event =>
    ∀ entity, world.engine.findEntityAt event.position = some entity →
      entity.machine.isSome → (event.blockId = 0 ∨ content.isMachineBlock event.blockId = false) →
        Forgettable world.owner entity.id ∧
          ∀ id controller, world.engine.controllers.lookup id = some controller →
            controller.position = event.position → event.blockId = 0 ∧
                world.engine.ownerOf event.position entity ≠ 0 ∧
                id = (world.engine.ownerOf event.position entity).toNat
  | .explosionTick =>
    ∀ pos entity, world.engine.findEntityAt pos = some entity → entity.explodes = false
  | _ => True

variable {ownerId : Nat}

theorem ownsPort_iff {handler : ResourceDrainHandler} : handler.ownsPort ownerId = true ↔
      ∃ portId port, handler.ports.lookup portId = some port ∧ port.ownerId = ownerId := by
  unfold ResourceDrainHandler.ownsPort
  simp only [any_eq_true, beq_iff_eq, Sigma.exists, Table.mem_entries_iff]

theorem ownerRemoved_forgets_iff (owner : DrainOwner) (ownerId : Nat) :
    ((∀ portId port, (owner.step (.ownerRemoved ownerId)).1.handler.ports.lookup portId =
        some port → port.ownerId ≠ ownerId) ∧
      ∀ requestId entry, (owner.step (.ownerRemoved ownerId)).1.handler.replay.lookup requestId =
        some entry → entry.ownerId ≠ ownerId) ↔ Forgettable owner ownerId := by
  have handled : (owner.step (.ownerRemoved ownerId)).1.handler =
      (owner.handler.removeOwnerPorts ownerId).1 := rfl
  unfold Forgettable
  rw [handled, ResourceDrainHandler.removeOwnerPorts]
  cases owns : owner.handler.ownsPort ownerId with
  | true =>
    rw [if_pos rfl]
    refine iff_of_true ⟨?_, ?_⟩ (.inl rfl)
    · intro portId port found
      change (owner.handler.ports.filter _).lookup portId = some port at found
      rw [Table.lookup_filter, Option.filter_eq_some_iff] at found
      simpa using found.2
    · intro requestId entry found
      change (owner.handler.replay.entries.filter _).lookup requestId = some entry at found
      rw [Table.lookup_filter, Option.filter_eq_some_iff] at found
      simpa using found.2
  | false =>
    have portless : ∀ portId port, owner.handler.ports.lookup portId = some port →
        port.ownerId ≠ ownerId := by
      intro portId port found same
      rw [ownsPort_iff.mpr ⟨portId, port, found, same⟩] at owns
      cases owns
    rw [if_neg Bool.false_ne_true, and_iff_right portless, or_iff_right Bool.false_ne_true]

def AnchoredAt (engine : SimulationEngine) (pos : Position) (id : Nat) : Prop :=
  ∃ controller, engine.controllers.lookup id = some controller ∧ controller.position = pos

variable (engine : SimulationEngine)

theorem anchoredAt_removeBlockFromController (mbId : UInt32) (pos other : Position) (id : Nat) :
    AnchoredAt (engine.removeBlockFromController mbId pos) other id ↔
      AnchoredAt engine other id := by
  unfold AnchoredAt
  simp only [lookup_removeBlockFromController, Option.map_eq_some_iff]
  constructor
  · rintro ⟨_, ⟨controller, found, rfl⟩, position⟩
    refine ⟨controller, found, ?_⟩
    rw [← position]
    split <;> rfl
  · rintro ⟨controller, found, position⟩
    refine ⟨_, ⟨controller, found, rfl⟩, ?_⟩
    rw [← position]
    split <;> rfl

theorem anchoredAt_leaveOld (pos other : Position) (entity : Entity) (blockId : UInt16)
    (mbId : UInt32) (id : Nat) :
    AnchoredAt (engine.leaveOld pos entity blockId mbId) other id ↔ AnchoredAt engine other id := by
  unfold leaveOld
  split
  · rfl
  · split
    · exact anchoredAt_removeBlockFromController engine _ pos other id
    · rfl

theorem anchoredAt_leaveNew (pos other : Position) (mbId : UInt32) (id : Nat) :
    AnchoredAt (engine.leaveNew pos mbId) other id ↔ AnchoredAt engine other id := by
  unfold leaveNew
  split
  · exact anchoredAt_removeBlockFromController engine mbId pos other id
  · rfl

inductive AnnouncesOnce (ownerId : Nat) : List EngineEvent → Prop where
  | alone : AnnouncesOnce ownerId [.machineOwnerRemoved ownerId]
  | multiblock (id : Nat) : AnnouncesOnce ownerId
      [.multiblockSave id, .machineOwnerRemoved ownerId, .multiblockDestroyed id]

variable {events : List EngineEvent}

theorem AnnouncesOnce.announce (once : AnnouncesOnce ownerId events) (owner : DrainOwner) :
    (announce owner events).1 = (owner.step (.ownerRemoved ownerId)).1 := by
  cases once <;> rfl

theorem AnnouncesOnce.count (once : AnnouncesOnce ownerId events) (outputs : List OwnerOutput) :
    (events.map SimOutput.engine ++ outputs.map SimOutput.owner).count
      (SimOutput.engine (.machineOwnerRemoved ownerId)) = 1 := by
  have silent : (outputs.map SimOutput.owner).count
      (SimOutput.engine (.machineOwnerRemoved ownerId)) = 0 := by
    rw [count_eq_zero]
    simp
  rw [count_append, silent]
  cases once <;> simp

variable {pos : Position}

theorem anchoredAt_erase {engine : SimulationEngine} {owner id : Nat} :
    AnchoredAt { engine with controllers := engine.controllers.erase owner } pos id ↔
      AnchoredAt engine pos id ∧ id ≠ owner := by
  unfold AnchoredAt
  change (∃ controller, AList.lookup id (engine.controllers.erase owner) = some controller ∧
    controller.position = pos) ↔ _
  rw [Table.lookup_erase_eq]
  split
  · next same => simp [same]
  · next distinct => simp [distinct]

variable {entity : Entity}

theorem leaveController_announces {engine : SimulationEngine}
    (stands : engine.findEntityAt pos = some entity) (id : Nat) :
    (AnchoredAt (engine.leaveController pos (engine.ownerOf pos entity)).1 pos id ↔
      AnchoredAt engine pos id ∧
        ¬(engine.ownerOf pos entity ≠ 0 ∧ id = (engine.ownerOf pos entity).toNat)) ∧
      ((engine.Anchors pos entity ∧
        AnnouncesOnce entity.id (engine.leaveController pos (engine.ownerOf pos entity)).2) ∨
      (¬engine.Anchors pos entity ∧
        (engine.leaveController pos (engine.ownerOf pos entity)).2 = [])) := by
  unfold leaveController SimulationEngine.Anchors
  split
  · next none => simp [none]
  rename_i named
  cases found : engine.controllers.lookup (engine.ownerOf pos entity).toNat with
  | none =>
    refine ⟨?_, by simp⟩
    constructor
    · rintro ⟨controller, anchored, position⟩
      refine ⟨⟨controller, anchored, position⟩, ?_⟩
      rintro ⟨-, rfl⟩
      rw [found] at anchored
      cases anchored
    · exact fun anchored => anchored.1
  | some controller =>
    dsimp only
    split
    · next position =>
      rw [destroyController_at stands found position]
      refine ⟨?_, .inl ⟨⟨named, controller, rfl, position⟩, .multiblock _⟩⟩
      rw [and_iff_right named]
      exact anchoredAt_erase
    · next away =>
      rw [anchoredAt_removeBlockFromController]
      refine ⟨?_, .inr ⟨?_, rfl⟩⟩
      · constructor
        · rintro ⟨other, anchored, position⟩
          refine ⟨⟨other, anchored, position⟩, ?_⟩
          rintro ⟨-, rfl⟩
          rw [found] at anchored
          exact away (Option.some.inj anchored ▸ position)
        · exact fun anchored => anchored.1
      · rintro ⟨-, other, same, position⟩
        exact away (Option.some.inj same ▸ position)

theorem clearBlock_announces {engine : SimulationEngine}
    (stands : engine.findEntityAt pos = some entity) (equipped : entity.machine.isSome) :
    AnnouncesOnce entity.id (engine.clearBlock pos).2 ∧
      ∀ id, AnchoredAt (engine.clearBlock pos).1 pos id ↔ AnchoredAt engine pos id ∧
          ¬(engine.ownerOf pos entity ≠ 0 ∧ id = (engine.ownerOf pos entity).toNat) := by
  have left := leaveController_announces stands
  unfold clearBlock
  simp only [stands]
  rcases leaveController_at stands with ⟨there, anchors⟩ | ⟨there, stays⟩
  · obtain ⟨-, once⟩ | ⟨stays, -⟩ := (left 0).2
    · simp only [there]
      exact ⟨once, fun id => (left id).1⟩
    · exact absurd anchors stays
  · obtain ⟨anchors, -⟩ | ⟨-, silent⟩ := (left 0).2
    · exact absurd anchors stays
    · simp only [there, equipped, if_true, silent, nil_append]
      exact ⟨.alone, fun id => (left id).1⟩

def Strips (engine : SimulationEngine) (event : BlockChanged)
    (entity : Entity) : Prop :=
  engine.findEntityAt event.position = some entity ∧ entity.machine.isSome ∧
    (event.blockId = 0 ∨ content.isMachineBlock event.blockId = false)

variable {content : Content} {event : BlockChanged}

theorem setBlock_announces {engine : SimulationEngine} (equipped : entity.machine.isSome)
    (plain : content.isMachineBlock event.blockId = false) :
    AnnouncesOnce entity.id (setBlock content engine entity event).2 ∧
      ∀ id, AnchoredAt (setBlock content engine entity event).1
        event.position id ↔ AnchoredAt engine event.position id := by
  unfold setBlock
  rw [if_neg (by simp [plain]), if_pos equipped]
  refine ⟨.alone, fun id => ?_⟩
  exact (anchoredAt_leaveNew _ _ _ _ _).trans (anchoredAt_leaveOld _ _ _ _ _ _ _)

section Step

variable {content : Content} {engine : SimulationEngine} {event : BlockChanged} {entity : Entity}

variable (strips : Strips content engine event entity)

include strips

theorem Strips.announces : AnnouncesOnce entity.id (onBlockChanged content engine event).2 := by
  obtain ⟨stands, equipped, stripped⟩ := strips
  unfold onBlockChanged
  split
  · exact (clearBlock_announces stands equipped).1
  · next placed =>
    rw [stands]
    exact (setBlock_announces equipped (stripped.resolve_left placed)).1

theorem Strips.gone (ownerId : Nat) :
    ¬MachineAt (onBlockChanged content engine event).1 event.position ownerId := by
  obtain ⟨stands, equipped, stripped⟩ := strips
  rintro ⟨left, there, -, machine⟩
  unfold onBlockChanged at there
  split at there
  · obtain ⟨heat, cleared, -⟩ := clearBlock_at stands
    rw [cleared] at there
    cases there
    cases machine
  · next placed =>
    rw [stands] at there
    have plain := stripped.resolve_left placed
    unfold setBlock at there
    dsimp only at there
    rw [if_neg (by simp [plain]), if_pos equipped, findEntityAt_putEntity_self] at there
    cases there
    cases machine

theorem Strips.unanchored_iff :
    (∀ id, ¬AnchoredAt (onBlockChanged content engine event).1 event.position id) ↔
      ∀ id, AnchoredAt engine event.position id → event.blockId = 0 ∧
        engine.ownerOf event.position entity ≠ 0 ∧
        id = (engine.ownerOf event.position entity).toNat := by
  obtain ⟨stands, equipped, stripped⟩ := strips
  unfold onBlockChanged
  apply forall_congr'
  intro id
  split
  · next air =>
    rw [(clearBlock_announces stands equipped).2 id, not_and, not_not, and_iff_right air]
  · next placed =>
    rw [stands, (setBlock_announces equipped (stripped.resolve_left placed)).2 id]
    simp [placed]

omit strips

theorem machineAt_onBlockChanged {pos : Position} {ownerId : Nat}
    (unstripped : ∀ entity, Strips content engine event entity → pos ≠ event.position)
    (before : MachineAt engine pos ownerId) :
    MachineAt (onBlockChanged content engine event).1 pos ownerId := by
  have only := SimulationEngine.OnlyAt.onBlockChanged content engine event
  obtain ⟨entity, stands, rfl, equipped⟩ := before
  by_cases away : pos = event.position
  · obtain rfl := away
    have kept : ¬(event.blockId = 0 ∨ content.isMachineBlock event.blockId = false) :=
      fun stripped => unstripped entity ⟨stands, equipped, stripped⟩ rfl
    rw [not_or, Bool.not_eq_false] at kept
    obtain ⟨parts, found⟩ := Option.isSome_iff_exists.mp equipped
    unfold onBlockChanged
    rw [if_neg kept.1, stands]
    unfold setBlock
    simp only [kept.2, if_true, found]
    exact ⟨_, findEntityAt_putEntity_self _ _ _, rfl, rfl⟩
  · exact ⟨entity, by rw [only.elsewhere pos away, stands], rfl, equipped⟩

end Step

variable {world : SimWorld}

theorem forgotten_iff : world.Forgotten pos ownerId ↔
      ((∀ portId port, world.owner.handler.ports.lookup portId = some port →
          port.ownerId ≠ ownerId) ∧
        ∀ requestId entry, world.owner.handler.replay.lookup requestId = some entry →
          entry.ownerId ≠ ownerId) ∧ ∀ id, ¬AnchoredAt world.engine pos id := by
  constructor
  · intro forgotten
    exact ⟨⟨forgotten.ports, forgotten.replay⟩,
      fun id ⟨controller, found, position⟩ => forgotten.controllers id controller found position⟩
  · rintro ⟨⟨ports, replay⟩, unanchored⟩
    exact ⟨ports, replay, fun id controller found position =>
      unanchored id ⟨controller, found, position⟩⟩

theorem announced_of_kept (kept : ∀ pos ownerId, MachineAt world.engine pos ownerId →
      MachineAt (step content world input).1.engine pos ownerId) : Announced content world input :=
  fun pos ownerId before gone => absurd (kept pos ownerId before) gone

theorem announced_blockChanged (content : Content) (world : SimWorld) (event : BlockChanged) :
    Announced content world (.blockChanged event) ↔ Orderly content world (.blockChanged event) := by
  by_cases stripping : ∃ entity, Strips content world.engine event entity
  · obtain ⟨entity, strips⟩ := stripping
    have owner : (step content world (.blockChanged event)).1.owner =
        (world.owner.step (.ownerRemoved entity.id)).1 := strips.announces.announce world.owner
    have once := strips.announces.count
      (announce world.owner (onBlockChanged content world.engine event).2).2
    have forgets : (step content world (.blockChanged event)).1.Forgotten event.position entity.id ↔
        Forgettable world.owner entity.id ∧
          ∀ id, AnchoredAt world.engine event.position id → event.blockId = 0 ∧
            world.engine.ownerOf event.position entity ≠ 0 ∧
            id = (world.engine.ownerOf event.position entity).toNat := by
      rw [forgotten_iff, owner, ownerRemoved_forgets_iff]
      exact and_congr_right fun _ => strips.unanchored_iff
    constructor
    · intro announced other stands _ _
      obtain rfl := Option.some.inj (stands.symm.trans strips.1)
      have told := announced event.position other.id ⟨other, stands, rfl, strips.2.1⟩
        (strips.gone other.id)
      obtain ⟨forgettable, unanchored⟩ := forgets.mp told.2
      exact ⟨forgettable, fun id controller found position =>
        unanchored id ⟨controller, found, position⟩⟩
    · intro orderly pos ownerId before gone
      obtain rfl : pos = event.position := by
        by_contra away
        exact gone (machineAt_onBlockChanged (fun _ _ => away) before)
      obtain ⟨other, stands, rfl, -⟩ := before
      obtain rfl := Option.some.inj (stands.symm.trans strips.1)
      obtain ⟨forgettable, unanchored⟩ := orderly other stands strips.2.1 strips.2.2
      exact ⟨once, forgets.mpr ⟨forgettable, fun id ⟨controller, found, position⟩ =>
        unanchored id controller found position⟩⟩
  · refine iff_of_true (announced_of_kept fun pos ownerId before => ?_) ?_
    · exact machineAt_onBlockChanged (fun entity strips => absurd ⟨entity, strips⟩ stripping) before
    · intro entity stands equipped stripped
      exact absurd ⟨entity, stands, equipped, stripped⟩ stripping

theorem announced_explosionTick (content : Content) (world : SimWorld) :
    Announced content world .explosionTick ↔ Orderly content world .explosionTick := by
  constructor
  · intro announced pos entity stands
    by_contra explodes
    rw [Bool.not_eq_false] at explodes
    have equipped : entity.machine.isSome := by
      unfold Entity.explodes Entity.isFuse at explodes
      cases found : entity.machine with
      | none => simp [found] at explodes
      | some parts => rfl
    have epicentre := mem_epicentres.mpr ⟨entity, stands, explodes⟩
    have hit : world.engine.blasted.contains pos = true := by
      rw [contains_iff_mem]
      exact mem_append_left _ epicentre
    have told := announced pos entity.id ⟨entity, stands, rfl, equipped⟩ (by
      rintro ⟨left, there, -⟩
      change world.engine.explosionTick.1.findEntityAt pos = some left at there
      rw [findEntityAt_explosionTick, if_pos hit] at there
      cases there)
    have silent : (world.engine.explosionTick.2.map SimOutput.blockCleared).count
        (SimOutput.engine (.machineOwnerRemoved entity.id)) = 0 := by
      rw [count_eq_zero]
      simp
    exact absurd (silent.symm.trans told.1) (by decide)
  · intro calm
    refine announced_of_kept fun pos ownerId before => ?_
    have none : world.engine.epicentres = [] := by
      rw [eq_nil_iff_forall_not_mem]
      intro other epicentre
      obtain ⟨entity, stands, explodes⟩ := mem_epicentres.mp epicentre
      rw [calm other entity stands] at explodes
      cases explodes
    obtain ⟨entity, stands, rfl, equipped⟩ := before
    refine ⟨entity.burn, ?_, entity.burn_id, by rwa [entity.burn_machine]⟩
    change world.engine.explosionTick.1.findEntityAt pos = some entity.burn
    rw [findEntityAt_explosionTick, blasted_eq_nil none, stands]
    rfl

theorem machineAt_setOverheat {engine : SimulationEngine} {pos other : Position}
    (component : Option OverheatComponent) (before : MachineAt engine other ownerId) :
    MachineAt (setOverheat engine pos component) other ownerId := by
  obtain ⟨entity, stands, rfl, equipped⟩ := before
  unfold setOverheat
  split
  · exact ⟨entity, stands, rfl, equipped⟩
  rename_i heated found
  by_cases here : other = pos
  · obtain rfl := here
    cases found.symm.trans stands
    exact ⟨_, findEntityAt_putEntity_self _ _ _, rfl, equipped⟩
  · refine ⟨entity, ?_, rfl, equipped⟩
    rw [findEntityAt_putEntity, if_neg here, stands]

theorem announced_iff (content : Content) (world : SimWorld) (input : SimInput) :
    Announced content world input ↔ Orderly content world input := by
  cases input with
  | blockChanged event => exact announced_blockChanged content world event
  | explosionTick => exact announced_explosionTick content world
  | overheat pos component =>
    exact iff_of_true (announced_of_kept fun _ _ => machineAt_setOverheat component) trivial
  | portRegister port => exact iff_of_true (announced_of_kept fun _ _ => id) trivial
  | portRemove key => exact iff_of_true (announced_of_kept fun _ _ => id) trivial
  | drain request => exact iff_of_true (announced_of_kept fun _ _ => id) trivial
  | simulate buffers => exact iff_of_true (announced_of_kept fun _ _ => id) trivial

theorem owner_removal_announced_iff (content : Content) (world : SimWorld)
    (inputs : List SimInput) : (machine content).Along (Announced content) world inputs ↔
      (machine content).Along (Orderly content) world inputs := by
  constructor
  · exact Machine.Along.mono _ fun current input => (announced_iff content current input).mp
  · exact Machine.Along.mono _ fun current input => (announced_iff content current input).mpr

def reactorAnchor : Position := ⟨1, 2, 1⟩

def reactorContent : Content where
  machines := AList.insert 1006
    ⟨"chemical_reactor", some .electricity, none, 1, 0, 0, 10000, 32, 32⟩ ∅
  patterns := PatternRegistry.new

def placeAt (blockId : UInt16) (pos : Position) : SimInput :=
  .blockChanged { position := pos, blockId := blockId, allocator := SimulationEngine.nextId }

def buildReactor : List SimInput :=
  let cells := makeLCRPattern.layers.zipIdx.flatMap fun layer =>
    MultiblockPattern.layerCells layer.1 (makeLCRPattern.corner reactorAnchor) layer.2
  (cells.filter fun cell => cell.2 == 1001).map (fun cell => placeAt 1001 cell.1) ++
    [placeAt 1006 reactorAnchor]

def start : SimWorld where
  engine := SimulationEngine.new
  owner := DrainOwner.new 1 ∅

theorem not_orderly_of_explosion (pos : Position)
    (fused : (world.engine.findEntityAt pos).map Entity.explodes = some true) :
    ¬Orderly content world .explosionTick := by
  obtain ⟨entity, stands, explodes⟩ := Option.map_eq_some_iff.mp fused
  intro calm
  rw [calm pos entity stands] at explodes
  cases explodes

theorem not_orderly_of_anchor (id : Nat) (placed : event.blockId ≠ 0)
    (plain : content.isMachineBlock event.blockId = false)
    (stands : (world.engine.findEntityAt event.position).map
      (fun entity => entity.machine.isSome) = some true)
    (anchored : (world.engine.controllers.lookup id).map MultiblockController.position =
      some event.position) :
    ¬Orderly content world (.blockChanged event) := by
  obtain ⟨entity, stands, equipped⟩ := Option.map_eq_some_iff.mp stands
  obtain ⟨controller, found, position⟩ := Option.map_eq_some_iff.mp anchored
  intro orderly
  exact placed ((orderly entity stands equipped (.inr plain)).2 id controller found position).1

theorem removal_goes_unannounced : ¬(machine reactorContent).Along (Announced reactorContent) start
        (buildReactor ++ [.overheat reactorAnchor (some ⟨.critical, 59⟩)] ++ [.explosionTick]) ∧
      ¬(machine reactorContent).Along (Announced reactorContent) start
        (buildReactor ++ [placeAt 1001 reactorAnchor]) := by
  constructor
  · intro along
    have last := ((machine reactorContent).along_concat _ _ _ _).mp along |>.2
    refine not_orderly_of_explosion reactorAnchor ?_ ((announced_iff _ _ _).mp last)
    decide +kernel
  · intro along
    have last := ((machine reactorContent).along_concat _ _ _ _).mp along |>.2
    refine not_orderly_of_anchor 2 ?_ ?_ ?_ ?_ ((announced_iff _ _ _).mp last) <;>
      decide +kernel

end SimWorld

end GtnhPlatform.SimCore
