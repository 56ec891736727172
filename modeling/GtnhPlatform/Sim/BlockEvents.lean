import GtnhPlatform.Sim.MachineComponents

namespace GtnhPlatform.Sim

open List SimulationEngine

/-! Which controller a position belongs to. Block lists hold packed positions, of
which only the low ten bits of each coordinate are left. -/

theorem MultiblockPattern.collectBlocks_packed (pattern : MultiblockPattern) (corner : Position) :
    ∃ positions : List Position, pattern.collectBlocks corner = positions.map Position.mbPack := by
  refine ⟨pattern.layers.zipIdx.flatMap fun layer =>
    (layerCells layer.1 corner layer.2).map Prod.fst, ?_⟩
  rw [map_flatMap, collectBlocks]
  simp only [map_map, Function.comp_def]

namespace SimulationEngine

variable (engine : SimulationEngine)

def isMultiblockBlockAt (pos : Position) : Bool :=
  engine.controllers.values.any fun controller => pos.mbPack ∈ controller.blocks

theorem isMultiblockBlockAt_eq (pos : Position) :
    engine.isMultiblockBlockAt pos = (engine.findControllerAt pos).isSome := by
  rw [isMultiblockBlockAt, Table.values, any_map, findControllerAt, Option.isSome_map, isSome_find?]
  rfl

theorem controllers_destroyController (id : Nat) :
    (engine.destroyController id).1.controllers = engine.controllers.erase id := by
  unfold destroyController
  split
  · next absent =>
    exact (AList.ext (kerase_of_notMem_keys (AList.lookup_eq_none.mp absent))).symm
  · dsimp only
    split <;> rfl

end SimulationEngine

/-- The live controllers with the positions that their block lists stand for. -/
structure LiveControllers where
  engine : SimulationEngine
  positions : Nat → List Position
  packed : ∀ id controller, engine.controllers.lookup id = some controller →
    controller.blocks = (positions id).map Position.mbPack

theorem find?_erase {ids : List Nat} {wanted : Nat → Bool} {id : Nat}
    (other : ids.find? wanted ≠ some id) : (ids.erase id).find? wanted = ids.find? wanted := by
  induction ids with
  | nil => rfl
  | cons head rest ih =>
    cases hit : wanted head with
    | true =>
      rw [find?_cons_of_pos hit] at other ⊢
      have apart : head ≠ id := fun same => other (congrArg some same)
      rw [erase_cons_tail (beq_false_of_ne apart ▸ Bool.false_ne_true), find?_cons_of_pos hit]
    | false =>
      have miss : ¬wanted head = true := Bool.eq_false_iff.mp hit
      rw [find?_cons_of_neg miss] at other ⊢
      by_cases same : head = id
      · rw [same, erase_cons_head]
      · rw [erase_cons_tail (beq_false_of_ne same ▸ Bool.false_ne_true), find?_cons_of_neg miss,
          ih other]

namespace LiveControllers

variable (live : LiveControllers) (pos : Position)

def Lists (id : Nat) : Prop := id ∈ live.engine.controllers.keys ∧ pos ∈ live.positions id

/-- A position of the controller has the pack of `pos`. -/
def aliases (id : Nat) : Bool := pos.mbPack ∈ (live.positions id).map Position.mbPack

structure ExactAt : Prop where
  member : live.engine.isMultiblockBlockAt pos = true ↔ ∃ id, live.Lists pos id
  found : ∀ id, live.engine.findControllerAt pos = some id ↔ live.Lists pos id
  kept : ∀ id, pos ∉ live.positions id →
    (live.engine.destroyController id).1.isMultiblockBlockAt pos =
        live.engine.isMultiblockBlockAt pos ∧
      (live.engine.destroyController id).1.findControllerAt pos = live.engine.findControllerAt pos

theorem findControllerAt_eq :
    live.engine.findControllerAt pos = live.engine.controllers.keys.find? (live.aliases pos) := by
  have same : ∀ entry ∈ live.engine.controllers.entries,
      decide (pos.mbPack ∈ entry.2.blocks) = live.aliases pos entry.1 := by
    intro entry listed
    rw [live.packed entry.1 entry.2 (Table.mem_entries_iff.mp listed), aliases]
  rw [findControllerAt, AList.keys, keys, find?_map]
  refine congrArg _ ?_
  generalize live.engine.controllers.entries = entries at same
  induction entries with
  | nil => rfl
  | cons entry rest ih =>
    rw [find?_cons, find?_cons, same entry mem_cons_self, Function.comp,
      ih fun other later => same other (mem_cons_of_mem _ later)]

def destroy (id : Nat) : LiveControllers where
  engine := (live.engine.destroyController id).1
  positions := live.positions
  packed other controller found := by
    rw [controllers_destroyController, Table.lookup_erase_eq] at found
    split at found
    · cases found
    · exact live.packed other controller found

theorem exactAt_iff : live.ExactAt pos ↔
    (∀ id other, live.Lists pos id → live.Lists pos other → id = other) ∧
      ∀ id, live.engine.controllers.keys.find? (live.aliases pos) = some id →
        pos ∈ live.positions id := by
  rw [← findControllerAt_eq]
  constructor
  · intro exact
    constructor
    · intro id other here there
      exact Option.some.inj (((exact.found id).mpr here).symm.trans ((exact.found other).mpr there))
    · intro id first
      exact ((exact.found id).mp first).2
  rintro ⟨unique, own⟩
  have found : ∀ id, live.engine.findControllerAt pos = some id ↔ live.Lists pos id := by
    intro id
    constructor
    · intro first
      refine ⟨?_, own id first⟩
      rw [findControllerAt_eq] at first
      exact mem_of_find?_eq_some first
    · intro here
      have hit : (live.engine.findControllerAt pos).isSome := by
        rw [findControllerAt_eq, find?_isSome]
        exact ⟨id, here.1, decide_eq_true (mem_map_of_mem here.2)⟩
      obtain ⟨first, found⟩ := Option.isSome_iff_exists.mp hit
      have there : live.Lists pos first := by
        refine ⟨?_, own first found⟩
        rw [findControllerAt_eq] at found
        exact mem_of_find?_eq_some found
      rw [found, unique first id there here]
  have kept : ∀ id, pos ∉ live.positions id →
      (live.engine.destroyController id).1.findControllerAt pos =
        live.engine.findControllerAt pos := by
    intro id outside
    have other : live.engine.controllers.keys.find? (live.aliases pos) ≠ some id := by
      rw [← findControllerAt_eq]
      exact fun first => outside (own id first)
    rw [findControllerAt_eq, ← find?_erase other, ← AList.keys_erase,
      ← controllers_destroyController]
    exact (live.destroy id).findControllerAt_eq pos
  refine ⟨?_, found, fun id outside => ⟨?_, kept id outside⟩⟩
  · rw [isMultiblockBlockAt_eq, Option.isSome_iff_exists]
    exact exists_congr found
  · rw [isMultiblockBlockAt_eq, isMultiblockBlockAt_eq, kept id outside]

/-- The block 1024 away from a structure's is taken for it. -/
theorem alias_is_member : ¬∀ live pos, ExactAt live pos := by
  intro all
  let near : LiveControllers := {
    engine := { SimulationEngine.new with
      controllers := AList.insert 1 ⟨1, ⟨0, 0, 0⟩, 1, [0], []⟩ ∅ }
    positions := fun _ => [⟨0, 0, 0⟩]
    packed := by
      intro id controller found
      rw [Table.lookup_insert_eq] at found
      split at found
      · cases found
        decide
      · cases found }
  have listed := (all near ⟨1024, 0, 0⟩).member.mp (by decide)
  obtain ⟨id, -, inside⟩ := listed
  exact absurd (mem_singleton.mp inside) (by decide)

end LiveControllers

namespace SimulationEngine

/-! What a block event does when it comes a second time. -/

variable {content : Content} {engine : SimulationEngine} {entity placed : Entity} {pos : Position}
  {event : BlockChanged} {mbId : UInt32} {parts : MachineParts}

/-- The second delivery changes nothing and reports nothing. -/
def Idempotent (content : Content) (engine : SimulationEngine) (event : BlockChanged) : Prop :=
  onBlockChanged content (onBlockChanged content engine event).1 event =
    ((onBlockChanged content engine event).1, [])

def Leaves (engine : SimulationEngine) (pos : Position) (mbId : UInt32) : Prop :=
  mbId = 0 ∨ ∀ controller, engine.controllers.lookup mbId.toNat = some controller →
    controller.position ≠ pos ∧ pos.mbPack ∉ controller.blocks

/-- Once its owner has let the position go, no other controller would. -/
def LetsGo (engine : SimulationEngine) (pos : Position) (entity : Entity) : Prop :=
  let left := (engine.leaveController pos (engine.ownerOf pos entity)).1
  ∀ id, left.findControllerAt pos = some id → left.Leaves pos (UInt32.ofNat id)

/-- The blocks once one is placed. -/
def withBlock (engine : SimulationEngine) (pos : Position) (blockId : UInt16) : BlockLookup :=
  fun other => if other = pos then blockId else engine.blockAt other

/-- A refresh would write what the creation of the machine has written. -/
def Created (engine : SimulationEngine) (content : Content) (event : BlockChanged) : Prop :=
  if content.patterns.isControllerBlock event.blockId then
    match content.patterns.matchAll event.position
        (engine.withBlock event.position event.blockId) with
    | none => content.hasDedicatedSystem event.blockId = engine.hasAnchorAt event.position
    | some _ => UInt32.ofNat (engine.nextMachineId + 1) = 0
  else content.hasDedicatedSystem event.blockId = false

def Settles (engine : SimulationEngine) (content : Content) (event : BlockChanged) : Prop :=
  if event.blockId = 0 then
    ∀ entity, engine.findEntityAt event.position = some entity → engine.LetsGo event.position entity
  else content.isMachineBlock event.blockId = true →
    (engine.findEntityAt event.position).bind Entity.machine = none → event.mbId = 0 →
      engine.Created content event

theorem putEntity_twice (first last : Entity) :
    (engine.putEntity pos first).putEntity pos last = engine.putEntity pos last := by
  rw [putEntity, putEntity, AList.insert_insert]
  rfl

theorem removeBlockFromController_self
    (unlisted : ∀ controller, engine.controllers.lookup mbId.toNat = some controller →
      pos.mbPack ∉ controller.blocks) : engine.removeBlockFromController mbId pos = engine := by
  have same : (engine.removeBlockFromController mbId pos).controllers = engine.controllers := by
    apply AList.ext
    refine (map_congr_left fun entry listed => ?_).trans (map_id _)
    obtain ⟨id, controller⟩ := entry
    by_cases named : id = mbId.toNat
    · have others := unlisted controller (named ▸ Table.mem_entries_iff.mp listed)
      have kept : controller.blocks.filter (· != pos.mbPack) = controller.blocks :=
        filter_eq_self.mpr fun block mem => bne_iff_ne.mpr fun here => others (here ▸ mem)
      simp [named, kept]
    · simp [named]
  exact congrArg (fun controllers => { engine with controllers := controllers }) same

theorem removeBlockFromController_unlisted (found : (engine.removeBlockFromController mbId
      pos).controllers.lookup mbId.toNat = some controller) : pos.mbPack ∉ controller.blocks := by
  rw [lookup_removeBlockFromController] at found
  obtain ⟨_, _, rfl⟩ := Option.map_eq_some_iff.mp found
  simp

theorem leaveController_idle (leaves : engine.Leaves pos mbId) :
    engine.leaveController pos mbId = (engine, []) := by
  unfold leaveController
  split
  · rfl
  next named =>
  split
  · rfl
  next controller found =>
  have away := leaves.resolve_left named
  rw [if_neg (away controller found).1, removeBlockFromController_self]
  exact fun other same => (away other same).2

theorem leaves_of_idle (quiet : (engine.leaveController pos mbId).2 = [])
    (kept : (engine.leaveController pos mbId).1.controllers = engine.controllers) :
    engine.Leaves pos mbId := by
  refine or_iff_not_imp_left.mpr fun named controller found => ?_
  simp only [leaveController, if_neg named, found] at quiet kept
  split at quiet
  · simp only [destroyController, found] at quiet
    split at quiet <;> cases quiet
  · next away =>
    rw [if_neg away] at kept
    rw [← kept] at found
    exact ⟨away, removeBlockFromController_unlisted found⟩

theorem clearBlock_leaves (stands : engine.findEntityAt pos = some entity) : ∃ bare : Entity,
    bare.block = none ∧ bare.machine = none ∧ (engine.clearBlock pos).1 =
      (engine.leaveController pos (engine.ownerOf pos entity)).1.putEntity pos bare := by
  unfold clearBlock
  simp only [stands]
  obtain ⟨after, found⟩ : ∃ after, (engine.leaveController pos
      (engine.ownerOf pos entity)).1.findEntityAt pos = some after := by
    rcases leaveController_at stands with ⟨found, -⟩ | ⟨found, -⟩ <;> exact ⟨_, found⟩
  simp only [found]
  split
  · exact ⟨_, rfl, rfl, rfl⟩
  · next plain => exact ⟨_, rfl, by simpa using plain, rfl⟩

theorem leaves_of_clearBlock (stands : engine.findEntityAt pos = some entity)
    (idle : engine.clearBlock pos = (engine, [])) :
    engine.Leaves pos (engine.ownerOf pos entity) := by
  have events := congrArg Prod.snd idle
  have controllers := congrArg (fun result => result.1.controllers) idle
  simp only [clearBlock, stands] at events controllers
  cases found : (engine.leaveController pos (engine.ownerOf pos entity)).1.findEntityAt pos with
  | none =>
    simp only [found] at events controllers
    exact leaves_of_idle events controllers
  | some after =>
    simp only [found] at events controllers
    split at events
    · exact absurd events (append_ne_nil_of_right_ne_nil _ (cons_ne_nil _ _))
    · next plain =>
      rw [if_neg plain] at controllers
      exact leaves_of_idle events controllers

theorem clearBlock_bare {bare : Entity} (unblocked : bare.block = none)
    (plain : bare.machine = none) :
    (engine.putEntity pos bare).clearBlock pos = (engine.putEntity pos bare, []) ↔
      ∀ id, engine.findControllerAt pos = some id → engine.Leaves pos (UInt32.ofNat id) := by
  have owner : (engine.putEntity pos bare).ownerOf pos bare =
      (engine.findControllerAt pos).elim 0 UInt32.ofNat := by
    rw [ownerOf, unblocked]
    rw [show (engine.putEntity pos bare).findControllerAt pos = engine.findControllerAt pos from rfl]
    cases engine.findControllerAt pos <;> rfl
  have leaves : (∀ id, engine.findControllerAt pos = some id →
      engine.Leaves pos (UInt32.ofNat id)) ↔ (engine.putEntity pos bare).Leaves pos
        ((engine.putEntity pos bare).ownerOf pos bare) := by
    rw [owner]
    cases engine.findControllerAt pos with
    | none => exact iff_of_true (by rintro _ ⟨⟩) (Or.inl rfl)
    | some id => exact ⟨fun all => all id rfl, fun leaves _ same => Option.some.inj same ▸ leaves⟩
  rw [leaves]
  constructor
  · exact leaves_of_clearBlock (findEntityAt_putEntity_self _ _ _)
  · intro leaves
    have unmade : ¬bare.machine.isSome = true := by simp [plain]
    simp only [clearBlock, findEntityAt_putEntity_self, leaveController_idle leaves]
    rw [if_neg unmade, putEntity_twice]
    cases bare
    cases unblocked
    rfl

theorem effectiveMbId_named (entity : Entity) (blockId : UInt16) (mbId : UInt32) :
    effectiveMbId entity blockId mbId = mbId ∨ mbId = 0 := by
  unfold effectiveMbId
  split
  · exact .inl rfl
  split
  · next echoed => exact .inr echoed.2.1
  · exact .inl rfl

theorem hasAnchorAt_removeBlockFromController (engine : SimulationEngine) (mbId : UInt32)
    (other : Position) : (engine.removeBlockFromController mbId pos).hasAnchorAt other =
      engine.hasAnchorAt other := by
  rw [hasAnchorAt, hasAnchorAt, Table.values, Table.values, any_map, any_map]
  refine any_map.trans (any_congr rfl fun entry => ?_)
  dsimp only [Function.comp]
  split <;> rfl

/-- The engine that the block is written to. -/
def left (engine : SimulationEngine) (entity : Entity) (event : BlockChanged) : SimulationEngine :=
  (engine.leaveOld event.position entity event.blockId event.mbId).leaveNew event.position
    event.mbId

theorem left_kept (engine : SimulationEngine) (entity : Entity) (event : BlockChanged) :
    (engine.left entity event).entities = engine.entities ∧
      (engine.left entity event).nextMachineId = engine.nextMachineId ∧
      ∀ pos, (engine.left entity event).hasAnchorAt pos = engine.hasAnchorAt pos := by
  unfold left leaveNew leaveOld
  repeat' split
  all_goals exact ⟨rfl, rfl, fun _ => by simp only [hasAnchorAt_removeBlockFromController]⟩

theorem hasAnchorAt_of_lookup {id : Nat} {controller : MultiblockController}
    (found : engine.controllers.lookup id = some controller)
    (position : controller.position = pos) : engine.hasAnchorAt pos = true :=
  any_eq_true.mpr ⟨controller, Table.mem_values_iff.mpr ⟨id, found⟩, beq_iff_eq.mpr position⟩

theorem left_unlisted (given : event.mbId ≠ 0) (controller : MultiblockController)
    (found : (engine.left entity event).controllers.lookup event.mbId.toNat = some controller) :
    event.position.mbPack ∉ controller.blocks := by
  rw [left, leaveNew, if_pos given] at found
  exact removeBlockFromController_unlisted found

theorem blockAt_left (block : placed.block = some ⟨event.blockId, event.metadata, mbId⟩) :
    ((engine.left entity event).putEntity event.position placed).blockAt =
      engine.withBlock event.position event.blockId := by
  funext other
  rw [withBlock, blockAt, findEntityAt_putEntity, findEntityAt, (left_kept ..).1]
  by_cases here : other = event.position
  · rw [if_pos here, if_pos here, Option.bind_some, block]
  · rw [if_neg here, if_neg here]
    rfl

theorem renameMachine_idle_iff {blockId : UInt16}
    (found : placed.machine = some parts)
    (machineId : parts.machine.machineId = blockId) (position : parts.machine.position = pos) :
    renameMachine content (engine.putEntity pos placed) pos blockId mbId placed parts =
        (engine.putEntity pos placed, []) ↔
      parts.machine.mbId = mbId ∧ parts.machine.managedExternally =
        (mbId != 0 || (content.patterns.isControllerBlock blockId && engine.hasAnchorAt pos)) := by
  have anchors : (engine.putEntity pos placed).hasAnchorAt pos = engine.hasAnchorAt pos := rfl
  rw [renameMachine, anchors, putEntity_twice]
  generalize (mbId != 0 || (content.patterns.isControllerBlock blockId && engine.hasAnchorAt pos)) =
    external
  constructor
  · intro same
    have stands := congrArg (fun result => result.1.findEntityAt pos) same
    simp only [findEntityAt_putEntity_self] at stands
    have machines := congrArg Entity.machine (Option.some.inj stands)
    rw [found] at machines
    have parts := (Option.some.inj machines).symm
    exact ⟨congrArg (·.machine.mbId) parts, congrArg (·.machine.managedExternally) parts⟩
  · rintro ⟨rfl, rfl⟩
    subst machineId position
    rw [bne_self_eq_false, Bool.false_and, if_neg Bool.false_ne_true]
    cases placed
    cases found
    rfl

section Again

variable (solid : event.blockId ≠ 0)
  (block : placed.block = some ⟨event.blockId, event.metadata, mbId⟩)
  (named : mbId = event.mbId ∨ event.mbId = 0)
  (unlisted : event.mbId ≠ 0 → ∀ controller,
    engine.controllers.lookup event.mbId.toNat = some controller →
      event.position.mbPack ∉ controller.blocks)

include solid block named unlisted

/-- The second time only the machine tail is left. -/
theorem onBlockChanged_again :
    onBlockChanged content (engine.putEntity event.position placed) event =
      if content.isMachineBlock event.blockId then
        match placed.machine with
        | none => addMachine content (engine.putEntity event.position placed) event.position
            event.blockId event.mbId placed
        | some parts => renameMachine content (engine.putEntity event.position placed)
            event.position event.blockId event.mbId placed parts
      else if placed.machine.isSome then
        (engine.putEntity event.position { placed with machine := none },
          [.machineOwnerRemoved placed.id])
      else (engine.putEntity event.position placed, []) := by
  have stays : (engine.putEntity event.position placed).leaveOld event.position placed event.blockId
      event.mbId = engine.putEntity event.position placed := by
    rw [leaveOld, block]
    refine if_neg ?_
    rintro ⟨-, echoed, other⟩
    exact echoed ⟨named.resolve_left other, rfl⟩
  have comes : (engine.putEntity event.position placed).leaveNew event.position event.mbId =
      engine.putEntity event.position placed := by
    rw [leaveNew]
    split
    · next given => exact removeBlockFromController_self (unlisted given)
    · rfl
  have effective : effectiveMbId placed event.blockId event.mbId = mbId := by
    rw [effectiveMbId, block]
    dsimp only
    split
    · rfl
    next fresh =>
    rcases named with rfl | zero
    · rfl
    · by_contra other
      exact fresh ⟨fun unset => other (zero.trans unset.symm), zero, rfl⟩
  rw [onBlockChanged, if_neg solid]
  simp only [findEntityAt_putEntity_self, setBlock, stays, comes, effective, putEntity_twice]
  cases placed
  cases block
  rfl

theorem onBlockChanged_plain (plain : ¬content.isMachineBlock event.blockId = true)
    (bare : placed.machine = none) : onBlockChanged content (engine.putEntity event.position placed)
      event = (engine.putEntity event.position placed, []) := by
  rw [onBlockChanged_again solid block named unlisted, if_neg plain, bare]
  rfl

/-- The second time a machine is only renamed. -/
theorem onBlockChanged_machine (machine : content.isMachineBlock event.blockId = true)
    (found : placed.machine = some parts) (machineId : parts.machine.machineId = event.blockId)
    (position : parts.machine.position = event.position) :
    onBlockChanged content (engine.putEntity event.position placed) event =
        (engine.putEntity event.position placed, []) ↔
      parts.machine.mbId = event.mbId ∧ parts.machine.managedExternally =
        (event.mbId != 0 || (content.patterns.isControllerBlock event.blockId &&
          engine.hasAnchorAt event.position)) := by
  rw [onBlockChanged_again solid block named unlisted, if_pos machine, found]
  exact renameMachine_idle_iff found machineId position

end Again

theorem machine_assignHatchSlots (hatches : List HatchSlot) (parts : MachineParts) :
    (parts.assignHatchSlots hatches).machine = parts.machine := by
  unfold MachineParts.assignHatchSlots
  dsimp only
  split <;> rfl

theorem addMachine_settles (fresh : engine.Fresh) (solid : event.blockId ≠ 0)
    (machine : content.isMachineBlock event.blockId = true)
    (block : placed.block = some ⟨event.blockId, event.metadata, mbId⟩)
    (named : mbId = event.mbId ∨ event.mbId = 0) :
    let added := (addMachine content ((engine.left entity event).putEntity event.position placed)
      event.position event.blockId event.mbId placed).1
    onBlockChanged content added event = (added, []) ↔
      (event.mbId = 0 → engine.Created content event) := by
  obtain ⟨-, next, anchor⟩ := left_kept engine entity event
  have blocks : ((engine.left entity event).putEntity event.position placed).blockAt =
      engine.withBlock event.position event.blockId := blockAt_left block
  intro added
  dsimp only [added]
  rw [addMachine]
  dsimp only
  split
  · next unmatched =>
    refine Iff.trans (onBlockChanged_machine solid block named left_unlisted machine rfl rfl rfl) ?_
    rw [and_iff_right rfl]
    change (event.mbId != 0 || content.hasDedicatedSystem event.blockId) = (event.mbId != 0 ||
      (content.patterns.isControllerBlock event.blockId &&
        (engine.left entity event).hasAnchorAt event.position)) ↔ _
    rw [anchor]
    by_cases given : event.mbId = 0
    · rw [bne_eq_false_iff_eq.mpr given, Bool.false_or, Bool.false_or, forall_prop_of_true given,
        Created]
      cases controls : content.patterns.isControllerBlock event.blockId with
      | false => simp
      | true =>
        rw [matchedController, given, controls] at unmatched
        have misses := Option.map_eq_none_iff.mp unmatched
        change content.patterns.matchAll _ (blockAt (putEntity _ _ _)) = none at misses
        rw [blocks] at misses
        simp [misses]
    · rw [bne_iff_ne.mpr given]
      exact iff_of_true rfl fun unset => absurd unset given
  · next controller matched =>
    obtain ⟨id, position⟩ := matchedController_spec matched
    have number : controller.id = engine.nextMachineId + 1 :=
      id.trans (congrArg (· + 1) next)
    unfold matchedController at matched
    split at matched
    · next sought =>
      obtain ⟨unset, controls⟩ := Bool.and_eq_true_iff.mp sought
      obtain ⟨found, matching, -⟩ := Option.map_eq_some_iff.mp matched
      have unset : event.mbId = 0 := beq_iff_eq.mp unset
      refine Iff.trans (onBlockChanged_machine solid
        (congrArg (Option.map (anchorBlock controller)) block) (.inr unset)
        (fun given => absurd unset given) machine rfl (congrArg _ (machine_assignHatchSlots ..))
        (congrArg _ (machine_assignHatchSlots ..))) ?_
      change content.patterns.matchAll _ (blockAt (putEntity _ _ _)) = some found at matching
      rw [blocks] at matching
      have absent : (engine.left entity event).controllers.lookup controller.id = none :=
        (OnlyAt.leaveNew _ _).fresh ((OnlyAt.leaveOld engine entity _ _).fresh fresh) _
          (by rw [id]; exact Nat.le_succ _)
      have registered : AList.lookup controller.id ((engine.left entity event).controllers.emplace
          controller.id controller) = some controller := by
        rw [Table.lookup_emplace_of_none controller absent, if_pos rfl]
      rw [anchorParts, machine_assignHatchSlots, forall_prop_of_true unset, Created,
        if_pos controls, matching, unset, controls, bne_self_eq_false, Bool.false_or, Bool.true_and]
      refine Iff.trans (and_iff_left (hasAnchorAt_of_lookup registered position).symm) ?_
      dsimp only
      rw [number]
    · cases matched

theorem setBlock_settles (fresh : engine.Fresh) (solid : event.blockId ≠ 0) :
    onBlockChanged content (setBlock content engine entity event).1 event =
        ((setBlock content engine entity event).1, []) ↔
      (content.isMachineBlock event.blockId = true → entity.machine = none → event.mbId = 0 →
        engine.Created content event) := by
  have named := effectiveMbId_named entity event.blockId event.mbId
  have unlisted : event.mbId ≠ 0 → ∀ controller,
      (engine.left entity event).controllers.lookup event.mbId.toNat = some controller →
        event.position.mbPack ∉ controller.blocks := left_unlisted
  by_cases machine : content.isMachineBlock event.blockId = true
  · rw [forall_prop_of_true machine]
    cases existing : entity.machine with
    | none =>
      rw [forall_prop_of_true rfl, setBlock, if_pos machine, existing]
      exact addMachine_settles fresh solid machine rfl named
    | some parts =>
      rw [setBlock, if_pos machine, existing]
      dsimp only [renameMachine]
      rw [putEntity_twice]
      refine iff_of_true ?_ nofun
      exact (onBlockChanged_machine solid rfl named unlisted machine rfl rfl
        rfl).mpr ⟨rfl, rfl⟩
  · refine iff_of_true ?_ fun made => absurd made machine
    rw [setBlock, if_neg machine]
    split
    · dsimp only
      rw [putEntity_twice]
      exact onBlockChanged_plain solid rfl named unlisted machine rfl
    · next plain =>
      exact onBlockChanged_plain solid rfl named unlisted machine
        (by simpa using plain)

theorem settles_iff (fresh : engine.Fresh) :
    Idempotent content engine event ↔ engine.Settles content event := by
  unfold Idempotent Settles
  by_cases cleared : event.blockId = 0
  · have clears (engine : SimulationEngine) :
        onBlockChanged content engine event = engine.clearBlock event.position := if_pos cleared
    rw [if_pos cleared, clears, clears]
    cases stands : engine.findEntityAt event.position with
    | none =>
      have idle : engine.clearBlock event.position = (engine, []) := by simp [clearBlock, stands]
      rw [idle]
      refine iff_of_true idle ?_
      intro _ here
      cases here
    | some entity =>
      obtain ⟨bare, unblocked, plain, same⟩ := clearBlock_leaves stands
      rw [same, clearBlock_bare unblocked plain]
      constructor
      · intro lets other here
        cases here
        exact lets
      · intro all
        exact all entity rfl
  · obtain ⟨entity, made, first⟩ : ∃ entity : Entity,
        (engine.findEntityAt event.position).bind Entity.machine = entity.machine ∧
          onBlockChanged content engine event = setBlock content engine entity event := by
      rw [onBlockChanged, if_neg cleared]
      cases engine.findEntityAt event.position with
      | none => exact ⟨engine.newEntity event.allocator, rfl, rfl⟩
      | some entity => exact ⟨entity, rfl, rfl⟩
    rw [if_neg cleared, made, first]
    exact setBlock_settles fresh cleared

theorem idempotent_iff (content : Content) (events : List BlockChanged) (event : BlockChanged) :
    Idempotent content ((machine content).final new events) event ↔
      ((machine content).final new events).Settles content event :=
  settles_iff (fresh_final content events)

def generatorLv : UInt16 := ItemId.pack 0b1110010 7 9

def generatorOnly : Content where
  machines := AList.insert generatorLv
    ⟨"generator", none, some .electricity, 1, 1, 0, 10000, 0, 32⟩ ∅
  patterns := PatternRegistry.new

/-- The echo of a placed generator hands it to the generic recipe loop. -/
theorem generator_echoed : ¬∀ content events event,
    Idempotent content ((machine content).final new events) event := by
  intro all
  have settles := (settles_iff fresh_new).mp (all generatorOnly [] (place generatorLv))
  rw [Settles, if_neg (by decide)] at settles
  have created := settles (by decide) rfl rfl
  rw [Created, if_neg (by decide)] at created
  exact absurd created (by decide)

theorem repeated_idle (idle : (machine content).step engine event = (engine, []))
    (copies : Nat) : (machine content).final engine (replicate copies event) = engine ∧
      (machine content).outputs engine (replicate copies event) = [] := by
  induction copies with
  | zero => exact ⟨rfl, rfl⟩
  | succ copies ih =>
    rw [replicate_succ, Machine.final, Machine.outputs, idle]
    exact ih

/-- Each event, with the number of its echoes. -/
def withEchoes (deliveries : List (BlockChanged × Nat)) : List BlockChanged :=
  deliveries.flatMap fun (event, echoes) => event :: replicate echoes event

theorem echoes_idle (fresh : engine.Fresh) (deliveries : List (BlockChanged × Nat))
    (settle : (machine content).Along (fun engine event => engine.Settles content event) engine
      (deliveries.map Prod.fst)) :
    (machine content).final engine (withEchoes deliveries) =
        (machine content).final engine (deliveries.map Prod.fst) ∧
      (machine content).outputs engine (withEchoes deliveries) =
        (machine content).outputs engine (deliveries.map Prod.fst) := by
  induction deliveries generalizing engine with
  | nil => exact ⟨rfl, rfl⟩
  | cons delivery rest ih =>
    obtain ⟨event, echoes⟩ := delivery
    obtain ⟨now, later⟩ := settle
    obtain ⟨stays, silent⟩ := repeated_idle ((settles_iff fresh).mpr now) echoes
    obtain ⟨final, outputs⟩ := ih ((OnlyAt.onBlockChanged content engine event).fresh fresh) later
    rw [withEchoes, flatMap_cons, cons_append, map_cons, Machine.final, Machine.outputs,
      Machine.final, Machine.outputs, Machine.final_append, Machine.outputs_append]
    refine ⟨?_, congrArg _ ?_⟩
    · exact (congrArg ((machine content).final · _) stays).trans final
    · refine (congrArg₂ (· ++ ·) silent ?_).trans (nil_append _)
      exact (congrArg ((machine content).outputs · _) stays).trans outputs

theorem stone_echoes_idle :
    (machine generatorOnly).final new (withEchoes [(place 1, 2)]) =
        (machine generatorOnly).final new [place 1] ∧
      (machine generatorOnly).outputs new (withEchoes [(place 1, 2)]) =
        (machine generatorOnly).outputs new [place 1] := by
  refine echoes_idle fresh_new [(place 1, 2)] ⟨?_, trivial⟩
  change Settles new generatorOnly (place 1)
  rw [Settles, if_neg (by decide)]
  intro machine
  exact absurd machine (by decide)

end SimulationEngine

end GtnhPlatform.Sim
