import Mathlib.Algebra.Order.Ring.Int
import GtnhPlatform.Data.Word
import GtnhPlatform.Sim.SimulationEngine

namespace GtnhPlatform.Sim

def EXPLOSION_DELAY_TICKS : UInt32 := 60
def EXPLOSION_ANCHOR_REACH : Int := 2
def EXPLOSION_SINGLEBLOCK_REACH : Int := 3

namespace Position

def signed (coordinate : UInt32) : Int := wrapI32 coordinate.toNat

def trueSquaredDistance (a b : Position) : Int :=
  let dx := signed a.x - signed b.x
  let dy := signed a.y - signed b.y
  let dz := signed a.z - signed b.z
  dx * dx + dy * dy + dz * dz

/-- In `int64_t`. -/
def squaredDistance (a b : Position) : Int := Int.bmod (trueSquaredDistance a b) (2 ^ 64)

theorem squaredDistance_eq {a b : Position} (near : a.trueSquaredDistance b ≤ 9) :
    a.squaredDistance b = a.trueSquaredDistance b := by
  have nonneg : 0 ≤ a.trueSquaredDistance b := Int.add_nonneg
    (Int.add_nonneg (mul_self_nonneg _) (mul_self_nonneg _)) (mul_self_nonneg _)
  rw [squaredDistance, Int.bmod_eq_of_le] <;> omega

end Position

def reachFor (isMultiblockAnchor : Bool) : Int :=
  if isMultiblockAnchor then EXPLOSION_ANCHOR_REACH else EXPLOSION_SINGLEBLOCK_REACH

theorem reachFor_le (isMultiblockAnchor : Bool) :
    reachFor isMultiblockAnchor * reachFor isMultiblockAnchor ≤ 9 := by
  cases isMultiblockAnchor <;> decide

namespace Entity

def isFuse (entity : Entity) : Bool :=
  match entity.machine, entity.overheat with
  | some parts, some overheat =>
    parts.machine.mbId != 0 && overheat.state == .critical
  | _, _ => false

def fuseTicks (entity : Entity) : UInt32 :=
  (entity.overheat.map fun overheat => overheat.ticksAtCritical).getD 0

def burn (entity : Entity) : Entity :=
  if entity.isFuse then
    { entity with overheat := entity.overheat.map fun overheat =>
        { overheat with ticksAtCritical := overheat.ticksAtCritical + 1 } }
  else entity

def explodes (entity : Entity) : Bool :=
  entity.isFuse && decide (EXPLOSION_DELAY_TICKS ≤ entity.fuseTicks + 1)

def isCaught (epicentres : List Position) (pos : Position) (entity : Entity) : Bool :=
  match entity.machine with
  | none => false
  | some parts =>
    !epicentres.contains pos && epicentres.any fun epicentre =>
      decide (pos.squaredDistance epicentre ≤
        reachFor (parts.machine.mbId != 0) * reachFor (parts.machine.mbId != 0))

end Entity

namespace SimulationEngine

variable (engine : SimulationEngine)

def epicentres : List Position :=
  (engine.entities.filter fun _ entity => entity.explodes).keys

def blasted : List Position := engine.epicentres ++
    (engine.entities.filter fun pos entity => entity.isCaught engine.epicentres pos).keys

/-- `ExplosionSystem::tick`: entities go straight from the registry; the cleared
positions are published. -/
def explosionTick : SimulationEngine × List Position :=
  ({ engine with
      entities := (engine.entities.mapValues fun _ entity => entity.burn).filter fun pos _ =>
        !engine.blasted.contains pos },
    engine.blasted)

variable {pos : Position}

theorem mem_keys_filter {keep : Position → Entity → Bool} {entities : Table Position Entity} :
    pos ∈ (entities.filter keep).keys ↔
      ∃ entity, entities.lookup pos = some entity ∧ keep pos entity = true := by
  rw [← AList.mem_keys, ← AList.lookup_isSome, Table.lookup_filter, Option.isSome_iff_exists]
  simp only [Option.filter_eq_some_iff]

variable {engine : SimulationEngine}

theorem mem_epicentres : pos ∈ engine.epicentres ↔
      ∃ entity, engine.findEntityAt pos = some entity ∧ entity.explodes = true :=
  mem_keys_filter

theorem blasted_eq_nil (calm : engine.epicentres = []) : engine.blasted = [] := by
  rw [blasted, calm, List.nil_append, List.eq_nil_iff_forall_not_mem]
  intro pos caught
  obtain ⟨entity, -, caught⟩ := mem_keys_filter.mp caught
  unfold Entity.isCaught at caught
  split at caught
  · cases caught
  · simp at caught

theorem findEntityAt_explosionTick (engine : SimulationEngine) (pos : Position) :
    engine.explosionTick.1.findEntityAt pos = if engine.blasted.contains pos then none
      else (engine.findEntityAt pos).map Entity.burn := by
  change ((engine.entities.mapValues _).filter _).lookup pos = _
  rw [Table.lookup_filter, Table.lookup_mapValues]
  split
  · next hit =>
    have mem : pos ∈ engine.blasted := by simpa using hit
    cases AList.lookup pos engine.entities <;> simp [mem]
  rename_i missed
  change _ = (engine.entities.lookup pos).map Entity.burn
  have outside : pos ∉ engine.blasted := by simpa using missed
  cases AList.lookup pos engine.entities <;> simp [outside]

def WithinReach (engine : SimulationEngine) (pos : Position) (entity : Entity) : Prop :=
  ∃ parts, entity.machine = some parts ∧ ∃ epicentre ∈ engine.epicentres,
    pos.trueSquaredDistance epicentre ≤
      reachFor (parts.machine.mbId != 0) * reachFor (parts.machine.mbId != 0)

structure Geometric (engine : SimulationEngine) : Prop where
  once : engine.explosionTick.2.Nodup
  reach : ∀ pos entity, engine.findEntityAt pos = some entity →
    (engine.explosionTick.1.findEntityAt pos = none ↔
      entity.explodes = true ∨ engine.WithinReach pos entity)
  published : ∀ pos, pos ∈ engine.explosionTick.2 ↔
    (engine.findEntityAt pos).isSome ∧ engine.explosionTick.1.findEntityAt pos = none
  ordered : ∀ other : SimulationEngine,
    (∀ pos, other.findEntityAt pos = engine.findEntityAt pos) →
      other.explosionTick.2.Perm engine.explosionTick.2 ∧
        ∀ pos, other.explosionTick.1.findEntityAt pos = engine.explosionTick.1.findEntityAt pos

def CatchesNear (engine : SimulationEngine) : Prop :=
  ∀ pos entity, engine.findEntityAt pos = some entity →
    entity.isCaught engine.epicentres pos = true → engine.WithinReach pos entity

theorem mem_blasted : pos ∈ engine.blasted ↔ ∃ entity, engine.findEntityAt pos = some entity ∧
    (entity.explodes = true ∨ entity.isCaught engine.epicentres pos = true) := by
  rw [blasted, List.mem_append, mem_epicentres, mem_keys_filter, ← exists_or]
  simp only [findEntityAt, and_or_left]

theorem isCaught_of_within {entity : Entity} (found : engine.findEntityAt pos = some entity)
    (within : engine.WithinReach pos entity) :
    entity.explodes = true ∨ entity.isCaught engine.epicentres pos = true := by
  obtain ⟨parts, machine, epicentre, listed, near⟩ := within
  refine or_iff_not_imp_left.mpr fun stays => ?_
  have outside : pos ∉ engine.epicentres := by
    intro exploding
    obtain ⟨_, stands, explodes⟩ := mem_epicentres.mp exploding
    cases found.symm.trans stands
    exact stays explodes
  have small : pos.squaredDistance epicentre = pos.trueSquaredDistance epicentre :=
    Position.squaredDistance_eq (near.trans (reachFor_le _))
  rw [Entity.isCaught, machine]
  simp only [Bool.and_eq_true, Bool.not_eq_true', List.any_eq_true, decide_eq_true_eq]
  exact ⟨by simpa using outside, epicentre, listed, small.symm ▸ near⟩

theorem nodup_blasted : engine.blasted.Nodup := by
  refine List.nodup_append.mpr ⟨AList.keys_nodup _, AList.keys_nodup _, ?_⟩
  rintro pos exploding _ caught rfl
  obtain ⟨entity, _, caught⟩ := mem_keys_filter.mp caught
  unfold Entity.isCaught at caught
  split at caught
  · cases caught
  · simp [exploding] at caught

theorem findEntityAt_explosionTick_none {entity : Entity}
    (found : engine.findEntityAt pos = some entity) :
    engine.explosionTick.1.findEntityAt pos = none ↔
      entity.explodes = true ∨ entity.isCaught engine.epicentres pos = true := by
  rw [findEntityAt_explosionTick, found]
  by_cases hit : pos ∈ engine.blasted
  · obtain ⟨_, stands, gone⟩ := mem_blasted.mp hit
    cases found.symm.trans stands
    exact iff_of_true (if_pos (by simpa using hit)) gone
  · rw [if_neg (by simpa using hit)]
    exact iff_of_false nofun fun gone => hit (mem_blasted.mpr ⟨entity, found, gone⟩)

theorem mem_blasted_congr {other : SimulationEngine}
    (same : ∀ pos, other.findEntityAt pos = engine.findEntityAt pos) (pos : Position) :
    pos ∈ other.blasted ↔ pos ∈ engine.blasted := by
  have fuses (place : Position) : place ∈ other.epicentres ↔ place ∈ engine.epicentres := by
    rw [mem_epicentres, mem_epicentres, same]
  have caught (entity : Entity) :
      entity.isCaught other.epicentres pos = entity.isCaught engine.epicentres pos := by
    rw [Bool.eq_iff_iff]
    unfold Entity.isCaught
    cases entity.machine with
    | none => exact Iff.rfl
    | some parts => simp [fuses]
  rw [mem_blasted, mem_blasted]
  simp only [same, caught]

theorem geometric_iff (engine : SimulationEngine) : engine.Geometric ↔ engine.CatchesNear := by
  constructor
  · intro geometric pos entity found caught
    have reached := (geometric.reach pos entity found).mp
      ((findEntityAt_explosionTick_none found).mpr (Or.inr caught))
    refine reached.resolve_left fun explodes => ?_
    have exploding : pos ∈ engine.epicentres := mem_epicentres.mpr ⟨entity, found, explodes⟩
    unfold Entity.isCaught at caught
    split at caught
    · cases caught
    · simp [exploding] at caught
  · intro near
    constructor
    · exact nodup_blasted
    · intro pos entity found
      rw [findEntityAt_explosionTick_none found]
      exact ⟨Or.imp_right (near pos entity found), fun gone =>
        gone.elim Or.inl (isCaught_of_within found)⟩
    · intro pos
      cases found : engine.findEntityAt pos with
      | none => exact iff_of_false (fun hit => by
          obtain ⟨_, stands, _⟩ := mem_blasted.mp hit
          exact absurd (found.symm.trans stands) nofun) fun gone => absurd gone.1 nofun
      | some entity =>
        rw [findEntityAt_explosionTick_none found]
        refine mem_blasted.trans ⟨?_, fun gone => ⟨entity, found, gone.2⟩⟩
        rintro ⟨_, stands, gone⟩
        cases found.symm.trans stands
        exact ⟨rfl, gone⟩
    · intro other same
      refine ⟨(List.perm_ext_iff_of_nodup nodup_blasted nodup_blasted).mpr (mem_blasted_congr same), ?_⟩
      intro pos
      rw [findEntityAt_explosionTick, findEntityAt_explosionTick, same]
      simp only [List.contains_iff_mem, mem_blasted_congr same]

def hotMachine (x mbId : UInt32) : Entity where
  id := 0
  machine := some ⟨⟨7, mbId, ⟨x, 0, 0⟩, 0, true⟩, ⟨0, 0, []⟩, ⟨0, 0, 0, 0, 0, .electricity⟩⟩
  overheat := some ⟨.critical, 59⟩

/-- A fuse on one side of the world, a machine on the other. -/
def worldApart : SimulationEngine where
  entities := (AList.singleton ⟨0x80000000, 0, 0⟩ (hotMachine 0x80000000 0)).insert ⟨0x7FFFFFFF, 0, 0⟩
    (hotMachine 0x7FFFFFFF 1)
  controllers := ∅
  nextMachineId := 1

theorem far_machine_destroyed : ¬∀ engine : SimulationEngine, engine.Geometric := by
  intro all
  rcases ((all worldApart).reach ⟨0x80000000, 0, 0⟩ _ rfl).mp (by decide) with
    explodes | ⟨_, ⟨⟩, epicentre, listed, near⟩
  · exact absurd explodes (by decide)
  · have far : ∀ epicentre ∈ worldApart.epicentres,
        9 < Position.trueSquaredDistance ⟨0x80000000, 0, 0⟩ epicentre := by decide
    exact absurd (near.trans (reachFor_le _)) (Int.not_le.mpr (far epicentre listed))

end SimulationEngine

theorem Entity.burn_id (entity : Entity) : entity.burn.id = entity.id := by
  unfold burn
  split <;> rfl

theorem Entity.burn_machine (entity : Entity) : entity.burn.machine = entity.machine := by
  unfold burn
  split <;> rfl

end GtnhPlatform.Sim
