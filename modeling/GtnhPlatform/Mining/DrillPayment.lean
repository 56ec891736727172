import Mathlib.Algebra.Order.Ring.Int
import Mathlib.Tactic.Ring
import GtnhPlatform.Mining.DrillYields

namespace GtnhPlatform.Mining

open List

open Sim (EnergyStorage)
open World (InventorySlot)

def DrillEnergy.slots (energy : DrillEnergy) : List InventorySlot := energy.container.getD []

/-- What the tools and the storage hold. -/
def DrillEnergy.charge (energy : DrillEnergy) : Int :=
  (energy.slots.map fun slot => (slot.metadata.toNat : Int)).sum +
    (energy.storage.map EnergyStorage.current).getD 0

/-- What one tick can draw: a tool is drawn on alone. -/
def DrillEnergy.available (energy : DrillEnergy) : Int :=
  match findToolSlot energy.slots with
  | some slotIdx => (energy.slots.getD slotIdx .empty).metadata.toNat
  | none => (energy.storage.map fun storage => min storage.current storage.maxOutput).getD 0

/-- A drill, and what it has paid since it chose its target. -/
structure PayingDrill where
  world : DrillWorld
  paid : Int := 0

namespace PayingDrill

def step (state : PayingDrill) (input : DrillInput) : PayingDrill :=
  let next := (state.world.step input).1
  { world := next
    paid := match input with
      | .tick => state.paid + (state.world.energy.charge - next.energy.charge)
      | .searchBlockResult _ =>
        if next.drill.state = .mining ∧ state.world.drill.state ≠ .mining then 0 else state.paid
      | _ => state.paid }

def machine : Machine PayingDrill DrillInput Unit where
  step state input := (state.step input, [])

def InFull (state : PayingDrill) (input : DrillInput) : Prop := input = .tick →
    ((state.step input).world.requests ≠ state.world.requests →
      (state.step input).world.drill.miningTicksTotal *
        (state.step input).world.drill.energyPerTick ≤ (state.step input).paid) ∧
    (state.world.energy.available < state.world.drill.energyPerTick →
      (state.step input).world.drill.miningProgress = state.world.drill.miningProgress)

def Charged (state : PayingDrill) (input : DrillInput) : Prop :=
  input = .tick → state.world.drill.state = .mining →
    findToolSlot state.world.energy.slots = none → state.world.energy.storage ≠ none →
      state.world.drill.energyPerTick ≤ state.world.energy.available

structure Kept (state : PayingDrill) : Prop where
  cost : 0 ≤ state.world.drill.energyPerTick
  paid : state.world.drill.state = .mining →
    (state.world.drill.miningTicksTotal - state.world.drill.miningProgress) *
      state.world.drill.energyPerTick ≤ state.paid

end PayingDrill

theorem consumeToolEnergy_eq {slot : InventorySlot} {amount : Int}
    (tool : (toolCapacities.lookup slot.itemId).isSome) (positive : 0 ≤ amount) :
    (slot.metadata.toNat : Int) < amount ∧ consumeToolEnergy slot amount = none ∨
      amount ≤ slot.metadata.toNat ∧ ∃ drained, consumeToolEnergy slot amount = some drained ∧
        (drained.metadata.toNat : Int) + amount ≤ slot.metadata.toNat := by
  obtain ⟨capacity, found⟩ := Option.isSome_iff_exists.mp tool
  have holds : 0 ≤ capacity := by
    have listed : ∀ entry ∈ toolCapacities, 0 ≤ entry.2 := by decide
    obtain ⟨_, _, split, _⟩ := lookup_eq_some_iff.mp found
    exact listed (slot.itemId, capacity) (by rw [split]; simp)
  have wide := slot.metadata.toNat_lt
  rw [consumeToolEnergy, found]
  dsimp only
  split
  · next short => exact .inl ⟨short, rfl⟩
  rename_i enough
  refine .inr ⟨Int.not_lt.mp enough, _, rfl, ?_⟩
  have left : 0 ≤ min (max ((slot.metadata.toNat : Int) - amount) 0) capacity ∧
      min (max ((slot.metadata.toNat : Int) - amount) 0) capacity ≤
        slot.metadata.toNat - amount := by omega
  generalize min (max ((slot.metadata.toNat : Int) - amount) 0) capacity = kept at left
  rw [UInt16.ofInt, Int.emod_eq_of_lt left.1 (by omega), UInt16.toNat_ofNat', Nat.mod_eq_of_lt]
  · omega
  · omega

namespace DrillWorld

variable (state : DrillWorld)

theorem phaseEnergyCheck_pays (positive : 0 ≤ state.drill.energyPerTick) :
    (∃ energy events, state.phaseEnergyCheck = ({ state with energy := energy }, true, events) ∧
      (state.drill.energyPerTick ≤ state.energy.available →
        energy.charge + state.drill.energyPerTick ≤ state.energy.charge) ∧
      (state.energy.available < state.drill.energyPerTick →
        findToolSlot state.energy.slots = none ∧ state.energy.storage ≠ none)) ∨
      state.phaseEnergyCheck = (state.abandon, false, []) ∧
        (findToolSlot state.energy.slots = none → state.energy.storage = none) := by
  unfold phaseEnergyCheck DrillEnergy.available
  cases found : findToolSlot state.energy.slots with
  | some slotIdx =>
    obtain ⟨inside, tool, _⟩ := findIdx?_eq_some_iff_getElem.mp found
    have slot : state.energy.slots.getD slotIdx .empty = state.energy.slots[slotIdx] :=
      by rw [getD_eq_getElem?_getD, getElem?_eq_getElem inside, Option.getD_some]
    rw [DrillEnergy.slots] at found
    dsimp only
    rw [found]
    dsimp only
    rw [← DrillEnergy.slots, slot]
    rcases consumeToolEnergy_eq tool positive with ⟨short, refused⟩ | ⟨enough, drained, taken, less⟩
    · rw [refused]
      exact .inr ⟨rfl, nofun⟩
    rw [taken]
    refine .inl ⟨_, _, rfl, fun _ => ?_, fun short => absurd enough (Int.not_le.mpr short)⟩
    rw [DrillEnergy.charge, DrillEnergy.charge, DrillEnergy.slots, Option.getD_some, map_set,
      sum_set', dif_pos (by rwa [length_map]), getElem_map]
    dsimp only
    omega
  | none =>
    rw [DrillEnergy.slots] at found
    dsimp only
    rw [found]
    cases storage : state.energy.storage with
    | none => exact .inr ⟨rfl, fun _ => rfl⟩
    | some energy =>
      refine .inl ⟨_, _, rfl, fun enough => ?_, fun _ => ⟨rfl, nofun⟩⟩
      rw [DrillEnergy.charge, DrillEnergy.charge, storage]
      simp only [DrillEnergy.slots, consumeEnergy, Option.map_some, Option.getD_some] at enough ⊢
      split <;> omega

theorem phaseMine_spec :
    state.phaseMine.drill = { state.drill with miningProgress := state.drill.miningProgress - 1 } ∧
      state.phaseMine.energy = state.energy ∧
      (state.phaseMine.requests ≠ state.requests → state.drill.miningProgress ≤ 1) := by
  rw [phaseMine]
  dsimp only
  split
  · exact ⟨rfl, rfl, fun asks => absurd rfl asks⟩
  · next past => exact ⟨rfl, rfl, fun _ => by omega⟩

theorem tick_rest (rests : state.drill.state ≠ .mining) :
    state.tick.1.requests = state.requests ∧
      ∃ layer index next, next ≠ .mining ∧ state.tick.1.drill =
        { state.drill with searchLayer := layer, searchIndex := index, state := next } := by
  have searching (layer index : Int) : let looking := { state with
        drill := { state.drill with searchLayer := layer, searchIndex := index, state := .searching } }
      looking.phaseSearch.requests = state.requests ∧
      ∃ layer index next, next ≠ .mining ∧ looking.phaseSearch.drill =
        { state.drill with searchLayer := layer, searchIndex := index, state := next } := by
    intro looking
    obtain ⟨⟨layer, index, drill⟩, requests, _⟩ := @gazes_phaseSearch looking
    exact ⟨requests, layer, index, .searching, nofun, drill⟩
  rw [tick]
  split
  · exact searching 0 0
  · next looks =>
    have same := searching state.drill.searchLayer state.drill.searchIndex
    rwa [← looks] at same
  · next mining => exact absurd mining rests
  split
  · exact ⟨rfl, _, _, .searching, nofun, rfl⟩
  · exact ⟨rfl, _, _, _, rests, rfl⟩

end DrillWorld

namespace PayingDrill

variable {state : PayingDrill} (kept : state.Kept)

include kept

theorem Charged.tick_mining (charged : state.Charged .tick)
    (mining : state.world.drill.state = .mining) :
    (∃ energy, state.world.tick.1 = { state.world with energy := energy }.phaseMine ∧
      energy.charge + state.world.drill.energyPerTick ≤ state.world.energy.charge ∧
      state.world.drill.energyPerTick ≤ state.world.energy.available) ∨
      state.world.tick.1 = state.world.abandon := by
  rcases state.world.phaseEnergyCheck_pays kept.cost with
    ⟨energy, events, checked, pays, short⟩ | ⟨checked, _⟩
  · have enough : state.world.drill.energyPerTick ≤ state.world.energy.available := by
      by_contra poor
      obtain ⟨bare, holds⟩ := short (Int.not_le.mp poor)
      exact poor (charged rfl mining bare holds)
    refine .inl ⟨energy, ?_, pays enough, enough⟩
    rw [DrillWorld.tick, mining, checked]
    rfl
  · refine .inr ?_
    rw [DrillWorld.tick, mining, checked]
    rfl

theorem paid_tick (mining : state.world.drill.state = .mining) {energy : DrillEnergy}
    (pays : energy.charge + state.world.drill.energyPerTick ≤ state.world.energy.charge) :
    (state.world.drill.miningTicksTotal - (state.world.drill.miningProgress - 1)) *
        state.world.drill.energyPerTick ≤
      state.paid + (state.world.energy.charge - energy.charge) := by
  have due := kept.paid mining
  have one : (state.world.drill.miningTicksTotal - (state.world.drill.miningProgress - 1)) *
      state.world.drill.energyPerTick =
        (state.world.drill.miningTicksTotal - state.world.drill.miningProgress) *
          state.world.drill.energyPerTick + state.world.drill.energyPerTick := by
    ring
  omega

theorem inFull_of_charged (charged : state.Charged .tick) : state.InFull .tick := by
  intro _
  change (state.world.tick.1.requests ≠ _ → state.world.tick.1.drill.miningTicksTotal *
    state.world.tick.1.drill.energyPerTick ≤
      state.paid + (state.world.energy.charge - state.world.tick.1.energy.charge)) ∧
    (_ → state.world.tick.1.drill.miningProgress = _)
  by_cases mining : state.world.drill.state = .mining
  · rcases charged.tick_mining kept mining with ⟨energy, ticked, pays, enough⟩ | ticked
    · obtain ⟨drill, spent, asks⟩ := { state.world with energy := energy }.phaseMine_spec
      rw [ticked, drill, spent]
      refine ⟨fun asked => ?_, fun poor => absurd enough (Int.not_le.mpr poor)⟩
      have last := asks asked
      refine Int.le_trans ?_ (paid_tick kept mining pays)
      dsimp only at last ⊢
      exact Int.mul_le_mul_of_nonneg_right (by omega) kept.cost
    · rw [ticked]
      exact ⟨fun asked => absurd rfl asked, fun _ => rfl⟩
  · obtain ⟨requests, _, _, _, _, drill⟩ := state.world.tick_rest mining
    exact ⟨fun asked => absurd requests asked, fun _ => by rw [drill]⟩

theorem inFull_iff_tick : state.InFull .tick ↔ state.Charged .tick := by
  refine ⟨fun full _ mining bare holds => ?_, inFull_of_charged kept⟩
  by_contra poor
  have still := (full rfl).2 (Int.not_le.mp poor)
  change state.world.tick.1.drill.miningProgress = _ at still
  rcases state.world.phaseEnergyCheck_pays kept.cost with ⟨energy, _, checked, _⟩ | ⟨_, none⟩
  · rw [DrillWorld.tick, mining, checked] at still
    dsimp only at still
    rw [if_pos rfl, (DrillWorld.phaseMine_spec _).1] at still
    dsimp only at still
    omega
  · exact holds (none bare)

theorem inFull_iff (input : DrillInput) : state.InFull input ↔ state.Charged input := by
  by_cases tick : input = .tick
  · rw [tick]
    exact inFull_iff_tick kept
  · exact iff_of_true (fun same => absurd same tick) fun same => absurd same tick

theorem Kept.tick (charged : state.Charged .tick) : (state.step .tick).Kept := by
  by_cases mining : state.world.drill.state = .mining
  · rcases charged.tick_mining kept mining with ⟨energy, ticked, pays, _⟩ | ticked
    · obtain ⟨drill, spent, _⟩ := { state.world with energy := energy }.phaseMine_spec
      rw [← ticked] at drill spent
      constructor
      · change 0 ≤ state.world.tick.1.drill.energyPerTick
        rw [drill]
        exact kept.cost
      intro _
      change (state.world.tick.1.drill.miningTicksTotal - state.world.tick.1.drill.miningProgress) *
        state.world.tick.1.drill.energyPerTick ≤
          state.paid + (state.world.energy.charge - state.world.tick.1.energy.charge)
      rw [drill, spent]
      exact paid_tick kept mining pays
    · constructor
      · change 0 ≤ state.world.tick.1.drill.energyPerTick
        rw [ticked]
        exact kept.cost
      · change state.world.tick.1.drill.state = .mining → _
        rw [ticked]
        exact nofun
  · obtain ⟨_, _, _, next, rests, drill⟩ := state.world.tick_rest mining
    constructor
    · change 0 ≤ state.world.tick.1.drill.energyPerTick
      rw [drill]
      exact kept.cost
    · change state.world.tick.1.drill.state = .mining → _
      rw [drill]
      exact fun mines => absurd mines rests

theorem Kept.step (input : DrillInput) (charged : state.Charged input) :
    (state.step input).Kept := by
  cases input with
  | tick => exact kept.tick charged
  | changeWorld | changeEnergy => exact ⟨kept.cost, kept.paid⟩
  | getBlock index | setBlockCAS index =>
    unfold PayingDrill.step DrillWorld.step
    dsimp only
    split <;> exact ⟨kept.cost, kept.paid⟩
  | searchBlockResult index =>
    unfold PayingDrill.step DrillWorld.step
    dsimp only
    split
    · refine ⟨kept.cost, fun mining => ?_⟩
      rw [if_neg fun chosen => chosen.2 mining]
      exact kept.paid mining
    unfold DrillWorld.onSearchBlockResult
    split
    · next ore =>
      refine ⟨kept.cost, fun _ => ?_⟩
      rw [if_pos ⟨rfl, by rw [ore.1]; nofun⟩]
      simp
    · refine ⟨kept.cost, fun mining => ?_⟩
      rw [if_neg fun chosen => chosen.2 mining]
      exact kept.paid mining
  | mineComplete index =>
    unfold PayingDrill.step DrillWorld.step
    dsimp only
    split
    · exact ⟨kept.cost, kept.paid⟩
    · refine ⟨?_, fun mining => absurd mining (DrillWorld.onMineComplete_rest _).1⟩
      unfold DrillWorld.onMineComplete
      split <;> exact kept.cost

omit kept

theorem inFull_along_iff (pos : Actions.BlockPos) (tier : Int)
    (world : Actions.BlockPos → Option Actions.Block) (inputs : List DrillInput) :
    machine.Along InFull { world := .start pos tier world } inputs ↔
      machine.Along Charged { world := .start pos tier world } inputs := by
  have cost : 0 ≤ calcEnergyPerTick tier := by
    rw [calcEnergyPerTick, Int.mul_assoc]
    exact Int.mul_nonneg (by decide) (mul_self_nonneg (tier + 1))
  exact machine.along_congr_of (fun _ input kept => inFull_iff kept input)
    (fun _ input kept charged => kept.step input charged) ⟨cost, (nofun : DrillState.idle = .mining → _)⟩ inputs

theorem empty_storage_mines :
    ¬∀ (pos : Actions.BlockPos) (tier : Int) (world : Actions.BlockPos → Option Actions.Block)
      (inputs : List DrillInput),
      machine.Along InFull { world := .start pos tier world } inputs := by
  intro all
  obtain ⟨_, _, _, _, full, _⟩ := all ⟨0, 0, 0⟩ 0 (fun _ => some ⟨kOreIron, 0⟩)
    [.changeEnergy { storage := some ⟨1000, 0, 32, 32, 0, .electricity⟩ }, .tick, .getBlock 0 true,
      .searchBlockResult 0, .tick]
  exact absurd ((full rfl).2 (by decide)) (by decide)

end PayingDrill

end GtnhPlatform.Mining
