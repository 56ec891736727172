import GtnhPlatform.SimCore.MachineSystem
import GtnhPlatform.SimCore.OutputPlacement

namespace GtnhPlatform.SimCore

open Common Crafting Inventory Sim

def LosesNothing (range : Nat × Nat) (recipe : Recipe) (before after : MachineEntity) : Prop :=
  if after.progress.recipeId = "" then
    ∀ item, totalOf item (segment range.1 range.2 after.slots) =
      totalOf item (segment range.1 range.2 before.slots) + produced item recipe.outputs
  else after.slots = before.slots

def hasRoom (range : Nat × Nat) (recipe : Recipe) (machine : MachineEntity) : Bool :=
  (Shelf.ofSlots (segment range.1 range.2 machine.slots)).putAll recipe.outputs

structure Turn (range : Nat × Nat) (recipe : Recipe) (pays : Bool) (before after : MachineEntity) :
    Prop where
  waits : pays = false → after.progress.recipeId = before.progress.recipeId ∧
    after.slots = before.slots
  goesOn : pays = true → before.progress.remainingTicks ≠ 1 →
    after.progress.recipeId = before.progress.recipeId ∧ after.slots = before.slots
  completes : pays = true → before.progress.remainingTicks = 1 →
    after.progress.recipeId = "" ∧ after.slots = depositRange range recipe.outputs before.slots

theorem Turn.lossless_iff {before after : MachineEntity}
    (turn : Turn range recipe pays before after) (running : before.progress.recipeId ≠ "") :
    LosesNothing range recipe before after ↔
      (pays = true → before.progress.remainingTicks = 1 → hasRoom range recipe before = true) := by
  have open_iff : after.progress.recipeId = before.progress.recipeId →
      after.slots = before.slots → LosesNothing range recipe before after := by
    intro sameId sameSlots
    rw [LosesNothing, if_neg (sameId ▸ running)]
    exact sameSlots
  cases pays with
  | false =>
    obtain ⟨sameId, sameSlots⟩ := turn.waits rfl
    exact iff_of_true (open_iff sameId sameSlots) (by simp)
  | true =>
    by_cases last : before.progress.remainingTicks = 1
    · obtain ⟨done, placed⟩ := turn.completes rfl last
      rw [LosesNothing, if_pos done, placed, depositRange_total_iff]
      exact ⟨fun room _ _ => room, fun room => room rfl last⟩
    · obtain ⟨sameId, sameSlots⟩ := turn.goesOn rfl last
      exact iff_of_true (open_iff sameId sameSlots) fun _ now => absurd now last

theorem sub_one_eq_zero {ticks : UInt32} : ticks - 1 = 0 ↔ ticks = 1 := by
  rw [UInt32.sub_eq_iff_eq_add, UInt32.zero_add]

namespace MachineState

variable {content : MachineContent} {entity : Nat} {state : MachineState} {machine : MachineEntity}

def pays (content : MachineContent) (machine : MachineEntity) (recipe : Recipe)
    (state : MachineState) : Bool :=
  !content.managedExternally && state.slowDown.1 &&
    decide (content.perTickCost recipe ≤ machine.energy.current)

@[simp] theorem registry_setMachine (machine : MachineEntity) :
    (state.setMachine entity machine).registry = AList.insert entity machine state.registry := rfl

@[simp] theorem registry_slowDown : state.slowDown.2.registry = state.registry := by
  unfold slowDown
  split
  · rfl
  split
  · rfl
  · simp only
    split <;> rfl
  · rfl

@[simp] theorem registry_request (publish : Nat → Bool) (recipe : Recipe) :
    (state.request content entity publish recipe).registry = state.registry := by
  unfold request
  split
  · split <;> rfl
  · split
    · split <;> rfl
    · split <;> rfl

theorem activePass_machine (publish : Nat → Bool)
    (found : state.registry.lookup entity = some machine) (running : machine.progress.recipeId ≠ "")
    (known : content.manager.recipes.lookup machine.progress.recipeId = some recipe) :
    (state.activePass content entity publish).registry.lookup entity =
      some (if state.pays content machine recipe then
        machine.advance (content.outputRange machine.slots.length) recipe
          (content.perTickCost recipe) else machine) := by
  unfold activePass pays
  rw [found]
  simp only
  by_cases managed : content.managedExternally = true
  · rw [if_pos (by simp [managed])]
    simp [managed, found]
  rw [if_neg (by simp [managed, running])]
  simp only [Bool.not_eq_true] at managed
  cases cool : state.slowDown.1 with
  | false => simp [found]
  | true =>
    unfold runRecipe
    rw [known]
    simp only [managed, Bool.not_false, Bool.true_and, if_true]
    by_cases poor : machine.energy.current < content.perTickCost recipe
    · rw [if_pos poor, if_neg (by simpa using poor), registry_request, registry_slowDown]
      exact found
    · rw [if_neg poor, if_pos (by simpa using poor), registry_setMachine, AList.lookup_insert]

theorem advance_turn (range : Nat × Nat) (recipe : Recipe) (cost : Int) (machine : MachineEntity) :
    Turn range recipe true machine (machine.advance range recipe cost) where
  waits := fun never => absurd never (by decide)
  goesOn := by
    intro _ more
    rw [MachineEntity.advance, if_neg (mt sub_one_eq_zero.mp more)]
    exact ⟨rfl, rfl⟩
  completes := by
    intro _ last
    rw [MachineEntity.advance, if_pos (sub_one_eq_zero.mpr last)]
    exact ⟨rfl, rfl⟩

def StepLosesNothing (content : MachineContent) (entity : Nat) (state : MachineState) :
    MachineInput → Prop
  | .active publish => ∀ machine recipe, state.registry.lookup entity = some machine →
      machine.progress.recipeId ≠ "" →
      content.manager.recipes.lookup machine.progress.recipeId = some recipe →
      ∃ after, (state.activePass content entity publish).registry.lookup entity = some after ∧
        LosesNothing (content.outputRange machine.slots.length) recipe machine after
  | _ => True

def StepHasRoom (content : MachineContent) (entity : Nat) (state : MachineState) :
    MachineInput → Prop
  | .active _ => ∀ machine recipe, state.registry.lookup entity = some machine →
      machine.progress.recipeId ≠ "" →
      content.manager.recipes.lookup machine.progress.recipeId = some recipe →
      state.pays content machine recipe = true → machine.progress.remainingTicks = 1 →
      hasRoom (content.outputRange machine.slots.length) recipe machine = true
  | _ => True

theorem stepLosesNothing_iff (content : MachineContent) (entity : Nat) (state : MachineState)
    (input : MachineInput) :
    StepLosesNothing content entity state input ↔ StepHasRoom content entity state input := by
  cases input with
  | active publish =>
    refine forall_congr' fun machine => forall_congr' fun recipe => forall_congr' fun found =>
      forall_congr' fun running => forall_congr' fun known => ?_
    rw [activePass_machine publish found running known]
    simp only [Option.some.injEq, exists_eq_left']
    have turn : Turn (content.outputRange machine.slots.length) recipe
        (state.pays content machine recipe) machine
        (if state.pays content machine recipe then
          machine.advance (content.outputRange machine.slots.length) recipe
            (content.perTickCost recipe)
        else machine) := by
      cases state.pays content machine recipe with
      | false =>
        exact ⟨fun _ => ⟨rfl, rfl⟩, fun never => absurd never (by decide),
          fun never => absurd never (by decide)⟩
      | true => exact advance_turn _ recipe _ machine
    exact turn.lossless_iff running
  | start tick => exact Iff.rfl
  | topUp => exact Iff.rfl
  | world change => exact Iff.rfl

end MachineState

/-- A reactor's turns, and what the rest of the world does to it between them. -/
inductive ReactorInput where
  | tick (publish : Nat → Bool)
  | world (change : WorldChange)

/-- Where a reactor stands, and what it is built of. -/
structure Reactor where
  content : TickContent
  controller : MultiblockController
  site : MultiblockSite
  entity : Nat

namespace Reactor

variable (reactor : Reactor)

def tick (publish : Nat → Bool) (state : MultiblockState) : MultiblockState :=
  match state.registry.lookup reactor.entity with
  | none => state
  | some machine =>
    (tickLCR reactor.content publish reactor.controller reactor.entity reactor.site machine state).1

def step (state : MultiblockState) : ReactorInput → MultiblockState × List Empty
  | .tick publish => (reactor.tick publish state, [])
  | .world change =>
    ({ state with
      client := change.client
      registry := changeAt state.registry reactor.entity change }, [])

def machine : Machine MultiblockState ReactorInput Empty := ⟨step reactor⟩

def outputs (machine : MachineEntity) : Nat × Nat :=
  outputRange reactor.content reactor.controller reactor.site.machineId machine.slots.length

def pays (machine : MachineEntity) (recipe : Recipe) : Bool :=
  decide (reactor.content.perTickCost recipe ≤ machine.energy.current)

variable {reactor} {state : MultiblockState} {machine : MachineEntity} {recipe : Recipe}

theorem registry_ask (rules : FurnaceRules) (content : TickContent) (publish : Nat → Bool)
    (entity : Nat) (recipe : Recipe) (state : MultiblockState) :
    (rules.ask content publish entity recipe state).1.registry = state.registry := by
  unfold FurnaceRules.ask
  split
  · split <;> rfl
  · split
    · rfl
    · cases rules.system <;> rfl

theorem tick_turn (publish : Nat → Bool)
    (found : state.registry.lookup reactor.entity = some machine)
    (running : machine.progress.recipeId ≠ "")
    (known : reactor.content.manager.recipes.lookup machine.progress.recipeId = some recipe) :
    ∃ after, (reactor.tick publish state).registry.lookup reactor.entity = some after ∧
      Turn (reactor.outputs machine) recipe (reactor.pays machine recipe) machine after := by
  unfold tick tickLCR FurnaceRules.tick
  rw [found]
  simp only [if_pos running]
  unfold FurnaceRules.run pays
  rw [known]
  simp only [lcrRules, Bool.not_true, Bool.false_eq_true, if_false]
  by_cases poor : machine.energy.current < reactor.content.perTickCost recipe
  · rw [if_pos poor, registry_ask]
    refine ⟨machine, found, ?_⟩
    rw [decide_eq_false (by omega)]
    exact ⟨fun _ => ⟨rfl, rfl⟩, fun never => absurd never (by decide),
      fun never => absurd never (by decide)⟩
  · rw [if_neg poor, decide_eq_true (by omega)]
    unfold FurnaceRules.advance
    simp only [Bool.false_eq_true, if_false]
    by_cases last : machine.progress.remainingTicks = 1
    · rw [if_pos (sub_one_eq_zero.mpr last)]
      refine ⟨_, AList.lookup_insert _, fun never => absurd never (by decide),
        fun _ more => absurd last more, fun _ _ => ⟨rfl, rfl⟩⟩
    · rw [if_neg (mt sub_one_eq_zero.mp last)]
      refine ⟨_, AList.lookup_insert _, fun never => absurd never (by decide),
        fun _ _ => ⟨rfl, rfl⟩, fun _ now => absurd now last⟩

def StepLosesNothing (reactor : Reactor) (state : MultiblockState) : ReactorInput → Prop
  | .tick publish => ∀ machine recipe, state.registry.lookup reactor.entity = some machine →
      machine.progress.recipeId ≠ "" →
      reactor.content.manager.recipes.lookup machine.progress.recipeId = some recipe →
      ∃ after, (reactor.tick publish state).registry.lookup reactor.entity = some after ∧
        LosesNothing (reactor.outputs machine) recipe machine after
  | _ => True

def StepHasRoom (reactor : Reactor) (state : MultiblockState) : ReactorInput → Prop
  | .tick _ => ∀ machine recipe, state.registry.lookup reactor.entity = some machine →
      machine.progress.recipeId ≠ "" →
      reactor.content.manager.recipes.lookup machine.progress.recipeId = some recipe →
      reactor.pays machine recipe = true → machine.progress.remainingTicks = 1 →
      hasRoom (reactor.outputs machine) recipe machine = true
  | _ => True

theorem stepLosesNothing_iff (reactor : Reactor) (state : MultiblockState) (input : ReactorInput) :
    StepLosesNothing reactor state input ↔ StepHasRoom reactor state input := by
  cases input with
  | tick publish =>
    refine forall_congr' fun machine => forall_congr' fun recipe => forall_congr' fun found =>
      forall_congr' fun running => forall_congr' fun known => ?_
    obtain ⟨after, at_after, turn⟩ := tick_turn publish found running known
    rw [at_after]
    simp only [Option.some.injEq, exists_eq_left']
    exact turn.lossless_iff running
  | world change => exact Iff.rfl

end Reactor

theorem losesNothing_iff (content : MachineContent) (entity : Nat) (state : MachineState)
    (run : List MachineInput) (reactor : Reactor) (reacting : MultiblockState)
    (ticks : List ReactorInput) : ((MachineState.machine content entity).Along
          (MachineState.StepLosesNothing content entity) state run ↔
        (MachineState.machine content entity).Along
          (MachineState.StepHasRoom content entity) state run) ∧
      (reactor.machine.Along (Reactor.StepLosesNothing reactor) reacting ticks ↔
        reactor.machine.Along (Reactor.StepHasRoom reactor) reacting ticks) := by
  have machines : MachineState.StepLosesNothing content entity =
      MachineState.StepHasRoom content entity := by
    funext state input
    exact propext (MachineState.stepLosesNothing_iff content entity state input)
  have reactors : Reactor.StepLosesNothing reactor = Reactor.StepHasRoom reactor := by
    funext state input
    exact propext (Reactor.stepLosesNothing_iff reactor state input)
  rw [machines, reactors]
  exact ⟨Iff.rfl, Iff.rfl⟩

/-- Eight slag in 100 ticks, at two a tick. -/
def slagRecipe : Recipe where
  id := "slag"
  inputs := [⟨11, 1, 0, true, 0, 0⟩]
  outputs := [⟨12, 8, 0⟩]
  minTier := 0
  maxTier := 8
  energyType := ENERGY_TYPE_ANY
  hasPattern := false
  pattern := Vector.replicate 9 ⟨0, 0, 0⟩
  duration := 100

theorem slag_timed : slagRecipe.duration ≠ 0 := by decide

def slagSmelter : MachineContent := .single 20 slagRecipe slag_timed 2 (by decide) .electricity

def nearlyFull : MachineEntity where
  progress := { recipeId := "slag", remainingTicks := 1, isProcessing := true }
  slots := [⟨0, 0, 0⟩, ⟨12, 60, 0⟩]
  energy := ⟨1000, 10⟩

theorem nearlyFull_loses : ¬ ∀ (content : MachineContent) (entity : Nat) (state : MachineState)
      (run : List MachineInput), (MachineState.machine content entity).Along
        (MachineState.StepLosesNothing content entity) state run := by
  intro claim
  have along := claim slagSmelter 1 ⟨.new, AList.insert 1 nearlyFull ∅, none, none, none, none⟩
    [.active fun _ => true]
  obtain ⟨after, found, nothing⟩ := along.1 nearlyFull slagRecipe (Table.lookup_insert_self _ _ _)
    (by decide) (Table.lookup_insert_self _ _ _)
  have placed : after = { nearlyFull with
      progress := { remainingTicks := 0, needsOutput := true }
      slots := [⟨0, 0, 0⟩, ⟨12, 64, 0⟩]
      energy := ⟨1000, 8⟩ } := by
    rw [← Option.some.injEq, ← found]
    decide +kernel
  subst placed
  have total := nothing ⟨12, 0, by decide⟩
  revert total
  decide +kernel

end GtnhPlatform.SimCore
