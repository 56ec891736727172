import GtnhPlatform.SimCore.OutputDelivery
import Mathlib.Data.Rat.Cast.Order

namespace GtnhPlatform.SimCore

open Common Crafting Inventory Sim

namespace MachineState

section Books

variable (content : MachineContent) (entity : Nat)

def ticksLeft (state : MachineState) : UInt32 :=
  match state.registry.lookup entity with
  | none => 0
  | some machine => machine.progress.remainingTicks

def level (state : MachineState) : Int :=
  match state.registry.lookup entity with
  | none => 0
  | some machine => machine.energy.current

def advances : MachineState → List MachineInput → Nat
  | _, [] => 0
  | state, input :: rest =>
    let next := (state.step content entity input).1
    (if next.ticksLeft entity = state.ticksLeft entity then 0 else 1) + advances next rest

def debit (state : MachineState) : MachineInput → Int
  | .world _ => 0
  | input => state.level entity - (state.step content entity input).1.level entity

def debited : MachineState → List MachineInput → Int
  | _, [] => 0
  | state, input :: rest =>
    state.debit content entity input + debited (state.step content entity input).1 rest

end Books

structure Starts (content : MachineContent) (entity : Nat) (recipe : Recipe) (tick : TickInput)
    (state : MachineState) (machine : MachineEntity) : Prop where
  found : state.registry.lookup entity = some machine
  level : FitsI32 machine.energy.current
  idle : machine.progress.recipeId = ""
  own : content.managedExternally = false
  cool : state.overheated = false
  cleared : (machine.progress.needsOutput && content.outputsHeld machine.slots) = false
  made : content.manager.findRecipeByInputs content.machineId
    (machine.slots.take (content.inputEnd machine.slots.length)) = some recipe
  allowed : tick.conditions recipe.id = true
  direct : content.reserves recipe = false

def Underway (entity : Nat) (recipe : Recipe) (state : MachineState) : Prop :=
  ∃ machine, state.registry.lookup entity = some machine ∧
    machine.progress.recipeId = recipe.id ∧ recipe.id ≠ ""

def StepAccounts (content : MachineContent) (entity : Nat) (recipe : Recipe)
    (state : MachineState) (input : MachineInput) : Prop :=
  let next := (state.step content entity input).1
  (next.ticksLeft entity ≠ state.ticksLeft entity ∧
    content.energyCost recipe.id = some (state.debit content entity input : ℚ)) ∨
  (next.ticksLeft entity = state.ticksLeft entity ∧ state.debit content entity input = 0)

structure Accounts (content : MachineContent) (entity : Nat) (recipe : Recipe)
    (begun : MachineState) (run : List MachineInput) : Prop where
  steps : (machine content entity).Along (StepAccounts content entity recipe) begun run
  ticks : (((machine content entity).final begun run).ticksLeft entity).toNat +
    begun.advances content entity run = recipe.duration.toNat
  debits : ∃ cost, content.energyCost recipe.id = some cost ∧
    (begun.debited content entity run : ℚ) = cost * begun.advances content entity run
  completes : ¬ Underway entity recipe ((machine content entity).final begun run) →
    begun.advances content entity run = recipe.duration.toNat

def AccountsFor (content : MachineContent) (entity : Nat) (recipe : Recipe) : Prop :=
  ∀ tick state machine, Starts content entity recipe tick state machine → ∀ run,
    (MachineState.machine content entity).Along (fun state _ => Underway entity recipe state)
      (state.startPass content entity tick) run →
    Accounts content entity recipe (state.startPass content entity tick) run

section Start

variable {content : MachineContent} {entity : Nat} {recipe : Recipe} {tick : TickInput}
  {state : MachineState} {machine : MachineEntity}

variable (starts : Starts content entity recipe tick state machine)

include starts

theorem Starts.known : content.manager.recipes.lookup recipe.id = some recipe := by
  obtain ⟨id, loaded⟩ := RecipeManager.findRecipeByInputs_loaded starts.made
  rwa [← content.keyed id recipe loaded] at loaded

theorem Starts.machine_begun :
    ∃ begun, (state.startPass content entity tick).registry.lookup entity = some begun ∧
      begun.progress.recipeId = recipe.id ∧ begun.progress.remainingTicks = recipe.duration ∧
      begun.energy.current = machine.energy.current := by
  unfold startPass
  rw [starts.found]
  simp only [starts.own, starts.idle, starts.cool, starts.cleared, bne_self_eq_false,
    Bool.or_self, Bool.false_eq_true, if_false, starts.made, starts.allowed, Bool.not_true,
    starts.direct]
  exact ⟨_, AList.lookup_insert _, rfl, rfl, rfl⟩

theorem Starts.not_orchestrated : content.orchestrated recipe = false := by
  have direct := starts.direct
  rw [MachineContent.reserves, Recipe.needsReservation, Bool.and_eq_false_iff,
    Bool.or_eq_false_iff] at direct
  rw [MachineContent.orchestrated, Bool.and_eq_false_iff]
  exact direct.imp_right And.left

omit starts

end Start

section Step

variable {content : MachineContent} {entity : Nat} {recipe : Recipe} {state : MachineState}
  {machine : MachineEntity}

theorem ticksLeft_of_found (found : state.registry.lookup entity = some machine) :
    state.ticksLeft entity = machine.progress.remainingTicks := by
  rw [ticksLeft, found]

theorem level_of_found (found : state.registry.lookup entity = some machine) :
    state.level entity = machine.energy.current := by
  rw [level, found]

inductive Turned (content : MachineContent) (recipe : Recipe) (state : MachineState) :
    MachineInput → MachineEntity → MachineEntity → Prop
  | kept (input : MachineInput) (machine : MachineEntity) : Turned content recipe state input machine machine
  | advanced (publish : Nat → Bool) (machine : MachineEntity)
      (pays : state.pays content machine recipe = true) :
      Turned content recipe state (.active publish) machine
        (machine.advance (content.outputRange machine.slots.length) recipe
          (content.perTickCost recipe))
  | changed (change : WorldChange) (machine : MachineEntity) :
      Turned content recipe state (.world change) machine (change.apply machine)

theorem step_turned (known : content.manager.recipes.lookup recipe.id = some recipe)
    (found : state.registry.lookup entity = some machine)
    (same : machine.progress.recipeId = recipe.id) (real : recipe.id ≠ "") (input : MachineInput) :
    ∃ after, (state.step content entity input).1.registry.lookup entity = some after ∧
      Turned content recipe state input machine after := by
  have running : machine.progress.recipeId ≠ "" := same ▸ real
  cases input with
  | start tick =>
    refine ⟨machine, ?_, .kept _ machine⟩
    simp only [step]
    unfold startPass
    rw [found]
    simp [running, found]
  | topUp =>
    refine ⟨machine, ?_, .kept _ machine⟩
    simp only [step]
    unfold topUpPass
    rw [found]
    simp [running, found]
  | active publish =>
    rw [← same] at known
    refine ⟨_, activePass_machine publish found running known, ?_⟩
    cases pays : state.pays content machine recipe with
    | false => exact .kept _ machine
    | true => exact .advanced publish machine pays
  | world change =>
    refine ⟨change.apply machine, ?_, .changed change machine⟩
    simp only [step, MachineState.changed, changeAt]
    rw [found]
    exact AList.lookup_insert _

theorem fitsI32_toInt (value : Int32) : FitsI32 value.toInt := ⟨value.le_toInt, value.toInt_lt⟩

theorem subSat_of_pays (fits : FitsI32 current) (lower : 0 ≤ cost) (paid : cost ≤ current) :
    CraftSystem.subSat current cost = current - cost := by
  unfold FitsI32 at fits
  unfold CraftSystem.subSat
  omega

structure Running (content : MachineContent) (recipe : Recipe) (cost : Int)
    (machine : MachineEntity) : Prop where
  known : content.manager.recipes.lookup recipe.id = some recipe
  real : recipe.id ≠ ""
  priced : content.energyCost recipe.id = some (cost : ℚ)
  charged : content.perTickCost recipe = cost
  lower : 0 ≤ cost
  same : machine.progress.recipeId = recipe.id
  level : FitsI32 machine.energy.current
  more : machine.progress.remainingTicks ≠ 0

structure Booked (content : MachineContent) (entity : Nat) (recipe : Recipe) (cost : Int)
    (state : MachineState) (input : MachineInput) (machine after : MachineEntity) : Prop where
  accounts : StepAccounts content entity recipe state input
  ticks : after.progress.remainingTicks.toNat +
    (if (state.step content entity input).1.ticksLeft entity = state.ticksLeft entity then 0
      else 1) = machine.progress.remainingTicks.toNat
  debit : state.debit content entity input = cost *
    (if (state.step content entity input).1.ticksLeft entity = state.ticksLeft entity then 0
      else 1 : Nat)
  next : Running content recipe cost after ∨
    after.progress.recipeId = "" ∧ after.progress.remainingTicks = 0

theorem toNat_sub_one {ticks : UInt32} (more : ticks ≠ 0) :
    (ticks - 1).toNat + 1 = ticks.toNat := by
  have positive : ticks.toNat ≠ 0 := fun zero => more (UInt32.toNat_inj.mp zero)
  have below : (1 : UInt32) ≤ ticks := by
    rw [UInt32.le_iff_toNat_le]
    exact Nat.one_le_iff_ne_zero.mpr positive
  rw [UInt32.toNat_sub_of_le _ _ below]
  exact Nat.succ_pred_eq_of_ne_zero positive

theorem Running.advance (running : Running content recipe cost machine) (range : Nat × Nat)
    (paid : cost ≤ machine.energy.current) :
    (machine.advance range recipe cost).progress.remainingTicks =
        machine.progress.remainingTicks - 1 ∧
      (machine.advance range recipe cost).energy.current = machine.energy.current - cost ∧
      (Running content recipe cost (machine.advance range recipe cost) ∨
        (machine.advance range recipe cost).progress.recipeId = "" ∧
          (machine.advance range recipe cost).progress.remainingTicks = 0) := by
  have debit := subSat_of_pays running.level running.lower paid
  have level : FitsI32 (machine.energy.current - cost) := by
    have before := running.level
    have lower := running.lower
    unfold FitsI32 at *
    omega
  simp only [MachineEntity.advance, debit]
  by_cases last : machine.progress.remainingTicks - 1 = 0
  · simp only [if_pos last]
    exact ⟨trivial, trivial, .inr ⟨trivial, last⟩⟩
  · simp only [if_neg last]
    exact ⟨trivial, trivial, .inl { running with level := level, more := last }⟩

theorem Running.step (running : Running content recipe cost machine)
    (found : state.registry.lookup entity = some machine) (input : MachineInput) :
    ∃ after, (state.step content entity input).1.registry.lookup entity = some after ∧
      Booked content entity recipe cost state input machine after := by
  obtain ⟨after, at_after, turned⟩ := step_turned running.known found running.same running.real input
  refine ⟨after, at_after, ?_⟩
  have left := ticksLeft_of_found found
  have nextLeft := ticksLeft_of_found at_after
  have here := level_of_found found
  have nextHere := level_of_found at_after
  cases turned with
  | kept _ _ =>
    have idle : state.debit content entity input = 0 := by
      cases input with
      | world _ => rfl
      | _ => exact (congrArg₂ _ here nextHere).trans (Int.sub_self _)
    have same := nextLeft.trans left.symm
    refine ⟨.inr ⟨same, idle⟩, ?_, ?_, .inl running⟩
    · rw [if_pos same, Nat.add_zero]
    · rw [if_pos same, idle]
      simp
  | advanced publish _ pays =>
    simp only [MachineState.pays, Bool.and_eq_true, decide_eq_true_eq, running.charged] at pays
    obtain ⟨ticks, current, next⟩ :=
      running.advance (content.outputRange machine.slots.length) pays.2
    rw [running.charged] at at_after nextLeft nextHere ⊢
    have counts := toNat_sub_one running.more
    have moved : (state.step content entity (.active publish)).1.ticksLeft entity ≠
        state.ticksLeft entity := by
      rw [nextLeft, left, ticks]
      intro same
      rw [same] at counts
      omega
    have paid : state.debit content entity (.active publish) = cost := by
      show state.level entity - _ = cost
      rw [here, nextHere, current]
      omega
    refine ⟨.inl ⟨moved, ?_⟩, ?_, ?_, next⟩
    · rw [paid]
      exact running.priced
    · rw [if_neg moved, ticks, counts]
    · rw [if_neg moved, paid]
      simp
  | changed change _ =>
    have same := nextLeft.trans left.symm
    refine ⟨.inr ⟨same, rfl⟩, ?_, ?_, .inl ?_⟩
    · rw [if_pos same]
      rfl
    · rw [if_pos same]
      simp [debit]
    · exact { running with level := fitsI32_toInt change.current }

end Step

section Run

variable {content : MachineContent} {entity : Nat} {recipe : Recipe} {cost : Int}

theorem Running.run {state : MachineState} {machine : MachineEntity}
    (running : Running content recipe cost machine)
    (found : state.registry.lookup entity = some machine) {run : List MachineInput}
    (underway : (MachineState.machine content entity).Along
      (fun state _ => Underway entity recipe state) state run) :
    (MachineState.machine content entity).Along (StepAccounts content entity recipe) state run ∧
      (((MachineState.machine content entity).final state run).ticksLeft entity).toNat +
        state.advances content entity run = machine.progress.remainingTicks.toNat ∧
      state.debited content entity run = cost * state.advances content entity run ∧
      (Underway entity recipe ((MachineState.machine content entity).final state run) ∨
        ((MachineState.machine content entity).final state run).ticksLeft entity = 0) := by
  induction run generalizing state machine with
  | nil =>
    refine ⟨trivial, ?_, ?_, .inl ⟨machine, found, running.same, running.real⟩⟩
    · exact congrArg UInt32.toNat (ticksLeft_of_found found)
    · simp [debited, advances]
  | cons input rest ih =>
    obtain ⟨after, at_after, booked⟩ := running.step found input
    have ticks := booked.ticks
    have debit := booked.debit
    rcases booked.next with next | ⟨done, zero⟩
    · obtain ⟨steps, left, total, last⟩ := ih next at_after underway.2
      refine ⟨⟨booked.accounts, steps⟩, ?_, ?_, last⟩
      · rw [advances, ← ticks, ← left, Nat.add_assoc, Nat.add_comm (advances _ _ _ rest)]
        rfl
      · simp only [debited, advances]
        rw [total, debit, ← Int.mul_add]
        rfl
    · -- the recipe is complete, so that no step is left
      cases rest with
      | cons _ _ =>
        obtain ⟨other, at_other, same, real⟩ := underway.2.1
        cases at_after.symm.trans at_other
        exact absurd (same.symm.trans done) real
      | nil =>
        have final := ticksLeft_of_found at_after
        refine ⟨⟨booked.accounts, trivial⟩, ?_, ?_, .inr (final.trans zero)⟩
        · rw [← ticks, ← final]
          rfl
        · simp only [debited, advances, debit]
          simp

end Run

section Accounting

variable {content : MachineContent} {entity : Nat} {recipe : Recipe}

def WholeCost (content : MachineContent) (recipe : Recipe) : Prop :=
  ∃ cost : Nat, content.energyCost recipe.id = some (cost : ℚ) ∧ cost < 2 ^ 31

theorem truncate_natCast (value : Nat) : truncate (value : ℚ) = value := by
  simp [truncate]

theorem perTickCost_of_whole {cost : Nat} (direct : content.orchestrated recipe = false)
    (priced : content.energyCost recipe.id = some (cost : ℚ)) (small : cost < 2 ^ 31) :
    content.perTickCost recipe = cost := by
  have fits : FitsI32 (truncate (cost : ℚ)) := by
    rw [truncate_natCast]
    unfold FitsI32
    omega
  rw [MachineContent.perTickCost, direct, priced, if_neg Bool.false_ne_true,
    content.cast.exact _ fits, truncate_natCast]

theorem accountsFor_of_whole (real : recipe.id ≠ "") (whole : WholeCost content recipe) :
    AccountsFor content entity recipe := by
  intro tick state machine starts run underway
  obtain ⟨cost, priced, small⟩ := whole
  obtain ⟨begun, at_begun, same, ticks, level⟩ := starts.machine_begun
  have running : Running content recipe cost begun := {
    known := starts.known
    real := real
    priced := priced
    charged := perTickCost_of_whole starts.not_orchestrated priced small
    lower := Int.natCast_nonneg cost
    same := same
    level := level ▸ starts.level
    more := ticks ▸ content.durations _ _ starts.known }
  obtain ⟨steps, left, total, last⟩ := running.run at_begun underway
  rw [ticks] at left
  refine ⟨steps, left, ⟨_, priced, ?_⟩, fun complete => ?_⟩
  · rw [total]
    push_cast
    rfl
  · rw [last.resolve_left complete] at left
    exact (Nat.zero_add _).symm.trans left

theorem advance_ticks (range : Nat × Nat) (cost : Int) (machine : MachineEntity) :
    (machine.advance range recipe cost).progress.remainingTicks =
      machine.progress.remainingTicks - 1 := by
  simp only [MachineEntity.advance]
  split <;> rfl

theorem advance_level (range : Nat × Nat) (cost : Int) (machine : MachineEntity) :
    (machine.advance range recipe cost).energy.current =
      CraftSystem.subSat machine.energy.current cost := by
  simp only [MachineEntity.advance]
  split <;> rfl

def plenty : WorldChange := ⟨Int32.maxValue, [], none, .new, none, none, none, none⟩

theorem whole_of_accountsFor {tick : TickInput} {state : MachineState} {machine : MachineEntity}
    (starts : Starts content entity recipe tick state machine)
    (accounts : AccountsFor content entity recipe) : recipe.id ≠ "" ∧ WholeCost content recipe := by
  obtain ⟨begun, at_begun, same, ticks, _⟩ := starts.machine_begun
  have lasts := content.durations _ _ starts.known
  have always := accounts tick state machine starts
  generalize state.startPass content entity tick = first at always at_begun
  have real : recipe.id ≠ "" := by
    intro empty
    have complete := (always [] trivial).completes fun underway => underway.choose_spec.2.2 empty
    exact lasts (UInt32.toNat_inj.mp complete.symm)
  refine ⟨real, ?_⟩
  have at_ready : (first.changed entity plenty).registry.lookup entity =
      some (plenty.apply begun) := by
    simp only [changed, changeAt]
    rw [at_begun]
    exact AList.lookup_insert _
  have known := starts.known
  rw [← same] at known
  have fits := content.perTickCost_fits recipe
  have pays : (first.changed entity plenty).pays content (plenty.apply begun) recipe = true := by
    have rich : (plenty.apply begun).energy.current = 2 ^ 31 - 1 := rfl
    rw [MachineState.pays, starts.own, rich, decide_eq_true (Int.le_sub_one_of_lt fits.2)]
    rfl
  have after := activePass_machine (fun _ => true) at_ready (same ▸ real) known
  rw [if_pos pays] at after
  have booked := always [.world plenty, .active fun _ => true]
    ⟨⟨begun, at_begun, same, real⟩, ⟨plenty.apply begun, at_ready, same, real⟩, trivial⟩
  have moved : ((first.changed entity plenty).activePass content entity fun _ => true).ticksLeft
      entity ≠ (first.changed entity plenty).ticksLeft entity := by
    have counts := toNat_sub_one (ticks ▸ lasts : begun.progress.remainingTicks ≠ 0)
    rw [ticksLeft_of_found after, ticksLeft_of_found at_ready, advance_ticks]
    intro unmoved
    have unmoved : begun.progress.remainingTicks - 1 = begun.progress.remainingTicks := unmoved
    rw [unmoved] at counts
    omega
  have step : StepAccounts content entity recipe (first.changed entity plenty)
      (.active fun _ => true) := booked.steps.2.1
  rcases step with ⟨_, priced⟩ | ⟨unmoved, _⟩
  · have debit : (first.changed entity plenty).debit content entity (.active fun _ => true) =
        (2 ^ 31 - 1) - CraftSystem.subSat (2 ^ 31 - 1) (content.perTickCost recipe) := by
      show level _ _ - level _ _ = _
      rw [level_of_found at_ready]
      exact congrArg _ ((level_of_found after).trans (advance_level _ _ _))
    have nonneg := Rat.intCast_nonneg.mp (content.costs _ _ _ starts.known priced)
    have small : (first.changed entity plenty).debit content entity (.active fun _ => true) <
        2 ^ 31 := by
      unfold FitsI32 at fits
      rw [debit, CraftSystem.subSat]
      omega
    generalize (first.changed entity plenty).debit content entity (.active fun _ => true) = cost
      at priced nonneg small
    refine ⟨cost.toNat, ?_, by omega⟩
    rw [priced, ← Int.cast_natCast, Int.toNat_of_nonneg nonneg]
  · exact absurd unmoved moved

theorem accountsFor_iff (content : MachineContent) (entity : Nat) (recipe : Recipe)
    (startable : ∃ tick state machine, Starts content entity recipe tick state machine) :
    AccountsFor content entity recipe ↔ recipe.id ≠ "" ∧ WholeCost content recipe := by
  obtain ⟨tick, state, machine, starts⟩ := startable
  exact ⟨whole_of_accountsFor starts, fun whole => accountsFor_of_whole whole.1 whole.2⟩

def loaded : MachineState where
  client := .new
  registry := AList.insert 1 ⟨{}, [⟨11, 3, 0⟩, ⟨0, 0, 0⟩], ⟨1000, 500⟩⟩ ∅

def unconditional : TickInput := ⟨0, fun _ => true, fun _ => true⟩

theorem slag_starts (nonneg : 0 ≤ cost) :
    Starts (.single 20 slagRecipe (by decide) cost nonneg .electricity) 1 slagRecipe unconditional
      loaded ⟨{}, [⟨11, 3, 0⟩, ⟨0, 0, 0⟩], ⟨1000, 500⟩⟩ where
  found := Table.lookup_insert_self _ _ _
  level := by decide
  idle := rfl
  own := rfl
  cool := rfl
  cleared := rfl
  made := MachineContent.single_finds (by decide) rfl
  allowed := rfl
  direct := rfl

theorem accountsFor_slag :
    (∃ tick state machine, Starts slagSmelter 1 slagRecipe tick state machine) ∧
      (AccountsFor slagSmelter 1 slagRecipe ↔
        slagRecipe.id ≠ "" ∧ WholeCost slagSmelter slagRecipe) :=
  ⟨⟨_, _, _, slag_starts _⟩, accountsFor_iff slagSmelter 1 slagRecipe ⟨_, _, _, slag_starts _⟩⟩

def dearSmelter : MachineContent :=
  .single 20 slagRecipe slag_timed (5 / 2) (by decide +kernel) .electricity

theorem dearSmelter_not_accounts : ¬ ∀ (content : MachineContent) (entity : Nat) (recipe : Recipe),
      (∃ tick state machine, Starts content entity recipe tick state machine) →
        AccountsFor content entity recipe := by
  intro claim
  have starts : Starts dearSmelter 1 slagRecipe unconditional loaded _ := slag_starts _
  obtain ⟨_, cost, priced, _⟩ :=
    whole_of_accountsFor starts (claim dearSmelter 1 slagRecipe ⟨_, _, _, starts⟩)
  have half : (5 / 2 : ℚ) = cost := Option.some.inj priced
  have doubled : (5 : ℚ) = ((2 * cost : Nat) : ℚ) := by
    rw [Nat.cast_mul, ← half]
    decide +kernel
  have odd : 5 = 2 * cost := by exact_mod_cast doubled
  omega

end Accounting

end MachineState

end GtnhPlatform.SimCore
