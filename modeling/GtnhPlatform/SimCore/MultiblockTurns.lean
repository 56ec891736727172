import GtnhPlatform.SimCore.MultiblockSystems
import GtnhPlatform.SimCore.OrchestratedStart

namespace GtnhPlatform.SimCore

open Common Crafting Inventory Sim MultiblockState Table

/-- Nothing happens to a machine: its progress, inventory, energy and heat stay,
and no one acts for it. -/
structure Untouched (before after : MultiblockState) (events : List TickEvent) (entity : Nat) :
    Prop where
  registry : after.registry.lookup entity = before.registry.lookup entity
  heat : after.heat.lookup entity = before.heat.lookup entity
  silent : ∀ event ∈ events, event.entity ≠ entity

def FurnaceRules.Quiet (rules : FurnaceRules) (content : TickContent) (machineId : UInt16)
    (entity : Nat) (machine : MachineEntity) (state : MultiblockState) : Prop :=
  if machine.progress.recipeId ≠ "" then
    ∃ recipe, content.manager.recipes.lookup machine.progress.recipeId = some recipe ∧
      (rules.mayRun = false ∨ machine.energy.current < content.perTickCost recipe ∧
        if rules.orchestratesCharge recipe then state.client.hasOutstandingCharge entity = true
        else rules.asksOnce = true ∧ ((state.pending rules.system).lookup entity).isSome)
  else
    ∀ recipe, rules.found content machineId machine = some recipe → rules.mayStart = false ∨
        rules.orchestratesStart recipe = true ∧ Waits rules.nowTick recipe machine.progress

def Idle (content : TickContent) (system : MultiblockSystem) (controller : MultiblockController)
    (entity : Nat) (site : MultiblockSite) (machine : MachineEntity) (state : MultiblockState) :
    Prop :=
  match system with
  | .ebf => (state.heat.lookup entity).isSome ∧
      (isElectric controller = true ∧ hasEnergyHatch controller = false ∨
        (ebfRules content controller site machine (state.heatOf entity)).Quiet content
          site.machineId entity machine state)
  | .largeBoiler => (∃ heat, state.heat.lookup entity = some heat ∧ heat.heatStored ≤ 0) ∧
      ∀ slot ∈ machine.slots, isFuel slot = false
  | .lcr => (lcrRules content controller site machine).Quiet content site.machineId entity
      machine state

structure Confined (system : MultiblockSystem) (entity : Nat) (before after : MultiblockState)
    (events : List TickEvent) : Prop where
  registry : ∀ other, other ≠ entity → after.registry.lookup other = before.registry.lookup other
  heat : ∀ other, other ≠ entity → after.heat.lookup other = before.heat.lookup other
  events : ∀ event ∈ events, event.system = system ∧ event.entity = entity

namespace Confined

variable {system : MultiblockSystem} {entity : Nat} {before middle after : MultiblockState}
  {events : List TickEvent}

theorem refl (system : MultiblockSystem) (entity : Nat) (state : MultiblockState) :
    Confined system entity state state [] :=
  ⟨fun _ _ => rfl, fun _ _ => rfl, nofun⟩

theorem after_silent (first : Confined system entity before middle [])
    (second : Confined system entity middle after events) :
    Confined system entity before after events :=
  ⟨fun other distinct => (second.registry other distinct).trans (first.registry other distinct),
    fun other distinct => (second.heat other distinct).trans (first.heat other distinct),
    second.events⟩

theorem emits (quiet : Confined system entity before after []) (action : TickAction) :
    Confined system entity before after [⟨system, entity, action⟩] := by
  refine ⟨quiet.registry, quiet.heat, ?_⟩
  intro event mem
  obtain rfl := List.mem_singleton.mp mem
  exact ⟨rfl, rfl⟩

theorem untouched (confined : Confined system entity before after events) {other : Nat}
    (distinct : other ≠ entity) : Untouched before after events other := by
  refine ⟨confined.registry other distinct, confined.heat other distinct, ?_⟩
  intro event mem
  rw [(confined.events event mem).2]
  exact distinct.symm

end Confined

namespace MultiblockState

variable (state : MultiblockState) (system : MultiblockSystem) (entity : Nat)

theorem confined_setMachine (machine : MachineEntity) :
    Confined system entity state (state.setMachine entity machine) [] :=
  ⟨fun _ distinct => lookup_insert_of_ne state.registry machine distinct,
    fun _ _ => rfl, nofun⟩

theorem confined_setHeat (heat : HeatIntakeComponent) :
    Confined system entity state (state.setHeat entity heat) [] :=
  ⟨fun _ _ => rfl, fun _ distinct => lookup_insert_of_ne state.heat heat distinct, nofun⟩

theorem confined_withHeat : Confined system entity state (state.withHeat entity) [] := by
  refine ⟨fun _ _ => rfl, ?_, nofun⟩
  intro other distinct
  unfold withHeat
  cases found : state.heat.lookup entity with
  | none =>
    exact (lookup_emplace_of_none _ found other).trans (if_neg distinct)
  | some heat => rw [emplace_of_some _ found]

theorem confined_setPending (asker : MultiblockSystem) (amount : Int) :
    Confined system entity state (state.setPending asker entity amount) [] := by
  cases asker <;> exact ⟨fun _ _ => rfl, fun _ _ => rfl, nofun⟩

end MultiblockState

namespace FurnaceRules

variable (rules : FurnaceRules) (content : TickContent) (publish : Nat → Bool)
  (machineId : UInt16) (entity : Nat) (machine : MachineEntity) (state : MultiblockState)

theorem confined_ask (recipe : Recipe) :
    Confined rules.system entity state (rules.ask content publish entity recipe state).1
      (rules.ask content publish entity recipe state).2 := by
  unfold ask
  split
  · split
    · exact Confined.refl _ entity state
    have silent : Confined rules.system entity state
        { state with
          client := (state.client.beginPerTickCharge publish entity recipe).1 } [] :=
      ⟨fun _ _ => rfl, fun _ _ => rfl, nofun⟩
    exact silent.emits .charged
  · split
    · exact Confined.refl _ entity state
    · exact (state.confined_setPending _ entity rules.system _).emits .charged

theorem confined_advance (recipe : Recipe) :
    Confined rules.system entity state (rules.advance content entity machine recipe state) [] := by
  unfold advance
  dsimp only
  have mirrored : Confined rules.system entity state
      (if rules.mirrorsHeat then state.setHeat entity { state.heatOf entity with
          heatStored := machine.energy.current - content.perTickCost recipe }
      else state) [] := by
    split
    · exact state.confined_setHeat _ entity _
    · exact Confined.refl _ entity state
  split
  · exact mirrored.after_silent (confined_setMachine _ _ entity _)
  · exact mirrored.after_silent (confined_setMachine _ _ entity _)

theorem confined_run :
    Confined rules.system entity state (rules.run content publish entity machine state).1
      (rules.run content publish entity machine state).2 := by
  unfold run
  split
  · exact state.confined_setMachine _ entity _
  split
  · exact Confined.refl _ entity state
  · split
    · exact rules.confined_ask content publish entity state _
    · exact (rules.confined_advance content entity machine state _).emits .advanced

theorem confined_begin : Confined rules.system entity state
      (rules.begin content publish machineId entity machine state).1
      (rules.begin content publish machineId entity machine state).2 := by
  unfold begin
  split
  · exact Confined.refl _ entity state
  split
  · exact Confined.refl _ entity state
  split
  · refine ⟨?_, fun _ _ => rfl, nofun⟩
    intro other distinct
    exact CraftSystem.lookup_tickOrchestratedStart_of_ne (state.craft content) _ _ _ _
      publish distinct
  · exact (state.confined_setMachine _ entity _).emits .started

theorem confined_tick : Confined rules.system entity state
      (rules.tick content publish machineId entity machine state).1
      (rules.tick content publish machineId entity machine state).2 := by
  unfold tick
  split
  · exact rules.confined_run content publish entity machine state
  · exact rules.confined_begin content publish machineId entity machine state

end FurnaceRules

theorem confined_burnFuel (entity slot : Nat) (site : MultiblockSite) (machine : MachineEntity)
    (state : MultiblockState) :
    Confined .largeBoiler entity state (burnFuel entity slot site machine state) [] := by
  have heated := state.confined_setHeat .largeBoiler entity
    { state.heatOf entity with
      heatStored := min ((state.heatOf entity).heatStored + BOILER_HEAT_PER_FUEL)
        (state.heatOf entity).heatCapacity }
  have burnt := heated.after_silent (confined_setMachine _ _ entity
    { machine with
      slots := machine.slots.modify slot burnSlot
      energy := addEnergy machine.energy site.maxInput STEAM_PER_WATER })
  exact ⟨burnt.registry, burnt.heat, nofun⟩

variable (entity : Nat)

variable (state : MultiblockState)

theorem heat_coolDown :
    (coolDown entity state).heat =
      if 0 < (state.heatOf entity).heatStored then
        AList.insert entity { state.heatOf entity with
          heatStored := (state.heatOf entity).heatStored -
            min 5 (state.heatOf entity).heatStored } state.heat
      else state.heat := by
  unfold coolDown
  dsimp only
  split <;> split <;> rfl

theorem registry_coolDown : (coolDown entity state).registry = state.registry := by
  unfold coolDown
  dsimp only
  split <;> split <;> rfl

theorem confined_coolDown : Confined .largeBoiler entity state (coolDown entity state) [] := by
  refine ⟨?_, ?_, nofun⟩
  · intro other _
    rw [registry_coolDown]
  intro other distinct
  rw [heat_coolDown]
  split
  · exact lookup_insert_of_ne state.heat _ distinct
  · rfl

variable (content : TickContent)

theorem confined_tickController (system : MultiblockSystem) (publish : Nat → Bool)
    (controller : MultiblockController) (entity : Nat) (site : MultiblockSite)
    (machine : MachineEntity) (state : MultiblockState) : Confined system entity state
      (tickController content system publish controller entity site machine state).1
      (tickController content system publish controller entity site machine state).2 := by
  cases system with
  | ebf =>
    have warmed := state.confined_withHeat .ebf entity
    dsimp only [tickController, tickEBF]
    split
    · exact warmed
    · exact warmed.after_silent
        ((ebfRules content controller site machine _).confined_tick content publish _ entity
          machine _)
  | largeBoiler =>
    have warmed := state.confined_withHeat .largeBoiler entity
    dsimp only [tickController, tickBoiler]
    split
    · exact (warmed.after_silent (confined_burnFuel entity _ site machine _)).emits .burnt
    · exact warmed.after_silent (confined_coolDown entity _)
  | lcr =>
    exact (lcrRules content controller site machine).confined_tick content publish _ entity
      machine state

theorem Untouched.refl (state : MultiblockState) (entity : Nat) : Untouched state state [] entity :=
  ⟨rfl, rfl, nofun⟩

variable {before after : MultiblockState}

theorem not_untouched_of_event {event : TickEvent} :
    ¬ Untouched before after [event] event.entity :=
  fun untouched => untouched.silent event List.mem_cons_self rfl

namespace FurnaceRules

variable (rules : FurnaceRules) (content : TickContent) (publish : Nat → Bool)
  (machineId : UInt16) {entity : Nat} {machine : MachineEntity} {state : MultiblockState}

theorem untouched_ask_iff (recipe : Recipe) :
    Untouched state (rules.ask content publish entity recipe state).1
        (rules.ask content publish entity recipe state).2 entity ↔
      if rules.orchestratesCharge recipe then state.client.hasOutstandingCharge entity = true
      else rules.asksOnce = true ∧ ((state.pending rules.system).lookup entity).isSome := by
  unfold ask
  cases rules.orchestratesCharge recipe with
  | true =>
    simp only [if_true]
    cases state.client.hasOutstandingCharge entity with
    | true => exact iff_of_true (Untouched.refl state entity) rfl
    | false => exact iff_of_false not_untouched_of_event Bool.false_ne_true
  | false =>
    simp only [Bool.false_eq_true, if_false, ← Bool.and_eq_true_iff]
    cases rules.asksOnce && ((state.pending rules.system).lookup entity).isSome with
    | true => exact iff_of_true (Untouched.refl state entity) rfl
    | false => exact iff_of_false not_untouched_of_event Bool.false_ne_true

variable (found : state.registry.lookup entity = some machine)

include found

theorem untouched_run_iff (running : machine.progress.recipeId ≠ "") :
    Untouched state (rules.run content publish entity machine state).1
        (rules.run content publish entity machine state).2 entity ↔
      rules.Quiet content machineId entity machine state := by
  unfold run Quiet
  rw [if_pos running]
  cases known : content.manager.recipes.lookup machine.progress.recipeId with
  | none =>
    -- the recipe is gone from the machine
    refine iff_of_false (fun untouched => ?_) nofun
    have kept := untouched.registry.symm.trans (lookup_insert_self _ _ _)
    rw [found] at kept
    have cleared := congrArg (fun machine : MachineEntity => machine.progress.recipeId)
      (Option.some.inj kept)
    exact running cleared
  | some recipe =>
    simp only [Option.some.injEq, exists_eq_left']
    cases rules.mayRun with
    | false => exact iff_of_true (Untouched.refl state entity) (Or.inl rfl)
    | true =>
      simp only [Bool.not_true, Bool.false_eq_true, if_false, Bool.true_eq_false, false_or]
      by_cases short : machine.energy.current < content.perTickCost recipe
      · rw [if_pos short, untouched_ask_iff]
        exact (and_iff_right short).symm
      · rw [if_neg short]
        exact iff_of_false not_untouched_of_event fun quiet => short quiet.1

theorem untouched_begin_iff (stopped : machine.progress.recipeId = "") :
    Untouched state (rules.begin content publish machineId entity machine state).1
        (rules.begin content publish machineId entity machine state).2 entity ↔
      rules.Quiet content machineId entity machine state := by
  unfold begin Quiet
  rw [if_neg (not_not_intro stopped)]
  cases made : rules.found content machineId machine with
  | none => exact iff_of_true (Untouched.refl state entity) nofun
  | some recipe =>
    simp only [Option.some.injEq, forall_eq']
    cases rules.mayStart with
    | false => exact iff_of_true (Untouched.refl state entity) (Or.inl rfl)
    | true =>
      simp only [Bool.not_true, Bool.false_eq_true, if_false, Bool.true_eq_false, false_or]
      cases orchestrated : rules.orchestratesStart recipe with
      | false =>
        simp only [Bool.false_eq_true, if_false, false_and]
        exact iff_of_false not_untouched_of_event id
      | true =>
        have needs : recipe.needsReservation = true := by
          rw [Recipe.needsReservation, rules.reserves recipe orchestrated, Bool.true_or]
        have alive : (state.craft content).registry.lookup entity = some machine := found
        have waits := CraftSystem.tickOrchestratedStart_waits_iff alive needs rules.nowTick
          rules.inputs.1 rules.inputs.2 publish
        simp only [if_true, true_and]
        constructor
        · intro untouched
          exact waits.mp (untouched.registry.trans found)
        · intro waiting
          exact ⟨(waits.mpr waiting).trans found.symm, rfl, nofun⟩

theorem untouched_tick_iff :
    Untouched state (rules.tick content publish machineId entity machine state).1
        (rules.tick content publish machineId entity machine state).2 entity ↔
      rules.Quiet content machineId entity machine state := by
  unfold tick
  split
  · next running => exact rules.untouched_run_iff content publish machineId found running
  · next stopped =>
    exact rules.untouched_begin_iff content publish machineId found (not_not.mp stopped)

omit found

theorem isSome_heat_tick (warm : (state.heat.lookup entity).isSome) :
    ((rules.tick content publish machineId entity machine state).1.heat.lookup entity).isSome := by
  have advanced : ∀ recipe,
      ((rules.advance content entity machine recipe state).heat.lookup entity).isSome := by
    intro recipe
    unfold advance
    dsimp only
    have mirrored : ∀ heat,
        ((if rules.mirrorsHeat then state.setHeat entity heat else state).heat.lookup
          entity).isSome := by
      intro heat
      split
      · rw [setHeat, lookup_insert_self]
        rfl
      · exact warm
    split <;> exact mirrored _
  unfold tick
  split
  · unfold run
    split
    · exact warm
    split
    · exact warm
    split
    · unfold ask
      split
      · split <;> exact warm
      split
      · exact warm
      · unfold setPending
        split <;> exact warm
    · exact advanced _
  · unfold begin
    split
    · exact warm
    · split
      · exact warm
      · split <;> exact warm

end FurnaceRules

variable {state : MultiblockState} {entity : Nat}

theorem MultiblockState.withHeat_of_some {heat : HeatIntakeComponent}
    (stored : state.heat.lookup entity = some heat) : state.withHeat entity = state := by
  rw [withHeat, emplace_of_some _ stored]

theorem MultiblockState.isSome_heat_withHeat (state : MultiblockState) (entity : Nat) :
    ((state.withHeat entity).heat.lookup entity).isSome := by
  cases found : state.heat.lookup entity with
  | none =>
    rw [withHeat, lookup_emplace_of_none _ found, if_pos rfl]
    rfl
  | some heat =>
    rw [withHeat_of_some found, found]
    rfl

theorem not_untouched_of_cold (cold : before.heat.lookup entity = none)
    (warm : (after.heat.lookup entity).isSome) : ¬ Untouched before after events entity := by
  intro untouched
  rw [untouched.heat, cold] at warm
  cases warm

variable {machine : MachineEntity}

theorem untouched_tickEBF_iff (publish : Nat → Bool) (controller : MultiblockController)
    (site : MultiblockSite) (found : state.registry.lookup entity = some machine) :
    Untouched state (tickEBF content publish controller entity site machine state).1
        (tickEBF content publish controller entity site machine state).2 entity ↔
      Idle content .ebf controller entity site machine state := by
  unfold tickEBF Idle
  cases stored : state.heat.lookup entity with
  | none =>
    have warm := state.isSome_heat_withHeat entity
    refine iff_of_false ?_ fun idle => Bool.false_ne_true idle.1
    split
    · exact not_untouched_of_cold stored warm
    · exact not_untouched_of_cold stored (FurnaceRules.isSome_heat_tick _ content publish _ warm)
  | some heat =>
    rw [withHeat_of_some stored]
    split
    · next hatchless =>
      obtain ⟨electric, missing⟩ := Bool.and_eq_true_iff.mp hatchless
      have without : hasEnergyHatch controller = false := by
        simpa using missing
      exact iff_of_true (Untouched.refl state entity) ⟨rfl, Or.inl ⟨electric, without⟩⟩
    · next hatched =>
      rw [FurnaceRules.untouched_tick_iff _ content publish _ found]
      constructor
      · exact fun quiet => ⟨rfl, Or.inr quiet⟩
      · rintro ⟨-, ⟨electric, without⟩ | quiet⟩
        · simp [electric, without] at hatched
        · exact quiet

theorem untouched_tickBoiler_iff (controller : MultiblockController) (entity : Nat)
    (site : MultiblockSite) (machine : MachineEntity) (state : MultiblockState) :
    Untouched state (tickBoiler entity site machine state).1
        (tickBoiler entity site machine state).2 entity ↔
      Idle content .largeBoiler controller entity site machine state := by
  unfold tickBoiler Idle
  cases fuelled : machine.slots.findIdx? isFuel with
  | some slot =>
    refine iff_of_false not_untouched_of_event ?_
    rintro ⟨-, unfuelled⟩
    rw [List.findIdx?_eq_none_iff.mpr unfuelled] at fuelled
    cases fuelled
  | none =>
    have unfuelled := List.findIdx?_eq_none_iff.mp fuelled
    cases stored : state.heat.lookup entity with
    | none =>
      refine iff_of_false (not_untouched_of_cold stored ?_) nofun
      rw [heat_coolDown]
      split
      · rw [lookup_insert_self]
        rfl
      · exact state.isSome_heat_withHeat entity
    | some heat =>
      rw [withHeat_of_some stored]
      have current : state.heatOf entity = heat := by
        rw [heatOf, stored]
        rfl
      simp only [Option.some.injEq, exists_eq_left']
      rw [and_iff_left unfuelled]
      constructor
      · intro untouched
        have kept := untouched.heat
        rw [heat_coolDown, current, stored] at kept
        by_contra hot
        rw [if_pos (not_le.mp hot), lookup_insert_self] at kept
        have fallen := congrArg HeatIntakeComponent.heatStored (Option.some.inj kept)
        dsimp only at fallen
        omega
      · intro cold
        refine ⟨by rw [registry_coolDown], ?_, nofun⟩
        rw [heat_coolDown, current, if_neg (not_lt.mpr cold)]

theorem untouched_tickController_iff (system : MultiblockSystem) (publish : Nat → Bool)
    (controller : MultiblockController) (site : MultiblockSite)
    (found : state.registry.lookup entity = some machine) : Untouched state
        (tickController content system publish controller entity site machine state).1
        (tickController content system publish controller entity site machine state).2 entity ↔
      Idle content system controller entity site machine state := by
  cases system with
  | ebf => exact untouched_tickEBF_iff content publish controller site found
  | largeBoiler => exact untouched_tickBoiler_iff content controller entity site machine state
  | lcr =>
    exact (lcrRules content controller site machine).untouched_tick_iff content publish
      site.machineId found

end GtnhPlatform.SimCore
