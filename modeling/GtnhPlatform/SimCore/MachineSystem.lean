import GtnhPlatform.SimCore.FluidResponses
import GtnhPlatform.SimCore.MultiblockSystems
import Mathlib.Data.Rat.Defs

namespace GtnhPlatform.SimCore

open Common Crafting Inventory Sim List

/-! `MachineSystem::tick` at one machine. What is only published is left out, and so
are the fluids a recipe puts out. -/

/-- A `float`; only a finite one has a value. -/
abbrev FloatValue := Option ℚ

def truncate (value : ℚ) : Int := value.num.tdiv value.den

/-- `static_cast<int32_t>` of a `float`. The language leaves open what becomes of
a value that is out of range. -/
structure FloatCast where
  toI32 : FloatValue → Int
  fits : ∀ value, FitsI32 (toI32 value)
  exact : ∀ value, FitsI32 (truncate value) → toI32 (some value) = truncate value

/-- The cast as processors do it: a value out of range becomes the least one. -/
def FloatCast.indefinite : FloatCast where
  toI32
    | none => -2 ^ 31
    | some value => if FitsI32 (truncate value) then truncate value else -2 ^ 31
  fits := by
    rintro (_ | value)
    · decide
    simp only
    split
    · assumption
    · decide
  exact := fun _ fits => if_pos fits

/-- What stands fixed: the loaded recipes, and all of the machine that no pass
changes. -/
structure MachineContent where
  manager : RecipeManager
  energyCost : String → FloatValue
  cast : FloatCast
  machineId : UInt16
  energyType : EnergyType
  info : Option MachineInfo
  managedExternally : Bool
  hasReservations : Bool
  hasFluidClient : Bool
  steamItemId : UInt16
  /-- the loader files a recipe under its id, and gives it a duration -/
  keyed : ∀ id recipe, manager.recipes.lookup id = some recipe → recipe.id = id
  durations : ∀ id recipe, manager.recipes.lookup id = some recipe → recipe.duration ≠ 0
  /-- and refuses a negative cost -/
  costs : ∀ id recipe cost, manager.recipes.lookup id = some recipe →
    energyCost id = some cost → 0 ≤ cost

structure MachineState where
  client : CraftReservationClient
  registry : Table Nat MachineEntity
  overheat : Option OverheatComponent := none
  /-- the accumulator of the `HeatSlowComponent` -/
  heatSlow : Option Nat := none
  pendingConsume : Option Int := none
  pendingFluidConsume : Option Int := none

structure TickInput where
  now : Nat
  conditions : String → Bool
  publish : Nat → Bool

namespace MachineContent

variable (content : MachineContent)

def inputEnd (size : Nat) : Nat :=
  match content.info with
  | none => size
  | some info => min info.slotsIn.toNat size

/-- The output slots that pass 1 wants empty; without a registry entry all slots
are inputs. -/
def guardRange (size : Nat) : Nat × Nat :=
  match content.info with
  | none => (size, size)
  | some info => (info.slotsIn.toNat, min (info.slotsIn + info.slotsOut).toNat size)

def outputRange (size : Nat) : Nat × Nat :=
  match content.info with
  | none => (0, size)
  | some info => (info.slotsIn.toNat, min (info.slotsIn + info.slotsOut).toNat size)

def outputsHeld (slots : List PersistSlot) : Bool :=
  let range := content.guardRange slots.length
  ((slots.take range.2).drop range.1).any fun slot => slot.itemId != 0

def reserves (recipe : Recipe) : Bool := content.hasReservations && recipe.needsReservation

def orchestrated (recipe : Recipe) : Bool :=
  content.hasReservations && recipe.hasResourceRequirements

def perTickCost (recipe : Recipe) : Int :=
  if content.orchestrated recipe then wrapI32 recipe.resourceAmountPerTick.toNat
  else content.cast.toI32 (content.energyCost recipe.id)

theorem perTickCost_fits (recipe : Recipe) : FitsI32 (content.perTickCost recipe) := by
  rw [perTickCost]
  split
  · exact wrapI32_bounds _
  · exact content.cast.fits _

def single (machineId : UInt16) (recipe : Recipe) (duration : recipe.duration ≠ 0) (cost : ℚ)
    (nonneg : 0 ≤ cost) (energyType : EnergyType) : MachineContent where
  manager := {
    classByBlockId := AList.insert machineId "machine" ∅
    recipesByClass := AList.insert "machine" [recipe.id] ∅
    recipes := AList.insert recipe.id recipe ∅
    tierByBlockId := ∅
    energyInByBlockId := ∅
    listed := by
      intro machineClass ids found id mem
      rw [Table.lookup_insert_eq] at found
      split at found
      · cases found
        rw [mem_singleton.mp mem, Table.lookup_insert_self]
        rfl
      · exact absurd found nofun }
  energyCost _ := some cost
  cast := FloatCast.indefinite
  machineId := machineId
  energyType := energyType
  info := some ⟨"machine", some energyType, none, 1, 1, 1, 1000, 32, 0⟩
  managedExternally := false
  hasReservations := false
  hasFluidClient := false
  steamItemId := 0
  keyed := by
    intro id found lookup
    rw [Table.lookup_insert_eq] at lookup
    split at lookup
    · next same => rw [← Option.some.inj lookup, same]
    · exact absurd lookup nofun
  durations := by
    intro id found lookup
    rw [Table.lookup_insert_eq] at lookup
    split at lookup
    · rwa [← Option.some.inj lookup]
    · exact absurd lookup nofun
  costs := by
    rintro id found _ _ same
    rwa [← Option.some.inj same]

theorem single_finds {machineId : UInt16} {recipe : Recipe} {duration : recipe.duration ≠ 0}
    {cost : ℚ} {nonneg : 0 ≤ cost} {energyType : EnergyType} {inputs : List ItemStack}
    (tiered : -1 < recipe.minTier)
    (eligible : (single machineId recipe duration cost nonneg energyType).manager.eligible
      machineId inputs recipe = true) :
    (single machineId recipe duration cost nonneg energyType).manager.findRecipeByInputs machineId
      inputs = some recipe := by
  have known : (single machineId recipe duration cost nonneg energyType).manager.recipes.lookup
      recipe.id = some recipe := Table.lookup_insert_self _ _ _
  unfold RecipeManager.findRecipeByInputs
  have named : (single machineId recipe duration cost nonneg energyType).manager.classByBlockId.lookup
      machineId = some "machine" := Table.lookup_insert_self _ _ _
  have listed : (single machineId recipe duration cost nonneg energyType).manager.recipesByClass.lookup
      "machine" = some [recipe.id] := Table.lookup_insert_self _ _ _
  rw [named]
  simp only [listed, filterMap_cons, known, filterMap_nil, filter_cons, eligible,
    if_true, filter_nil, foldl_cons, foldl_nil, RecipeManager.prefer, if_pos tiered]

end MachineContent

namespace MachineEntity

/-- A recipe that needs no reservation takes its inputs and starts. -/
def begin (machine : MachineEntity) (recipe : Recipe) (inputEnd : Nat) : MachineEntity :=
  { machine with
    slots := consumeRange 0 inputEnd recipe.inputs machine.slots
    progress := { machine.progress with
      recipeId := recipe.id
      remainingTicks := recipe.duration
      isProcessing := true } }

def advance (machine : MachineEntity) (outputs : Nat × Nat) (recipe : Recipe) (cost : Int) :
    MachineEntity :=
  let remainingTicks := machine.progress.remainingTicks - 1
  let progress := { machine.progress with remainingTicks := remainingTicks }
  let machine := { machine with
    energy := { machine.energy with current := CraftSystem.subSat machine.energy.current cost } }
  if remainingTicks = 0 then
    { machine with
      slots := depositRange outputs recipe.outputs machine.slots
      progress := { progress with isProcessing := false, needsOutput := true, recipeId := "" } }
  else { machine with progress := progress }

end MachineEntity

namespace MachineState

variable (content : MachineContent) (entity : Nat)

variable (state : MachineState)

def craft : CraftSystem where
  client := state.client
  registry := state.registry
  recipes := content.manager.recipes

def withCraft (craft : CraftSystem) : MachineState :=
  { state with client := craft.client, registry := craft.registry }

def setMachine (machine : MachineEntity) : MachineState :=
  { state with registry := AList.insert entity machine state.registry }

def overheated : Bool :=
  state.overheat.any fun component => component.state != .none

def startPass (tick : TickInput) (state : MachineState) : MachineState :=
  match state.registry.lookup entity with
  | none => state
  | some machine =>
    if content.managedExternally || machine.progress.recipeId != "" || state.overheated then state
    else if machine.progress.needsOutput && content.outputsHeld machine.slots then state
    else
      let machine := { machine with progress := { machine.progress with needsOutput := false } }
      let state := state.setMachine entity machine
      let inputEnd := content.inputEnd machine.slots.length
      match content.manager.findRecipeByInputs content.machineId
          (machine.slots.take inputEnd) with
      | none => state
      | some recipe =>
        if !tick.conditions recipe.id then state
        else if content.reserves recipe then
          state.withCraft ((state.craft content).tickOrchestratedStart entity recipe tick.now 0
            inputEnd tick.publish).1
        else state.setMachine entity (machine.begin recipe inputEnd)

def topUpPass : MachineState :=
  match state.registry.lookup entity with
  | none => state
  | some machine =>
    if content.managedExternally || machine.progress.recipeId != "" ||
        content.energyType != .steam || content.steamItemId == 0 ||
        decide (machine.energy.capacity ≤ machine.energy.current) ||
        state.pendingFluidConsume.isSome || !content.hasFluidClient then state
    else { state with
      pendingFluidConsume :=
        some (min (machine.energy.capacity - machine.energy.current) kSteamFillQuantum) }

/-- Whether the machine is cool enough to work in this tick: a warm one works in
every other. -/
def slowDown : Bool × MachineState :=
  match state.overheat with
  | none => (true, { state with heatSlow := none })
  | some component =>
    match component.state with
    | .critical => (false, state)
    | .warning =>
      let accumulator := state.heatSlow.getD 0 + 1
      if accumulator < 2 then (false, { state with heatSlow := some accumulator })
      else (true, { state with heatSlow := some 0 })
    | .none => (true, state)

def request (publish : Nat → Bool) (recipe : Recipe) (state : MachineState) : MachineState :=
  if content.orchestrated recipe then
    if state.client.hasOutstandingCharge entity then state
    else { state with client := (state.client.beginPerTickCharge publish entity recipe).1 }
  else
    match content.energyType with
    | .steam =>
      -- without a resolved steam id the machine stays pending
      if content.steamItemId == 0 || state.pendingFluidConsume.isSome then state
      else { state with pendingFluidConsume := some (content.perTickCost recipe) }
    | _ =>
      if state.pendingConsume.isSome then state
      else { state with pendingConsume := some (content.perTickCost recipe) }

def runRecipe (publish : Nat → Bool) (machine : MachineEntity) (state : MachineState) :
    MachineState :=
  match content.manager.recipes.lookup machine.progress.recipeId with
  | none =>
    state.setMachine entity { machine with
      progress := { machine.progress with
        isProcessing := false, needsOutput := false, recipeId := "" } }
  | some recipe =>
    if machine.energy.current < content.perTickCost recipe then
      state.request content entity publish recipe
    else
      state.setMachine entity
        (machine.advance (content.outputRange machine.slots.length) recipe
          (content.perTickCost recipe))

def activePass (publish : Nat → Bool) (state : MachineState) : MachineState :=
  match state.registry.lookup entity with
  | none => state
  | some machine =>
    if content.managedExternally || machine.progress.recipeId == "" then state
    else
      let gate := state.slowDown
      if gate.1 then gate.2.runRecipe content entity publish machine else gate.2

end MachineState

/-- What the rest of the world may do to a machine between two passes: energy
arrives, players and pipes change the slots, it heats up or cools down, its
requests are answered. -/
structure WorldChange where
  current : Int32
  slots : List PersistSlot
  pendingCraft : Option PendingCraft
  client : CraftReservationClient
  overheat : Option OverheatComponent
  heatSlow : Option Nat
  pendingConsume : Option Int
  pendingFluidConsume : Option Int

/-- The passes in any order; a tick is pass 1, 1.5 and 2. -/
inductive MachineInput where
  | start (tick : TickInput)
  | topUp
  | active (publish : Nat → Bool)
  | world (change : WorldChange)

def WorldChange.apply (change : WorldChange) (machine : MachineEntity) : MachineEntity :=
  { machine with
    energy := { machine.energy with current := change.current.toInt }
    slots := change.slots
    progress := { machine.progress with pendingCraft := change.pendingCraft } }

def changeAt (registry : Table Nat MachineEntity) (entity : Nat) (change : WorldChange) :
    Table Nat MachineEntity :=
  match registry.lookup entity with
  | none => registry
  | some machine => AList.insert entity (change.apply machine) registry

namespace MachineState

variable (content : MachineContent) (entity : Nat)

def changed (change : WorldChange) (state : MachineState) : MachineState where
  client := change.client
  registry := changeAt state.registry entity change
  overheat := change.overheat
  heatSlow := change.heatSlow
  pendingConsume := change.pendingConsume
  pendingFluidConsume := change.pendingFluidConsume

def step (state : MachineState) : MachineInput → MachineState × List Empty
  | .start tick => (state.startPass content entity tick, [])
  | .topUp => (state.topUpPass content entity, [])
  | .active publish => (state.activePass content entity publish, [])
  | .world change => (state.changed entity change, [])

def machine : Machine MachineState MachineInput Empty := ⟨step content entity⟩

end MachineState

end GtnhPlatform.SimCore
