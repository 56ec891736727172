import GtnhPlatform.Crafting.InlineConsumption
import GtnhPlatform.SimCore.EnergyAccounting

namespace GtnhPlatform.SimCore

open Common Crafting Inventory Sim

/-! The loops in which the machine systems consume the inputs of a recipe. -/

theorem consumeRange_eq (first last : Nat) (inputs : List InputItem) (slots : List PersistSlot) :
    consumeRange first last inputs slots =
      inputs.foldl (fun slots req =>
        setSegment first last (drawInput (segment first last slots) req) slots) slots := by
  unfold consumeRange
  congr 1
  funext slots req
  unfold drawInput
  split
  · exact (setSegment_segment first last slots).symm
  · rfl

theorem length_drawInput (slots : List PersistSlot) (req : InputItem) :
    (drawInput slots req).length = slots.length := by
  unfold drawInput
  split
  · rfl
  · exact length_withdraw _ _ _ _

theorem segment_consumeRange (first last : Nat) (recipe : Recipe) (slots : List PersistSlot) :
    segment first last (consumeRange first last recipe.inputs slots) =
      recipe.drawInputs (segment first last slots) := by
  rw [consumeRange_eq, segment_foldl_setSegment length_drawInput, Recipe.drawInputs]

inductive TakesInputs (recipe : Recipe) :
    Nat → Nat → MachineEntity → MachineEntity → Prop
  /-- `MachineSystem`, a recipe without reservation -/
  | machineStart {content : MachineContent} {entity : Nat} {tick : TickInput}
      {state : MachineState} {before after : MachineEntity}
      (starts : MachineState.Starts content entity recipe tick state before)
      (result : (state.startPass content entity tick).registry.lookup entity = some after) :
      TakesInputs recipe 0 (content.inputEnd before.slots.length) before after
  /-- `EBFSystem` and `LCRSystem` -/
  | furnaceStart {rules : FurnaceRules} {content : TickContent} {publish : Nat → Bool}
      {machineId : UInt16} {entity : Nat} {state : MultiblockState}
      {before after : MachineEntity}
      (found : rules.found content machineId before = some recipe)
      (mayStart : rules.mayStart = true)
      (direct : rules.orchestratesStart recipe = false)
      (result : (rules.begin content publish machineId entity before state).1.registry.lookup
        entity = some after) :
      TakesInputs recipe rules.inputs.1 rules.inputs.2 before after
  /-- the commit, in all three -/
  | commit {system : CraftSystem} {entity first last : Nat} {before after : MachineEntity}
      {craft : PendingCraft}
      (found : system.registry.lookup entity = some before)
      (pending : before.progress.pendingCraft = some craft)
      (ready : craft.fullyAccepted = true)
      (live : system.recipes.lookup craft.recipeId = some recipe)
      (result : (system.commitPendingCraft entity first last).1.registry.lookup entity =
        some after) :
      TakesInputs recipe first last before after

namespace TakesInputs

variable {recipe : Recipe} {first last : Nat} {before after : MachineEntity}

theorem slots (takes : TakesInputs recipe first last before after) :
    after.slots = consumeRange first last recipe.inputs before.slots := by
  cases takes with
  | machineStart starts result =>
    unfold MachineState.startPass at result
    rw [starts.found] at result
    simp only [starts.own, starts.idle, starts.cool, starts.cleared, bne_self_eq_false,
      Bool.or_self, Bool.false_eq_true, if_false, starts.made, starts.allowed, Bool.not_true,
      starts.direct] at result
    cases (AList.lookup_insert _).symm.trans result
    rfl
  | furnaceStart found mayStart direct result =>
    unfold FurnaceRules.begin at result
    rw [found] at result
    simp only [mayStart, direct, Bool.not_true, Bool.false_eq_true, if_false] at result
    cases (AList.lookup_insert _).symm.trans result
    rfl
  | commit found pending ready live result =>
    unfold CraftSystem.commitPendingCraft at result
    simp only [found, pending, ready, live, Bool.not_true, Bool.false_eq_true, if_false]
      at result
    cases (AList.lookup_insert _).symm.trans result
    rfl

def Conforms (recipe : Recipe) (first last : Nat) (before after : MachineEntity) : Prop :=
  segment first last after.slots = recipe.consumeInputs (segment first last before.slots)

theorem conforms_iff (takes : TakesInputs recipe first last before after) :
    Conforms recipe first last before after ↔ recipe.drawInputs (segment first last before.slots) =
        recipe.consumeInputs (segment first last before.slots) := by
  rw [Conforms, takes.slots, segment_consumeRange]

def accepted (recipe : Recipe) (slots : List PersistSlot) : MachineEntity where
  progress := { pendingCraft := some {
    recipeId := recipe.id
    ownerId := 1
    entityId := 1
    requirements := [⟨1, .eu, 0, 1, 1, 1, 0⟩]
    requestId := 1
    epoch := 0
    retryCount := 0
    expiryTick := 100
    nextRetryTick := 0 } }
  slots := slots
  energy := ⟨0, 0⟩

theorem commit_exists {system : CraftSystem} {entity : Nat} {machine : MachineEntity}
    {craft : PendingCraft} (found : system.registry.lookup entity = some machine)
    (pending : machine.progress.pendingCraft = some craft) (ready : craft.fullyAccepted = true)
    (live : system.recipes.lookup craft.recipeId = some recipe) (first last : Nat) :
    ∃ after, TakesInputs recipe first last machine after := by
  have committed : ∃ after,
      (system.commitPendingCraft entity first last).1.registry.lookup entity = some after := by
    unfold CraftSystem.commitPendingCraft
    simp only [found, pending, ready, live, Bool.not_true, Bool.false_eq_true, if_false]
    exact ⟨_, AList.lookup_insert _⟩
  obtain ⟨after, result⟩ := committed
  exact ⟨after, .commit found pending ready live result⟩

theorem exists_of_slots (recipe : Recipe) (slots : List PersistSlot) :
    ∃ after, TakesInputs recipe 0 slots.length (accepted recipe slots) after :=
  @commit_exists recipe
    ⟨.new, AList.insert 1 (accepted recipe slots) ∅, AList.insert recipe.id recipe ∅⟩ 1 _ _
    (Table.lookup_insert_self _ _ _) rfl rfl (Table.lookup_insert_self _ _ _) 0 slots.length

end TakesInputs

theorem inlineConsumption_iff (recipe : Recipe) :
    ((∀ first last before after, TakesInputs recipe first last before after →
        recipe.matchesContainer (segment first last before.slots) = true →
        TakesInputs.Conforms recipe first last before after) ↔ recipe.DrawnAlike) ∧
      (recipe.KeepsItems → ∀ first last before after, TakesInputs recipe first last before after →
        recipe.matchesContainer (segment first last before.slots) = true →
        ¬ TakesInputs.Conforms recipe first last before after) := by
  refine ⟨⟨fun conforms => recipe.drawInputs_iff.mp fun slots accepts => ?_, ?_⟩, ?_⟩
  · obtain ⟨after, takes⟩ := TakesInputs.exists_of_slots recipe slots
    have whole : segment 0 slots.length (TakesInputs.accepted recipe slots).slots = slots :=
      (List.drop_zero).trans List.take_length
    have same := takes.conforms_iff.mp (conforms _ _ _ _ takes (whole.symm ▸ accepts))
    rwa [whole] at same
  · intro plain first last before after takes accepts
    exact takes.conforms_iff.mpr (recipe.drawInputs_iff.mpr plain _ accepts)
  · rintro ⟨shapeless, req, mem, real, kept, counted⟩ first last before after takes accepts
      conforms
    exact counted (kept_of_same shapeless accepts (takes.conforms_iff.mp conforms) req mem real
      kept)

def oxygen : Recipe where
  id := "gtnh:chemical_reactor_oxygen"
  inputs := [⟨7, 1, 0, false, 0, 0⟩]
  outputs := [⟨9, 1, 0⟩]
  minTier := 0
  maxTier := 32767
  energyType := ENERGY_TYPE_ANY
  hasPattern := false
  pattern := Vector.replicate 9 ⟨0, 0, 0⟩
  duration := 200
  resourceRequirements := [⟨.eu, 0, 32⟩]

def oxygenReactor : MachineContent := .single 20 oxygen (by decide) 32 (by decide) .electricity

def filled : MachineEntity where
  progress := {}
  slots := [⟨7, 1, 0⟩, ⟨0, 0, 0⟩]
  energy := ⟨1000, 500⟩

def filledReactor : MachineState := ⟨.new, AList.insert 1 filled ∅, none, none, none, none⟩

theorem oxygen_starts :
    MachineState.Starts oxygenReactor 1 oxygen MachineState.unconditional filledReactor filled where
  found := Table.lookup_insert_self _ _ _
  level := by decide
  idle := rfl
  own := rfl
  cool := rfl
  cleared := rfl
  made := MachineContent.single_finds (by decide) rfl
  allowed := rfl
  direct := rfl

theorem oxygen_takes : ∃ after, TakesInputs oxygen 0 1 filled after := by
  obtain ⟨after, result, -⟩ := oxygen_starts.machine_begun
  exact ⟨after, .machineStart oxygen_starts result⟩

theorem inlineConsumption_oxygen : ∃ after, TakesInputs oxygen 0 1 filled after ∧
      ¬ TakesInputs.Conforms oxygen 0 1 filled after := by
  obtain ⟨after, takes⟩ := oxygen_takes
  exact ⟨after, takes, (inlineConsumption_iff oxygen).2
    ⟨rfl, _, List.mem_singleton_self _, by decide, rfl, by decide⟩ 0 1 filled after takes rfl⟩

theorem oxygen_not_conforms :
    ¬ ∀ (recipe : Recipe) (first last : Nat) (before after : MachineEntity),
      TakesInputs recipe first last before after →
      recipe.matchesContainer (segment first last before.slots) = true →
      TakesInputs.Conforms recipe first last before after := by
  intro claim
  obtain ⟨after, takes⟩ := oxygen_takes
  have same := takes.conforms_iff.mp (claim oxygen 0 1 filled after takes rfl)
  revert same
  decide

end GtnhPlatform.SimCore
