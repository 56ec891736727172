import GtnhPlatform.SimCore.MultiblockTurns

namespace GtnhPlatform.SimCore

open Common Crafting Inventory Sim

variable (content : TickContent)

def Anchors (controller : MultiblockController) (entity : Nat) : Prop :=
  (∃ id, content.controllers.lookup id = some controller) ∧
    content.entityAt controller.position = some entity

def Owns (system : MultiblockSystem) (entity : Nat) : Prop :=
  (∃ controller, Anchors content controller entity) ∧
    ∀ controller, Anchors content controller entity → system.owns controller.patternId = true

def ChangesOwnOnly (state : MultiblockState) (turn : Visit) : Prop :=
  ∀ entity, ¬ Owns content turn.system entity →
    Untouched state (visit content state turn).1 (visit content state turn).2 entity

structure Reaches (content : TickContent) (state : MultiblockState) (turn : Visit)
    (controller : MultiblockController) (entity : Nat) (site : MultiblockSite)
    (machine : MachineEntity) : Prop where
  known : content.controllers.lookup turn.controllerId = some controller
  taken : turn.system.takes content turn.controllerId controller = true
  anchored : content.entityAt controller.position = some entity
  placed : content.sites.lookup entity = some site
  alive : state.registry.lookup entity = some machine

def IdleOnForeign (state : MultiblockState) (turn : Visit) : Prop :=
  ∀ controller entity site machine, Reaches content state turn controller entity site machine →
    (∃ other, Anchors content other entity ∧ turn.system.owns other.patternId = false) →
      Idle content turn.system controller entity site machine state

def OneSystem (events : List TickEvent) : Prop :=
  ∀ first ∈ events, ∀ second ∈ events, first.entity = second.entity → first.system = second.system

section Visit

variable {content : TickContent} {state : MultiblockState} {turn : Visit}
  {controller : MultiblockController} {entity : Nat} {site : MultiblockSite}
  {machine : MachineEntity}

variable (reached : Reaches content state turn controller entity site machine)

include reached

theorem Reaches.anchors : Anchors content controller entity :=
  ⟨⟨turn.controllerId, reached.known⟩, reached.anchored⟩

theorem Reaches.not_owns_iff : ¬ Owns content turn.system entity ↔
      ∃ other, Anchors content other entity ∧ turn.system.owns other.patternId = false := by
  rw [Owns, and_iff_right ⟨controller, reached.anchors⟩]
  push Not
  simp only [ne_eq, Bool.not_eq_true]

theorem Reaches.visit_eq : visit content state turn =
      tickController content turn.system turn.publish controller entity site machine state := by
  unfold visit
  rw [reached.known]
  dsimp only
  rw [if_pos reached.taken, reached.anchored]
  dsimp only
  rw [reached.placed, reached.alive]

omit reached

theorem visit_cases (content : TickContent) (state : MultiblockState) (turn : Visit) :
    visit content state turn = (state, []) ∨ ∃ controller entity site machine,
        Reaches content state turn controller entity site machine := by
  unfold visit
  cases known : content.controllers.lookup turn.controllerId with
  | none => exact Or.inl rfl
  | some controller =>
    dsimp only
    split
    · next taken =>
      cases anchored : content.entityAt controller.position with
      | none => exact Or.inl rfl
      | some entity =>
        dsimp only
        cases placed : content.sites.lookup entity with
        | none => exact Or.inl rfl
        | some site =>
          cases alive : state.registry.lookup entity with
          | none => exact Or.inl rfl
          | some machine =>
            exact Or.inr ⟨controller, entity, site, machine, known, taken, anchored, placed, alive⟩
    · exact Or.inl rfl

theorem changesOwnOnly_iff (content : TickContent) (state : MultiblockState) (turn : Visit) :
    ChangesOwnOnly content state turn ↔ IdleOnForeign content state turn := by
  constructor
  · intro own controller entity site machine reached foreign
    have untouched := own entity (reached.not_owns_iff.mpr foreign)
    rw [reached.visit_eq] at untouched
    exact (untouched_tickController_iff content turn.system turn.publish controller site
      reached.alive).mp untouched
  · intro idle other foreign
    obtain nothing | ⟨controller, entity, site, machine, reached⟩ := visit_cases content state turn
    · rw [nothing]
      exact Untouched.refl state other
    rw [reached.visit_eq]
    by_cases here : other = entity
    · subst here
      exact (untouched_tickController_iff content turn.system turn.publish controller site
        reached.alive).mpr
          (idle controller other site machine reached (reached.not_owns_iff.mp foreign))
    · exact (confined_tickController content turn.system turn.publish controller entity site
        machine state).untouched here

theorem MultiblockSystem.eq_of_owns {first second : MultiblockSystem}
    (one : first.owns patternId = true) (other : second.owns patternId = true) :
    first = second := by
  cases first <;> cases second <;>
    simp only [owns, Bool.or_eq_true, beq_iff_eq] at one other <;>
    first
    | rfl
    | simp_all

theorem owns_of_changesOwnOnly (own : ChangesOwnOnly content state turn) :
    ∀ event ∈ (visit content state turn).2, Owns content event.system event.entity := by
  intro event mem
  obtain nothing | ⟨controller, entity, site, machine, reached⟩ := visit_cases content state turn
  · rw [nothing] at mem
    cases mem
  have confined := confined_tickController content turn.system turn.publish controller entity
    site machine state
  rw [← reached.visit_eq] at confined
  rw [(confined.events event mem).1]
  by_contra foreign
  exact (own event.entity foreign).silent event mem rfl

theorem oneSystem_of_owns (owned : ∀ event ∈ events, Owns content event.system event.entity) :
    OneSystem events := by
  intro first firstMember second secondMember same
  obtain ⟨⟨controller, anchors⟩, one⟩ := owned first firstMember
  have other := (owned second secondMember).2 controller (same ▸ anchors)
  exact MultiblockSystem.eq_of_owns (one controller anchors) other

end Visit

theorem multiblock_ownership_iff (content : TickContent) (publish : Nat → Bool)
    (state : MultiblockState) :
    (tickMachine content).Along (ChangesOwnOnly content) state (tickVisits content publish) ∧
        OneSystem ((tickMachine content).outputs state (tickVisits content publish)) ↔
      (tickMachine content).Along (IdleOnForeign content) state (tickVisits content publish) := by
  constructor
  · rintro ⟨own, -⟩
    exact Machine.Along.mono _ (fun state turn => (changesOwnOnly_iff content state turn).mp) own
  intro idle
  have own := Machine.Along.mono _
    (fun state turn => (changesOwnOnly_iff content state turn).mpr) idle
  have owned : ∀ event ∈ (tickMachine content).outputs state (tickVisits content publish),
      Owns content event.system event.entity := by
    apply Machine.invariant (tickMachine content) (ChangesOwnOnly content)
      (fun _ _ events => ∀ event ∈ events, Owns content event.system event.entity) nofun _ _ own
    intro inputs current events turn before now event mem
    obtain earlier | later := List.mem_append.mp mem
    · exact before event earlier
    · exact owns_of_changesOwnOnly now event later
  exact ⟨own, oneSystem_of_owns owned⟩

def furnaceAnchor : Position := ⟨4, 10, 5⟩

def ironSmelting : Recipe where
  id := "gtnh:ebf_iron_smelting"
  inputs := []
  outputs := []
  minTier := 0
  maxTier := 32767
  energyType := 0
  hasPattern := false
  pattern := Vector.replicate 9 ⟨0, 0, 0⟩
  duration := 400

def furnaceContent : TickContent where
  manager := {
    classByBlockId := ∅
    recipesByClass := ∅
    recipes := AList.insert ironSmelting.id ironSmelting ∅
    tierByBlockId := ∅
    energyInByBlockId := ∅
    listed := nofun }
  energyCost := AList.insert ironSmelting.id 2 ∅
  info := ∅
  patterns := PatternRegistry.new
  controllers := AList.insert 1
    ⟨1, furnaceAnchor, 1, [], [⟨.energy, furnaceAnchor, 0, 0, 1, true⟩]⟩ ∅
  sites := AList.insert 7 ⟨furnaceAnchor, 1006, .electricity, 32⟩ ∅
  blocks := ∅
  ebfTicks := 1
  lcrTicks := 1

def runningFurnace : MultiblockState where
  client := CraftReservationClient.new
  registry := AList.insert 7
    { progress := { recipeId := ironSmelting.id, remainingTicks := 400, isProcessing := true }
      slots := [⟨1010, 8, 0⟩]
      energy := ⟨10000, 1000⟩ } ∅
  heat := ∅
  overheat := ∅
  ebfPending := ∅
  lcrPending := ∅

theorem furnace_ticked_by_all :
    (tickMachine furnaceContent).outputs runningFurnace
        (tickVisits furnaceContent fun _ => true) =
      [⟨.ebf, 7, .advanced⟩, ⟨.largeBoiler, 7, .burnt⟩, ⟨.lcr, 7, .advanced⟩] ∧
    ¬ OneSystem ((tickMachine furnaceContent).outputs runningFurnace
        (tickVisits furnaceContent fun _ => true)) := by
  have ticked : (tickMachine furnaceContent).outputs runningFurnace
      (tickVisits furnaceContent fun _ => true) =
        [⟨.ebf, 7, .advanced⟩, ⟨.largeBoiler, 7, .burnt⟩, ⟨.lcr, 7, .advanced⟩] := by
    decide +kernel
  refine ⟨ticked, ?_⟩
  rw [ticked]
  intro one
  exact nomatch one ⟨.ebf, 7, .advanced⟩ (by decide) ⟨.lcr, 7, .advanced⟩ (by decide) rfl

end GtnhPlatform.SimCore
