import GtnhPlatform.SimCore.ChargeFrame

namespace GtnhPlatform.SimCore

open Common Crafting Inventory

/-- The runs of one reservation: the recipe stays loaded as it is, and the machine
stays and starts nothing else. -/
def CraftInput.Keeps (entity : Nat) (recipe : Recipe) : CraftInput → Prop
  | .reload _ => False
  | .destroy other => other ≠ entity
  | .start other recipeId _ _ _ _ => other = entity → recipeId = recipe.id
  | _ => True

def perTickCost (recipe : Recipe) : Int := wrapI32 recipe.resourceAmountPerTick.toNat

def Lone (recipe : Recipe) (capacity : Int) (requirement : ResourceRequirement) : Prop :=
  recipe.resourceRequirements = [requirement] ∧
    (recipe.fluidInputs = [] ∨ capacity ≤ requirement.amount.toNat)

/-- The recipes whose legs the single storage keeps apart: those that never advance
(an empty id, no leg, a leg that is not positive as `int32_t`, a cost above the
capacity), those that advance once, and those with a lone leg. -/
def ChargeSafe (recipe : Recipe) (capacity : Int) : Prop :=
  recipe.id = "" ∨ recipe.resourceRequirements = [] ∨
    (∃ leg ∈ reservationLegs recipe, wrapI32 leg.2.2.toNat ≤ 0) ∨
    capacity < perTickCost recipe ∨ recipe.duration = 1 ∨
    ∃ requirement, Lone recipe capacity requirement

def FullyPaid (recipe : Recipe) (entity : Nat) (log : List CraftEvent) : Prop :=
  ∀ index leg, (reservationLegs recipe)[index]? = some leg →
    0 < wrapI32 leg.2.2.toNat ∧ (leg.2.2.toNat : Int) ≤ paid entity (index + 1) log

inductive ChargePhase (recipe : Recipe) (entity : Nat) (client : CraftReservationClient)
    (history log : List CraftEvent) (machine : MachineEntity) : Prop
  | waiting
      (idle : machine.progress.recipeId = "")
      (unreserved : machine.progress.pendingCraft = none)
      (empty : machine.energy.current = 0)
      (unbegun : begun entity log = 0)
      (unadvanced : advanced entity log = 0)
      (unpaid : ∀ leg, paid entity leg log = 0)
      (quiet : ∀ id request, client.outstanding.lookup id = some request → request.entity ≠ entity)
  | reserving (craft : PendingCraft)
      (idle : machine.progress.recipeId = "")
      (reserved : machine.progress.pendingCraft = some craft)
      (named : craft.recipeId = recipe.id)
      (once : begun entity log = 1)
      (unadvanced : advanced entity log = 0)
      (last : lastRecipe entity history = some recipe)
      (books : ∀ index, paid entity (index + 1) log = acceptedSince entity (index + 1) history)
      (uncharged : ∀ id request, client.outstanding.lookup id = some request →
        request.entity = entity → request.requirementId ≠ 0)
      (within : machine.energy.current ≤ machine.energy.capacity ∨ ∀ leg, paid entity leg log = 0)
      (alone : recipe.resourceRequirements.length = 1 → recipe.fluidInputs = [] →
        machine.energy.current ≤ paid entity 1 log)
  | running
      (named : machine.progress.recipeId = recipe.id)
      (nonempty : recipe.id ≠ "")
      (unreserved : machine.progress.pendingCraft = none)
      (once : begun entity log = 1)
      (full : FullyPaid recipe entity log)
      (within : machine.energy.current ≤ machine.energy.capacity)
      (brief : recipe.duration = 1 → advanced entity log = 0 ∧ machine.progress.remainingTicks = 1)
      (alone : ∀ requirement, Lone recipe machine.energy.capacity requirement →
        machine.energy.current + advanced entity log * requirement.amount.toNat ≤ paid entity 1 log)
      (tagged : recipe.resourceRequirements.length = 1 → ∀ id request,
        client.outstanding.lookup id = some request → request.entity = entity →
          request.requirementId = 0 → requestLeg id log = some 1)
      (law : ChargeLaw entity recipe log)
  | ended
      (idle : machine.progress.recipeId = "")
      (unreserved : machine.progress.pendingCraft = none)
      (once : begun entity log = 1)
      (law : ChargeLaw entity recipe log)

structure ChargeInvariant (recipe : Recipe) (entity : Nat) (capacity : Int) (system : CraftSystem)
    (history log : List CraftEvent) : Prop where
  loaded : system.recipes.lookup recipe.id = some recipe
  minted : ∀ event ∈ log, event.Minted system.client.nextRequestId
  nonneg : ∀ leg, 0 ≤ paid entity leg log
  asked : ∀ id request, system.client.outstanding.lookup id = some request →
    request.entity = entity → 0 ≤ request.requested
  phase : ∃ machine, system.registry.lookup entity = some machine ∧
    machine.energy.capacity = capacity ∧ ChargePhase recipe entity system.client history log machine

variable {recipe : Recipe} {entity : Nat} {capacity : Int} {system next : CraftSystem}
variable {client later : CraftReservationClient} {history log events : List CraftEvent}
variable {machine : MachineEntity}

theorem chargeLaw_of_unadvanced (unadvanced : advanced entity log = 0)
    (nonneg : ∀ leg, 0 ≤ paid entity leg log) : ChargeLaw entity recipe log := by
  intro index requirement _
  rw [unadvanced]
  simpa using nonneg (index + 1)

theorem ChargeLaw.paid (law : ChargeLaw entity recipe log) (still : advanced entity events = 0)
    (more : ∀ leg, 0 ≤ paidFrom entity leg log events) :
    ChargeLaw entity recipe (log ++ events) := by
  intro index requirement found
  rw [advanced_append, still, paid_append]
  have before := law index requirement found
  have payment := more (index + 1)
  simp only [Nat.add_zero]
  omega

theorem ChargeInvariant.law
    (invariant : ChargeInvariant recipe entity capacity system history log) :
    ChargeLaw entity recipe log := by
  obtain ⟨machine, -, -, phase⟩ := invariant.phase
  cases phase with
  | waiting idle unreserved empty unbegun unadvanced =>
    exact chargeLaw_of_unadvanced unadvanced invariant.nonneg
  | reserving craft idle reserved named once unadvanced =>
    exact chargeLaw_of_unadvanced unadvanced invariant.nonneg
  | running named nonempty unreserved once full within brief alone tagged law => exact law
  | ended idle unreserved once law => exact law

/-- What the books of one machine's charges see of some events: nothing. -/
structure Unseen (entity : Nat) (history log events : List CraftEvent) : Prop where
  begun : begun entity events = 0
  advanced : advanced entity events = 0
  paid : ∀ leg, paidFrom entity leg log events = 0
  last : lastRecipe entity (history ++ events) = lastRecipe entity history
  accepted : ∀ leg, acceptedSince entity leg (history ++ events) = acceptedSince entity leg history

theorem Unseen.of_plain (history log : List CraftEvent) (plain : ∀ event ∈ events, event.Plain) :
    Unseen entity history log events where
  begun := begun_plain plain
  advanced := advanced_plain plain
  paid := fun _ => paidFrom_plain log plain
  last := lastRecipe_neutral entity history fun event mem => Plain.neutral (plain event mem)
  accepted := fun leg => acceptedSince_neutral entity leg history fun event mem =>
    Plain.neutral (plain event mem)

theorem Unseen.of_other (history log : List CraftEvent)
    (other : ∀ event ∈ events, event.entity ≠ entity) : Unseen entity history log events where
  begun := begun_other other
  advanced := advanced_other other
  paid := fun _ => paidFrom_other log other
  last := lastRecipe_other history other
  accepted := fun _ => acceptedSince_other history other

theorem ChargePhase.unseen (phase : ChargePhase recipe entity client history log machine)
    (unseen : Unseen entity history log events)
    (opens : ∀ id request, later.outstanding.lookup id = some request →
      request.entity = entity → client.outstanding.lookup id = some request)
    (slots : List PersistSlot) :
    ChargePhase recipe entity later (history ++ events) (log ++ events)
      { machine with slots := slots } := by
  have begins : begun entity (log ++ events) = begun entity log := by
    rw [begun_append, unseen.begun, Nat.add_zero]
  have advances : advanced entity (log ++ events) = advanced entity log := by
    rw [advanced_append, unseen.advanced, Nat.add_zero]
  have pays : ∀ leg, paid entity leg (log ++ events) = paid entity leg log := by
    intro leg
    rw [paid_append, unseen.paid, Int.add_zero]
  cases phase with
  | waiting idle unreserved empty unbegun unadvanced unpaid quiet =>
    exact .waiting idle unreserved empty (begins.trans unbegun) (advances.trans unadvanced)
      (fun leg => (pays leg).trans (unpaid leg))
      fun id request found own => quiet id request (opens id request found own) own
  | reserving craft idle reserved named once unadvanced last books uncharged within alone =>
    refine .reserving craft idle reserved named (begins.trans once) (advances.trans unadvanced)
      (unseen.last.trans last) (fun index => ?_)
      (fun id request found own => uncharged id request (opens id request found own) own)
      (within.imp_right fun none leg => (pays leg).trans (none leg)) (fun single fluids => ?_)
    · rw [pays, unseen.accepted]
      exact books index
    · rw [pays]
      exact alone single fluids
  | running named nonempty unreserved once full within brief alone tagged law =>
    refine .running named nonempty unreserved (begins.trans once) (fun index leg found => ?_)
      within (fun short => ?_) (fun requirement lone => ?_)
      (fun single id request found own charge =>
        requestLeg_append events (tagged single id request (opens id request found own) own charge))
      (law.paid unseen.advanced fun leg => Int.le_of_eq (unseen.paid leg).symm)
    · rw [pays]
      exact full index leg found
    · rw [advances]
      exact brief short
    · rw [advances, pays]
      exact alone requirement lone
  | ended idle unreserved once law =>
    exact .ended idle unreserved (begins.trans once)
      (law.paid unseen.advanced fun leg => Int.le_of_eq (unseen.paid leg).symm)

theorem ChargeInvariant.frame
    (invariant : ChargeInvariant recipe entity capacity system history log)
    (frame : ChargeFrame entity system next events) :
    ChargeInvariant recipe entity capacity next (history ++ events) (log ++ events) where
  loaded := frame.loaded ▸ invariant.loaded
  minted := fun event mem => (List.mem_append.mp mem).elim
    (fun earlier => Minted.later (invariant.minted event earlier) frame.count)
    (frame.minted event)
  nonneg := fun leg => by
    rw [paid_append, paidFrom_other log frame.other, Int.add_zero]
    exact invariant.nonneg leg
  asked := fun id request found own =>
    invariant.asked id request (frame.opens id request found own) own
  phase := by
    obtain ⟨machine, found, capacityEq, phase⟩ := invariant.phase
    obtain ⟨slots, kept⟩ := frame.machine machine found
    exact ⟨_, kept, capacityEq, phase.unseen (Unseen.of_other history log frame.other)
      frame.opens slots⟩

end GtnhPlatform.SimCore
