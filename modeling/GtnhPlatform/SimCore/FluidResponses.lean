import GtnhPlatform.Data.Machine
import GtnhPlatform.Data.Table
import GtnhPlatform.Data.Word

namespace GtnhPlatform.SimCore

/-! Steam requests of turbines and steam machines. An answer names no node. -/

structure SteamTurbineComponent where
  steamItemId : Nat
  steamStored : Int
  steamCapacity : Int
  steamMaxInput : Int
  euPerSteam : Int
  euStored : Int
  euCapacity : Int
  euMaxOutput : Int
  requestPending : Bool

def Fits32 (value : Int) : Prop := -2 ^ 31 ≤ value ∧ value ≤ 2 ^ 31 - 1

instance (value : Int) : Decidable (Fits32 value) := inferInstanceAs (Decidable (_ ∧ _))

def addSat32 (a b : Int) : Int := max (-2 ^ 31) (min (2 ^ 31 - 1) (a + b))
def subSat32 (a b : Int) : Int := max (-2 ^ 31) (min (2 ^ 31 - 1) (a - b))

theorem fits32_subSat32 (a b : Int) : Fits32 (subSat32 a b) := by
  unfold Fits32 subSat32
  omega

theorem fits32_min_addSat32 (a b : Int) (fits : Fits32 bound) :
    Fits32 (min (addSat32 a b) bound) := by
  unfold Fits32 addSat32 at *
  omega

structure SteamMachine where
  current : Int
  capacity : Int
  currentFits : Fits32 current
  capacityFits : Fits32 capacity

inductive FluidSink where
  | turbine (entity : Nat)
  | machine (entity : Nat)
  deriving DecidableEq

structure FluidRequest where
  sink : FluidSink
  fluidId : Nat
  amount : Int
  deriving DecidableEq

structure FluidSystem where
  steamItemId : Nat
  turbines : Table Nat SteamTurbineComponent
  machines : Table Nat SteamMachine
  pendingEntity : Option Nat
  pendingFluidConsumes : Table Nat Int
  inFlight : List FluidRequest

def kSteamFillQuantum : Int := 1000

namespace SteamTurbineComponent

variable (turbine : SteamTurbineComponent)

def wants : Option Int :=
  if turbine.steamItemId != 0 && decide (turbine.steamStored < turbine.steamCapacity) &&
      !turbine.requestPending then
    let amount := min turbine.steamMaxInput (turbine.steamCapacity - turbine.steamStored)
    if 0 < amount then some amount else none
  else none

def convert : SteamTurbineComponent :=
  let euSpace := turbine.euCapacity - turbine.euStored
  let steamToUse := min turbine.steamStored
    (min turbine.euMaxOutput (euSpace.tdiv (max 1 turbine.euPerSteam)))
  if 0 < steamToUse then
    { turbine with
      steamStored := turbine.steamStored - steamToUse
      euStored := turbine.euStored + steamToUse * turbine.euPerSteam }
  else turbine

def fill (consumed : Int) : SteamTurbineComponent :=
  { turbine with
    requestPending := false
    steamStored :=
      if 0 < consumed then min turbine.steamCapacity (turbine.steamStored + consumed)
      else turbine.steamStored }

end SteamTurbineComponent

namespace SteamMachine

def fill (machine : SteamMachine) (consumed : Int) : SteamMachine :=
  { machine with
    current := min (addSat32 machine.current consumed) machine.capacity
    currentFits := fits32_min_addSat32 _ _ machine.capacityFits }

def pay (machine : SteamMachine) (perTickCost : Int) : SteamMachine :=
  { machine with
    current := subSat32 machine.current perTickCost
    currentFits := fits32_subSat32 _ _ }

end SteamMachine

namespace FluidSystem

variable (system : FluidSystem)

def turbineTick (entity : Nat) : FluidSystem :=
  match system.turbines.lookup entity with
  | none => system
  | some turbine =>
    let turbine := { turbine with
      steamItemId := if turbine.steamItemId = 0 then system.steamItemId else turbine.steamItemId }
    match turbine.wants with
    | some amount =>
      { system with
        turbines := AList.insert entity ({ turbine with requestPending := true }).convert
          system.turbines
        pendingEntity := some entity
        inFlight := system.inFlight ++ [⟨.turbine entity, turbine.steamItemId, amount⟩] }
    | none => { system with turbines := AList.insert entity turbine.convert system.turbines }

/-- A machine asks unless its last request is still pending. -/
def request (entity : Nat) (amount : Int) : FluidSystem :=
  if (system.pendingFluidConsumes.lookup entity).isSome then system
  else { system with
    pendingFluidConsumes := AList.insert entity amount system.pendingFluidConsumes
    inFlight := system.inFlight ++ [⟨.machine entity, system.steamItemId, amount⟩] }

def machineTopUp (entity : Nat) : FluidSystem :=
  match system.machines.lookup entity with
  | none => system
  | some machine =>
    if system.steamItemId = 0 ∨ machine.capacity ≤ machine.current then system
    else
      let amount := min (machine.capacity - machine.current) kSteamFillQuantum
      if amount ≤ 0 then system else system.request entity amount

def machineTick (entity : Nat) (perTickCost : Int) : FluidSystem :=
  match system.machines.lookup entity with
  | none => system
  | some machine =>
    if machine.current < perTickCost then
      if system.steamItemId = 0 then system else system.request entity perTickCost
    else { system with
      machines := AList.insert entity (machine.pay perTickCost) system.machines }

def answerTurbine (consumed : Int) : FluidSystem :=
  match system.pendingEntity with
  | none => system
  | some entity =>
    match system.turbines.lookup entity with
    | none => { system with pendingEntity := none }
    | some turbine => { system with
        pendingEntity := none
        turbines := AList.insert entity (turbine.fill consumed) system.turbines }

/-- `begin()` of the pending map: the hash order is the environment's. -/
def front (first : Nat) : Option Nat :=
  if (system.pendingFluidConsumes.lookup first).isSome then some first
  else (system.pendingFluidConsumes.entries.head?).map Sigma.fst

def answerMachine (consumed : Int) (first : Nat) : FluidSystem :=
  match system.front first with
  | none => system
  | some entity =>
    let popped := { system with
      pendingFluidConsumes := system.pendingFluidConsumes.erase entity }
    if consumed ≤ 0 then popped
    else
      match system.machines.lookup entity with
      | none => popped
      | some machine => { popped with
          machines := AList.insert entity (machine.fill consumed) system.machines }

/-- The handler of `fluid.consume.response`. -/
def onFluidConsumeResponse (consumed : Int) (first : Nat) : FluidSystem :=
  (system.answerTurbine consumed).answerMachine consumed first

def answer (index : Nat) (consumed : Int) (first : Nat) : FluidSystem :=
  if index < system.inFlight.length then
    { system with inFlight := system.inFlight.eraseIdx index }.onFluidConsumeResponse consumed first
  else system

end FluidSystem

inductive FluidInput where
  | spawnTurbine (entity : Nat) (turbine : SteamTurbineComponent)
  | spawnMachine (entity : Nat) (machine : SteamMachine)
  | destroy (entity : Nat)
  | turbineTick (entity : Nat)
  | machineTopUp (entity : Nat)
  | machineTick (entity : Nat) (perTickCost : Int)
  | answer (index : Nat) (consumed : Int) (first : Nat)

namespace FluidSystem

variable (system : FluidSystem)

def step : FluidInput → FluidSystem
  | .spawnTurbine entity turbine =>
    { system with turbines := system.turbines.emplace entity turbine }
  | .spawnMachine entity machine =>
    { system with machines := system.machines.emplace entity machine }
  | .destroy entity =>
    { system with
      turbines := system.turbines.erase entity
      machines := system.machines.erase entity }
  | .turbineTick entity => system.turbineTick entity
  | .machineTopUp entity => system.machineTopUp entity
  | .machineTick entity perTickCost => system.machineTick entity perTickCost
  | .answer index consumed first => system.answer index consumed first

def machine : Machine FluidSystem FluidInput Unit := ⟨fun system input => (system.step input, [])⟩

def stored : FluidSink → Option Int
  | .turbine entity => (system.turbines.lookup entity).map fun turbine => turbine.steamStored
  | .machine entity => (system.machines.lookup entity).map fun machine => machine.current

def filled (consumed : Int) : FluidSink → Option Int
  | .turbine entity =>
    (system.turbines.lookup entity).map fun turbine => (turbine.fill consumed).steamStored
  | .machine entity =>
    (system.machines.lookup entity).map fun machine => (machine.fill consumed).current

def CreditsRequester (system next : FluidSystem) (request : FluidRequest) (consumed : Int) :
    Prop :=
  ∀ sink, next.stored sink =
    if sink = request.sink ∧ 0 < consumed then system.filled consumed sink
    else system.stored sink

def Targets (first : Nat) : FluidSink → Prop
  | .turbine entity => system.pendingEntity = some entity
  | .machine entity => system.front first = some entity

instance (system : FluidSystem) (first : Nat) :
    (sink : FluidSink) → Decidable (system.Targets first sink)
  | .turbine entity => inferInstanceAs (Decidable (system.pendingEntity = some entity))
  | .machine entity => inferInstanceAs (Decidable (system.front first = some entity))

def GoneOrFull : FluidSink → Prop
  | .turbine entity =>
    ∀ turbine, system.turbines.lookup entity = some turbine →
      turbine.steamStored = turbine.steamCapacity
  | .machine entity =>
    ∀ machine, system.machines.lookup entity = some machine → machine.current = machine.capacity

def Correlated (request : FluidRequest) (consumed : Int) (first : Nat) : Prop :=
  0 < consumed →
    (∀ sink, system.Targets first sink → sink = request.sink ∨ system.GoneOrFull sink) ∧
    (system.Targets first request.sink ∨ system.GoneOrFull request.sink)

/-- Whether one step answers a request as the request asks. -/
def AnswersRequester : FluidInput → Prop
  | .answer index consumed first =>
    ∀ request, system.inFlight[index]? = some request →
      system.CreditsRequester (system.answer index consumed first) request consumed
  | _ => True

def AnswerCorrelated : FluidInput → Prop
  | .answer index consumed first =>
    ∀ request, system.inFlight[index]? = some request → system.Correlated request consumed first
  | _ => True

variable (system : FluidSystem) {consumed : Int}

theorem filled_eq_stored_iff (positive : 0 < consumed) (sink : FluidSink) :
    system.filled consumed sink = system.stored sink ↔ system.GoneOrFull sink := by
  cases sink with
  | turbine entity =>
    cases present : system.turbines.lookup entity with
    | none => simp [filled, stored, GoneOrFull, present]
    | some turbine =>
      simp only [filled, stored, GoneOrFull, present, Option.map_some, Option.some.injEq,
        forall_eq', SteamTurbineComponent.fill, positive, if_true]
      omega
  | machine entity =>
    cases present : system.machines.lookup entity with
    | none => simp [filled, stored, GoneOrFull, present]
    | some machine =>
      obtain ⟨low, high⟩ := machine.currentFits
      obtain ⟨capacityLow, capacityHigh⟩ := machine.capacityFits
      simp only [filled, stored, GoneOrFull, present, Option.map_some, Option.some.injEq,
        forall_eq', SteamMachine.fill, addSat32]
      omega

theorem stored_answerTurbine_turbine (consumed : Int) (entity : Nat) :
    (system.answerTurbine consumed).stored (.turbine entity) =
      if system.pendingEntity = some entity then system.filled consumed (.turbine entity)
      else system.stored (.turbine entity) := by
  unfold answerTurbine
  cases pending : system.pendingEntity with
  | none => rfl
  | some picked =>
    by_cases same : picked = entity
    · subst same
      rw [if_pos rfl]
      cases present : system.turbines.lookup picked with
      | none => simp only [stored, filled, present, Option.map_none]
      | some turbine =>
        simp only [stored, filled, present, Table.lookup_insert_self, Option.map_some]
    · rw [if_neg fun both => same (Option.some.inj both)]
      cases present : system.turbines.lookup picked with
      | none => simp only [stored, present]
      | some turbine =>
        simp only [stored, present]
        rw [Table.lookup_insert_of_ne _ _ fun both => same both.symm]

theorem answerTurbine_rest (consumed : Int) :
    (system.answerTurbine consumed).machines = system.machines ∧
      (system.answerTurbine consumed).pendingFluidConsumes = system.pendingFluidConsumes := by
  unfold answerTurbine
  split
  · exact ⟨rfl, rfl⟩
  · split <;> exact ⟨rfl, rfl⟩

theorem answerMachine_turbines (consumed : Int) (first : Nat) :
    (system.answerMachine consumed first).turbines = system.turbines := by
  unfold answerMachine
  split
  · rfl
  split
  · rfl
  · split <;> rfl

theorem stored_answerMachine_machine (positive : 0 < consumed) (first entity : Nat) :
    (system.answerMachine consumed first).stored (.machine entity) =
      if system.front first = some entity then system.filled consumed (.machine entity)
      else system.stored (.machine entity) := by
  have paid : ¬ consumed ≤ 0 := by omega
  unfold answerMachine
  cases picked : system.front first with
  | none => rfl
  | some chosen =>
    simp only [paid, if_false]
    by_cases same : chosen = entity
    · subst same
      rw [if_pos rfl]
      cases present : system.machines.lookup chosen with
      | none => simp only [stored, filled, present, Option.map_none]
      | some machine =>
        simp only [stored, filled, present, Table.lookup_insert_self, Option.map_some]
    · rw [if_neg fun both => same (Option.some.inj both)]
      cases present : system.machines.lookup chosen with
      | none => rfl
      | some machine =>
        simp only [stored]
        rw [Table.lookup_insert_of_ne _ _ fun both => same both.symm]

theorem stored_onFluidConsumeResponse (positive : 0 < consumed) (first : Nat) (sink : FluidSink) :
    (system.onFluidConsumeResponse consumed first).stored sink =
      if system.Targets first sink then system.filled consumed sink else system.stored sink := by
  obtain ⟨machines, pending⟩ := answerTurbine_rest system consumed
  cases sink with
  | turbine entity =>
    have same : (system.onFluidConsumeResponse consumed first).stored (.turbine entity) =
        (system.answerTurbine consumed).stored (.turbine entity) := by
      simp only [stored, onFluidConsumeResponse, answerMachine_turbines]
    rw [same, stored_answerTurbine_turbine]
    rfl
  | machine entity =>
    have front : (system.answerTurbine consumed).front first = system.front first := by
      simp only [FluidSystem.front, pending]
    rw [onFluidConsumeResponse, stored_answerMachine_machine _ positive, front]
    simp only [filled, stored, machines]
    rfl

theorem stored_onFluidConsumeResponse_nothing (nothing : ¬ 0 < consumed) (first : Nat)
    (sink : FluidSink) :
    (system.onFluidConsumeResponse consumed first).stored sink = system.stored sink := by
  obtain ⟨machines, pending⟩ := answerTurbine_rest system consumed
  cases sink with
  | turbine entity =>
    have same : (system.onFluidConsumeResponse consumed first).stored (.turbine entity) =
        (system.answerTurbine consumed).stored (.turbine entity) := by
      simp only [stored, onFluidConsumeResponse, answerMachine_turbines]
    rw [same, stored_answerTurbine_turbine]
    split
    · simp only [filled, stored, SteamTurbineComponent.fill, nothing, if_false]
    · rfl
  | machine entity =>
    have kept : (system.onFluidConsumeResponse consumed first).machines = system.machines := by
      rw [← machines]
      unfold onFluidConsumeResponse answerMachine
      split
      · rfl
      · simp only [Int.not_lt.mp nothing, if_true]
    simp only [stored, kept]

variable {request : FluidRequest} {index : Nat}

theorem stored_answer (open' : system.inFlight[index]? = some request) (positive : 0 < consumed)
    (first : Nat) (sink : FluidSink) : (system.answer index consumed first).stored sink =
      if system.Targets first sink then system.filled consumed sink else system.stored sink := by
  have inside : index < system.inFlight.length := (List.getElem?_eq_some_iff.mp open').1
  let received := { system with inFlight := system.inFlight.eraseIdx index }
  have answered : system.answer index consumed first =
      received.onFluidConsumeResponse consumed first := if_pos inside
  have targets : received.Targets first sink ↔ system.Targets first sink := by
    cases sink <;> rfl
  have filled : received.filled consumed sink = system.filled consumed sink := by
    cases sink <;> rfl
  have stored : received.stored sink = system.stored sink := by
    cases sink <;> rfl
  rw [answered, stored_onFluidConsumeResponse received positive, filled, stored]
  simp only [targets]

theorem stored_answer_nothing (open' : system.inFlight[index]? = some request)
    (nothing : ¬ 0 < consumed) (first : Nat) (sink : FluidSink) :
    (system.answer index consumed first).stored sink = system.stored sink := by
  have inside : index < system.inFlight.length := (List.getElem?_eq_some_iff.mp open').1
  have answered : system.answer index consumed first =
      { system with inFlight := system.inFlight.eraseIdx index }.onFluidConsumeResponse
        consumed first := if_pos inside
  rw [answered, stored_onFluidConsumeResponse_nothing _ nothing]
  cases sink <;> rfl

theorem answer_creditsRequester_iff (open' : system.inFlight[index]? = some request)
    (consumed : Int) (first : Nat) :
    system.CreditsRequester (system.answer index consumed first) request consumed ↔
      system.Correlated request consumed first := by
  constructor
  · intro credits positive
    have each := fun sink =>
      (system.stored_answer open' positive first sink).symm.trans (credits sink)
    constructor
    · intro sink targeted
      by_cases own : sink = request.sink
      · exact Or.inl own
      · have filled := each sink
        rw [if_pos targeted, if_neg fun both => own both.1] at filled
        exact Or.inr ((system.filled_eq_stored_iff positive sink).mp filled)
    · by_cases targeted : system.Targets first request.sink
      · exact Or.inl targeted
      · have left := each request.sink
        rw [if_neg targeted, if_pos ⟨rfl, positive⟩] at left
        exact Or.inr ((system.filled_eq_stored_iff positive request.sink).mp left.symm)
  · intro correlated sink
    by_cases positive : 0 < consumed
    · obtain ⟨others, requester⟩ := correlated positive
      rw [system.stored_answer open' positive]
      by_cases targeted : system.Targets first sink
      · rw [if_pos targeted]
        by_cases own : sink = request.sink
        · rw [if_pos ⟨own, positive⟩]
        · rw [if_neg fun both => own both.1]
          have room := (others sink targeted).resolve_left own
          exact (system.filled_eq_stored_iff positive sink).mpr room
      · rw [if_neg targeted]
        by_cases own : sink = request.sink
        · subst own
          rw [if_pos ⟨rfl, positive⟩]
          have room := requester.resolve_left targeted
          exact ((system.filled_eq_stored_iff positive _).mpr room).symm
        · rw [if_neg fun both => own both.1]
    · rw [system.stored_answer_nothing open' positive, if_neg fun both => positive both.2]

theorem run_answersRequester_iff (start : FluidSystem) (inputs : List FluidInput) :
    machine.Along AnswersRequester start inputs ↔ machine.Along AnswerCorrelated start inputs := by
  rw [Machine.along_iff, Machine.along_iff]
  constructor
  · intro answers before input after split
    have here := answers before input after split
    cases input with
    | answer index consumed first =>
      intro request open'
      exact (answer_creditsRequester_iff _ open' consumed first).mp (here request open')
    | _ => trivial
  · intro correlated before input after split
    have here := correlated before input after split
    cases input with
    | answer index consumed first =>
      intro request open'
      exact (answer_creditsRequester_iff _ open' consumed first).mpr (here request open')
    | _ => trivial

def sharedAnswer : List FluidInput := [.spawnTurbine 1 ⟨7, 0, 1000, 50, 1, 0, 0, 0, false⟩,
    .spawnMachine 2 ⟨0, 50, by decide, by decide⟩,
    .turbineTick 1, .machineTopUp 2, .answer 1 50 2]

theorem answer_credits_two :
    (machine.final ⟨7, ∅, ∅, none, ∅, []⟩ sharedAnswer).stored (.machine 2) = some 50 ∧
      (machine.final ⟨7, ∅, ∅, none, ∅, []⟩ sharedAnswer).stored (.turbine 1) = some 50 ∧
      ¬ ∀ start inputs, machine.Along AnswersRequester start inputs := by
  refine ⟨by decide +kernel, by decide +kernel, fun always => ?_⟩
  have answers := (Machine.along_iff ..).mp (always ⟨7, ∅, ∅, none, ∅, []⟩ sharedAnswer)
    (sharedAnswer.take 4) (.answer 1 50 2) [] rfl
  have credited := answers ⟨.machine 2, 7, 50⟩ (by decide +kernel) (.turbine 1)
  revert credited
  decide +kernel

end FluidSystem

end GtnhPlatform.SimCore
