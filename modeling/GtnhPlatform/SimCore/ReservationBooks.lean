import GtnhPlatform.SimCore.CraftReservation

namespace GtnhPlatform.SimCore

open Common Crafting List

def acceptedIds (history : List CraftEvent) : List Nat := history.filterMap fun
    | .accepted _ _ requestId _ => some requestId
    | _ => none

def lastRecipe (entity : Nat) (history : List CraftEvent) : Option Recipe :=
  history.foldl (fun last event =>
    match event with
    | .begun other recipe => if other = entity then some recipe else last
    | _ => last) none

/-- What one leg of an entity was credited since its reservation began. -/
def acceptedSince (entity leg : Nat) (history : List CraftEvent) : Int :=
  history.foldl (fun total event =>
    match event with
    | .begun other _ => if other = entity then 0 else total
    | .accepted other requirementId _ amount =>
      if other = entity ∧ requirementId = leg then total + amount else total
    | _ => total) 0

namespace CraftEvent

def Neutral : CraftEvent → Prop
  | .begun _ _ => False
  | .accepted _ _ _ _ => False
  | _ => True

end CraftEvent

section Ledger

variable {entity leg : Nat} {history : List CraftEvent}

@[simp] theorem acceptedIds_append (first second : List CraftEvent) :
    acceptedIds (first ++ second) = acceptedIds first ++ acceptedIds second := by
  simp [acceptedIds]

variable {events : List CraftEvent}

theorem acceptedIds_neutral (neutral : ∀ event ∈ events, event.Neutral) :
    acceptedIds events = [] := by
  induction events with
  | nil => rfl
  | cons event rest ih =>
    have head := neutral event mem_cons_self
    have tail := ih fun other mem => neutral other (mem_cons_of_mem event mem)
    cases event with
    | accepted => exact head.elim
    | begun => exact head.elim
    | requested => exact tail
    | declared => exact tail
    | committed => exact tail
    | advanced => exact tail

theorem foldl_passes {σ : Type u} (act : σ → CraftEvent → σ) (state : σ)
    (ignored : ∀ event ∈ events, ∀ state, act state event = state) :
    events.foldl act state = state := by
  induction events with
  | nil => rfl
  | cons event rest ih =>
    rw [foldl_cons, ignored event mem_cons_self]
    exact ih fun other mem => ignored other (mem_cons_of_mem event mem)

theorem lastRecipe_neutral (entity : Nat) (history : List CraftEvent)
    (neutral : ∀ event ∈ events, event.Neutral) :
    lastRecipe entity (history ++ events) = lastRecipe entity history := by
  unfold lastRecipe
  rw [foldl_append]
  apply foldl_passes
  intro event mem last
  have apart := neutral event mem
  cases event with
  | begun => exact apart.elim
  | _ => rfl

theorem acceptedSince_neutral (entity leg : Nat) (history : List CraftEvent)
    (neutral : ∀ event ∈ events, event.Neutral) :
    acceptedSince entity leg (history ++ events) = acceptedSince entity leg history := by
  unfold acceptedSince
  rw [foldl_append]
  apply foldl_passes
  intro event mem total
  have apart := neutral event mem
  cases event with
  | begun => exact apart.elim
  | accepted => exact apart.elim
  | _ => rfl

@[simp] theorem lastRecipe_begun (other : Nat) (recipe : Recipe) :
    lastRecipe entity (history ++ [.begun other recipe]) =
      if other = entity then some recipe else lastRecipe entity history := by
  simp [lastRecipe]

@[simp] theorem acceptedSince_begun (other : Nat) (recipe : Recipe) :
    acceptedSince entity leg (history ++ [.begun other recipe]) =
      if other = entity then 0 else acceptedSince entity leg history := by
  simp [acceptedSince]

@[simp] theorem lastRecipe_accepted (other requirementId requestId : Nat) (amount : Int) :
    lastRecipe entity (history ++ [.accepted other requirementId requestId amount]) =
      lastRecipe entity history := by
  simp [lastRecipe]

@[simp] theorem acceptedSince_accepted (other requirementId requestId : Nat) (amount : Int) :
    acceptedSince entity leg (history ++ [.accepted other requirementId requestId amount]) =
      if other = entity ∧ requirementId = leg then acceptedSince entity leg history + amount
      else acceptedSince entity leg history := by
  simp [acceptedSince]

end Ledger

def Complete (entity : Nat) (history : List CraftEvent) : Prop :=
  ∃ recipe, lastRecipe entity history = some recipe ∧
    ∀ index leg, (reservationLegs recipe)[index]? = some leg →
      acceptedSince entity (index + 1) history = leg.2.2.toNat

def Justified : List CraftEvent → List CraftEvent → Prop
  | _, [] => True
  | before, event :: rest =>
    (match event with
      | .declared entity => Complete entity before
      | .committed entity => Complete entity before
      | _ => True) ∧ Justified (before ++ [event]) rest

theorem justified_append (before first second : List CraftEvent) :
    Justified before (first ++ second) ↔
      Justified before first ∧ Justified (before ++ first) second := by
  induction first generalizing before with
  | nil => simp [Justified]
  | cons event rest ih =>
    simp only [cons_append, Justified, ih, and_assoc, append_assoc, nil_append]

structure Booked (client : CraftReservationClient) (history : List CraftEvent)
    (entity index : Nat) (amount : UInt32) (reservation : RequirementReservation) : Prop where
  identity : reservation.requirementId = index + 1
  required : reservation.requiredAmount = wrapI32 amount.toNat
  accepted : reservation.acceptedAmount = acceptedSince entity (index + 1) history
  minted : reservation.requestId < client.nextRequestId
  asked : ∀ request, client.outstanding.lookup reservation.requestId = some request →
    request.entity = entity → request.requirementId = reservation.requirementId →
      request.requested = reservation.remainingAmount

structure CraftBooked (client : CraftReservationClient) (history : List CraftEvent)
    (entity : Nat) (recipe : Recipe) (craft : PendingCraft) : Prop where
  last : lastRecipe entity history = some recipe
  legs : craft.requirements.length = (reservationLegs recipe).length
  booked : ∀ index reservation leg, craft.requirements[index]? = some reservation →
    (reservationLegs recipe)[index]? = some leg →
      Booked client history entity index leg.2.2 reservation

structure ReservationInvariant (system : CraftSystem) (history : List CraftEvent) : Prop where
  fresh : ∀ id request, system.client.outstanding.lookup id = some request →
    0 < id ∧ id < system.client.nextRequestId
  counting : 0 < system.client.nextRequestId
  spent : ∀ id ∈ acceptedIds history,
    id < system.client.nextRequestId ∧ system.client.outstanding.lookup id = none
  once : (acceptedIds history).Nodup
  bounded : ∀ entity recipe, lastRecipe entity history = some recipe →
    ∀ index leg, (reservationLegs recipe)[index]? = some leg →
      0 ≤ acceptedSince entity (index + 1) history ∧
        acceptedSince entity (index + 1) history ≤ max (wrapI32 leg.2.2.toNat) 0
  booked : ∀ entity machine craft, system.registry.lookup entity = some machine →
    machine.progress.pendingCraft = some craft →
      ∃ recipe, CraftBooked system.client history entity recipe craft
  justified : Justified [] history

theorem CraftBooked.complete {craft : PendingCraft}
    (books : CraftBooked client history entity recipe craft)
    (bounded : ∀ index leg, (reservationLegs recipe)[index]? = some leg →
      acceptedSince entity (index + 1) history ≤ max (wrapI32 leg.2.2.toNat) 0)
    (accepted : craft.fullyAccepted = true) : Complete entity history := by
  refine ⟨recipe, books.last, fun index leg found => ?_⟩
  have inside : index < craft.requirements.length := by
    rw [books.legs]
    exact (List.getElem?_eq_some_iff.mp found).1
  have present : craft.requirements[index]? = some craft.requirements[index] :=
    getElem?_eq_getElem inside
  have booked := books.booked index _ leg present found
  simp only [PendingCraft.fullyAccepted, Bool.and_eq_true, all_eq_true] at accepted
  have full := accepted.2 _ (getElem_mem inside)
  simp only [RequirementReservation.fullyAccepted, decide_eq_true_eq, booked.required,
    booked.accepted] at full
  have bound := bounded index leg found
  have width := leg.2.2.toNat_lt
  rw [max_eq_left (le_of_lt full.1)] at bound
  have exact := wrapI32_of_pos (Int.natCast_nonneg _) (by exact_mod_cast width) full.1
  omega

end GtnhPlatform.SimCore
