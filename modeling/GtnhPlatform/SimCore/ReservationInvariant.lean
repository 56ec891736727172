import GtnhPlatform.SimCore.ReservationRequests

namespace GtnhPlatform.SimCore

open Common Crafting Inventory List

section Booked

variable {client next : CraftReservationClient} {history : List CraftEvent}
variable {entity index : Nat} {amount : UInt32} {reservation : RequirementReservation}
variable {recipe : Recipe} {craft : PendingCraft}

theorem Booked.extends (booked : Booked client history entity index amount reservation)
    (grows : client.Extends next) : Booked next history entity index amount reservation :=
  { booked with
    minted := Nat.lt_of_lt_of_le booked.minted grows.count
    asked := fun request found =>
      booked.asked request (grows.old _ request booked.minted found) }

variable {later : List CraftEvent}

variable (booked : Booked client history entity index amount reservation)

include booked

theorem Booked.ledger (same : acceptedSince entity (index + 1) later = acceptedSince entity (index + 1) history) :
    Booked client later entity index amount reservation :=
  { booked with accepted := booked.accepted.trans same.symm }

theorem Booked.rerequested (turn : CraftReservationClient.Rerequested client next entity reservation result)
    (grows : client.Extends next) (counting : 0 < client.nextRequestId)
    (unused : client.outstanding.lookup 0 = none) :
    Booked next history entity index amount result := by
  have identity : result.requirementId = reservation.requirementId := by rw [turn.same]
  have required : result.requiredAmount = reservation.requiredAmount := by rw [turn.same]
  have accepted : result.acceptedAmount = reservation.acceptedAmount := by rw [turn.same]
  refine ⟨identity.trans booked.identity, required.trans booked.required,
    accepted.trans booked.accepted, ?_, ?_⟩
  · rcases turn.id with same | none | ⟨_, below, _⟩
    · rw [same]
      exact Nat.lt_of_lt_of_le booked.minted grows.count
    · rw [none]
      exact Nat.lt_of_lt_of_le counting grows.count
    · exact below
  · intro request found own leg
    rcases turn.id with same | none | ⟨_, _, current⟩
    · rw [same] at found leg ⊢
      exact booked.asked request (grows.old _ request booked.minted found) own leg
    · rw [none] at found
      rw [grows.old 0 request counting found] at unused
      exact absurd unused (by simp)
    · rw [current] at found
      cases found
      rfl

omit booked

variable (books : CraftBooked client history entity recipe craft)

include books

theorem CraftBooked.extends (grows : client.Extends next) : CraftBooked next history entity recipe craft :=
  { books with
    booked := fun index reservation leg present found =>
      (books.booked index reservation leg present found).extends grows }

theorem CraftBooked.ledger (last : lastRecipe entity later = lastRecipe entity history)
    (same : ∀ index, acceptedSince entity (index + 1) later =
      acceptedSince entity (index + 1) history) : CraftBooked client later entity recipe craft :=
  { books with
    last := last.trans books.last
    booked := fun index reservation leg present found =>
      (books.booked index reservation leg present found).ledger (same index) }

theorem CraftBooked.neutral (neutral : ∀ event ∈ events, event.Neutral) :
    CraftBooked client (history ++ events) entity recipe craft :=
  books.ledger (lastRecipe_neutral entity history neutral)
    fun index => acceptedSince_neutral entity (index + 1) history neutral

omit books

theorem CraftBooked.requestAll {result : PendingCraft} {requirements : List RequirementReservation}
    (last : lastRecipe entity history = some recipe)
    (legs : requirements.length = (reservationLegs recipe).length)
    (booked : ∀ index reservation leg, requirements[index]? = some reservation →
      (reservationLegs recipe)[index]? = some leg →
        Booked client history entity index leg.2.2 reservation)
    (turns : List.Forall₂ (CraftReservationClient.Rerequested client next entity) requirements
      result.requirements) (grows : client.Extends next) (counting : 0 < client.nextRequestId)
    (unused : client.outstanding.lookup 0 = none) :
    CraftBooked next history entity recipe result := by
  refine ⟨last, turns.length_eq.symm.trans legs, fun index reservation leg present found => ?_⟩
  obtain ⟨length, pointwise⟩ := forall₂_iff_get.mp turns
  obtain ⟨inside, rfl⟩ := List.getElem?_eq_some_iff.mp present
  have insideOld : index < requirements.length := length ▸ inside
  exact (booked index _ leg (getElem?_eq_getElem insideOld) found).rerequested
    (pointwise index insideOld inside) grows counting unused

end Booked

namespace ReservationInvariant

variable {system next : CraftSystem} {history : List CraftEvent}

variable (invariant : ReservationInvariant system history)

include invariant

theorem clientFresh : system.client.Fresh :=
  fun id request found => (invariant.fresh id request found).2

theorem unused : system.client.outstanding.lookup 0 = none := by
  cases found : system.client.outstanding.lookup 0 with
  | none => rfl
  | some request => exact absurd (invariant.fresh 0 request found).1 (Nat.lt_irrefl 0)

theorem keeps (events : List CraftEvent) (grows : system.client.Extends next.client)
    (neutral : ∀ event ∈ events, event.Neutral) (justified : Justified history events)
    (crafts : ∀ entity machine craft, next.registry.lookup entity = some machine →
      machine.progress.pendingCraft = some craft →
        (∃ old, system.registry.lookup entity = some old ∧ old.progress.pendingCraft = some craft) ∨
        ∃ recipe, CraftBooked next.client history entity recipe craft) :
    ReservationInvariant next (history ++ events) where
  fresh := fun id request found => by
    have minted := grows.fresh invariant.clientFresh id request found
    refine ⟨?_, minted⟩
    rcases Nat.eq_zero_or_pos id with rfl | positive
    · have old := grows.old 0 request invariant.counting found
      rw [invariant.unused] at old
      exact absurd old (by simp)
    · exact positive
  counting := Nat.lt_of_lt_of_le invariant.counting grows.count
  spent := fun id mem => by
    rw [acceptedIds_append, acceptedIds_neutral neutral, append_nil] at mem
    obtain ⟨minted, gone⟩ := invariant.spent id mem
    refine ⟨Nat.lt_of_lt_of_le minted grows.count, ?_⟩
    cases found : next.client.outstanding.lookup id with
    | none => rfl
    | some request =>
      rw [grows.old id request minted found] at gone
      exact absurd gone (by simp)
  once := by
    rw [acceptedIds_append, acceptedIds_neutral neutral, append_nil]
    exact invariant.once
  bounded := fun entity recipe last index leg found => by
    rw [lastRecipe_neutral entity history neutral] at last
    rw [acceptedSince_neutral entity (index + 1) history neutral]
    exact invariant.bounded entity recipe last index leg found
  booked := fun entity machine craft found pending => by
    rcases crafts entity machine craft found pending with ⟨old, oldFound, oldPending⟩ | fresh
    · obtain ⟨recipe, books⟩ := invariant.booked entity old craft oldFound oldPending
      exact ⟨recipe, (books.extends grows).neutral neutral⟩
    · obtain ⟨recipe, books⟩ := fresh
      exact ⟨recipe, books.neutral neutral⟩
  justified := (justified_append [] history events).mpr ⟨invariant.justified, justified⟩

theorem begun (idle : ∀ machine, system.registry.lookup entity = some machine →
      machine.progress.pendingCraft = none) (recipe : Recipe) :
    ReservationInvariant system (history ++ [.begun entity recipe]) where
  __ := invariant
  spent := fun id mem => by
    rw [acceptedIds_append] at mem
    exact invariant.spent id (by simpa [acceptedIds] using mem)
  once := by
    have same : acceptedIds (history ++ [.begun entity recipe]) = acceptedIds history := by
      rw [acceptedIds_append]
      exact append_nil _
    rw [same]
    exact invariant.once
  bounded := fun other last lastEq index leg found => by
    rw [lastRecipe_begun] at lastEq
    rw [acceptedSince_begun]
    split at lastEq
    · next same =>
      rw [if_pos same]
      exact ⟨Int.le_refl 0, Int.le_max_right _ _⟩
    · next distinct =>
      rw [if_neg distinct]
      exact invariant.bounded other last lastEq index leg found
  booked := fun other machine craft found pending => by
    obtain ⟨last, books⟩ := invariant.booked other machine craft found pending
    have distinct : entity ≠ other := by
      rintro rfl
      rw [idle machine found] at pending
      exact absurd pending (by simp)
    refine ⟨last, books.ledger ?_ fun index => ?_⟩
    · rw [lastRecipe_begun, if_neg distinct]
    · rw [acceptedSince_begun, if_neg distinct]
  justified := (justified_append [] history _).mpr
    ⟨invariant.justified, trivial, trivial⟩

theorem quiet (grows : system.client.Extends next.client)
    (crafts : ∀ entity machine craft, next.registry.lookup entity = some machine →
      machine.progress.pendingCraft = some craft → ∃ old, system.registry.lookup entity = some old ∧
          old.progress.pendingCraft = some craft) : ReservationInvariant next history := by
  have kept := invariant.keeps [] grows (fun _ none => absurd none (by simp)) trivial
    fun entity machine craft found pending => Or.inl (crafts entity machine craft found pending)
  rwa [append_nil] at kept

omit invariant

end ReservationInvariant

end GtnhPlatform.SimCore
