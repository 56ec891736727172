import GtnhPlatform.SimCore.ReservationBooks

namespace GtnhPlatform.SimCore

open Common Crafting Inventory

def CraftReservationClient.Fresh (client : CraftReservationClient) : Prop :=
  ∀ id request, client.outstanding.lookup id = some request → id < client.nextRequestId

structure CraftReservationClient.Extends (client next : CraftReservationClient) : Prop where
  count : client.nextRequestId ≤ next.nextRequestId
  old : ∀ id request, id < client.nextRequestId → next.outstanding.lookup id = some request →
    client.outstanding.lookup id = some request
  new : ∀ id request, client.nextRequestId ≤ id → next.outstanding.lookup id = some request →
    id < next.nextRequestId

namespace CraftReservationClient

variable {client : CraftReservationClient}

namespace Extends

theorem refl (fresh : client.Fresh) : client.Extends client :=
  ⟨Nat.le_refl _, fun _ _ _ found => found, fun id request _ found => fresh id request found⟩

theorem trans {second third : CraftReservationClient} (former : client.Extends second)
    (latter : second.Extends third) : client.Extends third where
  count := Nat.le_trans former.count latter.count
  old := fun id request minted found =>
    former.old id request minted
      (latter.old id request (Nat.lt_of_lt_of_le minted former.count) found)
  new := fun id request fresh found => by
    rcases Nat.lt_or_ge id second.nextRequestId with minted | unminted
    · exact Nat.lt_of_lt_of_le minted latter.count
    · exact latter.new id request unminted found

theorem of_subset {next : CraftReservationClient} (fresh : client.Fresh)
    (count : next.nextRequestId = client.nextRequestId)
    (subset : ∀ id request, next.outstanding.lookup id = some request →
      client.outstanding.lookup id = some request) : client.Extends next where
  count := Nat.le_of_eq count.symm
  old := fun id request _ found => subset id request found
  new := fun id request _ found => count ▸ fresh id request (subset id request found)

end Extends

variable {next : CraftReservationClient}

theorem Extends.countCharge (grows : client.Extends next) (entity : Nat) :
    client.Extends (next.countCharge entity) :=
  ⟨grows.count, grows.old, grows.new⟩

theorem skip_extends (fresh : client.Fresh) : client.Extends client.skip where
  count := Nat.le_succ _
  old := fun _ _ _ found => found
  new := fun id request _ found => Nat.lt_succ_of_lt (fresh id request found)

theorem lookup_emplace (fresh : client.Fresh) (request : OutstandingRequest) (id : Nat) :
    (client.emplace request).outstanding.lookup id =
      if id = client.nextRequestId then some request else client.outstanding.lookup id := by
  have absent : client.outstanding.lookup client.nextRequestId = none := by
    cases found : client.outstanding.lookup client.nextRequestId with
    | none => rfl
    | some other => exact absurd (fresh _ other found) (Nat.lt_irrefl _)
  exact Table.lookup_emplace_of_none request absent id

theorem emplace_extends (fresh : client.Fresh) (request : OutstandingRequest) :
    client.Extends (client.emplace request) where
  count := Nat.le_succ _
  old := fun id other minted found => by
    rw [lookup_emplace fresh, if_neg (Nat.ne_of_lt minted)] at found
    exact found
  new := fun id other _ found => by
    rw [lookup_emplace fresh] at found
    split at found
    · next same => exact same ▸ Nat.lt_succ_self _
    · exact Nat.lt_succ_of_lt (fresh id other found)

theorem Extends.fresh (grows : client.Extends next) (fresh : client.Fresh) : next.Fresh := by
  intro id request found
  rcases Nat.lt_or_ge id client.nextRequestId with minted | unminted
  · exact Nat.lt_of_lt_of_le (fresh id request (grows.old id request minted found)) grows.count
  · exact grows.new id request unminted found

theorem drop_subset (entity : Nat) (id : Nat) (request : OutstandingRequest)
    (found : (client.drop entity).outstanding.lookup id = some request) :
    client.outstanding.lookup id = some request := by
  simp only [drop, Table.lookup_filter, Option.filter_eq_some_iff] at found
  exact found.1

structure Rerequested (client next : CraftReservationClient) (entity : Nat)
    (reservation result : RequirementReservation) : Prop where
  same : result = { reservation with requestId := result.requestId }
  id : result = reservation ∨ result.requestId = 0 ∨
    (client.nextRequestId ≤ result.requestId ∧ result.requestId < next.nextRequestId ∧
      next.outstanding.lookup result.requestId =
        some ⟨entity, result.requirementId, result.remainingAmount⟩)

theorem request_extends (fresh : client.Fresh) (publish : Nat → Bool) (entity : Nat)
    (reservation : RequirementReservation) :
    client.Extends (client.request publish entity reservation).1 ∧
      Rerequested client (client.request publish entity reservation).1 entity reservation
        (client.request publish entity reservation).2.1 := by
  unfold request
  simp only
  split
  · exact ⟨Extends.refl fresh, rfl, Or.inl rfl⟩
  split
  · refine ⟨emplace_extends fresh _, rfl, Or.inr (Or.inr ⟨Nat.le_refl _, Nat.lt_succ_self _, ?_⟩)⟩
    rw [lookup_emplace fresh, if_pos rfl]
    rfl
  · exact ⟨skip_extends fresh, rfl, Or.inr (Or.inl rfl)⟩

theorem Rerequested.later {next last : CraftReservationClient}
    (former : Rerequested client next entity reservation result) (latter : next.Extends last)
    (kept : ∀ id request, id < next.nextRequestId →
      next.outstanding.lookup id = some request → last.outstanding.lookup id = some request) :
    Rerequested client last entity reservation result where
  same := former.same
  id := by
    rcases former.id with same | none | ⟨minted, below, found⟩
    · exact Or.inl same
    · exact Or.inr (Or.inl none)
    · exact Or.inr (Or.inr ⟨minted, Nat.lt_of_lt_of_le below latter.count, kept _ _ below found⟩)

theorem request_keeps (fresh : client.Fresh) (publish : Nat → Bool) (entity : Nat)
    (reservation : RequirementReservation) (id : Nat) (other : OutstandingRequest)
    (found : client.outstanding.lookup id = some other) :
    (client.request publish entity reservation).1.outstanding.lookup id = some other := by
  unfold request
  simp only
  split
  · exact found
  split
  · rw [lookup_emplace fresh, if_neg (Nat.ne_of_lt (fresh id other found))]
    exact found
  · exact found

variable {client : CraftReservationClient}

theorem requestAll_keeps (fresh : client.Fresh)
    (publish : Nat → Bool) (entity : Nat) (reservations : List RequirementReservation) (id : Nat)
    (other : OutstandingRequest) (found : client.outstanding.lookup id = some other) :
    (client.requestAll publish entity reservations).1.outstanding.lookup id = some other := by
  induction reservations generalizing client with
  | nil => exact found
  | cons reservation rest ih =>
    have grows := (request_extends fresh publish entity reservation).1
    exact ih (grows.fresh fresh)
      (request_keeps fresh publish entity reservation id other found)

theorem requestAll_extends (fresh : client.Fresh)
    (publish : Nat → Bool) (entity : Nat) (reservations : List RequirementReservation) :
    client.Extends (client.requestAll publish entity reservations).1 ∧
      List.Forall₂ (Rerequested client (client.requestAll publish entity reservations).1 entity)
        reservations (client.requestAll publish entity reservations).2.1 := by
  induction reservations generalizing client with
  | nil => exact ⟨Extends.refl fresh, List.Forall₂.nil⟩
  | cons reservation rest ih =>
    obtain ⟨grows, head⟩ := request_extends fresh publish entity reservation
    have nextFresh := grows.fresh fresh
    obtain ⟨restGrows, tail⟩ := ih nextFresh
    refine ⟨grows.trans restGrows, List.Forall₂.cons ?_ (tail.imp ?_)⟩
    · exact head.later restGrows fun id request _ found =>
        requestAll_keeps nextFresh publish entity rest id request found
    intro old result turn
    refine ⟨turn.same, ?_⟩
    rcases turn.id with same | none | ⟨minted, below, found⟩
    · exact Or.inl same
    · exact Or.inr (Or.inl none)
    · exact Or.inr (Or.inr ⟨Nat.le_trans grows.count minted, below, found⟩)

theorem requestAll_neutral (publish : Nat → Bool) (entity : Nat) (client : CraftReservationClient)
    (reservations : List RequirementReservation) :
    ∀ event ∈ (client.requestAll publish entity reservations).2.2,
      ∃ leg charge message, event = .requested entity leg charge message := by
  induction reservations generalizing client with
  | nil => simp [requestAll]
  | cons reservation rest ih =>
    intro event mem
    simp only [requestAll, List.mem_append] at mem
    rcases mem with head | tail
    · unfold request at head
      simp only at head
      split at head
      · simp at head
      · split at head
        · exact ⟨_, _, _, List.mem_singleton.mp head⟩
        · simp at head
    · exact ih _ event tail

theorem chargeAll_extends {client : CraftReservationClient} (fresh : client.Fresh)
    (publish : Nat → Bool) (entity leg : Nat) (requirements : List ResourceRequirement) :
    client.Extends (client.chargeAll publish entity leg requirements).1 := by
  induction requirements generalizing client leg with
  | nil => exact Extends.refl fresh
  | cons requirement rest ih =>
    unfold chargeAll
    simp only
    split
    · exact ih fresh _
    split
    · have grows := (emplace_extends fresh
        ⟨entity, 0, wrapI32 requirement.amount.toNat⟩).countCharge entity
      exact grows.trans (ih (grows.fresh fresh) _)
    · have grows := skip_extends fresh
      exact grows.trans (ih (grows.fresh fresh) _)

theorem chargeAll_neutral (publish : Nat → Bool) (entity leg : Nat)
    (client : CraftReservationClient) (requirements : List ResourceRequirement) :
    ∀ event ∈ (client.chargeAll publish entity leg requirements).2,
      ∃ leg charge message, event = .requested entity leg charge message := by
  induction requirements generalizing client leg with
  | nil => simp [chargeAll]
  | cons requirement rest ih =>
    intro event mem
    unfold chargeAll at mem
    simp only at mem
    split at mem
    · exact ih _ _ event mem
    split at mem
    · rcases List.mem_cons.mp mem with head | tail
      · exact ⟨_, _, _, head⟩
      · exact ih _ _ event tail
    · exact ih _ _ event mem

end CraftReservationClient

end GtnhPlatform.SimCore
