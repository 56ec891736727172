import GtnhPlatform.SimCore.ReservationRequests

namespace GtnhPlatform.SimCore

open Common Crafting Inventory List

abbrev Sent := Nat × OutstandingRequest

inductive Traffic where
  | sent (request : Sent)
  | answered (requestId : Nat)
  | cancelled (entity : Nat)

def CraftEvent.sent : CraftEvent → Option Sent
  | .requested entity leg charge message =>
    some (message.requestId, ⟨entity, if charge then 0 else leg, message.amount⟩)
  | _ => none

def sentBy (events : List CraftEvent) : List Traffic := (events.filterMap CraftEvent.sent).map .sent

def await (awaited : List Sent) : Traffic → List Sent
  | .sent request => awaited ++ [request]
  | .answered requestId => awaited.filter fun request => request.1 != requestId
  | .cancelled entity => awaited.filter fun request => request.2.entity != entity

inductive ExchangeInput where
  | reload (recipes : Table String Recipe)
  | spawn (entity : Nat) (slots : List PersistSlot) (energy : EnergyStorage)
  | begin (entity : Nat) (recipe : Recipe) (nowTick : Nat) (publish : Nat → Bool)
  | tick (entity nowTick : Nat) (publish : Nat → Bool)
  | response (response : ResourceTransferResponse)
  | cancel (entity : Nat)
  | commit (entity first last : Nat)
  | charge (entity : Nat) (recipe : Recipe) (publish : Nat → Bool)

def CraftSystem.exchange (system : CraftSystem) : ExchangeInput → CraftSystem × List Traffic
  | .reload recipes => ({ system with recipes := recipes }, [])
  | .spawn entity slots energy =>
    ({ system with registry := system.registry.emplace entity ⟨{}, slots, energy⟩ }, [])
  | .begin entity recipe nowTick publish =>
    let result := system.beginReservation entity recipe nowTick publish
    (result.1, sentBy result.2)
  | .tick entity nowTick publish =>
    let result := system.tickPending entity nowTick publish
    -- a craft that is not pending any more was cancelled
    (result.1, if system.hasPending entity && !result.2.1 then [.cancelled entity]
      else sentBy result.2.2)
  | .response response => ((system.onConsumeResponse response).1, [.answered response.requestId])
  | .cancel entity => (system.cancel entity, [.cancelled entity])
  | .commit entity first last =>
    let result := system.commitPendingCraft entity first last
    -- gone without a commit: the recipe vanished
    (result.1, if system.hasPending entity && !result.1.hasPending entity && result.2.isEmpty then
        [.cancelled entity]
      else [])
  | .charge entity recipe publish =>
    let result := system.client.beginPerTickCharge publish entity recipe
    ({ system with client := result.1 }, sentBy result.2)

structure Exchange where
  system : CraftSystem
  awaited : List Sent

namespace Exchange

def step (state : Exchange) (input : ExchangeInput) : Exchange × List Traffic :=
  let result := state.system.exchange input
  (⟨result.1, result.2.foldl await state.awaited⟩, result.2)

def machine : Machine Exchange ExchangeInput Traffic := ⟨step⟩

def initial : Exchange := ⟨CraftSystem.initial, []⟩

end Exchange

theorem foldl_await_sent (awaited requests : List Sent) :
    (requests.map Traffic.sent).foldl await awaited = awaited ++ requests := by
  induction requests generalizing awaited with
  | nil => exact (append_nil awaited).symm
  | cons request rest ih =>
    rw [map_cons, foldl_cons, ih, await, append_assoc, singleton_append]

structure Sends (client next : CraftReservationClient) (requests : List Sent) : Prop where
  count : client.nextRequestId ≤ next.nextRequestId
  minted : ∀ request ∈ requests, client.nextRequestId ≤ request.1 ∧ request.1 < next.nextRequestId
  once : (requests.map Prod.fst).Nodup
  found : ∀ id request, next.outstanding.lookup id = some request ↔
    (id, request) ∈ requests ∨ client.outstanding.lookup id = some request

namespace Sends

variable {client middle next : CraftReservationClient} {first second : List Sent}

theorem refl (client : CraftReservationClient) : Sends client client [] where
  count := Nat.le_refl _
  minted := nofun
  once := nodup_nil
  found := fun id request => by simp

theorem trans (former : Sends client middle first) (latter : Sends middle next second) :
    Sends client next (first ++ second) where
  count := Nat.le_trans former.count latter.count
  minted := fun request mem => by
    rcases mem_append.mp mem with mem | mem
    · exact (former.minted request mem).imp_right fun below =>
        Nat.lt_of_lt_of_le below latter.count
    · exact (latter.minted request mem).imp_left (Nat.le_trans former.count)
  once := by
    rw [map_append, nodup_append]
    refine ⟨former.once, latter.once, ?_⟩
    rintro id early _ late rfl
    obtain ⟨old, oldMember, rfl⟩ := mem_map.mp early
    obtain ⟨new, newMember, same⟩ := mem_map.mp late
    have below := (former.minted old oldMember).2
    have above := (latter.minted new newMember).1
    omega
  found := fun id request => by
    rw [latter.found, former.found, mem_append]
    constructor
    · rintro (late | early | old)
      · exact .inl (.inr late)
      · exact .inl (.inl early)
      · exact .inr old
    · rintro ((early | late) | old)
      · exact .inr (.inl early)
      · exact .inl late
      · exact .inr (.inr old)

theorem fresh (sends : Sends client next first) (fresh : client.Fresh) : next.Fresh := by
  intro id request found
  rcases (sends.found id request).mp found with sent | old
  · exact (sends.minted _ sent).2
  · exact Nat.lt_of_lt_of_le (fresh id request old) sends.count

theorem emplace (fresh : client.Fresh) (request : OutstandingRequest) :
    Sends client (client.emplace request) [(client.nextRequestId, request)] where
  count := Nat.le_succ _
  minted := fun sent mem => by
    rw [mem_singleton.mp mem]
    exact ⟨Nat.le_refl _, Nat.lt_succ_self _⟩
  once := nodup_singleton _
  found := fun id other => by
    rw [CraftReservationClient.lookup_emplace fresh, mem_singleton, Prod.mk.injEq]
    split
    · next same =>
      have absent : ∀ old, client.outstanding.lookup id ≠ some old := fun old found =>
        absurd (fresh id old found) (same ▸ Nat.lt_irrefl _)
      simp [same, absent, eq_comm]
    · next distinct => simp [distinct]

theorem skip (client : CraftReservationClient) : Sends client client.skip [] where
  count := Nat.le_succ _
  minted := nofun
  once := nodup_nil
  found := (refl client).found

end Sends

def Turned (entity : Nat) (requests : List Sent) (old new : RequirementReservation) : Prop :=
  if old.remainingAmount ≤ 0 then new = old
  else new = { old with requestId := new.requestId } ∧
    (new.requestId = 0 ∨
      (new.requestId, ⟨entity, old.requirementId, old.remainingAmount⟩) ∈ requests)

theorem Turned.mono {entity : Nat} {requests all : List Sent} {old new : RequirementReservation}
    (turned : Turned entity requests old new) (inside : ∀ request ∈ requests, request ∈ all) :
    Turned entity all old new := by
  unfold Turned at turned ⊢
  split
  · next settled => rwa [if_pos settled] at turned
  · next missing =>
    rw [if_neg missing] at turned
    exact turned.imp_right (Or.imp_right (inside _))

def Carried (entity : Nat) (legs : List RequirementReservation) (request : Sent) : Prop :=
  request.2.entity = entity ∧ ∃ leg ∈ legs, leg.requestId = request.1 ∧
    leg.requirementId = request.2.requirementId ∧ 0 < leg.remainingAmount

def Apart (legs : List RequirementReservation) : Prop :=
  legs.Pairwise fun leg other => leg.requestId ≠ 0 → leg.requestId ≠ other.requestId

structure RequestsLegs (client next : CraftReservationClient) (entity : Nat)
    (old new : List RequirementReservation) (requests : List Sent) : Prop where
  sends : Sends client next requests
  charges : next.chargeByEntity = client.chargeByEntity
  turned : List.Forall₂ (Turned entity requests) old new
  carried : ∀ request ∈ requests, Carried entity new request
  apart : (∀ leg ∈ old, leg.requestId < client.nextRequestId) → Apart old → Apart new

section Legs

variable {client next : CraftReservationClient} {entity : Nat}
  {old new : List RequirementReservation} {requests : List Sent}

theorem Turned.same {was leg : RequirementReservation} (turned : Turned entity requests was leg) :
    leg = { was with requestId := leg.requestId } := by
  unfold Turned at turned
  split at turned
  · rw [turned]
  · exact turned.1

variable {leg : RequirementReservation}

variable (legs : RequestsLegs client next entity old new requests)

include legs

theorem RequestsLegs.turned_mem (mem : leg ∈ new) :
    ∃ was ∈ old, Turned entity requests was leg := by
  obtain ⟨index, inside, rfl⟩ := mem_iff_getElem.mp mem
  obtain ⟨length, pointwise⟩ := forall₂_iff_get.mp legs.turned
  exact ⟨_, getElem_mem (length ▸ inside), pointwise index (length ▸ inside) inside⟩

theorem RequestsLegs.ids (mem : leg ∈ new) : leg ∈ old ∨ leg.requestId = 0 ∨
      (client.nextRequestId ≤ leg.requestId ∧ leg.requestId < next.nextRequestId) := by
  obtain ⟨was, inside, turned⟩ := legs.turned_mem mem
  unfold Turned at turned
  split at turned
  · exact .inl (turned ▸ inside)
  · exact .inr (turned.2.imp_right fun sent => legs.sends.minted _ sent)

theorem RequestsLegs.request (minted : ∀ leg ∈ old, leg.requestId < client.nextRequestId)
    (counting : 0 < client.nextRequestId) (mem : leg ∈ new) {request : OutstandingRequest}
    (sent : (leg.requestId, request) ∈ requests) :
    request.entity = entity ∧ request.requirementId = leg.requirementId := by
  have fresh := (legs.sends.minted _ sent).1
  obtain ⟨was, inside, turned⟩ := legs.turned_mem mem
  have same := turned.same
  unfold Turned at turned
  split at turned
  · have below := minted was inside
    rw [turned] at fresh
    exact absurd below (Nat.not_lt.mpr fresh)
  rcases turned.2 with none | own
  · simp only [none] at fresh
    omega
  · have unique := inj_on_of_nodup_map legs.sends.once sent own rfl
    obtain rfl := (Prod.mk.inj unique).2
    exact ⟨rfl, by rw [same]⟩

omit legs

end Legs

namespace CraftReservationClient

variable {client : CraftReservationClient}

theorem request_requests (fresh : client.Fresh) (publish : Nat → Bool) (entity : Nat)
    (reservation : RequirementReservation) :
    RequestsLegs client (client.request publish entity reservation).1 entity [reservation]
      [(client.request publish entity reservation).2.1]
      ((client.request publish entity reservation).2.2.filterMap CraftEvent.sent) := by
  unfold request
  simp only
  split
  · next settled =>
    refine ⟨Sends.refl client, rfl, .cons ?_ .nil, nofun, fun _ _ => pairwise_singleton _ _⟩
    exact (if_pos settled).mpr rfl
  rename_i missing
  split
  · refine ⟨Sends.emplace fresh _, rfl, .cons ?_ .nil, ?_, fun _ _ => pairwise_singleton _ _⟩
    · exact (if_neg missing).mpr ⟨rfl, .inr (mem_singleton_self _)⟩
    · intro request mem
      rw [mem_singleton.mp mem]
      exact ⟨rfl, _, mem_singleton_self _, rfl, rfl, Int.not_le.mp missing⟩
  · refine ⟨Sends.skip client, rfl, .cons ?_ .nil, nofun, fun _ _ => pairwise_singleton _ _⟩
    exact (if_neg missing).mpr ⟨rfl, .inl rfl⟩

theorem requestAll_requests (fresh : client.Fresh) (publish : Nat → Bool) (entity : Nat)
    (reservations : List RequirementReservation) :
    RequestsLegs client (client.requestAll publish entity reservations).1 entity reservations
      (client.requestAll publish entity reservations).2.1
      ((client.requestAll publish entity reservations).2.2.filterMap CraftEvent.sent) := by
  induction reservations generalizing client with
  | nil => exact ⟨Sends.refl client, rfl, .nil, nofun, fun _ apart => apart⟩
  | cons reservation rest ih =>
    have head := request_requests fresh publish entity reservation
    have tail := ih (head.sends.fresh fresh)
    simp only [requestAll, filterMap_append]
    refine ⟨head.sends.trans tail.sends, tail.charges.trans head.charges, .cons ?_ ?_, ?_, ?_⟩
    · cases head.turned with
      | cons turned _ =>
        exact turned.mono fun _ => mem_append_left _
    · exact tail.turned.imp fun _ _ turned => turned.mono fun _ => mem_append_right _
    · intro request mem
      rcases mem_append.mp mem with mem | mem
      · obtain ⟨own, leg, inside, carries⟩ := head.carried request mem
        exact ⟨own, leg, mem_singleton.mp inside ▸ mem_cons_self, carries⟩
      · obtain ⟨own, leg, inside, carries⟩ := tail.carried request mem
        exact ⟨own, leg, mem_cons_of_mem _ inside, carries⟩
    · intro minted apart
      rw [forall_mem_cons] at minted
      obtain ⟨unlike, apart⟩ := pairwise_cons.mp apart
      refine pairwise_cons.mpr ⟨?_, tail.apart (fun leg mem =>
        Nat.lt_of_lt_of_le (minted.2 leg mem) head.sends.count) apart⟩
      intro other mem some
      have first := head.ids (mem_singleton_self _)
      have later := tail.ids mem
      rw [mem_singleton] at first
      rcases later with kept | none | fresh
      · have below := minted.2 other kept
        rcases first with same | none | fresh
        · rw [same] at some ⊢
          exact unlike other kept some
        · exact absurd none some
        · omega
      · rwa [none]
      · rcases first with same | none | minted
        · rw [same]
          have grown := head.sends.count
          omega
        · exact absurd none some
        · omega

def entryOf (charges : Nat) : Option Nat := if charges = 0 then none else some charges

theorem getD_entryOf (charges : Nat) : (entryOf charges).getD 0 = charges := by
  unfold entryOf
  split
  · next none => rw [none, Option.getD_none]
  · rfl

theorem lookup_countCharge (held : client.chargeByEntity.lookup entity = entryOf charges)
    (other : Nat) : (client.countCharge entity).chargeByEntity.lookup other =
      if other = entity then entryOf (charges + 1) else client.chargeByEntity.lookup other := by
  rw [countCharge, Table.lookup_insert_eq, held, getD_entryOf]
  rfl

structure RequestsCharges (client next : CraftReservationClient) (entity : Nat)
    (requests : List Sent) : Prop where
  sends : Sends client next requests
  charges : ∀ request ∈ requests, request.2.entity = entity ∧ request.2.requirementId = 0
  others : ∀ other, other ≠ entity →
    next.chargeByEntity.lookup other = client.chargeByEntity.lookup other
  counted : ∀ charges, client.chargeByEntity.lookup entity = entryOf charges →
    next.chargeByEntity.lookup entity = entryOf (charges + requests.length)

theorem chargeAll_requests (fresh : client.Fresh) (publish : Nat → Bool) (entity leg : Nat)
    (requirements : List ResourceRequirement) :
    RequestsCharges client (client.chargeAll publish entity leg requirements).1 entity
      ((client.chargeAll publish entity leg requirements).2.filterMap CraftEvent.sent) := by
  induction requirements generalizing client leg with
  | nil => exact ⟨Sends.refl client, nofun, fun _ _ => rfl, fun _ held => held⟩
  | cons requirement rest ih =>
    unfold chargeAll
    simp only
    generalize wrapI32 requirement.amount.toNat = amount
    split
    · exact ih fresh _
    split
    · have first := Sends.emplace fresh ⟨entity, 0, amount⟩
      have counts : Sends client ((client.emplace ⟨entity, 0, amount⟩).countCharge entity)
          [(client.nextRequestId, ⟨entity, 0, amount⟩)] :=
        ⟨first.count, first.minted, first.once, first.found⟩
      have tail := ih (counts.fresh fresh) (leg + 1)
      refine ⟨counts.trans tail.sends, ?_, ?_, ?_⟩
      · intro request mem
        rcases mem_cons.mp mem with rfl | mem
        · exact ⟨rfl, rfl⟩
        · exact tail.charges request mem
      · intro other distinct
        rw [tail.others other distinct]
        exact Table.lookup_insert_of_ne _ _ distinct
      · intro charges held
        have next := tail.counted (charges + 1)
          ((@lookup_countCharge (client.emplace ⟨entity, 0, amount⟩) _ _ held entity).trans
            (if_pos rfl))
        rw [next]
        simp only [filterMap_cons, CraftEvent.sent, length_cons]
        congr 1
        omega
    · have tail := ih ((Sends.skip client).fresh fresh) (leg + 1)
      exact ⟨(Sends.skip client).trans tail.sends, tail.charges, tail.others, tail.counted⟩

theorem lookup_settleCharge (held : client.chargeByEntity.lookup entity = entryOf charges)
    (other : Nat) : (client.settleCharge entity).chargeByEntity.lookup other =
      if other = entity then entryOf (charges - 1) else client.chargeByEntity.lookup other := by
  rw [settleCharge, held, getD_entryOf]
  split
  · next several =>
    have left : entryOf (charges - 1) = some (charges - 1) := if_neg (by omega)
    rw [Table.lookup_insert_eq, left]
  · next one =>
    have left : entryOf (charges - 1) = none := if_pos (by omega)
    rw [Table.lookup_erase_eq, left]

end CraftReservationClient

end GtnhPlatform.SimCore
