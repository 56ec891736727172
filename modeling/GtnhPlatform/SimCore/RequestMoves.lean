import GtnhPlatform.SimCore.OrchestratedStart
import GtnhPlatform.SimCore.RequestTraffic

namespace GtnhPlatform.SimCore

open Common Crafting Inventory PendingCraft List Option CraftReservationClient

def LiveLeg (system : CraftSystem) (entity : Nat) (leg : RequirementReservation) : Prop :=
  ∃ craft, system.pendingOf entity = some craft ∧ leg ∈ craft.requirements

def PendingCraft.retries (craft : PendingCraft) (nowTick : Nat) : Bool :=
  !craft.fullyAccepted && !(craft.expired nowTick || decide (kMaxRetries ≤ craft.retryCount)) &&
    craft.retryDue nowTick

def Supersedes (system : CraftSystem) : ExchangeInput → Prop
  | .tick entity nowTick _ =>
    ∃ craft, system.pendingOf entity = some craft ∧ craft.retries nowTick = true ∧
      ∃ leg ∈ craft.requirements, 0 < leg.remainingAmount ∧
        (system.client.outstanding.lookup leg.requestId).isSome
  | _ => False

def granted (response : ResourceTransferResponse) (request : OutstandingRequest) : Int :=
  if 0 < response.acceptedAmount then min response.acceptedAmount request.requested else 0

def Shortchanges (system : CraftSystem) : ExchangeInput → Prop
  | .response response =>
    ∃ request entity leg, system.client.outstanding.lookup response.requestId = some request ∧
      LiveLeg system entity leg ∧ leg.requestId = response.requestId ∧
      leg.fullyAccepted = false ∧ granted response request < leg.remainingAmount
  | _ => False

structure Recorded (system next : CraftSystem) (requestId : Nat) : Prop where
  old : ∀ entity leg, LiveLeg next entity leg → LiveLeg system entity leg ∨
    ∃ was amount, LiveLeg system entity was ∧ was.requestId = requestId ∧
      leg = was.recordAccepted amount
  kept : ∀ entity leg, LiveLeg system entity leg → leg.requestId ≠ requestId →
    LiveLeg next entity leg
  apart : (∀ entity craft, system.pendingOf entity = some craft → Apart craft.requirements) →
    ∀ entity craft, next.pendingOf entity = some craft → Apart craft.requirements

inductive ExchangeMove (system : CraftSystem) (input : ExchangeInput) :
    CraftSystem → List Traffic → Prop
  | quiet {next : CraftSystem}
      (client : next.client = system.client)
      (crafts : ∀ entity, next.pendingOf entity = system.pendingOf entity)
      (still : ¬ Supersedes system input) :
      ExchangeMove system input next []
  | requested {next : CraftSystem} {entity : Nat} (old : List RequirementReservation)
      {craft : PendingCraft} {requests : List Sent}
      (legs : RequestsLegs system.client next.client entity old craft.requirements requests)
      (source : (∃ was, system.pendingOf entity = some was ∧ old = was.requirements) ∨
        system.pendingOf entity = none ∧
          ∀ leg ∈ old, leg.requirementId ≠ 0 ∧ leg.requestId = 0 ∧ leg.acceptedAmount = 0)
      (crafts : ∀ other, next.pendingOf other =
        if other = entity then some craft else system.pendingOf other)
      (supersedes : Supersedes system input ↔ ∃ leg, LiveLeg system entity leg ∧
        0 < leg.remainingAmount ∧ (system.client.outstanding.lookup leg.requestId).isSome) :
      ExchangeMove system input next (requests.map .sent)
  | cancelled {next : CraftSystem} {entity : Nat}
      (client : next.client = system.client.drop entity)
      (crafts : ∀ other, next.pendingOf other =
        if other = entity then none else system.pendingOf other)
      (still : ¬ Supersedes system input) :
      ExchangeMove system input next [.cancelled entity]
  | committed {next : CraftSystem} {entity : Nat} {craft : PendingCraft}
      (pending : system.pendingOf entity = some craft)
      (accepted : craft.fullyAccepted = true)
      (client : next.client = system.client)
      (crafts : ∀ other, next.pendingOf other =
        if other = entity then none else system.pendingOf other)
      (still : ¬ Supersedes system input) :
      ExchangeMove system input next []
  | charged {next : CraftSystem} {entity : Nat} {requests : List Sent}
      (charges : CraftReservationClient.RequestsCharges system.client next.client entity requests)
      (crafts : ∀ other, next.pendingOf other = system.pendingOf other)
      (still : ¬ Supersedes system input) :
      ExchangeMove system input next (requests.map .sent)
  | answered {next : CraftSystem} {requestId : Nat}
      (client : ∀ request, system.client.outstanding.lookup requestId = some request →
        next.client = if request.requirementId = 0 then
          (system.client.forget requestId).settleCharge request.entity
        else system.client.forget requestId)
      (unknown : system.client.outstanding.lookup requestId = none → next.client = system.client)
      (recorded : Recorded system next requestId)
      (still : ¬ Supersedes system input) :
      ExchangeMove system input next [.answered requestId]

namespace CraftSystem

variable {system : CraftSystem}

theorem pendingOf_emplace (system : CraftSystem) (entity : Nat) (slots : List PersistSlot)
    (energy : EnergyStorage) (other : Nat) :
    ({ system with registry :=
        system.registry.emplace entity ⟨{}, slots, energy⟩ } : CraftSystem).pendingOf other =
      system.pendingOf other := by
  unfold pendingOf
  cases found : system.registry.lookup entity with
  | none =>
    simp only [Table.lookup_emplace_of_none _ found]
    split
    · next same =>
      rw [same, found]
      rfl
    · rfl
  | some machine => simp only [Table.emplace_of_some _ found]

theorem pendingOf_setProgress_eq (system : CraftSystem) (entity : Nat) (machine : MachineEntity)
    (progress : RecipeProgress) (other : Nat) :
    (system.setProgress entity machine progress).pendingOf other =
      if other = entity then progress.pendingCraft else system.pendingOf other := by
  rw [setProgress, pendingOf, lookup_setMachine]
  split
  · rfl
  · rfl

theorem pendingOf_cancel_eq (system : CraftSystem) (entity other : Nat) :
    (system.cancel entity).pendingOf other =
      if other = entity then none else system.pendingOf other := by
  split
  · next same => rw [same, pendingOf_cancel]
  · next distinct => rw [pendingOf, lookup_cancel_of_ne system distinct, pendingOf]

theorem client_cancel (system : CraftSystem) (entity : Nat) :
    (system.cancel entity).client = system.client.drop entity := by
  unfold cancel
  split <;> rfl

theorem begin_move (system : CraftSystem) (entity : Nat) (recipe : Recipe) (nowTick : Nat)
    (publish : Nat → Bool) (fresh : system.client.Fresh) :
    ExchangeMove system (.begin entity recipe nowTick publish)
      (system.exchange (.begin entity recipe nowTick publish)).1
      (system.exchange (.begin entity recipe nowTick publish)).2 := by
  unfold exchange beginReservation
  simp only
  split
  · exact .quiet rfl (fun _ => rfl) id
  rename_i machine found
  split
  · exact .quiet rfl (fun _ => rfl) id
  rename_i reserves
  simp only [Bool.or_eq_true, not_or, not_isSome_iff_eq_none] at reserves
  have idle : system.pendingOf entity = none := (pendingOf_eq found).trans reserves.1
  refine ExchangeMove.requested (newReservations recipe nowTick) ?_ (.inr ⟨idle, ?_⟩)
    (fun other => pendingOf_setProgress_eq _ entity machine _ other) ?_
  · exact requestAll_requests fresh publish entity _
  · intro leg mem
    unfold newReservations at mem
    obtain ⟨index, inside, rfl⟩ := mem_iff_getElem.mp mem
    rw [getElem_mapIdx]
    exact ⟨Nat.succ_ne_zero _, rfl, rfl⟩
  · simp [Supersedes, LiveLeg, idle]

variable {craft : PendingCraft}

theorem not_supersedes {publish : Nat → Bool} (pending : system.pendingOf entity = some craft)
    (idle : craft.retries nowTick = false) :
    ¬ Supersedes system (.tick entity nowTick publish) := by
  rintro ⟨other, found, retries, -⟩
  cases pending.symm.trans found
  rw [idle] at retries
  exact Bool.false_ne_true retries

theorem tick_move (system : CraftSystem) (entity nowTick : Nat) (publish : Nat → Bool)
    (fresh : system.client.Fresh) : ExchangeMove system (.tick entity nowTick publish)
      (system.exchange (.tick entity nowTick publish)).1
      (system.exchange (.tick entity nowTick publish)).2 := by
  unfold exchange
  cases found : system.registry.lookup entity with
  | none =>
    have none : system.pendingOf entity = none := by
      rw [pendingOf, found]
      rfl
    simp only [tickPending, found, hasPending, bind_none, isSome_none,
      Bool.false_and, Bool.false_eq_true, if_false]
    exact .quiet rfl (fun _ => rfl) (by simp [Supersedes, none])
  | some machine =>
    have pendingEq := pendingOf_eq found
    cases pending : machine.progress.pendingCraft with
    | none =>
      rw [pending] at pendingEq
      simp only [tickPending, found, hasPending, bind_some, pending,
        isSome_none, Bool.false_and, Bool.false_eq_true, if_false]
      exact .quiet rfl (fun _ => rfl) (by simp [Supersedes, pendingEq])
    | some craft =>
      rw [pending] at pendingEq
      simp only [tickPending, found, hasPending, bind_some, pending, isSome_some, Bool.true_and]
      cases accepted : craft.fullyAccepted with
      | true =>
        simp only [if_true, Bool.not_true, Bool.false_eq_true, if_false]
        exact .quiet rfl (fun _ => rfl)
          (not_supersedes pendingEq (by simp [retries, accepted]))
      | false =>
        cases given : craft.expired nowTick || decide (kMaxRetries ≤ craft.retryCount) with
        | true =>
          simp only [Bool.false_eq_true, if_false, if_true, Bool.not_false]
          exact .cancelled (client_cancel system entity) (pendingOf_cancel_eq system entity)
            (not_supersedes pendingEq (by simp only [retries, given,
              Bool.not_true, Bool.and_false, Bool.false_and]))
        | false =>
          cases due : craft.retryDue nowTick with
          | false =>
            simp only [Bool.false_eq_true, if_false, if_true, Bool.not_false, Bool.not_true]
            exact .quiet rfl (fun _ => rfl)
              (not_supersedes pendingEq (by simp [retries, due]))
          | true =>
            simp only [Bool.false_eq_true, if_false, Bool.not_true]
            refine ExchangeMove.requested craft.requirements ?_ (.inl ?_)
              (fun other => pendingOf_setProgress_eq _ entity machine _ other) ?_
            · exact requestAll_requests fresh publish entity _
            · exact ⟨craft, pendingEq, rfl⟩
            · have retries : craft.retries nowTick = true := by
                simp only [retries, accepted, given, due, Bool.not_false, Bool.and_self]
              simp [Supersedes, LiveLeg, pendingEq, retries]

theorem commit_move (system : CraftSystem) (entity first last : Nat) :
    ExchangeMove system (.commit entity first last) (system.exchange (.commit entity first last)).1
      (system.exchange (.commit entity first last)).2 := by
  unfold exchange
  cases found : system.registry.lookup entity with
  | none =>
    simp only [commitPendingCraft, found, hasPending, bind_none, isSome_none,
      Bool.false_and, Bool.false_eq_true, if_false]
    exact .quiet rfl (fun _ => rfl) id
  | some machine =>
    have pendingEq := pendingOf_eq found
    cases pending : machine.progress.pendingCraft with
    | none =>
      simp only [commitPendingCraft, found, hasPending, bind_some, pending,
        isSome_none, Bool.false_and, Bool.false_eq_true, if_false]
      exact .quiet rfl (fun _ => rfl) id
    | some craft =>
      rw [pending] at pendingEq
      cases accepted : craft.fullyAccepted with
      | false =>
        simp only [commitPendingCraft, found, hasPending, bind_some, pending,
          accepted, isSome_some, Bool.not_false, if_true, Bool.not_true, Bool.and_false,
          Bool.false_and, Bool.false_eq_true, if_false]
        exact .quiet rfl (fun _ => rfl) id
      | true =>
        cases live : system.recipes.lookup craft.recipeId with
        | none =>
          have gone : (system.cancel entity).hasPending entity = false := by
            rw [hasPending, ← pendingOf, pendingOf_cancel]
            rfl
          have held : system.hasPending entity = true := by
            rw [hasPending, ← pendingOf, pendingEq]
            rfl
          simp only [commitPendingCraft, found, pending, accepted, live, gone, held,
            Bool.not_true, Bool.false_eq_true, if_false, Bool.not_false, Bool.and_self,
            isEmpty_nil, if_true]
          exact .cancelled (client_cancel system entity) (pendingOf_cancel_eq system entity)
            id
        | some recipe =>
          simp only [commitPendingCraft, found, pending, accepted, live, Bool.not_true,
            Bool.false_eq_true, if_false, isEmpty_cons, Bool.and_false]
          refine .committed pendingEq accepted rfl (fun other => ?_) id
          rw [pendingOf, lookup_setMachine]
          split
          · rfl
          · rfl

theorem pendingOf_creditBuffer (system : CraftSystem) (entity : Nat) (amount : Int) (other : Nat) :
    (system.creditBuffer entity amount).pendingOf other = system.pendingOf other := by
  unfold creditBuffer
  split
  · rfl
  rename_i machine found
  split
  · rfl
  rw [pendingOf, lookup_setMachine]
  split
  · next same =>
    rw [same, pendingOf_eq found]
    rfl
  · rfl

theorem client_creditBuffer (system : CraftSystem) (entity : Nat) (amount : Int) :
    (system.creditBuffer entity amount).client = system.client := by
  unfold creditBuffer
  split
  · rfl
  · split <;> rfl

theorem recordAccepted_same (leg : RequirementReservation) (amount : Int) :
    (leg.recordAccepted amount).requirementId = leg.requirementId ∧
      (leg.recordAccepted amount).requestId = leg.requestId ∧
      (leg.recordAccepted amount).requiredAmount = leg.requiredAmount ∧
      leg.acceptedAmount ≤ (leg.recordAccepted amount).acceptedAmount := by
  unfold RequirementReservation.recordAccepted
  split
  · exact ⟨rfl, rfl, rfl, Int.le_refl _⟩
  refine ⟨rfl, rfl, rfl, ?_⟩
  simp only
  rw [RequirementReservation.remainingAmount]
  omega

variable {leg : RequirementReservation} {legs : List RequirementReservation} {requestId : Nat}

theorem mem_updateFirst (mem : leg ∈ recordAccepted.updateFirst requestId amount legs) :
    leg ∈ legs ∨ ∃ was ∈ legs, was.requestId = requestId ∧ leg = was.recordAccepted amount := by
  induction legs with
  | nil => exact absurd mem not_mem_nil
  | cons first rest ih =>
    unfold recordAccepted.updateFirst at mem
    split at mem
    · next carries =>
      simp only [PendingCraft.carries, Bool.and_eq_true, beq_iff_eq] at carries
      rcases mem_cons.mp mem with rfl | mem
      · exact .inr ⟨first, mem_cons_self, carries.2, rfl⟩
      · exact .inl (mem_cons_of_mem first mem)
    · rcases mem_cons.mp mem with rfl | mem
      · exact .inl mem_cons_self
      · rcases ih mem with kept | ⟨was, inside, carries, recorded⟩
        · exact .inl (mem_cons_of_mem first kept)
        · exact .inr ⟨was, mem_cons_of_mem first inside, carries, recorded⟩

theorem mem_updateFirst_of_ne (mem : leg ∈ legs) (other : leg.requestId ≠ requestId) :
    leg ∈ recordAccepted.updateFirst requestId amount legs := by
  induction legs with
  | nil => exact absurd mem not_mem_nil
  | cons first rest ih =>
    unfold recordAccepted.updateFirst
    split
    · next carries =>
      simp only [PendingCraft.carries, Bool.and_eq_true, beq_iff_eq] at carries
      rcases mem_cons.mp mem with rfl | mem
      · exact absurd carries.2 other
      · exact mem_cons_of_mem _ mem
    · rcases mem_cons.mp mem with rfl | mem
      · exact mem_cons_self
      · exact mem_cons_of_mem first (ih mem)

variable {next : CraftSystem}

theorem recorded_of_same (requestId : Nat)
    (crafts : ∀ entity, next.pendingOf entity = system.pendingOf entity) :
    Recorded system next requestId where
  old := fun entity leg live => by
    obtain ⟨craft, pending, mem⟩ := live
    exact .inl ⟨craft, (crafts entity).symm.trans pending, mem⟩
  kept := fun entity leg live _ => by
    obtain ⟨craft, pending, mem⟩ := live
    exact ⟨craft, (crafts entity).trans pending, mem⟩
  apart := fun apart entity craft pending =>
    apart entity craft ((crafts entity).symm.trans pending)

theorem updateFirst_ids (requestId : Nat) (amount : Int) (legs : List RequirementReservation) :
    (recordAccepted.updateFirst requestId amount legs).map RequirementReservation.requestId =
      legs.map RequirementReservation.requestId := by
  induction legs with
  | nil => rfl
  | cons first rest ih =>
    unfold recordAccepted.updateFirst
    split
    · rw [map_cons, (recordAccepted_same first amount).2.1, map_cons]
    · rw [map_cons, ih, map_cons]

theorem apart_iff (legs : List RequirementReservation) :
    Apart legs ↔ (legs.map RequirementReservation.requestId).Pairwise
      fun id other => id ≠ 0 → id ≠ other := by
  rw [pairwise_map]
  rfl

theorem recorded_of_update {entity requestId : Nat} (amount : Int)
    (pending : system.pendingOf entity = some craft) (crafts : ∀ other, next.pendingOf other =
      if other = entity then some (craft.recordAccepted requestId amount)
      else system.pendingOf other) : Recorded system next requestId where
  old := fun other leg live => by
    obtain ⟨found, pendingNext, mem⟩ := live
    rw [crafts] at pendingNext
    split at pendingNext
    · next same =>
      cases pendingNext
      subst same
      rcases mem_updateFirst mem with kept | ⟨was, inside, carries, recorded⟩
      · exact .inl ⟨craft, pending, kept⟩
      · exact .inr ⟨was, amount, ⟨craft, pending, inside⟩, carries, recorded⟩
    · exact .inl ⟨found, pendingNext, mem⟩
  kept := fun other leg live differs => by
    obtain ⟨found, pendingOld, mem⟩ := live
    by_cases same : other = entity
    · subst same
      cases pending.symm.trans pendingOld
      exact ⟨_, (crafts other).trans (if_pos rfl), mem_updateFirst_of_ne mem differs⟩
    · exact ⟨found, (crafts other).trans ((if_neg same).trans pendingOld), mem⟩
  apart := fun apart other found pendingNext => by
    rw [crafts] at pendingNext
    split at pendingNext
    · cases pendingNext
      have old := apart entity craft pending
      rw [apart_iff] at old ⊢
      rwa [recordAccepted, updateFirst_ids]
    · exact apart other found pendingNext

theorem find_of_apart (some : requestId ≠ 0) (carries : leg.requestId = requestId)
    (apart : Apart legs) (mem : leg ∈ legs) :
    legs.find? (PendingCraft.carries requestId) = leg := by
  induction legs with
  | nil => exact absurd mem not_mem_nil
  | cons first rest ih =>
    obtain ⟨unlike, apart⟩ := pairwise_cons.mp apart
    rw [find?_cons]
    rcases mem_cons.mp mem with rfl | mem
    · have own : PendingCraft.carries requestId leg = true := by
        simp [PendingCraft.carries, carries, some]
      rw [own]
    have other : PendingCraft.carries requestId first = false := by
      simp only [PendingCraft.carries, Bool.and_eq_false_iff, bne_eq_false_iff_eq,
        beq_eq_false_iff_ne]
      exact Decidable.or_iff_not_imp_left.mpr fun live => carries ▸ unlike leg mem live
    rw [other]
    exact ih apart mem

theorem updateFirst_of_apart (some : requestId ≠ 0) (amount : Int)
    (carries : leg.requestId = requestId) (apart : Apart legs) (mem : leg ∈ legs) :
    leg.recordAccepted amount ∈ recordAccepted.updateFirst requestId amount legs ∧
      ∀ after ∈ recordAccepted.updateFirst requestId amount legs,
        after.requestId = requestId → after = leg.recordAccepted amount := by
  induction legs with
  | nil => exact absurd mem not_mem_nil
  | cons first rest ih =>
    obtain ⟨unlike, apart⟩ := pairwise_cons.mp apart
    unfold recordAccepted.updateFirst
    rcases mem_cons.mp mem with rfl | mem
    · have own : PendingCraft.carries requestId leg = true := by
        simp [PendingCraft.carries, carries, some]
      rw [own, if_pos rfl]
      refine ⟨mem_cons_self, fun after inside same => ?_⟩
      rcases mem_cons.mp inside with rfl | inside
      · rfl
      · exact absurd (carries.trans same.symm) (unlike after inside (carries ▸ some))
    · have distinct : first.requestId ≠ requestId := fun same =>
        unlike leg mem (same ▸ some) (same.trans carries.symm)
      have other : PendingCraft.carries requestId first = false := by
        simp [PendingCraft.carries, distinct]
      rw [other, if_neg Bool.false_ne_true]
      obtain ⟨recorded, only⟩ := ih apart mem
      refine ⟨mem_cons_of_mem first recorded, fun after inside same => ?_⟩
      rcases mem_cons.mp inside with rfl | inside
      · exact absurd same distinct
      · exact only after inside same

theorem response_records (response : ResourceTransferResponse) {request : OutstandingRequest}
    (known : system.client.outstanding.lookup response.requestId = some request)
    (reserved : request.requirementId ≠ 0) {entity : Nat} (own : request.entity = entity)
    {craft : PendingCraft} (pending : system.pendingOf entity = some craft)
    (apart : Apart craft.requirements) {leg : RequirementReservation}
    (mem : leg ∈ craft.requirements) (carries : leg.requestId = response.requestId)
    (some : response.requestId ≠ 0) (number : leg.requirementId = request.requirementId) :
    (system.exchange (.response response)).1.pendingOf entity =
      Option.some (craft.recordAccepted response.requestId (granted response request)) := by
  obtain ⟨machine, found, held⟩ := bind_eq_some_iff.mp pending
  have find : craft.findReservationByRequestId response.requestId = Option.some leg :=
    find_of_apart some carries apart mem
  subst own
  unfold exchange onConsumeResponse
  simp only [known, if_neg reserved, found, held, find, ne_eq, number, not_true_eq_false, if_false]
  rw [pendingOf_creditBuffer, pendingOf_setProgress_eq, if_pos rfl]
  rfl

theorem response_move (system : CraftSystem) (response : ResourceTransferResponse) :
    ExchangeMove system (.response response) (system.exchange (.response response)).1
      (system.exchange (.response response)).2 := by
  unfold exchange onConsumeResponse
  simp only
  split
  · next unknown =>
    refine .answered (fun request known => ?_) (fun _ => rfl)
      (recorded_of_same _ fun _ => rfl) id
    rw [unknown] at known
    exact absurd known nofun
  · next pending known =>
    have absent : system.client.outstanding.lookup response.requestId = none →
        ∀ client : CraftReservationClient, client = system.client := by
      intro none
      rw [known] at none
      exact absurd none nofun
    split
    · next charge =>
      refine .answered (fun request found => ?_) (fun none => absent none _)
        (recorded_of_same _ fun entity => pendingOf_creditBuffer _ _ _ entity) id
      cases known.symm.trans found
      rw [if_pos charge, client_creditBuffer]
    · next leg =>
      have plain : ∀ next : CraftSystem, next.client = system.client.forget response.requestId →
          ∀ request, system.client.outstanding.lookup response.requestId = some request →
            next.client = if request.requirementId = 0 then
              (system.client.forget response.requestId).settleCharge request.entity
            else system.client.forget response.requestId := by
        intro next same request found
        cases known.symm.trans found
        rw [if_neg leg, same]
      split
      · exact .answered (plain _ rfl) (fun none => absent none _)
          (recorded_of_same _ fun _ => rfl) id
      rename_i machine found
      split
      · exact .answered (plain _ rfl) (fun none => absent none _)
          (recorded_of_same _ fun _ => rfl) id
      rename_i craft held
      split
      · exact .answered (plain _ rfl) (fun none => absent none _)
          (recorded_of_same _ fun _ => rfl) id
      split
      · exact .answered (plain _ rfl) (fun none => absent none _)
          (recorded_of_same _ fun _ => rfl) id
      refine .answered (plain _ ?_) (fun none => absent none _)
        (recorded_of_update (granted response pending)
          ((pendingOf_eq found).trans held) fun other => ?_) id
      · exact client_creditBuffer _ _ _
      · rw [pendingOf_creditBuffer]
        exact pendingOf_setProgress_eq _ _ machine _ other

theorem charge_move (system : CraftSystem) (entity : Nat) (recipe : Recipe) (publish : Nat → Bool)
    (fresh : system.client.Fresh) : ExchangeMove system (.charge entity recipe publish)
      (system.exchange (.charge entity recipe publish)).1
      (system.exchange (.charge entity recipe publish)).2 := by
  unfold exchange beginPerTickCharge
  simp only
  split
  · exact .quiet rfl (fun _ => rfl) id
  split
  · exact .quiet rfl (fun _ => rfl) id
  · exact .charged (chargeAll_requests fresh publish entity 1 _)
      (fun _ => rfl) id

theorem sent_ne_answered (requests : List Sent) (requestId : Nat) :
    requests.map Traffic.sent ≠ [.answered requestId] := by
  cases requests with
  | nil => exact nofun
  | cons request rest => simp

theorem exchange_unanswered (system : CraftSystem) (other : ∀ response, input ≠ .response response)
    (requestId : Nat) : (system.exchange input).2 ≠ [.answered requestId] := by
  cases input with
  | response response => exact absurd rfl (other response)
  | begin entity recipe nowTick publish => exact sent_ne_answered _ requestId
  | charge entity recipe publish => exact sent_ne_answered _ requestId
  | tick entity nowTick publish =>
    unfold exchange
    simp only
    split
    · exact nofun
    · exact sent_ne_answered _ requestId
  | commit entity first last =>
    unfold exchange
    simp only
    split <;> exact nofun
  | reload recipes => exact nofun
  | spawn entity slots energy => exact nofun
  | cancel entity => exact nofun

theorem exchange_move (system : CraftSystem) (input : ExchangeInput) (fresh : system.client.Fresh) :
    ExchangeMove system input (system.exchange input).1 (system.exchange input).2 := by
  cases input with
  | reload recipes => exact .quiet rfl (fun _ => rfl) id
  | spawn entity slots energy =>
    exact .quiet rfl (fun other => pendingOf_emplace system entity slots energy other) id
  | begin entity recipe nowTick publish =>
    exact begin_move system entity recipe nowTick publish fresh
  | tick entity nowTick publish => exact tick_move system entity nowTick publish fresh
  | response response => exact response_move system response
  | cancel entity =>
    exact .cancelled (client_cancel system entity) (pendingOf_cancel_eq system entity) id
  | commit entity first last => exact commit_move system entity first last
  | charge entity recipe publish => exact charge_move system entity recipe publish fresh

end CraftSystem

theorem ExchangeMove.recorded_of_answered {system next : CraftSystem} {input : ExchangeInput}
    {traffic : List Traffic} (move : ExchangeMove system input next traffic) {requestId : Nat}
    (answer : traffic = [.answered requestId]) : Recorded system next requestId := by
  cases move with
  | answered client unknown recorded still =>
    obtain rfl := Traffic.answered.inj (cons.inj answer).1
    exact recorded
  | requested => exact absurd answer (CraftSystem.sent_ne_answered _ requestId)
  | charged => exact absurd answer (CraftSystem.sent_ne_answered _ requestId)
  | quiet => exact absurd answer nofun
  | cancelled => exact absurd answer nofun
  | committed => exact absurd answer nofun

end GtnhPlatform.SimCore
