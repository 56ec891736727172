import GtnhPlatform.SimCore.RequestMoves

namespace GtnhPlatform.SimCore

open Common Crafting Inventory List CraftReservationClient

structure LegSound (client : CraftReservationClient) (entity : Nat)
    (leg : RequirementReservation) : Prop where
  numbered : leg.requirementId ≠ 0
  minted : leg.requestId < client.nextRequestId
  nonneg : 0 ≤ leg.acceptedAmount
  wanted : leg.requiredAmount ≤ 0 → leg.requestId = 0
  own : ∀ request, client.outstanding.lookup leg.requestId = some request →
    request.entity = entity ∧ request.requirementId = leg.requirementId

namespace Exchange

def charges (state : Exchange) (entity : Nat) : Nat :=
  state.awaited.countP fun request => request.2.requirementId == 0 && request.2.entity == entity

structure Sound (state : Exchange) : Prop where
  counting : 0 < state.system.client.nextRequestId
  fresh : state.system.client.Fresh
  unused : state.system.client.outstanding.lookup 0 = none
  awaited : ∀ id request, (id, request) ∈ state.awaited ↔
    state.system.client.outstanding.lookup id = some request
  once : (state.awaited.map Prod.fst).Nodup
  counted : ∀ entity, state.system.client.chargeByEntity.lookup entity =
    CraftReservationClient.entryOf (state.charges entity)
  legs : ∀ entity leg, LiveLeg state.system entity leg → LegSound state.system.client entity leg
  apart : ∀ entity craft, state.system.pendingOf entity = some craft → Apart craft.requirements

theorem initial_sound : initial.Sound where
  counting := Nat.one_pos
  fresh := nofun
  unused := rfl
  awaited := fun id request => by simp [initial, CraftSystem.initial, new]
  once := nodup_nil
  counted := fun _ => rfl
  legs := fun entity leg live => by
    obtain ⟨craft, pending, -⟩ := live
    exact absurd pending nofun
  apart := fun entity craft pending => absurd pending nofun

variable {state : Exchange} {next : CraftSystem} {requests : List Sent} {entity : Nat}

theorem Sound.legSound_sends (sound : state.Sound)
    (sends : Sends state.system.client next.client requests)
    (live : LiveLeg state.system entity leg) : LegSound next.client entity leg where
  numbered := (sound.legs entity leg live).numbered
  minted := Nat.lt_of_lt_of_le (sound.legs entity leg live).minted sends.count
  nonneg := (sound.legs entity leg live).nonneg
  wanted := (sound.legs entity leg live).wanted
  own := fun request found => by
    rcases (sends.found _ request).mp found with sent | old
    · have minted := (sends.minted _ sent).1
      have below := (sound.legs entity leg live).minted
      exact absurd below (Nat.not_lt.mpr minted)
    · exact (sound.legs entity leg live).own request old

theorem charges_append (state : Exchange) (requests : List Sent) (entity : Nat) :
    (⟨next, state.awaited ++ requests⟩ : Exchange).charges entity =
      state.charges entity + requests.countP fun request =>
        request.2.requirementId == 0 && request.2.entity == entity :=
  countP_append

theorem Sound.sends (sound : state.Sound) (sends : Sends state.system.client next.client requests) :
    0 < next.client.nextRequestId ∧ next.client.Fresh ∧ next.client.outstanding.lookup 0 = none ∧
      (∀ id request, (id, request) ∈ state.awaited ++ requests ↔
        next.client.outstanding.lookup id = some request) ∧
      ((state.awaited ++ requests).map Prod.fst).Nodup := by
  refine ⟨Nat.lt_of_lt_of_le sound.counting sends.count, sends.fresh sound.fresh, ?_, ?_, ?_⟩
  · cases found : next.client.outstanding.lookup 0 with
    | none => rfl
    | some request =>
      rcases (sends.found 0 request).mp found with sent | old
      · have minted := (sends.minted _ sent).1
        have counting := sound.counting
        omega
      · rw [sound.unused] at old
        exact absurd old nofun
  · intro id request
    rw [mem_append, sends.found, sound.awaited, or_comm]
  · rw [map_append, nodup_append]
    refine ⟨sound.once, sends.once, ?_⟩
    rintro id early _ late rfl
    obtain ⟨old, oldMember, rfl⟩ := mem_map.mp early
    obtain ⟨new, newMember, same⟩ := mem_map.mp late
    have below := sound.fresh _ _ ((sound.awaited old.1 old.2).mp oldMember)
    have above := (sends.minted new newMember).1
    omega

theorem Sound.requested (sound : state.Sound) {craft : PendingCraft}
    (legs : RequestsLegs state.system.client next.client entity old craft.requirements requests)
    (source : (∃ was, state.system.pendingOf entity = some was ∧ old = was.requirements) ∨
      state.system.pendingOf entity = none ∧
        ∀ leg ∈ old, leg.requirementId ≠ 0 ∧ leg.requestId = 0 ∧ leg.acceptedAmount = 0)
    (crafts : ∀ other, next.pendingOf other =
      if other = entity then some craft else state.system.pendingOf other) :
    (⟨next, state.awaited ++ requests⟩ : Exchange).Sound := by
  obtain ⟨counting, fresh, unused, awaited, once⟩ := sound.sends legs.sends
  have before : ∀ leg ∈ old, LegSound state.system.client entity leg := by
    intro leg mem
    rcases source with ⟨was, pending, rfl⟩ | ⟨-, new⟩
    · exact sound.legs entity leg ⟨was, pending, mem⟩
    obtain ⟨number, none, nothing⟩ := new leg mem
    refine ⟨number, none ▸ sound.counting, Int.le_of_eq nothing.symm, fun _ => none, ?_⟩
    intro request found
    rw [none, sound.unused] at found
    exact absurd found nofun
  have minted : ∀ leg ∈ old, leg.requestId < state.system.client.nextRequestId :=
    fun leg mem => (before leg mem).minted
  refine ⟨counting, fresh, unused, awaited, once, ?_, ?_, ?_⟩
  · intro other
    have none : requests.countP (fun request =>
        request.2.requirementId == 0 && request.2.entity == other) = 0 := by
      rw [countP_eq_zero]
      intro request mem charge
      obtain ⟨-, leg, inside, -, number, -⟩ := legs.carried request mem
      obtain ⟨was, held, turned⟩ := legs.turned_mem inside
      simp only [Bool.and_eq_true, beq_iff_eq] at charge
      apply (before was held).numbered
      rw [← charge.1, ← number, turned.same]
    rw [charges_append, none, Nat.add_zero, legs.charges]
    exact sound.counted other
  · intro other leg live
    obtain ⟨found, pending, mem⟩ := live
    rw [crafts] at pending
    split at pending
    · next same =>
      cases pending
      subst same
      obtain ⟨was, held, turned⟩ := legs.turned_mem mem
      have old := before was held
      have same := turned.same
      refine ⟨?_, ?_, ?_, ?_, ?_⟩
      · rw [same]
        exact old.numbered
      · rcases legs.ids mem with kept | none | fresh
        · exact Nat.lt_of_lt_of_le (minted leg kept) legs.sends.count
        · rw [none]
          exact counting
        · exact fresh.2
      · rw [same]
        exact old.nonneg
      · intro unwanted
        have settled : was.remainingAmount ≤ 0 := by
          rw [same] at unwanted
          simp only at unwanted
          have nonneg := old.nonneg
          rw [RequirementReservation.remainingAmount]
          omega
        unfold Turned at turned
        rw [if_pos settled] at turned
        rw [turned] at unwanted ⊢
        exact old.wanted unwanted
      · intro request found
        rcases (legs.sends.found _ request).mp found with sent | kept
        · exact legs.request minted sound.counting mem sent
        have below := sound.fresh _ _ kept
        rcases legs.ids mem with inside | none | fresh
        · exact (before leg inside).own request kept
        · rw [none, sound.unused] at kept
          exact absurd kept nofun
        · exact absurd below (Nat.not_lt.mpr fresh.1)
    · exact sound.legSound_sends legs.sends ⟨found, pending, mem⟩
  · intro other found pending
    rw [crafts] at pending
    split at pending
    · cases pending
      refine legs.apart minted ?_
      rcases source with ⟨was, held, rfl⟩ | ⟨-, new⟩
      · exact sound.apart entity was held
      · refine List.Pairwise.imp_of_mem (fun {leg other} inside _ _ some => ?_)
          (pairwise_of_forall fun _ _ => trivial)
        exact absurd (new leg inside).2.1 some
    · exact sound.apart other found pending

theorem Sound.crafts (sound : state.Sound) (client : next.client = state.system.client)
    (crafts : ∀ entity craft, next.pendingOf entity = some craft →
      state.system.pendingOf entity = some craft) : (⟨next, state.awaited⟩ : Exchange).Sound where
  counting := client ▸ sound.counting
  fresh := client ▸ sound.fresh
  unused := client ▸ sound.unused
  awaited := client ▸ sound.awaited
  once := sound.once
  counted := client ▸ sound.counted
  legs := fun entity leg live => by
    obtain ⟨craft, pending, mem⟩ := live
    have leg := sound.legs entity leg ⟨craft, crafts entity craft pending, mem⟩
    exact client ▸ leg
  apart := fun entity craft pending => sound.apart entity craft (crafts entity craft pending)

theorem lookup_drop (client : CraftReservationClient) (entity id : Nat)
    (request : OutstandingRequest) : (client.drop entity).outstanding.lookup id = some request ↔
      client.outstanding.lookup id = some request ∧ request.entity ≠ entity := by
  simp [CraftReservationClient.drop, Table.lookup_filter, Option.filter_eq_some_iff]

theorem Sound.cancelled (sound : state.Sound)
    (client : next.client = state.system.client.drop entity)
    (crafts : ∀ other, next.pendingOf other =
      if other = entity then none else state.system.pendingOf other) :
    (⟨next, await state.awaited (.cancelled entity)⟩ : Exchange).Sound where
  counting := client ▸ sound.counting
  fresh := fun id request found => by
    rw [client] at found ⊢
    exact sound.fresh id request ((lookup_drop _ _ _ _).mp found).1
  unused := by
    cases found : next.client.outstanding.lookup 0 with
    | none => rfl
    | some request =>
      rw [client, lookup_drop, sound.unused] at found
      cases found.1
  awaited := fun id request => by
    rw [client, lookup_drop, await, mem_filter, sound.awaited]
    simp
  once := sound.once.sublist (filter_sublist.map _)
  counted := fun other => by
    rw [client, CraftReservationClient.drop, Table.lookup_erase_eq, charges, await, countP_filter]
    split
    · next same =>
      subst same
      have none : state.awaited.countP (fun request => (request.2.requirementId == 0 &&
          request.2.entity == other) && request.2.entity != other) = 0 := by
        rw [countP_eq_zero]
        simp
      rw [none]
      rfl
    · next distinct =>
      rw [sound.counted, charges]
      congr 1
      apply countP_congr
      intro request _
      simp only [Bool.and_eq_true, beq_iff_eq, bne_iff_ne, ne_eq]
      constructor
      · rintro ⟨charge, own⟩
        exact ⟨⟨charge, own⟩, own ▸ distinct⟩
      · exact And.left
  legs := fun other leg live => by
    obtain ⟨craft, pending, mem⟩ := live
    rw [crafts] at pending
    split at pending
    · cases pending
    have leg := sound.legs other leg ⟨craft, pending, mem⟩
    refine ⟨leg.numbered, client ▸ leg.minted, leg.nonneg, leg.wanted, fun request found => ?_⟩
    rw [client, lookup_drop] at found
    exact leg.own request found.1
  apart := fun other craft pending => by
    rw [crafts] at pending
    split at pending
    · cases pending
    · exact sound.apart other craft pending

theorem Sound.charged (sound : state.Sound)
    (charges : CraftReservationClient.RequestsCharges state.system.client next.client entity
      requests) (crafts : ∀ other, next.pendingOf other = state.system.pendingOf other) :
    (⟨next, state.awaited ++ requests⟩ : Exchange).Sound := by
  obtain ⟨counting, fresh, unused, awaited, once⟩ := sound.sends charges.sends
  refine ⟨counting, fresh, unused, awaited, once, ?_, ?_, ?_⟩
  · intro other
    rw [charges_append]
    by_cases same : other = entity
    · subst same
      have all : requests.countP (fun request =>
          request.2.requirementId == 0 && request.2.entity == other) = requests.length := by
        rw [countP_eq_length]
        intro request mem
        obtain ⟨own, charge⟩ := charges.charges request mem
        simp [own, charge]
      rw [all]
      exact charges.counted _ (sound.counted other)
    · have none : requests.countP (fun request =>
          request.2.requirementId == 0 && request.2.entity == other) = 0 := by
        rw [countP_eq_zero]
        intro request mem
        have own := (charges.charges request mem).1
        simp [own, Ne.symm same]
      rw [none, Nat.add_zero, charges.others other same]
      exact sound.counted other
  · rintro other leg ⟨craft, pending, mem⟩
    exact sound.legSound_sends charges.sends ⟨craft, (crafts other).symm.trans pending, mem⟩
  · intro other craft pending
    exact sound.apart other craft ((crafts other).symm.trans pending)

theorem countP_filter_id {awaited : List Sent} (once : (awaited.map Prod.fst).Nodup) {id : Nat}
    {request : OutstandingRequest} (mem : (id, request) ∈ awaited) (counts : Sent → Bool) :
    awaited.countP counts = (awaited.filter fun sent => sent.1 != id).countP counts +
      if counts (id, request) then 1 else 0 := by
  obtain ⟨before, after, rfl⟩ := append_of_mem mem
  rw [map_append, map_cons, nodup_append, nodup_cons] at once
  have others : ∀ list : List Sent, (∀ sent ∈ list, sent.1 ≠ id) →
      list.filter (fun sent => sent.1 != id) = list := by
    intro list unlike
    rw [filter_eq_self]
    intro sent inside
    exact bne_iff_ne.mpr (unlike sent inside)
  have early := others before fun sent inside same =>
    once.2.2 sent.1 (mem_map_of_mem inside) id mem_cons_self same
  have late := others after fun sent inside same => by
    have moved : sent.1 ∈ after.map Prod.fst := mem_map_of_mem inside
    rw [same] at moved
    exact once.2.1.1 moved
  rw [filter_append, filter_cons, early, late]
  simp only [bne_self_eq_false, Bool.false_eq_true, if_false, countP_append, countP_cons]
  omega

theorem lookup_forget (client : CraftReservationClient) (requestId id : Nat)
    (request : OutstandingRequest) :
    (client.forget requestId).outstanding.lookup id = some request ↔
      client.outstanding.lookup id = some request ∧ id ≠ requestId := by
  rw [forget, Table.lookup_erase_eq]
  split
  · next same => simp [same]
  · next distinct => simp [distinct]

theorem charges_answered (sound : state.Sound) {id : Nat} {request : OutstandingRequest}
    (known : state.system.client.outstanding.lookup id = some request) (entity : Nat) :
    state.charges entity = (⟨next, await state.awaited (.answered id)⟩ : Exchange).charges entity +
        if request.requirementId = 0 ∧ request.entity = entity then 1 else 0 := by
  have taken := countP_filter_id sound.once ((sound.awaited id request).mpr known)
    fun sent => sent.2.requirementId == 0 && sent.2.entity == entity
  simpa [charges, await] using taken

theorem Sound.answered (sound : state.Sound) {requestId : Nat}
    (client : ∀ request, state.system.client.outstanding.lookup requestId = some request →
      next.client = if request.requirementId = 0 then
        (state.system.client.forget requestId).settleCharge request.entity
      else state.system.client.forget requestId)
    (unknown : state.system.client.outstanding.lookup requestId = none →
      next.client = state.system.client) (recorded : Recorded state.system next requestId) :
    (⟨next, await state.awaited (.answered requestId)⟩ : Exchange).Sound := by
  have looks : next.client.nextRequestId = state.system.client.nextRequestId ∧
      ∀ id request, next.client.outstanding.lookup id = some request ↔
        state.system.client.outstanding.lookup id = some request ∧ id ≠ requestId := by
    cases known : state.system.client.outstanding.lookup requestId with
    | none =>
      rw [unknown known]
      refine ⟨rfl, fun id request => ⟨fun found => ⟨found, ?_⟩, And.left⟩⟩
      rintro rfl
      rw [known] at found
      cases found
    | some request =>
      rw [client request known]
      split
      · exact ⟨rfl, lookup_forget state.system.client requestId⟩
      · exact ⟨rfl, lookup_forget state.system.client requestId⟩
  obtain ⟨count, looks⟩ := looks
  refine ⟨count ▸ sound.counting, ?_, ?_, ?_, ?_, ?_, ?_, recorded.apart sound.apart⟩
  · intro id request found
    rw [count]
    exact sound.fresh id request ((looks id request).mp found).1
  · cases found : next.client.outstanding.lookup 0 with
    | none => rfl
    | some request =>
      have old := ((looks 0 request).mp found).1
      rw [sound.unused] at old
      cases old
  · intro id request
    rw [looks, await, mem_filter, sound.awaited]
    simp
  · exact sound.once.sublist (filter_sublist.map _)
  · intro entity
    cases known : state.system.client.outstanding.lookup requestId with
    | none =>
      have same : state.awaited.filter (fun sent => sent.1 != requestId) = state.awaited := by
        rw [filter_eq_self]
        intro sent mem
        rw [bne_iff_ne]
        rintro rfl
        rw [(sound.awaited sent.1 sent.2).mp mem] at known
        cases known
      rw [unknown known, await, same]
      exact sound.counted entity
    | some request =>
      have counts := @charges_answered state next sound requestId request known entity
      have held := sound.counted entity
      rw [client request known]
      split
      · next charge =>
        rw [@lookup_settleCharge (state.system.client.forget requestId) request.entity _
          (sound.counted request.entity) entity]
        split
        · next same =>
          subst same
          rw [if_pos ⟨charge, rfl⟩] at counts
          rw [counts, Nat.add_sub_cancel]
        · next distinct =>
          rw [if_neg fun both => distinct both.2.symm, Nat.add_zero] at counts
          rw [← counts]
          exact held
      · next leg =>
        rw [if_neg fun both => leg both.1, Nat.add_zero] at counts
        rw [← counts]
        exact held
  · intro entity leg live
    have from_old : ∀ was, LiveLeg state.system entity was → ∀ amount,
        LegSound next.client entity (was.recordAccepted amount) := by
      intro was live amount
      have old := sound.legs entity was live
      obtain ⟨number, id, required, more⟩ := CraftSystem.recordAccepted_same was amount
      refine ⟨number ▸ old.numbered, ?_, Int.le_trans old.nonneg more, ?_, ?_⟩
      · rw [id, count]
        exact old.minted
      · rw [required, id]
        exact old.wanted
      intro request found
      rw [id] at found
      rw [number]
      exact old.own request ((looks _ _).mp found).1
    rcases recorded.old entity leg live with kept | ⟨was, amount, old, -, rfl⟩
    · have same : leg.recordAccepted 0 = leg := if_pos (.inl (Int.le_refl 0))
      exact same ▸ from_old leg kept 0
    · exact from_old was old amount

theorem Sound.step (sound : state.Sound) (input : ExchangeInput) : (state.step input).1.Sound := by
  unfold Exchange.step
  simp only
  generalize (state.system.exchange input).1 = next, (state.system.exchange input).2 = traffic,
    CraftSystem.exchange_move state.system input sound.fresh = move at *
  cases move with
  | quiet client crafts still =>
    exact sound.crafts client fun entity craft pending => (crafts entity).symm.trans pending
  | requested old legs source crafts supersedes =>
    rw [foldl_await_sent]
    exact sound.requested legs source crafts
  | cancelled client crafts still => exact sound.cancelled client crafts
  | committed pending accepted client crafts still =>
    refine sound.crafts client fun other craft found => ?_
    rw [crafts] at found
    split at found
    · exact absurd found nofun
    · exact found
  | charged charges crafts still =>
    rw [foldl_await_sent]
    exact sound.charged charges crafts
  | answered client unknown recorded still => exact sound.answered client unknown recorded

end Exchange

end GtnhPlatform.SimCore
