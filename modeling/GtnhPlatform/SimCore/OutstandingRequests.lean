import GtnhPlatform.SimCore.RequestBooks

namespace GtnhPlatform.SimCore

open Common Crafting Inventory RequirementReservation CraftSystem List

def CurrentRequest (system : CraftSystem) (id : Nat) : Prop :=
  id ≠ 0 ∧ ∃ entity leg, LiveLeg system entity leg ∧ leg.fullyAccepted = false ∧ leg.requestId = id

namespace Exchange

def Awaits (state : Exchange) (id : Nat) : Prop := ∃ request, (id, request) ∈ state.awaited

def AwaitsCharge (state : Exchange) (id : Nat) : Prop :=
  ∃ request, (id, request) ∈ state.awaited ∧ request.requirementId = 0

structure Exact (state : Exchange) : Prop where
  outstanding : ∀ id, (state.system.client.outstanding.lookup id).isSome = true ↔
    (CurrentRequest state.system id ∧ state.Awaits id) ∨ state.AwaitsCharge id
  counted : ∀ entity, state.system.client.chargeByEntity.lookup entity =
    CraftReservationClient.entryOf (state.charges entity)

/-- The same of all unaccepted legs, answered or not. -/
structure ExactByAcceptance (state : Exchange) : Prop where
  outstanding : ∀ id, (state.system.client.outstanding.lookup id).isSome = true ↔
    CurrentRequest state.system id ∨ state.AwaitsCharge id
  counted : ∀ entity, state.system.client.chargeByEntity.lookup entity =
    CraftReservationClient.entryOf (state.charges entity)

variable {state : Exchange} {next : CraftSystem}

def Current (state : Exchange) : Prop :=
  ∀ id request, state.system.client.outstanding.lookup id = some request →
    request.requirementId ≠ 0 → CurrentRequest state.system id

theorem Sound.exact_iff (sound : state.Sound) : state.Exact ↔ state.Current := by
  constructor
  · intro exact id request found leg
    rcases (exact.outstanding id).mp (by rw [found]; rfl) with ⟨current, -⟩ | ⟨charge, sent, none⟩
    · exact current
    · rw [sound.awaited, found] at sent
      cases sent
      exact absurd none leg
  · intro current
    refine ⟨fun id => ?_, sound.counted⟩
    rw [Option.isSome_iff_exists]
    constructor
    · rintro ⟨request, found⟩
      by_cases charge : request.requirementId = 0
      · exact .inr ⟨request, (sound.awaited id request).mpr found, charge⟩
      · exact .inl ⟨current id request found charge, request, (sound.awaited id request).mpr found⟩
    · rintro (⟨-, request, sent⟩ | ⟨request, sent, -⟩)
      · exact ⟨request, (sound.awaited id request).mp sent⟩
      · exact ⟨request, (sound.awaited id request).mp sent⟩

theorem initial_exact : initial.Exact := initial_sound.exact_iff.mpr fun _ _ => nofun

variable {leg : RequirementReservation}

theorem Sound.asks (sound : state.Sound) (live : LiveLeg state.system entity leg)
    (unaccepted : leg.fullyAccepted = false) (some : leg.requestId ≠ 0) :
    0 < leg.remainingAmount := by
  have old := sound.legs entity leg live
  have required : 0 < leg.requiredAmount := by
    by_contra unwanted
    exact some (old.wanted (Int.not_lt.mp unwanted))
  simp only [fullyAccepted, decide_eq_false_iff_not, not_and] at unaccepted
  rw [remainingAmount]
  omega

theorem unaccepted_of_missing (missing : 0 < leg.remainingAmount) : leg.fullyAccepted = false := by
  rw [remainingAmount] at missing
  rw [fullyAccepted, decide_eq_false_iff_not]
  omega

theorem Sound.current_requested_iff (sound : state.Sound) (current : state.Current)
    {craft : PendingCraft}
    (legs : RequestsLegs state.system.client next.client entity old craft.requirements requests)
    (source : (∃ was, state.system.pendingOf entity = some was ∧ old = was.requirements) ∨
      state.system.pendingOf entity = none ∧
        ∀ leg ∈ old, leg.requirementId ≠ 0 ∧ leg.requestId = 0 ∧ leg.acceptedAmount = 0)
    (crafts : ∀ other, next.pendingOf other =
      if other = entity then some craft else state.system.pendingOf other) :
    (⟨next, state.awaited ++ requests⟩ : Exchange).Current ↔
      ¬ ∃ leg, LiveLeg state.system entity leg ∧ 0 < leg.remainingAmount ∧
        (state.system.client.outstanding.lookup leg.requestId).isSome := by
  have after := sound.requested legs source crafts
  constructor
  · rintro kept ⟨leg, live, missing, held⟩
    obtain ⟨request, held⟩ := Option.isSome_iff_exists.mp held
    have before := sound.legs entity leg live
    have own := before.own request held
    obtain ⟨some, other, current, currentLive, unaccepted, same⟩ :=
      kept leg.requestId request ((legs.sends.found _ _).mpr (.inr held))
        (own.2 ▸ before.numbered)
    have mine := (after.legs other current currentLive).own request
      (same ▸ (legs.sends.found _ _).mpr (.inr held))
    obtain rfl : other = entity := mine.1.symm.trans own.1
    have asks := after.asks currentLive unaccepted (same ▸ some)
    obtain ⟨found, pending, mem⟩ := currentLive
    rw [crafts, if_pos rfl] at pending
    cases pending
    obtain ⟨was, inside, turned⟩ := legs.turned_mem mem
    unfold Turned at turned
    split at turned
    · next settled =>
      rw [← turned] at settled
      omega
    rcases turned.2 with none | sent
    · exact some (same.symm.trans none)
    have fresh := (legs.sends.minted _ sent).1
    have minted := before.minted
    simp only [same] at fresh
    omega
  · intro nothing id request found leg
    rcases (legs.sends.found id request).mp found with sent | held
    · obtain ⟨-, carrier, inside, same, -, missing⟩ := legs.carried _ sent
      have fresh := (legs.sends.minted _ sent).1
      have counting := sound.counting
      exact ⟨by omega, entity, carrier, ⟨craft, (crafts entity).trans (if_pos rfl), inside⟩,
        unaccepted_of_missing missing, same⟩
    · obtain ⟨some, other, carrier, live, unaccepted, same⟩ := current id request held leg
      have distinct : other ≠ entity := by
        rintro rfl
        refine nothing ⟨carrier, live, sound.asks live unaccepted (same ▸ some), ?_⟩
        rw [same, held]
        rfl
      obtain ⟨craft, pending, inside⟩ := live
      exact ⟨some, other, carrier, ⟨craft, (crafts other).trans ((if_neg distinct).trans pending),
        inside⟩, unaccepted, same⟩

theorem Sound.current_step_iff (sound : state.Sound) (current : state.Current)
    (input : ExchangeInput) : (state.step input).1.Current ↔ ¬ Supersedes state.system input := by
  have after := sound.step input
  unfold Exchange.step at after ⊢
  simp only at after ⊢
  generalize (state.system.exchange input).1 = next, (state.system.exchange input).2 = traffic,
    exchange_move state.system input sound.fresh = move at *
  cases move with
  | requested old legs source crafts supersedes =>
    rw [foldl_await_sent, supersedes]
    exact sound.current_requested_iff current legs source crafts
  | quiet client crafts still =>
    refine iff_of_true (fun id request found leg => ?_) still
    rw [client] at found
    obtain ⟨some, entity, carrier, ⟨craft, pending, inside⟩, rest⟩ := current id request found leg
    exact ⟨some, entity, carrier, ⟨craft, (crafts entity).trans pending, inside⟩, rest⟩
  | @cancelled entity client crafts still =>
    refine iff_of_true (fun id request found leg => ?_) still
    rw [client, lookup_drop] at found
    obtain ⟨some, other, carrier, live, unaccepted, same⟩ := current id request found.1 leg
    have own := (sound.legs other carrier live).own request (same ▸ found.1)
    have distinct : other ≠ entity := own.1 ▸ found.2
    obtain ⟨craft, pending, inside⟩ := live
    exact ⟨some, other, carrier, ⟨craft, (crafts other).trans ((if_neg distinct).trans pending),
      inside⟩, unaccepted, same⟩
  | @committed entity craft pending accepted client crafts still =>
    refine iff_of_true (fun id request found leg => ?_) still
    rw [client] at found
    obtain ⟨some, other, carrier, ⟨held, kept, inside⟩, unaccepted, same⟩ :=
      current id request found leg
    have distinct : other ≠ entity := by
      rintro rfl
      cases pending.symm.trans kept
      simp only [PendingCraft.fullyAccepted, Bool.and_eq_true, all_eq_true] at accepted
      rw [accepted.2 carrier inside] at unaccepted
      exact Bool.false_ne_true unaccepted.symm
    exact ⟨some, other, carrier, ⟨held, (crafts other).trans ((if_neg distinct).trans kept),
      inside⟩, unaccepted, same⟩
  | charged charges crafts still =>
    refine iff_of_true (fun id request found leg => ?_) still
    rcases (charges.sends.found id request).mp found with sent | held
    · exact absurd (charges.charges _ sent).2 leg
    · obtain ⟨some, other, carrier, ⟨craft, pending, inside⟩, rest⟩ := current id request held leg
      exact ⟨some, other, carrier, ⟨craft, (crafts other).trans pending, inside⟩, rest⟩
  | @answered requestId client unknown recorded still =>
    refine iff_of_true (fun id request found leg => ?_) still
    have sent := (after.awaited id request).mpr found
    rw [foldl_cons, foldl_nil, await, mem_filter, sound.awaited, bne_iff_ne] at sent
    obtain ⟨some, other, carrier, live, unaccepted, same⟩ := current id request sent.1 leg
    exact ⟨some, other, carrier, recorded.kept other carrier live (same ▸ sent.2), unaccepted, same⟩

def Prompt (state : Exchange) : Prop := ∀ id, CurrentRequest state.system id →
    ∃ request, state.system.client.outstanding.lookup id = some request

theorem Sound.exactByAcceptance_iff (sound : state.Sound) :
    state.ExactByAcceptance ↔ state.Current ∧ state.Prompt := by
  constructor
  · intro exact
    refine ⟨fun id request found leg => ?_, fun id current => ?_⟩
    · rcases (exact.outstanding id).mp (by rw [found]; rfl) with current | ⟨charge, sent, none⟩
      · exact current
      · rw [sound.awaited, found] at sent
        cases sent
        exact absurd none leg
    · exact Option.isSome_iff_exists.mp ((exact.outstanding id).mpr (.inl current))
  · rintro ⟨current, prompt⟩
    refine ⟨fun id => ?_, sound.counted⟩
    rw [Option.isSome_iff_exists]
    constructor
    · rintro ⟨request, found⟩
      by_cases charge : request.requirementId = 0
      · exact .inr ⟨request, (sound.awaited id request).mpr found, charge⟩
      · exact .inl (current id request found charge)
    · rintro (held | ⟨request, sent, -⟩)
      · exact prompt id held
      · exact ⟨request, (sound.awaited id request).mp sent⟩

theorem initial_exactByAcceptance : initial.ExactByAcceptance := by
  refine initial_sound.exactByAcceptance_iff.mpr ⟨fun _ _ => nofun, ?_⟩
  rintro id ⟨-, entity, leg, ⟨craft, pending, -⟩, -⟩
  exact absurd pending nofun

theorem Sound.prompt_of_move (sound : state.Sound) (prompt : state.Prompt) {traffic : List Traffic}
    (move : ExchangeMove state.system input next traffic)
    (after : (⟨next, traffic.foldl await state.awaited⟩ : Exchange).Sound)
    (unanswered : ∀ requestId, traffic ≠ [.answered requestId]) :
    (⟨next, traffic.foldl await state.awaited⟩ : Exchange).Prompt := by
  rintro id ⟨some, other, leg, live, unaccepted, same⟩
  have still : ∀ craft, state.system.pendingOf other = Option.some craft →
      leg ∈ craft.requirements → ∃ request,
        state.system.client.outstanding.lookup id = Option.some request :=
    fun craft pending inside =>
      prompt id ⟨some, other, leg, ⟨craft, pending, inside⟩, unaccepted, same⟩
  have asks := after.asks live unaccepted (same ▸ some)
  obtain ⟨craft, pending, inside⟩ := live
  cases move with
  | answered client unknown recorded still => exact absurd rfl (unanswered _)
  | quiet client crafts => exact client ▸ still craft ((crafts other).symm.trans pending) inside
  | @requested entity old new requests legs source crafts supersedes =>
    simp only [crafts] at pending
    split at pending
    · next own =>
      cases pending
      obtain ⟨was, -, turned⟩ := legs.turned_mem inside
      unfold Turned at turned
      split at turned
      · next settled =>
        rw [← turned] at settled
        omega
      · rcases turned.2 with none | sent
        · exact absurd (same.symm.trans none) some
        · exact ⟨_, (legs.sends.found id _).mpr (.inl (same ▸ sent))⟩
    · obtain ⟨request, found⟩ := still craft pending inside
      exact ⟨request, (legs.sends.found id request).mpr (.inr found)⟩
  | @cancelled entity client crafts =>
    simp only [crafts] at pending
    split at pending
    · exact absurd pending nofun
    rename_i distinct
    obtain ⟨request, found⟩ := still craft pending inside
    have own := (sound.legs other leg ⟨craft, pending, inside⟩).own request (same ▸ found)
    refine ⟨request, ?_⟩
    rw [client, lookup_drop]
    exact ⟨found, own.1 ▸ distinct⟩
  | committed held accepted client crafts =>
    simp only [crafts] at pending
    split at pending
    · exact absurd pending nofun
    · exact client ▸ still craft pending inside
  | charged charges crafts =>
    obtain ⟨request, found⟩ := still craft ((crafts other).symm.trans pending) inside
    exact ⟨request, (charges.sends.found id request).mpr (.inr found)⟩

theorem unaccepted_of_recorded (unaccepted : (leg.recordAccepted amount).fullyAccepted = false) :
    leg.fullyAccepted = false := by
  obtain ⟨-, -, required, accepted⟩ := recordAccepted_same leg amount
  rw [fullyAccepted, decide_eq_false_iff_not] at unaccepted ⊢
  omega

theorem recordAccepted_unaccepted_iff (missing : 0 < leg.remainingAmount)
    (required : 0 < leg.requiredAmount) (amount : Int) :
    (leg.recordAccepted amount).fullyAccepted = false ↔ amount < leg.remainingAmount := by
  rw [remainingAmount] at missing ⊢
  rw [fullyAccepted, decide_eq_false_iff_not]
  unfold recordAccepted
  split
  · next refused => omega
  · next recorded =>
    simp only [remainingAmount]
    omega

theorem Sound.prompt_response_iff (sound : state.Sound) (prompt : state.Prompt)
    (response : ResourceTransferResponse) : (state.step (.response response)).1.Prompt ↔
      ¬ Shortchanges state.system (.response response) := by
  have after := sound.step (.response response)
  have recorded := (response_move state.system response).recorded_of_answered rfl
  have records := @response_records state.system response
  unfold Exchange.step at after ⊢
  simp only [exchange, foldl_cons, foldl_nil] at after recorded records ⊢
  generalize (state.system.onConsumeResponse response).1 = next at *
  have looks : ∀ id request, next.client.outstanding.lookup id = some request ↔
      state.system.client.outstanding.lookup id = some request ∧ id ≠ response.requestId := by
    intro id request
    rw [← after.awaited, ← sound.awaited, await, mem_filter, bne_iff_ne]
  -- the leg that carries the answered request
  have lands : ∀ request entity leg,
      state.system.client.outstanding.lookup response.requestId = some request →
      LiveLeg state.system entity leg → leg.requestId = response.requestId →
      LiveLeg next entity (leg.recordAccepted (granted response request)) ∧
        ∀ later, LiveLeg next entity later → later.requestId = response.requestId →
          later = leg.recordAccepted (granted response request) := by
    intro request entity leg known live carries
    have old := sound.legs entity leg live
    have own := old.own request (carries ▸ known)
    obtain ⟨craft, pending, mem⟩ := live
    have some : response.requestId ≠ 0 := by
      intro none
      rw [none, sound.unused] at known
      cases known
    have apart := sound.apart entity craft pending
    have pendingNext := records known (own.2 ▸ old.numbered) own.1 pending apart mem carries
      some own.2.symm
    obtain ⟨recordedLeg, only⟩ := updateFirst_of_apart some (granted response request)
      carries apart mem
    refine ⟨⟨_, pendingNext, recordedLeg⟩, ?_⟩
    rintro later ⟨found, held, inside⟩ same
    cases pendingNext.symm.trans held
    exact only later inside same
  -- an unaccepted leg that was asked for misses something
  have misses : ∀ entity leg, LiveLeg state.system entity leg → leg.fullyAccepted = false →
      leg.requestId ≠ 0 → 0 < leg.remainingAmount ∧ 0 < leg.requiredAmount := by
    intro entity leg live unaccepted some
    refine ⟨sound.asks live unaccepted some, ?_⟩
    by_contra unwanted
    exact some ((sound.legs entity leg live).wanted (Int.not_lt.mp unwanted))
  constructor
  · rintro kept ⟨request, entity, leg, known, live, carries, unaccepted, short⟩
    have some : leg.requestId ≠ 0 := by
      intro none
      rw [← carries, none, sound.unused] at known
      cases known
    obtain ⟨missing, required⟩ := misses entity leg live unaccepted some
    obtain ⟨landed, -⟩ := lands request entity leg known live carries
    have same := (recordAccepted_same leg (granted response request)).2.1
    obtain ⟨later, found⟩ := kept leg.requestId ⟨some, entity, _, landed,
      (recordAccepted_unaccepted_iff missing required _).mpr short, same⟩
    exact ((looks leg.requestId later).mp found).2 carries
  · rintro full id ⟨some, entity, leg, live, unaccepted, same⟩
    have distinct : id ≠ response.requestId := by
      rintro rfl
      obtain ⟨was, wasLive, carries, wasUnaccepted⟩ : ∃ was, LiveLeg state.system entity was ∧
          was.requestId = response.requestId ∧ was.fullyAccepted = false := by
        rcases recorded.old entity leg live with kept | ⟨was, amount, wasLive, carries, rfl⟩
        · exact ⟨leg, kept, same, unaccepted⟩
        · exact ⟨was, wasLive, carries, unaccepted_of_recorded unaccepted⟩
      obtain ⟨request, known⟩ :=
        prompt response.requestId ⟨some, entity, was, wasLive, wasUnaccepted, carries⟩
      obtain rfl := (lands request entity was known wasLive carries).2 leg live same
      obtain ⟨missing, required⟩ := misses entity was wasLive wasUnaccepted (carries ▸ some)
      exact full ⟨request, entity, was, known, wasLive, carries, wasUnaccepted,
        (recordAccepted_unaccepted_iff missing required _).mp unaccepted⟩
    rcases recorded.old entity leg live with kept | ⟨was, amount, -, carries, rfl⟩
    · obtain ⟨request, found⟩ := prompt id ⟨some, entity, leg, kept, unaccepted, same⟩
      exact ⟨request, (looks id request).mpr ⟨found, distinct⟩⟩
    · rw [(recordAccepted_same was amount).2.1] at same
      exact absurd (same.symm.trans carries) distinct

theorem Sound.prompt_step_iff (sound : state.Sound) (prompt : state.Prompt)
    (input : ExchangeInput) : (state.step input).1.Prompt ↔ ¬ Shortchanges state.system input := by
  have others : (∀ response, input ≠ .response response) → (state.step input).1.Prompt :=
    fun other => sound.prompt_of_move prompt
      (exchange_move state.system input sound.fresh) (sound.step input)
      (exchange_unanswered state.system other)
  cases input with
  | response response => exact sound.prompt_response_iff prompt response
  | reload recipes => exact iff_of_true (others nofun) id
  | spawn entity slots energy => exact iff_of_true (others nofun) id
  | begin entity recipe nowTick publish => exact iff_of_true (others nofun) id
  | tick entity nowTick publish => exact iff_of_true (others nofun) id
  | cancel entity => exact iff_of_true (others nofun) id
  | commit entity first last => exact iff_of_true (others nofun) id
  | charge entity recipe publish => exact iff_of_true (others nofun) id

theorem exact_always_iff (inputs : List ExchangeInput) :
    (∀ before after, inputs = before ++ after → (machine.final initial before).Exact) ↔
      machine.Along (fun state input => ¬ Supersedes state.system input) initial inputs :=
  machine.always_iff_within Sound (fun _ input sound _ => sound.step input)
    (fun _ input sound _ exact =>
      (sound.step input).exact_iff.trans (sound.current_step_iff (sound.exact_iff.mp exact) input))
    initial_sound initial_exact (machine.along_true initial inputs)

theorem exactByAcceptance_always_iff (inputs : List ExchangeInput) :
    (∀ before after, inputs = before ++ after → (machine.final initial before).ExactByAcceptance) ↔
      machine.Along (fun state input =>
        ¬ Supersedes state.system input ∧ ¬ Shortchanges state.system input) initial inputs := by
  refine machine.always_iff_within Sound (fun _ input sound _ => sound.step input)
    (fun current input sound _ exact => ?_)
    initial_sound initial_exactByAcceptance (machine.along_true initial inputs)
  obtain ⟨now, prompt⟩ := sound.exactByAcceptance_iff.mp exact
  exact (sound.step input).exactByAcceptance_iff.trans
    (and_congr (sound.current_step_iff now input) (sound.prompt_step_iff prompt input))

theorem outstanding_exact_iff (inputs : List ExchangeInput) :
    ((∀ before after, inputs = before ++ after → (machine.final initial before).Exact) ↔
        machine.Along (fun state input => ¬ Supersedes state.system input) initial inputs) ∧
      ((∀ before after, inputs = before ++ after →
          (machine.final initial before).ExactByAcceptance) ↔
        machine.Along (fun state input =>
          ¬ Supersedes state.system input ∧ ¬ Shortchanges state.system input) initial inputs) :=
  ⟨exact_always_iff inputs, exactByAcceptance_always_iff inputs⟩

def electrolysis : Recipe where
  id := "gtnh:electrolyzer"
  inputs := []
  outputs := []
  minTier := 0
  maxTier := 32767
  energyType := ENERGY_TYPE_ANY
  hasPattern := false
  pattern := Vector.replicate 9 ⟨0, 0, 0⟩
  resourceRequirements := [⟨.eu, 0, 32⟩]

def unansweredRetry : List ExchangeInput :=
  [.spawn 1 [] ⟨1000, 0⟩, .begin 1 electrolysis 1 fun _ => true, .tick 1 11 fun _ => true]

theorem unansweredRetry_sound : (machine.final initial unansweredRetry).Sound :=
  ((initial_sound.step _).step _).step _

theorem unansweredRetry_not_current : ¬ (machine.final initial unansweredRetry).Current := by
  intro current
  have found : (machine.final initial unansweredRetry).system.client.outstanding.lookup 1 =
      some ⟨1, 1, 32⟩ := by decide +kernel
  obtain ⟨-, entity, leg, live, -, same⟩ := current 1 _ found (by decide)
  obtain rfl : 1 = entity :=
    ((unansweredRetry_sound.legs entity leg live).own ⟨1, 1, 32⟩ (by rw [same, found])).1
  obtain ⟨craft, pending, mem⟩ := live
  have asks : ∀ craft ∈ (machine.final initial unansweredRetry).system.pendingOf 1,
      ∀ leg ∈ craft.requirements, leg.requestId = 2 := by decide +kernel
  have second := asks craft pending leg mem
  omega

theorem unansweredRetry_not_exact : ¬ (machine.final initial unansweredRetry).Exact ∧
      ¬ (machine.final initial unansweredRetry).ExactByAcceptance :=
  ⟨fun exact => unansweredRetry_not_current (unansweredRetry_sound.exact_iff.mp exact),
    fun exact => unansweredRetry_not_current
      (unansweredRetry_sound.exactByAcceptance_iff.mp exact).1⟩

end Exchange

end GtnhPlatform.SimCore
