import GtnhPlatform.SimCore.ChargeInvariant

namespace GtnhPlatform.SimCore

open Common Crafting Inventory CraftReservationClient List CraftSystem CraftEvent

variable {recipe : Recipe} {entity : Nat} {capacity : Int} {system : CraftSystem}
variable {history log : List CraftEvent} {machine : MachineEntity}

theorem requested_plain {owner : Nat} {events : List CraftEvent}
    (requested : ∀ event ∈ events, ∃ leg charge message,
      event = .requested owner leg charge message) : ∀ event ∈ events, event.Plain := by
  intro event mem
  obtain ⟨leg, charge, message, rfl⟩ := requested event mem
  trivial

theorem lookup_creditBuffer (found : system.registry.lookup entity = some machine)
    (lower : 0 ≤ amount) :
    ∃ current, (system.creditBuffer entity amount).registry.lookup entity =
        some { machine with energy := { machine.energy with current := current } } ∧
      current ≤ machine.energy.current + amount ∧
      (current ≤ machine.energy.capacity ∨ (amount = 0 ∧ current = machine.energy.current)) := by
  unfold creditBuffer
  simp only [found]
  split
  · next nothing =>
    refine ⟨machine.energy.current, found, ?_, Or.inr ⟨?_, rfl⟩⟩ <;> omega
  · refine ⟨_, ?_, Int.min_le_left _ _, Or.inl (Int.min_le_right _ _)⟩
    rw [ReservationInvariant.lookup_setMachine, if_pos rfl]

theorem creditBuffer_recipes (system : CraftSystem) (entity : Nat) (amount : Int) :
    (system.creditBuffer entity amount).recipes = system.recipes := by
  unfold creditBuffer
  split
  · rfl
  · split <;> rfl

namespace ChargeInvariant

theorem quiet (invariant : ChargeInvariant recipe entity capacity system history log) :
    ChargeInvariant recipe entity capacity system (history ++ []) (log ++ []) := by
  simpa using invariant

theorem install {next : CraftSystem} {machine : MachineEntity}
    (loaded : next.recipes.lookup recipe.id = some recipe)
    (minted : ∀ event ∈ log, event.Minted next.client.nextRequestId)
    (nonneg : ∀ leg, 0 ≤ paid entity leg log)
    (asked : ∀ id request, next.client.outstanding.lookup id = some request →
      request.entity = entity → 0 ≤ request.requested)
    (capacityEq : machine.energy.capacity = capacity)
    (phase : ChargePhase recipe entity next.client history log machine) :
    ChargeInvariant recipe entity capacity (next.setMachine entity machine) history log where
  loaded := loaded
  minted := minted
  nonneg := nonneg
  asked := asked
  phase := by
    refine ⟨machine, ?_, capacityEq, phase⟩
    rw [ReservationInvariant.lookup_setMachine, if_pos rfl]

variable (invariant : ChargeInvariant recipe entity capacity system history log)

include invariant

theorem cancel : ChargeInvariant recipe entity capacity (system.cancel entity) history log := by
  obtain ⟨machine, found, capacityEq, phase⟩ := invariant.phase
  have opens : ∀ id request, (system.client.drop entity).outstanding.lookup id = some request →
      request.entity = entity → system.client.outstanding.lookup id = some request :=
    fun id request found _ => drop_subset entity id request found
  have cancelled : ChargePhase recipe entity (system.client.drop entity) history log
      { machine with progress := { machine.progress with pendingCraft := none } } := by
    cases phase with
    | waiting idle unreserved empty unbegun unadvanced unpaid quiet =>
      exact .waiting idle rfl empty unbegun unadvanced unpaid
        fun id request found own => quiet id request (opens id request found own) own
    | reserving craft idle reserved named once unadvanced =>
      exact .ended idle rfl once (chargeLaw_of_unadvanced unadvanced invariant.nonneg)
    | running named nonempty unreserved once full within brief alone tagged law =>
      exact .running named nonempty rfl once full within brief alone
        (fun single id request found own =>
          tagged single id request (opens id request found own) own) law
    | ended idle unreserved once law => exact .ended idle rfl once law
  unfold CraftSystem.cancel
  simp only [found]
  exact install invariant.loaded invariant.minted invariant.nonneg
    (fun id request found own => invariant.asked id request (opens id request found own) own)
    capacityEq cancelled

theorem beginReservation (accounts : ReservationInvariant system history) (nowTick : Nat) (publish : Nat → Bool)
    (single : begun entity (log ++ (system.beginReservation entity recipe nowTick publish).2) ≤ 1) :
    ChargeInvariant recipe entity capacity (system.beginReservation entity recipe nowTick publish).1
      (history ++ (system.beginReservation entity recipe nowTick publish).2)
      (log ++ (system.beginReservation entity recipe nowTick publish).2) := by
  obtain ⟨machine, found, capacityEq, phase⟩ := invariant.phase
  unfold CraftSystem.beginReservation at *
  simp only [found] at single ⊢
  split
  · exact invariant.quiet
  rename_i reserves
  rw [if_neg reserves] at single
  simp only [Bool.or_eq_true, not_or, Option.not_isSome_iff_eq_none] at reserves
  have twice : begun entity log = 0 := by
    simp only [begun_append] at single
    have here : 1 ≤ begun entity (CraftEvent.begun entity recipe ::
        (system.client.requestAll publish entity (newReservations recipe nowTick)).2.2) := by
      simp [begun, CraftEvent.begins]
    omega
  cases phase with
  | reserving craft idle reserved =>
    rw [reserved] at reserves
    exact absurd reserves.1 (by simp)
  | running named nonempty unreserved once => omega
  | ended idle unreserved once => omega
  | waiting idle unreserved empty unbegun unadvanced unpaid quiet =>
    have requested := requestAll_neutral publish entity system.client
      (newReservations recipe nowTick)
    have plain := requested_plain requested
    have pays : ∀ leg, paid entity leg (log ++ CraftEvent.begun entity recipe ::
        (system.client.requestAll publish entity (newReservations recipe nowTick)).2.2) = 0 := by
      intro leg
      rw [paid_append, paidFrom, paidFrom_plain _ plain, unpaid]
      rfl
    have none : begun entity
        (system.client.requestAll publish entity (newReservations recipe nowTick)).2.2 = 0 :=
      begun_plain plain
    have still : advanced entity
        (system.client.requestAll publish entity (newReservations recipe nowTick)).2.2 = 0 :=
      advanced_plain plain
    have opens := requestAll_opens accounts.clientFresh publish entity
      (newReservations recipe nowTick)
    refine install invariant.loaded ?_ (fun leg => Int.le_of_eq (pays leg).symm) ?_
      capacityEq ?_
    · intro event mem
      have grows := (requestAll_extends accounts.clientFresh publish
        entity (newReservations recipe nowTick)).1
      rcases mem_append.mp mem with earlier | now
      · exact Minted.later (invariant.minted event earlier) grows.count
      rcases mem_cons.mp now with rfl | sent
      · trivial
      · exact requestAll_minted accounts.clientFresh publish entity _
          event sent
    · intro id request found own
      exact (opens id request found).elim (fun old => invariant.asked id request old own)
        fun new => new.2.1
    · refine .reserving _ idle rfl rfl ?_ ?_ ?_ ?_ ?_ (Or.inr pays) ?_
      · rw [begun_append, unbegun, ← singleton_append, begun_append, none]
        simp [begun, begins]
      · rw [advanced_append, unadvanced, ← singleton_append, advanced_append, still]
        simp [advanced, advances]
      · rw [← singleton_append, ← append_assoc, lastRecipe_neutral _ _ fun event
          mem => Plain.neutral (plain event mem), lastRecipe_begun, if_pos rfl]
      · intro index
        rw [pays, ← singleton_append, ← append_assoc, acceptedSince_neutral _ _ _
          fun event mem => Plain.neutral (plain event mem), acceptedSince_begun,
          if_pos rfl]
      · intro id request open' own
        rcases opens id request open' with old | ⟨-, -, reservation, mem, leg⟩
        · exact absurd own (quiet id request old)
        · rw [leg]
          obtain ⟨index, inside, rfl⟩ := getElem_of_mem mem
          simp [newReservations, newReservation]
      · intro _ _
        rw [pays]
        exact Int.le_of_eq empty

theorem tickPending (accounts : ReservationInvariant system history) (nowTick : Nat) (publish : Nat → Bool) :
    ChargeInvariant recipe entity capacity (system.tickPending entity nowTick publish).1
      (history ++ (system.tickPending entity nowTick publish).2.2)
      (log ++ (system.tickPending entity nowTick publish).2.2) := by
  obtain ⟨machine, found, capacityEq, phase⟩ := invariant.phase
  unfold CraftSystem.tickPending
  simp only [found]
  cases pending : machine.progress.pendingCraft with
  | none => exact invariant.quiet
  | some craft =>
    simp only
    split
    · exact invariant.quiet
    split
    · simpa using invariant.cancel
    split
    · exact invariant.quiet
    have requested := requestAll_neutral publish entity
      system.client craft.requirements
    have unseen : Unseen entity history log _ :=
      Unseen.of_plain history log (requested_plain requested)
    have grows := (requestAll_extends accounts.clientFresh publish
      entity craft.requirements).1
    have opens := requestAll_opens accounts.clientFresh publish entity
      craft.requirements
    refine install invariant.loaded ?_ (fun leg => ?_) ?_ capacityEq ?_
    · intro event mem
      rcases mem_append.mp mem with earlier | sent
      · exact Minted.later (invariant.minted event earlier) grows.count
      · exact requestAll_minted accounts.clientFresh publish entity _
          event sent
    · rw [paid_append, unseen.paid, Int.add_zero]
      exact invariant.nonneg leg
    · intro id request found own
      exact (opens id request found).elim (fun old => invariant.asked id request old own)
        fun new => new.2.1
    · cases phase with
      | waiting idle unreserved =>
        exact absurd (unreserved.symm.trans pending) nofun
      | running named nonempty unreserved =>
        exact absurd (unreserved.symm.trans pending) nofun
      | ended idle unreserved =>
        exact absurd (unreserved.symm.trans pending) nofun
      | reserving reservedCraft idle reserved named once unadvanced last books uncharged
          within alone =>
        obtain rfl := Option.some.inj (reserved.symm.trans pending)
        have pays : ∀ leg, paid entity leg (log ++ (system.client.requestAll publish entity
            reservedCraft.requirements).2.2) = paid entity leg log := by
          intro leg
          rw [paid_append, unseen.paid, Int.add_zero]
        refine .reserving _ idle rfl ?_ ?_ ?_ ?_ ?_ ?_ ?_ ?_
        · exact named
        · rw [begun_append, unseen.begun, once]
        · rw [advanced_append, unseen.advanced, unadvanced]
        · exact unseen.last.trans last
        · intro index
          rw [pays, unseen.accepted]
          exact books index
        · intro id request open' own
          rcases opens id request open' with old | ⟨-, -, reservation, mem, leg⟩
          · exact uncharged id request old own
          obtain ⟨index, inside, rfl⟩ := getElem_of_mem mem
          obtain ⟨begunRecipe, crafts⟩ := accounts.booked entity machine _ found pending
          have legInside := crafts.legs ▸ inside
          have booked := crafts.booked index _ _ (getElem?_eq_getElem inside)
            (getElem?_eq_getElem legInside)
          rw [leg, booked.identity]
          exact Nat.succ_ne_zero index
        · exact within.imp_right fun none leg => (pays leg).trans (none leg)
        · intro single fluids
          rw [pays]
          exact alone single fluids

omit invariant

variable {craft : PendingCraft}

theorem fullyPaid (accounts : ReservationInvariant system history)
    (found : system.registry.lookup entity = some machine)
    (reserved : machine.progress.pendingCraft = some craft)
    (last : lastRecipe entity history = some recipe)
    (books : ∀ index, paid entity (index + 1) log = acceptedSince entity (index + 1) history)
    (accepted : craft.fullyAccepted = true) :
    reservationLegs recipe ≠ [] ∧ FullyPaid recipe entity log := by
  obtain ⟨begunRecipe, crafts⟩ := accounts.booked entity machine craft found reserved
  cases last.symm.trans crafts.last
  simp only [PendingCraft.fullyAccepted, Bool.and_eq_true, all_eq_true,
    Bool.not_eq_true', List.isEmpty_eq_false_iff] at accepted
  refine ⟨?_, fun index leg legFound => ?_⟩
  · rw [← length_pos_iff_ne_nil, ← crafts.legs]
    exact length_pos_iff_ne_nil.mpr accepted.1
  have inside : index < craft.requirements.length := by
    rw [crafts.legs]
    exact (List.getElem?_eq_some_iff.mp legFound).1
  have booked := crafts.booked index _ leg (getElem?_eq_getElem inside) legFound
  have full := accepted.2 _ (getElem_mem inside)
  simp only [RequirementReservation.fullyAccepted, decide_eq_true_eq, booked.required,
    booked.accepted] at full
  have width := leg.2.2.toNat_lt
  have exact := wrapI32_of_pos (Int.natCast_nonneg _) (by exact_mod_cast width) full.1
  refine ⟨full.1, ?_⟩
  rw [books]
  omega

variable {requirement : ResourceRequirement}

theorem reservationLegs_cons (legs : recipe.resourceRequirements = requirement :: rest) :
    (reservationLegs recipe)[0]? =
      some (requirement.kind, requirement.resourceId, requirement.amount) := by
  simp [reservationLegs, legs]

variable (invariant : ChargeInvariant recipe entity capacity system history log)

include invariant

theorem commitPendingCraft (accounts : ReservationInvariant system history) (first last : Nat) :
    ChargeInvariant recipe entity capacity (system.commitPendingCraft entity first last).1
      (history ++ (system.commitPendingCraft entity first last).2)
      (log ++ (system.commitPendingCraft entity first last).2) := by
  obtain ⟨machine, found, capacityEq, phase⟩ := invariant.phase
  unfold CraftSystem.commitPendingCraft
  simp only [found]
  cases pending : machine.progress.pendingCraft with
  | none => exact invariant.quiet
  | some craft =>
    simp only
    split
    · exact invariant.quiet
    rename_i accepted
    have accepted : craft.fullyAccepted = true := by simpa using accepted
    have plain : ∀ event ∈ [committed entity], event.Plain := by
      simp [CraftEvent.Plain]
    have unseen : Unseen entity history log _ := Unseen.of_plain history log plain
    have pays : ∀ leg, paid entity leg (log ++ [.committed entity]) = paid entity leg log := by
      intro leg
      rw [paid_append, unseen.paid, Int.add_zero]
    cases phase with
    | waiting idle unreserved =>
      exact absurd (unreserved.symm.trans pending) nofun
    | running named nonempty unreserved =>
      exact absurd (unreserved.symm.trans pending) nofun
    | ended idle unreserved =>
      exact absurd (unreserved.symm.trans pending) nofun
    | reserving reservedCraft idle reserved named once unadvanced last books uncharged within
        alone =>
      cases reserved.symm.trans pending
      obtain ⟨present, full⟩ := fullyPaid accounts found pending last books accepted
      have onceStill : begun entity (log ++ [.committed entity]) = 1 := by
        rw [begun_append, unseen.begun, once]
      have unadvancedStill : advanced entity (log ++ [.committed entity]) = 0 := by
        rw [advanced_append, unseen.advanced, unadvanced]
      have nonneg : ∀ leg, 0 ≤ paid entity leg (log ++ [.committed entity]) := by
        intro leg
        rw [pays]
        exact invariant.nonneg leg
      have law : ChargeLaw entity recipe (log ++ [.committed entity]) :=
        chargeLaw_of_unadvanced unadvancedStill nonneg
      rw [named, invariant.loaded]
      refine install invariant.loaded ?_ nonneg invariant.asked capacityEq ?_
      · intro event mem
        rcases mem_append.mp mem with earlier | now
        · exact invariant.minted event earlier
        · obtain rfl := mem_singleton.mp now
          trivial
      · by_cases nonempty : recipe.id = ""
        · exact .ended nonempty rfl onceStill law
        have capped : machine.energy.current ≤ machine.energy.capacity := by
          refine within.resolve_right fun unpaid => ?_
          obtain ⟨reservation, rest, legs⟩ := exists_cons_of_ne_nil present
          have first := full 0 reservation (by rw [legs]; rfl)
          rw [unpaid] at first
          have width := reservation.2.2.toNat_lt
          have exact := wrapI32_of_pos (Int.natCast_nonneg _) (by exact_mod_cast width)
            first.1
          omega
        refine .running rfl nonempty rfl onceStill ?_ capped (fun short => ?_) ?_ ?_ law
        · intro index leg legFound
          rw [pays]
          exact full index leg legFound
        · exact ⟨unadvancedStill, short⟩
        · rintro requirement ⟨only, rest⟩
          rw [unadvancedStill, pays]
          simp only [Nat.cast_zero, Int.zero_mul, Int.add_zero]
          rcases rest with fluids | tight
          · exact alone (by rw [only]; rfl) fluids
          · have own := (full 0 _ (reservationLegs_cons only)).2
            exact Int.le_trans capped (Int.le_trans tight own)
        · intro _ id request open' own charge
          exact absurd charge (uncharged id request open' own)

theorem start (accounts : ReservationInvariant system history) (nowTick first last : Nat)
    (publish : Nat → Bool) (single : begun entity
      (log ++ (system.start entity recipe.id nowTick first last publish).2) ≤ 1) :
    ChargeInvariant recipe entity capacity
      (system.start entity recipe.id nowTick first last publish).1
      (history ++ (system.start entity recipe.id nowTick first last publish).2)
      (log ++ (system.start entity recipe.id nowTick first last publish).2) := by
  obtain ⟨machine, found, capacityEq, phase⟩ := invariant.phase
  unfold CraftSystem.start at *
  simp only [found, invariant.loaded] at single ⊢
  split
  · next starts =>
    rw [if_pos starts] at single
    have stale : system.cancelStale entity recipe = system := by
      unfold cancelStale
      rw [found]
      cases pending : machine.progress.pendingCraft with
      | none => simp [pending]
      | some craft =>
        cases phase with
        | reserving reservedCraft idle reserved named =>
          cases reserved.symm.trans pending
          simp [pending, named]
        | waiting idle unreserved => simp [pending] at unreserved
        | running named nonempty unreserved => simp [pending] at unreserved
        | ended idle unreserved => simp [pending] at unreserved
    unfold tickOrchestratedStart at *
    simp only [stale] at single ⊢
    split
    · next unreserved =>
      rw [if_pos unreserved] at single
      exact invariant.beginReservation accounts nowTick publish single
    have ticked := invariant.tickPending accounts nowTick publish
    split
    · exact ticked
    · rw [← append_assoc, ← append_assoc]
      exact ticked.commitPendingCraft (accounts.tickPending entity nowTick publish) first last
  · exact invariant.quiet

omit invariant

theorem answer_nonneg (acceptedAmount : Int) {requested : Int} (positive : 0 ≤ requested) :
    0 ≤ if 0 < acceptedAmount then min acceptedAmount requested else 0 := by
  split <;> omega

theorem begun_accepted (requirementId requestId : Nat) (amount : Int) :
    begun entity (log ++ [.accepted entity requirementId requestId amount]) = begun entity log := by
  simp [begun, begins]

theorem advanced_accepted (requirementId requestId : Nat) (amount : Int) :
    advanced entity (log ++ [.accepted entity requirementId requestId amount]) =
      advanced entity log := by
  simp [advanced, advances]

theorem paid_accepted (requirementId requestId : Nat) (amount : Int) (leg : Nat) :
    paid entity leg (log ++ [.accepted entity requirementId requestId amount]) =
      paid entity leg log + if (if requirementId = 0 then requestLeg requestId log = some leg
          else requirementId = leg) then amount else 0 := by
  simp [paid_append, paidFrom, pays]

variable {requestId : Nat} {pending : OutstandingRequest}

theorem settle (invariant : ChargeInvariant recipe entity capacity system history log)
    (answered : system.client.outstanding.lookup requestId = some pending)
    (own : pending.entity = entity) (charge : pending.requirementId = 0) (lower : 0 ≤ amount) :
    ChargeInvariant recipe entity capacity
      (creditBuffer
        { system with client := (system.client.forget requestId).settleCharge entity } entity amount)
      (history ++ [.accepted entity 0 requestId amount])
      (log ++ [.accepted entity 0 requestId amount]) := by
  obtain ⟨machine, found, capacityEq, phase⟩ := invariant.phase
  let settled : CraftSystem :=
    { system with client := (system.client.forget requestId).settleCharge entity }
  have present : settled.registry.lookup entity = some machine := found
  obtain ⟨current, credited, most, capped⟩ := lookup_creditBuffer present lower
  have opens : ∀ id request, settled.client.outstanding.lookup id = some request →
      request.entity = entity → system.client.outstanding.lookup id = some request :=
    (ChargeFrame.forget entity system requestId).opens
  have more : ∀ leg, paid entity leg log ≤
      paid entity leg (log ++ [.accepted entity 0 requestId amount]) := by
    intro leg
    rw [paid_accepted]
    split <;> omega
  refine ⟨?_, ?_, ?_, ?_, _, credited, capacityEq, ?_⟩
  · rw [creditBuffer_recipes]
    exact invariant.loaded
  · rw [ReservationInvariant.creditBuffer_client]
    intro event mem
    rcases mem_append.mp mem with earlier | now
    · exact invariant.minted event earlier
    · obtain rfl := mem_singleton.mp now
      trivial
  · exact fun leg => Int.le_trans (invariant.nonneg leg) (more leg)
  · rw [ReservationInvariant.creditBuffer_client]
    exact fun id request open' own => invariant.asked id request (opens id request open' own) own
  · rw [ReservationInvariant.creditBuffer_client]
    cases phase with
    | waiting idle unreserved empty unbegun unadvanced unpaid quiet =>
      exact absurd own (quiet requestId pending answered)
    | reserving craft idle reserved named once unadvanced last books uncharged =>
      exact absurd charge (uncharged requestId pending answered own)
    | running named nonempty unreserved once full within brief alone tagged law =>
      refine .running named nonempty unreserved ((begun_accepted _ _ _).trans once) ?_ ?_ ?_ ?_ ?_ ?_
      · intro index leg legFound
        exact (full index leg legFound).imp_right fun paid => Int.le_trans paid (more _)
      · rcases capped with below | ⟨-, same⟩
        · exact below
        · exact same ▸ within
      · rw [advanced_accepted]
        exact brief
      · intro requirement lone
        have before := alone requirement lone
        have leg := tagged (by rw [lone.1]; rfl) requestId pending answered own charge
        have whole : paid entity 1 (log ++ [.accepted entity 0 requestId amount]) =
            paid entity 1 log + amount := by
          simp [paid_accepted, leg]
        rw [advanced_accepted, whole]
        simp only
        omega
      · exact fun single id request open' own charge => requestLeg_append _
          (tagged single id request (opens id request open' own) own charge)
      · intro index requirement legFound
        rw [advanced_accepted]
        exact Int.le_trans (law index requirement legFound) (more _)
    | ended idle unreserved once law =>
      refine .ended idle unreserved ((begun_accepted _ _ _).trans once) ?_
      intro index requirement legFound
      rw [advanced_accepted]
      exact Int.le_trans (law index requirement legFound) (more _)

variable {reservation : RequirementReservation}

theorem matched_leg (accounts : ReservationInvariant system history)
    (found : system.registry.lookup entity = some machine)
    (reserved : machine.progress.pendingCraft = some craft)
    (last : lastRecipe entity history = some recipe)
    (matched : craft.findReservationByRequestId requestId = some reservation) :
    ∃ index, index < (reservationLegs recipe).length ∧ reservation.requirementId = index + 1 := by
  obtain ⟨begunRecipe, crafts⟩ := accounts.booked entity machine craft found reserved
  cases last.symm.trans crafts.last
  obtain ⟨index, inside, rfl⟩ := getElem_of_mem (mem_of_find?_eq_some matched)
  have legInside := crafts.legs ▸ inside
  exact ⟨index, legInside, (crafts.booked index _ _ (getElem?_eq_getElem inside)
    (getElem?_eq_getElem legInside)).identity⟩

variable (invariant : ChargeInvariant recipe entity capacity system history log)

include invariant

theorem record (accounts : ReservationInvariant system history) {machine : MachineEntity}
    (uncharged : pending.requirementId ≠ 0) (found : system.registry.lookup entity = some machine)
    (kept : machine.progress.pendingCraft = some craft)
    (matched : craft.findReservationByRequestId requestId = some reservation)
    (sameLeg : reservation.requirementId = pending.requirementId) (lower : 0 ≤ amount) :
    ChargeInvariant recipe entity capacity
      (({ system with client := system.client.forget requestId }.setProgress entity machine
          { machine.progress with
            pendingCraft := some (craft.recordAccepted requestId amount) }).creditBuffer entity
        amount)
      (history ++ [.accepted entity pending.requirementId requestId amount])
      (log ++ [.accepted entity pending.requirementId requestId amount]) := by
  obtain ⟨other, otherFound, capacityEq, phase⟩ := invariant.phase
  cases found.symm.trans otherFound
  let recorded := { system with client := system.client.forget requestId }.setProgress entity machine
    { machine.progress with pendingCraft := some (craft.recordAccepted requestId amount) }
  have installed : recorded.registry.lookup entity = some { machine with
      progress := { machine.progress with
        pendingCraft := some (craft.recordAccepted requestId amount) } } := by
    simp only [recorded, setProgress]
    rw [ReservationInvariant.lookup_setMachine, if_pos rfl]
  obtain ⟨current, credited, most, capped⟩ := lookup_creditBuffer installed lower
  have opens : ∀ id request, recorded.client.outstanding.lookup id = some request →
      request.entity = entity → system.client.outstanding.lookup id = some request :=
    (ChargeFrame.forget entity system requestId).opens
  have pays : ∀ leg, paid entity leg
      (log ++ [.accepted entity pending.requirementId requestId amount]) =
        paid entity leg log + if pending.requirementId = leg then amount else 0 := by
    intro leg
    simp [paid_accepted, uncharged]
  cases phase with
  | waiting idle unreserved =>
    rw [unreserved] at kept
    exact absurd kept (by simp)
  | running named nonempty unreserved =>
    rw [unreserved] at kept
    exact absurd kept (by simp)
  | ended idle unreserved =>
    rw [unreserved] at kept
    exact absurd kept (by simp)
  | reserving reservedCraft idle reserved named once unadvanced last books unchargedAll within alone =>
    cases reserved.symm.trans kept
    refine ⟨?_, ?_, ?_, ?_, _, credited, capacityEq, ?_⟩
    · rw [creditBuffer_recipes]
      exact invariant.loaded
    · rw [ReservationInvariant.creditBuffer_client]
      intro event mem
      rcases mem_append.mp mem with earlier | now
      · exact invariant.minted event earlier
      · obtain rfl := mem_singleton.mp now
        trivial
    · intro leg
      have before := invariant.nonneg leg
      rw [pays]
      split <;> omega
    · rw [ReservationInvariant.creditBuffer_client]
      exact fun id request open' own => invariant.asked id request (opens id request open' own) own
    · rw [ReservationInvariant.creditBuffer_client]
      refine .reserving _ idle rfl named ((begun_accepted _ _ _).trans once)
        ((advanced_accepted _ _ _).trans unadvanced) ((lastRecipe_accepted _ _ _ _).trans last)
        (fun index => ?_) (fun id request open' own =>
          unchargedAll id request (opens id request open' own) own) ?_ (fun single fluids => ?_)
      · rw [pays, acceptedSince_accepted, books]
        split <;> simp_all
      · rcases capped with below | ⟨nothing, same⟩
        · exact Or.inl below
        · refine within.imp (fun below => same ▸ below) fun unpaid leg => ?_
          rw [pays, unpaid, nothing]
          split <;> rfl
      · obtain ⟨index, inside, leg⟩ := matched_leg accounts found kept last matched
        simp only [reservationLegs, length_append, length_map, single, fluids, length_nil] at inside
        have one : pending.requirementId = 1 := by omega
        have before := alone single fluids
        rw [pays, if_pos one]
        simp only at most ⊢
        omega

theorem report {events : List CraftEvent} (plain : ∀ event ∈ events, event.Plain)
    (minted : ∀ event ∈ events, event.Minted system.client.nextRequestId) :
    ChargeInvariant recipe entity capacity system (history ++ events) (log ++ events) where
  __ := invariant
  minted := fun event mem =>
    (mem_append.mp mem).elim (invariant.minted event) (minted event)
  nonneg := fun leg => by
    rw [paid_append, paidFrom_plain log plain, Int.add_zero]
    exact invariant.nonneg leg
  phase := by
    obtain ⟨machine, found, capacityEq, phase⟩ := invariant.phase
    exact ⟨_, found, capacityEq, phase.unseen (Unseen.of_plain history log plain)
      (fun _ _ found _ => found) machine.slots⟩

theorem onConsumeResponse (accounts : ReservationInvariant system history) (response : ResourceTransferResponse) :
    ChargeInvariant recipe entity capacity (system.onConsumeResponse response).1
      (history ++ (system.onConsumeResponse response).2)
      (log ++ (system.onConsumeResponse response).2) := by
  by_cases ours : ∃ pending, system.client.outstanding.lookup response.requestId = some pending ∧
      pending.entity = entity
  · obtain ⟨pending, answered, own⟩ := ours
    have lower := answer_nonneg response.acceptedAmount
      (invariant.asked response.requestId pending answered own)
    have forgotten := invariant.frame (ChargeFrame.forget entity system response.requestId)
    obtain ⟨machine, found, -, -⟩ := invariant.phase
    unfold CraftSystem.onConsumeResponse
    subst own
    simp only [answered, found]
    split
    · next charge => exact invariant.settle answered rfl charge lower
    rename_i uncharged
    cases kept : machine.progress.pendingCraft with
    | none => exact forgotten
    | some craft =>
      simp only
      cases matched : craft.findReservationByRequestId response.requestId with
      | none => exact forgotten
      | some reservation =>
        simp only
        split
        · exact forgotten
        rename_i sameLeg
        have recorded := invariant.record accounts uncharged found kept matched
          (Decidable.not_not.mp sameLeg) lower
        rw [← singleton_append, ← append_assoc, ← append_assoc]
        refine recorded.report ?_ ?_
        · intro event mem
          rw [mem_ite_nil_right] at mem
          rw [mem_singleton.mp mem.2]
          trivial
        · intro event mem
          rw [mem_ite_nil_right] at mem
          rw [mem_singleton.mp mem.2]
          trivial
  · exact invariant.frame (ChargeFrame.onConsumeResponse response
      fun pending answered own => ours ⟨pending, answered, own⟩)

omit invariant

theorem chargeAll_single (client : CraftReservationClient) (publish : Nat → Bool) (entity : Nat)
    (requirement : ResourceRequirement) : client.chargeAll publish entity 1 [requirement] =
      if wrapI32 requirement.amount.toNat ≤ 0 then (client, [])
      else if publish client.nextRequestId then
        ((client.emplace ⟨entity, 0, wrapI32 requirement.amount.toNat⟩).countCharge entity,
          [.requested entity 1 true ⟨client.nextRequestId, 0, requirement.kind,
            requirement.resourceId, wrapI32 requirement.amount.toNat⟩]) else (client.skip, []) := by
  simp only [chargeAll]

theorem chargeAll_tagged {client : CraftReservationClient} (fresh : client.Fresh)
    (minted : ∀ event ∈ log, event.Minted client.nextRequestId) (publish : Nat → Bool)
    {requirements : List ResourceRequirement} (single : requirements.length = 1)
    (before : ∀ id request, client.outstanding.lookup id = some request →
      request.entity = entity → request.requirementId = 0 → requestLeg id log = some 1) :
    ∀ id request,
      (client.chargeAll publish entity 1 requirements).1.outstanding.lookup id = some request →
        request.entity = entity → request.requirementId = 0 →
          requestLeg id (log ++ (client.chargeAll publish entity 1 requirements).2) = some 1 := by
  obtain ⟨requirement, rfl⟩ := length_eq_one_iff.mp single
  intro id request
  rw [chargeAll_single]
  split
  · simpa using before id request
  split
  · intro found own charge
    rcases eq_or_ne id client.nextRequestId with same | older
    · rw [same, requestLeg, findSome?_append]
      have none := requestLeg_unminted minted (Nat.le_refl _)
      rw [requestLeg] at none
      rw [none]
      simp
    · refine requestLeg_append _ (before id request ?_ own charge)
      have earlier : (client.emplace
          ⟨entity, 0, wrapI32 requirement.amount.toNat⟩).outstanding.lookup id = some request :=
        found
      rwa [lookup_emplace fresh, if_neg older] at earlier
  · rw [append_nil]
    exact before id request

theorem perTickCost_lone (only : recipe.resourceRequirements = [requirement]) :
    perTickCost recipe = wrapI32 requirement.amount.toNat := by
  simp [perTickCost, Recipe.resourceAmountPerTick, only]

theorem short_or_lone (safe : ChargeSafe recipe capacity)
    (capacityEq : machine.energy.capacity = capacity) (nonempty : recipe.id ≠ "")
    (charged : recipe.resourceRequirements ≠ []) (full : FullyPaid recipe entity log)
    (within : machine.energy.current ≤ machine.energy.capacity)
    (covered : perTickCost recipe ≤ machine.energy.current) :
    recipe.duration = 1 ∨ ∃ requirement, Lone recipe machine.energy.capacity requirement ∧
      perTickCost recipe = requirement.amount.toNat ∧ 0 < requirement.amount.toNat := by
  rcases safe with unnamed | empty | ⟨other, mem, closed⟩ | costly | short | ⟨only, lone⟩
  · exact absurd unnamed nonempty
  · exact absurd empty charged
  · obtain ⟨position, inside, rfl⟩ := getElem_of_mem mem
    have positive := (full position _ (getElem?_eq_getElem inside)).1
    exact absurd closed (Int.not_le.mpr positive)
  · omega
  · exact Or.inl short
  have positive := (full 0 _ (reservationLegs_cons lone.1)).1
  have width := only.amount.toNat_lt
  have exact := wrapI32_of_pos (Int.natCast_nonneg _) (by exact_mod_cast width) positive
  rw [exact] at positive
  exact Or.inr ⟨only, capacityEq ▸ lone, (perTickCost_lone lone.1).trans exact,
    by exact_mod_cast positive⟩

theorem law_advances (kind : (recipe.duration = 1 ∧ advanced entity log = 0) ∨
      ∃ requirement, recipe.resourceRequirements = [requirement] ∧
        perTickCost recipe = requirement.amount.toNat ∧
          machine.energy.current + advanced entity log * requirement.amount.toNat ≤
            paid entity 1 log)
    (full : FullyPaid recipe entity log) (covered : perTickCost recipe ≤ machine.energy.current) :
    ∀ index requirement, recipe.resourceRequirements[index]? = some requirement →
      ((advanced entity log + 1 : Nat) : Int) * requirement.amount.toNat ≤
        paid entity (index + 1) log := by
  intro index requirement found
  rcases kind with ⟨-, still⟩ | ⟨only, single, cost, payment⟩
  · have leg : (reservationLegs recipe)[index]? =
        some (requirement.kind, requirement.resourceId, requirement.amount) := by
      unfold reservationLegs
      rw [getElem?_append_left]
      · simp [found]
      · rw [length_map]
        exact (List.getElem?_eq_some_iff.mp found).1
    rw [still]
    simpa using (full index _ leg).2
  · rw [single] at found
    obtain ⟨rfl, rfl⟩ : index = 0 ∧ only = requirement := by
      cases index with
      | zero => exact ⟨rfl, by simpa using found⟩
      | succ index => simp at found
    rw [Nat.cast_add, Nat.cast_one, Int.add_mul, Int.one_mul]
    simp only [Nat.zero_add]
    omega

theorem tickActive (safe : ChargeSafe recipe capacity)
    (invariant : ChargeInvariant recipe entity capacity system history log)
    (accounts : ReservationInvariant system history) (publish : Nat → Bool) :
    ChargeInvariant recipe entity capacity (system.tickActive entity publish).1
      (history ++ (system.tickActive entity publish).2)
      (log ++ (system.tickActive entity publish).2) := by
  obtain ⟨machine, found, capacityEq, phase⟩ := invariant.phase
  unfold CraftSystem.tickActive
  simp only [found]
  split
  · exact invariant.quiet
  rename_i active
  cases phase with
  | waiting idle => exact absurd idle active
  | reserving craft idle => exact absurd idle active
  | ended idle => exact absurd idle active
  | running named nonempty unreserved once full within brief alone tagged law =>
    rw [named, invariant.loaded]
    simp only
    generalize cost : wrapI32 recipe.resourceAmountPerTick.toNat = perTick
    split
    · exact invariant.quiet
    rename_i charged
    split
    · unfold beginPerTickCharge
      rw [if_neg (by simpa using charged)]
      split
      · exact invariant.quiet
      have grows := chargeAll_extends accounts.clientFresh publish
        entity 1 recipe.resourceRequirements
      have opens := chargeAll_opens accounts.clientFresh publish
        entity 1 recipe.resourceRequirements
      have unseen : Unseen entity history log _ := Unseen.of_plain history log
        (requested_plain (chargeAll_neutral publish entity 1
          system.client recipe.resourceRequirements))
      have pays : ∀ leg, paid entity leg (log ++ (system.client.chargeAll publish entity 1
          recipe.resourceRequirements).2) = paid entity leg log := by
        intro leg
        rw [paid_append, unseen.paid, Int.add_zero]
      have advances : advanced entity (log ++ (system.client.chargeAll publish entity 1
          recipe.resourceRequirements).2) = advanced entity log := by
        rw [advanced_append, unseen.advanced, Nat.add_zero]
      refine ⟨invariant.loaded, ?_, ?_, ?_, machine, found, capacityEq,
        .running named nonempty unreserved ?_ ?_ within ?_ ?_ ?_ ?_⟩
      · intro event mem
        exact (mem_append.mp mem).elim
          (fun earlier => Minted.later (invariant.minted event earlier) grows.count)
          (chargeAll_minted accounts.clientFresh publish entity 1 _ event)
      · intro leg
        rw [pays]
        exact invariant.nonneg leg
      · intro id request open' own
        exact (opens id request open').elim
          (fun old => invariant.asked id request old own) fun new => new.2.1
      · rw [begun_append, unseen.begun, once]
      · intro index leg legFound
        rw [pays]
        exact full index leg legFound
      · rw [advances]
        exact brief
      · intro requirement lone
        rw [advances, pays]
        exact alone requirement lone
      · exact fun single => chargeAll_tagged accounts.clientFresh invariant.minted publish
          single (tagged single)
      · exact law.paid unseen.advanced fun leg => Int.le_of_eq (unseen.paid leg).symm
    · next covered =>
      have cost : perTickCost recipe = perTick := cost
      have covered : perTickCost recipe ≤ machine.energy.current := by omega
      have kind := short_or_lone safe capacityEq nonempty
        (by simpa [Recipe.hasResourceRequirements] using charged) full within covered
      have ticks := law_advances (kind.imp (fun short => ⟨short, (brief short).1⟩)
        fun ⟨requirement, lone, price, _⟩ =>
          ⟨requirement, lone.1, price, alone requirement lone⟩) full covered
      have onceStill : begun entity (log ++ [.advanced entity]) = 1 := by
        simpa [begun, begins] using once
      have advances : advanced entity (log ++ [.advanced entity]) =
          advanced entity log + 1 := by
        simp [advanced, advances]
      have pays : ∀ leg, paid entity leg (log ++ [.advanced entity]) =
          paid entity leg log := by
        intro leg
        simp [paid_append, paidFrom, pays]
      have law' : ChargeLaw entity recipe (log ++ [.advanced entity]) := by
        intro index requirement legFound
        rw [advances, pays]
        exact ticks index requirement legFound
      refine install invariant.loaded ?_ ?_ invariant.asked ?_ ?_
      · intro event mem
        rcases mem_append.mp mem with earlier | now
        · exact invariant.minted event earlier
        · obtain rfl := mem_singleton.mp now
          trivial
      · intro leg
        rw [pays]
        exact invariant.nonneg leg
      · exact capacityEq
      · split
        · exact .ended rfl unreserved onceStill law'
        rename_i remaining
        have long : recipe.duration ≠ 1 := by
          intro short
          rw [(brief short).2] at remaining
          exact remaining rfl
        obtain ⟨only, lone, price, positive⟩ := kind.resolve_left long
        have debit : subSat machine.energy.current perTick ≤
            machine.energy.current - only.amount.toNat := by
          unfold subSat
          omega
        refine .running rfl nonempty unreserved onceStill ?_ ?_
          (fun short => absurd short long) ?_ ?_ law'
        · intro index leg legFound
          rw [pays]
          exact full index leg legFound
        · simp only
          omega
        · intro requirement otherLone
          have same : only = requirement := by
            have both := lone.1.symm.trans otherLone.1
            simpa using both
          subst same
          have payment := alone only lone
          rw [advances, pays, Nat.cast_add, Nat.cast_one, Int.add_mul, Int.one_mul]
          simp only
          omega
        · exact fun single id request open' own charge => requestLeg_append _
            (tagged single id request open' own charge)

theorem setSlots (invariant : ChargeInvariant recipe entity capacity system history log)
    (slots : List PersistSlot) :
    ChargeInvariant recipe entity capacity (system.step (.setSlots entity slots)).1
      (history ++ (system.step (.setSlots entity slots)).2)
      (log ++ (system.step (.setSlots entity slots)).2) := by
  obtain ⟨machine, found, capacityEq, phase⟩ := invariant.phase
  simp only [step, found]
  refine install invariant.loaded ?_ ?_ invariant.asked capacityEq
    (phase.unseen (Unseen.of_plain history log fun _ none => absurd none not_mem_nil)
      (fun _ _ found _ => found) slots)
  · rw [append_nil]
    exact invariant.minted
  · rw [append_nil]
    exact invariant.nonneg

theorem step (safe : ChargeSafe recipe capacity)
    (invariant : ChargeInvariant recipe entity capacity system history log)
    (accounts : ReservationInvariant system history) (input : CraftInput)
    (keeps : input.Keeps entity recipe) (single : begun entity (log ++ (system.step input).2) ≤ 1) :
    ChargeInvariant recipe entity capacity (system.step input).1
      (history ++ (system.step input).2) (log ++ (system.step input).2) := by
  have fresh := accounts.clientFresh
  cases input with
  | reload recipes => exact keeps.elim
  | spawn other slots energy =>
    obtain ⟨machine, found, capacityEq, phase⟩ := invariant.phase
    refine invariant.frame { ChargeFrame.refl entity system with machine := ?_ }
    intro kept present
    refine ⟨kept.slots, ?_⟩
    simp only [CraftSystem.step, Table.emplace]
    split
    · exact present
    rename_i absent
    rcases eq_or_ne entity other with rfl | distinct
    · simp [present] at absent
    · exact (Table.lookup_insert_of_ne _ _ distinct).trans present
  | destroy other =>
    refine invariant.frame { ChargeFrame.refl entity system with machine := ?_ }
    intro kept present
    exact ⟨kept.slots, (AList.lookup_erase_ne (Ne.symm keeps)).trans present⟩
  | setSlots other slots =>
    rcases eq_or_ne other entity with rfl | distinct
    · exact invariant.setSlots slots
    refine invariant.frame ?_
    simp only [CraftSystem.step]
    split
    · exact ChargeFrame.refl entity system
    · exact ChargeFrame.setMachine distinct system _
  | start other recipeId nowTick first last publish =>
    rcases eq_or_ne other entity with rfl | distinct
    · obtain rfl : recipeId = recipe.id := keeps rfl
      exact invariant.start accounts nowTick first last publish single
    · exact invariant.frame (ChargeFrame.start distinct fresh recipeId nowTick first last publish)
  | active other publish =>
    rcases eq_or_ne other entity with rfl | distinct
    · exact tickActive safe invariant accounts publish
    · exact invariant.frame (ChargeFrame.tickActive distinct fresh publish)
  | response response => exact invariant.onConsumeResponse accounts response
  | cancel other =>
    rcases eq_or_ne other entity with rfl | distinct
    · simpa [step] using invariant.cancel
    · exact invariant.frame (ChargeFrame.cancel distinct system)

end ChargeInvariant

end GtnhPlatform.SimCore
