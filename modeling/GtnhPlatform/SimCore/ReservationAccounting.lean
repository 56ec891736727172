import GtnhPlatform.SimCore.ReservationInvariant

namespace GtnhPlatform.SimCore

open Common Crafting Inventory CraftReservationClient CraftSystem List PendingCraft

namespace ReservationInvariant

variable {system : CraftSystem} {history : List CraftEvent}

theorem lookup_setMachine (system : CraftSystem) (entity other : Nat) (machine : MachineEntity) :
    (system.setMachine entity machine).registry.lookup other =
      if other = entity then some machine else system.registry.lookup other := by
  simp only [setMachine]
  split
  · next same => rw [same, Table.lookup_insert_self]
  · next distinct => exact Table.lookup_insert_of_ne _ _ distinct

variable {entity : Nat}

theorem crafts_setMachine {system : CraftSystem} {machine old : MachineEntity}
    (present : system.registry.lookup entity = some old)
    (kept : machine.progress.pendingCraft = none ∨
      machine.progress.pendingCraft = old.progress.pendingCraft) :
    ∀ other found craft, (system.setMachine entity machine).registry.lookup other = some found →
      found.progress.pendingCraft = some craft → ∃ was, system.registry.lookup other = some was ∧
          was.progress.pendingCraft = some craft := by
  intro other found craft lookup pending
  rw [lookup_setMachine] at lookup
  split at lookup
  · next same =>
    cases lookup
    rcases kept with dropped | unchanged
    · rw [dropped] at pending
      exact absurd pending (by simp)
    · exact ⟨old, same ▸ present, unchanged.symm.trans pending⟩
  · exact ⟨found, lookup, pending⟩

theorem cancel (invariant : ReservationInvariant system history) (entity : Nat) :
    ReservationInvariant (system.cancel entity) history := by
  have grows : system.client.Extends (system.client.drop entity) :=
    CraftReservationClient.Extends.of_subset invariant.clientFresh rfl
      (drop_subset entity)
  unfold CraftSystem.cancel
  cases present : system.registry.lookup entity with
  | none => exact invariant.quiet grows fun other machine craft found pending =>
    ⟨machine, found, pending⟩
  | some machine =>
    exact (invariant.quiet grows fun other machine craft found pending =>
      ⟨machine, found, pending⟩ : ReservationInvariant
        { system with client := system.client.drop entity } history).quiet
      (CraftReservationClient.Extends.refl (grows.fresh invariant.clientFresh))
      (crafts_setMachine present (Or.inl rfl))

theorem cancelStale (invariant : ReservationInvariant system history) (entity : Nat)
    (recipe : Recipe) : ReservationInvariant (system.cancelStale entity recipe) history := by
  unfold CraftSystem.cancelStale
  split
  · exact invariant
  · split
    · exact invariant
    · exact invariant.cancel entity

theorem newReservations_booked (client : CraftReservationClient) (history : List CraftEvent)
    (entity nowTick : Nat) (recipe : Recipe) (counting : 0 < client.nextRequestId)
    (unused : client.outstanding.lookup 0 = none)
    (opened : ∀ index, acceptedSince entity (index + 1) history = 0) :
    ∀ index reservation leg, (newReservations recipe nowTick)[index]? = some reservation →
      (reservationLegs recipe)[index]? = some leg →
        Booked client history entity index leg.2.2 reservation := by
  intro index reservation leg present found
  simp only [newReservations, getElem?_mapIdx, found, Option.map_some, Option.some.injEq] at present
  rw [← present]
  constructor
  · rfl
  · simp only [newReservation]
  · exact (opened index).symm
  · exact counting
  · intro request answered
    simp only [newReservation, unused, reduceCtorEq] at answered

variable {events : List CraftEvent}

variable (requested : ∀ event ∈ events, ∃ leg charge message, event = .requested entity leg charge message)

include requested

theorem requested_neutral : ∀ event ∈ events, event.Neutral := by
  intro event mem
  obtain ⟨leg, charge, message, rfl⟩ := requested event mem
  trivial

theorem requested_justified (before : List CraftEvent) : Justified before events := by
  induction events generalizing before with
  | nil => trivial
  | cons event rest ih =>
    obtain ⟨leg, charge, message, rfl⟩ := requested event mem_cons_self
    exact ⟨trivial, ih (fun other mem =>
      requested other (mem_cons_of_mem _ mem)) _⟩

omit requested

variable {craft : PendingCraft} {client : CraftReservationClient} {machine : MachineEntity}

variable (invariant : ReservationInvariant system history)

include invariant

theorem install (grows : system.client.Extends client)
    (requested : ∀ event ∈ events, ∃ leg charge message,
      event = .requested entity leg charge message) (recipe : Recipe)
    (books : CraftBooked client history entity recipe craft) :
    ReservationInvariant
      ({ system with client := client }.setProgress entity machine
        { machine.progress with pendingCraft := some craft })
      (history ++ events) := by
  refine invariant.keeps events grows (requested_neutral requested)
    (requested_justified requested history) ?_
  intro other found installed lookup pending
  rw [setProgress, lookup_setMachine] at lookup
  split at lookup
  · next same =>
    cases lookup
    cases pending
    exact Or.inr ⟨recipe, same ▸ books⟩
  · exact Or.inl ⟨found, lookup, pending⟩

theorem beginReservation (entity : Nat) (recipe : Recipe) (nowTick : Nat) (publish : Nat → Bool) :
    ReservationInvariant (system.beginReservation entity recipe nowTick publish).1
      (history ++ (system.beginReservation entity recipe nowTick publish).2) := by
  unfold CraftSystem.beginReservation
  cases present : system.registry.lookup entity with
  | none => simpa using invariant
  | some machine =>
    simp only
    split
    · simpa using invariant
    rename_i reserves
    simp only [Bool.or_eq_true, not_or, Option.not_isSome_iff_eq_none] at reserves
    have idle : ∀ other, system.registry.lookup entity = some other →
        other.progress.pendingCraft = none := by
      intro other found
      cases present.symm.trans found
      exact reserves.1
    have opened := invariant.begun idle recipe
    obtain ⟨grows, turns⟩ := requestAll_extends
      invariant.clientFresh publish entity (newReservations recipe nowTick)
    rw [← singleton_append, ← append_assoc]
    refine opened.install grows
      (requestAll_neutral publish entity system.client _) recipe ?_
    refine CraftBooked.requestAll ?_ ?_ (newReservations_booked system.client _ entity nowTick
      recipe invariant.counting invariant.unused ?_) turns grows invariant.counting
      invariant.unused
    · rw [lastRecipe_begun, if_pos rfl]
    · simp [newReservations]
    · intro index
      rw [acceptedSince_begun, if_pos rfl]

theorem tickPending (entity nowTick : Nat) (publish : Nat → Bool) :
    ReservationInvariant (system.tickPending entity nowTick publish).1
      (history ++ (system.tickPending entity nowTick publish).2.2) := by
  unfold CraftSystem.tickPending
  cases present : system.registry.lookup entity with
  | none => simpa using invariant
  | some machine =>
    simp only
    cases pending : machine.progress.pendingCraft with
    | none => simpa using invariant
    | some craft =>
      simp only
      split
      · simpa using invariant
      split
      · simpa using invariant.cancel entity
      split
      · simpa using invariant
      obtain ⟨recipe, books⟩ := invariant.booked entity machine craft present pending
      obtain ⟨grows, turns⟩ := requestAll_extends
        invariant.clientFresh publish entity craft.requirements
      refine invariant.install grows
        (requestAll_neutral publish entity system.client _)
        recipe ?_
      exact CraftBooked.requestAll books.last books.legs books.booked turns grows
        invariant.counting invariant.unused

theorem commitPendingCraft (entity first last : Nat) :
    ReservationInvariant (system.commitPendingCraft entity first last).1
      (history ++ (system.commitPendingCraft entity first last).2) := by
  unfold CraftSystem.commitPendingCraft
  cases present : system.registry.lookup entity with
  | none => simpa using invariant
  | some machine =>
    simp only
    cases pending : machine.progress.pendingCraft with
    | none => simpa using invariant
    | some craft =>
      simp only
      split
      · simpa using invariant
      rename_i accepted
      cases loaded : system.recipes.lookup craft.recipeId with
      | none => simpa using invariant.cancel entity
      | some recipe =>
        obtain ⟨begun, books⟩ := invariant.booked entity machine craft present pending
        have complete := books.complete
          (fun index leg found =>
            (invariant.bounded entity begun books.last index leg found).2)
          (by simpa using accepted)
        refine invariant.keeps [.committed entity]
          (CraftReservationClient.Extends.refl invariant.clientFresh) ?_
          ⟨complete, trivial⟩ ?_
        · intro event mem
          obtain rfl := mem_singleton.mp mem
          trivial
        · intro other found craft lookup kept
          exact Or.inl (crafts_setMachine present (Or.inl rfl) other found craft lookup kept)

theorem tickOrchestratedStart (entity : Nat)
    (recipe : Recipe) (nowTick first last : Nat) (publish : Nat → Bool) : ReservationInvariant
      (system.tickOrchestratedStart entity recipe nowTick first last publish).1
      (history ++ (system.tickOrchestratedStart entity recipe nowTick first last publish).2) := by
  have stale := invariant.cancelStale entity recipe
  unfold CraftSystem.tickOrchestratedStart
  simp only
  split
  · exact stale.beginReservation entity recipe nowTick publish
  have ticked := stale.tickPending entity nowTick publish
  split
  · exact ticked
  · rw [← append_assoc]
    exact ticked.commitPendingCraft entity first last

theorem start (entity : Nat) (recipeId : String) (nowTick first last : Nat) (publish : Nat → Bool) :
    ReservationInvariant (system.start entity recipeId nowTick first last publish).1
      (history ++ (system.start entity recipeId nowTick first last publish).2) := by
  unfold CraftSystem.start
  split
  · split
    · exact invariant.tickOrchestratedStart entity _ nowTick first last publish
    · simpa using invariant
  · simpa using invariant

omit invariant

theorem lookup_forget (client : CraftReservationClient) (requestId id : Nat) :
    (client.forget requestId).outstanding.lookup id =
      if id = requestId then none else client.outstanding.lookup id := by
  simp only [forget]
  split
  · next same => rw [same, AList.lookup_erase]
  · next distinct => exact AList.lookup_erase_ne distinct

theorem forget_extends (invariant : ReservationInvariant system history) (requestId : Nat) :
    system.client.Extends (system.client.forget requestId) := by
  refine CraftReservationClient.Extends.of_subset invariant.clientFresh rfl
    fun id request found => ?_
  rw [lookup_forget] at found
  split at found
  · exact absurd found (by simp)
  · exact found

variable {pending : OutstandingRequest} {amount : Int}

theorem credited (invariant : ReservationInvariant system history) (next : CraftSystem)
    {entity requirementId id : Nat} (answered : system.client.outstanding.lookup id = some pending)
    (count : next.client.nextRequestId = system.client.nextRequestId)
    (outstanding : next.client.outstanding = (system.client.forget id).outstanding)
    (bounds : ∀ recipe, lastRecipe entity history = some recipe →
      ∀ index leg, (reservationLegs recipe)[index]? = some leg → requirementId = index + 1 →
        0 ≤ acceptedSince entity requirementId history + amount ∧
          acceptedSince entity requirementId history + amount ≤ max (wrapI32 leg.2.2.toNat) 0)
    (crafts : ∀ other machine craft, next.registry.lookup other = some machine →
      machine.progress.pendingCraft = some craft → ∃ recipe, CraftBooked next.client
        (history ++ [.accepted entity requirementId id amount]) other recipe craft) :
    ReservationInvariant next (history ++ [.accepted entity requirementId id amount]) where
  fresh := fun other request found => by
    rw [outstanding, lookup_forget] at found
    rw [count]
    split at found
    · exact absurd found (by simp)
    · exact invariant.fresh other request found
  counting := count ▸ invariant.counting
  spent := fun other mem => by
    rw [count, outstanding, lookup_forget]
    rw [acceptedIds_append] at mem
    rcases mem_append.mp mem with earlier | now
    · obtain ⟨minted, gone⟩ := invariant.spent other earlier
      refine ⟨minted, ?_⟩
      split
      · rfl
      · exact gone
    · obtain rfl : other = id := by simpa [acceptedIds] using now
      exact ⟨(invariant.fresh other pending answered).2, if_pos rfl⟩
  once := by
    rw [acceptedIds_append]
    refine nodup_append.mpr ⟨invariant.once, by simp [acceptedIds], ?_⟩
    intro earlier spent now mem same
    obtain rfl : now = id := by simpa [acceptedIds] using mem
    rw [same] at spent
    rw [(invariant.spent now spent).2] at answered
    exact absurd answered (by simp)
  bounded := fun other recipe last index leg found => by
    rw [lastRecipe_accepted] at last
    rw [acceptedSince_accepted]
    split
    · next same =>
      obtain ⟨rfl, sameLeg⟩ := same
      rw [← sameLeg]
      exact bounds recipe last index leg found sameLeg
    · exact invariant.bounded other recipe last index leg found
  booked := crafts
  justified := (justified_append [] history _).mpr ⟨invariant.justified, trivial, trivial⟩

variable {recipe : Recipe}

theorem ledger_accepted (books : CraftBooked client history other recipe craft)
    {entity requirementId id : Nat} (apart : entity ≠ other ∨ requirementId = 0) :
    CraftBooked client (history ++ [.accepted entity requirementId id amount]) other recipe
      craft := by
  refine books.ledger (lastRecipe_accepted _ _ _ _) fun index => ?_
  rw [acceptedSince_accepted, if_neg]
  rintro ⟨same, leg⟩
  rcases apart with distinct | charge
  · exact distinct same
  · omega

theorem crafts_creditBuffer {system : CraftSystem} (entity : Nat) (amount : Int) :
    ∀ other found craft, (system.creditBuffer entity amount).registry.lookup other = some found →
      found.progress.pendingCraft = some craft → ∃ was, system.registry.lookup other = some was ∧
          was.progress.pendingCraft = some craft := by
  intro other found craft
  unfold creditBuffer
  cases present : system.registry.lookup entity with
  | none => exact fun lookup pending => ⟨found, lookup, pending⟩
  | some machine =>
    simp only
    split
    · exact fun lookup pending => ⟨found, lookup, pending⟩
    · refine crafts_setMachine present ?_ other found craft
      exact Or.inr rfl

theorem creditBuffer_client (system : CraftSystem) (entity : Nat) (amount : Int) :
    (system.creditBuffer entity amount).client = system.client := by
  unfold creditBuffer
  split
  · rfl
  · split <;> rfl

variable {reservation : RequirementReservation} {requestId : Nat}

theorem updateFirst_eq_set {requirements : List RequirementReservation} (amount : Int)
    (found : requirements.find? (carries requestId) = some reservation) :
    ∃ index, requirements[index]? = some reservation ∧
      recordAccepted.updateFirst requestId amount requirements =
        requirements.set index (reservation.recordAccepted amount) := by
  induction requirements with
  | nil => simp at found
  | cons head rest ih =>
    unfold recordAccepted.updateFirst
    rw [find?_cons] at found
    cases carried : carries requestId head with
    | true =>
      rw [carried] at found
      cases found
      exact ⟨0, rfl, rfl⟩
    | false =>
      rw [carried] at found
      obtain ⟨index, present, same⟩ := ih found
      refine ⟨index + 1, present, ?_⟩
      simp [same]

theorem recordAccepted_within (lower : 0 ≤ amount) (upper : amount ≤ reservation.remainingAmount)
    (started : 0 ≤ reservation.acceptedAmount) :
    reservation.recordAccepted amount =
      { reservation with acceptedAmount := reservation.acceptedAmount + amount } := by
  unfold RequirementReservation.recordAccepted
  split
  · next nothing =>
    have none : amount = 0 := by
      rcases nothing with zero | closed
      · omega
      · unfold RequirementReservation.remainingAmount at upper
        omega
    simp [none]
  · rw [min_eq_left upper]

variable (invariant : ReservationInvariant system history)

include invariant

theorem recordAccepted_booked (books : CraftBooked system.client history entity recipe craft) (lower : 0 ≤ amount)
    (upper : amount ≤ reservation.remainingAmount)
    (found : craft.findReservationByRequestId requestId = some reservation) :
    (∀ index leg, (reservationLegs recipe)[index]? = some leg →
        reservation.requirementId = index + 1 →
          0 ≤ acceptedSince entity reservation.requirementId history + amount ∧
          acceptedSince entity reservation.requirementId history + amount ≤
            max (wrapI32 leg.2.2.toNat) 0) ∧ CraftBooked (system.client.forget requestId)
        (history ++ [.accepted entity reservation.requirementId requestId amount]) entity recipe
        (craft.recordAccepted requestId amount) := by
  have carried := find?_some found
  obtain ⟨position, present, updated⟩ := updateFirst_eq_set amount found
  have inside : position < (reservationLegs recipe).length := by
    rw [← books.legs]
    exact (List.getElem?_eq_some_iff.mp present).1
  have legAt : (reservationLegs recipe)[position]? = some (reservationLegs recipe)[position] :=
    getElem?_eq_getElem inside
  have booked := books.booked position reservation _ present legAt
  have bounded := invariant.bounded entity recipe books.last position _ legAt
  rw [← booked.accepted, ← booked.required] at bounded
  have recorded := recordAccepted_within lower upper bounded.1
  unfold RequirementReservation.remainingAmount at upper
  constructor
  · intro index leg found same
    have position' : index = position := by
      have identity := booked.identity
      omega
    subst position'
    cases legAt.symm.trans found
    rw [booked.identity, ← booked.accepted, ← booked.required]
    omega
  · refine ⟨?_, ?_, ?_⟩
    · rw [lastRecipe_accepted]
      exact books.last
    · simp only [recordAccepted, updated, length_set]
      exact books.legs
    intro index result leg resultAt legFound
    simp only [recordAccepted, updated, recorded] at resultAt
    rw [getElem?_set] at resultAt
    split at resultAt
    · next same =>
      subst same
      split at resultAt
      · cases resultAt
        cases legAt.symm.trans legFound
        refine ⟨booked.identity, booked.required, ?_, booked.minted, ?_⟩
        · rw [acceptedSince_accepted, if_pos ⟨rfl, booked.identity⟩, ← booked.accepted]
        intro request open' own leg
        simp only [carries, Bool.and_eq_true, beq_iff_eq] at carried
        simp only [lookup_forget, carried.2, if_true] at open'
        exact absurd open' (by simp)
      · exact absurd resultAt (by simp)
    · next distinct =>
      have untouched := (books.booked index result leg resultAt legFound).extends
        (invariant.forget_extends requestId)
      refine untouched.ledger ?_
      rw [acceptedSince_accepted, if_neg]
      rintro ⟨_, same⟩
      have identity := booked.identity
      omega

variable (answered : system.client.outstanding.lookup requestId = some pending)

include answered

theorem settled (amount : Int) :
    ReservationInvariant
      (creditBuffer
        { system with client := (system.client.forget requestId).settleCharge pending.entity }
        pending.entity amount)
      (history ++ [.accepted pending.entity 0 requestId amount]) := by
  refine invariant.credited _ answered ?_ ?_ ?_ ?_
  · rw [creditBuffer_client]
    rfl
  · rw [creditBuffer_client]
    rfl
  · intro recipe last index leg found charge
    exact absurd charge (Nat.succ_ne_zero index).symm
  intro other machine craft found kept
  obtain ⟨old, oldFound, oldKept⟩ := crafts_creditBuffer _ _ other machine craft found kept
  obtain ⟨recipe, books⟩ := invariant.booked other old craft oldFound oldKept
  have forgets := invariant.forget_extends requestId
  have grows : system.client.Extends
      ((system.client.forget requestId).settleCharge pending.entity) :=
    ⟨forgets.count, forgets.old, forgets.new⟩
  rw [creditBuffer_client]
  exact ⟨recipe, ledger_accepted (books.extends grows) (Or.inr rfl)⟩

theorem recorded (present : system.registry.lookup pending.entity = some machine)
    (kept : machine.progress.pendingCraft = some craft)
    (matched : craft.findReservationByRequestId requestId = some reservation)
    (leg : reservation.requirementId = pending.requirementId) (acceptedAmount : Int) :
    let accepted := if 0 < acceptedAmount then min acceptedAmount pending.requested else 0
    let recorded := craft.recordAccepted requestId accepted
    ReservationInvariant
      (({ system with client := system.client.forget requestId }.setProgress pending.entity machine
          { machine.progress with pendingCraft := some recorded }).creditBuffer pending.entity
            accepted)
      (history ++ (.accepted pending.entity pending.requirementId requestId accepted ::
        if recorded.fullyAccepted then [.declared pending.entity] else [])) := by
  intro accepted recorded
  obtain ⟨recipe, books⟩ := invariant.booked pending.entity machine craft present kept
  obtain ⟨position, positionAt, _⟩ := updateFirst_eq_set accepted matched
  have inside : position < (reservationLegs recipe).length := by
    rw [← books.legs]
    exact (List.getElem?_eq_some_iff.mp positionAt).1
  have carried := find?_some matched
  simp only [carries, Bool.and_eq_true, beq_iff_eq] at carried
  have asked := (books.booked position reservation _ positionAt
    (getElem?_eq_getElem inside)).asked pending (carried.2 ▸ answered) rfl leg.symm
  have lower : 0 ≤ accepted := by
    have missing : 0 ≤ reservation.remainingAmount := Int.le_max_right _ _
    simp only [accepted]
    split <;> omega
  have upper : accepted ≤ reservation.remainingAmount := by
    have missing : 0 ≤ reservation.remainingAmount := Int.le_max_right _ _
    simp only [accepted]
    split <;> omega
  obtain ⟨bounds, recordedBooks⟩ := invariant.recordAccepted_booked books lower upper matched
  rw [leg] at bounds recordedBooks
  let inserted := { system with client := system.client.forget requestId }.setProgress
    pending.entity machine { machine.progress with pendingCraft := some recorded }
  have credited : ReservationInvariant (inserted.creditBuffer pending.entity accepted)
      (history ++ [.accepted pending.entity pending.requirementId requestId accepted]) := by
    refine invariant.credited _ answered ?_ ?_ ?_ ?_
    · rw [creditBuffer_client]
      rfl
    · rw [creditBuffer_client]
      rfl
    · intro last lastEq index legFound found same
      cases books.last.symm.trans lastEq
      exact bounds index legFound found same
    intro other found craft lookup held
    rw [creditBuffer_client]
    obtain ⟨was, wasFound, wasHeld⟩ :=
      crafts_creditBuffer pending.entity accepted other found craft lookup held
    simp only [inserted, setProgress, lookup_setMachine] at wasFound
    split at wasFound
    · next same =>
      subst same
      cases wasFound
      cases wasHeld
      exact ⟨recipe, recordedBooks⟩
    · next distinct =>
      obtain ⟨otherRecipe, otherBooks⟩ := invariant.booked other was craft wasFound wasHeld
      exact ⟨otherRecipe, ledger_accepted
        (otherBooks.extends (invariant.forget_extends requestId))
        (Or.inl (Ne.symm distinct))⟩
  split
  · next full =>
    have complete := recordedBooks.complete
      (fun index leg found => (credited.bounded pending.entity recipe recordedBooks.last
        index leg found).2) full
    have declared : ReservationInvariant (inserted.creditBuffer pending.entity accepted) _ :=
      credited.keeps [.declared pending.entity]
      (CraftReservationClient.Extends.refl credited.clientFresh)
      (by
        intro event mem
        obtain rfl := mem_singleton.mp mem
        trivial)
      ⟨complete, trivial⟩
      (fun other found craft lookup held => Or.inl ⟨found, lookup, held⟩)
    rwa [append_assoc] at declared
  · exact credited

omit answered

theorem onConsumeResponse (response : ResourceTransferResponse) :
    ReservationInvariant (system.onConsumeResponse response).1
      (history ++ (system.onConsumeResponse response).2) := by
  unfold CraftSystem.onConsumeResponse
  cases answered : system.client.outstanding.lookup response.requestId with
  | none => simpa using invariant
  | some pending =>
    have forgotten : ReservationInvariant
        { system with client := system.client.forget response.requestId } history :=
      invariant.quiet (invariant.forget_extends _) fun other machine craft found kept =>
        ⟨machine, found, kept⟩
    simp only
    split
    · exact invariant.settled answered _
    cases present : system.registry.lookup pending.entity with
    | none => simpa using forgotten
    | some machine =>
      simp only
      cases kept : machine.progress.pendingCraft with
      | none => simpa using forgotten
      | some craft =>
        simp only
        cases matched : craft.findReservationByRequestId response.requestId with
        | none => simpa using forgotten
        | some reservation =>
          simp only
          split
          · simpa using forgotten
          · next leg =>
            exact invariant.recorded answered present kept matched
              (Decidable.not_not.mp leg) response.acceptedAmount

theorem tickActive (entity : Nat) (publish : Nat → Bool) :
    ReservationInvariant (system.tickActive entity publish).1
      (history ++ (system.tickActive entity publish).2) := by
  have same := CraftReservationClient.Extends.refl invariant.clientFresh
  unfold CraftSystem.tickActive
  cases present : system.registry.lookup entity with
  | none => simpa using invariant
  | some machine =>
    simp only
    split
    · simpa using invariant
    cases loaded : system.recipes.lookup machine.progress.recipeId with
    | none =>
      simp only [append_nil]
      refine invariant.quiet same (crafts_setMachine present ?_)
      exact Or.inr rfl
    | some recipe =>
      simp only
      split
      · simpa using invariant
      split
      · have requested : ∀ event ∈
            (system.client.beginPerTickCharge publish entity recipe).2,
            ∃ leg charge message, event = .requested entity leg charge message := by
          unfold beginPerTickCharge
          split
          · simp
          · split
            · simp
            · exact chargeAll_neutral publish entity 1 _ _
        have grows : system.client.Extends
            (system.client.beginPerTickCharge publish entity recipe).1 := by
          unfold beginPerTickCharge
          split
          · exact same
          split
          · exact same
          · exact chargeAll_extends invariant.clientFresh
              publish entity 1 _
        exact invariant.keeps _ grows (requested_neutral requested)
          (requested_justified requested history)
          fun other found craft lookup held => Or.inl ⟨found, lookup, held⟩
      · refine invariant.keeps [.advanced entity] same ?_ ⟨trivial, trivial⟩
          fun other found craft lookup held => Or.inl
            (crafts_setMachine present ?_ other found craft lookup held)
        · intro event mem
          obtain rfl := mem_singleton.mp mem
          trivial
        · split <;> exact Or.inr rfl

theorem step (input : CraftInput) :
    ReservationInvariant (system.step input).1 (history ++ (system.step input).2) := by
  have same := CraftReservationClient.Extends.refl invariant.clientFresh
  cases input with
  | reload recipes =>
    simp only [CraftSystem.step, append_nil]
    exact invariant.quiet same fun other machine craft found held => ⟨machine, found, held⟩
  | spawn entity slots energy =>
    simp only [CraftSystem.step, append_nil]
    refine invariant.quiet same fun other machine craft found held => ?_
    cases present : system.registry.lookup entity with
    | some old =>
      simp only [Table.emplace, present, Option.isSome_some, if_true] at found
      exact ⟨machine, found, held⟩
    | none =>
      simp only [Table.lookup_emplace_of_none _ present] at found
      split at found
      · cases found
        exact absurd held (by simp)
      · exact ⟨machine, found, held⟩
  | destroy entity =>
    simp only [CraftSystem.step, append_nil]
    refine invariant.quiet same fun other machine craft found held => ?_
    rcases eq_or_ne other entity with rfl | distinct
    · simp at found
    · simp only [AList.lookup_erase_ne distinct] at found
      exact ⟨machine, found, held⟩
  | setSlots entity slots =>
    simp only [CraftSystem.step]
    cases present : system.registry.lookup entity with
    | none => simpa using invariant
    | some machine =>
      simp only [append_nil]
      refine invariant.quiet same (crafts_setMachine present ?_)
      exact Or.inr rfl
  | start entity recipeId nowTick first last publish =>
    exact invariant.start entity recipeId nowTick first last publish
  | active entity publish => exact invariant.tickActive entity publish
  | response response => exact invariant.onConsumeResponse response
  | cancel entity => simpa [CraftSystem.step] using invariant.cancel entity

omit invariant

end ReservationInvariant

namespace CraftSystem

theorem run_invariant (inputs : List CraftInput) :
    ReservationInvariant (machine.final initial inputs) (machine.outputs initial inputs) := by
  refine machine.invariant (fun _ _ => True)
    (fun _ system history => ReservationInvariant system history) ?_ ?_ inputs
    (machine.along_true initial inputs)
  · constructor
    · intro id request found
      exact absurd found (by simp [initial, new])
    · exact Nat.one_pos
    · intro id mem
      exact absurd mem (by simp [acceptedIds])
    · exact nodup_nil
    · intro entity recipe last
      exact absurd last (by simp [lastRecipe])
    · intro entity machine craft found
      exact absurd found (by simp [initial])
    · trivial
  · intro inputs system history input invariant _
    exact invariant.step input

end CraftSystem

end GtnhPlatform.SimCore
