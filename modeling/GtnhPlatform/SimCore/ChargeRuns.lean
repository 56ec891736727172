import GtnhPlatform.SimCore.ChargeSteps

namespace GtnhPlatform.SimCore

open Common Crafting Inventory CraftReservationClient CraftSystem List RequirementReservation

structure Leads (entity : Nat) (recipe : Recipe) (system next : CraftSystem)
    (events : List CraftEvent) : Prop where
  run : ∃ inputs, (∀ input ∈ inputs, input.Keeps entity recipe) ∧
    CraftSystem.machine.final system inputs = next ∧
      CraftSystem.machine.outputs system inputs = events
  count : system.client.nextRequestId ≤ next.client.nextRequestId
  minted : ∀ event ∈ events, event.Minted next.client.nextRequestId

namespace Leads

variable {entity : Nat} {recipe : Recipe} {system second third : CraftSystem}
variable {events later : List CraftEvent}

theorem refl (entity : Nat) (recipe : Recipe) (system : CraftSystem) :
    Leads entity recipe system system [] :=
  ⟨⟨[], fun _ none => absurd none not_mem_nil, rfl, rfl⟩, Nat.le_refl _,
    fun _ none => absurd none not_mem_nil⟩

theorem trans (former : Leads entity recipe system second events)
    (latter : Leads entity recipe second third later) :
    Leads entity recipe system third (events ++ later) := by
  obtain ⟨⟨inputs, keeps, rfl, rfl⟩, count, minted⟩ := former
  obtain ⟨⟨rest, restKeeps, rfl, rfl⟩, restCount, restMinted⟩ := latter
  refine ⟨⟨inputs ++ rest, fun input mem => ?_, ?_, ?_⟩, Nat.le_trans count restCount,
    fun event mem => ?_⟩
  · exact (mem_append.mp mem).elim (keeps input) (restKeeps input)
  · rw [Machine.final_append]
  · rw [Machine.outputs_append]
  · exact (mem_append.mp mem).elim
      (fun earlier => Minted.later (minted event earlier) restCount) (restMinted event)

theorem of_step (entity : Nat) (recipe : Recipe) (input : CraftInput)
    (keeps : input.Keeps entity recipe) (stepped : system.step input = (second, events))
    (count : system.client.nextRequestId ≤ second.client.nextRequestId)
    (minted : ∀ event ∈ events, event.Minted second.client.nextRequestId) :
    Leads entity recipe system second events := by
  refine ⟨⟨[input], fun other mem => ?_, ?_, ?_⟩, count, minted⟩
  · rw [mem_singleton.mp mem]
    exact keeps
  · exact congrArg Prod.fst stepped
  · simp [Machine.outputs, machine, stepped]

end Leads

variable {recipe : Recipe} {entity : Nat} {capacity : Int} {system : CraftSystem}
variable {client : CraftReservationClient}

def PositiveLegs (recipe : Recipe) : Prop :=
  ∀ leg ∈ reservationLegs recipe, 0 < wrapI32 leg.2.2.toNat

def staged (recipe : Recipe) (first accepted : Nat) : List RequirementReservation :=
  (reservationLegs recipe).mapIdx fun index leg =>
    { newReservation 0 (index + 1) leg.1 leg.2.1 leg.2.2 with
      requestId := first + index
      acceptedAmount := if index < accepted then wrapI32 leg.2.2.toNat else 0 }

def legSum (recipe : Recipe) (accepted : Nat) : Int :=
  (((reservationLegs recipe).take accepted).map fun leg => (wrapI32 leg.2.2.toNat)).sum

structure Reserving (recipe : Recipe) (entity : Nat) (capacity : Int) (first accepted : Nat)
    (system : CraftSystem) : Prop where
  fresh : system.client.Fresh
  loaded : system.recipes.lookup recipe.id = some recipe
  uncharged : system.client.chargeByEntity.lookup entity = none
  machine : ∃ machine craft, system.registry.lookup entity = some machine ∧
    machine.progress.recipeId = "" ∧ machine.progress.pendingCraft = some craft ∧
      craft.recipeId = recipe.id ∧ craft.requirements = staged recipe first accepted ∧
        machine.energy.capacity = capacity ∧
          min capacity (legSum recipe accepted) ≤ machine.energy.current
  started : 0 < first
  asks : ∀ index leg, (reservationLegs recipe)[index]? = some leg → accepted ≤ index →
    system.client.outstanding.lookup (first + index) =
      some ⟨entity, index + 1, wrapI32 leg.2.2.toNat⟩

theorem requestAll_published {client : CraftReservationClient} (fresh : client.Fresh) (entity : Nat)
    (reservations : List RequirementReservation)
    (missing : ∀ reservation ∈ reservations, 0 < reservation.remainingAmount) :
    (client.requestAll (fun _ => true) entity reservations).1.chargeByEntity =
        client.chargeByEntity ∧
      (client.requestAll (fun _ => true) entity reservations).2.1 =
        (reservations.mapIdx fun index reservation =>
          { reservation with requestId := client.nextRequestId + index }) ∧
      ∀ index reservation, reservations[index]? = some reservation →
        (client.requestAll (fun _ => true) entity reservations).1.outstanding.lookup
            (client.nextRequestId + index) =
          some ⟨entity, reservation.requirementId, reservation.remainingAmount⟩ := by
  induction reservations generalizing client with
  | nil => simp [requestAll]
  | cons reservation rest ih =>
    have positive := missing reservation mem_cons_self
    have head : client.request (fun _ => true) entity reservation =
        (client.emplace ⟨entity, reservation.requirementId, reservation.remainingAmount⟩,
          { reservation with requestId := client.nextRequestId },
          [.requested entity reservation.requirementId false ⟨client.nextRequestId, 0,
            reservation.kind, reservation.resourceId, reservation.remainingAmount⟩]) := by
      unfold request
      simp only
      rw [if_neg (Int.not_le.mpr positive), if_pos trivial]
    have grows := emplace_extends fresh
      ⟨entity, reservation.requirementId, reservation.remainingAmount⟩
    obtain ⟨charges, staged, asked⟩ := ih (grows.fresh fresh)
      fun other mem => missing other (mem_cons_of_mem _ mem)
    have following : (client.emplace ⟨entity, reservation.requirementId,
        reservation.remainingAmount⟩).nextRequestId = client.nextRequestId + 1 := rfl
    simp only [requestAll, head]
    refine ⟨charges.trans rfl, ?_, ?_⟩
    · rw [staged, mapIdx_cons]
      simp only [following, Nat.add_zero, cons.injEq, true_and]
      congr 1
      funext index other
      rw [Nat.add_assoc, Nat.add_comm 1 index]
    · intro index other found
      cases index with
      | zero =>
        obtain rfl : reservation = other := by simpa using found
        refine requestAll_keeps (grows.fresh fresh) _ entity rest _ _ ?_
        rw [Nat.add_zero, lookup_emplace fresh, if_pos rfl]
      | succ index =>
        have later := asked index other (by simpa using found)
        rwa [following, Nat.add_assoc, Nat.add_comm 1 index] at later

theorem newReservations_missing (positive : PositiveLegs recipe) (epoch : Nat) :
    ∀ reservation ∈ newReservations recipe epoch, 0 < reservation.remainingAmount := by
  intro reservation mem
  obtain ⟨index, inside, rfl⟩ := getElem_of_mem mem
  simp only [newReservations, length_mapIdx] at inside
  have leg := positive _ (getElem_mem inside)
  simp only [newReservations, newReservation, getElem_mapIdx, remainingAmount]
  omega

structure EmptyMachine (recipe : Recipe) (entity : Nat) (capacity : Int) (system : CraftSystem) :
    Prop where
  loaded : system.recipes.lookup recipe.id = some recipe
  machine : ∃ machine, system.registry.lookup entity = some machine ∧
    machine.progress.recipeId = "" ∧ machine.progress.pendingCraft = none ∧
      machine.energy.current = 0 ∧ machine.energy.capacity = capacity
  quiet : ∀ id request, system.client.outstanding.lookup id = some request → request.entity ≠ entity
  uncharged : system.client.chargeByEntity.lookup entity = none

theorem leads_begin (fresh : system.client.Fresh) (counting : 0 < system.client.nextRequestId)
    (empty : EmptyMachine recipe entity capacity system) (positive : PositiveLegs recipe)
    (needs : recipe.needsReservation = true) :
    ∃ next events, Leads entity recipe system next (.begun entity recipe :: events) ∧
      (∀ event ∈ events, event.Plain) ∧
        Reserving recipe entity capacity system.client.nextRequestId 0 next := by
  obtain ⟨machine, found, idle, unreserved, drained, capacityEq⟩ := empty.machine
  obtain ⟨charges, asked, opens⟩ := requestAll_published fresh entity (newReservations recipe 0)
    (newReservations_missing positive 0)
  have stale : system.cancelStale entity recipe = system := by
    unfold cancelStale
    simp [found, unreserved]
  have unreservedBool : system.hasPending entity = false := by
    simp [hasPending, found, unreserved]
  have stepped : system.step (.start entity recipe.id 0 0 0 fun _ => true) =
      system.beginReservation entity recipe 0 fun _ => true := by
    unfold step start
    simp only [found, empty.loaded]
    rw [if_pos (by simp [idle, needs])]
    unfold tickOrchestratedStart
    simp [stale, unreservedBool]
  unfold beginReservation at stepped
  simp only [found] at stepped
  rw [if_neg (by simp [unreserved, needs])] at stepped
  have grows := (requestAll_extends fresh (fun _ => true) entity
    (newReservations recipe 0)).1
  have leads := Leads.of_step entity recipe (.start entity recipe.id 0 0 0 fun _ => true)
    (fun _ => rfl) stepped
    grows.count (by
      intro event mem
      rcases mem_cons.mp mem with rfl | sent
      · trivial
      · exact requestAll_minted fresh _ entity _ event sent)
  refine ⟨_, _, leads, requested_plain (requestAll_neutral _ entity
    system.client _), ?_, empty.loaded, ?_, ?_, counting, ?_⟩
  · exact grows.fresh fresh
  · exact (congrArg (AList.lookup entity) charges).trans empty.uncharged
  · refine ⟨_, _, (ReservationInvariant.lookup_setMachine _ entity entity _).trans (if_pos rfl), idle,
      rfl, rfl, ?_, capacityEq, ?_⟩
    · refine asked.trans (ext_getElem? fun index => ?_)
      simp only [staged, newReservations, getElem?_mapIdx, Option.map_map]
      congr 1
    · simp only [legSum, take_zero, map_nil, sum_nil]
      exact Int.le_trans (Int.min_le_right _ _) (Int.le_of_eq drained.symm)
  · intro index leg found _
    refine opens index (newReservation 0 (index + 1) leg.1 leg.2.1 leg.2.2) ?_ |>.trans ?_
    · simp [newReservations, found]
    have missing := positive leg (mem_of_getElem? found)
    simp only [newReservation, remainingAmount, Option.some.injEq,
      OutstandingRequest.mk.injEq, true_and]
    omega

theorem staged_getElem? (recipe : Recipe) (first accepted index : Nat) :
    (staged recipe first accepted)[index]? = ((reservationLegs recipe)[index]?).map fun leg =>
      { newReservation 0 (index + 1) leg.1 leg.2.1 leg.2.2 with
        requestId := first + index
        acceptedAmount := if index < accepted then wrapI32 leg.2.2.toNat else 0 } := by
  simp [staged]

variable {leg : ResourceKind × Nat × UInt32} {first accepted : Nat}

theorem find_staged (started : 0 < first) (found : (reservationLegs recipe)[accepted]? = some leg) :
    (staged recipe first accepted).find? (PendingCraft.carries (first + accepted)) =
      some { newReservation 0 (accepted + 1) leg.1 leg.2.1 leg.2.2 with
        requestId := first + accepted } := by
  have here := staged_getElem? recipe first accepted accepted
  rw [found, Option.map_some, if_neg (Nat.lt_irrefl accepted)] at here
  obtain ⟨inside, value⟩ := List.getElem?_eq_some_iff.mp here
  rw [find?_eq_some_iff_getElem]
  refine ⟨?_, accepted, inside, value, fun index below => ?_⟩
  · simp only [PendingCraft.carries, beq_self_eq_true, Bool.and_true, bne_iff_ne]
    omega
  · simp only [staged, getElem_mapIdx, PendingCraft.carries, Bool.not_eq_true',
      Bool.and_eq_false_iff, beq_eq_false_iff_ne]
    omega

theorem updateFirst_staged (started : 0 < first) (positive : 0 < wrapI32 leg.2.2.toNat)
    (found : (reservationLegs recipe)[accepted]? = some leg) :
    PendingCraft.recordAccepted.updateFirst (first + accepted) (wrapI32 leg.2.2.toNat)
        (staged recipe first accepted) = staged recipe first (accepted + 1) := by
  obtain ⟨index, present, updated⟩ := ReservationInvariant.updateFirst_eq_set
    (wrapI32 leg.2.2.toNat) (find_staged started found)
  obtain rfl : index = accepted := by
    rw [staged_getElem?] at present
    cases legAt : (reservationLegs recipe)[index]? with
    | none => simp [legAt] at present
    | some other =>
      rw [legAt, Option.map_some, Option.some.injEq] at present
      have identity := congrArg requirementId present
      simpa [newReservation] using identity
  rw [updated]
  have reserved : ({ newReservation 0 (index + 1) leg.1 leg.2.1 leg.2.2 with
      requestId := first + index } : RequirementReservation).recordAccepted
        (wrapI32 leg.2.2.toNat) =
      { newReservation 0 (index + 1) leg.1 leg.2.1 leg.2.2 with
        requestId := first + index
        acceptedAmount := wrapI32 leg.2.2.toNat } := by
    rw [ReservationInvariant.recordAccepted_within (Int.le_of_lt positive)]
    · simp [newReservation]
    · simp [newReservation, remainingAmount]
    · exact Int.le_refl 0
  rw [reserved]
  refine ext_getElem? fun position => ?_
  rw [getElem?_set]
  split
  · next same =>
    subst same
    have inside := (List.getElem?_eq_some_iff.mp present).1
    rw [if_pos inside, staged_getElem?, found, Option.map_some, if_pos (Nat.lt_succ_self _)]
  · next apart =>
    rw [staged_getElem?, staged_getElem?]
    rcases Nat.lt_or_ge position index with before | after
    · simp only [if_pos before, if_pos (Nat.lt_succ_of_lt before)]
    · simp only [if_neg (Nat.not_lt.mpr after), if_neg (by omega : ¬ position < index + 1)]

theorem sum_map_take_succ {α : Type u} (value : α → Int) {list : List α} {count : Nat} {item : α}
    (found : list[count]? = some item) :
    ((list.take (count + 1)).map value).sum = ((list.take count).map value).sum + value item := by
  simp [take_add_one, found]

theorem legSum_succ {accepted : Nat} (found : (reservationLegs recipe)[accepted]? = some leg) :
    legSum recipe (accepted + 1) = legSum recipe accepted + wrapI32 leg.2.2.toNat := by
  exact sum_map_take_succ _ found

variable {machine : MachineEntity}

theorem creditBuffer_of_pos (found : system.registry.lookup entity = some machine)
    (positive : 0 < amount) :
    system.creditBuffer entity amount = system.setMachine entity { machine with
      energy := { machine.energy with
        current := min (machine.energy.current + amount) machine.energy.capacity } } := by
  unfold creditBuffer
  simp only [found]
  rw [if_neg (Int.not_le.mpr positive)]

theorem leads_accept (reserving : Reserving recipe entity capacity first accepted system)
    (found : (reservationLegs recipe)[accepted]? = some leg)
    (positive : 0 < wrapI32 leg.2.2.toNat) : ∃ next declares, Leads entity recipe system next
        (.accepted entity (accepted + 1) (first + accepted) (wrapI32 leg.2.2.toNat) :: declares) ∧
      (∀ event ∈ declares, event.Plain) ∧
        Reserving recipe entity capacity first (accepted + 1) next := by
  obtain ⟨machine, craft, present, idle, reserved, named, requirements, capacityEq, filled⟩ :=
    reserving.machine
  have answered := reserving.asks accepted leg found (Nat.le_refl _)
  have matched := find_staged reserving.started found
  have updated := updateFirst_staged reserving.started positive found
  have summed := legSum_succ found
  rw [← requirements] at matched updated
  generalize wrapI32 leg.2.2.toNat = amount at *
  let response : ResourceTransferResponse := ⟨first + accepted, 0, leg.1, leg.2.1, amount, 0⟩
  have stepped : system.step (.response response) =
      (({ system with client := system.client.forget (first + accepted) }.setProgress entity machine
          { machine.progress with
            pendingCraft := some (craft.recordAccepted (first + accepted) amount) }).creditBuffer
        entity amount,
        .accepted entity (accepted + 1) (first + accepted) amount ::
          if (craft.recordAccepted (first + accepted) amount).fullyAccepted then [.declared entity]
          else []) := by
    unfold step onConsumeResponse
    simp only [answered, response]
    rw [if_neg (Nat.succ_ne_zero accepted), if_pos positive, min_self]
    simp only [present, reserved, PendingCraft.findReservationByRequestId, matched]
    rw [if_neg (by simp [newReservation])]
  have declares : ∀ event ∈ (if (craft.recordAccepted (first + accepted) amount).fullyAccepted then
      [CraftEvent.declared entity] else []), event = .declared entity := by
    intro event mem
    rw [mem_ite_nil_right] at mem
    exact mem_singleton.mp mem.2
  have leads := Leads.of_step entity recipe (.response response) trivial stepped
    (by rw [ReservationInvariant.creditBuffer_client]; exact Nat.le_refl _) (by
      intro event mem
      rcases mem_cons.mp mem with rfl | later
      · trivial
      · rw [declares event later]
        trivial)
  refine ⟨_, _, leads, ?_, ?_⟩
  · intro event mem
    rw [declares event mem]
    trivial
  have installed : ({ system with client := system.client.forget (first + accepted) }.setProgress
      entity machine { machine.progress with
        pendingCraft := some (craft.recordAccepted (first + accepted) amount) }).registry.lookup
          entity = some { machine with progress := { machine.progress with
            pendingCraft := some (craft.recordAccepted (first + accepted) amount) } } := by
    rw [setProgress, ReservationInvariant.lookup_setMachine, if_pos rfl]
  rw [creditBuffer_of_pos installed positive]
  refine ⟨?_, reserving.loaded, reserving.uncharged, ?_, reserving.started, ?_⟩
  · intro id request open'
    have older : (system.client.forget (first + accepted)).outstanding.lookup id = some request :=
      open'
    rw [ReservationInvariant.lookup_forget] at older
    split at older
    · exact absurd older (by simp)
    · exact reserving.fresh id request older
  · refine ⟨_, _, (ReservationInvariant.lookup_setMachine _ entity entity _).trans (if_pos rfl),
      idle, rfl, named, updated, capacityEq, ?_⟩
    simp only [capacityEq, summed]
    omega
  · intro index other otherFound later
    refine Eq.trans ?_ (reserving.asks index other otherFound (by omega))
    exact (ReservationInvariant.lookup_forget _ _ _).trans (if_neg (by omega))

structure Running (recipe : Recipe) (entity : Nat) (capacity energy : Int) (remaining : UInt32)
    (system : CraftSystem) : Prop where
  fresh : system.client.Fresh
  loaded : system.recipes.lookup recipe.id = some recipe
  uncharged : system.client.chargeByEntity.lookup entity = none
  machine : ∃ machine, system.registry.lookup entity = some machine ∧
    machine.progress.recipeId = recipe.id ∧ machine.progress.remainingTicks = remaining ∧
      machine.energy = ⟨capacity, energy⟩

theorem staged_fullyAccepted (positive : PositiveLegs recipe) (first : Nat) :
    ∀ reservation ∈ staged recipe first (reservationLegs recipe).length,
      reservation.fullyAccepted = true := by
  intro reservation mem
  obtain ⟨index, inside, rfl⟩ := getElem_of_mem mem
  simp only [staged, length_mapIdx] at inside
  have leg := positive _ (getElem_mem inside)
  simp only [staged, getElem_mapIdx, fullyAccepted, newReservation,
    decide_eq_true_eq, if_pos inside]
  exact ⟨leg, Int.le_refl _⟩

theorem start_accepted {craft : PendingCraft}
    (present : system.registry.lookup entity = some machine)
    (loaded : system.recipes.lookup recipe.id = some recipe) (idle : machine.progress.recipeId = "")
    (reserved : machine.progress.pendingCraft = some craft) (named : craft.recipeId = recipe.id)
    (accepted : craft.fullyAccepted = true) (needs : recipe.needsReservation = true)
    (nowTick first last : Nat) (publish : Nat → Bool) :
    system.start entity recipe.id nowTick first last publish =
      (system.setMachine entity { machine with
          slots := consumeRange first last recipe.inputs machine.slots
          progress := { machine.progress with
            recipeId := recipe.id
            remainingTicks := recipe.duration
            isProcessing := true
            pendingCraft := none } },
        [.committed entity]) := by
  have stale : system.cancelStale entity recipe = system := by
    unfold cancelStale
    simp [present, reserved, named]
  have ticked : system.tickPending entity nowTick publish = (system, true, []) := by
    unfold tickPending
    simp [present, reserved, accepted]
  have pending : system.hasPending entity = true := by
    simp [hasPending, present, reserved]
  unfold start
  simp only [present, loaded]
  rw [if_pos (by simp [idle, needs])]
  unfold tickOrchestratedStart
  simp only [stale, pending, ticked]
  unfold commitPendingCraft
  simp only [Bool.not_true, Bool.false_eq_true, if_false, present, reserved, accepted, nil_append]
  rw [named, loaded]

theorem leads_commit {first : Nat} (positive : PositiveLegs recipe)
    (needs : recipe.needsReservation = true)
    (reserving : Reserving recipe entity capacity first (reservationLegs recipe).length system) :
    ∃ next energy, Leads entity recipe system next [.committed entity] ∧
      min capacity (legSum recipe (reservationLegs recipe).length) ≤ energy ∧
        Running recipe entity capacity energy recipe.duration next := by
  obtain ⟨machine, craft, present, idle, reserved, named, requirements, capacityEq, filled⟩ :=
    reserving.machine
  have nonempty : reservationLegs recipe ≠ [] := by
    simp only [Recipe.needsReservation, Recipe.hasResourceRequirements, Recipe.hasFluidInputs,
      Bool.or_eq_true, Bool.not_eq_true', List.isEmpty_eq_false_iff] at needs
    simp only [reservationLegs, ne_eq, append_eq_nil_iff, map_eq_nil_iff, not_and_or]
    exact needs
  have accepted : craft.fullyAccepted = true := by
    simp only [PendingCraft.fullyAccepted, requirements, Bool.and_eq_true, all_eq_true,
      Bool.not_eq_true', List.isEmpty_eq_false_iff]
    refine ⟨?_, staged_fullyAccepted positive first⟩
    rw [← length_pos_iff_ne_nil, staged, length_mapIdx, length_pos_iff_ne_nil]
    exact nonempty
  have leads := Leads.of_step entity recipe (.start entity recipe.id 0 0 0 fun _ => true)
    (fun _ => rfl) (start_accepted present reserving.loaded idle reserved named accepted needs
      0 0 0 fun _ => true) (Nat.le_refl _) (by simp [CraftEvent.Minted])
  exact ⟨_, machine.energy.current, leads, filled, reserving.fresh, reserving.loaded,
    reserving.uncharged, _, (ReservationInvariant.lookup_setMachine system entity entity _).trans
      (if_pos rfl), rfl, rfl, by rw [← capacityEq]⟩

theorem tickActive_covered (present : system.registry.lookup entity = some machine)
    (loaded : system.recipes.lookup recipe.id = some recipe) (named : recipe.id ≠ "")
    (active : machine.progress.recipeId = recipe.id) (charged : recipe.resourceRequirements ≠ [])
    (covered : perTickCost recipe ≤ machine.energy.current) (publish : Nat → Bool) :
    system.tickActive entity publish =
      (system.setMachine entity { machine with
        energy := { machine.energy with
          current := subSat machine.energy.current (perTickCost recipe) }
        progress :=
          if machine.progress.remainingTicks - 1 = 0 then
            { machine.progress with
              remainingTicks := machine.progress.remainingTicks - 1
              isProcessing := false
              needsOutput := true
              recipeId := "" }
          else { machine.progress with
            remainingTicks := machine.progress.remainingTicks - 1 } },
        [.advanced entity]) := by
  unfold tickActive
  unfold perTickCost at *
  simp only [present]
  rw [if_neg (by rw [active]; exact named), active, loaded]
  simp only
  rw [if_neg (by simpa [Recipe.hasResourceRequirements] using charged),
    if_neg (Int.not_lt.mpr covered)]

variable {remaining : UInt32}

theorem leads_tick (named : recipe.id ≠ "") (charged : recipe.resourceRequirements ≠ [])
    (running : Running recipe entity capacity energy remaining system)
    (covered : perTickCost recipe ≤ energy) :
    ∃ next, Leads entity recipe system next [.advanced entity] ∧
      (remaining ≠ 1 → Running recipe entity capacity
        (subSat energy (perTickCost recipe)) (remaining - 1) next) := by
  obtain ⟨machine, present, recipeId, ticks, storage⟩ := running.machine
  have leads := Leads.of_step entity recipe (.active entity fun _ => true) trivial
    (tickActive_covered present running.loaded named recipeId charged
      (by rw [storage]; exact covered) fun _ => true) (Nat.le_refl _) (by simp [CraftEvent.Minted])
  refine ⟨_, leads, fun more => ⟨running.fresh, running.loaded, running.uncharged, _,
    (ReservationInvariant.lookup_setMachine system entity entity _).trans (if_pos rfl), ?_, ?_, ?_⟩⟩
  · have left : machine.progress.remainingTicks - 1 ≠ 0 := by
      rw [ticks]
      grind
    rw [if_neg left]
    exact recipeId
  · rw [← ticks]
    split <;> rfl
  · simp only [storage]

theorem chargeAll_unsent (client : CraftReservationClient) {publish : Nat → Bool}
    (silent : ∀ id, client.nextRequestId ≤ id → publish id = false) (entity leg : Nat)
    (requirements : List ResourceRequirement) :
    (client.chargeAll publish entity leg requirements).2 = [] ∧
      (client.chargeAll publish entity leg requirements).1.outstanding = client.outstanding ∧
        (client.chargeAll publish entity leg requirements).1.chargeByEntity =
          client.chargeByEntity := by
  induction requirements generalizing client leg with
  | nil => exact ⟨rfl, rfl, rfl⟩
  | cons requirement rest ih =>
    unfold chargeAll
    simp only
    split
    · exact ih client silent (leg + 1)
    rw [if_neg (by rw [silent _ (Nat.le_refl _)]; exact Bool.false_ne_true)]
    have skipped : ∀ id, client.skip.nextRequestId ≤ id → publish id = false :=
      fun id later => silent id (Nat.le_of_succ_le later)
    exact ih client.skip skipped (leg + 1)

variable {requirement : ResourceRequirement}

theorem chargeAll_first (client : CraftReservationClient) (entity : Nat)
    (rest : List ResourceRequirement) (positive : 0 < wrapI32 requirement.amount.toNat) :
    ∃ sent : CraftReservationClient,
      client.chargeAll (fun id => id == client.nextRequestId) entity 1 (requirement :: rest) =
        (sent, [.requested entity 1 true ⟨client.nextRequestId, 0, requirement.kind,
          requirement.resourceId, wrapI32 requirement.amount.toNat⟩]) ∧
      sent.outstanding =
        (client.emplace ⟨entity, 0, wrapI32 requirement.amount.toNat⟩).outstanding ∧
      sent.chargeByEntity = (client.countCharge entity).chargeByEntity := by
  have silent : ∀ id, client.nextRequestId + 1 ≤ id → (id == client.nextRequestId) = false :=
    fun id later => beq_eq_false_iff_ne.mpr (by omega)
  obtain ⟨none, outstanding, charges⟩ := chargeAll_unsent
    ((client.emplace ⟨entity, 0, wrapI32 requirement.amount.toNat⟩).countCharge entity)
    silent entity 2 rest
  refine ⟨_, ?_, outstanding, charges⟩
  rw [chargeAll]
  simp only
  rw [if_neg (Int.not_le.mpr positive), if_pos (beq_self_eq_true _), none]

theorem leads_charge (named : recipe.id ≠ "")
    (legs : recipe.resourceRequirements = requirement :: rest)
    (running : Running recipe entity capacity energy remaining system)
    (uncovered : energy < perTickCost recipe) (positive : 0 < amount)
    (most : amount ≤ wrapI32 requirement.amount.toNat) :
    ∃ next message, Leads entity recipe system next [.requested entity 1 true message,
        .accepted entity 0 message.requestId amount] ∧
      system.client.nextRequestId = message.requestId ∧
        Running recipe entity capacity (min (energy + amount) capacity) remaining next := by
  obtain ⟨machine, present, recipeId, ticks, storage⟩ := running.machine
  obtain ⟨sent, charged, outstanding, charges⟩ := chargeAll_first system.client entity rest
    (Int.lt_of_lt_of_le positive most)
  have grows : system.client.Extends sent := by
    have extends' := chargeAll_extends running.fresh
      (fun id => id == system.client.nextRequestId) entity 1 (requirement :: rest)
    rwa [charged] at extends'
  have minted : system.client.nextRequestId < sent.nextRequestId := by
    have events := chargeAll_minted running.fresh
      (fun id => id == system.client.nextRequestId) entity 1 (requirement :: rest)
    rw [charged] at events
    exact events _ mem_cons_self
  have asked : system.step (.active entity fun id => id == system.client.nextRequestId) =
      ({ system with client := sent }, [.requested entity 1 true ⟨system.client.nextRequestId, 0,
        requirement.kind, requirement.resourceId, wrapI32 requirement.amount.toNat⟩]) := by
    unfold step tickActive
    simp only [present]
    rw [if_neg (by rw [recipeId]; exact named), recipeId, running.loaded]
    simp only
    rw [if_neg (by simp [Recipe.hasResourceRequirements, legs]),
      if_pos (by rw [storage]; exact uncovered)]
    unfold beginPerTickCharge
    rw [if_neg (by simp [Recipe.hasResourceRequirements, legs]),
      if_neg (by simp [hasOutstandingCharge, running.uncharged]), legs, charged]
  have answered : sent.outstanding.lookup system.client.nextRequestId =
      some ⟨entity, 0, wrapI32 requirement.amount.toNat⟩ := by
    rw [outstanding, lookup_emplace running.fresh, if_pos rfl]
  have credited : ({ system with client := sent } : CraftSystem).step
      (.response ⟨system.client.nextRequestId, 0, requirement.kind, requirement.resourceId, amount, 0⟩) =
      (creditBuffer { system with
          client := (sent.forget system.client.nextRequestId).settleCharge entity } entity amount,
        [.accepted entity 0 system.client.nextRequestId amount]) := by
    unfold step onConsumeResponse
    simp only [answered]
    rw [if_pos positive, min_eq_left most, if_pos trivial]
  have one : sent.chargeByEntity.lookup entity = some 1 := by
    rw [charges]
    simp [countCharge, running.uncharged]
  have settled : ((sent.forget system.client.nextRequestId).settleCharge entity).chargeByEntity.lookup
      entity = none := by
    simp only [settleCharge, forget, one, Option.getD_some, Nat.lt_irrefl, if_false]
    exact AList.lookup_erase _ _
  have first := Leads.of_step entity recipe (.active entity fun id => id == system.client.nextRequestId)
    trivial asked grows.count (by
      intro event mem
      rw [mem_singleton.mp mem]
      exact minted)
  have second := Leads.of_step entity recipe (.response ⟨system.client.nextRequestId, 0,
    requirement.kind, requirement.resourceId, amount, 0⟩) trivial credited
    (by rw [ReservationInvariant.creditBuffer_client]; exact Nat.le_refl _)
    (by simp [CraftEvent.Minted])
  have found : ({ system with
      client := (sent.forget system.client.nextRequestId).settleCharge entity } :
        CraftSystem).registry.lookup entity = some machine := present
  refine ⟨_, _, first.trans second, rfl, ?_⟩
  rw [creditBuffer_of_pos found positive]
  refine ⟨?_, running.loaded, settled, _, (ReservationInvariant.lookup_setMachine _ entity entity
    _).trans (if_pos rfl), recipeId, ticks, ?_⟩
  · intro id request found
    have older : (sent.forget system.client.nextRequestId).outstanding.lookup id = some request :=
      found
    rw [ReservationInvariant.lookup_forget] at older
    split at older
    · exact absurd older (by simp)
    · exact grows.fresh running.fresh id request older
  · simp only [storage]

end GtnhPlatform.SimCore
