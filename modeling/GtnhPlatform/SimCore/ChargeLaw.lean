import GtnhPlatform.SimCore.ChargeRuns

namespace GtnhPlatform.SimCore

open Common Crafting Inventory List CraftSystem CraftEvent

structure OneReservation (entity : Nat) (recipe : Recipe) (system : CraftSystem)
    (inputs : List CraftInput) : Prop where
  keeps : ∀ input ∈ inputs, input.Keeps entity recipe
  single : begun entity (CraftSystem.machine.outputs system inputs) ≤ 1

variable {recipe : Recipe} {entity : Nat} {capacity : Int} {system : CraftSystem}
variable {history log events : List CraftEvent}

theorem EmptyMachine.invariant (empty : EmptyMachine recipe entity capacity system)
    (history : List CraftEvent) : ChargeInvariant recipe entity capacity system history [] := by
  obtain ⟨machine, found, idle, unreserved, drained, capacityEq⟩ := empty.machine
  refine ⟨empty.loaded, fun _ none => absurd none not_mem_nil, fun _ => Int.le_refl 0,
    fun id request found own => absurd own (empty.quiet id request found), machine, found,
    capacityEq, .waiting idle unreserved drained rfl rfl (fun _ => rfl) empty.quiet⟩

theorem run_chargeLaw (safe : ChargeSafe recipe capacity)
    (accounts : ReservationInvariant system history)
    (empty : EmptyMachine recipe entity capacity system)
    (run : OneReservation entity recipe system inputs) :
    ChargeLaw entity recipe (machine.outputs system inputs) := by
  have along : machine.Along (fun _ input => input.Keeps entity recipe) system
      inputs := by
    rw [Machine.along_iff]
    intro before input after split
    exact run.keeps input (by simp [split])
  have holds := machine.invariant _
    (fun _ current log => begun entity log ≤ 1 → ReservationInvariant current (history ++ log) ∧
        ChargeInvariant recipe entity capacity current (history ++ log) log)
    (fun _ => by
      rw [append_nil]
      exact ⟨accounts, empty.invariant history⟩)
    (fun _ current log input holds keeps single => by
      have earlier : begun entity log ≤ 1 := by
        rw [begun_append] at single
        omega
      obtain ⟨booked, invariant⟩ := holds earlier
      rw [← append_assoc]
      exact ⟨booked.step input, invariant.step safe booked input keeps single⟩)
    inputs along run.single
  exact holds.2.law

theorem paidFrom_round {message : ResourceTransferRequest}
    (unminted : requestLeg message.requestId log = none) (leg : Nat) :
    paidFrom entity leg log [.requested entity 1 true message,
        .accepted entity 0 message.requestId amount] = if leg = 1 then amount else 0 := by
  have tagged : requestLeg message.requestId (log ++ [.requested entity 1 true message]) =
      some 1 := by
    unfold requestLeg at *
    simp [findSome?_append, unminted]
  simp [paidFrom, pays, tagged, eq_comm]

theorem leads_reserve (positive : PositiveLegs recipe) {first accepted : Nat}
    (inside : accepted ≤ (reservationLegs recipe).length)
    (reserving : Reserving recipe entity capacity first accepted system) :
    ∃ next events, Leads entity recipe system next events ∧
      Reserving recipe entity capacity first (reservationLegs recipe).length next ∧
      begun entity events = 0 ∧ advanced entity events = 0 ∧
      ∀ log index leg, (reservationLegs recipe)[index]? = some leg →
        paidFrom entity (index + 1) log events =
          if accepted ≤ index then wrapI32 leg.2.2.toNat else 0 := by
  induction missing : (reservationLegs recipe).length - accepted generalizing accepted system with
  | zero =>
    obtain rfl : accepted = (reservationLegs recipe).length := by omega
    refine ⟨system, [], Leads.refl _ _ _, reserving, rfl, rfl, fun log index leg found => ?_⟩
    have below := (List.getElem?_eq_some_iff.mp found).1
    rw [if_neg (by omega)]
    rfl
  | succ missing ih =>
    have below : accepted < (reservationLegs recipe).length := by omega
    obtain ⟨second, declares, leads, plain, following⟩ := leads_accept reserving
      (getElem?_eq_getElem below) (positive _ (getElem_mem below))
    obtain ⟨next, events, more, done, unbegun, unadvanced, pays⟩ :=
      ih (by omega) following (by omega)
    refine ⟨next, _, leads.trans more, done, ?_, ?_, fun log index leg found => ?_⟩
    · rw [begun_append, unbegun, ← singleton_append, begun_append, begun_plain plain]
      rfl
    · rw [advanced_append, unadvanced, ← singleton_append, advanced_append, advanced_plain plain]
      rfl
    rw [paidFrom_append, pays _ index leg found, paidFrom, paidFrom_plain _ plain]
    simp only [CraftEvent.pays, Nat.succ_ne_zero, if_false, true_and, Nat.add_right_cancel_iff]
    rcases Nat.lt_trichotomy accepted index with before | same | after
    · rw [if_neg (by omega), if_pos (by omega), if_pos (by omega)]
      omega
    · subst same
      cases (getElem?_eq_getElem below).symm.trans found
      rw [if_pos rfl, if_neg (by omega), if_pos (Nat.le_refl _)]
      omega
    · rw [if_neg (by omega), if_neg (by omega), if_neg (by omega)]
      rfl

variable {rest : List ResourceRequirement}

theorem leads_fill {requirement : ResourceRequirement} (named : recipe.id ≠ "")
    (legs : recipe.resourceRequirements = requirement :: rest)
    (positive : 0 < wrapI32 requirement.amount.toNat) (fits : perTickCost recipe ≤ capacity)
    (running : Running recipe entity capacity energy remaining system)
    (minted : ∀ event ∈ log, event.Minted system.client.nextRequestId) :
    ∃ next filled events, Leads entity recipe system next events ∧
      Running recipe entity capacity filled remaining next ∧ perTickCost recipe ≤ filled ∧
      begun entity events = 0 ∧ advanced entity events = 0 ∧
      ∀ leg, leg ≠ 1 → paidFrom entity leg log events = 0 := by
  induction missing : (perTickCost recipe - energy).toNat using Nat.strong_induction_on
    generalizing energy system log with
  | _ missing ih =>
    rcases Int.lt_or_le energy (perTickCost recipe) with short | enough
    · obtain ⟨second, message, leads, fresh, following⟩ := leads_charge named legs running short
        positive (Int.le_refl _)
      have unminted : requestLeg message.requestId log = none :=
        requestLeg_unminted minted (Nat.le_of_eq fresh)
      obtain ⟨next, filled, events, more, done, covered, unbegun, unadvanced, pays⟩ :=
        ih _ (by omega) following (fun event mem =>
          (mem_append.mp mem).elim
            (fun earlier => Minted.later (minted event earlier) leads.count)
            (leads.minted event)) rfl
      refine ⟨next, filled, _, leads.trans more, done, covered, ?_, ?_, fun leg other => ?_⟩
      · rw [begun_append, unbegun]
        rfl
      · rw [advanced_append, unadvanced]
        rfl
      · rw [paidFrom_append, pays leg other, paidFrom_round unminted, if_neg other]
        rfl
    · exact ⟨system, energy, [], Leads.refl _ _ _, running, enough, rfl, rfl, fun _ _ => rfl⟩

theorem sum_toNat_le (amounts : List UInt32) :
    amounts.sum.toNat ≤ (amounts.map UInt32.toNat).sum := by
  induction amounts with
  | nil => simp
  | cons amount rest ih =>
    rw [sum_cons, map_cons, sum_cons, UInt32.toNat_add]
    exact Nat.le_trans (Nat.mod_le _ _) (Nat.add_le_add_left ih _)

theorem wrapI32_amount {amount : UInt32} (positive : 0 < wrapI32 amount.toNat) :
    wrapI32 amount.toNat = amount.toNat := by
  have width := amount.toNat_lt
  exact wrapI32_of_pos (Int.natCast_nonneg _) (by exact_mod_cast width) positive

theorem sum_wrapI32 {amounts : List UInt32}
    (positive : ∀ amount ∈ amounts, 0 < wrapI32 amount.toNat) :
    (amounts.map fun amount => wrapI32 amount.toNat).sum =
      ((amounts.map UInt32.toNat).sum : Nat) := by
  induction amounts with
  | nil => rfl
  | cons amount rest ih =>
    rw [map_cons, sum_cons, map_cons, sum_cons, Nat.cast_add,
      ih fun other mem => positive other (mem_cons_of_mem _ mem),
      wrapI32_amount (positive amount mem_cons_self)]

theorem length_le_sum {α : Type u} {value : α → Int} {list : List α}
    (positive : ∀ item ∈ list, 0 < value item) : (list.length : Int) ≤ (list.map value).sum := by
  induction list with
  | nil => rfl
  | cons item rest ih =>
    have head := positive item mem_cons_self
    have tail := ih fun other mem => positive other (mem_cons_of_mem _ mem)
    rw [length_cons, map_cons, sum_cons, Nat.cast_add, Nat.cast_one]
    omega

theorem legSum_all (recipe : Recipe) :
    legSum recipe (reservationLegs recipe).length =
      ((recipe.resourceRequirements.map fun requirement => requirement.amount).map
        fun amount => wrapI32 amount.toNat).sum +
      (recipe.fluidInputs.map fun fluid => wrapI32 fluid.amountMb.toNat).sum := by
  rw [legSum, take_length, reservationLegs, map_append, sum_append]
  simp only [map_map, Function.comp_def]

theorem PositiveLegs.requirement (positive : PositiveLegs recipe)
    {requirement : ResourceRequirement} (mem : requirement ∈ recipe.resourceRequirements) :
    0 < wrapI32 requirement.amount.toNat := by
  have leg := positive (requirement.kind, requirement.resourceId, requirement.amount)
    (mem_append_left _ (mem_map_of_mem mem))
  simpa only using leg

theorem perTickCost_le_legSum (positive : PositiveLegs recipe) :
    perTickCost recipe + recipe.fluidInputs.length ≤
      legSum recipe (reservationLegs recipe).length := by
  have requirements : ∀ amount ∈
      recipe.resourceRequirements.map fun requirement : ResourceRequirement => requirement.amount,
      0 < wrapI32 amount.toNat := by
    intro amount mem
    obtain ⟨requirement, inside, rfl⟩ := mem_map.mp mem
    exact positive.requirement inside
  have fluids : ∀ fluid ∈ recipe.fluidInputs, 0 < wrapI32 fluid.amountMb.toNat := by
    intro fluid inside
    exact positive (.fluid, fluid.fluidId, fluid.amountMb)
      (mem_append_right _ (mem_map_of_mem inside))
  have cost := wrapI32_le (Int.natCast_nonneg recipe.resourceAmountPerTick.toNat)
  have sum := sum_toNat_le
    (recipe.resourceRequirements.map fun requirement : ResourceRequirement => requirement.amount)
  have steam := length_le_sum fluids
  rw [legSum_all, sum_wrapI32 requirements]
  unfold perTickCost Recipe.resourceAmountPerTick at *
  omega

theorem leads_firstTick (fresh : system.client.Fresh) (counting : 0 < system.client.nextRequestId)
    (empty : EmptyMachine recipe entity capacity system) (named : recipe.id ≠ "")
    (charged : recipe.resourceRequirements ≠ []) (positive : PositiveLegs recipe)
    (fits : perTickCost recipe ≤ capacity) (long : recipe.duration ≠ 1) :
    ∃ next stored events, Leads entity recipe system next events ∧
      Running recipe entity capacity (subSat stored (perTickCost recipe))
        (recipe.duration - 1) next ∧
      min capacity (perTickCost recipe + recipe.fluidInputs.length) ≤ stored ∧
      begun entity events = 1 ∧ advanced entity events = 1 ∧
      ∀ index leg, (reservationLegs recipe)[index]? = some leg →
        paid entity (index + 1) events = wrapI32 leg.2.2.toNat := by
  have needs : recipe.needsReservation = true := by
    simp [Recipe.needsReservation, Recipe.hasResourceRequirements, charged]
  obtain ⟨first, requested, begins, plain, reserving⟩ :=
    leads_begin fresh counting empty positive needs
  obtain ⟨second, answers, accepts, reserved, unbegun, unadvanced, pays⟩ :=
    leads_reserve positive (Nat.zero_le _) reserving
  obtain ⟨third, stored, commits, filled, running⟩ := leads_commit positive needs reserved
  have total := perTickCost_le_legSum positive
  obtain ⟨next, ticks, after⟩ := leads_tick named charged running (by omega)
  refine ⟨next, stored, _, ((begins.trans accepts).trans commits).trans ticks, after long, by omega,
    ?_, ?_, fun index leg found => ?_⟩
  · simp only [begun_append, unbegun]
    rw [← singleton_append, begun_append, begun_plain plain]
    simp [begun, CraftEvent.begins]
  · simp only [advanced_append, unadvanced]
    rw [← singleton_append, advanced_append, advanced_plain plain]
    simp [advanced, CraftEvent.advances]
  have opened : paid entity (index + 1) (.begun entity recipe :: requested) = 0 := by
    rw [paid, paidFrom, paidFrom_plain _ plain]
    rfl
  rw [paid_append, paid_append, paid_append, opened, pays _ index leg found,
    if_pos (Nat.zero_le index)]
  simp [paidFrom, CraftEvent.pays]

theorem begun_tick (events : List CraftEvent) :
    begun entity (events ++ [.advanced entity]) = begun entity events := by
  rw [begun_append]
  simp [begun, begins]

theorem advanced_tick (events : List CraftEvent) :
    advanced entity (events ++ [.advanced entity]) = advanced entity events + 1 := by
  rw [advanced_append]
  simp [advanced, advances]

theorem paid_tick (leg : Nat) (events : List CraftEvent) :
    paid entity leg (events ++ [.advanced entity]) = paid entity leg events := by
  rw [paid_append]
  simp [paidFrom, pays]

theorem violated_of_two_legs (fresh : system.client.Fresh)
    (counting : 0 < system.client.nextRequestId)
    (empty : EmptyMachine recipe entity capacity system) (named : recipe.id ≠ "")
    (legs : recipe.resourceRequirements = first :: second :: rest) (positive : PositiveLegs recipe)
    (fits : perTickCost recipe ≤ capacity) (long : recipe.duration ≠ 1) :
    ∃ next events, Leads entity recipe system next events ∧ begun entity events ≤ 1 ∧
      ¬ ChargeLaw entity recipe events := by
  obtain ⟨ticking, stored, before, leads, running, -, once, tick, pays⟩ :=
    leads_firstTick fresh counting empty named (by simp [legs]) positive fits long
  have secondLeg : (reservationLegs recipe)[1]? =
      some (second.kind, second.resourceId, second.amount) := by
    simp [reservationLegs, legs]
  obtain ⟨full, filled, charges, fills, filledRunning, covered, unbegun, unadvanced, others⟩ :=
    leads_fill named legs (positive.requirement (by simp [legs])) fits running leads.minted
  obtain ⟨next, ticks, -⟩ := leads_tick named (by simp [legs]) filledRunning covered
  have paidOnce : paid entity 2 (before ++ charges ++ [.advanced entity]) =
      wrapI32 second.amount.toNat := by
    rw [paid_tick, paid_append, pays 1 _ secondLeg, others 2 (by decide), Int.add_zero]
  refine ⟨next, _, (leads.trans fills).trans ticks, ?_, fun law => ?_⟩
  · rw [begun_tick, begun_append, once, unbegun]
  have twice := law 1 second (by simp [legs])
  have ticked : advanced entity (before ++ charges ++ [.advanced entity]) = 2 := by
    rw [advanced_tick, advanced_append, tick, unadvanced]
  have owed : 0 < wrapI32 second.amount.toNat := positive.requirement (by simp [legs])
  have amount := wrapI32_amount owed
  rw [ticked, paidOnce] at twice
  omega

theorem violated_of_fluid {only : ResourceRequirement} (fresh : system.client.Fresh)
    (counting : 0 < system.client.nextRequestId)
    (empty : EmptyMachine recipe entity capacity system) (named : recipe.id ≠ "")
    (legs : recipe.resourceRequirements = [only]) (fluids : recipe.fluidInputs ≠ [])
    (roomy : (only.amount.toNat : Int) < capacity) (positive : PositiveLegs recipe)
    (long : recipe.duration ≠ 1) :
    ∃ next events, Leads entity recipe system next events ∧ begun entity events ≤ 1 ∧
      ¬ ChargeLaw entity recipe events := by
  have leg : (reservationLegs recipe)[0]? = some (only.kind, only.resourceId, only.amount) :=
    ChargeInvariant.reservationLegs_cons legs
  have owed : 0 < wrapI32 only.amount.toNat := positive.requirement (by simp [legs])
  have amount := wrapI32_amount owed
  have cost := (ChargeInvariant.perTickCost_lone legs).trans amount
  obtain ⟨ticking, stored, before, leads, running, surplus, once, tick, pays⟩ :=
    leads_firstTick fresh counting empty named (by simp [legs]) positive (by omega) long
  have paidOnce : paid entity (0 + 1) before = only.amount.toNat := (pays 0 _ leg).trans amount
  have some' : 0 < recipe.fluidInputs.length := length_pos_iff_ne_nil.mpr fluids
  have left : 1 ≤ subSat stored (perTickCost recipe) := by
    unfold subSat
    omega
  generalize subSat stored (perTickCost recipe) = energy at running left
  rcases Int.lt_or_le energy (perTickCost recipe) with short | enough
  · obtain ⟨charging, message, charges, minted, filled⟩ := leads_charge named legs running short
      (show 0 < perTickCost recipe - energy by omega)
      (show perTickCost recipe - energy ≤ wrapI32 only.amount.toNat by omega)
    obtain ⟨next, ticks, -⟩ := leads_tick named (by simp [legs]) filled (by omega)
    have unminted : requestLeg message.requestId before = none :=
      requestLeg_unminted leads.minted (Nat.le_of_eq minted)
    refine ⟨next, _, (leads.trans charges).trans ticks, ?_, fun law => ?_⟩
    · rw [begun_tick, begun_append, once]
      exact Nat.le_refl 1
    have twice := law 0 only (by simp [legs])
    rw [advanced_tick, advanced_append, tick, paid_tick, paid_append, paidFrom_round unminted,
      if_pos rfl, paidOnce] at twice
    have still : advanced entity [.requested entity 1 true message,
        .accepted entity 0 message.requestId (perTickCost recipe - energy)] = 0 := rfl
    rw [still] at twice
    omega
  · obtain ⟨next, ticks, -⟩ := leads_tick named (by simp [legs]) running enough
    refine ⟨next, _, leads.trans ticks, ?_, fun law => ?_⟩
    · rw [begun_tick, once]
    · have twice := law 0 only (by simp [legs])
      rw [advanced_tick, tick, paid_tick, paidOnce] at twice
      omega

theorem chargeSafe_of_law (accounts : ReservationInvariant system history)
    (empty : EmptyMachine recipe entity capacity system)
    (law : ∀ inputs, OneReservation entity recipe system inputs →
      ChargeLaw entity recipe (machine.outputs system inputs)) : ChargeSafe recipe capacity := by
  have lawful : ¬ ∃ next events, Leads entity recipe system next events ∧ begun entity events ≤ 1 ∧
      ¬ ChargeLaw entity recipe events := by
    rintro ⟨next, events, ⟨⟨inputs, keeps, rfl, rfl⟩, -, -⟩, single, violated⟩
    exact violated (law inputs ⟨keeps, single⟩)
  have fresh := accounts.clientFresh
  by_contra mixed
  simp only [ChargeSafe, not_or, not_exists, not_and, Int.not_lt, Int.not_le] at mixed
  obtain ⟨named, charged, positive, fits, long, lone⟩ := mixed
  cases legs : recipe.resourceRequirements with
  | nil => exact charged legs
  | cons first rest =>
    cases rest with
    | cons second rest =>
      exact lawful (violated_of_two_legs fresh accounts.counting empty named legs positive fits long)
    | nil =>
      have roomy := lone first
      simp only [Lone, legs, true_and, not_or, Int.not_le] at roomy
      exact lawful (violated_of_fluid fresh accounts.counting empty named legs roomy.1 roomy.2
        positive long)

theorem chargeLaw_iff (before : List CraftInput)
    (empty : EmptyMachine recipe entity capacity (CraftSystem.machine.final .initial before)) :
    (∀ inputs, OneReservation entity recipe (CraftSystem.machine.final .initial before) inputs →
      ChargeLaw entity recipe
        (CraftSystem.machine.outputs (CraftSystem.machine.final .initial before) inputs)) ↔
      ChargeSafe recipe capacity := by
  have accounts := CraftSystem.run_invariant before
  exact ⟨chargeSafe_of_law accounts empty, fun safe inputs run => run_chargeLaw safe accounts empty run⟩

def twoLegRecipe : Recipe where
  id := "r"
  inputs := []
  outputs := []
  minTier := 0
  maxTier := 0
  energyType := 0
  hasPattern := false
  pattern := Vector.replicate 9 ⟨0, 0, 0⟩
  duration := 2
  resourceRequirements := [⟨.eu, 1, 5⟩, ⟨.hu, 2, 5⟩]

def twoLegMachine : List CraftInput :=
  [.reload (AList.insert "r" twoLegRecipe ∅), .spawn 1 [] ⟨100, 0⟩]

theorem twoLegMachine_empty : EmptyMachine twoLegRecipe 1 100
    (machine.final .initial twoLegMachine) where
  loaded := rfl
  machine := ⟨_, rfl, rfl, rfl, rfl, rfl⟩
  quiet := fun id request found => by
    have none : AList.lookup id (∅ : Table Nat OutstandingRequest) = some request := found
    exact absurd none (by simp)
  uncharged := rfl

/-- The charges of the first leg are answered in full and those of the second with
nothing, until the storage covers a second tick. -/
def twoLegRun : List CraftInput :=
  [.start 1 "r" 0 0 0 fun _ => true, .response ⟨1, 0, .eu, 1, 5, 0⟩, .response ⟨2, 0, .hu, 2, 5, 0⟩,
    .start 1 "r" 1 0 0 fun _ => true, .active 1 fun _ => true,
    .active 1 fun _ => true,
    .response ⟨3, 0, .eu, 1, 5, 0⟩, .response ⟨4, 0, .hu, 2, 0, 5⟩,
    .active 1 fun _ => true,
    .response ⟨5, 0, .eu, 1, 5, 0⟩, .response ⟨6, 0, .hu, 2, 0, 5⟩,
    .active 1 fun _ => true]

theorem twoLegRun_reservation : OneReservation 1 twoLegRecipe
    (machine.final .initial twoLegMachine) twoLegRun where
  keeps := by simp [twoLegRun, CraftInput.Keeps, twoLegRecipe]
  single := by decide +kernel

theorem leg_pays_for_another :
    advanced 1 (CraftSystem.machine.outputs (CraftSystem.machine.final .initial twoLegMachine)
        twoLegRun) = 2 ∧
      paid 1 2 (CraftSystem.machine.outputs (CraftSystem.machine.final .initial twoLegMachine)
        twoLegRun) = 5 ∧ ¬ ∀ before recipe entity capacity,
        EmptyMachine recipe entity capacity (CraftSystem.machine.final .initial before) →
          ∀ inputs, OneReservation entity recipe (CraftSystem.machine.final .initial before) inputs →
            ChargeLaw entity recipe
              (CraftSystem.machine.outputs (CraftSystem.machine.final .initial before) inputs) := by
  refine ⟨by decide +kernel, by decide +kernel, fun always => ?_⟩
  have law := always twoLegMachine twoLegRecipe 1 100 twoLegMachine_empty twoLegRun
    twoLegRun_reservation 1 ⟨.hu, 2, 5⟩ rfl
  revert law
  decide +kernel

theorem chargeLaw_iff_twoLeg :
    (∀ inputs, OneReservation 1 twoLegRecipe (CraftSystem.machine.final .initial twoLegMachine)
        inputs → ChargeLaw 1 twoLegRecipe
          (CraftSystem.machine.outputs (CraftSystem.machine.final .initial twoLegMachine) inputs)) ↔
      ChargeSafe twoLegRecipe 100 :=
  chargeLaw_iff twoLegMachine twoLegMachine_empty

end GtnhPlatform.SimCore
