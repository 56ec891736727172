import GtnhPlatform.SimCore.ReservationAccounting

namespace GtnhPlatform.SimCore

open Common Crafting Inventory CraftReservationClient List

def requestLeg (requestId : Nat) (history : List CraftEvent) : Option Nat := history.findSome? fun
    | .requested _ leg _ message => if message.requestId = requestId then some leg else none
    | _ => none

namespace CraftEvent

def entity : CraftEvent → Nat
  | .begun entity _ => entity
  | .requested entity _ _ _ => entity
  | .accepted entity _ _ _ => entity
  | .declared entity => entity
  | .committed entity => entity
  | .advanced entity => entity

def pays (entity leg : Nat) (before : List CraftEvent) : CraftEvent → Int
  | .accepted other requirementId requestId amount =>
    if other = entity ∧ (if requirementId = 0 then requestLeg requestId before = some leg
          else requirementId = leg) then amount
    else 0
  | _ => 0

def begins (entity : Nat) : CraftEvent → Bool
  | .begun other _ => other == entity
  | _ => false

def advances (entity : Nat) : CraftEvent → Bool
  | .advanced other => other == entity
  | _ => false

def Minted (count : Nat) : CraftEvent → Prop
  | .requested _ _ _ message => message.requestId < count
  | _ => True

end CraftEvent

def paidFrom (entity leg : Nat) : List CraftEvent → List CraftEvent → Int
  | _, [] => 0
  | before, event :: rest =>
    event.pays entity leg before + paidFrom entity leg (before ++ [event]) rest

def paid (entity leg : Nat) (history : List CraftEvent) : Int := paidFrom entity leg [] history

def begun (entity : Nat) (history : List CraftEvent) : Nat :=
  history.countP (CraftEvent.begins entity)

def advanced (entity : Nat) (history : List CraftEvent) : Nat :=
  history.countP (CraftEvent.advances entity)

/-- Every leg was paid for every tick the recipe advanced. -/
def ChargeLaw (entity : Nat) (recipe : Recipe) (history : List CraftEvent) : Prop :=
  ∀ index requirement, recipe.resourceRequirements[index]? = some requirement →
    (advanced entity history : Int) * requirement.amount.toNat ≤ paid entity (index + 1) history

section History

variable {entity leg : Nat} {history events : List CraftEvent}

theorem paidFrom_append (before first second : List CraftEvent) :
    paidFrom entity leg before (first ++ second) =
      paidFrom entity leg before first + paidFrom entity leg (before ++ first) second := by
  induction first generalizing before with
  | nil => simp [paidFrom]
  | cons event rest ih =>
    simp only [cons_append, paidFrom, ih, append_assoc, nil_append]
    omega

theorem paid_append (first second : List CraftEvent) : paid entity leg (first ++ second) =
      paid entity leg first + paidFrom entity leg first second := by
  simp only [paid, paidFrom_append, nil_append]

@[simp] theorem begun_append (first second : List CraftEvent) :
    begun entity (first ++ second) = begun entity first + begun entity second :=
  countP_append

@[simp] theorem advanced_append (first second : List CraftEvent) :
    advanced entity (first ++ second) = advanced entity first + advanced entity second :=
  countP_append

theorem requestLeg_append {requestId leg : Nat} (events : List CraftEvent)
    (found : requestLeg requestId history = some leg) :
    requestLeg requestId (history ++ events) = some leg := by
  unfold requestLeg at *
  rw [findSome?_append, found]
  rfl

theorem requestLeg_unminted {requestId count : Nat} (minted : ∀ event ∈ history, event.Minted count)
    (unminted : count ≤ requestId) : requestLeg requestId history = none := by
  unfold requestLeg
  rw [findSome?_eq_none_iff]
  intro event mem
  have below := minted event mem
  cases event with
  | requested other leg charge message =>
    simp only [CraftEvent.Minted] at below
    exact if_neg (by omega)
  | _ => rfl

variable {event : CraftEvent}

theorem Minted.later {count later : Nat} (minted : event.Minted count) (grows : count ≤ later) :
    event.Minted later := by
  cases event with
  | requested other leg charge message => exact Nat.lt_of_lt_of_le minted grows
  | _ => trivial

variable (before : List CraftEvent)

theorem paidFrom_eq_zero (nothing : ∀ event ∈ events, ∀ before, event.pays entity leg before = 0) :
    paidFrom entity leg before events = 0 := by
  induction events generalizing before with
  | nil => rfl
  | cons event rest ih =>
    rw [paidFrom, nothing event mem_cons_self,
      ih _ fun later mem => nothing later (mem_cons_of_mem event mem)]
    rfl

def CraftEvent.Plain : CraftEvent → Prop
  | .begun _ _ => False
  | .accepted _ _ _ _ => False
  | .advanced _ => False
  | _ => True

theorem Plain.neutral (plain : event.Plain) : event.Neutral := by
  cases event with
  | begun => exact plain.elim
  | accepted => exact plain.elim
  | _ => trivial

variable (plain : ∀ event ∈ events, event.Plain)

include plain

theorem paidFrom_plain : paidFrom entity leg before events = 0 := by
  apply paidFrom_eq_zero
  intro event mem _
  have apart := plain event mem
  cases event with
  | accepted => exact apart.elim
  | _ => rfl

theorem begun_plain : begun entity events = 0 := by
  unfold begun
  rw [countP_eq_zero]
  intro event mem
  have apart := plain event mem
  cases event with
  | begun => exact apart.elim
  | _ => simp [CraftEvent.begins]

theorem advanced_plain : advanced entity events = 0 := by
  unfold advanced
  rw [countP_eq_zero]
  intro event mem
  have apart := plain event mem
  cases event with
  | advanced => exact apart.elim
  | _ => simp [CraftEvent.advances]

omit plain

variable (other : ∀ event ∈ events, event.entity ≠ entity)

include other

theorem paidFrom_other : paidFrom entity leg before events = 0 := by
  apply paidFrom_eq_zero
  intro event mem _
  have distinct := other event mem
  cases event with
  | accepted => exact if_neg fun both => distinct both.1
  | _ => rfl

theorem begun_other : begun entity events = 0 := by
  unfold begun
  rw [countP_eq_zero]
  intro event mem
  have distinct := other event mem
  cases event with
  | begun owner recipe => simpa [CraftEvent.begins, CraftEvent.entity] using distinct
  | _ => simp [CraftEvent.begins]

theorem advanced_other : advanced entity events = 0 := by
  unfold advanced
  rw [countP_eq_zero]
  intro event mem
  have distinct := other event mem
  cases event with
  | advanced owner => simpa [CraftEvent.advances, CraftEvent.entity] using distinct
  | _ => simp [CraftEvent.advances]

omit other

theorem acceptedSince_other (history : List CraftEvent)
    (other : ∀ event ∈ events, event.entity ≠ entity) :
    acceptedSince entity leg (history ++ events) = acceptedSince entity leg history := by
  unfold acceptedSince
  rw [foldl_append]
  apply foldl_passes
  intro event mem total
  have distinct := other event mem
  cases event with
  | begun owner recipe => exact if_neg distinct
  | accepted owner requirementId requestId amount => exact if_neg fun both => distinct both.1
  | _ => rfl

theorem lastRecipe_other (history : List CraftEvent)
    (other : ∀ event ∈ events, event.entity ≠ entity) :
    lastRecipe entity (history ++ events) = lastRecipe entity history := by
  unfold lastRecipe
  rw [foldl_append]
  apply foldl_passes
  intro event mem last
  have distinct := other event mem
  cases event with
  | begun owner recipe => exact if_neg distinct
  | _ => rfl

end History

open Common Crafting Inventory

namespace CraftReservationClient

variable {client : CraftReservationClient}

def Opens (client next : CraftReservationClient) (new : OutstandingRequest → Prop) : Prop :=
  ∀ id request, next.outstanding.lookup id = some request →
    client.outstanding.lookup id = some request ∨ new request

theorem request_opens (fresh : client.Fresh) (publish : Nat → Bool) (entity : Nat)
    (reservation : RequirementReservation) :
    client.Opens (client.request publish entity reservation).1 fun request =>
      request.entity = entity ∧ 0 ≤ request.requested ∧
        request.requirementId = reservation.requirementId := by
  intro id request
  unfold CraftReservationClient.request
  simp only
  split
  · exact Or.inl
  rename_i missing
  split
  · intro found
    rw [lookup_emplace fresh] at found
    split at found
    · cases found
      exact Or.inr ⟨rfl, Int.le_of_lt (Int.not_le.mp missing), rfl⟩
    · exact Or.inl found
  · exact Or.inl

variable {client : CraftReservationClient}

theorem requestAll_opens (fresh : client.Fresh)
    (publish : Nat → Bool) (entity : Nat) (reservations : List RequirementReservation) :
    client.Opens (client.requestAll publish entity reservations).1 fun request =>
      request.entity = entity ∧ 0 ≤ request.requested ∧
        ∃ reservation ∈ reservations, request.requirementId = reservation.requirementId := by
  induction reservations generalizing client with
  | nil => exact fun id request found => Or.inl found
  | cons reservation rest ih =>
    intro id request found
    have grows := (request_extends fresh publish entity reservation).1
    rcases ih (grows.fresh fresh) id request found with
      earlier | ⟨own, asked, other, mem, leg⟩
    · rcases request_opens fresh publish entity reservation id request earlier with old | new
      · exact Or.inl old
      · exact Or.inr ⟨new.1, new.2.1, reservation, mem_cons_self, new.2.2⟩
    · exact Or.inr ⟨own, asked, other, mem_cons_of_mem _ mem, leg⟩

theorem chargeAll_opens (fresh : client.Fresh)
    (publish : Nat → Bool) (entity leg : Nat) (requirements : List ResourceRequirement) :
    client.Opens (client.chargeAll publish entity leg requirements).1 fun request =>
      request.entity = entity ∧ 0 ≤ request.requested ∧ request.requirementId = 0 := by
  induction requirements generalizing client leg with
  | nil => exact fun id request found => Or.inl found
  | cons requirement rest ih =>
    intro id request
    unfold chargeAll
    simp only
    split
    · exact ih fresh _ id request
    rename_i positive
    split
    · intro found
      have grows := (emplace_extends fresh
        ⟨entity, 0, wrapI32 requirement.amount.toNat⟩).countCharge entity
      rcases ih (grows.fresh fresh) _ id request found with earlier | new
      · simp only [countCharge] at earlier
        rw [lookup_emplace fresh] at earlier
        split at earlier
        · rw [← Option.some.inj earlier]
          exact Or.inr ⟨rfl, by simp only; omega, rfl⟩
        · exact Or.inl earlier
      · exact Or.inr new
    · exact ih ((skip_extends fresh).fresh fresh) _ id request

theorem request_minted (client : CraftReservationClient) (publish : Nat → Bool) (entity : Nat)
    (reservation : RequirementReservation) :
    ∀ event ∈ (client.request publish entity reservation).2.2,
      event.Minted (client.request publish entity reservation).1.nextRequestId := by
  unfold request
  simp only
  split
  · exact fun _ none => absurd none not_mem_nil
  split
  · intro event mem
    obtain rfl := mem_singleton.mp mem
    exact Nat.lt_succ_self _
  · exact fun _ none => absurd none not_mem_nil

variable {client : CraftReservationClient}

theorem requestAll_minted (fresh : client.Fresh)
    (publish : Nat → Bool) (entity : Nat) (reservations : List RequirementReservation) :
    ∀ event ∈ (client.requestAll publish entity reservations).2.2,
      event.Minted (client.requestAll publish entity reservations).1.nextRequestId := by
  induction reservations generalizing client with
  | nil => simp [requestAll]
  | cons reservation rest ih =>
    intro event mem
    obtain ⟨grows, -⟩ := request_extends fresh publish entity reservation
    have restGrows := (requestAll_extends (grows.fresh fresh) publish entity rest).1
    rcases mem_append.mp mem with head | tail
    · exact Minted.later (request_minted client publish entity reservation event head)
        restGrows.count
    · exact ih (grows.fresh fresh) event tail

theorem chargeAll_minted (fresh : client.Fresh)
    (publish : Nat → Bool) (entity leg : Nat) (requirements : List ResourceRequirement) :
    ∀ event ∈ (client.chargeAll publish entity leg requirements).2,
      event.Minted (client.chargeAll publish entity leg requirements).1.nextRequestId := by
  induction requirements generalizing client leg with
  | nil => simp [chargeAll]
  | cons requirement rest ih =>
    unfold chargeAll
    simp only
    split
    · exact ih fresh _
    split
    · intro event mem
      have grows := (emplace_extends fresh
        ⟨entity, 0, wrapI32 requirement.amount.toNat⟩).countCharge entity
      rcases mem_cons.mp mem with head | tail
      · have restGrows := chargeAll_extends (grows.fresh fresh) publish entity (leg + 1) rest
        rw [head]
        exact Nat.lt_of_lt_of_le (Nat.lt_succ_self _) restGrows.count
      · exact ih (grows.fresh fresh) _ event tail
    · exact ih ((skip_extends fresh).fresh fresh) _

end CraftReservationClient

structure ChargeFrame (entity : Nat) (system next : CraftSystem) (events : List CraftEvent) :
    Prop where
  loaded : next.recipes = system.recipes
  machine : ∀ machine, system.registry.lookup entity = some machine →
    ∃ slots, next.registry.lookup entity = some { machine with slots := slots }
  opens : ∀ id request, next.client.outstanding.lookup id = some request →
    request.entity = entity → system.client.outstanding.lookup id = some request
  count : system.client.nextRequestId ≤ next.client.nextRequestId
  other : ∀ event ∈ events, event.entity ≠ entity
  minted : ∀ event ∈ events, event.Minted next.client.nextRequestId

namespace ChargeFrame

variable {entity : Nat} {system second third : CraftSystem} {events later : List CraftEvent}

theorem refl (entity : Nat) (system : CraftSystem) : ChargeFrame entity system system [] where
  loaded := rfl
  machine := fun machine found => ⟨machine.slots, found⟩
  opens := fun _ _ found _ => found
  count := Nat.le_refl _
  other := fun _ none => absurd none not_mem_nil
  minted := fun _ none => absurd none not_mem_nil

theorem trans (former : ChargeFrame entity system second events)
    (latter : ChargeFrame entity second third later) :
    ChargeFrame entity system third (events ++ later) where
  loaded := latter.loaded.trans former.loaded
  machine := fun machine found => by
    obtain ⟨slots, kept⟩ := former.machine machine found
    obtain ⟨last, final⟩ := latter.machine _ kept
    exact ⟨last, final⟩
  opens := fun id request found own =>
    former.opens id request (latter.opens id request found own) own
  count := Nat.le_trans former.count latter.count
  other := fun event mem => (mem_append.mp mem).elim (former.other event)
    (latter.other event)
  minted := fun event mem => (mem_append.mp mem).elim
    (fun earlier => Minted.later (former.minted event earlier) latter.count)
    (latter.minted event)

variable {owner : Nat}

theorem of_client (distinct : owner ≠ entity) {client : CraftReservationClient}
    (count : system.client.nextRequestId ≤ client.nextRequestId)
    (opens : system.client.Opens client fun request => request.entity = owner)
    (own : ∀ event ∈ events, event.entity = owner)
    (minted : ∀ event ∈ events, event.Minted client.nextRequestId) :
    ChargeFrame entity system { system with client := client } events where
  loaded := rfl
  machine := fun machine found => ⟨machine.slots, found⟩
  opens := fun id request found asked => by
    rcases opens id request found with old | new
    · exact old
    · exact absurd (new.symm.trans asked) distinct
  count := count
  other := fun event mem same => distinct ((own event mem).symm.trans same)
  minted := minted

theorem setMachine (distinct : owner ≠ entity) (system : CraftSystem) (machine : MachineEntity) :
    ChargeFrame entity system (system.setMachine owner machine) [] :=
  { refl entity system with
    machine := fun kept found => by
      refine ⟨kept.slots, ?_⟩
      rw [ReservationInvariant.lookup_setMachine, if_neg (Ne.symm distinct)]
      exact found }

theorem rewrite (distinct : owner ≠ entity) (former : ChargeFrame entity system second events)
    (machine : MachineEntity) :
    ChargeFrame entity system (second.setMachine owner machine) events := by
  have whole := former.trans (setMachine distinct second machine)
  rwa [append_nil] at whole

theorem report (entity : Nat) (system : CraftSystem)
    (other : ∀ event ∈ events, event.entity ≠ entity)
    (silent : ∀ event ∈ events, event.Minted system.client.nextRequestId) :
    ChargeFrame entity system system events :=
  { refl entity system with other := other, minted := silent }

section Operations

variable {owner : Nat}

theorem drop_opens (client : CraftReservationClient) (owner : Nat)
    (new : OutstandingRequest → Prop) : client.Opens (client.drop owner) new :=
  fun id request found => Or.inl (drop_subset owner id request found)

theorem fresh_cancel {system : CraftSystem} (fresh : system.client.Fresh) (owner : Nat) :
    (system.cancel owner).client.Fresh := by
  have dropped : (system.client.drop owner).Fresh := fun id request found =>
    fresh id request (drop_subset owner id request found)
  unfold CraftSystem.cancel
  split
  · exact dropped
  · exact dropped

theorem fresh_cancelStale {system : CraftSystem} (fresh : system.client.Fresh) (owner : Nat)
    (recipe : Recipe) : (system.cancelStale owner recipe).client.Fresh := by
  unfold CraftSystem.cancelStale
  split
  · exact fresh
  · split
    · exact fresh
    · exact fresh_cancel fresh owner

variable (distinct : owner ≠ entity)

include distinct

theorem cancel (system : CraftSystem) : ChargeFrame entity system (system.cancel owner) [] := by
  have dropped : ChargeFrame entity system
      { system with client := system.client.drop owner } [] :=
    of_client distinct (Nat.le_refl _) (drop_opens _ owner _)
      (fun _ none => absurd none not_mem_nil) (fun _ none => absurd none not_mem_nil)
  unfold CraftSystem.cancel
  split
  · exact dropped
  · exact dropped.trans (setMachine distinct _ _)

theorem cancelStale (system : CraftSystem) (recipe : Recipe) :
    ChargeFrame entity system (system.cancelStale owner recipe) [] := by
  unfold CraftSystem.cancelStale
  split
  · exact refl entity system
  · split
    · exact refl entity system
    · exact cancel distinct system

variable {system : CraftSystem}

theorem requestAll (fresh : system.client.Fresh)
    (publish : Nat → Bool) (reservations : List RequirementReservation) :
    ChargeFrame entity system
      { system with client := (system.client.requestAll publish owner reservations).1 }
      (system.client.requestAll publish owner reservations).2.2 := by
  refine of_client distinct
    (requestAll_extends fresh publish owner reservations).1.count ?_ ?_
    (requestAll_minted fresh publish owner reservations)
  · intro id request found
    exact (requestAll_opens fresh publish owner reservations id request found).imp_right And.left
  intro event mem
  obtain ⟨leg, charge, message, rfl⟩ := requestAll_neutral publish owner
    system.client reservations event mem
  rfl

theorem beginReservation
    (fresh : system.client.Fresh) (recipe : Recipe) (nowTick : Nat) (publish : Nat → Bool) :
    ChargeFrame entity system (system.beginReservation owner recipe nowTick publish).1
      (system.beginReservation owner recipe nowTick publish).2 := by
  unfold CraftSystem.beginReservation
  split
  · exact refl entity system
  split
  · exact refl entity system
  have opened : ChargeFrame entity system system [.begun owner recipe] :=
    report entity system (by simpa [CraftEvent.entity] using distinct)
      (by simp [CraftEvent.Minted])
  have requested := requestAll distinct fresh publish (newReservations recipe nowTick)
  exact opened.trans (requested.rewrite distinct _)

theorem tickPending (fresh : system.client.Fresh) (nowTick : Nat) (publish : Nat → Bool) :
    ChargeFrame entity system (system.tickPending owner nowTick publish).1
      (system.tickPending owner nowTick publish).2.2 := by
  unfold CraftSystem.tickPending
  split
  · exact refl entity system
  split
  · exact refl entity system
  rename_i craft _
  split
  · exact refl entity system
  split
  · exact cancel distinct system
  split
  · exact refl entity system
  · have requested := requestAll distinct fresh publish craft.requirements
    exact requested.rewrite distinct _

theorem commitPendingCraft (system : CraftSystem) (first last : Nat) :
    ChargeFrame entity system (system.commitPendingCraft owner first last).1
      (system.commitPendingCraft owner first last).2 := by
  unfold CraftSystem.commitPendingCraft
  split
  · exact refl entity system
  split
  · exact refl entity system
  split
  · exact refl entity system
  split
  · exact cancel distinct system
  have committed : ChargeFrame entity system system [.committed owner] :=
    report entity system (by simpa [CraftEvent.entity] using distinct)
      (by simp [CraftEvent.Minted])
  exact committed.rewrite distinct _

theorem tickOrchestratedStart {system : CraftSystem}
    (fresh : system.client.Fresh) (recipe : Recipe) (nowTick first last : Nat)
    (publish : Nat → Bool) : ChargeFrame entity system
      (system.tickOrchestratedStart owner recipe nowTick first last publish).1
      (system.tickOrchestratedStart owner recipe nowTick first last publish).2 := by
  have stale := cancelStale distinct system recipe
  have staleFresh := fresh_cancelStale fresh owner recipe
  unfold CraftSystem.tickOrchestratedStart
  simp only
  split
  · exact stale.trans (beginReservation distinct staleFresh recipe nowTick publish)
  have ticked := stale.trans (tickPending distinct staleFresh nowTick publish)
  split
  · exact ticked
  · exact ticked.trans (commitPendingCraft distinct _ first last)

theorem start {system : CraftSystem} (fresh : system.client.Fresh)
    (recipeId : String) (nowTick first last : Nat) (publish : Nat → Bool) :
    ChargeFrame entity system (system.start owner recipeId nowTick first last publish).1
      (system.start owner recipeId nowTick first last publish).2 := by
  unfold CraftSystem.start
  split
  · split
    · exact tickOrchestratedStart distinct fresh _ nowTick first last publish
    · exact refl entity system
  · exact refl entity system

theorem creditBuffer (system : CraftSystem) (amount : Int) :
    ChargeFrame entity system (system.creditBuffer owner amount) [] := by
  unfold CraftSystem.creditBuffer
  split
  · exact refl entity system
  · split
    · exact refl entity system
    · exact setMachine distinct system _

theorem tickActive {system : CraftSystem} (fresh : system.client.Fresh) (publish : Nat → Bool) :
    ChargeFrame entity system (system.tickActive owner publish).1
      (system.tickActive owner publish).2 := by
  unfold CraftSystem.tickActive
  split
  · exact refl entity system
  split
  · exact refl entity system
  split
  · exact setMachine distinct system _
  rename_i recipe _
  split
  · exact refl entity system
  simp only
  split
  · unfold beginPerTickCharge
    split
    · exact refl entity system
    split
    · exact refl entity system
    refine of_client distinct (chargeAll_extends fresh publish owner 1 _).count ?_ ?_
      (chargeAll_minted fresh publish owner 1 _)
    · intro id request found
      exact (chargeAll_opens fresh publish owner 1 _ id
        request found).imp_right And.left
    intro event mem
    obtain ⟨leg, charge, message, rfl⟩ := chargeAll_neutral
      publish owner 1 system.client _ event mem
    rfl
  · have advanced : ChargeFrame entity system system [.advanced owner] :=
      report entity system (by simpa [CraftEvent.entity] using distinct)
        (by simp [CraftEvent.Minted])
    exact advanced.rewrite distinct _

omit distinct

theorem forget (entity : Nat) (system : CraftSystem) (requestId : Nat) :
    ChargeFrame entity system { system with client := system.client.forget requestId } [] :=
  { refl entity system with
    opens := fun id request found _ => by
      simp only [ReservationInvariant.lookup_forget] at found
      split at found
      · exact absurd found (by simp)
      · exact found }

theorem onConsumeResponse {system : CraftSystem} (response : ResourceTransferResponse)
    (distinct : ∀ pending, system.client.outstanding.lookup response.requestId = some pending →
      pending.entity ≠ entity) : ChargeFrame entity system (system.onConsumeResponse response).1
      (system.onConsumeResponse response).2 := by
  unfold CraftSystem.onConsumeResponse
  split
  · exact refl entity system
  rename_i pending answered
  have apart := distinct pending answered
  have forgotten := forget entity system response.requestId
  have accepted : ∀ (state : CraftSystem) (requirementId : Nat) (amount : Int)
      (declares : List CraftEvent), (∀ event ∈ declares, event = .declared pending.entity) →
      ChargeFrame entity state state
        (.accepted pending.entity requirementId response.requestId amount :: declares) := by
    intro state requirementId amount declares only
    refine report entity state ?_ ?_
    · intro event mem
      rcases mem_cons.mp mem with rfl | later
      · exact apart
      · rw [only event later]
        exact apart
    · intro event mem
      rcases mem_cons.mp mem with rfl | later
      · trivial
      · rw [only event later]
        trivial
  simp only
  split
  · have settled : ChargeFrame entity
        { system with client := system.client.forget response.requestId }
        { system with
          client := (system.client.forget response.requestId).settleCharge pending.entity } [] :=
      of_client apart (Nat.le_refl _) (fun id request found => Or.inl found)
        (fun _ none => absurd none not_mem_nil) (fun _ none => absurd none not_mem_nil)
    exact forgotten.trans (settled.trans ((creditBuffer apart _ _).trans
      (accepted _ 0 _ [] fun _ none => absurd none not_mem_nil)))
  · split
    · exact forgotten
    split
    · exact forgotten
    split
    · exact forgotten
    split
    · exact forgotten
    refine forgotten.trans ((setMachine apart _ _).trans ((creditBuffer apart _ _).trans
      (accepted _ pending.requirementId _ _ ?_)))
    intro event mem
    rw [mem_ite_nil_right] at mem
    exact mem_singleton.mp mem.2

end Operations

end ChargeFrame

end GtnhPlatform.SimCore
