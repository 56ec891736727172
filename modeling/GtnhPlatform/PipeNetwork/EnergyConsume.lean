import GtnhPlatform.PipeNetwork.Service
import GtnhPlatform.PipeNetwork.Traversal
import GtnhPlatform.Data.Shares

namespace GtnhPlatform.PipeNetwork

open List NodeState

structure EnergyConsumeReq where
  nodeId : Nat
  position : Position
  amount : Int

inductive EnergyMessage where
  | flow (consumer source nodeId : Nat) (type : EnergyType) (amount : Int) (position : Position)
  | consumed (consumed remaining : Int) (nodeId : Nat)

def NodeState.addEnergy (amount : Int) (state : NodeState) : NodeState :=
  { state with energy := state.energy + amount }

def energyOf (states : Table Nat NodeState) (id : Nat) : Int :=
  ((states.lookup id).map NodeState.energy).getD 0

def sourcesIn (states : Table Nat NodeState) (nodeIds : List Nat) : List Nat :=
  nodeIds.filter fun id => (states.lookup id).any NodeState.isSource

/-- What `computeConsume` returns, by value and by reference. -/
structure ConsumeSums where
  states : Table Nat NodeState
  consumed : Int := 0
  totalSource : Int := 0
  sourceCount : Nat := 0

def takeOf (sums : ConsumeSums) (remainingDebt energy : Int) : Int :=
  min (if 1 < sums.sourceCount then wrapI32 ((sums.consumed * energy).tdiv sums.totalSource)
    else min remainingDebt energy) energy

namespace PipeNetworkService

variable (service : PipeNetworkService)

def requesterNetwork (nodeId : Nat) : Option Network :=
  service.networkManager.networks.values.find? fun network => nodeId ∈ network.nodeIds

def giveTo (nodeId : Nat) (amount : Int) : Int :=
  ((service.nodeStates.lookup nodeId).map fun sink => min amount (sink.capacity - sink.energy)).getD 0

def creditSink (nodeId : Nat) (amount : Int) : Table Nat NodeState :=
  match service.nodeStates.lookup nodeId with
  | none => service.nodeStates
  | some sink =>
    AList.insert nodeId (sink.addEnergy (service.giveTo nodeId amount)) service.nodeStates

/-- The sum of what the sources hold may overflow. -/
def computeConsume (nodeId : Nat) (amount : Int) : Option ConsumeSums :=
  match service.requesterNetwork nodeId with
  | none => some ⟨service.nodeStates, 0, 0, 0⟩
  | some network =>
    let states := service.creditSink nodeId amount
    let sources := sourcesIn states network.nodeIds
    (sumI32 (sources.map (energyOf states))).map fun total =>
      ⟨states, service.giveTo nodeId amount, total, sources.length⟩

end PipeNetworkService

def debitEach (request : EnergyConsumeReq) (consumer : Nat) (sums : ConsumeSums) :
    Int → List Nat → Table Nat NodeState → Table Nat NodeState × List EnergyMessage
  | _, [], states => (states, [])
  | remainingDebt, id :: rest, states =>
    match states.lookup id with
    | none => debitEach request consumer sums remainingDebt rest states
    | some source =>
      if source.isSource then
        let take := takeOf sums remainingDebt source.energy
        let (last, flows) := debitEach request consumer sums (remainingDebt - take) rest
          (AList.insert id (source.addEnergy (-take)) states)
        (last, .flow consumer id request.nodeId source.type take request.position :: flows)
      else debitEach request consumer sums remainingDebt rest states

namespace PipeNetworkService

def payFrom (request : EnergyConsumeReq) (consumer : Nat) (nodeIds : List Nat)
    (sums : ConsumeSums) : Table Nat NodeState × List EnergyMessage :=
  if 0 < sums.consumed ∧ 0 < sums.totalSource then
    debitEach request consumer sums sums.consumed nodeIds sums.states
  else (sums.states, [])

def handleConsumeRequest (service : PipeNetworkService) (request : EnergyConsumeReq) :
    Option (PipeNetworkService × List EnergyMessage) :=
  match service.protocolToMgr.lookup request.nodeId with
  | none => some (service, [.consumed 0 0 request.nodeId])
  | some nodeId =>
    (service.computeConsume nodeId request.amount).map fun sums =>
      let nodeIds := ((service.requesterNetwork nodeId).map Network.nodeIds).getD []
      let (states, flows) := payFrom request nodeId nodeIds sums
      ({ service with nodeStates := states },
        flows ++ [.consumed sums.consumed (energyOf states nodeId) request.nodeId])

end PipeNetworkService

def StatesFit (states : Table Nat NodeState) : Prop :=
  ∀ id state, states.lookup id = some state → 0 ≤ state.energy ∧ state.energy ≤ state.capacity

structure EnergyPaid (before after : Table Nat NodeState) (nodeIds : List Nat) (nodeId : Nat)
    (amount consumed : Int) : Prop where
  lower : 0 ≤ consumed
  upper : consumed ≤ max amount 0
  paid : ((nodeIds.filter fun id => id != nodeId).map fun id =>
    energyOf before id - energyOf after id).sum = consumed
  received : energyOf after nodeId = energyOf before nodeId + consumed
  fits : StatesFit after

namespace PipeNetworkService

/-- A request is answered, and what the answer says has been paid for. -/
def ConsumesPaid (service : PipeNetworkService) (request : EnergyConsumeReq) : Prop :=
  ∃ after flows consumed remaining, service.handleConsumeRequest request =
      some (after, flows ++ [.consumed consumed remaining request.nodeId]) ∧
    match service.protocolToMgr.lookup request.nodeId with
    | none => consumed = 0 ∧ after = service
    | some nodeId =>
      EnergyPaid service.nodeStates after.nodeStates
        (((service.requesterNetwork nodeId).map Network.nodeIds).getD []) nodeId request.amount consumed

structure CanPay (service : PipeNetworkService) (nodeIds : List Nat) (nodeId : Nat) (give : Int) :
    Prop where
  positive : 0 < give
  apart : nodeId ∉ sourcesIn service.nodeStates nodeIds
  enough : give ≤ ((sourcesIn service.nodeStates nodeIds).map (energyOf service.nodeStates)).sum
  even : ∀ id ∈ sourcesIn service.nodeStates nodeIds,
    ((sourcesIn service.nodeStates nodeIds).map (energyOf service.nodeStates)).sum ∣
      give * energyOf service.nodeStates id

def Payable (service : PipeNetworkService) (request : EnergyConsumeReq) : Prop :=
  ∀ nodeId network, service.protocolToMgr.lookup request.nodeId = some nodeId →
    service.requesterNetwork nodeId = some network →
      ((sourcesIn service.nodeStates network.nodeIds).map (energyOf service.nodeStates)).sum <
          2 ^ 31 ∧
        (service.giveTo nodeId request.amount = 0 ∨
          service.CanPay network.nodeIds nodeId (service.giveTo nodeId request.amount))

end PipeNetworkService

variable {id : Nat} {states : Table Nat NodeState}

theorem mem_sourcesIn {nodeIds : List Nat} :
    id ∈ sourcesIn states nodeIds ↔
      id ∈ nodeIds ∧ (states.lookup id).any isSource = true := mem_filter

theorem sourcesIn_insert {state : NodeState} (stored : states.lookup id = some state) (amount : Int)
    (nodeIds : List Nat) : sourcesIn (AList.insert id (state.addEnergy amount) states) nodeIds =
      sourcesIn states nodeIds := by
  apply filter_congr
  intro other _
  rw [Table.lookup_insert_eq]
  split
  · next here =>
    rw [here, stored]
    rfl
  · rfl

theorem takeOf_congr {sums : ConsumeSums} (first second energy : Int)
    (several : 1 < sums.sourceCount) : takeOf sums first energy = takeOf sums second energy := by
  rw [takeOf, takeOf, if_pos several, if_pos several]

theorem lookup_debitEach (request : EnergyConsumeReq) (consumer : Nat) (sums : ConsumeSums)
    {nodeIds : List Nat} (distinct : nodeIds.Nodup) (remainingDebt : Int)
    (states : Table Nat NodeState)
    (single : ¬1 < sums.sourceCount → (sourcesIn states nodeIds).length ≤ 1) (id : Nat) :
    (debitEach request consumer sums remainingDebt nodeIds states).1.lookup id =
      (states.lookup id).map fun state =>
        if id ∈ sourcesIn states nodeIds then
          state.addEnergy (-takeOf sums remainingDebt state.energy)
        else state := by
  induction nodeIds generalizing remainingDebt states with
  | nil =>
    rw [debitEach]
    cases states.lookup id with
    | none => rfl
    | some state => rfl
  | cons first rest ih =>
    obtain ⟨fresh, distinct⟩ := nodup_cons.mp distinct
    have skip : (states.lookup first).any isSource = false →
        (debitEach request consumer sums remainingDebt rest states).1.lookup id =
          (states.lookup id).map fun state =>
            if id ∈ sourcesIn states (first :: rest) then
              state.addEnergy (-takeOf sums remainingDebt state.energy)
            else state := by
      intro none
      have same : sourcesIn states (first :: rest) = sourcesIn states rest :=
        filter_cons_of_neg (by rw [none]; exact Bool.false_ne_true)
      rw [same] at single ⊢
      exact ih distinct remainingDebt states single
    rw [debitEach]
    cases stored : states.lookup first with
    | none =>
      apply skip
      rw [stored]
      rfl
    | some source =>
      dsimp only
      split
      · next isSource =>
        have here : sourcesIn states (first :: rest) = first :: sourcesIn states rest :=
          filter_cons_of_pos (by rw [stored]; exact isSource)
        rw [here] at single ⊢
        rw [ih distinct]
        · rw [sourcesIn_insert stored, Table.lookup_insert_eq]
          have absent : first ∉ sourcesIn states rest :=
            fun mem => fresh (mem_sourcesIn.mp mem).1
          by_cases same : id = first
          · rw [if_pos same, same, stored, Option.map_some, Option.map_some, if_neg absent,
              if_pos mem_cons_self]
          rw [if_neg same]
          congr 1
          funext state
          by_cases later : id ∈ sourcesIn states rest
          · have several : 1 < sums.sourceCount := by
              by_contra one
              have length := single one
              rw [length_cons] at length
              have some := length_pos_of_mem later
              omega
            rw [if_pos later, if_pos (mem_cons_of_mem _ later),
              takeOf_congr _ remainingDebt state.energy several]
          · rw [if_neg later, if_neg]
            intro either
            exact (mem_cons.mp either).elim same later
        · intro one
          have length := single one
          rw [length_cons] at length
          rw [sourcesIn_insert stored]
          omega
      · next other =>
        apply skip
        rw [stored]
        exact Bool.eq_false_iff.mpr other

/-- The sums of the first loop over the sources of a network. -/
structure SumsOf (sums : ConsumeSums) (nodeIds : List Nat) : Prop where
  total : sums.totalSource = ((sourcesIn sums.states nodeIds).map (energyOf sums.states)).sum
  count : sums.sourceCount = (sourcesIn sums.states nodeIds).length
  filled : ∀ id, 0 ≤ energyOf sums.states id
  bound : sums.consumed < 2 ^ 31

def paidBy (sums : ConsumeSums) (nodeIds : List Nat) (id : Nat) : Int :=
  if 0 < sums.consumed ∧ 0 < sums.totalSource ∧ id ∈ sourcesIn sums.states nodeIds then
    takeOf sums sums.consumed (energyOf sums.states id)
  else 0

variable {sums : ConsumeSums} {nodeIds : List Nat}

theorem paidBy_of_notMem (absent : id ∉ sourcesIn sums.states nodeIds) :
    paidBy sums nodeIds id = 0 := if_neg fun all => absent all.2.2

theorem NodeState.addEnergy_zero (state : NodeState) : state.addEnergy 0 = state := by
  rw [addEnergy, Int.add_zero]

theorem lookup_payFrom (request : EnergyConsumeReq) (consumer : Nat) (distinct : nodeIds.Nodup)
    (sumsOf : SumsOf sums nodeIds) (id : Nat) :
    (PipeNetworkService.payFrom request consumer nodeIds sums).1.lookup id =
      (sums.states.lookup id).map (addEnergy (-paidBy sums nodeIds id)) := by
  have unpaid : paidBy sums nodeIds id = 0 → sums.states.lookup id =
        (sums.states.lookup id).map (addEnergy (-paidBy sums nodeIds id)) := by
    intro none
    have same : addEnergy 0 = fun state => state := funext addEnergy_zero
    rw [none, Int.neg_zero, same, Option.map_id']
  rw [PipeNetworkService.payFrom]
  split
  · next pays =>
    rw [lookup_debitEach request consumer sums distinct]
    · by_cases mem : id ∈ sourcesIn sums.states nodeIds
      · cases stored : sums.states.lookup id with
        | none => rfl
        | some state =>
          rw [paidBy, if_pos ⟨pays.1, pays.2, mem⟩, energyOf, stored]
          exact congrArg some (if_pos mem)
      · simp only [if_neg mem, Option.map_id']
        exact unpaid (paidBy_of_notMem mem)
    · intro single
      rw [← sumsOf.count]
      omega
  · next idle => exact unpaid (if_neg fun all => idle ⟨all.1, all.2.1⟩)

variable (sumsOf : SumsOf sums nodeIds)

include sumsOf

theorem energy_le_total (mem : id ∈ sourcesIn sums.states nodeIds) :
    energyOf sums.states id ≤ sums.totalSource := by
  rw [sumsOf.total]
  apply single_le_sum
  · intro energy listed
    obtain ⟨other, -, rfl⟩ := mem_map.mp listed
    exact sumsOf.filled other
  · exact mem_map_of_mem mem

theorem takeOf_several (pays : 0 < sums.consumed)
    (some : 0 < sums.totalSource) (several : 1 < sums.sourceCount)
    (mem : id ∈ sourcesIn sums.states nodeIds) :
    takeOf sums sums.consumed (energyOf sums.states id) =
      min (sums.consumed * energyOf sums.states id / sums.totalSource)
        (energyOf sums.states id) := by
  have share := Shares.share_bounds sums.consumed some (sumsOf.filled id)
    (energy_le_total sumsOf mem) pays.le
  have bound := sumsOf.bound
  rw [Int.mul_comm] at share
  rw [takeOf, if_pos several, share.1, wrapI32_of_bounds (by omega) (by omega)]

theorem paidBy_bounds (id : Nat) :
    0 ≤ paidBy sums nodeIds id ∧ paidBy sums nodeIds id ≤ energyOf sums.states id := by
  have filled := sumsOf.filled id
  rw [paidBy]
  split
  · next pays =>
    obtain ⟨consumes, some, mem⟩ := pays
    by_cases several : 1 < sums.sourceCount
    · have share := Shares.share_bounds sums.consumed some filled
        (energy_le_total sumsOf mem) consumes.le
      rw [Int.mul_comm] at share
      rw [takeOf_several sumsOf consumes some several mem]
      omega
    · rw [takeOf, if_neg several]
      omega
  · exact ⟨le_rfl, filled⟩

theorem sum_paidBy_eq_iff (pays : 0 < sums.consumed) :
    ((sourcesIn sums.states nodeIds).map (paidBy sums nodeIds)).sum = sums.consumed ↔
      sums.consumed ≤ sums.totalSource ∧ ∀ id ∈ sourcesIn sums.states nodeIds,
        sums.totalSource ∣ sums.consumed * energyOf sums.states id := by
  by_cases some : 0 < sums.totalSource
  · have takes : (sourcesIn sums.states nodeIds).map (paidBy sums nodeIds) =
        (sourcesIn sums.states nodeIds).map fun id =>
          takeOf sums sums.consumed (energyOf sums.states id) := by
      apply map_congr_left
      intro id mem
      exact if_pos ⟨pays, some, mem⟩
    rw [takes]
    by_cases several : 1 < sums.sourceCount
    · have shares : ((sourcesIn sums.states nodeIds).map fun id =>
          takeOf sums sums.consumed (energyOf sums.states id)) =
          ((sourcesIn sums.states nodeIds).map (energyOf sums.states)).map fun energy =>
            min (sums.consumed * energy / sums.totalSource) energy := by
        rw [map_map]
        apply map_congr_left
        intro id mem
        exact takeOf_several sumsOf pays some several mem
      have total := sumsOf.total
      rw [total] at some
      rw [shares, total, Shares.sum_capped_eq_iff some pays.le, forall_mem_map]
      intro energy listed
      obtain ⟨id, -, rfl⟩ := mem_map.mp listed
      exact sumsOf.filled id
    · have total := sumsOf.total
      have count := sumsOf.count
      cases sources : sourcesIn sums.states nodeIds with
      | nil =>
        rw [sources, map_nil, sum_nil] at total
        omega
      | cons source rest =>
        rw [sources, length_cons] at count
        obtain rfl := eq_nil_of_length_eq_zero (l := rest) (by omega)
        rw [sources, map_singleton, sum_singleton] at total
        rw [map_singleton, sum_singleton, forall_mem_singleton, ← total, takeOf,
          if_neg several, min_assoc, min_self, min_eq_left_iff]
        exact (and_iff_left (Int.dvd_mul_left _ _)).symm
  · have none : ((sourcesIn sums.states nodeIds).map (paidBy sums nodeIds)).sum = 0 := by
      apply sum_eq_zero
      intro amount listed
      obtain ⟨id, -, rfl⟩ := mem_map.mp listed
      exact if_neg fun all => some all.2.1
    omega

theorem sum_paidBy_others_lt (pays : 0 < sums.consumed)
    (mem : id ∈ sourcesIn sums.states nodeIds) (holds : 0 < energyOf sums.states id) :
    (((sourcesIn sums.states nodeIds).erase id).map (paidBy sums nodeIds)).sum < sums.consumed := by
  have some : 0 < sums.totalSource := lt_of_lt_of_le holds (energy_le_total sumsOf mem)
  have perm := (perm_cons_erase mem).map (energyOf sums.states)
  have split := perm.sum_eq
  rw [← sumsOf.total, map_cons, sum_cons] at split
  by_cases several : 1 < sums.sourceCount
  · have shares : (((sourcesIn sums.states nodeIds).erase id).map (paidBy sums nodeIds)).sum ≤
        ((((sourcesIn sums.states nodeIds).erase id).map (energyOf sums.states)).map fun energy =>
          sums.consumed * energy / sums.totalSource).sum := by
      rw [map_map]
      apply sum_le_sum
      intro other listed
      have source := mem_of_mem_erase listed
      rw [paidBy, if_pos ⟨pays, some, source⟩, takeOf_several sumsOf pays some several source]
      exact min_le_left _ _
    have rounded := Shares.sum_shares_le sums.consumed some
      (((sourcesIn sums.states nodeIds).erase id).map (energyOf sums.states))
    by_contra enough
    have whole := Int.mul_le_mul_of_nonneg_right (le_trans (not_lt.mp enough) shares) some.le
    have part := Int.mul_lt_mul_of_pos_left (show
      (((sourcesIn sums.states nodeIds).erase id).map (energyOf sums.states)).sum <
        sums.totalSource by omega) pays
    omega
  · have count := sumsOf.count
    have length := length_erase_of_mem mem
    rw [eq_nil_of_length_eq_zero (l := (sourcesIn sums.states nodeIds).erase id) (by omega)]
    exact pays

omit sumsOf

theorem sum_others (distinct : nodeIds.Nodup) (nodeId : Nat) :
    ((nodeIds.filter fun id => id != nodeId).map (paidBy sums nodeIds)).sum =
      (((sourcesIn sums.states nodeIds).erase nodeId).map (paidBy sums nodeIds)).sum := by
  have part : ((nodeIds.filter fun id => id != nodeId).map (paidBy sums nodeIds)).sum =
      ((nodeIds.filter fun id => id != nodeId &&
        (sums.states.lookup id).any isSource).map (paidBy sums nodeIds)).sum := by
    apply Shares.sum_filter_of_zero
    · exact fun _ _ both => (Bool.and_eq_true_iff.mp both).1
    intro id _ apart other
    apply paidBy_of_notMem
    intro mem
    rw [apart, (mem_sourcesIn.mp mem).2] at other
    exact nomatch other
  rw [part, sourcesIn, (distinct.filter _).erase_eq_filter, filter_filter]

namespace PipeNetworkService

variable {service : PipeNetworkService} {nodeId : Nat} {amount : Int}

theorem giveTo_of_none (absent : service.nodeStates.lookup nodeId = none) :
    service.giveTo nodeId amount = 0 := by
  rw [giveTo, absent]
  rfl

theorem lookup_creditSink (service : PipeNetworkService) (nodeId : Nat) (amount : Int) (id : Nat) :
    (service.creditSink nodeId amount).lookup id = (service.nodeStates.lookup id).map
      (addEnergy (if id = nodeId then service.giveTo nodeId amount else 0)) := by
  have same : addEnergy 0 = fun state => state := funext addEnergy_zero
  rw [creditSink]
  cases stored : service.nodeStates.lookup nodeId with
  | none =>
    rw [giveTo_of_none stored, ite_self, same, Option.map_id']
  | some sink =>
    rw [Table.lookup_insert_eq]
    split
    · next here =>
      rw [here, stored]
      rfl
    · rw [same, Option.map_id']

theorem energyOf_map {states before : Table Nat NodeState} {id : Nat} {energy : Int}
    (mapped : states.lookup id = (before.lookup id).map (addEnergy energy))
    (absent : before.lookup id = none → energy = 0) :
    energyOf states id = energyOf before id + energy := by
  rw [energyOf, mapped, energyOf]
  cases stored : before.lookup id with
  | none =>
    rw [absent stored]
    rfl
  | some state => rfl

theorem energyOf_creditSink (service : PipeNetworkService) (nodeId : Nat) (amount : Int)
    (id : Nat) : energyOf (service.creditSink nodeId amount) id =
      energyOf service.nodeStates id + if id = nodeId then service.giveTo nodeId amount else 0 := by
  apply energyOf_map (service.lookup_creditSink nodeId amount id)
  intro absent
  split
  · next here => exact giveTo_of_none (here ▸ absent)
  · rfl

theorem sourcesIn_creditSink (service : PipeNetworkService) (nodeId : Nat) (amount : Int)
    (nodeIds : List Nat) :
    sourcesIn (service.creditSink nodeId amount) nodeIds = sourcesIn service.nodeStates nodeIds := by
  rw [creditSink]
  cases stored : service.nodeStates.lookup nodeId with
  | none => rfl
  | some sink => exact sourcesIn_insert stored _ nodeIds

variable {states : Table Nat NodeState}

theorem energyOf_nonneg (fit : StatesFit states) (id : Nat) : 0 ≤ energyOf states id := by
  rw [energyOf]
  cases stored : states.lookup id with
  | none => exact le_rfl
  | some state => exact (fit id state stored).1

theorem giveTo_le (service : PipeNetworkService) (nodeId : Nat) (amount : Int) :
    service.giveTo nodeId amount ≤ max amount 0 := by
  rw [giveTo]
  cases stored : service.nodeStates.lookup nodeId with
  | none => exact le_max_right _ _
  | some sink => exact le_trans (min_le_left _ _) (le_max_left _ _)

variable {network : Network}

theorem computeConsume_spec (found : service.requesterNetwork nodeId = some network)
    (fit : StatesFit service.nodeStates) (gives : 0 ≤ service.giveTo nodeId amount)
    (bound : amount < 2 ^ 31) :
    let states := service.creditSink nodeId amount
    let total := ((sourcesIn states network.nodeIds).map (energyOf states)).sum
    (∀ id, 0 ≤ energyOf states id) ∧
      (¬total < 2 ^ 31 → service.computeConsume nodeId amount = none) ∧
      (total < 2 ^ 31 → ∃ sums, service.computeConsume nodeId amount = some sums ∧
        sums.states = states ∧ sums.consumed = service.giveTo nodeId amount ∧
          SumsOf sums network.nodeIds) := by
  intro states total
  have filled : ∀ id, 0 ≤ energyOf states id := by
    intro id
    have before := energyOf_nonneg fit id
    rw [energyOf_creditSink]
    split <;> omega
  have result : service.computeConsume nodeId amount = if total < 2 ^ 31 then
      some ⟨states, service.giveTo nodeId amount, total,
        (sourcesIn states network.nodeIds).length⟩ else none := by
    rw [computeConsume, found]
    dsimp only
    rw [sumI32_of_nonneg]
    · change Option.map _ (if total < 2 ^ 31 then some total else none) = _
      split <;> rfl
    · intro energy listed
      obtain ⟨id, -, rfl⟩ := mem_map.mp listed
      exact filled id
  refine ⟨filled, ?_, ?_⟩
  · intro large
    rw [result, if_neg large]
  intro small
  rw [if_pos small] at result
  have upper := service.giveTo_le nodeId amount
  exact ⟨_, result, rfl, rfl, rfl, rfl, filled, by dsimp only; omega⟩

theorem nodup_of_requesterNetwork (networks : service.networkManager.NetworksDistinct)
    (found : service.requesterNetwork nodeId = some network) : network.nodeIds.Nodup := by
  obtain ⟨id, stored⟩ := Table.mem_values_iff.mp (mem_of_find?_eq_some found)
  exact networks id network stored

variable {request : EnergyConsumeReq}

theorem consumesPaid_of_network (known : service.protocolToMgr.lookup request.nodeId = some nodeId)
    (found : service.requesterNetwork nodeId = some network) : service.ConsumesPaid request ↔
      ∃ sums, service.computeConsume nodeId request.amount = some sums ∧
        EnergyPaid service.nodeStates (payFrom request nodeId network.nodeIds sums).1
          network.nodeIds nodeId request.amount sums.consumed := by
  rw [ConsumesPaid, handleConsumeRequest, known]
  simp only [found, Option.map_some, Option.getD_some]
  constructor
  · rintro ⟨after, flows, consumed, remaining, result, paid⟩
    obtain ⟨sums, computed, result⟩ := Option.map_eq_some_iff.mp result
    obtain ⟨rfl, messages⟩ := Prod.mk.inj result
    obtain ⟨-, last⟩ := append_inj' messages rfl
    obtain ⟨rfl, -⟩ := EnergyMessage.consumed.inj (cons.inj last).1
    exact ⟨sums, computed, paid⟩
  · rintro ⟨sums, computed, paid⟩
    rw [computed]
    exact ⟨_, _, _, _, rfl, paid⟩

theorem lookup_after (distinct : network.nodeIds.Nodup)
    (states : sums.states = service.creditSink nodeId amount) (sumsOf : SumsOf sums network.nodeIds)
    (id : Nat) :
    (payFrom request nodeId network.nodeIds sums).1.lookup id = (service.nodeStates.lookup id).map
      (addEnergy ((if id = nodeId then service.giveTo nodeId amount else 0) -
        paidBy sums network.nodeIds id)) := by
  rw [lookup_payFrom request nodeId distinct sumsOf, states, lookup_creditSink, Option.map_map]
  congr 1
  funext state
  dsimp only [Function.comp, addEnergy]
  congr 1
  omega

theorem energyOf_after (request : EnergyConsumeReq) (distinct : network.nodeIds.Nodup)
    (states : sums.states = service.creditSink nodeId amount) (sumsOf : SumsOf sums network.nodeIds)
    (id : Nat) : energyOf (payFrom request nodeId network.nodeIds sums).1 id =
      energyOf service.nodeStates id + (if id = nodeId then service.giveTo nodeId amount else 0) -
        paidBy sums network.nodeIds id := by
  have after := lookup_payFrom request nodeId distinct sumsOf id
  rw [energyOf_map after, states, energyOf_creditSink]
  · omega
  intro absent
  have bounds := paidBy_bounds sumsOf id
  rw [energyOf, absent] at bounds
  change 0 ≤ _ ∧ _ ≤ (0 : Int) at bounds
  omega

theorem energyPaid_iff (request : EnergyConsumeReq) (fit : StatesFit service.nodeStates)
    (distinct : network.nodeIds.Nodup) (states : sums.states = service.creditSink nodeId amount)
    (sumsOf : SumsOf sums network.nodeIds) (consumed : sums.consumed = service.giveTo nodeId amount)
    (gives : 0 ≤ service.giveTo nodeId amount) :
    EnergyPaid service.nodeStates (payFrom request nodeId network.nodeIds sums).1 network.nodeIds
        nodeId amount sums.consumed ↔ paidBy sums network.nodeIds nodeId = 0 ∧
        (((sourcesIn sums.states network.nodeIds).erase nodeId).map
          (paidBy sums network.nodeIds)).sum = sums.consumed := by
  have after := energyOf_after request distinct states sumsOf
  have others : (network.nodeIds.filter fun id => id != nodeId).map (fun id =>
      energyOf service.nodeStates id -
        energyOf (payFrom request nodeId network.nodeIds sums).1 id) =
      (network.nodeIds.filter fun id => id != nodeId).map (paidBy sums network.nodeIds) := by
    apply map_congr_left
    intro id mem
    have apart : id ≠ nodeId := bne_iff_ne.mp (mem_filter.mp mem).2
    rw [after, if_neg apart]
    omega
  have here := after nodeId
  rw [if_pos rfl] at here
  rw [← sum_others distinct nodeId, ← others]
  constructor
  · intro paid
    have received := paid.received
    exact ⟨by omega, paid.paid⟩
  rintro ⟨nothing, paid⟩
  refine ⟨by omega, ?_, paid, by omega, ?_⟩
  · rw [consumed]
    exact service.giveTo_le nodeId amount
  intro id state stored
  have bounds := paidBy_bounds sumsOf id
  rw [lookup_after distinct states sumsOf] at stored
  obtain ⟨before, found, rfl⟩ := Option.map_eq_some_iff.mp stored
  have fitted := fit id before found
  have held : energyOf sums.states id = before.energy +
      if id = nodeId then service.giveTo nodeId amount else 0 := by
    rw [states, energyOf_creditSink, energyOf, found]
    rfl
  rw [addEnergy]
  dsimp only
  by_cases same : id = nodeId
  · rw [if_pos same] at held ⊢
    have room : service.giveTo nodeId amount ≤ before.capacity - before.energy := by
      rw [giveTo, ← same, found]
      exact min_le_right _ _
    rw [same, nothing]
    omega
  · rw [if_neg same] at held ⊢
    omega

theorem consumed_of_computeConsume (found : service.requesterNetwork nodeId = some network)
    (computed : service.computeConsume nodeId amount = some sums) :
    sums.consumed = service.giveTo nodeId amount := by
  rw [computeConsume, found] at computed
  obtain ⟨total, -, rfl⟩ := Option.map_eq_some_iff.mp computed
  rfl

theorem energies_creditSink {nodeIds : List Nat}
    (apart : service.giveTo nodeId amount = 0 ∨ nodeId ∉ sourcesIn service.nodeStates nodeIds) :
    ∀ id ∈ sourcesIn service.nodeStates nodeIds,
      energyOf (service.creditSink nodeId amount) id = energyOf service.nodeStates id := by
  intro id mem
  rw [energyOf_creditSink]
  split
  · next here =>
    rw [apart.resolve_right fun absent => absent (here ▸ mem), Int.add_zero]
  · exact Int.add_zero _

variable (known : service.protocolToMgr.lookup request.nodeId = some nodeId)

include known

theorem payable_of_network (found : service.requesterNetwork nodeId = some network) : service.Payable request ↔
      ((sourcesIn service.nodeStates network.nodeIds).map (energyOf service.nodeStates)).sum <
          2 ^ 31 ∧ (service.giveTo nodeId request.amount = 0 ∨
          service.CanPay network.nodeIds nodeId (service.giveTo nodeId request.amount)) := by
  constructor
  · exact fun payable => payable nodeId network known found
  intro pays other list same sameNetwork
  cases known.symm.trans same
  cases found.symm.trans sameNetwork
  exact pays

theorem consumesPaid_iff_of_gives (found : service.requesterNetwork nodeId = some network) (distinct : network.nodeIds.Nodup)
    (fit : StatesFit service.nodeStates) (bound : request.amount < 2 ^ 31)
    (gives : 0 ≤ service.giveTo nodeId request.amount) :
    service.ConsumesPaid request ↔ service.Payable request := by
  obtain ⟨filled, overflows, computes⟩ := computeConsume_spec found fit gives bound
  rw [sourcesIn_creditSink] at overflows computes
  rw [consumesPaid_of_network known found, payable_of_network known found]
  by_cases apart : service.giveTo nodeId request.amount = 0 ∨
      nodeId ∉ sourcesIn service.nodeStates network.nodeIds
  · have energies := energies_creditSink apart
    have total : (sourcesIn service.nodeStates network.nodeIds).map
        (energyOf (service.creditSink nodeId request.amount)) =
          (sourcesIn service.nodeStates network.nodeIds).map (energyOf service.nodeStates) :=
      map_congr_left energies
    rw [total] at overflows computes
    by_cases small : ((sourcesIn service.nodeStates network.nodeIds).map
        (energyOf service.nodeStates)).sum < 2 ^ 31
    · obtain ⟨sums, computed, states, consumed, sumsOf⟩ := computes small
      have sources : sourcesIn sums.states network.nodeIds =
          sourcesIn service.nodeStates network.nodeIds := by
        rw [states, sourcesIn_creditSink]
      have only : (∃ sums, service.computeConsume nodeId request.amount = some sums ∧
          EnergyPaid service.nodeStates (payFrom request nodeId network.nodeIds sums).1
            network.nodeIds nodeId request.amount sums.consumed) ↔
          paidBy sums network.nodeIds nodeId = 0 ∧
            (((sourcesIn sums.states network.nodeIds).erase nodeId).map
              (paidBy sums network.nodeIds)).sum = sums.consumed := by
        rw [← energyPaid_iff request fit distinct states sumsOf consumed gives]
        constructor
        · rintro ⟨other, same, paid⟩
          cases computed.symm.trans same
          exact paid
        · exact fun paid => ⟨sums, computed, paid⟩
      rw [only, and_iff_right small]
      by_cases nothing : service.giveTo nodeId request.amount = 0
      · have unpaid : ∀ id, paidBy sums network.nodeIds id = 0 := by
          intro id
          exact if_neg fun all => all.1.ne' (consumed.trans nothing)
        refine iff_of_true ⟨unpaid nodeId, ?_⟩ (Or.inl nothing)
        rw [consumed, nothing]
        apply sum_eq_zero
        intro amount listed
        obtain ⟨id, -, rfl⟩ := mem_map.mp listed
        exact unpaid id
      · have absent := apart.resolve_left nothing
        have pays : 0 < sums.consumed := by omega
        have total : sums.totalSource = ((sourcesIn service.nodeStates network.nodeIds).map
            (energyOf service.nodeStates)).sum := by
          rw [sumsOf.total, sources, states, total]
        rw [or_iff_right nothing, and_iff_right (paidBy_of_notMem (sources ▸ absent)),
          erase_of_not_mem (sources ▸ absent), sum_paidBy_eq_iff sumsOf pays, total, consumed,
          sources]
        constructor
        · rintro ⟨enough, even⟩
          refine ⟨by omega, absent, enough, ?_⟩
          intro id mem
          have share := even id mem
          rw [states, energies id mem] at share
          exact share
        · intro canPay
          refine ⟨canPay.enough, ?_⟩
          intro id mem
          rw [states, energies id mem]
          exact canPay.even id mem
    · apply iff_of_false
      · rintro ⟨sums, computed, -⟩
        rw [overflows small] at computed
        exact nomatch computed
      · exact fun pays => small pays.1
  · obtain ⟨some, isSource⟩ := not_or.mp apart
    rw [not_not] at isSource
    apply iff_of_false
    · rintro ⟨sums, computed, paid⟩
      by_cases small : ((sourcesIn service.nodeStates network.nodeIds).map
          (energyOf (service.creditSink nodeId request.amount))).sum < 2 ^ 31
      · obtain ⟨other, same, states, consumed, sumsOf⟩ := computes small
        cases computed.symm.trans same
        have sources : sourcesIn sums.states network.nodeIds =
            sourcesIn service.nodeStates network.nodeIds := by
          rw [states, sourcesIn_creditSink]
        have holds : 0 < energyOf sums.states nodeId := by
          have before := energyOf_nonneg fit nodeId
          rw [states, energyOf_creditSink, if_pos rfl]
          omega
        have less := sum_paidBy_others_lt sumsOf (by omega) (sources ▸ isSource) holds
        exact less.ne ((energyPaid_iff _ fit distinct states sumsOf consumed gives).mp paid).2
      · rw [overflows small] at computed
        exact nomatch computed
    · rintro ⟨-, nothing | canPay⟩
      · exact some nothing
      · exact canPay.apart isSource

omit known

theorem consumesPaid_iff {request : EnergyConsumeReq}
    (networks : service.networkManager.NetworksDistinct) (fit : StatesFit service.nodeStates)
    (bound : request.amount < 2 ^ 31) : service.ConsumesPaid request ↔ service.Payable request := by
  cases known : service.protocolToMgr.lookup request.nodeId with
  | none =>
    apply iff_of_true
    · refine ⟨service, [], 0, 0, ?_, ?_⟩
      · rw [handleConsumeRequest, known]
        rfl
      · rw [known]
        exact ⟨rfl, rfl⟩
    · intro nodeId network same
      rw [known] at same
      exact nomatch same
  | some nodeId =>
    cases found : service.requesterNetwork nodeId with
    | none =>
      apply iff_of_true
      · refine ⟨service, [], 0, energyOf service.nodeStates nodeId, ?_, ?_⟩
        · have none : service.computeConsume nodeId request.amount =
              some ⟨service.nodeStates, 0, 0, 0⟩ := by
            rw [computeConsume, found]
          rw [handleConsumeRequest, known]
          dsimp only
          rw [none, found]
          rfl
        · rw [known]
          dsimp only
          rw [found]
          exact ⟨le_rfl, le_max_right _ _, rfl, (Int.add_zero _).symm, fit⟩
      · intro other network same sameNetwork
        cases known.symm.trans same
        rw [found] at sameNetwork
        exact nomatch sameNetwork
    | some network =>
      have distinct := nodup_of_requesterNetwork networks found
      by_cases gives : 0 ≤ service.giveTo nodeId request.amount
      · exact consumesPaid_iff_of_gives known found distinct fit bound gives
      rw [consumesPaid_of_network known found, payable_of_network known found]
      apply iff_of_false
      · rintro ⟨sums, computed, paid⟩
        have consumed := consumed_of_computeConsume found computed
        have lower := paid.lower
        omega
      · rintro ⟨-, nothing | canPay⟩
        · exact gives nothing.ge
        · exact gives canPay.positive.le

def powered (energies : List Int) : PipeNetworkService :=
  let sources := energies.zipIdx 2
  { start 0 with
    networkManager := { networks := AList.insert 1 ⟨1, [1, 2, 3], 0, 0, 0, false, []⟩ ∅ }
    protocolToMgr := AList.insert 7 1 ∅
    nodeStates := sources.foldl
      (fun states source =>
        AList.insert source.2 { energy := source.1, capacity := 100, isSource := true } states)
      (AList.insert 1 { capacity := 10, isSink := true } ∅) }

theorem statesFit_of_entries
    (fit : ∀ entry ∈ states.entries, 0 ≤ entry.2.energy ∧ entry.2.energy ≤ entry.2.capacity) :
    StatesFit states := by
  intro id state stored
  exact fit ⟨id, state⟩ (Table.mem_entries_iff.mpr stored)

theorem networksDistinct_powered (energies : List Int) :
    (powered energies).networkManager.NetworksDistinct := by
  intro id network stored
  rw [powered] at stored
  rw [Table.lookup_insert_eq] at stored
  split at stored
  · cases stored
    decide
  · exact nomatch stored

theorem powered_pays : (powered [20, 20]).ConsumesPaid ⟨7, ⟨0, 0, 0⟩, 10⟩ := by
  apply (consumesPaid_iff (networksDistinct_powered _) (statesFit_of_entries (by decide +kernel))
    (by decide)).mpr
  intro nodeId network known found
  have values : ∀ nodeId ∈ (powered [20, 20]).protocolToMgr.lookup 7,
      ∀ network ∈ (powered [20, 20]).requesterNetwork nodeId,
        (powered [20, 20]).giveTo nodeId 10 = 10 ∧
          nodeId ∉ sourcesIn (powered [20, 20]).nodeStates network.nodeIds ∧
          ((sourcesIn (powered [20, 20]).nodeStates network.nodeIds).map
            (energyOf (powered [20, 20]).nodeStates)).sum = 40 ∧
          ∀ id ∈ sourcesIn (powered [20, 20]).nodeStates network.nodeIds,
            (40 : Int) ∣ 10 * energyOf (powered [20, 20]).nodeStates id := by
    decide +kernel
  obtain ⟨give, apart, total, even⟩ := values nodeId known network found
  refine ⟨by rw [total]; decide, Or.inr ?_⟩
  rw [give]
  exact ⟨by decide, apart, by rw [total]; decide, by rw [total]; exact even⟩

theorem powered_creates :
    (powered []).networkManager.NetworksDistinct ∧ StatesFit (powered []).nodeStates ∧
      ¬(powered []).ConsumesPaid ⟨7, ⟨0, 0, 0⟩, 10⟩ := by
  refine ⟨networksDistinct_powered _, statesFit_of_entries (by decide +kernel), ?_⟩
  have known : (powered []).protocolToMgr.lookup 7 = some 1 := by decide +kernel
  have found : (powered []).requesterNetwork 1 = some ⟨1, [1, 2, 3], 0, 0, 0, false, []⟩ := by
    decide +kernel
  rw [consumesPaid_of_network known found]
  rintro ⟨sums, computed, paid⟩
  have values : ∀ sums ∈ (powered []).computeConsume 1 10, sums.consumed = 10 ∧
      (([1, 2, 3].filter fun id => id != 1).map fun id =>
        energyOf (powered []).nodeStates id -
          energyOf (payFrom ⟨7, ⟨0, 0, 0⟩, 10⟩ 1 [1, 2, 3] sums).1 id).sum = 0 := by
    decide +kernel
  obtain ⟨consumed, nothing⟩ := values sums computed
  have shifted := paid.paid
  rw [consumed] at shifted
  exact absurd (nothing.symm.trans shifted) (by decide)

end PipeNetworkService

end GtnhPlatform.PipeNetwork
