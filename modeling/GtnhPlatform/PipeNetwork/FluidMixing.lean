import GtnhPlatform.PipeNetwork.FillConservation
import Mathlib.Algebra.Order.BigOperators.Group.Finset

namespace GtnhPlatform.PipeNetwork

open Option List

namespace PipeNetworkManager

variable (manager : PipeNetworkManager)

def Marked : Prop :=
  ∀ id node, manager.nodes.lookup id = some node → node.fluidBuffer ≠ 0 → node.fluidId ≠ 0

def heldOf (fluidId : Nat) (node : PipeNode) : Int :=
  if node.fluidId = fluidId then node.fluidBuffer else 0

def amountOf (fluidId id : Nat) : Int :=
  ((manager.nodes.lookup id).map (heldOf fluidId)).getD 0

def fluidTotal (fluidId : Nat) : Int :=
  ∑ id ∈ manager.nodeIds, manager.amountOf fluidId id

inductive FluidOperation where
  | fill (networkId : Nat)
  | distribute (networkId : Nat) (tickFluid : Int)
  | consume (call : ConsumeCall)

structure FluidReport where
  fluidId : Nat
  amount : Int

def suppliedFluid (network : Network) : Nat :=
  if network.fluidId ≠ 0 then network.fluidId else 1

def moveFluid : FluidOperation → PipeNetworkManager × FluidReport
  | .fill networkId =>
    let (filled, deltas) := manager.fillFluidPipesFromSources networkId
    (filled, {
      fluidId := ((manager.networks.lookup networkId).map manager.fillFluid).getD 0
      amount := ∑ id ∈ manager.nodeIds, deltaOf deltas id })
  | .distribute networkId tickFluid =>
    let (filled, deltas) := manager.distributeFluid networkId tickFluid
    (filled, {
      fluidId := ((manager.networks.lookup networkId).map suppliedFluid).getD 0
      amount := (deltas.map (·.2)).sum })
  | .consume call =>
    let (served, result) := manager.consumeFluid call
    (served, {
      fluidId := call.fluidId
      amount := if manager.executes call then -result.acceptedAmount else 0 })

structure KeepsApart (before after : PipeNetworkManager) (report : FluidReport) : Prop where
  received : ∀ id node, before.nodes.lookup id = some node → node.fluidId ≠ 0 →
    before.bufferOf id < after.bufferOf id → node.fluidId = report.fluidId
  marked : after.Marked
  kept : ∀ id node, before.nodes.lookup id = some node → node.fluidBuffer ≠ 0 →
    ∃ next, after.nodes.lookup id = some next ∧ (next.fluidBuffer ≠ 0 → next.fluidId = node.fluidId)
  totals : ∀ fluidId, fluidId ≠ 0 → after.fluidTotal fluidId =
    before.fluidTotal fluidId + if fluidId = report.fluidId then report.amount else 0

structure Receives (fluidId : Nat) (amount : Int) (node next : PipeNode) : Prop where
  buffer : next.fluidBuffer = node.fluidBuffer + amount
  fits : amount ≠ 0 → node.fluidId = 0 ∨ node.fluidId = fluidId
  stays : amount = 0 → next.fluidBuffer ≠ 0 → next.fluidId = node.fluidId
  becomes : amount ≠ 0 → next.fluidBuffer ≠ 0 → next.fluidId = fluidId

namespace Receives

variable {fluidId : Nat} {amount : Int} {node next : PipeNode}

theorem heldOf_eq (receives : Receives fluidId amount node next)
    (marked : node.fluidBuffer ≠ 0 → node.fluidId ≠ 0) (real : fluid ≠ 0) :
    heldOf fluid next = heldOf fluid node + if fluid = fluidId then amount else 0 := by
  have buffer := receives.buffer
  by_cases nothing : amount = 0
  · have stays := receives.stays nothing
    unfold heldOf
    split <;> split <;> split <;> omega
  have fits := receives.fits nothing
  have becomes := receives.becomes nothing
  unfold heldOf
  split <;> split <;> split <;> omega

theorem marked (receives : Receives fluidId amount node next) (real : fluidId = 0 → amount = 0)
    (marked : node.fluidBuffer ≠ 0 → node.fluidId ≠ 0) (holds : next.fluidBuffer ≠ 0) :
    next.fluidId ≠ 0 := by
  have buffer := receives.buffer
  by_cases nothing : amount = 0
  · rw [receives.stays nothing holds]
    exact marked (by omega)
  · rw [receives.becomes nothing holds]
    exact fun none => nothing (real none)

end Receives

section Nodes

variable {before after : PipeNetworkManager} {report : FluidReport} (marked : before.Marked)
  (change : Nat → Int)
  (nodes : ∀ id node, before.nodes.lookup id = some node →
    ∃ next, after.nodes.lookup id = some next ∧ Receives report.fluidId (change id) node next)
  (absent : ∀ id, before.nodes.lookup id = none → after.nodes.lookup id = none)

include nodes absent in
theorem nodeIds_of_receives : after.nodeIds = before.nodeIds := by
  ext id
  rw [mem_nodeIds_iff, mem_nodeIds_iff]
  cases found : before.nodes.lookup id with
  | none => rw [absent id found]
  | some node =>
    obtain ⟨next, stored, -⟩ := nodes id node found
    rw [stored]
    rfl

include marked nodes absent in
theorem fluidTotal_of_receives (positive : fluid ≠ 0) :
    after.fluidTotal fluid = before.fluidTotal fluid +
      if fluid = report.fluidId then ∑ id ∈ before.nodeIds, change id else 0 := by
  have whole : (if fluid = report.fluidId then ∑ id ∈ before.nodeIds, change id else 0) =
      ∑ id ∈ before.nodeIds, if fluid = report.fluidId then change id else 0 := by
    split
    · rfl
    · rw [Finset.sum_const_zero]
  rw [fluidTotal, fluidTotal, nodeIds_of_receives change nodes absent, whole,
    ← Finset.sum_add_distrib]
  apply Finset.sum_congr rfl
  intro id mem
  obtain ⟨node, found⟩ := isSome_iff_exists.mp ((before.mem_nodeIds_iff id).mp mem)
  obtain ⟨next, stored, receives⟩ := nodes id node found
  rw [amountOf, amountOf, found, stored]
  exact receives.heldOf_eq (marked id node found) positive

include marked nodes absent in
theorem keepsApart_of_receives (real : report.fluidId = 0 → ∀ id, change id = 0)
    (reported : report.amount = ∑ id ∈ before.nodeIds, change id) :
    KeepsApart before after report := by
  constructor
  · intro id node found mark grows
    obtain ⟨next, stored, receives⟩ := nodes id node found
    have buffer := receives.buffer
    simp only [bufferOf, found, stored, map_some, getD_some] at grows
    exact (receives.fits (by omega)).resolve_left mark
  · intro id next stored holds
    cases found : before.nodes.lookup id with
    | none =>
      rw [absent id found] at stored
      cases stored
    | some node =>
      obtain ⟨other, present, receives⟩ := nodes id node found
      cases present.symm.trans stored
      exact receives.marked (fun none => real none id) (marked id node found) holds
  · intro id node found holds
    obtain ⟨next, stored, receives⟩ := nodes id node found
    refine ⟨next, stored, fun left => ?_⟩
    by_cases nothing : change id = 0
    · exact receives.stays nothing left
    · rw [receives.becomes nothing left]
      exact ((receives.fits nothing).resolve_left (marked id node found holds)).symm
  · intro fluid positive
    rw [reported]
    exact fluidTotal_of_receives marked change nodes absent positive

end Nodes

theorem Receives.refl (fluidId : Nat) (node : PipeNode) : Receives fluidId 0 node node :=
  ⟨(add_zero _).symm, fun drawn => absurd rfl drawn, fun _ _ => rfl,
    fun drawn => absurd rfl drawn⟩

theorem keepsApart_of_same {before after : PipeNetworkManager} (marked : before.Marked)
    (same : after.nodes = before.nodes) {report : FluidReport} (nothing : report.amount = 0) :
    KeepsApart before after report := by
  apply keepsApart_of_receives marked (fun _ => 0)
  · intro id node found
    rw [same]
    exact ⟨node, found, Receives.refl _ node⟩
  · intro id absent
    rw [same]
    exact absent
  · exact fun _ _ => rfl
  · rw [nothing, Finset.sum_const_zero]

variable {node : PipeNode}

theorem drainNode_receives (same : amount ≠ 0 → node.fluidId = fluidId) :
    Receives fluidId (-amount) node (drainNode amount node) := by
  have left : (drainNode amount node).fluidBuffer ≠ 0 →
      (drainNode amount node).fluidId = node.fluidId := fun holds => if_neg holds
  constructor
  · exact sub_eq_add_neg _ _
  · intro drawn
    exact Or.inr (same (by omega))
  · intro _ holds
    exact left holds
  · intro drawn holds
    rw [left holds]
    exact same (by omega)

theorem offered_of_empty (empty : node.fluidBuffer = 0) (wanted : 0 ≤ demand) :
    offered node demand = 0 := by
  unfold offered
  rw [empty]
  dsimp only
  split <;> omega

variable {manager : PipeNetworkManager}

theorem consumeFluidUncached_keepsApart (marked : manager.Marked) (call : ConsumeCall) :
    KeepsApart manager (manager.consumeFluidUncached call).1 {
      fluidId := call.fluidId
      amount := -(manager.consumeFluidUncached call).2.acceptedAmount } := by
  have blocked : KeepsApart manager manager {
      fluidId := call.fluidId
      amount := -(blockedResult call).acceptedAmount } := keepsApart_of_same marked rfl rfl
  unfold consumeFluidUncached
  split
  · exact blocked
  rename_i valid
  cases sink : manager.consumer call with
  | none => exact blocked
  | some node =>
    obtain ⟨taken, served⟩ := servePipes_served call.fluidId call.nodeId
      (manager.discoverNetwork_nodup call.nodeId)
      (manager.updateNode call.nodeId (drainNode (offered node call.amount)))
      { requestId := call.requestId
        __ := call
        acceptedAmount := offered node call.amount
        remaining := call.amount - offered node call.amount }
    obtain ⟨found, -, -, fluid⟩ := consumer_eq_some_iff.mp sink
    apply keepsApart_of_receives marked fun id =>
      -((if id = call.nodeId then offered node call.amount else 0) + taken id)
    · intro id state stored
      have next := served.lookup found id
      rw [stored, map_some] at next
      refine ⟨_, next, ?_⟩
      by_cases here : id = call.nodeId
      · subst here
        cases found.symm.trans stored
        rw [if_pos rfl, if_pos rfl, served.taken_self, add_zero]
        apply drainNode_receives
        intro drawn
        apply fluid.resolve_left
        apply marked _ node found
        exact fun empty => drawn (offered_of_empty empty (by omega))
      · rw [if_neg here, if_neg here, zero_add]
        by_cases nothing : taken id = 0
        · rw [if_pos nothing, nothing, neg_zero]
          exact Receives.refl _ state
        rw [if_neg nothing]
        apply drainNode_receives
        intro _
        obtain ⟨positive, -, pipe, present, serves, within, -⟩ := served.pipe nothing
        obtain rfl := Option.some.inj (present.symm.trans stored)
        obtain ⟨-, -, -, fluid⟩ := (servesShortfall_iff pipe call.fluidId).mp serves
        exact fluid.resolve_left (marked id pipe stored (by omega))
    · intro id absent
      rw [served.lookup found, absent]
      rfl
    · exact fun none => absurd (Or.inr none) valid
    · rw [served.result, Finset.sum_neg_distrib, ← served.sum_removed found]
      simp only [served.removed_eq found]

theorem consume_keepsApart (marked : manager.Marked) (call : ConsumeCall) :
    KeepsApart manager (manager.moveFluid (.consume call)).1
      (manager.moveFluid (.consume call)).2 := by
  have current : manager.advanceTick.Marked := marked
  have executed := consumeFluidUncached_keepsApart current call
  have ticked : manager.advanceTick.nodes = manager.nodes := rfl
  simp only [moveFluid, consumeFluid, executes]
  by_cases anonymous : call.requestId = 0
  · simp only [anonymous, if_true, beq_self_eq_true, Bool.true_or]
    exact ⟨executed.received, executed.marked, executed.kept, executed.totals⟩
  rw [if_neg anonymous]
  cases present : manager.advanceTick.fluidTransactions.lookup call.requestId with
  | some transaction =>
    simp only [beq_eq_false_iff_ne.mpr anonymous, isNone_some, Bool.false_or,
      Bool.false_eq_true, if_false]
    exact keepsApart_of_same marked ticked rfl
  | none =>
    simp only [isNone_none, Bool.or_true, if_true]
    exact ⟨executed.received, executed.marked, executed.kept, executed.totals⟩

def takers (network : Network) : List Nat :=
  network.nodeIds.filter fun id => (manager.nodes.lookup id).any takesFluid

/-- No taker of a distribution is given less than nothing: a negative amount is rounded
up when it does not divide evenly, once. -/
def GivesNoDebt (network : Network) (tickFluid : Int) : Prop :=
  0 ≤ tickFluid ∨ manager.takers network = [] ∨
    -(2 * (manager.takers network).length : Int) < tickFluid ∧
      tickFluid ≠ -((manager.takers network).length : Int)

structure Poured (tickFluid : Int) (networkFluidId count : Nat) (sinks : List Nat)
    (manager : PipeNetworkManager) (given : Nat → Int)
    (out : PipeNetworkManager × List (Nat × Int)) : Prop where
  others : ∀ id, id ∉ sinks → given id = 0
  shares : ∀ id ∈ sinks, ∃ index node, manager.nodes.lookup id = some node ∧
    given id = share tickFluid count index node
  nodes : ∀ id, out.1.nodes.lookup id =
    (manager.nodes.lookup id).map (fillNode networkFluidId (given id))
  deltas : (out.2.map (·.2)).sum = (sinks.map given).sum

theorem fillNode_zero (networkFluidId : Nat) (node : PipeNode) :
    fillNode networkFluidId 0 node = node := by
  simp [fillNode]

theorem fillSinks_poured (tickFluid : Int) (networkFluidId count : Nat) {sinks : List Nat}
    (distinct : sinks.Nodup) (manager : PipeNetworkManager)
    (alive : ∀ id ∈ sinks, (manager.nodes.lookup id).isSome) (index : Nat) :
    ∃ given, Poured tickFluid networkFluidId count sinks manager given
      (fillSinks tickFluid networkFluidId count manager index sinks) := by
  induction sinks generalizing manager index with
  | nil =>
    refine ⟨fun _ => 0, fun _ _ => rfl, nofun, ?_, rfl⟩
    intro id
    have same : fillNode networkFluidId 0 = fun node => node :=
      funext (fillNode_zero networkFluidId)
    simp [fillSinks, same]
  | cons sink rest ih =>
    obtain ⟨fresh, distinct⟩ := nodup_cons.mp distinct
    obtain ⟨node, found⟩ := isSome_iff_exists.mp (alive sink mem_cons_self)
    have elsewhere : ∀ other ∈ rest, (manager.updateNode sink (fillNode networkFluidId
        (share tickFluid count index node))).nodes.lookup other = manager.nodes.lookup other :=
      lookup_updateNode_of_notMem fresh _
    obtain ⟨given, poured⟩ := ih distinct (manager.updateNode sink
        (fillNode networkFluidId (share tickFluid count index node))) (by
      intro id mem
      rw [elsewhere id mem]
      exact alive id (mem_cons_of_mem _ mem)) (index + 1)
    refine ⟨Function.update given sink (share tickFluid count index node), ?_⟩
    simp only [fillSinks, found]
    constructor
    · intro id outside
      rw [mem_cons, not_or] at outside
      rw [Function.update_of_ne outside.1]
      exact poured.others id outside.2
    · intro id mem
      obtain rfl | mem := mem_cons.mp mem
      · exact ⟨index, node, found, Function.update_self _ _ _⟩
      have apart : id ≠ sink := fun same => fresh (same ▸ mem)
      obtain ⟨index, state, stored, share⟩ := poured.shares id mem
      rw [elsewhere id mem] at stored
      rw [Function.update_of_ne apart]
      exact ⟨index, state, stored, share⟩
    · intro id
      rw [poured.nodes]
      by_cases here : id = sink
      · subst here
        rw [Function.update_self, poured.others id fresh]
        simp [lookup_updateNode, found, fillNode_zero]
      · rw [Function.update_of_ne here, lookup_updateNode]
        simp [here]
    · rw [map_cons, sum_cons, map_cons, sum_cons, Function.update_self,
        Moved.map_update fresh, poured.deltas]

theorem takesFluid_iff (node : PipeNode) : takesFluid node = true ↔
    node.domains.fluid.isSink = true ∧ node.fluidBuffer < node.fluidCapacity ∧
      node.fluidId = 0 := by
  simp [takesFluid, and_assoc]

theorem share_nonneg_iff (takes : takesFluid node = true) {count : Nat} (some : 0 < count)
    (tickFluid : Int) (index : Nat) : 0 ≤ share tickFluid count index node ↔
      0 ≤ tickFluid ∨ -(2 * count : Int) < tickFluid ∧ tickFluid ≠ -(count : Int) := by
  obtain ⟨-, room, -⟩ := (takesFluid_iff node).mp takes
  have limits : ∀ give : Int, 0 ≤ (if 0 < node.domains.fluid.rate then
      min (min give (node.fluidCapacity - node.fluidBuffer)) node.domains.fluid.rate
      else min give (node.fluidCapacity - node.fluidBuffer)) ↔ 0 ≤ give := by
    intro give
    split <;> omega
  unfold share
  rw [limits]
  rcases le_or_gt 0 tickFluid with positive | negative
  · have quotient := Int.tdiv_nonneg positive (Int.natCast_nonneg count)
    apply iff_of_true _ (Or.inl positive)
    split <;> omega
  -- the quotient of the debt, and what is left of it
  obtain ⟨debt, rfl⟩ : ∃ debt : Int, tickFluid = -debt := ⟨-tickFluid, (neg_neg _).symm⟩
  have whole := Int.mul_ediv_add_emod debt count
  have left := Int.emod_nonneg debt (b := count) (by omega)
  have below := Int.emod_lt_of_pos debt (b := count) (by omega)
  rw [Int.neg_tdiv, Int.neg_tmod, Int.tdiv_eq_ediv_of_nonneg (by omega),
    Int.tmod_eq_emod_of_nonneg (by omega)]
  have quotient := Int.ediv_nonneg (show 0 ≤ debt by omega) (Int.natCast_nonneg count)
  generalize debt / (count : Int) = times at whole quotient ⊢
  generalize debt % (count : Int) = rest at whole left below ⊢
  have cases : times = 0 ∨ times = 1 ∨ 2 ≤ times := by omega
  obtain rfl | rfl | more := cases
  · split <;> omega
  · split <;> omega
  · have large := Int.mul_le_mul_of_nonneg_left more (Int.natCast_nonneg count)
    split <;> omega

variable {network : Network}

theorem fillNode_receives (gift : 0 ≤ give) (empty : give ≠ 0 → node.fluidId = 0) :
    Receives (suppliedFluid network) give node (fillNode network.fluidId give node) := by
  constructor
  · rfl
  · exact fun given => Or.inl (empty given)
  · rintro rfl _
    rw [fillNode_zero]
  · intro given _
    exact if_pos ⟨empty given, by omega⟩

theorem suppliedFluid_ne_zero (network : Network) : suppliedFluid network ≠ 0 := by
  unfold suppliedFluid
  split
  · assumption
  · decide

section Distribution

variable {manager after : PipeNetworkManager} {network : Network} {tickFluid : Int}
  {given : Nat → Int} {deltas : List (Nat × Int)} (marked : manager.Marked)
  (poured : Poured tickFluid network.fluidId (manager.takers network).length
    (manager.takers network) manager given (after, deltas))

include poured in
theorem Poured.taker {id : Nat} (gift : given id ≠ 0) :
    id ∈ manager.takers network ∧ ∃ index node, manager.nodes.lookup id = some node ∧
      takesFluid node = true ∧
      given id = share tickFluid (manager.takers network).length index node := by
  have mem : id ∈ manager.takers network := by
    by_contra outside
    exact gift (poured.others id outside)
  obtain ⟨index, node, found, share⟩ := poured.shares id mem
  obtain ⟨other, stored, takes⟩ := (any_eq_true _ _).mp (mem_filter.mp mem).2
  cases found.symm.trans stored
  exact ⟨mem, index, node, found, takes, share⟩

include poured in
theorem Poured.noDebt_iff : manager.GivesNoDebt network tickFluid ↔ ∀ id, 0 ≤ given id := by
  constructor
  · intro condition id
    by_contra debt
    obtain ⟨mem, index, node, found, takes, share⟩ := poured.taker (show given id ≠ 0 by omega)
    have some := length_pos_of_mem mem
    rw [share, share_nonneg_iff takes some] at debt
    obtain positive | none | bounds := condition
    · exact debt (Or.inl positive)
    · rw [none] at mem
      cases mem
    · exact debt (Or.inr bounds)
  · intro positive
    cases takers : manager.takers network with
    | nil => exact Or.inr (Or.inl takers)
    | cons id rest =>
      have mem : id ∈ manager.takers network := by
        rw [takers]
        exact mem_cons_self
      obtain ⟨index, node, found, share⟩ := poured.shares id mem
      obtain ⟨other, stored, takes⟩ := (any_eq_true _ _).mp (mem_filter.mp mem).2
      cases found.symm.trans stored
      have gift := positive id
      rw [share, share_nonneg_iff takes (length_pos_of_mem mem)] at gift
      exact gift.imp_right Or.inr

include marked poured in
theorem Poured.keepsApart_iff (distinct : network.nodeIds.Nodup) :
    KeepsApart manager after {
        fluidId := suppliedFluid network
        amount := (deltas.map (·.2)).sum } ↔ manager.GivesNoDebt network tickFluid := by
  rw [poured.noDebt_iff]
  constructor
  · -- a debt leaves a buffer that is not empty without a fluid id
    intro keeps id
    by_contra debt
    obtain ⟨-, index, node, found, takes, -⟩ := poured.taker (show given id ≠ 0 by omega)
    have empty := ((takesFluid_iff node).mp takes).2.2
    have clear : node.fluidBuffer = 0 := by
      by_contra holds
      exact marked id node found holds empty
    have next := poured.nodes id
    rw [found, map_some] at next
    apply keeps.marked id _ next
    · dsimp only [fillNode]
      omega
    · dsimp only [fillNode]
      rw [if_neg (by omega), empty]
  · intro positive
    apply keepsApart_of_receives marked given
    · intro id node found
      have next := poured.nodes id
      rw [found, map_some] at next
      refine ⟨_, next, fillNode_receives (positive id) ?_⟩
      intro gift
      obtain ⟨-, -, other, stored, takes, -⟩ := poured.taker gift
      cases found.symm.trans stored
      exact ((takesFluid_iff node).mp takes).2.2
    · intro id absent
      have next := poured.nodes id
      rw [absent] at next
      exact next
    · exact fun none => absurd none (suppliedFluid_ne_zero network)
    · refine poured.deltas.trans (sum_nodeIds (distinct.filter _) given ?_).symm
      intro id gift
      obtain ⟨mem, -, node, found, -⟩ := poured.taker gift
      exact ⟨mem, by rw [found]; rfl⟩

end Distribution

def FillsOneFluid (network : Network) : Prop :=
  manager.fillsNothing network = true ∨
    let amount := wrapI32 (min (manager.available network) (manager.room network))
    (∀ pipe ∈ (manager.pipesOf network).zip (Shares.fixed amount (manager.room network) amount
        ((manager.pipesOf network).map manager.roomOf)),
      pipe.2 ≠ 0 → manager.fluidOf pipe.1 = 0 ∨
        manager.fluidOf pipe.1 = manager.fillFluid network) ∧
    ∀ source ∈ (manager.sourcesOf network).zip (Shares.shrinking amount
        (manager.available network) amount ((manager.sourcesOf network).map manager.bufferOf)),
      source.2 ≠ 0 → manager.fluidOf source.1 = manager.fillFluid network

theorem forall_mem_zip_map {α β : Type} {items : List α} {image : α → β} {holds : α × β → Prop} :
    (∀ pair ∈ items.zip (items.map image), holds pair) ↔
      ∀ item ∈ items, holds (item, image item) := by
  rw [← List.map_prod_left_eq_zip, List.forall_mem_map]

section Filling

variable {manager : PipeNetworkManager} {network : Network} {given taken : Nat → Int}
    {out : FillState} (marked : manager.Marked) (filled : Filled manager network given taken out)
    {node : PipeNode} {fluidId : Nat}

theorem creditNode_receives (fits : give ≠ 0 → node.fluidId = 0 ∨ node.fluidId = fluidId)
    (gift : give ≠ 0) : Receives fluidId give node (creditNode fluidId give node) := by
  refine ⟨rfl, fits, fun none => absurd none gift, ?_⟩
  intro _ _
  obtain empty | same := fits gift
  · exact if_pos empty
  · dsimp only [creditNode]
    split <;> omega

theorem debitNode_receives {take : Int} (same : node.fluidId = fluidId) :
    Receives fluidId (-take) node (debitNode take node) :=
  ⟨sub_eq_add_neg _ _, fun _ => Or.inr same, fun _ _ => rfl, fun _ _ => same⟩

include filled in
theorem Filled.keepsApart
    (pipes : ∀ id, given id ≠ 0 →
      manager.fluidOf id = 0 ∨ manager.fluidOf id = manager.fillFluid network)
    (sources : ∀ id, taken id ≠ 0 → manager.fluidOf id = manager.fillFluid network)
    (marked : manager.Marked) (real : manager.fillFluid network ≠ 0) :
    KeepsApart manager out.manager {
      fluidId := manager.fillFluid network
      amount := ∑ id ∈ manager.nodeIds, deltaOf out.deltas id } := by
  apply keepsApart_of_receives marked fun id => given id - taken id
  · intro id node found
    have next := filled.nodes id
    rw [found, map_some] at next
    refine ⟨_, next, ?_⟩
    have fluid : manager.fluidOf id = node.fluidId := by
      rw [fluidOf, found]
      rfl
    by_cases gift : given id = 0
    · by_cases take : taken id = 0
      · simp only [gift, take, ne_eq, not_true, if_false, sub_zero]
        exact Receives.refl _ node
      · simp only [gift, take, ne_eq, not_true, not_false_iff, if_true, if_false, zero_sub]
        exact debitNode_receives (fluid ▸ sources id take)
    · simp only [gift, filled.untaken gift, ne_eq, not_false_iff, if_true, sub_zero]
      exact creditNode_receives (fun gift => fluid ▸ pipes id gift) gift
  · intro id absent
    rw [filled.nodes, absent]
    rfl
  · exact fun none => absurd none real
  · simp only [filled.deltas]

include filled in
theorem Filled.amountOf_eq (received : ∀ id, given id ≠ 0 →
      manager.fluidOf id = 0 ∨ manager.fluidOf id = manager.fillFluid network) (positive : fluid ≠ 0) (other : fluid ≠ manager.fillFluid network) (id : Nat) :
    out.manager.amountOf fluid id = manager.amountOf fluid id -
      if manager.fluidOf id = fluid then taken id else 0 := by
  have next := filled.nodes id
  cases found : manager.nodes.lookup id with
  | none =>
    have unmarked : manager.fluidOf id ≠ fluid := by
      rw [fluidOf, found]
      exact positive.symm
    rw [found] at next
    rw [amountOf, amountOf, next, found, if_neg unmarked, sub_zero]
    rfl
  | some node =>
    have marked : manager.fluidOf id = node.fluidId := by
      rw [fluidOf, found]
      rfl
    have received := received id
    rw [marked] at received ⊢
    rw [found, map_some] at next
    simp only [amountOf, next, found, map_some, getD_some]
    by_cases gift : given id = 0
    · by_cases take : taken id = 0
      · simp [gift, take]
      · simp only [gift, take, ne_eq, not_true, not_false_iff, if_true, if_false, heldOf, debitNode]
        split <;> omega
    · have untouched := filled.untaken gift
      simp only [gift, untouched, ne_eq, not_false_iff, if_true, heldOf, creditNode]
      obtain empty | same := received gift
      · simp [empty, positive.symm, other.symm]
      · simp [same, other.symm]

include filled in
theorem Filled.fluids_of_keepsApart {after : PipeNetworkManager}
    (nodes : after.nodes = out.manager.nodes)
    (keeps : KeepsApart manager after { fluidId := manager.fillFluid network, amount := amount }) :
    (∀ id, given id ≠ 0 → manager.fluidOf id = 0 ∨ manager.fluidOf id = manager.fillFluid network) ∧
      ∀ id, taken id ≠ 0 → manager.fluidOf id = manager.fillFluid network := by
  have received : ∀ id, given id ≠ 0 →
      manager.fluidOf id = 0 ∨ manager.fluidOf id = manager.fillFluid network := by
    intro id gift
    obtain ⟨positive, -, mem⟩ := filled.pipes id gift
    obtain ⟨-, node, found, -⟩ := pipe_of_mem_pipesOf mem
    have grows := filled.gained_eq id
    rw [filled.untaken gift, gained] at grows
    have buffer : after.bufferOf id = out.manager.bufferOf id := by
      rw [bufferOf, bufferOf, nodes]
    rw [fluidOf, found]
    exact or_iff_not_imp_left.mpr fun mark => keeps.received id node found mark (by omega)
  refine ⟨received, ?_⟩
  intro id take
  by_contra other
  -- then the total of the source's own fluid goes down
  obtain ⟨positive, -, mem⟩ := filled.sources id take
  obtain ⟨-, node, found, source⟩ := source_of_mem_sourcesOf mem
  have real : manager.fluidOf id ≠ 0 := by
    rw [fluidOf, found]
    exact ((isFillSource_iff node).mp source).2.2.2
  have totals := keeps.totals (manager.fluidOf id) real
  rw [if_neg other, add_zero] at totals
  have sum : after.fluidTotal (manager.fluidOf id) = manager.fluidTotal (manager.fluidOf id) -
      ∑ each ∈ manager.nodeIds,
        if manager.fluidOf each = manager.fluidOf id then taken each else 0 := by
    have ids : after.nodeIds = manager.nodeIds := by
      ext each
      rw [mem_nodeIds_iff, mem_nodeIds_iff, nodes, filled.nodes, isSome_map]
    rw [fluidTotal, fluidTotal, ids, ← Finset.sum_sub_distrib]
    apply Finset.sum_congr rfl
    intro each _
    rw [← filled.amountOf_eq received real other, amountOf, amountOf, nodes]
  have drained : 0 < ∑ each ∈ manager.nodeIds,
      if manager.fluidOf each = manager.fluidOf id then taken each else 0 := by
    apply Finset.sum_pos'
    · intro each _
      by_cases takes : taken each = 0
      · rw [takes, ite_self]
      · have more := (filled.sources each takes).1
        split <;> omega
    · refine ⟨id, (manager.mem_nodeIds_iff id).mpr (by rw [found]; rfl), ?_⟩
      rw [if_pos rfl]
      exact positive
  omega

end Filling

variable {networkId : Nat}

theorem fill_keepsApart_iff (marked : manager.Marked) (distinct : network.nodeIds.Nodup)
    (found : manager.networks.lookup networkId = some network) :
    KeepsApart manager (manager.moveFluid (.fill networkId)).1
      (manager.moveFluid (.fill networkId)).2 ↔ manager.FillsOneFluid network := by
  simp only [moveFluid, fillFluidPipesFromSources, found, map_some, getD_some]
  cases idle : manager.fillsNothing network with
  | true =>
    apply iff_of_true _ (Or.inl idle)
    apply keepsApart_of_same marked rfl
    simp [deltaOf]
  | false =>
    obtain ⟨given, taken, filled, shared⟩ := manager.runFill_filled distinct
    have real : manager.fillFluid network ≠ 0 := by
      intro none
      rw [fillsNothing, none, beq_self_eq_true, Bool.or_true] at idle
      cases idle
    have onPipes : (∀ id ∈ manager.pipesOf network, given id ≠ 0 →
          manager.fluidOf id = 0 ∨ manager.fluidOf id = manager.fillFluid network) ↔
        ∀ id, given id ≠ 0 →
          manager.fluidOf id = 0 ∨ manager.fluidOf id = manager.fillFluid network :=
      ⟨fun each id gift => each id (filled.pipes id gift).2.2 gift, fun each id _ => each id⟩
    have onSources : (∀ id ∈ manager.sourcesOf network, taken id ≠ 0 →
          manager.fluidOf id = manager.fillFluid network) ↔
        ∀ id, taken id ≠ 0 → manager.fluidOf id = manager.fillFluid network :=
      ⟨fun each id take => each id (filled.sources id take).2.2 take, fun each id _ => each id⟩
    unfold FillsOneFluid
    dsimp only
    rw [idle, ← shared.pipes, ← shared.sources, forall_mem_zip_map, forall_mem_zip_map,
      onPipes, onSources, or_iff_right Bool.false_ne_true]
    constructor
    · exact filled.fluids_of_keepsApart rfl
    · rintro ⟨pipes, sources⟩
      have keeps := filled.keepsApart pipes sources marked real
      exact ⟨keeps.received, keeps.marked, keeps.kept, keeps.totals⟩

def MovesCleanly : FluidOperation → Prop
  | .fill networkId =>
    ∀ network, manager.networks.lookup networkId = some network → manager.FillsOneFluid network
  | .distribute networkId tickFluid =>
    ∀ network, manager.networks.lookup networkId = some network →
      manager.GivesNoDebt network tickFluid
  | .consume _ => True

theorem distribute_keepsApart_iff (marked : manager.Marked) (distinct : network.nodeIds.Nodup)
    (found : manager.networks.lookup networkId = some network) (tickFluid : Int) :
    KeepsApart manager (manager.moveFluid (.distribute networkId tickFluid)).1
        (manager.moveFluid (.distribute networkId tickFluid)).2 ↔
      manager.GivesNoDebt network tickFluid := by
  have current : manager.advanceTick.networks.lookup networkId = some network := found
  have ticked : manager.advanceTick.nodes = manager.nodes := rfl
  simp only [moveFluid, distributeFluid, current, found, map_some, getD_some]
  split
  · next none =>
    apply iff_of_true _ (Or.inl none.ge)
    exact keepsApart_of_same marked ticked rfl
  have current : manager.advanceTick.Marked := marked
  have alive : ∀ id ∈ manager.advanceTick.takers network,
      (manager.advanceTick.nodes.lookup id).isSome := by
    intro id mem
    obtain ⟨node, found, -⟩ := (any_eq_true _ _).mp (mem_filter.mp mem).2
    rw [found]
    rfl
  have takers : (manager.advanceTick.takers network).Nodup := distinct.filter _
  obtain ⟨given, poured⟩ := fillSinks_poured tickFluid network.fluidId
    (manager.advanceTick.takers network).length takers manager.advanceTick alive 0
  have decided := poured.keepsApart_iff current distinct
  constructor
  · intro keeps
    exact decided.mp ⟨keeps.received, keeps.marked, keeps.kept, keeps.totals⟩
  · intro condition
    have keeps := decided.mpr condition
    exact ⟨keeps.received, keeps.marked, keeps.kept, keeps.totals⟩

theorem moveFluid_keepsApart_iff {manager : PipeNetworkManager}
    (networks : manager.NetworksDistinct) (marked : manager.Marked) (operation : FluidOperation) :
    KeepsApart manager (manager.moveFluid operation).1 (manager.moveFluid operation).2 ↔
      manager.MovesCleanly operation := by
  cases operation with
  | fill networkId =>
    cases found : manager.networks.lookup networkId with
    | none =>
      apply iff_of_true
      · simp only [moveFluid, fillFluidPipesFromSources, found]
        apply keepsApart_of_same marked rfl
        simp [deltaOf]
      · simp [MovesCleanly, found]
    | some network =>
      simpa [MovesCleanly, found] using
        fill_keepsApart_iff marked (networks networkId network found) found
  | distribute networkId tickFluid =>
    cases found : manager.networks.lookup networkId with
    | none =>
      have ticked : manager.advanceTick.nodes = manager.nodes := rfl
      have current : manager.advanceTick.networks.lookup networkId = none := found
      apply iff_of_true
      · simp only [moveFluid, distributeFluid, current]
        exact keepsApart_of_same marked ticked rfl
      · simp [MovesCleanly, found]
    | some network =>
      simpa [MovesCleanly, found] using
        distribute_keepsApart_iff marked (networks networkId network found) found tickFluid
  | consume call => exact iff_of_true (consume_keepsApart marked call) trivial

theorem marked_of_entries
    (marked : ∀ entry ∈ manager.nodes.entries, entry.2.fluidBuffer ≠ 0 → entry.2.fluidId ≠ 0) :
    manager.Marked := by
  intro id node found
  exact marked ⟨id, node⟩ (Table.mem_entries_iff.mpr found)

theorem row_keepsApart :
    KeepsApart (row 30 [10, 20, 30]) ((row 30 [10, 20, 30]).moveFluid (.fill 10)).1
      ((row 30 [10, 20, 30]).moveFluid (.fill 10)).2 := by
  apply (moveFluid_keepsApart_iff (networksDistinct_of_entries (by decide +kernel))
    (marked_of_entries (by decide +kernel)) (.fill 10)).mpr
  have clean : ∀ network ∈ (row 30 [10, 20, 30]).networks.lookup 10,
      (row 30 [10, 20, 30]).FillsOneFluid network := by
    unfold FillsOneFluid
    decide +kernel
  exact clean

def steamyRow : PipeNetworkManager := (row 30 [10]).setNodeFluid 2 5 15 64513 false false

theorem steam_gets_water : steamyRow.NetworksDistinct ∧ steamyRow.Marked ∧ steamyRow.BuffersFit ∧
      ¬ KeepsApart steamyRow (steamyRow.moveFluid (.fill 4)).1
        (steamyRow.moveFluid (.fill 4)).2 := by
  refine ⟨networksDistinct_of_entries (by decide +kernel), marked_of_entries (by decide +kernel),
    buffersFit_of_entries (by decide +kernel), ?_⟩
  intro keeps
  have present : (steamyRow.nodes.lookup 2).isSome = true := by decide +kernel
  obtain ⟨node, found⟩ := Option.isSome_iff_exists.mp present
  have steam : ∀ node ∈ steamyRow.nodes.lookup 2, node.fluidId = 64513 := by decide +kernel
  have received := keeps.received 2 node found (by rw [steam node found]; decide)
    (by decide +kernel)
  have water : (steamyRow.moveFluid (.fill 4)).2.fluidId = 64512 := by decide +kernel
  rw [steam node found, water] at received
  cases received

end PipeNetworkManager

end GtnhPlatform.PipeNetwork
