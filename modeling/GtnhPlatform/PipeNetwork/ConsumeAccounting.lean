import GtnhPlatform.PipeNetwork.ConsumeReplay
import GtnhPlatform.PipeNetwork.Traversal
import Mathlib.Algebra.BigOperators.Group.Finset.Piecewise

namespace GtnhPlatform.PipeNetwork

open List

namespace PipeNetworkManager

variable (manager : PipeNetworkManager)

def bufferOf (node : Nat) : Int :=
  ((manager.nodes.lookup node).map fun state => state.fluidBuffer).getD 0

def nodeIds : Finset Nat := manager.nodes.keys.toFinset

def removed (before after : PipeNetworkManager) (node : Nat) : Int :=
  before.bufferOf node - after.bufferOf node

def BuffersFit : Prop :=
  ∀ id node, manager.nodes.lookup id = some node →
    0 ≤ node.fluidBuffer ∧ node.fluidBuffer ≤ node.fluidCapacity

def MayDraw (call : ConsumeCall) (fluid : Nat → Prop)
    (id : Nat) : Prop :=
  ∃ node, manager.nodes.lookup id = some node ∧
    (id = call.nodeId ∧ node.domains.fluid.isSink = true ∨
      manager.Connected call.nodeId id ∧ isPipe node.blockId = true ∧
        node.domains.fluid.isSource = false ∧ fluid node.fluidId)

structure Accounted (fluid : Nat → Prop) (before : PipeNetworkManager) (call : ConsumeCall)
    (after : PipeNetworkManager) (result : FluidTransferResult) : Prop where
  accepted : result.acceptedAmount = ∑ id ∈ before.nodeIds, before.removed after id
  balanced : result.acceptedAmount + result.remaining = max call.amount 0
  drawn : ∀ id, before.removed after id ≠ 0 →
    0 < before.removed after id ∧ before.MayDraw call fluid id
  limited : ∀ id node, before.nodes.lookup id = some node → 0 < node.domains.fluid.rate →
    before.removed after id ≤ node.domains.fluid.rate
  fields : ∀ id node, before.nodes.lookup id = some node →
    ∃ fluidId, after.nodes.lookup id = some { node with
        fluidBuffer := node.fluidBuffer - before.removed after id
        fluidId := fluidId } ∧
      (fluidId = node.fluidId ∨ fluidId = 0 ∧ after.bufferOf id = 0)
  others : ∀ id, before.removed after id = 0 → id ≠ call.nodeId →
    after.nodes.lookup id = before.nodes.lookup id
  rest : after = { before with nodes := after.nodes }
  blocked : result.blocked = true → after = before

theorem offered_le_buffer (node : PipeNode) (demand : Int) :
    offered node demand ≤ node.fluidBuffer := by
  unfold offered
  dsimp only
  split <;> omega

variable {node : PipeNode}

theorem offered_le_rate (limit : 0 < node.domains.fluid.rate) (demand : Int) :
    offered node demand ≤ node.domains.fluid.rate := by
  unfold offered
  rw [if_pos limit]
  exact min_le_right _ _

theorem offered_nonneg (filled : 0 ≤ node.fluidBuffer) (wanted : 0 ≤ demand) :
    0 ≤ offered node demand := by
  unfold offered
  dsimp only
  split <;> omega

structure Served (fluidId nodeId : Nat) (pipes : List Nat) (manager : PipeNetworkManager)
    (result : FluidTransferResult) (taken : Nat → Int)
    (out : PipeNetworkManager × FluidTransferResult) : Prop where
  drawn : ∀ id, taken id ≠ 0 → 0 < taken id ∧ id ∈ pipes ∧ id ≠ nodeId ∧
    ∃ node, manager.nodes.lookup id = some node ∧ servesShortfall node fluidId = true ∧
      taken id ≤ node.fluidBuffer ∧
      (0 < node.domains.fluid.rate → taken id ≤ node.domains.fluid.rate)
  nodes : ∀ id, out.1.nodes.lookup id = (manager.nodes.lookup id).map fun node =>
    if taken id = 0 then node else drainNode (taken id) node
  rest : out.1 = { manager with nodes := out.1.nodes }
  result : out.2 = { result with
    acceptedAmount := result.acceptedAmount + (pipes.map taken).sum
    remaining := result.remaining - (pipes.map taken).sum }

theorem Served.nothing (fluidId nodeId : Nat) (pipes : List Nat) (manager : PipeNetworkManager)
    (result : FluidTransferResult) :
    Served fluidId nodeId pipes manager result (fun _ => 0) (manager, result) := by
  refine ⟨fun _ taken => absurd rfl taken, ?_, rfl, ?_⟩
  · intro id
    simp
  · simp

variable {manager : PipeNetworkManager} {out : PipeNetworkManager × FluidTransferResult}
    {taken : Nat → Int} {pipes : List Nat} {result : FluidTransferResult}

theorem Served.skip (served : Served fluidId nodeId pipes manager result taken out)
    (fresh : pipe ∉ pipes) : Served fluidId nodeId (pipe :: pipes) manager result taken out := by
  have untouched : taken pipe = 0 := by
    by_contra drawn
    exact fresh (served.drawn pipe drawn).2.1
  refine ⟨?_, served.nodes, served.rest, ?_⟩
  · intro id drawn
    obtain ⟨positive, mem, rest⟩ := served.drawn id drawn
    exact ⟨positive, mem_cons_of_mem _ mem, rest⟩
  · rw [served.result, map_cons, sum_cons, untouched, zero_add]

theorem Served.draw (fresh : pipe ∉ pipes)
    (other : pipe ≠ nodeId) (found : manager.nodes.lookup pipe = some node)
    (serves : servesShortfall node fluidId = true) (positive : 0 < amount)
    (limited : amount ≤ node.fluidBuffer ∧
      (0 < node.domains.fluid.rate → amount ≤ node.domains.fluid.rate))
    (served : Served fluidId nodeId pipes (manager.updateNode pipe (drainNode amount)) { result with
        acceptedAmount := result.acceptedAmount + amount
        remaining := result.remaining - amount } taken out) :
    Served fluidId nodeId (pipe :: pipes) manager result (Function.update taken pipe amount)
      out := by
  have untouched : taken pipe = 0 := by
    by_contra drawn
    exact fresh (served.drawn pipe drawn).2.1
  have before : ∀ id, id ≠ pipe →
      (manager.updateNode pipe (drainNode amount)).nodes.lookup id = manager.nodes.lookup id := by
    intro id apart
    rw [lookup_updateNode]
    simp [apart]
  constructor
  · intro id drawn
    by_cases here : id = pipe
    · subst here
      rw [Function.update_self]
      exact ⟨positive, mem_cons_self, other, node, found, serves, limited⟩
    rw [Function.update_of_ne here] at drawn ⊢
    obtain ⟨positive, mem, apart, rest⟩ := served.drawn id drawn
    rw [before id here] at rest
    exact ⟨positive, mem_cons_of_mem _ mem, apart, rest⟩
  · intro id
    rw [served.nodes]
    by_cases here : id = pipe
    · subst here
      simp [lookup_updateNode, found, untouched, positive.ne']
    · rw [before id here, Function.update_of_ne here]
  · have updated : manager.updateNode pipe (drainNode amount) =
        { manager with nodes := (manager.updateNode pipe (drainNode amount)).nodes } := by
      unfold updateNode
      split <;> rfl
    rw [served.rest, updated]
  · have elsewhere : pipes.map (Function.update taken pipe amount) = pipes.map taken := by
      apply map_congr_left
      intro id mem
      have apart : id ≠ pipe := by
        rintro rfl
        exact fresh mem
      exact Function.update_of_ne apart _ _
    rw [served.result, map_cons, sum_cons, elsewhere, Function.update_self, add_assoc, sub_sub]

theorem servePipes_served (fluidId nodeId : Nat) (distinct : pipes.Nodup)
    (manager : PipeNetworkManager) (result : FluidTransferResult) :
    ∃ taken, Served fluidId nodeId pipes manager result taken
      (servePipes fluidId nodeId manager result pipes) := by
  induction pipes generalizing manager result with
  | nil => exact ⟨_, Served.nothing fluidId nodeId [] manager result⟩
  | cons pipe rest ih =>
    obtain ⟨fresh, distinct⟩ := nodup_cons.mp distinct
    have skipped : ∃ taken, Served fluidId nodeId (pipe :: rest) manager result taken
        (servePipes fluidId nodeId manager result rest) := by
      obtain ⟨taken, served⟩ := ih distinct manager result
      exact ⟨taken, served.skip fresh⟩
    unfold servePipes
    split
    · exact skipped
    rename_i other
    split
    · exact ⟨_, Served.nothing fluidId nodeId _ manager result⟩
    cases found : manager.nodes.lookup pipe with
    | none => exact skipped
    | some node =>
      dsimp only
      split
      · next draws =>
        obtain ⟨serves, positive⟩ := Bool.and_eq_true_iff.mp draws
        obtain ⟨taken, served⟩ := ih distinct
          (manager.updateNode pipe (drainNode (offered node result.remaining)))
          { result with
            acceptedAmount := result.acceptedAmount + offered node result.remaining
            remaining := result.remaining - offered node result.remaining }
        exact ⟨_, served.draw fresh other found serves (of_decide_eq_true positive)
          ⟨offered_le_buffer node _, fun limit => offered_le_rate limit _⟩⟩
      · exact skipped

/-- The condition on the fluid of a pipe that the shortfall loop makes. -/
def HoldsOrUnmarked (call : ConsumeCall) (fluidId : Nat) : Prop :=
  fluidId = 0 ∨ fluidId = call.fluidId

theorem accounted_of_blocked (fluid : Nat → Prop) (manager : PipeNetworkManager)
    (call : ConsumeCall) : Accounted fluid manager call manager (blockedResult call) := by
  have nothing : ∀ id, manager.removed manager id = 0 := fun id => sub_self _
  constructor
  · simp only [nothing, Finset.sum_const_zero]
    rfl
  · simp [blockedResult]
  · exact fun id drawn => absurd (nothing id) drawn
  · intro id node _ limit
    rw [nothing]
    exact limit.le
  · intro id node found
    refine ⟨node.fluidId, ?_, Or.inl rfl⟩
    rw [found, nothing, sub_zero]
  · exact fun id _ _ => rfl
  · rfl
  · exact fun _ => rfl

theorem mem_nodeIds_iff (manager : PipeNetworkManager) (id : Nat) :
    id ∈ manager.nodeIds ↔ (manager.nodes.lookup id).isSome := by
  rw [nodeIds, mem_toFinset, AList.lookup_isSome]
  exact AList.mem_keys

theorem sum_nodeIds {ids : List Nat} (distinct : ids.Nodup) (amount : Nat → Int)
    (present : ∀ id, amount id ≠ 0 → id ∈ ids ∧ (manager.nodes.lookup id).isSome) :
    ∑ id ∈ manager.nodeIds, amount id = (ids.map amount).sum := by
  rw [← sum_toFinset amount distinct]
  apply Finset.sum_congr_of_eq_on_inter
  · intro id _ absent
    by_contra counts
    exact absent (mem_toFinset.mpr (present id counts).1)
  · intro id _ absent
    by_contra counts
    exact absent ((manager.mem_nodeIds_iff id).mpr (present id counts).2)
  · exact fun id _ _ => rfl

section Serving

variable {manager : PipeNetworkManager} {call : ConsumeCall} {node : PipeNode} {own : Int}
  {taken : Nat → Int} {result : FluidTransferResult}
  {out : PipeNetworkManager × FluidTransferResult}
  (found : manager.nodes.lookup call.nodeId = some node)
  (served : Served call.fluidId call.nodeId (manager.discoverNetwork call.nodeId)
    (manager.updateNode call.nodeId (drainNode own)) result taken out)

include served in
theorem Served.taken_self : taken call.nodeId = 0 := by
  by_contra drawn
  exact (served.drawn _ drawn).2.2.1 rfl

include found served in
theorem Served.lookup (id : Nat) :
    out.1.nodes.lookup id = (manager.nodes.lookup id).map fun state =>
      if id = call.nodeId then drainNode own state
      else if taken id = 0 then state else drainNode (taken id) state := by
  rw [served.nodes, lookup_updateNode]
  by_cases here : id = call.nodeId
  · subst here
    simp [found, served.taken_self]
  · simp [here]

include served in
theorem Served.pipe {id : Nat} (drawn : taken id ≠ 0) :
    0 < taken id ∧ id ∈ manager.discoverNetwork call.nodeId ∧
      ∃ pipe, manager.nodes.lookup id = some pipe ∧ servesShortfall pipe call.fluidId = true ∧
        taken id ≤ pipe.fluidBuffer ∧
        (0 < pipe.domains.fluid.rate → taken id ≤ pipe.domains.fluid.rate) := by
  obtain ⟨positive, mem, apart, pipe, stored, rest⟩ := served.drawn id drawn
  rw [lookup_updateNode] at stored
  simp only [apart, if_false, Option.map_id'] at stored
  exact ⟨positive, mem, pipe, stored, rest⟩

include found served in
theorem Served.removed_eq (id : Nat) :
    manager.removed out.1 id = (if id = call.nodeId then own else 0) + taken id := by
  have after := served.lookup found id
  by_cases here : id = call.nodeId
  · subst here
    rw [found] at after
    simp [removed, bufferOf, after, found, drainNode, served.taken_self]
  cases stored : manager.nodes.lookup id with
  | none =>
    have nothing : taken id = 0 := by
      by_contra drawn
      obtain ⟨-, -, pipe, present, -⟩ := served.pipe drawn
      rw [stored] at present
      cases present
    rw [stored] at after
    simp [removed, bufferOf, after, stored, here, nothing]
  | some state =>
    rw [stored] at after
    by_cases nothing : taken id = 0
    · simp [removed, bufferOf, after, stored, here, nothing]
    · simp [removed, bufferOf, after, stored, here, nothing, drainNode]

include found served in
theorem Served.sum_removed : ∑ id ∈ manager.nodeIds, manager.removed out.1 id =
      own + ((manager.discoverNetwork call.nodeId).map taken).sum := by
  have here : call.nodeId ∈ manager.nodeIds :=
    (manager.mem_nodeIds_iff call.nodeId).mpr (by rw [found]; rfl)
  have pipes : ∑ id ∈ manager.nodeIds, taken id =
      ((manager.discoverNetwork call.nodeId).map taken).sum := by
    apply sum_nodeIds (manager.discoverNetwork_nodup call.nodeId)
    intro id drawn
    obtain ⟨-, mem, pipe, present, -⟩ := served.pipe drawn
    exact ⟨mem, by rw [present]; rfl⟩
  simp only [served.removed_eq found, Finset.sum_add_distrib, Finset.sum_ite_eq', here, if_true,
    pipes]

end Serving

theorem servesShortfall_iff (node : PipeNode) (fluidId : Nat) :
    servesShortfall node fluidId = true ↔
      isPipe node.blockId = true ∧ node.domains.fluid.isSource = false ∧ 0 < node.fluidCapacity ∧
        (node.fluidId = 0 ∨ node.fluidId = fluidId) := by
  simp [servesShortfall, and_assoc]

variable {call : ConsumeCall}

theorem consumer_eq_some_iff :
    manager.consumer call = some node ↔ manager.nodes.lookup call.nodeId = some node ∧
      0 < node.fluidCapacity ∧ node.domains.fluid.isSink = true ∧
        (node.fluidId = 0 ∨ node.fluidId = call.fluidId) := by
  simp [consumer, Option.filter_eq_some_iff, and_assoc]

theorem drainNode_fields (amount : Int) (node : PipeNode) :
    ∃ fluidId, some (drainNode amount node) = some { node with
        fluidBuffer := node.fluidBuffer - amount
        fluidId := fluidId } ∧
      (fluidId = node.fluidId ∨ fluidId = 0 ∧ (drainNode amount node).fluidBuffer = 0) := by
  refine ⟨_, rfl, ?_⟩
  by_cases emptied : node.fluidBuffer - amount = 0
  · rw [if_pos emptied]
    exact Or.inr ⟨rfl, emptied⟩
  · rw [if_neg emptied]
    exact Or.inl rfl

theorem accounted_of_served (fit : manager.BuffersFit) (valid : 0 ≤ call.amount)
    (sink : manager.consumer call = some node)
    (served : Served call.fluidId call.nodeId (manager.discoverNetwork call.nodeId)
      (manager.updateNode call.nodeId (drainNode (offered node call.amount)))
      { requestId := call.requestId
        __ := call
        acceptedAmount := offered node call.amount
        remaining := call.amount - offered node call.amount } taken out) :
    Accounted (HoldsOrUnmarked call) manager call out.1 out.2 := by
  obtain ⟨found, capacity, isSink, -⟩ := consumer_eq_some_iff.mp sink
  have own := offered_nonneg (fit call.nodeId node found).1 valid
  have takes := served.removed_eq found
  constructor
  · rw [served.result, served.sum_removed found]
  · rw [served.result]
    dsimp only
    omega
  · intro id drawn
    rw [takes] at drawn ⊢
    by_cases here : id = call.nodeId
    · subst here
      rw [if_pos rfl, served.taken_self, add_zero] at drawn ⊢
      exact ⟨lt_of_le_of_ne own drawn.symm, node, found, Or.inl ⟨rfl, isSink⟩⟩
    rw [if_neg here, zero_add] at drawn ⊢
    obtain ⟨positive, mem, pipe, stored, serves, -⟩ := served.pipe drawn
    obtain ⟨isPipe, noSource, -, fluid⟩ := (servesShortfall_iff pipe call.fluidId).mp serves
    exact ⟨positive, pipe, stored,
      Or.inr ⟨connected_of_mem_discoverNetwork mem, isPipe, noSource, fluid⟩⟩
  · intro id state stored limit
    rw [takes]
    by_cases here : id = call.nodeId
    · subst here
      cases found.symm.trans stored
      rw [if_pos rfl, served.taken_self, add_zero]
      exact offered_le_rate limit _
    · rw [if_neg here, zero_add]
      by_cases nothing : taken id = 0
      · rw [nothing]
        exact limit.le
      · obtain ⟨-, -, pipe, present, -, -, limited⟩ := served.pipe nothing
        cases present.symm.trans stored
        exact limited limit
  · intro id state stored
    have after := served.lookup found id
    rw [stored, Option.map_some] at after
    rw [takes]
    have buffer : out.1.bufferOf id = (drainNode ((if id = call.nodeId then
        offered node call.amount else 0) + taken id) state).fluidBuffer := by
      have gone := takes id
      simp only [removed, bufferOf, stored, Option.map_some, Option.getD_some] at gone
      simp only [drainNode, bufferOf]
      omega
    rw [after, buffer]
    by_cases here : id = call.nodeId
    · subst here
      rw [if_pos rfl, if_pos rfl, served.taken_self, add_zero]
      exact drainNode_fields _ state
    rw [if_neg here, if_neg here, zero_add]
    by_cases nothing : taken id = 0
    · rw [if_pos nothing, nothing, sub_zero]
      exact ⟨state.fluidId, rfl, Or.inl rfl⟩
    · rw [if_neg nothing]
      exact drainNode_fields _ state
  · intro id nothing apart
    rw [takes, if_neg apart, zero_add] at nothing
    rw [served.lookup found, nothing]
    simp [apart]
  · have updated : manager.updateNode call.nodeId (drainNode (offered node call.amount)) =
        { manager with
          nodes := (manager.updateNode call.nodeId
            (drainNode (offered node call.amount))).nodes } := by
      unfold updateNode
      split <;> rfl
    rw [served.rest, updated]
  · intro blocked
    rw [served.result] at blocked
    cases blocked

theorem consumeFluidUncached_accounted {manager : PipeNetworkManager} (fit : manager.BuffersFit)
    (call : ConsumeCall) :
    Accounted (HoldsOrUnmarked call) manager call (manager.consumeFluidUncached call).1
      (manager.consumeFluidUncached call).2 := by
  unfold consumeFluidUncached
  split
  · exact accounted_of_blocked _ manager call
  rename_i valid
  cases sink : manager.consumer call with
  | none => exact accounted_of_blocked _ manager call
  | some node =>
    obtain ⟨taken, served⟩ := servePipes_served call.fluidId call.nodeId
      (manager.discoverNetwork_nodup call.nodeId)
      (manager.updateNode call.nodeId (drainNode (offered node call.amount)))
      { requestId := call.requestId
        __ := call
        acceptedAmount := offered node call.amount
        remaining := call.amount - offered node call.amount }
    exact accounted_of_served fit (by omega) sink served

def water : Nat := 64512

def unmarkedPipe : PipeNetworkManager :=
  let sink := (({} : PipeNetworkManager).addNodeWithId 1 ⟨0, 64, 0⟩ 0).1
  let pipe := (sink.addNodeWithId 2 ⟨1, 64, 0⟩ blockIdFluidPipe).1
  ((pipe.addEdge 1 2).1.setNodeFluid 1 0 100 0 false true).setNodeFluid 2 50 1000 0 false false

def thirtyOfWater : ConsumeCall where
  nodeId := 1
  requestId := 0
  fluidId := water
  amount := 30

theorem buffersFit_of_entries (fit : ∀ entry ∈ manager.nodes.entries,
      0 ≤ entry.2.fluidBuffer ∧ entry.2.fluidBuffer ≤ entry.2.fluidCapacity) :
    manager.BuffersFit := by
  intro id node found
  exact fit ⟨id, node⟩ (Table.mem_entries_iff.mpr found)

theorem consume_from_unmarked_accounted :
    Accounted (HoldsOrUnmarked thirtyOfWater) unmarkedPipe thirtyOfWater
      (unmarkedPipe.consumeFluidUncached thirtyOfWater).1
      (unmarkedPipe.consumeFluidUncached thirtyOfWater).2 :=
  consumeFluidUncached_accounted (buffersFit_of_entries (by decide +kernel)) thirtyOfWater

theorem consume_from_unmarked_pipe :
    unmarkedPipe.BuffersFit ∧
      ¬ Accounted (fun fluidId => fluidId = thirtyOfWater.fluidId) unmarkedPipe thirtyOfWater
        (unmarkedPipe.consumeFluidUncached thirtyOfWater).1
        (unmarkedPipe.consumeFluidUncached thirtyOfWater).2 := by
  refine ⟨buffersFit_of_entries (by decide +kernel), ?_⟩
  intro accounted
  have taken : unmarkedPipe.removed (unmarkedPipe.consumeFluidUncached thirtyOfWater).1 2 = 30 := by
    decide +kernel
  have unmarked : (unmarkedPipe.nodes.lookup 2).map (fun node => node.fluidId) = some 0 := by
    decide +kernel
  obtain ⟨node, found, ⟨here, -⟩ | ⟨-, -, -, fluid⟩⟩ := (accounted.drawn 2 (by rw [taken]; decide)).2
  · cases here
  · rw [found] at unmarked
    exact absurd (fluid.symm.trans (Option.some.inj unmarked)) (by decide)

end PipeNetworkManager

end GtnhPlatform.PipeNetwork
