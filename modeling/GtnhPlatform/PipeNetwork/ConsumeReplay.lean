import GtnhPlatform.PipeNetwork.PortProjection

namespace GtnhPlatform.PipeNetwork

open GtnhPlatform.Common

namespace PipeNetworkManager

def kFluidTransactionTtl : Nat := 200

structure ConsumeCall where
  nodeId : Nat
  requestId : Nat
  fluidId : Nat
  amount : Int
  deriving DecidableEq

def offered (node : PipeNode) (demand : Int) : Int :=
  let amount := min demand node.fluidBuffer
  if 0 < node.domains.fluid.rate then min amount node.domains.fluid.rate else amount

def drainNode (amount : Int) (node : PipeNode) : PipeNode :=
  { node with
    fluidBuffer := node.fluidBuffer - amount
    fluidId := if node.fluidBuffer - amount = 0 then 0 else node.fluidId }

def servesShortfall (node : PipeNode) (fluidId : Nat) : Bool :=
  isPipe node.blockId && !node.domains.fluid.isSource && decide (0 < node.fluidCapacity) &&
    (node.fluidId == 0 || node.fluidId == fluidId)

def servePipes (fluidId nodeId : Nat) :
    PipeNetworkManager → FluidTransferResult → List Nat → PipeNetworkManager × FluidTransferResult
  | manager, result, [] => (manager, result)
  | manager, result, pipe :: rest =>
    if pipe = nodeId then servePipes fluidId nodeId manager result rest
    else if result.remaining = 0 then (manager, result)
    else
      match manager.nodes.lookup pipe with
      | none => servePipes fluidId nodeId manager result rest
      | some node =>
        let take := offered node result.remaining
        if servesShortfall node fluidId && decide (0 < take) then
          servePipes fluidId nodeId (manager.updateNode pipe (drainNode take))
            { result with
              acceptedAmount := result.acceptedAmount + take
              remaining := result.remaining - take } rest
        else servePipes fluidId nodeId manager result rest

def blockedResult (call : ConsumeCall) : FluidTransferResult where
  requestId := call.requestId
  nodeId := call.nodeId
  fluidId := call.fluidId
  remaining := max call.amount 0
  blocked := true

variable (manager : PipeNetworkManager)

def consumer (call : ConsumeCall) : Option PipeNode :=
  (manager.nodes.lookup call.nodeId).filter fun node =>
    decide (0 < node.fluidCapacity) && node.domains.fluid.isSink &&
      (node.fluidId == 0 || node.fluidId == call.fluidId)

def consumeFluidUncached (call : ConsumeCall) : PipeNetworkManager × FluidTransferResult :=
  if call.amount ≤ 0 ∨ call.fluidId = 0 then (manager, blockedResult call)
  else
    match manager.consumer call with
    | none => (manager, blockedResult call)
    | some node =>
      let accepted := offered node call.amount
      servePipes call.fluidId call.nodeId
        (manager.updateNode call.nodeId (drainNode accepted))
        { requestId := call.requestId
          nodeId := call.nodeId
          fluidId := call.fluidId
          acceptedAmount := accepted
          remaining := call.amount - accepted }
        (manager.discoverNetwork call.nodeId)

def expireFluidTransactions (nowTick : Nat) : PipeNetworkManager :=
  { manager with
    fluidTransactions := manager.fluidTransactions.filter fun _ transaction =>
      !decide (transaction.expiresAt ≤ nowTick) }

def advanceTick : PipeNetworkManager :=
  expireFluidTransactions { manager with fluidTick := wrapU64 (manager.fluidTick + 1) }
    (wrapU64 (manager.fluidTick + 1))

def sameRequest (transaction : FluidTransaction) (call : ConsumeCall) : Bool :=
  transaction.result.nodeId == call.nodeId && transaction.result.fluidId == call.fluidId &&
    transaction.requestedAmount == call.amount

def recordTransaction (call : ConsumeCall) (result : FluidTransferResult)
    (manager : PipeNetworkManager) : PipeNetworkManager :=
  { manager with
    fluidTransactions := manager.fluidTransactions.emplace call.requestId
      { result := result
        requestedAmount := call.amount
        expiresAt := wrapU64 (manager.fluidTick + kFluidTransactionTtl) } }

def consumeFluid (call : ConsumeCall) : PipeNetworkManager × FluidTransferResult :=
  let current := manager.advanceTick
  if call.requestId = 0 then current.consumeFluidUncached call
  else
    match current.fluidTransactions.lookup call.requestId with
    | some transaction =>
      (current, if sameRequest transaction call then transaction.result else blockedResult call)
    | none =>
      let (served, result) := current.consumeFluidUncached call
      (recordTransaction call result served, result)

def executes (call : ConsumeCall) : Bool := call.requestId == 0 ||
    (manager.advanceTick.fluidTransactions.lookup call.requestId).isNone

def takesFluid (node : PipeNode) : Bool :=
  node.domains.fluid.isSink && decide (node.fluidBuffer < node.fluidCapacity) &&
    node.fluidId == 0

/-- What the sink at an index is given. The remainder is compared as a
`size_t`, so a negative one is larger than every index. -/
def share (tickFluid : Int) (sinks index : Nat) (node : PipeNode) : Int :=
  let remainder := Int.tmod tickFluid sinks
  let give := Int.tdiv tickFluid sinks + if remainder < 0 ∨ (index : Int) < remainder then 1 else 0
  let fits := min give (node.fluidCapacity - node.fluidBuffer)
  if 0 < node.domains.fluid.rate then min fits node.domains.fluid.rate else fits

def fillNode (networkFluidId : Nat) (give : Int) (node : PipeNode) : PipeNode :=
  { node with
    fluidBuffer := node.fluidBuffer + give
    fluidId := if node.fluidId = 0 ∧ 0 < give then
        if networkFluidId ≠ 0 then networkFluidId else 1
      else node.fluidId }

def fillSinks (tickFluid : Int) (networkFluidId sinks : Nat) :
    PipeNetworkManager → Nat → List Nat → PipeNetworkManager × List (Nat × Int)
  | manager, _, [] => (manager, [])
  | manager, index, sink :: rest =>
    match manager.nodes.lookup sink with
    | none => fillSinks tickFluid networkFluidId sinks manager (index + 1) rest
    | some node =>
      let give := share tickFluid sinks index node
      let (filled, deltas) := fillSinks tickFluid networkFluidId sinks
        (manager.updateNode sink (fillNode networkFluidId give)) (index + 1) rest
      (filled, (sink, give) :: deltas)

def distributeFluid (networkId : Nat) (tickFluid : Int) : PipeNetworkManager × List (Nat × Int) :=
  let current := manager.advanceTick
  match current.networks.lookup networkId with
  | none => (current, [])
  | some network =>
    if tickFluid = 0 then (current, [])
    else
      let sinks := network.nodeIds.filter fun node =>
        (current.nodes.lookup node).any takesFluid
      let (filled, deltas) := fillSinks tickFluid network.fluidId sinks.length current 0 sinks
      let nodes := filled.nodesOf network.nodeIds
      ({ filled with
          networks := AList.insert networkId
            { network with
              totalFluid := wrapI32 (nodes.map (·.fluidBuffer)).sum
              isActive := nodes.any (·.domains.fluid.isSink) }
            filled.networks }, deltas)

/-- The operations of the manager that a consume can be interleaved with. -/
inductive Operation where
  | consumeFluid (call : ConsumeCall)
  | distributeFluid (networkId : Nat) (tickFluid : Int)
  | ports (operation : PortOperation)
  | addEdge (fromNode toNode : Nat)
  | addEdges (nodePairs : List (Nat × Nat))
  | removeEdge (edgeId : Nat)
  | removeEdgesForNode (nodeId : Nat)
  | setNodeMeta (nodeId blockMeta : Nat)
  | setNodeEnergy (nodeId : Nat) (energy capacity : Int) (isSource isSink : Bool)
  | setNodeFluid (nodeId : Nat) (fluid capacity : Int) (fluidId : Nat) (isSource isSink : Bool)
  | setNodeItemProps (nodeId itemCapacity : Nat) (isItemSource isItemSink : Bool)
  | addNodeItem (nodeId : Nat) (slot : ItemSlot)
  | setNodeHeat (nodeId : Nat) (heat capacity : Int) (isSource isSink : Bool)
  | setNodeSideConfig (nodeId : Nat) (sideConfig : List Nat)

def operate : Operation → PipeNetworkManager
  | .consumeFluid call => (manager.consumeFluid call).1
  | .distributeFluid networkId tickFluid => (manager.distributeFluid networkId tickFluid).1
  | .ports operation => manager.perform operation
  | .addEdge fromNode toNode => (manager.addEdge fromNode toNode).1
  | .addEdges nodePairs => (manager.addEdges nodePairs).1
  | .removeEdge edgeId => manager.removeEdge edgeId
  | .removeEdgesForNode nodeId => manager.removeEdgesForNode nodeId
  | .setNodeMeta nodeId blockMeta => manager.setNodeMeta nodeId blockMeta
  | .setNodeEnergy nodeId energy capacity isSource isSink =>
    manager.setNodeEnergy nodeId energy capacity isSource isSink
  | .setNodeFluid nodeId fluid capacity fluidId isSource isSink =>
    manager.setNodeFluid nodeId fluid capacity fluidId isSource isSink
  | .setNodeItemProps nodeId itemCapacity isItemSource isItemSink =>
    manager.setNodeItemProps nodeId itemCapacity isItemSource isItemSink
  | .addNodeItem nodeId slot => manager.addNodeItem nodeId slot
  | .setNodeHeat nodeId heat capacity isSource isSink =>
    manager.setNodeHeat nodeId heat capacity isSource isSink
  | .setNodeSideConfig nodeId sideConfig => manager.setNodeSideConfig nodeId sideConfig

def operationMachine : Machine PipeNetworkManager Operation Unit where
  step manager operation := (manager.operate operation, [])

def Operation.ticks : Operation → Nat
  | .consumeFluid _ => 1
  | .distributeFluid _ _ => 1
  | _ => 0

def ticksOf (operations : List Operation) : Nat := (operations.map Operation.ticks).sum

/-- One of the next ticks meets the expiry of a transaction recorded now. -/
def Lapsed (tick count : Nat) : Prop := ∃ later ∈ List.range count,
    wrapU64 (tick + kFluidTransactionTtl) ≤ wrapU64 (tick + (later + 1))

instance (tick count : Nat) : Decidable (Lapsed tick count) := by
  unfold Lapsed
  infer_instance

structure SameTransactions (before after : PipeNetworkManager) : Prop where
  transactions : after.fluidTransactions = before.fluidTransactions
  tick : after.fluidTick = before.fluidTick

namespace SameTransactions

variable (manager : PipeNetworkManager)

theorem refl : SameTransactions manager manager := ⟨rfl, rfl⟩

theorem trans (before : SameTransactions first second) (after : SameTransactions second third) :
    SameTransactions first third :=
  ⟨after.transactions.trans before.transactions, after.tick.trans before.tick⟩

theorem updateNode (nodeId : Nat) (change : PipeNode → PipeNode) :
    SameTransactions manager (manager.updateNode nodeId change) := by
  unfold PipeNetworkManager.updateNode
  split
  · exact refl manager
  · exact ⟨rfl, rfl⟩

theorem of_rewired (rewired : Rewired before after) : SameTransactions before after :=
  ⟨rewired.transactions, rewired.tick⟩

theorem rebuildNetworks : SameTransactions manager manager.rebuildNetworks :=
  of_rewired (Rewired.rebuildNetworks manager)

theorem projectAffected (sites : List (Position × ResourceKind)) :
    SameTransactions manager (manager.projectAffected sites) := by
  induction sites generalizing manager with
  | nil => exact refl manager
  | cons site rest ih => exact (updateNode manager _ _).trans (ih _)

theorem projectDomains (nodeId : Nat) (kinds : List ResourceKind) :
    SameTransactions manager (manager.projectDomains nodeId kinds) := by
  induction kinds generalizing manager with
  | nil => exact refl manager
  | cons kind rest ih => exact (updateNode manager _ _).trans (ih _)

theorem installNode (id : Nat) (position : Position) (blockId : Nat) :
    SameTransactions manager (manager.installNode id position blockId) := by
  refine trans ?_ (rebuildNetworks _)
  refine trans ?_ (projectDomains _ _ _)
  exact ⟨rfl, rfl⟩

theorem removeNode (nodeId : Nat) : SameTransactions manager (manager.removeNode nodeId) := by
  unfold PipeNetworkManager.removeNode
  split
  · exact refl manager
  · refine trans ?_ (rebuildNetworks _)
    exact ⟨rfl, rfl⟩

theorem perform (operation : PortOperation) :
    SameTransactions manager (manager.perform operation) := by
  have moved : ∀ change : PortChange, SameTransactions manager
      (PipeNetworkManager.projectAffected { manager with ports := change.ports }
        change.projected) := by
    intro change
    refine trans ?_ (projectAffected _ _)
    exact ⟨rfl, rfl⟩
  cases operation with
  | registerPort port =>
    rw [perform_eq_projectAffected _ _ (Or.inl ⟨port, rfl⟩)]
    exact moved _
  | removePort key epoch =>
    rw [perform_eq_projectAffected _ _ (Or.inr (Or.inl ⟨key, epoch, rfl⟩))]
    exact moved _
  | removePortAnyEpoch key =>
    rw [perform_eq_projectAffected _ _ (Or.inr (Or.inr (Or.inl ⟨key, rfl⟩)))]
    exact moved _
  | removePortsForOwner ownerId =>
    rw [perform_eq_projectAffected _ _ (Or.inr (Or.inr (Or.inr ⟨ownerId, rfl⟩)))]
    exact moved _
  | addNode position blockId =>
    rw [perform_addNode]
    refine trans ?_ (installNode _ _ _ _)
    exact ⟨rfl, rfl⟩
  | addNodeWithId id position blockId =>
    simp only [PipeNetworkManager.perform, addNodeWithId]
    split
    · exact refl manager
    · dsimp only
      exact installNode manager id position blockId
  | removeNode nodeId => exact removeNode manager nodeId

theorem servePipes (fluidId nodeId : Nat) (manager : PipeNetworkManager)
    (result : FluidTransferResult) (pipes : List Nat) : SameTransactions manager
      (PipeNetworkManager.servePipes fluidId nodeId manager result pipes).1 := by
  induction pipes generalizing manager result with
  | nil => exact refl manager
  | cons pipe rest ih =>
    simp only [PipeNetworkManager.servePipes]
    split
    · exact ih manager result
    split
    · exact refl manager
    split
    · exact ih manager result
    · split
      · exact (updateNode manager _ _).trans (ih _ _)
      · exact ih manager result

theorem consumeFluidUncached (call : ConsumeCall) :
    SameTransactions manager (manager.consumeFluidUncached call).1 := by
  unfold PipeNetworkManager.consumeFluidUncached
  split
  · exact refl manager
  · split
    · exact refl manager
    · exact (updateNode manager _ _).trans (servePipes _ _ _ _ _)

theorem fillSinks (tickFluid : Int) (networkFluidId sinks : Nat) (manager : PipeNetworkManager)
    (index : Nat) (nodes : List Nat) : SameTransactions manager
      (PipeNetworkManager.fillSinks tickFluid networkFluidId sinks manager index nodes).1 := by
  induction nodes generalizing manager index with
  | nil => exact refl manager
  | cons node rest ih =>
    simp only [PipeNetworkManager.fillSinks]
    split
    · exact ih manager (index + 1)
    · exact (updateNode manager _ _).trans (ih _ _)

theorem distributeFluid (networkId : Nat) (tickFluid : Int) :
    SameTransactions manager.advanceTick (manager.distributeFluid networkId tickFluid).1 := by
  simp only [PipeNetworkManager.distributeFluid]
  cases manager.advanceTick.networks.lookup networkId with
  | none => exact refl _
  | some network =>
    dsimp only
    split
    · exact refl _
    · exact ⟨(fillSinks _ _ _ _ _ _).transactions, (fillSinks _ _ _ _ _ _).tick⟩

end SameTransactions

theorem servePipes_request (fluidId nodeId : Nat) (manager : PipeNetworkManager)
    (result : FluidTransferResult) (pipes : List Nat) :
    (servePipes fluidId nodeId manager result pipes).2.nodeId = result.nodeId ∧
      (servePipes fluidId nodeId manager result pipes).2.fluidId = result.fluidId := by
  induction pipes generalizing manager result with
  | nil => exact ⟨rfl, rfl⟩
  | cons pipe rest ih =>
    simp only [servePipes]
    split
    · exact ih manager result
    split
    · exact ⟨rfl, rfl⟩
    split
    · exact ih manager result
    · split
      · exact ih _ _
      · exact ih manager result

variable (manager : PipeNetworkManager)

theorem consumeFluidUncached_request (call : ConsumeCall) :
    (manager.consumeFluidUncached call).2.nodeId = call.nodeId ∧
      (manager.consumeFluidUncached call).2.fluidId = call.fluidId := by
  unfold consumeFluidUncached
  split
  · exact ⟨rfl, rfl⟩
  · split
    · exact ⟨rfl, rfl⟩
    · exact servePipes_request _ _ _ _ _

theorem lookup_advanceTick (requestId : Nat) :
    manager.advanceTick.fluidTransactions.lookup requestId =
      (manager.fluidTransactions.lookup requestId).filter fun transaction =>
        !decide (transaction.expiresAt ≤ wrapU64 (manager.fluidTick + 1)) :=
  Table.lookup_filter _ _ _

theorem consumeFluid_records {manager : PipeNetworkManager} {call : ConsumeCall}
    (identified : call.requestId ≠ 0) (first : manager.executes call = true) :
    (manager.consumeFluid call).1.fluidTransactions.lookup call.requestId = some
      { result := (manager.consumeFluid call).2
        requestedAmount := call.amount
        expiresAt := wrapU64 ((manager.consumeFluid call).1.fluidTick + kFluidTransactionTtl) } ∧
      (manager.consumeFluid call).2.nodeId = call.nodeId ∧
      (manager.consumeFluid call).2.fluidId = call.fluidId := by
  have absent : manager.advanceTick.fluidTransactions.lookup call.requestId = none := by
    simpa [executes, identified] using first
  have same := SameTransactions.consumeFluidUncached manager.advanceTick call
  simp only [consumeFluid, if_neg identified, absent]
  refine ⟨?_, consumeFluidUncached_request manager.advanceTick call⟩
  simp only [recordTransaction]
  rw [Table.lookup_emplace_of_none _ (by rw [same.transactions, absent]), if_pos rfl]

variable {transaction : FluidTransaction}

theorem consumeFluid_keeps (call : ConsumeCall) {requestId : Nat}
    (stored : manager.advanceTick.fluidTransactions.lookup requestId = some transaction) :
    (manager.consumeFluid call).1.fluidTransactions.lookup requestId = some transaction := by
  have same := SameTransactions.consumeFluidUncached manager.advanceTick call
  simp only [consumeFluid]
  split
  · rw [same.transactions, stored]
  cases cached : manager.advanceTick.fluidTransactions.lookup call.requestId with
  | some other => exact stored
  | none =>
    simp only [recordTransaction]
    rw [Table.lookup_emplace_of_none _ (by rw [same.transactions, cached]), same.transactions]
    split
    · next equality =>
      rw [equality, cached] at stored
      cases stored
    · exact stored

theorem consumeFluid_fluidTick (call : ConsumeCall) :
    (manager.consumeFluid call).1.fluidTick = wrapU64 (manager.fluidTick + 1) := by
  have same := SameTransactions.consumeFluidUncached manager.advanceTick call
  simp only [consumeFluid]
  split
  · exact same.tick
  · cases manager.advanceTick.fluidTransactions.lookup call.requestId with
    | some other => rfl
    | none => exact same.tick

theorem operate_transactions (operation : Operation) :
    (operation.ticks = 0 ∧ SameTransactions manager (manager.operate operation)) ∨
      (operation.ticks = 1 ∧
        (manager.operate operation).fluidTick = wrapU64 (manager.fluidTick + 1) ∧
        ∀ requestId transaction,
          manager.advanceTick.fluidTransactions.lookup requestId = some transaction →
            (manager.operate operation).fluidTransactions.lookup requestId = some transaction) := by
  cases operation with
  | consumeFluid call =>
    right
    refine ⟨rfl, consumeFluid_fluidTick manager call, ?_⟩
    intro requestId transaction stored
    exact consumeFluid_keeps manager call stored
  | distributeFluid networkId tickFluid =>
    right
    have same := SameTransactions.distributeFluid manager networkId tickFluid
    refine ⟨rfl, same.tick, ?_⟩
    intro requestId transaction stored
    rw [operate, same.transactions]
    exact stored
  | ports operation => exact Or.inl ⟨rfl, SameTransactions.perform manager operation⟩
  | addEdge fromNode toNode => exact Or.inl ⟨rfl, SameTransactions.of_rewired (Rewired.addEdge manager fromNode toNode)⟩
  | addEdges nodePairs => exact Or.inl ⟨rfl, SameTransactions.of_rewired (Rewired.addEdges manager nodePairs)⟩
  | removeEdge edgeId => exact Or.inl ⟨rfl, SameTransactions.of_rewired (Rewired.removeEdge manager edgeId)⟩
  | removeEdgesForNode nodeId =>
    exact Or.inl ⟨rfl, SameTransactions.of_rewired (Rewired.removeEdgesForNode manager nodeId)⟩
  | setNodeMeta nodeId blockMeta => exact Or.inl ⟨rfl, SameTransactions.updateNode manager _ _⟩
  | setNodeEnergy nodeId energy capacity isSource isSink =>
    exact Or.inl ⟨rfl, SameTransactions.updateNode manager _ _⟩
  | setNodeFluid nodeId fluid capacity fluidId isSource isSink =>
    exact Or.inl ⟨rfl, SameTransactions.updateNode manager _ _⟩
  | setNodeItemProps nodeId itemCapacity isItemSource isItemSink =>
    exact Or.inl ⟨rfl, SameTransactions.updateNode manager _ _⟩
  | addNodeItem nodeId slot => exact Or.inl ⟨rfl, SameTransactions.updateNode manager _ _⟩
  | setNodeHeat nodeId heat capacity isSource isSink =>
    exact Or.inl ⟨rfl, SameTransactions.updateNode manager _ _⟩
  | setNodeSideConfig nodeId sideConfig =>
    exact Or.inl ⟨rfl, SameTransactions.updateNode manager _ _⟩

structure Waits (tick requestId : Nat) (transaction : FluidTransaction) (count : Nat)
    (manager : PipeNetworkManager) : Prop where
  now : manager.fluidTick = wrapU64 (tick + count)
  stored : ¬ Lapsed tick count → manager.fluidTransactions.lookup requestId = some transaction

theorem Lapsed.later {tick count : Nat} (lapsed : Lapsed tick count) : Lapsed tick (count + 1) := by
  obtain ⟨later, mem, due⟩ := lapsed
  exact ⟨later, List.mem_range.mpr (Nat.lt_succ_of_lt (List.mem_range.mp mem)), due⟩

theorem wrapU64_succ (value : Nat) : wrapU64 (wrapU64 value + 1) = wrapU64 (value + 1) := by
  unfold wrapU64
  omega

variable {tick requestId count : Nat}

variable {manager : PipeNetworkManager}

theorem Waits.advanceTick (waits : Waits tick requestId transaction count manager)
    (expiry : transaction.expiresAt = wrapU64 (tick + kFluidTransactionTtl))
    (fresh : ¬ Lapsed tick (count + 1)) :
    manager.advanceTick.fluidTransactions.lookup requestId = some transaction := by
  have before := waits.stored fun lapsed => fresh lapsed.later
  rw [lookup_advanceTick, before, waits.now, wrapU64_succ]
  apply Option.filter_eq_some_iff.mpr
  refine ⟨rfl, ?_⟩
  have ahead : ¬ transaction.expiresAt ≤ wrapU64 (tick + count + 1) := by
    intro due
    rw [expiry] at due
    exact fresh ⟨count, List.mem_range.mpr (Nat.lt_succ_self count), due⟩
  simp [ahead]

theorem operate_waits (operation : Operation)
    (expiry : transaction.expiresAt = wrapU64 (tick + kFluidTransactionTtl))
    (waits : Waits tick requestId transaction count manager) :
    Waits tick requestId transaction (count + operation.ticks) (manager.operate operation) := by
  rcases operate_transactions manager operation with ⟨still, same⟩ | ⟨one, advanced, keeps⟩
  · rw [still]
    constructor
    · exact same.tick.trans waits.now
    · intro fresh
      rw [same.transactions]
      exact waits.stored fresh
  · rw [one]
    constructor
    · rw [advanced, waits.now, wrapU64_succ, Nat.add_assoc]
    · intro fresh
      exact keeps requestId transaction (waits.advanceTick expiry fresh)

theorem run_waits (operations : List Operation)
    (expiry : transaction.expiresAt = wrapU64 (tick + kFluidTransactionTtl))
    (waits : Waits tick requestId transaction count manager) :
    Waits tick requestId transaction (count + ticksOf operations)
      (operationMachine.final manager operations) := by
  induction operations generalizing manager count with
  | nil => exact waits
  | cons operation rest ih =>
    have next := ih (operate_waits operation expiry waits)
    rw [Nat.add_assoc] at next
    exact next

theorem consumeFluid_replay {manager : PipeNetworkManager} {call : ConsumeCall}
    (identified : call.requestId ≠ 0) (first : manager.executes call = true)
    (between : List Operation) {again : ConsumeCall} (sameId : again.requestId = call.requestId) :
    let served := manager.consumeFluid call
    let later := operationMachine.final served.1 between
    (¬ Lapsed served.1.fluidTick (ticksOf between + 1) →
      (later.consumeFluid again).2 = (if again = call then served.2 else blockedResult again) ∧
        (later.consumeFluid again).1.nodes = later.nodes) ∧
      (later.executes again = true → Lapsed served.1.fluidTick (ticksOf between + 1)) := by
  intro served later
  obtain ⟨recorded, node, fluid⟩ := consumeFluid_records identified first
  have bounded : served.1.fluidTick = wrapU64 (served.1.fluidTick + 0) := by
    rw [Nat.add_zero, consumeFluid_fluidTick]
    exact (wrapU64_of_lt (Nat.mod_lt _ (by decide))).symm
  have waits := run_waits between rfl ⟨bounded, fun _ => recorded⟩
  rw [Nat.zero_add] at waits
  have unnamed : again.requestId ≠ 0 := by rw [sameId]; exact identified
  have cached : ¬ Lapsed served.1.fluidTick (ticksOf between + 1) →
      later.advanceTick.fluidTransactions.lookup again.requestId = some
        { result := served.2
          requestedAmount := call.amount
          expiresAt := wrapU64 (served.1.fluidTick + kFluidTransactionTtl) } := by
    intro fresh
    rw [sameId]
    exact waits.advanceTick rfl fresh
  constructor
  · intro fresh
    simp only [consumeFluid, if_neg unnamed, cached fresh]
    refine ⟨?_, rfl⟩
    have matched : sameRequest
        { result := served.2
          requestedAmount := call.amount
          expiresAt := wrapU64 (served.1.fluidTick + kFluidTransactionTtl) } again = true ↔
          again = call := by
      rw [sameRequest, show served.2.nodeId = call.nodeId from node,
        show served.2.fluidId = call.fluidId from fluid]
      obtain ⟨callNode, callRequest, callFluid, callAmount⟩ := call
      obtain ⟨againNode, againRequest, againFluid, againAmount⟩ := again
      simp only [Bool.and_eq_true, beq_iff_eq, ConsumeCall.mk.injEq]
      constructor
      · rintro ⟨⟨rfl, rfl⟩, rfl⟩
        exact ⟨rfl, sameId, rfl, rfl⟩
      · rintro ⟨rfl, _, rfl, rfl⟩
        exact ⟨⟨rfl, rfl⟩, rfl⟩
    by_cases equality : again = call
    · rw [if_pos equality, if_pos (matched.mpr equality)]
    · rw [if_neg equality, if_neg (fun same => equality (matched.mp same))]
  · intro reaches
    by_contra fresh
    have found := cached fresh
    simp [executes, unnamed, found] at reaches

def pipeWithFluid : PipeNetworkManager := operationMachine.final {}
    [.ports (.addNode ⟨0, 0, 0⟩ blockIdFluidPipe), .setNodeFluid 1 500 1000 7 false true]

def thirtyOfFluid : ConsumeCall where
  nodeId := 1
  requestId := 5
  fluidId := 7
  amount := 30

theorem consumeFluid_replay_after_removal :
    ((operationMachine.final (pipeWithFluid.consumeFluid thirtyOfFluid).1
          [.distributeFluid 1 0, .ports (.removeNode 1)]).consumeFluid thirtyOfFluid).2 =
      { requestId := 5, nodeId := 1, fluidId := 7, acceptedAmount := 30 } := by
  have replayed := consumeFluid_replay (by decide : thirtyOfFluid.requestId ≠ 0)
    (by decide : pipeWithFluid.executes thirtyOfFluid = true)
    [.distributeFluid 1 0, .ports (.removeNode 1)]
    (rfl : thirtyOfFluid.requestId = thirtyOfFluid.requestId)
  rw [(replayed.1 (by decide)).1]
  decide

end PipeNetworkManager

end GtnhPlatform.PipeNetwork
