import GtnhPlatform.PipeNetwork.ItemMoves

namespace GtnhPlatform.PipeNetwork

open PipeNetworkManager List

namespace ItemSlot

/-- The count of an item that a stack has, as its 16 and 8 bits hold it. -/
def amount (item : UInt16) (slot : ItemSlot) : Nat :=
  if UInt16.ofNat slot.itemId = item then slot.count % 2 ^ 8 else 0

end ItemSlot

def stacksAmount (item : UInt16) (slots : List ItemSlot) : Nat :=
  (slots.map (ItemSlot.amount item)).sum

@[simp] theorem stacksAmount_append (item : UInt16) (first second : List ItemSlot) :
    stacksAmount item (first ++ second) = stacksAmount item first + stacksAmount item second := by
  rw [stacksAmount, map_append, sum_append]
  rfl

@[simp] theorem stacksAmount_singleton (item : UInt16) (slot : ItemSlot) :
    stacksAmount item [slot] = slot.amount item := Nat.add_zero _

def consumedAmount (item : UInt16) (events : List ConsumedItemEvent) : Nat :=
  stacksAmount item (events.map ConsumedItemEvent.item)

namespace PipeNetworkManager

def held (item : UInt16) (manager : PipeNetworkManager) : Nat :=
  manager.nodes.total fun node => stacksAmount item node.itemBuffer

variable {item : UInt16} {manager : PipeNetworkManager} {nodeId : Nat}

theorem held_congr {other : PipeNetworkManager} (same : other.nodes = manager.nodes) :
    other.held item = manager.held item := by
  rw [held, held, same]

theorem held_updateNode (item : UInt16) {node : PipeNode}
    (present : manager.nodes.lookup nodeId = some node) (change : PipeNode → PipeNode) :
    (manager.updateNode nodeId change).held item + stacksAmount item node.itemBuffer =
      manager.held item + stacksAmount item (change node).itemBuffer := by
  have inserted := Table.total_insert (fun node : PipeNode => stacksAmount item node.itemBuffer)
    manager.nodes nodeId (change node)
  rw [present] at inserted
  rw [updateNode, present]
  exact inserted

theorem held_updateNode_of_kept {change : PipeNode → PipeNode}
    (kept : ∀ node, (change node).itemBuffer = node.itemBuffer) :
    (manager.updateNode nodeId change).held item = manager.held item := by
  cases present : manager.nodes.lookup nodeId with
  | none => rw [updateNode, present]
  | some node =>
    have balance := held_updateNode item present change
    rw [kept] at balance
    exact Nat.add_right_cancel balance

theorem held_eq_stacksAmount (item : UInt16) (manager : PipeNetworkManager) :
    manager.held item = stacksAmount item manager.heldStacks := by
  rw [stacksAmount, heldStacks, map_flatMap, flatMap_def, sum_flatten, map_map]
  rfl

theorem tickItemNetworks_balance (item : UInt16) (manager : PipeNetworkManager) :
    manager.tickItemNetworks.1.held item + consumedAmount item manager.tickItemNetworks.2 =
      manager.held item := by
  have amounts := manager.tickItemNetworks_heldStacks.map (ItemSlot.amount item)
  rw [held_eq_stacksAmount, held_eq_stacksAmount, consumedAmount, ← stacksAmount_append]
  exact amounts.sum_eq

theorem held_setNodeItemProps (itemCapacity : Nat) (isItemSource isItemSink : Bool) :
    (manager.setNodeItemProps nodeId itemCapacity isItemSource isItemSink).held item =
      manager.held item :=
  held_updateNode_of_kept fun _ => rfl

theorem held_addNodeItem (slot : ItemSlot) : (manager.addNodeItem nodeId slot).held item =
      manager.held item + if (manager.nodes.lookup nodeId).isSome then slot.amount item else 0 := by
  rw [addNodeItem]
  cases present : manager.nodes.lookup nodeId with
  | none => rw [updateNode, present]; rfl
  | some node =>
    have balance := held_updateNode item present (PipeNode.pushItem slot)
    have pushed : stacksAmount item (PipeNode.pushItem slot node).itemBuffer =
        stacksAmount item node.itemBuffer + slot.amount item := by
      rw [PipeNode.pushItem, stacksAmount_append, stacksAmount_singleton]
    rw [pushed] at balance
    change (manager.updateNode nodeId (PipeNode.pushItem slot)).held item = _ + _
    rw [Option.isSome_some, if_pos rfl]
    omega

theorem held_foldl_addNodeItem (items : List ItemSlot) (manager : PipeNetworkManager) :
    (items.foldl (fun manager slot => manager.addNodeItem nodeId slot) manager).held item =
      manager.held item +
        if (manager.nodes.lookup nodeId).isSome then stacksAmount item items else 0 := by
  induction items generalizing manager with
  | nil => exact (ite_self _).symm ▸ rfl
  | cons slot rest ih =>
    have stays : ((manager.addNodeItem nodeId slot).nodes.lookup nodeId).isSome =
        (manager.nodes.lookup nodeId).isSome := isSome_updateNode _ _ _
    have sum : stacksAmount item (slot :: rest) = slot.amount item + stacksAmount item rest :=
      sum_cons
    rw [foldl_cons, ih, stays, held_addNodeItem, sum]
    split <;> omega

theorem stacksAmount_real (real : item ≠ 0) (items : List ItemSlot) :
    stacksAmount item
        (items.filter fun slot => decide (0 < slot.count) && decide (0 < slot.itemId)) =
      stacksAmount item items := by
  induction items with
  | nil => rfl
  | cons slot rest ih =>
    have sum : stacksAmount item (slot :: rest) = slot.amount item + stacksAmount item rest :=
      sum_cons
    rw [filter_cons, sum]
    split
    · rw [← ih]
      exact sum_cons
    rename_i empty
    have none : slot.amount item = 0 := by
      rw [ItemSlot.amount]
      split
      · next same =>
        have positive : 0 < slot.itemId := by
          apply Nat.pos_of_ne_zero
          intro zero
          rw [zero] at same
          exact real same.symm
        simp only [positive, decide_true, Bool.and_true, decide_eq_true_eq, not_lt,
          Nat.le_zero] at empty
        rw [empty, Nat.zero_mod]
      · rfl
    rw [ih, none, Nat.zero_add]

theorem held_addItems (real : item ≠ 0) (items : List ItemSlot) :
    (PipeNetworkService.addItems manager nodeId items).held item = manager.held item +
        if (manager.nodes.lookup nodeId).isSome then stacksAmount item items else 0 := by
  rw [PipeNetworkService.addItems, held_foldl_addNodeItem, stacksAmount_real real]

theorem nodeOf_itemBuffer (id : Nat) (position : Position) (blockId : Nat) :
    (nodeOf id position blockId).itemBuffer = [] := by
  unfold nodeOf
  split_ifs <;> rfl

theorem held_projectDomains (kinds : List Common.ResourceKind) (manager : PipeNetworkManager) :
    (manager.projectDomains nodeId kinds).held item = manager.held item := by
  induction kinds generalizing manager with
  | nil => rfl
  | cons kind rest ih =>
    rw [projectDomains, ih]
    exact held_updateNode_of_kept fun _ => rfl

theorem held_installNode (fresh : manager.nodes.lookup nodeId = none) (position : Position)
    (blockId : Nat) :
    (manager.installNode nodeId position blockId).held item = manager.held item := by
  rw [installNode]
  rw [held_congr (rebuildNetworks_nodes _), indexNodePosition, held_projectDomains]
  have inserted := Table.total_insert (fun node : PipeNode => stacksAmount item node.itemBuffer)
    manager.nodes nodeId (nodeOf nodeId position blockId)
  rw [fresh, nodeOf_itemBuffer] at inserted
  exact inserted

theorem isSome_installNode (position : Position) (blockId : Nat) :
    ((manager.installNode nodeId position blockId).nodes.lookup nodeId).isSome := by
  rw [installNode]
  rw [rebuildNetworks_nodes, indexNodePosition]
  refine (alive_projectDomains _ _ _ _).trans ?_
  exact Option.isSome_iff_exists.mpr ⟨_, Table.lookup_insert_self _ _ _⟩

theorem storeEdges_nodes (nodePairs : List (Nat × Nat)) (manager : PipeNetworkManager) :
    (manager.storeEdges nodePairs).1.nodes = manager.nodes := by
  induction nodePairs generalizing manager with
  | nil => rfl
  | cons pair rest ih =>
    rw [storeEdges]
    split
    · exact ih _
    · exact ih _

theorem addEdges_nodes (nodePairs : List (Nat × Nat)) :
    (manager.addEdges nodePairs).1.nodes = manager.nodes := by
  rw [addEdges]
  dsimp only
  split
  · rw [rebuildNetworks_nodes, storeEdges_nodes]
  · exact storeEdges_nodes _ _

theorem addEdge_nodes (fromNode toNode : Nat) :
    (manager.addEdge fromNode toNode).1.nodes = manager.nodes := by
  rw [addEdge]
  split
  · rfl
  · split
    · rfl
    · exact rebuildNetworks_nodes _

end PipeNetworkManager

namespace PipeNetworkService

variable {item : UInt16} {service : PipeNetworkService}

theorem connectEach_nodes (sourceNodeId : Nat) (nodes : List Nat) (service : PipeNetworkService) :
    (connectEach sourceNodeId service nodes).networkManager.nodes =
      service.networkManager.nodes := by
  rw [connectEach]
  induction nodes generalizing service with
  | nil => rfl
  | cons node rest ih =>
    rw [foldl_cons, ih]
    exact addEdge_nodes sourceNodeId node

/-- The node that an item message is for, if there is one or one can be made. -/
def resolves (service : PipeNetworkService) (protocolId : Nat) : Bool :=
  match service.protocolToMgr.lookup protocolId with
  | some nodeId => (service.networkManager.nodes.lookup nodeId).isSome
  | none => (service.networkManager.nodes.lookup protocolId).isNone

theorem filled_balance (real : item ≠ 0) (nodeId itemCapacity : Nat) (isSource isSink : Bool)
    (items : List ItemSlot) :
    (service.withManager fun manager =>
        addItems (manager.setNodeItemProps nodeId itemCapacity isSource isSink) nodeId
          items).networkManager.held item =
      service.networkManager.held item +
        if (service.networkManager.nodes.lookup nodeId).isSome then stacksAmount item items
        else 0 := by
  have stays : ((service.networkManager.setNodeItemProps nodeId itemCapacity isSource
      isSink).nodes.lookup nodeId).isSome =
        (service.networkManager.nodes.lookup nodeId).isSome :=
    isSome_updateNode _ _ _
  rw [withManager, held_addItems real, stays, held_setNodeItemProps]

theorem linked_balance (nodeId : Nat) (update : ItemNodeUpdate) :
    (if update.connectedNodes = [] then
        service.connectNodeNeighbors nodeId update.position 0 true false false
      else connectEach nodeId service
        (service.peersOf update.connectedNodes)).networkManager.held item =
      service.networkManager.held item := by
  split
  · exact held_congr (addEdges_nodes _)
  · exact held_congr (connectEach_nodes _ _ _)

theorem handleItemNodeUpdate_balance (real : item ≠ 0) (service : PipeNetworkService)
    (update : ItemNodeUpdate) : (service.handleItemNodeUpdate update).networkManager.held item =
      service.networkManager.held item +
        if service.resolves update.nodeId then stacksAmount item update.items else 0 := by
  rw [handleItemNodeUpdate, resolves]
  cases known : service.protocolToMgr.lookup update.nodeId with
  | some nodeId =>
    rw [linked_balance, filled_balance real]
  | none =>
    dsimp only
    cases taken : service.networkManager.nodes.lookup update.nodeId with
    | some node =>
      rw [addNodeWithId, taken]
      rfl
    | none =>
      have added : service.networkManager.addNodeWithId update.nodeId update.position 0 =
          (service.networkManager.installNode update.nodeId update.position 0, true) := by
        rw [addNodeWithId, taken]
        rfl
      rw [added, if_pos rfl]
      rw [linked_balance, filled_balance real, bindMachine]
      rw [held_installNode taken, isSome_installNode]
      rfl

theorem handleItemTransferRequest_balance (item : UInt16) (service : PipeNetworkService)
    (request : ItemTransferReq) :
    (service.handleItemTransferRequest request).1.networkManager.held item =
      service.networkManager.held item +
        if (service.protocolToMgr.lookup request.nodeId).any fun nodeId =>
            (service.networkManager.nodes.lookup nodeId).isSome then
          ItemSlot.amount item ⟨request.itemId.toNat, request.count.toUInt8.toNat⟩
        else 0 := by
  rw [handleItemTransferRequest]
  cases known : service.protocolToMgr.lookup request.nodeId with
  | none => rfl
  | some nodeId =>
    have stays : ((service.networkManager.setNodeItemProps nodeId 0 true
        false).nodes.lookup nodeId).isSome =
          (service.networkManager.nodes.lookup nodeId).isSome :=
      isSome_updateNode _ _ _
    dsimp only
    rw [withManager, held_addNodeItem, stays, held_setNodeItemProps]
    rfl

end PipeNetworkService

end GtnhPlatform.PipeNetwork
