import GtnhPlatform.PipeNetwork.Service
import Mathlib.Data.Finset.Card

namespace GtnhPlatform.PipeNetwork

open GtnhPlatform.Common PipeNetworkManager

namespace PipeNetworkManager

def blockOf (manager : PipeNetworkManager) (nodeId : Nat) : Option Nat :=
  (manager.nodes.lookup nodeId).map (·.blockId)

structure SameBlocks (before after : PipeNetworkManager) : Prop where
  blocks : ∀ nodeId, after.blockOf nodeId = before.blockOf nodeId
  counter : after.nextNodeId = before.nextNodeId

namespace SameBlocks

variable (manager : PipeNetworkManager)

theorem refl : SameBlocks manager manager := ⟨fun _ => rfl, rfl⟩

theorem trans (before : SameBlocks first second) (after : SameBlocks second third) :
    SameBlocks first third :=
  ⟨fun nodeId => (after.blocks nodeId).trans (before.blocks nodeId),
    after.counter.trans before.counter⟩

theorem updateNode (nodeId : Nat) (change : PipeNode → PipeNode)
    (keeps : ∀ node, (change node).blockId = node.blockId) :
    SameBlocks manager (manager.updateNode nodeId change) := by
  constructor
  · intro other
    rw [blockOf, lookup_updateNode, blockOf, Option.map_map]
    congr 1
    funext node
    by_cases same : other = nodeId
    · simp [same, keeps]
    · simp [same]
  · unfold PipeNetworkManager.updateNode
    split <;> rfl

theorem of_rewired (rewired : Rewired before after) : SameBlocks before after :=
  ⟨fun nodeId => by rw [blockOf, blockOf, rewired.nodes], rewired.counter⟩

theorem rebuildNetworks : SameBlocks manager manager.rebuildNetworks :=
  of_rewired (Rewired.rebuildNetworks manager)

theorem rebuildItemNetworks : SameBlocks manager manager.rebuildItemNetworks :=
  of_rewired (Rewired.rebuildItemNetworks manager)

theorem projectNodeDomain (nodeId : Nat) (kind : ResourceKind) :
    SameBlocks manager (manager.projectNodeDomain nodeId kind) :=
  updateNode manager nodeId _ fun _ => rfl

theorem projectDomains (nodeId : Nat) (kinds : List ResourceKind) :
    SameBlocks manager (manager.projectDomains nodeId kinds) := by
  induction kinds generalizing manager with
  | nil => exact refl manager
  | cons kind rest ih => exact (projectNodeDomain manager _ _).trans (ih _)

theorem registerPort (port : ResourcePort) : SameBlocks manager (manager.registerPort port).1 := by
  unfold PipeNetworkManager.registerPort
  split
  · refine trans ?_ (projectNodeDomain _ _ _)
    exact ⟨fun _ => rfl, rfl⟩
  · exact refl manager

theorem removePort (key : PortKey) (epoch : Nat) :
    SameBlocks manager (manager.removePort key epoch).1 := by
  unfold PipeNetworkManager.removePort
  split
  · exact refl manager
  split
  · exact refl manager
  split
  · exact refl manager
  · refine trans ?_ (projectNodeDomain _ _ _)
    exact ⟨fun _ => rfl, rfl⟩

theorem servePipes (fluidId nodeId : Nat) (manager : PipeNetworkManager)
    (result : FluidTransferResult) (pipes : List Nat) : SameBlocks manager
      (servePipes fluidId nodeId manager result pipes).1 := by
  induction pipes generalizing manager result with
  | nil => exact refl manager
  | cons pipe rest ih =>
    simp only [PipeNetworkManager.servePipes]
    split
    · exact ih manager result
    split
    · exact refl manager
    split
    · exact ih manager result
    · split
      · exact (updateNode manager _ (drainNode _) fun _ => rfl).trans (ih _ _)
      · exact ih manager result

theorem consumeFluid (call : ConsumeCall) : SameBlocks manager (manager.consumeFluid call).1 := by
  have ticked : SameBlocks manager manager.advanceTick := ⟨fun _ => rfl, rfl⟩
  have served : SameBlocks manager.advanceTick (manager.advanceTick.consumeFluidUncached call).1 := by
    unfold consumeFluidUncached
    split
    · exact refl _
    · split
      · exact refl _
      · exact (updateNode _ _ (drainNode _) fun _ => rfl).trans (servePipes _ _ _ _ _)
  simp only [PipeNetworkManager.consumeFluid]
  split
  · exact ticked.trans served
  split
  · exact ticked
  · refine (ticked.trans served).trans ?_
    exact ⟨fun _ => rfl, rfl⟩

theorem addItems (nodeId : Nat) (items : List ItemSlot) :
    SameBlocks manager (PipeNetworkService.addItems manager nodeId items) := by
  unfold PipeNetworkService.addItems
  generalize items.filter _ = slots
  induction slots generalizing manager with
  | nil => exact refl manager
  | cons slot rest ih =>
    have added : SameBlocks manager (manager.addNodeItem nodeId slot) :=
      updateNode manager nodeId _ fun _ => rfl
    exact added.trans (ih _)

end SameBlocks

theorem nodeOf_blockId (id : Nat) (position : Position) (blockId : Nat) :
    (nodeOf id position blockId).blockId = blockId := by
  unfold nodeOf
  split_ifs <;> rfl

variable (manager : PipeNetworkManager)

theorem installNode_blockOf (id : Nat) (position : Position) (blockId other : Nat) :
    (manager.installNode id position blockId).blockOf other =
      if other = id then some blockId else manager.blockOf other := by
  unfold installNode indexNodePosition
  rw [(SameBlocks.rebuildNetworks _).blocks, (SameBlocks.projectDomains _ _ _).blocks]
  simp only [blockOf, Table.lookup_insert_eq]
  split
  · simp [nodeOf_blockId]
  · rfl

theorem installNode_nextNodeId (id : Nat) (position : Position) (blockId : Nat) :
    (manager.installNode id position blockId).nextNodeId = manager.nextNodeId := by
  unfold installNode indexNodePosition
  rw [(SameBlocks.rebuildNetworks _).counter, (SameBlocks.projectDomains _ _ _).counter]

theorem skipTaken_spec (nodes : Table Nat PipeNode) (rounds id : Nat) :
    id ≤ skipTaken nodes rounds id ∧ ((nodes.lookup (skipTaken nodes rounds id)).isSome →
        ∀ offset ≤ rounds, (nodes.lookup (id + offset)).isSome) := by
  induction rounds generalizing id with
  | zero =>
    refine ⟨Nat.le_refl _, ?_⟩
    intro taken offset bound
    obtain rfl : offset = 0 := Nat.le_zero.mp bound
    exact taken
  | succ rounds ih =>
    by_cases here : (nodes.lookup id).isSome
    · have next : skipTaken nodes (rounds + 1) id = skipTaken nodes rounds (id + 1) := by
        rw [skipTaken, if_pos here]
      obtain ⟨later, filled⟩ := ih (id + 1)
      rw [next]
      refine ⟨by omega, ?_⟩
      intro taken offset bound
      cases offset with
      | zero => exact here
      | succ offset =>
        have after := filled taken offset (by omega)
        rw [show id + (offset + 1) = id + 1 + offset by omega]
        exact after
    · have free : skipTaken nodes (rounds + 1) id = id := by
        rw [skipTaken, if_neg here]
      rw [free]
      exact ⟨Nat.le_refl _, fun taken => absurd taken here⟩

theorem skipTaken_free (nodes : Table Nat PipeNode) (id : Nat) :
    nodes.lookup (skipTaken nodes nodes.entries.length id) = none := by
  cases taken : nodes.lookup (skipTaken nodes nodes.entries.length id) with
  | none => rfl
  | some node =>
    exfalso
    have filled := (skipTaken_spec nodes nodes.entries.length id).2 (by rw [taken]; rfl)
    have subset : (Finset.range (nodes.entries.length + 1)).image (id + ·) ⊆
        nodes.keys.toFinset := by
      intro key mem
      obtain ⟨offset, small, rfl⟩ := Finset.mem_image.mp mem
      have present := filled offset (by simpa [Nat.lt_succ_iff] using small)
      exact List.mem_toFinset.mpr (AList.lookup_isSome.mp present)
    have count := Finset.card_le_card subset
    rw [Finset.card_image_of_injective _ (add_right_injective id), Finset.card_range,
      List.toFinset_card_of_nodup nodes.keys_nodup] at count
    simp only [AList.keys, List.keys, List.length_map] at count
    omega

theorem addNode_spec (position : Position) (blockId : Nat) :
    manager.blockOf (manager.addNode position blockId).2 = none ∧
      manager.nextNodeId ≤ (manager.addNode position blockId).2 ∧
      manager.nextNodeId ≤ (manager.addNode position blockId).1.nextNodeId ∧
      ∀ other, (manager.addNode position blockId).1.blockOf other =
        if other = (manager.addNode position blockId).2 then some blockId
        else manager.blockOf other := by
  have above := (skipTaken_spec manager.nodes manager.nodes.entries.length manager.nextNodeId).1
  refine ⟨?_, above, ?_, ?_⟩
  · simp [addNode, blockOf, skipTaken_free]
  · simp only [addNode, installNode_nextNodeId]
    omega
  · intro other
    simp only [addNode, installNode_blockOf]
    rfl

theorem removeNode_blockOf (nodeId other : Nat) : (manager.removeNode nodeId).blockOf other =
      if other = nodeId then none else manager.blockOf other := by
  unfold removeNode
  cases found : manager.nodes.lookup nodeId with
  | none =>
    change manager.blockOf other = _
    rcases eq_or_ne other nodeId with rfl | distinct
    · simp [blockOf, found]
    · simp [distinct]
  | some node =>
    simp only [(SameBlocks.rebuildNetworks _).blocks]
    simp only [blockOf, Table.lookup_erase_eq]
    split <;> rfl

theorem removeNode_nextNodeId (nodeId : Nat) :
    (manager.removeNode nodeId).nextNodeId = manager.nextNodeId := by
  unfold removeNode
  split
  · rfl
  · rw [(SameBlocks.rebuildNetworks _).counter]
    rfl

theorem addNodeWithId_spec (id : Nat) (position : Position) (blockId : Nat) :
    (manager.addNodeWithId id position blockId).1.nextNodeId = manager.nextNodeId ∧
      ∀ other, (manager.blockOf other).isSome →
        (manager.addNodeWithId id position blockId).1.blockOf other = manager.blockOf other := by
  unfold addNodeWithId
  split
  · exact ⟨rfl, fun _ _ => rfl⟩
  rename_i free
  refine ⟨installNode_nextNodeId manager id position blockId, ?_⟩
  intro other present
  rw [installNode_blockOf, if_neg]
  rintro rfl
  rw [blockOf, Option.isSome_map] at present
  exact free present

end PipeNetworkManager

namespace PipeNetworkService

open PipeNetworkManager (blockOf SameBlocks)

inductive Site where
  | pipe (key : Nat)
  | cable (key : Nat)
  deriving DecidableEq

def nodeAt (service : PipeNetworkService) : Site → Option Nat
  | .pipe key => service.pipeNodes.lookup key
  | .cable key => service.cableNodes.lookup key

structure NodeBooks (service : PipeNetworkService) : Prop where
  counter : 0 < service.networkManager.nextNodeId
  live : ∀ site nodeId, service.nodeAt site = some nodeId →
    nodeId ≠ 0 ∧ (service.networkManager.blockOf nodeId).isSome
  own : ∀ site other nodeId, service.nodeAt site = some nodeId →
    service.nodeAt other = some nodeId → site = other

namespace NodeBooks

variable {before after : PipeNetworkService}

theorem start (seed : Nat) : NodeBooks (start seed) := by
  constructor
  · exact Nat.one_pos
  · intro site nodeId held
    cases site <;> cases held
  · intro site other nodeId held
    cases site <;> cases held

variable (books : NodeBooks before)

include books

theorem keep (counter : before.networkManager.nextNodeId ≤ after.networkManager.nextNodeId)
    (sites : ∀ site, after.nodeAt site = before.nodeAt site)
    (blocks : ∀ nodeId, (before.networkManager.blockOf nodeId).isSome →
      after.networkManager.blockOf nodeId = before.networkManager.blockOf nodeId) :
    NodeBooks after := by
  constructor
  · exact Nat.lt_of_lt_of_le books.counter counter
  · intro site nodeId held
    rw [sites] at held
    obtain ⟨nonzero, live⟩ := books.live site nodeId held
    rw [blocks nodeId live]
    exact ⟨nonzero, live⟩
  · intro site other nodeId held otherHeld
    rw [sites] at held otherHeld
    exact books.own site other nodeId held otherHeld

theorem keep_sameBlocks (same : SameBlocks before.networkManager after.networkManager)
    (sites : ∀ site, after.nodeAt site = before.nodeAt site) : NodeBooks after :=
  books.keep (Nat.le_of_eq same.counter.symm) sites fun nodeId _ => same.blocks nodeId

theorem erase (held : before.nodeAt site = some gone)
    (counter : after.networkManager.nextNodeId = before.networkManager.nextNodeId)
    (sites : ∀ other, after.nodeAt other = if other = site then none else before.nodeAt other)
    (blocks : ∀ nodeId ≠ gone,
      after.networkManager.blockOf nodeId = before.networkManager.blockOf nodeId) :
    NodeBooks after := by
  constructor
  · rw [counter]
    exact books.counter
  · intro other nodeId kept
    rw [sites] at kept
    split at kept
    · cases kept
    rename_i distinct
    obtain ⟨nonzero, live⟩ := books.live other nodeId kept
    have different : nodeId ≠ gone := by
      rintro rfl
      exact distinct (books.own other site nodeId kept held)
    rw [blocks nodeId different]
    exact ⟨nonzero, live⟩
  · intro first second nodeId firstHeld secondHeld
    rw [sites] at firstHeld secondHeld
    split at firstHeld
    · cases firstHeld
    · split at secondHeld
      · cases secondHeld
      · exact books.own first second nodeId firstHeld secondHeld

theorem place (absent : before.networkManager.blockOf fresh = none) (nonzero : fresh ≠ 0)
    (counter : before.networkManager.nextNodeId ≤ after.networkManager.nextNodeId)
    (sites : ∀ other, after.nodeAt other = if other = site then some fresh else before.nodeAt other)
    (blocks : ∀ nodeId, after.networkManager.blockOf nodeId =
      if nodeId = fresh then some blockId else before.networkManager.blockOf nodeId) :
    NodeBooks after := by
  have elsewhere : ∀ other nodeId, before.nodeAt other = some nodeId → nodeId ≠ fresh := by
    rintro other nodeId held rfl
    have live := (books.live other nodeId held).2
    rw [absent] at live
    cases live
  constructor
  · exact Nat.lt_of_lt_of_le books.counter counter
  · intro other nodeId held
    rw [sites] at held
    split at held
    · cases held
      rw [blocks, if_pos rfl]
      exact ⟨nonzero, rfl⟩
    · rw [blocks, if_neg (elsewhere other nodeId held)]
      exact books.live other nodeId held
  · intro first second nodeId firstHeld secondHeld
    rw [sites] at firstHeld secondHeld
    split at firstHeld
    · next isSite =>
      cases firstHeld
      split at secondHeld
      · next same => rw [isSite, same]
      · exact absurd rfl (elsewhere second fresh secondHeld)
    · split at secondHeld
      · cases secondHeld
        exact absurd rfl (elsewhere first fresh firstHeld)
      · exact books.own first second nodeId firstHeld secondHeld

omit books

end NodeBooks

structure Quiet (before after : PipeNetworkService) : Prop where
  manager : SameBlocks before.networkManager after.networkManager
  pipes : after.pipeNodes = before.pipeNodes
  cables : after.cableNodes = before.cableNodes
  machines : after.machineNodes = before.machineNodes
  tracker : after.consumeTracker = before.consumeTracker

namespace Quiet

variable (service : PipeNetworkService)

theorem refl : Quiet service service := ⟨SameBlocks.refl _, rfl, rfl, rfl, rfl⟩

theorem trans (before : Quiet first second) (after : Quiet second third) : Quiet first third :=
  ⟨before.manager.trans after.manager, after.pipes.trans before.pipes,
    after.cables.trans before.cables, after.machines.trans before.machines,
    after.tracker.trans before.tracker⟩

variable {before after : PipeNetworkService}

theorem sites (quiet : Quiet before after) (site : Site) :
    after.nodeAt site = before.nodeAt site := by
  cases site with
  | pipe key => rw [nodeAt, quiet.pipes, nodeAt]
  | cable key => rw [nodeAt, quiet.cables, nodeAt]

theorem books (quiet : Quiet before after) (books : NodeBooks before) : NodeBooks after :=
  books.keep_sameBlocks quiet.manager quiet.sites

theorem withManager {service : PipeNetworkService}
    {change : PipeNetworkManager → PipeNetworkManager}
    (same : SameBlocks service.networkManager (change service.networkManager)) :
    Quiet service (service.withManager change) :=
  ⟨same, rfl, rfl, rfl, rfl⟩

theorem setMask (key nodeId blockMeta : Nat) :
    Quiet service (service.setMask key nodeId blockMeta) :=
  ⟨SameBlocks.updateNode _ _ _ fun _ => rfl, rfl, rfl, rfl, rfl⟩

theorem rememberPosition (position : Position) :
    Quiet service (service.rememberPosition position) :=
  ⟨SameBlocks.refl _, rfl, rfl, rfl, rfl⟩

theorem forgetPosition (key : Nat) : Quiet service (service.forgetPosition key) :=
  ⟨SameBlocks.refl _, rfl, rfl, rfl, rfl⟩

variable (sourceNodeId : Nat)

theorem connectNodeNeighbors (position : Position) (sourceMeta : Nat)
    (isItem isHeat sourceIsPipe : Bool) :
    Quiet service (service.connectNodeNeighbors sourceNodeId position sourceMeta isItem isHeat
      sourceIsPipe) := by
  unfold PipeNetworkService.connectNodeNeighbors
  exact withManager (SameBlocks.of_rewired (PipeNetworkManager.Rewired.addEdges _ _))

theorem connectEach (service : PipeNetworkService) (nodes : List Nat) :
    Quiet service (PipeNetworkService.connectEach sourceNodeId service nodes) := by
  induction nodes generalizing service with
  | nil => exact refl service
  | cons node rest ih =>
    have linked : Quiet service
        (service.withManager fun manager => (manager.addEdge sourceNodeId node).1) :=
      withManager
        (SameBlocks.of_rewired (PipeNetworkManager.Rewired.addEdge _ _ _))
    exact linked.trans (ih _)

theorem connectEnergyNeighbors (position : Position) :
    Quiet service (service.connectEnergyNeighbors sourceNodeId position) :=
  connectEach _ _ _

theorem refreshPipeConnections (nodeId : Nat) (position : Position) (blockId blockMeta : Nat) :
    Quiet service (service.refreshPipeConnections nodeId position blockId blockMeta) := by
  refine trans ?_ (connectNodeNeighbors _ _ _ _ _ _ _)
  exact withManager (SameBlocks.of_rewired (PipeNetworkManager.Rewired.removeEdgesForNode _ _))

theorem refreshSnapshot (pipes : List SnapshotPipeBlock) :
    Quiet service (service.refreshSnapshot pipes) := by
  induction pipes generalizing service with
  | nil => exact refl service
  | cons pipe rest ih =>
    refine trans ?_ (ih _)
    dsimp only
    split
    · exact refl service
    · exact refreshPipeConnections _ _ _ _ _

end Quiet

structure Outside (touched : Site → Prop) (before after : PipeNetworkService) : Prop where
  books : NodeBooks after
  sites : ∀ site, ¬ touched site → after.nodeAt site = before.nodeAt site
  blocks : ∀ site nodeId, ¬ touched site → before.nodeAt site = some nodeId →
    after.networkManager.blockOf nodeId = before.networkManager.blockOf nodeId
  machines : after.machineNodes = before.machineNodes
  tracker : after.consumeTracker = before.consumeTracker

namespace Outside

variable {touched : Site → Prop} {before after : PipeNetworkService}

theorem refl (books : NodeBooks before) : Outside touched before before :=
  ⟨books, fun _ _ => rfl, fun _ _ _ _ => rfl, rfl, rfl⟩

theorem trans (start : Outside touched first second) (rest : Outside touched second third) :
    Outside touched first third := by
  refine ⟨rest.books, ?_, ?_, rest.machines.trans start.machines, rest.tracker.trans start.tracker⟩
  · intro site untouched
    rw [rest.sites site untouched, start.sites site untouched]
  intro site nodeId untouched held
  have later : second.nodeAt site = some nodeId := by
    rw [start.sites site untouched]
    exact held
  rw [rest.blocks site nodeId untouched later, start.blocks site nodeId untouched held]

theorem mono {wider : Site → Prop} (outside : Outside touched before after)
    (subset : ∀ site, touched site → wider site) : Outside wider before after :=
  ⟨outside.books,
    fun site untouched => outside.sites site (mt (subset site) untouched),
    fun site nodeId untouched => outside.blocks site nodeId (mt (subset site) untouched),
    outside.machines, outside.tracker⟩

theorem of_quiet (books : NodeBooks before) (quiet : Quiet before after) :
    Outside touched before after :=
  ⟨quiet.books books, fun site _ => quiet.sites site, fun _ nodeId _ _ => quiet.manager.blocks nodeId,
    quiet.machines, quiet.tracker⟩

end Outside

variable {service : PipeNetworkService}

theorem removeManagerNode_events (live : (service.networkManager.blockOf nodeId).isSome) :
    (service.removeManagerNode nodeId).2 = [.nodeRemoved nodeId] := by
  rw [blockOf, Option.isSome_map] at live
  exact if_pos live

variable {before after : PipeNetworkService}

theorem outside_of_erase (books : NodeBooks before) (site : Site)
    (held : before.nodeAt site = some nodeId)
    (manager : after.networkManager = before.networkManager.removeNode nodeId)
    (sites : ∀ other, after.nodeAt other = if other = site then none else before.nodeAt other)
    (machines : after.machineNodes = before.machineNodes)
    (tracker : after.consumeTracker = before.consumeTracker) : Outside (· = site) before after := by
  have blocks : ∀ other ≠ nodeId,
      after.networkManager.blockOf other = before.networkManager.blockOf other := by
    intro other distinct
    rw [manager, removeNode_blockOf, if_neg distinct]
  refine ⟨?_, ?_, ?_, machines, tracker⟩
  · refine books.erase held ?_ sites blocks
    rw [manager, removeNode_nextNodeId]
  · intro other untouched
    rw [sites, if_neg untouched]
  intro other otherId untouched otherHeld
  apply blocks
  rintro rfl
  exact untouched (books.own other site otherId otherHeld held)

variable (books : NodeBooks service)

include books

variable (key : Nat)

theorem removePipeAt_outside : Outside (· = .pipe key) service (service.removePipeAt key).1 := by
  unfold removePipeAt
  cases held : service.pipeNodes.lookup key with
  | none => exact Outside.refl books
  | some nodeId =>
    refine outside_of_erase books (.pipe key) held rfl ?_ rfl rfl
    intro other
    cases other with
    | pipe other =>
      simp only [nodeAt, Site.pipe.injEq]
      exact Table.lookup_erase_eq _ _ _
    | cable other => rfl

theorem removePipeAt_events :
    (service.removePipeAt key).2 = (service.nodeAt (.pipe key)).toList.map .nodeRemoved := by
  unfold removePipeAt
  cases held : service.pipeNodes.lookup key with
  | none =>
    rw [nodeAt, held]
    rfl
  | some nodeId =>
    rw [nodeAt, held]
    exact removeManagerNode_events (books.live (.pipe key) nodeId held).2

theorem removeCableAt_outside : Outside (· = .cable key) service (service.removeCableAt key).1 := by
  unfold removeCableAt
  cases held : service.cableNodes.lookup key with
  | none => exact Outside.refl books
  | some nodeId =>
    refine outside_of_erase books (.cable key) held rfl ?_ rfl rfl
    intro other
    cases other with
    | pipe other => rfl
    | cable other =>
      simp only [nodeAt, Site.cable.injEq]
      exact Table.lookup_erase_eq _ _ _

theorem removeCableAt_events :
    (service.removeCableAt key).2 = (service.nodeAt (.cable key)).toList.map .nodeRemoved := by
  unfold removeCableAt
  cases held : service.cableNodes.lookup key with
  | none =>
    rw [nodeAt, held]
    rfl
  | some nodeId =>
    rw [nodeAt, held]
    exact removeManagerNode_events (books.live (.cable key) nodeId held).2

omit books

theorem outside_of_addNode (books : NodeBooks before)
    (site : Site) (position : Position) (blockId : Nat)
    (manager : after.networkManager = (before.networkManager.addNode position blockId).1)
    (sites : ∀ other, after.nodeAt other =
      if other = site then some (before.networkManager.addNode position blockId).2
      else before.nodeAt other) (machines : after.machineNodes = before.machineNodes)
    (tracker : after.consumeTracker = before.consumeTracker) : Outside (· = site) before after := by
  obtain ⟨fresh, above, counter, blocks⟩ := addNode_spec before.networkManager position blockId
  have nonzero : (before.networkManager.addNode position blockId).2 ≠ 0 :=
    Nat.pos_iff_ne_zero.mp (Nat.lt_of_lt_of_le books.counter above)
  rw [← manager] at counter blocks
  refine ⟨books.place fresh nonzero counter sites blocks, ?_, ?_, machines, tracker⟩
  · intro other untouched
    rw [sites, if_neg untouched]
  intro other nodeId _ held
  rw [blocks, if_neg]
  rintro rfl
  have live := (books.live other _ held).2
  rw [fresh] at live
  cases live

theorem addPipeNode_eq (service : PipeNetworkService) (position : Position) (blockId : Nat) :
    service.addPipeNode position blockId =
      { service with
        networkManager := (service.networkManager.addNode position blockId).1
        pipeNodes := AList.insert (pipePosKey position)
          (service.networkManager.addNode position blockId).2 service.pipeNodes } := by
  unfold addPipeNode
  generalize service.networkManager.addNode position blockId = added
  cases added
  rfl

variable (books : NodeBooks service)

include books

variable (position : Position)

theorem addPipeNode_outside (blockId : Nat) :
    Outside (· = .pipe (pipePosKey position)) service (service.addPipeNode position blockId) := by
  rw [addPipeNode_eq]
  apply outside_of_addNode books _ position blockId
  case manager => with_reducible rfl
  case machines => with_reducible rfl
  case tracker => with_reducible rfl
  case sites =>
    intro other
    cases other with
    | pipe other =>
      simp only [nodeAt, Site.pipe.injEq]
      exact Table.lookup_insert_eq _ _ _ _
    | cable other => rfl

theorem registerPipeBlock_outside (blockId blockMeta : Nat) :
    Outside (· = .pipe (pipePosKey position)) service
      (service.registerPipeBlock position blockId blockMeta).1 := by
  unfold registerPipeBlock
  dsimp only
  cases held : service.pipeNodes.lookup (pipePosKey position) with
  | none =>
    have added := addPipeNode_outside books position blockId
    exact added.trans (Outside.of_quiet added.books (Quiet.setMask _ _ _ _))
  | some nodeId =>
    dsimp only
    split
    · exact Outside.of_quiet books (Quiet.setMask _ _ _ _)
    have removed : Outside (· = .pipe (pipePosKey position)) service
        { (service.removeManagerNode nodeId).1 with
          pipeNodes := (service.removeManagerNode nodeId).1.pipeNodes.erase
            (pipePosKey position) } := by
      refine outside_of_erase books (.pipe (pipePosKey position)) held rfl ?_ rfl rfl
      intro other
      cases other with
      | pipe other =>
        simp only [nodeAt, Site.pipe.injEq]
        exact Table.lookup_erase_eq _ _ _
      | cable other => rfl
    have added := removed.trans (addPipeNode_outside removed.books position blockId)
    exact added.trans (Outside.of_quiet added.books (Quiet.setMask _ _ _ _))

theorem registerPipeBlock_events (blockId blockMeta : Nat) :
    (service.registerPipeBlock position blockId blockMeta).2 =
      ((service.nodeAt (.pipe (pipePosKey position))).toList.filter fun nodeId =>
        service.networkManager.blockOf nodeId ≠ some blockId).map .nodeRemoved := by
  unfold registerPipeBlock
  dsimp only
  cases held : service.pipeNodes.lookup (pipePosKey position) with
  | none =>
    rw [nodeAt, held]
    rfl
  | some nodeId =>
    have live := (books.live (.pipe (pipePosKey position)) nodeId held).2
    rw [nodeAt, held]
    dsimp only
    split
    · next same =>
      have kept : service.networkManager.blockOf nodeId = some blockId := by
        rw [blockOf, Option.isSome_map] at live
        obtain ⟨node, found⟩ := Option.isSome_iff_exists.mp live
        rw [found, Option.any_some] at same
        rw [blockOf, found]
        exact congrArg some (beq_iff_eq.mp same)
      simp [kept]
    · next differs =>
      have replaced : service.networkManager.blockOf nodeId ≠ some blockId := by
        intro same
        obtain ⟨node, found, block⟩ := Option.map_eq_some_iff.mp same
        apply differs
        rw [found]
        exact beq_iff_eq.mpr block
      rw [removeManagerNode_events live]
      simp [replaced]

theorem placeCable_outside (blockId blockMeta : Nat) :
    Outside (· = .cable (pipePosKey position)) service
      (service.placeCable position blockId blockMeta) := by
  unfold placeCable
  dsimp only
  cases held : service.cableNodes.lookup (pipePosKey position) with
  | some nodeId =>
    exact Outside.of_quiet books
      ((Quiet.setMask _ _ _ _).trans (Quiet.connectEnergyNeighbors _ _ _))
  | none =>
    have placed : Outside (· = .cable (pipePosKey position)) service
        { service with
          networkManager := (service.networkManager.addNode position blockId).1
          cableNodes := AList.insert (pipePosKey position)
            (service.networkManager.addNode position blockId).2 service.cableNodes } := by
      apply outside_of_addNode books _ position blockId
      case manager => with_reducible rfl
      case machines => with_reducible rfl
      case tracker => with_reducible rfl
      case sites =>
        intro other
        cases other with
        | pipe other => rfl
        | cable other =>
          simp only [nodeAt, Site.cable.injEq]
          exact Table.lookup_insert_eq _ _ _ _
    exact placed.trans (Outside.of_quiet placed.books
      ((Quiet.setMask _ _ _ _).trans (Quiet.connectEnergyNeighbors _ _ _)))

omit books

end PipeNetworkService

end GtnhPlatform.PipeNetwork
