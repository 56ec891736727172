import GtnhPlatform.PipeNetwork.NetworkTopology
import GtnhPlatform.PipeNetwork.SinkSearch
import Mathlib.Data.List.Flatten

namespace GtnhPlatform.PipeNetwork

open List PipeNode Option

structure ItemMove where
  source : Nat
  sink : Nat
  stack : ItemSlot

namespace PipeNetworkManager

variable (manager : PipeNetworkManager)

def bufferAt (nodeId : Nat) : List ItemSlot :=
  ((manager.nodes.lookup nodeId).map PipeNode.itemBuffer).getD []

def heldStacks : List ItemSlot :=
  manager.nodes.values.flatMap PipeNode.itemBuffer

def fittingAt (nodeId : Nat) : Option (Domains × Nat) :=
  (manager.nodes.lookup nodeId).map fun node => (node.domains, node.itemCapacity)

def itemSourceAt (nodeId : Nat) : Bool :=
  (manager.nodes.lookup nodeId).any PipeNode.isItemSource

def moveOf (srcId : Nat) : Option ItemMove :=
  (manager.bufferAt srcId).getLast?.bind fun moving =>
    if manager.nearestSink srcId = 0 then none
    else some ⟨srcId, manager.nearestSink srcId, moving⟩

def carry (move : ItemMove) : PipeNetworkManager × List ConsumedItemEvent :=
  (manager.updateNode move.source PipeNode.dropItem).putItem move.source move.sink move.stack

def transport : Machine PipeNetworkManager ItemMove ConsumedItemEvent := ⟨carry⟩

def movesFromEach (manager : PipeNetworkManager) : List Nat → List ItemMove
  | [] => []
  | srcId :: rest =>
    (manager.moveOf srcId).toList ++ movesFromEach (manager.moveFrom srcId).1 rest

def movesInNetwork (network : Network) : List ItemMove :=
  if manager.itemNodesWhere network PipeNode.isOpenSink = [] then []
  else manager.movesFromEach (manager.itemNodesWhere network PipeNode.isItemSource)

def movesInEach (manager : PipeNetworkManager) : List Network → List ItemMove
  | [] => []
  | network :: rest =>
    manager.movesInNetwork network ++ movesInEach (manager.moveItemsInNetwork network).1 rest

def tickMoves : List ItemMove :=
  manager.rebuildItemNetworks.movesInEach manager.rebuildItemNetworks.networks.values

structure Carries (manager : PipeNetworkManager) (move : ItemMove) : Prop where
  loaded : (manager.bufferAt move.source).getLast? = some move.stack
  isSource : manager.itemSourceAt move.source = true
  isOpen : manager.openSinkAt move.sink = true
  apart : move.sink ≠ move.source
  path : manager.ItemPath move.source move.sink

structure Transports (manager : PipeNetworkManager) (moves : List ItemMove)
    (result : PipeNetworkManager × List ConsumedItemEvent) : Prop where
  final : result.1 = transport.final manager moves
  events : result.2 = transport.outputs manager moves
  along : transport.Along Carries manager moves

theorem Transports.nil : manager.Transports [] (manager, []) :=
  ⟨rfl, rfl, trivial⟩

variable {manager : PipeNetworkManager}

theorem Transports.append {moved last : PipeNetworkManager × List ConsumedItemEvent}
    (here : manager.Transports first moved) (later : moved.1.Transports second last) :
    manager.Transports (first ++ second) (last.1, moved.2 ++ last.2) where
  final := by rw [Machine.final_append, ← here.final, ← later.final]
  events := by rw [Machine.outputs_append, ← here.final, ← here.events, ← later.events]
  along := by
    rw [Machine.along_append, ← here.final]
    exact ⟨here.along, later.along⟩

variable {nodeId : Nat} {stack : ItemSlot}

theorem nodes_of_last (loaded : (manager.bufferAt nodeId).getLast? = some stack) :
    ∃ node, manager.nodes.lookup nodeId = some node ∧ node.itemBuffer.getLast? = some stack := by
  rw [bufferAt] at loaded
  cases stored : manager.nodes.lookup nodeId with
  | none =>
    rw [stored] at loaded
    exact nomatch loaded
  | some node =>
    rw [stored] at loaded
    exact ⟨node, rfl, loaded⟩

theorem lookup_updateNode_other {nodeId other : Nat} (apart : other ≠ nodeId)
    (change : PipeNode → PipeNode) :
    (manager.updateNode nodeId change).nodes.lookup other = manager.nodes.lookup other := by
  rw [lookup_updateNode]
  simp only [if_neg apart, Option.map_id']

variable {move : ItemMove}

theorem Carries.cases (carries : manager.Carries move) :
    ∃ node, manager.nodes.lookup move.sink = some node ∧
      (0 < node.itemCapacity ∧ node.itemBuffer.length < node.itemCapacity ∧
          manager.carry move = ((manager.updateNode move.source dropItem).updateNode
            move.sink (pushItem move.stack), []) ∨ node.itemCapacity = 0 ∧
          manager.carry move = (manager.updateNode move.source dropItem,
            [⟨move.sink, move.source, move.stack, node.position⟩])) := by
  obtain ⟨node, stored, isOpen⟩ := (any_eq_true _ _).mp carries.isOpen
  refine ⟨node, stored, ?_⟩
  have room := (Bool.and_eq_true_iff.mp isOpen).2
  rw [hasItemRoom, Bool.or_eq_true, decide_eq_true_eq, beq_iff_eq] at room
  rw [carry, putItem, lookup_updateNode_other carries.apart, stored]
  dsimp only
  by_cases pipe : 0 < node.itemCapacity
  · have space := room.resolve_right pipe.ne'
    rw [if_pos ⟨pipe, space⟩]
    exact Or.inl ⟨pipe, space, rfl⟩
  · rw [if_neg fun both => pipe both.1]
    exact Or.inr ⟨Nat.eq_zero_of_not_pos pipe, rfl⟩

theorem bufferAt_updateNode (change : PipeNode → PipeNode) (alter : List ItemSlot → List ItemSlot)
    (alters : ∀ node, (change node).itemBuffer = alter node.itemBuffer)
    (alive : (manager.nodes.lookup nodeId).isSome) (other : Nat) :
    (manager.updateNode nodeId change).bufferAt other =
      if other = nodeId then alter (manager.bufferAt other) else manager.bufferAt other := by
  rw [bufferAt, bufferAt, lookup_updateNode]
  split
  · next here =>
    obtain ⟨node, stored⟩ := isSome_iff_exists.mp alive
    rw [here, stored]
    exact alters node
  · simp only [Option.map_id']

theorem fittingAt_updateNode (manager : PipeNetworkManager) (nodeId : Nat)
    (change : PipeNode → PipeNode) (kept : ∀ node, (change node).domains = node.domains ∧
      (change node).itemCapacity = node.itemCapacity) (other : Nat) :
    (manager.updateNode nodeId change).fittingAt other = manager.fittingAt other := by
  rw [fittingAt, lookup_updateNode, Option.map_map, fittingAt]
  congr 1
  funext node
  dsimp only [Function.comp]
  split
  · rw [(kept node).1, (kept node).2]
  · rfl

theorem fittingAt_dropItem (manager : PipeNetworkManager) (nodeId other : Nat) :
    (manager.updateNode nodeId dropItem).fittingAt other = manager.fittingAt other :=
  manager.fittingAt_updateNode nodeId dropItem (fun _ => ⟨rfl, rfl⟩) other

theorem fittingAt_pushItem (manager : PipeNetworkManager) (nodeId : Nat) (stack : ItemSlot)
    (other : Nat) : (manager.updateNode nodeId (pushItem stack)).fittingAt other =
      manager.fittingAt other :=
  manager.fittingAt_updateNode nodeId (pushItem stack) (fun _ => ⟨rfl, rfl⟩) other

variable (carries : manager.Carries move)

include carries

theorem Carries.fittingAt (nodeId : Nat) :
    (manager.carry move).1.fittingAt nodeId = manager.fittingAt nodeId := by
  obtain ⟨node, -, ⟨-, -, result⟩ | ⟨-, result⟩⟩ := carries.cases
  · rw [result]
    rw [fittingAt_pushItem, fittingAt_dropItem]
  · rw [result]
    exact manager.fittingAt_dropItem move.source nodeId

theorem Carries.edges : (manager.carry move).1.edges = manager.edges := by
  obtain ⟨node, -, ⟨-, -, result⟩ | ⟨-, result⟩⟩ := carries.cases
  · rw [result]
    exact (updateNode_edges _ _).trans (updateNode_edges _ _)
  · rw [result]
    exact updateNode_edges _ _

omit carries

theorem isSome_updateNode (nodeId : Nat) (change : PipeNode → PipeNode) (other : Nat) :
    ((manager.updateNode nodeId change).nodes.lookup other).isSome =
      (manager.nodes.lookup other).isSome :=
  alive_updateNode nodeId change other

theorem Carries.bufferAt (carries : manager.Carries move) (nodeId : Nat) :
    (manager.carry move).1.bufferAt nodeId =
      if nodeId = move.source then (manager.bufferAt nodeId).dropLast
      else if nodeId = move.sink ∧ manager.pipeAt nodeId = true then
        manager.bufferAt nodeId ++ [move.stack] else manager.bufferAt nodeId := by
  obtain ⟨src, storedSource, -⟩ := nodes_of_last carries.loaded
  have dropped := bufferAt_updateNode dropItem dropLast (fun _ => rfl)
    (isSome_iff_exists.mpr ⟨src, storedSource⟩)
  obtain ⟨node, stored, ⟨pipe, -, result⟩ | ⟨machine, result⟩⟩ := carries.cases
  · have alive : ((manager.updateNode move.source dropItem).nodes.lookup move.sink).isSome := by
      rw [isSome_updateNode]
      exact isSome_iff_exists.mpr ⟨node, stored⟩
    rw [result]
    rw [bufferAt_updateNode (pushItem move.stack) (fun buffer => buffer ++ [move.stack])
      (fun _ => rfl) alive, dropped]
    by_cases sink : nodeId = move.sink
    · have isPipe : manager.pipeAt nodeId = true := by
        rw [pipeAt, sink, stored]
        exact decide_eq_true pipe
      rw [if_pos sink, sink, if_neg carries.apart, ← sink, if_neg (sink ▸ carries.apart),
        if_pos ⟨rfl, isPipe⟩]
    · rw [if_neg sink]
      simp only [sink, false_and, if_false]
  · have wall : ¬(nodeId = move.sink ∧ manager.pipeAt nodeId = true) := by
      rintro ⟨rfl, isPipe⟩
      rw [pipeAt, stored] at isPipe
      exact (of_decide_eq_true isPipe).ne' machine
    rw [result, dropped, if_neg wall]

theorem count_heldStacks (stack : ItemSlot) :
    manager.heldStacks.count stack =
      manager.nodes.total fun node => node.itemBuffer.count stack := by
  rw [heldStacks, count_flatMap]
  rfl

theorem count_updateNode {node : PipeNode} (stored : manager.nodes.lookup nodeId = some node)
    (change : PipeNode → PipeNode) (stack : ItemSlot) :
    (manager.updateNode nodeId change).heldStacks.count stack + node.itemBuffer.count stack =
      manager.heldStacks.count stack + (change node).itemBuffer.count stack := by
  have inserted := Table.total_insert (fun node : PipeNode => node.itemBuffer.count stack)
    manager.nodes nodeId (change node)
  rw [stored] at inserted
  rw [count_heldStacks, count_heldStacks, updateNode, stored]
  exact inserted

theorem heldStacks_dropItem (loaded : (manager.bufferAt nodeId).getLast? = some stack) :
    ((manager.updateNode nodeId dropItem).heldStacks ++ [stack]).Perm manager.heldStacks := by
  obtain ⟨node, stored, last⟩ := nodes_of_last loaded
  apply perm_iff_count.mpr
  intro other
  have balance := count_updateNode stored dropItem other
  have split : node.itemBuffer = node.dropItem.itemBuffer ++ [stack] :=
    (dropLast_append_getLast? _ last).symm
  rw [split, count_append] at balance
  rw [count_append]
  omega

theorem heldStacks_pushItem (alive : (manager.nodes.lookup nodeId).isSome) (stack : ItemSlot) :
    (manager.updateNode nodeId (pushItem stack)).heldStacks.Perm
      (manager.heldStacks ++ [stack]) := by
  obtain ⟨node, stored⟩ := isSome_iff_exists.mp alive
  apply perm_iff_count.mpr
  intro other
  have balance := count_updateNode stored (pushItem stack) other
  have pushed : (pushItem stack node).itemBuffer = node.itemBuffer ++ [stack] := rfl
  rw [pushed, count_append] at balance
  rw [count_append]
  omega

theorem Carries.heldStacks (carries : manager.Carries move) : ((manager.carry move).1.heldStacks ++
      (manager.carry move).2.map ConsumedItemEvent.item).Perm manager.heldStacks := by
  have dropped := heldStacks_dropItem carries.loaded
  obtain ⟨node, stored, ⟨-, -, result⟩ | ⟨-, result⟩⟩ := carries.cases
  · have alive : ((manager.updateNode move.source dropItem).nodes.lookup move.sink).isSome := by
      rw [isSome_updateNode]
      exact isSome_iff_exists.mpr ⟨node, stored⟩
    rw [result, map_nil, append_nil]
    exact (heldStacks_pushItem alive move.stack).trans dropped
  · rw [result]
    exact dropped

variable {moves : List ItemMove}

variable (along : transport.Along Carries manager moves)

include along

theorem run_fittingAt (nodeId : Nat) :
    (transport.final manager moves).fittingAt nodeId = manager.fittingAt nodeId := by
  induction moves generalizing manager with
  | nil => rfl
  | cons move rest ih => exact (ih along.2).trans (along.1.fittingAt nodeId)

theorem run_heldStacks : ((transport.final manager moves).heldStacks ++
      (transport.outputs manager moves).map ConsumedItemEvent.item).Perm manager.heldStacks := by
  induction moves generalizing manager with
  | nil => rw [Machine.final_nil, Machine.outputs_nil, map_nil, append_nil]
  | cons move rest ih =>
    have later := ih along.2
    have here := along.1.heldStacks
    apply perm_iff_count.mpr
    intro stack
    have laterCount := later.count_eq stack
    have hereCount := here.count_eq stack
    rw [count_append] at laterCount hereCount
    rw [Machine.final, Machine.outputs, map_append, count_append, count_append]
    change _ = (manager.carry move).1.heldStacks.count stack at laterCount
    change _ + ((manager.carry move).2.map _).count stack = _ at hereCount
    change _ + (((manager.carry move).2.map _).count stack + _) = _
    omega

omit along

theorem pipeAt_eq (manager : PipeNetworkManager) (nodeId : Nat) :
    manager.pipeAt nodeId = (manager.fittingAt nodeId).any fun fitting => decide (0 < fitting.2) := by
  rw [pipeAt, fittingAt, Option.any_map]

def takenFrom (nodeId : Nat) (moves : List ItemMove) : List ItemSlot :=
  (moves.filter fun move => move.source == nodeId).map ItemMove.stack

def storedIn (nodeId : Nat) (moves : List ItemMove) : List ItemSlot :=
  (moves.filter fun move => move.sink == nodeId && manager.pipeAt nodeId).map ItemMove.stack

theorem Carries.buffer_perm (carries : manager.Carries move) (nodeId : Nat) :
    ((manager.carry move).1.bufferAt nodeId ++ takenFrom nodeId [move]).Perm
      (manager.bufferAt nodeId ++ manager.storedIn nodeId [move]) := by
  rw [carries.bufferAt, takenFrom, storedIn, filter_singleton, filter_singleton]
  by_cases source : nodeId = move.source
  · have sink : (move.sink == nodeId) = false := beq_eq_false_iff_ne.mpr (source ▸ carries.apart)
    rw [if_pos source, source, beq_self_eq_true, cond_true, ← source, sink, Bool.false_and,
      cond_false, map_nil, append_nil]
    rw [map_singleton, dropLast_append_getLast? _ (source ▸ carries.loaded)]
  · have other : (move.source == nodeId) = false := beq_eq_false_iff_ne.mpr (Ne.symm source)
    rw [if_neg source, other, cond_false, map_nil, append_nil]
    by_cases sink : nodeId = move.sink ∧ manager.pipeAt nodeId = true
    · rw [if_pos sink, sink.2, sink.1, beq_self_eq_true]
      exact List.Perm.refl _
    have none : (move.sink == nodeId && manager.pipeAt nodeId) = false := by
      apply Bool.eq_false_iff.mpr
      intro both
      obtain ⟨same, pipe⟩ := Bool.and_eq_true_iff.mp both
      exact sink ⟨(beq_iff_eq.mp same).symm, pipe⟩
    rw [if_neg sink, none, cond_false, map_nil, append_nil]

theorem run_buffer_perm (along : transport.Along Carries manager moves) (nodeId : Nat) :
    ((transport.final manager moves).bufferAt nodeId ++ takenFrom nodeId moves).Perm
      (manager.bufferAt nodeId ++ manager.storedIn nodeId moves) := by
  induction moves generalizing manager with
  | nil => exact List.Perm.refl _
  | cons move rest ih =>
    have pipes : (manager.carry move).1.pipeAt nodeId = manager.pipeAt nodeId := by
      rw [pipeAt_eq, along.1.fittingAt, ← pipeAt_eq]
    have takes : takenFrom nodeId (move :: rest) =
        takenFrom nodeId [move] ++ takenFrom nodeId rest := by
      rw [takenFrom, ← singleton_append, filter_append, map_append]
      rfl
    have stores : manager.storedIn nodeId (move :: rest) =
        manager.storedIn nodeId [move] ++ (manager.carry move).1.storedIn nodeId rest := by
      rw [storedIn, ← singleton_append, filter_append, map_append]
      rw [storedIn, storedIn, pipes]
    have later := ih along.2
    have here := along.1.buffer_perm nodeId
    apply perm_iff_count.mpr
    intro stack
    have laterCount := later.count_eq stack
    have hereCount := here.count_eq stack
    rw [count_append, count_append] at laterCount hereCount
    rw [Machine.final, takes, stores]
    simp only [count_append]
    change _ = count stack ((manager.carry move).1.bufferAt nodeId) +
      count stack ((manager.carry move).1.storedIn nodeId rest) at laterCount
    omega

variable {domains : Domains}

theorem Carries.length_le (carries : manager.Carries move) {nodeId capacity : Nat}
    (fitting : manager.fittingAt nodeId = some (domains, capacity)) :
    ((manager.carry move).1.bufferAt nodeId).length ≤
      max (manager.bufferAt nodeId).length capacity := by
  rw [carries.bufferAt]
  split
  · rw [length_dropLast]
    omega
  split
  · next sink =>
    obtain ⟨node, stored, ⟨-, room, -⟩ | ⟨machine, -⟩⟩ := carries.cases
    · rw [PipeNetworkManager.fittingAt, sink.1, stored] at fitting
      obtain ⟨-, rfl⟩ := Prod.mk.inj (Option.some.inj fitting)
      have length : (manager.bufferAt nodeId).length = node.itemBuffer.length := by
        rw [PipeNetworkManager.bufferAt, sink.1, stored]
        rfl
      rw [length_append, length_singleton]
      omega
    · have wall := sink.2
      rw [pipeAt, sink.1, stored] at wall
      exact absurd machine (of_decide_eq_true wall).ne'
  · exact Nat.le_max_left _ _

theorem run_length_le (along : transport.Along Carries manager moves) {nodeId capacity : Nat}
    (fitting : manager.fittingAt nodeId = some (domains, capacity)) :
    ((transport.final manager moves).bufferAt nodeId).length ≤
      max (manager.bufferAt nodeId).length capacity := by
  induction moves generalizing manager with
  | nil => exact Nat.le_max_left _ _
  | cons move rest ih =>
    have later := ih along.2 ((along.1.fittingAt nodeId).trans fitting)
    have here := along.1.length_le fitting
    change _ ≤ max ((manager.carry move).1.bufferAt nodeId).length capacity at later
    exact le_trans later (max_le here (Nat.le_max_right _ _))

variable {srcId : Nat}

theorem moveFrom_of_none (none : manager.moveOf srcId = none) :
    manager.moveFrom srcId = (manager, []) := by
  rw [moveOf, bufferAt] at none
  rw [moveFrom]
  cases stored : manager.nodes.lookup srcId with
  | none => rfl
  | some src =>
    rw [stored, map_some, getD_some] at none
    rw [bind_some]
    cases last : src.itemBuffer.getLast? with
    | none => rfl
    | some moving =>
      rw [last, bind_some] at none
      split at none
      · next missed => exact if_pos missed
      · exact nomatch none

theorem moveFrom_of_some (found : manager.moveOf srcId = some move) :
    manager.moveFrom srcId = manager.carry move ∧ move.source = srcId ∧
      (manager.bufferAt srcId).getLast? = some move.stack ∧ manager.nearestSink srcId = move.sink ∧
        move.sink ≠ 0 := by
  rw [moveOf] at found
  cases last : (manager.bufferAt srcId).getLast? with
  | none =>
    rw [last] at found
    exact nomatch found
  | some moving =>
    rw [last, bind_some] at found
    split at found
    · exact nomatch found
    rename_i sink
    cases found
    obtain ⟨src, stored, loaded⟩ := nodes_of_last last
    refine ⟨?_, rfl, rfl, rfl, sink⟩
    rw [moveFrom, stored, bind_some, loaded]
    exact if_neg sink

theorem carries_of_moveOf (found : manager.moveOf srcId = some move)
    (fitting : manager.fittingAt srcId = some (domains, capacity))
    (isSource : domains.item.isSource = true) : manager.Carries move := by
  obtain ⟨-, rfl, loaded, sink, real⟩ := moveFrom_of_some found
  have nearest : manager.nearestSink move.source ≠ 0 := by
    rw [sink]
    exact real
  obtain ⟨isOpen, apart, path⟩ := nearestSink_sound nearest
  rw [sink] at isOpen apart path
  refine ⟨loaded, ?_, isOpen, apart, path⟩
  obtain ⟨node, stored, last⟩ := nodes_of_last loaded
  rw [PipeNetworkManager.fittingAt, stored] at fitting
  obtain ⟨rfl, -⟩ := Prod.mk.inj (Option.some.inj fitting)
  rw [itemSourceAt, stored, any_some, isItemSource, isSource, Bool.true_and]
  cases buffer : node.itemBuffer with
  | nil =>
    rw [buffer] at last
    exact nomatch last
  | cons first rest => rfl

def Sends (nodeId : Nat) : Prop :=
  ∃ domains capacity, manager.fittingAt nodeId = some (domains, capacity) ∧
    domains.item.isSource = true

theorem sends_of_itemSourceAt (source : manager.itemSourceAt nodeId = true) :
    manager.Sends nodeId := by
  obtain ⟨node, stored, ready⟩ := (any_eq_true _ _).mp source
  refine ⟨node.domains, node.itemCapacity, ?_, (Bool.and_eq_true_iff.mp ready).1⟩
  rw [fittingAt, stored]
  rfl

theorem moveFrom_transports (sends : manager.Sends srcId) :
    manager.Transports (manager.moveOf srcId).toList (manager.moveFrom srcId) := by
  obtain ⟨domains, capacity, fitting, isSource⟩ := sends
  cases found : manager.moveOf srcId with
  | none =>
    rw [moveFrom_of_none found]
    exact Transports.nil manager
  | some move =>
    rw [(moveFrom_of_some found).1]
    exact ⟨rfl, (append_nil _).symm, carries_of_moveOf found fitting isSource, trivial⟩

theorem Transports.fittingAt {result : PipeNetworkManager × List ConsumedItemEvent}
    (transports : manager.Transports moves result) (nodeId : Nat) :
    result.1.fittingAt nodeId = manager.fittingAt nodeId := by
  rw [transports.final]
  exact run_fittingAt transports.along nodeId

theorem moveFromEach_transports (send : ∀ source ∈ sources, manager.Sends source) :
    manager.Transports (manager.movesFromEach sources) (manager.moveFromEach sources) := by
  induction sources generalizing manager with
  | nil => exact Transports.nil manager
  | cons srcId rest ih =>
    have first := moveFrom_transports (send srcId mem_cons_self)
    apply first.append
    apply ih
    intro source mem
    rw [Sends, first.fittingAt]
    exact send source (mem_cons_of_mem _ mem)

variable {network : Network}

theorem mem_itemNodesWhere {choose : PipeNode → Bool} :
    nodeId ∈ manager.itemNodesWhere network choose ↔
      nodeId ∈ network.itemNodes ∧ (manager.nodes.lookup nodeId).any choose = true :=
  mem_filter

theorem moveItemsInNetwork_transports (manager : PipeNetworkManager) (network : Network) :
    manager.Transports (manager.movesInNetwork network) (manager.moveItemsInNetwork network) := by
  rw [movesInNetwork, moveItemsInNetwork]
  split
  · exact Transports.nil manager
  · apply moveFromEach_transports
    intro source mem
    exact sends_of_itemSourceAt (mem_itemNodesWhere.mp mem).2

theorem moveInEach_transports (networks : List Network) (manager : PipeNetworkManager) :
    manager.Transports (manager.movesInEach networks) (manager.moveInEach networks) := by
  induction networks generalizing manager with
  | nil => exact Transports.nil manager
  | cons network rest ih =>
    exact (moveItemsInNetwork_transports manager network).append (ih _)

theorem tickItemNetworks_transports (manager : PipeNetworkManager) :
    manager.rebuildItemNetworks.Transports manager.tickMoves manager.tickItemNetworks :=
  moveInEach_transports _ _

theorem movesFromEach_sources (sources : List Nat) (manager : PipeNetworkManager) :
    ((manager.movesFromEach sources).map ItemMove.source).Sublist sources := by
  induction sources generalizing manager with
  | nil => exact List.Sublist.refl _
  | cons srcId rest ih =>
    rw [movesFromEach, map_append]
    cases found : manager.moveOf srcId with
    | none => exact (ih _).cons srcId
    | some move =>
      rw [← (moveFrom_of_some found).2.1]
      exact (ih _).cons_cons _

theorem movesInNetwork_sources (manager : PipeNetworkManager) (network : Network) :
    ((manager.movesInNetwork network).map ItemMove.source).Sublist network.itemNodes := by
  rw [movesInNetwork]
  split
  · exact nil_sublist _
  · exact (movesFromEach_sources _ manager).trans filter_sublist

theorem movesInEach_sources (networks : List Network) (manager : PipeNetworkManager) :
    ((manager.movesInEach networks).map ItemMove.source).Sublist
      (networks.flatMap Network.itemNodes) := by
  induction networks generalizing manager with
  | nil => exact List.Sublist.refl _
  | cons network rest ih =>
    rw [movesInEach, map_append, flatMap_cons]
    exact (movesInNetwork_sources manager network).append (ih _)

theorem lookup_rebuildItemNetworks {id : Nat}
    (stored : manager.rebuildItemNetworks.networks.lookup id = some network) :
    ∃ index component, (manager.components [] manager.nodes.keys)[index]? = some component ∧
      id = manager.nextNetworkId + index ∧ network.nodeIds = component ∧
        network.itemNodes = component.filter manager.pipeAt := by
  obtain ⟨index, component, found, rfl, rfl⟩ := (lookup_rebuildWith_networks _ _).mp stored
  exact ⟨index, component, found, rfl, rfl, rfl⟩

theorem itemNodes_of_mem (listed : network ∈ manager.rebuildItemNetworks.networks.values) :
    network.nodeIds ∈ manager.components [] manager.nodes.keys ∧
      network.itemNodes = network.nodeIds.filter manager.pipeAt := by
  obtain ⟨id, stored⟩ := Table.mem_values_iff.mp listed
  obtain ⟨index, component, found, -, nodeIds, itemNodes⟩ := lookup_rebuildItemNetworks stored
  rw [nodeIds]
  exact ⟨mem_of_getElem? found, itemNodes⟩

theorem nodeIds_nodup (manager : PipeNetworkManager) :
    (manager.rebuildItemNetworks.networks.values.flatMap Network.nodeIds).Nodup := by
  apply nodup_flatMap.mpr
  constructor
  · intro network listed
    exact manager.components_nodup _ (itemNodes_of_mem listed).1
  have keys := nodupKeys_iff_pairwise.mp manager.rebuildItemNetworks.networks.nodupKeys
  rw [Table.values, pairwise_map]
  apply keys.imp_of_mem
  intro entry other mem memberOther apart node here there
  obtain ⟨index, component, found, same, nodeIds, -⟩ :=
    lookup_rebuildItemNetworks (Table.mem_entries_iff.mp mem)
  obtain ⟨place, list, foundOther, sameOther, nodeIdsOther, -⟩ :=
    lookup_rebuildItemNetworks (Table.mem_entries_iff.mp memberOther)
  rw [nodeIds] at here
  rw [nodeIdsOther] at there
  apply apart
  rw [same, sameOther, manager.components_found.index_eq found foundOther here there]

theorem itemNodes_nodup (manager : PipeNetworkManager) :
    (manager.rebuildItemNetworks.networks.values.flatMap Network.itemNodes).Nodup := by
  refine List.Nodup.sublist ?_ manager.nodeIds_nodup
  apply List.Sublist.flatMap_right
  intro network listed
  rw [(itemNodes_of_mem listed).2]
  exact filter_sublist

theorem tickMoves_sources (manager : PipeNetworkManager) :
    (manager.tickMoves.map ItemMove.source).Nodup :=
  manager.itemNodes_nodup.sublist (movesInEach_sources _ _)

theorem rebuildItemNetworks_nodes (manager : PipeNetworkManager) :
    manager.rebuildItemNetworks.nodes = manager.nodes := rebuildWith_nodes

variable {other : PipeNetworkManager}

variable (same : other.nodes = manager.nodes)

include same

theorem heldStacks_congr : other.heldStacks = manager.heldStacks := by
  rw [heldStacks, heldStacks, same]

theorem bufferAt_congr (nodeId : Nat) : other.bufferAt nodeId = manager.bufferAt nodeId := by
  rw [bufferAt, bufferAt, same]

theorem storedIn_congr (nodeId : Nat) (moves : List ItemMove) :
    other.storedIn nodeId moves = manager.storedIn nodeId moves := by
  rw [storedIn, storedIn, pipeAt, pipeAt, same]

omit same

theorem tickItemNetworks_heldStacks (manager : PipeNetworkManager) :
    (manager.tickItemNetworks.1.heldStacks ++
      manager.tickItemNetworks.2.map ConsumedItemEvent.item).Perm manager.heldStacks := by
  have transports := manager.tickItemNetworks_transports
  rw [transports.final, transports.events, ← heldStacks_congr manager.rebuildItemNetworks_nodes]
  exact run_heldStacks transports.along

/-- What a tick does to the stacks. Its moves have different sources. -/
structure ConservesStacks (manager : PipeNetworkManager) (moves : List ItemMove)
    (result : PipeNetworkManager × List ConsumedItemEvent) : Prop where
  transports : manager.rebuildItemNetworks.Transports moves result
  once : (moves.map ItemMove.source).Nodup
  kept : (result.1.heldStacks ++ result.2.map ConsumedItemEvent.item).Perm manager.heldStacks
  buffers : ∀ nodeId, (result.1.bufferAt nodeId ++ takenFrom nodeId moves).Perm
    (manager.bufferAt nodeId ++ manager.storedIn nodeId moves)
  within : ∀ nodeId node, result.1.nodes.lookup nodeId = some node → 0 < node.itemCapacity →
    node.itemBuffer.length ≤ max (manager.bufferAt nodeId).length node.itemCapacity

theorem tick_conserves_stacks (manager : PipeNetworkManager) :
    manager.ConservesStacks manager.tickMoves manager.tickItemNetworks := by
  have transports := manager.tickItemNetworks_transports
  have nodes := manager.rebuildItemNetworks_nodes
  constructor
  · exact transports
  · exact manager.tickMoves_sources
  · exact manager.tickItemNetworks_heldStacks
  · intro nodeId
    have perm := run_buffer_perm transports.along nodeId
    rw [← transports.final, storedIn_congr nodes, bufferAt_congr nodes] at perm
    exact perm
  · intro nodeId node stored _
    have fitting : manager.rebuildItemNetworks.fittingAt nodeId =
        some (node.domains, node.itemCapacity) := by
      rw [← transports.fittingAt, fittingAt, stored]
      rfl
    have bound := run_length_le transports.along fitting
    rw [← transports.final, bufferAt, stored, bufferAt_congr nodes] at bound
    exact bound

end PipeNetworkManager

end GtnhPlatform.PipeNetwork
