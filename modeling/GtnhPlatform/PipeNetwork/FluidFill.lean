import GtnhPlatform.PipeNetwork.ConsumeAccounting
import GtnhPlatform.Data.Shares

namespace GtnhPlatform.PipeNetwork

open List

namespace PipeNetworkManager

def isFillSource (node : PipeNode) : Bool :=
  node.domains.fluid.isSource && decide (0 < node.fluidBuffer) &&
    decide (0 < node.fluidCapacity) && node.fluidId != 0

def isFillPipe (node : PipeNode) : Bool :=
  decide (0 < node.fluidCapacity) && !node.domains.fluid.isSource && !node.domains.fluid.isSink &&
    decide (0 < node.fluidCapacity - node.fluidBuffer)

variable (manager : PipeNetworkManager)

variable (network : Network)

def sourcesOf : List Nat :=
  network.nodeIds.filter fun id => (manager.nodes.lookup id).any isFillSource

def pipesOf : List Nat :=
  network.nodeIds.filter fun id => (manager.nodes.lookup id).any isFillPipe

def roomOf (id : Nat) : Int :=
  ((manager.nodes.lookup id).map fun node => node.fluidCapacity - node.fluidBuffer).getD 0

def fluidOf (id : Nat) : Nat :=
  ((manager.nodes.lookup id).map fun node => node.fluidId).getD 0

/-- The fluid of the sources as the scan leaves it: a second fluid clears it, a
third source sets it again. -/
def scanFluid (fluids : List Nat) : Nat :=
  fluids.foldl (fun fluid next =>
    if fluid = 0 then next else if fluid = next then fluid else 0) 0

structure FillState where
  manager : PipeNetworkManager
  deltas : Table Nat Int
  remaining : Int

def deltaOf (deltas : Table Nat Int) (id : Nat) : Int := (deltas.lookup id).getD 0

def addDelta (id : Nat) (amount : Int) (deltas : Table Nat Int) : Table Nat Int :=
  AList.insert id (deltaOf deltas id + amount) deltas

def creditNode (fluidId : Nat) (amount : Int) (node : PipeNode) : PipeNode :=
  { node with
    fluidBuffer := node.fluidBuffer + amount
    fluidId := if node.fluidId = 0 then fluidId else node.fluidId }

def debitNode (amount : Int) (node : PipeNode) : PipeNode :=
  { node with fluidBuffer := node.fluidBuffer - amount }

def creditPipes (toFill room : Int) (fluidId : Nat) : List Nat → FillState → FillState
  | [], state => state
  | pipe :: rest, state =>
    match state.manager.nodes.lookup pipe with
    | none => creditPipes toFill room fluidId rest state
    | some node =>
      let nodeRoom := node.fluidCapacity - node.fluidBuffer
      let share := if rest.isEmpty then state.remaining else (toFill * nodeRoom).tdiv room
      let give := min share nodeRoom
      if give ≤ 0 then creditPipes toFill room fluidId rest state
      else
        creditPipes toFill room fluidId rest {
          manager := state.manager.updateNode pipe (creditNode fluidId give)
          deltas := addDelta pipe give state.deltas
          remaining := state.remaining - give }

def debitSources (toFill : Int) : List Nat → Int → FillState → FillState
  | [], _, state => state
  | source :: rest, available, state =>
    if state.remaining ≤ 0 then state
    else
      match state.manager.nodes.lookup source with
      | none => debitSources toFill rest available state
      | some node =>
        let share :=
          if rest.isEmpty then state.remaining
          else (toFill * node.fluidBuffer).tdiv available
        let take := min share node.fluidBuffer
        if take ≤ 0 then debitSources toFill rest available state
        else
          debitSources toFill rest (available - node.fluidBuffer) {
            manager := state.manager.updateNode source (debitNode take)
            deltas := addDelta source (-take) state.deltas
            remaining := state.remaining - take }

def available : Int :=
  ((manager.sourcesOf network).map manager.bufferOf).sum

def room : Int :=
  ((manager.pipesOf network).map manager.roomOf).sum

def fillFluid : Nat :=
  scanFluid ((manager.sourcesOf network).map manager.fluidOf)

/-- A mixed source network must not inject an ambiguous fluid into a pipe. -/
def fillsNothing : Bool :=
  (manager.sourcesOf network).isEmpty || (manager.pipesOf network).isEmpty ||
    decide (manager.available network ≤ 0) || decide (manager.room network ≤ 0) ||
    manager.fillFluid network == 0

def runFill : FillState :=
  let toFill := wrapI32 (min (manager.available network) (manager.room network))
  let credited := creditPipes toFill (manager.room network) (manager.fillFluid network)
    (manager.pipesOf network) ⟨manager, ∅, toFill⟩
  debitSources toFill (manager.sourcesOf network) (manager.available network)
    { credited with remaining := toFill }

def fillFluidPipesFromSources (networkId : Nat) : PipeNetworkManager × Table Nat Int :=
  match manager.networks.lookup networkId with
  | none => (manager, ∅)
  | some network =>
    if manager.fillsNothing network then (manager, ∅)
    else
      let filled := manager.runFill network
      let network := { network with
        totalFluid := wrapI32 ((filled.manager.nodesOf network.nodeIds).map (·.fluidBuffer)).sum
        fluidId := manager.fillFluid network
        isActive := !filled.deltas.entries.isEmpty }
      ({ filled.manager with
          networks := AList.insert networkId network filled.manager.networks },
        filled.deltas)

structure Moved (change : Int → PipeNode → PipeNode) (sign : Int) (limit : Nat → Int)
    (nodes : List Nat) (state : FillState) (moved : Nat → Int) (out : FillState) : Prop where
  support : ∀ id, moved id ≠ 0 → 0 < moved id ∧ moved id ≤ limit id ∧ id ∈ nodes
  nodes : ∀ id, out.manager.nodes.lookup id = (state.manager.nodes.lookup id).map fun node =>
    if moved id = 0 then node else change (moved id) node
  rest : out.manager = { state.manager with nodes := out.manager.nodes }
  deltas : ∀ id, deltaOf out.deltas id = deltaOf state.deltas id + sign * moved id

namespace Moved

variable {change : Int → PipeNode → PipeNode} {sign : Int} {limit : Nat → Int}
  {nodes : List Nat} {state out : FillState} {moved : Nat → Int} {id : Nat}

theorem nothing (change : Int → PipeNode → PipeNode) (sign : Int) (limit : Nat → Int)
    (nodes : List Nat) (state : FillState) :
    Moved change sign limit nodes state (fun _ => 0) state := by
  refine ⟨fun _ moved => absurd rfl moved, ?_, rfl, ?_⟩
  · intro id
    simp
  · intro id
    rw [mul_zero, add_zero]

theorem eq_zero (done : Moved change sign limit nodes state moved out) (fresh : id ∉ nodes) :
    moved id = 0 := by
  by_contra shifted
  exact fresh (done.support id shifted).2.2

theorem skip (done : Moved change sign limit nodes state moved out) (first : Nat) :
    Moved change sign limit (first :: nodes) state moved out := by
  refine ⟨?_, done.nodes, done.rest, done.deltas⟩
  intro id shifted
  obtain ⟨positive, within, mem⟩ := done.support id shifted
  exact ⟨positive, within, mem_cons_of_mem _ mem⟩

theorem deltaOf_addDelta (deltas : Table Nat Int) (first : Nat) (amount : Int) (id : Nat) :
    deltaOf (addDelta first amount deltas) id =
      deltaOf deltas id + if id = first then amount else 0 := by
  rw [deltaOf, addDelta, Table.lookup_insert_eq]
  by_cases here : id = first
  · subst here
    rw [if_pos rfl, if_pos rfl, Option.getD_some]
  · rw [if_neg here, if_neg here, add_zero, deltaOf]

theorem turn (fresh : id ∉ nodes) (positive : 0 < amount)
    (within : amount ≤ limit id) (signed : delta = sign * amount)
    (alive : (state.manager.nodes.lookup id).isSome)
    (done : Moved change sign limit nodes
      { manager := state.manager.updateNode id (change amount)
        deltas := addDelta id delta state.deltas
        remaining := remaining } moved out) :
    Moved change sign limit (id :: nodes) state (Function.update moved id amount) out := by
  have before : ∀ other, other ≠ id →
      (state.manager.updateNode id (change amount)).nodes.lookup other =
        state.manager.nodes.lookup other := by
    intro other apart
    rw [lookup_updateNode]
    simp [apart]
  constructor
  · intro other shifted
    by_cases here : other = id
    · subst here
      rw [Function.update_self]
      exact ⟨positive, within, mem_cons_self⟩
    · rw [Function.update_of_ne here] at shifted ⊢
      obtain ⟨positive, within, mem⟩ := done.support other shifted
      exact ⟨positive, within, mem_cons_of_mem _ mem⟩
  · intro other
    rw [done.nodes]
    by_cases here : other = id
    · subst here
      obtain ⟨node, found⟩ := Option.isSome_iff_exists.mp alive
      simp [lookup_updateNode, found, done.eq_zero fresh, positive.ne']
    · rw [before other here, Function.update_of_ne here]
  · have updated : state.manager.updateNode id (change amount) = { state.manager with
        nodes := (state.manager.updateNode id (change amount)).nodes } := by
      unfold updateNode
      split <;> rfl
    rw [done.rest, updated]
  · intro other
    rw [done.deltas, deltaOf_addDelta]
    by_cases here : other = id
    · subst here
      rw [if_pos rfl, done.eq_zero fresh, Function.update_self, mul_zero, add_zero, signed]
    · rw [if_neg here, add_zero, Function.update_of_ne here]

theorem map_update (fresh : id ∉ nodes) (moved : Nat → Int) (amount : Int) :
    nodes.map (Function.update moved id amount) = nodes.map moved := by
  apply map_congr_left
  intro other mem
  have apart : other ≠ id := by
    rintro rfl
    exact fresh mem
  exact Function.update_of_ne apart _ _

end Moved

variable {manager : PipeNetworkManager} {id : Nat}

theorem roomOf_eq_zero (absent : manager.nodes.lookup id = none) : manager.roomOf id = 0 := by
  rw [roomOf, absent]
  rfl

theorem bufferOf_eq_zero (absent : manager.nodes.lookup id = none) : manager.bufferOf id = 0 := by
  rw [bufferOf, absent]
  rfl

theorem lookup_updateNode_of_notMem {nodes : List Nat} (fresh : id ∉ nodes)
    (change : PipeNode → PipeNode) :
    ∀ other ∈ nodes, (manager.updateNode id change).nodes.lookup other =
      manager.nodes.lookup other := by
  intro other mem
  have apart : other ≠ id := by
    rintro rfl
    exact fresh mem
  rw [lookup_updateNode]
  simp [apart]

theorem creditPipes_moved (toFill room : Int) (fluidId : Nat) (limit : Nat → Int) {pipes : List Nat}
    (distinct : pipes.Nodup) (state : FillState)
    (agrees : ∀ id ∈ pipes, state.manager.roomOf id = limit id) :
    ∃ moved, Moved (creditNode fluidId) 1 limit pipes state moved
        (creditPipes toFill room fluidId pipes state) ∧
      pipes.map moved = Shares.fixed toFill room state.remaining (pipes.map limit) := by
  induction pipes generalizing state with
  | nil => exact ⟨_, Moved.nothing _ _ _ _ state, rfl⟩
  | cons pipe rest ih =>
    obtain ⟨fresh, distinct⟩ := nodup_cons.mp distinct
    have here := agrees pipe mem_cons_self
    have later : ∀ id ∈ rest, state.manager.roomOf id = limit id := fun id mem =>
      agrees id (mem_cons_of_mem _ mem)
    have skipped : ∃ moved, Moved (creditNode fluidId) 1 limit (pipe :: rest) state moved
          (creditPipes toFill room fluidId rest state) ∧
        (pipe :: rest).map moved =
          0 :: Shares.fixed toFill room (state.remaining - 0) (rest.map limit) := by
      obtain ⟨moved, done, shares⟩ := ih distinct state later
      refine ⟨moved, done.skip pipe, ?_⟩
      rw [map_cons, done.eq_zero fresh, shares, sub_zero]
    cases found : state.manager.nodes.lookup pipe with
    | none =>
      rw [roomOf_eq_zero found] at here
      simp only [creditPipes, found, map_cons, Shares.fixed, isEmpty_map, ← here]
      have nothing : ∀ share : Int, max 0 (min share 0) = 0 := by omega
      simpa only [nothing, map_cons] using skipped
    | some node =>
      have space : node.fluidCapacity - node.fluidBuffer = limit pipe := by
        rw [← here, roomOf, found]
        rfl
      simp only [creditPipes, found, space, map_cons, Shares.fixed, isEmpty_map]
      generalize (if rest.isEmpty then state.remaining else (toFill * limit pipe).tdiv room) = share
      split
      · next none =>
        rw [max_eq_left none]
        simpa only [map_cons] using skipped
      rename_i gives
      have positive := not_le.mp gives
      rw [max_eq_right positive.le]
      obtain ⟨moved, done, shares⟩ := ih distinct {
          manager := state.manager.updateNode pipe
            (creditNode fluidId (min share (limit pipe)))
          deltas := addDelta pipe (min share (limit pipe)) state.deltas
          remaining := state.remaining - min share (limit pipe) } (by
        intro id mem
        rw [← later id mem, roomOf, roomOf, lookup_updateNode_of_notMem fresh _ id mem])
      refine ⟨_, done.turn fresh positive (min_le_right _ _) (one_mul _).symm
        (by rw [found]; rfl), ?_⟩
      rw [Moved.map_update fresh, Function.update_self, shares]

theorem debitSources_moved (toFill : Int) (limit : Nat → Int) {sources : List Nat}
    (distinct : sources.Nodup) (available : Int) (state : FillState)
    (agrees : ∀ id ∈ sources, state.manager.bufferOf id = limit id) :
    ∃ moved, Moved debitNode (-1) limit sources state moved
        (debitSources toFill sources available state) ∧ sources.map moved =
        Shares.shrinking toFill available state.remaining (sources.map limit) := by
  induction sources generalizing state available with
  | nil => exact ⟨_, Moved.nothing _ _ _ _ state, rfl⟩
  | cons source rest ih =>
    obtain ⟨fresh, distinct⟩ := nodup_cons.mp distinct
    have here := agrees source mem_cons_self
    have later : ∀ id ∈ rest, state.manager.bufferOf id = limit id := fun id mem =>
      agrees id (mem_cons_of_mem _ mem)
    have skipped : ∃ moved, Moved debitNode (-1) limit (source :: rest) state moved
          (debitSources toFill rest available state) ∧
        (source :: rest).map moved =
          0 :: Shares.shrinking toFill available (state.remaining - 0) (rest.map limit) := by
      obtain ⟨moved, done, shares⟩ := ih distinct available state later
      refine ⟨moved, done.skip source, ?_⟩
      rw [map_cons, done.eq_zero fresh, shares, sub_zero]
    unfold debitSources
    rw [map_cons (f := limit)]
    split
    · next stop =>
      refine ⟨_, Moved.nothing _ _ _ _ state, ?_⟩
      rw [← map_cons, Shares.shrinking_of_nonpos stop, map_map]
      rfl
    · next left =>
      rw [Shares.shrinking, if_neg left, isEmpty_map]
      cases found : state.manager.nodes.lookup source with
      | none =>
        rw [bufferOf_eq_zero found] at here
        have nothing : ∀ share : Int, max 0 (min share 0) = 0 := by omega
        simpa only [nothing, ← here, if_true] using skipped
      | some node =>
        have buffer : node.fluidBuffer = limit source := by
          rw [← here, bufferOf, found]
          rfl
        simp only [buffer]
        generalize (if rest.isEmpty then state.remaining
          else (toFill * limit source).tdiv available) = share
        split
        · next none =>
          rw [max_eq_left none, if_pos rfl]
          exact skipped
        rename_i takes
        have positive := not_le.mp takes
        rw [max_eq_right positive.le, if_neg positive.ne']
        obtain ⟨moved, done, shares⟩ := ih distinct (available - limit source) {
            manager := state.manager.updateNode source
              (debitNode (min share (limit source)))
            deltas := addDelta source (-min share (limit source)) state.deltas
            remaining := state.remaining - min share (limit source) } (by
          intro id mem
          rw [← later id mem, bufferOf, bufferOf, lookup_updateNode_of_notMem fresh _ id mem])
        refine ⟨_, done.turn fresh positive (min_le_right _ _) (by omega)
          (by rw [found]; rfl), ?_⟩
        rw [map_cons, Moved.map_update fresh, Function.update_self, shares]

variable {network : Network}

theorem source_of_mem_sourcesOf (mem : id ∈ manager.sourcesOf network) : id ∈ network.nodeIds ∧
      ∃ node, manager.nodes.lookup id = some node ∧ isFillSource node = true := by
  obtain ⟨listed, source⟩ := mem_filter.mp mem
  exact ⟨listed, (Option.any_eq_true _ _).mp source⟩

theorem pipe_of_mem_pipesOf (mem : id ∈ manager.pipesOf network) : id ∈ network.nodeIds ∧
      ∃ node, manager.nodes.lookup id = some node ∧ isFillPipe node = true := by
  obtain ⟨listed, pipe⟩ := mem_filter.mp mem
  exact ⟨listed, (Option.any_eq_true _ _).mp pipe⟩

theorem isFillSource_iff (node : PipeNode) : isFillSource node = true ↔
    node.domains.fluid.isSource = true ∧ 0 < node.fluidBuffer ∧ 0 < node.fluidCapacity ∧
      node.fluidId ≠ 0 := by
  simp [isFillSource, and_assoc]

theorem isFillPipe_iff (node : PipeNode) : isFillPipe node = true ↔
    0 < node.fluidCapacity ∧ node.domains.fluid.isSource = false ∧
      node.domains.fluid.isSink = false ∧ 0 < node.fluidCapacity - node.fluidBuffer := by
  simp [isFillPipe, and_assoc]

theorem notMem_sourcesOf (mem : id ∈ manager.pipesOf network) : id ∉ manager.sourcesOf network := by
  intro both
  obtain ⟨-, node, found, source⟩ := source_of_mem_sourcesOf both
  obtain ⟨-, other, stored, pipe⟩ := pipe_of_mem_pipesOf mem
  obtain rfl := Option.some.inj (found.symm.trans stored)
  have marked := ((isFillSource_iff node).mp source).1
  rw [((isFillPipe_iff node).mp pipe).2.1] at marked
  cases marked

structure Filled (manager : PipeNetworkManager) (network : Network) (given taken : Nat → Int)
    (out : FillState) : Prop where
  pipes : ∀ id, given id ≠ 0 →
    0 < given id ∧ given id ≤ manager.roomOf id ∧ id ∈ manager.pipesOf network
  sources : ∀ id, taken id ≠ 0 →
    0 < taken id ∧ taken id ≤ manager.bufferOf id ∧ id ∈ manager.sourcesOf network
  nodes : ∀ id, out.manager.nodes.lookup id = (manager.nodes.lookup id).map fun node =>
    if given id ≠ 0 then creditNode (manager.fillFluid network) (given id) node
    else if taken id ≠ 0 then debitNode (taken id) node
    else node
  rest : out.manager = { manager with nodes := out.manager.nodes }
  deltas : ∀ id, deltaOf out.deltas id = given id - taken id

structure SharedOut (manager : PipeNetworkManager) (network : Network) (amount : Int)
    (given taken : Nat → Int) : Prop where
  pipes : (manager.pipesOf network).map given = Shares.fixed amount (manager.room network) amount
    ((manager.pipesOf network).map manager.roomOf)
  sources : (manager.sourcesOf network).map taken = Shares.shrinking amount
    (manager.available network) amount ((manager.sourcesOf network).map manager.bufferOf)

theorem runFill_filled (manager : PipeNetworkManager) (distinct : network.nodeIds.Nodup) :
    ∃ given taken, Filled manager network given taken (manager.runFill network) ∧
      SharedOut manager network (wrapI32 (min (manager.available network) (manager.room network)))
        given taken := by
  unfold runFill
  dsimp only
  generalize wrapI32 (min (manager.available network) (manager.room network)) = amount
  have pipes : (manager.pipesOf network).Nodup := distinct.filter _
  have sources : (manager.sourcesOf network).Nodup := distinct.filter _
  obtain ⟨given, credited, gifts⟩ := creditPipes_moved amount (manager.room network)
    (manager.fillFluid network) manager.roomOf pipes ⟨manager, ∅, amount⟩ fun _ _ => rfl
  generalize creditPipes amount (manager.room network) (manager.fillFluid network)
    (manager.pipesOf network) ⟨manager, ∅, amount⟩ = middle at credited
  have spared : ∀ id ∈ manager.sourcesOf network, given id = 0 := fun id mem =>
    credited.eq_zero fun pipe => notMem_sourcesOf pipe mem
  obtain ⟨taken, debited, takes⟩ := debitSources_moved amount manager.bufferOf sources
    (manager.available network) { middle with remaining := amount } (by
      intro id mem
      rw [bufferOf, bufferOf, credited.nodes, spared id mem]
      simp)
  refine ⟨given, taken, ?_, gifts, takes⟩
  constructor
  · exact credited.support
  · exact debited.support
  · intro id
    rw [debited.nodes, credited.nodes, Option.map_map]
    apply congrArg (Option.map · _)
    funext node
    by_cases gift : given id = 0
    · simp [gift]
    · have untouched : taken id = 0 :=
        debited.eq_zero (notMem_sourcesOf (credited.support id gift).2.2)
      simp [gift, untouched]
  · rw [debited.rest]
    rw [credited.rest]
  · intro id
    rw [debited.deltas, credited.deltas, deltaOf, AList.lookup_empty, Option.getD_none]
    omega

end PipeNetworkManager

end GtnhPlatform.PipeNetwork
