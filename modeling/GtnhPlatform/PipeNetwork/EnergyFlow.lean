import GtnhPlatform.PipeNetwork.NodeLedger

namespace GtnhPlatform.PipeNetwork

open List

/-! Sharing out energy: two loops that start from the same amount. -/

namespace PipeNetworkManager

variable (manager : PipeNetworkManager)

def euNodes (nodeIds : List Nat) (choose : DomainNodeState → Bool) : List Nat :=
  nodeIds.filter fun id => (manager.nodes.lookup id).any fun node => choose node.domains.eu

def drawEnergy (totalAmount totalSourceCapacity : Int) : Int → List Nat → NodeLedger → NodeLedger
  | _, [], ledger => ledger
  | remaining, source :: rest, ledger =>
    match ledger.manager.nodes.lookup source with
    | none => drawEnergy totalAmount totalSourceCapacity remaining rest ledger
    | some node =>
      let share :=
        if rest.isEmpty then remaining
        else wrapI32 ((totalAmount * max 1 node.energyCapacity).tdiv totalSourceCapacity)
      let take := limitRate node.domains.eu.rate (min share node.energyBuffer)
      drawEnergy totalAmount totalSourceCapacity (remaining - take) rest
        (ledger.post energyField source (-take))

def creditEnergy (perSink remainder : Int) : Nat → List Nat → NodeLedger → NodeLedger
  | _, [], ledger => ledger
  | index, sink :: rest, ledger =>
    match ledger.manager.nodes.lookup sink with
    | none => creditEnergy perSink remainder (index + 1) rest ledger
    | some node =>
      let share := perSink + if (index : Int) < remainder % 2 ^ 64 then 1 else 0
      let room := node.energyCapacity - node.energyBuffer
      let give := limitRate node.domains.eu.rate (min share room)
      creditEnergy perSink remainder (index + 1) rest (ledger.post energyField sink give)

/-- `distributeFlow` up to its second loop. The sum of the capacities may overflow. -/
def drawFromSources (nodeIds : List Nat) (totalAmount : Int) : Option NodeLedger :=
  let sources := manager.euNodes nodeIds DomainNodeState.isSource
  (sumI32 (sources.map fun id => max 1 (energyField.limitAt manager id))).map fun total =>
    if sources ≠ [] ∧ 0 < total then drawEnergy totalAmount total totalAmount sources ⟨manager, ∅⟩
    else ⟨manager, ∅⟩

def creditSinks (sinks : List Nat) (totalAmount : Int) (ledger : NodeLedger) : NodeLedger :=
  if sinks = [] then ledger
  else
    creditEnergy (totalAmount.tdiv sinks.length) (totalAmount.tmod sinks.length) 0 sinks ledger

def distributeFlow (nodeIds : List Nat) (totalAmount : Int) : Option NodeLedger :=
  if nodeIds = [] ∨ totalAmount = 0 then some ⟨manager, ∅⟩
  else
    (manager.drawFromSources nodeIds totalAmount).map
      (creditSinks (manager.euNodes nodeIds DomainNodeState.isSink) totalAmount)

def distributeEnergy (networkId : Nat) (tickEnergy : Int) :
    Option (PipeNetworkManager × Table Nat Int) :=
  match manager.networks.lookup networkId with
  | none => some (manager, ∅)
  | some network =>
    if tickEnergy = 0 then some (manager, ∅)
    else
      (manager.distributeFlow network.nodeIds tickEnergy).map fun flow =>
        let network := { network with
          totalEnergy := wrapI32 ((flow.manager.nodesOf network.nodeIds).map (·.energyBuffer)).sum
          isActive := !(flow.manager.euNodes network.nodeIds DomainNodeState.isSink).isEmpty &&
              tickEnergy != 0 }
        ({ flow.manager with
            networks := AList.insert networkId network flow.manager.networks },
          flow.deltas)

def euRateAt (id : Nat) : Int :=
  ((manager.nodes.lookup id).map fun node => node.domains.eu.rate).getD 0

section Amounts

variable (manager : PipeNetworkManager) (totalAmount : Int)

def drawable (id : Nat) (share : Int) : Int :=
  limitRate (manager.euRateAt id) (min share (energyField.heldAt manager id))

def totalCapacity (sources : List Nat) : Int :=
  (sources.map fun id => max 1 (energyField.limitAt manager id)).sum

def shareOf (total : Int) (id : Nat) : Int :=
  totalAmount * max 1 (energyField.limitAt manager id) / total

def drawnShare (total : Int) (id : Nat) : Int :=
  manager.drawable id (manager.shareOf totalAmount total id)

def drawnBy (total remaining : Int) (sources : List Nat) (id : Nat) : Int :=
  if id ∉ sources then 0
  else if sources.getLast? = some id then
    manager.drawable id
      (remaining - (sources.dropLast.map (manager.drawnShare totalAmount total)).sum)
  else manager.drawnShare totalAmount total id

def drawnFrom (nodeIds : List Nat) : Nat → Int :=
  let sources := manager.euNodes nodeIds DomainNodeState.isSource
  manager.drawnBy totalAmount (manager.totalCapacity sources) totalAmount sources

def creditedTo (nodeIds : List Nat) (id : Nat) : Int :=
  let sinks := manager.euNodes nodeIds DomainNodeState.isSink
  if id ∉ sinks then 0
  else
    let share := totalAmount / sinks.length +
      if (sinks.idxOf id : Int) < totalAmount % sinks.length then 1 else 0
    limitRate (manager.euRateAt id) (min share
      (energyField.limitAt manager id - energyField.heldAt manager id +
        manager.drawnFrom totalAmount nodeIds id))

end Amounts

variable {manager : PipeNetworkManager} {totalAmount : Int}

theorem wrapI32_share {total capacity : Int} (positive : 0 < totalAmount)
    (small : totalAmount < 2 ^ 31) (lower : 1 ≤ capacity) (upper : capacity ≤ total) :
    wrapI32 ((totalAmount * capacity).tdiv total) = totalAmount * capacity / total := by
  have nonneg : 0 ≤ capacity := by omega
  obtain ⟨division, bounds, within⟩ := Shares.share_bounds totalAmount
    (lt_of_lt_of_le lower upper) nonneg upper positive.le
  rw [Int.mul_comm, division]
  exact wrapI32_of_bounds (by omega) (by omega)

variable {total remaining : Int} {id : Nat} {sources : List Nat}

theorem drawnBy_of_notMem (absent : id ∉ sources) :
    manager.drawnBy totalAmount total remaining sources id = 0 :=
  if_pos absent

variable {rest : List Nat}

theorem drawnBy_cons_self (fresh : source ∉ rest) :
    manager.drawnBy totalAmount total remaining (source :: rest) source = manager.drawable source
        (if rest.isEmpty then remaining else manager.shareOf totalAmount total source) := by
  rw [drawnBy, if_neg (not_not.mpr mem_cons_self)]
  cases rest with
  | nil =>
    rw [if_pos (getLast?_singleton), isEmpty_nil, if_pos rfl, dropLast_singleton,
      map_nil, sum_nil, Int.sub_zero]
  | cons next rest =>
    rw [getLast?_cons_cons, if_neg]
    · rfl
    · intro last
      exact fresh (mem_of_getLast? last)

theorem drawnBy_cons_of_ne {source id : Nat} (apart : id ≠ source) :
    manager.drawnBy totalAmount total remaining (source :: rest) id =
      manager.drawnBy totalAmount total (remaining - manager.drawable source
          (if rest.isEmpty then remaining else manager.shareOf totalAmount total source)) rest id := by
  cases rest with
  | nil =>
    rw [drawnBy_of_notMem not_mem_nil, drawnBy_of_notMem]
    simpa using apart
  | cons next rest =>
    rw [drawnBy, drawnBy, getLast?_cons_cons]
    by_cases mem : id ∈ next :: rest
    · rw [if_neg (not_not.mpr (mem_cons_of_mem source mem)), if_neg (not_not.mpr mem)]
      rw [dropLast_cons_cons, map_cons, sum_cons, ← Int.sub_sub]
      rfl
    · rw [if_pos mem, if_pos]
      intro either
      exact (mem_cons.mp either).elim apart mem

theorem drawable_eq {node : PipeNode} (stored : manager.nodes.lookup id = some node) (share : Int) :
    manager.drawable id share = limitRate node.domains.eu.rate (min share node.energyBuffer) := by
  rw [drawable, euRateAt, NodeField.heldAt, stored]
  rfl

theorem drawEnergy_posted {total : Int} (distinct : sources.Nodup)
    (alive : ∀ id ∈ sources, (manager.nodes.lookup id).isSome)
    (shares : ∀ id ∈ sources, wrapI32 ((totalAmount *
      max 1 (energyField.limitAt manager id)).tdiv total) = manager.shareOf totalAmount total id)
    (remaining : Int) (ledger : NodeLedger)
    (agrees : ∀ id ∈ sources, ledger.manager.nodes.lookup id = manager.nodes.lookup id) :
    ledger.Posted energyField (fun id => -manager.drawnBy totalAmount total remaining sources id)
      (drawEnergy totalAmount total remaining sources ledger) := by
  induction sources generalizing remaining ledger with
  | nil => exact (NodeLedger.Posted.refl energyField ledger).congr fun id => rfl
  | cons source rest ih =>
    obtain ⟨fresh, distinct⟩ := nodup_cons.mp distinct
    obtain ⟨node, stored⟩ := Option.isSome_iff_exists.mp (alive source mem_cons_self)
    have here := agrees source mem_cons_self
    have share := shares source mem_cons_self
    have take := drawable_eq stored
      (if rest.isEmpty then remaining else manager.shareOf totalAmount total source)
    rw [drawEnergy, here, stored]
    dsimp only
    have limit : energyField.limitAt manager source = node.energyCapacity := by
      rw [NodeField.limitAt, stored]
      rfl
    rw [limit] at share
    rw [share, ← take]
    have present : (ledger.manager.nodes.lookup source).isSome := by
      rw [here, stored]
      rfl
    have posted := NodeLedger.post_posted energyField
      (-manager.drawable source
        (if rest.isEmpty then remaining else manager.shareOf totalAmount total source)) present
    have later := ih distinct (fun id mem => alive id (mem_cons_of_mem _ mem))
      (fun id mem => shares id (mem_cons_of_mem _ mem))
      (remaining - manager.drawable source
        (if rest.isEmpty then remaining else manager.shareOf totalAmount total source))
      (ledger.post energyField source (-manager.drawable source
        (if rest.isEmpty then remaining else manager.shareOf totalAmount total source))) (by
          intro id mem
          rw [← agrees id (mem_cons_of_mem _ mem)]
          exact lookup_updateNode_of_notMem fresh _ id mem)
    apply (posted.trans later).congr
    intro id
    by_cases same : id = source
    · rw [if_pos same, same, drawnBy_of_notMem fresh, drawnBy_cons_self fresh, Int.neg_zero,
        Int.add_zero]
    · rw [if_neg same, drawnBy_cons_of_ne same, Int.zero_add]

def creditOf (perSink remainder : Int) (index : Nat) (sinks : List Nat) (id : Nat) : Int :=
  if id ∉ sinks then 0
  else
    limitRate (manager.euRateAt id)
      (min (perSink + if ((index + sinks.idxOf id : Nat) : Int) < remainder % 2 ^ 64 then 1 else 0)
        (energyField.limitAt manager id - energyField.heldAt manager id))

variable {perSink remainder : Int} {sinks : List Nat}

theorem creditOf_of_notMem (absent : id ∉ sinks) :
    manager.creditOf perSink remainder index sinks id = 0 := if_pos absent

theorem creditOf_cons_of_ne {index sink id : Nat} (apart : id ≠ sink) :
    manager.creditOf perSink remainder index (sink :: rest) id =
      manager.creditOf perSink remainder (index + 1) rest id := by
  rw [creditOf, creditOf]
  by_cases mem : id ∈ rest
  · rw [if_neg (not_not.mpr (mem_cons_of_mem sink mem)), if_neg (not_not.mpr mem),
      idxOf_cons_ne rest (Ne.symm apart), Nat.succ_eq_add_one, Nat.add_right_comm,
      Nat.add_assoc]
  · rw [if_pos mem, if_pos]
    intro either
    exact (mem_cons.mp either).elim apart mem

theorem creditEnergy_posted (distinct : sinks.Nodup)
    (alive : ∀ id ∈ sinks, (manager.nodes.lookup id).isSome) (index : Nat) (ledger : NodeLedger)
    (agrees : ∀ id ∈ sinks, ledger.manager.nodes.lookup id = manager.nodes.lookup id) :
    ledger.Posted energyField (manager.creditOf perSink remainder index sinks)
      (creditEnergy perSink remainder index sinks ledger) := by
  induction sinks generalizing index ledger with
  | nil => exact (NodeLedger.Posted.refl energyField ledger).congr fun id => rfl
  | cons sink rest ih =>
    obtain ⟨fresh, distinct⟩ := nodup_cons.mp distinct
    obtain ⟨node, stored⟩ := Option.isSome_iff_exists.mp (alive sink mem_cons_self)
    have here := agrees sink mem_cons_self
    have credit : manager.creditOf perSink remainder index (sink :: rest) sink =
        limitRate node.domains.eu.rate
          (min (perSink + if (index : Int) < remainder % 2 ^ 64 then 1 else 0)
            (node.energyCapacity - node.energyBuffer)) := by
      rw [creditOf, if_neg (not_not.mpr mem_cons_self), idxOf_cons_self, Nat.add_zero,
        euRateAt, NodeField.limitAt, NodeField.heldAt, stored]
      rfl
    rw [creditEnergy, here, stored]
    dsimp only
    rw [← credit]
    have present : (ledger.manager.nodes.lookup sink).isSome := by
      rw [here, stored]
      rfl
    have posted := NodeLedger.post_posted energyField
      (manager.creditOf perSink remainder index (sink :: rest) sink) present
    have later := ih distinct (fun id mem => alive id (mem_cons_of_mem _ mem))
      (index + 1) (ledger.post energyField sink
        (manager.creditOf perSink remainder index (sink :: rest) sink)) (by
          intro id mem
          rw [← agrees id (mem_cons_of_mem _ mem)]
          exact lookup_updateNode_of_notMem fresh _ id mem)
    apply (posted.trans later).congr
    intro id
    by_cases same : id = sink
    · rw [if_pos same, same, creditOf_of_notMem fresh, Int.add_zero]
    · rw [if_neg same, creditOf_cons_of_ne same, Int.zero_add]

end PipeNetworkManager

end GtnhPlatform.PipeNetwork
