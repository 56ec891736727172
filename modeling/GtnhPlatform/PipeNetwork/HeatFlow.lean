import GtnhPlatform.PipeNetwork.NodeLedger

namespace GtnhPlatform.PipeNetwork

open PipeNetworkManager List

def heatField : NodeField where
  get := PipeNode.heatStored
  limit := PipeNode.heatCapacity
  add amount node := { node with heatStored := node.heatStored + amount }
  get_add _ _ := rfl
  limit_add _ _ := rfl
  domains_add _ _ := rfl
  add_zero node := by rw [Int.add_zero]
  add_add first second node := by rw [Int.add_assoc]

def maxHeatPerTick : Int := 1000

structure HeatTransfer where
  source : Nat
  sink : Nat
  amount : Int

structure HeatState where
  ledger : NodeLedger
  remaining : Int
  transfers : List HeatTransfer := []

def heatRetained (node : PipeNode) : Int := (9 * node.heatCapacity).tdiv 10

def heatExcess (node : PipeNode) : Int := wrapI32 (node.heatStored - heatRetained node)

def isHeatSource (node : PipeNode) : Bool :=
  node.domains.hu.isSource && decide (9 * node.heatCapacity < 10 * node.heatStored)

def isHeatSink (node : PipeNode) : Bool :=
  node.domains.hu.isSink && decide (node.heatStored < node.heatCapacity)

namespace HeatState

def move (source sink : Nat) (amount : Int) (state : HeatState) : HeatState where
  ledger := (state.ledger.post heatField source (-amount)).post heatField sink amount
  remaining := state.remaining - amount
  transfers := state.transfers ++ [⟨source, sink, amount⟩]

def drawHeat (sink : Nat) (sinkRate : Int) : Int → List Nat → HeatState → HeatState
  | _, [], state => state
  | give, source :: rest, state =>
    if give ≤ 0 then state
    else
      match state.ledger.manager.nodes.lookup source with
      | none => drawHeat sink sinkRate give rest state
      | some node =>
        if heatExcess node ≤ 0 then drawHeat sink sinkRate give rest state
        else
          let take := limitRate sinkRate
            (limitRate node.domains.hu.rate (min give (heatExcess node)))
          drawHeat sink sinkRate (give - take) rest (state.move source sink take)

/-- The turn of the loop over the sorted sinks for one of them. -/
def serveSink (sources : List Nat) (state : HeatState) (sink : Nat) : HeatState :=
  if state.remaining ≤ 0 then state
  else
    match state.ledger.manager.nodes.lookup sink with
    | none => state
    | some node =>
      let room := wrapI32 (node.heatCapacity - node.heatStored)
      if room ≤ 0 then state
      else drawHeat sink node.domains.hu.rate (min state.remaining room) sources state

end HeatState

def heatTurns (sources : List Nat) : Machine HeatState Nat Empty :=
  ⟨fun state sink => (state.serveSink sources sink, [])⟩

namespace PipeNetworkManager

variable (manager : PipeNetworkManager)

def heatNodes (nodeIds : List Nat) (choose : PipeNode → Bool) :
    List Nat :=
  nodeIds.filter fun id => (manager.nodes.lookup id).any choose

def heatToFlow (reduce : Int → Int) (manager : PipeNetworkManager) (sources sinks : List Nat)
    (tickHeat : Int) : Int :=
  if sources = [] ∨ sinks = [] then 0
  else
    let totalExcess := wrapI32 ((manager.nodesOf sources).map heatExcess).sum
    if totalExcess ≤ 0 then 0
    else
      let flow := min (min tickHeat totalExcess) maxHeatPerTick
      if flow ≤ 0 then 0 else reduce flow

structure SortsSinks (manager : PipeNetworkManager) (sinks order : List Nat) : Prop where
  perm : order.Perm sinks
  sorted : order.Pairwise fun first second =>
    heatField.heldAt manager first ≤ heatField.heldAt manager second

/-- What `distributeHeat` leaves, and the transfers it logs. The loss on the path reduces the
flow, the sinks are served in the order given. -/
def distributeHeat (reduce : Int → Int) (order : List Nat) (manager : PipeNetworkManager)
    (networkId : Nat) (tickHeat : Int) :
    (PipeNetworkManager × Table Nat Int) × List HeatTransfer :=
  match manager.networks.lookup networkId with
  | none => ((manager, ∅), [])
  | some network =>
    let sources := manager.heatNodes network.nodeIds isHeatSource
    let sinks := manager.heatNodes network.nodeIds isHeatSink
    let flow := manager.heatToFlow reduce sources sinks tickHeat
    if tickHeat = 0 ∨ flow ≤ 0 then ((manager, ∅), [])
    else
      let state := (heatTurns sources).final ⟨⟨manager, ∅⟩, flow, []⟩ order
      let network := { network with
        totalEnergy :=
          wrapI32 ((state.ledger.manager.nodesOf network.nodeIds).map (·.heatStored)).sum
        isActive := (state.ledger.manager.nodesOf network.nodeIds).any (·.domains.hu.isSink) &&
          tickHeat != 0 }
      (({ state.ledger.manager with
          networks := AList.insert networkId network state.ledger.manager.networks },
        state.ledger.deltas), state.transfers)

def huRateAt (id : Nat) : Int :=
  ((manager.nodes.lookup id).map fun node => node.domains.hu.rate).getD 0

def retainedAt (id : Nat) : Int :=
  ((manager.nodes.lookup id).map heatRetained).getD 0

def offerOf (sink source : Nat) (received : Int) : Int :=
  max 0 (limitRate (manager.huRateAt sink) (limitRate (manager.huRateAt source)
    (wrapI32 (heatField.heldAt manager source + (if source = sink then received else 0) -
      manager.retainedAt source))))

def draws (manager : PipeNetworkManager) (sink : Nat) (give : Int) :
    Int → List Nat → List HeatTransfer
  | _, [] => []
  | passed, source :: rest =>
    let offer := manager.offerOf sink source (min give passed)
    let amount := min offer (max 0 (give - passed))
    (if amount ≤ 0 then [] else [⟨source, sink, amount⟩]) ++
      manager.draws sink give (passed + offer) rest

end PipeNetworkManager

namespace HeatState

def demandOf (state : HeatState) (sink : Nat) : Int :=
  min state.remaining (((state.ledger.manager.nodes.lookup sink).map fun node =>
    wrapI32 (node.heatCapacity - node.heatStored)).getD 0)

def turnOf (sources : List Nat) (state : HeatState) (sink : Nat) : List HeatTransfer :=
  if state.demandOf sink ≤ 0 then []
  else state.ledger.manager.draws sink (state.demandOf sink) 0 sources

theorem limitRate_min (rate first second : Int) :
    limitRate rate (min first second) = min first (limitRate rate second) := by
  rw [limitRate, limitRate]
  split <;> omega

theorem limitRate_le (rate amount : Int) : limitRate rate amount ≤ amount := by
  rw [limitRate]
  split
  · exact min_le_left _ _
  · exact le_rfl

theorem limitRate_pos : 0 < limitRate rate amount ↔ 0 < amount := by
  rw [limitRate]
  split <;> omega

theorem move_posted {state : HeatState} (amount : Int)
    (source_alive : (state.ledger.manager.nodes.lookup source).isSome)
    (sink_alive : (state.ledger.manager.nodes.lookup sink).isSome) :
    state.ledger.Posted heatField
      (fun id => (if id = source then -amount else 0) + if id = sink then amount else 0)
      (state.move source sink amount).ledger := by
  have first := NodeLedger.post_posted heatField (-amount) source_alive
  apply first.trans
  apply NodeLedger.post_posted
  rw [first.isSome]
  exact sink_alive

variable {manager : PipeNetworkManager}

theorem draws_of_le (all : give ≤ passed) (sources : List Nat) :
    manager.draws sink give passed sources = [] := by
  induction sources generalizing passed with
  | nil => rfl
  | cons source rest ih =>
    have offer : 0 ≤ manager.offerOf sink source (min give passed) := le_max_left _ _
    rw [draws, if_pos (by omega), nil_append]
    exact ih (by omega)

theorem heatExcess_add (amount : Int) (node : PipeNode) :
    heatExcess (heatField.add amount node) =
      wrapI32 (node.heatStored + amount - heatRetained node) := rfl

theorem drawHeat_transfers {sources : List Nat} (distinct : sources.Nodup) (positive : 0 ≤ passed)
    (state : HeatState) (alive : (state.ledger.manager.nodes.lookup sink).isSome)
    (agrees : ∀ source ∈ sources, ∃ node, manager.nodes.lookup source = some node ∧
      state.ledger.manager.nodes.lookup source =
        some (heatField.add (if source = sink then min give passed else 0) node)) :
    (drawHeat sink (manager.huRateAt sink) (max 0 (give - passed)) sources state).transfers =
      state.transfers ++ manager.draws sink give passed sources := by
  induction sources generalizing passed state with
  | nil => exact (append_nil _).symm
  | cons source rest ih =>
    obtain ⟨fresh, distinct⟩ := nodup_cons.mp distinct
    by_cases all : give ≤ passed
    · rw [drawHeat, if_pos (by omega), draws_of_le all, append_nil]
    obtain ⟨node, base, stored⟩ := agrees source mem_cons_self
    have held : heatField.heldAt manager source = node.heatStored := by
      rw [NodeField.heldAt, base]
      rfl
    have retained : manager.retainedAt source = heatRetained node := by
      rw [retainedAt, base]
      rfl
    have rate : manager.huRateAt source = node.domains.hu.rate := by
      rw [huRateAt, base]
      rfl
    have offered : manager.offerOf sink source (min give passed) =
        max 0 (limitRate (manager.huRateAt sink) (limitRate node.domains.hu.rate
          (heatExcess (heatField.add (if source = sink then min give passed else 0) node)))) := by
      rw [offerOf, held, retained, rate, heatExcess_add]
    rw [drawHeat, if_neg (by omega), stored]
    dsimp only
    by_cases none : heatExcess
        (heatField.add (if source = sink then min give passed else 0) node) ≤ 0
    · have offer : manager.offerOf sink source (min give passed) = 0 := by
        rw [offered, max_eq_left]
        rw [← not_lt, limitRate_pos, limitRate_pos]
        omega
      rw [if_pos none, draws, offer, if_pos (by omega), nil_append, Int.add_zero]
      exact ih distinct positive state alive fun other mem =>
        agrees other (mem_cons_of_mem _ mem)
    · have offer : manager.offerOf sink source (min give passed) =
          limitRate (manager.huRateAt sink) (limitRate node.domains.hu.rate (heatExcess
            (heatField.add (if source = sink then min give passed else 0) node))) := by
        rw [offered, max_eq_right]
        apply le_of_lt
        rw [limitRate_pos, limitRate_pos]
        omega
      have gives : 0 < manager.offerOf sink source (min give passed) := by
        rw [offer, limitRate_pos, limitRate_pos]
        omega
      have take : limitRate (manager.huRateAt sink) (limitRate
          (heatField.add (if source = sink then min give passed else 0) node).domains.hu.rate
          (min (max 0 (give - passed)) (heatExcess
            (heatField.add (if source = sink then min give passed else 0) node)))) =
          min (manager.offerOf sink source (min give passed)) (max 0 (give - passed)) := by
        rw [heatField.domains_add, limitRate_min, limitRate_min, ← offer, min_comm]
      have source_alive : (state.ledger.manager.nodes.lookup source).isSome := by
        rw [stored]
        rfl
      have posted := move_posted
        (min (manager.offerOf sink source (min give passed)) (max 0 (give - passed)))
        source_alive alive
      have left : max 0 (give - passed) -
          min (manager.offerOf sink source (min give passed)) (max 0 (give - passed)) =
            max 0 (give - (passed + manager.offerOf sink source (min give passed))) := by
        omega
      have some : 0 < min (manager.offerOf sink source (min give passed))
          (max 0 (give - passed)) := by
        omega
      rw [if_neg none, take, left, ih distinct (by omega), draws, if_neg some.not_ge]
      · exact append_assoc _ _ _
      · rw [posted.isSome]
        exact alive
      intro other mem
      obtain ⟨otherNode, otherBase, otherStored⟩ := agrees other
        (mem_cons_of_mem _ mem)
      refine ⟨otherNode, otherBase, ?_⟩
      have apart : other ≠ source := by
        rintro rfl
        exact fresh mem
      rw [posted.nodes, otherStored, Option.map_some, heatField.add_add, if_neg apart]
      congr 2
      split <;> omega

end HeatState

end GtnhPlatform.PipeNetwork
