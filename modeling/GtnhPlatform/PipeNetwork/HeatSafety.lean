import GtnhPlatform.PipeNetwork.FillConservation
import GtnhPlatform.PipeNetwork.HeatFlow

namespace GtnhPlatform.PipeNetwork

open HeatTransfer List PipeNetworkManager NodeField

namespace HeatTransfer

def throughNode (id : Nat) (transfers : List HeatTransfer) : Int :=
  (transfers.map fun transfer =>
    if transfer.source = id ∨ transfer.sink = id then transfer.amount else 0).sum

def netOf (id : Nat) (transfers : List HeatTransfer) : Int :=
  (transfers.map fun transfer =>
    (if id = transfer.source then -transfer.amount else 0) +
      if id = transfer.sink then transfer.amount else 0).sum

theorem throughNode_append (id : Nat) (first second : List HeatTransfer) :
    throughNode id (first ++ second) = throughNode id first + throughNode id second := by
  rw [throughNode, map_append, sum_append, throughNode, throughNode]

theorem throughNode_cons (id : Nat) (transfer : HeatTransfer) (rest : List HeatTransfer) :
    throughNode id (transfer :: rest) =
      (if transfer.source = id ∨ transfer.sink = id then transfer.amount else 0) +
        throughNode id rest := by
  rw [throughNode, map_cons, sum_cons, throughNode]

theorem throughNode_nonneg (positive : ∀ transfer ∈ transfers, 0 < transfer.amount) (id : Nat) :
    0 ≤ throughNode id transfers := by
  apply sum_nonneg
  intro amount mem
  obtain ⟨transfer, listed, rfl⟩ := mem_map.mp mem
  have some := positive transfer listed
  split <;> omega

theorem netOf_concat (id : Nat) (transfers : List HeatTransfer) (source sink : Nat) (amount : Int) :
    netOf id (transfers ++ [⟨source, sink, amount⟩]) = netOf id transfers +
      ((if id = source then -amount else 0) + if id = sink then amount else 0) := by
  rw [netOf, map_append, sum_append, map_singleton, sum_singleton, netOf]

end HeatTransfer

namespace PipeNetworkManager

def offeredHeat (manager : PipeNetworkManager) (sink : Nat) (give : Int) : Int → List Nat → Int
  | passed, [] => passed
  | passed, source :: rest =>
    manager.offeredHeat sink give (passed + manager.offerOf sink source (min give passed)) rest

def givenBy (manager : PipeNetworkManager) (sink : Nat) (give : Int) (id : Nat) :
    Int → List Nat → Int
  | _, [] => 0
  | passed, source :: rest =>
    let offer := manager.offerOf sink source (min give passed)
    (if source = id then min offer (max 0 (give - passed)) else 0) +
      manager.givenBy sink give id (passed + offer) rest

theorem offerOf_nonneg (manager : PipeNetworkManager) (sink source : Nat) (received : Int) :
    0 ≤ manager.offerOf sink source received := le_max_left _ _

variable {manager : PipeNetworkManager}

theorem throughNode_draws_sink {sink : Nat} (positive : 0 ≤ passed) (sources : List Nat) :
    throughNode sink (manager.draws sink give passed sources) =
      min give (manager.offeredHeat sink give passed sources) - min give passed := by
  induction sources generalizing passed with
  | nil => exact (Int.sub_self _).symm
  | cons source rest ih =>
    have offer := manager.offerOf_nonneg sink source (min give passed)
    rw [draws, throughNode_append, ih (by omega), offeredHeat]
    split
    · change 0 + _ = _
      omega
    · rw [throughNode_cons, if_pos (Or.inr rfl)]
      change min (manager.offerOf sink source (min give passed)) (max 0 (give - passed)) + 0 + _ = _
      omega

variable {sink id : Nat}

theorem throughNode_draws_source (other : id ≠ sink) (give passed : Int) (sources : List Nat) :
    throughNode id (manager.draws sink give passed sources) =
      manager.givenBy sink give id passed sources := by
  induction sources generalizing passed with
  | nil => rfl
  | cons source rest ih =>
    have offer := manager.offerOf_nonneg sink source (min give passed)
    rw [draws, throughNode_append, ih, givenBy]
    congr 1
    split
    · change 0 = _
      split <;> omega
    rw [throughNode_cons]
    change (if source = id ∨ sink = id then _ else _) + 0 = _
    rw [Int.add_zero]
    apply if_congr _ rfl rfl
    exact or_iff_left other.symm

theorem givenBy_of_notMem (absent : id ∉ sources) (give passed : Int) :
    manager.givenBy sink give id passed sources = 0 := by
  induction sources generalizing passed with
  | nil => rfl
  | cons source rest ih =>
    have apart := ne_of_not_mem_cons absent
    rw [givenBy, if_neg apart.symm, ih (not_mem_of_not_mem_cons absent)]
    rfl

end PipeNetworkManager

namespace HeatState

structure RateKept (sources : List Nat) (state : HeatState) (sink : Nat) : Prop where
  received : 0 < state.demandOf sink → 0 < state.ledger.manager.huRateAt sink →
    HeatTransfer.throughNode sink state.transfers + min (state.demandOf sink)
        (state.ledger.manager.offeredHeat sink (state.demandOf sink) 0 sources) ≤
      state.ledger.manager.huRateAt sink
  given : 0 < state.demandOf sink → ∀ source ∈ sources, source ≠ sink →
    0 < state.ledger.manager.huRateAt source → HeatTransfer.throughNode source state.transfers +
          state.ledger.manager.givenBy sink (state.demandOf sink) source 0 sources ≤
        state.ledger.manager.huRateAt source

theorem serveSink_transfers {sources : List Nat} (distinct : sources.Nodup) {state : HeatState}
    (alive : ∀ source ∈ sources, (state.ledger.manager.nodes.lookup source).isSome) (sink : Nat) :
    (state.serveSink sources sink).transfers = state.transfers ++ state.turnOf sources sink := by
  rw [serveSink, turnOf, demandOf]
  by_cases stop : state.remaining ≤ 0
  · rw [if_pos stop, if_pos (le_trans (min_le_left _ _) stop), append_nil]
  rw [if_neg stop]
  cases stored : state.ledger.manager.nodes.lookup sink with
  | none =>
    rw [Option.map_none, Option.getD_none, if_pos (min_le_right _ _)]
    exact (append_nil _).symm
  | some node =>
    rw [Option.map_some, Option.getD_some]
    dsimp only
    by_cases full : wrapI32 (node.heatCapacity - node.heatStored) ≤ 0
    · rw [if_pos full, if_pos (le_trans (min_le_right _ _) full), append_nil]
    have rate : state.ledger.manager.huRateAt sink = node.domains.hu.rate := by
      rw [huRateAt, stored]
      rfl
    rw [if_neg full, if_neg (by omega), ← rate]
    have agrees : ∀ source ∈ sources, ∃ other,
        state.ledger.manager.nodes.lookup source = some other ∧
        state.ledger.manager.nodes.lookup source = some (heatField.add (if source = sink then
          min (min state.remaining (wrapI32 (node.heatCapacity - node.heatStored))) 0
          else 0) other) := by
      intro source mem
      obtain ⟨other, found⟩ := Option.isSome_iff_exists.mp (alive source mem)
      refine ⟨other, found, ?_⟩
      have none : (if source = sink then
          min (min state.remaining (wrapI32 (node.heatCapacity - node.heatStored))) 0
          else 0) = 0 := by
        split <;> omega
      rw [none, heatField.add_zero]
      exact found
    have drawn := drawHeat_transfers distinct le_rfl state (by rw [stored]; rfl) agrees
    rw [Int.sub_zero, max_eq_right (by omega)] at drawn
    exact drawn

variable (sources : List Nat)

theorem throughNode_turnOf_sink (state : HeatState) (sink : Nat) :
    throughNode sink (state.turnOf sources sink) =
      if 0 < state.demandOf sink then min (state.demandOf sink)
        (state.ledger.manager.offeredHeat sink (state.demandOf sink) 0 sources) else 0 := by
  rw [turnOf]
  by_cases none : state.demandOf sink ≤ 0
  · rw [if_pos none, if_neg none.not_gt]
    rfl
  · rw [if_neg none, if_pos (not_le.mp none), throughNode_draws_sink le_rfl]
    omega

theorem throughNode_turnOf_source (state : HeatState) {sink id : Nat} (other : id ≠ sink) :
    throughNode id (state.turnOf sources sink) = if 0 < state.demandOf sink then
        state.ledger.manager.givenBy sink (state.demandOf sink) id 0 sources else 0 := by
  rw [turnOf]
  by_cases none : state.demandOf sink ≤ 0
  · rw [if_pos none, if_neg none.not_gt]
    rfl
  · rw [if_neg none, if_pos (not_le.mp none), throughNode_draws_source other]

structure HeatRun (start : PipeNetworkManager) (nodeIds : List Nat) (flow : Int)
    (state : HeatState) : Prop where
  posted : NodeLedger.Posted heatField ⟨start, ∅⟩
    (fun id => HeatTransfer.netOf id state.transfers) state.ledger
  balanced : (nodeIds.map fun id => HeatTransfer.netOf id state.transfers).sum = 0
  upper : ∀ id, HeatTransfer.netOf id state.transfers ≤ 0 ∨
    heatField.heldAt start id + HeatTransfer.netOf id state.transfers ≤ heatField.limitAt start id
  lower : ∀ id, 0 ≤ HeatTransfer.netOf id state.transfers ∨
    start.retainedAt id ≤ heatField.heldAt start id + HeatTransfer.netOf id state.transfers
  moved : (state.transfers.map HeatTransfer.amount).sum + state.remaining = flow
  positive : ∀ transfer ∈ state.transfers, 0 < transfer.amount
  remaining : 0 ≤ state.remaining

variable {start : PipeNetworkManager} {nodeIds : List Nat} {flow : Int} {state : HeatState}

theorem heatRun_start (start : PipeNetworkManager) (nodeIds : List Nat) (some : 0 ≤ flow) :
    HeatRun start nodeIds flow ⟨⟨start, ∅⟩, flow, []⟩ where
  posted := NodeLedger.Posted.refl heatField _
  balanced := sum_eq_zero (by
    intro amount mem
    obtain ⟨id, -, rfl⟩ := mem_map.mp mem
    rfl)
  upper _ := Or.inl le_rfl
  lower _ := Or.inl le_rfl
  moved := Int.zero_add flow
  positive := nofun
  remaining := some

theorem sum_single {ids : List Nat} (distinct : ids.Nodup) {id : Nat} (mem : id ∈ ids)
    (amount : Int) : (ids.map fun other => if other = id then amount else 0).sum = amount := by
  rw [sum_map_ite_eq, count_eq_one_of_mem distinct mem, one_nsmul, Int.sub_zero,
    sum_eq_zero, Int.add_zero]
  intro value listed
  obtain ⟨other, -, rfl⟩ := mem_map.mp listed
  rfl

theorem HeatRun.move (run : HeatRun start nodeIds flow state) (distinct : nodeIds.Nodup)
    {source sink : Nat} (source_mem : source ∈ nodeIds) (sink_mem : sink ∈ nodeIds)
    (source_alive : (start.nodes.lookup source).isSome)
    (sink_alive : (start.nodes.lookup sink).isSome) {take : Int} (some : 0 < take)
    (within : take ≤ state.remaining)
    (excess : start.retainedAt source ≤ heatField.heldAt start source +
      netOf source state.transfers - take)
    (room : heatField.heldAt start sink + netOf sink state.transfers + take ≤
      heatField.limitAt start sink) : HeatRun start nodeIds flow (state.move source sink take) where
  posted := by
    rw [← run.posted.isSome] at source_alive sink_alive
    have moved := move_posted take source_alive sink_alive
    apply (run.posted.trans moved).congr
    exact fun id => (netOf_concat id state.transfers source sink take).symm
  balanced := by
    have each : (fun id => netOf id (state.move source sink take).transfers) =
        fun id => netOf id state.transfers +
          ((if id = source then -take else 0) + if id = sink then take else 0) := by
      funext id
      exact netOf_concat id state.transfers source sink take
    rw [each, sum_map_add, sum_map_add, run.balanced, sum_single distinct source_mem,
      sum_single distinct sink_mem]
    omega
  upper id := by
    have before := run.upper id
    change netOf id (state.transfers ++ _) ≤ 0 ∨ _ + netOf id
      (state.transfers ++ _) ≤ _
    rw [netOf_concat]
    by_cases gives : id = source
    · by_cases gets : id = sink
      · rw [if_pos gives, if_pos gets]
        omega
      · rw [if_pos gives, if_neg gets]
        omega
    · by_cases gets : id = sink
      · obtain rfl := gets
        rw [if_neg gives, if_pos rfl]
        omega
      · rw [if_neg gives, if_neg gets]
        omega
  lower id := by
    have before := run.lower id
    change 0 ≤ netOf id (state.transfers ++ _) ∨ _ ≤ _ + netOf id
      (state.transfers ++ _)
    rw [netOf_concat]
    by_cases gives : id = source
    · obtain rfl := gives
      by_cases gets : id = sink
      · rw [if_pos rfl, if_pos gets]
        omega
      · rw [if_pos rfl, if_neg gets]
        omega
    · by_cases gets : id = sink
      · rw [if_neg gives, if_pos gets]
        omega
      · rw [if_neg gives, if_neg gets]
        omega
  moved := by
    have before := run.moved
    change ((state.transfers ++ [_]).map amount).sum + (state.remaining - take) = flow
    rw [map_append, sum_append, map_singleton, sum_singleton]
    change _ + take + (state.remaining - take) = flow
    omega
  positive := by
    intro transfer mem
    rcases mem_append.mp mem with earlier | now
    · exact run.positive transfer earlier
    · obtain rfl := mem_singleton.mp now
      exact some
  remaining := by
    change 0 ≤ state.remaining - take
    omega

structure Sharing (start : PipeNetworkManager) (nodeIds : List Nat) (source : Nat) : Prop where
  listed : source ∈ nodeIds
  alive : (start.nodes.lookup source).isSome
  retained : start.retainedAt source ≤ heatField.heldAt start source

theorem HeatRun.excess_le (run : HeatRun start nodeIds flow state) {source : Nat}
    (sharing : Sharing start nodeIds source) {node : PipeNode}
    (stored : state.ledger.manager.nodes.lookup source = some node) :
    heatExcess node ≤ heatField.heldAt start source +
      netOf source state.transfers - start.retainedAt source := by
  obtain ⟨base, found⟩ := Option.isSome_iff_exists.mp sharing.alive
  have lookup := run.posted.nodes source
  change _ = (start.nodes.lookup source).map _ at lookup
  rw [stored, found, Option.map_some] at lookup
  cases lookup
  have held : heatField.heldAt start source = base.heatStored := by
    rw [heldAt, found]
    rfl
  have retained : start.retainedAt source = heatRetained base := by
    rw [retainedAt, found]
    rfl
  have least := sharing.retained
  have lower := run.lower source
  rw [heatExcess_add, held, retained]
  rw [held, retained] at least lower
  apply wrapI32_le
  omega

theorem HeatRun.drawHeat {sources : List Nat} {sink : Nat} (sinkRate : Int)
    (distinct : nodeIds.Nodup) (sharing : ∀ source ∈ sources, Sharing start nodeIds source)
    (sink_mem : sink ∈ nodeIds) (sink_alive : (start.nodes.lookup sink).isSome) {give : Int}
    (run : HeatRun start nodeIds flow state) (within : give ≤ state.remaining)
    (room : heatField.heldAt start sink + netOf sink state.transfers + give ≤
      heatField.limitAt start sink) :
    HeatRun start nodeIds flow (drawHeat sink sinkRate give sources state) := by
  induction sources generalizing give state with
  | nil => exact run
  | cons source rest ih =>
    have later := fun other mem => sharing other (mem_cons_of_mem source mem)
    rw [HeatState.drawHeat]
    split
    · exact run
    rename_i left
    cases stored : state.ledger.manager.nodes.lookup source with
    | none => exact ih later run within room
    | some node =>
      dsimp only
      split
      · exact ih later run within room
      rename_i more
      have first := sharing source mem_cons_self
      have excess := run.excess_le first stored
      have rated := limitRate_le sinkRate
        (limitRate node.domains.hu.rate (min give (heatExcess node)))
      have asked := limitRate_le node.domains.hu.rate (min give (heatExcess node))
      have some : 0 < limitRate sinkRate
          (limitRate node.domains.hu.rate (min give (heatExcess node))) := by
        rw [limitRate_pos, limitRate_pos]
        omega
      apply ih later
      · apply run.move distinct first.listed sink_mem first.alive sink_alive some
        · omega
        · omega
        · omega
      · change _ ≤ state.remaining - _
        omega
      · change _ + netOf sink (state.transfers ++ _) + _ ≤ _
        rw [netOf_concat, if_pos rfl]
        split <;> omega

theorem HeatRun.serveSink {sources : List Nat} {sink : Nat} (distinct : nodeIds.Nodup)
    (sharing : ∀ source ∈ sources, Sharing start nodeIds source) (sink_mem : sink ∈ nodeIds)
    (below : heatField.heldAt start sink < heatField.limitAt start sink)
    (run : HeatRun start nodeIds flow state) :
    HeatRun start nodeIds flow (state.serveSink sources sink) := by
  rw [HeatState.serveSink]
  split
  · exact run
  cases stored : state.ledger.manager.nodes.lookup sink with
  | none => exact run
  | some node =>
    dsimp only
    split
    · exact run
    have alive : (start.nodes.lookup sink).isSome := by
      have same := run.posted.isSome sink
      rw [stored] at same
      exact same.symm
    have held := run.posted.heldAt sink
    have limit := run.posted.limitAt sink
    have upper := run.upper sink
    rw [heldAt, stored] at held
    rw [limitAt, stored] at limit
    change node.heatStored = heatField.heldAt start sink + _ at held
    change node.heatCapacity = heatField.limitAt start sink at limit
    have below : 0 ≤ node.heatCapacity - node.heatStored := by omega
    have room := wrapI32_le below
    apply run.drawHeat _ distinct sharing sink_mem alive
    · exact min_le_left _ _
    · omega

theorem drawHeat_extends (sink : Nat) (sinkRate give : Int) (sources : List Nat)
    (state : HeatState) :
    state.transfers <+: (HeatState.drawHeat sink sinkRate give sources state).transfers := by
  induction sources generalizing give state with
  | nil => exact prefix_refl _
  | cons source rest ih =>
    rw [HeatState.drawHeat]
    split
    · exact prefix_refl _
    split
    · exact ih give state
    split
    · exact ih give state
    · have moved := prefix_append state.transfers
      exact (moved _).trans (ih _ (state.move source sink _))

theorem serveSink_extends (state : HeatState) (sink : Nat) :
    state.transfers <+: (state.serveSink sources sink).transfers := by
  rw [HeatState.serveSink]
  split
  · exact prefix_refl _
  split
  · exact prefix_refl _
  dsimp only
  split
  · exact prefix_refl _
  · exact drawHeat_extends _ _ _ _ _

theorem final_extends (state : HeatState) (sinks : List Nat) :
    state.transfers <+: ((heatTurns sources).final state sinks).transfers :=
  (heatTurns sources).invariant (fun _ _ => True)
    (fun _ current _ => state.transfers <+: current.transfers) (prefix_refl _)
    (fun _ current _ sink before _ => before.trans (serveSink_extends sources current sink))
    sinks ((heatTurns sources).along_true state sinks)

def RatesKept (start : PipeNetworkManager) (state : HeatState) : Prop :=
  ∀ id, 0 < start.huRateAt id → HeatTransfer.throughNode id state.transfers ≤ start.huRateAt id

theorem HeatRun.huRateAt (run : HeatRun start nodeIds flow state) (id : Nat) :
    state.ledger.manager.huRateAt id = start.huRateAt id := by
  rw [PipeNetworkManager.huRateAt, run.posted.nodes, Option.map_map, PipeNetworkManager.huRateAt]
  rfl

theorem HeatRun.ratesKept_iff {sources : List Nat} (distinct : sources.Nodup)
    (sharing : ∀ source ∈ sources, Sharing start nodeIds source)
    (run : HeatRun start nodeIds flow state) (kept : RatesKept start state) (sink : Nat) :
    RatesKept start (state.serveSink sources sink) ↔ RateKept sources state sink := by
  have transfers := serveSink_transfers distinct
    (fun source mem => by rw [run.posted.isSome]; exact (sharing source mem).alive) sink
  rw [RatesKept, transfers]
  constructor
  · intro rates
    constructor
    · intro some rated
      rw [run.huRateAt] at rated ⊢
      have rate := rates sink rated
      rw [throughNode_append, throughNode_turnOf_sink, if_pos some] at rate
      exact rate
    · intro some source _ other rated
      rw [run.huRateAt] at rated ⊢
      have rate := rates source rated
      rw [throughNode_append, throughNode_turnOf_source sources state other, if_pos some] at rate
      exact rate
  · intro rates id rated
    have before := kept id rated
    rw [throughNode_append]
    by_cases some : 0 < state.demandOf sink
    · by_cases here : id = sink
      · obtain rfl := here
        rw [← run.huRateAt] at rated ⊢
        rw [throughNode_turnOf_sink, if_pos some]
        exact rates.received some rated
      · rw [throughNode_turnOf_source sources state here, if_pos some]
        by_cases mem : id ∈ sources
        · rw [← run.huRateAt] at rated ⊢
          exact rates.given some id mem here rated
        · rw [givenBy_of_notMem mem]
          omega
    · by_cases here : id = sink
      · obtain rfl := here
        rw [throughNode_turnOf_sink, if_neg some]
        omega
      · rw [throughNode_turnOf_source sources state here, if_neg some]
        omega

theorem HeatRun.final {sources sinks : List Nat} (distinct : nodeIds.Nodup)
    (apart : sources.Nodup) (sharing : ∀ source ∈ sources, Sharing start nodeIds source)
    (filling : ∀ sink ∈ sinks, sink ∈ nodeIds ∧
      heatField.heldAt start sink < heatField.limitAt start sink)
    (run : HeatRun start nodeIds flow state) (kept : RatesKept start state) :
    HeatRun start nodeIds flow ((heatTurns sources).final state sinks) ∧
      (RatesKept start ((heatTurns sources).final state sinks) ↔
        (heatTurns sources).Along (RateKept sources) state sinks) := by
  have along : (heatTurns sources).Along (fun _ sink => sink ∈ nodeIds ∧
      heatField.heldAt start sink < heatField.limitAt start sink) state sinks := by
    rw [Machine.along_iff]
    rintro before sink after rfl
    exact filling sink (mem_append_right _ mem_cons_self)
  have stays : ∀ current sink, HeatRun start nodeIds flow current → (sink ∈ nodeIds ∧
      heatField.heldAt start sink < heatField.limitAt start sink) →
        HeatRun start nodeIds flow (current.serveSink sources sink) :=
    fun current sink run below => run.serveSink distinct sharing below.1 below.2
  have after : HeatRun start nodeIds flow ((heatTurns sources).final state sinks) :=
    (heatTurns sources).invariant _ (fun _ current _ => HeatRun start nodeIds flow current) run
      (fun _ current _ sink => stays current sink) sinks along
  refine ⟨after, ?_⟩
  rw [← (heatTurns sources).always_iff_within (HeatRun start nodeIds flow) stays
    (fun _ sink run _ kept => run.ratesKept_iff apart sharing kept sink) run kept along]
  constructor
  · intro rates before rest split id rated
    obtain ⟨more, whole⟩ := final_extends sources ((heatTurns sources).final state before) rest
    rw [← Machine.final_append, ← split] at whole
    have bound := rates id rated
    rw [← whole, throughNode_append] at bound
    have later : 0 ≤ throughNode id more := by
      apply throughNode_nonneg
      intro transfer mem
      apply after.positive
      rw [← whole]
      exact mem_append_right _ mem
    omega
  · intro always
    exact always sinks [] (append_nil _).symm

end HeatState

namespace PipeNetworkManager

structure HeatSafe (manager : PipeNetworkManager) (nodeIds : List Nat) (tickHeat : Int)
    (result : (PipeNetworkManager × Table Nat Int) × List HeatTransfer) : Prop where
  changes : ∀ id, heatField.heldAt result.1.1 id =
    heatField.heldAt manager id + HeatTransfer.netOf id result.2
  deltas : ∀ id, deltaOf result.1.2 id = HeatTransfer.netOf id result.2
  total : (nodeIds.map (heatField.heldAt result.1.1)).sum =
    (nodeIds.map (heatField.heldAt manager)).sum
  sinks : ∀ sink ∈ manager.heatNodes nodeIds isHeatSink,
    heatField.heldAt result.1.1 sink ≤ heatField.limitAt manager sink
  sources : ∀ source ∈ manager.heatNodes nodeIds isHeatSource,
    manager.retainedAt source ≤ heatField.heldAt result.1.1 source
  moved : (result.2.map HeatTransfer.amount).sum ≤ min tickHeat maxHeatPerTick
  rated : ∀ id, 0 < manager.huRateAt id → HeatTransfer.throughNode id result.2 ≤ manager.huRateAt id

def heatStart (manager : PipeNetworkManager) (reduce : Int → Int) (network : Network)
    (tickHeat : Int) : HeatState :=
  ⟨⟨manager, ∅⟩, manager.heatToFlow reduce (manager.heatNodes network.nodeIds isHeatSource)
    (manager.heatNodes network.nodeIds isHeatSink) tickHeat, []⟩

variable {manager : PipeNetworkManager} {nodeIds : List Nat}

theorem mem_heatNodes {choose : PipeNode → Bool} {id : Nat} :
    id ∈ manager.heatNodes nodeIds choose ↔
      id ∈ nodeIds ∧ ∃ node, manager.nodes.lookup id = some node ∧ choose node = true := by
  rw [heatNodes, mem_filter, Option.any_eq_true]

theorem sharing_of_source {source : Nat} (mem : source ∈ manager.heatNodes nodeIds isHeatSource) :
    HeatState.Sharing manager nodeIds source := by
  obtain ⟨listed, node, found, isSource⟩ := mem_heatNodes.mp mem
  refine ⟨listed, ?_, ?_⟩
  · rw [found]
    rfl
  have more := of_decide_eq_true (Bool.and_eq_true_iff.mp isSource).2
  rw [retainedAt, heldAt, found]
  change (9 * node.heatCapacity).tdiv 10 ≤ node.heatStored
  have division := Int.mul_tdiv_add_tmod (9 * node.heatCapacity) 10
  have rest := Int.lt_tmod_of_pos (9 * node.heatCapacity) (show (0 : Int) < 10 by decide)
  omega

theorem below_of_sink {sink : Nat} (mem : sink ∈ manager.heatNodes nodeIds isHeatSink) :
    sink ∈ nodeIds ∧ heatField.heldAt manager sink < heatField.limitAt manager sink := by
  obtain ⟨listed, node, found, isSink⟩ := mem_heatNodes.mp mem
  refine ⟨listed, ?_⟩
  rw [heldAt, limitAt, found]
  exact of_decide_eq_true (Bool.and_eq_true_iff.mp isSink).2

theorem heatToFlow_le {reduce : Int → Int} (reduces : ∀ heat, reduce heat ≤ heat)
    (sources sinks : List Nat) (positive : 0 < tickHeat) :
    manager.heatToFlow reduce sources sinks tickHeat ≤ min tickHeat maxHeatPerTick := by
  have tick : 0 ≤ min tickHeat maxHeatPerTick := le_min positive.le (by decide)
  rw [heatToFlow]
  split
  · exact tick
  dsimp only
  split
  · exact tick
  split
  · exact tick
  · apply le_trans (reduces _)
    omega

variable {state : HeatState}

theorem along_of_no_flow (none : state.remaining ≤ 0) :
    (heatTurns sources).Along (HeatState.RateKept sources) state sinks := by
  induction sinks with
  | nil => trivial
  | cons sink rest ih =>
    have idle : state.demandOf sink ≤ 0 := le_trans (min_le_left _ _) none
    refine ⟨⟨fun some => absurd idle some.not_ge, fun some => absurd idle some.not_ge⟩, ?_⟩
    have same : ((heatTurns sources).step state sink).1 = state := if_pos none
    rw [same]
    exact ih

theorem heatSafe_of_run {flow tickHeat : Int} (run : HeatState.HeatRun manager nodeIds flow state)
    (within : flow ≤ min tickHeat maxHeatPerTick)
    {result : (PipeNetworkManager × Table Nat Int) × List HeatTransfer}
    (nodes : result.1.1.nodes = state.ledger.manager.nodes)
    (deltas : result.1.2 = state.ledger.deltas) (transfers : result.2 = state.transfers) :
    manager.HeatSafe nodeIds tickHeat result ↔ HeatState.RatesKept manager state := by
  have held : ∀ id, heatField.heldAt result.1.1 id =
      heatField.heldAt manager id + netOf id result.2 := by
    intro id
    rw [heldAt, nodes, transfers]
    exact run.posted.heldAt id
  constructor
  · intro safe id rate
    rw [← transfers]
    exact safe.rated id rate
  intro rates
  refine ⟨held, ?_, ?_, ?_, ?_, ?_, ?_⟩
  · intro id
    have delta := run.posted.deltas id
    rw [deltas, delta, transfers, deltaOf, AList.lookup_empty]
    exact Int.zero_add _
  · rw [funext held, sum_map_add, transfers, run.balanced, Int.add_zero]
  · intro sink mem
    have upper := run.upper sink
    have below := (below_of_sink mem).2
    rw [held, transfers]
    omega
  · intro source mem
    have lower := run.lower source
    have least := (sharing_of_source mem).retained
    rw [held, transfers]
    omega
  · have moved := run.moved
    have left := run.remaining
    rw [transfers]
    omega
  · intro id rate
    rw [transfers]
    exact rates id rate

theorem distributeHeat_safe_iff {networkId : Nat} {network : Network} {reduce : Int → Int}
    {order : List Nat} {tickHeat : Int} (networks : manager.NetworksDistinct)
    (found : manager.networks.lookup networkId = some network)
    (sorts : manager.SortsSinks (manager.heatNodes network.nodeIds isHeatSink) order)
    (reduces : ∀ heat, reduce heat ≤ heat) (positive : 0 < tickHeat) :
    manager.HeatSafe network.nodeIds tickHeat
        (manager.distributeHeat reduce order networkId tickHeat) ↔
      (heatTurns (manager.heatNodes network.nodeIds isHeatSource)).Along
        (HeatState.RateKept (manager.heatNodes network.nodeIds isHeatSource))
        (manager.heatStart reduce network tickHeat) order := by
  have distinct := networks networkId network found
  have within := manager.heatToFlow_le reduces (manager.heatNodes network.nodeIds isHeatSource)
    (manager.heatNodes network.nodeIds isHeatSink) positive
  have fresh : HeatState.RatesKept manager (manager.heatStart reduce network tickHeat) :=
    fun id rate => rate.le
  rw [distributeHeat, found]
  dsimp only
  by_cases idle : manager.heatToFlow reduce (manager.heatNodes network.nodeIds isHeatSource)
      (manager.heatNodes network.nodeIds isHeatSink) tickHeat ≤ 0
  · rw [if_pos (Or.inr idle)]
    apply iff_of_true
    · have run := HeatState.heatRun_start manager network.nodeIds le_rfl
      exact (heatSafe_of_run run (le_min positive.le (by decide)) rfl rfl rfl).mpr
        fun id rate => rate.le
    · exact along_of_no_flow idle
  · rw [if_neg fun both => idle (both.resolve_left positive.ne')]
    have run := HeatState.heatRun_start manager network.nodeIds (not_le.mp idle).le
    obtain ⟨after, rates⟩ := run.final distinct (distinct.filter _)
      (fun source mem => sharing_of_source mem)
      (fun sink mem => below_of_sink (sorts.perm.mem_iff.mp mem)) fresh
    rw [heatSafe_of_run after within rfl rfl rfl]
    exact rates

def radiator (heat : Int) : PipeNetworkManager :=
  let nodes := (((({} : PipeNetworkManager).addNodeWithId 1 ⟨0, 64, 0⟩ 0).1.addNodeWithId
    2 ⟨1, 64, 0⟩ 0).1.addNodeWithId 3 ⟨2, 64, 0⟩ 0).1
  let port : Common.ResourcePort := ⟨1, 3, .hu, .sink, 2, 64, 0, .allFaces, 0, 100, 5, 0⟩
  let linked := ((nodes.addEdges [(1, 2), (2, 3)]).1.registerPort port).1
  ((linked.setNodeHeat 1 100 100 true false).setNodeHeat 2 heat 100 true false).setNodeHeat 3
    0 100 false true

theorem radiator_sorts (heat : Int) (only : (radiator heat).heatNodes [3, 2, 1] isHeatSink = [3]) :
    (radiator heat).SortsSinks ((radiator heat).heatNodes [3, 2, 1] isHeatSink) [3] :=
  ⟨only ▸ List.Perm.refl _, pairwise_singleton _ _⟩

theorem radiator_safe : ∃ network, (radiator 0).networks.lookup 7 = some network ∧
      (radiator 0).HeatSafe network.nodeIds 10 ((radiator 0).distributeHeat id [3] 7 10) := by
  have present : ((radiator 0).networks.lookup 7).map Network.nodeIds = some [3, 2, 1] := by
    decide +kernel
  obtain ⟨network, found, ids⟩ := Option.map_eq_some_iff.mp present
  refine ⟨network, found, (distributeHeat_safe_iff
    (networksDistinct_of_entries (by decide +kernel)) found ?_ (fun _ => le_rfl)
    (by decide)).mpr ?_⟩
  · rw [ids]
    exact radiator_sorts 0 (by decide +kernel)
  rw [heatStart, ids]
  refine ⟨⟨fun _ _ => ?_, fun _ source mem _ => ?_⟩, trivial⟩
  · decide +kernel
  have only : source = 1 := by
    have sources : (radiator 0).heatNodes [3, 2, 1] isHeatSource = [1] := by decide +kernel
    rw [sources] at mem
    exact mem_singleton.mp mem
  obtain rfl := only
  intro rate
  exact absurd rate (by decide +kernel)

theorem radiator_overloaded : ∃ network, (radiator 100).networks.lookup 7 = some network ∧
      (radiator 100).NetworksDistinct ∧
      (radiator 100).SortsSinks ((radiator 100).heatNodes network.nodeIds isHeatSink) [3] ∧
      ¬(radiator 100).HeatSafe network.nodeIds 10 ((radiator 100).distributeHeat id [3] 7 10) := by
  have present : ((radiator 100).networks.lookup 7).map Network.nodeIds = some [3, 2, 1] := by
    decide +kernel
  obtain ⟨network, found, ids⟩ := Option.map_eq_some_iff.mp present
  refine ⟨network, found, networksDistinct_of_entries (by decide +kernel), ?_, ?_⟩
  · rw [ids]
    exact radiator_sorts 100 (by decide +kernel)
  · intro safe
    exact absurd (safe.rated 3 (by decide +kernel)) (by decide +kernel)

end PipeNetworkManager

end GtnhPlatform.PipeNetwork
