import GtnhPlatform.PipeNetwork.EnergyFlow
import GtnhPlatform.PipeNetwork.FillConservation

namespace GtnhPlatform.PipeNetwork

open DomainNodeState List

namespace PipeNetworkManager

def EnergyFits (manager : PipeNetworkManager) : Prop :=
  ∀ id node, manager.nodes.lookup id = some node →
    0 ≤ node.energyBuffer ∧ node.energyBuffer ≤ node.energyCapacity

/-- What sharing out energy is to do, between the state before, the state after the loop
over the sources and the result. -/
structure CreatesNoEnergy (before drawn : PipeNetworkManager) (nodeIds : List Nat)
    (result : PipeNetworkManager × Table Nat Int) : Prop where
  paid : (nodeIds.map fun id =>
      energyField.heldAt result.1 id - energyField.heldAt drawn id).sum ≤
    (nodeIds.map fun id => energyField.heldAt before id - energyField.heldAt drawn id).sum
  fits : result.1.EnergyFits
  rated : ∀ id, 0 < before.euRateAt id →
    energyField.heldAt before id - energyField.heldAt drawn id +
      (energyField.heldAt result.1 id - energyField.heldAt drawn id) ≤ before.euRateAt id
  deltas : ∀ id, deltaOf result.2 id = energyField.heldAt result.1 id - energyField.heldAt before id

def SharesEnergy (manager : PipeNetworkManager) (networkId : Nat) (network : Network)
    (tickEnergy : Int) : Prop :=
  ∃ drawn result, manager.drawFromSources network.nodeIds tickEnergy = some drawn ∧
    manager.distributeEnergy networkId tickEnergy = some result ∧
      manager.CreatesNoEnergy drawn.manager network.nodeIds result

structure SinksArePaid (manager : PipeNetworkManager) (nodeIds : List Nat) (tickEnergy : Int) :
    Prop where
  small : manager.totalCapacity (manager.euNodes nodeIds DomainNodeState.isSource) < 2 ^ 31
  paid : ((manager.euNodes nodeIds DomainNodeState.isSink).map
      (manager.creditedTo tickEnergy nodeIds)).sum ≤
    ((manager.euNodes nodeIds DomainNodeState.isSource).map
      (manager.drawnFrom tickEnergy nodeIds)).sum
  rated : ∀ id ∈ manager.euNodes nodeIds DomainNodeState.isSource,
    id ∈ manager.euNodes nodeIds DomainNodeState.isSink → 0 < manager.euRateAt id →
      manager.drawnFrom tickEnergy nodeIds id + manager.creditedTo tickEnergy nodeIds id ≤
        manager.euRateAt id

variable {manager : PipeNetworkManager} {nodeIds : List Nat} {tickEnergy : Int}
    {choose : DomainNodeState → Bool} {id : Nat}

theorem mem_euNodes :
    id ∈ manager.euNodes nodeIds choose ↔
      id ∈ nodeIds ∧ (manager.nodes.lookup id).any (fun node => choose node.domains.eu) = true :=
  mem_filter

theorem alive_of_mem_euNodes (mem : id ∈ manager.euNodes nodeIds choose) :
    (manager.nodes.lookup id).isSome := by
  obtain ⟨_, stored, -⟩ := (Option.any_eq_true _ _).mp (mem_euNodes.mp mem).2
  exact Option.isSome_iff_exists.mpr ⟨_, stored⟩

theorem limitRate_bounds (rate : Int) (positive : 0 ≤ amount) :
    0 ≤ limitRate rate amount ∧ limitRate rate amount ≤ amount ∧
      (0 < rate → limitRate rate amount ≤ rate) := by
  rw [limitRate]
  split <;> omega

theorem EnergyFits.held (fits : manager.EnergyFits) (id : Nat) : 0 ≤ energyField.heldAt manager id ∧
      energyField.heldAt manager id ≤ energyField.limitAt manager id := by
  rw [NodeField.heldAt, NodeField.limitAt]
  cases stored : manager.nodes.lookup id with
  | none => exact ⟨le_rfl, le_rfl⟩
  | some node => exact fits id node stored

theorem drawable_bounds (fits : manager.EnergyFits) {share : Int} (positive : 0 ≤ share)
    (id : Nat) : 0 ≤ manager.drawable id share ∧ manager.drawable id share ≤ share ∧
      manager.drawable id share ≤ energyField.heldAt manager id ∧
        (0 < manager.euRateAt id → manager.drawable id share ≤ manager.euRateAt id) := by
  have held := (fits.held id).1
  have bounds := limitRate_bounds (manager.euRateAt id) (le_min positive held)
  rw [drawable]
  omega

theorem capacity_pos (manager : PipeNetworkManager) (id : Nat) :
    1 ≤ max 1 (energyField.limitAt manager id) := le_max_left _ _

theorem capacities_nonneg (manager : PipeNetworkManager) (sources : List Nat) :
    ∀ capacity ∈ sources.map (fun id => max 1 (energyField.limitAt manager id)), 0 ≤ capacity := by
  intro capacity listed
  obtain ⟨id, -, rfl⟩ := mem_map.mp listed
  exact le_trans Int.one_nonneg (manager.capacity_pos id)

theorem totalCapacity_nonneg (manager : PipeNetworkManager) (sources : List Nat) :
    0 ≤ manager.totalCapacity sources := sum_nonneg (manager.capacities_nonneg sources)

theorem sumI32_capacities (manager : PipeNetworkManager) (sources : List Nat) :
    sumI32 (sources.map fun id => max 1 (energyField.limitAt manager id)) =
      if manager.totalCapacity sources < 2 ^ 31 then some (manager.totalCapacity sources)
      else none :=
  sumI32_of_nonneg (manager.capacities_nonneg sources)

variable {sources : List Nat}

theorem capacity_le_total (mem : id ∈ sources) :
    max 1 (energyField.limitAt manager id) ≤ manager.totalCapacity sources := by
  apply single_le_sum (manager.capacities_nonneg sources)
  exact mem_map_of_mem mem

theorem share_nonneg (manager : PipeNetworkManager) (positive : 0 ≤ tickEnergy) {total : Int}
    (some : 0 ≤ total) (id : Nat) : 0 ≤ manager.shareOf tickEnergy total id :=
  Int.ediv_nonneg (Int.mul_nonneg positive (le_trans Int.one_nonneg (manager.capacity_pos id))) some

theorem sum_drawnShare_le (fits : manager.EnergyFits) (positive : 0 ≤ tickEnergy) {last : Nat}
    (mem : last ∈ sources) : (sources.dropLast.map
      (manager.drawnShare tickEnergy (manager.totalCapacity sources))).sum ≤ tickEnergy := by
  have total : 0 < manager.totalCapacity sources :=
    lt_of_lt_of_le (lt_of_lt_of_le Int.one_pos (manager.capacity_pos last))
      (capacity_le_total mem)
  have shares : (sources.dropLast.map
      (manager.drawnShare tickEnergy (manager.totalCapacity sources))).sum ≤ (sources.dropLast.map
          (manager.shareOf tickEnergy (manager.totalCapacity sources))).sum := by
    apply sum_le_sum
    intro id _
    exact (drawable_bounds fits (manager.share_nonneg positive total.le id) id).2.1
  have sizes := Shares.sum_shares_le tickEnergy total
    (sources.dropLast.map fun id => max 1 (energyField.limitAt manager id))
  rw [map_map] at sizes
  have part : (sources.dropLast.map fun id => max 1 (energyField.limitAt manager id)).sum ≤
      manager.totalCapacity sources := by
    rw [map_dropLast]
    exact Shares.sum_dropLast_le (manager.capacities_nonneg sources)
  have bound := le_trans sizes (Int.mul_le_mul_of_nonneg_left part positive)
  exact le_trans shares (Int.le_of_mul_le_mul_right bound total)

theorem drawnFrom_bounds (fits : manager.EnergyFits) (positive : 0 ≤ tickEnergy)
    (nodeIds : List Nat) (id : Nat) : 0 ≤ manager.drawnFrom tickEnergy nodeIds id ∧
      manager.drawnFrom tickEnergy nodeIds id ≤ energyField.heldAt manager id ∧
        (0 < manager.euRateAt id →
          manager.drawnFrom tickEnergy nodeIds id ≤ manager.euRateAt id) := by
  rw [drawnFrom]
  generalize manager.euNodes nodeIds isSource = sources
  rw [drawnBy]
  split
  · exact ⟨le_rfl, (fits.held id).1, fun rate => rate.le⟩
  rename_i listed
  have mem := not_not.mp listed
  split
  · have rest := sum_drawnShare_le fits positive mem
    have bounds := drawable_bounds fits (Int.sub_nonneg_of_le rest) id
    exact ⟨bounds.1, bounds.2.2⟩
  · have share := manager.share_nonneg positive (manager.totalCapacity_nonneg sources) id
    have bounds := drawable_bounds fits share id
    exact ⟨bounds.1, bounds.2.2⟩

theorem creditedTo_bounds (fits : manager.EnergyFits) (positive : 0 ≤ tickEnergy)
    (nodeIds : List Nat) (id : Nat) : 0 ≤ manager.creditedTo tickEnergy nodeIds id ∧
      manager.creditedTo tickEnergy nodeIds id ≤ energyField.limitAt manager id -
          energyField.heldAt manager id + manager.drawnFrom tickEnergy nodeIds id ∧
        (0 < manager.euRateAt id →
          manager.creditedTo tickEnergy nodeIds id ≤ manager.euRateAt id) := by
  have held := fits.held id
  have drawn := (drawnFrom_bounds fits positive nodeIds id).1
  rw [creditedTo]
  generalize manager.euNodes nodeIds isSink = sinks
  split
  · exact ⟨le_rfl, by omega, fun rate => rate.le⟩
  have share : 0 ≤ tickEnergy / (sinks.length : Int) := Int.ediv_nonneg positive (by omega)
  have most : 0 ≤ min (tickEnergy / (sinks.length : Int) +
      if (sinks.idxOf id : Int) < tickEnergy % sinks.length then 1 else 0)
        (energyField.limitAt manager id - energyField.heldAt manager id +
          manager.drawnFrom tickEnergy nodeIds id) := by
    apply le_min
    · split <;> omega
    · omega
  have bounds := limitRate_bounds (manager.euRateAt id) most
  exact ⟨bounds.1, le_trans bounds.2.1 (min_le_right _ _), bounds.2.2⟩

theorem drawFromSources_eq_none
    (large : ¬manager.totalCapacity (manager.euNodes nodeIds isSource) < 2 ^ 31) :
    manager.drawFromSources nodeIds tickEnergy = none := by
  rw [drawFromSources, sumI32_capacities, if_neg large]
  rfl

theorem drawFromSources_posted (distinct : nodeIds.Nodup)
    (small : manager.totalCapacity (manager.euNodes nodeIds isSource) < 2 ^ 31)
    (positive : 0 < tickEnergy) (bound : tickEnergy < 2 ^ 31) :
    ∃ drawn, manager.drawFromSources nodeIds tickEnergy = some drawn ∧
      NodeLedger.Posted energyField ⟨manager, ∅⟩
        (fun id => -manager.drawnFrom tickEnergy nodeIds id) drawn := by
  have result : manager.drawFromSources nodeIds tickEnergy =
      let sources := manager.euNodes nodeIds isSource
      some (if sources ≠ [] ∧ 0 < manager.totalCapacity sources then
        drawEnergy tickEnergy (manager.totalCapacity sources) tickEnergy sources ⟨manager, ∅⟩
      else ⟨manager, ∅⟩) := by
    rw [drawFromSources, sumI32_capacities, if_pos small]
    rfl
  refine ⟨_, result, ?_⟩
  split
  · apply drawEnergy_posted (distinct.filter _)
    · exact fun id mem => alive_of_mem_euNodes mem
    · intro id mem
      exact wrapI32_share positive bound (manager.capacity_pos id) (capacity_le_total mem)
    · exact fun id _ => rfl
  · next idle =>
    have none : manager.euNodes nodeIds isSource = [] := by
      by_contra sources
      obtain ⟨id, mem⟩ := exists_mem_of_ne_nil _ sources
      exact idle ⟨sources, lt_of_lt_of_le (lt_of_lt_of_le Int.one_pos (manager.capacity_pos id))
        (capacity_le_total mem)⟩
    apply (NodeLedger.Posted.refl energyField _).congr
    intro id
    rw [drawnFrom, none]
    rfl

theorem euRateAt_posted {ledger out : NodeLedger} {amount : Nat → Int}
    (posted : ledger.Posted energyField amount out) (id : Nat) :
    out.manager.euRateAt id = ledger.manager.euRateAt id := by
  rw [euRateAt, posted.nodes, Option.map_map, euRateAt]
  congr 2

theorem creditOf_eq {drawn : NodeLedger} (positive : 0 < tickEnergy) (bound : tickEnergy < 2 ^ 31)
    (posted : NodeLedger.Posted energyField ⟨manager, ∅⟩
      (fun id => -manager.drawnFrom tickEnergy nodeIds id) drawn) (id : Nat) :
    let sinks := manager.euNodes nodeIds isSink
    drawn.manager.creditOf (tickEnergy.tdiv sinks.length) (tickEnergy.tmod sinks.length) 0 sinks id =
      manager.creditedTo tickEnergy nodeIds id := by
  intro sinks
  rw [creditOf, creditedTo, Int.tdiv_eq_ediv_of_nonneg positive.le,
    Int.tmod_eq_emod_of_nonneg positive.le, Nat.zero_add, euRateAt_posted posted, posted.heldAt,
    posted.limitAt]
  change (if id ∉ sinks then 0 else _) = if id ∉ sinks then 0 else _
  split
  · rfl
  rename_i listed
  have some : (sinks.length : Int) ≠ 0 := by
    have length := length_pos_of_mem (not_not.mp listed)
    omega
  have small : tickEnergy % (sinks.length : Int) % 2 ^ 64 = tickEnergy % sinks.length := by
    have lower := Int.emod_nonneg tickEnergy some
    have division := Int.mul_ediv_add_emod tickEnergy sinks.length
    have whole : 0 ≤ (sinks.length : Int) * (tickEnergy / sinks.length) :=
      Int.mul_nonneg (by omega) (Int.ediv_nonneg positive.le (by omega))
    exact Int.emod_eq_of_lt lower (by omega)
  have room : energyField.limitAt manager id -
      (energyField.heldAt manager id + -manager.drawnFrom tickEnergy nodeIds id) =
        energyField.limitAt manager id - energyField.heldAt manager id +
          manager.drawnFrom tickEnergy nodeIds id := by
    omega
  rw [small, room]

theorem distributeFlow_posted (distinct : nodeIds.Nodup) (positive : 0 < tickEnergy)
    (bound : tickEnergy < 2 ^ 31) {drawn : NodeLedger}
    (posted : NodeLedger.Posted energyField ⟨manager, ∅⟩
      (fun id => -manager.drawnFrom tickEnergy nodeIds id) drawn) :
    drawn.Posted energyField (manager.creditedTo tickEnergy nodeIds)
      (creditSinks (manager.euNodes nodeIds isSink) tickEnergy drawn) := by
  rw [creditSinks]
  split
  · next none =>
    apply (NodeLedger.Posted.refl energyField drawn).congr
    intro id
    rw [creditedTo, none]
    rfl
  · apply NodeLedger.Posted.congr (creditEnergy_posted (distinct.filter _) _ 0 drawn fun _ _ => rfl)
    · exact creditOf_eq positive bound posted
    · intro id mem
      rw [posted.isSome]
      exact alive_of_mem_euNodes mem

theorem sum_euNodes (amounts : Nat → Int)
    (zero : ∀ id, id ∉ manager.euNodes nodeIds choose → amounts id = 0) :
    (nodeIds.map amounts).sum = ((manager.euNodes nodeIds choose).map amounts).sum := by
  have all : ((nodeIds.filter fun _ => true).map amounts).sum =
      ((manager.euNodes nodeIds choose).map amounts).sum := by
    apply Shares.sum_filter_of_zero
    · exact fun _ _ _ => rfl
    intro id mem _ other
    apply zero
    intro listed
    rw [(mem_euNodes.mp listed).2] at other
    exact nomatch other
  rw [filter_true] at all
  exact all

theorem distributeFlow_eq (positive : 0 < tickEnergy) : manager.distributeFlow nodeIds tickEnergy =
      (manager.drawFromSources nodeIds tickEnergy).map
        (creditSinks (manager.euNodes nodeIds isSink) tickEnergy) := by
  rw [distributeFlow]
  split
  · next idle =>
    obtain rfl := idle.resolve_right positive.ne'
    rfl
  · rfl

variable {drawn flow : NodeLedger}

theorem heldAt_flow
    (posted : NodeLedger.Posted energyField ⟨manager, ∅⟩
      (fun id => -manager.drawnFrom tickEnergy nodeIds id) drawn)
    (credited : drawn.Posted energyField (manager.creditedTo tickEnergy nodeIds) flow) (id : Nat) :
    energyField.heldAt drawn.manager id =
        energyField.heldAt manager id - manager.drawnFrom tickEnergy nodeIds id ∧
      energyField.heldAt flow.manager id = energyField.heldAt manager id -
        manager.drawnFrom tickEnergy nodeIds id + manager.creditedTo tickEnergy nodeIds id ∧
      deltaOf flow.deltas id =
        manager.creditedTo tickEnergy nodeIds id - manager.drawnFrom tickEnergy nodeIds id := by
  have drawnHeld := posted.heldAt id
  have flowHeld := credited.heldAt id
  have drawnDelta := posted.deltas id
  have flowDelta := credited.deltas id
  have empty : deltaOf (∅ : Table Nat Int) id = 0 := by
    rw [deltaOf, AList.lookup_empty]
    rfl
  dsimp only at drawnHeld drawnDelta
  rw [empty] at drawnDelta
  omega

theorem createsNoEnergy_iff (fits : manager.EnergyFits)
    (positive : 0 < tickEnergy)
    (posted : NodeLedger.Posted energyField ⟨manager, ∅⟩
      (fun id => -manager.drawnFrom tickEnergy nodeIds id) drawn)
    (credited : drawn.Posted energyField (manager.creditedTo tickEnergy nodeIds) flow)
    {result : PipeNetworkManager × Table Nat Int} (nodes : result.1.nodes = flow.manager.nodes)
    (deltas : result.2 = flow.deltas) :
    manager.CreatesNoEnergy drawn.manager nodeIds result ↔
      ((manager.euNodes nodeIds isSink).map (manager.creditedTo tickEnergy nodeIds)).sum ≤
        ((manager.euNodes nodeIds isSource).map (manager.drawnFrom tickEnergy nodeIds)).sum ∧
      ∀ id ∈ manager.euNodes nodeIds isSource,
        id ∈ manager.euNodes nodeIds isSink → 0 < manager.euRateAt id →
          manager.drawnFrom tickEnergy nodeIds id + manager.creditedTo tickEnergy nodeIds id ≤
            manager.euRateAt id := by
  have held : ∀ id, energyField.heldAt result.1 id = energyField.heldAt flow.manager id := by
    intro id
    rw [NodeField.heldAt, nodes, NodeField.heldAt]
  have flows := fun id => heldAt_flow posted credited id
  have notSource : ∀ id, id ∉ manager.euNodes nodeIds isSource →
      manager.drawnFrom tickEnergy nodeIds id = 0 := fun id absent => drawnBy_of_notMem absent
  have notSink : ∀ id, id ∉ manager.euNodes nodeIds isSink →
      manager.creditedTo tickEnergy nodeIds id = 0 := fun id absent => if_pos absent
  have given : (nodeIds.map fun id => energyField.heldAt result.1 id -
      energyField.heldAt drawn.manager id) =
        nodeIds.map (manager.creditedTo tickEnergy nodeIds) := by
    apply map_congr_left
    intro id _
    have flow := flows id
    rw [held]
    omega
  have taken : (nodeIds.map fun id => energyField.heldAt manager id -
      energyField.heldAt drawn.manager id) =
        nodeIds.map (manager.drawnFrom tickEnergy nodeIds) := by
    apply map_congr_left
    intro id _
    have flow := flows id
    omega
  rw [← sum_euNodes _ notSink, ← sum_euNodes _ notSource, ← given, ← taken]
  constructor
  · intro creates
    refine ⟨creates.paid, ?_⟩
    intro id _ _ rate
    have within := creates.rated id rate
    have flow := flows id
    rw [held] at within
    omega
  · rintro ⟨paid, rated⟩
    refine ⟨paid, ?_, ?_, ?_⟩
    · intro id node stored
      have source := drawnFrom_bounds fits positive.le nodeIds id
      have sink := creditedTo_bounds fits positive.le nodeIds id
      have limit := (credited.limitAt id).trans (posted.limitAt id)
      have flow := (flows id).2.1
      rw [nodes] at stored
      rw [NodeField.limitAt, stored] at limit
      rw [NodeField.heldAt, stored] at flow
      change node.energyCapacity = energyField.limitAt manager id at limit
      change node.energyBuffer = _ at flow
      omega
    · intro id rate
      have source := drawnFrom_bounds fits positive.le nodeIds id
      have sink := creditedTo_bounds fits positive.le nodeIds id
      have flow := flows id
      rw [held]
      by_cases isSource : id ∈ manager.euNodes nodeIds isSource
      · by_cases isSink : id ∈ manager.euNodes nodeIds isSink
        · have both := rated id isSource isSink rate
          omega
        · have none := notSink id isSink
          omega
      · have none := notSource id isSource
        omega
    · intro id
      have flow := flows id
      rw [held, deltas]
      omega

theorem distributeEnergy_creates_none_iff {networkId : Nat} {network : Network}
    (networks : manager.NetworksDistinct) (found : manager.networks.lookup networkId = some network)
    (fits : manager.EnergyFits) (positive : 0 < tickEnergy) (bound : tickEnergy < 2 ^ 31) :
    manager.SharesEnergy networkId network tickEnergy ↔
      manager.SinksArePaid network.nodeIds tickEnergy := by
  have distinct := networks networkId network found
  by_cases small : manager.totalCapacity
      (manager.euNodes network.nodeIds DomainNodeState.isSource) < 2 ^ 31
  · obtain ⟨drawn, first, posted⟩ := drawFromSources_posted distinct small positive bound
    have credited := distributeFlow_posted distinct positive bound posted
    have result : ∃ result, manager.distributeEnergy networkId tickEnergy = some result ∧
        result.1.nodes = (creditSinks (manager.euNodes network.nodeIds DomainNodeState.isSink)
          tickEnergy drawn).manager.nodes ∧
        result.2 = (creditSinks (manager.euNodes network.nodeIds DomainNodeState.isSink)
          tickEnergy drawn).deltas := by
      rw [distributeEnergy, found]
      dsimp only
      rw [if_neg positive.ne', distributeFlow_eq positive, first]
      exact ⟨_, rfl, rfl, rfl⟩
    obtain ⟨result, second, nodes, deltas⟩ := result
    have creates := createsNoEnergy_iff fits positive posted credited nodes deltas
    constructor
    · rintro ⟨other, last, same, sameLast, none⟩
      cases first.symm.trans same
      cases second.symm.trans sameLast
      obtain ⟨paid, rated⟩ := creates.mp none
      exact ⟨small, paid, rated⟩
    · intro paid
      exact ⟨drawn, result, first, second, creates.mpr ⟨paid.paid, paid.rated⟩⟩
  · apply iff_of_false
    · rintro ⟨drawn, result, none, -⟩
      rw [drawFromSources_eq_none small] at none
      exact nomatch none
    · exact fun paid => small paid.small

def wired (energy : Int) : PipeNetworkManager :=
  let nodes := ((({} : PipeNetworkManager).addNodeWithId 1 ⟨0, 64, 0⟩ 0).1.addNodeWithId
    2 ⟨1, 64, 0⟩ 0).1
  ((nodes.addEdge 1 2).1.setNodeEnergy 1 energy 100 true false).setNodeEnergy 2 0 100 false true

theorem energyFits_of_entries {manager : PipeNetworkManager} (fit : ∀ entry ∈ manager.nodes.entries,
      0 ≤ entry.2.energyBuffer ∧ entry.2.energyBuffer ≤ entry.2.energyCapacity) :
    manager.EnergyFits := by
  intro id node stored
  exact fit ⟨id, node⟩ (Table.mem_entries_iff.mpr stored)

theorem wired_shares : ∃ network, (wired 50).networks.lookup 4 = some network ∧
      (wired 50).SharesEnergy 4 network 10 := by
  have present : ((wired 50).networks.lookup 4).isSome = true := by decide +kernel
  obtain ⟨network, found⟩ := Option.isSome_iff_exists.mp present
  refine ⟨network, found, (distributeEnergy_creates_none_iff
    (networksDistinct_of_entries (by decide +kernel)) found
    (energyFits_of_entries (by decide +kernel)) (by decide) (by decide)).mpr ?_⟩
  have sums : ∀ network ∈ (wired 50).networks.lookup 4, (wired 50).totalCapacity
          ((wired 50).euNodes network.nodeIds DomainNodeState.isSource) < 2 ^ 31 ∧
        (((wired 50).euNodes network.nodeIds DomainNodeState.isSink).map
            ((wired 50).creditedTo 10 network.nodeIds)).sum ≤
          (((wired 50).euNodes network.nodeIds DomainNodeState.isSource).map
            ((wired 50).drawnFrom 10 network.nodeIds)).sum ∧
        ∀ id ∈ (wired 50).euNodes network.nodeIds DomainNodeState.isSource,
          id ∉ (wired 50).euNodes network.nodeIds DomainNodeState.isSink := by
    decide +kernel
  obtain ⟨small, paid, apart⟩ := sums network found
  exact ⟨small, paid, fun id source sink _ => absurd sink (apart id source)⟩

theorem wired_creates :
    ∃ network, (wired 0).networks.lookup 4 = some network ∧ (wired 0).NetworksDistinct ∧
      (wired 0).EnergyFits ∧ ¬(wired 0).SharesEnergy 4 network 10 := by
  have present : ((wired 0).networks.lookup 4).isSome = true := by decide +kernel
  obtain ⟨network, found⟩ := Option.isSome_iff_exists.mp present
  refine ⟨network, found, networksDistinct_of_entries (by decide +kernel),
    energyFits_of_entries (by decide +kernel), ?_⟩
  rintro ⟨drawn, result, first, second, creates⟩
  have sums : ∀ network ∈ (wired 0).networks.lookup 4,
      ∀ drawn ∈ (wired 0).drawFromSources network.nodeIds 10,
        ∀ result ∈ (wired 0).distributeEnergy 4 10,
          (network.nodeIds.map fun id => energyField.heldAt result.1 id -
              energyField.heldAt drawn.manager id).sum = 10 ∧
            (network.nodeIds.map fun id => energyField.heldAt (wired 0) id -
              energyField.heldAt drawn.manager id).sum = 0 := by
    decide +kernel
  obtain ⟨credited, debited⟩ := sums network found drawn first result second
  have paid := creates.paid
  rw [credited, debited] at paid
  exact absurd paid (by decide)

end PipeNetworkManager

end GtnhPlatform.PipeNetwork
