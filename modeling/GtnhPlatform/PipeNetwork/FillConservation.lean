import GtnhPlatform.PipeNetwork.FluidFill

namespace GtnhPlatform.PipeNetwork

open Option List Shares

namespace PipeNetworkManager

section Totals

variable (manager : PipeNetworkManager) (network : Network)

def sourceNodes : List Nat :=
  network.nodeIds.filter fun id =>
    (manager.nodes.lookup id).any fun node => node.domains.fluid.isSource

def pipeNodes : List Nat :=
  network.nodeIds.filter fun id => (manager.nodes.lookup id).any fun node =>
    decide (0 < node.fluidCapacity) && !node.domains.fluid.isSource && !node.domains.fluid.isSink

def transferable : Int := min ((manager.sourceNodes network).map manager.bufferOf).sum
    ((manager.pipeNodes network).map manager.roomOf).sum

def NetworkFits : Prop := ∀ id ∈ network.nodeIds, ∀ node, manager.nodes.lookup id = some node →
    0 ≤ node.fluidBuffer ∧ node.fluidBuffer ≤ node.fluidCapacity

def OneFluid (fluidId : Nat) : Prop :=
  fluidId ≠ 0 ∧ ∀ id ∈ network.nodeIds, ∀ node, manager.nodes.lookup id = some node →
    node.domains.fluid.isSource = true → 0 < node.fluidBuffer → node.fluidId = fluidId

def FillsEvenly : Prop :=
  let rooms := (manager.pipesOf network).map manager.roomOf
  let buffers := (manager.sourcesOf network).map manager.bufferOf
  let amount := min buffers.sum rooms.sum
  amount < 2 ^ 31 ∧ amount ≤ (Shares.floors amount rooms.sum rooms).sum + rooms.getLastD 0 ∧
    Shares.Reaches amount (Shares.offers amount buffers.sum buffers) (buffers.getLastD 0)

end Totals

def gained (before after : PipeNetworkManager) (id : Nat) : Int :=
  after.bufferOf id - before.bufferOf id

structure Conserves (before : PipeNetworkManager) (network : Network)
    (after : PipeNetworkManager) (deltas : Table Nat Int) : Prop where
  balanced : ((before.pipeNodes network).map (before.gained after)).sum =
    ((before.sourceNodes network).map (before.removed after)).sum
  moved : ((before.sourceNodes network).map (before.removed after)).sum =
    before.transferable network
  fits : after.NetworkFits network
  elsewhere : ∀ id, id ∉ before.pipeNodes network → id ∉ before.sourceNodes network →
    after.nodes.lookup id = before.nodes.lookup id
  deltas : ∀ id, deltaOf deltas id = before.gained after id

section Network

variable {manager : PipeNetworkManager} {network : Network} {fluidId : Nat}

theorem available_eq (fits : manager.NetworkFits network) (one : manager.OneFluid network fluidId)
    (amount : Nat → Int) (empty : ∀ id, manager.bufferOf id = 0 → amount id = 0) :
    ((manager.sourceNodes network).map amount).sum =
      ((manager.sourcesOf network).map amount).sum := by
  apply sum_filter_of_zero
  · intro id mem source
    obtain ⟨node, found, source⟩ := (any_eq_true _ _).mp source
    rw [found]
    exact ((isFillSource_iff node).mp source).1
  · intro id mem source idle
    obtain ⟨node, found, source⟩ := (any_eq_true _ _).mp source
    rw [found, any_some, ← Bool.not_eq_true, isFillSource_iff] at idle
    apply empty
    rw [bufferOf, found, map_some, getD_some]
    obtain ⟨lower, upper⟩ := fits id mem node found
    by_contra holds
    have positive : 0 < node.fluidBuffer := by omega
    apply idle
    refine ⟨source, positive, by omega, ?_⟩
    rw [one.2 id mem node found source positive]
    exact one.1

theorem room_eq (fits : manager.NetworkFits network) (amount : Nat → Int)
    (full : ∀ id, manager.roomOf id = 0 → amount id = 0) :
    ((manager.pipeNodes network).map amount).sum = ((manager.pipesOf network).map amount).sum := by
  apply sum_filter_of_zero
  · intro id mem pipe
    obtain ⟨node, found, pipe⟩ := (any_eq_true _ _).mp pipe
    obtain ⟨capacity, source, sink, -⟩ := (isFillPipe_iff node).mp pipe
    simp [found, capacity, source, sink]
  · intro id mem pipe idle
    obtain ⟨node, found, pipe⟩ := (any_eq_true _ _).mp pipe
    rw [found, any_some] at idle
    apply full
    rw [roomOf, found, map_some, getD_some]
    obtain ⟨lower, upper⟩ := fits id mem node found
    simp only [isFillPipe, pipe, Bool.true_and, decide_eq_false_iff_not] at idle
    omega

section Filled

variable {given taken : Nat → Int} {out : FillState}
  (filled : Filled manager network given taken out)

include filled in
theorem Filled.untaken {id : Nat} (gift : given id ≠ 0) : taken id = 0 := by
  by_contra take
  exact notMem_sourcesOf (filled.pipes id gift).2.2 (filled.sources id take).2.2

include filled in
theorem Filled.gained_eq (id : Nat) : manager.gained out.manager id = given id - taken id := by
  have after := filled.nodes id
  cases found : manager.nodes.lookup id with
  | none =>
    have nothing : given id = 0 := by
      by_contra gift
      obtain ⟨-, node, present, -⟩ := pipe_of_mem_pipesOf (filled.pipes id gift).2.2
      rw [found] at present
      cases present
    have untouched : taken id = 0 := by
      by_contra take
      obtain ⟨-, node, present, -⟩ := source_of_mem_sourcesOf (filled.sources id take).2.2
      rw [found] at present
      cases present
    rw [found] at after
    simp [gained, bufferOf, found, after, nothing, untouched]
  | some node =>
    rw [found] at after
    by_cases gift : given id = 0
    · by_cases take : taken id = 0
      · simp [gained, bufferOf, found, after, gift, take]
      · simp [gained, bufferOf, found, after, gift, take, debitNode]
    · simp [gained, bufferOf, found, after, gift, filled.untaken gift, creditNode]

include filled in
theorem Filled.sum_given (fits : manager.NetworkFits network) :
    ((manager.pipeNodes network).map (manager.gained out.manager)).sum =
      ((manager.pipesOf network).map given).sum := by
  rw [← room_eq fits given]
  · apply congrArg sum
    apply map_congr_left
    intro id mem
    rw [filled.gained_eq]
    have untouched : taken id = 0 := by
      by_contra take
      obtain ⟨-, node, found, source⟩ := source_of_mem_sourcesOf (filled.sources id take).2.2
      obtain ⟨other, stored, pipe⟩ := (any_eq_true _ _).mp (mem_filter.mp mem).2
      cases found.symm.trans stored
      simp [((isFillSource_iff node).mp source).1] at pipe
    rw [untouched, sub_zero]
  · intro id full
    by_contra gift
    obtain ⟨positive, within, -⟩ := filled.pipes id gift
    omega

include filled in
theorem Filled.sum_taken {fluidId : Nat} (fits : manager.NetworkFits network)
    (one : manager.OneFluid network fluidId) :
    ((manager.sourceNodes network).map (manager.removed out.manager)).sum =
      ((manager.sourcesOf network).map taken).sum := by
  rw [← available_eq fits one taken]
  · apply congrArg sum
    apply map_congr_left
    intro id mem
    have change := filled.gained_eq id
    have spared : given id = 0 := by
      by_contra gift
      obtain ⟨-, node, found, pipe⟩ := pipe_of_mem_pipesOf (filled.pipes id gift).2.2
      obtain ⟨other, stored, source⟩ := (any_eq_true _ _).mp (mem_filter.mp mem).2
      cases found.symm.trans stored
      rw [((isFillPipe_iff node).mp pipe).2.1] at source
      cases source
    rw [gained] at change
    rw [removed]
    omega
  · intro id empty
    by_contra take
    obtain ⟨positive, within, -⟩ := filled.sources id take
    omega

include filled in
theorem Filled.fits (fits : manager.NetworkFits network) : out.manager.NetworkFits network := by
  intro id mem after found
  rw [filled.nodes id] at found
  obtain ⟨node, stored, rfl⟩ := map_eq_some_iff.mp found
  obtain ⟨lower, upper⟩ := fits id mem node stored
  split
  · next gift =>
    obtain ⟨positive, within, -⟩ := filled.pipes id gift
    simp only [roomOf, stored, map_some, getD_some] at within
    dsimp only [creditNode]
    omega
  · split
    · next take =>
      obtain ⟨positive, within, -⟩ := filled.sources id take
      simp only [bufferOf, stored, map_some, getD_some] at within
      dsimp only [debitNode]
      omega
    · exact ⟨lower, upper⟩

include filled in
theorem Filled.elsewhere {id : Nat} (noPipe : id ∉ manager.pipeNodes network)
    (noSource : id ∉ manager.sourceNodes network) :
    out.manager.nodes.lookup id = manager.nodes.lookup id := by
  have spared : given id = 0 := by
    by_contra gift
    obtain ⟨listed, node, found, pipe⟩ := pipe_of_mem_pipesOf (filled.pipes id gift).2.2
    obtain ⟨capacity, source, sink, -⟩ := (isFillPipe_iff node).mp pipe
    exact noPipe (mem_filter.mpr ⟨listed, by simp [found, capacity, source, sink]⟩)
  have untouched : taken id = 0 := by
    by_contra take
    obtain ⟨listed, node, found, source⟩ := source_of_mem_sourcesOf (filled.sources id take).2.2
    exact noSource (mem_filter.mpr ⟨listed, by simp [found, ((isFillSource_iff node).mp source).1]⟩)
  rw [filled.nodes]
  simp [spared, untouched]

end Filled

theorem buffers_nonneg (mem : buffer ∈ (manager.sourcesOf network).map manager.bufferOf) :
    0 ≤ buffer := by
  obtain ⟨id, listed, rfl⟩ := mem_map.mp mem
  obtain ⟨-, node, found, source⟩ := source_of_mem_sourcesOf listed
  rw [bufferOf, found]
  exact ((isFillSource_iff node).mp source).2.1.le

theorem rooms_nonneg {room : Int} (mem : room ∈ (manager.pipesOf network).map manager.roomOf) :
    0 ≤ room := by
  obtain ⟨id, listed, rfl⟩ := mem_map.mp mem
  obtain ⟨-, node, found, pipe⟩ := pipe_of_mem_pipesOf listed
  rw [roomOf, found]
  exact ((isFillPipe_iff node).mp pipe).2.2.2.le

variable (manager network) in
theorem available_nonneg : 0 ≤ manager.available network :=
  sum_nonneg fun _ mem => buffers_nonneg mem

variable (manager network) in
theorem room_nonneg : 0 ≤ manager.room network := sum_nonneg fun _ mem => rooms_nonneg mem

theorem transferable_eq (fits : manager.NetworkFits network)
    (one : manager.OneFluid network fluidId) :
    manager.transferable network = min (manager.available network) (manager.room network) := by
  rw [transferable, available_eq fits one manager.bufferOf fun _ => id,
    room_eq fits manager.roomOf fun _ => id]
  rfl

theorem scanFluid_of_same (marked : fluidId ≠ 0) (some : fluids ≠ [])
    (same : ∀ fluid ∈ fluids, fluid = fluidId) : scanFluid fluids = fluidId := by
  have kept : ∀ {fluids : List Nat}, (∀ fluid ∈ fluids, fluid = fluidId) →
      fluids.foldl (fun fluid next =>
        if fluid = 0 then next else if fluid = next then fluid else 0) fluidId = fluidId := by
    intro fluids same
    induction fluids with
    | nil => rfl
    | cons fluid rest ih =>
      obtain rfl := same fluid mem_cons_self
      rw [foldl_cons, if_neg marked, if_pos rfl]
      exact ih fun other mem => same other (mem_cons_of_mem _ mem)
  cases fluids with
  | nil => exact absurd rfl some
  | cons fluid rest =>
    obtain rfl := same fluid mem_cons_self
    exact kept fun other mem => same other (mem_cons_of_mem _ mem)

theorem fillFluid_of_one (one : manager.OneFluid network fluidId)
    (some : manager.sourcesOf network ≠ []) : manager.fillFluid network = fluidId := by
  apply scanFluid_of_same one.1 (by simpa using some)
  intro fluid mem
  obtain ⟨id, listed, rfl⟩ := mem_map.mp mem
  obtain ⟨inside, node, found, source⟩ := source_of_mem_sourcesOf listed
  obtain ⟨marked, positive, -, -⟩ := (isFillSource_iff node).mp source
  rw [fluidOf, found]
  exact one.2 id inside node found marked positive

theorem fillsNothing_iff (one : manager.OneFluid network fluidId) :
    manager.fillsNothing network = true ↔
      min (manager.available network) (manager.room network) = 0 := by
  have available := manager.available_nonneg network
  have room := manager.room_nonneg network
  cases sources : manager.sourcesOf network with
  | nil =>
    have none : manager.available network = 0 := by rw [PipeNetworkManager.available, sources]; rfl
    simp [fillsNothing, sources, none, room]
  | cons source rest =>
    have marked := fillFluid_of_one one (by rw [sources]; exact cons_ne_nil _ _)
    cases pipes : manager.pipesOf network with
    | nil =>
      have none : manager.room network = 0 := by rw [PipeNetworkManager.room, pipes]; rfl
      simp [fillsNothing, pipes, none, available]
    | cons pipe others =>
      simp only [fillsNothing, sources, pipes, marked, isEmpty_cons, Bool.false_or,
        Bool.or_eq_true, decide_eq_true_eq, beq_iff_eq, one.1, or_false]
      omega

variable {given taken : Nat → Int}

theorem Filled.conserves_iff (fits : manager.NetworkFits network)
    (one : manager.OneFluid network fluidId) {out : FillState}
    (filled : Filled manager network given taken out) :
    Conserves manager network out.manager out.deltas ↔ ((manager.pipesOf network).map given).sum =
          min (manager.available network) (manager.room network) ∧
        ((manager.sourcesOf network).map taken).sum =
          min (manager.available network) (manager.room network) := by
  rw [← transferable_eq fits one, ← filled.sum_given fits, ← filled.sum_taken fits one]
  constructor
  · intro conserves
    exact ⟨conserves.balanced.trans conserves.moved, conserves.moved⟩
  rintro ⟨given, taken⟩
  refine ⟨given.trans taken.symm, taken, filled.fits fits, fun _ => filled.elsewhere, ?_⟩
  intro id
  rw [filled.deltas, filled.gained_eq]

theorem fillsEvenly_of_nothing (none : min (manager.available network) (manager.room network) = 0) :
    manager.FillsEvenly network := by
  unfold FillsEvenly
  dsimp only
  rw [available, room] at none
  rw [none]
  refine ⟨by decide, ?_, Or.inl ⟨0, rfl⟩⟩
  have last : 0 ≤ ((manager.pipesOf network).map manager.roomOf).getLastD 0 :=
    getLastD_nonneg fun _ mem => rooms_nonneg mem
  have nothing : (floors 0 ((manager.pipesOf network).map manager.roomOf).sum
      ((manager.pipesOf network).map manager.roomOf)).sum = 0 := by
    apply sum_eq_zero
    intro share mem
    obtain ⟨room, -, rfl⟩ := mem_map.mp mem
    rw [zero_mul, Int.zero_ediv]
  omega

theorem sum_fixed_lt {rooms : List Int} (wide : 2 ^ 31 ≤ amount) (within : amount ≤ total)
    (some : rooms ≠ []) (nonneg : ∀ room ∈ rooms, 0 ≤ room) (whole : rooms.sum = total) :
    (fixed (wrapI32 amount) total (wrapI32 amount) rooms).sum < amount := by
  obtain ⟨-, narrow⟩ := wrapI32_bounds amount
  have positive : 0 < total := by omega
  rcases le_or_gt (wrapI32 amount) 0 with nothing | left
  · rw [sum_fixed_of_nonpos positive nothing nothing nonneg]
    omega
  have floors : (floors (wrapI32 amount) total rooms).sum ≤ wrapI32 amount := by
    rw [← whole]
    exact sum_floors_le left.le nonneg (by omega)
  rw [sum_fixed positive left.le (by omega) some nonneg floors]
  omega

theorem sharedOut_iff (some : manager.fillsNothing network = false)
    (shared : SharedOut manager network
      (wrapI32 (min (manager.available network) (manager.room network))) given taken) :
    (((manager.pipesOf network).map given).sum =
          min (manager.available network) (manager.room network) ∧
        ((manager.sourcesOf network).map taken).sum =
          min (manager.available network) (manager.room network)) ↔
      manager.FillsEvenly network := by
  simp only [fillsNothing, Bool.or_eq_false_iff, decide_eq_false_iff_not, not_le,
    isEmpty_eq_false_iff] at some
  obtain ⟨⟨⟨⟨sources, pipes⟩, holds⟩, space⟩, -⟩ := some
  rw [shared.pipes, shared.sources]
  have rooms : (manager.pipesOf network).map manager.roomOf ≠ [] := by simpa using pipes
  have buffers : (manager.sourcesOf network).map manager.bufferOf ≠ [] := by simpa using sources
  unfold FillsEvenly
  dsimp only
  rw [← available, ← room]
  rcases lt_or_ge (min (manager.available network) (manager.room network)) (2 ^ 31)
    with narrow | wide
  · have positive : 0 < min (manager.available network) (manager.room network) := by omega
    have floors : (floors (min (manager.available network) (manager.room network))
          (manager.room network) ((manager.pipesOf network).map manager.roomOf)).sum ≤
        min (manager.available network) (manager.room network) :=
      sum_floors_le positive.le (fun _ mem => rooms_nonneg mem) space
    rw [wrapI32_of_bounds (by omega) narrow, sum_fixed space positive.le (min_le_right _ _) rooms
        (fun _ mem => rooms_nonneg mem) floors,
      sum_shrinking_eq_iff positive.le buffers (fun _ mem => buffers_nonneg mem)
        (show _ ≤ manager.available network from le_rfl), min_eq_left_iff]
    exact ⟨fun both => ⟨narrow, both⟩, fun all => all.2⟩
  · apply iff_of_false
    · rintro ⟨given, -⟩
      exact absurd given (sum_fixed_lt wide (min_le_right _ _) rooms
        (fun _ mem => rooms_nonneg mem) rfl).ne
    · rintro ⟨narrow, -⟩
      omega

theorem fillFluidPipesFromSources_conserves_iff {networkId fluidId : Nat}
    (networks : manager.NetworksDistinct) (found : manager.networks.lookup networkId = some network)
    (fits : manager.NetworkFits network) (one : manager.OneFluid network fluidId) :
    Conserves manager network (manager.fillFluidPipesFromSources networkId).1
        (manager.fillFluidPipesFromSources networkId).2 ↔ manager.FillsEvenly network := by
  unfold fillFluidPipesFromSources
  rw [found]
  dsimp only
  cases idle : manager.fillsNothing network with
  | true =>
    have none := (fillsNothing_iff one).mp idle
    apply iff_of_true _ (fillsEvenly_of_nothing none)
    have nothing : Filled manager network (fun _ => 0) (fun _ => 0) ⟨manager, ∅, 0⟩ := by
      constructor
      · exact fun _ gift => absurd rfl gift
      · exact fun _ take => absurd rfl take
      · intro id
        simp
      · rfl
      · intro id
        rw [deltaOf, AList.lookup_empty]
        rfl
    apply (nothing.conserves_iff fits one).mpr
    rw [none]
    simp
  | false =>
    obtain ⟨given, taken, filled, shared⟩ := manager.runFill_filled (networks networkId _ found)
    rw [← sharedOut_iff idle shared, ← filled.conserves_iff fits one]
    exact ⟨fun conserves => ⟨conserves.balanced, conserves.moved, conserves.fits,
      conserves.elsewhere, conserves.deltas⟩, fun conserves => ⟨conserves.balanced,
      conserves.moved, conserves.fits, conserves.elsewhere, conserves.deltas⟩⟩

end Network

def row (buffer : Int) (rooms : List Int) : PipeNetworkManager :=
  let place := fun (manager : PipeNetworkManager) (pipe : Int × Nat) =>
    let placed := (manager.addNodeWithId pipe.2 ⟨pipe.2, 64, 0⟩ blockIdFluidPipe).1
    (placed.addEdge (pipe.2 - 1) pipe.2).1.setNodeFluid pipe.2 0 pipe.1 0 false false
  let source := (({} : PipeNetworkManager).addNodeWithId 1 ⟨1, 64, 0⟩ 0).1
  ((rooms.zipIdx 2).foldl place source).setNodeFluid 1 buffer 100 water true false

variable {manager : PipeNetworkManager}

theorem networksDistinct_of_entries
    (distinct : ∀ entry ∈ manager.networks.entries, entry.2.nodeIds.Nodup) :
    manager.NetworksDistinct := by
  intro id network found
  exact distinct ⟨id, network⟩ (Table.mem_entries_iff.mpr found)

theorem BuffersFit.networkFits (fit : manager.BuffersFit) (network : Network) :
    manager.NetworkFits network :=
  fun id _ node found => fit id node found

theorem oneFluid_of_entries (network : Network) (marked : fluidId ≠ 0)
    (same : ∀ entry ∈ manager.nodes.entries, entry.2.domains.fluid.isSource = true →
      0 < entry.2.fluidBuffer → entry.2.fluidId = fluidId) : manager.OneFluid network fluidId := by
  refine ⟨marked, ?_⟩
  intro id _ node found
  exact same ⟨id, node⟩ (Table.mem_entries_iff.mpr found)

theorem fill_row_conserves : ∃ network, (row 30 [10, 20, 30]).networks.lookup 10 = some network ∧
      Conserves (row 30 [10, 20, 30]) network ((row 30 [10, 20, 30]).fillFluidPipesFromSources 10).1
        ((row 30 [10, 20, 30]).fillFluidPipesFromSources 10).2 := by
  have present : ((row 30 [10, 20, 30]).networks.lookup 10).isSome = true := by decide +kernel
  obtain ⟨network, found⟩ := Option.isSome_iff_exists.mp present
  refine ⟨network, found, (fillFluidPipesFromSources_conserves_iff
    (networksDistinct_of_entries (by decide +kernel)) found
    ((buffersFit_of_entries (by decide +kernel)).networkFits network)
    (oneFluid_of_entries network (show water ≠ 0 by decide) (by decide +kernel))).mpr ?_⟩
  have parts : ∀ network ∈ (row 30 [10, 20, 30]).networks.lookup 10,
      ((row 30 [10, 20, 30]).pipesOf network).map (row 30 [10, 20, 30]).roomOf = [30, 20, 10] ∧
        ((row 30 [10, 20, 30]).sourcesOf network).map (row 30 [10, 20, 30]).bufferOf = [30] := by
    decide +kernel
  obtain ⟨rooms, buffers⟩ := parts network found
  unfold FillsEvenly
  rw [rooms, buffers]
  exact ⟨by decide, by decide, Or.inr (by decide)⟩

theorem fill_row_loses : ∃ network, (row 2 [1, 1, 1]).networks.lookup 10 = some network ∧
      (row 2 [1, 1, 1]).NetworksDistinct ∧ (row 2 [1, 1, 1]).NetworkFits network ∧
      (row 2 [1, 1, 1]).OneFluid network water ∧ ¬ Conserves (row 2 [1, 1, 1]) network
        ((row 2 [1, 1, 1]).fillFluidPipesFromSources 10).1
        ((row 2 [1, 1, 1]).fillFluidPipesFromSources 10).2 := by
  have present : ((row 2 [1, 1, 1]).networks.lookup 10).isSome = true := by decide +kernel
  obtain ⟨network, found⟩ := Option.isSome_iff_exists.mp present
  refine ⟨network, found, networksDistinct_of_entries (by decide +kernel),
    (buffersFit_of_entries (by decide +kernel)).networkFits network,
    oneFluid_of_entries network (by decide) (by decide +kernel), ?_⟩
  intro conserves
  have unequal : ∀ network ∈ (row 2 [1, 1, 1]).networks.lookup 10,
      (((row 2 [1, 1, 1]).pipeNodes network).map ((row 2 [1, 1, 1]).gained
          ((row 2 [1, 1, 1]).fillFluidPipesFromSources 10).1)).sum = 1 ∧
        (((row 2 [1, 1, 1]).sourceNodes network).map ((row 2 [1, 1, 1]).removed
          ((row 2 [1, 1, 1]).fillFluidPipesFromSources 10).1)).sum = 2 := by
    decide +kernel
  obtain ⟨given, taken⟩ := unequal network found
  have balanced := conserves.balanced
  rw [given, taken] at balanced
  cases balanced

end PipeNetworkManager

end GtnhPlatform.PipeNetwork
