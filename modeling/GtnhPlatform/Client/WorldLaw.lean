import GtnhPlatform.ChunkStore.BlockMapLaw
import GtnhPlatform.Client.World

namespace GtnhPlatform.Client

open World List ChunkView ChunkCoord

open ChunkStore (LocalPos)

namespace World

variable {world : World} {chunks : Set ChunkCoord} (apart : Set.InjOn makeChunkKey chunks)

section

include apart

variable {coord : ChunkCoord} {pos : BlockPos}

theorem getChunk_onBlockUpdate (chunk : pos.chunkCoord ∈ chunks) (block : PendingBlock)
    (listed : coord ∈ chunks) :
    (world.onBlockUpdate pos block).getChunk coord =
      if coord = pos.chunkCoord then
        (world.getChunk coord).map fun view => view.setBlock pos.localPos block
      else world.getChunk coord := by
  rw [onBlockUpdate, getChunk, getChunk]
  by_cases same : coord = pos.chunkCoord
  · rw [if_pos same, same]
    cases stored : world.storage.lookup (makeChunkKey pos.chunkCoord) with
    | none => exact stored
    | some view => exact Table.lookup_insert_self _ _ _
  · rw [if_neg same]
    have different := mt (apart.eq_iff listed chunk).mp same
    cases world.storage.lookup (makeChunkKey pos.chunkCoord) with
    | none => rfl
    | some view => exact Table.lookup_insert_of_ne _ _ different

theorem changesOf_onBlockUpdate (chunk : pos.chunkCoord ∈ chunks) (block : PendingBlock)
    (listed : coord ∈ chunks) : (world.onBlockUpdate pos block).changesOf coord =
      if coord = pos.chunkCoord then
        AList.insert (makeBlockPosKey pos) block (world.changesOf coord)
      else world.changesOf coord := by
  rw [onBlockUpdate, changesOf]
  by_cases same : coord = pos.chunkCoord
  · rw [if_pos same, same, Table.lookup_insert_self]
    rfl
  · rw [if_neg same, Table.lookup_insert_of_ne _ _ (mt (apart.eq_iff listed chunk).mp same)]
    rfl

theorem getChunk_onChunkData (wireData : List UInt8) {coord other : ChunkCoord}
    (listed : coord ∈ chunks) (otherListed : other ∈ chunks) :
    (world.onChunkData wireData coord).getChunk other = if other = coord then
        some ((world.storedChunk wireData coord).replay (world.changesOf coord).entries)
      else world.getChunk other := by
  rw [onChunkData, getChunk, Table.lookup_insert_eq]
  simp only [apart.eq_iff otherListed listed]
  rfl

end

theorem getBlockAt_onChunkData (wireData : List UInt8) (coord : ChunkCoord) (cell : LocalPos) :
    (world.onChunkData wireData coord).getBlockAt (coord.block cell) =
      some (((world.storedChunk wireData coord).replay
        (world.changesOf coord).entries).getBlock cell) := by
  rw [getBlockAt, chunkCoord_block, localPos_block, getChunk, onChunkData,
    Table.lookup_insert_self, Option.map_some]

structure Evicts (chunks : Set ChunkCoord) (world : World) (coords : List ChunkCoord)
    (next : World) : Prop where
  listed : ∀ coord ∈ coords, coord ∈ chunks
  storage : ∀ key, next.storage.lookup key =
    if key ∈ coords.map makeChunkKey then none else world.storage.lookup key
  changes : ∀ coord ∈ chunks, next.changesOf coord = world.changesOf coord ∨
    coord ∈ coords ∧ next.changesOf coord = ∅

variable {coord : ChunkCoord}

include apart in
theorem Evicts.getChunk {next : World} (evicts : Evicts chunks world coords next)
    (listed : coord ∈ chunks) :
    next.getChunk coord = if coord ∈ coords then none else world.getChunk coord := by
  have keyListed : makeChunkKey coord ∈ coords.map makeChunkKey ↔ coord ∈ coords := by
    rw [mem_map]
    constructor
    · rintro ⟨other, mem, same⟩
      rwa [← apart (evicts.listed other mem) listed same]
    · intro mem
      exact ⟨coord, mem, rfl⟩
  rw [World.getChunk, evicts.storage]
  simp only [keyListed]
  rfl

include apart in
theorem evictChunk_evicts (listed : coord ∈ chunks) :
    Evicts chunks world [coord] (world.evictChunk coord) := by
  constructor
  · intro other mem
    rwa [mem_singleton.mp mem]
  · intro key
    rw [evictChunk, Table.lookup_erase_eq, map_singleton]
    simp only [mem_singleton]
  intro other otherListed
  rw [evictChunk, changesOf, Table.lookup_erase_eq]
  by_cases same : other = coord
  · right
    rw [if_pos (congrArg makeChunkKey same)]
    exact ⟨mem_singleton.mpr same, rfl⟩
  · left
    rw [if_neg (mt (apart.eq_iff otherListed listed).mp same)]
    rfl

theorem lookup_foldl_erase (coords : List ChunkCoord) (storage : Table Nat ChunkView) (key : Nat) :
    (coords.foldl (fun storage coord => storage.erase (makeChunkKey coord)) storage).lookup key =
      if key ∈ coords.map makeChunkKey then none else storage.lookup key := by
  induction coords generalizing storage with
  | nil => rfl
  | cons coord rest ih =>
    rw [foldl_cons, ih, map_cons, Table.lookup_erase_eq]
    simp only [mem_cons]
    by_cases later : key ∈ rest.map makeChunkKey
    · rw [if_pos later, if_pos (Or.inr later)]
    · rw [if_neg later]
      simp only [later, or_false]

theorem changesOf_removeChunks (coords : List ChunkCoord) (coord : ChunkCoord) :
    (world.removeChunks coords).changesOf coord = world.changesOf coord := rfl

variable {distSq : ChunkCoord → Nat}

theorem farChunks_of_few (few : world.storage.keys.length ≤ MAX_CHUNKS) :
    world.farChunks distSq = [] := by
  rw [farChunks, Nat.sub_eq_zero_of_le few, take_zero]

theorem many_of_mem_farChunks (mem : coord ∈ world.farChunks distSq) :
    MAX_CHUNKS < world.storage.keys.length := by
  by_contra few
  rw [farChunks_of_few (not_lt.mp few)] at mem
  exact not_mem_nil mem

theorem mem_farChunks (mem : coord ∈ world.farChunks distSq) :
    ∃ key ∈ world.storage.keys, chunkKeyToCoord key = coord := by
  have sorted := mem_of_mem_take mem
  rw [farthestFirst, mem_insertionSort, mem_map] at sorted
  exact sorted

theorem evictFarChunks_evicts (keys : ∀ key view, world.storage.lookup key = some view →
      ∃ coord ∈ chunks, makeChunkKey coord = key) (keyed : MAX_CHUNKS < world.storage.keys.length →
      ∀ coord ∈ chunks, (world.getChunk coord).isSome → coord.Keyed) (distSq : ChunkCoord → Nat) :
    Evicts chunks world (world.farChunks distSq) (world.evictFarChunks distSq) := by
  constructor
  · intro coord mem
    obtain ⟨key, stored, rfl⟩ := mem_farChunks mem
    have found := AList.lookup_isSome.mpr stored
    obtain ⟨view, lookup⟩ := Option.isSome_iff_exists.mp found
    obtain ⟨coord, listed, rfl⟩ := keys key view lookup
    have many := many_of_mem_farChunks mem
    rwa [keyed many coord listed found]
  · intro key
    rw [evictFarChunks]
    split
    · next few => rw [farChunks_of_few few, map_nil, if_neg not_mem_nil]
    · generalize world.farChunks distSq = coords
      exact lookup_foldl_erase coords world.storage key
  · intro coord _
    left
    rw [evictFarChunks]
    split
    · rfl
    · exact changesOf_removeChunks _ coord

end World

structure Kept (chunks : Set ChunkCoord) (state : World × Told) : Prop where
  keys : ∀ key view, state.1.storage.lookup key = some view →
    ∃ coord ∈ chunks, makeChunkKey coord = key
  snapshots : ∀ coord cells, state.2.snapshots coord = some cells → coord ∈ chunks
  sound : ∀ coord ∈ chunks, ∀ view, state.1.getChunk coord = some view → view.Sound
  filed : ∀ coord ∈ chunks, ∀ key change, (state.1.changesOf coord).lookup key = some change →
    ∃ pos, pos.Keyed ∧ pos.chunkCoord = coord ∧ makeBlockPosKey pos = key
  recorded : ∀ pos block, state.2.updates pos = some block → pos.chunkCoord ∈ chunks ∧ pos.Keyed ∧
      (state.1.changesOf pos.chunkCoord).lookup (makeBlockPosKey pos) = some block
  applied : ∀ coord ∈ chunks, ∀ view key change, state.1.getChunk coord = some view →
    (state.1.changesOf coord).lookup key = some change → view.getBlock (localOfKey key) = change

namespace Kept

variable {world : World} {told : Told} {chunks : Set ChunkCoord}

theorem nothing : Kept chunks (empty, Told.nothing) where
  keys _ _ found := nomatch found
  snapshots _ _ found := nomatch found
  sound _ _ _ found := nomatch found
  filed _ _ _ _ found := nomatch found
  recorded _ _ found := nomatch found
  applied _ _ _ _ _ found := nomatch found

variable {coord : ChunkCoord}

theorem changes_apart (kept : Kept chunks (world, told)) (listed : coord ∈ chunks) :
    ChunkView.Apart (world.changesOf coord) := by
  intro key change other otherChange found otherFound same
  obtain ⟨pos, posKeyed, rfl, rfl⟩ := kept.filed coord listed key change found
  obtain ⟨otherPos, otherKeyed, sameChunk, rfl⟩ := kept.filed _ listed other otherChange otherFound
  rw [posKeyed, otherKeyed] at same
  rw [BlockPos.eq_of_parts sameChunk.symm same]

theorem recorded_at (kept : Kept chunks (world, told)) {cell : LocalPos} {block : PendingBlock}
    (heard : told.updates (coord.block cell) = some block) :
    ∃ key, localOfKey key = cell ∧ (world.changesOf coord).lookup key = some block := by
  obtain ⟨_, posKeyed, found⟩ := kept.recorded _ _ heard
  rw [chunkCoord_block] at found
  exact ⟨_, posKeyed.trans (coord.localPos_block cell), found⟩

section Steps

variable (apart : Set.InjOn makeChunkKey chunks)

include apart

variable (kept : Kept chunks (world, told))

include kept

theorem onBlockUpdate {pos : BlockPos}
    (chunk : pos.chunkCoord ∈ chunks) (keyed : pos.Keyed) {block : PendingBlock}
    (takes : ∀ view, world.getChunk pos.chunkCoord = some view →
      view.Takes pos.localPos block.blockId) :
    Kept chunks (world.onBlockUpdate pos block, told.hear (.onBlockUpdate pos block)) where
  keys key view found := by
    rw [World.onBlockUpdate] at found
    cases stored : world.storage.lookup (makeChunkKey pos.chunkCoord) with
    | none =>
      rw [stored] at found
      exact kept.keys key view found
    | some old =>
      rw [stored] at found
      by_cases same : key = makeChunkKey pos.chunkCoord
      · exact ⟨pos.chunkCoord, chunk, same.symm⟩
      · exact kept.keys key view ((Table.lookup_insert_of_ne _ _ same).symm.trans found)
  snapshots := kept.snapshots
  sound coord listed view found := by
    rw [getChunk_onBlockUpdate apart chunk block listed] at found
    split at found
    · next same =>
      obtain ⟨old, stored, rfl⟩ := Option.map_eq_some_iff.mp found
      subst same
      exact (setBlock_spec (kept.sound _ listed old stored) (takes old stored)).1
    · exact kept.sound coord listed view found
  filed coord listed key change found := by
    rw [changesOf_onBlockUpdate apart chunk block listed] at found
    split at found
    · next same =>
      rw [Table.lookup_insert_eq] at found
      split at found
      · next here => exact ⟨pos, keyed, same.symm, here.symm⟩
      · exact kept.filed coord listed key change found
    · exact kept.filed coord listed key change found
  recorded other change heard := by
    rw [Told.hear] at heard
    dsimp only at heard
    rw [Function.update_apply] at heard
    split at heard
    · next same =>
      cases heard
      subst same
      rw [changesOf_onBlockUpdate apart chunk block chunk, if_pos rfl]
      exact ⟨chunk, keyed, Table.lookup_insert_self _ _ _⟩
    · next distinct =>
      obtain ⟨otherChunk, otherKeyed, found⟩ := kept.recorded other change heard
      refine ⟨otherChunk, otherKeyed, ?_⟩
      rw [changesOf_onBlockUpdate apart chunk block otherChunk]
      split
      · next sameChunk =>
        have different : makeBlockPosKey other ≠ makeBlockPosKey pos := by
          intro same
          apply distinct
          apply BlockPos.eq_of_parts sameChunk
          rw [← otherKeyed, same, keyed]
        rw [Table.lookup_insert_of_ne _ _ different]
        exact found
      · exact found
  applied coord listed view key change stored found := by
    rw [getChunk_onBlockUpdate apart chunk block listed] at stored
    rw [changesOf_onBlockUpdate apart chunk block listed] at found
    split at stored
    · next same =>
      rw [if_pos same] at found
      obtain ⟨old, oldStored, rfl⟩ := Option.map_eq_some_iff.mp stored
      subst same
      have sound := kept.sound _ listed old oldStored
      rw [(setBlock_spec sound (takes old oldStored)).2, Function.update_apply]
      rw [Table.lookup_insert_eq] at found
      split at found
      · next here =>
        rw [here, keyed, if_pos rfl]
        exact Option.some.inj found
      rename_i elsewhere
      obtain ⟨other, otherKeyed, sameChunk, rfl⟩ := kept.filed _ listed key change found
      have different : other.localPos ≠ pos.localPos := fun samePlace =>
        elsewhere (congrArg makeBlockPosKey (BlockPos.eq_of_parts sameChunk samePlace))
      rw [otherKeyed, if_neg different, ← otherKeyed]
      exact kept.applied _ listed old _ change oldStored found
    · next elsewhere =>
      rw [if_neg elsewhere] at found
      exact kept.applied coord listed view key change stored found

theorem onChunkData {coord : ChunkCoord}
    (listed : coord ∈ chunks) (sound : (world.storedChunk wireData coord).Sound)
    (takes : (world.storedChunk wireData coord).TakesEach (world.changesOf coord).entries) :
    Kept chunks (world.onChunkData wireData coord, told.hear (.onChunkData wireData coord)) where
  keys key view found := by
    rw [World.onChunkData] at found
    by_cases same : key = makeChunkKey coord
    · exact ⟨coord, listed, same.symm⟩
    · exact kept.keys key view ((Table.lookup_insert_of_ne _ _ same).symm.trans found)
  snapshots other cells told := by
    rw [Told.hear] at told
    dsimp only at told
    by_cases same : other = coord
    · rw [same]
      exact listed
    · rw [Function.update_of_ne same] at told
      exact kept.snapshots other cells told
  sound other otherListed view found := by
    rw [getChunk_onChunkData apart wireData listed otherListed] at found
    split at found
    · cases found
      exact (replay_spec sound takes).1
    · exact kept.sound other otherListed view found
  __ := kept
  applied other otherListed view key change stored found := by
    rw [getChunk_onChunkData apart wireData listed otherListed] at stored
    split at stored
    · next same =>
      subst same
      cases stored
      exact getBlock_replay_of_lookup sound takes (kept.changes_apart listed) found
    · exact kept.applied other otherListed view key change stored found

theorem evicts {next : World} (evicts : World.Evicts chunks world coords next) :
    Kept chunks (next, told.forget coords) where
  keys key view found := by
    rw [evicts.storage] at found
    split at found
    · cases found
    · exact kept.keys key view found
  snapshots coord cells shown := by
    rw [Told.forget] at shown
    dsimp only at shown
    split at shown
    · cases shown
    · exact kept.snapshots coord cells shown
  sound coord listed view found := by
    dsimp only at found
    rw [evicts.getChunk apart listed] at found
    split at found
    · cases found
    · exact kept.sound coord listed view found
  filed coord listed key change found := by
    rcases evicts.changes coord listed with same | ⟨_, none⟩
    · rw [same] at found
      exact kept.filed coord listed key change found
    · rw [none] at found
      cases found
  recorded pos block heard := by
    rw [Told.forget] at heard
    dsimp only at heard
    split at heard
    · cases heard
    rename_i stays
    obtain ⟨chunk, posKeyed, found⟩ := kept.recorded pos block heard
    refine ⟨chunk, posKeyed, ?_⟩
    rcases evicts.changes pos.chunkCoord chunk with same | ⟨mem, _⟩
    · dsimp only
      rw [same]
      exact found
    · exact absurd mem stays
  applied coord listed view key change stored found := by
    rw [evicts.getChunk apart listed] at stored
    split at stored
    · cases stored
    rename_i stays
    rcases evicts.changes coord listed with same | ⟨mem, _⟩
    · rw [same] at found
      exact kept.applied coord listed view key change stored found
    · exact absurd mem stays

omit kept

end Steps

end Kept

@[simp] theorem Told.forget_nil (told : Told) : told.forget [] = told := by
  simp only [forget, not_mem_nil, if_false]

section

variable {chunks : Set ChunkCoord} (apart : Set.InjOn makeChunkKey chunks)

include apart

variable {state : World × Told} {input : WorldInput}

theorem Kept.step (kept : Kept chunks state) (wellFormed : WellFormed chunks state input) :
    Kept chunks (worldMachine.step state input).1 := by
  obtain ⟨world, told⟩ := state
  change Kept chunks (world.handle input, (told.hear input).forget (world.evicted input))
  cases input with
  | onBlockUpdate pos block =>
    rw [evicted, Told.forget_nil]
    exact kept.onBlockUpdate apart wellFormed.1 wellFormed.2.1 wellFormed.2.2
  | onChunkData wireData coord =>
    rw [evicted, Told.forget_nil]
    exact kept.onChunkData apart wellFormed.1 wellFormed.2.1 wellFormed.2.2
  | evictChunk coord => exact kept.evicts apart (evictChunk_evicts apart wellFormed)
  | evictFarChunks distSq => exact kept.evicts apart (evictFarChunks_evicts kept.keys wellFormed distSq)

namespace ShowsTold

variable {world : World} {told : Told}

variable (kept : Kept chunks (world, told))

include kept

variable (shows : ShowsTold (world, told))

include shows

theorem onBlockUpdate {pos : BlockPos} (chunk : pos.chunkCoord ∈ chunks) {block : PendingBlock}
    (takes : ∀ view, world.getChunk pos.chunkCoord = some view →
      view.Takes pos.localPos block.blockId) :
    ShowsTold (world.onBlockUpdate pos block, told.hear (.onBlockUpdate pos block)) := by
  intro other shown expected
  obtain ⟨cells, snapshot, rfl⟩ := Option.map_eq_some_iff.mp expected
  have otherListed := kept.snapshots _ cells snapshot
  have before := shows other _ (Option.map_eq_some_iff.mpr ⟨cells, snapshot, rfl⟩)
  obtain ⟨view, stored, value⟩ := Option.map_eq_some_iff.mp before
  rw [getBlockAt, getChunk_onBlockUpdate apart chunk block otherListed, stored]
  simp only [Told.hear, Function.update_apply]
  by_cases sameChunk : other.chunkCoord = pos.chunkCoord
  · rw [if_pos sameChunk, Option.map_some, Option.map_some]
    rw [sameChunk] at stored
    have sound := kept.sound _ chunk view stored
    rw [(setBlock_spec sound (takes view stored)).2, Function.update_apply]
    by_cases same : other = pos
    · rw [if_pos same, if_pos (congrArg BlockPos.localPos same)]
      rfl
    · rw [if_neg same, if_neg fun samePlace => same (BlockPos.eq_of_parts sameChunk samePlace)]
      exact congrArg some value
  · have different : other ≠ pos := fun same => sameChunk (congrArg BlockPos.chunkCoord same)
    rw [if_neg sameChunk, if_neg different]
    exact congrArg some value

theorem evicts {next : World} (evicts : World.Evicts chunks world coords next) :
    ShowsTold (next, told.forget coords) := by
  intro pos shown expected
  obtain ⟨cells, snapshot, rfl⟩ := Option.map_eq_some_iff.mp expected
  rw [Told.forget] at snapshot ⊢
  dsimp only at snapshot ⊢
  split at snapshot
  · cases snapshot
  rename_i stays
  rw [if_neg stays, getBlockAt, evicts.getChunk apart (kept.snapshots _ cells snapshot),
    if_neg stays]
  exact shows pos _ (Option.map_eq_some_iff.mpr ⟨cells, snapshot, rfl⟩)

theorem onChunkData_iff (wireData : List UInt8) {coord : ChunkCoord} (listed : coord ∈ chunks) :
    ShowsTold (world.onChunkData wireData coord, told.hear (.onChunkData wireData coord)) ↔ ∀ cell,
        ((world.storedChunk wireData coord).replay (world.changesOf coord).entries).getBlock cell =
          (told.updates (coord.block cell)).getD ((ofWire wireData).getBlock cell) := by
  constructor
  · intro shows cell
    have shown := shows (coord.block cell)
      ((told.updates (coord.block cell)).getD ((ofWire wireData).getBlock cell))
    rw [Told.expected, Told.hear, chunkCoord_block, localPos_block, getBlockAt_onChunkData] at shown
    dsimp only at shown
    rw [Function.update_self] at shown
    exact Option.some.inj (shown rfl)
  · intro cells pos shown expected
    rw [Told.expected, Told.hear] at expected
    dsimp only at expected
    by_cases here : pos.chunkCoord = coord
    · subst here
      rw [Function.update_self] at expected
      have shown : (world.onChunkData wireData pos.chunkCoord).getBlockAt _ = _ :=
        getBlockAt_onChunkData wireData pos.chunkCoord pos.localPos
      rw [cells, BlockPos.block_parts] at shown
      exact shown.trans expected
    · rw [Function.update_of_ne here] at expected
      obtain ⟨old, snapshot, _⟩ := Option.map_eq_some_iff.mp expected
      have otherListed := kept.snapshots _ old snapshot
      rw [getBlockAt, getChunk_onChunkData apart wireData listed otherListed, if_neg here]
      exact shows pos shown expected

omit shows

omit kept

end ShowsTold

section Replay

variable {world : World} {told : Told} (kept : Kept chunks (world, told)) {wireData : List UInt8}
  {coord : ChunkCoord} (listed : coord ∈ chunks) (sound : (world.storedChunk wireData coord).Sound)
  (takes : (world.storedChunk wireData coord).TakesEach (world.changesOf coord).entries)

omit apart

include kept listed sound takes

theorem replay_of_loaded {view : ChunkView} (stored : world.getChunk coord = some view)
    (cell : LocalPos) :
    ((world.storedChunk wireData coord).replay (world.changesOf coord).entries).getBlock cell =
      view.getBlock cell := by
  by_cases recorded : ∃ key change, (world.changesOf coord).lookup key = some change ∧
      localOfKey key = cell
  · obtain ⟨key, change, found, rfl⟩ := recorded
    rw [getBlock_replay_of_lookup sound takes (kept.changes_apart listed) found]
    exact (kept.applied coord listed view key change stored found).symm
  · rw [getBlock_replay_of_none sound takes fun key change found same =>
      recorded ⟨key, change, found, same⟩]
    rw [storedChunk, stored, Option.getD_some]

theorem replay_told_iff : (∀ cell,
      ((world.storedChunk wireData coord).replay (world.changesOf coord).entries).getBlock cell =
        (told.updates (coord.block cell)).getD ((ofWire wireData).getBlock cell)) ↔
      Agrees (world, told) (.onChunkData wireData coord) := by
  have applied : ∀ {key change}, (world.changesOf coord).lookup key = some change → _ :=
    getBlock_replay_of_lookup sound takes (kept.changes_apart listed)
  rw [Agrees]
  cases stored : world.getChunk coord with
  | none =>
    constructor
    · intro cells key change found unheard
      have cell := cells (localOfKey key)
      rwa [applied found, unheard, Option.getD_none] at cell
    intro agrees cell
    cases heard : told.updates (coord.block cell) with
    | some block =>
      obtain ⟨key, rfl, found⟩ := kept.recorded_at heard
      exact applied found
    | none =>
      by_cases recorded : ∃ key change, (world.changesOf coord).lookup key = some change ∧
          localOfKey key = cell
      · obtain ⟨key, change, found, rfl⟩ := recorded
        exact (applied found).trans (agrees key change found heard)
      · rw [getBlock_replay_of_none sound takes fun key change found same =>
          recorded ⟨key, change, found, same⟩, storedChunk, stored]
        rfl
  | some view =>
    have unchanged := replay_of_loaded kept listed sound takes stored
    constructor
    · intro cells cell unheard
      have shown := cells cell
      rwa [unchanged, unheard, Option.getD_none] at shown
    intro agrees cell
    rw [unchanged]
    cases heard : told.updates (coord.block cell) with
    | some block =>
      obtain ⟨key, rfl, found⟩ := kept.recorded_at heard
      exact kept.applied coord listed view key block stored found
    | none => exact agrees cell heard

end Replay

theorem showsTold_step_iff (kept : Kept chunks state) (wellFormed : WellFormed chunks state input)
    (shows : ShowsTold state) :
    ShowsTold (worldMachine.step state input).1 ↔ Agrees state input := by
  obtain ⟨world, told⟩ := state
  change ShowsTold (world.handle input, (told.hear input).forget (world.evicted input)) ↔ _
  cases input with
  | onBlockUpdate pos block =>
    rw [evicted, Told.forget_nil]
    exact iff_of_true (shows.onBlockUpdate apart kept wellFormed.1 wellFormed.2.2) trivial
  | onChunkData wireData coord =>
    obtain ⟨listed, sound, takes⟩ := wellFormed
    rw [evicted, Told.forget_nil]
    exact (shows.onChunkData_iff apart kept wireData listed).trans
      (replay_told_iff kept listed sound takes)
  | evictChunk coord =>
    exact iff_of_true (shows.evicts apart kept (evictChunk_evicts apart wellFormed)) trivial
  | evictFarChunks distSq =>
    exact iff_of_true (shows.evicts apart kept (evictFarChunks_evicts kept.keys wellFormed distSq)) trivial

end

/-- The client shows what it was told throughout a run exactly when no replay brings back
a change from before an eviction, and no second snapshot has another content. -/
theorem showsTold_always_iff {chunks : Set ChunkCoord} (apart : Set.InjOn makeChunkKey chunks)
    {inputs : List WorldInput}
    (wellFormed : worldMachine.Along (WellFormed chunks) (World.empty, Told.nothing) inputs) :
    (∀ before after, inputs = before ++ after →
        ShowsTold (worldMachine.final (World.empty, Told.nothing) before)) ↔
      worldMachine.Along Agrees (World.empty, Told.nothing) inputs :=
  worldMachine.always_iff_within (Kept chunks) (fun _ _ kept => kept.step apart)
    (fun _ _ kept wellFormed => showsTold_step_iff apart kept wellFormed)
    Kept.nothing (fun _ _ expected => nomatch expected) wellFormed

def airData : List UInt8 :=
  [0x47, 0x43, 0x48, 0x4B, 2, 8] ++ (replicate 8 [1, 0, 0, 0, 0, 0, 0, 0, 0]).flatten

theorem showsTold_always_of_update : (∀ before after,
        [.onBlockUpdate ⟨3, 4, 5⟩ ⟨7, 0, 0⟩, .onChunkData [] ⟨0, 0, 0⟩] = before ++ after →
          ShowsTold (worldMachine.final (World.empty, Told.nothing) before)) ↔
      worldMachine.Along Agrees (World.empty, Told.nothing)
        [.onBlockUpdate ⟨3, 4, 5⟩ ⟨7, 0, 0⟩, .onChunkData [] ⟨0, 0, 0⟩] := by
  apply showsTold_always_iff ChunkCoord.keyed_injOn
  have keyed : (⟨0, 0, 0⟩ : ChunkCoord).Keyed := by
    unfold ChunkCoord.Keyed
    decide
  have place : (⟨3, 4, 5⟩ : BlockPos).Keyed := by
    unfold BlockPos.Keyed
    decide
  refine ⟨⟨keyed, place, nofun⟩, ⟨keyed, ?_, ?_, trivial⟩, trivial⟩
  · exact ⟨_, rfl, ChunkStore.MutableChunk.empty_sound⟩
  intro chunk stored
  obtain rfl : ChunkStore.MutableChunk.empty = chunk := Option.some.inj stored
  rintro ⟨data, flat, _⟩
  cases flat

section StaleChange

def onlyFar (far coord : ChunkCoord) : Nat := if coord = far then 1 else 0

theorem mem_farChunks_onlyFar {world : World} {far : ChunkCoord} (keyed : far.Keyed)
    (stored : (world.getChunk far).isSome) (many : MAX_CHUNKS < world.storage.keys.length) :
    far ∈ world.farChunks (onlyFar far) := by
  have listed : far ∈ farthestFirst (onlyFar far) (world.storage.keys.map chunkKeyToCoord) := by
    rw [farthestFirst, mem_insertionSort]
    exact mem_map.mpr ⟨makeChunkKey far, AList.lookup_isSome.mp stored, keyed⟩
  have sorted : (farthestFirst (onlyFar far) (world.storage.keys.map chunkKeyToCoord)).Pairwise
      fun first second => onlyFar far second ≤ onlyFar far first := by
    exact pairwise_insertionSort _ _
  obtain ⟨excess, rest⟩ := Nat.exists_eq_add_of_lt many
  have room : world.storage.keys.length - MAX_CHUNKS = excess + 1 := by omega
  rw [farChunks, room]
  cases order : farthestFirst (onlyFar far) (world.storage.keys.map chunkKeyToCoord) with
  | nil =>
    rw [order] at listed
    exact absurd listed not_mem_nil
  | cons first later =>
    rw [order] at listed sorted
    rw [take_succ_cons]
    rcases mem_cons.mp listed with rfl | behind
    · exact mem_cons_self
    have distance := (pairwise_cons.mp sorted).1 far behind
    by_cases same : first = far
    · rw [same]
      exact mem_cons_self
    · rw [onlyFar, onlyFar, if_pos rfl, if_neg same] at distance
      exact absurd distance (by decide)

theorem final_loads (wireData : List UInt8) (coords : List ChunkCoord) (world : World)
    (told : Told) : ∃ next heard,
      worldMachine.final (world, told) (coords.map (.onChunkData wireData)) = (next, heard) ∧
        next.pendingChanges = world.pendingChanges ∧ heard.updates = told.updates ∧
        ∀ key, key ∈ next.storage.keys ↔
          key ∈ coords.map makeChunkKey ∨ key ∈ world.storage.keys := by
  induction coords generalizing world told with
  | nil => exact ⟨world, told, rfl, rfl, rfl, fun key => by simp⟩
  | cons coord rest ih =>
    obtain ⟨next, heard, run, changes, updates, keys⟩ := ih
      (world.onChunkData wireData coord) ((told.hear (.onChunkData wireData coord)).forget [])
    refine ⟨next, heard, run, changes, ?_, ?_⟩
    · rw [updates, Told.forget_nil]
      rfl
    intro key
    rw [keys, onChunkData]
    change _ ∨ key ∈ AList.insert _ _ world.storage ↔ _
    rw [AList.mem_insert, map_cons, mem_cons]
    change _ ∨ _ ∨ key ∈ world.storage.keys ↔ _
    tauto

def origin : ChunkCoord := ⟨0, 0, 0⟩

def corner : LocalPos := ⟨0, 0, 0⟩

def row (count : Nat) : List ChunkCoord := (range count).map fun x : Nat => ⟨(x : Int), 0, 0⟩

def staleRun : List WorldInput :=
  [.onBlockUpdate ⟨0, 0, 0⟩ ⟨7, 0, 0⟩] ++ (row (MAX_CHUNKS + 1)).map (.onChunkData airData) ++
    [.evictFarChunks (onlyFar origin), .onChunkData airData origin]

theorem final_reload (world : World) (told : Told) (distSq : ChunkCoord → Nat)
    (wireData : List UInt8) (coord : ChunkCoord) :
    worldMachine.final (world, told) [.evictFarChunks distSq, .onChunkData wireData coord] =
      ((world.evictFarChunks distSq).onChunkData wireData coord,
        (told.forget (world.farChunks distSq)).hear (.onChunkData wireData coord)) := by
  simp only [Machine.final, worldMachine, handle, evicted, Told.hear, Told.forget_nil]

variable {coord : ChunkCoord}

theorem Told.expected_reloaded (told : Told) (evicted : coord ∈ coords) (wireData : List UInt8)
    (cell : LocalPos) :
    ((told.forget coords).hear (.onChunkData wireData coord)).expected (coord.block cell) =
      some ((ofWire wireData).getBlock cell) := by
  simp only [expected, hear, forget, chunkCoord_block, localPos_block,
    Function.update_self, if_pos evicted, Option.map_some, Option.getD_none]

theorem inField_zero : InField 0 := ⟨by decide, by decide⟩

variable {count : Nat}

theorem row_keyed (few : count ≤ 2 ^ 20) (mem : coord ∈ row count) : coord.Keyed := by
  obtain ⟨x, small, rfl⟩ := mem_map.mp mem
  have below := mem_range.mp small
  apply keyed_of_inField
  · unfold InField chunkKeyBias
    dsimp only
    omega
  · exact inField_zero
  · exact inField_zero

theorem row_keys_nodup (few : count ≤ 2 ^ 20) : ((row count).map makeChunkKey).Nodup := by
  apply List.Nodup.map_on
  · intro coord mem other otherMember same
    exact keyed_injOn (row_keyed few mem) (row_keyed few otherMember) same
  · apply List.Nodup.map _ nodup_range
    intro x other same
    exact Int.ofNat.inj (mk.inj same).1

theorem origin_mem_row (some : 0 < count) : origin ∈ row count :=
  mem_map.mpr ⟨0, mem_range.mpr some, rfl⟩

theorem stale_change_returns :
    ¬ ShowsTold (worldMachine.final (World.empty, Told.nothing) staleRun) := by
  intro shows
  have few : MAX_CHUNKS + 1 ≤ 2 ^ 20 := by decide
  obtain ⟨next, heard, run, changes, updates, keys⟩ := final_loads airData (row (MAX_CHUNKS + 1))
    (World.empty.onBlockUpdate ⟨0, 0, 0⟩ ⟨7, 0, 0⟩)
    ((Told.nothing.hear (.onBlockUpdate ⟨0, 0, 0⟩ ⟨7, 0, 0⟩)).forget [])
  have mem := origin_mem_row (Nat.zero_lt_succ MAX_CHUNKS)
  have stored : (next.getChunk origin).isSome := by
    apply AList.lookup_isSome.mpr
    exact (keys _).mpr (Or.inl (mem_map_of_mem mem))
  have many : MAX_CHUNKS < next.storage.keys.length := by
    have within := subperm_of_subset (row_keys_nodup few) fun key mem =>
      (keys key).mpr (Or.inl mem)
    have fewer := within.length_le
    rw [length_map, row, length_map, length_range] at fewer
    exact fewer
  have evicted := mem_farChunks_onlyFar (row_keyed few mem) stored many
  have placed : worldMachine.final (World.empty, Told.nothing)
      [.onBlockUpdate ⟨0, 0, 0⟩ ⟨7, 0, 0⟩] =
    (World.empty.onBlockUpdate ⟨0, 0, 0⟩ ⟨7, 0, 0⟩,
      (Told.nothing.hear (.onBlockUpdate ⟨0, 0, 0⟩ ⟨7, 0, 0⟩)).forget []) := rfl
  rw [staleRun, Machine.final_append, Machine.final_append, placed, run, final_reload] at shows
  have air : (ChunkView.ofWire airData).getBlock corner = ⟨0, 0, 0⟩ := by decide +kernel
  have stale : ((ChunkView.ofWire airData).replay
      [⟨makeBlockPosKey ⟨0, 0, 0⟩, ⟨7, 0, 0⟩⟩]).getBlock corner = ⟨7, 0, 0⟩ := by decide +kernel
  have gone : (next.evictFarChunks (onlyFar origin)).getChunk origin = none := by
    rw [World.evictFarChunks, if_neg (not_le.mpr many), World.getChunk, World.removeChunks,
      World.lookup_foldl_erase, if_pos (mem_map_of_mem evicted)]
  have left : ((next.evictFarChunks (onlyFar origin)).changesOf origin).entries =
      [⟨makeBlockPosKey ⟨0, 0, 0⟩, ⟨7, 0, 0⟩⟩] := by
    rw [World.evictFarChunks, if_neg (not_le.mpr many), World.changesOf_removeChunks,
      World.changesOf, changes]
    decide
  have shown := shows (origin.block corner) _
    (Told.expected_reloaded heard evicted airData corner)
  rw [World.getBlockAt_onChunkData, World.storedChunk, gone, left, Option.getD_none, stale,
    air] at shown
  exact absurd shown (by decide)

end StaleChange

section ServedChunks

open ChunkStore (BlockStore MutableChunk StoreOp makeKey SEC_VOL SEC_CNT)

def ChunkCoord.ofStore (coord : ChunkStore.ChunkCoord) : ChunkCoord :=
  ⟨coord.x.toInt, coord.y.toInt, coord.z.toInt⟩

theorem getBlock_ofWire {content : ChunkStore.Content}
    (reads : MutableChunk.wireContent wire = some content) (cell : LocalPos) :
    (((ofWire wire).getBlock cell).blockId, ((ofWire wire).getBlock cell).metadata) =
      content cell := by
  obtain ⟨chunk, decodes, rfl⟩ := Option.map_eq_some_iff.mp reads
  have some : wire ≠ [] := by
    rintro rfl
    cases decodes
  rw [ofWire, if_neg some, decodes]
  rfl

/-- What the store serves of a chunk after a run is what a client without the chunk
then shows. -/
theorem served_chunk_shown
    (generateTerrain : ChunkStore.ChunkCoord → Fin (SEC_VOL * SEC_CNT) → UInt16)
    {stored : Table Int64 (List UInt8)}
    (decodes : ∀ key wire, stored.lookup key = some wire → MutableChunk.Decodes wire)
    (ops : List StoreOp) (coord : ChunkStore.ChunkCoord)
    (apart : Set.InjOn makeKey (BlockStore.Named (ops ++ [.asyncGetChunk coord])))
    (safe : (BlockStore.machine generateTerrain).Along BlockStore.Safe (.opened stored)
      (ops ++ [.asyncGetChunk coord])) (world : World)
    (unloaded : world.getChunk (ofStore coord) = none)
    (untouched : world.changesOf (ofStore coord) = ∅) (cell : LocalPos) :
    ∃ wire block, (((BlockStore.machine generateTerrain).final (.opened stored) ops).asyncGetChunk
        generateTerrain coord).2 = some wire ∧
      (world.onChunkData wire (ofStore coord)).getBlockAt ((ofStore coord).block cell) =
        some block ∧ (block.blockId, block.metadata) =
          ((ChunkStore.World.machine generateTerrain).final (.ofStored stored) ops).known coord
            (.ofBlocks (generateTerrain coord)) cell := by
  rw [Machine.along_append] at safe
  obtain ⟨before, storable, -⟩ := safe
  have agrees := (BlockStore.opened_agrees decodes).final generateTerrain apart
    (fun _ named => named.imp fun _ => And.imp_left (mem_append_left _)) before
  have known := agrees.known coord ⟨_, mem_append_right _ mem_cons_self, rfl⟩
  obtain ⟨served, -⟩ := BlockStore.asyncGetChunk_spec generateTerrain agrees.sound known storable
  obtain ⟨wire, reply, reads⟩ := Option.bind_eq_some_iff.mp served
  refine ⟨wire, _, reply, getBlockAt_onChunkData wire _ cell, ?_⟩
  rw [storedChunk, unloaded, untouched]
  exact getBlock_ofWire reads cell

theorem terrain_shown : ∃ wire block,
    ((BlockStore.opened ∅).asyncGetChunk (fun _ _ => 3) ⟨0, 0, 0⟩).2 = some wire ∧
      (World.empty.onChunkData wire ⟨0, 0, 0⟩).getBlockAt ⟨0, 0, 0⟩ = some block ∧
        (block.blockId, block.metadata) = (3, 0) := by
  have nothing : ∀ key wire, AList.lookup key (∅ : Table Int64 (List UInt8)) = some wire →
      MutableChunk.Decodes wire := by
    rintro key wire ⟨⟩
  have alone : Set.InjOn makeKey (BlockStore.Named [.asyncGetChunk ⟨0, 0, 0⟩]) := by
    rintro first ⟨op, mem, names⟩ second ⟨other, there, named⟩ -
    cases mem_singleton.mp mem
    cases mem_singleton.mp there
    exact Option.some.inj (names.symm.trans named)
  exact served_chunk_shown (fun _ _ => 3) nothing [] ⟨0, 0, 0⟩ alone
    ⟨by rintro _ ⟨⟩, trivial⟩ .empty rfl rfl ⟨0, 0, 0⟩

end ServedChunks

end GtnhPlatform.Client
