import GtnhPlatform.PipeNetwork.PendingCancellation
import Mathlib.Data.List.Nodup

namespace GtnhPlatform.PipeNetwork

open List PipeNetworkManager.SameBlocks

theorem pipePosKey_eq (position : Position) :
    pipePosKey position = (position.x % 2 ^ 22).toNat * 2 ^ 42 +
      ((position.y % 2 ^ 20).toNat * 2 ^ 20 + (position.z % 2 ^ 20).toNat) := by
  have yBound : (position.y % 2 ^ 20).toNat < 2 ^ 20 := by omega
  have zBound : (position.z % 2 ^ 20).toNat < 2 ^ 20 := by omega
  unfold pipePosKey
  generalize (position.x % 2 ^ 22).toNat = x
  generalize (position.y % 2 ^ 20).toNat = y at yBound ⊢
  generalize (position.z % 2 ^ 20).toNat = z at zBound ⊢
  have low : y <<< 20 + z = y <<< 20 ||| z := Nat.shiftLeft_add_eq_or_of_lt zBound y
  have lowBound : y <<< 20 + z < 2 ^ 42 := by
    rw [Nat.shiftLeft_eq]
    omega
  rw [Nat.or_assoc, ← low, ← Nat.shiftLeft_add_eq_or_of_lt lowBound, Nat.shiftLeft_eq,
    Nat.shiftLeft_eq]

namespace PipeNetworkService

theorem worldPosition_key_inj (chunk : ChunkBlocks) (bounds : lx < 32 ∧ ly < 32 ∧ lz < 32)
    (otherBounds : mx < 32 ∧ my < 32 ∧ mz < 32)
    (same : pipePosKey (chunk.worldPosition lx ly lz) = pipePosKey (chunk.worldPosition mx my mz)) :
    lx = mx ∧ ly = my ∧ lz = mz := by
  rw [pipePosKey_eq, pipePosKey_eq] at same
  simp only [ChunkBlocks.worldPosition] at same
  refine ⟨?_, ?_, ?_⟩ <;> omega

theorem mem_row_keys {chunk : ChunkBlocks}
    (mem : key ∈ ((range 32).filterMap fun lx =>
      if isPipeBlock (chunk.getBlock lx ly lz) then
        some (SnapshotPipeBlock.mk (chunk.worldPosition lx ly lz) (chunk.getBlock lx ly lz)
          (chunk.getMeta lx ly lz))
      else none).map fun pipe => pipePosKey pipe.position) :
    ∃ lx < 32, key = pipePosKey (chunk.worldPosition lx ly lz) := by
  obtain ⟨pipe, listed, rfl⟩ := mem_map.mp mem
  obtain ⟨lx, inRange, chosen⟩ := mem_filterMap.mp listed
  split at chosen
  · cases chosen
    exact ⟨lx, mem_range.mp inRange, rfl⟩
  · cases chosen

theorem row_keys_nodup (chunk : ChunkBlocks) (boundY : ly < 32) (boundZ : lz < 32) :
    (((range 32).filterMap fun lx =>
      if isPipeBlock (chunk.getBlock lx ly lz) then
        some (SnapshotPipeBlock.mk (chunk.worldPosition lx ly lz) (chunk.getBlock lx ly lz)
          (chunk.getMeta lx ly lz))
      else none).map fun pipe => pipePosKey pipe.position).Nodup := by
  rw [List.Nodup, pairwise_map, pairwise_filterMap]
  apply nodup_range.imp_of_mem
  intro lx mx inRange inOther distinct first chosen second otherChosen same
  split at chosen
  · split at otherChosen
    · cases chosen
      cases otherChosen
      have agree := worldPosition_key_inj chunk ⟨mem_range.mp inRange, boundY, boundZ⟩
        ⟨mem_range.mp inOther, boundY, boundZ⟩ same
      exact distinct agree.1
    · cases otherChosen
  · cases chosen

theorem snapshotPipes_keys_nodup (chunk : ChunkBlocks) :
    ((snapshotPipes chunk).map fun pipe => pipePosKey pipe.position).Nodup := by
  rw [snapshotPipes, map_flatMap, nodup_flatMap]
  constructor
  · intro ly inY
    rw [map_flatMap, nodup_flatMap]
    constructor
    · intro lz inZ
      exact row_keys_nodup chunk (mem_range.mp inY) (mem_range.mp inZ)
    apply nodup_range.imp_of_mem
    intro lz mz inZ inOther distinct key first second
    obtain ⟨lx, boundX, keyEq⟩ := mem_row_keys first
    obtain ⟨mx, otherX, otherEq⟩ := mem_row_keys second
    have agree := worldPosition_key_inj chunk
      ⟨boundX, mem_range.mp inY, mem_range.mp inZ⟩
      ⟨otherX, mem_range.mp inY, mem_range.mp inOther⟩ (keyEq.symm.trans otherEq)
    exact distinct agree.2.2
  · apply nodup_range.imp_of_mem
    intro ly my inY inOther distinct key first second
    simp only [map_flatMap] at first second
    obtain ⟨lz, inZ, inRow⟩ := mem_flatMap.mp first
    obtain ⟨mz, inOtherZ, inOtherRow⟩ := mem_flatMap.mp second
    obtain ⟨lx, boundX, keyEq⟩ := mem_row_keys inRow
    obtain ⟨mx, otherX, otherEq⟩ := mem_row_keys inOtherRow
    have agree := worldPosition_key_inj chunk
      ⟨boundX, mem_range.mp inY, mem_range.mp inZ⟩
      ⟨otherX, mem_range.mp inOther, mem_range.mp inOtherZ⟩ (keyEq.symm.trans otherEq)
    exact distinct agree.2.1

variable {service : PipeNetworkService}

theorem removePipeAt_nodeAt (service : PipeNetworkService) (key : Nat) (site : Site) :
    (service.removePipeAt key).1.nodeAt site =
      if site = .pipe key then none else service.nodeAt site := by
  unfold removePipeAt
  cases held : service.pipeNodes.lookup key with
  | none =>
    by_cases here : site = .pipe key
    · rw [if_pos here, here]
      exact held
    · rw [if_neg here]
  | some nodeId =>
    cases site with
    | pipe other =>
      simp only [nodeAt, Site.pipe.injEq]
      exact Table.lookup_erase_eq _ _ _
    | cable other => rfl

theorem removeMissing_spec (books : NodeBooks service) (current previous : List Nat) :
    Outside (fun site => ∃ key ∈ previous, key ∉ current ∧ site = .pipe key) service
        (removeMissing current service previous).1 ∧
      RemovalLog (removeMissing current service previous).2 fun nodeId =>
        ∃ key ∈ previous, key ∉ current ∧ service.nodeAt (.pipe key) = some nodeId := by
  induction previous generalizing service with
  | nil =>
    refine ⟨Outside.refl books, ?_⟩
    exact (removalLog_map []).congr (by simp)
  | cons oldKey rest ih =>
    unfold removeMissing
    by_cases kept : oldKey ∈ current
    · obtain ⟨outside, log⟩ := ih books
      rw [if_pos kept]
      refine ⟨outside.mono ?_, log.congr ?_⟩
      · rintro site ⟨key, mem, absent, rfl⟩
        exact ⟨key, mem_cons_of_mem _ mem, absent, rfl⟩
      · intro nodeId
        simp [kept]
    · rw [if_neg kept]
      cases held : service.pipeNodes.lookup oldKey with
      | none =>
        obtain ⟨outside, log⟩ := ih books
        refine ⟨outside.mono ?_, log.congr ?_⟩
        · rintro site ⟨key, mem, absent, rfl⟩
          exact ⟨key, mem_cons_of_mem _ mem, absent, rfl⟩
        · intro nodeId
          simp [nodeAt, held]
      | some oldNode =>
        have removed := removePipeAt_outside books oldKey
        have unmasked : Outside (· = .pipe oldKey) service
            { (service.removePipeAt oldKey).1 with
              pipeMeta := (service.removePipeAt oldKey).1.pipeMeta.erase oldKey } :=
          removed.trans (Outside.of_quiet removed.books ⟨refl _, rfl, rfl, rfl, rfl⟩)
        obtain ⟨outside, log⟩ := ih unmasked.books
        refine ⟨(unmasked.mono ?_).trans (outside.mono ?_), ?_⟩
        · rintro site rfl
          exact ⟨oldKey, mem_cons_self, kept, rfl⟩
        · rintro site ⟨key, mem, absent, rfl⟩
          exact ⟨key, mem_cons_of_mem _ mem, absent, rfl⟩
        refine ((removePipeAt_log books oldKey).append log).congr ?_
        intro nodeId
        change service.nodeAt (.pipe oldKey) = some nodeId ∨ (∃ key ∈ rest,
          key ∉ current ∧ (service.removePipeAt oldKey).1.nodeAt (.pipe key) = some nodeId) ↔ _
        simp only [removePipeAt_nodeAt, Site.pipe.injEq]
        constructor
        · rintro (here | ⟨key, mem, absent, there⟩)
          · exact ⟨oldKey, mem_cons_self, kept, here⟩
          · split at there
            · cases there
            · exact ⟨key, mem_cons_of_mem _ mem, absent, there⟩
        · rintro ⟨key, mem, absent, there⟩
          by_cases same : key = oldKey
          · rw [same] at there
            exact Or.inl there
          · have later := (mem_cons.mp mem).resolve_left same
            exact Or.inr ⟨key, later, absent, by rw [if_neg same]; exact there⟩

theorem registerSnapshot_spec (books : NodeBooks service) {pipes : List SnapshotPipeBlock}
    (distinct : (pipes.map fun pipe => pipePosKey pipe.position).Nodup) :
    Outside (fun site => ∃ pipe ∈ pipes, site = .pipe (pipePosKey pipe.position)) service
        (registerSnapshot service pipes).1 ∧
      RemovalLog (registerSnapshot service pipes).2 fun nodeId => ∃ pipe ∈ pipes,
        service.nodeAt (.pipe (pipePosKey pipe.position)) = some nodeId ∧
          service.networkManager.blockOf nodeId ≠ some pipe.blockId := by
  induction pipes generalizing service with
  | nil =>
    refine ⟨Outside.refl books, ?_⟩
    exact (removalLog_map []).congr (by simp)
  | cons pipe rest ih =>
    obtain ⟨fresh, restDistinct⟩ := nodup_cons.mp distinct
    have first := registerPipeBlock_outside books pipe.position pipe.blockId pipe.blockMeta
    obtain ⟨outside, log⟩ := ih first.books restDistinct
    have apart : ∀ other ∈ rest,
        Site.pipe (pipePosKey other.position) ≠ .pipe (pipePosKey pipe.position) := by
      intro other mem same
      exact fresh (mem_map.mpr ⟨other, mem, Site.pipe.inj same⟩)
    refine ⟨(first.mono ?_).trans (outside.mono ?_), ?_⟩
    · rintro site rfl
      exact ⟨pipe, mem_cons_self, rfl⟩
    · rintro site ⟨other, mem, rfl⟩
      exact ⟨other, mem_cons_of_mem _ mem, rfl⟩
    refine ((registerPipeBlock_log books pipe.position pipe.blockId
      pipe.blockMeta).append log).congr ?_
    intro nodeId
    constructor
    · rintro (here | ⟨other, mem, held, differs⟩)
      · exact ⟨pipe, mem_cons_self, here⟩
      · rw [first.sites _ (apart other mem)] at held
        rw [first.blocks _ nodeId (apart other mem) held] at differs
        exact ⟨other, mem_cons_of_mem _ mem, held, differs⟩
    · rintro ⟨other, mem, held, differs⟩
      rcases mem_cons.mp mem with rfl | later
      · exact Or.inl ⟨held, differs⟩
      refine Or.inr ⟨other, later, ?_, ?_⟩
      · rw [first.sites _ (apart other later)]
        exact held
      · rw [first.blocks _ nodeId (apart other later) held]
        exact differs

theorem handleChunkLoaded_quiet (service : PipeNetworkService) (chunk : ChunkBlocks) :
    Quiet (registerSnapshot
        (removeMissing ((snapshotPipes chunk).map fun pipe => pipePosKey pipe.position) service
          ((service.chunkPipePositions.lookup chunk.coord).getD [])).1 (snapshotPipes chunk)).1
      (service.handleChunkLoaded chunk).1 := by
  unfold handleChunkLoaded
  simp only [continueWith]
  generalize (registerSnapshot _ (snapshotPipes chunk)).1 = registered
  have remembered : Quiet registered
      { registered with
        chunkPipePositions := AList.insert chunk.coord
          ((snapshotPipes chunk).map fun pipe => pipePosKey pipe.position)
          registered.chunkPipePositions } :=
    ⟨refl _, rfl, rfl, rfl, rfl⟩
  exact remembered.trans ((Quiet.refreshSnapshot _ _).trans
    (Quiet.withManager (rebuildItemNetworks _)))

theorem handleChunkLoaded_spec (books : NodeBooks service) (chunk : ChunkBlocks) :
    NodeBooks (service.handleChunkLoaded chunk).1 ∧
      (service.handleChunkLoaded chunk).1.consumeTracker = service.consumeTracker ∧
      RemovalLog (service.handleChunkLoaded chunk).2 (service.ChunkDisplaces chunk) := by
  obtain ⟨missing, missingLog⟩ := removeMissing_spec books
    ((snapshotPipes chunk).map fun pipe => pipePosKey pipe.position)
    ((service.chunkPipePositions.lookup chunk.coord).getD [])
  obtain ⟨present, presentLog⟩ :=
    registerSnapshot_spec missing.books (snapshotPipes_keys_nodup chunk)
  have listed : ∀ pipe ∈ snapshotPipes chunk, ¬ ∃ key ∈ (service.chunkPipePositions.lookup
      chunk.coord).getD [], key ∉ (snapshotPipes chunk).map (fun pipe => pipePosKey pipe.position) ∧
        Site.pipe (pipePosKey pipe.position) = .pipe key := by
    rintro pipe mem ⟨key, _, absent, same⟩
    exact absent (mem_map.mpr ⟨pipe, mem, Site.pipe.inj same⟩)
  have rest := handleChunkLoaded_quiet service chunk
  refine ⟨rest.books present.books, rest.tracker.trans (present.tracker.trans missing.tracker), ?_⟩
  · refine (missingLog.append presentLog).congr ?_
    intro nodeId
    rw [ChunkDisplaces]
    apply or_congr Iff.rfl
    constructor
    · rintro ⟨pipe, mem, held, differs⟩
      rw [missing.sites _ (listed pipe mem)] at held
      rw [missing.blocks _ nodeId (listed pipe mem) held] at differs
      exact ⟨pipe, mem, held, differs⟩
    · rintro ⟨pipe, mem, held, differs⟩
      refine ⟨pipe, mem, ?_, ?_⟩
      · rw [missing.sites _ (listed pipe mem)]
        exact held
      · rw [missing.blocks _ nodeId (listed pipe mem) held]
        exact differs

end PipeNetworkService

end GtnhPlatform.PipeNetwork
