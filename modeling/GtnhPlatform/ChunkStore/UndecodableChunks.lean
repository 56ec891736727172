import GtnhPlatform.ChunkStore.BlockMapLaw

namespace GtnhPlatform.ChunkStore

open List

def StoreReply.Succeeds : StoreReply → Prop
  | .done success => success = true
  | .swapped result => result.status = .ok
  | .chunk found => found.isSome = true
  | .block _ | .metadata _ | .palette _ => False

namespace StoreOp

def On (c : ChunkCoord) : StoreOp → Prop
  | .setBlock pos _ _ _ | .casBlock pos _ _ _ => pos.chunkCoord = c
  | .getChunk coord => coord = c
  | .flushDirtyChunks => True
  | _ => False

def IsSetBlock (op : StoreOp) :
    Prop := ∃ pos id value leftover, op = .setBlock pos id value leftover

end StoreOp

namespace BlockStore

structure Undecodable (state : BlockStore) (key : Int64) (wire : List UInt8) : Prop where
  uncached : state.cache.lookup key = none
  settled : state.pendingLmdb.lookup key = none
  stored : state.stored.lookup key = some wire
  rejected : MutableChunk.fromWire wire = none

variable (generateTerrain : ChunkCoord → Fin (SEC_VOL * SEC_CNT) → UInt16) {state : BlockStore}
  {key : Int64} {wire : List UInt8} {c : ChunkCoord} {op : StoreOp}

/-- No success is reported, and LMDB holds what it held. -/
def Refuses (key : Int64) (wire : List UInt8) (state : BlockStore) (op : StoreOp) : Prop :=
  (∀ reply ∈ (state.handle generateTerrain op).2, ¬reply.Succeeds) ∧
    (state.handle generateTerrain op).1.stored.lookup key = some wire

theorem Undecodable.flushKeys (undecodable : state.Undecodable key wire) (keys : List Int64) :
    (state.flushKeys keys).1.Undecodable key wire := by
  induction keys generalizing state with
  | nil => exact undecodable
  | cons first rest ih =>
    apply ih
    by_cases same : key = first
    · rw [← same, flushKey, undecodable.settled]
      rw [undecodable.uncached]
      exact undecodable
    have others : state.SameAt (state.flushKey first).1 key := flushKey_others key same
    obtain ⟨cache, pending, stored⟩ := others
    exact ⟨cache.trans undecodable.uncached, pending.trans undecodable.settled,
      stored.trans undecodable.stored, undecodable.rejected⟩

theorem Undecodable.handle (undecodable : state.Undecodable (makeKey c) wire) (here : op.On c)
    (other : ¬op.IsSetBlock) : state.Refuses generateTerrain (makeKey c) wire op ∧
      (state.handle generateTerrain op).1.Undecodable (makeKey c) wire := by
  cases op with
  | setBlock pos id value leftover => exact absurd ⟨pos, id, value, leftover, rfl⟩ other
  | casBlock pos expectedId newId newMeta =>
    have conflict : state.casBlock pos expectedId newId newMeta = (state, ⟨.conflict, 0, 0⟩) := by
      rw [casBlock, show pos.chunkCoord = c from here, undecodable.uncached]
      rw [undecodable.stored]
      dsimp only
      rw [undecodable.rejected]
    rw [Refuses, BlockStore.handle, conflict]
    exact ⟨⟨fun _ mem => eq_of_mem_singleton mem ▸ by rintro ⟨⟩, undecodable.stored⟩, undecodable⟩
  | getChunk coord =>
    have nothing : state.getChunk coord = (state.takeFromPool, none) := by
      rw [getChunk, show coord = c from here, undecodable.uncached]
      rw [undecodable.stored]
      dsimp only
      rw [undecodable.rejected]
    rw [Refuses, BlockStore.handle, nothing]
    exact ⟨⟨fun _ mem => eq_of_mem_singleton mem ▸ by rintro ⟨⟩, undecodable.stored⟩,
      ⟨undecodable.uncached, undecodable.settled, undecodable.stored, undecodable.rejected⟩⟩
  | flushDirtyChunks =>
    have cleared : Undecodable { state with dirtyChunks := ∅ } (makeKey c) wire :=
      ⟨undecodable.uncached, undecodable.settled, undecodable.stored, undecodable.rejected⟩
    have flushed := cleared.flushKeys state.dirtyChunks.keys
    exact ⟨⟨fun _ mem => absurd mem not_mem_nil, flushed.stored⟩, flushed⟩
  | saveChunk | getBlockAt | getMeta | asyncGetChunk | evict | reopen => exact here.elim

theorem refused_iff (undecodable : state.Undecodable (makeKey c) wire) (ops : List StoreOp)
    (here : ∀ op ∈ ops, op.On c) :
    (machine generateTerrain).Along (Refuses generateTerrain (makeKey c) wire) state ops ↔
      ∀ op ∈ ops, ¬op.IsSetBlock := by
  induction ops generalizing state with
  | nil => exact iff_of_true trivial fun _ mem => absurd mem not_mem_nil
  | cons op rest ih =>
    rw [Machine.Along, forall_mem_cons]
    obtain ⟨first, later⟩ := forall_mem_cons.mp here
    by_cases sets : op.IsSetBlock
    · obtain ⟨pos, id, value, leftover, rfl⟩ := sets
      refine iff_of_false (fun refused => ?_) fun other => other.1 ⟨pos, id, value, leftover, rfl⟩
      exact refused.1.1 (.done true) (mem_singleton_self _) rfl
    · obtain ⟨refuses, still⟩ := undecodable.handle generateTerrain first sets
      exact and_congr (iff_of_true refuses sets) (ih still later)

def truncated : BlockStore := opened (AList.insert (makeKey ⟨0, 0, 0⟩) [] ∅)

theorem truncated_undecodable : truncated.Undecodable (makeKey ⟨0, 0, 0⟩) [] :=
  ⟨rfl, rfl, Table.lookup_insert_self _ _ _, rfl⟩

theorem refused_iff_truncated :
    (machine fun _ _ => 0).Along (Refuses (fun _ _ => 0) (makeKey ⟨0, 0, 0⟩) []) truncated
      [.getChunk ⟨0, 0, 0⟩, .flushDirtyChunks] :=
  (refused_iff _ truncated_undecodable [.getChunk ⟨0, 0, 0⟩, .flushDirtyChunks]
    (by simp [StoreOp.On])).mpr (by simp [StoreOp.IsSetBlock])

theorem undecodable_overwritten :
    ¬∀ (ops : List StoreOp), (∀ op ∈ ops, op.On ⟨0, 0, 0⟩) →
      (machine fun _ _ => 0).Along (Refuses (fun _ _ => 0) (makeKey ⟨0, 0, 0⟩) []) truncated ops := by
  intro always
  have refused := always [.setBlock ⟨0, 0, 0⟩ 1 0 .empty] (by simp [StoreOp.On]; rfl)
  exact refused.1.1 (.done true) (mem_singleton_self _) rfl

end BlockStore

end GtnhPlatform.ChunkStore
