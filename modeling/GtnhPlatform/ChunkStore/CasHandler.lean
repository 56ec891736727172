import GtnhPlatform.ChunkStore.BlockStore
import GtnhPlatform.ChunkStore.LmdbStore

namespace GtnhPlatform.ChunkStore

open AList Table
open LmdbStore (WriteAnswers writeRaw)

structure PendingChange where
  idx : UInt32
  blockId : UInt16
  newMeta : UInt8
deriving DecidableEq

namespace PendingChange

def packed (pos : LocalPos) (blockId : UInt16) (newMeta : UInt8) : PendingChange :=
  ⟨UInt32.ofNat pos.chunkIndex.val, blockId, newMeta⟩

/-- The index as `flush` unpacks it: `idx & 0xF`, `(idx >> 8) & 0xF`, `(idx >> 4) & 0xF`. -/
def unpacked (change : PendingChange) : LocalPos where
  x := ⟨change.idx.toNat % 16, by omega⟩
  y := ⟨change.idx.toNat / 256 % 16, by omega⟩
  z := ⟨change.idx.toNat / 16 % 16, by omega⟩

def cell (change : PendingChange) : LocalPos where
  x := ⟨change.idx.toNat % 32, by omega⟩
  y := ⟨change.idx.toNat / 1024 % 32, by omega⟩
  z := ⟨change.idx.toNat / 32 % 32, by omega⟩

theorem cell_packed (pos : LocalPos) (blockId : UInt16) (newMeta : UInt8) :
    (packed pos blockId newMeta).cell = pos := by
  obtain ⟨x, y, z⟩ := pos
  have index : (packed ⟨x, y, z⟩ blockId newMeta).idx.toNat = y.val * 1024 + z.val * 32 + x.val :=
    UInt32.toNat_ofNat_of_lt (by simp only [LocalPos.chunkIndex, UInt32.size]; omega)
  simp only [cell, index, LocalPos.mk.injEq, Fin.ext_iff]
  refine ⟨by omega, by omega, by omega⟩

end PendingChange

structure CasAnswers where
  reads : Int64 → Bool
  writes : Int64 → WriteAnswers

structure CASHandler where
  store : BlockStore
  pending : Table Int64 (List PendingChange)

namespace CASHandler

def casBlock (handler : CASHandler) (pos : BlockPos) (expectedId newId : UInt16)
    (newMeta : UInt8) : CASHandler × CasResult :=
  let key := makeKey pos.chunkCoord
  let result := handler.store.casBlock pos expectedId newId newMeta
  match result.2.status with
  | .conflict => ({ handler with store := result.1 }, result.2)
  | .ok =>
    let changes := (handler.pending.lookup key).getD []
    (⟨result.1, AList.insert key (changes ++ [.packed pos.localPos newId newMeta]) handler.pending⟩,
      result.2)

def flushKey (answers : CasAnswers) (stored : Table Int64 (List UInt8)) (key : Int64)
    (changes : List PendingChange) : Table Int64 (List UInt8) × Bool :=
  if answers.reads key then
    match (stored.lookup key).bind MutableChunk.fromWire with
    | none => (stored, false)
    | some chunk =>
      let changed := changes.foldl (fun chunk change =>
        chunk.put change.unpacked change.blockId change.newMeta) chunk
      if writeRaw (answers.writes key) then
        (AList.insert key changed.encodeToWire stored, false)
      else (stored, true)
  else (stored, true)

def flushKeys (answers : CasAnswers) (stored : Table Int64 (List UInt8)) :
    List (Sigma fun _ : Int64 => List PendingChange) → Table Int64 (List UInt8) × List Int64
  | [] => (stored, [])
  | entry :: rest =>
    let turn := flushKey answers stored entry.1 entry.2
    let result := flushKeys answers turn.1 rest
    (result.1, if turn.2 then entry.1 :: result.2 else result.2)

def flush (answers : CasAnswers) (handler : CASHandler) : CASHandler × Nat :=
  let (stored, deferred) := flushKeys answers handler.store.stored handler.pending.entries
  ({ store := { handler.store with stored }
     pending := deferred.foldl (fun pending key => pending.erase key) handler.pending },
    handler.pending.entries.length - deferred.length)

def failed (answers : CasAnswers) (handler : CASHandler) (key : Int64) : Bool :=
  !answers.reads key ||
    (((handler.store.stored.lookup key).bind MutableChunk.fromWire).isSome &&
      !writeRaw (answers.writes key))

structure Handles (answers : CasAnswers) (handler : CASHandler) : Prop where
  written : ∀ key changes chunk, handler.pending.lookup key = some changes →
    answers.reads key = true →
    (handler.store.stored.lookup key).bind MutableChunk.fromWire = some chunk →
    writeRaw (answers.writes key) = true →
      (handler.flush answers).1.store.stored.lookup key = some (changes.foldl (fun chunk change =>
        chunk.put change.cell change.blockId change.newMeta) chunk).encodeToWire
  kept : ∀ key changes, handler.pending.lookup key = some changes →
    (handler.flush answers).1.pending.lookup key =
      if handler.failed answers key then some changes else none
  handled : (handler.flush answers).2 =
    (handler.pending.keys.filter fun key => !handler.failed answers key).length

variable {answers : CasAnswers} {handler : CASHandler} {key : Int64}

theorem flushKey_deferred (changes : List PendingChange) :
    (flushKey answers handler.store.stored key changes).2 = handler.failed answers key := by
  rw [flushKey, failed]
  cases answers.reads key with
  | false => rfl
  | true =>
    cases (handler.store.stored.lookup key).bind MutableChunk.fromWire with
    | none => rfl
    | some chunk => cases writeRaw (answers.writes key) <;> rfl

theorem deferred_listed {entries : List (Sigma fun _ : Int64 => List PendingChange)}
    (deferred : key ∈ (flushKeys answers stored entries).2) : key ∈ entries.keys := by
  induction entries generalizing stored with
  | nil => exact deferred
  | cons entry rest ih =>
    rw [flushKeys] at deferred
    rw [List.keys_cons]
    split at deferred
    · exact (List.mem_cons.mp deferred).elim (fun same => same ▸ List.mem_cons_self)
        fun later => List.mem_cons_of_mem _ (ih later)
    · exact List.mem_cons_of_mem _ (ih deferred)

theorem lookup_eraseAll (keys : List Int64) (pending : Table Int64 (List PendingChange)) :
    (keys.foldl (fun pending key => pending.erase key) pending).lookup key =
      if key ∈ keys then none else pending.lookup key := by
  induction keys generalizing pending with
  | nil => rfl
  | cons first rest ih =>
    rw [List.foldl_cons, ih, lookup_erase_eq]
    by_cases same : key = first <;> simp [same]

theorem handles_iff (answers : CasAnswers) (handler : CASHandler) :
    handler.Handles answers ↔ handler.pending.entries = [] := by
  constructor
  · intro handles
    cases entries : handler.pending.entries with
    | nil => rfl
    | cons entry rest =>
      obtain ⟨key, changes⟩ := entry
      have found : handler.pending.lookup key = some changes :=
        mem_entries_iff.mp (entries ▸ List.mem_cons_self)
      have distinct := handler.pending.nodupKeys
      rw [entries, List.nodupKeys_cons] at distinct
      have kept := handles.kept key changes found
      rw [flush, entries, flushKeys, flushKey_deferred] at kept
      rw [lookup_eraseAll] at kept
      cases failed : handler.failed answers key with
      | true =>
        rw [failed, if_pos rfl, if_pos rfl, if_pos List.mem_cons_self] at kept
        exact absurd kept (Option.some_ne_none _).symm
      | false =>
        rw [failed, if_neg Bool.false_ne_true, if_neg Bool.false_ne_true,
          if_neg fun deferred => distinct.1 (deferred_listed deferred), found] at kept
        exact absurd kept (Option.some_ne_none _)
  · intro nothing
    have absent : ∀ key, handler.pending.lookup key = none := fun key => by
      rw [lookup_eq_none, mem_keys, keys, nothing]
      exact List.not_mem_nil
    refine ⟨fun key changes chunk found => ?_, fun key changes found => ?_, ?_⟩
    · exact absurd ((absent key).symm.trans found) (Option.some_ne_none _).symm
    · exact absurd ((absent key).symm.trans found) (Option.some_ne_none _).symm
    · rw [flush, keys, nothing]
      rfl

theorem unread_change_dropped :
    ¬∀ (answers : CasAnswers) (handler : CASHandler), handler.Handles answers := by
  intro always
  have kept := (always ⟨fun _ => false, fun _ => ⟨true, ⟨true, fun _ => .success, true, true⟩,
    ⟨true, fun _ => .success, true, true⟩⟩⟩
    ⟨.opened ∅, AList.insert 1 [⟨0, 1, 0⟩] ∅⟩).kept 1 [⟨0, 1, 0⟩]
  revert kept
  decide

end CASHandler

end GtnhPlatform.ChunkStore
