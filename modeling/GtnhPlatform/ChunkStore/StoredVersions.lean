import GtnhPlatform.Data.Machine
import GtnhPlatform.Data.Table

namespace GtnhPlatform.ChunkStore

/-! The copies of one chunk. A copy is known by the changes it has, each numbered by
the call that made it. -/

abbrev Version := List Nat

inductive StoreCall where
  | change (cas : Bool) (chunk : Nat)
  | readForChange (cas : Bool)
  | build (cas : Bool) (wire : Option Version)
  | erasePalette
  | markDirty
  | takePalette (chunk : Nat)
  | encode (chunk : Nat)
  | markAsPendingLmdb (palette : Version)
  | readChunk
  | putChunk (wire : Version)
  | flushPalette
  | flushPin
  | flushEncode (chunk : Nat)
  | flushWrite (palette : Version)

structure ChunkCopies where
  /-- the chunk objects there have been, by number -/
  chunks : List Version
  cached : Option Nat
  pendingLmdb : Option Version
  dirty : Bool
  /-- the encode threads' palettes that LMDB has not taken yet -/
  localPalettes : List Version
  stored : Option Version
  nextCall : Nat
  calls : Table Nat StoreCall

/-- Whether LMDB succeeds and a compare finds what it expects is part of the step. -/
inductive CopyInput where
  | setBlock
  | casBlock
  | asyncGetChunk
  | flushDirtyChunks
  | advance (call : Nat) (succeeds : Bool)
  | encodeGenerated
  | writePalette (index : Nat)
  | evict

inductive CopyEvent where
  | acknowledged (edit : Nat)
  | wrote (version : Version) (byFlush : Bool)

namespace ChunkCopies

variable (state : ChunkCopies)

def content (chunk : Nat) : Version := (state.chunks[chunk]?).getD []

def storedEdits : Version := state.stored.getD []

def begin (call : StoreCall) : ChunkCopies :=
  { state with
    nextCall := state.nextCall + 1
    calls := AList.insert state.nextCall call state.calls }

def goOn (number : Nat) (call : StoreCall) : ChunkCopies :=
  { state with calls := AList.insert number call state.calls }

def finish (number : Nat) : ChunkCopies :=
  { state with calls := state.calls.erase number }

def putCached (version : Version) : ChunkCopies :=
  { state with
    chunks := state.chunks ++ [version]
    cached := some state.chunks.length }

def editChunk (chunk edit : Nat) : ChunkCopies :=
  { state with chunks := state.chunks.modify chunk fun version => version ++ [edit] }

def setPending (palette : Option Version) : ChunkCopies :=
  { state with pendingLmdb := palette }

def beginChange (cas : Bool) : ChunkCopies :=
  match state.cached with
  | some chunk => state.begin (.change cas chunk)
  | none => state.begin (.readForChange cas)

def beginGet : ChunkCopies :=
  match state.cached with
  | some chunk => state.begin (.takePalette chunk)
  | none => state.begin .readChunk

def beginFlush : ChunkCopies :=
  if state.dirty then { state.begin .flushPalette with dirty := false } else state

def advance (number : Nat) (succeeds : Bool) : StoreCall → ChunkCopies × List CopyEvent
  | .change cas chunk =>
    -- a compare that fails is a conflict and changes nothing
    if cas && !succeeds then (state.finish number, [])
    else ((state.editChunk chunk number).goOn number .erasePalette, [])
  | .readForChange cas =>
    if succeeds then (state.goOn number (.build cas state.stored), [])
    else (state.finish number, [])
  | .build cas wire =>
    if cas && (!succeeds || wire.isNone) then (state.finish number, [])
    else ((state.putCached (wire.getD [] ++ [number])).goOn number .erasePalette, [])
  | .erasePalette => ((state.setPending none).goOn number .markDirty, [])
  | .markDirty => ({ state.finish number with dirty := true }, [.acknowledged number])
  | .takePalette chunk =>
    match state.pendingLmdb with
    | some _ => ((state.setPending none).finish number, [])
    | none => (state.goOn number (.encode chunk), [])
  | .encode chunk => (state.goOn number (.markAsPendingLmdb (state.content chunk)), [])
  | .markAsPendingLmdb palette =>
    -- `emplace`: a palette that is there already stays
    ((state.setPending (state.pendingLmdb.or (some palette))).finish number, [])
  | .readChunk =>
    match state.stored with
    | some wire =>
      if succeeds then (state.goOn number (.putChunk wire), [])
      else (state.finish number, [])
    | none => (state.finish number, [])
  | .putChunk wire =>
    if succeeds then ((state.putCached wire).finish number, []) else (state.finish number, [])
  | .flushPalette =>
    match state.pendingLmdb with
    | some palette => ((state.setPending none).goOn number (.flushWrite palette), [])
    | none => (state.goOn number .flushPin, [])
  | .flushPin =>
    match state.cached with
    | some chunk => (state.goOn number (.flushEncode chunk), [])
    | none => (state.finish number, [])
  | .flushEncode chunk => (state.goOn number (.flushWrite (state.content chunk)), [])
  | .flushWrite palette =>
    if succeeds then
      ({ state.finish number with stored := some palette }, [.wrote palette true])
    else (state.finish number, [])

def handle : CopyInput → ChunkCopies × List CopyEvent
  | .setBlock => (state.beginChange false, [])
  | .casBlock => (state.beginChange true, [])
  | .asyncGetChunk => (state.beginGet, [])
  | .flushDirtyChunks => (state.beginFlush, [])
  | .advance number succeeds =>
    match state.calls.lookup number with
    | some call => state.advance number succeeds call
    | none => (state, [])
  | .encodeGenerated =>
    ({ state.putCached [] with localPalettes := state.localPalettes ++ [[]] }, [])
  | .writePalette index =>
    match state.localPalettes[index]? with
    | some palette =>
      ({ state with
          stored := some palette
          localPalettes := state.localPalettes.eraseIdx index },
        [.wrote palette false])
    | none => (state, [])
  | .evict => ({ state with cached := none }, [])

def machine : Machine ChunkCopies CopyInput CopyEvent := ⟨handle⟩

def start (present : Bool) : ChunkCopies where
  chunks := []
  cached := none
  pendingLmdb := none
  dirty := false
  localPalettes := []
  stored := if present then some [] else none
  nextCall := 0
  calls := ∅

def NeverBack (history : List CopyEvent) : Prop := ∀ before between after version later byFlush,
    history = before ++ .wrote version true :: (between ++ .wrote later byFlush :: after) →
      ∀ edit ∈ version, .acknowledged edit ∈ before ++ between → edit ∈ later

def CoversFlushed (version : Version) : Prop := state.storedEdits ⊆ version ∧
    ∀ number palette, state.calls.lookup number = some (.flushWrite palette) → palette ⊆ version

def CachedCovers (version : Version) : Prop :=
  ∀ chunk ∈ state.cached, version ⊆ state.content chunk

def PendingCovers (version : Version) : Prop :=
  ∀ palette ∈ state.pendingLmdb, version ⊆ palette

def MayPut (version : Version) : Prop :=
  state.CoversFlushed version ∧ ∀ palette ∈ state.pendingLmdb, palette ⊆ version

/-- No other flush under way has an older version. -/
def MayWrite (number : Nat) (version : Version) : Prop := ∀ other ≠ number,
    (∀ palette, state.calls.lookup other = some (.flushWrite palette) → version ⊆ palette) ∧
      ∀ chunk, state.calls.lookup other = some (.flushEncode chunk) → version ⊆ state.content chunk

def CallInOrder (number : Nat) (succeeds : Bool) : StoreCall → Prop
  | .build cas wire =>
    (cas && (!succeeds || wire.isNone)) = false → state.MayPut (wire.getD [] ++ [number])
  | .putChunk wire => succeeds → state.MayPut wire
  | .markAsPendingLmdb palette =>
    state.pendingLmdb = none → state.CoversFlushed palette ∧ state.CachedCovers palette
  | .flushEncode chunk =>
    state.CachedCovers (state.content chunk) ∧ state.PendingCovers (state.content chunk)
  | .flushWrite palette => succeeds → state.MayWrite number palette
  | _ => True

def InOrder : CopyInput → Prop
  | .advance number succeeds =>
    ∀ call, state.calls.lookup number = some call → state.CallInOrder number succeeds call
  | .encodeGenerated => state.MayPut []
  | .writePalette index => index < state.localPalettes.length → state.storedEdits = []
  | _ => True

end ChunkCopies

end GtnhPlatform.ChunkStore
