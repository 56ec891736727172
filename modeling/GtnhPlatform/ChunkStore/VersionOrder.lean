import GtnhPlatform.ChunkStore.StoredVersions

namespace GtnhPlatform.ChunkStore

open List List.Subset

namespace ChunkCopies

variable {state : ChunkCopies}

def CallOrdered (state : ChunkCopies) : StoreCall → Prop
  | .flushWrite palette =>
    state.storedEdits ⊆ palette ∧ state.PendingCovers palette ∧ state.CachedCovers palette
  | .flushEncode chunk => state.storedEdits ⊆ state.content chunk
  | _ => True

structure Ordered (state : ChunkCopies) : Prop where
  generated : ∀ palette ∈ state.localPalettes, palette = []
  cached : state.CachedCovers state.storedEdits
  pending : ∀ palette ∈ state.pendingLmdb, state.storedEdits ⊆ palette ∧ state.CachedCovers palette
  calls : ∀ number call, state.calls.lookup number = some call → state.CallOrdered call

namespace Ordered

variable {call : StoreCall}

variable (ordered : state.Ordered)

include ordered

theorem begin (follows : state.CallOrdered call) : (state.begin call).Ordered where
  __ := ordered
  calls number other found := by
    simp only [ChunkCopies.begin, Table.lookup_insert_eq] at found
    split at found
    · cases found
      exact follows
    · exact ordered.calls number other found

theorem goOn (number : Nat) (follows : state.CallOrdered call) :
    (state.goOn number call).Ordered where
  __ := ordered
  calls other next found := by
    simp only [ChunkCopies.goOn, Table.lookup_insert_eq] at found
    split at found
    · cases found
      exact follows
    · exact ordered.calls other next found

theorem finish (number : Nat) : (state.finish number).Ordered where
  __ := ordered
  calls other call found := by
    simp only [ChunkCopies.finish, Table.lookup_erase_eq] at found
    split at found
    · cases found
    · exact ordered.calls other call found

theorem dropPending : (state.setPending none).Ordered where
  __ := ordered
  pending := nofun
  calls number call found := by
    have before := ordered.calls number call found
    cases call with
    | flushWrite palette => exact ⟨before.1, nofun, before.2.2⟩
    | flushEncode chunk => exact before
    | _ => trivial

theorem evict :
    ({ state with cached := none } : ChunkCopies).Ordered where
  generated := ordered.generated
  cached := nofun
  pending palette waiting := ⟨(ordered.pending palette waiting).1, nofun⟩
  calls number call found := by
    have before := ordered.calls number call found
    cases call with
    | flushWrite palette => exact ⟨before.1, before.2.1, nofun⟩
    | flushEncode chunk => exact before
    | _ => trivial

omit ordered

theorem content_editChunk (state : ChunkCopies) (chunk edit other : Nat) :
    state.content other ⊆ (state.editChunk chunk edit).content other := by
  unfold content editChunk
  rw [getElem?_modify]
  cases state.chunks[other]? with
  | none => exact nil_subset _
  | some version =>
    by_cases same : chunk = other
    · simp [same]
    · simp [same]

theorem editChunk (ordered : state.Ordered) (chunk edit : Nat) :
    (state.editChunk chunk edit).Ordered where
  generated := ordered.generated
  cached other present :=
    List.Subset.trans (ordered.cached other present) (content_editChunk state chunk edit other)
  pending palette waiting := by
    obtain ⟨stored, cached⟩ := ordered.pending palette waiting
    refine ⟨stored, fun other present => ?_⟩
    exact List.Subset.trans (cached other present) (content_editChunk state chunk edit other)
  calls number call found := by
    have before := ordered.calls number call found
    cases call with
    | flushWrite palette =>
      refine ⟨before.1, before.2.1, fun other present => ?_⟩
      exact List.Subset.trans (before.2.2 other present)
        (content_editChunk state chunk edit other)
    | flushEncode other =>
      exact List.Subset.trans before (content_editChunk state chunk edit other)
    | _ => trivial

theorem content_putCached (state : ChunkCopies) (version : Version) :
    (state.putCached version).content state.chunks.length = version := by
  simp [content, putCached]

theorem content_putCached_of (state : ChunkCopies) (version : Version) (chunk : Nat) :
    state.content chunk ⊆ (state.putCached version).content chunk := by
  unfold content putCached
  cases found : state.chunks[chunk]? with
  | none => exact nil_subset _
  | some before =>
    obtain ⟨bound, _⟩ := List.getElem?_eq_some_iff.mp found
    rw [getElem?_append_left bound, found]
    exact refl _

theorem cachedCovers_putCached {version wanted : Version} (covers : wanted ⊆ version) :
    (state.putCached version).CachedCovers wanted := by
  intro chunk present
  cases present
  rw [content_putCached]
  exact covers

variable {version : Version}

theorem putCached (ordered : state.Ordered) (may : state.MayPut version) :
    (state.putCached version).Ordered where
  generated := ordered.generated
  cached := cachedCovers_putCached may.1.1
  pending palette waiting :=
    ⟨(ordered.pending palette waiting).1, cachedCovers_putCached (may.2 palette waiting)⟩
  calls number call found := by
    have before := ordered.calls number call found
    cases call with
    | flushWrite palette =>
      exact ⟨before.1, before.2.1, cachedCovers_putCached (may.1.2 number palette found)⟩
    | flushEncode chunk =>
      exact List.Subset.trans before (content_putCached_of state version chunk)
    | _ => trivial

theorem markPending (ordered : state.Ordered)
    (may : state.CoversFlushed palette ∧ state.CachedCovers palette) :
    (state.setPending (some palette)).Ordered where
  __ := ordered
  pending other waiting := by
    cases waiting
    exact ⟨may.1.1, may.2⟩
  calls number call found := by
    have before := ordered.calls number call found
    cases call with
    | flushWrite held =>
      refine ⟨before.1, fun other waiting => ?_, before.2.2⟩
      cases waiting
      exact may.1.2 number held found
    | flushEncode chunk => exact before
    | _ => trivial

theorem write (ordered : state.Ordered)
    (cached : state.CachedCovers version) (pending : state.PendingCovers version)
    (held : ∀ number palette, state.calls.lookup number = some (.flushWrite palette) →
      version ⊆ palette)
    (pinned : ∀ number chunk, state.calls.lookup number = some (.flushEncode chunk) →
      version ⊆ state.content chunk) :
    ({ state with stored := some version } : ChunkCopies).Ordered where
  generated := ordered.generated
  cached := cached
  pending palette waiting := ⟨pending palette waiting, (ordered.pending palette waiting).2⟩
  calls number call found := by
    have before := ordered.calls number call found
    cases call with
    | flushWrite palette => exact ⟨held number palette found, before.2⟩
    | flushEncode chunk => exact pinned number chunk found
    | _ => trivial

end Ordered

def Advances (state : ChunkCopies) (result : ChunkCopies × List CopyEvent) : Prop :=
  (result.1.storedEdits = state.storedEdits ∧ ∀ version byFlush, .wrote version byFlush ∉ result.2) ∨
    ∃ version byFlush, result.2 = [.wrote version byFlush] ∧
      state.storedEdits ⊆ version ∧ result.1.storedEdits = version

variable {next : ChunkCopies}

theorem Advances.silent (same : next.storedEdits = state.storedEdits) : Advances state (next, []) :=
  Or.inl ⟨same, fun _ _ => not_mem_nil⟩

theorem kept (ordered : next.Ordered) (same : next.storedEdits = state.storedEdits) :
    next.Ordered ∧ Advances state (next, []) :=
  ⟨ordered, Advances.silent same⟩

variable (ordered : state.Ordered)

include ordered

variable (number : Nat)

theorem change_kept (succeeds cas : Bool) (chunk : Nat) :
    (state.advance number succeeds (.change cas chunk)).1.Ordered ∧
      Advances state (state.advance number succeeds (.change cas chunk)) := by
  dsimp only [advance]
  split
  · exact kept (ordered.finish number) rfl
  · exact kept ((ordered.editChunk chunk number).goOn number (by exact trivial)) rfl

theorem build_kept (succeeds cas : Bool)
    (wire : Option Version) (inOrder : state.CallInOrder number succeeds (.build cas wire)) :
    (state.advance number succeeds (.build cas wire)).1.Ordered ∧
      Advances state (state.advance number succeeds (.build cas wire)) := by
  dsimp only [advance]
  split
  · exact kept (ordered.finish number) rfl
  · next proceeds =>
    have may := inOrder (eq_false_of_ne_true proceeds)
    exact kept ((ordered.putCached may).goOn number (by exact trivial)) rfl

variable (succeeds : Bool)

theorem putChunk_kept (wire : Version)
    (inOrder : state.CallInOrder number succeeds (.putChunk wire)) :
    (state.advance number succeeds (.putChunk wire)).1.Ordered ∧
      Advances state (state.advance number succeeds (.putChunk wire)) := by
  dsimp only [advance]
  split
  · next decoded => exact kept ((ordered.putCached (inOrder decoded)).finish number) rfl
  · exact kept (ordered.finish number) rfl

theorem takePalette_kept (chunk : Nat) :
    (state.advance number succeeds (.takePalette chunk)).1.Ordered ∧
      Advances state (state.advance number succeeds (.takePalette chunk)) := by
  dsimp only [advance]
  split
  · exact kept (ordered.dropPending.finish number) rfl
  · exact kept (ordered.goOn number (by exact trivial)) rfl

theorem markAsPendingLmdb_kept (palette : Version) (inOrder : state.CallInOrder number succeeds (.markAsPendingLmdb palette)) :
    (state.advance number succeeds (.markAsPendingLmdb palette)).1.Ordered ∧
      Advances state (state.advance number succeeds (.markAsPendingLmdb palette)) := by
  refine kept (Ordered.finish ?_ number) rfl
  cases waiting : state.pendingLmdb with
  | none =>
    rw [Option.none_or]
    exact ordered.markPending (inOrder waiting)
  | some other =>
    have same : state.setPending (some other) = state := by
      rw [← waiting]
      rfl
    rw [Option.some_or, same]
    exact ordered

theorem flushPalette_kept : (state.advance number succeeds .flushPalette).1.Ordered ∧
      Advances state (state.advance number succeeds .flushPalette) := by
  dsimp only [advance]
  split
  · next palette waiting =>
    obtain ⟨stored, cached⟩ := ordered.pending palette waiting
    exact kept (ordered.dropPending.goOn number ⟨stored, nofun, cached⟩) rfl
  · exact kept (ordered.goOn number (by exact trivial)) rfl

theorem flushPin_kept : (state.advance number succeeds .flushPin).1.Ordered ∧
      Advances state (state.advance number succeeds .flushPin) := by
  dsimp only [advance]
  split
  · next chunk present => exact kept (ordered.goOn number (ordered.cached chunk present)) rfl
  · exact kept (ordered.finish number) rfl

omit ordered

variable {number : Nat}

variable (ordered : state.Ordered)

include ordered

theorem flushEncode_kept (found : state.calls.lookup number = some (.flushEncode chunk)) (succeeds : Bool)
    (inOrder : state.CallInOrder number succeeds (.flushEncode chunk)) :
    (state.advance number succeeds (.flushEncode chunk)).1.Ordered ∧
      Advances state (state.advance number succeeds (.flushEncode chunk)) := by
  have pinned := ordered.calls number _ found
  exact kept (ordered.goOn number ⟨pinned, inOrder.2, inOrder.1⟩) rfl

theorem flushWrite_kept (found : state.calls.lookup number = some (.flushWrite palette)) (succeeds : Bool)
    (inOrder : state.CallInOrder number succeeds (.flushWrite palette)) :
    (state.advance number succeeds (.flushWrite palette)).1.Ordered ∧
      Advances state (state.advance number succeeds (.flushWrite palette)) := by
  have held := ordered.calls number _ found
  dsimp only [advance]
  split
  · next saved =>
    have may := inOrder saved
    refine ⟨(ordered.finish number).write held.2.2 held.2.1 ?_ ?_,
      Or.inr ⟨palette, true, rfl, held.1, rfl⟩⟩
    · intro other version left
      simp only [finish, Table.lookup_erase_eq] at left
      split at left
      · cases left
      · next apart => exact (may other apart).1 version left
    · intro other chunk left
      simp only [finish, Table.lookup_erase_eq] at left
      split at left
      · cases left
      · next apart => exact (may other apart).2 chunk left
  · exact kept (ordered.finish number) rfl

theorem advance_kept (found : state.calls.lookup number = some call)
    (succeeds : Bool) (inOrder : state.CallInOrder number succeeds call) :
    (state.advance number succeeds call).1.Ordered ∧
      Advances state (state.advance number succeeds call) := by
  cases call with
  | change cas chunk => exact change_kept ordered number succeeds cas chunk
  | readForChange cas =>
    cases succeeds with
    | true => exact kept (ordered.goOn number (by exact trivial)) rfl
    | false => exact kept (ordered.finish number) rfl
  | build cas wire => exact build_kept ordered number succeeds cas wire inOrder
  | erasePalette => exact kept (ordered.dropPending.goOn number (by exact trivial)) rfl
  | markDirty =>
    have ended := ordered.finish number
    refine ⟨⟨ended.generated, ended.cached, ended.pending, ended.calls⟩, Or.inl ⟨rfl, ?_⟩⟩
    intro version byFlush written
    cases mem_singleton.mp written
  | takePalette chunk => exact takePalette_kept ordered number succeeds chunk
  | encode chunk => exact kept (ordered.goOn number (by exact trivial)) rfl
  | markAsPendingLmdb palette =>
    exact markAsPendingLmdb_kept ordered number succeeds palette inOrder
  | readChunk =>
    dsimp only [advance]
    split
    · cases succeeds with
      | true => exact kept (ordered.goOn number (by exact trivial)) rfl
      | false => exact kept (ordered.finish number) rfl
    · exact kept (ordered.finish number) rfl
  | putChunk wire => exact putChunk_kept ordered number succeeds wire inOrder
  | flushPalette => exact flushPalette_kept ordered number succeeds
  | flushPin => exact flushPin_kept ordered number succeeds
  | flushEncode chunk => exact flushEncode_kept ordered found succeeds inOrder
  | flushWrite palette => exact flushWrite_kept ordered found succeeds inOrder

theorem writePalette_kept (index : Nat) (inOrder : state.InOrder (.writePalette index)) :
    (state.handle (.writePalette index)).1.Ordered ∧
      Advances state (state.handle (.writePalette index)) := by
  simp only [handle]
  split
  · next palette found =>
    obtain ⟨bound, _⟩ := List.getElem?_eq_some_iff.mp found
    obtain rfl := ordered.generated palette (mem_of_getElem? found)
    have untouched := inOrder bound
    have written : ({ state with stored := some [] } : ChunkCopies).Ordered :=
      ordered.write (fun _ _ => nil_subset _) (fun _ _ => nil_subset _)
        (fun _ _ _ => nil_subset _) (fun _ _ _ => nil_subset _)
    refine ⟨⟨?_, written.cached, written.pending, written.calls⟩, Or.inr ⟨[], false, rfl, ?_, rfl⟩⟩
    · intro other mem
      exact ordered.generated other (mem_of_mem_eraseIdx mem)
    · rw [untouched]
      exact refl _
  · exact kept ordered rfl

omit ordered

variable {input : CopyInput}

theorem handle_kept (ordered : state.Ordered) (inOrder : state.InOrder input) :
    (state.handle input).1.Ordered ∧ Advances state (state.handle input) := by
  cases input with
  | setBlock =>
    simp only [handle, beginChange]
    split
    · exact kept (ordered.begin (by exact trivial)) rfl
    · exact kept (ordered.begin (by exact trivial)) rfl
  | casBlock =>
    simp only [handle, beginChange]
    split
    · exact kept (ordered.begin (by exact trivial)) rfl
    · exact kept (ordered.begin (by exact trivial)) rfl
  | asyncGetChunk =>
    simp only [handle, beginGet]
    split
    · exact kept (ordered.begin (by exact trivial)) rfl
    · exact kept (ordered.begin (by exact trivial)) rfl
  | flushDirtyChunks =>
    simp only [handle, beginFlush]
    split
    · have begun : (state.begin .flushPalette).Ordered := ordered.begin trivial
      exact kept ⟨begun.generated, begun.cached, begun.pending, begun.calls⟩ rfl
    · exact kept ordered rfl
  | advance number succeeds =>
    simp only [handle]
    split
    · next call found => exact advance_kept ordered found succeeds (inOrder call found)
    · exact kept ordered rfl
  | encodeGenerated =>
    have put := ordered.putCached inOrder
    refine kept ⟨?_, put.cached, put.pending, put.calls⟩ rfl
    intro palette mem
    rcases mem_append.mp mem with before | new
    · exact ordered.generated palette before
    · exact mem_singleton.mp new
  | writePalette index => exact writePalette_kept ordered index inOrder
  | evict => exact kept ordered.evict rfl

structure Kept (state : ChunkCopies) (history : List CopyEvent) : Prop where
  ordered : state.Ordered
  flushed : ∀ version, .wrote version true ∈ history → version ⊆ state.storedEdits
  later : history.Pairwise fun first second => ∀ version later byFlush,
    first = .wrote version true → second = .wrote later byFlush → version ⊆ later

variable {history : List CopyEvent}

theorem Kept.step (kept : state.Kept history) (inOrder : state.InOrder input) :
    (state.handle input).1.Kept (history ++ (state.handle input).2) := by
  obtain ⟨ordered, advances⟩ := handle_kept kept.ordered inOrder
  rcases advances with ⟨same, silent⟩ | ⟨written, byFlush, events, covers, stored⟩
  · refine ⟨ordered, ?_, pairwise_append.mpr ⟨kept.later, ?_, ?_⟩⟩
    · intro version flushed
      rw [same]
      rcases mem_append.mp flushed with before | now
      · exact kept.flushed version before
      · exact absurd now (silent version true)
    · apply pairwise_of_forall_mem_list
      rintro first mem second - version later byFlush rfl
      exact absurd mem (silent version true)
    · rintro first _ second mem version later byFlush _ rfl
      exact absurd mem (silent later byFlush)
  · rw [events]
    refine ⟨ordered, ?_, pairwise_append.mpr ⟨kept.later, pairwise_singleton _ _, ?_⟩⟩
    · intro version flushed
      rw [stored]
      rcases mem_append.mp flushed with before | now
      · exact List.Subset.trans (kept.flushed version before) covers
      · cases mem_singleton.mp now
        exact refl _
    · rintro first before second mem version later laterByFlush rfl rfl
      cases mem_singleton.mp mem
      exact List.Subset.trans (kept.flushed version before) covers

theorem Kept.neverBack (kept : state.Kept history) : NeverBack history := by
  rintro before between after version later byFlush rfl edit has _
  obtain ⟨_, rest, _⟩ := pairwise_append.mp kept.later
  have all := (pairwise_cons.mp rest).1
  exact all _ (mem_append_right _ mem_cons_self) version later byFlush rfl rfl has

theorem start_kept (present : Bool) : (start present).Kept [] where
  ordered :=
    { generated := nofun
      cached := nofun
      pending := nofun
      calls := fun number call found => by
        rw [start, AList.lookup_empty] at found
        cases found }
  flushed := nofun
  later := List.Pairwise.nil

theorem neverBack_of_inOrder (present : Bool) (inputs : List CopyInput)
    (inOrder : machine.Along InOrder (start present) inputs) :
    NeverBack (machine.outputs (start present) inputs) := by
  have kept := machine.invariant InOrder (fun _ => Kept) (start_kept present)
    (fun _ _ _ _ kept inOrder => kept.step inOrder) inputs inOrder
  exact kept.neverBack

def changeCached (number : Nat) : List CopyInput :=
  [.setBlock, .advance number true, .advance number true, .advance number true]

def flushCached (number : Nat) : List CopyInput :=
  [.flushDirtyChunks, .advance number true, .advance number true, .advance number true,
    .advance number true]

theorem promptBatch_goes_forward : machine.outputs (start false)
        (.encodeGenerated :: .writePalette 0 :: changeCached 0 ++ flushCached 1) =
        [.wrote [] false, .acknowledged 0, .wrote [0] true] ∧
      NeverBack (machine.outputs (start false)
        (.encodeGenerated :: .writePalette 0 :: changeCached 0 ++ flushCached 1)) := by
  refine ⟨rfl, neverBack_of_inOrder false _ ?_⟩
  refine ⟨?_, ?_, trivial, ?_, ?_, ?_, trivial, ?_, ?_, ?_, ?_, trivial⟩
  · exact ⟨⟨nil_subset _, fun number palette found => nomatch found⟩, nofun⟩
  · exact fun _ => rfl
  · exact fun call found => by cases found; trivial
  · exact fun call found => by cases found; trivial
  · exact fun call found => by cases found; trivial
  · exact fun call found => by cases found; trivial
  · exact fun call found => by cases found; trivial
  · intro call found
    cases found
    refine ⟨fun chunk present => ?_, nofun⟩
    cases present
    exact List.Subset.refl _
  · intro call found
    cases found
    intro _ other apart
    have alone : ∀ call, (machine.final (start false)
        (.encodeGenerated :: .writePalette 0 :: changeCached 0 ++
          (flushCached 1).dropLast)).calls.lookup other ≠ some call := by
      intro call others
      have single : dlookup (β := fun _ => StoreCall) other [⟨1, .flushWrite [0]⟩] =
        some call := others
      rw [dlookup_cons_ne _ _ apart] at single
      cases single
    exact ⟨fun palette others => absurd others (alone _), fun chunk others =>
      absurd others (alone _)⟩

def lateBatch : List CopyInput :=
  .encodeGenerated :: changeCached 0 ++ flushCached 1 ++ [.writePalette 0]

theorem late_batch_goes_back : ¬ NeverBack (machine.outputs (start false) lateBatch) := by
  intro law
  have outputs : machine.outputs (start false) lateBatch =
      [.acknowledged 0] ++ .wrote [0] true :: ([] ++ .wrote [] false :: []) := rfl
  have kept := law _ _ _ _ _ _ outputs 0 (by simp) (by simp)
  cases kept

end ChunkCopies

end GtnhPlatform.ChunkStore
