import GtnhPlatform.ChunkStore.GenerationSteps

namespace GtnhPlatform.ChunkStore

open List

namespace GenerationQueue

variable {χ : Type u} {queue : GenerationQueue χ}

def Tracked (queue : GenerationQueue χ) : Prop := ∀ coord ∈ queue.dedup, coord ∈ queue.unfinished

variable {thread : Nat}

theorem count_unfinished_setWorker (queue : GenerationQueue χ) {worker : Worker χ}
    (found : queue.workers[thread]? = some worker) (next : Worker χ) (coord : ChunkCoord) :
    (queue.setWorker thread next).unfinished.count coord + worker.unfinished.count coord =
      queue.unfinished.count coord + next.unfinished.count coord := by
  have exchange := count_flatMap_set Worker.unfinished found next coord
  simp only [unfinished, setWorker, count_append]
  omega

theorem Tracked.of_count {next : GenerationQueue χ} (tracked : queue.Tracked)
    (dedup : ∀ coord ∈ next.dedup, coord ∈ queue.dedup ∧
      queue.unfinished.count coord ≤ next.unfinished.count coord) : next.Tracked := by
  intro coord mem
  obtain ⟨before, kept⟩ := dedup coord mem
  have listed := count_pos_iff.mpr (tracked coord before)
  exact count_pos_iff.mp (Nat.lt_of_lt_of_le listed kept)

theorem Tracked.requestChunk (tracked : queue.Tracked) (coord : ChunkCoord) :
    (queue.requestChunk coord).Tracked := by
  unfold GenerationQueue.requestChunk
  split
  · exact tracked
  intro other mem
  simp only [unfinished, mem_append, mem_singleton]
  rcases mem_cons.mp mem with same | mem
  · exact Or.inl (Or.inr same)
  · exact (mem_append.mp (tracked other mem)).imp_left Or.inl

variable {coord : ChunkCoord}

theorem Tracked.takeTask (tracked : queue.Tracked) (found : queue.workers[thread]? = some .waiting)
    (next : queue.nextTask = some coord) :
    (queue.popTask.setWorker thread (.generating coord)).Tracked := by
  apply tracked.of_count
  intro other mem
  refine ⟨mem, ?_⟩
  have set := count_unfinished_setWorker queue.popTask found (.generating coord) other
  have taken := (nextTask_perm next).count_eq other
  have workers : queue.popTask.workers = queue.workers := rfl
  simp only [unfinished, workers, Worker.unfinished, count_append, count_nil,
    count_cons] at set taken ⊢
  omega

theorem Tracked.finishTask (tracked : queue.Tracked)
    (found : queue.workers[thread]? = some (.generating coord)) (task : EncodeTask χ) :
    ((queue.eraseDedup coord).setWorker thread (.generated task)).Tracked := by
  apply tracked.of_count
  intro other mem
  obtain ⟨before, kept⟩ := mem_filter.mp mem
  have apart : other ≠ coord := of_decide_eq_true kept
  refine ⟨before, ?_⟩
  have set := count_unfinished_setWorker (queue.eraseDedup coord) found
    (.generated task) other
  have same : (queue.eraseDedup coord).unfinished = queue.unfinished := rfl
  simp only [Worker.unfinished, count_nil, count_singleton, beq_iff_eq,
    if_neg (Ne.symm apart), same] at set
  omega

theorem Tracked.output (tracked : queue.Tracked)
    (found : queue.workers[thread]? = some (.generated task)) :
    (queue.setWorker thread .waiting).Tracked := by
  apply tracked.of_count
  intro other mem
  refine ⟨mem, ?_⟩
  have set := count_unfinished_setWorker queue found .waiting other
  simp only [Worker.unfinished, count_nil] at set
  omega

end GenerationQueue

namespace Pipeline

variable {χ : Type u} {ω : Type v} {code : ChunkCode χ ω} {state : Pipeline χ ω}

namespace Sound

theorem endRequest (sound : state.Sound) (number : Nat) : (state.endRequest number).Sound where
  numbered other fresh := by
    simp only [Pipeline.endRequest, Table.lookup_erase_eq, sound.numbered other fresh, ite_self]
  __ := sound
  read other coord wire found := by
    simp only [Pipeline.endRequest, Table.lookup_erase_eq] at found
    split at found
    · cases found
    · exact sound.read other coord wire found

variable {number : Nat}

variable (sound : state.Sound)

include sound

theorem setRequest (started : number < state.nextRequest) (coord : ChunkCoord)
    (known : ∀ wire, stage = .read (some wire) → makeKey coord ∈ state.known) :
    (state.setRequest number coord stage).Sound where
  numbered other fresh := by
    have apart : other ≠ number := Nat.ne_of_gt (Nat.lt_of_lt_of_le started fresh)
    exact (AList.lookup_insert_ne apart).trans (sound.numbered other fresh)
  __ := sound
  read other otherCoord wire found := by
    simp only [Pipeline.setRequest, Table.lookup_insert_eq] at found
    split at found
    · cases found
      exact known wire rfl
    · exact sound.read other otherCoord wire found

theorem putCache (key : Int64) (chunk : χ) : (state.putCache key chunk).Sound where
  __ := sound
  stored other found := mem_cons_of_mem _ (sound.stored other found)
  palettes encoder mem item listed := mem_cons_of_mem _ (sound.palettes encoder mem item listed)
  read number coord wire found := mem_cons_of_mem _ (sound.read number coord wire found)

theorem setQueue {queue : GenerationQueue χ} (tracked : queue.Tracked) :
    (state.setQueue queue).Sound :=
  ⟨sound.numbered, tracked, sound.stored, sound.palettes, sound.read⟩

theorem setEncoder (thread : Nat) (phase : EncodePhase χ ω)
    (localPalettes : List (Int64 × ω)) (known : ∀ item ∈ localPalettes, item.1 ∈ state.known) :
    (state.setEncoder thread phase localPalettes).Sound where
  __ := sound
  palettes encoder mem := by
    rcases mem_or_eq_of_mem_set mem with mem | rfl
    · exact sound.palettes encoder mem
    · exact known

theorem started (found : state.requests.lookup number = some request) :
    number < state.nextRequest := by
  by_contra fresh
  rw [sound.numbered number (Nat.le_of_not_lt fresh)] at found
  cases found

theorem asyncGetChunk (coord : ChunkCoord) : (state.asyncGetChunk code coord).1.Sound := by
  have later : ({ state with nextRequest := state.nextRequest + 1 } : Pipeline χ ω).Sound :=
    ⟨fun number fresh => sound.numbered number (Nat.le_of_succ_le fresh), sound.dedup,
      sound.stored, sound.palettes, sound.read⟩
  cases cached : state.cache.lookup (makeKey coord) with
  | none =>
    simp only [Pipeline.asyncGetChunk, cached]
    exact later.setRequest (Nat.lt_succ_self _) coord (by rintro _ ⟨⟩)
  | some chunk =>
    cases palette : state.pendingLmdb.lookup (makeKey coord) with
    | none =>
      simp only [Pipeline.asyncGetChunk, cached, palette]
      exact ⟨later.numbered, later.dedup, later.stored, later.palettes, later.read⟩
    | some palette =>
      simp only [Pipeline.asyncGetChunk, cached, palette]
      exact ⟨later.numbered, later.dedup, later.stored, later.palettes, later.read⟩

theorem finishRead (found : state.requests.lookup number = some ⟨coord, .read wire⟩) :
    (state.finishRead code number coord wire).1.Sound := by
  cases wire with
  | none =>
    have registered : (state.setRequest number coord .registered).Sound :=
      sound.setRequest (sound.started found) coord nofun
    exact ⟨registered.numbered, registered.dedup, registered.stored, registered.palettes,
      registered.read⟩
  | some wire =>
    cases decoded : code.fromWire wire with
    | none =>
      simp only [Pipeline.finishRead, decoded]
      exact sound.endRequest number
    | some chunk =>
      simp only [Pipeline.finishRead, decoded]
      exact (sound.endRequest number).putCache _ _

omit sound

variable {thread : Nat}

theorem workerStep (sound : state.Sound) (found : state.genQueue.workers[thread]? = some worker) :
    (state.workerStep code thread worker).Sound := by
  have tracked : state.genQueue.Tracked := sound.dedup
  cases worker with
  | waiting =>
    cases next : state.genQueue.nextTask with
    | none =>
      simp only [Pipeline.workerStep, next]
      exact sound
    | some coord =>
      simp only [Pipeline.workerStep, next]
      exact sound.setQueue (tracked.takeTask found next)
  | generating coord => exact sound.setQueue (tracked.finishTask found _)
  | generated task =>
    have output := sound.setQueue (tracked.output found)
    exact ⟨output.numbered, output.dedup, output.stored, output.palettes, output.read⟩

theorem encodeStep (sound : state.Sound) {encoder : Encoder χ ω}
    (found : state.encoders[thread]? = some encoder) :
    (state.encodeStep code thread encoder.localPalettes encoder.phase).1.Sound := by
  have known := sound.palettes encoder (mem_of_getElem? found)
  obtain ⟨phase, localPalettes⟩ := encoder
  cases phase with
  | waiting =>
    cases queue : state.encodeQueue with
    | nil =>
      simp only [Pipeline.encodeStep, queue]
      exact sound
    | cons task tasks =>
      simp only [Pipeline.encodeStep, queue]
      have taken := sound.setEncoder thread (.draining (task :: tasks)) localPalettes known
      exact ⟨taken.numbered, taken.dedup, taken.stored, taken.palettes, taken.read⟩
  | draining tasks =>
    cases tasks with
    | nil => exact sound
    | cons task tasks =>
      apply (sound.putCache task.key task.chunk).setEncoder
      intro item listed
      rcases mem_append.mp listed with listed | new
      · exact mem_cons_of_mem _ (known item listed)
      · obtain rfl := mem_singleton.mp new
        exact mem_cons_self
  | delivering served palette tasks =>
    have delivered := sound.setEncoder thread (.draining tasks) localPalettes known
    exact ⟨delivered.numbered, delivered.dedup, delivered.stored, delivered.palettes,
      delivered.read⟩

theorem isSome_foldl_insert (items : List (Int64 × ω)) (stored : Table Int64 ω) (key : Int64)
    (found : ((items.foldl (fun stored item => AList.insert item.1 item.2 stored)
      stored).lookup key).isSome) :
    (stored.lookup key).isSome ∨ ∃ item ∈ items, item.1 = key := by
  induction items generalizing stored with
  | nil => exact Or.inl found
  | cons item rest ih =>
    rcases ih _ found with before | ⟨other, mem, same⟩
    · rw [Table.lookup_insert_eq] at before
      split at before
      · next same => exact Or.inr ⟨item, mem_cons_self, same.symm⟩
      · exact Or.inl before
    · exact Or.inr ⟨other, mem_cons_of_mem _ mem, same⟩

theorem writeBatch (sound : state.Sound)
    (found : state.encoders[thread]? = some ⟨.draining [], localPalettes⟩) (written : Nat) :
    (state.writeBatch thread localPalettes written).Sound := by
  have known := sound.palettes _ (mem_of_getElem? found)
  have kept := sound.setEncoder thread .waiting (localPalettes.drop written)
    fun item listed => known item (mem_of_mem_drop listed)
  refine ⟨kept.numbered, kept.dedup, ?_, kept.palettes, kept.read⟩
  intro key stored
  rcases isSome_foldl_insert _ _ key stored with before | ⟨item, listed, rfl⟩
  · exact sound.stored key before
  · exact known item (mem_of_mem_take listed)

theorem handle (sound : state.Sound) (input : StoreInput) : (state.handle code input).1.Sound := by
  cases input with
  | asyncGetChunk coord => exact sound.asyncGetChunk coord
  | readRawBytes number fails =>
    simp only [Pipeline.handle]
    split
    · next coord found =>
      cases fails with
      | true => exact sound.endRequest number
      | false =>
        apply sound.setRequest (sound.started found)
        intro wire read
        apply sound.stored
        rw [ReadStage.read.inj read]
        rfl
    · exact sound
  | finishRead number =>
    simp only [Pipeline.handle]
    split
    · next coord wire found => exact sound.finishRead found
    · exact sound
  | requestChunk number =>
    simp only [Pipeline.handle]
    split
    · next coord found =>
      have tracked : state.genQueue.Tracked := sound.dedup
      exact (sound.endRequest number).setQueue (tracked.requestChunk coord)
    · exact sound
  | workerStep thread =>
    simp only [Pipeline.handle]
    split
    · next worker found => exact sound.workerStep found
    · exact sound
  | encodeStep thread =>
    simp only [Pipeline.handle]
    split
    · next encoder found => exact sound.encodeStep found
    · exact sound
  | writeBatch thread written =>
    simp only [Pipeline.handle]
    split
    · next localPalettes found => exact sound.writeBatch found written
    · exact sound
  | evict key => exact ⟨sound.numbered, sound.dedup, sound.stored, sound.palettes, sound.read⟩

end Sound

theorem start_sound (num_threads : Nat) (stored : Table Int64 ω) :
    (start num_threads stored : Pipeline χ ω).Sound where
  numbered number _ := AList.lookup_empty number
  dedup _ mem := nomatch mem
  stored key found := AList.mem_keys.mpr (AList.lookup_isSome.mp found)
  palettes encoder mem item listed := by
    simp only [start, mem_cons, not_mem_nil, or_false, or_self] at mem
    subst mem
    cases listed
  read number coord wire found := by
    rw [start, AList.lookup_empty] at found
    cases found

end Pipeline

end GtnhPlatform.ChunkStore
