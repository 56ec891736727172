import GtnhPlatform.ChunkStore.GenerationPipeline
import Mathlib.Data.Set.Insert
import Mathlib.Data.Set.Lattice

namespace GtnhPlatform.ChunkStore

open List

@[ext]
structure ChunkLife where
  inFlight : Nat
  undelivered : Nat
  known : Prop
  callbacks : List Nat
  asking : Set Nat

inductive LifeAction where
  | idle
  | register (request : Nat)
  | join (request : Nat)
  | push (request : Nat)
  | cache
  | deliver

namespace ChunkLife

def Enabled (life : ChunkLife) : LifeAction → Prop
  | .idle | .register _ => True
  | .join request => request ∈ life.asking ∧ 0 < life.inFlight
  | .push request => request ∈ life.asking
  | .cache => 0 < life.inFlight
  | .deliver => 0 < life.undelivered

def apply (life : ChunkLife) : LifeAction → ChunkLife
  | .idle => life
  | .register request =>
    { life with
      callbacks := life.callbacks ++ [request]
      asking := insert request life.asking }
  | .join request => { life with asking := life.asking \ {request} }
  | .push request =>
    { life with
      inFlight := life.inFlight + 1
      asking := life.asking \ {request} }
  | .cache =>
    { life with
      inFlight := life.inFlight - 1
      undelivered := life.undelivered + 1
      known := True }
  | .deliver => { life with undelivered := life.undelivered - 1, callbacks := [] }

def Served (life : ChunkLife) : Prop :=
  life.callbacks ≠ [] → 0 < life.inFlight + life.undelivered ∨ life.asking.Nonempty

variable {life : ChunkLife} {action : LifeAction}

theorem Served.apply (served : life.Served) (enabled : life.Enabled action) :
    (life.apply action).Served := by
  intro waiting
  cases action with
  | idle => exact served waiting
  | register request => exact Or.inr ⟨request, Set.mem_insert _ _⟩
  | join request =>
    left
    have inFlight := enabled.2
    dsimp only [ChunkLife.apply]
    omega
  | push request =>
    left
    dsimp only [ChunkLife.apply]
    omega
  | cache =>
    left
    dsimp only [ChunkLife.apply]
    omega
  | deliver => exact absurd rfl waiting

structure MadeOnce (life : ChunkLife) : Prop where
  idle : life.known → life.inFlight = 0
  single : life.inFlight + life.undelivered ≤ 1
  awaited : 0 < life.inFlight + life.undelivered → life.callbacks ≠ []
  cached : 0 < life.undelivered → life.known
  asking : ∀ request ∈ life.asking, request ∈ life.callbacks ∨ life.known

/-- A task is added for a chunk that has not been there and is not being made. -/
def Allowed (life : ChunkLife) : LifeAction → Prop
  | .push _ => ¬ life.known ∧ life.inFlight = 0
  | _ => True

theorem MadeOnce.apply (made : life.MadeOnce) (enabled : life.Enabled action)
    (allowed : life.Allowed action) : (life.apply action).MadeOnce := by
  obtain ⟨idle, single, awaited, cached, asking⟩ := made
  cases action with
  | idle => exact ⟨idle, single, awaited, cached, asking⟩
  | register request =>
    refine ⟨idle, single, fun _ => append_ne_nil_of_right_ne_nil _ (by simp), cached, ?_⟩
    intro other mem
    rcases Set.mem_insert_iff.mp mem with same | mem
    · exact Or.inl (mem_append_right _ (mem_singleton.mpr same))
    · exact (asking other mem).imp_left (mem_append_left _)
  | join request =>
    exact ⟨idle, single, awaited, cached, fun other mem => asking other mem.1⟩
  | push request =>
    obtain ⟨unknown, free⟩ := allowed
    have none : life.undelivered = 0 := by
      by_contra some
      exact unknown (cached (Nat.pos_of_ne_zero some))
    have waiting : request ∈ life.callbacks := (asking request enabled).resolve_right unknown
    refine ⟨fun known => absurd known unknown, ?_, fun _ => ne_nil_of_mem waiting, cached,
      fun other mem => asking other mem.1⟩
    dsimp only [ChunkLife.apply]
    omega
  | cache =>
    have working : 0 < life.inFlight := enabled
    refine ⟨?_, ?_, fun _ => awaited (by omega), fun _ => trivial, fun _ _ => Or.inr trivial⟩ <;>
      dsimp only [ChunkLife.apply] <;> omega
  | deliver =>
    have caching : 0 < life.undelivered := enabled
    have known := cached caching
    refine ⟨idle, ?_, ?_, fun _ => known, fun _ _ => Or.inr known⟩ <;>
      dsimp only [ChunkLife.apply] <;> omega

def Repeats (life : ChunkLife) (action : LifeAction) : Prop := action = .cache ∧ life.known

def FindsNone (life : ChunkLife) (action : LifeAction) : Prop :=
  action = .deliver ∧ life.callbacks = []

theorem MadeOnce.not_repeats (made : life.MadeOnce) (enabled : life.Enabled action) :
    ¬ life.Repeats action := by
  rintro ⟨rfl, known⟩
  have working : 0 < life.inFlight := enabled
  have idle := made.idle known
  omega

theorem MadeOnce.not_findsNone (made : life.MadeOnce) (enabled : life.Enabled action) :
    ¬ life.FindsNone action := by
  rintro ⟨rfl, none⟩
  have caching : 0 < life.undelivered := enabled
  exact made.awaited (by omega) none

def Doomed (life : ChunkLife) : Prop := (life.known ∧ 0 < life.inFlight) ∨ 1 < life.inFlight

theorem doomed_of_push (disallowed : ¬ life.Allowed (.push request)) :
    (life.apply (.push request)).Doomed := by
  by_cases known : life.known
  · exact Or.inl ⟨known, Nat.succ_pos _⟩
  have busy : life.inFlight ≠ 0 := fun free => disallowed ⟨known, free⟩
  right
  dsimp only [ChunkLife.apply]
  omega

theorem Doomed.apply (doomed : life.Doomed) (unrepeated : ¬ life.Repeats action) :
    (life.apply action).Doomed := by
  cases action with
  | idle => exact doomed
  | register request => exact doomed
  | join request => exact doomed
  | deliver => exact doomed
  | push request =>
    rcases doomed with ⟨known, working⟩ | several
    · exact Or.inl ⟨known, Nat.succ_pos _⟩
    · exact Or.inr (Nat.lt_succ_of_lt several)
  | cache =>
    rcases doomed with ⟨known, working⟩ | several
    · exact absurd ⟨rfl, known⟩ unrepeated
    · exact Or.inl ⟨trivial, Nat.sub_pos_of_lt several⟩

end ChunkLife

open List GenerationQueue

theorem count_flatMap_set {α : Type u} {β : Type v} [DecidableEq β] (share : α → List β)
    {list : List α} {index : Nat} {element : α} (found : list[index]? = some element)
    (replacement : α) (wanted : β) :
    ((list.set index replacement).flatMap share).count wanted + (share element).count wanted =
      (list.flatMap share).count wanted + (share replacement).count wanted := by
  induction list generalizing index with
  | nil => cases found
  | cons head rest ih =>
    cases index with
    | zero =>
      cases found
      simp only [set_cons_zero, flatMap_cons, count_append]
      omega
    | succ index =>
      have tail := ih found
      simp only [set_cons_succ, flatMap_cons, count_append]
      omega

namespace GenerationQueue

variable {χ : Type u}

def unfinished (queue : GenerationQueue χ) : List ChunkCoord :=
  queue.tasks ++ queue.workers.flatMap Worker.unfinished

theorem nextTask_perm {queue : GenerationQueue χ} (next : queue.nextTask = some coord) :
    queue.tasks.Perm (coord :: queue.popTask.tasks) := by
  unfold nextTask at next
  unfold popTask
  cases front : queue.popFront with
  | true =>
    rw [front] at next
    obtain ⟨rest, split⟩ := head?_eq_some_iff.mp next
    simp [split]
  | false =>
    rw [front] at next
    obtain ⟨rest, split⟩ := getLast?_eq_some_iff.mp next
    simp [split]

end GenerationQueue

namespace Pipeline

variable {χ : Type u} {ω : Type v} {code : ChunkCode χ ω} {state : Pipeline χ ω}

def asking (state : Pipeline χ ω) (key : Int64) : Set Nat :=
  {number | ∃ coord, state.requests.lookup number = some ⟨coord, .registered⟩ ∧
    makeKey coord = key}

def callbacks (state : Pipeline χ ω) (key : Int64) : List Nat :=
  (state.pendingGenCbs.lookup key).getD []

def life (state : Pipeline χ ω) (key : Int64) : ChunkLife where
  inFlight := state.inFlight.count key
  undelivered := state.undelivered.count key
  known := key ∈ state.known
  callbacks := state.callbacks key
  asking := state.asking key

theorem asking_endRequest (state : Pipeline χ ω) (number : Nat) (key : Int64) :
    (state.endRequest number).asking key = state.asking key \ {number} := by
  ext other
  simp only [asking, endRequest, Table.lookup_erase_eq, Set.mem_ofPred_eq, Set.mem_sdiff,
    Set.mem_singleton_iff]
  by_cases same : other = number <;> simp [same]

theorem asking_setRequest (state : Pipeline χ ω) (number : Nat) (coord : ChunkCoord)
    (stage : ReadStage ω) (early : stage ≠ .registered) (key : Int64) :
    (state.setRequest number coord stage).asking key = state.asking key \ {number} := by
  ext other
  simp only [asking, setRequest, Table.lookup_insert_eq, Set.mem_ofPred_eq, Set.mem_sdiff,
    Set.mem_singleton_iff]
  by_cases same : other = number <;> simp [same, early]

theorem asking_register (state : Pipeline χ ω) (number : Nat) (coord : ChunkCoord) :
    (state.setRequest number coord .registered).asking (makeKey coord) =
      insert number (state.asking (makeKey coord)) := by
  ext other
  simp only [asking, setRequest, Table.lookup_insert_eq, Set.mem_ofPred_eq, Set.mem_insert_iff]
  by_cases same : other = number <;> simp [same]

variable {coord : ChunkCoord} {key : Int64}

theorem asking_register_of_ne (state : Pipeline χ ω) (number : Nat) (apart : makeKey coord ≠ key) :
    (state.setRequest number coord .registered).asking key = state.asking key \ {number} := by
  ext other
  simp only [asking, setRequest, Table.lookup_insert_eq, Set.mem_ofPred_eq, Set.mem_sdiff,
    Set.mem_singleton_iff]
  by_cases same : other = number <;> simp [same, apart]

variable {number : Nat}

theorem asking_without {state : Pipeline χ ω}
    (apart : ∀ coord, state.requests.lookup number = some ⟨coord, .registered⟩ →
      makeKey coord ≠ key) : state.asking key \ {number} = state.asking key := by
  apply Set.sdiff_singleton_eq_self
  rintro ⟨coord, registered, same⟩
  exact apart coord registered same

structure Sound (state : Pipeline χ ω) : Prop where
  numbered : ∀ number, state.nextRequest ≤ number → state.requests.lookup number = none
  dedup : ∀ coord ∈ state.genQueue.dedup, coord ∈ state.genQueue.unfinished
  stored : ∀ key, (state.stored.lookup key).isSome → key ∈ state.known
  palettes : ∀ encoder ∈ state.encoders, ∀ item ∈ encoder.localPalettes, item.1 ∈ state.known
  read : ∀ number coord wire,
    state.requests.lookup number = some ⟨coord, .read (some wire)⟩ → makeKey coord ∈ state.known

/-- What a step, given by the state and the events it leads to, does about a
chunk. -/
structure Acts (key : Int64) (state : Pipeline χ ω)
    (result : Pipeline χ ω × List (StoreEvent ω)) (action : LifeAction) : Prop where
  enabled : (state.life key).Enabled action
  next : result.1.life key = (state.life key).apply action
  repeats : .regenerated key ∈ result.2 ↔ (state.life key).Repeats action
  findsNone : .noCallbacks key ∈ result.2 ↔ (state.life key).FindsNone action

def Unremarkable (events : List (StoreEvent ω)) : Prop :=
  ∀ key, .regenerated key ∉ events ∧ .noCallbacks key ∉ events

theorem unremarkable_nil : Unremarkable ([] : List (StoreEvent ω)) :=
  fun _ => ⟨not_mem_nil, not_mem_nil⟩

theorem unremarkable_invoked (number : Nat) (palette : Option ω) :
    Unremarkable [StoreEvent.invoked number palette] := by
  intro key
  simp

variable {result : Pipeline χ ω × List (StoreEvent ω)}

theorem Acts.of_unremarkable {state : Pipeline χ ω} (unremarkable : Unremarkable result.2)
    (enabled : (state.life key).Enabled action)
    (next : result.1.life key = (state.life key).apply action) (cacheless : action ≠ .cache)
    (undelivering : action ≠ .deliver) : Acts key state result action where
  enabled := enabled
  next := next
  repeats := iff_of_false (unremarkable key).1 fun repeats => cacheless repeats.1
  findsNone := iff_of_false (unremarkable key).2 fun finds => undelivering finds.1

theorem Acts.idle {state : Pipeline χ ω} (unremarkable : Unremarkable result.2)
    (same : result.1.life key = state.life key) : Acts key state result .idle :=
  Acts.of_unremarkable unremarkable trivial same nofun nofun

def ActsOn (key : Int64) (state : Pipeline χ ω)
    (result : Pipeline χ ω × List (StoreEvent ω)) (ordered : Prop) : Prop :=
  ∃ action, Acts key state result action ∧ (ordered → (state.life key).Allowed action)

theorem ActsOn.idle {state : Pipeline χ ω} {ordered : Prop} (unremarkable : Unremarkable result.2)
    (same : result.1.life key = state.life key) : ActsOn key state result ordered :=
  ⟨.idle, Acts.idle unremarkable same, fun _ => trivial⟩

theorem asyncGetChunk_acts (sound : state.Sound) (coord : ChunkCoord) (key : Int64)
    (ordered : Prop) : ActsOn key state (state.asyncGetChunk code coord) ordered := by
  cases cached : state.cache.lookup (makeKey coord) with
  | none =>
    have unused := sound.numbered state.nextRequest (le_refl _)
    simp only [asyncGetChunk, cached]
    apply ActsOn.idle unremarkable_nil
    have kept : (state.setRequest state.nextRequest coord .posted).asking key =
        state.asking key := by
      rw [asking_setRequest _ _ _ .posted nofun]
      exact asking_without fun _ registered => by rw [unused] at registered; cases registered
    exact ChunkLife.ext rfl rfl rfl rfl kept
  | some chunk =>
    cases palette : state.pendingLmdb.lookup (makeKey coord) with
    | none =>
      simp only [asyncGetChunk, cached, palette]
      exact ActsOn.idle (unremarkable_invoked _ _) rfl
    | some palette =>
      simp only [asyncGetChunk, cached, palette]
      exact ActsOn.idle (unremarkable_invoked _ _) rfl

theorem asking_unregistered {request : Request ω}
    (found : state.requests.lookup number = some request) (early : request.stage ≠ .registered)
    (key : Int64) : state.asking key \ {number} = state.asking key := by
  apply asking_without
  intro coord registered
  rw [found] at registered
  cases registered
  exact absurd rfl early

theorem readRawBytes_acts (number : Nat) (fails : Bool) (key : Int64) (ordered : Prop) :
    ActsOn key state (state.handle code (.readRawBytes number fails)) ordered := by
  simp only [handle]
  split
  · next coord found =>
    have kept := asking_unregistered found nofun key
    cases fails with
    | true =>
      apply ActsOn.idle (unremarkable_invoked _ _)
      exact ChunkLife.ext rfl rfl rfl rfl ((asking_endRequest _ _ _).trans kept)
    | false =>
      apply ActsOn.idle unremarkable_nil
      refine ChunkLife.ext rfl rfl rfl rfl (Eq.trans ?_ kept)
      exact asking_setRequest _ _ _ (.read _) nofun _
  · exact ActsOn.idle unremarkable_nil rfl

theorem finishRead_acts (sound : state.Sound)
    (found : state.requests.lookup number = some ⟨coord, .read wire⟩)
    (key : Int64) (ordered : Prop) :
    ActsOn key state (state.finishRead code number coord wire) ordered := by
  have kept := asking_unregistered found nofun key
  have ended := (asking_endRequest state number key).trans kept
  cases wire with
  | some wire =>
    have known := sound.read number coord wire found
    cases decoded : code.fromWire wire with
    | none =>
      simp only [finishRead, decoded]
      apply ActsOn.idle (unremarkable_invoked _ _)
      exact ChunkLife.ext rfl rfl rfl rfl ended
    | some chunk =>
      simp only [finishRead, decoded]
      apply ActsOn.idle (unremarkable_invoked _ _)
      refine ChunkLife.ext rfl rfl (propext ?_) rfl ended
      constructor
      · intro mem
        rcases mem_cons.mp mem with rfl | mem
        · exact known
        · exact mem
      · exact mem_cons_of_mem _
  | none =>
    by_cases same : makeKey coord = key
    · subst same
      refine ⟨.register number, Acts.of_unremarkable unremarkable_nil trivial ?_
        nofun nofun, fun _ => trivial⟩
      refine ChunkLife.ext rfl rfl rfl ?_ (asking_register state number coord)
      simp [life, callbacks, finishRead, ChunkLife.apply]
    · apply ActsOn.idle unremarkable_nil
      refine ChunkLife.ext rfl rfl rfl ?_ ((asking_register_of_ne state number same).trans kept)
      simp [life, callbacks, finishRead, AList.lookup_insert_ne (Ne.symm same), setRequest]

theorem count_inFlight (state : Pipeline χ ω) (key : Int64) :
    state.inFlight.count key = (state.genQueue.tasks.map makeKey).count key +
        (state.genQueue.workers.flatMap Worker.inFlight).count key +
        (state.encodeQueue.map EncodeTask.key).count key +
        (state.encoders.flatMap fun encoder => encoder.phase.inFlight).count key := by
  simp only [inFlight, count_append]

theorem inFlight_of_unfinished (unfinished : coord ∈ state.genQueue.unfinished) :
    makeKey coord ∈ state.inFlight := by
  simp only [inFlight, mem_append, mem_map, mem_flatMap]
  rcases mem_append.mp unfinished with task | working
  · exact Or.inl (Or.inl (Or.inl ⟨coord, task, rfl⟩))
  obtain ⟨worker, mem, current⟩ := mem_flatMap.mp working
  refine Or.inl (Or.inl (Or.inr ⟨worker, mem, ?_⟩))
  cases worker with
  | waiting => cases current
  | generated task => cases current
  | generating chunkCoord =>
    obtain rfl := mem_singleton.mp current
    exact mem_singleton_self _

theorem life_push (number : Nat) (unqueued : coord ∉ state.genQueue.dedup) :
    ((state.endRequest number).setQueue (state.genQueue.requestChunk coord)).life
        (makeKey coord) = (state.life (makeKey coord)).apply (.push number) := by
  simp only [requestChunk, unqueued, if_false]
  refine ChunkLife.ext ?_ rfl rfl rfl (asking_endRequest state number _)
  simp only [life, ChunkLife.apply, count_inFlight, setQueue, endRequest, map_append,
    map_cons, map_nil, count_append, count_singleton_self]
  omega

theorem requestChunk_acts (sound : state.Sound)
    (found : state.requests.lookup number = some ⟨coord, .registered⟩) (key : Int64) :
    ActsOn key state ((state.endRequest number).setQueue (state.genQueue.requestChunk coord), [])
      (coord ∉ state.genQueue.dedup →
        makeKey coord ∉ state.known ∧ makeKey coord ∉ state.inFlight) := by
  have ended := asking_endRequest state number key
  by_cases same : makeKey coord = key
  · subst same
    have asks : number ∈ state.asking (makeKey coord) := ⟨coord, found, rfl⟩
    by_cases queued : coord ∈ state.genQueue.dedup
    · have working : 0 < state.inFlight.count (makeKey coord) :=
        count_pos_iff.mpr (inFlight_of_unfinished (sound.dedup coord queued))
      simp only [requestChunk, queued, if_true]
      exact ⟨.join number, Acts.of_unremarkable unremarkable_nil ⟨asks, working⟩
        (ChunkLife.ext rfl rfl rfl rfl ended) nofun nofun, fun _ => trivial⟩
    · refine ⟨.push number, Acts.of_unremarkable unremarkable_nil asks
        (life_push number queued) nofun nofun, ?_⟩
      intro ordered
      obtain ⟨unknown, free⟩ := ordered queued
      exact ⟨unknown, count_eq_zero.mpr free⟩
  · have kept : state.asking key \ {number} = state.asking key := by
      apply asking_without
      intro other registered
      rw [found] at registered
      cases registered
      exact same
    apply ActsOn.idle unremarkable_nil
    refine ChunkLife.ext ?_ rfl rfl rfl (ended.trans kept)
    unfold requestChunk
    split
    · rfl
    · simp only [life, count_inFlight, setQueue, endRequest, map_append, map_cons,
        map_nil, count_append, count_singleton, beq_iff_eq, if_neg same, Nat.add_zero]

variable {thread : Nat} {worker : Worker χ}

theorem inFlight_workerStep (code : ChunkCode χ ω)
    (found : state.genQueue.workers[thread]? = some worker) (key : Int64) :
    (state.workerStep code thread worker).inFlight.count key = state.inFlight.count key := by
  have exchange := fun next => count_flatMap_set Worker.inFlight found next key
  cases worker with
  | waiting =>
    cases next : state.genQueue.nextTask with
    | none => simp only [workerStep, next]
    | some coord =>
      have moved := exchange (.generating coord)
      have taken := ((nextTask_perm next).map makeKey).count_eq key
      simp only [map_cons, count_cons, Worker.inFlight, count_nil]
        at moved taken
      simp only [workerStep, next, count_inFlight, setQueue, setWorker]
      have workers : state.genQueue.popTask.workers = state.genQueue.workers := rfl
      rw [workers]
      omega
  | generating coord =>
    have moved := exchange (.generated ⟨coord, code.generateTerrain coord⟩)
    simp only [workerStep, count_inFlight, setQueue, setWorker, eraseDedup]
    simp only [Worker.inFlight, EncodeTask.key] at moved
    omega
  | generated task =>
    have moved := exchange .waiting
    simp only [Worker.inFlight, count_nil] at moved
    simp only [workerStep, count_inFlight, setQueue, setWorker, map_append,
      map_cons, map_nil, count_append]
    omega

theorem workerStep_acts (found : state.genQueue.workers[thread]? = some worker) (key : Int64)
    (ordered : Prop) : ActsOn key state (state.workerStep code thread worker, []) ordered := by
  have moved := inFlight_workerStep code found key
  apply ActsOn.idle unremarkable_nil
  cases worker with
  | waiting =>
    cases next : state.genQueue.nextTask with
    | none => simp only [workerStep, next]
    | some coord =>
      simp only [workerStep, next] at moved ⊢
      exact ChunkLife.ext moved rfl rfl rfl rfl
  | generating coord => exact ChunkLife.ext moved rfl rfl rfl rfl
  | generated task => exact ChunkLife.ext moved rfl rfl rfl rfl

variable {encoder : Encoder χ ω}

theorem inFlight_setEncoder (found : state.encoders[thread]? = some encoder)
    (phase : EncodePhase χ ω) (localPalettes : List (Int64 × ω)) (key : Int64) :
    (state.setEncoder thread phase localPalettes).inFlight.count key +
        encoder.phase.inFlight.count key = state.inFlight.count key + phase.inFlight.count key := by
  have exchange := count_flatMap_set (fun encoder : Encoder χ ω => encoder.phase.inFlight) found
    ⟨phase, localPalettes⟩ key
  simp only [count_inFlight, setEncoder] at exchange ⊢
  omega

theorem undelivered_setEncoder (found : state.encoders[thread]? = some encoder)
    (phase : EncodePhase χ ω) (localPalettes : List (Int64 × ω)) (key : Int64) :
    (state.setEncoder thread phase localPalettes).undelivered.count key +
        encoder.phase.undelivered.count key =
      state.undelivered.count key + phase.undelivered.count key :=
  count_flatMap_set (fun encoder : Encoder χ ω => encoder.phase.undelivered) found
    ⟨phase, localPalettes⟩ key

variable {localPalettes : List (Int64 × ω)}

theorem takeEncodeQueue_acts (found : state.encoders[thread]? = some ⟨.waiting, localPalettes⟩)
    (key : Int64) (ordered : Prop) :
    ActsOn key state (state.encodeStep code thread localPalettes .waiting) ordered := by
  cases queue : state.encodeQueue with
  | nil =>
    simp only [encodeStep, queue]
    exact ActsOn.idle unremarkable_nil rfl
  | cons task tasks =>
    simp only [encodeStep, queue]
    have moved := inFlight_setEncoder found (.draining (task :: tasks)) localPalettes key
    have same := undelivered_setEncoder found (.draining (task :: tasks)) localPalettes key
    apply ActsOn.idle unremarkable_nil
    refine ChunkLife.ext ?_ (Nat.add_right_cancel same) rfl rfl rfl
    simp only [EncodePhase.inFlight, count_nil] at moved
    simp only [life]
    rw [count_inFlight] at moved ⊢
    simp only [setEncoder, queue, map_nil, count_nil] at moved ⊢
    omega

variable {tasks : List (EncodeTask χ)}

theorem encodeTask_acts
    (found : state.encoders[thread]? = some ⟨.draining (task :: tasks), localPalettes⟩)
    (key : Int64) (ordered : Prop) :
    ActsOn key state (state.encodeStep code thread localPalettes (.draining (task :: tasks)))
      ordered := by
  let palette := code.encodeToWire task.chunk
  have moved := inFlight_setEncoder found (.delivering task.key palette tasks)
    (localPalettes ++ [(task.key, palette)]) key
  have cached := undelivered_setEncoder found (.delivering task.key palette tasks)
    (localPalettes ++ [(task.key, palette)]) key
  simp only [EncodePhase.inFlight, map_cons, count_cons] at moved
  simp only [EncodePhase.undelivered, count_cons, count_nil] at cached
  by_cases same : task.key = key
  · subst same
    simp only [beq_self_eq_true, if_true] at moved cached
    have taken : (state.setEncoder thread (.delivering task.key palette tasks)
        (localPalettes ++ [(task.key, palette)])).inFlight.count task.key + 1 =
          state.inFlight.count task.key := by
      omega
    refine ⟨.cache, ⟨?_, ?_, ?_, ?_⟩, fun _ => trivial⟩
    · show 0 < state.inFlight.count task.key
      omega
    · refine ChunkLife.ext (Nat.eq_sub_of_add_eq taken) cached (propext ?_) rfl rfl
      exact iff_of_true mem_cons_self trivial
    · by_cases known : task.key ∈ state.known
      · simp [encodeStep, known, ChunkLife.Repeats, life]
      · simp [encodeStep, known, ChunkLife.Repeats, life]
    · refine iff_of_false ?_ (fun finds => nomatch finds.1)
      by_cases known : task.key ∈ state.known <;> simp [encodeStep, known]
  · simp only [beq_iff_eq, if_neg same, Nat.add_zero] at moved cached
    refine ⟨.idle, ⟨trivial, ?_, ?_, ?_⟩, fun _ => trivial⟩
    · refine ChunkLife.ext (Nat.add_right_cancel moved) cached (propext ?_) rfl rfl
      exact ⟨fun mem => (mem_cons.mp mem).resolve_left (Ne.symm same), mem_cons_of_mem _⟩
    · refine iff_of_false ?_ (fun repeats => nomatch repeats.1)
      by_cases known : task.key ∈ state.known <;> simp [encodeStep, known, Ne.symm same]
    · refine iff_of_false ?_ (fun finds => nomatch finds.1)
      by_cases known : task.key ∈ state.known <;> simp [encodeStep, known]

theorem reported_callbacks (key other : Int64) (palette : ω) (numbers : List Nat) :
    let events := match numbers with
      | [] => [StoreEvent.noCallbacks key]
      | numbers => numbers.map fun number => .invoked number (some palette)
    (.regenerated other ∉ events) ∧ (.noCallbacks other ∈ events ↔ other = key ∧ numbers = []) := by
  cases numbers with
  | nil => simp
  | cons number rest => simp

theorem deliver_acts
    (found : state.encoders[thread]? = some ⟨.delivering served palette tasks, localPalettes⟩)
    (key : Int64) (ordered : Prop) :
    ActsOn key state (state.encodeStep code thread localPalettes (.delivering served palette tasks))
      ordered := by
  have moved := inFlight_setEncoder found (.draining tasks) localPalettes key
  have delivered := undelivered_setEncoder found (.draining tasks) localPalettes key
  simp only [EncodePhase.undelivered, count_cons, count_nil] at delivered
  obtain ⟨quiet, reports⟩ := reported_callbacks served key palette
    ((state.pendingGenCbs.lookup served).getD [])
  by_cases same : served = key
  · subst same
    simp only [beq_self_eq_true, if_true] at delivered
    refine ⟨.deliver, ⟨?_, ?_, ?_, ?_⟩, fun _ => trivial⟩
    · show 0 < state.undelivered.count served
      omega
    · refine ChunkLife.ext (Nat.add_right_cancel moved) ?_ rfl ?_ rfl
      · exact Nat.eq_sub_of_add_eq delivered
      · simp [life, callbacks, encodeStep, ChunkLife.apply]
    · exact iff_of_false quiet (fun repeats => nomatch repeats.1)
    · exact reports.trans ⟨fun finds => ⟨rfl, finds.2⟩, fun finds => ⟨rfl, finds.2⟩⟩
  · simp only [beq_iff_eq, if_neg same, Nat.add_zero] at delivered
    refine ⟨.idle, ⟨trivial, ?_, ?_, ?_⟩, fun _ => trivial⟩
    · refine ChunkLife.ext (Nat.add_right_cancel moved) delivered rfl ?_ rfl
      simp only [life, callbacks, encodeStep, Table.lookup_erase_eq, if_neg (Ne.symm same),
        ChunkLife.apply]
    · exact iff_of_false quiet (fun repeats => nomatch repeats.1)
    · refine iff_of_false ?_ (fun finds => nomatch finds.1)
      exact fun event => same (reports.mp event).1.symm

theorem writeBatch_acts (found : state.encoders[thread]? = some ⟨.draining [], localPalettes⟩)
    (written : Nat) (key : Int64) (ordered : Prop) :
    ActsOn key state (state.writeBatch thread localPalettes written, []) ordered := by
  have moved := inFlight_setEncoder found .waiting (localPalettes.drop written) key
  have same := undelivered_setEncoder found .waiting (localPalettes.drop written) key
  apply ActsOn.idle unremarkable_nil
  exact ChunkLife.ext (Nat.add_right_cancel moved) (Nat.add_right_cancel same) rfl rfl rfl

theorem handle_acts (code : ChunkCode χ ω) (sound : state.Sound) (input : StoreInput)
    (key : Int64) : ActsOn key state (state.handle code input) (state.InOrder input) := by
  cases input with
  | asyncGetChunk coord => exact asyncGetChunk_acts sound coord key _
  | readRawBytes number fails => exact readRawBytes_acts number fails key _
  | finishRead number =>
    simp only [handle]
    split
    · next coord wire found => exact finishRead_acts sound found key _
    · exact ActsOn.idle unremarkable_nil rfl
  | requestChunk number =>
    simp only [handle]
    split
    · next coord found =>
      obtain ⟨action, acts, allowed⟩ := requestChunk_acts sound found key
      exact ⟨action, acts, fun ordered => allowed (ordered coord found)⟩
    · exact ActsOn.idle unremarkable_nil rfl
  | workerStep thread =>
    simp only [handle]
    split
    · next worker found => exact workerStep_acts found key _
    · exact ActsOn.idle unremarkable_nil rfl
  | encodeStep thread =>
    simp only [handle]
    split
    · next encoder found =>
      obtain ⟨phase, localPalettes⟩ := encoder
      cases phase with
      | waiting => exact takeEncodeQueue_acts found key _
      | draining tasks =>
        cases tasks with
        | nil => exact ActsOn.idle unremarkable_nil rfl
        | cons task tasks => exact encodeTask_acts found key _
      | delivering served palette tasks => exact deliver_acts found key _
    · exact ActsOn.idle unremarkable_nil rfl
  | writeBatch thread written =>
    simp only [handle]
    split
    · next localPalettes found => exact writeBatch_acts found written key _
    · exact ActsOn.idle unremarkable_nil rfl
  | evict other => exact ActsOn.idle unremarkable_nil rfl

end Pipeline

end GtnhPlatform.ChunkStore
