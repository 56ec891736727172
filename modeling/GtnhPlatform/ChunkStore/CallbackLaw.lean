import GtnhPlatform.ChunkStore.GenerationSound

namespace GtnhPlatform.ChunkStore

open List

def ReadStage.unregistered {ω : Type v} : ReadStage ω → Nat
  | .registered => 0
  | _ => 1

namespace Pipeline

variable {χ : Type u} {ω : Type v} {code : ChunkCode χ ω} {state : Pipeline χ ω}

theorem invocations_append (number : Nat) (first second : List (StoreEvent ω)) :
    invocations number (first ++ second) = invocations number first + invocations number second :=
  countP_append

def unregistered (state : Pipeline χ ω) (number : Nat) : Nat :=
  ((state.requests.lookup number).map fun request => request.stage.unregistered).getD 0

def registered (state : Pipeline χ ω) (number : Nat) : Nat :=
  Table.total (fun callbacks => callbacks.count number) state.pendingGenCbs

def started (state : Pipeline χ ω) (number : Nat) : Nat :=
  if number < state.nextRequest then 1 else 0

def Balanced (number : Nat) (state : Pipeline χ ω)
    (result : Pipeline χ ω × List (StoreEvent ω)) : Prop :=
  invocations number result.2 + result.1.unregistered number + result.1.registered number +
      state.started number =
    state.unregistered number + state.registered number + result.1.started number

variable {result : Pipeline χ ω × List (StoreEvent ω)} {number : Nat}

theorem Balanced.idle (silent : invocations number result.2 = 0)
    (requests : result.1.requests = state.requests)
    (callbacks : result.1.pendingGenCbs = state.pendingGenCbs)
    (numbers : result.1.nextRequest = state.nextRequest) : Balanced number state result := by
  simp only [Balanced, silent, unregistered, registered, started, requests, callbacks, numbers]
  omega

theorem unregistered_endRequest (state : Pipeline χ ω) (ended number : Nat) :
    (state.endRequest ended).unregistered number =
      if number = ended then 0 else state.unregistered number := by
  simp only [unregistered, endRequest, Table.lookup_erase_eq]
  split <;> rfl

theorem unregistered_setRequest (state : Pipeline χ ω) (moved : Nat) (coord : ChunkCoord)
    (stage : ReadStage ω) (number : Nat) :
    (state.setRequest moved coord stage).unregistered number =
      if number = moved then stage.unregistered else state.unregistered number := by
  simp only [unregistered, setRequest, Table.lookup_insert_eq]
  split <;> rfl

variable {request : Request ω}

theorem unregistered_eq (found : state.requests.lookup number = some request) :
    state.unregistered number = request.stage.unregistered := by
  simp only [unregistered, found, Option.map_some, Option.getD_some]

theorem invocations_invoked (number called : Nat) (palette : Option ω) :
    invocations number [StoreEvent.invoked called palette] = if number = called then 1 else 0 := by
  by_cases same : number = called
  · simp [invocations, StoreEvent.invokes, same]
  · simp [invocations, StoreEvent.invokes, same, Ne.symm same]

theorem Balanced.single (handled : Nat)
    (there : invocations handled result.2 + result.1.unregistered handled +
      result.1.registered handled = state.unregistered handled + state.registered handled)
    (elsewhere : ∀ number ≠ handled, invocations number result.2 = 0 ∧
      result.1.unregistered number = state.unregistered number ∧
      result.1.registered number = state.registered number)
    (numbers : result.1.nextRequest = state.nextRequest) (number : Nat) :
    Balanced number state result := by
  have kept : result.1.started number = state.started number := by
    simp only [started, numbers]
  by_cases same : number = handled
  · subst same
    simp only [Balanced, kept, there]
  · obtain ⟨silent, unregistered, registered⟩ := elsewhere number same
    simp only [Balanced, silent, unregistered, registered, kept, Nat.zero_add]

theorem endRequest_balanced (found : state.requests.lookup ended = some request)
    (early : request.stage.unregistered = 1) (palette : Option ω) (number : Nat) :
    Balanced number state (state.endRequest ended, [.invoked ended palette]) := by
  refine Balanced.single ended ?_ ?_ ?_ number
  · rw [invocations_invoked, unregistered_endRequest, unregistered_eq found, early, if_pos rfl,
      if_pos rfl]
    rfl
  · intro other apart
    refine ⟨?_, ?_, rfl⟩
    · rw [invocations_invoked, if_neg apart]
    · rw [unregistered_endRequest, if_neg apart]
  · rfl

theorem setRequest_balanced (found : state.requests.lookup moved = some request)
    (coord : ChunkCoord) (stage : ReadStage ω)
    (same : stage.unregistered = request.stage.unregistered) (number : Nat) :
    Balanced number state (state.setRequest moved coord stage, []) := by
  refine Balanced.single moved ?_ ?_ ?_ number
  · rw [unregistered_setRequest, unregistered_eq found, same, if_pos rfl]
    exact congrArg (· + _) (Nat.zero_add _)
  · intro other apart
    refine ⟨rfl, ?_, rfl⟩
    rw [unregistered_setRequest, if_neg apart]
  · rfl

theorem started_succ (state : Pipeline χ ω) (number : Nat) :
    (if number < state.nextRequest + 1 then 1 else 0) =
      state.started number + if number = state.nextRequest then 1 else 0 := by
  unfold started
  split <;> split <;> split <;> omega

theorem asyncGetChunk_balanced (sound : state.Sound) (coord : ChunkCoord) (number : Nat) :
    Balanced number state (state.asyncGetChunk code coord) := by
  have later := started_succ state number
  cases cached : state.cache.lookup (makeKey coord) with
  | none =>
    simp only [asyncGetChunk, cached]
    have fresh : state.unregistered state.nextRequest = 0 := by
      simp only [unregistered, sound.numbered _ (le_refl _), Option.map_none, Option.getD_none]
    simp only [Balanced, unregistered_setRequest, ReadStage.unregistered]
    simp only [invocations, countP_nil, unregistered, registered, setRequest] at fresh ⊢
    simp only [started] at later ⊢
    by_cases same : number = state.nextRequest
    · subst same
      simp only [if_true] at later ⊢
      omega
    · simp only [if_neg same] at later ⊢
      omega
  | some chunk =>
    cases palette : state.pendingLmdb.lookup (makeKey coord) with
    | none =>
      simp only [asyncGetChunk, cached, palette, Balanced, invocations_invoked, unregistered,
        registered]
      simp only [started] at later ⊢
      omega
    | some palette =>
      simp only [asyncGetChunk, cached, palette, Balanced, invocations_invoked, unregistered,
        registered]
      simp only [started] at later ⊢
      omega

theorem readRawBytes_balanced (request : Nat) (fails : Bool) (number : Nat) :
    Balanced number state (state.handle code (.readRawBytes request fails)) := by
  simp only [handle]
  split
  · next coord found =>
    cases fails with
    | true => exact endRequest_balanced found rfl none number
    | false => exact setRequest_balanced found coord (.read _) rfl number
  · exact Balanced.idle rfl rfl rfl rfl

theorem count_callbacks (state : Pipeline χ ω) (key : Int64) (number : Nat) :
    ((state.pendingGenCbs.lookup key).map fun callbacks => callbacks.count number).getD 0 =
      (state.callbacks key).count number := by
  unfold callbacks
  cases state.pendingGenCbs.lookup key <;> rfl

theorem registered_push (state : Pipeline χ ω) (key : Int64) (pushed number : Nat) :
    Table.total (fun callbacks => callbacks.count number)
        (AList.insert key (state.callbacks key ++ [pushed]) state.pendingGenCbs) =
      state.registered number + [pushed].count number := by
  have weight := Table.total_insert (fun callbacks => callbacks.count number)
    state.pendingGenCbs key (state.callbacks key ++ [pushed])
  rw [count_append, count_callbacks] at weight
  unfold registered
  omega

variable {coord : ChunkCoord}

theorem finishRead_balanced {request : Nat}
    (found : state.requests.lookup request = some ⟨coord, .read wire⟩) (number : Nat) :
    Balanced number state (state.finishRead code request coord wire) := by
  cases wire with
  | some wire =>
    cases decoded : code.fromWire wire with
    | none =>
      simp only [finishRead, decoded]
      exact endRequest_balanced found rfl none number
    | some chunk =>
      simp only [finishRead, decoded]
      exact endRequest_balanced found rfl (some wire) number
  | none =>
    let result := state.finishRead code request coord none
    have silent : ∀ other, invocations other result.2 = 0 := fun _ => rfl
    have moved : ∀ other, result.1.unregistered other =
        if other = request then 0 else state.unregistered other :=
      unregistered_setRequest state request coord .registered
    have callbacks : ∀ other, result.1.registered other =
        state.registered other + [request].count other :=
      registered_push state (makeKey coord) request
    refine Balanced.single request ?_ ?_ ?_ number
    · rw [silent, moved, callbacks, if_pos rfl, count_singleton_self, unregistered_eq found]
      simp only [ReadStage.unregistered]
      omega
    · intro other apart
      refine ⟨silent other, ?_, ?_⟩
      · rw [moved, if_neg apart]
      · rw [callbacks, count_singleton, beq_eq_false_iff_ne.mpr (Ne.symm apart)]
        rfl
    · rfl

theorem invocations_called (key : Int64) (palette : ω) (numbers : List Nat) (number : Nat) :
    invocations number (match numbers with
      | [] => [StoreEvent.noCallbacks key]
      | numbers => numbers.map fun called => .invoked called (some palette)) =
      numbers.count number := by
  have called : ∀ numbers : List Nat,
      invocations number (numbers.map fun called => StoreEvent.invoked called (some palette)) =
        numbers.count number := by
    intro numbers
    rw [invocations, countP_map, count]
    rfl
  cases numbers with
  | nil => rfl
  | cons first rest => exact called (first :: rest)

theorem deliver_balanced (thread : Nat) (localPalettes : List (Int64 × ω)) (served : Int64)
    (palette : ω) (tasks : List (EncodeTask χ)) (number : Nat) : Balanced number state
      (state.encodeStep code thread localPalettes (.delivering served palette tasks)) := by
  let result := state.encodeStep code thread localPalettes (.delivering served palette tasks)
  have called : invocations number result.2 = (state.callbacks served).count number :=
    invocations_called served palette _ number
  have taken : state.registered number =
      (state.callbacks served).count number + result.1.registered number := by
    rw [← count_callbacks]
    exact Table.total_erase _ state.pendingGenCbs served
  have requests : result.1.unregistered number = state.unregistered number := rfl
  have numbers : result.1.started number = state.started number := rfl
  show Balanced number state result
  unfold Balanced
  omega

theorem requestChunk_balanced {request : Nat}
    (found : state.requests.lookup request = some ⟨coord, .registered⟩) (number : Nat) :
    Balanced number state
      ((state.endRequest request).setQueue (state.genQueue.requestChunk coord), []) := by
  have moved : ∀ other, ((state.endRequest request).setQueue
      (state.genQueue.requestChunk coord)).unregistered other =
        if other = request then 0 else state.unregistered other :=
    unregistered_endRequest state request
  refine Balanced.single request ?_ ?_ ?_ number
  · rw [moved, if_pos rfl, unregistered_eq found]
    rfl
  · intro other apart
    refine ⟨rfl, ?_, rfl⟩
    rw [moved, if_neg apart]
  · rfl

theorem handle_balanced (code : ChunkCode χ ω) (sound : state.Sound) (input : StoreInput)
    (number : Nat) : Balanced number state (state.handle code input) := by
  cases input with
  | asyncGetChunk coord => exact asyncGetChunk_balanced sound coord number
  | readRawBytes request fails => exact readRawBytes_balanced request fails number
  | finishRead request =>
    simp only [handle]
    split
    · next coord wire found => exact finishRead_balanced found number
    · exact Balanced.idle rfl rfl rfl rfl
  | requestChunk request =>
    simp only [handle]
    split
    · next coord found => exact requestChunk_balanced found number
    · exact Balanced.idle rfl rfl rfl rfl
  | workerStep thread =>
    simp only [handle]
    split
    · next worker found =>
      cases worker with
      | waiting =>
        simp only [workerStep]
        split
        · exact Balanced.idle rfl rfl rfl rfl
        · exact Balanced.idle rfl rfl rfl rfl
      | generating coord => exact Balanced.idle rfl rfl rfl rfl
      | generated task => exact Balanced.idle rfl rfl rfl rfl
    · exact Balanced.idle rfl rfl rfl rfl
  | encodeStep thread =>
    simp only [handle]
    split
    · next encoder found =>
      obtain ⟨phase, localPalettes⟩ := encoder
      cases phase with
      | waiting =>
        simp only [encodeStep]
        split
        · exact Balanced.idle rfl rfl rfl rfl
        · exact Balanced.idle rfl rfl rfl rfl
      | draining tasks =>
        cases tasks with
        | nil => exact Balanced.idle rfl rfl rfl rfl
        | cons task tasks =>
          refine Balanced.idle ?_ rfl rfl rfl
          by_cases known : task.key ∈ state.known <;>
            simp [encodeStep, known, invocations, StoreEvent.invokes]
      | delivering served palette tasks =>
        exact deliver_balanced thread localPalettes served palette tasks number
    · exact Balanced.idle rfl rfl rfl rfl
  | writeBatch thread written =>
    simp only [handle]
    split
    · next localPalettes found => exact Balanced.idle rfl rfl rfl rfl
    · exact Balanced.idle rfl rfl rfl rfl
  | evict key => exact Balanced.idle rfl rfl rfl rfl

structure Accounted (state : Pipeline χ ω) (history : List (StoreEvent ω)) : Prop where
  sound : state.Sound
  balance : ∀ number, invocations number history + state.unregistered number +
    state.registered number = state.started number
  served : ∀ key, (state.life key).Served

variable {history : List (StoreEvent ω)}

theorem Accounted.step (code : ChunkCode χ ω) (accounted : state.Accounted history)
    (input : StoreInput) :
    (state.handle code input).1.Accounted (history ++ (state.handle code input).2) where
  sound := accounted.sound.handle input
  balance number := by
    have before := accounted.balance number
    have balanced := handle_balanced code accounted.sound input number
    unfold Balanced at balanced
    rw [invocations_append]
    omega
  served key := by
    obtain ⟨action, acts, _⟩ := handle_acts code accounted.sound input key
    rw [acts.next]
    exact (accounted.served key).apply acts.enabled

structure Orderly (state : Pipeline χ ω) (history : List (StoreEvent ω)) : Prop where
  sound : state.Sound
  made : ∀ key, (state.life key).MadeOnce
  unremarkable : Unremarkable history

variable {input : StoreInput}

theorem Orderly.step (orderly : state.Orderly history) (ordered : state.InOrder input) :
    (state.handle code input).1.Orderly (history ++ (state.handle code input).2) where
  sound := orderly.sound.handle input
  made key := by
    obtain ⟨action, acts, allowed⟩ := handle_acts code orderly.sound input key
    rw [acts.next]
    exact (orderly.made key).apply acts.enabled (allowed ordered)
  unremarkable key := by
    obtain ⟨action, acts, _⟩ := handle_acts code orderly.sound input key
    have made := orderly.made key
    constructor
    · intro event
      rcases mem_append.mp event with before | now
      · exact (orderly.unremarkable key).1 before
      · exact made.not_repeats acts.enabled (acts.repeats.mp now)
    · intro event
      rcases mem_append.mp event with before | now
      · exact (orderly.unremarkable key).2 before
      · exact made.not_findsNone acts.enabled (acts.findsNone.mp now)

theorem life_of_idle (tasks : state.inFlight = []) (threads : state.undelivered = [])
    (callbacks : state.pendingGenCbs = ∅) (requests : state.requests = ∅) :
    state.life key = ⟨0, 0, key ∈ state.known, [], ∅⟩ := by
  refine ChunkLife.ext ?_ ?_ rfl ?_ ?_
  · rw [life, tasks, count_nil]
  · rw [life, threads, count_nil]
  · rw [life, Pipeline.callbacks, callbacks, AList.lookup_empty, Option.getD_none]
  apply Set.eq_empty_of_forall_notMem
  rintro number ⟨coord, found, _⟩
  rw [requests, AList.lookup_empty] at found
  cases found

variable (num_threads : Nat) (stored : Table Int64 ω)

theorem start_inFlight : (start num_threads stored : Pipeline χ ω).inFlight = [] := by
  simp [inFlight, start, EncodePhase.inFlight, flatMap_replicate, Worker.inFlight]

theorem life_start (key : Int64) : (start num_threads stored : Pipeline χ ω).life key =
      ⟨0, 0, key ∈ stored.keys, [], ∅⟩ :=
  life_of_idle (start_inFlight num_threads stored) rfl rfl rfl

theorem start_accounted : (start num_threads stored : Pipeline χ ω).Accounted [] where
  sound := start_sound num_threads stored
  balance _ := rfl
  served key := by
    rw [life_start]
    exact fun waiting => absurd rfl waiting

theorem start_orderly : (start num_threads stored : Pipeline χ ω).Orderly [] where
  sound := start_sound num_threads stored
  made key := by
    rw [life_start]
    exact ⟨fun _ => rfl, Nat.zero_le 1, nofun, nofun, nofun⟩
  unremarkable := unremarkable_nil

theorem run_accounted (code : ChunkCode χ ω) (inputs : List StoreInput) :
    ((machine code).final (start num_threads stored) inputs).Accounted
      ((machine code).outputs (start num_threads stored) inputs) :=
  (machine code).invariant (fun _ _ => True) (fun _ => Accounted)
    (start_accounted num_threads stored)
    (fun _ _ _ input accounted _ => accounted.step code input) inputs
    ((machine code).along_true _ _)

theorem run_orderly (code : ChunkCode χ ω)
    (ordered : (machine code).Along InOrder (start num_threads stored) inputs) :
    ((machine code).final (start num_threads stored) inputs).Orderly
      ((machine code).outputs (start num_threads stored) inputs) :=
  (machine code).invariant InOrder (fun _ => Orderly) (start_orderly num_threads stored)
    (fun _ _ _ _ orderly ordered => orderly.step ordered) inputs ordered

theorem Accounted.atMostOnce (accounted : state.Accounted history) (number : Nat) :
    invocations number history ≤ 1 := by
  have balance := accounted.balance number
  unfold started at balance
  split at balance <;> omega

theorem Accounted.calledWhenQuiet (accounted : state.Accounted history) (quiet : state.Quiet)
    (begun : number < state.nextRequest) : invocations number history = 1 := by
  have requests : state.unregistered number = 0 := by
    simp only [unregistered, quiet.requests number, Option.map_none, Option.getD_none]
  have callbacks : state.registered number = 0 := by
    apply Table.total_eq_zero
    intro key numbers found
    have none : state.callbacks key = [] := by
      by_contra waiting
      rcases accounted.served key waiting with working | ⟨other, coord, asks, _⟩
      · have idle : state.inFlight.count key + state.undelivered.count key = 0 := by
          rw [quiet.inFlight, quiet.undelivered]
          rfl
        exact absurd idle (Nat.ne_of_gt working)
      · rw [quiet.requests other] at asks
        cases asks
    rw [Pipeline.callbacks, found, Option.getD_some] at none
    rw [none, count_nil]
  have balance := accounted.balance number
  unfold started at balance
  rw [if_pos begun] at balance
  omega

theorem doomed_of_disorder (code : ChunkCode χ ω) (disorder : ¬ state.InOrder input) :
    ∃ key, ((state.handle code input).1.life key).Doomed := by
  cases input with
  | requestChunk number =>
    simp only [InOrder, not_forall] at disorder
    obtain ⟨coord, found, queued, violated⟩ := disorder
    refine ⟨makeKey coord, ?_⟩
    simp only [handle, found]
    rw [life_push number queued]
    apply ChunkLife.doomed_of_push
    rintro ⟨unknown, free⟩
    exact violated ⟨unknown, count_eq_zero.mp free⟩
  | _ => exact absurd trivial disorder

theorem Accounted.repeats (accounted : state.Accounted before) (doomed : (state.life key).Doomed)
    (inputs : List StoreInput) (quiet : ((machine code).final state inputs).Quiet) :
    .regenerated key ∈ (machine code).outputs state inputs := by
  have outcome := (machine code).invariant (fun _ _ => True)
    (fun _ current history => current.Sound ∧
      (.regenerated key ∈ history ∨ (current.life key).Doomed))
    ⟨accounted.sound, Or.inr doomed⟩ ?_ inputs ((machine code).along_true _ _)
  · rcases outcome.2 with event | working
    · exact event
    · have idle : (((machine code).final state inputs).life key).inFlight = 0 := by
        rw [life, quiet.inFlight, count_nil]
      rcases working with ⟨_, positive⟩ | several <;> omega
  · rintro _ current history input ⟨sound, outcome⟩ _
    refine ⟨sound.handle input, ?_⟩
    rcases outcome with event | working
    · exact Or.inl (mem_append_left _ event)
    obtain ⟨action, acts, _⟩ := handle_acts code sound input key
    by_cases again : (current.life key).Repeats action
    · exact Or.inl (mem_append_right _ (acts.repeats.mpr again))
    right
    have next : ((machine code).step current input).1.life key =
        (current.life key).apply action := acts.next
    rw [next]
    exact working.apply again

theorem calledOnce_of_inOrder (code : ChunkCode χ ω) (inputs : List StoreInput) :
    ((machine code).Along InOrder (start num_threads stored) inputs →
      ((machine code).final (start num_threads stored) inputs).CalledOnce
        ((machine code).outputs (start num_threads stored) inputs)) ∧
    (((machine code).final (start num_threads stored) inputs).Quiet →
      ((machine code).final (start num_threads stored) inputs).CalledOnce
        ((machine code).outputs (start num_threads stored) inputs) →
      (machine code).Along InOrder (start num_threads stored) inputs) := by
  constructor
  · intro ordered
    have accounted := run_accounted num_threads stored code inputs
    have orderly := run_orderly num_threads stored code ordered
    exact ⟨accounted.atMostOnce, fun quiet _ begun => accounted.calledWhenQuiet quiet begun,
      fun key => (orderly.unremarkable key).2, fun key => (orderly.unremarkable key).1⟩
  · intro quiet law
    rw [Machine.along_iff]
    intro before input after split
    by_contra disorder
    subst split
    have accounted := (run_accounted num_threads stored code before).step code input
    obtain ⟨key, doomed⟩ := doomed_of_disorder code disorder
    rw [Machine.final_append] at quiet
    have event := accounted.repeats doomed after quiet
    apply law.generatedOnce key
    rw [Machine.outputs_append]
    exact mem_append_right _ (mem_append_right _ event)

/-- Chunks that are numbers, and their own wire bytes. -/
def plainCode : ChunkCode Nat Nat where
  generateTerrain _ := 1
  encodeToWire chunk := chunk
  fromWire wire := some wire

def spawn : ChunkCoord := ⟨0, 0, 0⟩

def missing (number : Nat) : List StoreInput :=
  [.readRawBytes number false, .finishRead number, .requestChunk number]

/-- A generation thread makes a chunk, and an encode thread caches it and calls
its callbacks. -/
def serve : List StoreInput :=
  [.workerStep 0, .workerStep 0, .workerStep 0, .encodeStep 0, .encodeStep 0, .encodeStep 0,
    .writeBatch 0 1]

theorem one_request_is_served :
    (machine plainCode).outputs (start 1 ∅) (.asyncGetChunk spawn :: missing 0 ++ serve) =
        [.invoked 0 (some 1)] ∧ ((machine plainCode).final (start 1 ∅)
          (.asyncGetChunk spawn :: missing 0 ++ serve)).CalledOnce
        ((machine plainCode).outputs (start 1 ∅) (.asyncGetChunk spawn :: missing 0 ++ serve)) := by
  refine ⟨rfl, (calledOnce_of_inOrder 1 ∅ plainCode _).1 ?_⟩
  refine ⟨trivial, trivial, trivial, ?_, trivial, trivial, trivial, trivial, trivial, trivial,
    trivial, trivial⟩
  intro coord _ _
  exact ⟨not_mem_nil, not_mem_nil⟩

/-- The second request registers its callback before the first chunk is
delivered and asks the queue after the worker has erased the coordinate. -/
def lateRequest : List StoreInput := .asyncGetChunk spawn :: .asyncGetChunk spawn :: missing 0 ++
    [.readRawBytes 1 false, .finishRead 1, .workerStep 0, .workerStep 0, .requestChunk 1] ++
    [.workerStep 0, .encodeStep 0, .encodeStep 0, .encodeStep 0, .writeBatch 0 1] ++ serve

theorem late_request_generates_again :
    ¬ ((machine plainCode).final (start 1 ∅) lateRequest).CalledOnce
      ((machine plainCode).outputs (start 1 ∅) lateRequest) := by
  intro law
  apply law.callbacksFound (makeKey spawn)
  have outputs : (machine plainCode).outputs (start 1 ∅) lateRequest =
      [.invoked 0 (some 1), .invoked 1 (some 1), .regenerated (makeKey spawn),
        .noCallbacks (makeKey spawn)] := rfl
  rw [outputs]
  simp

end Pipeline

end GtnhPlatform.ChunkStore
