import GtnhPlatform.Data.Machine
import GtnhPlatform.Data.Table

namespace GtnhPlatform.ChunkStore

/-! How a chunk comes to the callbacks that wait for it. The stages of each request
and each thread are steps of their own, taken in any order. -/

structure ChunkCoord where
  x : Int32
  y : Int32
  z : Int32
deriving DecidableEq

def CHUNK_KEY_BIAS : Int64 := 1048576

def makeKey (c : ChunkCoord) : Int64 :=
  let x := (c.x.toInt64 + CHUNK_KEY_BIAS).toUInt64
  let y := (c.y.toInt64 + CHUNK_KEY_BIAS).toUInt64
  let z := (c.z.toInt64 + CHUNK_KEY_BIAS).toUInt64
  ((x <<< 42) ||| (y <<< 21) ||| z).toInt64

structure ChunkCode (χ : Type u) (ω : Type v) where
  generateTerrain : ChunkCoord → χ
  encodeToWire : χ → ω
  fromWire : ω → Option χ

structure EncodeTask (χ : Type u) where
  coord : ChunkCoord
  chunk : χ

def EncodeTask.key {χ : Type u} (task : EncodeTask χ) : Int64 := makeKey task.coord

/-- How far a request has come in the function it posts to the io pool. -/
inductive ReadStage (ω : Type v) where
  | posted
  | read (wire : Option ω)
  | registered

structure Request (ω : Type v) where
  coord : ChunkCoord
  stage : ReadStage ω

/-- A generation thread in `workerLoop`. -/
inductive Worker (χ : Type u) where
  | waiting
  | generating (chunkCoord : ChunkCoord)
  | generated (task : EncodeTask χ)

inductive EncodePhase (χ : Type u) (ω : Type v) where
  | waiting
  | draining (tasks : List (EncodeTask χ))
  | delivering (key : Int64) (palette : ω) (tasks : List (EncodeTask χ))

structure Encoder (χ : Type u) (ω : Type v) where
  phase : EncodePhase χ ω
  localPalettes : List (Int64 × ω)

structure GenerationQueue (χ : Type u) where
  tasks : List ChunkCoord
  dedup : List ChunkCoord
  popFront : Bool
  workers : List (Worker χ)

namespace GenerationQueue

variable {χ : Type u}

def requestChunk (queue : GenerationQueue χ) (coord : ChunkCoord) : GenerationQueue χ :=
  if coord ∈ queue.dedup then queue
  else { queue with dedup := coord :: queue.dedup, tasks := queue.tasks ++ [coord] }

def nextTask (queue : GenerationQueue χ) : Option ChunkCoord :=
  if queue.popFront then queue.tasks.head? else queue.tasks.getLast?

def popTask (queue : GenerationQueue χ) : GenerationQueue χ :=
  { queue with
    tasks := if queue.popFront then queue.tasks.tail else queue.tasks.dropLast
    popFront := !queue.popFront }

def setWorker (queue : GenerationQueue χ) (thread : Nat) (worker : Worker χ) :
    GenerationQueue χ :=
  { queue with workers := queue.workers.set thread worker }

def eraseDedup (queue : GenerationQueue χ) (coord : ChunkCoord) : GenerationQueue χ :=
  { queue with dedup := queue.dedup.filter fun other => other ≠ coord }

end GenerationQueue

/-- Callbacks are known by the number of the request they came with. -/
structure Pipeline (χ : Type u) (ω : Type v) where
  nextRequest : Nat
  requests : Table Nat (Request ω)
  cache : Table Int64 χ
  stored : Table Int64 ω
  pendingLmdb : Table Int64 ω
  pendingGenCbs : Table Int64 (List Nat)
  genQueue : GenerationQueue χ
  encodeQueue : List (EncodeTask χ)
  encoders : List (Encoder χ ω)
  /-- the chunks that have been cached or stored so far -/
  known : List Int64

inductive StoreInput where
  | asyncGetChunk (coord : ChunkCoord)
  | readRawBytes (request : Nat) (fails : Bool)
  | finishRead (request : Nat)
  | requestChunk (request : Nat)
  | workerStep (thread : Nat)
  | encodeStep (thread : Nat)
  | writeBatch (thread : Nat) (written : Nat)
  | evict (key : Int64)

inductive StoreEvent (ω : Type v) where
  | invoked (request : Nat) (palette : Option ω)
  /-- `callbacks.front()` of an empty vector -/
  | noCallbacks (key : Int64)
  | regenerated (key : Int64)

def Worker.inFlight {χ : Type u} : Worker χ → List Int64
  | .waiting => []
  | .generating chunkCoord => [makeKey chunkCoord]
  | .generated task => [task.key]

def Worker.unfinished {χ : Type u} : Worker χ → List ChunkCoord
  | .generating chunkCoord => [chunkCoord]
  | _ => []

def EncodePhase.inFlight {χ : Type u} {ω : Type v} : EncodePhase χ ω → List Int64
  | .waiting => []
  | .draining tasks => tasks.map EncodeTask.key
  | .delivering _ _ tasks => tasks.map EncodeTask.key

def EncodePhase.undelivered {χ : Type u} {ω : Type v} : EncodePhase χ ω → List Int64
  | .delivering key _ _ => [key]
  | _ => []

def StoreEvent.invokes {ω : Type v} (number : Nat) : StoreEvent ω → Bool
  | .invoked called _ => called = number
  | _ => false

namespace Pipeline

variable {χ : Type u} {ω : Type v}

variable (state : Pipeline χ ω)

def setRequest (number : Nat) (coord : ChunkCoord) (stage : ReadStage ω) : Pipeline χ ω :=
  { state with requests := AList.insert number ⟨coord, stage⟩ state.requests }

def endRequest (number : Nat) : Pipeline χ ω :=
  { state with requests := state.requests.erase number }

def putCache (key : Int64) (chunk : χ) : Pipeline χ ω :=
  { state with cache := AList.insert key chunk state.cache, known := key :: state.known }

def setEncoder (thread : Nat) (phase : EncodePhase χ ω)
    (localPalettes : List (Int64 × ω)) : Pipeline χ ω :=
  { state with encoders := state.encoders.set thread ⟨phase, localPalettes⟩ }

def setQueue (genQueue : GenerationQueue χ) : Pipeline χ ω :=
  { state with genQueue := genQueue }

/-- `AsyncGetChunk` up to the function it posts. -/
def asyncGetChunk (code : ChunkCode χ ω) (state : Pipeline χ ω) (coord : ChunkCoord) :
    Pipeline χ ω × List (StoreEvent ω) :=
  let key := makeKey coord
  let number := state.nextRequest
  let state := { state with nextRequest := number + 1 }
  match state.cache.lookup key with
  | some cached =>
    match state.pendingLmdb.lookup key with
    | some palette =>
      ({ state with pendingLmdb := state.pendingLmdb.erase key }, [.invoked number (some palette)])
    | none =>
      let palette := code.encodeToWire cached
      ({ state with pendingLmdb := state.pendingLmdb.emplace key palette },
        [.invoked number (some palette)])
  | none => (state.setRequest number coord .posted, [])

def finishRead (code : ChunkCode χ ω) (state : Pipeline χ ω) (number : Nat)
    (coord : ChunkCoord) : Option ω → Pipeline χ ω × List (StoreEvent ω)
  | some wire =>
    match code.fromWire wire with
    | some chunk =>
      ((state.endRequest number).putCache (makeKey coord) chunk, [.invoked number (some wire)])
    | none => (state.endRequest number, [.invoked number none])
  | none =>
    let key := makeKey coord
    let callbacks := (state.pendingGenCbs.lookup key).getD []
    ({ state.setRequest number coord .registered with
        pendingGenCbs := AList.insert key (callbacks ++ [number]) state.pendingGenCbs }, [])

def workerStep (code : ChunkCode χ ω) (state : Pipeline χ ω) (thread : Nat) :
    Worker χ → Pipeline χ ω
  | .waiting =>
    match state.genQueue.nextTask with
    | some chunkCoord =>
      state.setQueue (state.genQueue.popTask.setWorker thread (.generating chunkCoord))
    | none => state
  | .generating chunkCoord =>
    let chunk := code.generateTerrain chunkCoord
    state.setQueue
      ((state.genQueue.eraseDedup chunkCoord).setWorker thread (.generated ⟨chunkCoord, chunk⟩))
  | .generated task =>
    { state.setQueue (state.genQueue.setWorker thread .waiting) with
      encodeQueue := state.encodeQueue ++ [task] }

def encodeStep (code : ChunkCode χ ω) (state : Pipeline χ ω) (thread : Nat)
    (localPalettes : List (Int64 × ω)) :
    EncodePhase χ ω → Pipeline χ ω × List (StoreEvent ω)
  | .waiting =>
    match state.encodeQueue with
    | [] => (state, [])
    | tasks =>
      ({ state.setEncoder thread (.draining tasks) localPalettes with encodeQueue := [] }, [])
  | .draining [] => (state, [])
  | .draining (task :: tasks) =>
    let palette := code.encodeToWire task.chunk
    let key := task.key
    ((state.putCache key task.chunk).setEncoder thread (.delivering key palette tasks)
        (localPalettes ++ [(key, palette)]),
      if key ∈ state.known then [.regenerated key] else [])
  | .delivering key palette tasks =>
    let callbacks := (state.pendingGenCbs.lookup key).getD []
    ({ state.setEncoder thread (.draining tasks) localPalettes with
        pendingGenCbs := state.pendingGenCbs.erase key },
      match callbacks with
      | [] => [.noCallbacks key]
      | callbacks => callbacks.map fun number => .invoked number (some palette))

/-- `flushPalettes`: LMDB takes a first part of the batch, which leaves the
thread's list. -/
def writeBatch (thread : Nat) (localPalettes : List (Int64 × ω)) (written : Nat) : Pipeline χ ω :=
  { state.setEncoder thread .waiting (localPalettes.drop written) with
    stored := (localPalettes.take written).foldl
      (fun stored item => AList.insert item.1 item.2 stored) state.stored }

def handle (code : ChunkCode χ ω) (state : Pipeline χ ω) :
    StoreInput → Pipeline χ ω × List (StoreEvent ω)
  | .asyncGetChunk coord => state.asyncGetChunk code coord
  | .readRawBytes number fails =>
    match state.requests.lookup number with
    | some ⟨coord, .posted⟩ =>
      if fails then (state.endRequest number, [.invoked number none])
      else (state.setRequest number coord (.read (state.stored.lookup (makeKey coord))), [])
    | _ => (state, [])
  | .finishRead number =>
    match state.requests.lookup number with
    | some ⟨coord, .read wire⟩ => state.finishRead code number coord wire
    | _ => (state, [])
  | .requestChunk number =>
    match state.requests.lookup number with
    | some ⟨coord, .registered⟩ =>
      ((state.endRequest number).setQueue (state.genQueue.requestChunk coord), [])
    | _ => (state, [])
  | .workerStep thread =>
    match state.genQueue.workers[thread]? with
    | some worker => (state.workerStep code thread worker, [])
    | none => (state, [])
  | .encodeStep thread =>
    match state.encoders[thread]? with
    | some encoder => state.encodeStep code thread encoder.localPalettes encoder.phase
    | none => (state, [])
  | .writeBatch thread written =>
    match state.encoders[thread]? with
    | some ⟨.draining [], localPalettes⟩ =>
      (state.writeBatch thread localPalettes written, [])
    | _ => (state, [])
  | .evict key => ({ state with cache := state.cache.erase key }, [])

def machine (code : ChunkCode χ ω) :
    Machine (Pipeline χ ω) StoreInput (StoreEvent ω) :=
  ⟨Pipeline.handle code⟩

def start (num_threads : Nat) (stored : Table Int64 ω) : Pipeline χ ω where
  nextRequest := 0
  requests := ∅
  cache := ∅
  stored := stored
  pendingLmdb := ∅
  pendingGenCbs := ∅
  genQueue := ⟨[], [], false, List.replicate num_threads .waiting⟩
  encodeQueue := []
  encoders := [⟨.waiting, []⟩, ⟨.waiting, []⟩]
  known := stored.keys

def inFlight (state : Pipeline χ ω) : List Int64 :=
  state.genQueue.tasks.map makeKey ++ state.genQueue.workers.flatMap Worker.inFlight ++
    state.encodeQueue.map EncodeTask.key ++
    state.encoders.flatMap fun encoder => encoder.phase.inFlight

def undelivered (state : Pipeline χ ω) : List Int64 :=
  state.encoders.flatMap fun encoder => encoder.phase.undelivered

structure Quiet (state : Pipeline χ ω) : Prop where
  requests : ∀ number, state.requests.lookup number = none
  inFlight : state.inFlight = []
  undelivered : state.undelivered = []

def invocations (number : Nat) (history : List (StoreEvent ω)) : Nat :=
  history.countP fun event => event.invokes number

structure CalledOnce (state : Pipeline χ ω) (history : List (StoreEvent ω)) : Prop where
  atMostOnce : ∀ number, invocations number history ≤ 1
  served : state.Quiet → ∀ number < state.nextRequest, invocations number history = 1
  callbacksFound : ∀ key, .noCallbacks key ∉ history
  generatedOnce : ∀ key, .regenerated key ∉ history

def InOrder : StoreInput → Prop
  | .requestChunk number => ∀ coord, state.requests.lookup number = some ⟨coord, .registered⟩ →
        coord ∉ state.genQueue.dedup → makeKey coord ∉ state.known ∧ makeKey coord ∉ state.inFlight
  | _ => True

end Pipeline

end GtnhPlatform.ChunkStore
