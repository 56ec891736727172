import GtnhPlatform.Data.Machine
import GtnhPlatform.Data.Table

namespace GtnhPlatform.EntityState

open List

/-- A call locks the mutex that its caller holds, or moves an iterator past the end. -/
inductive Fault where
  | relock
  | pastEnd

structure Cache (κ ν : Type) [DecidableEq κ] where
  entries : Table κ ν := ∅
  maxSize : Nat
  held : Bool := false

inductive CacheOp (κ ν : Type) where
  | get (key : κ)
  | set (key : κ) (data : ν)
  | remove (key : κ)

namespace Cache

variable {κ ν : Type} [DecidableEq κ]

variable (cache : Cache κ ν)

def lock : Except Fault (Cache κ ν) :=
  if cache.held then .error .relock else .ok { cache with held := true }

def unlock : Cache κ ν := { cache with held := false }

/-- `cache_.erase(it++)`, and `++it` of the loop. -/
def evictLoop : Nat → List κ → Table κ ν → Except Fault (Table κ ν)
  | 0, _, entries => .ok entries
  | _ + 1, [], entries => .ok entries
  | _ + 1, [_], _ => .error .pastEnd
  | toRemove + 1, key :: _ :: rest, entries => evictLoop toRemove rest (entries.erase key)

def size : Nat := cache.entries.keys.length

def evictIfNeeded : Except Fault (Cache κ ν) :=
  if cache.maxSize < cache.size then do
    let locked ← cache.lock
    let entries ← evictLoop (cache.size - cache.maxSize + 10) locked.entries.keys locked.entries
    .ok { locked with entries }.unlock
  else .ok cache

def get (key : κ) : Except Fault (Cache κ ν × Option ν) := do
  let locked ← cache.lock
  .ok (locked.unlock, locked.entries.lookup key)

def set (key : κ) (data : ν) : Except Fault (Cache κ ν) := do
  let locked ← cache.lock
  let evicted ← { locked with entries := AList.insert key data locked.entries }.evictIfNeeded
  .ok evicted.unlock

def remove (key : κ) : Except Fault (Cache κ ν) := do
  let locked ← cache.lock
  .ok { locked with entries := locked.entries.erase key }.unlock

def apply : CacheOp κ ν → Except Fault (Cache κ ν)
  | .get key => (cache.get key).map Prod.fst
  | .set key data => cache.set key data
  | .remove key => cache.remove key

/-- Nothing happens after a fault. -/
def machine : Machine (Except Fault (Cache κ ν)) (CacheOp κ ν) Unit where
  step state op := (state.bind fun cache => cache.apply op, [])

structure Ready (cache : Cache κ ν) : Prop where
  free : cache.held = false
  bounded : cache.size ≤ cache.maxSize

/-- The call returns with the mutex free and no more entries than there may be, and what
was set is there. -/
def Serves (state : Except Fault (Cache κ ν)) (op : CacheOp κ ν) : Prop :=
  ∃ cache next, state = .ok cache ∧ cache.apply op = .ok next ∧ next.Ready ∧
    ∀ key data, op = .set key data → next.entries.lookup key = some data

def HasRoom (key : κ) : Prop := key ∈ cache.entries ∨ cache.size < cache.maxSize

/-- A key that is new comes to a cache that is not full. -/
def Fits (state : Except Fault (Cache κ ν)) (op : CacheOp κ ν) : Prop :=
  ∀ cache key data, state = .ok cache → op = .set key data → cache.HasRoom key

variable {cache : Cache κ ν} {key : κ} {data : ν}

theorem lock_free (free : cache.held = false) : cache.lock = .ok { cache with held := true } := by
  rw [lock, free]
  rfl

theorem get_free (free : cache.held = false) :
    cache.get key = .ok (cache, cache.entries.lookup key) := by
  rw [get, lock_free free]
  cases cache
  cases free
  rfl

theorem remove_free (free : cache.held = false) :
    cache.remove key = .ok { cache with entries := cache.entries.erase key } := by
  rw [remove, lock_free free]
  cases cache
  cases free
  rfl

theorem size_insert (cache : Cache κ ν) (key : κ) (data : ν) :
    size { cache with entries := AList.insert key data cache.entries } =
      if key ∈ cache.entries then cache.size else cache.size + 1 := by
  rw [size, AList.keys_insert, length_cons]
  split
  · next known =>
    have listed : key ∈ cache.entries.keys := AList.mem_keys.mp known
    have some := length_pos_of_mem listed
    rw [length_erase_of_mem listed]
    exact Nat.sub_add_cancel some
  · next fresh => rw [erase_of_not_mem fun listed => fresh (AList.mem_keys.mpr listed)]; rfl

theorem size_insert_le_iff (cache : Cache κ ν) (key : κ) (data : ν)
    (bounded : cache.size ≤ cache.maxSize) :
    size { cache with entries := AList.insert key data cache.entries } ≤ cache.maxSize ↔
      cache.HasRoom key := by
  rw [size_insert, HasRoom]
  split
  · next known => exact iff_of_true bounded (Or.inl known)
  · next fresh => exact ⟨Or.inr, fun room => room.resolve_left fresh⟩

theorem evictIfNeeded_held (held : cache.held = true) :
    cache.evictIfNeeded = if cache.maxSize < cache.size then .error .relock else .ok cache := by
  rw [evictIfNeeded, lock, held]
  rfl

theorem set_free (free : cache.held = false) :
    cache.set key data =
      if cache.maxSize < size { cache with entries := AList.insert key data cache.entries } then
        .error .relock
      else .ok { cache with entries := AList.insert key data cache.entries } := by
  rw [set, lock_free free]
  change (evictIfNeeded { cache with
    held := true, entries := AList.insert key data cache.entries }).bind _ = _
  rw [evictIfNeeded_held rfl]
  change (if cache.maxSize < size { cache with entries := AList.insert key data cache.entries } then
    _ else _ : Except Fault (Cache κ ν)).bind _ = _
  split
  · rfl
  · cases cache
    cases free
    rfl

theorem Ready.set (ready : cache.Ready) (room : cache.HasRoom key) :
    cache.set key data = .ok { cache with entries := AList.insert key data cache.entries } ∧
      Ready { cache with entries := AList.insert key data cache.entries } := by
  have small := (size_insert_le_iff cache key data ready.bounded).mpr room
  exact ⟨by rw [set_free ready.free, if_neg (Nat.not_lt.mpr small)], ready.free, small⟩

theorem Ready.remove (ready : cache.Ready) (key : κ) :
    Ready { cache with entries := cache.entries.erase key } := by
  refine ⟨ready.free, Nat.le_trans ?_ ready.bounded⟩
  rw [size, AList.keys_erase]
  exact length_erase_le

theorem serves_iff_fits (ready : cache.Ready) (op : CacheOp κ ν) :
    Serves (.ok cache) op ↔ Fits (.ok cache) op := by
  cases op with
  | get key =>
    have served : cache.apply (.get key) = .ok cache := by
      rw [apply, get_free ready.free]
      rfl
    exact iff_of_true ⟨cache, cache, rfl, served, ready, fun _ _ other => nomatch other⟩
      fun _ _ _ _ other => nomatch other
  | remove key =>
    exact iff_of_true ⟨cache, _, rfl, remove_free ready.free, ready.remove key,
      fun _ _ other => nomatch other⟩ fun _ _ _ _ other => nomatch other
  | set key data =>
    constructor
    · rintro ⟨_, next, ⟨⟩, served, _, _⟩ _ _ _ ⟨⟩ ⟨⟩
      rw [apply, set_free ready.free] at served
      split at served
      · cases served
      · next fits =>
        exact (size_insert_le_iff cache key data ready.bounded).mp (Nat.not_lt.mp fits)
    · intro fits
      obtain ⟨served, next⟩ := ready.set (fits cache key data rfl rfl)
      refine ⟨cache, _, rfl, served, next, ?_⟩
      rintro _ _ ⟨⟩
      exact AList.lookup_insert _

theorem serves_along_iff (maxSize : Nat) (ops : List (CacheOp κ ν)) :
    machine.Along Serves (.ok { maxSize : Cache κ ν }) ops ↔
      machine.Along Fits (.ok { maxSize : Cache κ ν }) ops := by
  refine @Machine.along_congr_of _ _ _ machine (fun state => ∃ cache, state = .ok cache ∧ cache.Ready)
    _ _ ?_ ?_ _ ⟨_, rfl, rfl, Nat.zero_le _⟩ ops
  · rintro _ op ⟨cache, rfl, ready⟩
    exact serves_iff_fits ready op
  · rintro _ op ⟨cache, rfl, ready⟩ fits
    obtain ⟨_, next, ⟨⟩, served, still, _⟩ := (serves_iff_fits ready op).mpr fits
    exact ⟨next, served, still⟩

theorem full_cache_relocks : ¬∀ (maxSize : Nat) (ops : List (CacheOp Nat Nat)),
      machine.Along Serves (.ok { maxSize : Cache Nat Nat }) ops := by
  intro always
  obtain ⟨⟨_, next, ⟨⟩, served, _⟩, _⟩ := always 0 [.set 1 1]
  cases served

end Cache

/-- What `makeKey` writes with bars between. -/
structure EntityKey where
  dimension : Int32
  x : Int32
  y : Int32
  z : Int32
  entityType : UInt16
deriving DecidableEq

abbrev StateData := List UInt8

/-- `acked` are the values of the sets that were acknowledged last. -/
structure EntityStateStorage where
  cache : Except Fault (Cache EntityKey StateData)
  stored : Table EntityKey StateData
  acked : Table EntityKey StateData

/-- Whether LMDB can be written or read is part of a request. -/
inductive StateRequest where
  | set (key : EntityKey) (stateData : StateData) (writes : Bool)
  | get (key : EntityKey) (reads : Bool)
  | restart

inductive StateReply where
  | ack (success : Bool)
  | state (stateData : StateData)

namespace EntityStateStorage

def cacheSize : Nat := 1000

def start (stored : Table EntityKey StateData) : EntityStateStorage :=
  ⟨.ok { maxSize := cacheSize }, stored, stored⟩

variable (storage : EntityStateStorage)

def doLoadEntityState (key : EntityKey) (reads : Bool) : Option StateData :=
  if reads then storage.stored.lookup key else none

def loadEntityState (cache : Cache EntityKey StateData) (key : EntityKey) (reads : Bool) :
    Except Fault (Cache EntityKey StateData × Option StateData) := do
  let (cache, cached) ← cache.get key
  match cached with
  | some stateData => .ok (cache, some stateData)
  | none =>
    match storage.doLoadEntityState key reads with
    | none => .ok (cache, none)
    | some stateData => (cache.set key stateData).map fun cache => (cache, some stateData)

/-- A save is acknowledged whatever it has returned. A thread that is stuck answers no more. -/
def handle : StateRequest → EntityStateStorage × List StateReply
  | .set key stateData writes =>
    match storage.cache.bind fun cache => cache.set key stateData with
    | .error fault => ({ storage with cache := .error fault }, [])
    | .ok cache =>
      ({ cache := .ok cache
         stored := if writes then AList.insert key stateData storage.stored else storage.stored
         acked := AList.insert key stateData storage.acked }, [.ack true])
  | .get key reads =>
    match storage.cache.bind fun cache => storage.loadEntityState cache key reads with
    | .error fault => ({ storage with cache := .error fault }, [])
    | .ok (cache, found) => ({ storage with cache := .ok cache }, [.state (found.getD [])])
  | .restart => ({ storage with cache := .ok { maxSize := cacheSize } }, [])

def machine : Machine EntityStateStorage StateRequest StateReply := ⟨handle⟩

/-- A set is acknowledged when its value is in LMDB, and a get answers with the value
acknowledged last. -/
def Truthful : StateRequest → Prop
  | .set key stateData writes =>
    let after := storage.handle (.set key stateData writes)
    .ack true ∈ after.2 ↔ after.1.stored.lookup key = some stateData
  | .get key reads =>
    (storage.handle (.get key reads)).2 = [.state ((storage.acked.lookup key).getD [])]
  | .restart => True

def Works (request : StateRequest) : Prop :=
  ∀ cache, storage.cache = .ok cache →
    match request with
    | .set key stateData writes =>
      (writes = true ∨ storage.stored.lookup key = some stateData) ∧ cache.HasRoom key
    | .get key reads =>
      key ∈ cache.entries ∨ storage.stored.lookup key = none ∨ reads = true ∧ cache.HasRoom key
    | .restart => True

structure Kept (storage : EntityStateStorage) (cache : Cache EntityKey StateData) : Prop where
  runs : storage.cache = .ok cache
  ready : cache.Ready
  cached : ∀ key stateData, cache.entries.lookup key = some stateData →
    storage.stored.lookup key = some stateData
  acked : ∀ key, storage.acked.lookup key = storage.stored.lookup key

variable {storage : EntityStateStorage} {cache : Cache EntityKey StateData} {key : EntityKey}
  {stateData : StateData} {writes reads : Bool}

theorem handle_set (kept : Kept storage cache) (room : cache.HasRoom key) :
    storage.handle (.set key stateData writes) =
      (⟨.ok { cache with entries := AList.insert key stateData cache.entries },
        if writes then AList.insert key stateData storage.stored else storage.stored,
        AList.insert key stateData storage.acked⟩, [.ack true]) := by
  rw [handle, kept.runs]
  change (match cache.set key stateData with | .error fault => _ | .ok cache => _) = _
  rw [(kept.ready.set room).1]

theorem loadEntityState_free (free : cache.held = false) :
    storage.loadEntityState cache key reads =
      match cache.entries.lookup key with
      | some stateData => .ok (cache, some stateData)
      | none =>
        match storage.doLoadEntityState key reads with
        | none => .ok (cache, none)
        | some stateData => (cache.set key stateData).map fun cache => (cache, some stateData) := by
  rw [loadEntityState, Cache.get_free free]
  rfl

theorem handle_get (kept : Kept storage cache) {next : Cache EntityKey StateData}
    {found : Option StateData}
    (loaded : storage.loadEntityState cache key reads = .ok (next, found)) :
    storage.handle (.get key reads) =
      ({ storage with cache := .ok next }, [.state (found.getD [])]) := by
  rw [handle, kept.runs]
  change (match storage.loadEntityState cache key reads with
    | .error fault => _ | .ok (cache, found) => _) = _
  rw [loaded]

namespace Kept

variable (kept : Kept storage cache)

include kept

theorem set (room : cache.HasRoom key)
    (written : writes = true ∨ storage.stored.lookup key = some stateData) :
    storage.Truthful (.set key stateData writes) ∧
      ∃ next, Kept (storage.handle (.set key stateData writes)).1 next := by
  have saved (other : EntityKey) :
      (if writes then AList.insert key stateData storage.stored else storage.stored).lookup other =
        if other = key then some stateData else storage.stored.lookup other := by
    cases writes with
    | true => exact Table.lookup_insert_eq _ _ _ _
    | false =>
      rw [if_neg Bool.false_ne_true]
      split
      · next same => rw [same, written.resolve_left nofun]
      · rfl
  rw [Truthful, handle_set kept room]
  refine ⟨iff_of_true (mem_singleton_self _) ((saved key).trans (if_pos rfl)), _, rfl,
    (kept.ready.set room).2, ?_, ?_⟩
  · intro other found present
    rw [Table.lookup_insert_eq] at present
    rw [saved]
    by_cases same : other = key
    · rwa [if_pos same] at present ⊢
    · rw [if_neg same] at present ⊢
      exact kept.cached other found present
  · intro other
    rw [saved, Table.lookup_insert_eq, kept.acked]

variable (works : key ∈ cache.entries ∨ storage.stored.lookup key = Option.none ∨ reads = true ∧ cache.HasRoom key)

include works

theorem load :
    ∃ next, storage.loadEntityState cache key reads = .ok (next, storage.stored.lookup key) ∧
      Kept { storage with cache := .ok next } next := by
  rw [loadEntityState_free kept.ready.free]
  cases cached : cache.entries.lookup key with
  | some stateData =>
    rw [kept.cached key stateData cached]
    exact ⟨cache, rfl, rfl, kept.ready, kept.cached, kept.acked⟩
  | none =>
    have missing : key ∉ cache.entries := AList.lookup_eq_none.mp cached
    cases present : storage.stored.lookup key with
    | none =>
      have unread : storage.doLoadEntityState key reads = Option.none := by
        rw [doLoadEntityState, present, ite_self]
      rw [unread]
      exact ⟨cache, rfl, rfl, kept.ready, kept.cached, kept.acked⟩
    | some stateData =>
      rw [present] at works
      obtain ⟨rfl, room⟩ := (works.resolve_left missing).resolve_left nofun
      rw [doLoadEntityState, if_pos rfl, present]
      dsimp only
      rw [(kept.ready.set room).1]
      refine ⟨_, rfl, rfl, (kept.ready.set room).2, ?_, kept.acked⟩
      intro other found inserted
      rw [Table.lookup_insert_eq] at inserted
      split at inserted
      · next same => rw [same, present, inserted]
      · exact kept.cached other found inserted

theorem get :
    storage.Truthful (.get key reads) ∧ ∃ next, Kept (storage.handle (.get key reads)).1 next := by
  obtain ⟨next, loaded, still⟩ := kept.load works
  rw [Truthful, handle_get kept loaded, kept.acked]
  exact ⟨rfl, next, still⟩

omit works

theorem step (request : StateRequest) (works : storage.Works request) :
    storage.Truthful request ∧ ∃ next, Kept (storage.handle request).1 next := by
  have works := works cache kept.runs
  cases request with
  | set key stateData writes => exact kept.set works.2 works.1
  | get key reads => exact kept.get works
  | restart => exact ⟨trivial, _, rfl, ⟨rfl, Nat.zero_le _⟩, nofun, kept.acked⟩

omit kept

end Kept

def Consistent (storage : EntityStateStorage) : Prop := ∃ cache, Kept storage cache

theorem truthful_along (stored : Table EntityKey StateData) (requests : List StateRequest)
    (works : machine.Along Works (start stored) requests) :
    machine.Along Truthful (start stored) requests := by
  have initially : Consistent (start stored) := ⟨_, rfl, ⟨rfl, Nat.zero_le _⟩, nofun, fun _ => rfl⟩
  have both : machine.Along (fun storage request => storage.Truthful request ∧ storage.Works request)
      (start stored) requests := by
    refine (Machine.along_congr_of machine ?_ ?_ initially requests).mpr works
    · rintro storage request ⟨cache, kept⟩
      exact ⟨And.right, fun works => ⟨(kept.step request works).1, works⟩⟩
    · rintro storage request ⟨cache, kept⟩ works
      exact (kept.step request works).2
  exact Machine.Along.mono machine (fun _ _ => And.left) both

theorem truthful_along_restart : machine.Along Truthful (start ∅)
      [.set ⟨0, 1, 2, 3, 4⟩ [1] true, .get ⟨0, 1, 2, 3, 4⟩ true, .restart,
        .get ⟨0, 1, 2, 3, 4⟩ true] := by
  refine truthful_along ∅ _ ⟨?_, ?_, ?_, ?_, trivial⟩
  · rintro _ ⟨⟩
    exact ⟨Or.inl rfl, Or.inr (by decide)⟩
  · rintro _ ⟨⟩
    exact Or.inl (by decide)
  · rintro _ ⟨⟩
    trivial
  · rintro _ ⟨⟩
    exact Or.inr (Or.inr ⟨rfl, Or.inr (by decide)⟩)

theorem unsaved_acknowledged :
    ¬∀ (stored : Table EntityKey StateData) (requests : List StateRequest),
      machine.Along Truthful (start stored) requests := by
  intro always
  obtain ⟨truthful, _⟩ := always ∅ [.set ⟨0, 1, 2, 3, 4⟩ [1] false]
  exact absurd (truthful.mp (mem_singleton_self _)) (by decide)

end EntityStateStorage

end GtnhPlatform.EntityState
