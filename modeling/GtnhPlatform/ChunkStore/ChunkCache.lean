import Mathlib.Algebra.BigOperators.Group.Finset.Basic
import Mathlib.Data.Fintype.Prod
import GtnhPlatform.Data.Machine

namespace GtnhPlatform.ChunkStore

open List

/-! A four-way clock cache. A chunk is the number of its allocation, and 0 is the
null pointer. -/

structure PackedSlot where
  key : Int64
  value : Nat
  ref : Bool
deriving DecidableEq

def PackedSlot.empty : PackedSlot := ⟨0, 0, false⟩

structure ClockCache where
  slot : Fin 256 × Fin 4 → PackedSlot
  hand : Fin 256 → Fin 4

namespace ClockCache

def setIdx (key : Int64) : Fin 256 :=
  let k := key.toUInt64
  let k := k ^^^ (k >>> 32)
  let k := k ^^^ (k >>> 16)
  let k := k ^^^ (k >>> 8)
  ⟨k.toNat % 256, Nat.mod_lt _ (by decide)⟩

def setSlot (cache : ClockCache) (p : Fin 256 × Fin 4) (slot : PackedSlot) : ClockCache :=
  { cache with slot := Function.update cache.slot p slot }

def clearRef (cache : ClockCache) (i : Fin 256) : ClockCache :=
  { cache.setSlot (i, cache.hand i) { cache.slot (i, cache.hand i) with ref := false } with
    hand := Function.update cache.hand i (cache.hand i + 1) }

/-- The slot that `__builtin_ctzll` gives for a union of masks that are 0 or all ones. -/
def maskIndex : Fin 4 := 0

/-- The loop of `put`, for so many turns: the cache by then, the slot it writes to,
and whether it also evicts what it finds there under key 0. -/
def findSlot (cache : ClockCache) (key : Int64) : Nat → Option (ClockCache × Fin 4 × Bool)
  | 0 => none
  | turns + 1 =>
    let i := setIdx key
    if ∃ j, (cache.slot (i, j)).key = key then some (cache, maskIndex, true)
    else
      match (finRange 4).find? fun j => cache.slot (i, j) = .empty with
      | some j => some (cache, j, false)
      | none =>
        match ((finRange 4).map (cache.hand i + ·)).find? fun j => !(cache.slot (i, j)).ref with
        | some j => some ({ cache with hand := Function.update cache.hand i (j + 1) }, j, false)
        | none => findSlot (cache.clearRef i) key turns

def get (cache : ClockCache) (key : Int64) : ClockCache × Option Nat :=
  let i := setIdx key
  let found := (finRange 4).filter fun j => (cache.slot (i, j)).key = key
  if found = [] then (cache, none)
  else
    (cache.setSlot (i, maskIndex) { cache.slot (i, maskIndex) with ref := true },
      some (found.foldl (fun value j => value ||| (cache.slot (i, j)).value) 0))

end ClockCache

/-- `hands` are the chunks with the caller, `freed` those that were deleted and
`made` all that there have been. -/
structure ChunkCache where
  cache : ClockCache
  /-- the chunk put in last comes first -/
  pool : List Nat
  pinned : Nat → Nat
  pendingEvict : List Nat
  hands : List Nat
  freed : List Nat
  made : List Nat

inductive CacheOp where
  | allocate (chunk : Nat)
  | put (key : Int64) (chunk : Nat)
  | get (key : Int64)
  | getPinned (key : Int64)
  | releasePinned (chunk : Nat)
  | takeFromPool
  | clear

namespace ChunkCache

def poolCap : Nat := 256

variable (state : ChunkCache)

def recycle (chunk : Nat) : ChunkCache :=
  if state.pool.length < poolCap then { state with pool := chunk :: state.pool }
  else { state with freed := chunk :: state.freed }

def onEvict (chunk : Nat) : ChunkCache :=
  if chunk = 0 then state
  else if 0 < state.pinned chunk then
    { state with pendingEvict := state.pendingEvict.insert chunk }
  else state.recycle chunk

def replace (p : Fin 256 × Fin 4) (slot : PackedSlot) (always : Bool) : ChunkCache :=
  let old := state.cache.slot p
  let written := { state with cache := state.cache.setSlot p slot }
  if always ∨ old.key ≠ 0 then written.onEvict old.value else written

/-- Two turns of the loop are enough. -/
def put (key : Int64) (chunk : Nat) : ChunkCache :=
  match state.cache.findSlot key 2 with
  | none => state
  | some (cache, j, always) =>
    replace { state with cache, hands := state.hands.erase chunk } (ClockCache.setIdx key, j)
      ⟨key, chunk, true⟩ always

def get (state : ChunkCache) (key : Int64) : ChunkCache × Option Nat :=
  let result := state.cache.get key
  ({ state with cache := result.1 }, result.2)

def getPinned (key : Int64) : ChunkCache × Option Nat :=
  let result := state.get key
  match result.2 with
  | none => (result.1, none)
  | some chunk =>
    ({ result.1 with pinned := Function.update state.pinned chunk (state.pinned chunk + 1) },
      some chunk)

def releasePinned (chunk : Nat) : ChunkCache :=
  if chunk = 0 ∨ state.pinned chunk = 0 then state
  else
    let released :=
      { state with pinned := Function.update state.pinned chunk (state.pinned chunk - 1) }
    if 0 < released.pinned chunk then released
    else if chunk ∈ state.pendingEvict then
      recycle { released with pendingEvict := state.pendingEvict.erase chunk } chunk
    else released

def takeFromPool : ChunkCache × Option Nat :=
  match state.pool with
  | [] => (state, none)
  | chunk :: rest => ({ state with pool := rest, hands := chunk :: state.hands }, some chunk)

def clearSlot (p : Fin 256 × Fin 4) : ChunkCache :=
  if (state.cache.slot p).key = 0 then state else state.replace p .empty true

def slotOrder : List (Fin 256 × Fin 4) := (finRange 256).product (finRange 4)

def clear : ChunkCache :=
  let cleared := slotOrder.foldl clearSlot state
  { cleared with pool := [], freed := cleared.pool ++ cleared.freed }

def handle : CacheOp → ChunkCache × List (Option Nat)
  | .allocate chunk => ({ state with hands := chunk :: state.hands, made := chunk :: state.made }, [])
  | .put key chunk => (state.put key chunk, [])
  | .get key =>
    let result := state.get key
    (result.1, [result.2])
  | .getPinned key =>
    let result := state.getPinned key
    (result.1, [result.2])
  | .releasePinned chunk => (state.releasePinned chunk, [])
  | .takeFromPool =>
    let result := state.takeFromPool
    (result.1, [result.2])
  | .clear => (state.clear, [])

def machine : Machine ChunkCache CacheOp (Option Nat) := ⟨handle⟩

def empty : ChunkCache := ⟨⟨fun _ => .empty, fun _ => 0⟩, [], fun _ => 0, [], [], [], []⟩

/-- In how many places a chunk is: slots, pool, waiting for its pins to go, with
the caller, or deleted. -/
def cached (chunk : Nat) : Nat :=
  ∑ p, if (state.cache.slot p).value = chunk then 1 else 0

def places (chunk : Nat) : Nat :=
  state.cached chunk + state.pool.count chunk + state.pendingEvict.count chunk +
    state.hands.count chunk + state.freed.count chunk

structure Sound (state : ChunkCache) : Prop where
  owned : ∀ chunk ∈ state.made, state.places chunk = 1
  pinned : ∀ chunk, chunk ≠ 0 → 0 < state.pinned chunk → chunk ∉ state.pool ∧ chunk ∉ state.freed
  single : ∀ p q, (state.cache.slot p).key ≠ 0 →
    (state.cache.slot p).key = (state.cache.slot q).key → p = q
  terminates : ∀ key, (state.cache.findSlot key 2).isSome = true

def Meets : CacheOp → Prop
  | .allocate chunk => chunk ≠ 0 ∧ chunk ∉ state.made
  | .put key chunk => key ≠ 0 ∧ chunk ∈ state.hands ∧
      ∀ j, (state.cache.slot (ClockCache.setIdx key, j)).key = key → j = 0
  | _ => True

structure Keyed (cache : ClockCache) : Prop where
  vacant : ∀ p, (cache.slot p).key = 0 → (cache.slot p).value = 0
  indexed : ∀ p, (cache.slot p).key ≠ 0 → ClockCache.setIdx (cache.slot p).key = p.1
  single : ∀ p q, (cache.slot p).key ≠ 0 → (cache.slot p).key = (cache.slot q).key → p = q

structure Kept (state : ChunkCache) : Prop where
  places : ∀ chunk, chunk ≠ 0 → state.places chunk = if chunk ∈ state.made then 1 else 0
  made : 0 ∉ state.made
  pinned : ∀ chunk, chunk ≠ 0 → 0 < state.pinned chunk →
    0 < state.cached chunk + state.pendingEvict.count chunk
  keyed : Keyed state.cache

section Cache

variable {cache next : ClockCache} {p : Fin 256 × Fin 4} {slot : PackedSlot} {key : Int64}

def SameSlots (cache next : ClockCache) : Prop :=
  ∀ p, (next.slot p).key = (cache.slot p).key ∧ (next.slot p).value = (cache.slot p).value

theorem setSlot_slot (q : Fin 256 × Fin 4) :
    (cache.setSlot p slot).slot q = if q = p then slot else cache.slot q :=
  Function.update_apply _ _ _ _

theorem sameSlots_setSlot (sameKey : slot.key = (cache.slot p).key)
    (sameValue : slot.value = (cache.slot p).value) : SameSlots cache (cache.setSlot p slot) := by
  intro q
  rw [setSlot_slot]
  split
  · next same => exact same ▸ ⟨sameKey, sameValue⟩
  · exact ⟨rfl, rfl⟩

theorem Keyed.of_same (keyed : Keyed cache) (same : SameSlots cache next) : Keyed next := by
  refine ⟨fun p => ?_, fun p => ?_, fun p q => ?_⟩
  · rw [(same p).1, (same p).2]
    exact keyed.vacant p
  · rw [(same p).1]
    exact keyed.indexed p
  · rw [(same p).1, (same q).1]
    exact keyed.single p q

theorem Keyed.setSlot (keyed : Keyed cache) (vacant : slot.key = 0 → slot.value = 0)
    (indexed : slot.key ≠ 0 → ClockCache.setIdx slot.key = p.1)
    (single : slot.key ≠ 0 → ∀ q, (cache.slot q).key = slot.key → q = p) :
    Keyed (cache.setSlot p slot) := by
  refine ⟨fun q => ?_, fun q => ?_, fun q r => ?_⟩
  · rw [setSlot_slot]
    split
    · exact vacant
    · exact keyed.vacant q
  · rw [setSlot_slot]
    split
    · next same => exact same ▸ indexed
    · exact keyed.indexed q
  · rw [setSlot_slot, setSlot_slot]
    split
    · next first =>
      split
      · next second => exact fun _ _ => first.trans second.symm
      · exact fun some same => first.trans (single some r same.symm).symm
    · split
      · next second => exact fun some same => second ▸ single (same ▸ some) q same
      · exact keyed.single q r

theorem clearRef_same {i : Fin 256} : SameSlots cache (cache.clearRef i) := by
  have same : SameSlots cache (cache.setSlot (i, cache.hand i)
      { cache.slot (i, cache.hand i) with ref := false }) := sameSlots_setSlot rfl rfl
  exact same

theorem clearRef_slot {i : Fin 256} : ((cache.clearRef i).slot (i, cache.hand i)).ref = false := by
  have here : (cache.clearRef i).slot (i, cache.hand i) = _ := (setSlot_slot _).trans (if_pos rfl)
  rw [here]

theorem scan_isSome {i : Fin 256} {h j : Fin 4} (clear : (cache.slot (i, j)).ref = false) :
    (((finRange 4).map (h + ·)).find? fun j => !(cache.slot (i, j)).ref).isSome = true := by
  have reached : ∀ h j : Fin 4, ∃ k, h + k = j := by decide
  obtain ⟨k, sum⟩ := reached h j
  rw [find?_isSome]
  exact ⟨j, mem_map.mpr ⟨k, mem_finRange k, sum⟩, by rw [clear]; rfl⟩

theorem findSlot_two (cache : ClockCache) (key : Int64) : (cache.findSlot key 2).isSome = true := by
  rw [ClockCache.findSlot]
  split
  · rfl
  split
  · rfl
  split
  · rfl
  rw [ClockCache.findSlot]
  split
  · rfl
  split
  · rfl
  split
  · rfl
  · next nowhere =>
    exact absurd nowhere (Option.isSome_iff_ne_none.mp (scan_isSome clearRef_slot))

theorem findSlot_spec {turns : Nat} {j : Fin 4} {always : Bool}
    (found : cache.findSlot key turns = some (next, j, always)) : SameSlots cache next ∧
      ∀ other, (cache.slot (ClockCache.setIdx key, other)).key = key → j = ClockCache.maskIndex := by
  induction turns generalizing cache with
  | zero => cases found
  | succ turns ih =>
    rw [ClockCache.findSlot] at found
    split at found
    · cases found
      exact ⟨fun _ => ⟨rfl, rfl⟩, fun _ _ => rfl⟩
    rename_i absent
    have unused : ∀ other, (cache.slot (ClockCache.setIdx key, other)).key = key →
        j = ClockCache.maskIndex := fun other same => absurd ⟨other, same⟩ absent
    refine ⟨?_, unused⟩
    split at found
    · cases found
      exact fun _ => ⟨rfl, rfl⟩
    split at found
    · cases found
      exact fun _ => ⟨rfl, rfl⟩
    intro p
    obtain ⟨sameKey, sameValue⟩ := (ih found).1 p
    obtain ⟨keyKept, valueKept⟩ := clearRef_same p
    exact ⟨sameKey.trans keyKept, sameValue.trans valueKept⟩

theorem get_same : SameSlots cache (cache.get key).1 := by
  rw [ClockCache.get]
  split
  · exact fun _ => ⟨rfl, rfl⟩
  · exact sameSlots_setSlot rfl rfl

theorem union_of_same {value : Fin 4 → Nat} {known : Nat} (slots : List (Fin 4))
    (same : ∀ j ∈ slots, value j = known) {start : Nat} (begins : start = 0 ∨ start = known) :
    slots.foldl (fun union j => union ||| value j) start = 0 ∨
      slots.foldl (fun union j => union ||| value j) start = known := by
  induction slots generalizing start with
  | nil => exact begins
  | cons j rest ih =>
    refine ih (fun other mem => same other (mem_cons_of_mem _ mem)) (Or.inr ?_)
    change start ||| value j = known
    rw [same j mem_cons_self]
    cases begins with
    | inl zero => rw [zero, Nat.zero_or]
    | inr known => rw [known, Nat.or_self]

theorem get_value (keyed : Keyed cache) {value : Nat} (found : (cache.get key).2 = some value) :
    value = 0 ∨ ∃ p, (cache.slot p).value = value := by
  rw [ClockCache.get] at found
  split at found
  · cases found
  rename_i some
  obtain ⟨first, mem⟩ := exists_mem_of_ne_nil _ some
  have matched : ∀ j ∈ (finRange 4).filter fun j =>
      (cache.slot (ClockCache.setIdx key, j)).key = key,
      (cache.slot (ClockCache.setIdx key, j)).key = key :=
    fun j listed => of_decide_eq_true (mem_filter.mp listed).2
  have same : ∀ j ∈ (finRange 4).filter fun j =>
      (cache.slot (ClockCache.setIdx key, j)).key = key,
      (cache.slot (ClockCache.setIdx key, j)).value =
        (cache.slot (ClockCache.setIdx key, first)).value := by
    intro j listed
    have one := matched j listed
    have two := matched first mem
    by_cases zero : key = 0
    · rw [keyed.vacant _ (one.trans zero), keyed.vacant _ (two.trans zero)]
    · rw [keyed.single _ _ (one.symm ▸ zero) (one.trans two.symm)]
  rw [← Option.some.inj found]
  cases union_of_same _ same (Or.inl rfl) with
  | inl zero => exact Or.inl zero
  | inr known => exact Or.inr ⟨_, known.symm⟩

end Cache

variable {state : ChunkCache} {p : Fin 256 × Fin 4} {slot : PackedSlot} {chunk c : Nat}

theorem sum_change {ι : Type} [Fintype ι] [DecidableEq ι] {before after : ι → Nat} (p : ι)
    (others : ∀ q, q ≠ p → after q = before q) : ∑ q, after q + before p = ∑ q, before q + after p := by
  have rest : ∑ q ∈ Finset.univ.erase p, after q = ∑ q ∈ Finset.univ.erase p, before q :=
    Finset.sum_congr rfl fun q mem => others q (Finset.ne_of_mem_erase mem)
  have first := Finset.add_sum_erase _ before (Finset.mem_univ p)
  have second := Finset.add_sum_erase _ after (Finset.mem_univ p)
  omega

theorem sum_pos {ι : Type} [Fintype ι] [DecidableEq ι] {values : ι → Nat} (p : ι)
    (positive : 0 < values p) : 0 < ∑ q, values q := by
  have split := Finset.add_sum_erase _ values (Finset.mem_univ p)
  omega

theorem cached_slot : 0 < state.cached (state.cache.slot p).value :=
  sum_pos p (Nat.lt_of_lt_of_eq Nat.one_pos (if_pos rfl).symm)

theorem cached_setSlot (state : ChunkCache) (p : Fin 256 × Fin 4) (slot : PackedSlot) (c : Nat) :
    cached { state with cache := state.cache.setSlot p slot } c +
        (if (state.cache.slot p).value = c then 1 else 0) =
      state.cached c + if slot.value = c then 1 else 0 := by
  have here : (state.cache.setSlot p slot).slot p = slot := (setSlot_slot p).trans (if_pos rfl)
  have sum := @sum_change _ _ _ (fun q => if (state.cache.slot q).value = c then 1 else 0)
    (fun q => if ((state.cache.setSlot p slot).slot q).value = c then 1 else 0) p
    fun q apart => by rw [setSlot_slot, if_neg apart]
  rw [here] at sum
  exact sum

theorem recycle_places (state : ChunkCache) (chunk c : Nat) :
    (state.recycle chunk).places c = state.places c + if chunk = c then 1 else 0 := by
  rw [recycle]
  split <;> simp only [places, cached, count_cons, beq_iff_eq] <;> omega

theorem recycle_frame (state : ChunkCache) (chunk : Nat) :
    (state.recycle chunk).cache = state.cache ∧ (state.recycle chunk).made = state.made ∧
      (state.recycle chunk).pinned = state.pinned ∧
      (state.recycle chunk).pendingEvict = state.pendingEvict := by
  rw [recycle]
  split <;> exact ⟨rfl, rfl, rfl, rfl⟩

theorem onEvict_places (some : c ≠ 0) (fresh : chunk ≠ 0 → chunk ∉ state.pendingEvict) :
    (state.onEvict chunk).places c = state.places c + if chunk = c then 1 else 0 := by
  rw [onEvict]
  split
  · next null => rw [if_neg fun same => some (same.symm.trans null), Nat.add_zero]
  rename_i real
  split
  · simp only [places, cached, insert_of_not_mem (fresh real), count_cons, beq_iff_eq]
    omega
  · exact recycle_places state chunk c

theorem onEvict_frame (state : ChunkCache) (chunk : Nat) :
    (state.onEvict chunk).cache = state.cache ∧ (state.onEvict chunk).made = state.made ∧
      (state.onEvict chunk).pinned = state.pinned ∧
      ∀ c, state.pendingEvict.count c ≤ (state.onEvict chunk).pendingEvict.count c := by
  rw [onEvict]
  split
  · exact ⟨rfl, rfl, rfl, fun _ => Nat.le_refl _⟩
  split
  · exact ⟨rfl, rfl, rfl, fun c => List.Sublist.count_le c (sublist_insert _ _)⟩
  · obtain ⟨cache, made, pinned, pending⟩ := recycle_frame state chunk
    exact ⟨cache, made, pinned, fun _ => Nat.le_of_eq (pending ▸ rfl)⟩

theorem onEvict_pending (some : chunk ≠ 0) (pins : 0 < state.pinned chunk) :
    0 < (state.onEvict chunk).pendingEvict.count chunk := by
  rw [onEvict, if_neg some, if_pos pins]
  exact count_pos_iff.mpr mem_insert_self

theorem Kept.most (kept : state.Kept) (some : c ≠ 0) : state.places c ≤ 1 := by
  rw [kept.places c some]
  split <;> omega

theorem replace_eq (state : ChunkCache) (keyed : Keyed state.cache) (always : Bool) :
    state.replace p slot always =
      onEvict { state with cache := state.cache.setSlot p slot } (state.cache.slot p).value := by
  rw [replace]
  split
  · rfl
  rename_i other
  have zero : (state.cache.slot p).key = 0 := by
    by_contra some
    exact other (Or.inr some)
  rw [keyed.vacant p zero, onEvict, if_pos rfl]

variable (kept : state.Kept)

include kept

theorem Kept.replace {hands : List Nat}
    (taken : ∀ c, c ≠ 0 → state.hands.count c = hands.count c + if slot.value = c then 1 else 0)
    (keyed : Keyed (state.cache.setSlot p slot)) (always : Bool) :
    (ChunkCache.replace { state with hands } p slot always).Kept := by
  rw [replace_eq { state with hands } kept.keyed always]
  dsimp only
  have moved := cached_setSlot { state with hands } p slot
  have before : ∀ c, ChunkCache.cached { state with hands } c = state.cached c := fun _ => rfl
  obtain ⟨written, known⟩ : ∃ written : ChunkCache,
      written = { state with hands, cache := state.cache.setSlot p slot } := ⟨_, rfl⟩
  rw [← known]
  have fields : written.cache = state.cache.setSlot p slot ∧ written.made = state.made ∧
      written.pinned = state.pinned ∧ written.pendingEvict = state.pendingEvict ∧
      written.pool = state.pool ∧ written.hands = hands ∧ written.freed = state.freed := by
    rw [known]
    exact ⟨rfl, rfl, rfl, rfl, rfl, rfl, rfl⟩
  obtain ⟨cache, made, pinned, pending, pool, held, freed⟩ := fields
  obtain ⟨evictedCache, evictedMade, evictedPinned, waits⟩ :=
    onEvict_frame written (state.cache.slot p).value
  have after : ∀ c, (written.onEvict (state.cache.slot p).value).cached c = written.cached c :=
    fun c => by rw [ChunkCache.cached, evictedCache, ChunkCache.cached]
  have step : ∀ c, written.cached c + (if (state.cache.slot p).value = c then 1 else 0) =
      state.cached c + if slot.value = c then 1 else 0 := fun c => by
    rw [← before, ← moved c, known]
  refine ⟨fun c some => ?_, ?_, fun c some pins => ?_, ?_⟩
  · have fresh : (state.cache.slot p).value ≠ 0 →
        (state.cache.slot p).value ∉ written.pendingEvict := by
      intro real waiting
      have most := kept.most real
      have counted := count_pos_iff.mpr waiting
      have present := @cached_slot state p
      rw [ChunkCache.places, ← pending] at most
      omega
    have own := taken c some
    have change := step c
    rw [evictedMade, made, ← kept.places c some, onEvict_places some fresh, ChunkCache.places,
      ChunkCache.places, pool, pending, held, freed]
    omega
  · rw [evictedMade, made]
    exact kept.made
  · rw [evictedPinned, pinned] at pins
    rw [after]
    have change := step c
    have grows := waits c
    have present := kept.pinned c some pins
    by_cases own : (state.cache.slot p).value = c
    · have waiting := onEvict_pending some (pinned ▸ pins)
      rw [own]
      omega
    · rw [if_neg own] at change
      rw [pending] at grows
      omega
  · rw [evictedCache, cache]
    exact keyed

theorem Kept.touch {cache : ClockCache} (same : SameSlots state.cache cache) :
    Kept { state with cache } := by
  have cached : ∀ c, ChunkCache.cached { state with cache } c = state.cached c :=
    fun c => by simp only [ChunkCache.cached, (same _).2]
  refine ⟨fun c some => ?_, kept.made, fun c some pins => ?_, kept.keyed.of_same same⟩
  · rw [← kept.places c some, ChunkCache.places, ChunkCache.places, cached]
  · rw [cached]
    exact kept.pinned c some pins

theorem Kept.put {key : Int64} (some : key ≠ 0) (held : chunk ∈ state.hands)
    (first : ∀ j, (state.cache.slot (ClockCache.setIdx key, j)).key = key → j = 0) :
    (state.put key chunk).Kept := by
  rw [ChunkCache.put]
  cases found : state.cache.findSlot key 2 with
  | none => exact kept
  | some result =>
    obtain ⟨cache, j, always⟩ := result
    obtain ⟨same, index⟩ := findSlot_spec found
    have touched := kept.touch same
    refine touched.replace (fun c real => ?_) (touched.keyed.setSlot (fun zero => absurd zero some)
      (fun _ => rfl) fun _ q own => ?_) always
    · rw [count_erase]
      have counted := count_pos_iff.mpr held
      by_cases own : chunk = c
      · rw [own] at counted
        simp only [own, beq_self_eq_true, if_true]
        omega
      · simp only [beq_iff_eq, own, if_false, Nat.sub_zero, Nat.add_zero]
    · change (cache.slot q).key = key at own
      rw [(same q).1] at own
      have set : q.1 = ClockCache.setIdx key :=
        (kept.keyed.indexed q (own.symm ▸ some)).symm.trans (congrArg ClockCache.setIdx own)
      have here : (state.cache.slot (ClockCache.setIdx key, q.2)).key = key := set ▸ own
      exact Prod.ext set ((first q.2 here).trans (index q.2 here).symm)

theorem Kept.clearSlot (p : Fin 256 × Fin 4) : (state.clearSlot p).Kept := by
  rw [ChunkCache.clearSlot]
  split
  · exact kept
  · refine @Kept.replace state p .empty kept state.hands (fun c real => ?_)
      (kept.keyed.setSlot (fun _ => rfl) (fun some => absurd rfl some) fun some => absurd rfl some) true
    rw [if_neg fun null => real null.symm, Nat.add_zero]

theorem Kept.drain :
    Kept { state with pool := [], freed := state.pool ++ state.freed } := by
  refine ⟨fun c some => ?_, kept.made, kept.pinned, kept.keyed⟩
  rw [← kept.places c some, ChunkCache.places, ChunkCache.places, count_append, count_nil]
  change state.cached c + 0 + state.pendingEvict.count c + state.hands.count c + _ = _
  omega

theorem Kept.clear : state.clear.Kept := by
  have cleared : ∀ (slots : List (Fin 256 × Fin 4)) (start : ChunkCache), start.Kept →
      (slots.foldl ChunkCache.clearSlot start).Kept := by
    intro slots
    induction slots with
    | nil => exact fun _ kept => kept
    | cons p rest ih => exact fun start kept => ih _ (kept.clearSlot p)
  exact (cleared slotOrder state kept).drain

theorem Kept.getPinned (key : Int64) : (state.getPinned key).1.Kept := by
  have touched : Kept (state.get key).1 := kept.touch get_same
  rw [ChunkCache.getPinned]
  split
  · exact touched
  rename_i chunk found
  refine ⟨touched.places, touched.made, fun c some pins => ?_, touched.keyed⟩
  change 0 < Function.update state.pinned chunk _ c at pins
  by_cases own : c = chunk
  · cases get_value kept.keyed found with
    | inl zero => exact absurd (own.trans zero) some
    | inr present =>
      obtain ⟨p, known⟩ := present
      have here : 0 < ChunkCache.cached (state.get key).1 c := by
        rw [own, ← known, ← (get_same p).2]
        exact cached_slot
      exact Nat.lt_of_lt_of_le here (Nat.le_add_right _ _)
  · rw [Function.update_of_ne own] at pins
    exact touched.pinned c some pins

theorem Kept.releasePinned (chunk : Nat) : (state.releasePinned chunk).Kept := by
  have fewer : ∀ c, Function.update state.pinned chunk (state.pinned chunk - 1) c ≤ state.pinned c := by
    intro c
    by_cases own : c = chunk
    · rw [own, Function.update_self]
      exact Nat.sub_le _ _
    · rw [Function.update_of_ne own]
  have released : Kept { state with
      pinned := Function.update state.pinned chunk (state.pinned chunk - 1) } :=
    ⟨kept.places, kept.made, fun c some pins => kept.pinned c some (Nat.lt_of_lt_of_le pins (fewer c)),
      kept.keyed⟩
  rw [ChunkCache.releasePinned]
  split
  · exact kept
  dsimp only
  split
  · exact released
  rename_i unpinned
  split
  · next waiting =>
    have counted := count_pos_iff.mpr waiting
    obtain ⟨cache, made, pinned, pending⟩ := recycle_frame { state with
      pinned := Function.update state.pinned chunk (state.pinned chunk - 1),
      pendingEvict := state.pendingEvict.erase chunk } chunk
    refine ⟨fun c some => ?_, made.symm ▸ kept.made, fun c some pins => ?_,
      cache.symm ▸ kept.keyed⟩
    · rw [recycle_places, made, ← kept.places c some, ChunkCache.places, ChunkCache.places,
        count_erase]
      change state.cached c + _ + _ + _ + _ + _ = _
      by_cases own : chunk = c
      · rw [own] at counted
        simp only [own, beq_self_eq_true, if_true]
        omega
      · simp only [beq_iff_eq, own, if_false, Nat.sub_zero, Nat.add_zero]
    · rw [pinned] at pins
      have apart : c ≠ chunk := fun own => unpinned (own ▸ pins)
      rw [ChunkCache.cached, cache, pending, count_erase_of_ne apart]
      exact released.pinned c some pins
  · exact released

theorem Kept.takeFromPool : state.takeFromPool.1.Kept := by
  rw [ChunkCache.takeFromPool]
  split
  · exact kept
  rename_i chunk rest pooled
  refine ⟨fun c some => ?_, kept.made, kept.pinned, kept.keyed⟩
  rw [← kept.places c some, ChunkCache.places, ChunkCache.places, pooled, count_cons, count_cons]
  change state.cached c + rest.count c + state.pendingEvict.count c + _ + state.freed.count c = _
  omega

theorem Kept.allocate (some : chunk ≠ 0) (fresh : chunk ∉ state.made) :
    Kept { state with hands := chunk :: state.hands, made := chunk :: state.made } := by
  refine ⟨fun c real => ?_, fun listed => ?_, kept.pinned, kept.keyed⟩
  · have before := kept.places c real
    rw [ChunkCache.places] at before
    rw [ChunkCache.places, count_cons]
    change state.cached c + _ + _ + (state.hands.count c + _) + _ = _
    by_cases own : chunk = c
    · rw [own] at fresh
      rw [if_neg fresh] at before
      simp only [own, beq_self_eq_true, if_true, mem_cons, true_or]
      omega
    · simp only [beq_iff_eq, own, if_false, mem_cons, Ne.symm own, false_or]
      omega
  · cases mem_cons.mp listed with
    | inl null => exact some null.symm
    | inr before => exact kept.made before

theorem Kept.handle (op : CacheOp) (meets : Meets state op) : (state.handle op).1.Kept := by
  cases op with
  | allocate chunk => exact kept.allocate meets.1 meets.2
  | put key chunk => exact kept.put meets.1 meets.2.1 meets.2.2
  | get key => exact kept.touch get_same
  | getPinned key => exact kept.getPinned key
  | releasePinned chunk => exact kept.releasePinned chunk
  | takeFromPool => exact kept.takeFromPool
  | clear => exact kept.clear

theorem Kept.sound : state.Sound := by
  refine ⟨fun c made => ?_, fun c some pins => ?_, kept.keyed.single, findSlot_two state.cache⟩
  · have some : c ≠ 0 := fun null => kept.made (null ▸ made)
    rw [kept.places c some, if_pos made]
  have most := kept.most some
  have held := kept.pinned c some pins
  rw [ChunkCache.places] at most
  constructor
  all_goals
    intro listed
    have counted := count_pos_iff.mpr listed
    omega

omit kept

theorem kept_empty : empty.Kept := by
  have nowhere : ∀ c, c ≠ 0 → empty.cached c = 0 :=
    fun c some => Finset.sum_eq_zero fun _ _ => if_neg some.symm
  refine ⟨fun c some => ?_, not_mem_nil, fun _ _ pins => absurd pins (Nat.lt_irrefl 0), ?_⟩
  · rw [ChunkCache.places, nowhere c some]
    rfl
  · exact ⟨fun _ _ => rfl, fun _ some => absurd rfl some, fun _ _ some => absurd rfl some⟩

theorem sound_of_meets (ops : List CacheOp) (meets : machine.Along Meets empty ops) :
    (machine.final empty ops).Sound := by
  have kept := machine.invariant Meets (fun _ state _ => state.Kept) kept_empty
    (fun _ _ _ op kept meets => kept.handle op meets) ops meets
  exact kept.sound

theorem sound_of_meets_pinned : (machine.final empty [.allocate 1, .put 1 1, .getPinned 1]).Sound :=
  sound_of_meets _
    ⟨⟨by decide, not_mem_nil⟩, ⟨by decide, mem_cons_self, by decide⟩, trivial, trivial⟩

theorem key_in_two_slots : ¬ ∀ ops, (machine.final empty ops).Sound := by
  intro always
  have sound := always [.allocate 1, .allocate 2, .allocate 3, .put 1 1, .put 256 2, .put 256 3]
  exact absurd (sound.single (1, 0) (1, 1) (by decide) (by decide)) (by decide)

end ChunkCache

end GtnhPlatform.ChunkStore
