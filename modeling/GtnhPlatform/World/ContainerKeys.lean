import GtnhPlatform.World.WorldContainers

namespace GtnhPlatform.World

open List

/-- What the key keeps of two positions is the same: `x` and the upper half of
`y` have bits in common, and of `z` only the lower half is there. -/
def SameFields (pos other : BlockPos) : Prop :=
  pos.x ||| (pos.y >>> 16) = other.x ||| (other.y >>> 16) ∧
    pos.y.toUInt16 = other.y.toUInt16 ∧ pos.z.toUInt16 = other.z.toUInt16

theorem packed_fields (low : z < 2 ^ 16) :
    (x <<< 32 ||| y <<< 16) ||| z = (x ||| y >>> 16) * 2 ^ 32 + y % 2 ^ 16 * 2 ^ 16 + z := by
  have halves : y = (y >>> 16) <<< 16 ||| y % 2 ^ 16 := by
    rw [← Nat.shiftLeft_add_eq_or_of_lt (Nat.mod_lt _ (by decide)), Nat.shiftRight_eq_div_pow,
      Nat.shiftLeft_eq]
    omega
  have upper : x <<< 16 ||| y = (x ||| y >>> 16) <<< 16 + y % 2 ^ 16 := by
    rw [Nat.shiftLeft_add_eq_or_of_lt (Nat.mod_lt _ (by decide)), Nat.shiftLeft_or_distrib,
      Nat.or_assoc, ← halves]
  have shifted : x <<< 32 ||| y <<< 16 = (x <<< 16 ||| y) <<< 16 := by
    rw [Nat.shiftLeft_or_distrib, ← Nat.shiftLeft_add]
  rw [shifted, ← Nat.shiftLeft_add_eq_or_of_lt low, upper, Nat.shiftLeft_eq, Nat.shiftLeft_eq]
  omega

theorem packKey_toNat (pos : BlockPos) :
    (packKey pos).toNat = (pos.x ||| (pos.y >>> 16)).toNat * 2 ^ 32 +
      pos.y.toUInt16.toNat * 2 ^ 16 + pos.z.toUInt16.toNat := by
  have xSmall := pos.x.toNat_lt
  have ySmall := pos.y.toNat_lt
  have high : (pos.x.toUInt64 <<< 32).toNat = pos.x.toNat <<< 32 := by
    rw [UInt64.toNat_shiftLeft, UInt32.toNat_toUInt64]
    refine Nat.mod_eq_of_lt ?_
    change pos.x.toNat <<< 32 < _
    rw [Nat.shiftLeft_eq]
    exact Nat.mul_lt_mul_of_pos_right xSmall (by decide)
  have middle : (pos.y.toUInt64 <<< 16).toNat = pos.y.toNat <<< 16 := by
    rw [UInt64.toNat_shiftLeft, UInt32.toNat_toUInt64]
    refine Nat.mod_eq_of_lt ?_
    change pos.y.toNat <<< 16 < _
    rw [Nat.shiftLeft_eq]
    exact (Nat.mul_lt_mul_of_pos_right ySmall (by decide)).trans (by decide)
  have shared : (pos.x ||| (pos.y >>> 16)).toNat = pos.x.toNat ||| pos.y.toNat >>> 16 := by
    rw [UInt32.toNat_or, UInt32.toNat_shiftRight]
    rfl
  rw [packKey, UInt64.toNat_or, UInt64.toNat_or, high, middle, UInt16.toNat_toUInt64,
    packed_fields pos.z.toUInt16.toNat_lt, shared, UInt32.toNat_toUInt16 pos.y]

theorem packKey_eq_iff : packKey pos = packKey other ↔ SameFields pos other := by
  have yLow := pos.y.toUInt16.toNat_lt
  have zLow := pos.z.toUInt16.toNat_lt
  have yOther := other.y.toUInt16.toNat_lt
  have zOther := other.z.toUInt16.toNat_lt
  rw [SameFields, ← UInt64.toNat_inj, ← UInt32.toNat_inj, ← UInt16.toNat_inj, ← UInt16.toNat_inj,
    packKey_toNat, packKey_toNat]
  omega

namespace WorldContainers

def sessionAt (world : WorldContainers) (pos : BlockPos) :
    Option (OpenContainer × Option InventoryContainer) :=
  ((world.openContainers.lookup (packKey pos)).filter fun entry => entry.pos = pos).map
    fun entry => (entry, world.entities.lookup entry.entity)

def subject (world : WorldContainers) : ContainerInput → Option BlockPos
  | .openBlock _ pos _ _ | .closeBlock _ pos _ | .act _ pos _ _ _ _ => some pos
  | .loaded index _ => (world.loads[index]?).map PendingLoad.pos
  | .saved index _ => (world.saves[index]?).map PendingSave.pos

/-- In no run a step at a position finds, changes or releases a session of another one. -/
def Isolated (pos other : BlockPos) : Prop := ∀ inputs,
    (∀ entry ∈ (machine.final {} inputs).openContainers.lookup (packKey pos), entry.pos ≠ other) ∧
      ∀ input, (machine.final {} inputs).subject input = some pos →
        ((machine.final {} inputs).handle input).1.sessionAt other =
          (machine.final {} inputs).sessionAt other

structure Keyed (world : WorldContainers) : Prop where
  entries : ∀ key, ∀ entry ∈ world.openContainers.lookup key,
    key = packKey entry.pos ∧ entry.entity < world.nextEntity
  single : ∀ key other, ∀ entry ∈ world.openContainers.lookup key,
    ∀ another ∈ world.openContainers.lookup other, entry.entity = another.entity → key = other
  loads : ∀ load ∈ world.loads, load.key = packKey load.pos
  saves : ∀ save ∈ world.saves, save.key = packKey save.pos

structure Moves (world : WorldContainers) (key : UInt64) (next : WorldContainers) : Prop where
  keyed : next.Keyed
  entries : ∀ other, other ≠ key →
    next.openContainers.lookup other = world.openContainers.lookup other
  contents : ∀ other, other ≠ key → ∀ entry ∈ world.openContainers.lookup other,
    next.entities.lookup entry.entity = world.entities.lookup entry.entity

variable {world : WorldContainers} {key : UInt64}

variable (keyed : world.Keyed)

include keyed

theorem Keyed.same (key : UInt64) : world.Moves key world :=
  ⟨keyed, fun _ _ => rfl, fun _ _ _ _ => rfl⟩

theorem Keyed.requests (loads : List PendingLoad) (saves : List PendingSave)
    (loadsKeyed : ∀ load ∈ loads, load.key = packKey load.pos)
    (savesKeyed : ∀ save ∈ saves, save.key = packKey save.pos) (key : UInt64) :
    world.Moves key { world with loads := loads, saves := saves } :=
  ⟨⟨keyed.entries, keyed.single, loadsKeyed, savesKeyed⟩, fun _ _ => rfl, fun _ _ _ _ => rfl⟩

theorem Keyed.set {entry : OpenContainer} {container : InventoryContainer}
    {nextEntity nextNode : Nat} (isKey : key = packKey entry.pos)
    (own : ∀ other, other ≠ key → ∀ known ∈ world.openContainers.lookup other,
      known.entity ≠ entry.entity)
    (early : entry.entity < nextEntity) (later : world.nextEntity ≤ nextEntity) :
    world.Moves key
      { world with
        openContainers := AList.insert key entry world.openContainers
        entities := AList.insert entry.entity container world.entities
        nextEntity := nextEntity
        nextNode := nextNode } := by
  have lookup (other : UInt64) : AList.lookup other (AList.insert key entry world.openContainers) =
      if other = key then some entry else world.openContainers.lookup other :=
    Table.lookup_insert_eq _ _ _ _
  refine ⟨⟨?_, ?_, keyed.loads, keyed.saves⟩, ?_, ?_⟩
  · intro other known found
    rw [lookup] at found
    split at found
    · next same =>
      cases found
      exact ⟨same.trans isKey, early⟩
    · exact (keyed.entries other known found).imp_right later.trans_lt'
  · intro one other first isFirst second isSecond same
    rw [lookup] at isFirst isSecond
    split at isFirst
    · next here =>
      split at isSecond
      · next there => exact here.trans there.symm
      · next apart =>
        cases isFirst
        exact absurd same.symm (own other apart second isSecond)
    · next apart =>
      split at isSecond
      · cases isSecond
        exact absurd same (own one apart first isFirst)
      · exact keyed.single one other first isFirst second isSecond same
  · intro other apart
    exact (lookup other).trans (if_neg apart)
  · intro other apart known found
    exact Table.lookup_insert_of_ne _ _ (own other apart known found)

theorem Keyed.openContainer (isKey : key = packKey pos)
    (container : InventoryContainer) (playerId : UInt64) :
    world.Moves key (world.openContainer pos container playerId key).1 := by
  have fresh : ∀ other, other ≠ key → ∀ known ∈ world.openContainers.lookup other,
      known.entity ≠ world.nextEntity := fun other _ known found =>
    (keyed.entries other known found).2.ne
  unfold WorldContainers.openContainer
  split
  · exact keyed.set isKey fresh (Nat.lt_succ_self _) (Nat.le_succ _)
  · exact keyed.set isKey fresh (Nat.lt_succ_self _) (Nat.le_succ _)

theorem Keyed.releaseContainer (save : PendingSave) :
    world.Moves save.key (world.releaseContainer save).1 := by
  unfold WorldContainers.releaseContainer
  split
  · next entry found =>
    split
    · have lookup (other : UInt64) : (world.openContainers.erase save.key).lookup other =
          if other = save.key then none else world.openContainers.lookup other :=
        Table.lookup_erase_eq _ _ _
      have older {other : UInt64} {known : OpenContainer}
          (kept : known ∈ (world.openContainers.erase save.key).lookup other) :
          known ∈ world.openContainers.lookup other := by
        rw [lookup] at kept
        split at kept
        · cases kept
        · exact kept
      refine ⟨⟨?_, ?_, keyed.loads, keyed.saves⟩, ?_, ?_⟩
      · exact fun other known kept => keyed.entries other known (older kept)
      · exact fun one other first isFirst second isSecond =>
          keyed.single one other first (older isFirst) second (older isSecond)
      · exact fun other apart => (lookup other).trans (if_neg apart)
      · intro other apart known kept
        refine (Table.lookup_erase_eq _ _ _).trans (if_neg fun same => apart ?_)
        exact keyed.single other save.key known kept entry found same
    · exact ⟨⟨keyed.entries, keyed.single, keyed.loads, keyed.saves⟩, fun _ _ => rfl,
        fun _ _ _ _ => rfl⟩
  · exact ⟨⟨keyed.entries, keyed.single, keyed.loads, keyed.saves⟩, fun _ _ => rfl,
      fun _ _ _ _ => rfl⟩

omit keyed

theorem Moves.after {middle next : WorldContainers} (first : world.Moves key middle)
    (second : middle.Moves key next) : world.Moves key next where
  keyed := second.keyed
  entries other apart := (second.entries other apart).trans (first.entries other apart)
  contents other apart entry found :=
    (second.contents other apart entry ((first.entries other apart).symm ▸ found)).trans
      (first.contents other apart entry found)

variable (keyed : world.Keyed)

include keyed

theorem Keyed.onContainerOpen (playerId : UInt64) (pos : BlockPos)
    (entityType : UInt16) (online : Bool) :
    world.Moves (packKey pos) (world.onContainerOpen playerId pos entityType online).1 := by
  unfold WorldContainers.onContainerOpen
  dsimp only
  split
  · exact keyed.same _
  split
  · refine keyed.requests _ _ ?_ keyed.saves _
    intro load waiting
    rcases mem_append.mp waiting with old | new
    · exact keyed.loads load old
    · rw [mem_singleton.mp new]
  · exact keyed.openContainer rfl _ _

theorem Keyed.onContainerClose (playerId : UInt64) (pos : BlockPos)
    (online : Bool) : world.Moves (packKey pos) (world.onContainerClose playerId pos online) := by
  unfold WorldContainers.onContainerClose
  split
  · exact keyed.same _
  split
  · refine keyed.requests _ _ keyed.loads ?_ _
    intro save waiting
    rcases mem_append.mp waiting with old | new
    · exact keyed.saves save old
    · rw [mem_singleton.mp new]
  · exact keyed.same _

theorem Keyed.onContainerAction (playerId : UInt64) (pos : BlockPos)
    (action srcSlot dstSlot count : UInt8) :
    world.Moves (packKey pos) (world.onContainerAction playerId pos action srcSlot dstSlot count) := by
  unfold WorldContainers.onContainerAction
  split
  · exact keyed.same _
  rename_i entry isEntry
  have found := (Option.filter_eq_some_iff.mp isEntry).1
  obtain ⟨isKey, early⟩ := keyed.entries _ entry found
  refine keyed.set isKey ?_ early le_rfl
  intro other apart known present same
  exact apart (keyed.single other _ known present entry found same)

theorem Keyed.handle (isSubject : world.subject input = some pos) :
    world.Moves (packKey pos) (world.handle input).1 := by
  unfold WorldContainers.handle
  split
  · exact keyed.same _
  cases input with
  | openBlock playerId pos entityType online =>
    cases isSubject
    exact keyed.onContainerOpen playerId _ entityType online
  | closeBlock playerId pos online =>
    cases isSubject
    exact keyed.onContainerClose playerId _ online
  | act playerId pos action srcSlot dstSlot count =>
    cases isSubject
    exact keyed.onContainerAction playerId _ action srcSlot dstSlot count
  | loaded index stat =>
    obtain ⟨load, found, rfl⟩ := Option.map_eq_some_iff.mp isSubject
    have isKey := keyed.loads load (mem_of_getElem? found)
    have answered := keyed.requests (world.loads.eraseIdx index) world.saves
      (fun other waiting => keyed.loads other (mem_of_mem_eraseIdx waiting)) keyed.saves
      load.key
    simp only [found]
    rw [← isKey]
    exact answered.after (answered.keyed.openContainer isKey _ _)
  | saved index success =>
    obtain ⟨save, found, rfl⟩ := Option.map_eq_some_iff.mp isSubject
    have isKey := keyed.saves save (mem_of_getElem? found)
    have answered := keyed.requests world.loads (world.saves.eraseIdx index) keyed.loads
      (fun other waiting => keyed.saves other (mem_of_mem_eraseIdx waiting)) save.key
    simp only [found]
    rw [← isKey]
    split
    · exact answered.after (answered.keyed.releaseContainer save)
    · exact answered

omit keyed

theorem handle_of_no_subject (none : world.subject input = none) :
    (world.handle input).1 = world := by
  unfold WorldContainers.handle
  split
  · rfl
  cases input with
  | loaded index stat => simp only [Option.map_eq_none_iff.mp none]
  | saved index success => simp only [Option.map_eq_none_iff.mp none]
  | openBlock | closeBlock | act => cases none

theorem keyed_run (inputs : List ContainerInput) : (machine.final {} inputs).Keyed := by
  refine machine.invariant (fun _ _ => True) (fun _ world _ => world.Keyed) ?_ ?_ inputs
    (machine.along_true _ inputs)
  · exact ⟨nofun, nofun, nofun, nofun⟩
  intro _ world _ input keyed _
  cases isSubject : world.subject input with
  | some pos => exact (keyed.handle isSubject).keyed
  | none => exact (handle_of_no_subject isSubject).symm ▸ keyed

theorem sessions_apart_iff (pos other : BlockPos) :
    (pos ≠ other → packKey pos ≠ packKey other ∧ Isolated pos other) ↔
      (pos ≠ other → ¬ SameFields pos other) := by
  rw [← packKey_eq_iff]
  refine forall_congr' fun _ => ⟨And.left, fun apart => ⟨apart, ?_⟩⟩
  intro inputs
  have keyed := keyed_run inputs
  generalize machine.final {} inputs = world at *
  refine ⟨?_, ?_⟩
  · rintro entry found rfl
    exact apart (keyed.entries _ entry found).1
  intro input isSubject
  have moves := keyed.handle isSubject
  unfold sessionAt
  rw [moves.entries _ (Ne.symm apart)]
  cases found : world.openContainers.lookup (packKey other) with
  | none => rfl
  | some entry =>
    have contents := moves.contents _ (Ne.symm apart) entry found
    simp only [Option.filter_some]
    split
    · exact congrArg (fun held => some (entry, held)) contents
    · rfl

def farChest : BlockPos := ⟨0, 65536, 0⟩

theorem keys_collide :
    ¬ (farChest ≠ ⟨1, 0, 0⟩ → packKey farChest ≠ packKey ⟨1, 0, 0⟩ ∧ Isolated farChest ⟨1, 0, 0⟩) := by
  intro apart
  exact (apart (by decide)).1 (by decide)

end WorldContainers

end GtnhPlatform.World
