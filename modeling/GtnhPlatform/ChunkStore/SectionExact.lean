import GtnhPlatform.ChunkStore.SectionWrite
import GtnhPlatform.Data.Machine

namespace GtnhPlatform.ChunkStore

open List FlatData

/-! Writes to sections of any origin, also of decoded ones. -/

namespace FlatData

variable {bytes bpi : Nat}

def index (flat : FlatData bytes) (bpi : Nat) (li : LocalIndex) : Nat :=
  let shift := li.val * bpi
  let byte := shift / 8
  let bit := shift % 8
  let raw := ((byteAt flat.indices byte).toNat >>> bit) |||
    ((byteAt flat.indices (byte + 1)).toNat <<< (8 - bit))
  raw % 2 ^ bpi

def read (flat : FlatData bytes) (bpi : Nat) (li : LocalIndex) : Option UInt16 :=
  flat.palette[flat.index bpi li]?

theorem getBlock_eq_read (flat : FlatData bytes) (li : LocalIndex) :
    flat.getBlock bpi li = (flat.read bpi li).getD 0 :=
  getD_eq_getElem?_getD ..

variable (packs : Packs bytes bpi)

include packs

theorem Packs.index_eq_entry (flat : FlatData bytes) (li : LocalIndex) :
    flat.index bpi li = entry flat.indices bpi li := by
  have lower := packs.aligned li
  rw [index, or_shiftLeft_mod _ _ (by omega), entry]

theorem Packs.read_eq_entry (flat : FlatData bytes) (li : LocalIndex) :
    flat.read bpi li = flat.palette[entry flat.indices bpi li]? := by
  rw [read, packs.index_eq_entry]

theorem masked_index (idx : Nat) : UInt32.ofNat idx &&& (((1 : UInt32) <<< UInt32.ofNat bpi) - 1) =
      UInt32.ofNat (idx % 2 ^ bpi) &&& (((1 : UInt32) <<< UInt32.ofNat bpi) - 1) := by
  have masked : ∀ value : UInt32,
      (value &&& (((1 : UInt32) <<< UInt32.ofNat bpi) - 1)).toNat = value.toNat % 2 ^ bpi := by
    intro value
    rw [UInt32.toNat_and]
    rcases packs.bits with rfl | rfl
    · exact Nat.and_two_pow_sub_one_eq_mod _ 4
    · exact Nat.and_two_pow_sub_one_eq_mod _ 8
  apply UInt32.toNat_inj.mp
  rw [masked, masked, UInt32.toNat_ofNat', UInt32.toNat_ofNat']
  rcases packs.bits with rfl | rfl <;> omega

theorem patched_mod (old : UInt8) (idx place : Nat) :
    patched old idx bpi place = patched old (idx % 2 ^ bpi) bpi place := by
  rw [patched, patched]
  rw [← UInt32.shiftLeft_and, ← UInt32.shiftLeft_and, masked_index packs]

theorem entry_write (indices : Fin bytes → UInt8) (li : LocalIndex)
    (idx : Nat) (other : LocalIndex) : entry (writeBitpacked indices li idx bpi) bpi other =
      if other = li then idx % 2 ^ bpi else entry indices bpi other := by
  have small : idx % 2 ^ bpi < 2 ^ bpi := Nat.mod_lt _ (Nat.two_pow_pos bpi)
  rw [← entry_writeBitpacked packs indices li small, writeBitpacked_eq _ _ (packs.aligned li),
    patched_mod packs, ← writeBitpacked_eq _ _ (packs.aligned li)]

omit packs

end FlatData

namespace SectionBlocks

/-- The block that `getBlock` reads, if the index of the cell is one of the palette. -/
def read : SectionBlocks → LocalIndex → Option UInt16
  | .air, _ => some 0
  | .bitpack4 data, li => data.read 4 li
  | .flat data, li => data.read 8 li
  | .overflow ids, li => some (ids li)

theorem getBlock_eq_read (blocks : SectionBlocks) (li : LocalIndex) :
    blocks.getBlock li = (blocks.read li).getD 0 := by
  cases blocks with
  | air => rfl
  | bitpack4 data => exact data.getBlock_eq_read li
  | flat data => exact data.getBlock_eq_read li
  | overflow ids => rfl

def palette : SectionBlocks → List UInt16
  | .bitpack4 data => data.palette
  | .flat data => data.palette
  | _ => []

/-- `max_pal` -/
def maxPalette : SectionBlocks → Nat
  | .bitpack4 _ => 16
  | _ => 256

/-- A block that all others come before, in the order of the cells. -/
def MetLast (blocks : SectionBlocks) (li : LocalIndex) : Prop :=
  ∀ other, blocks.getBlock other ≠ blocks.getBlock li →
    ∃ earlier, blocks.getBlock earlier = blocks.getBlock other ∧
      ∀ same, blocks.getBlock same = blocks.getBlock li → earlier < same

structure SetsOnly (before after : SectionBlocks) (li : LocalIndex) (id : UInt16) : Prop where
  written : after.read li = some id
  kept : ∀ other, other ≠ li →
    ∃ block, before.read other = some block ∧ after.read other = some block

structure Accommodates (blocks : SectionBlocks) (li : LocalIndex) (id : UInt16) : Prop where
  listed : ∀ other, other ≠ li → (blocks.read other).isSome
  indexed : id ∈ blocks.palette → blocks.palette.idxOf id < blocks.maxPalette
  promoted : blocks.Overfills id → ∀ other, blocks.MetLast other → other = li

variable {blocks : SectionBlocks} {li : LocalIndex} {id : UInt16}

theorem Sound.read (sound : blocks.Sound) (li : LocalIndex) :
    blocks.read li = some (blocks.getBlock li) := by
  have listed : ∀ {bytes bpi : Nat} {data : FlatData bytes}, FlatData.Packs bytes bpi →
      data.Indexed bpi → data.read bpi li = some (data.getBlock bpi li) := by
    intro bytes bpi data packs indexed
    rw [FlatData.getBlock_eq_read, packs.read_eq_entry,
      getElem?_eq_getElem (indexed.inside li), Option.getD_some]
  cases blocks with
  | air => rfl
  | bitpack4 data => exact listed packs_bitpack4 sound
  | flat data => exact listed packs_flat sound
  | overflow ids => rfl

variable {after : SectionBlocks}

theorem setsOnly_iff (kept : ∀ other, other ≠ li → ∀ block, blocks.read other = some block →
      after.read other = some block) : SetsOnly blocks after li id ↔
      (∀ other, other ≠ li → (blocks.read other).isSome) ∧ after.read li = some id := by
  constructor
  · rintro ⟨written, same⟩
    refine ⟨?_, written⟩
    intro other apart
    obtain ⟨block, present, _⟩ := same other apart
    exact Option.isSome_of_eq_some present
  · rintro ⟨listed, written⟩
    refine ⟨written, ?_⟩
    intro other apart
    obtain ⟨block, present⟩ := Option.isSome_iff_exists.mp (listed other apart)
    exact ⟨block, present, kept other apart block present⟩

theorem Written.setsOnly_iff (written : Written blocks after li id) :
    SetsOnly blocks after li id ↔ ∀ other, other ≠ li → (blocks.read other).isSome := by
  rw [SectionBlocks.setsOnly_iff, and_iff_left_iff_imp]
  · intro _
    rw [written.sound.read, written.blocks, if_pos rfl]
  · intro other apart block present
    rw [written.sound.read, written.blocks, if_neg apart, getBlock_eq_read, present,
      Option.getD_some]

section Palette

variable {bytes bpi : Nat} {data : FlatData bytes}

theorem read_setInPalette_of_ne (packs : FlatData.Packs bytes bpi) {other : LocalIndex}
    (apart : other ≠ li) {block : UInt16} (present : data.read bpi other = some block) :
    (setInPalette data li id bpi).read bpi other = some block := by
  rw [packs.read_eq_entry] at present ⊢
  rw [setInPalette]
  split
  · dsimp only
    rw [entry_write packs, if_neg apart]
    exact present
  · have inside := (List.getElem?_eq_some_iff.mp present).1
    rw [entry_write packs, if_neg apart, getElem?_append_left inside]
    exact present

theorem read_setInPalette_self (packs : FlatData.Packs bytes bpi)
    (room : ¬ (id ∉ data.palette ∧ 2 ^ bpi ≤ data.palette.length)) :
    (setInPalette data li id bpi).read bpi li = some id ↔
      (id ∈ data.palette → data.palette.idxOf id < 2 ^ bpi) := by
  rw [packs.read_eq_entry, setInPalette]
  by_cases listed : id ∈ data.palette
  · rw [if_pos listed]
    rw [entry_write packs, if_pos rfl]
    constructor
    · intro written _
      -- the index that is stored has the id, and the id has none before `idxOf`
      obtain ⟨inside, same⟩ := List.getElem?_eq_some_iff.mp written
      have first : data.palette.idxOf id ≤ data.palette.idxOf id % 2 ^ bpi := by
        by_contra before
        have other := not_of_lt_findIdx (not_le.mp before)
        rw [same, beq_self_eq_true] at other
        cases other
      exact first.trans_lt (Nat.mod_lt _ (Nat.two_pow_pos bpi))
    · intro indexed
      rw [Nat.mod_eq_of_lt (indexed listed)]
      exact getElem?_idxOf listed
  · have short : data.palette.length < 2 ^ bpi := by
      by_contra full
      exact room ⟨listed, not_lt.mp full⟩
    rw [if_neg listed]
    rw [entry_write packs, if_pos rfl, Nat.mod_eq_of_lt short, getElem?_concat_length]
    exact iff_of_true rfl fun mem => absurd mem listed

end Palette

theorem collectUnique_last {start ids : List UInt16}
    (few : (collectUnique false start ids).length ≤ 256)
    (grows : collectUnique false start ids ≠ start) :
    ∃ before last after firsts, ids = before ++ last :: after ∧
      collectUnique false start ids = firsts ++ [last] ∧ last ∉ start ∧ last ∉ before ∧
        ∀ id ∈ after, id ∈ start ∨ id ∈ before ∨ id = last := by
  induction ids generalizing start with
  | nil => exact absurd rfl grows
  | cons first rest ih =>
    rw [collectUnique] at few grows ⊢
    by_cases known : (false && first == 0) = true ∨ first ∈ start
    · rw [if_pos known] at few grows ⊢
      have listed : first ∈ start := known.resolve_left Bool.false_ne_true
      obtain ⟨before, last, after, firsts, rfl, collected, fresh, absent, rest⟩ := ih few grows
      refine ⟨first :: before, last, after, firsts, rfl, collected, fresh, ?_, ?_⟩
      · intro mem
        rcases mem_cons.mp mem with rfl | later
        · exact fresh listed
        · exact absent later
      · intro id mem
        exact (rest id mem).imp_right (Or.imp_left (mem_cons_of_mem _))
    · have fresh : first ∉ start := fun listed => known (Or.inr listed)
      rw [if_neg known] at few grows ⊢
      by_cases many : 256 < start.length + 1
      · rw [if_pos many, length_append, length_singleton] at few
        omega
      rw [if_neg many] at few grows ⊢
      by_cases more : collectUnique false (start ++ [first]) rest = start ++ [first]
      · refine ⟨[], first, rest, start, rfl, more, fresh, not_mem_nil, ?_⟩
        intro id mem
        have listed := (collectUnique_complete few mem).resolve_right
          fun skipped => Bool.false_ne_true skipped.1
        rw [more, mem_append, mem_singleton] at listed
        exact listed.imp_right Or.inr
      · obtain ⟨before, last, after, firsts, rfl, collected, new, absent, rest⟩ := ih few more
        rw [mem_append, mem_singleton, not_or] at new
        refine ⟨first :: before, last, after, firsts, rfl, collected, new.1, ?_, ?_⟩
        · intro mem
          exact (mem_cons.mp mem).elim new.2 absent
        intro id mem
        rcases rest id mem with listed | later
        · rcases mem_append.mp listed with old | here
          · exact Or.inl old
          · rw [mem_singleton.mp here]
            exact Or.inr (Or.inl mem_cons_self)
        · exact Or.inr (later.imp_left (mem_cons_of_mem _))

variable {ids : LocalIndex → UInt16} {last : UInt16}

theorem blockList_split {before after : List UInt16}
    (split : blockList ids = before ++ last :: after) :
    (∃ cell : LocalIndex, cell.val = before.length ∧ ids cell = last) ∧
      ∀ id, id ∈ before ↔ ∃ cell : LocalIndex, cell.val < before.length ∧ ids cell = id := by
  have size : before.length < SEC_VOL := by
    have sizes := congrArg length split
    rw [blockList_eq, length_map, length_finRange, length_append, length_cons] at sizes
    omega
  have at_cell : ∀ cell : LocalIndex, (before ++ last :: after)[cell.val]? = some (ids cell) := by
    intro cell
    have inside : cell.val < (finRange SEC_VOL).length := by
      rw [length_finRange]
      exact cell.isLt
    rw [← split, blockList_eq, getElem?_map, getElem?_eq_getElem inside, getElem_finRange]
    rfl
  refine ⟨⟨⟨before.length, size⟩, rfl, ?_⟩, ?_⟩
  · have here := at_cell ⟨before.length, size⟩
    rw [getElem?_append_right le_rfl, Nat.sub_self, getElem?_cons_zero] at here
    exact (Option.some.inj here).symm
  intro id
  constructor
  · intro mem
    obtain ⟨position, inside, rfl⟩ := mem_iff_getElem.mp mem
    have here := at_cell ⟨position, inside.trans size⟩
    rw [getElem?_append_left inside, getElem?_eq_getElem inside] at here
    exact ⟨_, inside, (Option.some.inj here).symm⟩
  · rintro ⟨cell, inside, rfl⟩
    have here := at_cell cell
    rw [getElem?_append_left inside] at here
    exact mem_of_getElem? here

theorem metLast_iff (unused : ∀ cell, blocks.getBlock cell ≠ id)
    (few : (collectUnique false [id] (blockList blocks.getBlock)).length ≤ 256)
    (grows : collectUnique false [id] (blockList blocks.getBlock) ≠ [id]) :
    ∃ firsts last, collectUnique false [id] (blockList blocks.getBlock) = firsts ++ [last] ∧
      last ≠ id ∧ ∀ cell, blocks.MetLast cell ↔ blocks.getBlock cell = last := by
  obtain ⟨before, last, after, firsts, split, collected, fresh, absent, rest⟩ :=
    collectUnique_last few grows
  obtain ⟨⟨place, here, holds⟩, first⟩ := blockList_split split
  have sooner : ∀ other, blocks.getBlock other ≠ last →
      ∃ earlier, earlier < place ∧ blocks.getBlock earlier = blocks.getBlock other := by
    intro other different
    have mem := mem_blockList blocks.getBlock other
    have known : blocks.getBlock other ∈ before := by
      rw [split] at mem
      rcases mem_append.mp mem with known | later
      · exact known
      rcases rest _ ((mem_cons.mp later).resolve_left different) with start | known | same
      · exact absurd (mem_singleton.mp start) (unused other)
      · exact known
      · exact absurd same different
    obtain ⟨earlier, inside, same⟩ := (first _).mp known
    exact ⟨earlier, Fin.lt_def.mpr (inside.trans_eq here.symm), same⟩
  have notSooner : ∀ cell, blocks.getBlock cell = last → place ≤ cell := by
    intro cell same
    by_contra inside
    have early : cell.val < before.length := (Fin.lt_def.mp (not_le.mp inside)).trans_eq here
    exact absent ((first last).mpr ⟨cell, early, same⟩)
  refine ⟨firsts, last, collected, fun same => fresh (mem_singleton.mpr same), ?_⟩
  intro cell
  constructor
  · intro metLast
    by_contra different
    obtain ⟨earlier, same, before⟩ := metLast place (by rw [holds]; exact Ne.symm different)
    obtain ⟨sooner, inside, equal⟩ := sooner cell different
    have late := notSooner earlier (same.trans holds)
    exact absurd ((late.trans_lt (before sooner equal)).trans inside) (lt_irrefl place)
  · intro same other different
    obtain ⟨earlier, inside, equal⟩ := sooner other (by rw [← same]; exact different)
    refine ⟨earlier, equal, ?_⟩
    intro also alike
    exact inside.trans_le (notSooner also (alike.trans same))

theorem Overfills.collected (overfills : blocks.Overfills id) :
    (collectUnique false [id] (blockList blocks.getBlock)).length = 256 ∧
      0 ∉ collectUnique false [id] (blockList blocks.getBlock) := by
  obtain ⟨_, _, _, _, size, noAir⟩ := overfills
  have distinct : (collectUnique false [id] (blockList blocks.getBlock)).Nodup :=
    collectUnique_nodup (nodup_singleton id)
  have few : (collectUnique false [id] (blockList blocks.getBlock)).length ≤ 256 := by
    rw [← size, ← toFinset_card_of_nodup distinct]
    apply Finset.card_le_card
    intro other mem
    rw [Finset.mem_insert, Finset.mem_image]
    rcases mem_collectUnique (mem_toFinset.mp mem) with start | listed
    · exact Or.inl (mem_singleton.mp start)
    · obtain ⟨cell, same⟩ := mem_blockList_iff.mp listed
      exact Or.inr ⟨cell, Finset.mem_univ cell, same⟩
  have used := used_of_collected few
  refine ⟨?_, ?_⟩
  · rw [← toFinset_card_of_nodup distinct, used, size]
  · rw [← mem_toFinset, used]
    exact noAir

theorem read_of_full {data : FlatData FLAT_BYTES} (full : 256 ≤ data.palette.length)
    (cell : LocalIndex) : ∃ block, block ∈ data.palette ∧ read (.flat data) cell = some block := by
  have small : entry data.indices 8 cell < 2 ^ 8 := Nat.mod_lt _ (by decide)
  have inside : entry data.indices 8 cell < data.palette.length := by omega
  refine ⟨_, getElem_mem inside, ?_⟩
  rw [read, packs_flat.read_eq_entry, getElem?_eq_getElem inside]

theorem read_flatOf_overfull {firsts : List UInt16} (size : firsts.length = 255)
    (absent : last ∉ 0 :: firsts) (listed : ids cell ∈ 0 :: (firsts ++ [last])) :
    (flatOf (0 :: (firsts ++ [last])) ids).read 8 cell =
      some (if ids cell = last then 0 else ids cell) := by
  rw [packs_flat.read_eq_entry, entry_flatOf, paletteIndex, if_pos listed]
  have palette : (flatOf (0 :: (firsts ++ [last])) ids).palette = (0 :: firsts) ++ [last] := rfl
  have long : (0 :: firsts).length = 256 := by rw [length_cons, size]
  rw [palette, ← cons_append]
  by_cases wraps : ids cell = last
  · rw [if_pos wraps, wraps, idxOf_append, if_neg absent, long, idxOf_cons_self]
    rfl
  have known : ids cell ∈ 0 :: firsts := by
    rw [← cons_append, mem_append, mem_singleton] at listed
    exact listed.resolve_right wraps
  have inside := idxOf_lt_length_of_mem known
  rw [if_neg wraps, idxOf_append_of_mem known, Nat.mod_eq_of_lt (by omega),
    getElem?_append_left inside, getElem?_idxOf known]

theorem overfilled_setsOnly_iff (again : SectionBlocks → SectionBlocks)
    (overfills : blocks.Overfills id) :
    SetsOnly blocks (setBlockWith again li id (promoteToFlatOrOverflow blocks id)) li id ↔
      ∀ other, blocks.MetLast other → other = li := by
  obtain ⟨size, noAir⟩ := overfills.collected
  obtain ⟨data, rfl, fresh, full, _⟩ := overfills
  have present : ∀ cell, read (.flat data) cell = some (getBlock (.flat data) cell) ∧
      getBlock (.flat data) cell ≠ id := by
    intro cell
    obtain ⟨block, listed, reads⟩ := read_of_full full cell
    rw [getBlock_eq_read, reads]
    refine ⟨rfl, ?_⟩
    rintro rfl
    exact fresh listed
  have grows : collectUnique false [id] (blockList (getBlock (.flat data))) ≠ [id] := by
    intro same
    rw [same] at size
    cases size
  obtain ⟨firsts, last, collected, different, metLast⟩ :=
    metLast_iff (fun cell => (present cell).2) size.le grows
  have distinct : (collectUnique false [id] (blockList (getBlock (.flat data)))).Nodup :=
    collectUnique_nodup (nodup_singleton id)
  have start : id ∈ collectUnique false [id] (blockList (getBlock (.flat data))) :=
    subset_collectUnique (mem_singleton_self id)
  have cells : ∀ cell, getBlock (.flat data) cell ∈
      collectUnique false [id] (blockList (getBlock (.flat data))) := by
    intro cell
    exact (collectUnique_complete size.le (mem_blockList _ cell)).resolve_right
      fun skipped => Bool.false_ne_true skipped.1
  have kept : (collectUnique false [id] (blockList (getBlock (.flat data)))).filter (· != 0) =
      collectUnique false [id] (blockList (getBlock (.flat data))) := by
    rw [filter_eq_self]
    intro other mem
    apply bne_iff_ne.mpr
    rintro rfl
    exact noAir mem
  rw [promoteToFlatOrOverflow, if_pos size.le, kept]
  rw [collected] at size noAir distinct start cells ⊢
  have short : firsts.length = 255 := by
    rw [length_append, length_singleton] at size
    omega
  have absent : last ∉ 0 :: firsts := by
    intro mem
    rcases mem_cons.mp mem with air | twice
    · exact noAir (air ▸ mem_append_right _ mem_cons_self)
    · exact (nodup_append.mp distinct).2.2 last twice last mem_cons_self rfl
  have ownIndex : id ∈ 0 :: firsts := by
    rcases mem_append.mp start with early | late
    · exact mem_cons_of_mem _ early
    · exact absurd (mem_singleton.mp late).symm different
  have listed : id ∈ (flatOf (0 :: (firsts ++ [last])) (getBlock (.flat data))).palette :=
    mem_cons_of_mem _ start
  have reads := fun cell => read_flatOf_overfull short absent (mem_cons_of_mem 0 (cells cell))
  rw [setBlockWith, if_neg fun promoted => promoted.1 listed]
  constructor
  · rintro ⟨_, same⟩ other met
    by_contra apart
    obtain ⟨block, before, after⟩ := same other apart
    have wrapped := @read_setInPalette_of_ne li id _ _ _ packs_flat other apart _
      (reads other)
    rw [(present other).1] at before
    cases before
    rw [if_pos ((metLast other).mp met)] at wrapped
    have zero := Option.some.inj (wrapped.symm.trans after)
    rw [(metLast other).mp met] at zero
    exact absent (zero ▸ mem_cons_self)
  · intro onlyHere
    refine ⟨?_, ?_⟩
    · refine (read_setInPalette_self packs_flat fun promoted => promoted.1 listed).mpr ?_
      intro _
      have inside := idxOf_lt_length_of_mem ownIndex
      have palette : (flatOf (0 :: (firsts ++ [last])) (getBlock (.flat data))).palette =
          (0 :: firsts) ++ [last] := rfl
      rw [length_cons, short] at inside
      rw [palette, idxOf_append_of_mem ownIndex]
      exact inside
    · intro other apart
      refine ⟨_, (present other).1, ?_⟩
      have differs : getBlock (.flat data) other ≠ last := by
        intro same
        exact apart (onlyHere other ((metLast other).mpr same))
      have unchanged := reads other
      rw [if_neg differs] at unchanged
      exact read_setInPalette_of_ne packs_flat apart unchanged

theorem setBlock_overflow_setsOnly (again : SectionBlocks → SectionBlocks)
    (ids : LocalIndex → UInt16) (li : LocalIndex) (id : UInt16) :
    SetsOnly (.overflow ids) (setBlockWith again li id (.overflow ids)) li id := by
  have updated : ∀ other, Function.update ids li id other = if other = li then id else ids other :=
    Function.update_apply ids li id
  have reads : ∀ other, (setBlockWith again li id (.overflow ids)).read other =
      some (if other = li then id else ids other) := by
    intro other
    rw [setBlockWith, ← updated]
    split
    · obtain ⟨sound, blocks⟩ := checkOverflowDemote_spec (Function.update ids li id)
      rw [sound.read, blocks]
    · rfl
  refine ⟨?_, ?_⟩
  · rw [reads, if_pos rfl]
  · intro other apart
    refine ⟨ids other, rfl, ?_⟩
    rw [reads, if_neg apart]

theorem setInPalette_accommodates {data : FlatData bytes} (packs : FlatData.Packs bytes bpi)
    (room : ¬ (id ∉ data.palette ∧ 2 ^ bpi ≤ data.palette.length)) {before after : SectionBlocks}
    (beforeReads : ∀ cell, before.read cell = data.read bpi cell)
    (afterReads : ∀ cell, after.read cell = (setInPalette data li id bpi).read bpi cell) :
    SetsOnly before after li id ↔ (∀ other, other ≠ li → (before.read other).isSome) ∧
        (id ∈ data.palette → data.palette.idxOf id < 2 ^ bpi) := by
  rw [setsOnly_iff, afterReads, read_setInPalette_self packs room]
  intro other apart block present
  rw [beforeReads] at present
  rw [afterReads]
  exact read_setInPalette_of_ne packs apart present

theorem setBlock_setsOnly_iff (blocks : SectionBlocks) (li : LocalIndex) (id : UInt16) :
    SetsOnly blocks (blocks.setBlock li id) li id ↔ blocks.Accommodates li id := by
  have fits : ∀ {other : SectionBlocks}, (∀ data, other ≠ .flat data) → ¬ other.Overfills id := by
    rintro other packed ⟨data, rfl, _⟩
    exact packed data rfl
  rw [setBlock]
  cases blocks with
  | air =>
    have unfilled : ¬ Overfills .air id := fits (by rintro _ ⟨⟩)
    have sound : Sound .air := trivial
    have written := setBlock_written sound li unfilled
    rw [setBlock] at written
    rw [written.setsOnly_iff]
    refine ⟨fun listed => ⟨listed, fun none => (not_mem_nil none).elim, ?_⟩,
      fun accommodates => accommodates.listed⟩
    intro overfills
    exact absurd overfills unfilled
  | overflow ids =>
    refine iff_of_true (setBlock_overflow_setsOnly _ ids li id) ⟨fun _ _ => rfl, ?_, ?_⟩
    · intro none
      cases none
    · intro overfills
      exact absurd overfills (fits (by rintro _ ⟨⟩))
  | bitpack4 data =>
    rw [setBlockWith]
    split
    · next full =>
      have few := bitpack4_collects_few data id
      rw [(setBlock_promoted_written _ li fun many => by omega).setsOnly_iff]
      refine ⟨fun listed => ⟨listed, fun known => absurd known full.1, ?_⟩,
        fun accommodates => accommodates.listed⟩
      intro overfills
      exact absurd overfills (fits (by rintro _ ⟨⟩))
    · next room =>
      rw [setInPalette_accommodates packs_bitpack4 room (fun _ => rfl) fun _ => rfl]
      refine ⟨fun both => ⟨both.1, both.2, ?_⟩,
        fun accommodates => ⟨accommodates.listed, accommodates.indexed⟩⟩
      intro overfills
      exact absurd overfills (fits (by rintro _ ⟨⟩))
  | flat data =>
    rw [setBlockWith]
    split
    · next full =>
      have listed : ∀ other, other ≠ li → (read (.flat data) other).isSome := by
        intro other _
        obtain ⟨block, _, reads⟩ := read_of_full full.2 other
        exact Option.isSome_of_eq_some reads
      have indexed : id ∈ data.palette → data.palette.idxOf id < 256 := fun known =>
        absurd known full.1
      by_cases overfills : Overfills (.flat data) id
      · rw [overfilled_setsOnly_iff _ overfills]
        exact ⟨fun onlyHere => ⟨listed, indexed, fun _ => onlyHere⟩,
          fun accommodates => accommodates.promoted overfills⟩
      rw [(setBlock_promoted_written _ li ?_).setsOnly_iff]
      · exact iff_of_true listed ⟨listed, indexed, fun again => absurd again overfills⟩
      · rintro ⟨size, noAir⟩
        exact overfills (overfills_of_collected full size noAir)
    · next room =>
      have unfilled : ¬ Overfills (.flat data) id := by
        rintro ⟨_, same, fresh, full, _⟩
        cases same
        exact room ⟨fresh, full⟩
      rw [setInPalette_accommodates packs_flat room (fun _ => rfl) fun _ => rfl]
      exact ⟨fun both => ⟨both.1, both.2, fun again => absurd again unfilled⟩,
        fun accommodates => ⟨accommodates.listed, accommodates.indexed⟩⟩

end SectionBlocks

structure AcceptedSection where
  wire : Reader
  decoded : MutableSection
  rest : Reader
  accepts : MutableSection.fromWire wire = some (decoded, rest)

inductive SectionInput where
  | fromBlocks (ids : LocalIndex → UInt16)
  | fromWire (accepted : AcceptedSection)
  | setBlock (li : LocalIndex) (id : UInt16)

namespace MutableSection

variable (state : MutableSection)

def rewrite : SectionInput → MutableSection
  | .fromBlocks ids => state.apply (.fromBlocks ids)
  | .fromWire accepted => accepted.decoded
  | .setBlock li id => state.apply (.setBlock li id)

def life : Machine MutableSection SectionInput Empty where
  step state input := (state.rewrite input, [])

def Exact (li : LocalIndex) (id : UInt16) : Prop :=
  state.blocks.SetsOnly (state.apply (.setBlock li id)).blocks li id

def ExactWrite : SectionInput → Prop
  | .setBlock li id => state.Exact li id
  | _ => True

def AccommodatedWrite : SectionInput → Prop
  | .setBlock li id => state.blocks.Accommodates li id
  | _ => True

theorem exact_iff_accommodated (inputs : List SectionInput) :
    (∀ li id, (life.final empty inputs).Exact li id ↔
      (life.final empty inputs).blocks.Accommodates li id) ∧
      (life.Along ExactWrite empty inputs ↔ life.Along AccommodatedWrite empty inputs) := by
  have agree : ∀ (state : MutableSection) li id,
      state.Exact li id ↔ state.blocks.Accommodates li id :=
    fun state => SectionBlocks.setBlock_setsOnly_iff state.blocks
  refine ⟨agree _, ?_⟩
  apply @Machine.along_congr _ _ _ life (fun _ => True) _ _ (fun _ _ _ => trivial) _ _ trivial
  intro state input _
  cases input with
  | fromBlocks ids => exact Iff.rfl
  | fromWire accepted => exact Iff.rfl
  | setBlock li id => exact agree state li id

/-- Seventeen ids and no index bits. -/
def wideSection : AcceptedSection where
  wire := [17, 0, 0, 0, 1, 0, 2, 0, 3, 0, 4, 0, 5, 0, 6, 0, 7, 0, 8, 0, 9, 0, 10, 0, 11, 0, 12, 0,
    13, 0, 14, 0, 15, 0, 16, 0, 0, 0, 0, 0, 0]
  decoded := ⟨.bitpack4 ⟨[0, 1, 2, 3, 4, 5, 6, 7, 8, 9, 10, 11, 12, 13, 14, 15, 16], fun _ => 0⟩,
    SideTable.empty, SideTable.empty⟩
  rest := []
  accepts := rfl

theorem wide_palette_loses_id :
    ¬ (life.final empty [.fromWire wideSection]).Exact ⟨5, by decide⟩ 16 := by
  intro exact
  have written := exact.written
  revert written
  decide +kernel

end MutableSection

end GtnhPlatform.ChunkStore
