import GtnhPlatform.ChunkStore.SectionRoundTrip

namespace GtnhPlatform.ChunkStore

open List FlatData SideTable

namespace FlatData

variable {bytes bpi : Nat}

def entry (indices : Fin bytes → UInt8) (bpi : Nat) (li : LocalIndex) : Nat :=
  (byteAt indices (li.val * bpi / 8)).toNat >>> (li.val * bpi % 8) % 2 ^ bpi

structure Packs (bytes bpi : Nat) : Prop where
  bits : bpi = 4 ∨ bpi = 8
  room : SEC_VOL * bpi / 8 < bytes

theorem packs_bitpack4 : Packs PACKED_BYTES 4 := ⟨Or.inl rfl, by decide⟩

theorem packs_flat : Packs FLAT_BYTES 8 := ⟨Or.inr rfl, by decide⟩

namespace Packs

variable (packs : Packs bytes bpi)

include packs

theorem aligned (li : LocalIndex) : li.val * bpi % 8 + bpi ≤ 8 := by
  rcases packs.bits with rfl | rfl <;> omega

theorem inside (li : LocalIndex) : li.val * bpi / 8 < bytes := by
  have small : li.val < 4096 := li.isLt
  have room : 4096 * bpi / 8 < bytes := packs.room
  rcases packs.bits with rfl | rfl <;> omega

theorem place_ne {li other : LocalIndex} (different : other ≠ li)
    (sameByte : other.val * bpi / 8 = li.val * bpi / 8) :
    other.val * bpi % 8 ≠ li.val * bpi % 8 := by
  intro samePlace
  apply different
  apply Fin.ext
  rcases packs.bits with rfl | rfl <;> omega

theorem getBlock_eq_entry (data : FlatData bytes) (li : LocalIndex) :
    data.getBlock bpi li = data.palette.getD (entry data.indices bpi li) 0 :=
  getBlock_eq data li (packs.aligned li)

end Packs

theorem byteAt_putByte (indices : Fin bytes → UInt8) (inside : position < bytes) (value : UInt8)
    (other : Nat) : byteAt (putByte indices position value) other =
      if other = position then value else byteAt indices other := by
  rw [putByte, dif_pos inside, byteAt]
  split
  · next present =>
    by_cases same : other = position
    · subst same
      rw [if_pos rfl, Function.update_self]
    have apart : (⟨other, present⟩ : Fin bytes) ≠ ⟨position, inside⟩ := by
      intro equal
      exact same (congrArg Fin.val equal)
    rw [if_neg same, Function.update_of_ne apart, byteAt, dif_pos present]
  · next absent =>
    have apart : other ≠ position := by
      rintro rfl
      exact absent inside
    rw [if_neg apart, byteAt, dif_neg absent]

def patched (old : UInt8) (idx bpi place : Nat) : UInt8 :=
  let bit := UInt32.ofNat place
  let mask := ((1 <<< UInt32.ofNat bpi) - 1) <<< bit
  ((old.toUInt32 &&& ~~~mask) ||| ((UInt32.ofNat idx <<< bit) &&& mask)).toUInt8

theorem writeBitpacked_eq (indices : Fin bytes → UInt8) {li : LocalIndex} (idx : Nat)
    (aligned : li.val * bpi % 8 + bpi ≤ 8) : writeBitpacked indices li idx bpi =
      putByte indices (li.val * bpi / 8)
        (patched (byteAt indices (li.val * bpi / 8)) idx bpi (li.val * bpi % 8)) := by
  rw [writeBitpacked, if_neg (by omega)]
  rfl

theorem nibble_masked : ∀ old : Fin 256, ∀ place ∈ [0, 4],
    (UInt8.ofNat old.val).toUInt32 &&& ~~~(((1 <<< UInt32.ofNat 4) - 1) <<< UInt32.ofNat place) =
      UInt32.ofNat (old.val >>> (4 - place) % 2 ^ 4 * 2 ^ (4 - place)) := by
  decide +kernel

theorem nibble_kept : ∀ kept idx : Fin 16, ∀ place ∈ [0, 4], ∀ other ∈ [0, 4],
    (UInt32.ofNat (kept.val * 2 ^ (4 - place)) ||| ((UInt32.ofNat idx.val <<< UInt32.ofNat place) &&&
      (((1 <<< UInt32.ofNat 4) - 1) <<< UInt32.ofNat place))).toUInt8.toNat >>> other % 2 ^ 4 =
      if other = place then idx.val else kept.val := by
  decide +kernel

theorem patched_nibble (old : Fin 256) (idx : Fin 16) : ∀ place ∈ [0, 4], ∀ other ∈ [0, 4],
    (patched (UInt8.ofNat old.val) idx.val 4 place).toNat >>> other % 2 ^ 4 =
      if other = place then idx.val else old.val >>> other % 2 ^ 4 := by
  intro place placed other spot
  rw [patched, nibble_masked old place placed]
  refine (nibble_kept ⟨_, Nat.mod_lt _ (by decide)⟩ idx place placed other spot).trans ?_
  have across : other ≠ place → 4 - place = other := by
    simp only [mem_cons, not_mem_nil, or_false] at placed spot
    omega
  split_ifs with same
  · rfl
  · rw [across same]
    rfl

theorem byte_masked : ∀ old : Fin 256,
    (UInt8.ofNat old.val).toUInt32 &&& ~~~((((1 : UInt32) <<< 8) - 1) <<< 0) = 0 := by
  decide +kernel

theorem patched_byte (old : UInt8) : ∀ idx : Fin 256,
    (patched old idx.val 8 0).toNat = idx.val := by
  have masked := byte_masked ⟨old.toNat, old.toNat_lt⟩
  have byte : UInt8.ofNat old.toNat = old := UInt8.ofNat_toNat
  rw [byte] at masked
  have written : ∀ idx, patched old idx 8 0 = ((0 : UInt32) |||
        ((UInt32.ofNat idx <<< 0) &&& ((((1 : UInt32) <<< 8) - 1) <<< 0))).toUInt8 := by
    intro idx
    change ((old.toUInt32 &&& ~~~((((1 : UInt32) <<< 8) - 1) <<< 0)) ||| _).toUInt8 = _
    rw [masked]
    rfl
  simp only [written]
  decide +kernel

variable {idx : Nat}

theorem patched_spec (packs : Packs bytes bpi) (old : UInt8) (small : idx < 2 ^ bpi)
    (li other : LocalIndex) :
    (patched old idx bpi (li.val * bpi % 8)).toNat >>> (other.val * bpi % 8) % 2 ^ bpi =
      if other.val * bpi % 8 = li.val * bpi % 8 then idx
      else old.toNat >>> (other.val * bpi % 8) % 2 ^ bpi := by
  rcases packs.bits with rfl | rfl
  · have nibble := patched_nibble ⟨old.toNat, old.toNat_lt⟩ ⟨idx, small⟩
    have byte : UInt8.ofNat old.toNat = old := UInt8.ofNat_toNat
    rw [byte] at nibble
    have places : ∀ cell : LocalIndex, cell.val * 4 % 8 ∈ [0, 4] := by
      intro cell
      simp only [mem_cons, not_mem_nil, or_false]
      omega
    exact nibble _ (places li) _ (places other)
  · have byte := patched_byte old ⟨idx, small⟩
    rw [Nat.mul_mod_left, Nat.mul_mod_left, if_pos rfl, byte, Nat.shiftRight_zero]
    exact Nat.mod_eq_of_lt small

theorem entry_writeBitpacked (packs : Packs bytes bpi) (indices : Fin bytes → UInt8)
    (li : LocalIndex) (small : idx < 2 ^ bpi) (other : LocalIndex) :
    entry (writeBitpacked indices li idx bpi) bpi other =
      if other = li then idx else entry indices bpi other := by
  rw [writeBitpacked_eq indices idx (packs.aligned li), entry,
    byteAt_putByte indices (packs.inside li)]
  by_cases sameByte : other.val * bpi / 8 = li.val * bpi / 8
  · rw [if_pos sameByte, patched_spec packs _ small, entry, sameByte]
    by_cases same : other = li
    · rw [if_pos same, if_pos (by rw [same])]
    · rw [if_neg same, if_neg (packs.place_ne same sameByte)]
  · have apart : other ≠ li := by
      rintro rfl
      exact sameByte rfl
    rw [if_neg sameByte, if_neg apart, entry]

theorem entry_foldl_write (packs : Packs bytes bpi) {index : LocalIndex → Nat}
    (small : ∀ li, index li < 2 ^ bpi) (cells : List LocalIndex) (indices : Fin bytes → UInt8)
    (other : LocalIndex) :
    entry (cells.foldl (fun indices li => writeBitpacked indices li (index li) bpi) indices) bpi
        other =
      if other ∈ cells then index other else entry indices bpi other := by
  induction cells generalizing indices with
  | nil => rw [foldl_nil, if_neg not_mem_nil]
  | cons first rest ih =>
    rw [foldl_cons, ih, entry_writeBitpacked packs indices first (small first)]
    by_cases later : other ∈ rest
    · rw [if_pos later, if_pos (mem_cons_of_mem _ later)]
    rw [if_neg later]
    by_cases here : other = first
    · rw [if_pos here, here, if_pos mem_cons_self]
    have absent : other ∉ first :: rest := by
      intro mem
      exact (mem_cons.mp mem).elim here later
    rw [if_neg here, if_neg absent]

structure Indexed (data : FlatData bytes) (bpi : Nat) : Prop where
  few : data.palette.length ≤ 2 ^ bpi
  inside : ∀ li, entry data.indices bpi li < data.palette.length

theorem Indexed.write {data : FlatData bytes} (indexed : data.Indexed bpi) (packs : Packs bytes bpi)
    {palette : List UInt16} (longer : data.palette <+: palette) (few : palette.length ≤ 2 ^ bpi)
    (inside : idx < palette.length) (li : LocalIndex) :
    Indexed ⟨palette, writeBitpacked data.indices li idx bpi⟩ bpi ∧
      ∀ other, getBlock ⟨palette, writeBitpacked data.indices li idx bpi⟩ bpi other =
        if other = li then palette.getD idx 0 else data.getBlock bpi other := by
  have written := entry_writeBitpacked packs data.indices li (inside.trans_le few)
  have before : ∀ other, entry data.indices bpi other < palette.length := fun other =>
    (indexed.inside other).trans_le longer.length_le
  refine ⟨⟨few, ?_⟩, ?_⟩
  · intro other
    rw [written]
    split
    · exact inside
    · exact before other
  · intro other
    rw [packs.getBlock_eq_entry, packs.getBlock_eq_entry]
    rw [written]
    split
    · rfl
    · rw [getD_eq_getElem _ _ (before other), getD_eq_getElem _ _ (indexed.inside other)]
      exact (longer.getElem _).symm

end FlatData

section Collecting

variable {skipsAir : Bool} {start ids : List UInt16}

theorem collectUnique_complete (few : (collectUnique skipsAir start ids).length ≤ 256) {id : UInt16}
    (mem : id ∈ ids) : id ∈ collectUnique skipsAir start ids ∨ skipsAir = true ∧ id = 0 := by
  induction ids generalizing start with
  | nil => cases mem
  | cons first rest ih =>
    rw [collectUnique] at few ⊢
    by_cases skipped : (skipsAir && first == 0) = true ∨ first ∈ start
    · rw [if_pos skipped] at few ⊢
      rcases mem_cons.mp mem with rfl | later
      · rcases skipped with air | known
        · obtain ⟨skips, zero⟩ := Bool.and_eq_true_iff.mp air
          exact Or.inr ⟨skips, beq_iff_eq.mp zero⟩
        · exact Or.inl (subset_collectUnique known)
      · exact ih few later
    · rw [if_neg skipped] at few ⊢
      by_cases many : 256 < start.length + 1
      · rw [if_pos many, length_append, length_singleton] at few
        omega
      rw [if_neg many] at few ⊢
      rcases mem_cons.mp mem with rfl | later
      · exact Or.inl (subset_collectUnique (mem_append_right _ mem_cons_self))
      · exact ih few later

end Collecting

namespace SectionBlocks

def Sound : SectionBlocks → Prop
  | .air => True
  | .bitpack4 data => data.Indexed 4
  | .flat data => data.Indexed 8
  | .overflow ids => 256 < (overflowPalette ids).length

/-- A full palette gets a new id, and with it the section has 256 ids in use,
none of them air. Promotion gives air an index too, and one id none. -/
def Overfills (blocks : SectionBlocks) (id : UInt16) : Prop :=
  ∃ data, blocks = .flat data ∧ id ∉ data.palette ∧ 256 ≤ data.palette.length ∧
    (insert id (Finset.univ.image blocks.getBlock)).card = 256 ∧
      0 ∉ insert id (Finset.univ.image blocks.getBlock)

structure Written (before after : SectionBlocks) (li : LocalIndex) (id : UInt16) : Prop where
  sound : after.Sound
  blocks : ∀ other, after.getBlock other = if other = li then id else before.getBlock other

variable {id : UInt16} {bytes bpi : Nat}

theorem setInPalette_spec (packs : FlatData.Packs bytes bpi) {data : FlatData bytes}
    (indexed : data.Indexed bpi) (li : LocalIndex)
    (room : ¬ (id ∉ data.palette ∧ 2 ^ bpi ≤ data.palette.length)) :
    (setInPalette data li id bpi).Indexed bpi ∧
      ∀ other, (setInPalette data li id bpi).getBlock bpi other =
        if other = li then id else data.getBlock bpi other := by
  by_cases listed : id ∈ data.palette
  · have inside := idxOf_lt_length_of_mem listed
    have written := indexed.write packs prefix_rfl indexed.few inside li
    rw [getD_eq_getElem _ _ inside, getElem_idxOf] at written
    rw [setInPalette, if_pos listed]
    exact written
  · have short : data.palette.length < 2 ^ bpi := by
      by_contra full
      exact room ⟨listed, not_lt.mp full⟩
    have size : (data.palette ++ [id]).length = data.palette.length + 1 := by
      rw [length_append, length_singleton]
    have inside : data.palette.length < (data.palette ++ [id]).length := by omega
    have written := indexed.write packs (prefix_append _ [id]) (by omega) inside li
    rw [getD_append_right _ _ _ _ le_rfl, Nat.sub_self] at written
    rw [setInPalette, if_neg listed]
    exact written

theorem entry_flatOf (palette : List UInt16) (ids : LocalIndex → UInt16) (li : LocalIndex) :
    entry (flatOf palette ids).indices 8 li = paletteIndex palette (ids li) % 256 := by
  have here : li.val < FLAT_BYTES := li.isLt.trans (by decide)
  rw [entry, Nat.mul_div_cancel _ (by decide), Nat.mul_mod_left, Nat.shiftRight_zero,
    byteAt, dif_pos here, flatOf]
  dsimp only
  rw [dif_pos li.isLt, UInt8.toNat_ofNat', Nat.mod_mod]

variable {ids : LocalIndex → UInt16} {palette : List UInt16}

theorem flatOf_spec (few : palette.length ≤ 256) (listed : ∀ li, ids li ∈ palette) :
    (flatOf palette ids).Indexed 8 ∧ ∀ li, (flatOf palette ids).getBlock 8 li = ids li := by
  have stored : ∀ li, entry (flatOf palette ids).indices 8 li =
      paletteIndex palette (ids li) := by
    intro li
    have inside := (paletteIndex_spec (listed li)).1
    rw [entry_flatOf, Nat.mod_eq_of_lt (inside.trans_le few)]
  refine ⟨⟨few, ?_⟩, ?_⟩
  · intro li
    rw [stored]
    exact (paletteIndex_spec (listed li)).1
  · intro li
    rw [packs_flat.getBlock_eq_entry, stored]
    exact (paletteIndex_spec (listed li)).2

theorem collected_lists (few : (collectUnique true [0] (blockList ids)).length ≤ 256)
    (li : LocalIndex) : ids li ∈ collectUnique true [0] (blockList ids) := by
  rcases collectUnique_complete few (mem_blockList ids li) with listed | ⟨_, air⟩
  · exact listed
  · rw [air]
    exact subset_collectUnique (mem_singleton_self 0)

theorem fromBlocks_spec (ids : LocalIndex → UInt16) :
    (fromBlocks ids).Sound ∧ ∀ li, (fromBlocks ids).getBlock li = ids li := by
  have listed : (collectUnique true [0] (blockList ids)).length ≤ 256 →
      ∀ li, ids li ∈ collectUnique true [0] (blockList ids) := collected_lists
  have air : 0 ∈ collectUnique true [0] (blockList ids) :=
    subset_collectUnique (mem_singleton_self 0)
  have many : 256 < (collectUnique true [0] (blockList ids)).length →
      256 < (overflowPalette ids).length := by
    intro long
    refine overflow_of_collected (nodup_singleton 0) ?_ long
    exact (overflowPalette_spec ids).1.subset
  rw [fromBlocks]
  generalize collectUnique true [0] (blockList ids) = unique at *
  by_cases alone : unique.length = 1
  · rw [if_pos alone]
    refine ⟨trivial, ?_⟩
    intro li
    obtain ⟨id, rfl⟩ := length_eq_one_iff.mp alone
    rw [mem_singleton.mp (listed (by simp) li), ← mem_singleton.mp air]
    rfl
  · rw [if_neg alone]
    by_cases few : unique.length ≤ 16
    · rw [if_pos few]
      have index : ∀ li, paletteIndex unique (ids li) < unique.length := fun li =>
        (paletteIndex_spec (listed (by omega) li)).1
      have stored : ∀ li, entry ((finRange SEC_VOL).foldl (fun indices li =>
          writeBitpacked indices li (paletteIndex unique (ids li)) 4)
            fun _ : Fin PACKED_BYTES => 0) 4 li = paletteIndex unique (ids li) := by
        intro li
        rw [entry_foldl_write packs_bitpack4
          (fun li => (index li).trans_le few), if_pos (mem_finRange li)]
      refine ⟨⟨few, ?_⟩, ?_⟩
      · intro li
        rw [stored]
        exact index li
      · intro li
        rw [getBlock, packs_bitpack4.getBlock_eq_entry, stored]
        exact (paletteIndex_spec (listed (by omega) li)).2
    · rw [if_neg few]
      by_cases fits : unique.length ≤ 256
      · rw [if_pos fits]
        exact flatOf_spec fits (listed fits)
      · rw [if_neg fits]
        exact ⟨many (not_le.mp fits), fun _ => rfl⟩

theorem checkOverflowDemote_spec (ids : LocalIndex → UInt16) :
    (checkOverflowDemote ids).Sound ∧ ∀ li, (checkOverflowDemote ids).getBlock li = ids li := by
  rw [checkOverflowDemote]
  by_cases many : 256 < (collectUnique true [0] (blockList ids)).length
  · rw [if_pos many]
    refine ⟨overflow_of_collected (nodup_singleton 0) ?_ many, fun _ => rfl⟩
    exact (overflowPalette_spec ids).1.subset
  · rw [if_neg many]
    exact flatOf_spec (not_lt.mp many) (collected_lists (not_lt.mp many))

theorem setBlock_overflow_written (again : SectionBlocks → SectionBlocks)
    (many : ids li = id → 256 < (overflowPalette ids).length) :
    Written (.overflow ids) (setBlockWith again li id (.overflow ids)) li id := by
  have updated : ∀ other, Function.update ids li id other = if other = li then id else ids other :=
    Function.update_apply ids li id
  rw [setBlockWith]
  split
  · obtain ⟨sound, blocks⟩ := checkOverflowDemote_spec (Function.update ids li id)
    exact ⟨sound, fun other => (blocks other).trans (updated other)⟩
  rename_i same
  refine ⟨?_, updated⟩
  have unchanged : Function.update ids li id = ids := by
    rw [← not_not.mp same, Function.update_eq_self]
  rw [unchanged]
  exact many (not_not.mp same)

theorem promotedPalette_length {unique : List UInt16} (few : unique.length ≤ 256)
    (fits : ¬ (unique.length = 256 ∧ 0 ∉ unique)) : (0 :: unique.filter (· != 0)).length ≤ 256 := by
  rw [length_cons]
  by_cases air : 0 ∈ unique
  · have fewer : (unique.filter (· != 0)).length < unique.length :=
      length_filter_lt_length_iff_exists.mpr ⟨0, air, by simp⟩
    omega
  · have short : unique.length ≠ 256 := fun full => fits ⟨full, air⟩
    have fewer := length_filter_le (· != (0 : UInt16)) unique
    omega

variable {blocks : SectionBlocks}

theorem setBlock_promoted_written (again : SectionBlocks → SectionBlocks) (li : LocalIndex)
    (fits : ¬ ((collectUnique false [id] (blockList blocks.getBlock)).length = 256 ∧
      0 ∉ collectUnique false [id] (blockList blocks.getBlock))) :
    Written blocks (setBlockWith again li id (promoteToFlatOrOverflow blocks id)) li id := by
  have collected : id ∈ collectUnique false [id] (blockList blocks.getBlock) :=
    subset_collectUnique (mem_singleton_self id)
  rw [promoteToFlatOrOverflow]
  by_cases few : (collectUnique false [id] (blockList blocks.getBlock)).length ≤ 256
  · have listed : ∀ other ∈ collectUnique false [id] (blockList blocks.getBlock),
        other ∈ 0 :: (collectUnique false [id] (blockList blocks.getBlock)).filter (· != 0) := by
      intro other mem
      by_cases zero : other = 0
      · rw [zero]
        exact mem_cons_self
      · exact mem_cons_of_mem _ (mem_filter.mpr ⟨mem, bne_iff_ne.mpr zero⟩)
    have cells : ∀ cell, blocks.getBlock cell ∈
        0 :: (collectUnique false [id] (blockList blocks.getBlock)).filter (· != 0) := by
      intro cell
      apply listed
      exact (collectUnique_complete few (mem_blockList _ cell)).resolve_right
        fun skipped => Bool.false_ne_true skipped.1
    obtain ⟨indexed, same⟩ := flatOf_spec (promotedPalette_length few fits) cells
    rw [if_pos few, setBlockWith, if_neg fun full => full.1 (listed id collected)]
    obtain ⟨stays, written⟩ := setInPalette_spec packs_flat indexed li
      fun full => full.1 (listed id collected)
    refine ⟨stays, ?_⟩
    intro other
    rw [getBlock, written, same]
  · rw [if_neg few]
    have many : blocks.getBlock li = id → 256 < (overflowPalette blocks.getBlock).length := by
      rintro rfl
      refine overflow_of_collected (nodup_singleton _) ?_ (not_le.mp few)
      exact cons_subset.mpr ⟨(overflowPalette_spec _).2.1 li, nil_subset _⟩
    obtain ⟨sound, written⟩ := setBlock_overflow_written again many
    exact ⟨sound, written⟩

theorem bitpack4_collects_few (data : FlatData PACKED_BYTES) (id : UInt16) :
    (collectUnique false [id] (blockList (getBlock (.bitpack4 data)))).length ≤ 17 := by
  have subset : collectUnique false [id] (blockList (getBlock (.bitpack4 data))) ⊆
      id :: (range 16).map fun position => data.palette.getD position 0 := by
    intro other mem
    rcases mem_collectUnique mem with start | listed
    · rw [mem_singleton.mp start]
      exact mem_cons_self
    obtain ⟨cell, rfl⟩ := mem_blockList_iff.mp listed
    apply mem_cons_of_mem
    rw [getBlock, packs_bitpack4.getBlock_eq_entry]
    have small : entry data.indices 4 cell < 16 := Nat.mod_lt _ (by decide)
    exact mem_map.mpr ⟨_, mem_range.mpr small, rfl⟩
  have short := (subperm_of_subset (collectUnique_nodup (nodup_singleton id))
    subset).length_le
  rw [length_cons, length_map, length_range] at short
  exact short

theorem used_of_collected
    (few : (collectUnique false [id] (blockList blocks.getBlock)).length ≤ 256) :
    (collectUnique false [id] (blockList blocks.getBlock)).toFinset =
      insert id (Finset.univ.image blocks.getBlock) := by
  ext other
  rw [mem_toFinset, Finset.mem_insert, Finset.mem_image]
  constructor
  · intro mem
    rcases mem_collectUnique mem with start | listed
    · exact Or.inl (mem_singleton.mp start)
    · obtain ⟨cell, same⟩ := mem_blockList_iff.mp listed
      exact Or.inr ⟨cell, Finset.mem_univ cell, same⟩
  · rintro (rfl | ⟨cell, _, rfl⟩)
    · exact subset_collectUnique (mem_singleton_self _)
    · exact (collectUnique_complete few (mem_blockList _ cell)).resolve_right
        fun skipped => Bool.false_ne_true skipped.1

theorem overfills_of_collected {data : FlatData FLAT_BYTES}
    (full : id ∉ data.palette ∧ 256 ≤ data.palette.length)
    (size : (collectUnique false [id] (blockList (getBlock (.flat data)))).length = 256)
    (noAir : 0 ∉ collectUnique false [id] (blockList (getBlock (.flat data)))) :
    Overfills (.flat data) id := by
  refine ⟨data, rfl, full.1, full.2, ?_⟩
  rw [← used_of_collected size.le, mem_toFinset,
    toFinset_card_of_nodup (collectUnique_nodup (nodup_singleton id))]
  exact ⟨size, noAir⟩

theorem setBlock_written (sound : blocks.Sound) (li : LocalIndex) (fits : ¬ blocks.Overfills id) :
    Written blocks (blocks.setBlock li id) li id := by
  rw [setBlock]
  cases blocks with
  | air =>
    rw [setBlockWith]
    by_cases none : id = 0
    · rw [if_pos none, none]
      exact ⟨trivial, fun other => (ite_self _).symm⟩
    have zeros : ∀ cell, entry (fun _ : Fin PACKED_BYTES => 0) 4 cell = 0 := by
      intro cell
      have zero : byteAt (fun _ : Fin PACKED_BYTES => 0) (cell.val * 4 / 8) = 0 := by
        unfold byteAt
        split <;> rfl
      rw [entry, zero, UInt8.toNat_zero, Nat.zero_shiftRight, Nat.zero_mod]
    have indexed : FlatData.Indexed (⟨[0], fun _ => 0⟩ : FlatData PACKED_BYTES) 4 := by
      refine ⟨by decide, ?_⟩
      intro cell
      rw [zeros]
      exact Nat.one_pos
    have few : ([0, id] : List UInt16).length ≤ 2 ^ 4 := Nat.le_of_ble_eq_true rfl
    have inside : 1 < ([0, id] : List UInt16).length := Nat.one_lt_two
    obtain ⟨stays, written⟩ := indexed.write packs_bitpack4
      (prefix_append [0] [id]) few inside li
    rw [if_neg none]
    refine ⟨stays, ?_⟩
    intro other
    refine (written other).trans ?_
    rw [packs_bitpack4.getBlock_eq_entry, zeros]
    rfl
  | overflow ids => exact setBlock_overflow_written _ fun _ => sound
  | bitpack4 data =>
    rw [setBlockWith]
    split
    · have few := bitpack4_collects_few data id
      exact setBlock_promoted_written _ li fun full => by omega
    · next room =>
      obtain ⟨stays, written⟩ := setInPalette_spec packs_bitpack4 sound li room
      exact ⟨stays, written⟩
  | flat data =>
    rw [setBlockWith]
    split
    · next full =>
      apply setBlock_promoted_written
      rintro ⟨size, noAir⟩
      exact fits (overfills_of_collected full size noAir)
    · next room =>
      obtain ⟨stays, written⟩ := setInPalette_spec packs_flat sound li room
      exact ⟨stays, written⟩

theorem Sound.encodable (sound : blocks.Sound) : blocks.Encodable := by
  have filled : ∀ {bytes bpi : Nat} {data : FlatData bytes}, data.Indexed bpi →
      data.palette ≠ [] := by
    intro bytes bpi data indexed none
    have inside := indexed.inside ⟨0, Nat.zero_lt_succ _⟩
    rw [none] at inside
    cases inside
  cases blocks with
  | air => trivial
  | bitpack4 data => exact ⟨filled sound, sound.few⟩
  | flat data => exact ⟨filled sound, sound.few.trans (Nat.le_succ _)⟩
  | overflow ids => exact sound

theorem copied_indexed (packs : FlatData.Packs bytes bpi) {data : FlatData bytes}
    (indexed : data.Indexed bpi) {length : Nat} (all : SEC_VOL * bpi / 8 ≤ length)
    (room : length ≤ bytes) :
    FlatData.Indexed (⟨data.palette, copied ((ofFn data.indices).take length)⟩ :
      FlatData bytes) bpi := by
  refine ⟨indexed.few, ?_⟩
  intro li
  have small : li.val < 4096 := li.isLt
  have cells : 4096 * bpi / 8 ≤ length := all
  have inside : li.val * bpi / 8 < length := by
    rcases packs.bits with rfl | rfl <;> omega
  rw [entry, byteAt_copied room room inside]
  exact indexed.inside li

theorem readBlocks_wide {bpi : Nat} (wide : 8 < bpi)
    (reads : readBlocks palette bpi r = some (decoded, rest)) : ∃ ids, decoded = .overflow ids := by
  rw [readBlocks, if_neg (by omega), if_neg (by omega), if_neg (by omega), readOverflow] at reads
  split at reads
  · cases reads
  · split at reads
    · exact ⟨_, (Prod.mk.inj (Option.some.inj reads)).1.symm⟩
    · cases reads

theorem overflow_wide (many : 256 < (overflowPalette ids).length) :
    8 < (UInt8.ofNat ((overflowPalette ids).length - 1).size).toNat := by
  have short := (overflowPalette_spec ids).2.2
  have wide : 8 < ((overflowPalette ids).length - 1).size := by
    rw [Nat.lt_size]
    omega
  have narrow : ((overflowPalette ids).length - 1).size ≤ 13 := by
    rw [Nat.size_le]
    omega
  rw [UInt8.toNat_ofNat', Nat.mod_eq_of_lt (by omega)]
  exact wide

theorem exists_sound_reading (sound : blocks.Sound) (notAir : blocks ≠ .air) :
    ∃ palette bpi body, Encodes blocks palette bpi body ∧
      ∀ rest, ∃ decoded, readBlocks palette bpi.toNat (body ++ rest) = some (decoded, rest) ∧
        decoded.Sound ∧ ∀ li, decoded.getBlock li = blocks.getBlock li := by
  cases blocks with
  | air => exact absurd rfl notAir
  | bitpack4 data =>
    have encodes := bitpack4_encodes sound.encodable.1 sound.encodable.2
    refine ⟨_, _, _, encodes, ?_⟩
    intro rest
    obtain ⟨decoded, reads, same⟩ := encodes.reads rest
    refine ⟨decoded, reads, ?_, same⟩
    have nibbles : (4 : UInt8).toNat = 4 := rfl
    have few : data.palette.length ≤ 16 := sound.few
    rw [readBlocks, nibbles, if_pos ⟨few, rfl⟩] at reads
    obtain ⟨⟨bytes, after⟩, taken, pair⟩ := Option.map_eq_some_iff.mp reads
    cases pair
    have size : ((ofFn data.indices).take ((SEC_VOL * 4 + 7) / 8)).length =
        (SEC_VOL * 4 + 7) / 8 := by
      rw [length_take, length_ofFn]
      rfl
    rw [readBytes_append size] at taken
    obtain ⟨rfl, _⟩ := Prod.mk.inj (Option.some.inj taken)
    exact copied_indexed packs_bitpack4 sound (by decide) (by decide)
  | flat data =>
    have encodes := flat_encodes sound.encodable.1 sound.encodable.2
    refine ⟨_, _, _, encodes, ?_⟩
    intro rest
    obtain ⟨decoded, reads, same⟩ := encodes.reads rest
    refine ⟨decoded, reads, ?_, same⟩
    have bytes : (8 : UInt8).toNat = 8 := rfl
    have few : data.palette.length ≤ 256 := sound.few
    rw [readBlocks, bytes, if_neg (by simp), if_pos ⟨few, rfl⟩] at reads
    obtain ⟨⟨bytes, after⟩, taken, pair⟩ := Option.map_eq_some_iff.mp reads
    cases pair
    have size : ((ofFn data.indices).take SEC_VOL).length = SEC_VOL := by
      rw [length_take, length_ofFn]
      rfl
    rw [readBytes_append size] at taken
    obtain ⟨rfl, _⟩ := Prod.mk.inj (Option.some.inj taken)
    exact copied_indexed packs_flat sound (by decide) (by decide)
  | overflow ids =>
    have encodes := overflow_encodes sound
    refine ⟨_, _, _, encodes, ?_⟩
    intro rest
    obtain ⟨decoded, reads, same⟩ := encodes.reads rest
    refine ⟨decoded, reads, ?_, same⟩
    obtain ⟨decodedIds, rfl⟩ := readBlocks_wide (overflow_wide sound) reads
    have unchanged : decodedIds = ids := funext same
    rw [unchanged]
    exact sound

end SectionBlocks

namespace MutableSection

variable {state : MutableSection}

structure Sound (state : MutableSection) : Prop where
  blocks : state.blocks.Sound
  metadata : state.metadata.Valid
  multiblocks : state.multiblocks.Valid

def Storable (state : MutableSection) : Prop := state.isAir = true → ∀ li, state.getMeta li = 0

theorem Sound.wellBuilt (sound : state.Sound) : state.WellBuilt :=
  ⟨sound.blocks.encodable, sound.metadata, sound.multiblocks⟩

theorem empty_sound : empty.Sound := ⟨trivial, empty_valid, empty_valid⟩

theorem fill_written_valid {ν : Type} [DecidableEq ν] [Zero ν] {table : SideTable ν}
    (valid : table.Valid) : (fill table.written).Valid :=
  (foldl_set empty_valid (written_sorted valid)).1

theorem Sound.exists_decoded (sound : state.Sound) (rest : Reader) :
    ∃ decoded, fromWire (state.encodeToWire ++ rest) = some (decoded, rest) ∧ decoded.Sound ∧
      (∀ li, decoded.getBlock li = state.getBlock li) ∧
        (state.Storable → ∀ li, decoded.getMeta li = state.getMeta li) := by
  by_cases air : state.blocks = .air
  · refine ⟨empty, fromWire_encode_air sound.wellBuilt air rest, empty_sound, ?_, ?_⟩
    · intro li
      rw [getBlock, getBlock, air]
      rfl
    · intro bare li
      exact (bare (isAir_iff.mpr air) li).symm
  · obtain ⟨palette, bpi, body, encodes, reading⟩ :=
      SectionBlocks.exists_sound_reading sound.blocks air
    obtain ⟨blocks, reads, blocksSound, same⟩ := reading
      (state.metadata.writeToWire u8 ++ (state.multiblocks.writeToWire u32 ++ rest))
    refine ⟨_, fromWire_of_reads sound.wellBuilt encodes reads, ?_, same, ?_⟩
    · exact ⟨blocksSound, fill_written_valid sound.metadata, fill_written_valid sound.multiblocks⟩
    · intro _ li
      exact get_fill_written sound.metadata li

end MutableSection

end GtnhPlatform.ChunkStore
