import GtnhPlatform.ChunkStore.SectionPalette

namespace GtnhPlatform.ChunkStore

open List SideTable BitStream FlatData SectionBlocks

namespace FlatData

variable {bytes : Nat}

theorem or_shiftLeft_mod (low high : Nat) (above : bits ≤ place) :
    (low ||| (high <<< place)) % 2 ^ bits = low % 2 ^ bits := by
  apply Nat.eq_of_testBit_eq
  intro index
  rw [Nat.testBit_mod_two_pow, Nat.testBit_mod_two_pow, Nat.testBit_or, Nat.testBit_shiftLeft]
  by_cases kept : index < bits
  · have under : ¬ place ≤ index := by omega
    simp [under]
  · simp [kept]

theorem getBlock_eq (data : FlatData bytes) {bpi : Nat} (li : LocalIndex)
    (aligned : li.val * bpi % 8 + bpi ≤ 8) : data.getBlock bpi li = data.palette.getD
      ((byteAt data.indices (li.val * bpi / 8)).toNat >>> (li.val * bpi % 8) % 2 ^ bpi) 0 := by
  rw [getBlock, or_shiftLeft_mod _ _ (by omega)]

theorem byteAt_copied {other : Nat} {indices : Fin bytes → UInt8} {length position : Nat}
    (room : length ≤ bytes) (fits : length ≤ other) (inside : position < length) :
    byteAt (copied ((ofFn indices).take length) : Fin other → UInt8) position =
      byteAt indices position := by
  have here : position < bytes := by omega
  have there : position < other := by omega
  rw [byteAt, dif_pos there, byteAt, dif_pos here, copied, getD_eq_getElem?_getD,
    List.getElem?_take_of_lt inside, List.getElem?_ofFn, dif_pos here, Option.getD_some]

end FlatData

namespace SectionBlocks

structure Encodes (blocks : SectionBlocks) (palette : List UInt16) (bpi : UInt8)
    (body : List UInt8) : Prop where
  wire : blocks.encodeToWire = u16.write (UInt16.ofNat palette.length) ++
    palette.flatMap u16.write ++ u8.write bpi ++ body
  filled : palette ≠ []
  few : palette.length ≤ 4097
  notAir : ¬ (palette = [0] ∧ bpi = 0)
  reads : ∀ rest, ∃ decoded, readBlocks palette bpi.toNat (body ++ rest) = some (decoded, rest) ∧
    ∀ li, decoded.getBlock li = blocks.getBlock li

theorem packedBytes : (SEC_VOL * 4 + 7) / 8 = 2048 := rfl

theorem bitpack4_encodes {data : FlatData PACKED_BYTES} (filled : data.palette ≠ [])
    (few : data.palette.length ≤ 16) : Encodes (.bitpack4 data) data.palette 4
      ((ofFn data.indices).take ((SEC_VOL * 4 + 7) / 8)) := by
  refine ⟨rfl, filled, by omega, fun air => absurd air.2 (by decide), ?_⟩
  intro rest
  have size : ((ofFn data.indices).take ((SEC_VOL * 4 + 7) / 8)).length =
      (SEC_VOL * 4 + 7) / 8 := by
    rw [length_take, length_ofFn]
    rfl
  have nibbles : (4 : UInt8).toNat = 4 := rfl
  refine ⟨.bitpack4
    ⟨data.palette, copied ((ofFn data.indices).take ((SEC_VOL * 4 + 7) / 8))⟩, ?_, ?_⟩
  · rw [readBlocks, nibbles, if_pos ⟨few, rfl⟩, readBytes_append size, Option.map_some]
  intro li
  have inside : li.val < 4096 := li.isLt
  have aligned : li.val * 4 % 8 + 4 ≤ 8 := by omega
  have byte : li.val * 4 / 8 < (SEC_VOL * 4 + 7) / 8 := by
    rw [packedBytes]
    omega
  rw [getBlock, getBlock, getBlock_eq _ li aligned, getBlock_eq _ li aligned,
    byteAt_copied (by decide) (by decide) byte]

theorem flat_getBlock (data : FlatData FLAT_BYTES) (li : LocalIndex) : getBlock (.flat data) li =
      data.palette.getD (byteAt data.indices li.val).toNat 0 := by
  have aligned : li.val * 8 % 8 + 8 ≤ 8 := by omega
  have small := (byteAt data.indices li.val).toNat_lt
  rw [getBlock, getBlock_eq _ li aligned, Nat.mul_div_cancel _ (by decide),
    Nat.mul_mod_left, Nat.shiftRight_zero, Nat.mod_eq_of_lt small]

theorem flat_encodes {data : FlatData FLAT_BYTES} (filled : data.palette ≠ [])
    (few : data.palette.length ≤ 257) :
    Encodes (.flat data) data.palette 8 ((ofFn data.indices).take SEC_VOL) := by
  refine ⟨rfl, filled, by omega, fun air => absurd air.2 (by decide), ?_⟩
  intro rest
  have size : ((ofFn data.indices).take SEC_VOL).length = SEC_VOL := by
    rw [length_take, length_ofFn]
    rfl
  have bytes : (8 : UInt8).toNat = 8 := rfl
  rw [readBlocks, bytes, if_neg (by simp)]
  by_cases fits : data.palette.length ≤ 256
  · refine ⟨.flat ⟨data.palette, copied ((ofFn data.indices).take SEC_VOL)⟩, ?_, ?_⟩
    · rw [if_pos ⟨fits, rfl⟩, readBytes_append size, Option.map_some]
    · intro li
      rw [flat_getBlock, flat_getBlock, byteAt_copied (by decide) (by decide) li.isLt]
  · have index : ∀ li : LocalIndex,
        readField ((ofFn data.indices).take SEC_VOL ++ rest) (li.val * 8) 8 =
          (byteAt data.indices li.val).toNat := by
      intro li
      have here : li.val < FLAT_BYTES := li.isLt.trans (by decide)
      rw [readField_byte, getD_append _ _ _ _ (by rw [size]; exact li.isLt),
        List.getD_eq_getElem?_getD, List.getElem?_take_of_lt li.isLt, List.getElem?_ofFn,
        dif_pos here, Option.getD_some, byteAt, dif_pos here]
    have total : (SEC_VOL * 8 + 7) / 8 = SEC_VOL := rfl
    have inside : ∀ li : LocalIndex,
        readField ((ofFn data.indices).take SEC_VOL ++ rest) (li.val * 8) 8 <
          data.palette.length := by
      intro li
      have small := (byteAt data.indices li.val).toNat_lt
      rw [index li]
      omega
    rw [if_neg fun small => fits small.1, if_neg (by decide), readOverflow]
    rw [total, if_neg (by rw [length_append, size]; omega), if_pos inside, drop_left' size]
    refine ⟨_, rfl, ?_⟩
    intro li
    rw [flat_getBlock, ← index li]
    rfl

theorem paletteIndex_spec {palette : List UInt16} {id : UInt16} (mem : id ∈ palette) :
    paletteIndex palette id < palette.length ∧ palette.getD (paletteIndex palette id) 0 = id := by
  rw [paletteIndex, if_pos mem]
  have inside := idxOf_lt_length_of_mem mem
  refine ⟨inside, ?_⟩
  rw [getD_eq_getElem _ _ inside, getElem_idxOf]

theorem getElem?_blockList (ids : LocalIndex → UInt16) (li : LocalIndex) :
    (blockList ids)[li.val]? = some (ids li) := by
  have inside : li.val < (finRange SEC_VOL).length := by
    rw [length_finRange]
    exact li.isLt
  rw [blockList_eq, getElem?_map, getElem?_eq_getElem inside, getElem_finRange, Option.map_some]
  rfl

theorem storedIndex_spec (ids : LocalIndex → UInt16) (li : LocalIndex) :
    (if ids li ≠ 0 then paletteIndex (overflowPalette ids) (ids li) else 0) <
        (overflowPalette ids).length ∧ (overflowPalette ids).getD
        (if ids li ≠ 0 then paletteIndex (overflowPalette ids) (ids li) else 0) 0 = ids li := by
  obtain ⟨⟨more, first⟩, listed, _⟩ := overflowPalette_spec ids
  by_cases air : ids li = 0
  · rw [if_neg (not_not.mpr air), ← first, air]
    exact ⟨Nat.zero_lt_succ _, rfl⟩
  · rw [if_pos air]
    exact paletteIndex_spec (listed li)

theorem overflow_encodes {ids : LocalIndex → UInt16} (many : 256 < (overflowPalette ids).length) :
    Encodes (.overflow ids) (overflowPalette ids)
      (UInt8.ofNat ((overflowPalette ids).length - 1).size)
      (packFields ((overflowPalette ids).length - 1).size ((blockList ids).map fun id =>
        if id ≠ 0 then paletteIndex (overflowPalette ids) id else 0)) := by
  obtain ⟨_, listed, short⟩ := overflowPalette_spec ids
  have covers := Nat.lt_size_self ((overflowPalette ids).length - 1)
  have wide : 8 < ((overflowPalette ids).length - 1).size := by
    rw [Nat.lt_size]
    omega
  have narrow : ((overflowPalette ids).length - 1).size ≤ 13 := by
    rw [Nat.size_le]
    omega
  have nonempty : 1 < (overflowPalette ids).length := by omega
  have someBits : 0 < ((overflowPalette ids).length - 1).size := by omega
  have wire : encodeToWire (.overflow ids) = u16.write (UInt16.ofNat (overflowPalette ids).length) ++
      (overflowPalette ids).flatMap u16.write ++
      u8.write (UInt8.ofNat ((overflowPalette ids).length - 1).size) ++
      packFields ((overflowPalette ids).length - 1).size ((blockList ids).map fun id =>
        if id ≠ 0 then paletteIndex (overflowPalette ids) id else 0) := by
    rw [encodeToWire, if_pos nonempty, if_pos someBits]
  generalize ((overflowPalette ids).length - 1).size = bpi at *
  have width : (UInt8.ofNat bpi).toNat = bpi := by
    rw [UInt8.toNat_ofNat']
    exact Nat.mod_eq_of_lt (by omega)
  refine ⟨wire, ?_, short, ?_, ?_⟩
  · intro none
    rw [none] at many
    cases many
  · rintro ⟨alone, _⟩
    rw [alone] at many
    contradiction
  intro rest
  have size : (packFields bpi ((blockList ids).map fun id =>
      if id ≠ 0 then paletteIndex (overflowPalette ids) id else 0)).length =
        (SEC_VOL * bpi + 7) / 8 := by
    rw [packFields_length, length_map, blockList_eq, length_map, length_finRange]
  have index : ∀ li : LocalIndex,
      readField (packFields bpi ((blockList ids).map fun id =>
        if id ≠ 0 then paletteIndex (overflowPalette ids) id else 0) ++ rest) (li.val * bpi) bpi =
        if ids li ≠ 0 then paletteIndex (overflowPalette ids) (ids li) else 0 := by
    intro li
    have inside := (storedIndex_spec ids li).1
    apply readField_packFields
    · rw [getElem?_map, getElem?_blockList, Option.map_some]
    · omega
  rw [readBlocks, width, if_neg (by omega), if_neg (by omega), if_neg (by omega), readOverflow]
  dsimp only
  rw [if_neg (by rw [length_append, size]; omega), if_pos ?_, drop_left' size]
  · refine ⟨_, rfl, ?_⟩
    intro li
    have stored := (storedIndex_spec ids li).2
    rw [← index li] at stored
    exact stored
  · intro li
    rw [index li]
    exact (storedIndex_spec ids li).1

theorem exists_encodes {blocks : SectionBlocks} (encodable : blocks.Encodable)
    (notAir : blocks ≠ .air) : ∃ palette bpi body, Encodes blocks palette bpi body := by
  cases blocks with
  | air => exact absurd rfl notAir
  | bitpack4 data => exact ⟨_, _, _, bitpack4_encodes encodable.1 encodable.2⟩
  | flat data => exact ⟨_, _, _, flat_encodes encodable.1 encodable.2⟩
  | overflow ids => exact ⟨_, _, _, overflow_encodes encodable⟩

end SectionBlocks

namespace MutableSection

variable {state : MutableSection}

structure WellBuilt (state : MutableSection) : Prop where
  blocks : state.blocks.Encodable
  metadata : state.metadata.Valid
  multiblocks : state.multiblocks.Valid

theorem apply_wellBuilt (wellBuilt : state.WellBuilt) (op : SectionOp) :
    (state.apply op).WellBuilt := by
  cases op with
  | fromBlocks ids =>
    exact ⟨fromBlocks_encodable ids, empty_valid, empty_valid⟩
  | setBlock li id =>
    exact { wellBuilt with blocks := setBlock_encodable wellBuilt.blocks li id }
  | setMeta li value =>
    exact { wellBuilt with metadata := set_valid wellBuilt.metadata li value }
  | setMultiblock li mbId =>
    exact { wellBuilt with multiblocks := set_valid wellBuilt.multiblocks li mbId }

theorem build_wellBuilt (ops : List SectionOp) : (build ops).WellBuilt := by
  have kept : ∀ state : MutableSection, state.WellBuilt → (ops.foldl apply state).WellBuilt := by
    induction ops with
    | nil => exact fun _ wellBuilt => wellBuilt
    | cons op rest ih =>
      intro state wellBuilt
      exact ih _ (apply_wellBuilt wellBuilt op)
  exact kept empty ⟨trivial, empty_valid, empty_valid⟩

variable {palette : List UInt16} {body : List UInt8}

theorem fromWire_of_reads (wellBuilt : state.WellBuilt) {bpi : UInt8}
    (encodes : SectionBlocks.Encodes state.blocks palette bpi body)
    {blocks : SectionBlocks} {rest : Reader}
    (reads : readBlocks palette bpi.toNat (body ++ (state.metadata.writeToWire u8 ++
      (state.multiblocks.writeToWire u32 ++ rest))) = some (blocks,
        state.metadata.writeToWire u8 ++ (state.multiblocks.writeToWire u32 ++ rest))) :
    fromWire (state.encodeToWire ++ rest) = some (⟨blocks, fill state.metadata.written,
      fill state.multiblocks.written⟩, rest) := by
  have few := encodes.few
  have size : (UInt16.ofNat palette.length).toNat = palette.length := by
    rw [UInt16.toNat_ofNat']
    exact Nat.mod_eq_of_lt (by omega)
  have some : UInt16.ofNat palette.length ≠ 0 := by
    intro none
    rw [none] at size
    exact encodes.filled (length_eq_zero_iff.mp size.symm)
  rw [encodeToWire, encodes.wire]
  simp only [append_assoc]
  rw [fromWire, u16.read_write]
  dsimp only
  rw [if_neg some, size, readNumbers_append]
  dsimp only
  rw [u8.read_write]
  dsimp only
  rw [if_neg encodes.notAir, reads]
  dsimp only
  rw [readFromWire_write u8 wellBuilt.metadata]
  dsimp only
  rw [readFromWire_write u32 wellBuilt.multiblocks, Option.map_some]

theorem fromWire_encode (wellBuilt : state.WellBuilt) {bpi : UInt8}
    (encodes : SectionBlocks.Encodes state.blocks palette bpi body) (rest : Reader) :
    ∃ decoded, fromWire (state.encodeToWire ++ rest) = some (decoded, rest) ∧
      ∀ li, decoded.getBlock li = state.getBlock li ∧ decoded.getMeta li = state.getMeta li ∧
        decoded.getMultiblock li = state.getMultiblock li := by
  obtain ⟨blocks, reads, same⟩ := encodes.reads
    (state.metadata.writeToWire u8 ++ (state.multiblocks.writeToWire u32 ++ rest))
  refine ⟨_, fromWire_of_reads wellBuilt encodes reads, ?_⟩
  intro li
  exact ⟨same li, get_fill_written wellBuilt.metadata li, get_fill_written wellBuilt.multiblocks li⟩

theorem fromWire_encode_air (wellBuilt : state.WellBuilt) (air : state.blocks = .air)
    (rest : Reader) : fromWire (state.encodeToWire ++ rest) = some (empty, rest) := by
  have palette : u16.write 0 = [(0 : UInt16)].flatMap u16.write := rfl
  rw [encodeToWire, air, SectionBlocks.encodeToWire]
  simp only [append_assoc]
  rw [fromWire, u16.read_write]
  dsimp only
  rw [if_neg (by decide), palette]
  have one : (1 : UInt16).toNat = [(0 : UInt16)].length := rfl
  rw [one, readNumbers_append]
  dsimp only
  rw [u8.read_write]
  dsimp only
  rw [if_pos ⟨rfl, rfl⟩, skipOnWire_write u8 wellBuilt.metadata]
  dsimp only
  rw [skipOnWire_write u32 wellBuilt.multiblocks, Option.map_some]

theorem isAir_iff : state.isAir = true ↔ state.blocks = .air := by
  rw [isAir]
  cases state.blocks <;> simp

theorem section_roundTrips_iff (ops : List SectionOp) : (build ops).RoundTrips ↔
      ((build ops).isAir = true →
        ∀ li, (build ops).getMeta li = 0 ∧ (build ops).getMultiblock li = 0) := by
  have wellBuilt := build_wellBuilt ops
  generalize build ops = state at wellBuilt
  rw [isAir_iff, RoundTrips]
  by_cases air : state.blocks = .air
  · have wire := fromWire_encode_air wellBuilt air []
    rw [append_nil] at wire
    constructor
    · rintro ⟨decoded, reads, same⟩ _ li
      obtain rfl := (Prod.mk.inj (Option.some.inj (wire.symm.trans reads))).1
      obtain ⟨_, sameMeta, sameMultiblock⟩ := same li
      exact ⟨sameMeta.symm, sameMultiblock.symm⟩
    · intro bare
      refine ⟨empty, wire, ?_⟩
      intro li
      obtain ⟨noMeta, noMultiblock⟩ := bare air li
      refine ⟨?_, noMeta.symm, noMultiblock.symm⟩
      rw [getBlock, getBlock, air]
      rfl
  · refine iff_of_true ?_ fun isAir => absurd isAir air
    obtain ⟨palette, bpi, body, encodes⟩ := SectionBlocks.exists_encodes wellBuilt.blocks air
    obtain ⟨decoded, reads, same⟩ := fromWire_encode wellBuilt encodes []
    rw [append_nil] at reads
    exact ⟨decoded, reads, same⟩

def firstCell : LocalIndex := ⟨0, Nat.zero_lt_succ _⟩

theorem air_metadata_is_lost : ¬ (build [.setMeta firstCell 1]).RoundTrips := by
  rintro ⟨decoded, reads, same⟩
  have wire := fromWire_encode_air (build_wellBuilt [.setMeta firstCell 1]) rfl []
  rw [append_nil] at wire
  obtain rfl := (Prod.mk.inj (Option.some.inj (wire.symm.trans reads))).1
  have kept := (same firstCell).2.1
  revert kept
  decide

end MutableSection

open List

section Search

variable {α : Type} (before : α → Bool)

/-- `std::lower_bound` on the `count` elements from `first` on. -/
def lowerBound (elements : List α) (first count : Nat) : Nat :=
  if empty : count = 0 then first
  else
    let half := count / 2
    if (elements[first + half]?).any before then
      lowerBound elements (first + half + 1) (count - half - 1)
    else lowerBound elements first half
termination_by count
decreasing_by all_goals omega

theorem lowerBound_eq {early late : List α} (isEarly : ∀ element ∈ early, before element = true)
    (isLate : ∀ element ∈ late, before element = false) {first count : Nat}
    (lower : first ≤ early.length) (upper : early.length ≤ first + count)
    (inside : first + count ≤ (early ++ late).length) :
    lowerBound before (early ++ late) first count = early.length := by
  induction first, count using lowerBound.induct before (early ++ late) with
  | case1 first =>
    rw [lowerBound, dif_pos rfl]
    omega
  | case2 first count nonempty half found ih =>
    rw [lowerBound, dif_neg nonempty, if_pos found]
    refine ih ?_ (by omega) (by omega)
    by_contra late'
    rw [getElem?_append_right (by omega), Option.any_eq_true_iff_get] at found
    obtain ⟨some, here⟩ := found
    rw [isLate _ (mem_of_getElem? (Option.some_get some).symm)] at here
    cases here
  | case3 first count nonempty half missed ih =>
    rw [lowerBound, dif_neg nonempty, if_neg missed]
    refine ih lower ?_ (by omega)
    by_contra early'
    have small : first + half < early.length := by omega
    rw [getElem?_append_left small, getElem?_eq_getElem small] at missed
    exact missed (isEarly _ (getElem_mem small))

end Search

namespace SideTable

variable {ν : Type} {entries early late : List (LocalIndex × ν)} {li : LocalIndex}

def place (entries : List (LocalIndex × ν)) (li : LocalIndex) : Nat :=
  lowerBound (fun entry => decide (entry.1 < li)) entries 0 entries.length

/-- `it != end() && it->first == li` -/
def Listed (entries : List (LocalIndex × ν)) (li : LocalIndex) : Prop :=
  ∃ value, entries[place entries li]? = some (li, value)

theorem place_spec (sorted : entries.Pairwise fun first second => first.1 < second.1)
    (li : LocalIndex) :
    ∃ early late, entries = early ++ late ∧ place entries li = early.length ∧
      (∀ entry ∈ early, entry.1 < li) ∧ ∀ entry ∈ late, li ≤ entry.1 := by
  have parts : ∃ early late, entries = early ++ late ∧ (∀ entry ∈ early, entry.1 < li) ∧
      ∀ entry ∈ late, li ≤ entry.1 := by
    induction entries with
    | nil => exact ⟨[], [], rfl, nofun, nofun⟩
    | cons first rest ih =>
      obtain ⟨after, sorted⟩ := pairwise_cons.mp sorted
      by_cases before : first.1 < li
      · obtain ⟨early, late, rfl, small, large⟩ := ih sorted
        exact ⟨first :: early, late, rfl, forall_mem_cons.mpr ⟨before, small⟩, large⟩
      · have next := not_lt.mp before
        exact ⟨[], first :: rest, rfl, nofun,
          forall_mem_cons.mpr ⟨next, fun entry later => next.trans (after entry later).le⟩⟩
  obtain ⟨early, late, rfl, small, large⟩ := parts
  refine ⟨early, late, rfl, lowerBound_eq _ ?_ ?_ (Nat.zero_le _) ?_ ?_, small, large⟩
  · exact fun entry mem => decide_eq_true (small entry mem)
  · exact fun entry mem => decide_eq_false (not_lt.mpr (large entry mem))
  · rw [length_append]
    omega
  · exact (Nat.zero_add _).le

theorem lookupEntry_append [Zero ν] (small : ∀ entry ∈ early, entry.1 < li) :
    lookupEntry li (early ++ late) = lookupEntry li late := by
  induction early with
  | nil => rfl
  | cons first rest ih =>
    obtain ⟨before, small⟩ := forall_mem_cons.mp small
    exact (if_pos before).trans (ih small)

theorem insertEntry_append (value : ν) (small : ∀ entry ∈ early, entry.1 < li) :
    insertEntry li value (early ++ late) = early ++ insertEntry li value late := by
  induction early with
  | nil => rfl
  | cons first rest ih =>
    obtain ⟨before, small⟩ := forall_mem_cons.mp small
    exact (if_pos before).trans (congrArg (first :: ·) (ih small))

theorem eraseEntry_append (small : ∀ entry ∈ early, entry.1 < li) :
    eraseEntry li (early ++ late) = early ++ eraseEntry li late := by
  induction early with
  | nil => rfl
  | cons first rest ih =>
    obtain ⟨before, small⟩ := forall_mem_cons.mp small
    exact (if_pos before).trans (congrArg (first :: ·) (ih small))

/-- What the tables do one by one is what the source does where its search ends. -/
def BySearch [Zero ν] (entries : List (LocalIndex × ν)) : Prop := ∀ li value,
    (∀ old, entries[place entries li]? = some (li, old) → lookupEntry li entries = old ∧
        insertEntry li value entries = entries.set (place entries li) (li, value) ∧
        eraseEntry li entries = entries.eraseIdx (place entries li)) ∧
      (¬ Listed entries li → lookupEntry li entries = 0 ∧
          insertEntry li value entries = entries.insertIdx (place entries li) (li, value) ∧
          eraseEntry li entries = entries)

theorem bySearch_of_sorted [Zero ν]
    (sorted : entries.Pairwise fun first second => first.1 < second.1) : BySearch entries := by
  intro li value
  obtain ⟨early, late, rfl, here, small, large⟩ := place_spec sorted li
  rw [Listed, here, lookupEntry_append small, insertEntry_append value small,
    eraseEntry_append small, getElem?_append_right le_rfl, Nat.sub_self, set_append_right _ _ le_rfl,
    eraseIdx_append_of_length_le le_rfl, Nat.sub_self]
  have inserted : (early ++ late).insertIdx early.length (li, value) = early ++ (li, value) :: late := by
    clear sorted here small
    induction early with
    | nil => exact insertIdx_zero
    | cons first rest ih => exact insertIdx_succ_cons.trans (congrArg (first :: ·) ih)
  rw [inserted]
  cases late with
  | nil => exact ⟨nofun, fun _ => ⟨rfl, rfl, rfl⟩⟩
  | cons first rest =>
    obtain ⟨cell, known⟩ := first
    have next : ¬ cell < li := not_lt.mpr (large _ mem_cons_self)
    rw [getElem?_cons_zero, lookupEntry, insertEntry, eraseEntry, if_neg next, if_neg next,
      if_neg next]
    refine ⟨?_, ?_⟩
    · rintro old ⟨⟩
      rw [if_pos rfl, if_pos rfl, if_pos rfl]
      exact ⟨rfl, rfl, rfl⟩
    intro unlisted
    have apart : cell ≠ li := by
      rintro rfl
      exact unlisted ⟨known, rfl⟩
    rw [if_neg apart, if_neg apart, if_neg apart]
    exact ⟨rfl, rfl, rfl⟩

end SideTable

namespace MutableSection

/-- The metadata that a change gives a cell; `fromBlocks` clears it. -/
def writtenMeta (li : LocalIndex) : SectionOp → Option UInt8
  | .setMeta cell value => if cell = li then some value else none
  | .fromBlocks _ => some 0
  | _ => none

def writtenMultiblock (li : LocalIndex) : SectionOp → Option UInt32
  | .setMultiblock cell mbId => if cell = li then some mbId else none
  | .fromBlocks _ => some 0
  | _ => none

/-- The last of the values that some changes write, 0 before there is one. -/
def lastWritten {ν : Type} [Zero ν] (written : SectionOp → Option ν) (ops : List SectionOp) : ν :=
  (ops.reverse.findSome? written).getD 0

theorem side_tables_are_maps (ops : List SectionOp) :
    (∀ li, (build ops).getMeta li = lastWritten (writtenMeta li) ops ∧
      (build ops).getMultiblock li = lastWritten (writtenMultiblock li) ops) ∧
      ((build ops).metadata.Valid ∧ SideTable.BySearch (build ops).metadata.entries) ∧
      (build ops).multiblocks.Valid ∧ SideTable.BySearch (build ops).multiblocks.entries := by
  have valid := build_wellBuilt ops
  refine ⟨?_, ⟨valid.metadata, SideTable.bySearch_of_sorted valid.metadata.sorted⟩,
    valid.multiblocks, SideTable.bySearch_of_sorted valid.multiblocks.sorted⟩
  intro li
  clear valid
  induction ops using reverseRecOn with
  | nil => exact ⟨rfl, rfl⟩
  | append_singleton ops op ih =>
    have valid := build_wellBuilt ops
    have later {ν : Type} [Zero ν] (written : SectionOp → Option ν) :
        lastWritten written (ops ++ [op]) = (written op).getD (lastWritten written ops) := by
      rw [lastWritten, reverse_concat, findSome?_cons]
      cases written op <;> rfl
    have step : build (ops ++ [op]) = (build ops).apply op := foldl_concat ..
    rw [step, later, later, ← ih.1, ← ih.2]
    cases op with
    | fromBlocks ids => exact ⟨rfl, rfl⟩
    | setBlock cell id => exact ⟨rfl, rfl⟩
    | setMeta cell value =>
      refine ⟨(SideTable.get_set valid.metadata cell value li).trans ?_, rfl⟩
      rw [writtenMeta, apply_ite (Option.getD · _)]
      exact if_congr eq_comm rfl rfl
    | setMultiblock cell mbId =>
      refine ⟨rfl, (SideTable.get_set valid.multiblocks cell mbId li).trans ?_⟩
      rw [writtenMultiblock, apply_ite (Option.getD · _)]
      exact if_congr eq_comm rfl rfl

end MutableSection

end GtnhPlatform.ChunkStore
