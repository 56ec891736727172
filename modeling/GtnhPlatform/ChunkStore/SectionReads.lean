import GtnhPlatform.ChunkStore.SectionExact

namespace GtnhPlatform.ChunkStore

open List SectionBlocks
open FlatData (Packs entry byteAt)

/-! What `fromWire` leaves of a section, also where it fails, and which of the
cells can be read then. -/

/-- Both bytes that `getBlock` reads and the entry of the palette are there. -/
def FlatData.ReadsInside {bytes : Nat} (flat : FlatData bytes) (bpi : Nat) (li : LocalIndex) :
    Prop :=
  li.val * bpi / 8 + 1 < bytes ∧ flat.index bpi li < flat.palette.length

theorem FlatData.Indexed.readsInside {bytes bpi : Nat} {flat : FlatData bytes}
    (indexed : flat.Indexed bpi) (packs : Packs bytes bpi) (li : LocalIndex) :
    flat.ReadsInside bpi li := by
  have small : li.val < 4096 := li.isLt
  have room : 4096 * bpi / 8 < bytes := packs.room
  refine ⟨?_, packs.index_eq_entry flat li ▸ indexed.inside li⟩
  rcases packs.bits with rfl | rfl <;> omega

/-- The arrays of a section. A cell of the overflow array has no value before one is
written to it; the index arrays start as zeros. -/
inductive SectionArrays where
  | air
  | bitpack4 (flat : FlatData PACKED_BYTES)
  | flat (flat : FlatData FLAT_BYTES)
  | overflow (blocks : LocalIndex → Option UInt16)

def wireIndex (data : Reader) (bits : Nat) (li : LocalIndex) : Nat :=
  BitStream.readField data (li.val * bits) bits

/-- Indices in a packed mode are of the palette unless they are cut short; in another
one they are neither. -/
def IndicesFit (palette : List UInt16) (bits : Nat) (data : Reader) : Prop :=
  let complete := (SEC_VOL * bits + 7) / 8 ≤ data.length
  let indexed := ∀ li, wireIndex data bits li < palette.length
  if palette.length ≤ 16 ∧ bits = 4 ∨ palette.length ≤ 256 ∧ bits = 8 then complete → indexed
  else bits = 0 ∨ complete ∧ indexed

namespace SectionArrays

def ReadsInside : SectionArrays → LocalIndex → Prop
  | .air, _ => True
  | .bitpack4 data, li => data.ReadsInside 4 li
  | .flat data, li => data.ReadsInside 8 li
  | .overflow ids, li => (ids li).isSome

def ofBlocks : SectionBlocks → SectionArrays
  | .air => .air
  | .bitpack4 data => .bitpack4 data
  | .flat data => .flat data
  | .overflow ids => .overflow fun li => some (ids li)

/-- Indices that are cut short are not copied. -/
def packed (bytes count : Nat) (palette : List UInt16) (data : Reader) : FlatData bytes :=
  ⟨palette, copied (if data.length < count then [] else data.take count)⟩

/-- The cells before the first index beyond the palette are written. A width of more
than 32 bits shifts a bit beyond 32, which is undefined, only to an index beyond it. -/
def overflowed (palette : List UInt16) (bits : Nat) (data : Reader) (li : LocalIndex) :
    Option UInt16 :=
  if data.length < (SEC_VOL * bits + 7) / 8 then none
  else if ∀ earlier ≤ li, wireIndex data bits earlier < palette.length then
    palette[wireIndex data bits li]?
  else none

def leftBy (palette : List UInt16) (bits : Nat) (data : Reader) : SectionArrays :=
  if palette.length ≤ 16 ∧ bits = 4 then .bitpack4 (packed _ ((SEC_VOL * 4 + 7) / 8) palette data)
  else if palette.length ≤ 256 ∧ bits = 8 then .flat (packed _ SEC_VOL palette data)
  else if bits = 0 then .bitpack4 ⟨palette, fun _ => 0⟩
  else .overflow (overflowed palette bits data)

variable {bytes bits : Nat} {palette : List UInt16} {data : Reader}

theorem entry_copied (packs : Packs bytes bits) (complete : SEC_VOL * bits / 8 ≤ data.length)
    (li : LocalIndex) : entry (copied (data.take (SEC_VOL * bits / 8)) : Fin bytes → UInt8) bits li =
      wireIndex data bits li := by
  have here := packs.inside li
  have aligned := packs.aligned li
  have before : li.val * bits / 8 < SEC_VOL * bits / 8 := by
    have small : li.val < 4096 := li.isLt
    change li.val * bits / 8 < 4096 * bits / 8
    rcases packs.bits with rfl | rfl <;> omega
  apply Nat.eq_of_testBit_eq
  intro index
  rw [wireIndex, BitStream.testBit_readField, entry, Nat.testBit_mod_two_pow, Nat.testBit_shiftRight,
    byteAt, dif_pos here, copied, getD_eq_getElem?_getD, getElem?_take_of_lt before,
    ← getD_eq_getElem?_getD]
  by_cases inside : index < bits
  · rw [if_pos inside, decide_eq_true inside, Bool.true_and, BitStream.bitAt]
    have byte : (li.val * bits + index) / 8 = li.val * bits / 8 := by omega
    have bit : (li.val * bits + index) % 8 = li.val * bits % 8 + index := by omega
    rw [byte, bit]
  · rw [if_neg inside, decide_eq_false inside, Bool.false_and]

theorem packed_inside (packs : Packs bytes bits) (some : 0 < palette.length) :
    (∀ li, (packed bytes (SEC_VOL * bits / 8) palette data).ReadsInside bits li) ↔
      (SEC_VOL * bits / 8 ≤ data.length → ∀ li, wireIndex data bits li < palette.length) := by
  have room : ∀ li : LocalIndex, li.val * bits / 8 + 1 < bytes := by
    intro li
    have small : li.val < 4096 := li.isLt
    have room : 4096 * bits / 8 < bytes := packs.room
    rcases packs.bits with rfl | rfl <;> omega
  simp only [FlatData.ReadsInside, packs.index_eq_entry, room, true_and]
  unfold packed
  by_cases complete : SEC_VOL * bits / 8 ≤ data.length
  · simp only [if_neg (not_lt.mpr complete), entry_copied packs complete]
    exact ⟨fun inside _ => inside, fun indexed => indexed complete⟩
  · refine iff_of_true (fun li => ?_) fun whole => absurd whole complete
    have zero : entry (copied [] : Fin bytes → UInt8) bits li = 0 := by
      simp [entry, byteAt, copied]
    rwa [if_pos (not_le.mp complete), zero]

theorem overflowed_inside : (∀ li, (overflowed palette bits data li).isSome) ↔
    (SEC_VOL * bits + 7) / 8 ≤ data.length ∧ ∀ li, wireIndex data bits li < palette.length := by
  unfold overflowed
  by_cases short : data.length < (SEC_VOL * bits + 7) / 8
  · refine iff_of_false (fun inside => ?_) fun all => absurd all.1 (not_le.mpr short)
    have here := inside ⟨0, by decide⟩
    rw [if_pos short] at here
    cases here
  rw [and_iff_right (not_lt.mp short)]
  simp only [if_neg short]
  constructor
  · intro inside li
    by_contra beyond
    have here := inside li
    rw [if_neg fun all => beyond (all li le_rfl)] at here
    cases here
  · intro indexed li
    rw [if_pos fun earlier _ => indexed earlier, getElem?_eq_getElem (indexed li)]
    rfl

theorem leftBy_inside (some : 0 < palette.length) :
    (∀ li, (leftBy palette bits data).ReadsInside li) ↔ IndicesFit palette bits data := by
  unfold leftBy IndicesFit
  by_cases four : palette.length ≤ 16 ∧ bits = 4
  · rw [if_pos four, if_pos (Or.inl four)]
    obtain ⟨-, rfl⟩ := four
    exact packed_inside FlatData.packs_bitpack4 some
  by_cases eight : palette.length ≤ 256 ∧ bits = 8
  · rw [if_neg four, if_pos eight, if_pos (Or.inr eight)]
    obtain ⟨-, rfl⟩ := eight
    exact packed_inside FlatData.packs_flat some
  rw [if_neg four, if_neg eight, if_neg (not_or_intro four eight)]
  by_cases zero : bits = 0
  · rw [if_pos zero]
    have zeros : ∀ li, (packed PACKED_BYTES (SEC_VOL * 4 / 8) palette []).ReadsInside 4 li :=
      (packed_inside FlatData.packs_bitpack4 some).mpr fun whole => absurd whole (by decide)
    exact iff_of_true zeros (Or.inl zero)
  · rw [if_neg zero, or_iff_right zero]
    exact overflowed_inside

theorem packed_of_read {count : Nat} {taken rest : List UInt8}
    (reads : readBytes count data = some (taken, rest)) :
    packed bytes count palette data = ⟨palette, copied taken⟩ := by
  rw [readBytes] at reads
  split at reads
  · cases reads
  · next complete =>
    cases reads
    rw [packed, if_neg complete]

theorem leftBy_of_reads {blocks : SectionBlocks} {rest : Reader}
    (reads : readBlocks palette bits data = some (blocks, rest)) :
    leftBy palette bits data = .ofBlocks blocks := by
  unfold readBlocks at reads
  unfold leftBy
  split at reads
  · next four =>
    obtain ⟨_, found, ⟨⟩⟩ := Option.map_eq_some_iff.mp reads
    rw [if_pos four, packed_of_read found]
    rfl
  next four =>
  rw [if_neg four]
  split at reads
  · next eight =>
    obtain ⟨_, found, ⟨⟩⟩ := Option.map_eq_some_iff.mp reads
    rw [if_pos eight, packed_of_read found]
    rfl
  next eight =>
  rw [if_neg eight]
  split at reads
  · next zero =>
    cases reads
    exact if_pos zero
  next some =>
  rw [if_neg some]
  rw [readOverflow] at reads
  split at reads
  · cases reads
  next complete =>
  split at reads
  · next indexed =>
    cases reads
    refine congrArg SectionArrays.overflow (funext fun li => ?_)
    have indexed : ∀ li, wireIndex data bits li < palette.length := indexed
    rw [overflowed, if_neg complete, if_pos fun earlier _ => indexed earlier,
      getElem?_eq_getElem (indexed li)]
    exact congrArg Option.some (getElem_eq_getD 0)
  · cases reads

end SectionArrays

namespace MutableSection

open SectionArrays

def header (r : Reader) : Option (List UInt16 × UInt8 × Reader) :=
  match u16.read r with
  | none => none
  | some (psz, r) =>
    if psz = 0 then none
    else
      match readNumbers u16 psz.toNat r with
      | none => none
      | some (palette, r) => (u8.read r).map fun (bpi, r) => (palette, bpi, r)

def leftFrom (r : Reader) : SectionArrays :=
  match header r with
  | none => .air
  | some (palette, bpi, r) => if palette = [0] ∧ bpi = 0 then .air else .leftBy palette bpi.toNat r

/-- Every cell can be read; what is accepted has the blocks that are left, and side
tables that can be searched. -/
structure Safe (r : Reader) : Prop where
  inside : ∀ li, (leftFrom r).ReadsInside li
  accepted : ∀ decoded rest, fromWire r = some (decoded, rest) →
    leftFrom r = .ofBlocks decoded.blocks ∧ decoded.metadata.Valid ∧ decoded.multiblocks.Valid

theorem readNumbers_length {ν : Type} {number : WireNumber ν} {count : Nat} {r rest : Reader}
    {values : List ν} (reads : readNumbers number count r = some (values, rest)) :
    values.length = count := by
  induction count generalizing r values with
  | zero =>
    cases reads
    rfl
  | succ count ih =>
    rw [readNumbers] at reads
    split at reads
    · cases reads
    obtain ⟨⟨later, _⟩, found, ⟨⟩⟩ := Option.map_eq_some_iff.mp reads
    rw [length_cons, ih found]

theorem header_some {r data : Reader} {palette : List UInt16} {bpi : UInt8}
    (found : header r = some (palette, bpi, data)) : 0 < palette.length := by
  unfold header at found
  split at found
  · cases found
  split at found
  · cases found
  next psz _ _ some =>
  split at found
  · cases found
  next reads =>
  obtain ⟨_, _, ⟨⟩⟩ := Option.map_eq_some_iff.mp found
  rw [readNumbers_length reads]
  exact Nat.pos_of_ne_zero fun zero => some (UInt16.toNat_inj.mp zero)

theorem fill_valid {ν : Type} [DecidableEq ν] [Zero ν] (entries : List (LocalIndex × ν)) :
    (SideTable.fill entries).Valid :=
  foldlRecOn entries _ SideTable.empty_valid fun _ valid _ _ => SideTable.set_valid valid _ _

theorem fromWire_left {r rest : Reader} {decoded : MutableSection}
    (accepts : fromWire r = some (decoded, rest)) :
    leftFrom r = .ofBlocks decoded.blocks ∧ decoded.metadata.Valid ∧ decoded.multiblocks.Valid := by
  revert accepts
  unfold fromWire leftFrom header
  cases u16.read r with
  | none => exact nofun
  | some found =>
  obtain ⟨psz, r⟩ := found
  dsimp only
  by_cases zero : psz = 0
  · rw [if_pos zero]
    exact nofun
  rw [if_neg zero, if_neg zero]
  cases readNumbers u16 psz.toNat r with
  | none => exact nofun
  | some found =>
  obtain ⟨palette, r⟩ := found
  dsimp only
  cases u8.read r with
  | none => exact nofun
  | some found =>
  obtain ⟨bpi, r⟩ := found
  rw [Option.map_some]
  dsimp only
  by_cases air : palette = [0] ∧ bpi = 0
  · rw [if_pos air, if_pos air]
    intro accepts
    split at accepts
    · cases accepts
    obtain ⟨_, _, ⟨⟩⟩ := Option.map_eq_some_iff.mp accepts
    exact ⟨rfl, SideTable.empty_valid, SideTable.empty_valid⟩
  rw [if_neg air, if_neg air]
  intro accepts
  split at accepts
  · cases accepts
  next reads =>
  split at accepts
  · cases accepts
  obtain ⟨_, _, ⟨⟩⟩ := Option.map_eq_some_iff.mp accepts
  exact ⟨leftBy_of_reads reads, fill_valid _, fill_valid _⟩

theorem leftFrom_inside {r : Reader} : (∀ li, (leftFrom r).ReadsInside li) ↔ ∀ palette bpi data,
    header r = some (palette, bpi, data) → IndicesFit palette bpi.toNat data := by
  unfold leftFrom
  cases found : header r with
  | none => exact iff_of_true (fun _ => trivial) nofun
  | some result =>
    obtain ⟨palette, bpi, data⟩ := result
    have fit : (∀ li, (if palette = [0] ∧ bpi = 0 then .air
        else leftBy palette bpi.toNat data : SectionArrays).ReadsInside li) ↔
          IndicesFit palette bpi.toNat data := by
      split
      · next air =>
        obtain ⟨rfl, rfl⟩ := air
        exact iff_of_true (fun _ => trivial) (Or.inl rfl)
      · exact leftBy_inside (header_some found)
    refine fit.trans ⟨?_, fun fits => fits _ _ _ rfl⟩
    rintro fits _ _ _ ⟨⟩
    exact fits

theorem safe_iff (r : Reader) : Safe r ↔ ∀ palette bpi data,
    header r = some (palette, bpi, data) → IndicesFit palette bpi.toNat data :=
  ⟨fun safe => leftFrom_inside.mp safe.inside, fun fits =>
    ⟨leftFrom_inside.mpr fits, fun _ _ => fromWire_left⟩⟩

/-- A palette of one block, and 4096 indices of 15. -/
theorem index_beyond_palette : ¬∀ r, Safe r := by
  intro all
  have fits (rest : Reader) : IndicesFit [5] 4 rest :=
    leftFrom_inside.mp (all (u16.write 1 ++ u16.write 5 ++ u8.write 4 ++ rest)).inside _ _ _ rfl
  have packed := fits (replicate 2048 255 ++ u16.write 0 ++ u16.write 0)
  rw [IndicesFit, if_pos (Or.inl ⟨by decide, rfl⟩), append_assoc] at packed
  have indexed := packed (by
    rw [length_append, length_replicate]
    exact Nat.le_add_right _ _) ⟨0, by decide⟩
  have beyond (rest : Reader) : ¬BitStream.readField (255 :: rest) 0 4 < 1 := by
    simp [BitStream.readField, BitStream.bitAt]
  rw [wireIndex, replicate_succ] at indexed
  exact beyond _ indexed

/-- Whatever follows it, what a sound section encodes to can be read back safely. -/
theorem encoded_safe (state : MutableSection) (sound : state.Sound) (rest : Reader) :
    Safe (state.encodeToWire ++ rest) := by
  obtain ⟨decoded, reads, decodedSound, -⟩ := sound.exists_decoded rest
  refine ⟨fun li => ?_, fun _ _ => fromWire_left⟩
  rw [(fromWire_left reads).1]
  have blocksSound := decodedSound.blocks
  cases kind : decoded.blocks with
  | air => trivial
  | bitpack4 data =>
    rw [kind] at blocksSound
    exact FlatData.Indexed.readsInside blocksSound FlatData.packs_bitpack4 li
  | flat data =>
    rw [kind] at blocksSound
    exact FlatData.Indexed.readsInside blocksSound FlatData.packs_flat li
  | overflow ids => rfl

theorem encoded_safe_empty : Safe (empty.encodeToWire ++ [7]) := encoded_safe _ empty_sound _

end MutableSection

end GtnhPlatform.ChunkStore
