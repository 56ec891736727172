import GtnhPlatform.ChunkStore.SectionWrite

namespace GtnhPlatform.ChunkStore

open List

def SEC_CNT : Nat := 8
def MAGIC : UInt32 := 0x4B484347

structure LocalPos where
  x : Fin 32
  y : Fin 32
  z : Fin 32
deriving DecidableEq

namespace LocalPos

/-- `((y >> 4) << 2) | ((z >> 4) << 1) | (x >> 4)` -/
def sec (pos : LocalPos) : Fin SEC_CNT :=
  ⟨pos.y.val / 16 * 4 + pos.z.val / 16 * 2 + pos.x.val / 16, by
    unfold SEC_CNT
    omega⟩

/-- `((y & 0xF) << 8) | ((z & 0xF) << 4) | (x & 0xF)` -/
def li (pos : LocalPos) : LocalIndex :=
  ⟨pos.y.val % 16 * 256 + pos.z.val % 16 * 16 + pos.x.val % 16, by
    unfold SEC_VOL
    omega⟩

/-- `(y << 10) | (z << 5) | x` -/
def chunkIndex (pos : LocalPos) : Fin (SEC_VOL * SEC_CNT) :=
  ⟨pos.y.val * 1024 + pos.z.val * 32 + pos.x.val, by
    unfold SEC_VOL SEC_CNT
    omega⟩

def ofCell (s : Fin SEC_CNT) (li : LocalIndex) : LocalPos where
  x := ⟨s.val % 2 * 16 + li.val % 16, by omega⟩
  y := ⟨s.val / 4 % 2 * 16 + li.val / 256 % 16, by omega⟩
  z := ⟨s.val / 2 % 2 * 16 + li.val / 16 % 16, by omega⟩

theorem digits (x y z : Fin 32) : (y.val / 16 * 4 + z.val / 16 * 2 + x.val / 16) % 2 = x.val / 16 ∧
    (y.val / 16 * 4 + z.val / 16 * 2 + x.val / 16) / 2 % 2 = z.val / 16 ∧
    (y.val / 16 * 4 + z.val / 16 * 2 + x.val / 16) / 4 % 2 = y.val / 16 := by
  have high : ∀ part : Fin 32, part.val / 16 < 2 := fun part => by omega
  have xHigh := high x
  have yHigh := high y
  have zHigh := high z
  generalize x.val / 16 = a at *
  generalize y.val / 16 = b at *
  generalize z.val / 16 = c at *
  refine ⟨by omega, by omega, by omega⟩

theorem lowDigits (x y z : Fin 32) :
    (y.val % 16 * 256 + z.val % 16 * 16 + x.val % 16) % 16 = x.val % 16 ∧
    (y.val % 16 * 256 + z.val % 16 * 16 + x.val % 16) / 16 % 16 = z.val % 16 ∧
    (y.val % 16 * 256 + z.val % 16 * 16 + x.val % 16) / 256 % 16 = y.val % 16 := by
  have low : ∀ part : Fin 32, part.val % 16 < 16 := fun part => by omega
  have xLow := low x
  have yLow := low y
  have zLow := low z
  generalize x.val % 16 = a at *
  generalize y.val % 16 = b at *
  generalize z.val % 16 = c at *
  refine ⟨by omega, by omega, by omega⟩

theorem ofCell_sec_li (pos : LocalPos) : ofCell pos.sec pos.li = pos := by
  obtain ⟨x, y, z⟩ := pos
  obtain ⟨xHigh, zHigh, yHigh⟩ := digits x y z
  obtain ⟨xLow, zLow, yLow⟩ := lowDigits x y z
  simp only [ofCell, sec, li, mk.injEq, Fin.ext_iff, xHigh, zHigh, yHigh, xLow, zLow, yLow]
  refine ⟨?_, ?_, ?_⟩ <;> omega

theorem eq_of_sec_li {pos other : LocalPos} (sameSection : pos.sec = other.sec)
    (sameCell : pos.li = other.li) : pos = other := by
  rw [← ofCell_sec_li pos, sameSection, sameCell, ofCell_sec_li]

end LocalPos

abbrev Content := LocalPos → UInt16 × UInt8

namespace Content

def air : Content := fun _ => (0, 0)

def ofBlocks (blocks : Fin (SEC_VOL * SEC_CNT) → UInt16) : Content :=
  fun pos => (blocks pos.chunkIndex, 0)

end Content

structure MutableChunk where
  sections : Fin SEC_CNT → MutableSection

namespace MutableChunk

def empty : MutableChunk := ⟨fun _ => MutableSection.empty⟩

def getBlock (chunk : MutableChunk) (pos : LocalPos) : UInt16 :=
  (chunk.sections pos.sec).getBlock pos.li

def getMeta (chunk : MutableChunk) (pos : LocalPos) : UInt8 :=
  (chunk.sections pos.sec).getMeta pos.li

def getMultiblock (chunk : MutableChunk) (pos : LocalPos) : UInt32 :=
  (chunk.sections pos.sec).getMultiblock pos.li

def content (chunk : MutableChunk) : Content := fun pos => (chunk.getBlock pos, chunk.getMeta pos)

def apply (chunk : MutableChunk) (s : Fin SEC_CNT) (op : MutableSection.SectionOp) :
    MutableChunk :=
  ⟨Function.update chunk.sections s ((chunk.sections s).apply op)⟩

def setBlock (chunk : MutableChunk) (pos : LocalPos) (id : UInt16) : MutableChunk :=
  chunk.apply pos.sec (.setBlock pos.li id)

def setMeta (chunk : MutableChunk) (pos : LocalPos) (value : UInt8) : MutableChunk :=
  chunk.apply pos.sec (.setMeta pos.li value)

def setMultiblock (chunk : MutableChunk) (pos : LocalPos) (mbId : UInt32) : MutableChunk :=
  chunk.apply pos.sec (.setMultiblock pos.li mbId)

def fromBlocks (blocks : Fin (SEC_VOL * SEC_CNT) → UInt16) : MutableChunk :=
  ⟨fun s => MutableSection.empty.apply
    (.fromBlocks fun li => blocks (LocalPos.ofCell s li).chunkIndex)⟩

def encodeToWire (chunk : MutableChunk) : List UInt8 :=
  u32.write MAGIC ++ u8.write 2 ++ u8.write (UInt8.ofNat SEC_CNT) ++
    (finRange SEC_CNT).flatMap fun s => (chunk.sections s).encodeToWire

def readSections : Nat → Reader → Option (List MutableSection × Reader)
  | 0, r => some ([], r)
  | n + 1, r =>
    match MutableSection.fromWire r with
    | none => none
    | some (first, r) => (readSections n r).map fun result => (first :: result.1, result.2)

/-- What follows the last section is not looked at. -/
def fromWire (data : List UInt8) : Option MutableChunk :=
  match u32.read data with
  | none => none
  | some (magic, r) =>
    if magic ≠ MAGIC then none
    else
      match u8.read r with
      | none => none
      | some (version, r) =>
        if version < 2 then none
        else
          match u8.read r with
          | none => none
          | some (count, r) =>
            if count.toNat ≠ SEC_CNT then none
            else
              (readSections SEC_CNT r).map fun result =>
                ⟨fun s => result.1.getD s.val MutableSection.empty⟩

variable {chunk : MutableChunk}

def Sound (chunk : MutableChunk) : Prop := ∀ s, (chunk.sections s).Sound

/-- No section that is all air has metadata. -/
def Storable (chunk : MutableChunk) : Prop := ∀ s, (chunk.sections s).Storable

/-- The block can be written: the section has an index left for its id. -/
def Takes (chunk : MutableChunk) (pos : LocalPos) (id : UInt16) : Prop :=
  ¬ (chunk.sections pos.sec).blocks.Overfills id

theorem empty_sound : empty.Sound := fun _ => MutableSection.empty_sound

variable (blocks : Fin (SEC_VOL * SEC_CNT) → UInt16)

include blocks

theorem fromBlocks_sound :
    (fromBlocks blocks).Sound := fun _ =>
  ⟨(SectionBlocks.fromBlocks_spec _).1, SideTable.empty_valid, SideTable.empty_valid⟩

theorem fromBlocks_storable :
    (fromBlocks blocks).Storable := fun _ _ _ => rfl

theorem content_fromBlocks : (fromBlocks blocks).content = Content.ofBlocks blocks := by
  funext pos
  have block : (fromBlocks blocks).getBlock pos = blocks pos.chunkIndex := by
    have same := (SectionBlocks.fromBlocks_spec
      fun li => blocks (LocalPos.ofCell pos.sec li).chunkIndex).2 pos.li
    rw [LocalPos.ofCell_sec_li] at same
    exact same
  exact Prod.ext block rfl

omit blocks

variable {op : MutableSection.SectionOp} {pos : LocalPos}

theorem read_apply {α : Type} (read : MutableSection → LocalIndex → α) {value : α}
    (writes : ∀ li, read ((chunk.sections pos.sec).apply op) li =
      if li = pos.li then value else read (chunk.sections pos.sec) li) (other : LocalPos) :
    read ((chunk.apply pos.sec op).sections other.sec) other.li =
      if other = pos then value else read (chunk.sections other.sec) other.li := by
  rw [apply]
  dsimp only
  by_cases sameSection : other.sec = pos.sec
  · rw [sameSection, Function.update_self, writes]
    by_cases same : other = pos
    · rw [if_pos same, if_pos (by rw [same])]
    · have apart : other.li ≠ pos.li := fun sameCell =>
        same (LocalPos.eq_of_sec_li sameSection sameCell)
      rw [if_neg same, if_neg apart]
  · have apart : other ≠ pos := by
      rintro rfl
      exact sameSection rfl
    rw [Function.update_of_ne sameSection, if_neg apart]

variable {s : Fin SEC_CNT}

theorem read_apply_of_kept {α : Type} (read : MutableSection → LocalIndex → α)
    (kept : ∀ li, read ((chunk.sections s).apply op) li = read (chunk.sections s) li)
    (other : LocalPos) : read ((chunk.apply s op).sections other.sec) other.li =
      read (chunk.sections other.sec) other.li := by
  rw [apply]
  dsimp only
  by_cases sameSection : other.sec = s
  · rw [sameSection, Function.update_self, kept]
  · rw [Function.update_of_ne sameSection]

theorem apply_sound (sound : chunk.Sound) (after : ((chunk.sections s).apply op).Sound) :
    (chunk.apply s op).Sound := by
  intro other
  rw [apply]
  dsimp only
  by_cases same : other = s
  · rw [same, Function.update_self]
    exact after
  · rw [Function.update_of_ne same]
    exact sound other

def put (chunk : MutableChunk) (pos : LocalPos) (id : UInt16) (value : UInt8) : MutableChunk :=
  (chunk.setBlock pos id).setMeta pos value

theorem put_spec (sound : chunk.Sound) {id : UInt16} (takes : chunk.Takes pos id) (value : UInt8) :
    (chunk.put pos id value).Sound ∧
      (chunk.put pos id value).content = Function.update chunk.content pos (id, value) := by
  have written := SectionBlocks.setBlock_written (sound pos.sec).blocks pos.li takes
  have writes : ∀ li, ((chunk.sections pos.sec).apply (.setBlock pos.li id)).getBlock li =
      if li = pos.li then id else (chunk.sections pos.sec).getBlock li := written.blocks
  have placed : (chunk.setBlock pos id).Sound :=
    apply_sound sound { sound pos.sec with blocks := written.sound }
  have metadata := (placed pos.sec).metadata
  have marks : ∀ li,
      (((chunk.setBlock pos id).sections pos.sec).apply (.setMeta pos.li value)).getMeta li =
        if li = pos.li then value else ((chunk.setBlock pos id).sections pos.sec).getMeta li :=
    SideTable.get_set metadata pos.li value
  have marked : (chunk.put pos id value).Sound :=
    apply_sound placed { placed pos.sec with metadata := SideTable.set_valid metadata pos.li value }
  refine ⟨marked, ?_⟩
  funext other
  have block : (chunk.put pos id value).getBlock other =
      if other = pos then id else chunk.getBlock other :=
    (read_apply_of_kept MutableSection.getBlock (fun _ => rfl) other).trans
      (read_apply MutableSection.getBlock writes other)
  have mark : (chunk.put pos id value).getMeta other =
      if other = pos then value else (chunk.setBlock pos id).getMeta other :=
    read_apply MutableSection.getMeta marks other
  have kept : (chunk.setBlock pos id).getMeta other = chunk.getMeta other :=
    read_apply_of_kept MutableSection.getMeta (fun _ => rfl) other
  rw [content, block, mark, kept, Function.update_apply]
  split
  · rfl
  · rfl

theorem getMultiblock_put (chunk : MutableChunk) (pos : LocalPos) (id : UInt16) (value : UInt8)
    (other : LocalPos) :
    (chunk.put pos id value).getMultiblock other = chunk.getMultiblock other := by
  have marked : (chunk.put pos id value).getMultiblock other =
      (chunk.setBlock pos id).getMultiblock other :=
    read_apply_of_kept MutableSection.getMultiblock (fun _ => rfl) other
  have placed : (chunk.setBlock pos id).getMultiblock other = chunk.getMultiblock other :=
    read_apply_of_kept MutableSection.getMultiblock (fun _ => rfl) other
  exact marked.trans placed

theorem setMultiblock_spec (sound : chunk.Sound) (pos : LocalPos) (mbId : UInt32) :
    (chunk.setMultiblock pos mbId).Sound ∧ (chunk.setMultiblock pos mbId).content = chunk.content ∧
      ∀ other, (chunk.setMultiblock pos mbId).getMultiblock other =
        if other = pos then mbId else chunk.getMultiblock other := by
  have multiblocks := (sound pos.sec).multiblocks
  refine ⟨?_, ?_, ?_⟩
  · apply apply_sound sound
    exact { sound pos.sec with multiblocks := SideTable.set_valid multiblocks pos.li mbId }
  · funext other
    apply Prod.ext
    · exact read_apply_of_kept MutableSection.getBlock (fun _ => rfl) other
    · exact read_apply_of_kept MutableSection.getMeta (fun _ => rfl) other
  · exact read_apply MutableSection.getMultiblock (SideTable.get_set multiblocks pos.li mbId)

/-- What wire bytes are read as. -/
def wireContent (data : List UInt8) : Option Content := (fromWire data).map content

def Decodes (data : List UInt8) : Prop := ∃ decoded, fromWire data = some decoded ∧ decoded.Sound

theorem readSections_encode {states : List MutableSection} (sound : ∀ state ∈ states, state.Sound)
    (rest : Reader) :
    ∃ decoded, readSections states.length
        (states.flatMap MutableSection.encodeToWire ++ rest) = some (decoded, rest) ∧
      List.Forall₂ (fun after before => after.Sound ∧
        (∀ li, after.getBlock li = before.getBlock li) ∧
          (before.Storable → ∀ li, after.getMeta li = before.getMeta li)) decoded states := by
  induction states with
  | nil => exact ⟨[], rfl, List.Forall₂.nil⟩
  | cons state states ih =>
    obtain ⟨first, firstRead, firstSame⟩ := (sound state mem_cons_self).exists_decoded
      (states.flatMap MutableSection.encodeToWire ++ rest)
    obtain ⟨others, othersRead, othersSame⟩ :=
      ih fun state mem => sound state (mem_cons_of_mem _ mem)
    refine ⟨first :: others, ?_, List.Forall₂.cons firstSame othersSame⟩
    rw [flatMap_cons, append_assoc, length_cons, readSections, firstRead]
    dsimp only
    rw [othersRead]
    rfl

theorem Sound.exists_decoded (sound : chunk.Sound) :
    ∃ decoded, fromWire chunk.encodeToWire = some decoded ∧ decoded.Sound ∧
      (chunk.Storable → decoded.content = chunk.content) := by
  have sectionsSound : ∀ state ∈ (finRange SEC_CNT).map chunk.sections, state.Sound := by
    intro state mem
    obtain ⟨s, _, rfl⟩ := mem_map.mp mem
    exact sound s
  obtain ⟨decoded, reads, same⟩ := readSections_encode sectionsSound []
  have eight : ((finRange SEC_CNT).map chunk.sections).length = SEC_CNT := by
    rw [length_map, length_finRange]
  have body : (finRange SEC_CNT).flatMap (fun s => (chunk.sections s).encodeToWire) =
      ((finRange SEC_CNT).map chunk.sections).flatMap MutableSection.encodeToWire := by
    rw [flatMap_map]
  rw [eight, append_nil] at reads
  have wire : fromWire chunk.encodeToWire =
      some ⟨fun s => decoded.getD s.val MutableSection.empty⟩ := by
    rw [fromWire, encodeToWire]
    simp only [append_assoc]
    rw [u32.read_write]
    dsimp only
    rw [if_neg (fun different => different rfl), u8.read_write]
    dsimp only
    rw [if_neg (by decide), u8.read_write]
    dsimp only
    rw [if_neg (by decide), body, reads, Option.map_some]
  have size : decoded.length = SEC_CNT := same.length_eq.trans eight
  have each : ∀ s : Fin SEC_CNT, (decoded.getD s.val MutableSection.empty).Sound ∧
      (∀ li, (decoded.getD s.val MutableSection.empty).getBlock li =
        (chunk.sections s).getBlock li) ∧
      ((chunk.sections s).Storable → ∀ li,
        (decoded.getD s.val MutableSection.empty).getMeta li = (chunk.sections s).getMeta li) := by
    intro s
    have inside : s.val < decoded.length := by
      rw [size]
      exact s.isLt
    have here := same.get inside (by rw [eight]; exact s.isLt)
    rw [getD_eq_getElem _ _ inside]
    simpa using here
  refine ⟨_, wire, fun s => (each s).1, ?_⟩
  intro storable
  funext pos
  exact Prod.ext ((each pos.sec).2.1 pos.li) ((each pos.sec).2.2 (storable pos.sec) pos.li)

theorem encode_decodes (sound : chunk.Sound) : Decodes chunk.encodeToWire := by
  obtain ⟨decoded, reads, decodedSound, _⟩ := sound.exists_decoded
  exact ⟨decoded, reads, decodedSound⟩

theorem wireContent_encode (sound : chunk.Sound) (storable : chunk.Storable) :
    wireContent chunk.encodeToWire = some chunk.content := by
  obtain ⟨decoded, reads, _, same⟩ := sound.exists_decoded
  rw [wireContent, reads, Option.map_some, same storable]

end MutableChunk

end GtnhPlatform.ChunkStore
