import GtnhPlatform.ChunkStore.SideTable
import GtnhPlatform.Data.BitStream
import Mathlib.Data.Nat.Size

namespace GtnhPlatform.ChunkStore

open List

/-! A chunk section in the smallest of four encodings that its palette fits. -/

/-- A palette, and an index into it for each block; the byte after the indices
is there for `getBlock` to read. -/
structure FlatData (bytes : Nat) where
  palette : List UInt16
  indices : Fin bytes → UInt8

def PACKED_BYTES : Nat := SEC_VOL * 4 / 8 + 1
def FLAT_BYTES : Nat := SEC_VOL + 1

inductive SectionBlocks where
  | air
  | bitpack4 (flat : FlatData PACKED_BYTES)
  | flat (flat : FlatData FLAT_BYTES)
  | overflow (blocks : LocalIndex → UInt16)

structure MutableSection where
  blocks : SectionBlocks
  metadata : SideTable UInt8
  multiblocks : SideTable UInt32

namespace FlatData

variable {bytes : Nat}

def byteAt (indices : Fin bytes → UInt8) (position : Nat) : UInt8 :=
  if inside : position < bytes then indices ⟨position, inside⟩ else 0

def getBlock (flat : FlatData bytes) (bpi : Nat) (li : LocalIndex) : UInt16 :=
  let shift := li.val * bpi
  let byte := shift / 8
  let bit := shift % 8
  let raw := ((byteAt flat.indices byte).toNat >>> bit) |||
    ((byteAt flat.indices (byte + 1)).toNat <<< (8 - bit))
  flat.palette.getD (raw % 2 ^ bpi) 0

def putByte (indices : Fin bytes → UInt8) (position : Nat) (value : UInt8) : Fin bytes → UInt8 :=
  if inside : position < bytes then Function.update indices ⟨position, inside⟩ value else indices

def writeBitpacked (indices : Fin bytes → UInt8) (li : LocalIndex) (idx bpi : Nat) :
    Fin bytes → UInt8 :=
  let shift := li.val * bpi
  let byte := shift / 8
  let bit := UInt32.ofNat (shift % 8)
  let mask := ((1 <<< UInt32.ofNat bpi) - 1) <<< bit
  let value := UInt32.ofNat idx
  let first := putByte indices byte
    (((byteAt indices byte).toUInt32 &&& ~~~mask) ||| ((value <<< bit) &&& mask)).toUInt8
  if 8 < shift % 8 + bpi then
    putByte first (byte + 1)
      (((byteAt first (byte + 1)).toUInt32 &&& ~~~(mask >>> 8)) |||
        ((value >>> (8 - bit)) &&& (mask >>> 8))).toUInt8
  else first

end FlatData

def paletteIndex (palette : List UInt16) (id : UInt16) : Nat :=
  if id ∈ palette then palette.idxOf id else 0

/-- Collects ids that are not there yet, and stops as soon as there are more than 256. -/
def collectUnique (skipsAir : Bool) : List UInt16 → List UInt16 → List UInt16
  | unique, [] => unique
  | unique, id :: rest =>
    if (skipsAir && id == 0) ∨ id ∈ unique then collectUnique skipsAir unique rest
    else if 256 < unique.length + 1 then unique ++ [id]
    else collectUnique skipsAir (unique ++ [id]) rest

@[irreducible] def blockList (blocks : LocalIndex → UInt16) : List UInt16 :=
  (finRange SEC_VOL).map blocks

theorem blockList_eq (blocks : LocalIndex → UInt16) :
    blockList blocks = (finRange SEC_VOL).map blocks := by
  delta blockList
  rfl

def flatOf (palette : List UInt16) (blocks : LocalIndex → UInt16) : FlatData FLAT_BYTES where
  palette := palette
  indices position :=
    if inside : position.val < SEC_VOL then
      UInt8.ofNat (paletteIndex palette (blocks ⟨position.val, inside⟩))
    else 0

namespace SectionBlocks

def getBlock : SectionBlocks → LocalIndex → UInt16
  | .air, _ => 0
  | .bitpack4 data, li => data.getBlock 4 li
  | .flat data, li => data.getBlock 8 li
  | .overflow ids, li => ids li

def fromBlocks (ids : LocalIndex → UInt16) : SectionBlocks :=
  let unique := collectUnique true [0] (blockList ids)
  if unique.length = 1 then .air
  else if unique.length ≤ 16 then
    .bitpack4 ⟨unique, (finRange SEC_VOL).foldl
      (fun indices li => FlatData.writeBitpacked indices li (paletteIndex unique (ids li)) 4)
      fun _ => 0⟩
  else if unique.length ≤ 256 then .flat (flatOf unique ids)
  else .overflow ids

def promoteToFlatOrOverflow (blocks : SectionBlocks) (newId : UInt16) : SectionBlocks :=
  let unique := collectUnique false [newId] (blockList blocks.getBlock)
  if unique.length ≤ 256 then .flat (flatOf (0 :: unique.filter (· != 0)) blocks.getBlock)
  else .overflow blocks.getBlock

def checkOverflowDemote (ids : LocalIndex → UInt16) : SectionBlocks :=
  let unique := collectUnique true [0] (blockList ids)
  if 256 < unique.length then .overflow ids else .flat (flatOf unique ids)

def setInPalette {bytes : Nat} (data : FlatData bytes) (li : LocalIndex) (id : UInt16)
    (bpi : Nat) : FlatData bytes :=
  if id ∈ data.palette then
    ⟨data.palette, FlatData.writeBitpacked data.indices li (data.palette.idxOf id) bpi⟩
  else ⟨data.palette ++ [id], FlatData.writeBitpacked data.indices li data.palette.length bpi⟩

/-- One call of `setBlock`; `again` is the call it makes after a promotion. -/
def setBlockWith (again : SectionBlocks → SectionBlocks) (li : LocalIndex) (id : UInt16) :
    SectionBlocks → SectionBlocks
  | .air =>
    if id = 0 then .air
    else .bitpack4 ⟨[0, id], FlatData.writeBitpacked (fun _ => 0) li 1 4⟩
  | .overflow ids =>
    if ids li ≠ id then checkOverflowDemote (Function.update ids li id)
    else .overflow (Function.update ids li id)
  | .bitpack4 data =>
    if id ∉ data.palette ∧ 16 ≤ data.palette.length then
      again (promoteToFlatOrOverflow (.bitpack4 data) id)
    else .bitpack4 (setInPalette data li id 4)
  | .flat data =>
    if id ∉ data.palette ∧ 256 ≤ data.palette.length then
      again (promoteToFlatOrOverflow (.flat data) id)
    else .flat (setInPalette data li id 8)

/-- The call after a promotion makes no further one. -/
def setBlock (blocks : SectionBlocks) (li : LocalIndex) (id : UInt16) : SectionBlocks :=
  setBlockWith (setBlockWith (fun promoted => promoted) li id) li id blocks

/-- The palette of an overflow section on the wire. -/
def overflowPalette (ids : LocalIndex → UInt16) : List UInt16 := (blockList ids).foldl
    (fun palette id => if id == 0 || palette.contains id then palette else palette ++ [id]) [0]

def encodeToWire : SectionBlocks → List UInt8
  | .air => u16.write 1 ++ u16.write 0 ++ u8.write 0
  | .bitpack4 data =>
    u16.write (UInt16.ofNat data.palette.length) ++ data.palette.flatMap u16.write ++ u8.write 4 ++
      (ofFn data.indices).take ((SEC_VOL * 4 + 7) / 8)
  | .flat data =>
    u16.write (UInt16.ofNat data.palette.length) ++ data.palette.flatMap u16.write ++ u8.write 8 ++
      (ofFn data.indices).take SEC_VOL
  | .overflow ids =>
    let palette := overflowPalette ids
    -- as many bits as the largest index has
    let bpi := if 1 < palette.length then (palette.length - 1).size else 0
    u16.write (UInt16.ofNat palette.length) ++ palette.flatMap u16.write ++
      u8.write (UInt8.ofNat bpi) ++
      (if 0 < bpi then BitStream.packFields bpi ((blockList ids).map fun id =>
          if id ≠ 0 then paletteIndex palette id else 0)
      else [])

def copied {bytes : Nat} (source : List UInt8) : Fin bytes → UInt8 :=
  fun position => source.getD position.val 0

def readOverflow (palette : List UInt16) (bpi : Nat) (r : Reader) :
    Option (SectionBlocks × Reader) :=
  let totalBytes := (SEC_VOL * bpi + 7) / 8
  let idx := fun li : LocalIndex => BitStream.readField r (li.val * bpi) bpi
  if r.length < totalBytes then none
  else if ∀ li, idx li < palette.length then
    some (.overflow fun li => palette.getD (idx li) 0, r.drop totalBytes)
  else none

def readBlocks (palette : List UInt16) (bpi : Nat) (r : Reader) :
    Option (SectionBlocks × Reader) :=
  if palette.length ≤ 16 ∧ bpi = 4 then
    (readBytes ((SEC_VOL * 4 + 7) / 8) r).map fun (bytes, r) => (.bitpack4 ⟨palette, copied bytes⟩, r)
  else if palette.length ≤ 256 ∧ bpi = 8 then
    (readBytes SEC_VOL r).map fun (bytes, r) => (.flat ⟨palette, copied bytes⟩, r)
  else if bpi = 0 then some (.bitpack4 ⟨palette, fun _ => 0⟩, r)
  else readOverflow palette bpi r

end SectionBlocks

namespace MutableSection

def empty : MutableSection := ⟨.air, SideTable.empty, SideTable.empty⟩

def getBlock (state : MutableSection) (li : LocalIndex) : UInt16 := state.blocks.getBlock li

variable (state : MutableSection)

def getMeta (li : LocalIndex) : UInt8 := state.metadata.get li

def getMultiblock (li : LocalIndex) : UInt32 := state.multiblocks.get li

def isAir : Bool :=
  match state.blocks with
  | .air => true
  | _ => false

inductive SectionOp where
  | fromBlocks (ids : LocalIndex → UInt16)
  | setBlock (li : LocalIndex) (id : UInt16)
  | setMeta (li : LocalIndex) (value : UInt8)
  | setMultiblock (li : LocalIndex) (mbId : UInt32)

def apply : SectionOp → MutableSection
  | .fromBlocks ids => ⟨.fromBlocks ids, SideTable.empty, SideTable.empty⟩
  | .setBlock li id => { state with blocks := state.blocks.setBlock li id }
  | .setMeta li value => { state with metadata := state.metadata.set li value }
  | .setMultiblock li mbId => { state with multiblocks := state.multiblocks.set li mbId }

def build (ops : List SectionOp) : MutableSection := ops.foldl apply empty

def encodeToWire (state : MutableSection) : List UInt8 :=
  state.blocks.encodeToWire ++ state.metadata.writeToWire u8 ++ state.multiblocks.writeToWire u32

/-- The metadata and multiblocks of an all-air section are skipped. -/
def fromWire (r : Reader) : Option (MutableSection × Reader) :=
  match u16.read r with
  | none => none
  | some (psz, r) =>
    if psz = 0 then none
    else
      match readNumbers u16 psz.toNat r with
      | none => none
      | some (palette, r) =>
        match u8.read r with
        | none => none
        | some (bpi, r) =>
          if palette = [0] ∧ bpi = 0 then
            match SideTable.skipOnWire u8 r with
            | none => none
            | some r => (SideTable.skipOnWire u32 r).map fun r => (empty, r)
          else
            match SectionBlocks.readBlocks palette bpi.toNat r with
            | none => none
            | some (blocks, r) =>
              match SideTable.readFromWire u8 r with
              | none => none
              | some (wireMeta, r) =>
                (SideTable.readFromWire u32 r).map fun (wireMb, r) =>
                  (⟨blocks, SideTable.fill wireMeta, SideTable.fill wireMb⟩, r)

def RoundTrips : Prop :=
  ∃ decoded, fromWire state.encodeToWire = some (decoded, []) ∧
    ∀ li, decoded.getBlock li = state.getBlock li ∧ decoded.getMeta li = state.getMeta li ∧
      decoded.getMultiblock li = state.getMultiblock li

end MutableSection

end GtnhPlatform.ChunkStore
