import GtnhPlatform.Data.Bytes
import GtnhPlatform.Data.Word

namespace GtnhPlatform.MetaDb

/-! The structural check of a FlatBuffer. The texts of the errors only go to the log. -/

variable (buf : List UInt8)

/-- `binary.LittleEndian.Uint32(buf[pos : pos+4])` and its like. -/
def uintAt (pos width : Nat) : Nat :=
  Bytes.littleEndian ((buf.drop pos).take width)

inductive FbFieldKind
  | u8 | u16 | u32 | u64 | s32 | tableRef | tableVector | string | bytes

def fbFieldWidth : FbFieldKind → Nat
  | .u8 => 1
  | .u16 => 2
  | .u32 | .s32 => 4
  | .u64 => 8
  | _ => 0

inductive FbTable
  | metaDBFrame | metaDBMessage | getInventoryReq | setInventorySlotReq | getInventorySnapshotReq
  | questProgressUpdate | questEntry | questExchangeRequest | questExchangeCooldownGet
  | questCompleted | playerJoined | playerLeft

structure FbField where
  slot : Nat
  kind : FbFieldKind
  nested : Option FbTable := none
  nestedFor : Option (List UInt8 → Nat → Option FbTable) := none

def fbMinTableSize : Nat := 4

def fbMaxDepth : Nat := 8

def fbVtablePos (pos : Nat) : Int := pos - wrapI32 (uintAt buf pos 4)

def fbReadScalarSlot (tablePos slot : Nat) : Nat :=
  let vtablePos := (fbVtablePos buf tablePos).toNat
  if slot + 2 > uintAt buf vtablePos 2 then 0
  else
    let rel := uintAt buf (vtablePos + slot) 2
    if rel = 0 then 0 else uintAt buf (tablePos + rel) 1

def payloadMetaDBMessage : Nat := 1

def fbMetaDBFramePayload (tablePos : Nat) : Option FbTable :=
  if fbReadScalarSlot buf tablePos 4 = payloadMetaDBMessage then some .metaDBMessage else none

/-- The members of the union `MetaDBRequest`, in its order. -/
def fbRequestDescriptor : Nat → Option FbTable
  | 1 => some .getInventoryReq
  | 2 => some .setInventorySlotReq
  | 3 => some .getInventorySnapshotReq
  | _ => none

def fbMetaDBMessageRequest (tablePos : Nat) : Option FbTable :=
  fbRequestDescriptor (fbReadScalarSlot buf tablePos 6)

def FbTable.fields : FbTable → List FbField
  | .metaDBFrame =>
    [{ slot := 4, kind := .u8 },
      { slot := 6, kind := .tableRef, nestedFor := some fbMetaDBFramePayload }]
  | .metaDBMessage =>
    [{ slot := 4, kind := .u32 }, { slot := 6, kind := .u8 },
      { slot := 8, kind := .tableRef, nestedFor := some fbMetaDBMessageRequest }]
  | .getInventoryReq => [{ slot := 4, kind := .u64 }, { slot := 6, kind := .u16 }]
  | .setInventorySlotReq =>
    [{ slot := 4, kind := .u64 }, { slot := 6, kind := .u16 }, { slot := 8, kind := .u16 },
      { slot := 10, kind := .u8 }, { slot := 12, kind := .u16 }]
  | .getInventorySnapshotReq => [{ slot := 4, kind := .u64 }, { slot := 6, kind := .u8 }]
  | .questProgressUpdate =>
    [{ slot := 4, kind := .u64 }, { slot := 6, kind := .tableVector, nested := some .questEntry }]
  | .questEntry =>
    [{ slot := 4, kind := .u32 }, { slot := 6, kind := .u8 }, { slot := 8, kind := .u8 }]
  | .questExchangeRequest | .questExchangeCooldownGet =>
    [{ slot := 4, kind := .u64 }, { slot := 6, kind := .u32 }]
  | .questCompleted =>
    [{ slot := 4, kind := .u64 }, { slot := 6, kind := .u32 }, { slot := 8, kind := .u64 }]
  | .playerJoined => [{ slot := 4, kind := .u64 }]
  | .playerLeft =>
    [{ slot := 4, kind := .u64 }, { slot := 6, kind := .s32 }, { slot := 8, kind := .s32 },
      { slot := 10, kind := .s32 }]

/-- `none` is the error; a field that is absent has no position. -/
def fbFieldPos (pos vtablePos vtableLen : Nat) (f : FbField) : Option (Option Nat) :=
  if f.slot + 2 > vtableLen then some none
  else
    let rel := uintAt buf (vtablePos + f.slot) 2
    if rel = 0 then some none
    else if pos + rel > buf.length then none
    else some (some (wrapU32 (pos + rel)))

def fbFollowRef (pos : Nat) : Option Nat :=
  if pos + 4 > buf.length then none
  else
    let target := pos + uintAt buf pos 4
    if target + fbMinTableSize > buf.length then none else some target

def verifyField (verify : Nat → FbTable → Bool) (buf : List UInt8) (f : FbField)
    (pos tablePos : Nat) : Bool :=
  match f.kind with
  | .u8 | .u16 | .u32 | .u64 | .s32 => pos + fbFieldWidth f.kind ≤ buf.length
  | .tableRef =>
    match fbFollowRef buf pos with
    | none => false
    | some target =>
      match f.nestedFor.elim f.nested fun nestedFor => nestedFor buf tablePos with
      | none => true
      | some nested => verify (wrapU32 target) nested
  | .tableVector =>
    match fbFollowRef buf pos with
    | none => false
    | some vecStart =>
      let n := uintAt buf vecStart 4
      vecStart + 4 ≤ buf.length && n ≤ (buf.length - vecStart - 4) / 4 &&
        f.nested.all fun nested => (List.range n).all fun i =>
          let offPos := vecStart + 4 + i * 4
          let elemPos := offPos + uintAt buf offPos 4
          elemPos + fbMinTableSize ≤ buf.length && verify (wrapU32 elemPos) nested
  | .string | .bytes =>
    match fbFollowRef buf pos with
    | none => false
    | some vecStart =>
      vecStart + 4 ≤ buf.length && vecStart + 4 + uintAt buf vecStart 4 ≤ buf.length

def verifyTable (verify : Nat → FbTable → Bool) (buf : List UInt8) (pos : Nat) (desc : FbTable) :
    Bool :=
  let vtablePos := fbVtablePos buf pos
  let vtableLen := uintAt buf vtablePos.toNat 2
  pos + fbMinTableSize ≤ buf.length && 0 ≤ vtablePos && vtablePos + 4 ≤ buf.length &&
    4 ≤ vtableLen && vtablePos + vtableLen ≤ buf.length &&
    desc.fields.all fun f =>
      (fbFieldPos buf pos (wrapU32 vtablePos.toNat) vtableLen f).any fun found =>
        found.all fun fieldPos => verifyField verify buf f fieldPos pos

/-- The number says how many levels `fbMaxDepth` still allows, this one included. -/
def verifyTableAt (buf : List UInt8) : Nat → Nat → FbTable → Bool
  | 0, _, _ => false
  | levels + 1, pos, desc => verifyTable (verifyTableAt buf levels) buf pos desc

def verifyRoot (desc : FbTable) : Option Nat :=
  if buf.length < 4 then none
  else
    let rootOff := uintAt buf 0 4
    if verifyTableAt buf (fbMaxDepth + 1) rootOff desc then some rootOff else none

/-! What the handlers read; an index out of range is `none`. -/

/-- `GetUint32(t.Bytes[off:])` and its like. -/
def getUint (off width : Nat) : Option Nat :=
  if off + width ≤ buf.length then some (uintAt buf off width) else none

/-- `UOffsetT(SOffsetT(t.Pos) - t.GetSOffsetT(t.Pos))` -/
def vtableOf (pos : Nat) : Nat := wrapU32 (pos + (2 ^ 32 - uintAt buf pos 4))

/-- The rule of `Table.Offset`: an entry of the vtable is read when its index lies
below the length. -/
def tableOffset (pos slot : Nat) : Option Nat := do
  let _ ← getUint buf pos 4
  let vtableLen ← getUint buf (vtableOf buf pos) 2
  if slot < vtableLen then getUint buf (wrapU32 (vtableOf buf pos + slot)) 2 else some 0

def tableTarget (pos slot : Nat) : Option (Option Nat) := do
  let o ← tableOffset buf pos slot
  if o = 0 then some none
  else
    let rel ← getUint buf (wrapU32 (pos + o)) 4
    some (some (wrapU32 (wrapU32 (pos + o) + rel)))

def tableScalar (pos slot width : Nat) : Option Nat := do
  let o ← tableOffset buf pos slot
  if o = 0 then some 0 else getUint buf (wrapU32 (pos + o)) width

def tableVectorLen (pos slot : Nat) : Option Nat := do
  let target ← tableTarget buf pos slot
  target.elim (some 0) (getUint buf · 4)

def tableVectorItem (pos slot index : Nat) : Option (Option Nat) := do
  let target ← tableTarget buf pos slot
  target.elim (some none) fun vec =>
    (getUint buf (wrapU32 (vec + 4 + index * 4)) 4).map fun rel =>
      some (wrapU32 (wrapU32 (vec + 4 + index * 4) + rel))

/-- The generated accessors, with what is documented of them: a field of some bytes, a
union, and the length and the tables of a vector. -/
structure TableAccess where
  scalar (buf : List UInt8) (pos slot width : Nat) : Option Nat
  union (buf : List UInt8) (pos slot : Nat) : Option (Option Nat)
  vectorLen (buf : List UInt8) (pos slot : Nat) : Option Nat
  vectorTable (buf : List UInt8) (pos slot index : Nat) : Option (Option Nat)
  scalar_eq : scalar = tableScalar
  union_eq : union = tableTarget
  vectorLen_eq : vectorLen = tableVectorLen
  vectorTable_eq : vectorTable = tableVectorItem

namespace TableAccess

variable (access : TableAccess) (buf : List UInt8)

def readScalars (pos : Nat) (reads : List (Nat × Nat)) : Option Unit :=
  reads.forM fun read => (access.scalar buf pos read.1 read.2).map fun _ => ()

def requestReads : FbTable → List (Nat × Nat)
  | .getInventoryReq | .getInventorySnapshotReq => [(4, 8)]
  | .setInventorySlotReq => [(4, 8), (6, 2), (8, 2), (10, 1)]
  | _ => []

/-- `Request` is called again after the check, and gives the same table. -/
def handleMetaDBMessage (msg : Nat) : Option Unit := do
  let _ ← access.scalar buf msg 4 4
  let reqType ← access.scalar buf msg 6 1
  match fbRequestDescriptor reqType with
  | none => some ()
  | some desc =>
    match ← access.union buf msg 8 with
    | none => some ()
    | some req =>
      if verifyTableAt buf fbMaxDepth req desc then
        access.readScalars buf req (requestReads desc)
      else some ()

def dispatchFlatBufferFrame (frame : Nat) : Option Unit := do
  let payloadType ← access.scalar buf frame 4 1
  if payloadType = payloadMetaDBMessage then
    match ← access.union buf frame 6 with
    | none => some ()
    | some msg => access.handleMetaDBMessage buf msg
  else some ()

def entryReads : List (Nat × Nat) := [(4, 4), (6, 1), (8, 1)]

def handleQuestSet (req : Nat) : Option Unit := do
  let _ ← access.scalar buf req 4 8
  let questsLength ← access.vectorLen buf req 6
  (List.range questsLength).forM fun i => do
    match ← access.vectorTable buf req 6 i with
    | none => some ()
    | some entry => access.readScalars buf entry entryReads

end TableAccess

/-- The handlers that check a payload themselves. -/
inductive FbHandler
  | frame | questGet | questSet | questCompleted | questExchangeRequest | questExchangeCooldownGet
  | playerJoined | playerLeft

namespace FbHandler

def desc : FbHandler → FbTable
  | frame => .metaDBFrame
  | questGet | questSet => .questProgressUpdate
  | questCompleted => .questCompleted
  | questExchangeRequest => .questExchangeRequest
  | questExchangeCooldownGet => .questExchangeCooldownGet
  | playerJoined => .playerJoined
  | playerLeft => .playerLeft

def reads : FbHandler → List (Nat × Nat)
  | frame | questSet => []
  | questGet | playerJoined => [(4, 8)]
  | questCompleted | questExchangeRequest | questExchangeCooldownGet => [(4, 8), (6, 4)]
  | playerLeft => [(4, 8), (6, 4), (8, 4), (10, 4)]

def access (handler : FbHandler) (access : TableAccess) (buf : List UInt8) (pos : Nat) :
    Option Unit :=
  match handler with
  | frame => access.dispatchFlatBufferFrame buf pos
  | questSet => access.handleQuestSet buf pos
  | other => access.readScalars buf pos other.reads

end FbHandler

end GtnhPlatform.MetaDb
