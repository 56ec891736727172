import GtnhPlatform.Router.FrameStream
import GtnhPlatform.Router.Registry

namespace GtnhPlatform.Router

open Bytes List Option

inductive Message where
  | subscribe (topic : Name)
  | publish (topic : Name) (data : List UInt8)
  | register (name : Name) (topics : List Name)

def topicsEnd (payload : List UInt8) : Nat → Nat → Nat
  | 0, offset => offset
  | remaining + 1, offset =>
    match readString payload offset with
    | none => topicsEnd payload remaining offset
    | some (_, next) => topicsEnd payload remaining next

def registerEnd (payload : List UInt8) : Nat :=
  match readString payload 0 with
  | none => 0
  | some (_, offset) =>
    topicsEnd payload (bigEndian ((payload.drop offset).take 2)) (offset + 2)

/-- What the switch of `handleConn` reads of a frame, and the bytes of the
payload that it leaves unread. -/
def readMessage (frame : Content) : Option (Message × List UInt8) :=
  if frame.1 = msgSubscribe then
    match readString frame.2 0 with
    | none => none
    | some (topic, offset) => some (.subscribe topic, frame.2.drop offset)
  else if frame.1 = msgPublish then
    match readString frame.2 0 with
    | none => none
    | some (topic, offset) => some (.publish topic (frame.2.drop offset), [])
  else
    match registrationOf frame with
    | none => none
    | some (name, topics) => some (.register name topics, frame.2.drop (registerEnd frame.2))

/-- The router takes the whole frame off the stream, nothing of what follows it,
and the message uses up the payload. -/
def ReadsBack (bufLen : Nat) (frame : List UInt8) (message : Message) : Prop :=
  ∀ rest, ∃ content, readFrame bufLen (frame ++ rest) = .ok (content, rest) ∧
    readMessage content = some (message, [])

/-- `memcpy` into a vector. Writing behind its end is undefined. -/
def copyTo (offset : Nat) (bytes buffer : List UInt8) : Option (List UInt8) :=
  if offset + bytes.length ≤ buffer.length then some (write offset bytes buffer) else none

namespace RouterClient

-- `payload_len` and `4 + payload_len` are `uint32_t`.
def makeFrame (msgType : MsgType) (payload : List UInt8) : Option (List UInt8) := do
  let payloadLen := (1 + payload.length % 2 ^ 32) % 2 ^ 32
  let frame := zeros ((4 + payloadLen) % 2 ^ 32)
  let frame ← copyTo 0 (putBigEndian 4 payloadLen) frame
  let frame ← copyTo 4 [msgType] frame
  if payload.isEmpty then some frame else copyTo 5 payload frame

/-- The two pushes of a `uint16_t` length. -/
def pushLength (size : Nat) : List UInt8 :=
  let len := size % 2 ^ 16
  [UInt8.ofNat (len >>> 8), UInt8.ofNat len]

def makePublishFrame (topic : Name) (payload : List UInt8) : Option (List UInt8) :=
  makeFrame msgPublish (pushLength topic.length ++ topic ++ payload)

def makeRegisterFrame (serviceName : Name) (topics : List Name) : Option (List UInt8) :=
  makeFrame msgRegister
    (pushLength serviceName.length ++ serviceName ++ pushLength topics.length ++
      topics.flatMap fun topic => pushLength topic.length ++ topic)

def makeSubscribeFrame (topic : Name) : Option (List UInt8) :=
  makeFrame msgSubscribe (pushLength topic.length ++ topic)

def frameOf : Message → Option (List UInt8)
  | .subscribe topic => makeSubscribeFrame topic
  | .publish topic data => makePublishFrame topic data
  | .register name topics => makeRegisterFrame name topics

end RouterClient

namespace FrameCodec

/-- `std::vector::resize`: what `out` held stays in front. -/
def resize (size : Nat) (out : List UInt8) : List UInt8 :=
  out.take size ++ zeros (size - out.length)

def writeBE32 (offset value : Nat) (out : List UInt8) : Option (List UInt8) :=
  copyTo offset (putBigEndian 4 value) out

def writeBE16 (offset value : Nat) (out : List UInt8) : Option (List UInt8) :=
  copyTo offset (putBigEndian 2 value) out

def buildSubscribeFrame (out : List UInt8) (topic : Name) : Option (List UInt8) := do
  let payloadLen := (1 + 2 + topic.length) % 2 ^ 32
  let out := resize ((4 + payloadLen) % 2 ^ 32) out
  let out ← writeBE32 0 payloadLen out
  let out ← copyTo 4 [msgSubscribe] out
  let out ← writeBE16 5 topic.length out
  copyTo 7 topic out

def buildPublishFrame (out : List UInt8) (topic : Name) (data : List UInt8) :
    Option (List UInt8) := do
  let payloadLen := (1 + 2 + topic.length + data.length) % 2 ^ 32
  let out := resize ((4 + payloadLen) % 2 ^ 32) out
  let out ← writeBE32 0 payloadLen out
  let out ← copyTo 4 [msgPublish] out
  let out ← writeBE16 5 topic.length out
  let out ← copyTo 7 topic out
  copyTo (7 + topic.length) data out

def writeTopics (out : List UInt8) : Nat → List Name → Option (List UInt8)
  | _, [] => some out
  | off, topic :: topics => do
      let out ← writeBE16 off topic.length out
      let out ← copyTo (off + 2) topic out
      writeTopics out (off + 2 + topic.length) topics

-- Here `payload_len` is a `size_t`; the prefix takes its low 32 bits.
def buildRegisterFrame (out : List UInt8) (name : Name) (topics : List Name) :
    Option (List UInt8) := do
  let payloadLen := topics.foldl (fun len topic => len + (2 + topic.length))
    (1 + 2 + name.length + 2)
  let out := resize (4 + payloadLen) out
  let out ← writeBE32 0 payloadLen out
  let out ← copyTo 4 [msgRegister] out
  let out ← writeBE16 5 name.length out
  let out ← copyTo 7 name out
  let out ← writeBE16 (7 + name.length) topics.length out
  writeTopics out (7 + name.length + 2) topics

def frameOf (out : List UInt8) : Message → Option (List UInt8)
  | .subscribe topic => buildSubscribeFrame out topic
  | .publish topic data => buildPublishFrame out topic data
  | .register name topics => buildRegisterFrame out name topics

end FrameCodec

/-- A string behind its length. -/
def packString (text : Name) : List UInt8 := putBigEndian 2 text.length ++ text

theorem length_packString (text : Name) : (packString text).length = 2 + text.length := by
  rw [packString, length_append, length_putBigEndian]

namespace Message

def msgType : Message → MsgType
  | .subscribe _ => msgSubscribe
  | .publish _ _ => msgPublish
  | .register _ _ => msgRegister

def payload : Message → List UInt8
  | .subscribe topic => packString topic
  | .publish topic data => packString topic ++ data
  | .register name topics =>
    packString name ++ (putBigEndian 2 topics.length ++ topics.flatMap packString)

def strings : Message → List Name
  | .subscribe topic => [topic]
  | .publish topic _ => [topic]
  | .register name topics => name :: topics

def topicCount : Message → Nat
  | .register _ topics => topics.length
  | _ => 0

structure Fits (message : Message) : Prop where
  strings : ∀ text ∈ message.strings, text.length < 2 ^ 16
  topics : message.topicCount < 2 ^ 16
  size : frameHeaderSize + message.payload.length < 2 ^ 32

end Message

theorem bigEndian_putBigEndian_two (short : size < 2 ^ 16) :
    bigEndian (putBigEndian 2 size) = size := by
  rw [bigEndian_putBigEndian]
  exact Nat.mod_eq_of_lt short

theorem readString_at {text : Name} (short : text.length < 2 ^ 16) (before after : List UInt8) :
    readString (before ++ (packString text ++ after)) before.length =
      some (text, before.length + 2 + text.length) := by
  have prefixed : before.length + 2 + text.length ≤
      (before ++ (packString text ++ after)).length := by
    rw [length_append, length_append, length_packString]
    omega
  have size : ((before ++ (packString text ++ after)).drop before.length).take 2 =
      putBigEndian 2 text.length := by
    rw [drop_left, packString, append_assoc, take_left' (length_putBigEndian 2 _)]
  have string : ((before ++ (packString text ++ after)).drop (before.length + 2)).take
      text.length = text := by
    rw [← drop_drop, drop_left, packString, append_assoc,
      drop_left' (length_putBigEndian 2 _), take_left]
  rw [readString, if_neg (by omega), size, bigEndian_putBigEndian_two short,
    if_neg (by omega), string]

theorem readString_packString {text : Name} (short : text.length < 2 ^ 16) (after : List UInt8) :
    readString (packString text ++ after) 0 = some (text, (packString text).length) := by
  have read := readString_at short [] after
  rw [length_packString]
  simpa using read

variable {topics : List Name}

theorem readTopics_packed (short : ∀ topic ∈ topics, topic.length < 2 ^ 16)
    (before after : List UInt8) :
    readTopics (before ++ (topics.flatMap packString ++ after)) topics.length before.length =
        topics ∧
      topicsEnd (before ++ (topics.flatMap packString ++ after)) topics.length before.length =
        before.length + (topics.flatMap packString).length := by
  induction topics generalizing before with
  | nil => exact ⟨rfl, rfl⟩
  | cons topic topics ih =>
    have split : before ++ ((topic :: topics).flatMap packString ++ after) =
        before ++ (packString topic ++ (topics.flatMap packString ++ after)) := by
      rw [flatMap_cons, append_assoc]
    have read := readString_at (short topic mem_cons_self) before
      (topics.flatMap packString ++ after)
    have next : before.length + 2 + topic.length = (before ++ packString topic).length := by
      rw [length_append, length_packString]
      omega
    rw [next, ← split] at read
    have later := ih
      (fun other listed => short other (mem_cons_of_mem _ listed))
      (before ++ packString topic)
    have joined : before ++ packString topic ++ (topics.flatMap packString ++ after) =
        before ++ ((topic :: topics).flatMap packString ++ after) := by
      rw [split, append_assoc]
    rw [joined] at later
    constructor
    · rw [length_cons, readTopics, read]
      exact congrArg (topic :: ·) later.1
    rw [length_cons, topicsEnd, read]
    change topicsEnd _ topics.length (before ++ packString topic).length = _
    rw [later.2, flatMap_cons, length_append, length_append]
    omega

variable {name : Name}

theorem readRegister_payload (shortName : name.length < 2 ^ 16)
    (short : ∀ topic ∈ topics, topic.length < 2 ^ 16) (counted : topics.length < 2 ^ 16) :
    readRegister (Message.register name topics).payload = some (name, topics) ∧
      registerEnd (Message.register name topics).payload =
        (Message.register name topics).payload.length := by
  let payload := (Message.register name topics).payload
  let before := packString name ++ putBigEndian 2 topics.length
  have split : payload = before ++ (topics.flatMap packString ++ []) := by
    simp [payload, Message.payload, before]
  have read : readString payload 0 = some (name, (packString name).length) :=
    readString_packString shortName _
  have count : bigEndian ((payload.drop (packString name).length).take 2) = topics.length := by
    have behindName : payload.drop (packString name).length =
        putBigEndian 2 topics.length ++ topics.flatMap packString := drop_left
    rw [behindName, take_left' (length_putBigEndian 2 _), bigEndian_putBigEndian_two counted]
  have start : (packString name).length + 2 = before.length := by
    rw [length_append, length_putBigEndian]
  have size : payload.length = before.length + (topics.flatMap packString).length := by
    rw [split, length_append, append_nil]
  have loop := readTopics_packed short before []
  rw [← split] at loop
  constructor
  · change readRegister payload = _
    rw [readRegister, read]
    dsimp only
    rw [if_neg (by omega), count, start, loop.1]
  · change registerEnd payload = payload.length
    rw [registerEnd, read]
    dsimp only
    rw [count, start, loop.2, size]

variable {message : Message}

theorem readMessage_payload (fits : message.Fits) :
    readMessage (message.msgType, message.payload) = some (message, []) := by
  cases message with
  | subscribe topic =>
    have read := readString_packString (fits.strings topic mem_cons_self) []
    rw [append_nil] at read
    simp only [readMessage, Message.msgType, Message.payload, if_pos, read, drop_length]
  | publish topic data =>
    have read := readString_packString (fits.strings topic mem_cons_self) data
    have other : ¬ msgPublish = msgSubscribe := by decide
    simp only [readMessage, Message.msgType, Message.payload, if_neg other, if_pos, read, drop_left]
  | register name topics =>
    have read := readRegister_payload (fits.strings name mem_cons_self)
      (fun topic listed => fits.strings topic (mem_cons_of_mem _ listed)) fits.topics
    have subscribes : ¬ msgRegister = msgSubscribe := by decide
    have publishes : ¬ msgRegister = msgPublish := by decide
    simp only [readMessage, Message.msgType, if_neg subscribes, if_neg publishes,
      registrationOf, if_pos, read.1, read.2, drop_length]

theorem readsBack_layout (room : frameHeaderSize ≤ bufLen) (fits : message.Fits) :
    ReadsBack bufLen (layout (message.msgType, message.payload)) message := by
  intro rest
  have size := fits.size
  have bound : 1 + message.payload.length < 2 ^ 32 := by
    simp only [frameHeaderSize] at size
    omega
  exact ⟨_, readFrame_layout room bound rest, readMessage_payload fits⟩

theorem copyTo_next (done rest bytes : List UInt8) (offset left : Nat)
    (reached : done.length = offset) (room : rest.length = bytes.length + left) :
    ∃ unwritten, unwritten.length = left ∧
      copyTo offset bytes (done ++ rest) = some ((done ++ bytes) ++ unwritten) := by
  have fits : offset + bytes.length ≤ (done ++ rest).length := by
    rw [length_append, reached]
    omega
  refine ⟨rest.drop bytes.length, ?_, ?_⟩
  · rw [length_drop]
    omega
  · rw [copyTo, if_pos fits, write_append reached (by omega)]

theorem copyTo_inside {bytes buffer copied : List UInt8}
    (copies : copyTo offset bytes buffer = some copied) :
    copied.length = buffer.length ∧ offset + bytes.length ≤ buffer.length := by
  unfold copyTo at copies
  split at copies
  case isTrue fits =>
    cases copies
    refine ⟨?_, fits⟩
    simp only [write, length_append, length_take, length_drop]
    omega
  case isFalse => contradiction

theorem length_zeros (size : Nat) : (zeros size).length = size := length_replicate

theorem copyTo_header (msgType : MsgType) (size : Nat) {buffer : List UInt8}
    (room : buffer.length = frameHeaderSize + left) :
    ∃ unwritten, unwritten.length = left ∧
      ((copyTo 0 (putBigEndian 4 size) buffer).bind fun frame => copyTo 4 [msgType] frame) =
        some ((putBigEndian 4 size ++ [msgType]) ++ unwritten) := by
  simp only [frameHeaderSize] at room
  obtain ⟨behindLength, lengthLeft, lengthWritten⟩ :=
    copyTo_next [] buffer (putBigEndian 4 size) 0 (1 + left) rfl
      (by rw [length_putBigEndian, room]; omega)
  obtain ⟨behindType, typeLeft, typeWritten⟩ :=
    copyTo_next (putBigEndian 4 size) behindLength [msgType] 4 left
      (length_putBigEndian 4 _) lengthLeft
  refine ⟨behindType, typeLeft, ?_⟩
  rw [nil_append] at lengthWritten
  rw [lengthWritten]
  exact typeWritten

namespace RouterClient

theorem pushLength_eq (size : Nat) : pushLength size = putBigEndian 2 size := by
  have high : UInt8.ofNat ((size % 2 ^ 16) >>> 8) = UInt8.ofNat (size / 256 ^ 1) := by
    apply UInt8.toNat_inj.mp
    rw [UInt8.toNat_ofNat', UInt8.toNat_ofNat', Nat.shiftRight_eq_div_pow]
    omega
  have low : UInt8.ofNat (size % 2 ^ 16) = UInt8.ofNat (size / 256 ^ 0) := by
    apply UInt8.toNat_inj.mp
    rw [UInt8.toNat_ofNat', UInt8.toNat_ofNat']
    omega
  rw [pushLength, high, low]
  rfl

theorem frameOf_eq (message : Message) :
    frameOf message = makeFrame message.msgType message.payload := by
  cases message with
  | subscribe topic => simp only [frameOf, makeSubscribeFrame, pushLength_eq]; rfl
  | publish topic data => simp only [frameOf, makePublishFrame, pushLength_eq]; rfl
  | register name topics =>
    simp only [frameOf, makeRegisterFrame, pushLength_eq, append_assoc]
    rfl

theorem makeFrame_eq (msgType : MsgType) (payload : List UInt8) : makeFrame msgType payload =
      if frameHeaderSize + payload.length < 2 ^ 32 then some (layout (msgType, payload))
      else none := by
  let payloadLen := (1 + payload.length % 2 ^ 32) % 2 ^ 32
  let buffer := zeros ((4 + payloadLen) % 2 ^ 32)
  have built : makeFrame msgType payload =
      ((copyTo 0 (putBigEndian 4 payloadLen) buffer).bind fun frame =>
        copyTo 4 [msgType] frame).bind fun frame =>
          if payload.isEmpty then some frame else copyTo 5 payload frame := by
    rw [bind_assoc]
    rfl
  by_cases fits : frameHeaderSize + payload.length < 2 ^ 32
  · have exactLen : payloadLen = 1 + payload.length := by
      simp only [frameHeaderSize] at fits
      omega
    have room : buffer.length = frameHeaderSize + payload.length := by
      rw [length_zeros]
      simp only [frameHeaderSize] at fits ⊢
      omega
    obtain ⟨behind, left, written⟩ := copyTo_header msgType payloadLen room
    rw [if_pos fits, built, written, bind_some, layout]
    cases payload with
    | nil =>
      obtain rfl := eq_nil_of_length_eq_zero left
      simp [exactLen]
    | cons first others =>
      obtain ⟨rest, restLeft, copied⟩ :=
        copyTo_next (putBigEndian 4 payloadLen ++ [msgType]) behind (first :: others) 5 0
          (by simp) left
      obtain rfl := eq_nil_of_length_eq_zero restLeft
      rw [if_neg (by simp), copied, exactLen]
      simp
  · rw [if_neg fits, eq_none_iff_forall_ne_some]
    intro frame makes
    rw [built, bind_eq_some_iff] at makes
    obtain ⟨headed, header, body⟩ := makes
    obtain ⟨sized, prefixed, typed⟩ := bind_eq_some_iff.mp header
    have nonempty : ¬ payload.isEmpty = true := by
      rw [List.isEmpty_iff]
      rintro rfl
      exact fits (by decide)
    rw [if_neg nonempty] at body
    have inside := (copyTo_inside body).2
    rw [(copyTo_inside typed).1, (copyTo_inside prefixed).1, length_zeros] at inside
    simp only [frameHeaderSize] at fits
    omega

end RouterClient

namespace FrameCodec

theorem length_resize (size : Nat) (out : List UInt8) : (resize size out).length = size := by
  rw [resize, length_append, length_zeros, length_take]
  omega

variable {done rest : List UInt8}

theorem copyTo_string (text : Name) (next left : Nat) (reached : done.length = offset)
    (follows : offset + 2 = next) (room : rest.length = (packString text).length + left) :
    ∃ unwritten, unwritten.length = left ∧
      ((writeBE16 offset text.length (done ++ rest)).bind fun out =>
        copyTo next text out) = some ((done ++ packString text) ++ unwritten) := by
  rw [length_packString] at room
  obtain ⟨behindLength, lengthLeft, lengthWritten⟩ :=
    copyTo_next done rest (putBigEndian 2 text.length) offset (text.length + left) reached
      (by rw [length_putBigEndian, room]; omega)
  obtain ⟨behind, textLeft, textWritten⟩ :=
    copyTo_next (done ++ putBigEndian 2 text.length) behindLength text next left
      (by rw [length_append, length_putBigEndian, reached, follows]) lengthLeft
  refine ⟨behind, textLeft, ?_⟩
  rw [writeBE16, lengthWritten, bind_some, textWritten, packString]
  simp only [append_assoc]

theorem writeTopics_packed {topics : List Name} (reached : done.length = offset)
    (room : rest.length = (topics.flatMap packString).length) :
    writeTopics (done ++ rest) offset topics = some (done ++ topics.flatMap packString) := by
  induction topics generalizing done rest offset with
  | nil =>
    obtain rfl := eq_nil_of_length_eq_zero room
    rfl
  | cons topic topics ih =>
    rw [flatMap_cons, length_append] at room
    obtain ⟨behind, left, written⟩ := copyTo_string topic _ _ reached rfl room
    obtain ⟨sized, prefixed, copied⟩ := bind_eq_some_iff.mp written
    have next : (done ++ packString topic).length = offset + 2 + topic.length := by
      rw [length_append, length_packString, reached]
      omega
    have later := ih next left
    rw [writeTopics, prefixed]
    change ((copyTo (offset + 2) topic sized).bind fun out =>
      writeTopics out (offset + 2 + topic.length) topics) = _
    rw [copied, bind_some, later, flatMap_cons, append_assoc]

variable (out : List UInt8)

theorem header_written (msgType : MsgType) (payload : List UInt8) :
    ∃ sized headed behind, behind.length = payload.length ∧
      writeBE32 0 (1 + payload.length) (resize (4 + (1 + payload.length)) out) = some sized ∧
        copyTo 4 [msgType] sized = some headed ∧
          headed = (putBigEndian 4 (1 + payload.length) ++ [msgType]) ++ behind := by
  have room : (resize (4 + (1 + payload.length)) out).length =
      frameHeaderSize + payload.length := by
    rw [length_resize, frameHeaderSize]
    omega
  obtain ⟨behind, left, written⟩ := copyTo_header msgType (1 + payload.length) room
  obtain ⟨sized, prefixed, typed⟩ := bind_eq_some_iff.mp written
  exact ⟨sized, _, behind, left, prefixed, typed, rfl⟩

theorem length_header (size : Nat) (msgType : MsgType) :
    (putBigEndian 4 size ++ [msgType]).length = 5 := by
  rw [length_append, length_putBigEndian]
  rfl

theorem buildSubscribeFrame_eq (topic : Name)
    (size : frameHeaderSize + (packString topic).length < 2 ^ 32) :
    buildSubscribeFrame out topic = some (layout (msgSubscribe, packString topic)) := by
  obtain ⟨sized, headed, behind, left, prefixed, typed, rfl⟩ :=
    header_written out msgSubscribe (packString topic)
  obtain ⟨rest, restLeft, written⟩ := copyTo_string topic 7 0
      (length_header (1 + (packString topic).length) msgSubscribe) rfl left
  obtain ⟨counted, lengthWritten, copied⟩ := bind_eq_some_iff.mp written
  obtain rfl := eq_nil_of_length_eq_zero restLeft
  simp only [frameHeaderSize] at size
  have payloadLen : (1 + 2 + topic.length) % 2 ^ 32 = 1 + (packString topic).length := by
    rw [length_packString] at size ⊢
    omega
  have frameLen : (4 + (1 + (packString topic).length)) % 2 ^ 32 =
      4 + (1 + (packString topic).length) := Nat.mod_eq_of_lt (by omega)
  rw [buildSubscribeFrame, payloadLen, frameLen]
  simp only [bind_eq_bind, prefixed, typed, lengthWritten, bind_some]
  rw [copied, layout]
  simp

theorem buildPublishFrame_eq (topic : Name) (data : List UInt8)
    (size : frameHeaderSize + (packString topic ++ data).length < 2 ^ 32) :
    buildPublishFrame out topic data = some (layout (msgPublish, packString topic ++ data)) := by
  obtain ⟨sized, headed, behind, left, prefixed, typed, rfl⟩ :=
    header_written out msgPublish (packString topic ++ data)
  rw [length_append] at left
  obtain ⟨rest, restLeft, written⟩ := copyTo_string topic 7 data.length
      (length_header (1 + (packString topic ++ data).length) msgPublish) rfl left
  obtain ⟨counted, lengthWritten, copied⟩ := bind_eq_some_iff.mp written
  have reached : ((putBigEndian 4 (1 + (packString topic ++ data).length) ++ [msgPublish]) ++
      packString topic).length = 7 + topic.length := by
    rw [length_append, length_header, length_packString]
    omega
  obtain ⟨nothing, ends, finished⟩ := copyTo_next _ rest data _ 0 reached restLeft
  obtain rfl := eq_nil_of_length_eq_zero ends
  simp only [frameHeaderSize] at size
  have payloadLen : (1 + 2 + topic.length + data.length) % 2 ^ 32 =
      1 + (packString topic ++ data).length := by
    rw [length_append, length_packString] at size ⊢
    omega
  have frameLen : (4 + (1 + (packString topic ++ data).length)) % 2 ^ 32 =
      4 + (1 + (packString topic ++ data).length) := Nat.mod_eq_of_lt (by omega)
  rw [buildPublishFrame, payloadLen, frameLen]
  simp only [bind_eq_bind, prefixed, typed, lengthWritten, copied, bind_some]
  rw [finished, layout]
  simp

theorem foldl_topics (topics : List Name) (len : Nat) :
    topics.foldl (fun len topic => len + (2 + topic.length)) len =
      len + (topics.flatMap packString).length := by
  induction topics generalizing len with
  | nil => rfl
  | cons topic topics ih =>
    rw [foldl_cons, ih, flatMap_cons, length_append, length_packString]
    omega

theorem buildRegisterFrame_eq (name : Name) (topics : List Name) :
    buildRegisterFrame out name topics =
      some (layout (msgRegister, (Message.register name topics).payload)) := by
  let packed := topics.flatMap packString
  let payload := packString name ++ (putBigEndian 2 topics.length ++ packed)
  obtain ⟨sized, headed, behind, left, prefixed, typed, rfl⟩ :=
    header_written out msgRegister payload
  rw [length_append, length_append] at left
  obtain ⟨rest, restLeft, written⟩ := copyTo_string name 7 _
      (length_header (1 + payload.length) msgRegister) rfl left
  obtain ⟨counted, lengthWritten, copied⟩ := bind_eq_some_iff.mp written
  have reached : ((putBigEndian 4 (1 + payload.length) ++ [msgRegister]) ++
      packString name).length = 7 + name.length := by
    rw [length_append, length_header, length_packString]
    omega
  obtain ⟨unwritten, topicsLeft, topicsCounted⟩ :=
    copyTo_next _ rest (putBigEndian 2 topics.length) _ _ reached restLeft
  have entries : (((putBigEndian 4 (1 + payload.length) ++ [msgRegister]) ++ packString name) ++
      putBigEndian 2 topics.length).length = 7 + name.length + 2 := by
    rw [length_append, reached, length_putBigEndian]
  have finished := writeTopics_packed entries topicsLeft
  have payloadLen : topics.foldl (fun len topic => len + (2 + topic.length))
      (1 + 2 + name.length + 2) = 1 + payload.length := by
    rw [foldl_topics, length_append, length_append, length_packString, length_putBigEndian]
    simp only [packed]
    omega
  rw [buildRegisterFrame, payloadLen]
  simp only [bind_eq_bind, prefixed, typed, lengthWritten, copied, bind_some]
  rw [writeBE16, topicsCounted, bind_some, finished, layout]
  simp [payload, packed, Message.payload]

theorem frameOf_eq {message : Message} (size : frameHeaderSize + message.payload.length < 2 ^ 32) :
    frameOf out message = some (layout (message.msgType, message.payload)) := by
  cases message with
  | subscribe topic => exact buildSubscribeFrame_eq out topic size
  | publish topic data => exact buildPublishFrame_eq out topic data size
  | register name topics => exact buildRegisterFrame_eq out name topics

end FrameCodec

theorem client_frames_read_back (bufLen : Nat) (room : frameHeaderSize ≤ bufLen) (message : Message)
    (fits : message.Fits) (out : List UInt8) :
    (∃ frame, RouterClient.frameOf message = some frame ∧ ReadsBack bufLen frame message) ∧
      ∃ frame, FrameCodec.frameOf out message = some frame ∧ ReadsBack bufLen frame message := by
  have back := readsBack_layout room fits
  constructor
  · refine ⟨_, ?_, back⟩
    rw [RouterClient.frameOf_eq, RouterClient.makeFrame_eq, if_pos fits.size]
  · exact ⟨_, FrameCodec.frameOf_eq out fits.size, back⟩

theorem register_read_back :
    (∃ frame, RouterClient.frameOf (.register [120] [[97], []]) = some frame ∧
        ReadsBack 65536 frame (.register [120] [[97], []])) ∧
      ∃ frame, FrameCodec.frameOf [1, 2, 3] (.register [120] [[97], []]) = some frame ∧
        ReadsBack 65536 frame (.register [120] [[97], []]) :=
  client_frames_read_back 65536 (by decide) (.register [120] [[97], []])
    ⟨by decide, by decide, by decide⟩ [1, 2, 3]

/-- What either client sends as a publish goes out to the subscribers byte for byte. -/
theorem publish_forwarded (bufLen : Nat) (room : frameHeaderSize ≤ bufLen) (topic : Name)
    (data out buf : List UInt8) (fits : (Message.publish topic data).Fits) :
    ∃ frame, RouterClient.makePublishFrame topic data = some frame ∧
      FrameCodec.buildPublishFrame out topic data = some frame ∧
        ReadsBack bufLen frame (.publish topic data) ∧ allocPublishFrame buf topic data = frame := by
  refine ⟨_, ?_, FrameCodec.frameOf_eq out fits.size, readsBack_layout room fits, ?_⟩
  · change RouterClient.frameOf (.publish topic data) = _
    rw [RouterClient.frameOf_eq, RouterClient.makeFrame_eq, if_pos fits.size]
  · rw [allocPublishFrame_eq, publishPayload, ← append_assoc]
    rfl

theorem block_forwarded : ∃ frame, RouterClient.makePublishFrame [119] [7] = some frame ∧
    FrameCodec.buildPublishFrame [1, 2] [119] [7] = some frame ∧
      ReadsBack 5 frame (.publish [119] [7]) ∧ allocPublishFrame [] [119] [7] = frame :=
  publish_forwarded 5 (by decide) [119] [7] [1, 2] [] ⟨by decide, by decide, by decide⟩

theorem length_readTopics_le (payload : List UInt8) (remaining offset : Nat) :
    (readTopics payload remaining offset).length ≤ remaining := by
  induction remaining generalizing offset with
  | zero => exact Nat.le_refl 0
  | succ remaining ih =>
    rw [readTopics]
    cases readString payload offset with
    | none => exact Nat.le_succ_of_le (ih offset)
    | some read => exact Nat.succ_le_succ (ih read.2)

theorem readRegister_topics_lt (reads : readRegister payload = some (name, topics)) :
    topics.length < 2 ^ 16 := by
  unfold readRegister at reads
  cases named : readString payload 0 with
  | none =>
    rw [named] at reads
    cases reads
  | some found =>
    obtain ⟨text, offset⟩ := found
    rw [named] at reads
    dsimp only at reads
    split at reads
    case isTrue => cases reads
    case isFalse =>
      obtain ⟨-, rfl⟩ := Prod.mk.inj (Option.some.inj reads)
      have bound := bigEndian_lt ((payload.drop offset).take 2)
      have digits : ((payload.drop offset).take 2).length ≤ 2 := length_take_le _ _
      have widest : 256 ^ ((payload.drop offset).take 2).length ≤ 256 ^ 2 :=
        Nat.pow_le_pow_right (by decide) digits
      have counted := length_readTopics_le payload
        (bigEndian ((payload.drop offset).take 2)) (offset + 2)
      omega

theorem registrationOf_topics_lt (asks : registrationOf frame = some (name, topics)) :
    topics.length < 2 ^ 16 := by
  unfold registrationOf at asks
  split at asks
  · exact readRegister_topics_lt asks
  · cases asks

theorem ReadsBack.topicCount_lt (back : ReadsBack bufLen frame message) :
    message.topicCount < 2 ^ 16 := by
  obtain ⟨content, -, reads⟩ := back []
  cases message with
  | subscribe topic => exact Nat.two_pow_pos 16
  | publish topic data => exact Nat.two_pow_pos 16
  | register name topics =>
    unfold readMessage at reads
    split at reads
    · cases string : readString content.2 0 <;> rw [string] at reads <;> cases reads
    split at reads
    · cases string : readString content.2 0 <;> rw [string] at reads <;> cases reads
    cases asks : registrationOf content with
    | none =>
      rw [asks] at reads
      cases reads
    | some asked =>
      rw [asks] at reads
      obtain ⟨same, -⟩ := Prod.mk.inj (Option.some.inj reads)
      cases same
      exact registrationOf_topics_lt asks

def manyTopics : Message := .register [120] (replicate (2 ^ 16) [])

def longPublish : Message := .publish [116] (replicate (2 ^ 32) 0)

theorem short_strings_not_read_back :
    (∀ text ∈ manyTopics.strings ++ longPublish.strings, text.length < 2 ^ 16) ∧
      (¬ ∃ frame, RouterClient.frameOf manyTopics = some frame ∧ ReadsBack 65536 frame manyTopics) ∧
      (¬ ∃ frame, FrameCodec.frameOf [] manyTopics = some frame ∧
        ReadsBack 65536 frame manyTopics) ∧
      ¬ ∃ frame, RouterClient.frameOf longPublish = some frame ∧
        ReadsBack 65536 frame longPublish := by
  have count : manyTopics.topicCount = 2 ^ 16 := length_replicate
  have wraps (frame : List UInt8) : ¬ ReadsBack 65536 frame manyTopics := by
    intro back
    have fewer := back.topicCount_lt
    omega
  refine ⟨?_, ?_, ?_, ?_⟩
  · intro text listed
    simp only [manyTopics, longPublish, Message.strings, mem_append, mem_cons,
      mem_replicate, not_mem_nil, or_false] at listed
    rcases listed with (rfl | ⟨-, rfl⟩) | rfl <;> decide
  · rintro ⟨frame, -, back⟩
    exact wraps frame back
  · rintro ⟨frame, -, back⟩
    exact wraps frame back
  · rintro ⟨frame, makes, -⟩
    have long : 2 ^ 32 ≤ longPublish.payload.length := by
      rw [longPublish, Message.payload, length_append, length_replicate]
      exact Nat.le_add_left _ _
    rw [RouterClient.frameOf_eq, RouterClient.makeFrame_eq, if_neg (by omega)] at makes
    cases makes

end GtnhPlatform.Router
