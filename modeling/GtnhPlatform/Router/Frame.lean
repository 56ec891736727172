import GtnhPlatform.Data.Bytes
import GtnhPlatform.Data.Word

namespace GtnhPlatform.Router

open Bytes List

abbrev MsgType := UInt8

def msgSubscribe : MsgType := 0x01
def msgUnsubscribe : MsgType := 0x02
def msgPublish : MsgType := 0x03
def msgRegister : MsgType := 0x04
def msgHeartbeat : MsgType := 0x05
def msgHealthRequest : MsgType := 0x06
def msgHealthResponse : MsgType := 0x07

def frameHeaderSize : Nat := 5

abbrev Content := MsgType × List UInt8

def makeControlFrame (msgType : MsgType) (payload : List UInt8) : List UInt8 :=
  let frame := zeros (frameHeaderSize + 1 + payload.length)
  let frame := write 0 (putBigEndian 4 (1 + payload.length)) frame
  let frame := write 4 [msgType] frame
  write 5 payload frame

def makeFrame (msgType : MsgType) (payload : List UInt8) : List UInt8 :=
  let payloadLen := 1 + payload.length
  let frame := zeros (frameHeaderSize + payloadLen)
  let frame := write 0 (putBigEndian 4 payloadLen) frame
  let frame := write 4 [msgType] frame
  write 5 payload frame

def allocPublishFrame (buf topicBytes data : List UInt8) : List UInt8 :=
  let payloadLen := 1 + 2 + topicBytes.length + data.length
  let frameSize := 4 + payloadLen
  let buf := if buf.length < frameSize then zeros frameSize else buf
  let frame := buf.take frameSize
  let frame := write 0 (putBigEndian 4 payloadLen) frame
  let frame := write 4 [msgPublish] frame
  let frame := write 5 (putBigEndian 2 topicBytes.length) frame
  let frame := write 7 topicBytes frame
  write (7 + topicBytes.length) data frame

def writeFrame (msgType : MsgType) (payload : List UInt8) : List UInt8 :=
  let payloadLen := 1 + payload.length
  let frame := zeros (4 + payloadLen)
  let frame := write 0 (putBigEndian 4 payloadLen) frame
  let frame := write 4 [msgType] frame
  write 5 payload frame

inductive ReadError where
  | shortFrame
  | eof
  | unexpectedEOF

/-- `io.ReadFull`: the requested bytes and the rest of the stream. -/
def readFull (size : Nat) (stream : List UInt8) :
    Except ReadError (List UInt8 × List UInt8) :=
  if size ≤ stream.length then .ok (stream.take size, stream.drop size)
  else if stream.isEmpty then .error .eof
  else .error .unexpectedEOF

def readFrame (bufLen : Nat) (stream : List UInt8) :
    Except ReadError (Content × List UInt8) :=
  if bufLen < frameHeaderSize then .error .shortFrame
  else
    match readFull frameHeaderSize stream with
    | .error error => .error error
    | .ok (header, rest) =>
      let payloadLen := bigEndian (header.take 4)
      if payloadLen < 1 then .error .shortFrame
      else
        let msgType := header.getD 4 0
        let totalLen := payloadLen - 1
        if totalLen = 0 then .ok ((msgType, []), rest)
        else
          match readFull totalLen rest with
          | .error error => .error error
          | .ok (payload, rest) => .ok ((msgType, payload), rest)

/-- The header and payload both sides mean: the prefix counts the type byte. -/
def layout (content : Content) : List UInt8 :=
  putBigEndian 4 (1 + content.2.length) ++ content.1 :: content.2

theorem length_layout (content : Content) :
    (layout content).length = frameHeaderSize + content.2.length := by
  simp only [layout, length_append, length_putBigEndian, length_cons, frameHeaderSize]
  omega

variable (msgType : MsgType)

variable (payload : List UInt8)

theorem write_header_payload (slack : Nat) :
    write 5 payload (write 4 [msgType] (write 0 (putBigEndian 4 (1 + payload.length))
        (zeros (5 + payload.length + slack)))) = layout (msgType, payload) ++ zeros slack := by
  have size : (zeros (5 + payload.length + slack)).length = 5 + payload.length + slack :=
    length_replicate
  rw [write_zero (by rw [length_putBigEndian, size]; omega),
    write_append (by simp) (by simp [size]; omega),
    write_append (by simp) (by simp [size]; omega)]
  have left : 5 + payload.length + slack - 4 - 1 - payload.length = slack := by omega
  simp [layout, zeros, left]

theorem makeControlFrame_eq :
    makeControlFrame msgType payload = layout (msgType, payload) ++ [0] := by
  have slack := write_header_payload msgType payload 1
  rw [Nat.add_right_comm] at slack
  exact slack

theorem makeFrame_eq : makeFrame msgType payload = layout (msgType, payload) ++ [0] := by
  have slack := write_header_payload msgType payload 1
  rw [Nat.add_right_comm, Nat.add_assoc] at slack
  exact slack

theorem writeFrame_eq : writeFrame msgType payload = layout (msgType, payload) := by
  have slack := write_header_payload msgType payload 0
  have size : 4 + (1 + payload.length) = 5 + payload.length + 0 := by omega
  rw [writeFrame, size]
  simpa [zeros] using slack

def publishPayload (topicBytes data : List UInt8) : List UInt8 :=
  putBigEndian 2 topicBytes.length ++ (topicBytes ++ data)

theorem length_publishPayload (topicBytes data : List UInt8) :
    (publishPayload topicBytes data).length = 2 + topicBytes.length + data.length := by
  simp only [publishPayload, length_append, length_putBigEndian]
  omega

theorem allocPublishFrame_eq (buf topicBytes data : List UInt8) :
    allocPublishFrame buf topicBytes data =
      layout (msgPublish, publishPayload topicBytes data) := by
  let frameSize := 4 + (1 + 2 + topicBytes.length + data.length)
  let backing := if buf.length < frameSize then zeros frameSize else buf
  have enough : frameSize ≤ backing.length := by
    by_cases small : buf.length < frameSize
    · simp only [backing, if_pos small, zeros, length_replicate, le_refl]
    · simp only [backing, if_neg small]
      omega
  let frame := backing.take frameSize
  have size : frame.length = 7 + topicBytes.length + data.length := by
    simp only [frame, length_take]
    omega
  show write (7 + topicBytes.length) data (write 7 topicBytes
    (write 5 (putBigEndian 2 topicBytes.length) (write 4 [msgPublish]
      (write 0 (putBigEndian 4 (1 + 2 + topicBytes.length + data.length)) frame)))) = _
  rw [write_zero (by rw [length_putBigEndian]; omega),
    write_append (by simp) (by simp [size]; omega),
    write_append (by simp) (by simp [size]; omega),
    write_append (by simp) (by simp [size]; omega),
    write_append (by simp; omega) (by simp [size])]
  have finished : ((((frame.drop (putBigEndian 4
      (1 + 2 + topicBytes.length + data.length)).length).drop [msgPublish].length).drop
        (putBigEndian 2 topicBytes.length).length).drop topicBytes.length).drop data.length
          = [] := by
    rw [← length_eq_zero_iff]
    simp [size]
  rw [finished, layout, length_publishPayload, publishPayload]
  have counted : 1 + 2 + topicBytes.length + data.length =
      1 + (2 + topicBytes.length + data.length) := by omega
  rw [counted]
  simp

end GtnhPlatform.Router
