import GtnhPlatform.Router.Frame

namespace GtnhPlatform.Router

open Bytes List

variable {bufLen : Nat} {stream rest : List UInt8}

theorem readFrame_length {content : Content}
    (accepted : readFrame bufLen stream = .ok (content, rest)) :
    stream.length = frameHeaderSize + content.2.length + rest.length ∧
      1 + content.2.length < 2 ^ 32 := by
  unfold readFrame at accepted
  by_cases small : bufLen < frameHeaderSize
  · rw [if_pos small] at accepted
    contradiction
  by_cases header : frameHeaderSize ≤ stream.length
  · rw [if_neg small, readFull, if_pos header] at accepted
    simp only at accepted
    generalize lengthEq : bigEndian ((stream.take frameHeaderSize).take 4) = payloadLen
      at accepted
    have bound : payloadLen < 2 ^ 32 := by
      have := bigEndian_lt ((stream.take frameHeaderSize).take 4)
      have width : ((stream.take frameHeaderSize).take 4).length = 4 := by
        rw [length_take, length_take]
        simp only [frameHeaderSize] at header ⊢
        omega
      rw [width, lengthEq] at this
      omega
    by_cases short : payloadLen < 1
    · rw [if_pos short] at accepted
      contradiction
    by_cases bare : payloadLen - 1 = 0
    · rw [if_neg short, if_pos bare] at accepted
      cases accepted
      rw [length_drop, length_nil]
      omega
    rw [if_neg short, if_neg bare, readFull] at accepted
    by_cases body : payloadLen - 1 ≤ (stream.drop frameHeaderSize).length
    · rw [if_pos body] at accepted
      cases accepted
      simp only [length_drop, length_take] at body ⊢
      omega
    · rw [if_neg body] at accepted
      cases empty : (stream.drop frameHeaderSize).isEmpty <;>
        simp [empty] at accepted
  · rw [if_neg small, readFull, if_neg header] at accepted
    cases empty : stream.isEmpty <;> simp [empty] at accepted

theorem readFrame_layout (room : frameHeaderSize ≤ bufLen) {content : Content}
    (bound : 1 + content.2.length < 2 ^ 32) (rest : List UInt8) :
    readFrame bufLen (layout content ++ rest) = .ok (content, rest) := by
  obtain ⟨msgType, payload⟩ := content
  have split : layout (msgType, payload) ++ rest =
      (putBigEndian 4 (1 + payload.length) ++ [msgType]) ++ (payload ++ rest) := by
    simp [layout]
  have width : (putBigEndian 4 (1 + payload.length) ++ [msgType]).length = frameHeaderSize := by
    simp [frameHeaderSize]
  have header : readFull frameHeaderSize (layout (msgType, payload) ++ rest) =
      .ok (putBigEndian 4 (1 + payload.length) ++ [msgType], payload ++ rest) := by
    rw [split, ← width, readFull, if_pos (prefix_append _ _).length_le, take_left, drop_left]
  have prefixBytes : (putBigEndian 4 (1 + payload.length) ++ [msgType]).take 4 =
      putBigEndian 4 (1 + payload.length) := by
    rw [take_left' (length_putBigEndian 4 _)]
  have typeByte : (putBigEndian 4 (1 + payload.length) ++ [msgType]).getD 4 0 = msgType := by
    simp
  have decoded : bigEndian (putBigEndian 4 (1 + payload.length)) = 1 + payload.length := by
    rw [bigEndian_putBigEndian]
    exact Nat.mod_eq_of_lt bound
  rw [readFrame, if_neg (by omega), header]
  simp only [prefixBytes, typeByte, decoded]
  rw [if_neg (by omega), Nat.add_sub_cancel_left]
  cases payload with
  | nil => rfl
  | cons first others =>
    rw [if_neg (by simp), readFull, if_pos (by simp), take_left, drop_left]

structure ReadRun where
  contents : List Content
  error : ReadError
  unread : List UInt8

def readFrames (bufLen : Nat) (stream : List UInt8) : ReadRun :=
  match _accepted : readFrame bufLen stream with
  | .error error => ⟨[], error, stream⟩
  | .ok (content, rest) =>
    let run := readFrames bufLen rest
    { run with contents := content :: run.contents }
  termination_by stream.length
  decreasing_by
    have consumed := (readFrame_length _accepted).1
    simp only [frameHeaderSize] at consumed
    omega

theorem readFrames_of_error {stream : List UInt8}
    (failed : readFrame bufLen stream = .error error) :
    readFrames bufLen stream = ⟨[], error, stream⟩ := by
  rw [readFrames]
  split
  · next other => rw [failed] at other; cases other; rfl
  · next other => rw [failed] at other; contradiction

theorem readFrames_of_ok (accepted : readFrame bufLen stream = .ok (content, rest)) :
    readFrames bufLen stream =
      { readFrames bufLen rest with
        contents := content :: (readFrames bufLen rest).contents } := by
  rw [readFrames]
  split
  · next other => rw [accepted] at other; contradiction
  · next other => rw [accepted] at other; cases other; rfl

theorem readFrames_nil (room : frameHeaderSize ≤ bufLen) :
    readFrames bufLen [] = ⟨[], .eof, []⟩ := by
  refine readFrames_of_error ?_
  rw [readFrame, if_neg (by omega)]
  rfl

theorem readFrames_length (bufLen : Nat) (stream : List UInt8) :
    stream.length =
      ((readFrames bufLen stream).contents.map fun content =>
        frameHeaderSize + content.2.length).sum +
        (readFrames bufLen stream).unread.length := by
  induction stream using readFrames.induct bufLen with
  | case1 stream error failed => rw [readFrames_of_error failed]; simp
  | case2 stream content rest accepted ih =>
    have consumed := (readFrame_length accepted).1
    rw [readFrames_of_ok accepted, map_cons, sum_cons]
    simp only
    omega

inductive FrameCall where
  | makeControlFrame (msgType : MsgType) (payload : List UInt8)
  | makeFrame (msgType : MsgType) (payload : List UInt8)
  | allocPublishFrame (buf topicBytes data : List UInt8)

namespace FrameCall

def bytes : FrameCall → List UInt8
  | .makeControlFrame msgType payload => Router.makeControlFrame msgType payload
  | .makeFrame msgType payload => Router.makeFrame msgType payload
  | .allocPublishFrame buf topicBytes data => Router.allocPublishFrame buf topicBytes data

def content : FrameCall → Content
  | .makeControlFrame msgType payload => (msgType, payload)
  | .makeFrame msgType payload => (msgType, payload)
  | .allocPublishFrame _ topicBytes data => (msgPublish, publishPayload topicBytes data)

def slack : FrameCall → Nat
  | .makeControlFrame _ _ => 1
  | .makeFrame _ _ => 1
  | .allocPublishFrame _ _ _ => 0

def FramedExactly : FrameCall → Prop
  | .makeControlFrame _ _ => False
  | .makeFrame _ _ => False
  | .allocPublishFrame _ topicBytes data => 3 + topicBytes.length + data.length < 2 ^ 32

theorem bytes_eq (call : FrameCall) : call.bytes = layout call.content ++ zeros call.slack := by
  cases call with
  | makeControlFrame msgType payload => exact makeControlFrame_eq msgType payload
  | makeFrame msgType payload => exact makeFrame_eq msgType payload
  | allocPublishFrame buf topicBytes data =>
    rw [bytes, allocPublishFrame_eq]
    exact (append_nil _).symm

theorem framedExactly_iff (call : FrameCall) :
    call.FramedExactly ↔ call.slack = 0 ∧ 1 + call.content.2.length < 2 ^ 32 := by
  cases call with
  | makeControlFrame msgType payload => simp [FramedExactly, slack]
  | makeFrame msgType payload => simp [FramedExactly, slack]
  | allocPublishFrame buf topicBytes data =>
    simp only [FramedExactly, slack, content, length_publishPayload, true_and]
    omega

end FrameCall

def wire (calls : List FrameCall) : List UInt8 := calls.flatMap FrameCall.bytes

theorem length_wire (calls : List FrameCall) :
    (wire calls).length =
      ((calls.map FrameCall.content).map fun content =>
        frameHeaderSize + content.2.length).sum + (calls.map FrameCall.slack).sum := by
  induction calls with
  | nil => rfl
  | cons call rest ih =>
    simp only [wire] at ih
    simp only [wire, flatMap_cons, length_append, ih, call.bytes_eq,
      length_layout, zeros, length_replicate, map_cons, sum_cons]
    omega

/-- The reader gets exactly the frames written and stops at the end of the
stream. -/
def RoundTrips (bufLen : Nat) (calls : List FrameCall) : Prop :=
  readFrames bufLen (wire calls) = ⟨calls.map FrameCall.content, .eof, []⟩

variable {calls : List FrameCall}

theorem RoundTrips.slack_eq_zero (roundTrips : RoundTrips bufLen calls) :
    ∀ call ∈ calls, call.slack = 0 := by
  have counted := readFrames_length bufLen (wire calls)
  rw [roundTrips, length_wire] at counted
  have none : (calls.map FrameCall.slack).sum = 0 := by
    simp only [length_nil] at counted
    omega
  intro call mem
  exact List.sum_eq_zero_iff_forall_eq_nat.mp none _ (List.mem_map_of_mem mem)

variable {call : FrameCall}

theorem RoundTrips.head (roundTrips : RoundTrips bufLen (call :: calls)) :
    1 + call.content.2.length < 2 ^ 32 := by
  cases accepted : readFrame bufLen (wire (call :: calls)) with
  | error error =>
    rw [RoundTrips, readFrames_of_error accepted] at roundTrips
    simp at roundTrips
  | ok result =>
    obtain ⟨content, rest⟩ := result
    rw [RoundTrips, readFrames_of_ok accepted, map_cons] at roundTrips
    have same := (cons.inj (ReadRun.mk.inj roundTrips).1).1
    rw [← same]
    exact (readFrame_length accepted).2

theorem readFrame_wire (room : frameHeaderSize ≤ bufLen) (exactly : call.FramedExactly)
    (calls : List FrameCall) :
    readFrame bufLen (wire (call :: calls)) = .ok (call.content, wire calls) := by
  obtain ⟨slack, bound⟩ := call.framedExactly_iff.mp exactly
  have head : wire (call :: calls) = layout call.content ++ wire calls := by
    simp [wire, call.bytes_eq, slack, zeros]
  rw [head]
  exact readFrame_layout room bound _

theorem roundTrips_cons (room : frameHeaderSize ≤ bufLen) (exactly : call.FramedExactly)
    (calls : List FrameCall) : RoundTrips bufLen (call :: calls) ↔ RoundTrips bufLen calls := by
  rw [RoundTrips, RoundTrips, readFrames_of_ok (readFrame_wire room exactly calls)]
  generalize readFrames bufLen (wire calls) = run
  obtain ⟨contents, error, unread⟩ := run
  simp

/-- The encoders' output survives the reader exactly when every frame is a
publish frame that fits its prefix: the two other encoders write one byte more
than they announce. -/
theorem roundTrips_iff (bufLen : Nat) (room : frameHeaderSize ≤ bufLen) (calls : List FrameCall) :
    RoundTrips bufLen calls ↔ ∀ call ∈ calls, call.FramedExactly := by
  induction calls with
  | nil =>
    simp only [not_mem_nil, false_implies, implies_true, iff_true]
    exact readFrames_nil room
  | cons call calls ih =>
    rw [forall_mem_cons]
    constructor
    · intro roundTrips
      have exactly : call.FramedExactly := call.framedExactly_iff.mpr
          ⟨roundTrips.slack_eq_zero call mem_cons_self, roundTrips.head⟩
      exact ⟨exactly, ih.mp ((roundTrips_cons room exactly calls).mp roundTrips)⟩
    · intro every
      exact (roundTrips_cons room every.1 calls).mpr (ih.mpr every.2)

theorem controlFrame_does_not_roundTrip :
    ¬ RoundTrips 65536 [.makeControlFrame msgHeartbeat []] := by
  intro roundTrips
  have slack := roundTrips.slack_eq_zero _ mem_cons_self
  exact absurd slack (by decide)

theorem publishFrame_roundTrips : RoundTrips 65536 [.allocPublishFrame [] [0x61] [0x01, 0x02]] := by
  refine (roundTrips_iff 65536 (by decide) _).mpr ?_
  intro call mem
  obtain rfl := mem_singleton.mp mem
  exact (by decide : 3 + 1 + 2 < 2 ^ 32)

end GtnhPlatform.Router
