import GtnhPlatform.Router.ClientFrames

namespace GtnhPlatform.Net

open Bytes List
open Router (Content MsgType layout frameHeaderSize)
open Router.FrameCodec (resize length_resize)

/-! The reading side of a connection. -/

def kReadBufSize : Nat := 65536

def kMaxPayload : Nat := 4 * 1024 * 1024

/-- `pack` takes the steps of `make_frame`. -/
def pack (type : MsgType) (data : List UInt8) : Option (List UInt8) :=
  Router.RouterClient.makeFrame type data

def packAll (frames : List Content) : Option (List UInt8) :=
  (frames.mapM fun frame => pack frame.1 frame.2).map flatten

structure PendingMsg where
  mt : MsgType
  len : Nat
  data : Option Nat

structure Scan where
  consecutiveBadHeaders : Nat
  batch : List PendingMsg := []
  delivered : List Content := []
  closed : Bool := false

def PendingMsg.message (buf : List UInt8) (pending : PendingMsg) : Content :=
  match pending.data with
  | none => (pending.mt, [])
  | some offset => (pending.mt, (buf.drop offset).take pending.len)

def Scan.flush (buf : List UInt8) (scan : Scan) : Scan :=
  { scan with
    delivered := scan.delivered ++ scan.batch.map (PendingMsg.message buf)
    batch := [] }

def Scan.enter (buf : List UInt8) (scan : Scan) (pending : PendingMsg) : Scan :=
  let scan := { scan with batch := scan.batch ++ [pending] }
  if scan.batch.length = 64 then scan.flush buf else scan

/-- The loop of `parse_incoming_`: where it stops, and what it has done.
`graceElapsed` answers for the clock at each bad header. -/
def scanFrames (buf : List UInt8) (readEnd : Nat) (graceElapsed : Nat → Bool) (pos : Nat)
    (scan : Scan) : Nat × Scan :=
  if _more : 5 ≤ readEnd - pos then
    let rawLen := bigEndian ((buf.drop pos).take 4)
    if rawLen = 0 then
      let bad :=
        if graceElapsed pos then scan.consecutiveBadHeaders + 1 else scan.consecutiveBadHeaders
      let scan := { scan with consecutiveBadHeaders := bad }
      if graceElapsed pos && decide (3 < bad) then (pos, { scan with closed := true })
      else scanFrames buf readEnd graceElapsed (pos + 1) scan
    else
      let scan := { scan with consecutiveBadHeaders := 0 }
      let payloadLen := rawLen - 1
      if kMaxPayload < payloadLen then (pos, { scan with closed := true })
      else
        let frameLen := 4 + rawLen
        if readEnd - pos < frameLen then (pos, scan)
        else
          let data := if payloadLen = 0 then none else some (pos + 5)
          scanFrames buf readEnd graceElapsed (pos + frameLen)
            (scan.enter buf ⟨buf.getD (pos + 4) 0, payloadLen, data⟩)
  else (pos, scan)
termination_by readEnd - pos

structure ReadState where
  readBuf : List UInt8 := zeros kReadBufSize
  readPos : Nat := 0
  readEnd : Nat := 0
  consecutiveBadHeaders : Nat := 0
  isOpen : Bool := true

namespace ReadState

/-- A closing scan leaves its batch undelivered and the buffer as it is. -/
def parseIncoming (conn : ReadState) (graceElapsed : Nat → Bool) : ReadState × List Content :=
  let (pos, scan) := scanFrames conn.readBuf conn.readEnd graceElapsed conn.readPos
    ⟨conn.consecutiveBadHeaders, [], [], false⟩
  let conn := { conn with consecutiveBadHeaders := scan.consecutiveBadHeaders }
  if scan.closed then ({ conn with isOpen := false }, scan.delivered)
  else
    let tail := conn.readEnd - pos
    let readBuf :=
      if conn.readBuf.length - conn.readEnd < kReadBufSize then
        resize (conn.readEnd + kReadBufSize) conn.readBuf
      else conn.readBuf
    let compacted :=
      if 0 < pos then
        { conn with
          readBuf := write 0 ((readBuf.drop pos).take tail) readBuf
          readPos := 0
          readEnd := tail }
      else { conn with readBuf := readBuf, readPos := pos }
    (compacted, (scan.flush conn.readBuf).delivered)

end ReadState

/-- How many bytes the kernel has for a `read`, and the clock while it is
parsed. -/
structure Poll where
  size : Nat
  graceElapsed : Nat → Bool

/-- `read` returns no more than fits behind `read_end_`. When it returns nothing
it is tried again. -/
def readAndParse (state : ReadState × List UInt8) (poll : Poll) :
    (ReadState × List UInt8) × List Content :=
  let (conn, socket) := state
  if conn.isOpen then
    let got := socket.take (min poll.size (conn.readBuf.length - conn.readEnd))
    if got.isEmpty then (state, [])
    else
      let staged :=
        { conn with
          readBuf := write conn.readEnd got conn.readBuf
          readEnd := conn.readEnd + got.length }
      let parsed := staged.parseIncoming poll.graceElapsed
      ((parsed.1, socket.drop got.length), parsed.2)
  else (state, [])

def machine : Machine (ReadState × List UInt8) Poll Content := ⟨readAndParse⟩

def wire (frames : List Content) : List UInt8 := frames.flatMap layout

theorem wire_cons (frame : Content) (frames : List Content) :
    wire (frame :: frames) = layout frame ++ wire frames := rfl

theorem wire_append (first second : List Content) :
    wire (first ++ second) = wire first ++ wire second := flatMap_append

def Small (frames : List Content) : Prop := ∀ frame ∈ frames, frame.2.length ≤ kMaxPayload

def Incomplete (held : Nat) (frames : List Content) : Prop :=
  ∀ first rest, frames = first :: rest → held < (layout first).length

def Scan.shown (buf : List UInt8) (scan : Scan) : List Content := (scan.flush buf).delivered

theorem Scan.shown_enter (buf : List UInt8) (scan : Scan) (pending : PendingMsg) :
    (scan.enter buf pending).shown buf = scan.shown buf ++ [pending.message buf] := by
  unfold enter
  dsimp only
  split <;> simp [shown, flush]

theorem Scan.closed_enter (buf : List UInt8) (scan : Scan) (pending : PendingMsg) :
    (scan.enter buf pending).closed = scan.closed := by
  unfold enter
  dsimp only
  split <;> rfl

theorem Scan.batch_enter {buf : List UInt8} {scan : Scan} (pending : PendingMsg)
    (room : scan.batch.length < 64) : (scan.enter buf pending).batch.length < 64 := by
  unfold enter
  dsimp only
  split
  case isTrue => exact Nat.zero_lt_succ 63
  case isFalse notFull =>
    rw [length_append] at notFull ⊢
    simp only [length_cons, length_nil] at notFull ⊢
    omega

theorem layout_take_four (frame : Content) (after : List UInt8) :
    (layout frame ++ after).take 4 = putBigEndian 4 (1 + frame.2.length) := by
  rw [layout, append_assoc]
  exact take_left' (length_putBigEndian 4 _)

theorem layout_drop_four (frame : Content) (after : List UInt8) :
    (layout frame ++ after).drop 4 = frame.1 :: (frame.2 ++ after) := by
  rw [layout, append_assoc]
  exact drop_left' (length_putBigEndian 4 _)

variable {frame : Content}

theorem header_of_small (small : frame.2.length ≤ kMaxPayload) :
    bigEndian (putBigEndian 4 (1 + frame.2.length)) = 1 + frame.2.length := by
  rw [bigEndian_putBigEndian]
  apply Nat.mod_eq_of_lt
  simp only [kMaxPayload] at small
  omega

theorem message_at {buf : List UInt8} {pos : Nat} {after : List UInt8}
    (placed : buf.drop pos = layout frame ++ after) :
    PendingMsg.message buf ⟨buf.getD (pos + 4) 0, frame.2.length,
      if frame.2.length = 0 then none else some (pos + 5)⟩ = frame := by
  have behind : buf.drop (pos + 4) = frame.1 :: (frame.2 ++ after) := by
    rw [← drop_drop, placed, layout_drop_four]
  have type : buf.getD (pos + 4) 0 = frame.1 := by
    have head : (buf.drop (pos + 4)).getD 0 0 = frame.1 := by rw [behind]; rfl
    simpa [getD_eq_getElem?_getD] using head
  have payload : (buf.drop (pos + 5)).take frame.2.length = frame.2 := by
    have next : buf.drop (pos + 5) = frame.2 ++ after := by
      rw [← tail_drop, behind, tail_cons]
    rw [next, take_left]
  obtain ⟨mt, data⟩ := frame
  cases data with
  | nil => exact congrArg (·, []) type
  | cons first rest => exact congr (congrArg Prod.mk type) payload

/-- A scan from `pos` has taken the frames `done` off the buffer, and waits for
the first of `rest`. -/
structure TakesOff (buf : List UInt8) (readEnd pos : Nat) (scan : Scan)
    (done rest : List Content) (result : Nat × Scan) : Prop where
  pos : result.1 = pos + (wire done).length
  inside : result.1 ≤ readEnd
  isOpen : result.2.closed = false
  batch : result.2.batch.length < 64
  shown : result.2.shown buf = scan.shown buf ++ done
  waits : Incomplete (readEnd - result.1) rest

variable {buf : List UInt8} {readEnd : Nat} {graceElapsed : Nat → Bool} {pos : Nat} {scan : Scan}
    {frames : List Content}

theorem TakesOff.nothing {bad : Nat} (inside : pos ≤ readEnd) (isOpen : scan.closed = false)
    (batch : scan.batch.length < 64) (waits : Incomplete (readEnd - pos) frames) :
    TakesOff buf readEnd pos scan [] frames (pos, { scan with consecutiveBadHeaders := bad }) where
  pos := rfl
  inside := inside
  isOpen := isOpen
  batch := batch
  shown := (append_nil _).symm
  waits := waits

theorem scanFrames_frame (small : frame.2.length ≤ kMaxPayload) (more : 5 ≤ readEnd - pos)
    (header : (buf.drop pos).take 4 = putBigEndian 4 (1 + frame.2.length)) :
    scanFrames buf readEnd graceElapsed pos scan =
      if readEnd - pos < (layout frame).length then
        (pos, { scan with consecutiveBadHeaders := 0 })
      else
        scanFrames buf readEnd graceElapsed (pos + (layout frame).length)
          (Scan.enter buf { scan with consecutiveBadHeaders := 0 }
            ⟨buf.getD (pos + 4) 0, frame.2.length,
              if frame.2.length = 0 then none else some (pos + 5)⟩) := by
  have size : (layout frame).length = 4 + (1 + frame.2.length) := by
    rw [Router.length_layout, frameHeaderSize]
    omega
  rw [scanFrames, dif_pos more, header, header_of_small small]
  rw [if_neg (by omega), Nat.add_sub_cancel_left, if_neg (by omega), size]

theorem length_window (pos : Nat) (placed : readEnd ≤ buf.length) :
    ((buf.take readEnd).drop pos).length = readEnd - pos := by
  rw [length_drop, length_take, Nat.min_eq_left placed]

variable {unread : List UInt8}

theorem scanFrames_spec (graceElapsed : Nat → Bool) (small : Small frames) (inside : pos ≤ readEnd)
    (placed : readEnd ≤ buf.length) (holds : (buf.take readEnd).drop pos ++ unread = wire frames)
    (isOpen : scan.closed = false) (batch : scan.batch.length < 64) :
    ∃ done rest, frames = done ++ rest ∧ TakesOff buf readEnd pos scan done rest
        (scanFrames buf readEnd graceElapsed pos scan) := by
  induction frames generalizing pos scan with
  | nil =>
    have size := length_window pos placed
    rw [(append_eq_nil_iff.mp holds).1] at size
    have stops : scanFrames buf readEnd graceElapsed pos scan = (pos, scan) := by
      rw [scanFrames, dif_neg (by rw [← size]; exact Nat.not_succ_le_zero 4)]
    rw [stops]
    refine ⟨[], [], rfl, TakesOff.nothing inside isOpen batch ?_⟩
    intro first rest none
    cases none
  | cons frame frames ih =>
    have size := length_window pos placed
    have length := Router.length_layout frame
    have here := small frame mem_cons_self
    have spread : buf.drop pos = (buf.take readEnd).drop pos ++ buf.drop readEnd := by
      conv_lhs => rw [← take_append_drop readEnd buf]
      rw [drop_append_of_le_length]
      rw [length_take, Nat.min_eq_left placed]
      exact inside
    have waitsFor (short : readEnd - pos < (layout frame).length) :
        Incomplete (readEnd - pos) (frame :: frames) := by
      intro first rest split
      obtain ⟨rfl, -⟩ := cons.inj split
      exact short
    by_cases more : 5 ≤ readEnd - pos
    · have header : (buf.drop pos).take 4 = putBigEndian 4 (1 + frame.2.length) := by
        have front := congrArg (take 4) holds
        rw [wire_cons, layout_take_four, take_append_of_le_length (by omega)] at front
        rw [spread, take_append_of_le_length (by omega), front]
      rw [scanFrames_frame here more header]
      by_cases short : readEnd - pos < (layout frame).length
      · rw [if_pos short]
        exact ⟨[], frame :: frames, rfl, TakesOff.nothing inside isOpen batch (waitsFor short)⟩
      have front : ((buf.take readEnd).drop pos).take (layout frame).length =
          layout frame := by
        have taken := congrArg (take (layout frame).length) holds
        rw [wire_cons, take_left, take_append_of_le_length (by omega)] at taken
        exact taken
      have whole : (buf.take readEnd).drop pos =
          layout frame ++ (buf.take readEnd).drop (pos + (layout frame).length) := by
        conv_lhs => rw [← take_append_drop (layout frame).length (drop pos _)]
        rw [front, drop_drop]
      have placedFrame : buf.drop pos = layout frame ++
          ((buf.take readEnd).drop (pos + (layout frame).length) ++ buf.drop readEnd) := by
        rw [spread, whole, append_assoc]
      have later : (buf.take readEnd).drop (pos + (layout frame).length) ++ unread =
          wire frames := by
        rw [whole, append_assoc, wire_cons] at holds
        exact append_cancel_left holds
      have stillOpen : (Scan.enter buf { scan with consecutiveBadHeaders := 0 }
          ⟨buf.getD (pos + 4) 0, frame.2.length,
            if frame.2.length = 0 then none else some (pos + 5)⟩).closed = false :=
        (Scan.closed_enter _ _ _).trans isOpen
      obtain ⟨done, rest, split, takes⟩ := ih
        (fun other listed => small other (mem_cons_of_mem _ listed))
        (by omega) later stillOpen (Scan.batch_enter _ batch)
      rw [if_neg short]
      refine ⟨frame :: done, rest, congrArg (frame :: ·) split, ?_⟩
      exact
        { pos := by
            rw [takes.pos, wire_cons, length_append]
            omega
          __ := takes
          shown := by
            rw [takes.shown, Scan.shown_enter, message_at placedFrame, append_assoc]
            rfl
          waits := takes.waits }
    · have stops : scanFrames buf readEnd graceElapsed pos scan = (pos, scan) := by
        rw [scanFrames, dif_neg more]
      rw [stops]
      refine ⟨[], frame :: frames, rfl, TakesOff.nothing inside isOpen batch (waitsFor ?_)⟩
      rw [length, frameHeaderSize]
      omega

structure ReadState.Ready (conn : ReadState) : Prop where
  isOpen : conn.isOpen = true
  consumed : conn.readPos = 0
  room : conn.readEnd + kReadBufSize ≤ conn.readBuf.length

def ReadState.held (conn : ReadState) : List UInt8 := conn.readBuf.take conn.readEnd

theorem take_write_zero (bytes into : List UInt8) (fits : bytes.length ≤ into.length) :
    (write 0 bytes into).take bytes.length = bytes ∧ (write 0 bytes into).length = into.length := by
  rw [write_zero fits]
  constructor
  · exact take_left
  · rw [length_append, length_drop]
    omega

theorem grown_spec (placed : readEnd ≤ buf.length) : readEnd + kReadBufSize ≤
        (if buf.length - readEnd < kReadBufSize then resize (readEnd + kReadBufSize) buf
          else buf).length ∧
      (if buf.length - readEnd < kReadBufSize then resize (readEnd + kReadBufSize) buf
        else buf).take readEnd = buf.take readEnd := by
  split
  case isTrue small =>
    constructor
    · rw [length_resize]
    · rw [resize, take_of_length_le (show buf.length ≤ readEnd + kReadBufSize by omega),
        take_append_of_le_length placed]
  case isFalse large =>
    constructor
    · omega
    · rfl

theorem parseIncoming_spec (graceElapsed : Nat → Bool) {conn : ReadState} (small : Small frames)
    (isOpen : conn.isOpen = true) (consumed : conn.readPos = 0)
    (placed : conn.readEnd ≤ conn.readBuf.length) (holds : conn.held ++ unread = wire frames) :
    ∃ rest, frames = (conn.parseIncoming graceElapsed).2 ++ rest ∧
      (conn.parseIncoming graceElapsed).1.Ready ∧
      (conn.parseIncoming graceElapsed).1.held ++ unread = wire rest ∧
      Incomplete (conn.parseIncoming graceElapsed).1.readEnd rest := by
  let start : Scan := ⟨conn.consecutiveBadHeaders, [], [], false⟩
  have atFront : (conn.readBuf.take conn.readEnd).drop conn.readPos ++ unread = wire frames := by
    rw [consumed]
    exact holds
  have notClosed : start.closed = false := rfl
  have noBatch : start.batch.length < 64 := Nat.zero_lt_succ 63
  obtain ⟨done, rest, split, takes⟩ :=
    scanFrames_spec graceElapsed small (by omega) placed atFront notClosed noBatch
  unfold ReadState.parseIncoming
  cases scanned : scanFrames conn.readBuf conn.readEnd graceElapsed conn.readPos start with
  | mk pos scan =>
    rw [scanned] at takes
    have at_pos : pos = (wire done).length := by
      have reached : pos = conn.readPos + (wire done).length := takes.pos
      rw [reached, consumed, Nat.zero_add]
    have inside : pos ≤ conn.readEnd := takes.inside
    have shown : (scan.flush conn.readBuf).delivered = done := takes.shown
    have remains : (conn.readBuf.take conn.readEnd).drop pos ++ unread = wire rest := by
      have behind := congrArg (drop pos) holds
      rw [split, wire_append, at_pos, drop_left, ← at_pos, drop_append_of_le_length] at behind
      · exact behind
      · rw [ReadState.held, length_take, Nat.min_eq_left placed]
        exact inside
    obtain ⟨room, kept⟩ := grown_spec placed
    have stillOpen : scan.closed = false := takes.isOpen
    dsimp only
    rw [stillOpen, if_neg Bool.false_ne_true, shown]
    refine ⟨rest, split, ?_⟩
    generalize (if conn.readBuf.length - conn.readEnd < kReadBufSize then
      resize (conn.readEnd + kReadBufSize) conn.readBuf else conn.readBuf) = grown
      at room kept ⊢
    by_cases moved : 0 < pos
    · rw [if_pos moved]
      have front : (grown.drop pos).take (conn.readEnd - pos) =
          (conn.readBuf.take conn.readEnd).drop pos := by
        rw [← drop_take, kept]
      have tail : ((conn.readBuf.take conn.readEnd).drop pos).length = conn.readEnd - pos :=
        length_window pos placed
      rw [front]
      obtain ⟨written, sized⟩ := take_write_zero
        ((conn.readBuf.take conn.readEnd).drop pos) grown (by rw [tail]; omega)
      rw [tail] at written
      refine ⟨⟨isOpen, rfl, ?_⟩, ?_, takes.waits⟩
      · rw [sized]
        dsimp only
        omega
      · rw [← remains]
        exact congrArg (· ++ unread) written
    · rw [if_neg moved]
      obtain rfl : pos = 0 := by omega
      refine ⟨⟨isOpen, rfl, room⟩, ?_, takes.waits⟩
      rw [← remains, ReadState.held, kept]
      rfl

structure Delivers (frames : List Content) (state : ReadState × List UInt8)
    (delivered : List Content) : Prop where
  ready : state.1.Ready
  rest : ∃ rest, frames = delivered ++ rest ∧ state.1.held ++ state.2 = wire rest ∧
    Incomplete state.1.readEnd rest

theorem Delivers.step (small : Small frames) (delivers : Delivers frames state delivered)
    (poll : Poll) :
    Delivers frames (readAndParse state poll).1 (delivered ++ (readAndParse state poll).2) := by
  obtain ⟨conn, socket⟩ := state
  have ready : conn.Ready := delivers.ready
  have room := ready.room
  obtain ⟨rest, split, holds, waits⟩ := delivers.rest
  unfold readAndParse
  dsimp only
  rw [if_pos ready.isOpen]
  have short : (socket.take (min poll.size (conn.readBuf.length - conn.readEnd))).length ≤
      conn.readBuf.length - conn.readEnd := (length_take_le _ _).trans (Nat.min_le_right _ _)
  have joined : socket.take (min poll.size (conn.readBuf.length - conn.readEnd)) ++
      socket.drop (socket.take (min poll.size (conn.readBuf.length - conn.readEnd))).length =
        socket := prefix_iff_eq_append.mp ( take_prefix _ _)
  generalize socket.take (min poll.size (conn.readBuf.length - conn.readEnd)) = got
    at short joined ⊢
  cases got.isEmpty with
  | true =>
    rw [if_pos rfl, append_nil]
    exact delivers
  | false =>
    rw [if_neg Bool.false_ne_true]
    have start : conn.held.length = conn.readEnd := by
      rw [ReadState.held, length_take]
      omega
    have written : write conn.readEnd got conn.readBuf =
        conn.held ++ got ++ (conn.readBuf.drop conn.readEnd).drop got.length := by
      conv_lhs => rw [← take_append_drop conn.readEnd conn.readBuf]
      exact write_append start (by rw [length_drop]; omega)
    let staged : ReadState :=
      { conn with
        readBuf := write conn.readEnd got conn.readBuf
        readEnd := conn.readEnd + got.length }
    have placed : staged.readEnd ≤ staged.readBuf.length := by
      change conn.readEnd + got.length ≤ (write conn.readEnd got conn.readBuf).length
      rw [written, length_append, length_append, start]
      exact Nat.le_add_right _ _
    have arrived : staged.held = conn.held ++ got := by
      change (write conn.readEnd got conn.readBuf).take (conn.readEnd + got.length) = _
      rw [written, ← start, ← length_append, take_left]
    have heldNow : staged.held ++ socket.drop got.length = wire rest := by
      rw [arrived, append_assoc, joined]
      exact holds
    have smallRest : Small rest := by
      intro frame listed
      apply small
      rw [split]
      exact mem_append_right _ listed
    obtain ⟨later, splitLater, readyLater, holdsLater, waitsLater⟩ :=
      parseIncoming_spec poll.graceElapsed smallRest
        (show staged.isOpen = true from ready.isOpen) ready.consumed placed heldNow
    refine ⟨readyLater, later, ?_, holdsLater, waitsLater⟩
    rw [split, append_assoc]
    exact congrArg (delivered ++ ·) splitLater

theorem delivers_run (small : Small frames) (polls : List Poll) :
    Delivers frames (machine.final ({}, wire frames) polls)
      (machine.outputs ({}, wire frames) polls) := by
  refine machine.invariant (fun _ _ => True) (fun _ state delivered =>
    Delivers frames state delivered) ?_ ?_ polls (machine.along_true _ _)
  · refine ⟨⟨rfl, rfl, ?_⟩, frames, rfl, rfl, ?_⟩
    · rw [Router.length_zeros]
      exact (Nat.zero_add _).le
    · intro first rest split
      rw [Router.length_layout]
      exact Nat.lt_of_lt_of_le (Nat.zero_lt_succ 4) (Nat.le_add_right _ _)
  · intro inputs state delivered poll delivers now
    exact delivers.step small poll

theorem pack_small {data : List UInt8} (small : data.length ≤ kMaxPayload) :
    pack type data = some (layout (type, data)) := by
  rw [pack, Router.RouterClient.makeFrame_eq, if_pos]
  simp only [frameHeaderSize, kMaxPayload] at small ⊢
  omega

theorem packAll_small (small : Small frames) : packAll frames = some (wire frames) := by
  have packed : frames.mapM (fun frame => pack frame.1 frame.2) = some (frames.map layout) := by
    induction frames with
    | nil => rfl
    | cons frame frames ih =>
      rw [mapM_cons, pack_small (small frame mem_cons_self),
        ih fun other listed => small other (mem_cons_of_mem _ listed)]
      rfl
  rw [packAll, packed]
  exact congrArg some flatMap_def.symm

theorem incoming_frames_delivered (frames : List Content) (small : Small frames)
    (polls : List Poll) : ∃ stream, packAll frames = some stream ∧
      (machine.final ({}, stream) polls).1.isOpen = true ∧
      (machine.final ({}, stream) polls).1.readPos ≤ (machine.final ({}, stream) polls).1.readEnd ∧
      (machine.final ({}, stream) polls).1.readEnd + kReadBufSize ≤
        (machine.final ({}, stream) polls).1.readBuf.length ∧
      (∃ rest, frames = machine.outputs ({}, stream) polls ++ rest ∧
        Incomplete (machine.final ({}, stream) polls).1.readEnd rest) ∧
      ((machine.final ({}, stream) polls).2 = [] →
        machine.outputs ({}, stream) polls = frames) := by
  refine ⟨wire frames, packAll_small small, ?_⟩
  have delivers := delivers_run small polls
  obtain ⟨rest, split, holds, waits⟩ := delivers.rest
  refine ⟨delivers.ready.isOpen, ?_, delivers.ready.room, ⟨rest, split, waits⟩, ?_⟩
  · rw [delivers.ready.consumed]
    exact Nat.zero_le _
  intro arrived
  cases rest with
  | nil => exact (split.trans (append_nil _)).symm
  | cons first rest =>
    -- the whole of the first frame would be in the buffer
    have missing := waits first rest rfl
    rw [arrived, append_nil, wire_cons] at holds
    have size := congrArg length holds
    rw [ReadState.held, length_take, length_append] at size
    omega

theorem straddling_frames_delivered :
    ∃ stream, packAll [(3, [1, 2]), (5, [])] = some stream ∧ ((machine.final ({}, stream)
          [⟨3, fun _ => true⟩, ⟨3, fun _ => true⟩, ⟨9, fun _ => true⟩]).2 = [] →
        machine.outputs ({}, stream)
          [⟨3, fun _ => true⟩, ⟨3, fun _ => true⟩, ⟨9, fun _ => true⟩] =
            [(3, [1, 2]), (5, [])]) := by
  have small : Small [(3, [1, 2]), (5, [])] := by
    simp [Small, kMaxPayload]
  obtain ⟨stream, packed, -, -, -, -, delivered⟩ :=
    incoming_frames_delivered [(3, [1, 2]), (5, [])] small
      [⟨3, fun _ => true⟩, ⟨3, fun _ => true⟩, ⟨9, fun _ => true⟩]
  exact ⟨stream, packed, delivered⟩

end GtnhPlatform.Net
