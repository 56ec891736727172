import GtnhPlatform.Net.IncomingFrames

namespace GtnhPlatform.Net

/-! The writing side: frames are queued, batches of them submitted to the ring. -/

def kWriteBatchLimit : Nat := 32

def kTagBits : Nat := 24

abbrev Frame := { bytes : List UInt8 // bytes.length < 2 ^ 64 }

structure WriteOp where
  frame : Frame
  offset : Nat := 0

/-- A write in the ring. `seq` stands for the tag that it carries. -/
structure Sqe where
  seq : Nat
  bytes : List UInt8

structure Cqe where
  seq : Nat
  res : Int

inductive PollTask where
  | idle
  | resubmit (key seq : Nat)
  | refill

/-- `prepared` are the entries taken from the ring and not submitted, `starts`
the calls of `send_raw` that are about to run `start_next_writes`. -/
structure WriteState where
  tagWrite : Nat
  writeQueue : List Frame := []
  inFlight : Table Nat WriteOp := ∅
  nextWriteSeq : Nat := 0
  prepared : List Sqe := []
  submitted : List Sqe := []
  completed : List Cqe := []
  starts : Nat := 0
  poll : PollTask := .idle
  shuttingDown : Bool := false
  closePending : Bool := false
  isOpen : Bool := true

namespace WriteState

variable (conn : WriteState)

/-- The sequence number read from the tag of a completion: a tag has 24 bits. -/
def decodeSeq (seq : Nat) : Nat :=
  ((conn.tagWrite + seq) % 2 ^ kTagBits + 2 ^ 64 - conn.tagWrite) % 2 ^ 64

def submit : WriteState :=
  { conn with submitted := conn.submitted ++ conn.prepared, prepared := [] }

def cleanup : WriteState :=
  { conn with
    writeQueue := []
    inFlight := ∅
    prepared := []
    submitted := []
    completed := []
    poll := .idle
    closePending := false
    isOpen := false }

def close : WriteState :=
  if conn.isOpen then
    let conn := { conn with shuttingDown := true, writeQueue := [] }
    if conn.inFlight.entries.isEmpty then conn.cleanup else { conn with closePending := true }
  else conn

def sendRaw (frame : Frame) : WriteState :=
  if conn.shuttingDown then conn
  else
    { conn with
      writeQueue := conn.writeQueue ++ [frame]
      starts := if conn.inFlight.entries.isEmpty then conn.starts + 1 else conn.starts }

def prepareWrite : WriteState :=
  match conn.writeQueue with
  | [] => conn
  | frame :: queue =>
    { conn with
      writeQueue := queue
      nextWriteSeq := conn.nextWriteSeq + 1
      prepared := conn.prepared ++ [⟨conn.nextWriteSeq, frame.1⟩]
      inFlight := AList.insert conn.nextWriteSeq (⟨frame, 0⟩ : WriteOp) conn.inFlight }

/-- `room` is how many entries the ring gives out. When it runs out of them the
prepared ones are not submitted. -/
def startNextWrites (room : Nat) : WriteState :=
  if conn.writeQueue.isEmpty then conn
  else if conn.shuttingDown || !conn.isOpen then { conn with writeQueue := [] }
  else
    let batch := min conn.writeQueue.length kWriteBatchLimit
    let filled := prepareWrite^[min batch room] conn
    if room < batch then filled else filled.submit

/-- `on_write_complete` up to where it releases the lock. The offset is a
`size_t`. -/
def onWriteComplete (cqe : Cqe) : WriteState :=
  let key := conn.decodeSeq cqe.seq
  match conn.inFlight.lookup key with
  | none => conn
  | some op =>
    let op := { op with offset := (op.offset + (cqe.res % 2 ^ 64).toNat) % 2 ^ 64 }
    if op.offset < op.frame.1.length then
      if conn.isOpen then
        { conn with
          inFlight := AList.insert key op conn.inFlight
          poll := .resubmit key cqe.seq }
      else { conn with inFlight := conn.inFlight.erase key }
    else
      let conn := { conn with inFlight := conn.inFlight.erase key }
      if !conn.inFlight.entries.isEmpty then conn
      else if conn.closePending then conn.cleanup
      else { conn with poll := .refill }

/-- The poll thread takes the next completion, when it is done with the last. -/
def reap : WriteState :=
  match conn.poll, conn.completed with
  | .idle, cqe :: completed => { conn with completed := completed }.onWriteComplete cqe
  | _, _ => conn

def resume (room : Nat) : WriteState :=
  match conn.poll with
  | .idle => conn
  | .refill => { conn with poll := .idle }.startNextWrites room
  | .resubmit key seq =>
    let conn := { conn with poll := .idle }
    match conn.inFlight.lookup key with
    | none => conn
    | some op =>
      if room = 0 then conn.close
      else
        submit
          { conn with
            prepared := conn.prepared ++ [⟨seq, op.frame.1.drop op.offset⟩] }

end WriteState

inductive Outcome where
  | wrote (count : Nat)
  | failed (errno : Nat)

/-- A write ends with an error, or with a prefix of its bytes that is not empty
unless the write is. -/
def Outcome.Possible (sqe : Sqe) : Outcome → Bool
  | .wrote count => decide (count ≤ sqe.bytes.length) && (count ≠ 0 || sqe.bytes.isEmpty)
  | .failed errno => errno ≠ 0

def Outcome.res : Outcome → Int
  | .wrote count => count
  | .failed errno => -errno

inductive WriteInput where
  | sendRaw (frame : Frame)
  | send (type : Router.MsgType) (data : List UInt8)
  | start (room : Nat)
  | execute (outcome : Outcome)
  | reap
  | resume (room : Nat)
  | close
  | hangUp

/-- A connection, the frames it has accepted in send order and what its peer has
received. `owed` is what the last short write has left, until it is submitted
again; `failed` tells whether a write has ended with an error. -/
structure Link where
  conn : WriteState
  accepted : List Frame := []
  peer : List UInt8 := []
  owed : Option (Nat × List UInt8) := none
  failed : Bool := false

namespace Link

def sendRaw (link : Link) (frame : Frame) : Link :=
  { link with
    conn := link.conn.sendRaw frame
    accepted := if link.conn.shuttingDown then link.accepted else link.accepted ++ [frame] }

variable (link : Link)

def execute (outcome : Outcome) : Link :=
  match link.conn.submitted with
  | [] => link
  | sqe :: submitted =>
    if outcome.Possible sqe then
      let conn :=
        { link.conn with
          submitted := submitted
          completed := link.conn.completed ++ [⟨sqe.seq, outcome.res⟩] }
      match outcome with
      | .wrote count =>
        { link with
          conn := conn
          peer := link.peer ++ sqe.bytes.take count
          owed :=
            if count < sqe.bytes.length then some (sqe.seq, sqe.bytes.drop count)
            else link.owed }
      | .failed _ => { link with conn := conn, failed := true }
    else link

def resume (link : Link) (room : Nat) : Link :=
  { link with
    conn := link.conn.resume room
    owed :=
      match link.conn.poll with
      | .resubmit _ _ => if room = 0 then link.owed else none
      | _ => link.owed }

def handle : WriteInput → Link
  | .sendRaw frame => link.sendRaw frame
  | .send type data =>
    if kMaxPayload < data.length then link
    else
      match pack type data with
      | none => link
      | some bytes => if fits : bytes.length < 2 ^ 64 then link.sendRaw ⟨bytes, fits⟩ else link
  | .start room =>
    if link.conn.starts = 0 then link
    else
      { link with
        conn := { link.conn with starts := link.conn.starts - 1 }.startNextWrites room }
  | .execute outcome => link.execute outcome
  | .reap => { link with conn := link.conn.reap }
  | .resume room => link.resume room
  | .close => { link with conn := link.conn.close }
  | .hangUp => { link with conn := link.conn.close.cleanup }

def machine : Machine Link WriteInput Unit := ⟨fun link input => (link.handle input, [])⟩

def stream : List UInt8 := link.accepted.flatMap Subtype.val

def Settled : Prop := link.owed.isSome = true → link.conn.writeQueue = []

/-- A write delivers bytes only while none has failed, and ends short only with
no other write behind it. -/
def InTurn (sqe : Sqe) (behind : List Sqe) (count : Nat) : Prop :=
  (link.failed = true → count = 0) ∧ (count < sqe.bytes.length → behind = [])

/-- The tag of a completion is that of its own write, or of none in flight. -/
def OwnTag (seq : Nat) : Prop :=
  link.conn.decodeSeq seq = seq ∨ link.conn.inFlight.lookup (link.conn.decodeSeq seq) = none

def Orderly : WriteInput → Prop
  | .start _ => link.conn.starts ≠ 0 → link.Settled
  | .resume _ => link.conn.poll = .refill → link.Settled
  | .execute (.wrote count) =>
    match link.conn.submitted with
    | [] => True
    | sqe :: submitted =>
      (Outcome.wrote count).Possible sqe = true →
        link.InTurn sqe (submitted ++ link.conn.prepared) count
  | .reap =>
    match link.conn.poll, link.conn.completed with
    | .idle, cqe :: _ => link.OwnTag cqe.seq
    | _, _ => True
  | _ => True

end Link

end GtnhPlatform.Net
