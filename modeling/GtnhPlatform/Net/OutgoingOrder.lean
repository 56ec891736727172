import GtnhPlatform.Net.OutgoingWrites

namespace GtnhPlatform.Net

open List Sqe

def WriteOp.rest (op : WriteOp) : List UInt8 := op.frame.1.drop op.offset

def WriteOp.Ended (op : WriteOp) (owed : Option (Nat × List UInt8)) (cqe : Cqe) : Prop :=
  ∃ count : Nat, cqe.res = count ∧ op.offset + count ≤ op.frame.1.length ∧
    (op.offset + count < op.frame.1.length →
      owed = some (cqe.seq, op.frame.1.drop (op.offset + count)))

def PollTask.seqs : PollTask → List Nat
  | .idle => []
  | .refill => []
  | .resubmit _ seq => [seq]

def owedBytes : Option (Nat × List UInt8) → List UInt8
  | none => []
  | some (_, bytes) => bytes

namespace WriteState

def ring (conn : WriteState) : List Sqe := conn.submitted ++ conn.prepared

def seqs (conn : WriteState) : List Nat :=
  conn.ring.map Sqe.seq ++ (conn.completed.map Cqe.seq ++ conn.poll.seqs)

structure InOrder (conn : WriteState) (owed : Option (Nat × List UInt8))
    (peer stream : List UInt8) : Prop where
  stream : ∃ dropped, peer ++ (owedBytes owed ++ (conn.ring.flatMap Sqe.bytes ++
      (conn.writeQueue.flatMap Subtype.val ++ dropped))) = stream ∧
    (conn.shuttingDown = false → dropped = [])
  alone : owed.isSome = true → conn.ring = []
  ring : ∀ sqe ∈ conn.ring, ∃ op, conn.inFlight.lookup sqe.seq = some op ∧
    op.offset ≤ op.frame.1.length ∧ op.rest = sqe.bytes
  completed : ∀ cqe ∈ conn.completed, ∃ op, conn.inFlight.lookup cqe.seq = some op ∧
    op.Ended owed cqe
  task : ∀ key seq, conn.poll = .resubmit key seq → key = seq ∧
    ∃ op, conn.inFlight.lookup key = some op ∧ op.offset ≤ op.frame.1.length ∧
      owed = some (seq, op.rest)
  distinct : conn.seqs.Nodup
  fresh : ∀ seq ∈ conn.seqs, seq < conn.nextWriteSeq
  closing : conn.closePending = true ∨ conn.isOpen = false → conn.shuttingDown = true

variable {conn : WriteState} {owed : Option (Nat × List UInt8)} {peer stream : List UInt8}

theorem InOrder.isPrefix (order : conn.InOrder owed peer stream) : peer <+: stream := by
  obtain ⟨dropped, split, -⟩ := order.stream
  exact ⟨_, split⟩

theorem InOrder.owed_none (order : conn.InOrder owed peer stream) (listed : sqe ∈ conn.ring) :
    owed = none := by
  cases owed with
  | none => rfl
  | some rest =>
    rw [order.alone rfl] at listed
    cases listed

theorem ring_submit (conn : WriteState) : conn.submit.ring = conn.ring := by
  simp [submit, ring]

theorem InOrder.submit (order : conn.InOrder owed peer stream) :
    conn.submit.InOrder owed peer stream where
  stream := by
    rw [ring_submit]
    exact order.stream
  alone := by
    rw [ring_submit]
    exact order.alone
  ring := by
    rw [ring_submit]
    exact order.ring
  __ := order
  distinct := by
    rw [seqs, ring_submit]
    exact order.distinct
  fresh := by
    rw [seqs, ring_submit]
    exact order.fresh

theorem InOrder.prepareWrite (order : conn.InOrder none peer stream) :
    conn.prepareWrite.InOrder none peer stream := by
  unfold WriteState.prepareWrite
  cases queued : conn.writeQueue with
  | nil => exact order
  | cons frame queue =>
    have unused : ∀ seq ∈ conn.seqs, seq ≠ conn.nextWriteSeq := by
      intro seq listed
      exact (order.fresh seq listed).ne
    have ringNow : conn.submitted ++ (conn.prepared ++ [⟨conn.nextWriteSeq, frame.1⟩]) =
        conn.ring ++ [(⟨conn.nextWriteSeq, frame.1⟩ : Sqe)] := (append_assoc _ _ _).symm
    have seqsNow : (conn.ring ++ [(⟨conn.nextWriteSeq, frame.1⟩ : Sqe)]).map seq ++
        (conn.completed.map Cqe.seq ++ conn.poll.seqs) = conn.ring.map seq ++
            conn.nextWriteSeq :: (conn.completed.map Cqe.seq ++ conn.poll.seqs) := by
      simp
    have kept {seq : Nat} (listed : seq ∈ conn.seqs) :
        AList.lookup seq (AList.insert conn.nextWriteSeq (⟨frame, 0⟩ : WriteOp)
          conn.inFlight) = conn.inFlight.lookup seq :=
      Table.lookup_insert_of_ne _ _ (unused seq listed)
    exact
      { stream := by
          obtain ⟨dropped, split, ends⟩ := order.stream
          refine ⟨dropped, ?_, ends⟩
          rw [← split, queued]
          simp [WriteState.ring]
        alone := by
          intro some
          cases some
        ring := by
          intro sqe listed
          change sqe ∈ conn.submitted ++ (conn.prepared ++ _) at listed
          rw [ringNow] at listed
          cases mem_append.mp listed with
          | inl before =>
            obtain ⟨op, found, facts⟩ := order.ring sqe before
            refine ⟨op, ?_, facts⟩
            rw [← found]
            exact kept (mem_append_left _ (mem_map_of_mem before))
          | inr last =>
            obtain rfl := mem_singleton.mp last
            exact ⟨⟨frame, 0⟩, Table.lookup_insert_self _ _ _, Nat.zero_le _, rfl⟩
        completed := by
          intro cqe listed
          obtain ⟨op, found, ended⟩ := order.completed cqe listed
          refine ⟨op, ?_, ended⟩
          rw [← found]
          exact kept (mem_append_right _ (mem_append_left _ (mem_map_of_mem listed)))
        task := by
          intro key seq resubmits
          obtain ⟨-, op, -, -, owes⟩ := order.task key seq resubmits
          cases owes
        distinct := by
          change ((conn.submitted ++ (conn.prepared ++ _)).map seq ++ _).Nodup
          rw [ringNow, seqsNow, perm_middle.nodup_iff, nodup_cons]
          exact ⟨fun listed => unused _ listed rfl, order.distinct⟩
        fresh := by
          intro seq listed
          change seq ∈ (conn.submitted ++ (conn.prepared ++ _)).map Sqe.seq ++ _ at listed
          rw [ringNow, seqsNow, perm_middle.mem_iff, mem_cons] at listed
          cases listed with
          | inl new =>
            rw [new]
            exact Nat.lt_succ_self _
          | inr old => exact (order.fresh seq old).trans (Nat.lt_succ_self _)
        closing := order.closing }

theorem InOrder.prepareWrites (order : conn.InOrder none peer stream) (count : Nat) :
    (WriteState.prepareWrite^[count] conn).InOrder none peer stream := by
  induction count generalizing conn with
  | zero => exact order
  | succ count ih =>
    rw [Function.iterate_succ_apply]
    exact ih order.prepareWrite

variable (order : conn.InOrder owed peer stream)

include order

theorem InOrder.dropQueue (down : conn.shuttingDown = true) :
    { conn with writeQueue := [] }.InOrder owed peer stream where
  stream := by
    obtain ⟨dropped, split, -⟩ := order.stream
    refine ⟨conn.writeQueue.flatMap Subtype.val ++ dropped, split, ?_⟩
    intro up
    rw [down] at up
    cases up
  __ := order

theorem InOrder.startNextWrites (settled : owed.isSome = true → conn.writeQueue = []) (room : Nat) :
    (conn.startNextWrites room).InOrder owed peer stream := by
  unfold WriteState.startNextWrites
  cases empty : conn.writeQueue.isEmpty with
  | true =>
    rw [if_pos rfl]
    exact order
  | false =>
    rw [if_neg Bool.false_ne_true]
    cases stopped : conn.shuttingDown || !conn.isOpen with
    | true =>
      rw [if_pos rfl]
      apply order.dropQueue
      cases down : conn.shuttingDown with
      | true => rfl
      | false =>
        rw [down, Bool.false_or, Bool.not_eq_true'] at stopped
        rw [← down]
        exact order.closing (Or.inr stopped)
    | false =>
      rw [if_neg Bool.false_ne_true]
      cases owed with
      | none =>
        have filled := order.prepareWrites (min (min conn.writeQueue.length
          kWriteBatchLimit) room)
        dsimp only
        split
        · exact filled
        · exact filled.submit
      | some rest =>
        rw [settled rfl] at empty
        cases empty

theorem InOrder.cleanup (down : conn.shuttingDown = true) :
    conn.cleanup.InOrder owed peer stream where
  stream := by
    obtain ⟨dropped, split, -⟩ := order.stream
    refine ⟨conn.ring.flatMap bytes ++ (conn.writeQueue.flatMap Subtype.val ++ dropped), split, ?_⟩
    intro up
    rw [show conn.cleanup.shuttingDown = true from down] at up
    cases up
  alone := fun _ => rfl
  ring := by
    intro sqe listed
    cases listed
  completed := by
    intro cqe listed
    cases listed
  task := by
    intro key seq resubmits
    cases resubmits
  distinct := nodup_nil
  fresh := by
    intro seq listed
    cases listed
  closing := fun _ => down

theorem InOrder.close : conn.close.InOrder owed peer stream := by
  unfold WriteState.close
  cases conn.isOpen with
  | false => exact order
  | true =>
    rw [if_pos rfl]
    have stopped : { conn with shuttingDown := true, writeQueue := [] }.InOrder owed peer
        stream := by
      obtain ⟨dropped, split, -⟩ := order.stream
      exact
        { stream := ⟨conn.writeQueue.flatMap Subtype.val ++ dropped, split, nofun⟩
          __ := order
          closing := fun _ => rfl }
    dsimp only
    split
    · exact stopped.cleanup rfl
    · exact { stopped with closing := fun _ => rfl }

theorem InOrder.hangUp : conn.close.cleanup.InOrder owed peer stream := by
  apply order.close.cleanup
  unfold WriteState.close
  split
  · dsimp only
    split <;> rfl
  rename_i closed
  apply order.closing
  right
  exact Bool.eq_false_iff.mpr closed

theorem InOrder.withInFlight {inFlight : Table Nat WriteOp}
    (kept : ∀ seq ∈ conn.seqs, inFlight.lookup seq = conn.inFlight.lookup seq) :
    { conn with inFlight := inFlight }.InOrder owed peer stream where
  __ := order
  ring := by
    intro sqe listed
    obtain ⟨op, found, facts⟩ := order.ring sqe listed
    refine ⟨op, ?_, facts⟩
    rw [← found]
    exact kept _ (mem_append_left _ (mem_map_of_mem listed))
  completed := by
    intro cqe listed
    obtain ⟨op, found, ended⟩ := order.completed cqe listed
    refine ⟨op, ?_, ended⟩
    rw [← found]
    exact kept _ (mem_append_right _ (mem_append_left _ (mem_map_of_mem listed)))
  task := by
    intro key seq resubmits
    obtain ⟨rfl, op, found, facts⟩ := order.task key seq resubmits
    refine ⟨rfl, op, ?_, facts⟩
    rw [← found]
    refine kept _ (mem_append_right _ (mem_append_right _ ?_))
    rw [show conn.poll = _ from resubmits]
    exact mem_singleton_self _

theorem InOrder.taken {cqe : Cqe} {completed : List Cqe}
    (next : conn.completed = cqe :: completed) :
    { conn with completed := completed }.InOrder owed peer stream ∧
      cqe.seq ∉ { conn with completed := completed }.seqs ∧ cqe.seq < conn.nextWriteSeq := by
  have split : conn.seqs = conn.ring.map seq ++
      cqe.seq :: (completed.map Cqe.seq ++ conn.poll.seqs) := by
    rw [seqs, next]
    rfl
  have distinct := order.distinct
  rw [split, perm_middle.nodup_iff, nodup_cons] at distinct
  have fresh := order.fresh
  rw [split] at fresh
  refine ⟨?_, distinct.1, fresh _ (mem_append_right _ mem_cons_self)⟩
  exact
    { stream := order.stream
      __ := order
      completed := by
        intro other listed
        apply order.completed other
        rw [next]
        exact mem_cons_of_mem _ listed
      distinct := distinct.2
      fresh := by
        intro seq listed
        apply fresh seq
        rw [perm_middle.mem_iff]
        exact mem_cons_of_mem _ listed
      closing := order.closing }

omit order

variable {op : WriteOp}

theorem offset_eq {res : Int} {count : Nat} (counts : res = count)
    (inside : op.offset + count ≤ op.frame.1.length) :
    (op.offset + (res % 2 ^ 64).toNat) % 2 ^ 64 = op.offset + count := by
  have size := op.frame.2
  have small : (res % 2 ^ 64).toNat = count := by
    rw [counts]
    omega
  rw [small]
  exact Nat.mod_eq_of_lt (inside.trans_lt size)

variable (order : conn.InOrder owed peer stream)

include order

theorem InOrder.leaveRest (idle : conn.poll = .idle)
    {seq : Nat} (gone : seq ∉ conn.seqs) (bound : seq < conn.nextWriteSeq)
    (inside : op.offset ≤ op.frame.1.length) (owes : owed = some (seq, op.rest)) :
    { conn with
      inFlight := AList.insert seq op conn.inFlight
      poll := .resubmit seq seq }.InOrder owed peer stream := by
  have kept : { conn with inFlight := AList.insert seq op conn.inFlight }.InOrder owed peer
      stream := by
    apply order.withInFlight
    intro other listed
    apply Table.lookup_insert_of_ne
    rintro rfl
    exact gone listed
  have seqsNow : conn.ring.map Sqe.seq ++ (conn.completed.map Cqe.seq ++ [seq]) =
      conn.seqs ++ [seq] := by
    simp [seqs, idle, PollTask.seqs]
  exact
    { stream := kept.stream
      __ := kept
      task := by
        intro key other resubmits
        cases resubmits
        exact ⟨rfl, op, Table.lookup_insert_self _ _ _, inside, owes⟩
      distinct := by
        change (conn.ring.map Sqe.seq ++ (conn.completed.map Cqe.seq ++ [seq])).Nodup
        rw [seqsNow, (perm_append_singleton seq conn.seqs).nodup_iff, nodup_cons]
        exact ⟨gone, order.distinct⟩
      fresh := by
        intro other listed
        change other ∈ conn.ring.map Sqe.seq ++ (conn.completed.map Cqe.seq ++ [seq]) at listed
        rw [seqsNow, mem_append, mem_singleton] at listed
        cases listed with
        | inl old => exact order.fresh other old
        | inr same =>
          rw [same]
          exact bound
      closing := order.closing }

theorem InOrder.finished {seq : Nat}
    (gone : seq ∉ conn.seqs) :
    { conn with inFlight := conn.inFlight.erase seq }.InOrder owed peer stream := by
  apply order.withInFlight
  intro other listed
  rw [Table.lookup_erase_eq, if_neg]
  rintro rfl
  exact gone listed

theorem InOrder.refill (idle : conn.poll = .idle) :
    { conn with poll := .refill }.InOrder owed peer stream where
  __ := order
  task := nofun
  distinct := by
    have same := order.distinct
    rw [seqs, idle] at same
    exact same
  fresh := by
    have same := order.fresh
    rw [seqs, idle] at same
    exact same

theorem InOrder.onWriteComplete (idle : conn.poll = .idle) {cqe : Cqe} (gone : cqe.seq ∉ conn.seqs)
    (bound : cqe.seq < conn.nextWriteSeq)
    (found : conn.inFlight.lookup cqe.seq = some op) (ended : op.Ended owed cqe)
    (own : conn.decodeSeq cqe.seq = cqe.seq ∨
      conn.inFlight.lookup (conn.decodeSeq cqe.seq) = none) :
    (conn.onWriteComplete cqe).InOrder owed peer stream := by
  unfold WriteState.onWriteComplete
  dsimp only
  cases own with
  | inr unknown =>
    rw [unknown]
    exact order
  | inl same =>
    obtain ⟨count, counts, inside, leaves⟩ := ended
    rw [same, found]
    dsimp only
    rw [offset_eq counts inside]
    split
    case isTrue short =>
      split
      · exact order.leaveRest idle gone bound inside (leaves short)
      · exact order.finished gone
    case isFalse =>
      have erased := order.finished gone
      split
      · exact erased
      split
      case isTrue pending =>
        exact erased.cleanup (order.closing (Or.inl pending))
      case isFalse => exact erased.refill idle

theorem InOrder.reap (own : ∀ cqe completed, conn.poll = .idle → conn.completed = cqe :: completed →
      conn.decodeSeq cqe.seq = cqe.seq ∨ conn.inFlight.lookup (conn.decodeSeq cqe.seq) = none) :
    conn.reap.InOrder owed peer stream := by
  unfold WriteState.reap
  split
  case h_1 cqe completed idle next =>
    obtain ⟨op, found, ended⟩ := order.completed cqe (by rw [next]; exact mem_cons_self)
    obtain ⟨later, gone, bound⟩ := order.taken next
    exact later.onWriteComplete idle gone bound found ended (own cqe completed idle next)
  case h_2 => exact order

theorem InOrder.resubmit {key seq : Nat}
    (task : conn.poll = .resubmit key seq) (found : conn.inFlight.lookup key = some op) :
    { conn with
      poll := .idle
      prepared := conn.prepared ++ [(⟨seq, op.rest⟩ : Sqe)] }.InOrder none peer stream := by
  obtain ⟨rfl, listed, foundToo, inside, owes⟩ := order.task key seq task
  obtain rfl := Option.some.inj (foundToo.symm.trans found)
  have empty : conn.ring = [] := by
    apply order.alone
    rw [owes]
    rfl
  obtain ⟨noneSubmitted, nonePrepared⟩ := append_eq_nil_iff.mp empty
  have ringNow : conn.submitted ++ (conn.prepared ++ [⟨key, listed.rest⟩]) =
      [(⟨key, listed.rest⟩ : Sqe)] := by
    rw [noneSubmitted, nonePrepared]
    rfl
  have seqsBefore : conn.seqs = conn.completed.map Cqe.seq ++ [key] := by
    rw [seqs, empty, task]
    rfl
  have distinct := order.distinct
  rw [seqsBefore] at distinct
  have fresh := order.fresh
  rw [seqsBefore] at fresh
  exact
    { stream := by
        obtain ⟨dropped, split, ends⟩ := order.stream
        refine ⟨dropped, ?_, ends⟩
        rw [← split, owes, empty]
        change peer ++ ([] ++ ((conn.submitted ++ (conn.prepared ++ _)).flatMap bytes ++ _)) = _
        rw [ringNow]
        simp [owedBytes]
      alone := by
        intro some
        cases some
      ring := by
        intro sqe inRing
        change sqe ∈ conn.submitted ++ (conn.prepared ++ _) at inRing
        rw [ringNow] at inRing
        obtain rfl := mem_singleton.mp inRing
        exact ⟨listed, found, inside, rfl⟩
      completed := by
        intro cqe done
        obtain ⟨other, foundOther, count, counts, insideOther, leaves⟩ := order.completed cqe done
        refine ⟨other, foundOther, count, counts, insideOther, ?_⟩
        intro short
        -- only the write that is resubmitted is owed, and it is no longer completed
        have same := (leaves short).symm.trans owes
        have seqEq : cqe.seq = key := congrArg Prod.fst (Option.some.inj same)
        rw [nodup_append] at distinct
        exact absurd seqEq (distinct.2.2 _ (mem_map_of_mem done) _
          (mem_singleton_self key))
      task := nofun
      distinct := by
        change ((conn.submitted ++ (conn.prepared ++ _)).map seq ++
          (conn.completed.map Cqe.seq ++ [])).Nodup
        rw [ringNow, append_nil, nodup_append_comm]
        exact distinct
      fresh := by
        intro other listedNow
        change other ∈ (conn.submitted ++ (conn.prepared ++ _)).map seq ++
          (conn.completed.map Cqe.seq ++ []) at listedNow
        rw [ringNow, append_nil] at listedNow
        apply fresh
        exact perm_append_comm.mem_iff.mp listedNow
      closing := order.closing }

omit order

def owedAfter (conn : WriteState) (room : Nat) (owed : Option (Nat × List UInt8)) :
    Option (Nat × List UInt8) :=
  match conn.poll with
  | .resubmit _ _ => if room = 0 then owed else none
  | _ => owed

variable (order : conn.InOrder owed peer stream)

include order

theorem InOrder.rested :
    { conn with poll := .idle }.InOrder owed peer stream := by
  have fewer : (conn.ring.map seq ++ (conn.completed.map Cqe.seq ++ [])).Sublist
      conn.seqs := by
    apply List.Sublist.append (List.Sublist.refl _)
    exact List.Sublist.append (List.Sublist.refl _) (nil_sublist _)
  exact
    { stream := order.stream
      __ := order
      task := nofun
      distinct := order.distinct.sublist fewer
      fresh := fun seq listed => order.fresh seq (fewer.subset listed)
      closing := order.closing }

theorem InOrder.resume (room : Nat)
    (settled : conn.poll = .refill → owed.isSome = true → conn.writeQueue = []) :
    (conn.resume room).InOrder (conn.owedAfter room owed) peer stream := by
  unfold WriteState.resume owedAfter
  cases task : conn.poll with
  | idle => exact order
  | refill => exact order.rested.startNextWrites (settled task) room
  | resubmit key seq =>
    obtain ⟨rfl, op, found, inside, owes⟩ := order.task key seq task
    dsimp only
    rw [found]
    dsimp only
    by_cases full : room = 0
    · rw [if_pos full, if_pos full]
      exact order.rested.close
    · rw [if_neg full, if_neg full]
      exact (order.resubmit task found).submit

theorem InOrder.executed {sqe : Sqe} {submitted : List Sqe}
    (next : conn.submitted = sqe :: submitted) {count : Nat} (inside : count ≤ sqe.bytes.length)
    (inTurn : count < sqe.bytes.length → submitted ++ conn.prepared = []) :
    { conn with
      submitted := submitted
      completed := conn.completed ++ [(⟨sqe.seq, count⟩ : Cqe)] }.InOrder
        (if count < sqe.bytes.length then some (sqe.seq, sqe.bytes.drop count) else owed)
        (peer ++ sqe.bytes.take count) stream := by
  have ringBefore : conn.ring = sqe :: (submitted ++ conn.prepared) := by
    rw [WriteState.ring, next]
    rfl
  have here : sqe ∈ conn.ring := by
    rw [ringBefore]
    exact mem_cons_self
  obtain rfl := order.owed_none here
  obtain ⟨op, found, opInside, rest⟩ := order.ring sqe here
  have size : op.offset + sqe.bytes.length = op.frame.1.length := by
    rw [← rest, WriteOp.rest, length_drop]
    omega
  have moved : ((submitted ++ conn.prepared).map seq ++
      ((conn.completed ++ [(⟨sqe.seq, count⟩ : Cqe)]).map Cqe.seq ++ conn.poll.seqs)).Perm
        conn.seqs := by
    have before : conn.seqs = sqe.seq :: (((submitted ++ conn.prepared).map seq ++
        conn.completed.map Cqe.seq) ++ conn.poll.seqs) := by
      rw [seqs, ringBefore]
      simp
    have after : (submitted ++ conn.prepared).map seq ++
        ((conn.completed ++ [(⟨sqe.seq, count⟩ : Cqe)]).map Cqe.seq ++ conn.poll.seqs) =
          ((submitted ++ conn.prepared).map seq ++ conn.completed.map Cqe.seq) ++
            sqe.seq :: conn.poll.seqs := by
      simp
    rw [before, after]
    exact perm_middle
  exact
    { stream := by
        obtain ⟨dropped, split, ends⟩ := order.stream
        refine ⟨dropped, ?_, ends⟩
        rw [← split, ringBefore]
        change peer ++ sqe.bytes.take count ++ (_ ++
          ((submitted ++ conn.prepared).flatMap bytes ++ _)) = _
        by_cases short : count < sqe.bytes.length
        · rw [if_pos short, inTurn short]
          have whole := take_append_drop count sqe.bytes
          simp only [owedBytes, flatMap_nil, nil_append, flatMap_cons, append_nil]
          rw [append_assoc, ← append_assoc (take _ _), whole]
        · rw [if_neg short, take_of_length_le (by omega)]
          simp [owedBytes]
      alone := by
        intro owes
        by_cases short : count < sqe.bytes.length
        · exact inTurn short
        · rw [if_neg short] at owes
          cases owes
      ring := by
        intro other listed
        apply order.ring other
        rw [ringBefore]
        exact mem_cons_of_mem _ listed
      completed := by
        intro cqe listed
        cases mem_append.mp listed with
        | inl old =>
          obtain ⟨other, foundOther, done, counts, insideOther, leaves⟩ := order.completed cqe old
          refine ⟨other, foundOther, done, counts, insideOther, ?_⟩
          intro short
          cases leaves short
        | inr new =>
          obtain rfl := mem_singleton.mp new
          refine ⟨op, found, count, rfl, by omega, ?_⟩
          intro short
          rw [if_pos (by omega), ← rest, WriteOp.rest, drop_drop]
      task := by
        intro key seq resubmits
        obtain ⟨-, other, -, -, owes⟩ := order.task key seq resubmits
        cases owes
      distinct := moved.nodup_iff.mpr order.distinct
      fresh := fun seq listed => order.fresh seq (moved.mem_iff.mp listed)
      closing := order.closing }

theorem InOrder.sendRaw (frame : Frame) : (conn.sendRaw frame).InOrder owed peer
      (if conn.shuttingDown then stream else stream ++ frame.1) := by
  unfold WriteState.sendRaw
  cases down : conn.shuttingDown with
  | true => exact order
  | false =>
    rw [if_neg Bool.false_ne_true, if_neg Bool.false_ne_true]
    exact
      { stream := by
          obtain ⟨dropped, split, ends⟩ := order.stream
          obtain rfl := ends down
          refine ⟨[], ?_, fun _ => rfl⟩
          rw [← split]
          change peer ++ (owedBytes owed ++ (conn.ring.flatMap bytes ++
            ((conn.writeQueue ++ [frame]).flatMap Subtype.val ++ []))) = _
          simp
        __ := order
        closing := by
          intro closing
          rw [order.closing closing] at down
          cases down }

omit order

end WriteState

namespace Link

open WriteState

structure Sound (link : Link) : Prop where
  received : link.peer <+: link.stream
  order : link.failed = false → link.conn.InOrder link.owed link.peer link.stream

variable {link : Link}

theorem Sound.quiet (sound : link.Sound) {next : Link} (failed : next.failed = link.failed)
    (peer : next.peer = link.peer) (stream : link.stream <+: next.stream)
    (order : link.conn.InOrder link.owed link.peer link.stream →
      next.conn.InOrder next.owed next.peer next.stream) : next.Sound where
  received := by
    rw [peer]
    exact sound.received.trans stream
  order := by
    rw [failed]
    exact fun good => order (sound.order good)

theorem stream_sendRaw (link : Link) (frame : Frame) : (link.sendRaw frame).stream =
      if link.conn.shuttingDown then link.stream else link.stream ++ frame.1 := by
  unfold stream Link.sendRaw
  split
  · rfl
  · simp

theorem Sound.sendRaw (sound : link.Sound) (frame : Frame) : (link.sendRaw frame).Sound := by
  refine sound.quiet rfl rfl ?_ ?_
  · rw [stream_sendRaw]
    split
    · exact prefix_refl _
    · exact prefix_append _ _
  · intro order
    rw [stream_sendRaw]
    exact order.sendRaw frame

theorem Sound.execute (sound : link.Sound) {outcome : Outcome}
    (orderly : link.Orderly (.execute outcome)) : (link.execute outcome).Sound := by
  unfold Link.execute
  cases next : link.conn.submitted with
  | nil => exact sound
  | cons sqe submitted =>
    dsimp only
    cases possible : outcome.Possible sqe with
    | false =>
      rw [if_neg Bool.false_ne_true]
      exact sound
    | true =>
      rw [if_pos rfl]
      cases outcome with
      | failed errno => exact ⟨sound.received, nofun⟩
      | wrote count =>
        have inTurn : link.InTurn sqe (submitted ++ link.conn.prepared) count := by
          have holds := orderly
          unfold Orderly at holds
          rw [next] at holds
          exact holds possible
        have inside : count ≤ sqe.bytes.length := by
          simp only [Outcome.Possible, Bool.and_eq_true, decide_eq_true_eq] at possible
          exact possible.1
        by_cases failed : link.failed = true
        · refine ⟨?_, fun good => absurd (good.symm.trans failed) Bool.false_ne_true⟩
          change link.peer ++ sqe.bytes.take count <+: link.stream
          rw [inTurn.1 failed, take_zero, append_nil]
          exact sound.received
        · have good := sound.order (Bool.eq_false_iff.mpr failed)
          have order := good.executed next inside inTurn.2
          exact ⟨order.isPrefix, fun _ => order⟩

theorem Sound.handle (sound : link.Sound) (orderly : link.Orderly input) :
    (link.handle input).Sound := by
  cases input with
  | sendRaw frame => exact sound.sendRaw frame
  | send type data =>
    unfold Link.handle
    dsimp only
    split
    · exact sound
    split
    · exact sound
    · split
      · exact sound.sendRaw _
      · exact sound
  | start room =>
    unfold Link.handle
    dsimp only
    split
    · exact sound
    rename_i some
    refine sound.quiet rfl rfl (prefix_refl _) ?_
    intro order
    have fewer : { link.conn with starts := link.conn.starts - 1 }.InOrder link.owed
        link.peer link.stream := { order with }
    exact fewer.startNextWrites (orderly some) room
  | execute outcome => exact sound.execute orderly
  | reap =>
    refine sound.quiet rfl rfl (prefix_refl _) ?_
    intro order
    apply order.reap
    intro cqe completed idle next
    have own := orderly
    unfold Orderly at own
    rw [idle, next] at own
    exact own
  | resume room =>
    refine sound.quiet rfl rfl (prefix_refl _) ?_
    intro order
    exact order.resume room orderly
  | close => exact sound.quiet rfl rfl (prefix_refl _) InOrder.close
  | hangUp => exact sound.quiet rfl rfl (prefix_refl _) InOrder.hangUp

def opened (tagWrite : Nat) : Link := { conn := { tagWrite := tagWrite } }

theorem sound_opened (tagWrite : Nat) : (opened tagWrite).Sound := by
  refine ⟨ nil_prefix, fun _ => ?_⟩
  exact
    { stream := ⟨[], rfl, fun _ => rfl⟩
      alone := nofun
      ring := nofun
      completed := nofun
      task := nofun
      distinct := nodup_nil
      fresh := nofun
      closing := by
        intro closing
        cases closing <;> contradiction }

theorem frames_not_interleaved (tagWrite : Nat) (inputs : List WriteInput)
    (orderly : machine.Along Orderly (opened tagWrite) inputs) :
    ∀ before after, inputs = before ++ after → (machine.final (opened tagWrite) before).peer <+:
        (machine.final (opened tagWrite) before).stream := by
  intro before after split
  have along : machine.Along Orderly (opened tagWrite) before := by
    rw [split, Machine.along_append] at orderly
    exact orderly.1
  have sound := machine.invariant Orderly (fun _ link _ => Link.Sound link)
    (sound_opened tagWrite) (fun _ _ _ _ sound now => sound.handle now) before along
  exact sound.received

/-- Two frames wait for the first to be done. The one submitted first ends
short, and the other is written before the rest of it. -/
def shortWrite : List WriteInput :=
  [.send 1 [], .start 256, .execute (.wrote 5), .send 2 [], .send 3 [], .reap, .resume 256,
    .execute (.wrote 2), .execute (.wrote 5)]

theorem short_write_interleaves : ¬ (machine.final (opened 2) shortWrite).peer <+:
      (machine.final (opened 2) shortWrite).stream := by
  decide +kernel

/-- A short write with nothing behind it. -/
theorem lone_short_write_in_order :
    (machine.final (opened 2) [.send 1 [], .start 256, .execute (.wrote 2), .reap,
        .resume 256, .execute (.wrote 3)]).peer <+:
      (machine.final (opened 2) [.send 1 [], .start 256, .execute (.wrote 2), .reap,
        .resume 256, .execute (.wrote 3)]).stream := by
  refine frames_not_interleaved 2 _ ?_ _ [] (append_nil _).symm
  refine ⟨trivial, fun _ => nofun, fun _ => ⟨nofun, fun _ => rfl⟩, Or.inl rfl, nofun,
    fun _ => ⟨nofun, fun _ => rfl⟩, trivial⟩

end Link

variable {frames : List Router.Content}

/-- Smaller reads of a stream take what reads of its front take. -/
theorem readAndParse_front (conn : ReadState) (socket later : List UInt8) (poll : Poll) :
    readAndParse (conn, socket ++ later) { poll with size := min poll.size socket.length } =
      (((readAndParse (conn, socket) poll).1.1, (readAndParse (conn, socket) poll).1.2 ++ later),
        (readAndParse (conn, socket) poll).2) := by
  have got : (socket ++ later).take
      (min (min poll.size socket.length) (conn.readBuf.length - conn.readEnd)) =
        socket.take (min poll.size (conn.readBuf.length - conn.readEnd)) := by
    rw [Nat.min_right_comm, take_append_of_le_length (Nat.min_le_right _ _)]
    exact (take_eq_take_min ..).symm
  unfold readAndParse
  dsimp only
  rw [got]
  split
  · split
    · rfl
    · rw [drop_append_of_le_length (length_take_le' _ _)]
  · rfl

theorem exists_polls (conn : ReadState) (socket later : List UInt8) (polls : List Poll) :
    ∃ shorter, machine.outputs (conn, socket ++ later) shorter =
        machine.outputs (conn, socket) polls ∧
      machine.final (conn, socket ++ later) shorter =
        ((machine.final (conn, socket) polls).1,
          (machine.final (conn, socket) polls).2 ++ later) := by
  induction polls generalizing conn socket with
  | nil => exact ⟨[], rfl, rfl⟩
  | cons poll rest ih =>
    obtain ⟨shorter, outputs, final⟩ := ih (readAndParse (conn, socket) poll).1.1
      (readAndParse (conn, socket) poll).1.2
    have front := readAndParse_front conn socket later poll
    refine ⟨{ poll with size := min poll.size socket.length } :: shorter, ?_, ?_⟩
    · change (readAndParse _ _).2 ++ machine.outputs (readAndParse _ _).1 shorter = _
      rw [front]
      exact congrArg _ outputs
    · change machine.final (readAndParse _ _).1 shorter = _
      rw [front]
      exact final

/-- What one connection writes in turn, another one delivers, however both streams
are cut. -/
theorem sent_frames_received (tagWrite : Nat) (inputs : List WriteInput) (polls : List Poll)
    (orderly : Link.machine.Along Link.Orderly (Link.opened tagWrite) inputs)
    (small : Small frames)
    (sent : (Link.machine.final (Link.opened tagWrite) inputs).stream = wire frames) :
    let peer := (Link.machine.final (Link.opened tagWrite) inputs).peer
    machine.outputs ({}, peer) polls <+: frames ∧
      (peer = wire frames → (machine.final ({}, peer) polls).2 = [] →
        machine.outputs ({}, peer) polls = frames) := by
  intro peer
  have sound := Link.machine.invariant Link.Orderly (fun _ link _ => link.Sound)
    (Link.sound_opened tagWrite) (fun _ _ _ _ sound now => sound.handle now) inputs orderly
  obtain ⟨later, arrives⟩ := sound.received
  obtain ⟨shorter, outputs, final⟩ := exists_polls {} peer later polls
  have delivers := delivers_run small shorter
  rw [← sent, ← arrives, outputs, final] at delivers
  obtain ⟨rest, split, holds, waits⟩ := delivers.rest
  refine ⟨⟨rest, split.symm⟩, fun whole drained => ?_⟩
  have none : later = [] := append_right_eq_self.mp (arrives.trans (sent.trans whole.symm))
  cases rest with
  | nil => exact (split.trans (append_nil _)).symm
  | cons first rest =>
    have missing := waits first rest rfl
    rw [drained, none, append_nil, append_nil, wire_cons] at holds
    have size := congrArg length holds
    rw [ReadState.held, length_take, length_append] at size
    dsimp only at missing size
    omega

theorem short_write_received : machine.outputs ({}, (Link.machine.final (Link.opened 2)
      [.send 1 [], .start 256, .execute (.wrote 2)]).peer) [⟨9, fun _ => true⟩] <+: [(1, [])] :=
  (sent_frames_received 2 [.send 1 [], .start 256, .execute (.wrote 2)] [⟨9, fun _ => true⟩]
    ⟨trivial, by rintro _ ⟨⟩, fun _ => ⟨by rintro ⟨⟩, fun _ => rfl⟩, trivial⟩
    (forall_mem_singleton.mpr (Nat.zero_le _)) rfl).1

end GtnhPlatform.Net
