import Mathlib.Order.Basic

namespace GtnhPlatform.ChunkStore

open List

/-- What `mdb_put` returns: 0, `MDB_MAP_FULL` or some other error. -/
inductive PutCode where
  | success
  | mapFull
  | error
deriving DecidableEq

/-- Whether one transaction begins, what it answers to the put of each entry,
whether it commits, and whether `growMapSize` succeeds after it. -/
structure TxnAnswers where
  begins : Bool
  put : Nat → PutCode
  commits : Bool
  grows : Bool

namespace TxnAnswers

def accepts (txn : TxnAnswers) (i : Nat) : Bool := txn.put i = .success

def goesThrough (txn : TxnAnswers) (i : Nat) : Bool := txn.begins && txn.accepts i && txn.commits

end TxnAnswers

namespace LmdbStore

/-- The attempts of `writeRaw` that are left, of which there are two. -/
def writeAttempts : List TxnAnswers → Bool
  | [] => false
  | answers :: rest =>
    if answers.begins then
      match answers.put 0 with
      | .success => answers.commits
      | .mapFull => answers.grows && writeAttempts rest
      | .error => false
    else false

structure WriteAnswers where
  envOpen : Bool
  first : TxnAnswers
  second : TxnAnswers

def writeRaw (answers : WriteAnswers) : Bool :=
  answers.envOpen && writeAttempts [answers.first, answers.second]

abbrev Entry := Int64 × List UInt8

def kMaxRounds : Nat := 8

/-- The transactions of each round, and those of each entry at the cap. -/
structure BatchAnswers where
  envOpen : Bool
  round : Nat → TxnAnswers
  single : Nat → TxnAnswers

structure BatchResult where
  success : Bool
  items : List Entry
  committed : List Entry

/-- A loop over the entries that goes on as long as an entry goes well: where it stops. -/
def stop (goesWell : Nat → Bool) (count : Nat) : Option Nat :=
  (range count).find? fun i => !goesWell i

/-- A transaction for each entry. At a put that fails the loop breaks; a failed
begin or commit returns from the function. -/
def persistPrefixAndReturnRemainder (single : Nat → TxnAnswers) (items : List Entry) :
    BatchResult :=
  match stop (fun i => (single i).goesThrough i) items.length with
  | none => ⟨!items.isEmpty, [], items⟩
  | some done =>
    if (single done).begins ∧ (single done).put done ≠ .success then
      if done = 0 then ⟨false, items, []⟩ else ⟨true, items.drop done, items.take done⟩
    else ⟨false, items, items.take done⟩

/-- The rounds that are left. What the call at the cap returns only goes to the log. -/
def batchRounds (answers : BatchAnswers) (items : List Entry) (round : Nat) : Nat → BatchResult
  | 0 => ⟨false, items, []⟩
  | left + 1 =>
    let txn := answers.round round
    if txn.begins then
      match stop txn.accepts items.length with
      | none => if txn.commits then ⟨true, [], items⟩ else ⟨false, items, []⟩
      | some i =>
        if txn.put i = .mapFull then
          if txn.grows then batchRounds answers items (round + 1) left
          else { persistPrefixAndReturnRemainder answers.single items with success := false }
        else if 0 < i ∧ txn.commits then ⟨false, items.drop i, items.take i⟩
        else ⟨false, items, []⟩
    else ⟨false, items, []⟩

def writeBatch (answers : BatchAnswers) (items : List Entry) : BatchResult :=
  if answers.envOpen then
    if items = [] then ⟨true, [], []⟩ else batchRounds answers items 0 kMaxRounds
  else ⟨false, items, []⟩

structure StopsAt (goesWell : Nat → Bool) (count i : Nat) : Prop where
  inside : i < count
  before : ∀ earlier < i, goesWell earlier = true
  here : goesWell i = false

def ReachesCap (answers : BatchAnswers) (count round : Nat) : Nat → Prop
  | 0 => False
  | left + 1 =>
    (answers.round round).begins = true ∧ (∃ i, StopsAt (answers.round round).accepts count i ∧
        (answers.round round).put i = .mapFull) ∧
      ((answers.round round).grows = true → ReachesCap answers count (round + 1) left)

def StopsCleanly (single : Nat → TxnAnswers) (count : Nat) : Prop :=
  ∃ done, StopsAt (fun i => (single i).goesThrough i) count done ∧
    (0 < done → (single done).begins = true ∧ (single done).put done ≠ .success)

/-- What was committed and what is returned make up the batch. -/
def ReturnsUncommitted (items : List Entry) (result : BatchResult) : Prop :=
  items = result.committed ++ result.items ∧ (result.success = true ↔ result.items = [])

section Stops

variable {goesWell : Nat → Bool} {count i : Nat}

theorem StopsAt.eq (stops : StopsAt goesWell count i) (others : StopsAt goesWell count other) :
    i = other := by
  have meets : ∀ {first second}, StopsAt goesWell count first → StopsAt goesWell count second →
      ¬first < second := by
    intro first second one two before
    exact Bool.noConfusion (one.here.symm.trans (two.before first before))
  exact Nat.le_antisymm (Nat.not_lt.mp (meets others stops)) (Nat.not_lt.mp (meets stops others))

theorem stop_eq_some_iff : stop goesWell count = some i ↔ StopsAt goesWell count i := by
  rw [stop, find?_range_eq_some, mem_range]
  constructor
  · rintro ⟨here, inside, before⟩
    exact ⟨inside, by simpa using before, by simpa using here⟩
  · rintro ⟨inside, before, here⟩
    exact ⟨by simpa using here, inside, by simpa using before⟩

end Stops

variable {single : Nat → TxnAnswers} {items : List Entry}

theorem unwritten_returns (some : items ≠ []) : ReturnsUncommitted items ⟨false, items, []⟩ :=
  ⟨rfl, ⟨fun wrong => Bool.noConfusion wrong, fun none => absurd none some⟩⟩

theorem split_returns (inside : i < items.length) :
    ReturnsUncommitted items ⟨false, items.drop i, items.take i⟩ := by
  refine ⟨(take_append_drop i items).symm, fun wrong => Bool.noConfusion wrong, fun none => ?_⟩
  exact absurd (drop_eq_nil_iff.mp none) (Nat.not_le.mpr inside)

theorem persistPrefix_returns_iff (some : items ≠ []) :
    ReturnsUncommitted items
        { persistPrefixAndReturnRemainder single items with success := false } ↔
      StopsCleanly single items.length := by
  rw [persistPrefixAndReturnRemainder]
  cases run : stop (fun i => (single i).goesThrough i) items.length with
  | none =>
    constructor
    · intro returns
      exact Bool.noConfusion (returns.2.mpr rfl)
    · rintro ⟨done, stops, -⟩
      exact absurd (run.symm.trans (stop_eq_some_iff.mpr stops)) (Option.some_ne_none _).symm
  | some done =>
    have stops := stop_eq_some_iff.mp run
    have cleanly : StopsCleanly single items.length ↔
        (0 < done → (single done).begins = true ∧ (single done).put done ≠ .success) := by
      constructor
      · rintro ⟨other, same, failed⟩
        exact stops.eq same ▸ failed
      · intro failed
        exact ⟨done, stops, failed⟩
    rw [cleanly]
    dsimp only
    split
    · next failed =>
      refine iff_of_true ?_ fun _ => failed
      split
      · exact unwritten_returns some
      · exact split_returns stops.inside
    · next returned =>
      refine ⟨fun returns later => ?_, fun first => ?_⟩
      · have size := congrArg length returns.1
        rw [length_append, length_take, Nat.min_eq_left (Nat.le_of_lt stops.inside)] at size
        dsimp only at size
        omega
      · have start : done = 0 := Nat.eq_zero_of_not_pos fun later => returned (first later)
        rw [start]
        exact unwritten_returns some

theorem batchRounds_returns_iff (answers : BatchAnswers) (some : items ≠ []) (round left : Nat) :
    ReturnsUncommitted items (batchRounds answers items round left) ↔
      (ReachesCap answers items.length round left → StopsCleanly answers.single items.length) := by
  induction left generalizing round with
  | zero => exact iff_of_true (unwritten_returns some) fun never => never.elim
  | succ left ih =>
    rw [batchRounds, ReachesCap]
    cases begins : (answers.round round).begins with
    | false =>
      rw [if_neg Bool.false_ne_true]
      exact iff_of_true (unwritten_returns some) fun cap => Bool.noConfusion cap.1
    | true =>
      rw [if_pos rfl]
      cases run : stop (answers.round round).accepts items.length with
      | none =>
        refine iff_of_true ?_ fun cap => ?_
        · dsimp only
          split
          · exact ⟨(append_nil items).symm, iff_of_true rfl rfl⟩
          · exact unwritten_returns some
        · obtain ⟨-, ⟨i, stops, -⟩, -⟩ := cap
          exact absurd (run.symm.trans (stop_eq_some_iff.mpr stops)) (Option.some_ne_none _).symm
      | some i =>
        have stops := stop_eq_some_iff.mp run
        dsimp only
        split
        · next full =>
          have filled : ∃ i, StopsAt (answers.round round).accepts items.length i ∧
              (answers.round round).put i = .mapFull := ⟨i, stops, full⟩
          cases (answers.round round).grows with
          | true => simpa only [if_pos, filled, true_and, true_implies] using ih (round + 1)
          | false =>
            simpa only [filled, Bool.false_eq_true, if_false, true_and, true_implies,
              false_implies] using persistPrefix_returns_iff some
        · next other =>
          refine iff_of_true ?_ fun cap => ?_
          · split
            · exact split_returns stops.inside
            · exact unwritten_returns some
          · obtain ⟨-, ⟨first, same, full⟩, -⟩ := cap
            exact absurd (stops.eq same ▸ full) other

theorem returns_uncommitted_iff (answers : BatchAnswers) (items : List Entry) :
    ReturnsUncommitted items (writeBatch answers items) ↔ (answers.envOpen = false → items ≠ []) ∧
        (answers.envOpen = true → ReachesCap answers items.length 0 kMaxRounds →
          StopsCleanly answers.single items.length) := by
  rw [writeBatch]
  cases answers.envOpen with
  | true =>
    simp only [if_true, true_implies, Bool.true_eq_false, false_implies, true_and]
    split
    · next none =>
      refine iff_of_true ⟨none, iff_of_true rfl rfl⟩ fun cap => ?_
      obtain ⟨-, ⟨i, stops, -⟩, -⟩ := cap
      exact absurd stops.inside (none ▸ Nat.not_lt_zero i)
    · next some => exact batchRounds_returns_iff answers some 0 kMaxRounds
  | false =>
    simp only [Bool.false_eq_true, if_false, true_implies, false_implies, and_true]
    exact ⟨fun returns none => Bool.noConfusion (returns.2.mpr none), unwritten_returns⟩

/-- The map is full and at its cap; the first entry still goes through, and then
no transaction begins. -/
def cappedAnswers : BatchAnswers where
  envOpen := true
  round _ := ⟨true, fun _ => .mapFull, true, false⟩
  single i := ⟨i == 0, fun _ => .success, true, true⟩

theorem committed_entry_returned :
    ¬∀ answers items, ReturnsUncommitted items (writeBatch answers items) := by
  intro always
  have committed := (always cappedAnswers [(1, [7]), (2, [8])]).1
  revert committed
  decide

end LmdbStore

end GtnhPlatform.ChunkStore
