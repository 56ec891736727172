namespace GtnhPlatform

/-! Buffered channels. A send on a closed one panics. -/

structure Channel (α : Type u) where
  buffer : List α := []
  closed : Bool := false

namespace Channel

variable {α : Type u} (channel : Channel α)

def canSend (capacity : Nat) : Bool := channel.closed || decide (channel.buffer.length < capacity)

def canReceive : Bool := channel.closed || !channel.buffer.isEmpty

/-- `none` is the panic. -/
def send (value : α) : Option (Channel α) :=
  if channel.closed then none else some { channel with buffer := channel.buffer ++ [value] }

def receive : Option α × Channel α :=
  match channel.buffer with
  | [] => (none, channel)
  | value :: buffer => (some value, { channel with buffer := buffer })

def close : Channel α := { channel with closed := true }

/-- The case a select runs: the one picked if it is ready, else one that is. -/
def select {κ : Type v} [DecidableEq κ] (cases : List κ) (ready : κ → Bool) (pick : κ) :
    Option κ :=
  if pick ∈ cases.filter ready then some pick else (cases.filter ready).head?

theorem ready_of_select {κ : Type v} [DecidableEq κ] {cases : List κ} {ready : κ → Bool}
    {pick chosen : κ} (selects : select cases ready pick = some chosen) :
    chosen ∈ cases ∧ ready chosen = true := by
  rw [← List.mem_filter]
  unfold select at selects
  split at selects
  case isTrue picked =>
    cases selects
    exact picked
  case isFalse => exact List.mem_of_head? selects

end Channel

end GtnhPlatform
