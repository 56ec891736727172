import Mathlib.Data.List.Induction
import Mathlib.Order.Nat

namespace GtnhPlatform

/-! A register takes the newest value it is told of; a removal takes away every value
up to its epoch. -/

namespace Register

inductive State (ν : Type u) where
  | absent
  | shown (value : ν)
  | gone (epoch : Nat)

structure Delivery (ν : Type u) where
  value : ν
  removed : Bool

section

variable {ν : Type u} (epoch sequence : ν → Nat)

def accept (delivery : Delivery ν) : State ν :=
  if delivery.removed then .gone (epoch delivery.value) else .shown delivery.value

def receive : State ν → Delivery ν → State ν
  | .absent, delivery => accept epoch delivery
  | .gone removal, delivery =>
    if epoch delivery.value ≤ removal then .gone removal else accept epoch delivery
  | .shown current, delivery =>
    if delivery.removed then
      if epoch delivery.value < epoch current then .shown current
      else .gone (epoch delivery.value)
    else if epoch delivery.value < epoch current then .shown current
    else if epoch delivery.value = epoch current ∧
        sequence delivery.value ≤ sequence current then .shown current
    else .shown delivery.value

/-- The newest of the values delivered, if no removal covers it. -/
structure Survives (delivered : List (Delivery ν)) (value : ν) : Prop where
  member : ⟨value, false⟩ ∈ delivered
  newest : ∀ other ∈ delivered, other.removed = false → epoch other.value < epoch value ∨
      epoch other.value = epoch value ∧ sequence other.value ≤ sequence value
  outlives : ∀ other ∈ delivered, other.removed = true → epoch other.value < epoch value

def Distinct (delivered : List (Delivery ν)) : Prop :=
  ∀ first ∈ delivered, ∀ second ∈ delivered, epoch first.value = epoch second.value →
    sequence first.value = sequence second.value → first = second

def Describes (delivered : List (Delivery ν)) : State ν → Prop
  | .absent => delivered = []
  | .shown value => Survives epoch sequence delivered value
  | .gone removal =>
    (∃ last ∈ delivered, last.removed = true ∧ epoch last.value = removal) ∧
      ∀ other ∈ delivered, epoch other.value ≤ removal

end

section Laws

variable {ν : Type u} {epoch sequence : ν → Nat} {delivered : List (Delivery ν)}
    {delivery : Delivery ν} {other : Delivery ν}

theorem mem_concat : other ∈ delivered ++ [delivery] ↔ other ∈ delivered ∨ other = delivery := by
  rw [List.mem_append, List.mem_singleton]

theorem describes_accept (newer : ∀ other ∈ delivered, epoch other.value < epoch delivery.value) :
    Describes epoch sequence (delivered ++ [delivery]) (accept epoch delivery) := by
  unfold accept
  cases removed : delivery.removed with
  | true =>
    rw [if_pos rfl]
    refine ⟨⟨delivery, mem_concat.mpr (Or.inr rfl), removed, rfl⟩, ?_⟩
    intro other member
    obtain before | rfl := mem_concat.mp member
    · exact (newer other before).le
    · exact le_rfl
  | false =>
    rw [if_neg Bool.false_ne_true]
    have same : delivery = ⟨delivery.value, false⟩ := by
      rw [← removed]
    constructor
    · exact mem_concat.mpr (Or.inr same.symm)
    · intro other member _
      obtain before | rfl := mem_concat.mp member
      · exact Or.inl (newer other before)
      · exact Or.inr ⟨rfl, le_rfl⟩
    · intro other member gone
      obtain before | rfl := mem_concat.mp member
      · exact newer other before
      · rw [removed] at gone
        cases gone

theorem describes_gone (removed : delivery.removed = true)
    (covers : ∀ other ∈ delivered, epoch other.value ≤ epoch delivery.value) :
    Describes epoch sequence (delivered ++ [delivery]) (.gone (epoch delivery.value)) := by
  refine ⟨⟨delivery, mem_concat.mpr (Or.inr rfl), removed, rfl⟩, ?_⟩
  intro other member
  obtain before | rfl := mem_concat.mp member
  · exact covers other before
  · exact le_rfl

theorem Survives.epoch_le (survives : Survives epoch sequence delivered value)
    (member : other ∈ delivered) : epoch other.value ≤ epoch value := by
  cases removed : other.removed with
  | true => exact (survives.outlives other member removed).le
  | false =>
    obtain older | ⟨same, -⟩ := survives.newest other member removed
    · exact older.le
    · exact same.le

theorem Survives.keep (survives : Survives epoch sequence delivered value)
    (newest : delivery.removed = false → epoch delivery.value < epoch value ∨
      epoch delivery.value = epoch value ∧ sequence delivery.value ≤ sequence value)
    (outlives : delivery.removed = true → epoch delivery.value < epoch value) :
    Survives epoch sequence (delivered ++ [delivery]) value := by
  constructor
  · exact mem_concat.mpr (Or.inl survives.member)
  · intro other member
    obtain before | rfl := mem_concat.mp member
    · exact survives.newest other before
    · exact newest
  · intro other member
    obtain before | rfl := mem_concat.mp member
    · exact survives.outlives other before
    · exact outlives

theorem Describes.receive (describes : Describes epoch sequence delivered state)
    (delivery : Delivery ν) : Describes epoch sequence (delivered ++ [delivery])
      (receive epoch sequence state delivery) := by
  cases state with
  | absent =>
    apply describes_accept
    intro other member
    rw [describes] at member
    cases member
  | gone removal =>
    obtain ⟨⟨last, listed, removed, same⟩, covers⟩ := describes
    simp only [Register.receive]
    split
    · next covered =>
      refine ⟨⟨last, mem_concat.mpr (Or.inl listed), removed, same⟩, ?_⟩
      intro other member
      obtain before | rfl := mem_concat.mp member
      · exact covers other before
      · exact covered
    · next newer =>
      apply describes_accept
      intro other member
      exact (covers other member).trans_lt (not_le.mp newer)
  | shown current =>
    simp only [Register.receive]
    split
    · next removed =>
      split
      · next stale => exact describes.keep (by simp [removed]) fun _ => stale
      rename_i covers
      apply describes_gone removed
      intro other member
      exact (describes.epoch_le member).trans (not_lt.mp covers)
    · next update =>
      have kept : delivery.removed = false := Bool.eq_false_iff.mpr update
      split
      · next stale => exact describes.keep (fun _ => Or.inl stale) (by simp [kept])
      rename_i stale
      split
      · next older => exact describes.keep (fun _ => Or.inr older) (by simp [kept])
      rename_i newer
      have same : delivery = ⟨delivery.value, false⟩ := by
        rw [← kept]
      constructor
      · exact mem_concat.mpr (Or.inr same.symm)
      · intro other member value
        obtain before | rfl := mem_concat.mp member
        · obtain older | ⟨equal, later⟩ := describes.newest other before value <;> omega
        · exact Or.inr ⟨rfl, le_rfl⟩
      · intro other member gone
        obtain before | rfl := mem_concat.mp member
        · exact (describes.outlives other before gone).trans_le (not_lt.mp stale)
        · rw [kept] at gone
          cases gone

theorem foldl_receive_describes (delivered : List (Delivery ν)) :
    Describes epoch sequence delivered (delivered.foldl (receive epoch sequence) .absent) := by
  induction delivered using List.reverseRecOn with
  | nil => rfl
  | append_singleton delivered delivery ih =>
    rw [List.foldl_append]
    exact ih.receive delivery

theorem foldl_receive_eq_shown_iff (distinct : Distinct epoch sequence delivered) (value : ν) :
    delivered.foldl (receive epoch sequence) .absent = .shown value ↔
      Survives epoch sequence delivered value := by
  have describes : Describes epoch sequence delivered _ := foldl_receive_describes delivered
  constructor
  · intro shown
    rw [shown] at describes
    exact describes
  intro survives
  cases state : delivered.foldl (receive epoch sequence) .absent with
  | absent =>
    rw [state] at describes
    have member := survives.member
    rw [describes] at member
    cases member
  | gone removal =>
    rw [state] at describes
    obtain ⟨⟨last, listed, removed, rfl⟩, covers⟩ := describes
    exact absurd (covers _ survives.member)
      (not_le.mpr (survives.outlives last listed removed))
  | shown other =>
    rw [state] at describes
    have first := describes.newest _ survives.member rfl
    have second := survives.newest _ describes.member rfl
    dsimp only at first second
    have epochs : epoch other = epoch value := by omega
    have sequences : sequence other = sequence value := by omega
    have same := distinct _ describes.member _ survives.member epochs sequences
    injection same with same
    rw [same]

end Laws

end Register

end GtnhPlatform
