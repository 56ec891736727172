import Mathlib.Data.List.Induction

namespace GtnhPlatform

/-! Deterministic machines with outputs. Whatever the environment chooses is part of
the input. -/

structure Machine (σ : Type u) (α : Type v) (β : Type w) where
  step : σ → α → σ × List β

namespace Machine

variable {σ : Type u} {α : Type v} {β : Type w} {τ : Type u'} {γ : Type w'} (machine : Machine σ α β)

def final : σ → List α → σ
  | state, [] => state
  | state, input :: rest => final (machine.step state input).1 rest

def outputs : σ → List α → List β
  | _, [] => []
  | state, input :: rest =>
    (machine.step state input).2 ++ outputs (machine.step state input).1 rest

variable (state : σ)

@[simp] theorem final_nil : machine.final state [] = state := rfl

@[simp] theorem outputs_nil : machine.outputs state [] = [] := rfl

theorem final_append (first second : List α) : machine.final state (first ++ second) =
      machine.final (machine.final state first) second := by
  induction first generalizing state with
  | nil => rfl
  | cons input rest ih => exact ih _

theorem outputs_append (first second : List α) : machine.outputs state (first ++ second) =
      machine.outputs state first ++ machine.outputs (machine.final state first) second := by
  induction first generalizing state with
  | nil => rfl
  | cons input rest ih =>
    simp only [List.cons_append, outputs, final, ih, List.append_assoc]

@[simp] theorem final_concat (inputs : List α) (input : α) :
    machine.final state (inputs ++ [input]) =
      (machine.step (machine.final state inputs) input).1 := by
  rw [final_append]
  rfl

@[simp] theorem outputs_concat (inputs : List α) (input : α) :
    machine.outputs state (inputs ++ [input]) = machine.outputs state inputs ++
        (machine.step (machine.final state inputs) input).2 := by
  rw [outputs_append]
  simp [outputs]

/-- A condition on every step of a run: it sees the state before the step and
the input. -/
def Along (condition : σ → α → Prop) : σ → List α → Prop
  | _, [] => True
  | state, input :: rest =>
    condition state input ∧ Along condition (machine.step state input).1 rest

variable (condition : σ → α → Prop)

theorem along_append (state : σ) (first second : List α) :
    machine.Along condition state (first ++ second) ↔ machine.Along condition state first ∧
        machine.Along condition (machine.final state first) second := by
  induction first generalizing state with
  | nil => simp [Along]
  | cons input rest ih =>
    simp only [List.cons_append, Along, final, ih, and_assoc]

theorem along_concat (state : σ) (inputs : List α) (input : α) :
    machine.Along condition state (inputs ++ [input]) ↔ machine.Along condition state inputs ∧
        condition (machine.final state inputs) input := by
  rw [along_append]
  simp [Along]

theorem along_iff (state : σ) (inputs : List α) : machine.Along condition state inputs ↔
      ∀ before input after, inputs = before ++ input :: after →
        condition (machine.final state before) input := by
  induction inputs generalizing state with
  | nil => simp [Along]
  | cons head rest ih =>
    constructor
    · rintro ⟨holds, along⟩ before input after split
      cases before with
      | nil =>
        cases split
        exact holds
      | cons first before =>
        obtain ⟨rfl, tailSplit⟩ := List.cons.inj split
        exact (ih _).mp along before input after tailSplit
    · intro every
      refine ⟨every [] head rest rfl, (ih _).mpr ?_⟩
      intro before input after split
      exact every (head :: before) input after (by rw [split]; rfl)

theorem along_true (inputs : List α) :
    machine.Along (fun _ _ => True) state inputs := by
  rw [along_iff]
  intros
  trivial

variable {inputs : List α}

theorem Along.mono {condition weaker : σ → α → Prop}
    (weaken : ∀ state input, condition state input → weaker state input) {state : σ}
    (along : machine.Along condition state inputs) : machine.Along weaker state inputs := by
  rw [along_iff] at along ⊢
  intro before input after split
  exact weaken _ _ (along before input after split)

/-- The invariant rule: what holds initially and is kept by every step that
meets its condition holds after every run whose steps meet it. The invariant
may speak of the inputs handled so far and of what they have put out. -/
theorem invariant (holds : List α → σ → List β → Prop) {state : σ} (initially : holds [] state [])
    (keeps : ∀ inputs current history input,
      holds inputs current history → condition current input →
        holds (inputs ++ [input]) (machine.step current input).1
          (history ++ (machine.step current input).2))
    (inputs : List α) (along : machine.Along condition state inputs) :
    holds inputs (machine.final state inputs) (machine.outputs state inputs) := by
  induction inputs using List.reverseRecOn with
  | nil => exact initially
  | append_singleton inputs input ih =>
    obtain ⟨before, now⟩ := (machine.along_concat condition state inputs input).mp along
    rw [final_concat, outputs_concat]
    exact keeps inputs _ _ input (ih before) now

variable {holds : σ → Prop}

/-- A state property that a step keeps exactly when the step meets a condition
holds throughout a run exactly when every step meets it. The run may be known to meet
another condition, and with it an invariant. -/
theorem always_iff_within (kept : σ → Prop) {sure condition : σ → α → Prop}
    (stays : ∀ current input, kept current → sure current input →
      kept (machine.step current input).1)
    (keeps : ∀ current input, kept current → sure current input → holds current →
      (holds (machine.step current input).1 ↔ condition current input))
    {state : σ} (keptFirst : kept state) (initially : holds state)
    (along : machine.Along sure state inputs) :
    (∀ before after, inputs = before ++ after → holds (machine.final state before)) ↔
      machine.Along condition state inputs := by
  induction inputs generalizing state with
  | nil =>
    constructor
    · intro _
      trivial
    · intro _ before after split
      obtain ⟨rfl, rfl⟩ := List.append_eq_nil_iff.mp split.symm
      exact initially
  | cons input rest ih =>
    have first := keeps state input keptFirst along.1 initially
    have keptNext := stays state input keptFirst along.1
    constructor
    · intro always
      have next := always [input] rest rfl
      refine ⟨first.mp next, (ih keptNext next along.2).mp ?_⟩
      intro before after split
      exact always (input :: before) after (by rw [split]; rfl)
    · rintro ⟨now, later⟩ before after split
      cases before with
      | nil => exact initially
      | cons head before =>
        obtain ⟨rfl, tail⟩ := List.cons.inj split
        exact (ih keptNext (first.mpr now) along.2).mpr later before after tail

theorem always_iff_on {condition : σ → α → Prop} {valid : α → Prop}
    {state : σ} (initially : holds state) (keeps : ∀ current input, valid input → holds current →
      (holds (machine.step current input).1 ↔ condition current input)) (all :
    ∀ input ∈ inputs, valid input) :
    (∀ before after, inputs = before ++ after → holds (machine.final state before)) ↔
      machine.Along condition state inputs := by
  have along : machine.Along (fun _ input => valid input) state inputs := by
    rw [along_iff]
    rintro before input after rfl
    exact all input (List.mem_append_right _ List.mem_cons_self)
  exact machine.always_iff_within (fun _ => True) (fun _ _ _ _ => trivial)
    (fun current input _ => keeps current input) trivial initially along

theorem always_iff {condition : σ → α → Prop} (keeps : ∀ current input, holds current →
      (holds (machine.step current input).1 ↔ condition current input))
    {state : σ} (initially : holds state) (inputs : List α) :
    (∀ before after, inputs = before ++ after → holds (machine.final state before)) ↔
      machine.Along condition state inputs :=
  machine.always_iff_on initially (fun current input _ => keeps current input)
    fun _ _ => trivial

variable {first second : σ → α → Prop}

/-- Two step conditions that agree wherever an invariant holds agree along runs,
if the steps that meet them keep the invariant. -/
theorem along_congr_of
    (agree : ∀ current input, holds current → (first current input ↔ second current input))
    (keeps : ∀ current input, holds current → second current input →
      holds (machine.step current input).1)
    {state : σ} (initially : holds state) (inputs : List α) :
    machine.Along first state inputs ↔ machine.Along second state inputs := by
  induction inputs generalizing state with
  | nil => exact Iff.rfl
  | cons input rest ih =>
    constructor
    · rintro ⟨now, later⟩
      have met := (agree state input initially).mp now
      exact ⟨met, (ih (keeps state input initially met)).mp later⟩
    · rintro ⟨now, later⟩
      exact ⟨(agree state input initially).mpr now,
        (ih (keeps state input initially now)).mpr later⟩

theorem along_congr (keeps : ∀ current input, holds current → holds (machine.step current input).1)
    (agree : ∀ current input, holds current → (first current input ↔ second current input))
    {state : σ} (initially : holds state) (inputs : List α) :
    machine.Along first state inputs ↔ machine.Along second state inputs :=
  machine.along_congr_of agree (fun current input now _ => keeps current input now) initially inputs

def both (first : Machine σ α β) (second : Machine τ α γ) : Machine (σ × τ) α β where
  step state input :=
    (((first.step state.1 input).1, (second.step state.2 input).1), (first.step state.1 input).2)

theorem final_both (first : Machine σ α β) (second : Machine τ α γ) (state : σ × τ)
    (inputs : List α) : (first.both second).final state inputs =
      (first.final state.1 inputs, second.final state.2 inputs) := by
  induction inputs generalizing state with
  | nil => rfl
  | cons input rest ih => exact ih _

theorem along_both (first : Machine σ α β) (second : Machine τ α γ) (condition : τ → α → Prop)
    (state : σ × τ) (inputs : List α) :
    (first.both second).Along (fun state => condition state.2) state inputs ↔
      second.Along condition state.2 inputs := by
  induction inputs generalizing state with
  | nil => exact Iff.rfl
  | cons input rest ih => exact and_congr Iff.rfl (ih _)

/-- The simulation rule: where every step that meets its condition keeps two
machines related and shows what the other puts out, every run does. -/
theorem simulates {first : Machine σ α β} {second : Machine τ α γ} {shows : β → γ}
    {related : σ → τ → Prop} {condition : σ → α → Prop}
    (step : ∀ state other input, related state other → condition state input →
      related (first.step state input).1 (second.step other input).1 ∧
        (first.step state input).2.map shows = (second.step other input).2)
    {state : σ} (initially : related state other) (inputs : List α)
    (along : first.Along condition state inputs) :
    related (first.final state inputs) (second.final other inputs) ∧
      (first.outputs state inputs).map shows = second.outputs other inputs := by
  induction inputs generalizing state other with
  | nil => exact ⟨initially, rfl⟩
  | cons input rest ih =>
    obtain ⟨next, shown⟩ := step state other input initially along.1
    obtain ⟨last, later⟩ := ih next along.2
    refine ⟨last, ?_⟩
    rw [outputs, List.map_append, shown, later, outputs]

end Machine

/-! Counted outputs: what each step puts out, a measure of its state grows by. -/

def Tallied (counted : β → Bool) (measure : σ → Nat) (before : σ)
    (result : σ × List β) : Prop :=
  result.2.countP counted + measure before = measure result.1

namespace Tallied

variable {counted : β → Bool} {measure : σ → Nat} {before : σ} {result : σ × List β}

theorem quiet (silent : ∀ output ∈ result.2, counted output = false)
    (same : measure result.1 = measure before) : Tallied counted measure before result := by
  have none : result.2.countP counted = 0 := by
    rw [List.countP_eq_zero]
    intro output mem
    rw [silent output mem]
    exact Bool.false_ne_true
  rw [Tallied, none, Nat.zero_add, same]

theorem append (left : Tallied counted measure before (middle, first))
    (right : Tallied counted measure middle (after, second)) :
    Tallied counted measure before (after, first ++ second) := by
  unfold Tallied at left right ⊢
  rw [List.countP_append, Nat.add_assoc, Nat.add_left_comm, left]
  exact right

theorem run (machine : Machine σ α β)
    (steps : machine.Along (fun state input =>
      Tallied counted measure state (machine.step state input)) before inputs) :
    Tallied counted measure before
      (machine.final before inputs, machine.outputs before inputs) := by
  refine machine.invariant _
    (fun _ state history => Tallied counted measure before (state, history)) ?_ ?_ inputs steps
  · exact quiet nofun rfl
  · intro _ current history input soFar step
    exact append soFar step

end Tallied

end GtnhPlatform
