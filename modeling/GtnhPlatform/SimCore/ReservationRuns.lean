import GtnhPlatform.SimCore.ReservationAccounting

namespace GtnhPlatform.SimCore

open Common Crafting Inventory

def CraftInput.Touches (entity : Nat) : CraftInput → Prop
  | .spawn other _ _ => other = entity
  | .destroy other => other = entity
  | .setSlots other _ => other = entity
  | _ => False

namespace CraftSystem

def slotsOf (system : CraftSystem) (entity : Nat) : Option (List PersistSlot) :=
  (system.registry.lookup entity).map fun machine => machine.slots

variable {system : CraftSystem} {other : Nat}

theorem slotsOf_setMachine {next : CraftSystem} {machine old : MachineEntity}
    (base : next.registry = system.registry) (present : system.registry.lookup entity = some old)
    (same : other = entity → machine.slots = old.slots) :
    (next.setMachine entity machine).slotsOf other = system.slotsOf other := by
  unfold slotsOf
  rw [ReservationInvariant.lookup_setMachine, base]
  split
  · next equal => rw [equal, present, Option.map_some, Option.map_some, same equal]
  · rfl

variable (system : CraftSystem)

theorem slotsOf_cancel (entity other : Nat) :
    (system.cancel entity).slotsOf other = system.slotsOf other := by
  unfold cancel
  cases present : system.registry.lookup entity with
  | none => rfl
  | some machine =>
    exact slotsOf_setMachine rfl present fun _ => rfl

theorem slotsOf_cancelStale (entity other : Nat) (recipe : Recipe) :
    (system.cancelStale entity recipe).slotsOf other = system.slotsOf other := by
  unfold cancelStale
  split
  · rfl
  · split
    · rfl
    · exact slotsOf_cancel system entity other

theorem slotsOf_beginReservation (entity other : Nat) (recipe : Recipe)
    (nowTick : Nat) (publish : Nat → Bool) :
    (system.beginReservation entity recipe nowTick publish).1.slotsOf other =
      system.slotsOf other := by
  unfold beginReservation
  cases present : system.registry.lookup entity with
  | none => rfl
  | some machine =>
    simp only
    split
    · rfl
    · exact slotsOf_setMachine rfl present fun _ => rfl

theorem slotsOf_tickPending (entity other nowTick : Nat) (publish : Nat → Bool) :
    (system.tickPending entity nowTick publish).1.slotsOf other = system.slotsOf other := by
  unfold tickPending
  cases present : system.registry.lookup entity with
  | none => rfl
  | some machine =>
    simp only
    split
    · rfl
    split
    · rfl
    split
    · exact slotsOf_cancel system entity other
    · split
      · rfl
      · exact slotsOf_setMachine rfl present fun _ => rfl

theorem slotsOf_commitPendingCraft (entity other first last : Nat)
    (uncommitted : .committed other ∉ (system.commitPendingCraft entity first last).2) :
    (system.commitPendingCraft entity first last).1.slotsOf other = system.slotsOf other := by
  unfold commitPendingCraft at *
  cases present : system.registry.lookup entity with
  | none => rfl
  | some machine =>
    simp only [present] at uncommitted ⊢
    cases pending : machine.progress.pendingCraft with
    | none => rfl
    | some craft =>
      simp only [pending] at uncommitted ⊢
      split
      · rfl
      rename_i accepted
      simp only [accepted] at uncommitted
      cases loaded : system.recipes.lookup craft.recipeId with
      | none => exact slotsOf_cancel system entity other
      | some recipe =>
        simp only [loaded, Bool.false_eq_true, if_false, List.mem_singleton] at uncommitted
        exact slotsOf_setMachine rfl present fun same =>
          absurd (congrArg CraftEvent.committed same) uncommitted

theorem slotsOf_start (entity other : Nat) (recipeId : String)
    (nowTick first last : Nat) (publish : Nat → Bool)
    (uncommitted : .committed other ∉ (system.start entity recipeId nowTick first last publish).2) :
    (system.start entity recipeId nowTick first last publish).1.slotsOf other =
      system.slotsOf other := by
  unfold start at *
  split
  · split
    · next machine recipe present loaded starts =>
      simp only [present, loaded, starts, if_true] at uncommitted
      unfold tickOrchestratedStart at *
      simp only at uncommitted ⊢
      split
      · rw [slotsOf_beginReservation, slotsOf_cancelStale]
      rename_i pending
      simp only [pending, if_false, Bool.false_eq_true] at uncommitted
      split
      · rw [slotsOf_tickPending, slotsOf_cancelStale]
      rename_i alive
      simp only [alive, if_false, Bool.false_eq_true, List.mem_append, not_or] at uncommitted
      rw [slotsOf_commitPendingCraft _ _ _ _ _ uncommitted.2, slotsOf_tickPending,
        slotsOf_cancelStale]
    · rfl
  · rfl

theorem slotsOf_creditBuffer (entity other : Nat) (amount : Int) :
    (system.creditBuffer entity amount).slotsOf other = system.slotsOf other := by
  unfold creditBuffer
  cases present : system.registry.lookup entity with
  | none => rfl
  | some machine =>
    simp only
    split
    · rfl
    · exact slotsOf_setMachine rfl present fun _ => rfl

theorem slotsOf_onConsumeResponse (other : Nat) (response : ResourceTransferResponse) :
    (system.onConsumeResponse response).1.slotsOf other = system.slotsOf other := by
  unfold onConsumeResponse
  cases system.client.outstanding.lookup response.requestId with
  | none => rfl
  | some pending =>
    simp only
    split
    · rw [slotsOf_creditBuffer]
      rfl
    cases present : system.registry.lookup pending.entity with
    | none => rfl
    | some machine =>
      simp only
      split
      · rfl
      split
      · rfl
      split
      · rfl
      · rw [slotsOf_creditBuffer]
        exact slotsOf_setMachine rfl present fun _ => rfl

theorem slotsOf_tickActive (entity other : Nat) (publish : Nat → Bool) :
    (system.tickActive entity publish).1.slotsOf other = system.slotsOf other := by
  unfold tickActive
  cases present : system.registry.lookup entity with
  | none => rfl
  | some machine =>
    simp only
    split
    · rfl
    split
    · exact slotsOf_setMachine rfl present fun _ => rfl
    split
    · rfl
    · split
      · rfl
      · exact slotsOf_setMachine rfl present fun _ => rfl

theorem slotsOf_step (input : CraftInput) (other : Nat)
    (untouched : ¬ input.Touches other) (uncommitted : .committed other ∉ (system.step input).2) :
    (system.step input).1.slotsOf other = system.slotsOf other := by
  cases input with
  | reload recipes => rfl
  | spawn entity slots energy =>
    simp only [step, slotsOf, Table.emplace]
    split
    · rfl
    · rw [Table.lookup_insert_of_ne _ _ (Ne.symm untouched)]
  | destroy entity =>
    simp only [step, slotsOf]
    rw [AList.lookup_erase_ne (Ne.symm untouched)]
  | setSlots entity slots =>
    simp only [step]
    cases present : system.registry.lookup entity with
    | none => rfl
    | some machine => exact slotsOf_setMachine rfl present fun same => absurd same.symm untouched
  | start entity recipeId nowTick first last publish =>
    exact slotsOf_start system entity other recipeId nowTick first last publish uncommitted
  | active entity publish => exact slotsOf_tickActive system entity other publish
  | response response => exact slotsOf_onConsumeResponse system other response
  | cancel entity => exact slotsOf_cancel system entity other

theorem slotsOf_run (inputs : List CraftInput) (other : Nat)
    (untouched : ∀ input ∈ inputs, ¬ input.Touches other)
    (uncommitted : .committed other ∉ machine.outputs system inputs) :
    (machine.final system inputs).slotsOf other = system.slotsOf other := by
  induction inputs generalizing system with
  | nil => rfl
  | cons input rest ih =>
    simp only [Machine.outputs, List.mem_append, not_or] at uncommitted
    refine Eq.trans (ih _ (fun later mem =>
      untouched later (List.mem_cons_of_mem input mem)) uncommitted.2) ?_
    exact slotsOf_step system input other (untouched input List.mem_cons_self) uncommitted.1

end CraftSystem

structure ReservationAccounts (inputs : List CraftInput) : Prop where
  /-- no leg is credited more than its recipe requires -/
  bounded : ∀ entity recipe,
    lastRecipe entity (CraftSystem.machine.outputs .initial inputs) = some recipe →
      ∀ index leg, (reservationLegs recipe)[index]? = some leg →
        0 ≤ acceptedSince entity (index + 1) (CraftSystem.machine.outputs .initial inputs) ∧
          acceptedSince entity (index + 1) (CraftSystem.machine.outputs .initial inputs) ≤
            leg.2.2.toNat
  /-- the pending craft records exactly what was credited -/
  recorded : ∀ entity machine craft,
    (CraftSystem.machine.final .initial inputs).registry.lookup entity = some machine →
      machine.progress.pendingCraft = some craft →
        ∀ index reservation, craft.requirements[index]? = some reservation →
          reservation.requirementId = index + 1 ∧ reservation.acceptedAmount =
            acceptedSince entity (index + 1) (CraftSystem.machine.outputs .initial inputs)
  /-- no request id is credited twice -/
  once : (acceptedIds (CraftSystem.machine.outputs .initial inputs)).Nodup
  /-- completion is declared, and the craft committed, on full acceptance only -/
  complete : ∀ before event after entity,
    CraftSystem.machine.outputs .initial inputs = before ++ event :: after →
      event = .declared entity ∨ event = .committed entity → Complete entity before
  /-- until the commit the orchestration leaves the slots alone -/
  untouched : ∀ before during entity, inputs = before ++ during →
    (∀ input ∈ during, ¬ input.Touches entity) → .committed entity ∉
          CraftSystem.machine.outputs (CraftSystem.machine.final .initial before) during →
        (CraftSystem.machine.final .initial inputs).slotsOf entity =
          (CraftSystem.machine.final .initial before).slotsOf entity

theorem Justified.complete (justified : Justified [] history)
    (split : history = before ++ event :: after)
    (named : event = .declared entity ∨ event = .committed entity) : Complete entity before := by
  rw [split] at justified
  have here := ((justified_append [] before (event :: after)).mp justified).2.1
  rcases named with rfl | rfl
  · exact here
  · exact here

theorem run_accounts (inputs : List CraftInput) : ReservationAccounts inputs := by
  have invariant := CraftSystem.run_invariant inputs
  refine ⟨?_, ?_, invariant.once, ?_, ?_⟩
  · intro entity recipe last index leg found
    obtain ⟨lower, upper⟩ := invariant.bounded entity recipe last index leg found
    have amount := wrapI32_le (Int.natCast_nonneg leg.2.2.toNat)
    refine ⟨lower, Int.le_trans upper (Int.max_le.mpr ⟨amount, Int.natCast_nonneg _⟩)⟩
  · intro entity machine craft found pending index reservation present
    obtain ⟨recipe, books⟩ := invariant.booked entity machine craft found pending
    have inside : index < (reservationLegs recipe).length := by
      rw [← books.legs]
      exact (List.getElem?_eq_some_iff.mp present).1
    have booked := books.booked index reservation _ present (List.getElem?_eq_getElem inside)
    exact ⟨booked.identity, booked.accepted⟩
  · intro before event after entity split named
    exact invariant.justified.complete split named
  · intro before during entity split untouched uncommitted
    rw [split, Machine.final_append]
    exact CraftSystem.slotsOf_run _ during entity untouched uncommitted

end GtnhPlatform.SimCore
