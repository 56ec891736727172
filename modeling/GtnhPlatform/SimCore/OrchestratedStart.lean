import GtnhPlatform.SimCore.CraftReservation

namespace GtnhPlatform.SimCore

open Common Crafting Inventory

def Waits (nowTick : Nat) (recipe : Recipe) (progress : RecipeProgress) : Prop :=
  ∃ craft, progress.pendingCraft = some craft ∧ craft.recipeId = recipe.id ∧
    craft.fullyAccepted = false ∧ craft.expired nowTick = false ∧
    craft.retryCount < kMaxRetries ∧ craft.retryDue nowTick = false

namespace CraftSystem

variable {system : CraftSystem} {entity : Nat} {machine : MachineEntity}

theorem lookup_setMachine (system : CraftSystem) (entity other : Nat) (machine : MachineEntity) :
    (system.setMachine entity machine).registry.lookup other =
      if other = entity then some machine else system.registry.lookup other :=
  Table.lookup_insert_eq system.registry entity machine other

variable {other : Nat}

theorem lookup_cancel_of_ne (system : CraftSystem) (distinct : other ≠ entity) :
    (system.cancel entity).registry.lookup other = system.registry.lookup other := by
  unfold cancel
  split
  · rfl
  · exact (lookup_setMachine _ _ _ _).trans (if_neg distinct)

theorem lookup_cancel (found : system.registry.lookup entity = some machine) :
    (system.cancel entity).registry.lookup entity =
      some { machine with progress := { machine.progress with pendingCraft := none } } := by
  unfold cancel
  rw [found]
  exact (lookup_setMachine _ _ _ _).trans (if_pos rfl)

theorem lookup_cancelStale_of_ne (system : CraftSystem) (recipe : Recipe)
    (distinct : other ≠ entity) :
    (system.cancelStale entity recipe).registry.lookup other = system.registry.lookup other := by
  unfold cancelStale
  split
  · rfl
  · split
    · rfl
    · exact lookup_cancel_of_ne system distinct

theorem lookup_beginReservation_of_ne (system : CraftSystem) (recipe : Recipe) (nowTick : Nat)
    (publish : Nat → Bool) (distinct : other ≠ entity) :
    (system.beginReservation entity recipe nowTick publish).1.registry.lookup other =
      system.registry.lookup other := by
  unfold beginReservation
  split
  · rfl
  · split
    · rfl
    · exact (lookup_setMachine _ _ _ _).trans (if_neg distinct)

theorem lookup_tickPending_of_ne (system : CraftSystem) (nowTick : Nat) (publish : Nat → Bool)
    (distinct : other ≠ entity) :
    (system.tickPending entity nowTick publish).1.registry.lookup other =
      system.registry.lookup other := by
  unfold tickPending
  split
  · rfl
  split
  · rfl
  split
  · rfl
  split
  · exact lookup_cancel_of_ne system distinct
  · split
    · rfl
    · exact (lookup_setMachine _ _ _ _).trans (if_neg distinct)

theorem lookup_commitPendingCraft_of_ne (system : CraftSystem) (first last : Nat)
    (distinct : other ≠ entity) :
    (system.commitPendingCraft entity first last).1.registry.lookup other =
      system.registry.lookup other := by
  unfold commitPendingCraft
  split
  · rfl
  split
  · rfl
  split
  · rfl
  · split
    · exact lookup_cancel_of_ne system distinct
    · exact (lookup_setMachine _ _ _ _).trans (if_neg distinct)

theorem lookup_tickOrchestratedStart_of_ne (system : CraftSystem) (recipe : Recipe)
    (nowTick first last : Nat) (publish : Nat → Bool) (distinct : other ≠ entity) :
    (system.tickOrchestratedStart entity recipe nowTick first last publish).1.registry.lookup
      other = system.registry.lookup other := by
  have fresh := lookup_cancelStale_of_ne system recipe distinct
  unfold tickOrchestratedStart
  dsimp only
  split
  · exact (lookup_beginReservation_of_ne _ recipe nowTick publish distinct).trans fresh
  have ticked := (lookup_tickPending_of_ne _ nowTick publish distinct).trans fresh
  split
  · exact ticked
  · exact (lookup_commitPendingCraft_of_ne _ first last distinct).trans ticked

def pendingOf (system : CraftSystem) (entity : Nat) : Option PendingCraft :=
  (system.registry.lookup entity).bind fun machine => machine.progress.pendingCraft

theorem pendingOf_cancel (system : CraftSystem) (entity : Nat) :
    (system.cancel entity).pendingOf entity = none := by
  unfold pendingOf
  cases found : system.registry.lookup entity with
  | none =>
    unfold cancel
    rw [found]
    simp [found]
  | some machine =>
    rw [lookup_cancel found]
    rfl

theorem pendingOf_setProgress (system : CraftSystem) (entity : Nat) (machine : MachineEntity)
    (progress : RecipeProgress) :
    (system.setProgress entity machine progress).pendingOf entity = progress.pendingCraft := by
  rw [setProgress, pendingOf, lookup_setMachine, if_pos rfl]
  rfl

variable {recipe : Recipe}

theorem pendingOf_beginReservation (found : system.registry.lookup entity = some machine)
    (idle : machine.progress.pendingCraft = none) (needs : recipe.needsReservation = true)
    (nowTick : Nat) (publish : Nat → Bool) :
    ∃ craft, (system.beginReservation entity recipe nowTick publish).1.pendingOf entity =
      some craft ∧ craft.recipeId = recipe.id := by
  unfold beginReservation
  simp only [found, idle, needs, Option.isSome_none, Bool.not_true, Bool.or_self,
    Bool.false_eq_true, if_false]
  exact ⟨_, pendingOf_setProgress _ entity machine _, rfl⟩

variable {craft : PendingCraft}

theorem commitPendingCraft_unready (pending : system.pendingOf entity = some craft)
    (unready : craft.fullyAccepted = false) (first last : Nat) :
    (system.commitPendingCraft entity first last).1 = system := by
  unfold pendingOf at pending
  obtain ⟨machine, found, pending⟩ := Option.bind_eq_some_iff.mp pending
  unfold commitPendingCraft
  simp [found, pending, unready]

theorem pendingOf_commitPendingCraft (pending : system.pendingOf entity = some craft)
    (ready : craft.fullyAccepted = true) (first last : Nat) :
    (system.commitPendingCraft entity first last).1.pendingOf entity = none := by
  unfold pendingOf at pending
  obtain ⟨machine, found, pending⟩ := Option.bind_eq_some_iff.mp pending
  unfold commitPendingCraft
  simp only [found, pending, ready, Bool.not_true, Bool.false_eq_true, if_false]
  split
  · exact pendingOf_cancel system entity
  · rw [pendingOf, lookup_setMachine, if_pos rfl]
    rfl

theorem pendingOf_eq (found : system.registry.lookup entity = some machine) :
    system.pendingOf entity = machine.progress.pendingCraft := by
  rw [pendingOf, found]
  rfl

theorem pendingOf_commitPendingCraft_ne {craft other : PendingCraft}
    (pending : system.pendingOf entity = some craft) (differs : craft ≠ other) (first last : Nat) :
    (system.commitPendingCraft entity first last).1.pendingOf entity ≠ some other := by
  cases ready : craft.fullyAccepted with
  | true =>
    rw [pendingOf_commitPendingCraft pending ready first last]
    exact nofun
  | false =>
    rw [commitPendingCraft_unready pending ready first last, pending]
    exact fun same => differs (Option.some.inj same)

theorem tickOrchestratedStart_begins (recipe : Recipe) (nowTick first last : Nat)
    (publish : Nat → Bool) (idle : (system.cancelStale entity recipe).pendingOf entity = none) :
    (system.tickOrchestratedStart entity recipe nowTick first last publish).1 =
      ((system.cancelStale entity recipe).beginReservation entity recipe nowTick publish).1 := by
  have nothing : (system.cancelStale entity recipe).hasPending entity = false := by
    rw [hasPending, ← pendingOf, idle]
    rfl
  unfold tickOrchestratedStart
  simp only [nothing, Bool.not_false, if_true]

theorem tickOrchestratedStart_pending (pending : system.pendingOf entity = some craft)
    (same : craft.recipeId = recipe.id) (nowTick first last : Nat) (publish : Nat → Bool) :
    (system.tickOrchestratedStart entity recipe nowTick first last publish).1 =
      if (system.tickPending entity nowTick publish).2.1 then
        ((system.tickPending entity nowTick publish).1.commitPendingCraft entity first last).1
      else (system.tickPending entity nowTick publish).1 := by
  have fresh : system.cancelStale entity recipe = system := by
    rw [cancelStale, ← pendingOf, pending]
    exact if_pos same
  have waiting : system.hasPending entity = true := by
    rw [hasPending, ← pendingOf, pending]
    rfl
  unfold tickOrchestratedStart
  simp only [fresh, waiting, Bool.not_true, Bool.false_eq_true, if_false]
  cases (system.tickPending entity nowTick publish).2.1 <;> rfl

variable (found : system.registry.lookup entity = some machine)

include found

theorem pendingOf_tickOrchestratedStart_stale (pending : machine.progress.pendingCraft = some craft) (stale : craft.recipeId ≠ recipe.id)
    (needs : recipe.needsReservation = true) (nowTick first last : Nat) (publish : Nat → Bool) :
    (system.tickOrchestratedStart entity recipe nowTick first last publish).1.pendingOf entity ≠
      some craft := by
  have cancelled : system.cancelStale entity recipe = system.cancel entity := by
    rw [cancelStale, ← pendingOf, pendingOf_eq found, pending]
    exact if_neg stale
  rw [tickOrchestratedStart_begins recipe nowTick first last publish
    (by rw [cancelled, pendingOf_cancel]), cancelled]
  obtain ⟨reserved, kept, named⟩ :=
    pendingOf_beginReservation (lookup_cancel found) rfl needs nowTick publish
  intro same
  rw [kept] at same
  apply stale
  rw [← named, Option.some.inj same]

theorem pendingOf_tickOrchestratedStart_busy (pending : machine.progress.pendingCraft = some craft) (same : craft.recipeId = recipe.id)
    (nowTick first last : Nat) (publish : Nat → Bool)
    (busy : ¬ Waits nowTick recipe machine.progress) :
    (system.tickOrchestratedStart entity recipe nowTick first last publish).1.pendingOf entity ≠
      some craft := by
  have held : system.pendingOf entity = some craft := (pendingOf_eq found).trans pending
  rw [tickOrchestratedStart_pending held same]
  unfold tickPending
  simp only [found, pending]
  cases ready : craft.fullyAccepted with
  | true =>
    simp only [if_true]
    rw [pendingOf_commitPendingCraft held ready]
    exact nofun
  | false =>
    cases given : craft.expired nowTick || decide (kMaxRetries ≤ craft.retryCount) with
    | true =>
      simp only [Bool.false_eq_true, if_false, if_true]
      rw [pendingOf_cancel]
      exact nofun
    | false =>
      cases due : craft.retryDue nowTick with
      | false =>
        obtain ⟨live, left⟩ := Bool.or_eq_false_iff.mp given
        refine absurd ⟨craft, pending, same, ready, live, ?_, due⟩ busy
        simpa using left
      | true =>
        simp only [Bool.false_eq_true, if_false, if_true, Bool.not_true]
        apply pendingOf_commitPendingCraft_ne (pendingOf_setProgress _ entity machine _)
        intro fixed
        exact Nat.succ_ne_self _ (congrArg PendingCraft.retryCount fixed)

theorem tickOrchestratedStart_waits_iff (needs : recipe.needsReservation = true) (nowTick first last : Nat) (publish : Nat → Bool) :
    (system.tickOrchestratedStart entity recipe nowTick first last publish).1.registry.lookup
      entity = some machine ↔ Waits nowTick recipe machine.progress := by
  constructor
  · intro unchanged
    have kept := pendingOf_eq unchanged
    cases pending : machine.progress.pendingCraft with
    | none =>
      have fresh : system.cancelStale entity recipe = system := by
        rw [cancelStale, ← pendingOf, pendingOf_eq found, pending]
      obtain ⟨craft, reserved, -⟩ := pendingOf_beginReservation found pending needs nowTick publish
      rw [tickOrchestratedStart_begins recipe nowTick first last publish
        (by rw [fresh, pendingOf_eq found, pending]), fresh, reserved, pending] at kept
      cases kept
    | some craft =>
      rw [pending] at kept
      by_cases same : craft.recipeId = recipe.id
      · by_contra busy
        exact pendingOf_tickOrchestratedStart_busy found pending same nowTick first last
          publish busy kept
      · exact absurd kept (pendingOf_tickOrchestratedStart_stale found pending same needs
          nowTick first last publish)
  · rintro ⟨craft, pending, same, unready, live, left, early⟩
    have held : system.pendingOf entity = some craft := (pendingOf_eq found).trans pending
    have idle : system.tickPending entity nowTick publish = (system, true, []) := by
      unfold tickPending
      simp [found, pending, unready, live, early, Nat.not_le.mpr left]
    rw [tickOrchestratedStart_pending held same, idle, if_pos rfl,
      commitPendingCraft_unready held unready]
    exact found

omit found

end CraftSystem

end GtnhPlatform.SimCore
