import GtnhPlatform.Inventory.ActionHandler

namespace GtnhPlatform.Inventory

open ClickState PersistSlot

def roomFor (stack : PersistSlot) (slots : List PersistSlot) : Nat :=
  (slots.map fun d =>
    if sameStack d stack && decide (d.count < kMaxStack) then 64 - d.count.toNat else 0).sum

theorem roomFor_congr {stack other : PersistSlot} (itemId : stack.itemId = other.itemId)
    (metadata : stack.metadata = other.metadata) (slots : List PersistSlot) :
    roomFor stack slots = roomFor other slots := by
  unfold roomFor sameStack
  rw [itemId, metadata]

variable {slot : PersistSlot}

theorem isEmpty_of_count_pos (item : slot.itemId ≠ 0) (positive : 0 < slot.count.toNat) :
    slot.isEmpty = false := by
  have nonzero : slot.count ≠ 0 := by
    intro zero
    rw [zero] at positive
    exact absurd positive (by decide)
  simp [isEmpty, item, nonzero]

theorem isEmpty_eq_false_iff : slot.isEmpty = false ↔ slot.itemId ≠ 0 ∧ 0 < slot.count.toNat := by
  constructor
  · intro live
    simp only [isEmpty, Bool.or_eq_false_iff, beq_eq_false_iff_ne] at live
    refine ⟨live.1, Nat.pos_of_ne_zero fun zero => live.2 ?_⟩
    exact UInt8.toNat_inj.mp zero
  · intro live
    exact isEmpty_of_count_pos live.1 live.2

structure Overflows (slots : List PersistSlot) (stack : PersistSlot)
    (result : List PersistSlot × PersistSlot) : Prop where
  itemId : result.2.itemId = stack.itemId
  metadata : result.2.metadata = stack.metadata
  count : result.2.count.toNat = stack.count.toNat - roomFor stack slots
  vacancy : (∃ d ∈ result.1, d.isEmpty = true) ↔
    ∃ d ∈ slots, d.isEmpty = true ∧ sameStack d stack = false

variable {stack : PersistSlot}

theorem mergeLoop_spec (index : Nat) (slots : List PersistSlot) (live : stack.isEmpty = false) :
    if stack.count.toNat ≤ roomFor stack slots then
      (mergeLoop (fun _ => true)
        (fun merged => decide (0 < merged.moved) && merged.src.isEmpty) index slots stack).2 = empty
    else Overflows slots stack
      (mergeLoop (fun _ => true)
        (fun merged => decide (0 < merged.moved) && merged.src.isEmpty) index slots stack) := by
  obtain ⟨item, positive⟩ := isEmpty_eq_false_iff.mp live
  induction slots generalizing index stack with
  | nil =>
    rw [if_neg (by simp only [roomFor, List.map_nil, List.sum_nil]; omega)]
    exact ⟨rfl, rfl, rfl, by simp [mergeLoop]⟩
  | cons d rest ih =>
    unfold mergeLoop
    by_cases guarded : (sameStack d stack && decide (d.count < kMaxStack)) = true
    · have room : roomFor stack (d :: rest) = 64 - d.count.toNat + roomFor stack rest := by
        simp only [roomFor, List.map_cons, List.sum_cons, guarded, if_true]
      simp only [Bool.true_and, guarded, if_true]
      simp only [Bool.and_eq_true, decide_eq_true_eq] at guarded
      have bound : d.count.toNat < 64 := guarded.2
      have moved := mergeInto_moved stack guarded.2
      have left := mergeInto_src stack guarded.2
      have moves : (decide (0 < (mergeInto d stack).moved)) = true := by
        rw [decide_eq_true_eq, UInt8.lt_iff_toNat_lt, moved, UInt8.toNat_zero]
        omega
      rw [moves, Bool.true_and]
      by_cases fits : stack.count.toNat ≤ 64 - d.count.toNat
      · rw [if_pos fits] at left
        rw [if_pos (by omega), left]
        rfl
      rw [if_neg fits] at left
      obtain ⟨leftItem, leftMetadata, leftCount⟩ := left
      have leftLive : (mergeInto d stack).src.isEmpty = false :=
        isEmpty_of_count_pos (leftItem ▸ item) (by omega)
      have later := ih (index + 1) leftLive (leftItem ▸ item) (by omega)
      have sameRoom := roomFor_congr leftItem leftMetadata rest
      rw [leftLive, if_neg Bool.false_ne_true]
      by_cases enough : stack.count.toNat ≤ roomFor stack (d :: rest)
      · rw [if_pos (by omega)] at later
        rw [if_pos enough]
        exact later
      rw [if_neg (by omega)] at later
      rw [if_neg enough]
      have kind := mergeInto_dst_kind guarded.1
      have full := mergeInto_dst_count stack guarded.2
      have occupied : (mergeInto d stack).dst.isEmpty = false :=
        isEmpty_of_count_pos (kind.1 ▸ (sameStack_iff.mp guarded.1).1) (by omega)
      have sameKind : ∀ other, sameStack other (mergeInto d stack).src =
          sameStack other stack := by
        intro other
        unfold sameStack
        rw [leftItem, leftMetadata]
      refine ⟨later.itemId.trans leftItem, later.metadata.trans leftMetadata, ?_, ?_⟩
      · rw [later.count]
        omega
      have vacancy := later.vacancy
      simp only [sameKind] at vacancy
      simp only [List.mem_cons, exists_eq_or_imp, occupied, guarded.1, Bool.false_eq_true,
        Bool.true_eq_false, and_false, false_or]
      exact vacancy
    · have room : roomFor stack (d :: rest) = roomFor stack rest := by
        simp only [roomFor, List.map_cons, List.sum_cons, guarded, Bool.false_eq_true, if_false,
          Nat.zero_add]
      have kept : d.isEmpty = true → sameStack d stack = false := by
        intro vacant
        cases same : sameStack d stack with
        | false => rfl
        | true =>
          have count : d.count = 0 := by
            simp only [isEmpty, Bool.or_eq_true, beq_iff_eq] at vacant
            exact vacant.resolve_left (sameStack_iff.mp same).1
          rw [same, count] at guarded
          exact absurd (by decide) guarded
      have later := ih (index + 1) live item positive
      simp only [Bool.true_and, guarded, Bool.false_eq_true, if_false]
      rw [room]
      by_cases enough : stack.count.toNat ≤ roomFor stack rest
      · rw [if_pos enough] at later ⊢
        exact later
      rw [if_neg enough] at later ⊢
      refine ⟨later.itemId, later.metadata, ?_, ?_⟩
      · rw [later.count, room]
      have vacancy := later.vacancy
      simp only [List.mem_cons, exists_eq_or_imp]
      rw [vacancy]
      exact or_congr_left ⟨fun vacant => ⟨vacant, kept vacant⟩, fun vacant => vacant.1⟩

theorem fillLoop_spec (index : Nat) (slots : List PersistSlot) (stack : PersistSlot) :
    ((∃ d ∈ slots, d.isEmpty = true) → (fillLoop (fun _ => true) index slots stack).2 = empty) ∧
    (¬ (∃ d ∈ slots, d.isEmpty = true) →
      fillLoop (fun _ => true) index slots stack = (slots, stack)) := by
  induction slots generalizing index with
  | nil => simp [fillLoop]
  | cons d rest ih =>
    obtain ⟨filled, kept⟩ := ih (index + 1)
    unfold fillLoop
    cases vacant : d.isEmpty with
    | true => simp [vacant]
    | false =>
      simp only [List.mem_cons, exists_eq_or_imp, vacant, Bool.false_eq_true, false_or,
        Bool.and_false, if_false]
      refine ⟨filled, fun none => ?_⟩
      rw [kept none]

structure NoPlace (slots : List PersistSlot) (stack : PersistSlot) : Prop where
  vacancy : ∀ d ∈ slots, d.isEmpty = true → sameStack d stack = true
  room : roomFor stack slots < stack.count.toNat

theorem quickMoveInto_spec (slots : List PersistSlot) (live : stack.isEmpty = false) :
    ((quickMoveInto slots stack).2.isEmpty = false ↔ NoPlace slots stack) ∧
    (NoPlace slots stack → (quickMoveInto slots stack).2.itemId = stack.itemId ∧
      (quickMoveInto slots stack).2.metadata = stack.metadata ∧
      (quickMoveInto slots stack).2.count.toNat = stack.count.toNat - roomFor stack slots) := by
  have merged := mergeLoop_spec 0 slots live
  unfold quickMoveInto
  generalize mergeLoop (fun _ => true)
    (fun merged => decide (0 < merged.moved) && merged.src.isEmpty) 0 slots stack = result
    at merged ⊢
  obtain ⟨filled, left⟩ := result
  obtain ⟨someVacant, noneVacant⟩ := fillLoop_spec 0 filled left
  simp only
  by_cases enough : stack.count.toNat ≤ roomFor stack slots
  · rw [if_pos enough] at merged
    have gone : (fillLoop (fun _ => true) 0 filled left).2 = empty := by
      by_cases vacant : ∃ d ∈ filled, d.isEmpty = true
      · exact someVacant vacant
      · rw [noneVacant vacant]
        exact merged
    have placed : ¬ NoPlace slots stack := fun noPlace => absurd noPlace.room (by omega)
    rw [gone]
    exact ⟨iff_of_false (by decide) placed, fun noPlace => absurd noPlace placed⟩
  · rw [if_neg enough] at merged
    by_cases vacant : ∃ d ∈ filled, d.isEmpty = true
    · have placed : ¬ NoPlace slots stack := by
        intro noPlace
        obtain ⟨d, mem, empty, other⟩ := merged.vacancy.mp vacant
        rw [noPlace.vacancy d mem empty] at other
        contradiction
      rw [someVacant vacant]
      exact ⟨iff_of_false (by decide) placed, fun noPlace => absurd noPlace placed⟩
    · have noPlace : NoPlace slots stack := by
        refine ⟨fun d mem empty => ?_, by omega⟩
        cases same : sameStack d stack with
        | true => rfl
        | false => exact absurd (merged.vacancy.mpr ⟨d, mem, empty, same⟩) vacant
      rw [noneVacant vacant]
      have item := (isEmpty_eq_false_iff.mp live).1
      have leftLive : left.isEmpty = false :=
        isEmpty_of_count_pos (merged.itemId ▸ item) (by rw [merged.count]; omega)
      exact ⟨iff_of_true leftLive noPlace, fun _ =>
        ⟨merged.itemId, merged.metadata, merged.count⟩⟩

variable {state : ClickState} {click : ContainerClick}

theorem applyToSlot_rejected {rule : PersistSlot → PersistSlot → Option (PersistSlot × PersistSlot)}
    (rejected : (applyToSlot state click rule).2 = false) :
    (applyToSlot state click rule).1 = state := by
  unfold applyToSlot at rejected ⊢
  split
  · rfl
  rename_i found
  rw [found] at rejected
  simp only at rejected
  split
  · rfl
  · next clicked =>
    rw [clicked] at rejected
    contradiction

theorem collect_changed (slots : List PersistSlot) (cursor : PersistSlot) :
    (collect slots cursor true).2.2 = true := by
  induction slots generalizing cursor with
  | nil => rfl
  | cons s rest ih =>
    unfold collect
    split
    · simp only [Bool.true_or]
      exact ih _
    · exact ih _

variable {slots : List PersistSlot}

theorem collect_rejected {cursor : PersistSlot} {changed : Bool}
    (rejected : (collect slots cursor changed).2.2 = false) :
    collect slots cursor changed = (slots, cursor, changed) := by
  induction slots generalizing cursor changed with
  | nil => rfl
  | cons s rest ih =>
    unfold collect at rejected ⊢
    split
    · next guarded =>
      rw [if_pos guarded] at rejected
      simp only [Bool.and_eq_true, decide_eq_true_eq, Bool.not_eq_true'] at guarded
      have moved := mergeInto_moved s guarded.2
      have live := (isEmpty_eq_false_iff.mp guarded.1.1).2
      have bound : cursor.count.toNat < 64 := guarded.2
      have moves : decide (0 < (mergeInto cursor s).moved) = true := by
        rw [decide_eq_true_eq, UInt8.lt_iff_toNat_lt, moved, UInt8.toNat_zero]
        omega
      simp only [moves, Bool.or_true] at rejected
      rw [collect_changed] at rejected
      contradiction
    · next skipped =>
      rw [if_neg skipped] at rejected
      rw [ih rejected]

theorem applyPickupAll_rejected (rejected : (applyPickupAll state).2 = false) :
    (applyPickupAll state).1.container = state.container := by
  unfold applyPickupAll at rejected ⊢
  split
  · rfl
  rename_i live
  rw [if_neg live] at rejected
  cases opened : state.container with
  | none => rfl
  | some slots =>
    rw [opened] at rejected
    simp only at rejected ⊢
    cases first : (collect slots state.cursor false).2.2 with
    | true =>
      rw [first, collect_changed] at rejected
      contradiction
    | false => rw [collect_rejected first]

theorem applyDrop_rejected (rejected : (applyDrop state click).2 = false) :
    (applyDrop state click).1 = state := by
  unfold applyDrop at rejected ⊢
  split
  · next live =>
    rw [if_pos live] at rejected
    contradiction
  rename_i vacant
  rw [if_neg vacant] at rejected
  split
  · rfl
  rename_i found
  rw [found] at rejected
  simp only at rejected
  split
  · next live =>
    rw [if_pos live] at rejected
    contradiction
  · rfl

theorem set_eq_self_iff (found : slots[index]? = some old) :
    slots.set index value = slots ↔ value = old := by
  obtain ⟨inside, rfl⟩ := List.getElem?_eq_some_iff.mp found
  constructor
  · intro same
    have written : (slots.set index value)[index]? = some value := List.getElem?_set_self inside
    rw [same, found] at written
    exact (Option.some.inj written).symm
  · rintro rfl
    exact List.set_getElem_self inside

theorem quickMoveToPlayer_rejected {src : PersistSlot} (other : click.containerId ≠ 0)
    (opened : state.container = some slots) (found : slots[click.slot.toNat]? = some src)
    (live : src.isEmpty = false) :
    ((quickMoveToPlayer state click src).2 = false ↔ NoPlace state.player src) ∧
    (NoPlace state.player src → ((quickMoveToPlayer state click src).1.container = state.container ↔
        roomFor src state.player = 0)) := by
  obtain ⟨leftIff, leftEq⟩ := quickMoveInto_spec state.player live
  unfold quickMoveToPlayer
  generalize quickMoveInto state.player src = result at leftIff leftEq ⊢
  obtain ⟨player, left⟩ := result
  simp only at leftIff leftEq ⊢
  cases gone : left.isEmpty with
  | true =>
    rw [gone] at leftIff
    have placed : ¬ NoPlace state.player src := fun noPlace =>
      absurd (leftIff.mpr noPlace) (by decide)
    exact ⟨iff_of_false (by simp) placed, fun noPlace => absurd noPlace placed⟩
  | false =>
    have noPlace := leftIff.mp gone
    obtain ⟨itemId, metadata, count⟩ := leftEq noPlace
    refine ⟨iff_of_true (by simp) noPlace, fun _ => ?_⟩
    simp only [Bool.false_eq_true, if_false, setSlot, if_neg other, opened,
      Option.map_some, Option.some.injEq]
    rw [List.set_set, set_eq_self_iff found]
    have room := noPlace.room
    constructor
    · intro same
      rw [same] at count
      omega
    intro none
    have sameCount : left.count = src.count := by
      rw [← UInt8.toNat_inj, count, none]
      rfl
    cases left
    cases src
    simp only [PersistSlot.mk.injEq]
    exact ⟨itemId, sameCount, metadata⟩

namespace InventoryServer

def PartialQuickMove (server : InventoryServer) (action : InventoryAction) : Prop :=
  action.playerId ≠ 0 ∧ action.click.actionType = .quickMove ∧ action.click.containerId = 1 ∧
    ∃ slots src, server.session = some slots ∧ slots[action.click.slot.toNat]? = some src ∧
      src.isEmpty = false ∧ NoPlace server.slots.val src ∧ 0 < roomFor src server.slots.val

/-- A rejected click leaves the live container and the stored inventory alone. -/
def AtomicClick (server : InventoryServer) (action : InventoryAction) : Prop :=
  server.accepted action = false → server.handle action = server

variable {state : ClickState}

theorem applyContainerClick_container_none (click : ContainerClick)
    (closed : state.container = none) : (applyContainerClick state click).1.container = none := by
  have written : ∀ value,
      (state.setSlot click.containerId click.slot value).container = none := by
    intro value
    unfold setSlot
    split
    · exact closed
    · simp only [closed, Option.map_none]
  have slotRule : ∀ rule, (applyToSlot state click rule).1.container = none := by
    intro rule
    unfold applyToSlot
    split
    · exact closed
    · split
      · exact closed
      · exact written _
  unfold applyContainerClick
  cases click.actionType with
  | click => exact slotRule _
  | quickMove =>
    simp only [applyQuickMove]
    split
    · exact closed
    split
    · exact closed
    split
    · split
      · next opened =>
        rw [closed] at opened
        contradiction
      · exact closed
    · split
      · next opened =>
        rw [closed] at opened
        contradiction
      · exact closed
  | drop =>
    simp only [applyDrop]
    split
    · exact closed
    split
    · exact closed
    · split
      · exact written _
      · exact closed
  | dragPlace =>
    simp only [applyDragPlace]
    split
    · exact closed
    · exact slotRule _
  | pickupAll =>
    simp only [applyPickupAll, closed]
    split
    · exact closed
    · rfl
  | unknown byte => exact closed

theorem rejected_container {click : ContainerClick}
    (rejected : (applyContainerClick state click).2 = false)
    (action : click.actionType ≠ .quickMove) :
    (applyContainerClick state click).1.container = state.container := by
  unfold applyContainerClick at rejected ⊢
  cases kind : click.actionType with
  | click =>
    rw [kind] at rejected
    exact congrArg container (applyToSlot_rejected rejected)
  | quickMove => exact absurd kind action
  | drop =>
    rw [kind] at rejected
    exact congrArg container (applyDrop_rejected rejected)
  | dragPlace =>
    rw [kind] at rejected
    simp only [applyDragPlace] at rejected ⊢
    split
    · rfl
    · next live =>
      rw [if_neg live] at rejected
      exact congrArg container (applyToSlot_rejected rejected)
  | pickupAll =>
    rw [kind] at rejected
    exact applyPickupAll_rejected rejected
  | unknown byte => rfl

variable {server : InventoryServer} {action : InventoryAction}

theorem handle_of_unreached (unreached : server.reaches action = false) :
    server.handle action = server := by
  rw [handle, unreached, if_neg Bool.false_ne_true]

theorem handle_of_rejected (reached : server.reaches action = true)
    (rejected : (applyContainerClick (server.view action.click) action.click).2 = false) :
    server.handle action =
      { server with
        session := if action.click.containerId = 1 then
          (applyContainerClick (server.view action.click) action.click).1.container
        else server.session } := by
  rw [handle, reached, if_pos rfl]
  simp only [rejected, Bool.false_eq_true, if_false]

theorem atomic_of_container_kept
    (kept : server.reaches action = true → action.click.containerId = 1 →
      (applyContainerClick (server.view action.click) action.click).2 = false →
      (applyContainerClick (server.view action.click) action.click).1.container =
        server.session) : AtomicClick server action := by
  intro refused
  cases reached : server.reaches action with
  | false => exact handle_of_unreached reached
  | true =>
    rw [accepted, reached, Bool.true_and] at refused
    rw [handle_of_rejected reached refused]
    split
    · next opened => rw [kept reached opened refused]
    · rfl

theorem atomicClick_iff (server : InventoryServer) (action : InventoryAction) :
    AtomicClick server action ↔ ¬ PartialQuickMove server action := by
  constructor
  · rintro atomic ⟨player, quickMove, opened, slots, src, live, found, nonempty, noPlace, room⟩
    have other : action.click.containerId ≠ 0 := by
      rw [opened]
      decide
    have reached : server.reaches action = true := by
      simp [reaches, player, live]
    have viewed : (server.view action.click).container = some slots := by
      simp only [view, opened, if_true]
      exact live
    have slotFound : (server.view action.click).slotAt action.click.containerId
        action.click.slot = some src := by
      rw [slotAt, if_neg other, viewed]
      exact found
    obtain ⟨rejectedIff, keptIff⟩ := quickMoveToPlayer_rejected other viewed found nonempty
    have moved : applyContainerClick (server.view action.click) action.click =
        quickMoveToPlayer (server.view action.click) action.click src := by
      have filled : ∃ first others, slots = first :: others := by
        cases slots with
        | nil => simp at found
        | cons first others => exact ⟨first, others, rfl⟩
      obtain ⟨first, others, rfl⟩ := filled
      simp only [applyContainerClick, quickMove, applyQuickMove, slotFound, nonempty, viewed,
        if_neg other, Bool.false_eq_true, if_false]
    have rejected : (applyContainerClick (server.view action.click) action.click).2 = false := by
      rw [moved]
      exact rejectedIff.mpr noPlace
    have unchanged := atomic (by rw [accepted, reached, rejected]; rfl)
    rw [handle_of_rejected reached rejected, if_pos opened, moved] at unchanged
    have kept := congrArg InventoryServer.session unchanged
    rw [live, ← viewed] at kept
    have none := (keptIff noPlace).mp kept
    have viewPlayer : (server.view action.click).player = server.slots.val := rfl
    rw [viewPlayer] at none
    omega
  · intro whole
    refine atomic_of_container_kept fun reached opened rejected => ?_
    have viewed : (server.view action.click).container = server.session := by
      simp only [view, opened, if_true]
    by_cases quickMove : action.click.actionType = .quickMove
    · have other : action.click.containerId ≠ 0 := by
        rw [opened]
        decide
      rw [← viewed]
      simp only [applyContainerClick, quickMove] at rejected ⊢
      unfold applyQuickMove at rejected ⊢
      cases found : (server.view action.click).slotAt action.click.containerId
          action.click.slot with
      | none => rfl
      | some src =>
        rw [found] at rejected
        simp only [if_neg other] at rejected ⊢
        cases nonempty : src.isEmpty with
        | true => rw [if_pos rfl]
        | false =>
          rw [nonempty, if_neg Bool.false_ne_true] at rejected
          rw [if_neg Bool.false_ne_true]
          split at rejected
          · next first others live =>
            rw [slotAt, if_neg other, live] at found
            obtain ⟨rejectedIff, keptIff⟩ := quickMoveToPlayer_rejected other live found nonempty
            have noPlace := rejectedIff.mp rejected
            refine (keptIff noPlace).mpr (Nat.eq_zero_of_not_pos fun room => whole ?_)
            have player : action.playerId ≠ 0 := by
              intro unset
              simp [reaches, unset] at reached
            exact ⟨player, quickMove, opened, first :: others, src, viewed ▸ live, found,
              nonempty, noPlace, room⟩
          · rfl
    · rw [rejected_container rejected quickMove]
      exact viewed

theorem handle_of_accepted (accepts : server.accepted action = true) :
    let result := applyContainerClick (server.view action.click) action.click
    (server.handle action).session =
        (if action.click.containerId = 1 then result.1.container else server.session) ∧
      (server.handle action).slots.val = result.1.player ∧
      (server.handle action).cursor = result.1.cursor := by
  simp only [accepted, Bool.and_eq_true] at accepts
  rw [handle, accepts.1, if_pos rfl]
  simp only [accepts.2, if_true, and_self]

variable (item : ItemKey)

theorem handle_total_of_accepted (accepts : server.accepted action = true) :
    (server.handle action).total item + totalOf item (server.dropped action) =
      server.total item := by
  obtain ⟨session, slots, cursor⟩ := handle_of_accepted accepts
  have balance := applyContainerClick_total item (server.view action.click) action.click
  have closed : (server.view action.click).container = none → _ :=
    applyContainerClick_container_none action.click
  rw [dropped, accepts, if_pos rfl, total, session, slots, cursor, total]
  simp only [ClickState.total, view] at balance closed ⊢
  by_cases opened : action.click.containerId = 1
  · simp only [if_pos opened] at balance ⊢
    omega
  · simp only [if_neg opened, forall_const] at balance closed ⊢
    rw [closed, Option.getD_none, totalOf_nil] at balance
    omega

theorem handle_total (atomic : AtomicClick server action) :
    (server.handle action).total item + totalOf item (server.dropped action) =
      server.total item := by
  cases accepts : server.accepted action with
  | true => exact handle_total_of_accepted item accepts
  | false =>
    rw [atomic accepts, dropped, accepts, if_neg Bool.false_ne_true, totalOf_nil, Nat.add_zero]

theorem run_total (atomic : machine.Along AtomicClick server actions) :
    (machine.final server actions).total item + totalOf item (machine.outputs server actions) =
      server.total item := by
  refine machine.invariant AtomicClick
    (fun _ current drops => current.total item + totalOf item drops = server.total item)
    ?_ ?_ actions atomic
  · simp
  intro _ current drops action balance now
  have step := handle_total item now
  show (current.handle action).total item + totalOf item (drops ++ current.dropped action) = _
  rw [totalOf_append]
  omega

theorem run_atomic_and_conserving (server : InventoryServer) (actions : List InventoryAction) :
    (machine.Along AtomicClick server actions ↔
      machine.Along (fun current action => ¬ PartialQuickMove current action) server actions) ∧
    (machine.Along (fun current action => ¬ PartialQuickMove current action) server actions →
      ∀ item : ItemKey, (machine.final server actions).total item +
        totalOf item (machine.outputs server actions) = server.total item) := by
  have atomicIff : machine.Along AtomicClick server actions ↔
      machine.Along (fun current action => ¬ PartialQuickMove current action) server actions :=
    ⟨Machine.Along.mono machine fun current action => (atomicClick_iff current action).mp,
      Machine.Along.mono machine fun current action => (atomicClick_iff current action).mpr⟩
  refine ⟨atomicIff, fun whole item => ?_⟩
  exact run_total item (atomicIff.mpr whole)

def crowdedPlayer : PlayerSlots := ⟨⟨5, 60, 0⟩ :: List.replicate 39 ⟨7, 64, 0⟩, rfl⟩

def crowdedChest : InventoryServer where
  session := some [⟨5, 10, 0⟩]
  slots := crowdedPlayer
  cursor := PersistSlot.empty

def shiftClickChest : InventoryAction where
  playerId := 1
  click := { actionType := .quickMove, button := .left, containerId := 1, slot := 0 }

theorem crowded_quickMove_loses : ¬ AtomicClick crowdedChest shiftClickChest ∧
      (crowdedChest.handle shiftClickChest).total ⟨5, 0, by decide⟩ +
        totalOf ⟨5, 0, by decide⟩ (crowdedChest.dropped shiftClickChest) + 4 =
      crowdedChest.total ⟨5, 0, by decide⟩ := by
  refine ⟨fun atomic => ?_, by decide⟩
  have kept := congrArg InventoryServer.session (atomic (by decide))
  exact absurd kept (by decide)

end InventoryServer

end GtnhPlatform.Inventory
