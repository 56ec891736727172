import GtnhPlatform.Inventory.ClickAtomicity

namespace GtnhPlatform.Inventory

open ClickState

def TakesOne (tgt stack : PersistSlot) : Prop :=
  tgt.isEmpty = true ∨ sameStack tgt stack = true ∧ tgt.count < kMaxStack

def Collectable (cursor stack : PersistSlot) : Prop :=
  stack.isEmpty = false ∧ sameStack stack cursor = true ∧ cursor.count < kMaxStack

section Slot

variable {tgt cursor tgt' cursor' : PersistSlot}

theorem takeOne_ne (live : cursor.isEmpty = false) : takeOne cursor ≠ cursor := by
  intro same
  have held := (isEmpty_eq_false_iff.mp live).2
  have count := congrArg (fun slot => slot.count.toNat) same
  unfold takeOne at count
  split at count
  · rw [← count] at held
    exact absurd held (by decide)
  have left : (cursor.count - 1).toNat = cursor.count.toNat - 1 :=
    UInt8.toNat_sub_of_le cursor.count 1 held
  simp only [left] at count
  omega

theorem placeOne_eq_none_iff : placeOne tgt cursor = none ↔ ¬ TakesOne tgt cursor := by
  unfold placeOne TakesOne
  cases vacant : tgt.isEmpty with
  | true => simp
  | false =>
    simp only [Bool.false_eq_true, if_false, false_or]
    split
    · next guarded => simpa using guarded
    · next refused => simpa using refused

theorem placeOne_cursor (placed : placeOne tgt cursor = some (tgt', cursor')) :
    cursor' = takeOne cursor := by
  unfold placeOne at placed
  split at placed
  · exact (Prod.mk.inj (Option.some.inj placed)).2.symm
  · split at placed
    · exact (Prod.mk.inj (Option.some.inj placed)).2.symm
    · exact absurd placed nofun

theorem rightClick_eq_none_iff : rightClick tgt cursor = none ↔
    if cursor.isEmpty then tgt.isEmpty = true else ¬ TakesOne tgt cursor := by
  unfold rightClick
  cases cursor.isEmpty with
  | true => cases tgt.isEmpty <;> simp
  | false =>
    simp only [Bool.false_eq_true, if_false]
    exact placeOne_eq_none_iff

theorem rightClick_cursor_ne (clicked : rightClick tgt cursor = some (tgt', cursor')) :
    cursor' ≠ cursor := by
  unfold rightClick at clicked
  cases held : cursor.isEmpty with
  | true =>
    rw [held, if_pos rfl] at clicked
    cases vacant : tgt.isEmpty with
    | true =>
      rw [vacant, if_pos rfl] at clicked
      cases clicked
    | false =>
      rw [vacant, if_neg Bool.false_ne_true] at clicked
      obtain ⟨_, rfl⟩ := Prod.mk.inj (Option.some.inj clicked)
      rintro rfl
      obtain ⟨item, positive⟩ := isEmpty_eq_false_iff.mp vacant
      have small := tgt.count.toNat_lt
      have half : (UInt8.ofNat ((tgt.count.toNat + 1) / 2)).toNat =
          (tgt.count.toNat + 1) / 2 := by
        rw [UInt8.toNat_ofNat']
        omega
      have live : PersistSlot.isEmpty
          { tgt with count := UInt8.ofNat ((tgt.count.toNat + 1) / 2) } = false :=
        isEmpty_of_count_pos item (by rw [half]; omega)
      rw [live] at held
      cases held
  | false =>
    rw [held, if_neg Bool.false_ne_true] at clicked
    rw [placeOne_cursor clicked]
    exact takeOne_ne held

theorem leftClick_eq_none_iff :
    leftClick tgt cursor = none ↔ cursor.isEmpty = true ∧ tgt.isEmpty = true := by
  unfold leftClick
  cases cursor.isEmpty with
  | true => cases tgt.isEmpty <;> simp
  | false =>
    simp only [Bool.false_eq_true, if_false, false_and, iff_false]
    split
    · simp
    · split <;> simp

theorem mergeInto_src_ne {dst src : PersistSlot} (space : dst.count < kMaxStack)
    (live : src.isEmpty = false) : (mergeInto dst src).src ≠ src := by
  intro same
  have bound : dst.count.toNat < 64 := space
  have left := mergeInto_src src space
  rw [same] at left
  split at left
  · rw [left] at live
    cases live
  · omega

theorem leftClick_unchanged_iff : leftClick tgt cursor = some (tgt, cursor) ↔
    tgt = cursor ∧ tgt.isEmpty = false ∧ ¬ tgt.count < kMaxStack := by
  constructor
  · intro clicked
    unfold leftClick at clicked
    cases held : cursor.isEmpty with
    | true =>
      rw [held, if_pos rfl] at clicked
      cases vacant : tgt.isEmpty with
      | true =>
        rw [vacant, if_pos rfl] at clicked
        cases clicked
      | false =>
        rw [vacant, if_neg Bool.false_ne_true] at clicked
        obtain ⟨_, rfl⟩ := Prod.mk.inj (Option.some.inj clicked)
        rw [held] at vacant
        cases vacant
    | false =>
      rw [held, if_neg Bool.false_ne_true] at clicked
      cases vacant : tgt.isEmpty with
      | true =>
        rw [vacant, if_pos rfl] at clicked
        obtain ⟨rfl, _⟩ := Prod.mk.inj (Option.some.inj clicked)
        rw [held] at vacant
        cases vacant
      | false =>
        rw [vacant, if_neg Bool.false_ne_true] at clicked
        split at clicked
        · next guarded =>
          simp only [Bool.and_eq_true, decide_eq_true_eq] at guarded
          have unchanged := (Prod.mk.inj (Option.some.inj clicked)).2
          exact absurd unchanged (mergeInto_src_ne guarded.2 held)
        · next refused =>
          obtain ⟨rfl, _⟩ := Prod.mk.inj (Option.some.inj clicked)
          have same : sameStack cursor cursor = true :=
            sameStack_iff.mpr ⟨(isEmpty_eq_false_iff.mp held).1, rfl, rfl⟩
          rw [same, Bool.true_and, decide_eq_true_eq] at refused
          exact ⟨rfl, rfl, refused⟩
  · rintro ⟨rfl, live, full⟩
    rw [leftClick, live, if_neg Bool.false_ne_true, if_neg Bool.false_ne_true, if_neg]
    simp [full]

end Slot

theorem collect_rejected_iff (slots : List PersistSlot) (cursor : PersistSlot) :
    (collect slots cursor false).2.2 = false ↔ ∀ stack ∈ slots, ¬ Collectable cursor stack := by
  have guard : ∀ stack : PersistSlot,
      (!stack.isEmpty && sameStack stack cursor && decide (cursor.count < kMaxStack)) = true ↔
        Collectable cursor stack := by
    intro stack
    simp only [Collectable, Bool.and_eq_true, Bool.not_eq_true', decide_eq_true_eq, and_assoc]
  induction slots with
  | nil => simp [collect]
  | cons stack rest ih =>
    unfold collect
    by_cases taken : Collectable cursor stack
    · have moved := mergeInto_moved stack taken.2.2
      have positive := (isEmpty_eq_false_iff.mp taken.1).2
      have bound : cursor.count.toNat < 64 := taken.2.2
      have moves : decide (0 < (mergeInto cursor stack).moved) = true := by
        rw [decide_eq_true_eq, UInt8.lt_iff_toNat_lt, moved, UInt8.toNat_zero]
        omega
      rw [if_pos ((guard stack).mpr taken)]
      simp only [moves, Bool.or_true, collect_changed]
      exact iff_of_false (by decide) fun none => none stack List.mem_cons_self taken
    · rw [if_neg fun guarded => taken ((guard stack).mp guarded)]
      rw [List.forall_mem_cons, and_iff_right taken]
      exact ih

theorem collect_count_le (slots : List PersistSlot) (cursor : PersistSlot) (changed : Bool) :
    cursor.count.toNat ≤ (collect slots cursor changed).2.1.count.toNat := by
  induction slots generalizing cursor changed with
  | nil => exact le_rfl
  | cons stack rest ih =>
    unfold collect
    split
    · next guarded =>
      simp only [Bool.and_eq_true, decide_eq_true_eq] at guarded
      have bound : cursor.count.toNat < 64 := guarded.2
      have merged := mergeInto_dst_count stack guarded.2
      have more : cursor.count.toNat ≤ (mergeInto cursor stack).dst.count.toNat := by omega
      exact more.trans (ih _ _)
    · exact ih cursor changed

theorem collect_count_lt {cursor : PersistSlot}
    (collected : (collect slots cursor false).2.2 = true) :
    cursor.count.toNat < (collect slots cursor false).2.1.count.toNat := by
  induction slots with
  | nil => cases collected
  | cons stack rest ih =>
    unfold collect at collected ⊢
    split
    · next guarded =>
      simp only [Bool.and_eq_true, Bool.not_eq_true', decide_eq_true_eq] at guarded
      have positive := (isEmpty_eq_false_iff.mp guarded.1.1).2
      have bound : cursor.count.toNat < 64 := guarded.2
      have merged := mergeInto_dst_count stack guarded.2
      have more : cursor.count.toNat < (mergeInto cursor stack).dst.count.toNat := by omega
      exact more.trans_le (collect_count_le _ _ _)
    · next skipped =>
      rw [if_neg skipped] at collected
      exact ih collected

def Refuses (slots player : List PersistSlot) (cursor : PersistSlot) (click : ContainerClick) :
    Prop :=
  match click.actionType with
  | .click => ∀ tgt, slots[click.slot.toNat]? = some tgt →
      if click.button = .right then
        if cursor.isEmpty then tgt.isEmpty = true else ¬ TakesOne tgt cursor
      else cursor.isEmpty = true ∧ tgt.isEmpty = true
  | .quickMove => ∀ src, slots[click.slot.toNat]? = some src →
      src.isEmpty = true ∨ NoPlace player src
  | .drop => cursor.isEmpty = true ∧ ∀ tgt, slots[click.slot.toNat]? = some tgt → tgt.isEmpty = true
  | .dragPlace => cursor.isEmpty = true ∨
      ∀ tgt, slots[click.slot.toNat]? = some tgt → ¬ TakesOne tgt cursor
  | .pickupAll => cursor.isEmpty = true ∨ ∀ stack ∈ slots ++ player, ¬ Collectable cursor stack
  | .unknown _ => True

structure SwapsAlike (slots : List PersistSlot) (cursor : PersistSlot) (click : ContainerClick) :
    Prop where
  action : click.actionType = .click
  button : click.button ≠ .right
  alike : slots[click.slot.toNat]? = some cursor
  live : cursor.isEmpty = false
  full : ¬ cursor.count < kMaxStack

section Container

variable {state : ClickState} {click : ContainerClick} {slots : List PersistSlot}

theorem slotAt_container (other : click.containerId ≠ 0) (opened : state.container = some slots) :
    state.slotAt click.containerId click.slot = slots[click.slot.toNat]? := by
  rw [slotAt, if_neg other, opened]
  rfl

variable {rule : PersistSlot → PersistSlot → Option (PersistSlot × PersistSlot)}

theorem applyToSlot_rejected_iff : (applyToSlot state click rule).2 = false ↔
      ∀ tgt, state.slotAt click.containerId click.slot = some tgt → rule tgt state.cursor = none := by
  unfold applyToSlot
  split
  · next absent =>
    rw [absent]
    exact iff_of_true rfl fun _ => nofun
  rename_i tgt found
  rw [found]
  constructor
  · intro rejected other same
    cases same
    split at rejected
    · assumption
    · cases rejected
  · intro none
    rw [none tgt rfl]

theorem setSlot_container (other : click.containerId ≠ 0) (opened : state.container = some slots)
    (value : PersistSlot) :
    state.setSlot click.containerId click.slot value =
      { state with container := some (slots.set click.slot.toNat value) } := by
  rw [setSlot, if_neg other, opened]
  rfl

theorem applyToSlot_unchanged_iff (other : click.containerId ≠ 0)
    (opened : state.container = some slots) :
    (applyToSlot state click rule).2 = true ∧ (applyToSlot state click rule).1 = state ↔
      ∃ tgt, slots[click.slot.toNat]? = some tgt ∧
        rule tgt state.cursor = some (tgt, state.cursor) := by
  rw [applyToSlot, slotAt_container other opened]
  cases found : slots[click.slot.toNat]? with
  | none => simp
  | some tgt =>
    dsimp only
    cases clicked : rule tgt state.cursor with
    | none => simp [clicked]
    | some pair =>
      obtain ⟨tgt', cursor'⟩ := pair
      have slotEq : slots.set click.slot.toNat tgt' = slots ↔ tgt' = tgt := set_eq_self_iff found
      dsimp only
      rw [setSlot_container other opened]
      obtain ⟨player, container, cursor⟩ := state
      dsimp only at opened clicked ⊢
      simp only [opened, true_and, mk.injEq, Option.some.injEq, slotEq,
        exists_eq_left', clicked, Prod.mk.injEq]

theorem applyDrop_eq (vacant : state.cursor.isEmpty = true) :
    applyDrop state click = applyToSlot state click fun tgt cursor =>
      if tgt.isEmpty then none else some (PersistSlot.empty, cursor) := by
  rw [applyDrop, vacant, if_neg (by decide), applyToSlot]
  cases state.slotAt click.containerId click.slot with
  | none => rfl
  | some tgt =>
    dsimp only
    cases tgt.isEmpty with
    | true => rfl
    | false =>
      have kept := setSlot_cursor state click.containerId click.slot PersistSlot.empty
      rw [if_neg Bool.false_ne_true, ← kept]
      rfl

variable (other : click.containerId ≠ 0)

include other

theorem rejected_iff (opened : state.container = some slots) :
    (applyContainerClick state click).2 = false ↔
      Refuses slots state.player state.cursor click := by
  have at_ := slotAt_container other opened
  unfold applyContainerClick Refuses
  cases click.actionType with
  | click =>
    rw [applyClick, applyToSlot_rejected_iff, at_]
    split
    · simp only [rightClick_eq_none_iff]
    · simp only [leftClick_eq_none_iff]
  | quickMove =>
    rw [applyQuickMove, at_]
    cases found : slots[click.slot.toNat]? with
    | none => exact iff_of_true rfl (by rintro _ ⟨⟩)
    | some src =>
      dsimp only
      cases vacant : src.isEmpty with
      | true =>
        rw [if_pos rfl]
        refine iff_of_true rfl ?_
        intro _ same
        exact Or.inl (Option.some.inj same ▸ vacant)
      | false =>
        have rejects := (quickMoveToPlayer_rejected other opened found vacant).1
        rw [if_neg Bool.false_ne_true, if_neg other, opened]
        cases slots with
        | nil => cases found
        | cons first rest =>
          rw [rejects]
          constructor
          · intro noPlace _ same
            exact Or.inr (Option.some.inj same ▸ noPlace)
          intro refused
          refine (refused src rfl).resolve_left ?_
          rw [vacant]
          exact Bool.false_ne_true
  | drop =>
    dsimp only
    cases vacant : state.cursor.isEmpty with
    | false => simp [applyDrop, vacant]
    | true =>
      rw [applyDrop_eq vacant, applyToSlot_rejected_iff, at_, eq_self_iff_true, true_and]
      simp
  | dragPlace =>
    rw [applyDragPlace]
    cases state.cursor.isEmpty with
    | true => exact iff_of_true rfl (Or.inl rfl)
    | false =>
      rw [if_neg Bool.false_ne_true, applyToSlot_rejected_iff, at_]
      simp only [placeOne_eq_none_iff, Bool.false_eq_true, false_or]
  | pickupAll =>
    rw [applyPickupAll]
    cases state.cursor.isEmpty with
    | true => exact iff_of_true rfl (Or.inl rfl)
    | false =>
      rw [if_neg Bool.false_ne_true, opened]
      simp only [Bool.false_eq_true, false_or, List.forall_mem_append]
      rw [← collect_rejected_iff slots state.cursor]
      cases first : (collect slots state.cursor false).2.2 with
      | true =>
        rw [collect_changed]
        exact iff_of_false (by decide) fun none => absurd none.1 (by decide)
      | false =>
        have unchanged := collect_rejected first
        rw [unchanged, ← collect_rejected_iff]
        exact (and_iff_right rfl).symm
  | unknown byte => exact iff_of_true rfl trivial

theorem accepted_unchanged_iff (opened : state.container = some slots) :
    (applyContainerClick state click).2 = true ∧ (applyContainerClick state click).1 = state ↔
      SwapsAlike slots state.cursor click := by
  have elsewhere : click.actionType ≠ .click → ¬ SwapsAlike slots state.cursor click :=
    fun another alike => another alike.action
  unfold applyContainerClick
  cases kind : click.actionType with
  | click =>
    rw [applyClick, applyToSlot_unchanged_iff other opened]
    constructor
    · rintro ⟨tgt, found, clicked⟩
      split at clicked
      · exact absurd rfl (rightClick_cursor_ne clicked)
      · next button =>
        obtain ⟨rfl, live, full⟩ := leftClick_unchanged_iff.mp clicked
        exact ⟨kind, button, found, live, full⟩
    · rintro ⟨_, button, alike, live, full⟩
      refine ⟨state.cursor, alike, ?_⟩
      rw [if_neg button]
      exact leftClick_unchanged_iff.mpr ⟨rfl, live, full⟩
  | quickMove =>
    refine iff_of_false ?_ (elsewhere (by rw [kind]; rintro ⟨⟩))
    rintro ⟨accepted, unchanged⟩
    rw [applyQuickMove, slotAt_container other opened] at accepted unchanged
    cases found : slots[click.slot.toNat]? with
    | none =>
      rw [found] at accepted
      cases accepted
    | some src =>
      rw [found] at accepted unchanged
      dsimp only at accepted unchanged
      cases vacant : src.isEmpty with
      | true =>
        rw [vacant, if_pos rfl] at accepted
        cases accepted
      | false =>
        rw [vacant, if_neg Bool.false_ne_true, if_neg other, opened] at accepted unchanged
        cases slots with
        | nil => cases found
        | cons first rest =>
          rw [quickMoveToPlayer, setSlot_container other opened] at accepted unchanged
          dsimp only at accepted unchanged
          split at accepted
          · next gone =>
            -- the whole stack has left the slot
            rw [if_pos gone] at unchanged
            have emptied := congrArg container unchanged
            rw [opened, Option.some.injEq, set_eq_self_iff found] at emptied
            rw [← emptied] at vacant
            cases vacant
          · cases accepted
  | drop =>
    refine iff_of_false ?_ (elsewhere (by rw [kind]; rintro ⟨⟩))
    cases held : state.cursor.isEmpty with
    | false =>
      rintro ⟨_, unchanged⟩
      rw [applyDrop, held, if_pos (by decide)] at unchanged
      have emptied : PersistSlot.empty = state.cursor := congrArg cursor unchanged
      rw [← emptied] at held
      cases held
    | true =>
      rw [applyDrop_eq held, applyToSlot_unchanged_iff other opened]
      rintro ⟨tgt, _, emptied⟩
      split at emptied
      · cases emptied
      · next live => exact live ((Prod.mk.inj (Option.some.inj emptied)).1 ▸ rfl)
  | dragPlace =>
    refine iff_of_false ?_ (elsewhere (by rw [kind]; rintro ⟨⟩))
    rw [applyDragPlace]
    cases held : state.cursor.isEmpty with
    | true => simp
    | false =>
      rw [if_neg Bool.false_ne_true, applyToSlot_unchanged_iff other opened]
      rintro ⟨tgt, _, placed⟩
      exact takeOne_ne held (placeOne_cursor placed).symm
  | pickupAll =>
    refine iff_of_false ?_ (elsewhere (by rw [kind]; rintro ⟨⟩))
    rw [applyPickupAll, opened]
    cases state.cursor.isEmpty with
    | true => simp
    | false =>
      rintro ⟨accepted, unchanged⟩
      have sameCursor : (collect state.player (collect slots state.cursor false).2.1
          (collect slots state.cursor false).2.2).2.1 = state.cursor :=
        congrArg cursor unchanged
      cases first : (collect slots state.cursor false).2.2 with
      | true =>
        have more := collect_count_lt first
        have later := collect_count_le state.player (collect slots state.cursor false).2.1
          (collect slots state.cursor false).2.2
        rw [sameCursor] at later
        omega
      | false =>
        change (collect state.player (collect slots state.cursor false).2.1
          (collect slots state.cursor false).2.2).2.2 = true at accepted
        rw [collect_rejected first] at accepted sameCursor
        have more := collect_count_lt accepted
        dsimp only at more sameCursor
        rw [sameCursor] at more
        omega
  | unknown byte => exact iff_of_false (fun none => by cases none.1) (elsewhere (by rw [kind]; rintro ⟨⟩))

theorem applyContainerClick_container_isSome (opened : state.container.isSome) : (applyContainerClick state click).1.container.isSome := by
  have written : ∀ (current : ClickState) value, current.container.isSome →
      (current.setSlot click.containerId click.slot value).container.isSome := by
    intro current value present
    rw [setSlot, if_neg other]
    rwa [Option.isSome_map]
  unfold applyContainerClick
  cases click.actionType with
  | click => grind [applyClick, applyToSlot]
  | quickMove => grind [applyQuickMove, quickMoveToPlayer]
  | drop => grind [applyDrop]
  | dragPlace => grind [applyDragPlace, applyToSlot]
  | pickupAll => grind [applyPickupAll]
  | unknown byte => exact opened

omit other

end Container

namespace InventoryServer

theorem handle_eq_self_iff {server : InventoryServer} {action : InventoryAction}
    {slots : List PersistSlot} (player : action.playerId ≠ 0)
    (opened : action.click.containerId = 1) (live : server.session = some slots) :
    server.handle action = server ↔ Refuses slots server.slots.val server.cursor action.click ∧
          ¬ PartialQuickMove server action ∨ SwapsAlike slots server.cursor action.click := by
  have other : action.click.containerId ≠ 0 := by
    rw [opened]
    decide
  have reached : server.reaches action = true := by simp [reaches, player, live]
  have viewed : (server.view action.click).container = some slots := by
    rw [view, if_pos opened]
    exact live
  have refuses := rejected_iff other viewed
  have swaps := accepted_unchanged_iff other viewed
  have accepts : server.accepted action =
      (applyContainerClick (server.view action.click) action.click).2 := by
    rw [accepted, reached, Bool.true_and]
  change _ ↔ Refuses slots server.slots.val server.cursor action.click at refuses
  change _ ↔ SwapsAlike slots server.cursor action.click at swaps
  rw [← refuses, ← swaps]
  cases result : server.accepted action with
  | false =>
    rw [← accepts, result]
    have atomic := atomicClick_iff server action
    rw [AtomicClick, result, eq_self_iff_true, true_imp_iff] at atomic
    rw [atomic]
    simp
  | true =>
    obtain ⟨session, stored, cursor⟩ := handle_of_accepted result
    rw [← accepts, result]
    simp only [Bool.true_eq_false, false_and, false_or, true_and]
    constructor
    · intro unchanged
      rw [unchanged, if_pos opened] at session
      rw [unchanged] at stored cursor
      generalize applyContainerClick (server.view action.click) action.click = after at *
      obtain ⟨⟨player', container', cursor'⟩, _⟩ := after
      dsimp only at session stored cursor
      rw [view, if_pos opened, ← session, ← stored, ← cursor]
    · intro unchanged
      rw [unchanged, if_pos opened, viewed] at session
      rw [unchanged] at stored cursor
      have same : (server.handle action).slots = server.slots := Subtype.ext stored
      have sameCursor : (server.handle action).cursor = server.cursor := cursor
      generalize server.handle action = after at *
      obtain ⟨session', slots', cursor'⟩ := after
      dsimp only at session same sameCursor
      rw [session, same, sameCursor, ← live]

end InventoryServer

end GtnhPlatform.Inventory
