import GtnhPlatform.Inventory.Click

namespace GtnhPlatform.Inventory

open ClickState PersistSlot

variable (item : ItemKey) {state : ClickState} {containerId : UInt8} {old : PersistSlot}
    {slot : UInt16}

theorem slotAt_setSlot_total (found : state.slotAt containerId slot = some old)
    (value : PersistSlot) : (state.setSlot containerId slot value).total item + amountOf item old =
      state.total item + amountOf item value := by
  unfold slotAt at found
  unfold setSlot total
  by_cases playerSide : containerId = 0
  · rw [if_pos playerSide] at found ⊢
    by_cases outside : kInventorySlots ≤ slot.toNat
    · rw [if_pos outside] at found
      contradiction
    rw [if_neg outside] at found
    have moved := totalOf_set item found value
    simp only
    omega
  · rw [if_neg playerSide] at found ⊢
    cases present : state.container with
    | none =>
      rw [present] at found
      contradiction
    | some slots =>
      rw [present] at found
      have moved := totalOf_set item found value
      simp only [Option.map_some, Option.getD_some]
      omega

theorem setSlot_cursor (state : ClickState) (containerId : UInt8) (slot : UInt16)
    (value : PersistSlot) : (state.setSlot containerId slot value).cursor = state.cursor := by
  unfold setSlot
  split <;> rfl

theorem total_with_cursor (state : ClickState) (cursor : PersistSlot) :
    ({ state with cursor := cursor } : ClickState).total item + amountOf item state.cursor =
      state.total item + amountOf item cursor := by
  unfold total
  simp only
  omega

theorem takeOne_amount {cursor : PersistSlot} (live : cursor.isEmpty = false) :
    amountOf item (takeOne cursor) + amountOf item { cursor with count := 1 } =
      amountOf item cursor := by
  simp only [isEmpty, Bool.or_eq_false_iff, beq_eq_false_iff_ne] at live
  have positive : 1 ≤ cursor.count.toNat := by
    have nonzero : cursor.count.toNat ≠ 0 := fun zero => live.2 (UInt8.toNat_inj.mp zero)
    omega
  have left : (cursor.count - 1).toNat = cursor.count.toNat - 1 :=
    UInt8.toNat_sub_of_le cursor.count 1 positive
  unfold takeOne
  split
  · next last =>
    have one : (cursor.count - 1).toNat = 0 := by rw [beq_iff_eq.mp last]; rfl
    rw [amountOf_empty]
    simp only [amountOf, UInt8.toNat_one]
    split <;> omega
  · next more =>
    simp only [amountOf, left, UInt8.toNat_one]
    split <;> omega

def Exchanges (rule : PersistSlot → PersistSlot → Option (PersistSlot × PersistSlot)) : Prop :=
  ∀ (item : ItemKey) (tgt cursor tgt' cursor' : PersistSlot),
    rule tgt cursor = some (tgt', cursor') →
      amountOf item tgt' + amountOf item cursor' = amountOf item tgt + amountOf item cursor

theorem placeOne_amount {item : ItemKey} {tgt cursor tgt' cursor' : PersistSlot}
    (live : cursor.isEmpty = false) (placed : placeOne tgt cursor = some (tgt', cursor')) :
    amountOf item tgt' + amountOf item cursor' = amountOf item tgt + amountOf item cursor := by
  have taken := takeOne_amount item live
  unfold placeOne at placed
  cases vacant : tgt.isEmpty with
  | true =>
    rw [vacant, if_pos rfl] at placed
    cases placed
    have nothing := amountOf_of_isEmpty item vacant
    omega
  | false =>
    rw [vacant, if_neg Bool.false_ne_true] at placed
    split at placed
    · next guarded =>
      cases placed
      simp only [Bool.and_eq_true, decide_eq_true_eq] at guarded
      obtain ⟨_, itemId, metadata⟩ := sameStack_iff.mp guarded.1
      have bound : tgt.count.toNat < 64 := guarded.2
      have one : amountOf item { cursor with count := 1 } =
          if tgt.itemId = item.itemId ∧ tgt.metadata = item.metadata then 1 else 0 :=
        amountOf_of_same item itemId.symm metadata.symm
      have grown : amountOf item { tgt with count := tgt.count + 1 } =
          if tgt.itemId = item.itemId ∧ tgt.metadata = item.metadata then
            tgt.count.toNat + 1 else 0 := by
        simp only [amountOf, UInt8.toNat_add, UInt8.toNat_one]
        split <;> omega
      have whole : amountOf item tgt =
          if tgt.itemId = item.itemId ∧ tgt.metadata = item.metadata then
            tgt.count.toNat else 0 := rfl
      rw [grown, whole]
      by_cases kind : tgt.itemId = item.itemId ∧ tgt.metadata = item.metadata
      · rw [if_pos kind] at one ⊢
        rw [if_pos kind]
        omega
      · rw [if_neg kind] at one ⊢
        rw [if_neg kind]
        omega
    · contradiction

theorem rightClick_exchanges : Exchanges rightClick := by
  intro item tgt cursor tgt' cursor' clicked
  unfold rightClick at clicked
  cases vacant : cursor.isEmpty with
  | false =>
    rw [vacant, if_neg Bool.false_ne_true] at clicked
    exact placeOne_amount vacant clicked
  | true =>
    rw [vacant, if_pos rfl] at clicked
    split at clicked
    · contradiction
    cases clicked
    have nothing := amountOf_of_isEmpty item vacant
    have bound := tgt.count.toNat_lt
    have half : (UInt8.ofNat ((tgt.count.toNat + 1) / 2)).toNat =
        (tgt.count.toNat + 1) / 2 := by
      rw [UInt8.toNat_ofNat']
      omega
    have le : UInt8.ofNat ((tgt.count.toNat + 1) / 2) ≤ tgt.count := by
      rw [UInt8.le_iff_toNat_le, half]
      omega
    have left := UInt8.toNat_sub_of_le _ _ le
    rw [half] at left
    split
    · next none =>
      have zero : (tgt.count - UInt8.ofNat ((tgt.count.toNat + 1) / 2)).toNat = 0 := by
        rw [beq_iff_eq.mp none]
        rfl
      rw [amountOf_empty]
      simp only [amountOf, half]
      simp only [amountOf] at nothing
      split <;> omega
    · simp only [amountOf, half, left]
      simp only [amountOf] at nothing
      split <;> omega

theorem leftClick_exchanges : Exchanges leftClick := by
  intro item tgt cursor tgt' cursor' clicked
  unfold leftClick at clicked
  split at clicked
  · next vacant =>
    have nothing := amountOf_of_isEmpty item vacant
    split at clicked
    · contradiction
    · cases clicked
      rw [amountOf_empty, nothing, Nat.zero_add, Nat.add_zero]
  · split at clicked
    · next vacant =>
      cases clicked
      rw [amountOf_empty, amountOf_of_isEmpty item vacant, Nat.add_zero, Nat.zero_add]
    split at clicked
    · next guarded =>
      cases clicked
      simp only [Bool.and_eq_true, decide_eq_true_eq] at guarded
      exact mergeInto_amount guarded.1 guarded.2 item
    · cases clicked
      exact Nat.add_comm _ _

variable {click : ContainerClick}

theorem applyToSlot_total {rule : PersistSlot → PersistSlot → Option (PersistSlot × PersistSlot)}
    (exchanges : ∀ tgt tgt' cursor', rule tgt state.cursor = some (tgt', cursor') →
      amountOf item tgt' + amountOf item cursor' = amountOf item tgt + amountOf item state.cursor) :
    (applyToSlot state click rule).1.total item = state.total item := by
  unfold applyToSlot
  cases found : state.slotAt click.containerId click.slot with
  | none => rfl
  | some tgt =>
    cases clicked : rule tgt state.cursor with
    | none => simp only [clicked]
    | some result =>
      obtain ⟨tgt', cursor'⟩ := result
      simp only [clicked]
      have placed := slotAt_setSlot_total item found tgt'
      have held := total_with_cursor item (state.setSlot click.containerId click.slot tgt')
        cursor'
      rw [setSlot_cursor] at held
      have balance := exchanges tgt tgt' cursor' clicked
      omega

theorem mergeLoop_total (usable : Nat → Bool) (stop : MergeResult → Bool) (index : Nat)
    (slots : List PersistSlot) (stack : PersistSlot) :
    totalOf item (mergeLoop usable stop index slots stack).1 +
        amountOf item (mergeLoop usable stop index slots stack).2 =
      totalOf item slots + amountOf item stack := by
  induction slots generalizing index stack with
  | nil => rfl
  | cons d rest ih =>
    unfold mergeLoop
    split
    · next guarded =>
      simp only [Bool.and_eq_true, decide_eq_true_eq] at guarded
      have merged := mergeInto_amount guarded.1.2 guarded.2 item
      simp only
      split
      · simp only [totalOf_cons]
        omega
      · have later := ih (index + 1) (mergeInto d stack).src
        simp only [totalOf_cons]
        omega
    · have later := ih (index + 1) stack
      simp only [totalOf_cons]
      omega

theorem fillLoop_total (usable : Nat → Bool) (index : Nat) (slots : List PersistSlot)
    (stack : PersistSlot) : totalOf item (fillLoop usable index slots stack).1 +
        amountOf item (fillLoop usable index slots stack).2 =
      totalOf item slots + amountOf item stack := by
  induction slots generalizing index with
  | nil => rfl
  | cons d rest ih =>
    unfold fillLoop
    split
    · next guarded =>
      simp only [Bool.and_eq_true] at guarded
      simp only [totalOf_cons, amountOf_empty, amountOf_of_isEmpty item guarded.2]
      omega
    · have later := ih (index + 1)
      simp only [totalOf_cons]
      omega

theorem quickMoveInto_total (slots : List PersistSlot) (stack : PersistSlot) :
    totalOf item (quickMoveInto slots stack).1 + amountOf item (quickMoveInto slots stack).2 =
      totalOf item slots + amountOf item stack := by
  unfold quickMoveInto
  rw [fillLoop_total, mergeLoop_total]

theorem collect_total (slots : List PersistSlot) (cursor : PersistSlot) (changed : Bool) :
    totalOf item (collect slots cursor changed).1 +
        amountOf item (collect slots cursor changed).2.1 =
      totalOf item slots + amountOf item cursor := by
  induction slots generalizing cursor changed with
  | nil => rfl
  | cons s rest ih =>
    unfold collect
    split
    · next guarded =>
      simp only [Bool.and_eq_true, decide_eq_true_eq] at guarded
      obtain ⟨live, itemId, metadata⟩ := sameStack_iff.mp guarded.1.2
      have same : sameStack cursor s :=
        sameStack_iff.mpr ⟨itemId ▸ live, itemId.symm, metadata.symm⟩
      have merged := mergeInto_amount same guarded.2 item
      have later := ih (mergeInto cursor s).dst
        (changed || decide (0 < (mergeInto cursor s).moved))
      simp only
      generalize collect rest (mergeInto cursor s).dst
        (changed || decide (0 < (mergeInto cursor s).moved)) = result at later ⊢
      obtain ⟨slots, cursor', changed'⟩ := result
      simp only [totalOf_cons] at later ⊢
      omega
    · have later := ih cursor changed
      generalize collect rest cursor changed = result at later ⊢
      obtain ⟨slots, cursor', changed'⟩ := result
      simp only [totalOf_cons] at later ⊢
      omega

variable {usable : Nat → Bool} {position : Nat}

theorem mergeLoop_getElem? (stop : MergeResult → Bool) (index : Nat) (slots : List PersistSlot)
    (stack : PersistSlot) (outside : usable (index + position) = false) :
    (mergeLoop usable stop index slots stack).1[position]? = slots[position]? := by
  induction slots generalizing index stack position with
  | nil => rfl
  | cons d rest ih =>
    unfold mergeLoop
    cases position with
    | zero =>
      rw [Nat.add_zero] at outside
      simp [outside]
    | succ position =>
      have later := fun stack => ih (index + 1) stack
        (show usable (index + 1 + position) = false by
          rw [Nat.add_assoc, Nat.add_comm 1]
          exact outside)
      split
      · simp only
        split
        · simp
        · simp [later]
      · simp [later]

theorem fillLoop_getElem? (index : Nat) (slots : List PersistSlot) (stack : PersistSlot)
    (outside : usable (index + position) = false) :
    (fillLoop usable index slots stack).1[position]? = slots[position]? := by
  induction slots generalizing index position with
  | nil => rfl
  | cons d rest ih =>
    unfold fillLoop
    cases position with
    | zero =>
      rw [Nat.add_zero] at outside
      simp [outside]
    | succ position =>
      have later := ih (index + 1) (show usable (index + 1 + position) = false by
        rw [Nat.add_assoc, Nat.add_comm 1]
        exact outside)
      split
      · simp
      · simp [later]

theorem moveStackToRange_total (player : List PersistSlot) (srcIndex first last : Nat) :
    totalOf item (moveStackToRange player srcIndex first last).1 = totalOf item player := by
  unfold moveStackToRange
  cases present : player[srcIndex]? with
  | none => rfl
  | some stack =>
    have emptied := totalOf_set item present empty
    rw [amountOf_empty] at emptied
    have vacant : (player.set srcIndex empty)[srcIndex]? = some empty :=
      List.getElem?_set_self (List.getElem?_eq_some_iff.mp present).1
    simp only
    split
    · rfl
    generalize usableEq : (fun index : Nat =>
      decide (first ≤ index) && decide (index < last) && index != srcIndex) = usable
    have outside : usable (0 + srcIndex) = false := by
      rw [← usableEq, Nat.zero_add]
      simp
    generalize (fun merged : MergeResult =>
      merged.moved == 0 || merged.src.isEmpty) = stop
    have merged := mergeLoop_total item usable stop 0
      (player.set srcIndex empty) stack
    have kept := mergeLoop_getElem? stop 0 (player.set srcIndex empty) stack outside
    generalize mergeLoop usable stop 0 (player.set srcIndex empty) stack =
      mergeResult at merged kept ⊢
    obtain ⟨slots, left⟩ := mergeResult
    simp only at merged kept ⊢
    split
    · next gone =>
      have nothing := amountOf_of_isEmpty item gone
      simp only
      omega
    · have filled := fillLoop_total item usable 0 slots left
      have still := fillLoop_getElem? 0 slots left outside
      generalize fillLoop usable 0 slots left = fillResult at filled still ⊢
      obtain ⟨slots', left'⟩ := fillResult
      simp only at filled still ⊢
      split
      · next gone =>
        have nothing := amountOf_of_isEmpty item gone
        simp only
        omega
      · have back := totalOf_set item (still.trans (kept.trans vacant)) left'
        rw [amountOf_empty] at back
        simp only
        omega

theorem setSlot_player_of_ne (state : ClickState) (other : containerId ≠ 0) (slot : UInt16)
    (value : PersistSlot) : (state.setSlot containerId slot value).player = state.player := by
  rw [setSlot, if_neg other]

theorem setSlot_container_of_eq (state : ClickState) (own : containerId = 0) (slot : UInt16)
    (value : PersistSlot) : (state.setSlot containerId slot value).container = state.container := by
  rw [setSlot, if_pos own]

theorem slotAt_setSlot_self (found : state.slotAt containerId slot = some old)
    (value : PersistSlot) :
    (state.setSlot containerId slot value).slotAt containerId slot = some value := by
  unfold slotAt at found ⊢
  unfold setSlot
  by_cases own : containerId = 0
  · rw [if_pos own] at found ⊢
    split at found
    · exact absurd found nofun
    · next inside =>
      rw [if_neg inside, if_pos own]
      exact List.getElem?_set_self (List.getElem?_eq_some_iff.mp found).1
  · rw [if_neg own] at found ⊢
    obtain ⟨slots, opened, found⟩ := Option.bind_eq_some_iff.mp found
    rw [if_neg own, opened]
    exact List.getElem?_set_self (List.getElem?_eq_some_iff.mp found).1

theorem moved_total {state moved : ClickState} {left : PersistSlot}
    (vacant : moved.slotAt click.containerId click.slot = some empty)
    (balance : moved.total item + amountOf item left = state.total item) :
    (if left.isEmpty then (moved, true)
      else (moved.setSlot click.containerId click.slot left, false)).1.total item =
        state.total item := by
  split
  · next gone =>
    have nothing := amountOf_of_isEmpty item gone
    simp only
    omega
  · have back := slotAt_setSlot_total item vacant left
    rw [amountOf_empty] at back
    simp only
    omega

variable {src : PersistSlot}

theorem quickMoveToContainer_total {container : List PersistSlot}
    (present : state.slotAt click.containerId click.slot = some src) (own : click.containerId = 0)
    (opened : state.container = some container) :
    (quickMoveToContainer state click container src).1.total item = state.total item := by
  have emptied := slotAt_setSlot_total item present empty
  have vacant := slotAt_setSlot_self present empty
  have moved := quickMoveInto_total item container src
  unfold quickMoveToContainer
  generalize quickMoveInto container src = result at moved ⊢
  obtain ⟨slots, left⟩ := result
  refine moved_total item ?_ ?_
  · unfold slotAt at vacant ⊢
    rw [if_pos own] at vacant ⊢
    exact vacant
  rw [amountOf_empty] at emptied
  simp only [total, setSlot_container_of_eq state own, opened,
    Option.getD_some, setSlot_cursor] at emptied moved ⊢
  omega

theorem quickMoveToPlayer_total (present : state.slotAt click.containerId click.slot = some src)
    (other : click.containerId ≠ 0) :
    (quickMoveToPlayer state click src).1.total item = state.total item := by
  have emptied := slotAt_setSlot_total item present empty
  have vacant := slotAt_setSlot_self present empty
  have moved := quickMoveInto_total item state.player src
  unfold quickMoveToPlayer
  generalize quickMoveInto state.player src = result at moved ⊢
  obtain ⟨slots, left⟩ := result
  refine moved_total item ?_ ?_
  · unfold slotAt at vacant ⊢
    rw [if_neg other] at vacant ⊢
    exact vacant
  rw [amountOf_empty] at emptied
  simp only [total, setSlot_player_of_ne state other, setSlot_cursor]
    at emptied moved ⊢
  omega

variable (state : ClickState)

variable (click : ContainerClick)

theorem quickMoveWithinPlayer_total :
    (quickMoveWithinPlayer state click).1.total item = state.total item := by
  unfold quickMoveWithinPlayer
  simp only [total]
  split
  · rw [moveStackToRange_total]
  · rw [moveStackToRange_total]

theorem applyQuickMove_total : (applyQuickMove state click).1.total item = state.total item := by
  unfold applyQuickMove
  cases present : state.slotAt click.containerId click.slot with
  | none => rfl
  | some src =>
    simp only
    split
    · rfl
    by_cases own : click.containerId = 0
    · rw [if_pos own]
      split
      · next opened => exact quickMoveToContainer_total item present own opened
      · exact quickMoveWithinPlayer_total item state click
    · rw [if_neg own]
      split
      · exact quickMoveToPlayer_total item present own
      · rfl

theorem applyDrop_total (drop : click.actionType = .drop) :
    (applyDrop state click).1.total item + totalOf item (droppedBy state click) =
      state.total item := by
  unfold applyDrop droppedBy
  rw [if_pos drop]
  cases vacant : state.cursor.isEmpty with
  | false =>
    have cleared := total_with_cursor item state empty
    simp only [Bool.not_false, if_true, totalOf_cons, totalOf_nil, amountOf_empty] at cleared ⊢
    omega
  | true =>
    simp only [Bool.not_true, Bool.false_eq_true, if_false]
    cases present : state.slotAt click.containerId click.slot with
    | none => simp
    | some tgt =>
      have cleared := slotAt_setSlot_total item present empty
      rw [amountOf_empty] at cleared
      cases live : tgt.isEmpty with
      | false =>
        simp only [live, Bool.not_false, if_true, Option.toList_some, totalOf_cons, totalOf_nil]
        omega
      | true =>
        simp only [live, Bool.not_true, Bool.false_eq_true, if_false, Option.toList_some,
          totalOf_cons, totalOf_nil, amountOf_of_isEmpty item live, Nat.add_zero]

theorem applyPickupAll_total : (applyPickupAll state).1.total item = state.total item := by
  unfold applyPickupAll
  split
  · rfl
  cases opened : state.container with
  | none =>
    have gathered := collect_total item state.player state.cursor false
    simp only
    generalize collect state.player state.cursor false = result at gathered ⊢
    obtain ⟨player, cursor, changed⟩ := result
    simp only [total, opened, Option.getD_none, totalOf_nil] at gathered ⊢
    omega
  | some slots =>
    have first := collect_total item slots state.cursor false
    simp only
    generalize collect slots state.cursor false = result at first ⊢
    obtain ⟨container, cursor, changed⟩ := result
    have second := collect_total item state.player cursor changed
    generalize collect state.player cursor changed = result at second ⊢
    obtain ⟨player, cursor', changed'⟩ := result
    simp only [total, opened, Option.getD_some] at first second ⊢
    omega

theorem applyContainerClick_total (click : ContainerClick) :
    (applyContainerClick state click).1.total item + totalOf item (droppedBy state click) =
      state.total item := by
  have undropped : click.actionType ≠ .drop → totalOf item (droppedBy state click) = 0 := by
    intro other
    rw [droppedBy, if_neg other, totalOf_nil]
  unfold applyContainerClick
  cases action : click.actionType with
  | click =>
    rw [undropped (by rw [action]; decide), Nat.add_zero]
    refine applyToSlot_total item fun tgt tgt' cursor' clicked => ?_
    split at clicked
    · exact rightClick_exchanges item _ _ _ _ clicked
    · exact leftClick_exchanges item _ _ _ _ clicked
  | quickMove =>
    rw [undropped (by rw [action]; decide), Nat.add_zero]
    exact applyQuickMove_total item state click
  | drop => exact applyDrop_total item state click action
  | dragPlace =>
    rw [undropped (by rw [action]; decide), Nat.add_zero]
    simp only [applyDragPlace]
    cases live : state.cursor.isEmpty with
    | true => rfl
    | false =>
      exact applyToSlot_total item fun tgt tgt' cursor' placed => placeOne_amount live placed
  | pickupAll =>
    rw [undropped (by rw [action]; decide), Nat.add_zero]
    exact applyPickupAll_total item state
  | unknown byte => rw [undropped (by rw [action]; nofun), Nat.add_zero]

end GtnhPlatform.Inventory
