import GtnhPlatform.Data.Machine
import GtnhPlatform.Inventory.ClickTotals

namespace GtnhPlatform.Inventory

open List

def PersistSlot.Stocked (slot : PersistSlot) : Prop :=
  slot.isEmpty = true ∨ slot.itemId ≠ 0 ∧ 1 ≤ slot.count.toNat ∧ slot.count.toNat ≤ 64

structure ClickState.Stocked (state : ClickState) : Prop where
  player : ∀ slot ∈ state.player, slot.Stocked
  container : ∀ slots, state.container = some slots → ∀ slot ∈ slots, slot.Stocked
  cursor : state.cursor.Stocked

theorem empty_stocked : PersistSlot.empty.Stocked := .inl rfl

variable {slot : PersistSlot}

theorem stocked_iff : slot.Stocked ↔ slot.isEmpty = true ∨ slot.count.toNat ≤ 64 := by
  constructor
  · exact Or.imp_right fun stack => stack.2.2
  rintro (vacant | within)
  · exact .inl vacant
  cases vacant : slot.isEmpty with
  | true => exact .inl vacant
  | false =>
    simp only [PersistSlot.isEmpty, Bool.or_eq_false_iff, beq_eq_false_iff_ne] at vacant
    have some : slot.count.toNat ≠ 0 := fun none => vacant.2 (UInt8.toNat_inj.mp none)
    exact .inr ⟨vacant.1, by omega, within⟩

theorem PersistSlot.Stocked.count_le (stocked : slot.Stocked) (live : slot.isEmpty = false) :
    slot.count.toNat ≤ 64 :=
  (stocked_iff.mp stocked).resolve_left fun vacant => by
    rw [live] at vacant
    exact Bool.false_ne_true vacant

theorem stocked_of_le {slot other : PersistSlot} (within : other.count.toNat ≤ 64)
    (part : slot.count.toNat ≤ other.count.toNat) : slot.Stocked :=
  stocked_iff.mpr (.inr (part.trans within))

section Slot

variable {tgt cursor tgt' cursor' : PersistSlot}

theorem mergeInto_stocked {dst src : PersistSlot} (space : dst.count < kMaxStack)
    (stocked : src.Stocked) :
    (mergeInto dst src).dst.Stocked ∧ (mergeInto dst src).src.Stocked := by
  constructor
  · refine stocked_iff.mpr (.inr ?_)
    rw [mergeInto_dst_count src space]
    exact Nat.min_le_left _ _
  have left := mergeInto_src src space
  split at left
  · exact left ▸ empty_stocked
  rename_i excess
  rcases stocked_iff.mp stocked with vacant | within
  · refine .inl ?_
    simp only [PersistSlot.isEmpty, Bool.or_eq_true, beq_iff_eq] at vacant ⊢
    rcases vacant with none | none
    · exact .inl (left.1.trans none)
    · rw [none] at excess
      exact absurd (Nat.zero_le _) excess
  · exact stocked_of_le within (left.2.2 ▸ Nat.sub_le _ _)

theorem takeOne_stocked (live : cursor.isEmpty = false) (stocked : cursor.Stocked) :
    (takeOne cursor).Stocked := by
  unfold takeOne
  split
  · exact empty_stocked
  have within := stocked.count_le live
  simp only [PersistSlot.isEmpty, Bool.or_eq_false_iff, beq_eq_false_iff_ne] at live
  have some : cursor.count.toNat ≠ 0 := fun none => live.2 (UInt8.toNat_inj.mp none)
  have left : (cursor.count - 1).toNat = cursor.count.toNat - 1 :=
    UInt8.toNat_sub_of_le cursor.count 1 (Nat.pos_of_ne_zero some)
  exact stocked_of_le within (left ▸ Nat.sub_le _ _)

theorem placeOne_stocked (live : cursor.isEmpty = false) (stocked : cursor.Stocked)
    (placed : placeOne tgt cursor = some (tgt', cursor')) : tgt'.Stocked ∧ cursor'.Stocked := by
  have rest := takeOne_stocked live stocked
  unfold placeOne at placed
  split at placed
  · cases placed
    have one : (1 : UInt8).toNat ≤ 64 := by decide
    exact ⟨stocked_iff.mpr (.inr one), rest⟩
  split at placed
  · next guarded =>
    cases placed
    simp only [Bool.and_eq_true, decide_eq_true_eq] at guarded
    have space : tgt.count.toNat < 64 := guarded.2
    refine ⟨stocked_iff.mpr (.inr ?_), rest⟩
    rw [UInt8.toNat_add, UInt8.toNat_one]
    omega
  · exact absurd placed nofun

theorem rightClick_stocked (full : tgt.Stocked) (held : cursor.Stocked)
    (clicked : rightClick tgt cursor = some (tgt', cursor')) : tgt'.Stocked ∧ cursor'.Stocked := by
  unfold rightClick at clicked
  split at clicked
  · split at clicked
    · exact absurd clicked nofun
    rename_i live
    cases clicked
    have within := full.count_le (Bool.eq_false_iff.mpr live)
    have half : (UInt8.ofNat ((tgt.count.toNat + 1) / 2)).toNat =
        (tgt.count.toNat + 1) / 2 := by
      rw [UInt8.toNat_ofNat']
      omega
    refine ⟨?_, stocked_iff.mpr (.inr ?_)⟩
    · split
      · exact empty_stocked
      · refine stocked_iff.mpr (.inr ?_)
        rw [UInt8.toNat_sub_of_le _ _ (UInt8.le_iff_toNat_le.mpr (by omega)), half]
        omega
    · rw [half]
      omega
  · next live => exact placeOne_stocked (Bool.eq_false_iff.mpr live) held clicked

theorem leftClick_stocked (full : tgt.Stocked) (held : cursor.Stocked)
    (clicked : leftClick tgt cursor = some (tgt', cursor')) : tgt'.Stocked ∧ cursor'.Stocked := by
  unfold leftClick at clicked
  split at clicked
  · split at clicked
    · exact absurd clicked nofun
    · cases clicked
      exact ⟨empty_stocked, full⟩
  · split at clicked
    · cases clicked
      exact ⟨held, empty_stocked⟩
    split at clicked
    · next guarded =>
      cases clicked
      simp only [Bool.and_eq_true, decide_eq_true_eq] at guarded
      exact mergeInto_stocked guarded.2 held
    · cases clicked
      exact ⟨held, full⟩

end Slot

section Loops

variable {slots : List PersistSlot} {stack : PersistSlot}

theorem mergeLoop_stocked (usable : Nat → Bool) (stop : MergeResult → Bool) (index : Nat)
    (full : ∀ slot ∈ slots, slot.Stocked) (stocked : stack.Stocked) :
    (∀ slot ∈ (mergeLoop usable stop index slots stack).1, slot.Stocked) ∧
      (mergeLoop usable stop index slots stack).2.Stocked := by
  induction slots generalizing index stack with
  | nil => exact ⟨full, stocked⟩
  | cons d rest ih =>
    obtain ⟨head, others⟩ := forall_mem_cons.mp full
    unfold mergeLoop
    split
    · next guarded =>
      simp only [Bool.and_eq_true, decide_eq_true_eq] at guarded
      obtain ⟨dst, src⟩ := mergeInto_stocked guarded.2 stocked
      simp only
      split
      · exact ⟨forall_mem_cons.mpr ⟨dst, others⟩, src⟩
      · obtain ⟨later, left⟩ := ih (index + 1) others src
        exact ⟨forall_mem_cons.mpr ⟨dst, later⟩, left⟩
    · obtain ⟨later, left⟩ := ih (index + 1) others stocked
      exact ⟨forall_mem_cons.mpr ⟨head, later⟩, left⟩

theorem fillLoop_stocked (usable : Nat → Bool) (index : Nat) (full : ∀ slot ∈ slots, slot.Stocked)
    (stocked : stack.Stocked) : (∀ slot ∈ (fillLoop usable index slots stack).1, slot.Stocked) ∧
      (fillLoop usable index slots stack).2.Stocked := by
  induction slots generalizing index with
  | nil => exact ⟨full, stocked⟩
  | cons d rest ih =>
    obtain ⟨head, others⟩ := forall_mem_cons.mp full
    unfold fillLoop
    split
    · exact ⟨forall_mem_cons.mpr ⟨stocked, others⟩, empty_stocked⟩
    · obtain ⟨later, left⟩ := ih (index + 1) others
      exact ⟨forall_mem_cons.mpr ⟨head, later⟩, left⟩

theorem quickMoveInto_stocked (full : ∀ slot ∈ slots, slot.Stocked) (stocked : stack.Stocked) :
    (∀ slot ∈ (quickMoveInto slots stack).1, slot.Stocked) ∧
      (quickMoveInto slots stack).2.Stocked := by
  unfold quickMoveInto
  obtain ⟨merged, left⟩ := mergeLoop_stocked (fun _ => true)
    (fun merged => decide (0 < merged.moved) && merged.src.isEmpty) 0 full stocked
  exact fillLoop_stocked (fun _ => true) 0 merged left

theorem set_stocked {value : PersistSlot} (full : ∀ slot ∈ slots, slot.Stocked)
    (stocked : value.Stocked) : ∀ slot ∈ slots.set index value, slot.Stocked := by
  intro slot mem
  rcases mem_or_eq_of_mem_set mem with old | rfl
  · exact full slot old
  · exact stocked

theorem moveStackToRange_stocked (srcIndex first last : Nat) (full : ∀ slot ∈ slots, slot.Stocked) :
    ∀ slot ∈ (moveStackToRange slots srcIndex first last).1, slot.Stocked := by
  unfold moveStackToRange
  cases present : slots[srcIndex]? with
  | none => exact full
  | some stack =>
    simp only
    split
    · exact full
    obtain ⟨merged, left⟩ := mergeLoop_stocked
      (fun index => decide (first ≤ index) && decide (index < last) && index != srcIndex)
      (fun merged => merged.moved == 0 || merged.src.isEmpty) 0
      (set_stocked full empty_stocked) (full stack (mem_of_getElem? present))
    split
    · exact merged
    obtain ⟨filled, rest⟩ := fillLoop_stocked
      (fun index => decide (first ≤ index) && decide (index < last) && index != srcIndex) 0
      merged left
    split
    · exact filled
    · exact set_stocked filled rest

theorem collect_stocked {cursor : PersistSlot} (changed : Bool)
    (full : ∀ slot ∈ slots, slot.Stocked) (held : cursor.Stocked) :
    (∀ slot ∈ (collect slots cursor changed).1, slot.Stocked) ∧
      (collect slots cursor changed).2.1.Stocked := by
  induction slots generalizing cursor changed with
  | nil => exact ⟨full, held⟩
  | cons s rest ih =>
    obtain ⟨head, others⟩ := forall_mem_cons.mp full
    unfold collect
    split
    · next guarded =>
      simp only [Bool.and_eq_true, decide_eq_true_eq] at guarded
      obtain ⟨dst, src⟩ := mergeInto_stocked guarded.2 head
      obtain ⟨later, cursor'⟩ := ih
        (changed || decide (0 < (mergeInto cursor s).moved)) others dst
      exact ⟨forall_mem_cons.mpr ⟨src, later⟩, cursor'⟩
    · obtain ⟨later, cursor'⟩ := ih changed others held
      exact ⟨forall_mem_cons.mpr ⟨head, later⟩, cursor'⟩

end Loops

section Clicks

variable {state : ClickState} {click : ContainerClick}

theorem slotAt_stocked (stocked : state.Stocked) {slot : UInt16} {tgt : PersistSlot}
    (found : state.slotAt containerId slot = some tgt) : tgt.Stocked := by
  unfold ClickState.slotAt at found
  split at found
  · split at found
    · exact absurd found nofun
    · exact stocked.player tgt (mem_of_getElem? found)
  · obtain ⟨slots, opened, found⟩ := Option.bind_eq_some_iff.mp found
    exact stocked.container slots opened tgt (mem_of_getElem? found)

theorem setSlot_stocked (stocked : state.Stocked) (containerId : UInt8) (slot : UInt16)
    {value : PersistSlot} (full : value.Stocked) :
    (state.setSlot containerId slot value).Stocked := by
  unfold ClickState.setSlot
  split
  · exact ⟨set_stocked stocked.player full, stocked.container, stocked.cursor⟩
  · refine ⟨stocked.player, fun slots opened => ?_, stocked.cursor⟩
    obtain ⟨old, present, rfl⟩ := Option.map_eq_some_iff.mp opened
    exact set_stocked (stocked.container old present) full

theorem ClickState.Stocked.withCursor (stocked : state.Stocked) {cursor : PersistSlot}
    (held : cursor.Stocked) : ({ state with cursor := cursor } : ClickState).Stocked :=
  ⟨stocked.player, stocked.container, held⟩

variable {slots : List PersistSlot}

theorem ClickState.Stocked.withContainer (stocked : state.Stocked)
    (full : ∀ slot ∈ slots, slot.Stocked) :
    ({ state with container := some slots } : ClickState).Stocked :=
  ⟨stocked.player, fun _ opened => Option.some.inj opened ▸ full, stocked.cursor⟩

theorem ClickState.Stocked.withPlayer (stocked : state.Stocked)
    (full : ∀ slot ∈ slots, slot.Stocked) :
    ({ state with player := slots } : ClickState).Stocked :=
  ⟨full, stocked.container, stocked.cursor⟩

theorem applyToSlot_stocked (stocked : state.Stocked)
    {rule : PersistSlot → PersistSlot → Option (PersistSlot × PersistSlot)}
    (keeps : ∀ tgt tgt' cursor', tgt.Stocked → rule tgt state.cursor = some (tgt', cursor') →
      tgt'.Stocked ∧ cursor'.Stocked) : (applyToSlot state click rule).1.Stocked := by
  unfold applyToSlot
  split
  · exact stocked
  rename_i tgt found
  split
  · exact stocked
  · next tgt' cursor' clicked =>
    obtain ⟨placed, held⟩ := keeps tgt tgt' cursor' (slotAt_stocked stocked found) clicked
    exact (setSlot_stocked stocked _ _ placed).withCursor held

theorem moved_stocked {moved : ClickState} (stocked : moved.Stocked) {left : PersistSlot}
    (rest : left.Stocked) : (if left.isEmpty then (moved, true)
      else (moved.setSlot click.containerId click.slot left, false)).1.Stocked := by
  split
  · exact stocked
  · exact setSlot_stocked stocked _ _ rest

theorem applyQuickMove_stocked (stocked : state.Stocked) :
    (applyQuickMove state click).1.Stocked := by
  unfold applyQuickMove
  split
  · exact stocked
  rename_i src found
  have full := slotAt_stocked stocked found
  have taken := setSlot_stocked stocked click.containerId click.slot empty_stocked
  split
  · exact stocked
  split
  · split
    · next opened =>
      obtain ⟨slots, left⟩ := quickMoveInto_stocked (stocked.container _ opened) full
      exact moved_stocked (taken.withContainer slots) left
    unfold quickMoveWithinPlayer
    refine stocked.withPlayer ?_
    split
    · exact moveStackToRange_stocked _ _ _ stocked.player
    · exact moveStackToRange_stocked _ _ _ stocked.player
  · split
    · obtain ⟨slots, left⟩ := quickMoveInto_stocked stocked.player full
      exact moved_stocked (taken.withPlayer slots) left
    · exact stocked

theorem applyPickupAll_stocked (stocked : state.Stocked) : (applyPickupAll state).1.Stocked := by
  unfold applyPickupAll
  split
  · exact stocked
  cases opened : state.container with
  | none =>
    obtain ⟨player, held⟩ := collect_stocked false stocked.player stocked.cursor
    exact ⟨player, nofun, held⟩
  | some slots =>
    obtain ⟨container, held⟩ :=
      collect_stocked false (stocked.container slots opened) stocked.cursor
    obtain ⟨player, kept⟩ := collect_stocked (collect slots state.cursor false).2.2
      stocked.player held
    exact ⟨player, fun _ shown => Option.some.inj shown ▸ container, kept⟩

theorem applyContainerClick_stocked (stocked : state.Stocked) :
    (applyContainerClick state click).1.Stocked := by
  unfold applyContainerClick
  cases click.actionType with
  | click =>
    refine applyToSlot_stocked stocked fun tgt tgt' cursor' full clicked => ?_
    split at clicked
    · exact rightClick_stocked full stocked.cursor clicked
    · exact leftClick_stocked full stocked.cursor clicked
  | quickMove => exact applyQuickMove_stocked stocked
  | drop =>
    simp only [applyDrop]
    split
    · exact stocked.withCursor empty_stocked
    split
    · exact stocked
    · split
      · exact setSlot_stocked stocked _ _ empty_stocked
      · exact stocked
  | dragPlace =>
    simp only [applyDragPlace]
    split
    · exact stocked
    · next live =>
      exact applyToSlot_stocked stocked fun tgt tgt' cursor' _ placed =>
        placeOne_stocked (Bool.eq_false_iff.mpr live) stocked.cursor placed
  | pickupAll => exact applyPickupAll_stocked stocked
  | unknown byte => exact stocked

end Clicks

def clicks : Machine ClickState ContainerClick PersistSlot where
  step state click := ((applyContainerClick state click).1, droppedBy state click)

structure ClickKeeps (state : ClickState) (click : ContainerClick) : Prop where
  total : ∀ item, (applyContainerClick state click).1.total item +
    totalOf item (droppedBy state click) = state.total item
  stocked : (applyContainerClick state click).1.Stocked

theorem clicks_keep {state : ClickState} (stocked : state.Stocked)
    (sequence : List ContainerClick) :
    clicks.Along ClickKeeps state sequence ∧ (clicks.final state sequence).Stocked ∧
      ∀ item, (clicks.final state sequence).total item +
        totalOf item (clicks.outputs state sequence) = state.total item := by
  induction sequence generalizing state with
  | nil => exact ⟨trivial, stocked, fun item => Nat.add_zero _⟩
  | cons click sequence ih =>
    have keeps : ClickKeeps state click :=
      ⟨fun item => applyContainerClick_total item state click, applyContainerClick_stocked stocked⟩
    obtain ⟨along, still, totals⟩ := ih keeps.stocked
    refine ⟨⟨keeps, along⟩, still, fun item => ?_⟩
    have now := keeps.total item
    have later := totals item
    rw [Machine.outputs, totalOf_append]
    simp only [Machine.final, clicks] at later ⊢
    omega

theorem clicks_keep_halved :
    (⟨[⟨5, 7, 2⟩], some [⟨0, 0, 0⟩], PersistSlot.empty⟩ : ClickState).Stocked ∧
      ∀ item, (clicks.final ⟨[⟨5, 7, 2⟩], some [⟨0, 0, 0⟩], PersistSlot.empty⟩
          [⟨.click, .right, 0, 0⟩, ⟨.click, .left, 1, 0⟩, ⟨.drop, .left, 1, 0⟩]).total item +
        totalOf item (clicks.outputs ⟨[⟨5, 7, 2⟩], some [⟨0, 0, 0⟩], PersistSlot.empty⟩
          [⟨.click, .right, 0, 0⟩, ⟨.click, .left, 1, 0⟩, ⟨.drop, .left, 1, 0⟩]) =
        (⟨[⟨5, 7, 2⟩], some [⟨0, 0, 0⟩], PersistSlot.empty⟩ : ClickState).total item := by
  have stocked : (⟨[⟨5, 7, 2⟩], some [⟨0, 0, 0⟩], PersistSlot.empty⟩ : ClickState).Stocked := by
    refine ⟨?_, ?_, empty_stocked⟩
    · intro slot mem
      rw [mem_singleton.mp mem]
      exact .inr (by decide)
    intro slots opened slot mem
    cases opened
    rw [mem_singleton.mp mem]
    exact empty_stocked
  exact ⟨stocked, (clicks_keep stocked
    [⟨.click, .right, 0, 0⟩, ⟨.click, .left, 1, 0⟩, ⟨.drop, .left, 1, 0⟩]).2.2⟩

end GtnhPlatform.Inventory
