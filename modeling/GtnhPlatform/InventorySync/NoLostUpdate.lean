import GtnhPlatform.InventorySync.System

namespace GtnhPlatform.InventorySync

open Inventory (PersistSlot kInventorySlots)
open MetaDb List

def slotKeys : List Int := (finRange kInventorySlots).map fun index => (index.val : Int)

theorem slotKeys_nodup : slotKeys.Nodup := by
  refine (nodup_finRange _).map fun first second same => ?_
  exact Fin.ext (Int.ofNat.inj same)

variable {rows : SlotRows}

theorem slotKeys_cover (fits : RowsFit rows) (slot : Int) (present : (rows.lookup slot).isSome) :
    slot ∈ slotKeys := by
  obtain ⟨inv, found⟩ := Option.isSome_iff_exists.mp present
  obtain ⟨low, high⟩ := (fits slot inv found).slot
  have small : slot.toNat < kInventorySlots := by
    simp only [inventorySlotCount, kInventorySlots] at high ⊢
    omega
  refine mem_map.mpr ⟨⟨slot.toNat, small⟩, mem_finRange _, ?_⟩
  exact Int.toNat_of_nonneg low

def rowAmount (rows : SlotRows) (item : UInt16) (index : Fin kInventorySlots) : Nat :=
  ((rows.lookup (index.val : Int)).map (amountIn item.toNat)).getD 0

theorem amountOf_eq_sum (fits : RowsFit rows) (item : UInt16) :
    amountOf item.toNat rows = ((finRange kInventorySlots).map (rowAmount rows item)).sum := by
  rw [amountOf, Table.total_eq_sum _ slotKeys_nodup (slotKeys_cover fits), slotKeys, map_map]
  rfl

def slotAmount (item : UInt16) (slot : PersistSlot) : Nat :=
  if slot.itemId = item then slot.count.toNat else 0

theorem slots_eq_map_get (slots : PlayerSlots) :
    slots.slots = (finRange kInventorySlots).map slots.get := by
  apply ext_getElem
  · simp [slots.size]
  · intro index _ _
    simp [PlayerSlots.get]

theorem amount_eq_sum (slots : PlayerSlots) (item : UInt16) :
    slots.amount item =
      ((finRange kInventorySlots).map fun index => slotAmount item (slots.get index)).sum := by
  rw [PlayerSlots.amount, slots_eq_map_get slots, map_map]
  rfl

variable {item : UInt16}

theorem amount_congr {slots : PlayerSlots} (fits : RowsFit rows)
    (same : ∀ index, slotAmount item (slots.get index) = rowAmount rows item index) :
    slots.amount item = amountOf item.toNat rows := by
  rw [amount_eq_sum, amountOf_eq_sum fits]
  congr 1
  apply map_congr_left
  intro index _
  exact same index

theorem amount_publishInventory (fits : RowsFit rows) (real : item ≠ 0) :
    (publishInventory rows).amount item = amountOf item.toNat rows := by
  apply amount_congr fits
  intro index
  have slot : (publishInventory rows).get index = publishedSlot rows index := by
    simp [PlayerSlots.get, publishInventory]
    rfl
  rw [slot, publishedSlot, rowAmount]
  cases found : rows.lookup (index.val : Int) with
  | none => simp [slotAmount, PersistSlot.empty, real.symm]
  | some inv =>
    obtain ⟨_, ⟨lowId, highId⟩, lowCount, highCount⟩ := fits _ inv found
    have sameItem : UInt16.ofNat (inv.blockID % 65536).toNat = item ↔
        inv.blockID = item.toNat := by
      rw [← UInt16.toNat_inj, UInt16.toNat_ofNat']
      omega
    have sameCount : (UInt8.ofNat (inv.count % 256).toNat).toNat = inv.count.toNat := by
      rw [UInt8.toNat_ofNat']
      omega
    simp only [slotAmount, sameItem, sameCount, amountIn, Option.map_some, Option.getD_some]

theorem rowFits_save (req : SetInventorySlotReq) :
    RowFits (req.slotIndex.val : Int) ⟨req.itemId.toNat, req.count.toNat⟩ := by
  have index := req.slotIndex.isLt
  have item := req.itemId.toNat_lt
  have count := req.count.toNat_lt
  refine ⟨?_, ?_, ?_⟩
  · simp only [inventorySlotCount, kInventorySlots] at index ⊢
    omega
  · dsimp only
    omega
  · dsimp only
    omega

theorem rowsFit_saved (fits : RowsFit rows) (saves : List SetInventorySlotReq) :
    RowsFit (saves.foldl updateInventorySlot rows) := by
  induction saves generalizing rows with
  | nil => exact fits
  | cons req rest ih => exact ih (fits.insert (rowFits_save req))

theorem lookup_saved {indices : List (Fin kInventorySlots)} (slots : PlayerSlots) (rows : SlotRows)
    (index : Fin kInventorySlots) :
    ((indices.map fun index => (⟨index, (slots.get index).itemId, (slots.get index).count⟩ :
        SetInventorySlotReq)).foldl updateInventorySlot rows).lookup (index.val : Int) =
      if index ∈ indices then some ⟨(slots.get index).itemId.toNat, (slots.get index).count.toNat⟩
      else rows.lookup (index.val : Int) := by
  induction indices generalizing rows with
  | nil => simp
  | cons first rest ih =>
    rw [map_cons, foldl_cons, ih]
    by_cases later : index ∈ rest
    · rw [if_pos later, if_pos (mem_cons_of_mem _ later)]
    rw [if_neg later, updateInventorySlot, Table.lookup_insert_eq]
    by_cases same : index = first
    · subst same
      rw [if_pos rfl, if_pos mem_cons_self]
    · have apart : (index.val : Int) ≠ first.val := fun equal =>
        same (Fin.ext (Int.ofNat.inj equal))
      rw [if_neg apart, if_neg (by simp [same, later])]

theorem amountOf_onChange (fits : RowsFit rows) (slots : PlayerSlots) (item : UInt16) :
    slots.amount item = amountOf item.toNat ((onChange slots).foldl updateInventorySlot rows) := by
  apply amount_congr (rowsFit_saved fits _)
  intro index
  rw [rowAmount, onChange, lookup_saved, if_pos (mem_finRange index)]
  have sameItem : (slots.get index).itemId = item ↔
      ((slots.get index).itemId.toNat : Int) = item.toNat := by
    rw [Int.natCast_inj, UInt16.toNat_inj]
  simp [slotAmount, amountIn, sameItem]

theorem amountOf_saved_frame (item : Int) {rows result : SlotRows}
    {saves : List SetInventorySlotReq}
    (same : ∀ req ∈ saves, result.lookup (req.slotIndex.val : Int) =
      rows.lookup (req.slotIndex.val : Int)) :
    amountOf item (saves.foldl updateInventorySlot result) + amountOf item rows =
      amountOf item (saves.foldl updateInventorySlot rows) + amountOf item result := by
  induction saves generalizing rows result with
  | nil => exact Nat.add_comm _ _
  | cons req rest ih =>
    obtain ⟨here, elsewhere⟩ := forall_mem_cons.mp same
    have still : ∀ other ∈ rest,
        (updateInventorySlot result req).lookup (other.slotIndex.val : Int) =
          (updateInventorySlot rows req).lookup (other.slotIndex.val : Int) := by
      intro other mem
      rw [updateInventorySlot, updateInventorySlot, Table.lookup_insert_eq,
        Table.lookup_insert_eq, elsewhere other mem]
    have later := ih still
    have before := Table.total_insert (amountIn item) rows req.slotIndex.val
      ⟨req.itemId.toNat, req.count.toNat⟩
    have after := Table.total_insert (amountIn item) result req.slotIndex.val
      ⟨req.itemId.toNat, req.count.toNat⟩
    rw [here] at after
    simp only [foldl_cons]
    simp only [amountOf, updateInventorySlot] at later ⊢
    omega

namespace System

variable {state : System}

theorem toNat_ne_zero {item : UInt16} (real : item ≠ 0) : (item.toNat : Int) ≠ 0 := by
  intro zero
  apply real
  rw [← UInt16.toNat_inj]
  exact Int.ofNat.inj zero

theorem setSlots_keeps (fits : RowsFit state.rows) (kept : state.NothingLost)
    (current : state.CurrentFor slots) : (state.setSlots slots).NothingLost := by
  obtain ⟨same, undone⟩ := current
  have owed : ∀ item ≠ 0, (state.setSlots slots).owed item = slots.amount item := by
    intro item real
    have before := kept.metaDB item real
    rw [← same item real] at before
    simp only [setSlots]
    omega
  constructor
  · intro item real
    rw [owed item real, amountOf_onChange (rowsFit_saved fits state.saves) slots item]
    simp only [savedRows, setSlots, foldl_append]
  intro noJoin loaded isLoaded item real
  rw [owed item real]
  simp only [loadedSlots, setSlots] at isLoaded noJoin
  cases last : state.loads.getLast? with
  | none =>
    rw [last, Option.none_or] at isLoaded
    rw [Option.some.inj isLoaded]
  | some load =>
    rw [last, Option.some_or] at isLoaded
    obtain rfl := Option.some.inj isLoaded
    have waiting : state.loads ≠ [] := by
      intro none
      rw [none] at last
      cases last
    have before := kept.simCore noJoin load (by rw [loadedSlots, last]; rfl) item real
    have now := kept.metaDB item real
    rw [undone noJoin waiting item real, same item real]
    omega

theorem transact_keeps {gain : Int → Int} {touches : Int → Prop} {rows : SlotRows}
    (kept : state.NothingLost) (writes : Writes gain touches state.rows rows)
    (undisturbed : state.Undisturbed touches) : (state.transact gain (some rows)).NothingLost := by
  obtain ⟨absent, apart⟩ := undisturbed
  constructor
  · intro item real
    have before := kept.metaDB item real
    have gained := writes.amount item.toNat (toNat_ne_zero real)
    have saved := amountOf_saved_frame item.toNat fun req mem =>
      writes.frame req.slotIndex.val (apart req mem)
    simp only [savedRows, transact] at before ⊢
    omega
  · intro noJoin loaded isLoaded
    simp only [transact, loadedSlots] at noJoin isLoaded
    have none := absent noJoin
    rw [loadedSlots] at none
    rw [none] at isLoaded
    cases isLoaded

theorem loadedSlots_concat (loads : List PlayerSlots) (slots : PlayerSlots)
    (inventory : Option PlayerSlots) : (loads ++ [slots]).getLast?.or inventory = some slots := by
  rw [getLast?_concat, Option.some_or]

variable (kept : state.NothingLost)

include kept

theorem deliverSave_keeps : (state.handle .deliverSave).NothingLost := by
  rw [handle]
  cases waiting : state.saves with
  | nil => exact kept
  | cons req rest =>
    refine ⟨?_, kept.simCore⟩
    intro item real
    have before := kept.metaDB item real
    rw [savedRows, waiting] at before
    exact before

theorem deliverLoad_keeps : (state.handle .deliverLoad).NothingLost := by
  rw [handle]
  cases waiting : state.loads with
  | nil => exact kept
  | cons load rest =>
    refine ⟨kept.metaDB, ?_⟩
    intro noJoin loaded isLoaded
    apply kept.simCore noJoin
    rw [loadedSlots, waiting]
    rw [loadedSlots] at isLoaded
    cases rest with
    | nil => exact isLoaded
    | cons next later =>
      rw [getLast?_cons_cons]
      rw [getLast?_eq_some_getLast (cons_ne_nil _ _), Option.some_or] at isLoaded ⊢
      exact isLoaded

theorem playerJoined_keeps : (state.handle .playerJoined).NothingLost :=
  ⟨kept.metaDB, fun noJoin => absurd noJoin (Nat.succ_ne_zero _)⟩

theorem joinedToSimCore_keeps (inStep : state.InStep .deliverJoinedToSimCore) :
    (state.handle .deliverJoinedToSimCore).NothingLost := by
  rw [handle]
  by_cases none : state.joinedSimCore = 0
  · rw [if_pos none]
    exact kept
  rw [if_neg none]
  refine ⟨kept.metaDB, ?_⟩
  intro noJoin loaded isLoaded item real
  cases now : state.loadedSlots with
  | some slots =>
    apply kept.simCore noJoin loaded _ item real
    rw [now]
    rw [loadedSlots] at isLoaded now
    cases last : state.loads.getLast? with
    | none =>
      rw [last, Option.none_or] at isLoaded now
      rw [getSlots, now] at isLoaded
      exact isLoaded
    | some load =>
      rw [last, Option.some_or] at isLoaded now
      rwa [now] at isLoaded
  | none =>
    obtain ⟨noLoad, absent⟩ := Option.or_eq_none_iff.mp now
    rw [loadedSlots] at isLoaded
    rw [noLoad, Option.none_or, getSlots, absent] at isLoaded
    rw [← Option.some.inj isLoaded]
    have same := inStep none noJoin now item real
    have owed := kept.metaDB item real
    dsimp only [Option.getD_none]
    omega

omit kept

theorem joinedToMetaDB_keeps (fits : RowsFit state.rows) (kept : state.NothingLost)
    (inStep : state.InStep .deliverJoinedToMetaDB) :
    (state.handle .deliverJoinedToMetaDB).NothingLost := by
  rw [handle]
  by_cases none : state.joinedMetaDB = 0
  · rw [if_pos none]
    exact kept
  rw [if_neg none]
  refine ⟨kept.metaDB, ?_⟩
  intro last loaded isLoaded item real
  dsimp only at last
  have condition := inStep (by omega)
  have owed := kept.metaDB item real
  rw [loadedSlots] at isLoaded
  dsimp only at isLoaded ⊢
  by_cases empty : state.rows.keys = []
  · rw [if_pos empty] at isLoaded condition
    have same := condition loaded isLoaded item real
    omega
  rw [if_neg empty] at isLoaded condition
  rw [loadedSlots_concat] at isLoaded
  have same := condition item real
  rw [← Option.some.inj isLoaded, amount_publishInventory fits real]
  omega

variable {order : List Int} {commits : Bool}

theorem grant_keeps {itemId : UInt16} {count : UInt8} (kept : state.NothingLost)
    (inStep : state.InStep (.grant itemId count order commits)) :
    (state.handle (.grant itemId count order commits)).NothingLost := by
  rw [handle]
  cases commits with
  | false => exact kept
  | true =>
    rw [if_pos rfl]
    by_cases nothing : itemId.toNat = 0 ∨ count.toNat = 0
    · -- nothing is granted
      rw [grantItemToInventory, if_pos nothing]
      have idle : ∀ item ≠ 0, (state.transact (grantGain itemId.toNat count.toNat)
          (some state.rows)).owed item = state.owed item := by
        intro item real
        have named := toNat_ne_zero real
        simp only [transact, grantGain]
        split <;> omega
      constructor
      · intro item real
        rw [idle item real]
        exact kept.metaDB item real
      · intro noJoin loaded isLoaded item real
        rw [idle item real]
        exact kept.simCore noJoin loaded isLoaded item real
    · obtain ⟨named, counted⟩ := not_or.mp nothing
      cases granted : grantItemToInventory order state.rows itemId.toNat count.toNat with
      | none => exact kept
      | some rows =>
        apply transact_keeps kept (grantItemToInventory_writes itemId.toNat_lt granted)
        apply inStep rfl
        · rintro rfl
          exact named rfl
        · rintro rfl
          exact counted rfl
        · exact (grantItemToInventory_room named counted granted).1

variable {costItemId rewardItemId : UInt16} {costCount rewardCount : UInt8}

theorem canExchange_of_exchanged {rows result : SlotRows}
    (exchanged : exchangeItems order rows costItemId.toNat costCount.toNat rewardItemId.toNat
      rewardCount.toNat = some result) :
    CanExchange rows costItemId costCount rewardItemId rewardCount := by
  rw [exchangeItems] at exchanged
  split at exchanged
  · cases exchanged
  rename_i priced
  obtain ⟨costItem, costs⟩ := not_or.mp priced
  dsimp only at exchanged
  split at exchanged
  · cases exchanged
  rename_i enough
  refine ⟨?_, ?_, not_lt.mp enough, ?_⟩
  · rintro rfl
    exact costItem rfl
  · rintro rfl
    exact costs rfl
  intro named counted
  refine (grantItemToInventory_room ?_ ?_ exchanged).1
  · intro zero
    exact named (UInt16.toNat_inj.mp zero)
  · intro zero
    exact counted (UInt8.toNat_inj.mp zero)

theorem exchange_keeps (kept : state.NothingLost) (inStep : state.InStep
      (.exchange costItemId costCount rewardItemId rewardCount order commits)) :
    (state.handle (.exchange costItemId costCount rewardItemId rewardCount order commits)).NothingLost
    := by
  rw [handle]
  cases commits with
  | false => exact kept
  | true =>
    rw [if_pos rfl]
    cases exchanged : exchangeItems order state.rows costItemId.toNat costCount.toNat
        rewardItemId.toNat rewardCount.toNat with
    | none => exact kept
    | some rows =>
      apply transact_keeps kept (exchangeItems_writes rewardItemId.toNat_lt exchanged)
      exact inStep rfl (canExchange_of_exchanged exchanged)

theorem rowsFit_step (fits : RowsFit state.rows) (input : SyncInput) :
    RowsFit (state.handle input).rows := by
  cases input with
  | setSlots slots => exact fits
  | giveItem itemId count targetSlot =>
    rw [handle]
    split <;> exact fits
  | deliverSave =>
    rw [handle]
    split
    · exact fits
    · next req rest _ => exact fits.insert (rowFits_save req)
  | playerJoined => exact fits
  | deliverJoinedToMetaDB =>
    rw [handle]
    split <;> exact fits
  | deliverJoinedToSimCore =>
    rw [handle]
    split <;> exact fits
  | deliverLoad =>
    rw [handle]
    split <;> exact fits
  | grant itemId count order commits =>
    rw [handle]
    split
    · cases granted : grantItemToInventory order state.rows itemId.toNat count.toNat with
      | none => exact fits
      | some rows => exact (grantItemToInventory_writes itemId.toNat_lt granted).fits fits
    · exact fits
  | exchange costItemId costCount rewardItemId rewardCount order commits =>
    rw [handle]
    split
    · cases exchanged : exchangeItems order state.rows costItemId.toNat costCount.toNat
          rewardItemId.toNat rewardCount.toNat with
      | none => exact fits
      | some rows => exact (exchangeItems_writes rewardItemId.toNat_lt exchanged).fits fits
    · exact fits

theorem nothingLost_step (fits : RowsFit state.rows) (kept : state.NothingLost) {input : SyncInput}
    (inStep : state.InStep input) : (state.handle input).NothingLost := by
  cases input with
  | setSlots slots => exact setSlots_keeps fits kept inStep
  | giveItem itemId count targetSlot =>
    rw [handle]
    by_cases none : count = 0
    · rw [if_pos none]
      exact kept
    · rw [if_neg none]
      exact setSlots_keeps fits kept (inStep none)
  | deliverSave => exact deliverSave_keeps kept
  | playerJoined => exact playerJoined_keeps kept
  | deliverJoinedToMetaDB => exact joinedToMetaDB_keeps fits kept inStep
  | deliverJoinedToSimCore => exact joinedToSimCore_keeps kept inStep
  | deliverLoad => exact deliverLoad_keeps kept
  | grant itemId count order commits => exact grant_keeps kept inStep
  | exchange costItemId costCount rewardItemId rewardCount order commits =>
    exact exchange_keeps kept inStep

theorem start_nothingLost (stored : StoredInventory) : (start stored).NothingLost := by
  constructor
  · intro item _
    rfl
  · intro _ slots present
    cases present

theorem nothing_lost_in_step (stored : StoredInventory) (inputs : List SyncInput)
    (inStep : machine.Along InStep (start stored) inputs) :
    ∀ before after, inputs = before ++ after →
      (machine.final (start stored) before).NothingLost := by
  rintro before after rfl
  have along := ((machine.along_append InStep _ before after).mp inStep).1
  refine (machine.invariant InStep (fun _ state _ => RowsFit state.rows ∧ state.NothingLost)
    ⟨stored.fits, start_nothingLost stored⟩ ?_ before along).2
  rintro _ current _ input ⟨fits, kept⟩ inStep
  exact ⟨rowsFit_step fits input, nothingLost_step fits kept inStep⟩

def noRows : StoredInventory where
  rows := ∅
  fits := by
    intro slot inv found
    cases found

def offlineGrant : List SyncInput :=
  [.grant 5 10 [] true, .playerJoined, .deliverJoinedToSimCore, .deliverJoinedToMetaDB, .deliverLoad]

theorem offline_grant_is_loaded : (machine.final (start noRows) offlineGrant).NothingLost ∧
      (machine.final (start noRows) offlineGrant).getSlots.amount 5 = 10 := by
  refine ⟨nothing_lost_in_step noRows offlineGrant ?_ offlineGrant [] rfl, by decide +kernel⟩
  refine ⟨?_, trivial, ?_, ?_, trivial, trivial⟩
  · intro _ _ _ _
    exact ⟨fun _ => rfl, fun req mem => nomatch mem⟩
  · intro _ noJoin
    cases noJoin
  intro _
  rw [if_neg (by decide +kernel)]
  intro item _
  rfl

def onlineGrant : List SyncInput :=
  [.playerJoined, .deliverJoinedToMetaDB, .deliverJoinedToSimCore, .grant 5 10 [] true,
    .giveItem 1 1 (-1)] ++ replicate kInventorySlots .deliverSave

theorem online_grant_is_overwritten : ¬ (machine.final (start noRows) onlineGrant).NothingLost ∧
      (machine.final (start noRows) onlineGrant).saves.length = 0 ∧
      (machine.final (start noRows) onlineGrant).loads.length = 0 ∧
      (machine.final (start noRows) onlineGrant).joinedMetaDB = 0 ∧
      amountOf 5 (machine.final (start noRows) onlineGrant).rows = 0 ∧
      (machine.final (start noRows) onlineGrant).getSlots.amount 5 = 0 ∧
      (machine.final (start noRows) onlineGrant).owed 5 = 10 := by
  have quiet : (machine.final (start noRows) onlineGrant).saves.length = 0 ∧
      (machine.final (start noRows) onlineGrant).loads.length = 0 ∧
      (machine.final (start noRows) onlineGrant).joinedMetaDB = 0 ∧
      amountOf 5 (machine.final (start noRows) onlineGrant).rows = 0 ∧
      (machine.final (start noRows) onlineGrant).getSlots.amount 5 = 0 ∧
      (machine.final (start noRows) onlineGrant).owed 5 = 10 := by
    decide +kernel
  refine ⟨?_, quiet⟩
  intro kept
  have owed := kept.metaDB 5 (by decide)
  rw [savedRows, eq_nil_of_length_eq_zero quiet.1, quiet.2.2.2.2.2] at owed
  have stored : (amountOf 5 (machine.final (start noRows) onlineGrant).rows : Int) = 10 := owed
  rw [quiet.2.2.2.1] at stored
  cases stored

end System

end GtnhPlatform.InventorySync
