import GtnhPlatform.InventorySync.Persistence

namespace GtnhPlatform.InventorySync

open Inventory (PersistSlot kInventorySlots)
open MetaDb PlayerInventoryStore List FlatTable

def handleSaves (db : MetaDB) (saves : List FlatTable) : MetaDB :=
  saves.foldl handleSetInventorySlotReq db

structure RoundTrips (held loaded : PlayerSlots) : Prop where
  same : ∀ index, loaded.get index = held.get index
  emptied : ∀ index, held.get index = PersistSlot.empty → loaded.get index = PersistSlot.empty

def storedSlot (slot : PersistSlot) : InvSlot := ⟨slot.itemId.toNat, slot.count.toNat⟩

def Saved (db : MetaDB) (held : PlayerSlots) (playerId : Nat) : Prop :=
  ∀ index : Fin kInventorySlots,
    (db.inventory playerId).lookup (index.val : Int) = some (storedSlot (held.get index))

variable (db : MetaDB)

theorem handleSetInventorySlotReq_create (playerId : Nat) (index : Fin kInventorySlots)
    (slot : PersistSlot) :
    handleSetInventorySlotReq db (CreateSetInventorySlotReq playerId index slot) =
      upsertSlot db playerId index.val slot.itemId.toNat slot.count.toNat := by
  unfold handleSetInventorySlotReq CreateSetInventorySlotReq
  rw [getField_build _ (by simp), getField_build _ (by simp),
    getField_build _ (by simp), getField_build _ (by simp)]
  rfl

theorem lookup_upsertSlot (playerID other : Nat) (slotNum blockID count slot : Int) :
    ((upsertSlot db playerID slotNum blockID count).inventory other).lookup slot =
      if other = playerID ∧ slot = slotNum then some ⟨blockID, count⟩
      else (db.inventory other).lookup slot := by
  unfold upsertSlot
  dsimp only
  by_cases own : other = playerID
  · subst own
    rw [Function.update_self, Table.lookup_insert_eq]
    simp
  · rw [Function.update_of_ne own]
    simp [own]

theorem lookup_handleSaves_other {playerId other : Nat} (differs : other ≠ playerId)
    (slots : PlayerSlots) (indices : List (Fin kInventorySlots)) (slot : Int) :
    ((handleSaves db (indices.map fun index =>
        CreateSetInventorySlotReq playerId index (slots.get index))).inventory other).lookup slot =
      (db.inventory other).lookup slot := by
  unfold handleSaves
  induction indices generalizing db with
  | nil => rfl
  | cons first rest ih =>
    rw [map_cons, foldl_cons, ih, handleSetInventorySlotReq_create,
      lookup_upsertSlot, if_neg (fun both => differs both.1)]

theorem lookup_handleSaves (playerId : Nat) (slots : PlayerSlots)
    (indices : List (Fin kInventorySlots)) (index : Fin kInventorySlots) :
    ((handleSaves db (indices.map fun index =>
        CreateSetInventorySlotReq playerId index (slots.get index))).inventory playerId).lookup
        (index.val : Int) =
      if index ∈ indices then some (storedSlot (slots.get index))
      else (db.inventory playerId).lookup (index.val : Int) := by
  unfold handleSaves
  induction indices generalizing db with
  | nil => rfl
  | cons first rest ih =>
    rw [map_cons, foldl_cons, ih, handleSetInventorySlotReq_create, lookup_upsertSlot]
    by_cases later : index ∈ rest
    · rw [if_pos later, if_pos (mem_cons_of_mem _ later)]
    rw [if_neg later]
    by_cases now : index = first
    · subst now
      simp [storedSlot]
    have elsewhere : (index.val : Int) ≠ first.val := by
      intro same
      exact now (Fin.ext (Int.ofNat.inj same))
    simp [now, later, elsewhere]

variable (store : PlayerInventoryStore)

theorem getSlots_setSlots (playerId other : Nat)
    (slots : PlayerSlots) : (store.setSlots playerId slots).1.getSlots other =
      if other = playerId then slots else store.getSlots other := by
  unfold getSlots setSlots
  rw [Table.lookup_insert_eq]
  split <;> rfl

theorem saved_setSlots (playerId : Nat) (slots : PlayerSlots) :
    Saved (handleSaves db (store.setSlots playerId slots).2)
      ((store.setSlots playerId slots).1.getSlots playerId) playerId := by
  intro index
  rw [getSlots_setSlots, if_pos rfl]
  unfold setSlots
  rw [lookup_handleSaves, if_pos (mem_finRange index)]

variable {playerId : Nat} {store : PlayerInventoryStore}

theorem Saved.setSlots {db : MetaDB} (saved : Saved db (store.getSlots playerId) playerId)
    (changed : Nat) (slots : PlayerSlots) : Saved (handleSaves db (store.setSlots changed slots).2)
      ((store.setSlots changed slots).1.getSlots playerId) playerId := by
  by_cases own : playerId = changed
  · subst own
    exact saved_setSlots db store playerId slots
  intro index
  rw [getSlots_setSlots, if_neg own]
  unfold PlayerInventoryStore.setSlots
  rw [lookup_handleSaves_other db own]
  exact saved index

theorem handleSaves_append (first second : List FlatTable) :
    handleSaves db (first ++ second) = handleSaves (handleSaves db first) second :=
  foldl_append

theorem Saved.run {db : MetaDB} (saved : Saved db (store.getSlots playerId) playerId)
    (changes : List (Nat × PlayerSlots)) : Saved (handleSaves db (saving.outputs store changes))
      ((saving.final store changes).getSlots playerId) playerId := by
  refine saving.invariant (fun _ _ => True)
    (fun _ store saves => Saved (handleSaves db saves) (store.getSlots playerId) playerId)
    saved ?_ changes (Machine.along_true _ _ _)
  intro _ current saves change soFar _
  rw [handleSaves_append]
  exact soFar.setSlots change.1 change.2

theorem saved_after (store : PlayerInventoryStore) (playerId : Nat) (slots : PlayerSlots)
    (before after : List (Nat × PlayerSlots)) :
    Saved (handleSaves db (saving.outputs store (before ++ (playerId, slots) :: after)))
      ((saving.final store (before ++ (playerId, slots) :: after)).getSlots playerId) playerId := by
  rw [Machine.outputs_append, Machine.final_append, handleSaves_append]
  show Saved (handleSaves _ (_ ++ _)) _ _
  rw [handleSaves_append]
  exact (saved_setSlots _ _ playerId slots).run after

variable (slots : List SlotData)

theorem length_placeSlots (allSlots : List PersistSlot) :
    (slots.foldl placeSlot allSlots).length = allSlots.length := by
  induction slots generalizing allSlots with
  | nil => rfl
  | cons first rest ih =>
    rw [foldl_cons, ih]
    unfold placeSlot
    split
    · exact length_set
    · rfl

theorem getElem?_placeSlot_of_ne (allSlots : List PersistSlot) (data : SlotData)
    (index : Fin kInventorySlots) (elsewhere : data.slot ≠ (index.val : Int)) :
    (placeSlot allSlots data)[index.val]? = allSlots[index.val]? := by
  unfold placeSlot
  split
  · apply getElem?_set_ne
    omega
  · rfl

theorem getElem?_placeSlots_of_notMem (allSlots : List PersistSlot) (index : Fin kInventorySlots)
    (elsewhere : ∀ data ∈ slots, data.slot ≠ (index.val : Int)) :
    (slots.foldl placeSlot allSlots)[index.val]? = allSlots[index.val]? := by
  induction slots generalizing allSlots with
  | nil => rfl
  | cons first rest ih =>
    rw [foldl_cons, ih _ fun data mem =>
      elsewhere data (mem_cons_of_mem _ mem)]
    exact getElem?_placeSlot_of_ne allSlots first index (elsewhere first mem_cons_self)

theorem getElem?_placeSlots (distinct : (slots.map SlotData.slot).Nodup)
    (allSlots : List PersistSlot) (size : allSlots.length = kInventorySlots)
    (index : Fin kInventorySlots) {data : SlotData} (mem : data ∈ slots)
    (here : data.slot = (index.val : Int)) : (slots.foldl placeSlot allSlots)[index.val]? =
      some ⟨data.blockID, data.count, data.metadata⟩ := by
  induction slots generalizing allSlots with
  | nil => exact absurd mem not_mem_nil
  | cons first rest ih =>
    obtain ⟨notLater, distinct⟩ := nodup_cons.mp distinct
    rw [foldl_cons]
    rcases mem_cons.mp mem with rfl | later
    · rw [getElem?_placeSlots_of_notMem]
      · have inside : 0 ≤ data.slot ∧ data.slot < 40 := by
          have bound := index.isLt
          unfold kInventorySlots at bound
          omega
        unfold placeSlot
        rw [if_pos inside, here, Int.toNat_natCast]
        apply getElem?_set_self
        rw [size]
        exact index.isLt
      · intro other otherMember same
        exact notLater (mem_map.mpr ⟨other, otherMember, same.trans here.symm⟩)
    · refine ih distinct _ ?_ later
      exact (length_placeSlots [first] allSlots).trans size

theorem getInventory_perm (playerID : Nat) :
    (getInventory db playerID).Perm ((db.inventory playerID).entries.map SlotData.ofRow) :=
  mergeSort_perm _ _

theorem getInventory_distinct (playerID : Nat) :
    ((getInventory db playerID).map SlotData.slot).Nodup := by
  rw [((getInventory_perm db playerID).map SlotData.slot).nodup_iff, map_map]
  exact (db.inventory playerID).nodupKeys

theorem mem_getInventory {db : MetaDB} (stored : (db.inventory playerID).lookup slot = some row) :
    SlotData.ofRow ⟨slot, row⟩ ∈ getInventory db playerID := by
  rw [(getInventory_perm db playerID).mem_iff]
  exact mem_map_of_mem (Table.mem_entries_iff.mpr stored)

theorem loaded_createInventorySlot (slot : PersistSlot) :
    (⟨UInt16.ofNat ((CreateInventorySlot slot).getField 0),
      UInt8.ofNat ((CreateInventorySlot slot).getField 1),
      UInt16.ofNat ((CreateInventorySlot slot).getField 2)⟩ : PersistSlot) = slot := by
  unfold CreateInventorySlot
  rw [getField_build _ (by simp), getField_build _ (by simp), getField_build _ (by simp)]
  simp

theorem slots_loadInventory (store : PlayerInventoryStore) (playerId : Nat)
    (slots : List PersistSlot) (size : slots.length = kInventorySlots) :
    ((store.loadInventory playerId (slots.map CreateInventorySlot)).getSlots playerId).slots =
      slots := by
  unfold loadInventory applyUpdate getSlots
  rw [Table.lookup_insert_self, map_map]
  have parsed : (slots.map ((fun slot : FlatTable =>
      (⟨UInt16.ofNat (slot.getField 0), UInt8.ofNat (slot.getField 1),
        UInt16.ofNat (slot.getField 2)⟩ : PersistSlot)) ∘ CreateInventorySlot)) = slots :=
    map_id'' loaded_createInventorySlot slots
  rw [Option.getD_some, parsed]
  show slots.take kInventorySlots ++ (store.getSlots playerId).slots.drop slots.length = slots
  have covered : (store.getSlots playerId).slots.length ≤ slots.length := by
    rw [size, (store.getSlots playerId).size]
  rw [take_of_length_le (le_of_eq size), drop_of_length_le covered, append_nil]

/-- A slot after it has been saved and loaded: its metadata is gone. -/
def withoutMetadata (slot : PersistSlot) : PersistSlot := { slot with metadata := 0 }

theorem ofRow_storedSlot (index : Fin kInventorySlots) (slot : PersistSlot) :
    SlotData.ofRow ⟨(index.val : Int), storedSlot slot⟩ =
      ⟨index.val, slot.itemId, slot.count, 0⟩ := by
  unfold SlotData.ofRow storedSlot
  have item : ((slot.itemId.toNat : Int) % 65536).toNat = slot.itemId.toNat := by
    have bound := slot.itemId.toNat_lt
    omega
  have count : ((slot.count.toNat : Int) % 256).toNat = slot.count.toNat := by
    have bound := slot.count.toNat_lt
    omega
  simp [item, count]

theorem get_rejoin {db : MetaDB} {held : PlayerSlots} (saved : Saved db held playerId)
    (restarted : PlayerInventoryStore) (index : Fin kInventorySlots) :
    ((rejoin db restarted playerId).getSlots playerId).get index =
      withoutMetadata (held.get index) := by
  have listed := mem_getInventory (saved index)
  rw [ofRow_storedSlot] at listed
  have present : (getInventory db playerId).isEmpty = false := by
    cases rows : getInventory db playerId with
    | nil =>
      rw [rows] at listed
      exact absurd listed not_mem_nil
    | cons first rest => rfl
  have placed := getElem?_placeSlots _ (getInventory_distinct db playerId)
    (replicate 40 PersistSlot.empty) length_replicate index listed rfl
  have size : ((getInventory db playerId).foldl placeSlot
      (replicate 40 PersistSlot.empty)).length = kInventorySlots :=
    (length_placeSlots _ _).trans length_replicate
  have loaded : ((rejoin db restarted playerId).getSlots playerId).slots =
      (getInventory db playerId).foldl placeSlot (replicate 40 PersistSlot.empty) := by
    unfold rejoin handlePlayerJoined
    simp only [present, Bool.false_eq_true, if_false]
    exact slots_loadInventory _ playerId _ size
  rw [← loaded] at placed
  unfold PlayerSlots.get
  apply Option.some.inj
  rw [get_eq_getElem, ← getElem?_eq_getElem]
  exact placed

theorem withoutMetadata_eq_iff (slot : PersistSlot) :
    withoutMetadata slot = slot ↔ slot.metadata = 0 := by
  cases slot
  simp [withoutMetadata, eq_comm]

theorem inventory_roundTrips_iff (db : MetaDB) (store restarted : PlayerInventoryStore)
    (playerId : Nat) (slots : PlayerSlots) (before after : List (Nat × PlayerSlots)) : RoundTrips
        ((saving.final store (before ++ (playerId, slots) :: after)).getSlots playerId)
        ((rejoin (handleSaves db (saving.outputs store (before ++ (playerId, slots) :: after)))
          restarted playerId).getSlots playerId) ↔ ∀ index, (((saving.final store
        (before ++ (playerId, slots) :: after)).getSlots playerId).get index).metadata = 0 := by
  have loaded := get_rejoin (saved_after db store playerId slots before after) restarted
  constructor
  · rintro ⟨same, -⟩ index
    apply (withoutMetadata_eq_iff _).mp
    rw [← loaded index]
    exact same index
  · intro plain
    refine ⟨fun index => ?_, fun index empty => ?_⟩
    · rw [loaded index]
      exact (withoutMetadata_eq_iff _).mpr (plain index)
    · rw [loaded index, empty]
      rfl

def chargedTool : PlayerSlots := ⟨⟨1, 1, 5⟩ :: replicate 39 PersistSlot.empty, by decide⟩

theorem tool_energy_is_lost :
    ¬ RoundTrips ((saving.final {} [(1, chargedTool)]).getSlots 1)
      ((rejoin (handleSaves ⟨fun _ => ∅, ∅⟩ (saving.outputs {} [(1, chargedTool)]))
        {} 1).getSlots 1) := by
  have saved := saved_after ⟨fun _ => ∅, ∅⟩ {} 1 chargedTool [] []
  intro trip
  let first : Fin kInventorySlots := ⟨0, by decide⟩
  have lost := (get_rejoin saved {} first).symm.trans (trip.same first)
  exact absurd lost (by decide)

end GtnhPlatform.InventorySync
