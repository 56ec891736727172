import GtnhPlatform.Data.Table
import Mathlib.Data.List.Dedup

namespace GtnhPlatform.MetaDb

open Option Table

structure InvSlot where
  blockID : Int
  count : Int
  deriving DecidableEq

abbrev SlotRows := Table Int InvSlot

def inventorySlotCount : Nat := 40

def maxStackSize : Int := 64

/-- The order in which a loop over the Go map meets its keys: some keys in an
order the runtime chooses, then those it did not name. -/
def visitOrder (order keys : List Int) : List Int :=
  (order.filter (· ∈ keys)).dedup ++ keys.filter (· ∉ order)

def mergeStacks (target : Int) : List Int → SlotRows → Nat → SlotRows × Nat
  | [], rows, remaining => (rows, remaining)
  | slot :: rest, rows, remaining =>
    if remaining = 0 then (rows, 0)
    else
      match rows.lookup slot with
      | none => mergeStacks target rest rows remaining
      | some inv =>
        if inv.blockID = target ∧ 0 < inv.count ∧ inv.count < maxStackSize then
          let add := min (maxStackSize - inv.count).toNat remaining
          mergeStacks target rest
            (AList.insert slot { inv with count := inv.count + add } rows) (remaining - add)
        else mergeStacks target rest rows remaining

def freeSlot (rows : SlotRows) (slot : Int) : Bool :=
  (rows.lookup slot).all fun inv => inv.blockID == 0

def fillFreeSlots (target : Int) : List Int → SlotRows → Nat → SlotRows × Nat
  | [], rows, remaining => (rows, remaining)
  | slot :: rest, rows, remaining =>
    if remaining = 0 then (rows, 0)
    else if freeSlot rows slot then
      let add := min remaining maxStackSize.toNat
      fillFreeSlots target rest (AList.insert slot ⟨target, add⟩ rows) (remaining - add)
    else fillFreeSlots target rest rows remaining

def slotNumbers : List Int := (List.range inventorySlotCount).map fun (slot : Nat) => (slot : Int)

/-- `none` is the error of a full inventory, whose transaction is rolled back. -/
def grantItemToInventory (order : List Int) (rows : SlotRows) (itemID count : Nat) :
    Option SlotRows :=
  if itemID = 0 ∨ count = 0 then some rows
  else
    let merged := mergeStacks itemID (visitOrder order rows.keys) rows count
    let filled := fillFreeSlots itemID slotNumbers merged.1 merged.2
    if 0 < filled.2 then none else some filled.1

def stackRoom (target : Int) (inv : InvSlot) : Nat :=
  if inv.blockID = target ∧ 0 < inv.count ∧ inv.count < maxStackSize then
    (maxStackSize - inv.count).toNat
  else 0

def roomFor (target : Int) (rows : SlotRows) : Nat := rows.total (stackRoom target)

def freeSlots (rows : SlotRows) (slots : List Int) : Nat := (slots.filter (freeSlot rows)).length

def stacksNeeded (room amount : Nat) : Nat := (amount - room + 63) / 64

theorem stacksNeeded_add (room first second : Nat) :
    stacksNeeded room (first + second) = stacksNeeded room first +
      stacksNeeded (room + 64 * stacksNeeded room first - first) second := by
  unfold stacksNeeded
  omega

def amountIn (target : Int) (inv : InvSlot) : Nat :=
  if inv.blockID = target then inv.count.toNat else 0

def amountOf (target : Int) (rows : SlotRows) : Nat := rows.total (amountIn target)

def roomAt (target : Int) (rows : SlotRows) (slot : Int) : Nat :=
  ((rows.lookup slot).map (stackRoom target)).getD 0

variable {target : Int} {inv : InvSlot}

theorem stackRoom_topUp {add : Nat}
    (partly : inv.blockID = target ∧ 0 < inv.count ∧ inv.count < maxStackSize)
    (fits : add ≤ (maxStackSize - inv.count).toNat) :
    stackRoom target { inv with count := inv.count + add } + add = stackRoom target inv := by
  obtain ⟨same, positive, small⟩ := partly
  simp only [stackRoom, same, true_and, maxStackSize] at *
  split_ifs <;> omega

theorem stackRoom_of_ne (distinct : inv.blockID ≠ other) :
    stackRoom other inv = 0 := if_neg fun partly => distinct partly.1

theorem amountIn_topUp (add : Nat) (same : inv.blockID = target) (positive : 0 < inv.count) :
    amountIn target { inv with count := inv.count + add } = amountIn target inv + add := by
  simp only [amountIn, same, if_true]
  omega

structure Merges (target : Int) (visit : List Int) (rows : SlotRows) (remaining : Nat)
    (result : SlotRows × Nat) : Prop where
  room : roomFor target result.1 + remaining = roomFor target rows + result.2
  amount : amountOf target result.1 + result.2 = amountOf target rows + remaining
  less : result.2 ≤ remaining
  done : result.2 = 0 ∨ ∀ slot ∈ visit, roomAt target result.1 slot = 0
  shrinks : ∀ slot, roomAt target result.1 slot ≤ roomAt target rows slot
  blocks : ∀ slot, (result.1.lookup slot).map (·.blockID) = (rows.lookup slot).map (·.blockID)
  otherRoom : ∀ other ≠ target, roomFor other result.1 = roomFor other rows
  otherAmount : ∀ other ≠ target, amountOf other result.1 = amountOf other rows

variable {rows : SlotRows} {result : SlotRows × Nat} {slot : Int} {rest : List Int}

theorem merges_of_skip {remaining : Nat} (full : roomAt target rows slot = 0)
    (merges : Merges target rest rows remaining result) :
    Merges target (slot :: rest) rows remaining result := by
  refine { merges with done := ?_ }
  rcases merges.done with none | later
  · exact Or.inl none
  right
  intro visited mem
  rcases List.mem_cons.mp mem with rfl | inRest
  · exact Nat.le_zero.mp (full ▸ merges.shrinks visited)
  · exact later visited inRest

variable {add remaining : Nat}

theorem merges_of_topUp (found : rows.lookup slot = some inv)
    (partly : inv.blockID = target ∧ 0 < inv.count ∧ inv.count < maxStackSize)
    (fits : add ≤ (maxStackSize - inv.count).toNat) (enough : add ≤ remaining)
    (merges : Merges target visit
      (AList.insert slot { inv with count := inv.count + add } rows) (remaining - add) result) :
    Merges target visit rows remaining result := by
  have topped := stackRoom_topUp partly fits
  have gained := amountIn_topUp add partly.1 partly.2.1
  have room := total_insert (stackRoom target) rows slot { inv with count := inv.count + add }
  have amount := total_insert (amountIn target) rows slot { inv with count := inv.count + add }
  simp only [found, map_some, getD_some] at room amount
  have roomNow := merges.room
  have amountNow := merges.amount
  have left := merges.less
  simp only [roomFor, amountOf] at roomNow amountNow
  refine ⟨?_, ?_, ?_, merges.done, ?_, ?_, ?_, ?_⟩
  · simp only [roomFor]
    omega
  · simp only [amountOf]
    omega
  · omega
  · intro visited
    refine (merges.shrinks visited).trans ?_
    simp only [roomAt, lookup_insert_eq]
    split
    · next same =>
      subst same
      rw [found]
      simp only [map_some, getD_some]
      omega
    · exact le_rfl
  · intro visited
    rw [merges.blocks visited, lookup_insert_eq]
    split
    · next same =>
      rw [same, found]
      rfl
    · rfl
  · intro other distinct
    have apart : inv.blockID ≠ other := by
      rw [partly.1]
      exact distinct.symm
    have apartTopped : ({ inv with count := inv.count + add } : InvSlot).blockID ≠ other := apart
    have kept := total_insert (stackRoom other) rows slot
      { inv with count := inv.count + add }
    simp only [found, map_some, getD_some, stackRoom_of_ne apart,
      stackRoom_of_ne apartTopped, Nat.add_zero] at kept
    rw [merges.otherRoom other distinct]
    exact kept
  · intro other distinct
    have apart : inv.blockID ≠ other := by
      rw [partly.1]
      exact distinct.symm
    have kept := total_insert (amountIn other) rows slot
      { inv with count := inv.count + add }
    simp only [found, map_some, getD_some, amountIn, if_neg apart, Nat.add_zero] at kept
    rw [merges.otherAmount other distinct]
    exact kept

theorem mergeStacks_spec (visit : List Int) (rows : SlotRows) (remaining : Nat) :
    Merges target visit rows remaining (mergeStacks target visit rows remaining) := by
  induction visit generalizing rows remaining with
  | nil =>
    exact ⟨rfl, rfl, le_rfl, Or.inr (by simp), fun _ => le_rfl, fun _ => rfl,
      fun _ _ => rfl, fun _ _ => rfl⟩
  | cons slot rest ih =>
    unfold mergeStacks
    by_cases none : remaining = 0
    · subst none
      exact ⟨rfl, rfl, le_rfl, Or.inl rfl, fun _ => le_rfl, fun _ => rfl, fun _ _ => rfl,
        fun _ _ => rfl⟩
    rw [if_neg none]
    cases found : rows.lookup slot with
    | none =>
      exact merges_of_skip (by simp [roomAt, found]) (ih rows remaining)
    | some inv =>
      dsimp only
      by_cases partly : inv.blockID = target ∧ 0 < inv.count ∧ inv.count < maxStackSize
      · rw [if_pos partly]
        generalize size : min (maxStackSize - inv.count).toNat remaining = add
        have fits : add ≤ (maxStackSize - inv.count).toNat := size ▸ Nat.min_le_left _ _
        have enough : add ≤ remaining := size ▸ Nat.min_le_right _ _
        have later := ih
          (AList.insert slot { inv with count := inv.count + add } rows) (remaining - add)
        refine merges_of_topUp found partly fits enough ?_
        by_cases all : add = remaining
        · have finished := later.less
          exact { later with done := Or.inl (by omega) }
        -- something is left, so the stack is full now
        refine merges_of_skip ?_ later
        have topped := stackRoom_topUp partly fits
        have room : stackRoom target inv = (maxStackSize - inv.count).toNat := if_pos partly
        simp only [roomAt, lookup_insert_self, map_some, getD_some]
        omega
      · rw [if_neg partly]
        refine merges_of_skip ?_ (ih rows remaining)
        simp only [roomAt, found, map_some, getD_some]
        exact if_neg partly

theorem mem_visitOrder (mem : key ∈ keys) : key ∈ visitOrder order keys := by
  rw [visitOrder, List.mem_append, List.mem_dedup, List.mem_filter, List.mem_filter]
  by_cases named : key ∈ order
  · exact Or.inl ⟨named, decide_eq_true mem⟩
  · exact Or.inr ⟨mem, decide_eq_true named⟩

theorem mergeStacks_left (order : List Int) (rows : SlotRows) (remaining : Nat) :
    (mergeStacks target (visitOrder order rows.keys) rows remaining).2 =
        remaining - roomFor target rows ∧
      roomFor target (mergeStacks target (visitOrder order rows.keys) rows remaining).1 =
        roomFor target rows - remaining := by
  have merges : Merges target _ rows remaining _ :=
    mergeStacks_spec (visitOrder order rows.keys) rows remaining
  have room := merges.room
  rcases merges.done with none | full
  · omega
  have empty : roomFor target
      (mergeStacks target (visitOrder order rows.keys) rows remaining).1 = 0 := by
    apply total_eq_zero
    intro slot inv found
    have known : (rows.lookup slot).isSome := by
      rw [← isSome_map, ← merges.blocks slot, found]
      rfl
    have visited := full slot (mem_visitOrder (AList.lookup_isSome.mp known))
    rwa [roomAt, found] at visited
  omega

structure Fills (target : Int) (slots : List Int) (rows : SlotRows) (remaining : Nat)
    (result : SlotRows × Nat) : Prop where
  left : result.2 = remaining - 64 * freeSlots rows slots
  free : freeSlots result.1 slots = freeSlots rows slots - (remaining + 63) / 64
  room : result.2 = 0 →
    roomFor target result.1 + remaining = roomFor target rows + 64 * ((remaining + 63) / 64)
  amount : amountOf target result.1 + result.2 = amountOf target rows + remaining
  outside : ∀ slot ∉ slots, result.1.lookup slot = rows.lookup slot
  otherRoom : ∀ other ≠ target, other ≠ 0 → roomFor other result.1 = roomFor other rows
  otherAmount : ∀ other ≠ target, other ≠ 0 → amountOf other result.1 = amountOf other rows

theorem freeSlots_cons (rows : SlotRows) (slot : Int) (rest : List Int) :
    freeSlots rows (slot :: rest) =
      (if freeSlot rows slot then 1 else 0) + freeSlots rows rest := by
  unfold freeSlots
  by_cases free : freeSlot rows slot = true
  · rw [List.filter_cons_of_pos free, List.length_cons, if_pos free, Nat.add_comm]
  · rw [List.filter_cons_of_neg free, if_neg free, Nat.zero_add]

variable {slots : List Int}

theorem freeSlots_congr {rows other : SlotRows}
    (same : ∀ slot ∈ slots, other.lookup slot = rows.lookup slot) :
    freeSlots other slots = freeSlots rows slots := by
  unfold freeSlots
  congr 1
  apply List.filter_congr
  intro slot mem
  rw [freeSlot, same slot mem, freeSlot]

theorem freeSlots_of_blocks {rows other : SlotRows}
    (same : ∀ slot, (other.lookup slot).map (·.blockID) = (rows.lookup slot).map (·.blockID))
    (slots : List Int) : freeSlots other slots = freeSlots rows slots := by
  have byBlock : ∀ (table : SlotRows) slot, freeSlot table slot =
      ((table.lookup slot).map (·.blockID)).all (· == 0) := by
    intro table slot
    rw [freeSlot, all_map]
  unfold freeSlots
  congr 1
  apply List.filter_congr
  intro slot _
  rw [byBlock, byBlock, same slot]

theorem freeSlot_holds_nothing {slot other : Int} (free : freeSlot rows slot) (item : other ≠ 0) :
    ((rows.lookup slot).map (stackRoom other)).getD 0 = 0 ∧
      ((rows.lookup slot).map (amountIn other)).getD 0 = 0 := by
  cases found : rows.lookup slot with
  | none => exact ⟨rfl, rfl⟩
  | some inv =>
    have blank : inv.blockID = 0 := by
      rw [freeSlot, found] at free
      exact beq_iff_eq.mp free
    have apart : inv.blockID ≠ other := by
      rw [blank]
      exact item.symm
    simp [stackRoom, amountIn, apart]

theorem stackRoom_placed {add : Nat} (positive : 0 < add) (small : add ≤ 64) :
    stackRoom target ⟨target, add⟩ + add = 64 := by
  simp only [stackRoom, true_and, maxStackSize]
  split_ifs <;> omega

theorem fills_of_place (item : target ≠ 0) (fresh : slot ∉ rest) (free : freeSlot rows slot = true)
    (size : add = min remaining 64) (some : 0 < remaining)
    (fills : Fills target rest (AList.insert slot ⟨target, add⟩ rows) (remaining - add) result) :
    Fills target (slot :: rest) rows remaining result := by
  have placed : stackRoom target ⟨target, add⟩ + add = 64 := stackRoom_placed (by omega) (by omega)
  have room := total_insert (stackRoom target) rows slot ⟨target, add⟩
  have amount := total_insert (amountIn target) rows slot ⟨target, add⟩
  obtain ⟨noRoom, nothing⟩ := freeSlot_holds_nothing free item
  rw [noRoom] at room
  rw [nothing] at amount
  have held : amountIn target ⟨target, add⟩ = add := by
    simp [amountIn]
  have others : freeSlots (AList.insert slot ⟨target, add⟩ rows) rest = freeSlots rows rest := by
    apply freeSlots_congr
    intro other mem
    refine lookup_insert_of_ne _ _ ?_
    rintro rfl
    exact fresh mem
  have before := freeSlots_cons rows slot rest
  rw [if_pos free] at before
  have taken : freeSlot result.1 slot = false := by
    rw [freeSlot, fills.outside slot fresh, lookup_insert_self]
    exact beq_eq_false_iff_ne.mpr item
  have after := freeSlots_cons result.1 slot rest
  rw [taken, if_neg Bool.false_ne_true] at after
  have left := fills.left
  have freeNow := fills.free
  have amountNow := fills.amount
  rw [others] at left freeNow
  refine ⟨by omega, by omega, ?_, ?_, ?_, ?_, ?_⟩
  · intro none
    have roomNow := fills.room none
    simp only [roomFor] at roomNow ⊢
    omega
  · simp only [amountOf] at amountNow ⊢
    omega
  · intro other absent
    rw [fills.outside other (List.not_mem_of_not_mem_cons absent)]
    exact lookup_insert_of_ne _ _ (List.ne_of_not_mem_cons absent)
  · intro other distinct nonzero
    have kept := total_insert (stackRoom other) rows slot ⟨target, add⟩
    rw [(freeSlot_holds_nothing free nonzero).1, stackRoom_of_ne distinct.symm] at kept
    rw [fills.otherRoom other distinct nonzero]
    exact kept
  · intro other distinct nonzero
    have kept := total_insert (amountIn other) rows slot ⟨target, add⟩
    have nothingHeld : amountIn other ⟨target, add⟩ = 0 := if_neg distinct.symm
    rw [(freeSlot_holds_nothing free nonzero).2, nothingHeld] at kept
    rw [fills.otherAmount other distinct nonzero]
    exact kept

theorem fillFreeSlots_spec (item : target ≠ 0) (distinct : slots.Nodup) (rows : SlotRows)
    (remaining : Nat) :
    Fills target slots rows remaining (fillFreeSlots target slots rows remaining) := by
  induction slots generalizing rows remaining with
  | nil =>
    refine ⟨by simp [fillFreeSlots, freeSlots], by simp [fillFreeSlots, freeSlots], ?_, rfl,
      fun _ _ => rfl, fun _ _ _ => rfl, fun _ _ _ => rfl⟩
    intro none
    have empty : remaining = 0 := none
    subst empty
    rfl
  | cons slot rest ih =>
    obtain ⟨fresh, restDistinct⟩ := List.nodup_cons.mp distinct
    unfold fillFreeSlots
    by_cases none : remaining = 0
    · subst none
      exact ⟨by simp, by simp, fun _ => rfl, rfl, fun _ _ => rfl, fun _ _ _ => rfl,
        fun _ _ _ => rfl⟩
    rw [if_neg none]
    by_cases free : freeSlot rows slot = true
    · rw [if_pos free]
      generalize size : min remaining maxStackSize.toNat = add
      have small : add = min remaining 64 := size.symm
      have later := ih restDistinct (AList.insert slot ⟨target, add⟩ rows)
        (remaining - add)
      generalize fillFreeSlots target rest (AList.insert slot ⟨target, add⟩ rows)
        (remaining - add) = result at later
      exact fills_of_place item fresh free small (Nat.pos_of_ne_zero none) later
    · rw [if_neg free]
      have later := ih restDistinct rows remaining
      have notFree := freeSlots_cons rows slot rest
      rw [if_neg free, Nat.zero_add] at notFree
      have still : freeSlots (fillFreeSlots target rest rows remaining).1 (slot :: rest) =
          freeSlots (fillFreeSlots target rest rows remaining).1 rest := by
        rw [freeSlots_cons, freeSlot, later.outside slot fresh, ← freeSlot, if_neg free,
          Nat.zero_add]
      refine { later with left := ?_, free := ?_, outside := ?_ }
      · rw [notFree]
        exact later.left
      · rw [notFree, still]
        exact later.free
      · intro other absent
        exact later.outside other (List.not_mem_of_not_mem_cons absent)

theorem slotNumbers_nodup : slotNumbers.Nodup := List.nodup_range.map fun _ _ => Int.ofNat.inj

structure Granted (item count : Nat) (rows result : SlotRows) : Prop where
  room : roomFor item result + count =
    roomFor item rows + 64 * stacksNeeded (roomFor item rows) count
  free : freeSlots result slotNumbers + stacksNeeded (roomFor item rows) count =
    freeSlots rows slotNumbers
  amount : amountOf item result = amountOf item rows + count
  otherRoom : ∀ other : Int, other ≠ item → other ≠ 0 → roomFor other result = roomFor other rows
  otherAmount : ∀ other : Int, other ≠ item → other ≠ 0 →
    amountOf other result = amountOf other rows

theorem grantItemToInventory_spec (order : List Int) (rows : SlotRows) {item count : Nat}
    (named : item ≠ 0) (nonzero : count ≠ 0) :
    (stacksNeeded (roomFor item rows) count ≤ freeSlots rows slotNumbers →
        ∃ result, grantItemToInventory order rows item count = some result ∧
          Granted item count rows result) ∧
      (¬ stacksNeeded (roomFor item rows) count ≤ freeSlots rows slotNumbers →
        grantItemToInventory order rows item count = none) := by
  obtain ⟨left, leftRoom⟩ : _ = count - roomFor item rows ∧ _ := mergeStacks_left order rows count
  have merges : Merges item _ rows count _ := mergeStacks_spec (visitOrder order rows.keys) rows count
  rw [grantItemToInventory, if_neg (not_or.mpr ⟨named, nonzero⟩)]
  dsimp only
  generalize mergeStacks item (visitOrder order rows.keys) rows count = merged at left leftRoom merges
  have fills : Fills item slotNumbers merged.1 merged.2 _ :=
    fillFreeSlots_spec (Int.natCast_ne_zero.mpr named) slotNumbers_nodup merged.1 merged.2
  generalize fillFreeSlots item slotNumbers merged.1 merged.2 = filled at fills
  have sameFree : freeSlots merged.1 slotNumbers = freeSlots rows slotNumbers :=
    freeSlots_of_blocks merges.blocks slotNumbers
  have rest := fills.left
  have free := fills.free
  rw [sameFree] at rest free
  constructor
  · intro fits
    unfold stacksNeeded at fits
    have none : filled.2 = 0 := by omega
    rw [if_neg (by omega)]
    have room := fills.room none
    have amount := fills.amount
    have merged := merges.amount
    refine ⟨filled.1, rfl, ?_, ?_, ?_, ?_, ?_⟩
    · unfold stacksNeeded
      omega
    · unfold stacksNeeded
      omega
    · omega
    · intro other distinct nonzero
      rw [fills.otherRoom other distinct nonzero, merges.otherRoom other distinct]
    · intro other distinct nonzero
      rw [fills.otherAmount other distinct nonzero, merges.otherAmount other distinct]
  · intro full
    unfold stacksNeeded at full
    rw [if_pos (by omega)]

end GtnhPlatform.MetaDb
