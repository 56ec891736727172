import GtnhPlatform.MetaDb.Inventory

namespace GtnhPlatform.MetaDb

open Table List

def playerRows (rows : SlotRows) : SlotRows := rows.filter fun slot _ => decide (slot ∈ slotNumbers)

def otherRows (rows : SlotRows) : SlotRows := rows.filter fun slot _ => !decide (slot ∈ slotNumbers)

/-- What a slot takes of an item. `stale` says for which blocks a row that holds none of
its block counts as free. -/
def slotCapacity (stale : Int → Bool) (target : Int) : Option InvSlot → Nat
  | none => 64
  | some inv =>
    if inv.blockID = 0 then 64
    else if inv.count = 0 then if stale inv.blockID then 64 else 0
    else if inv.blockID = target then (maxStackSize - inv.count).toNat
    else 0

def capacity (stale : Int → Bool) (target : Int) (rows : SlotRows) : Nat :=
  (slotNumbers.map fun slot => slotCapacity stale target (rows.lookup slot)).sum

variable {target : Int}

def ToppedUp (target : Int) (before after : Option InvSlot) : Prop :=
  after = before ∨ ∃ inv add, before = some inv ∧
    (inv.blockID = target ∧ 0 < inv.count ∧ inv.count < maxStackSize) ∧
    inv.count + (add : Nat) ≤ maxStackSize ∧
    after = some { inv with count := inv.count + (add : Nat) }

theorem mergeStacks_row (visit : List Int) (rows : SlotRows) (remaining : Nat) (slot : Int) :
    ToppedUp target (rows.lookup slot)
      ((mergeStacks target visit rows remaining).1.lookup slot) := by
  induction visit generalizing rows remaining with
  | nil => exact .inl rfl
  | cons first rest ih =>
    unfold mergeStacks
    split
    · exact .inl rfl
    cases found : rows.lookup first with
    | none => exact ih rows remaining
    | some inv =>
      simp only
      split
      · next partly =>
        generalize size : min (maxStackSize - inv.count).toNat remaining = add
        have later := ih
          (AList.insert first { inv with count := inv.count + add } rows)
          (remaining - add)
        have fits : inv.count + (add : Nat) ≤ maxStackSize := by omega
        by_cases same : slot = first
        · subst same
          rw [lookup_insert_self] at later
          rw [found]
          rcases later with kept | ⟨topped, more, here, again, within, after⟩
          · exact .inr ⟨inv, add, rfl, partly, fits, kept⟩
          cases here
          refine .inr ⟨inv, add + more, rfl, partly, ?_, ?_⟩
          · simp only at within
            omega
          · rw [after]
            rw [Int.natCast_add, Int.add_assoc]
        · rw [lookup_insert_of_ne _ _ same] at later
          exact later
      · exact ih rows remaining

theorem fillFreeSlots_row (slots : List Int) (rows : SlotRows) (remaining : Nat) (slot : Int)
    (distinct : slots.Nodup) :
    (fillFreeSlots target slots rows remaining).1.lookup slot = rows.lookup slot ∨
      freeSlot rows slot = true ∧ slot ∈ slots ∧ ∃ add : Nat, add ≤ 64 ∧
        (fillFreeSlots target slots rows remaining).1.lookup slot = some ⟨target, add⟩ := by
  induction slots generalizing rows remaining with
  | nil => exact .inl rfl
  | cons first rest ih =>
    obtain ⟨fresh, restDistinct⟩ := nodup_cons.mp distinct
    unfold fillFreeSlots
    split
    · exact .inl rfl
    split
    · next free =>
      have later := ih
        (AList.insert first ⟨target, (min remaining maxStackSize.toNat : Nat)⟩ rows)
        (remaining - min remaining maxStackSize.toNat) restDistinct
      by_cases same : slot = first
      · subst same
        rcases later with kept | ⟨-, mem, -⟩
        · rw [lookup_insert_self] at kept
          exact .inr ⟨free, mem_cons_self, _, Nat.min_le_right _ _, kept⟩
        · exact absurd mem fresh
      · rw [freeSlot, lookup_insert_of_ne _ _ same, ← freeSlot] at later
        exact later.imp_right fun placed =>
          ⟨placed.1, mem_cons_of_mem _ placed.2.1, placed.2.2⟩
    · exact (ih rows remaining restDistinct).imp_right fun placed =>
        ⟨placed.1, mem_cons_of_mem _ placed.2.1, placed.2.2⟩

structure Placed (item count : Nat) (rows result : SlotRows) : Prop where
  amount : amountOf item (playerRows result) = amountOf item (playerRows rows) + count
  outside : ∀ slot ∉ slotNumbers, result.lookup slot = rows.lookup slot
  limit : ∀ slot inv, result.lookup slot = some inv → rows.lookup slot ≠ some inv →
    inv.count ≤ maxStackSize
  others : ∀ slot (inv : InvSlot), inv.blockID ≠ item → inv.blockID ≠ 0 →
    (result.lookup slot = some inv ↔ rows.lookup slot = some inv)

structure GrantsExactly (order : List Int) (stale : Int → Bool) (rows : SlotRows)
    (item count : Nat) : Prop where
  places : ∀ result, grantItemToInventory order rows item count = some result →
    Placed item count rows result
  refuses : grantItemToInventory order rows item count = none ↔ capacity stale item rows < count

variable {item count : Nat} {rows : SlotRows} {order : List Int}

theorem grant_none_iff (named : item ≠ 0) (nonzero : count ≠ 0) :
    grantItemToInventory order rows item count = none ↔
      roomFor item rows + 64 * freeSlots rows slotNumbers < count := by
  obtain ⟨granted, refused⟩ := grantItemToInventory_spec order rows named nonzero
  unfold stacksNeeded at granted refused
  constructor
  · intro none
    by_contra enough
    obtain ⟨result, given, -⟩ := granted (by omega)
    rw [none] at given
    exact absurd given nofun
  · exact fun short => refused (by omega)

structure Written (item : Nat) (rows result : SlotRows) : Prop where
  row : ∀ slot, ToppedUp item (rows.lookup slot) (result.lookup slot) ∨
    freeSlot rows slot = true ∧ slot ∈ slotNumbers ∧
      ∃ add : Nat, add ≤ 64 ∧ result.lookup slot = some ⟨item, add⟩

variable {result : SlotRows}

theorem grant_written (named : item ≠ 0) (nonzero : count ≠ 0)
    (given : grantItemToInventory order rows item count = some result) :
    Written item rows result := by
  rw [grantItemToInventory, if_neg (not_or.mpr ⟨named, nonzero⟩)] at given
  simp only at given
  split at given
  · cases given
  cases given
  refine ⟨fun slot => ?_⟩
  have topped := @mergeStacks_row item (visitOrder order rows.keys) rows count slot
  rcases @fillFreeSlots_row item slotNumbers
    (mergeStacks item (visitOrder order rows.keys) rows count).1
    (mergeStacks item (visitOrder order rows.keys) rows count).2 slot slotNumbers_nodup with
    kept | ⟨free, inside, add, small, placed⟩
  · rw [kept]
    exact .inl topped
  refine .inr ⟨?_, inside, add, small, placed⟩
  rcases topped with same | ⟨inv, more, before, partly, -, after⟩
  · rw [freeSlot, ← same]
    exact free
  rw [freeSlot, after] at free
  have zero : inv.blockID = 0 := beq_iff_eq.mp free
  rw [partly.1] at zero
  exact absurd (Int.natCast_eq_zero.mp zero) named

theorem Written.limit (written : Written item rows result) (slot : Int) (inv : InvSlot)
    (after : result.lookup slot = some inv) (changed : rows.lookup slot ≠ some inv) :
    inv.count ≤ maxStackSize := by
  rcases written.row slot with (same | ⟨old, add, -, -, within, topped⟩) | ⟨-, -, add, small, placed⟩
  · exact absurd (same.symm.trans after) changed
  · cases topped.symm.trans after
    exact within
  · cases placed.symm.trans after
    exact Int.ofNat_le.mpr small

theorem Written.others (written : Written item rows result) (slot : Int) (inv : InvSlot)
    (foreign : inv.blockID ≠ item) (real : inv.blockID ≠ 0) :
    result.lookup slot = some inv ↔ rows.lookup slot = some inv := by
  rcases written.row slot with
    (same | ⟨old, add, before, partly, -, topped⟩) | ⟨free, -, add, -, placed⟩
  · rw [same]
  · rw [topped, before]
    refine iff_of_false (fun here => ?_) fun here => ?_
    · cases here
      exact foreign partly.1
    · cases here
      exact foreign partly.1
  · rw [placed]
    refine iff_of_false (fun here => ?_) fun here => ?_
    · cases here
      exact foreign rfl
    · rw [freeSlot, here] at free
      exact real (beq_iff_eq.mp free)

theorem lookup_otherRows (rows : SlotRows) (slot : Int) :
    (otherRows rows).lookup slot = if slot ∈ slotNumbers then none else rows.lookup slot := by
  rw [otherRows, lookup_filter]
  by_cases inside : slot ∈ slotNumbers
  · rw [if_pos inside]
    cases rows.lookup slot with
    | none => rfl
    | some inv => simp [inside]
  · rw [if_neg inside]
    cases rows.lookup slot with
    | none => rfl
    | some inv => simp [inside]

theorem lookup_playerRows (rows : SlotRows) (slot : Int) :
    (playerRows rows).lookup slot = if slot ∈ slotNumbers then rows.lookup slot else none := by
  rw [playerRows, lookup_filter]
  by_cases inside : slot ∈ slotNumbers
  · rw [if_pos inside]
    cases rows.lookup slot with
    | none => rfl
    | some inv => simp [inside]
  · rw [if_neg inside]
    cases rows.lookup slot with
    | none => rfl
    | some inv => simp [inside]

theorem roomFor_split (item : Int) (rows : SlotRows) :
    roomFor item (playerRows rows) + roomFor item (otherRows rows) = roomFor item rows :=
  total_filter (stackRoom item) (fun slot => decide (slot ∈ slotNumbers)) rows

theorem amountOf_split (item : Int) (rows : SlotRows) :
    amountOf item (playerRows rows) + amountOf item (otherRows rows) = amountOf item rows :=
  total_filter (amountIn item) (fun slot => decide (slot ∈ slotNumbers)) rows

variable {inv : InvSlot}

theorem stackRoom_pos (partly : inv.blockID = target ∧ 0 < inv.count ∧ inv.count < maxStackSize) :
    0 < stackRoom target inv := by
  rw [stackRoom, if_pos partly]
  omega

theorem Written.outside (written : Written item rows result)
    (noRoom : roomFor item (otherRows rows) = 0) (slot : Int) (outside : slot ∉ slotNumbers) :
    result.lookup slot = rows.lookup slot := by
  rcases written.row slot with
    (same | ⟨old, add, before, partly, -, -⟩) | ⟨-, inside, -⟩
  · exact same
  · have stored : (otherRows rows).lookup slot = some old := by
      rw [lookup_otherRows, if_neg outside, before]
    have total := total_erase (stackRoom item) (otherRows rows) slot
    have room := stackRoom_pos partly
    rw [stored, Option.map_some, Option.getD_some] at total
    unfold roomFor at noRoom
    omega
  · exact absurd inside outside

theorem grant_placed (named : item ≠ 0) (nonzero : count ≠ 0)
    (noRoom : roomFor item (otherRows rows) = 0)
    (given : grantItemToInventory order rows item count = some result) :
    Placed item count rows result := by
  have written := grant_written named nonzero given
  refine ⟨?_, written.outside noRoom, written.limit, written.others⟩
  obtain ⟨granted, refused⟩ := grantItemToInventory_spec order rows named nonzero
  have fits : stacksNeeded (roomFor item rows) count ≤ freeSlots rows slotNumbers := by
    by_contra short
    rw [refused short] at given
    exact absurd given nofun
  obtain ⟨_, same, grant⟩ := granted fits
  cases given.symm.trans same
  have kept : amountOf item (otherRows result) = amountOf item (otherRows rows) := by
    refine total_congr _ fun slot => ?_
    rw [lookup_otherRows, lookup_otherRows]
    split
    · rfl
    · next outside => exact written.outside noRoom slot outside
  have before := amountOf_split item rows
  have after := amountOf_split item result
  have amount := grant.amount
  omega

theorem roomAt_le_slotCapacity (stale : Int → Bool) (target : Int) (rows : SlotRows) (slot : Int)
    (real : target ≠ 0) : roomAt target rows slot + (if freeSlot rows slot then 64 else 0) ≤
      slotCapacity stale target (rows.lookup slot) := by
  unfold roomAt freeSlot
  cases found : rows.lookup slot with
  | none => exact Nat.le_refl _
  | some inv =>
    simp only [Option.map_some, Option.getD_some, Option.all_some, beq_iff_eq, slotCapacity,
      stackRoom]
    by_cases free : inv.blockID = 0
    · have foreign : ¬ (inv.blockID = target ∧ 0 < inv.count ∧ inv.count < maxStackSize) :=
        fun partly => real (partly.1.symm.trans free)
      rw [if_neg foreign, if_pos free, if_pos free]
    rw [if_neg free, if_neg free]
    split
    · next partly =>
      rw [if_neg (by omega), if_pos partly.1]
      exact Nat.le_refl _
    · exact Nat.zero_le _

theorem room_le_capacity (stale : Int → Bool) (rows : SlotRows) (real : target ≠ 0) :
    roomFor target (playerRows rows) + 64 * freeSlots rows slotNumbers ≤
      capacity stale target rows := by
  have covers : ∀ slot, ((playerRows rows).lookup slot).isSome → slot ∈ slotNumbers := by
    intro slot present
    rw [lookup_playerRows] at present
    by_contra outside
    rw [if_neg outside] at present
    exact absurd present nofun
  have room : roomFor target (playerRows rows) =
      (slotNumbers.map fun slot => roomAt target rows slot).sum := by
    rw [roomFor, total_eq_sum _ slotNumbers_nodup covers]
    congr 1
    refine map_congr_left fun slot inside => ?_
    rw [lookup_playerRows, if_pos inside, roomAt]
  rw [room, capacity]
  generalize slotNumbers = slots
  induction slots with
  | nil => exact Nat.le_refl _
  | cons slot rest ih =>
    have here := roomAt_le_slotCapacity stale target rows slot real
    rw [freeSlots_cons, map_cons, map_cons, sum_cons, sum_cons]
    split at here
    · next free =>
      rw [if_pos free]
      omega
    · next taken =>
      rw [if_neg taken]
      omega

variable {slot : Int}

theorem mergeStacks_first {rows : SlotRows} (found : rows.lookup slot = some inv)
    (partly : inv.blockID = target ∧ 0 < inv.count ∧ inv.count < maxStackSize)
    (some_ : remaining ≠ 0) :
    (mergeStacks target (slot :: rest) rows remaining).1.lookup slot ≠ some inv := by
  unfold mergeStacks
  rw [if_neg some_, found]
  simp only
  rw [if_pos partly]
  generalize size : min (maxStackSize - inv.count).toNat remaining = add
  have row := @mergeStacks_row target rest
    (AList.insert slot { inv with count := inv.count + add } rows) (remaining - add) slot
  rw [lookup_insert_self] at row
  rcases row with same | ⟨topped, more, here, -, -, after⟩
  · rw [same]
    intro kept
    have counts := congrArg InvSlot.count (Option.some.inj kept)
    simp only at counts
    omega
  · cases here
    rw [after]
    intro kept
    have counts := congrArg InvSlot.count (Option.some.inj kept)
    simp only at counts
    omega

theorem visitOrder_single {keys : List Int} (mem : slot ∈ keys) :
    visitOrder [slot] keys = slot :: keys.filter (· ∉ [slot]) := by
  have known : [slot].filter (· ∈ keys) = [slot] := by simp [mem]
  rw [visitOrder, known]
  rfl

theorem grant_outside (named : item ≠ 0) (nonzero : count ≠ 0) (outside : slot ∉ slotNumbers)
    (found : rows.lookup slot = some inv)
    (partly : inv.blockID = item ∧ 0 < inv.count ∧ inv.count < maxStackSize)
    (given : grantItemToInventory [slot] rows item count = some result) :
    result.lookup slot ≠ rows.lookup slot := by
  have mem : slot ∈ rows.keys := AList.lookup_isSome.mp (by rw [found]; rfl)
  rw [grantItemToInventory, if_neg (not_or.mpr ⟨named, nonzero⟩)] at given
  simp only at given
  split at given
  · cases given
  cases given
  have fills := fillFreeSlots_spec (Int.natCast_ne_zero.mpr named) slotNumbers_nodup
    (mergeStacks item (visitOrder [slot] rows.keys) rows count).1
    (mergeStacks item (visitOrder [slot] rows.keys) rows count).2
  rw [fills.outside slot outside, visitOrder_single mem, found]
  exact mergeStacks_first found partly nonzero

theorem grantItemToInventory_exact_iff (stale : Int → Bool) (rows : SlotRows) {item count : Nat}
    (named : item ≠ 0) (nonzero : count ≠ 0) :
    (∀ order, GrantsExactly order stale rows item count) ↔ (roomFor item (otherRows rows) = 0 ∧
          count ≤ roomFor item (playerRows rows) + 64 * freeSlots rows slotNumbers) ∨
        (roomFor item rows + 64 * freeSlots rows slotNumbers < count ∧
          capacity stale item rows < count) := by
  have split := roomFor_split item rows
  have within := room_le_capacity stale rows (Int.natCast_ne_zero.mpr named)
  constructor
  · intro exact_
    by_cases short : roomFor item rows + 64 * freeSlots rows slotNumbers < count
    · exact .inr ⟨short, (exact_ []).refuses.mp ((grant_none_iff named nonzero).mpr short)⟩
    have noRoom : roomFor item (otherRows rows) = 0 := by
      refine Table.total_eq_zero fun slot inv found => ?_
      rw [lookup_otherRows] at found
      split at found
      · exact absurd found nofun
      rename_i outside
      refine if_neg fun partly => ?_
      cases given : grantItemToInventory [slot] rows item count with
      | none => exact short ((grant_none_iff named nonzero).mp given)
      | some result =>
        exact grant_outside named nonzero outside found partly given
          (((exact_ [slot]).places result given).outside slot outside)
    exact .inl ⟨noRoom, by omega⟩
  · rintro (⟨noRoom, fits⟩ | ⟨short, full⟩) order
    · refine ⟨fun result given => grant_placed named nonzero noRoom given, ?_⟩
      rw [grant_none_iff named nonzero]
      exact iff_of_false (by omega) (by omega)
    have refused : grantItemToInventory order rows item count = none :=
      (grant_none_iff named nonzero).mpr short
    refine ⟨fun result given => ?_, iff_of_true refused full⟩
    rw [refused] at given
    exact absurd given nofun

theorem grantItemToInventory_exact_iff_empty :
    (5 : Nat) ≠ 0 ∧ (7 : Nat) ≠ 0 ∧ ((∀ order, GrantsExactly order (fun _ => false) ∅ 5 7) ↔
        (roomFor (5 : Nat) (otherRows ∅) = 0 ∧
            7 ≤ roomFor (5 : Nat) (playerRows ∅) + 64 * freeSlots ∅ slotNumbers) ∨
          (roomFor (5 : Nat) ∅ + 64 * freeSlots ∅ slotNumbers < 7 ∧
            capacity (fun _ => false) (5 : Nat) ∅ < 7)) :=
  ⟨by decide, by decide, grantItemToInventory_exact_iff (fun _ => false) ∅ (by decide) (by decide)⟩

def strayStack : SlotRows := AList.singleton 40 ⟨5, 10⟩

theorem grantItemToInventory_stray :
    ¬ ∀ order, GrantsExactly order (fun _ => false) strayStack 5 7 := by
  intro exact_
  have written : (grantItemToInventory [] strayStack 5 7).map (·.lookup 40) =
      some (some ⟨5, 17⟩) := by decide
  obtain ⟨result, given, after⟩ := Option.map_eq_some_iff.mp written
  have kept := ((exact_ []).places result given).outside 40 (by decide)
  rw [after] at kept
  exact absurd kept (by decide)

end GtnhPlatform.MetaDb
