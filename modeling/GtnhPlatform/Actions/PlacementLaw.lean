import GtnhPlatform.Actions.PlaceBlock
import GtnhPlatform.InventorySync.NoLostUpdate

namespace GtnhPlatform.Actions

open PlacementServer List

open Inventory (PersistSlot)
open InventorySync (PlayerSlots PlayerInventoryStore slotAmount)

def isPlaced (playerId : Nat) (item : UInt16) : PlacementEvent → Bool
  | .onBlockPlaced placement =>
    placement.playerId = playerId && placement.placedBlock = item && placement.mode ≠ CREATIVE
  | _ => false

def takenBy (playerId : Nat) (item : UInt16) : PlacementEvent → Nat
  | .charged charged before after =>
    if charged = playerId then before.amount item - after.amount item else 0
  | _ => 0

def placed (playerId : Nat) (item : UInt16) (events : List PlacementEvent) : Nat :=
  events.countP (isPlaced playerId item)

def removed (playerId : Nat) (item : UInt16) (events : List PlacementEvent) : Nat :=
  (events.map (takenBy playerId item)).sum

theorem placed_append (playerId : Nat) (item : UInt16) (first second : List PlacementEvent) :
    placed playerId item (first ++ second) = placed playerId item first + placed playerId item second :=
  countP_append

theorem removed_append (playerId : Nat) (item : UInt16) (first second : List PlacementEvent) :
    removed playerId item (first ++ second) =
      removed playerId item first + removed playerId item second := by
  unfold removed
  rw [map_append, sum_append]

def AtHand (item : UInt16) (slots : PlayerSlots) : Prop :=
  ∃ slot ∈ slots.slots, slot.itemId = item ∧ 0 < slot.count

instance (item : UInt16) (slots : PlayerSlots) : Decidable (AtHand item slots) :=
  inferInstanceAs (Decidable (∃ _ ∈ _, _))

theorem slotAmount_taken {slot : PersistSlot} (item : UInt16)
    (found : slot.itemId = placedBlock ∧ 0 < slot.count) :
    slotAmount item slot = slotAmount item (if slot.count - 1 = 0 then PersistSlot.empty
          else { slot with count := slot.count - 1 }) +
        if item = placedBlock then 1 else 0 := by
  obtain ⟨sameItem, positive⟩ := found
  have atLeast : 1 ≤ slot.count.toNat := by
    have bound := UInt8.lt_iff_toNat_lt.mp positive
    exact bound
  have decremented : (slot.count - 1).toNat = slot.count.toNat - 1 := by
    have oneLe : (1 : UInt8) ≤ slot.count := UInt8.le_iff_toNat_le.mpr atLeast
    rw [UInt8.toNat_sub_of_le _ _ oneLe]
    rfl
  unfold slotAmount
  by_cases last : slot.count - 1 = 0
  · have single : slot.count.toNat = 1 := by
      have zero : (slot.count - 1).toNat = 0 := by rw [last]; rfl
      omega
    rw [if_pos last]
    by_cases same : item = placedBlock
    · subst same
      simp [sameItem, single, PersistSlot.empty]
    have other : slot.itemId ≠ item := by
      rw [sameItem]
      exact Ne.symm same
    simp [other, same, PersistSlot.empty]
  · rw [if_neg last]
    rw [decremented]
    by_cases same : item = placedBlock
    · rw [if_pos (sameItem.trans same.symm), if_pos (sameItem.trans same.symm), if_pos same]
      omega
    have other : slot.itemId ≠ item := by
      rw [sameItem]
      exact Ne.symm same
    rw [if_neg other, if_neg other, if_neg same]

theorem amount_takePlaced (placedBlock item : UInt16) (slots : List PersistSlot) :
    (slots.map (slotAmount item)).sum = ((takePlaced placedBlock slots).map (slotAmount item)).sum +
        if item = placedBlock ∧ ∃ slot ∈ slots, slot.itemId = placedBlock ∧ 0 < slot.count
          then 1 else 0 := by
  induction slots with
  | nil => simp [takePlaced]
  | cons slot rest ih =>
    unfold takePlaced
    by_cases found : slot.itemId = placedBlock ∧ 0 < slot.count
    · have there : ∃ other ∈ slot :: rest, other.itemId = placedBlock ∧ 0 < other.count :=
        ⟨slot, mem_cons_self, found⟩
      rw [if_pos found, map_cons, map_cons, sum_cons, sum_cons, slotAmount_taken item found]
      simp only [there, and_true]
      omega
    · rw [if_neg found, map_cons, map_cons, sum_cons, sum_cons, ih, Nat.add_assoc]
      simp [found]

theorem amount_chargeSlots (placedBlock item : UInt16) (slots : PlayerSlots) :
    slots.amount item = (chargeSlots placedBlock slots).amount item +
      if item = placedBlock ∧ AtHand placedBlock slots then 1 else 0 :=
  amount_takePlaced placedBlock item slots.slots

def PlacementServer.ItemAtHand (server : PlacementServer) : PlacementInput → Prop
  | .processResult index =>
    ∀ placement result, server.results[index]? = some (placement, result) →
      result.status = 0 → placement.mode ≠ CREATIVE →
        AtHand placement.placedBlock (server.inventoryStore.getSlots placement.playerId)
  | _ => True

theorem charge_of_not_creative (placement : Placement) (paying : placement.mode ≠ CREATIVE) :
    placement.charge = true := by
  have may := placement.mayPlace
  unfold CanPlaceBlocksOnServer at may
  have survival : placement.mode = SURVIVAL := by simpa [paying] using may
  unfold Placement.charge
  rw [survival]
  decide

theorem charge_of_creative (placement : Placement) (free : placement.mode = CREATIVE) :
    placement.charge = false := by
  unfold Placement.charge
  rw [free]
  decide

variable (transforms : Option BlockTransforms) (server : PlacementServer)

variable {placement : Placement}

theorem onCommitted_free (free : placement.mode = CREATIVE) : (server.onCommitted placement).2 =
      [.blockChanged placement.pos placement.final placement.requestId placement.playerId,
        .onBlockPlaced placement] := by
  unfold onCommitted
  rw [if_neg (by simp [charge_of_creative placement free])]

theorem onCommitted_paying (paying : placement.mode ≠ CREATIVE) : (server.onCommitted placement).2 =
      [.charged placement.playerId (server.inventoryStore.getSlots placement.playerId)
          (chargeSlots placement.placedBlock (server.inventoryStore.getSlots placement.playerId)),
        .blockChanged placement.pos placement.final placement.requestId placement.playerId,
        .onBlockPlaced placement] := by
  unfold onCommitted
  rw [if_pos (by simp [charge_of_not_creative placement paying, placement.holds])]

theorem placed_onCommitted (placement : Placement) (playerId : Nat) (item : UInt16) :
    placed playerId item (server.onCommitted placement).2 =
      removed playerId item (server.onCommitted placement).2 +
        if (placement.playerId = playerId ∧ placement.placedBlock = item) ∧
            placement.mode ≠ CREATIVE ∧ ¬ AtHand placement.placedBlock
              (server.inventoryStore.getSlots placement.playerId) then 1 else 0 := by
  by_cases free : placement.mode = CREATIVE
  · rw [onCommitted_free server free]
    simp [placed, removed, isPlaced, takenBy, free]
  have amount := amount_chargeSlots placement.placedBlock item
    (server.inventoryStore.getSlots placement.playerId)
  rw [onCommitted_paying server free]
  by_cases own : placement.playerId = playerId
  · subst own
    by_cases same : placement.placedBlock = item
    · subst same
      by_cases there : AtHand placement.placedBlock
          (server.inventoryStore.getSlots placement.playerId)
      · rw [if_pos ⟨rfl, there⟩] at amount
        simp [placed, removed, isPlaced, takenBy, free, there, amount]
      · rw [if_neg (fun both => there both.2)] at amount
        simp [placed, removed, isPlaced, takenBy, free, there, amount]
    · rw [if_neg (fun both => same both.1.symm)] at amount
      simp [placed, removed, isPlaced, takenBy, same, amount]
  · simp [placed, removed, isPlaced, takenBy, own]

theorem placed_silent (silent : ∀ event ∈ events, ∃ status pos block requestId actionType,
      event = .blockAck status pos block requestId actionType) (playerId : Nat) (item : UInt16) :
    placed playerId item events = 0 ∧ removed playerId item events = 0 := by
  induction events with
  | nil => exact ⟨rfl, rfl⟩
  | cons event rest ih =>
    obtain ⟨status, pos, block, requestId, actionType, rfl⟩ := silent event mem_cons_self
    have later := ih fun other mem => silent other (mem_cons_of_mem _ mem)
    simpa [placed, removed, isPlaced, takenBy] using later

theorem step_cases (input : PlacementInput) :
    (∃ index placement result, input = .processResult index ∧
        server.results[index]? = some (placement, result) ∧ result.status = 0 ∧
        (server.step transforms input).2 = (server.onCommitted placement).2) ∨
      (server.ItemAtHand input ∧ ∀ event ∈ (server.step transforms input).2,
        ∃ status pos block requestId actionType,
          event = .blockAck status pos block requestId actionType) := by
  cases input with
  | placeBlock action connected =>
    refine Or.inr ⟨trivial, ?_⟩
    intro event mem
    unfold step placeBlock at mem
    dsimp only at mem
    split at mem
    · exact ⟨_, _, _, _, _, mem_singleton.mp mem⟩
    · exact absurd mem not_mem_nil
  | casBlock index =>
    refine Or.inr ⟨trivial, ?_⟩
    intro event mem
    unfold step at mem
    dsimp only at mem
    split at mem <;> exact absurd mem not_mem_nil
  | processResult index =>
    cases stored : server.results[index]? with
    | none =>
      refine Or.inr ⟨?_, ?_⟩
      · intro placement result found
        rw [stored] at found
        exact absurd found nofun
      intro event mem
      unfold step at mem
      simp only [stored] at mem
      exact absurd mem not_mem_nil
    | some entry =>
      obtain ⟨placement, result⟩ := entry
      by_cases committed : result.status = 0
      · refine Or.inl ⟨index, placement, result, rfl, stored, committed, ?_⟩
        unfold step
        simp only [stored]
        unfold processResult
        rw [if_pos committed]
        unfold onCommitted
        split <;> rfl
      · refine Or.inr ⟨?_, ?_⟩
        · intro other otherResult found ok
          rw [stored] at found
          cases found
          exact absurd ok committed
        · intro event mem
          unfold step at mem
          simp only [stored] at mem
          unfold processResult at mem
          rw [if_neg committed] at mem
          exact ⟨_, _, _, _, _, mem_singleton.mp mem⟩
  | setSlots playerId slots => exact Or.inr ⟨trivial, nofun⟩
  | setGameMode playerId mode => exact Or.inr ⟨trivial, nofun⟩
  | changeWorld pos block => exact Or.inr ⟨trivial, nofun⟩

variable {input : PlacementInput}

theorem paid_step {server : PlacementServer} (atHand : server.ItemAtHand input) (playerId : Nat)
    (item : UInt16) : placed playerId item (server.step transforms input).2 =
      removed playerId item (server.step transforms input).2 := by
  rcases step_cases transforms server input with
    ⟨index, placement, result, rfl, stored, committed, events⟩ | ⟨_, silent⟩
  · rw [events, placed_onCommitted, if_neg, Nat.add_zero]
    rintro ⟨-, paying, missing⟩
    exact missing (atHand placement result stored committed paying)
  · obtain ⟨none, nothing⟩ := placed_silent silent playerId item
    rw [none, nothing]

theorem unpaid_step {server : PlacementServer} (missing : ¬ server.ItemAtHand input) :
    ∃ playerId item, placed playerId item (server.step transforms input).2 =
      removed playerId item (server.step transforms input).2 + 1 := by
  rcases step_cases transforms server input with
    ⟨index, placement, result, rfl, stored, committed, events⟩ | ⟨atHand, _⟩
  · refine ⟨placement.playerId, placement.placedBlock, ?_⟩
    rw [events, placed_onCommitted, if_pos]
    refine ⟨⟨rfl, rfl⟩, ?_⟩
    by_contra fine
    apply missing
    intro other otherResult found _ paying
    rw [stored] at found
    cases found
    by_contra absent
    exact fine ⟨paying, absent⟩
  · exact absurd atHand missing

theorem paid_run (atHand : (machine transforms).Along PlacementServer.ItemAtHand start inputs)
    (playerId : Nat) (item : UInt16) :
    placed playerId item ((machine transforms).outputs start inputs) =
      removed playerId item ((machine transforms).outputs start inputs) := by
  refine (machine transforms).invariant PlacementServer.ItemAtHand
    (fun _ _ history => placed playerId item history = removed playerId item history)
    rfl ?_ inputs atHand
  intro _ current history input soFar now
  rw [placed_append, removed_append, soFar]
  exact congrArg _ (paid_step transforms now playerId item)

/-- No player who is not in creative mode has placed more of an item than was
taken from him, at any point of the run. -/
def NoFreeBlocks (start : PlacementServer) (inputs : List PlacementInput) : Prop :=
  ∀ before after, inputs = before ++ after → ∀ playerId item,
    placed playerId item ((PlacementServer.machine transforms).outputs start before) ≤
      removed playerId item ((PlacementServer.machine transforms).outputs start before)

theorem noFreeBlocks_iff (start : PlacementServer) (inputs : List PlacementInput) :
    NoFreeBlocks transforms start inputs ↔
      (PlacementServer.machine transforms).Along PlacementServer.ItemAtHand start inputs := by
  constructor
  · intro paid
    induction inputs using reverseRecOn with
    | nil => trivial
    | append_singleton inputs input ih =>
      have soFar := ih fun before after split =>
        paid before (after ++ [input]) (by rw [split, append_assoc])
      apply (Machine.along_concat _ _ _ _ _).mpr
      refine ⟨soFar, ?_⟩
      by_contra missing
      obtain ⟨playerId, item, short⟩ := unpaid_step transforms missing
      have balance := paid_run transforms soFar playerId item
      have bound := paid (inputs ++ [input]) [] (append_nil _).symm playerId item
      rw [Machine.outputs_concat, placed_append, removed_append] at bound
      change _ + placed playerId item (PlacementServer.step transforms _ input).2 ≤
        _ + removed playerId item (PlacementServer.step transforms _ input).2 at bound
      omega
  · intro atHand before after split playerId item
    rw [split, Machine.along_append] at atHand
    exact le_of_eq (paid_run transforms atHand.1 playerId item)

def lastBlock : PlacementServer where
  inventoryStore := ⟨AList.insert 1 ⟨⟨1, 1, 0⟩ :: replicate 39 PersistSlot.empty, by decide⟩ ∅⟩
  world := fun _ => some ⟨0, 0⟩

def rightClick (x : Int) : SetBlockAction := ⟨RIGHT_MOUSE_CLICK, ⟨x, 0, 0⟩, 1, 1, 0, 1, 1⟩

theorem last_block_placed_twice : ¬ NoFreeBlocks none lastBlock
      [.placeBlock (rightClick 0) true, .placeBlock (rightClick 1) true, .casBlock 0, .casBlock 0,
        .processResult 0, .processResult 0] := by
  intro paid
  exact absurd (paid _ [] (append_nil _).symm 1 1) (by decide)

end GtnhPlatform.Actions
