import GtnhPlatform.PipeNetwork.ItemBalance
import GtnhPlatform.SimCore.ItemFlow

namespace GtnhPlatform.SimCore

open List ItemFlowHandler ItemMachine

open PipeNetwork (ItemSlot ItemTransferReq ItemTransferResp PipeNetworkService stacksAmount
  stacksAmount_append stacksAmount_singleton)
open PipeNetwork.PipeNetworkService (ItemNodeUpdate)
open Sim (MachineRegistry)
open World (InventorySlot)

def slotAmount (item : UInt16) (slot : InventorySlot) : Nat :=
  if slot.itemId = item then slot.count.toNat else 0

def ItemMachine.held (item : UInt16) (machine : ItemMachine) : Nat :=
  (machine.slots.map (slotAmount item)).sum

def flowAmount (item : UInt16) (flow : ItemFlowEvent) : Nat :=
  if flow.itemId = item then flow.count.toUInt8.toNat else 0

def requestAmount (item : UInt16) (request : ItemTransferReq) : Nat :=
  if request.itemId = item then request.count.toUInt8.toNat else 0

def responseAmount (item : UInt16) (response : UInt16 × ItemTransferResp) : Nat :=
  if response.1 = item then response.2.remaining.toNat else 0

namespace ItemWorld

variable (state : ItemWorld)

def inMachines (item : UInt16) : Nat :=
  (state.machines.map (ItemMachine.held item)).sum

def inUpdates (item : UInt16) : Nat :=
  (state.updates.map fun update => stacksAmount item update.items).sum

def inRequests (item : UInt16) : Nat :=
  (state.requests.map (requestAmount item)).sum

def inResponses (item : UInt16) : Nat :=
  (state.responses.map (responseAmount item)).sum

def inFlows (item : UInt16) : Nat := (state.flows.map (flowAmount item)).sum

def total (item : UInt16) : Nat :=
  state.inMachines item + state.pipes.networkManager.held item + state.inUpdates item +
    state.inRequests item + state.inResponses item + state.inFlows item

end ItemWorld

theorem sum_map_eraseIdx {list : List α}
    (present : list[index]? = some element) (weight : α → Nat) :
    weight element + ((list.eraseIdx index).map weight).sum = (list.map weight).sum := by
  obtain ⟨bound, rfl⟩ := List.getElem?_eq_some_iff.mp present
  rw [← sum_cons, ← map_cons]
  apply List.Perm.sum_eq
  apply List.Perm.map
  exact getElem_cons_eraseIdx_perm bound

variable {itemId : UInt16}

theorem same_amount_iff {first second : Nat} : (∀ item, item ≠ 0 →
        (if itemId = item then first else 0) = if itemId = item then second else 0) ↔
      itemId = 0 ∨ first = second := by
  constructor
  · intro every
    by_cases zero : itemId = 0
    · exact .inl zero
    · have same := every itemId zero
      rw [if_pos rfl, if_pos rfl] at same
      exact .inr same
  · rintro (rfl | rfl) item real
    · rw [if_neg real.symm, if_neg real.symm]
    · rfl

theorem no_amount_iff {count : Nat} :
    (∀ item, item ≠ 0 → (if itemId = item then count else 0) = 0) ↔ itemId = 0 ∨ count = 0 := by
  rw [← same_amount_iff]
  simp only [ite_self]

theorem no_stacks_iff {slots : List ItemSlot} : (∀ item, item ≠ 0 → stacksAmount item slots = 0) ↔
      ∀ slot ∈ slots, UInt16.ofNat slot.itemId = 0 ∨ slot.count % 2 ^ 8 = 0 := by
  constructor
  · intro none slot mem
    apply no_amount_iff.mp
    intro item real
    have zero := List.sum_eq_zero_iff_forall_eq_nat.mp (none item real)
    exact zero _ (mem_map_of_mem mem)
  · intro empty item real
    apply sum_eq_zero
    intro amount mem
    obtain ⟨slot, listed, rfl⟩ := mem_map.mp mem
    exact no_amount_iff.mpr (empty slot listed) item real

variable {slots : List InventorySlot} {choose : InventorySlot → Bool}

theorem changeFirst_eq_none {change : InventorySlot → InventorySlot}
    (absent : (slots.take limit).find? choose = none) :
    changeFirst choose change limit slots = none := by
  induction limit generalizing slots with
  | zero => rfl
  | succ limit ih =>
    cases slots with
    | nil => rfl
    | cons slot rest =>
      rw [take_succ_cons, find?_cons] at absent
      cases chosen : choose slot with
      | true =>
        rw [chosen] at absent
        exact nomatch absent
      | false =>
        rw [chosen] at absent
        rw [changeFirst, if_neg (Bool.not_eq_true _ ▸ chosen), ih absent]
        rfl

variable {slot : InventorySlot}

theorem changeFirst_eq_some (change : InventorySlot → InventorySlot)
    (found : (slots.take limit).find? choose = some slot) (weight : InventorySlot → Nat) :
    ∃ changed, changeFirst choose change limit slots = some changed ∧
      (changed.map weight).sum + weight slot = (slots.map weight).sum + weight (change slot) := by
  induction limit generalizing slots with
  | zero => exact nomatch found
  | succ limit ih =>
    cases slots with
    | nil => exact nomatch found
    | cons head rest =>
      rw [take_succ_cons, find?_cons] at found
      cases chosen : choose head with
      | true =>
        rw [chosen] at found
        obtain rfl := Option.some.inj found
        refine ⟨change head :: rest, ?_, ?_⟩
        · rw [changeFirst, if_pos chosen]
        · rw [map_cons, map_cons, sum_cons, sum_cons]
          omega
      | false =>
        rw [chosen] at found
        obtain ⟨changed, step, balance⟩ := ih found
        refine ⟨head :: changed, ?_, ?_⟩
        · rw [changeFirst, if_neg (Bool.not_eq_true _ ▸ chosen), step]
          rfl
        · rw [map_cons, map_cons, sum_cons, sum_cons]
          omega

def roomFor (itemId : UInt16) (count : UInt8) (slots : List InventorySlot) : Nat :=
  match slots.find? isEmptySlot, slots.find? (canMerge itemId) with
  | some _, _ => count.toNat
  | none, some slot => min count.toNat (64 - slot.count.toNat)
  | none, none => 0

variable {count : UInt8}

theorem roomFor_eq_iff (positive : count.toNat ≠ 0) : roomFor itemId count slots = count.toNat ↔
      (∃ slot ∈ slots, slot.itemId = 0) ∨ ∃ slot, slots.find? (canMerge itemId) = some slot ∧
          slot.count.toNat + count.toNat ≤ 64 := by
  have empty_iff : (∃ slot ∈ slots, slot.itemId = 0) ↔ (slots.find? isEmptySlot).isSome := by
    rw [find?_isSome]
    simp only [isEmptySlot, beq_iff_eq]
  rw [empty_iff, roomFor]
  cases slots.find? isEmptySlot with
  | some slot => exact iff_of_true rfl (.inl rfl)
  | none =>
    cases mergeable : slots.find? (canMerge itemId) with
    | none =>
      apply iff_of_false positive.symm
      rintro (found | ⟨slot, found, _⟩)
      · exact nomatch found
      · exact nomatch found
    | some slot =>
      have met := find?_some mergeable
      rw [canMerge, Bool.and_eq_true, decide_eq_true_eq] at met
      dsimp only
      constructor
      · intro all
        refine .inr ⟨slot, rfl, ?_⟩
        omega
      rintro (found | ⟨other, same, fits⟩)
      · exact nomatch found
      · cases same
        omega

theorem count_mergeInto (room : slot.count < 64) : (mergeInto count slot).count.toNat =
      slot.count.toNat + min count.toNat (64 - slot.count.toNat) := by
  have below : slot.count.toNat < 64 := UInt8.lt_iff_toNat_lt.mp room
  have space : (64 - slot.count).toNat = 64 - slot.count.toNat :=
    UInt8.toNat_sub_of_le _ _ (UInt8.le_iff_toNat_le.mpr below.le)
  rw [mergeInto]
  rw [UInt8.toNat_add]
  split
  · next fits =>
    rw [UInt8.lt_iff_toNat_lt, space] at fits
    omega
  rename_i full
  rw [UInt8.lt_iff_toNat_lt, space] at full
  rw [space]
  omega

theorem deliverToSlots_balance (real : item ≠ 0) (itemId : UInt16) (count : UInt8) (limit : Nat)
    (slots : List InventorySlot) :
    (((deliverToSlots itemId count limit slots).getD slots).map (slotAmount item)).sum =
      (slots.map (slotAmount item)).sum +
        if itemId = item then roomFor itemId count (slots.take limit) else 0 := by
  rw [deliverToSlots, roomFor]
  cases free : (slots.take limit).find? isEmptySlot with
  | some slot =>
    obtain ⟨changed, step, balance⟩ := changeFirst_eq_some
      (fun _ => ⟨itemId, count, 0⟩) free (slotAmount item)
    have nothing : slotAmount item slot = 0 := by
      have empty : isEmptySlot slot = true := find?_some free
      rw [slotAmount, eq_of_beq empty]
      exact if_neg real.symm
    rw [step]
    dsimp only [Option.getD_some]
    rw [nothing] at balance
    exact balance
  | none =>
    rw [changeFirst_eq_none free]
    cases mergeable : (slots.take limit).find? (canMerge itemId) with
    | none =>
      rw [changeFirst_eq_none mergeable]
      dsimp only [Option.getD_none]
      rw [ite_self]
      rfl
    | some slot =>
      obtain ⟨changed, step, balance⟩ := changeFirst_eq_some
        (mergeInto count) mergeable (slotAmount item)
      have met := find?_some mergeable
      rw [canMerge, Bool.and_eq_true, beq_iff_eq, decide_eq_true_eq] at met
      obtain ⟨rfl, room⟩ := met
      rw [step]
      dsimp only [Option.getD_some]
      rw [slotAmount, slotAmount, count_mergeInto room] at balance
      change _ + _ = _ + (if slot.itemId = item then _ else 0) at balance
      split at balance
      · next same =>
        rw [if_pos same]
        omega
      · next other =>
        rw [if_neg other]
        exact balance

namespace ItemFlowHandler

variable (registry : MachineRegistry) (flow : ItemFlowEvent) {item : UInt16}

def accepted (machine : ItemMachine) : Nat :=
  if machine.faceAllowsInput = false ∨ machine.inputSlots registry ≤ 0 then 0
  else
    roomFor flow.itemId flow.count.toUInt8
      (machine.slots.take (machine.inputSlots registry).toNat)

theorem deliver_balance (real : item ≠ 0) (machine : ItemMachine) :
    ((deliver registry machine flow).getD machine).held item =
      machine.held item + if flow.itemId = item then accepted registry flow machine else 0 := by
  rw [deliver, accepted]
  split
  · rw [ite_self]
    rfl
  have balance := deliverToSlots_balance real flow.itemId flow.count.toUInt8
    (machine.inputSlots registry).toNat machine.slots
  cases delivered : deliverToSlots flow.itemId flow.count.toUInt8
      (machine.inputSlots registry).toNat machine.slots with
  | none =>
    rw [delivered] at balance
    exact balance
  | some changed =>
    rw [delivered] at balance
    exact balance

def target (machines : List ItemMachine) : Option ItemMachine :=
  machines.find? fun machine => decide (machine.position = flow.position)

theorem deliverAt_balance (real : item ≠ 0) (machines : List ItemMachine) :
    (((deliverAt registry flow machines).getD machines).map (held item)).sum =
      (machines.map (held item)).sum +
        if flow.itemId = item then ((target flow machines).map (accepted registry flow)).getD 0
        else 0 := by
  induction machines with
  | nil => simp [deliverAt, target]
  | cons machine rest ih =>
    rw [deliverAt, target, find?_cons]
    by_cases here : machine.position = flow.position
    · have balance := deliver_balance registry flow real machine
      rw [if_pos here, decide_eq_true here]
      dsimp only [Option.map_some, Option.getD_some]
      cases delivered : deliver registry machine flow with
      | none =>
        rw [delivered] at balance
        dsimp only [Option.map_none, Option.getD_none] at balance ⊢
        rw [map_cons, sum_cons]
        omega
      | some changed =>
        rw [delivered] at balance
        dsimp only [Option.map_some, Option.getD_some] at balance ⊢
        rw [map_cons, sum_cons, map_cons, sum_cons]
        omega
    · rw [if_neg here, decide_eq_false here]
      rw [target] at ih
      cases delivered : deliverAt registry flow rest with
      | none =>
        rw [delivered] at ih
        dsimp only [Option.map_none, Option.getD_none] at ih ⊢
        rw [map_cons, sum_cons]
        omega
      | some changed =>
        rw [delivered] at ih
        dsimp only [Option.map_some, Option.getD_some] at ih ⊢
        rw [map_cons, sum_cons, map_cons, sum_cons]
        omega

def received (machines : List ItemMachine) : Nat :=
  if flow.fromNodeId = 0 ∨ flow.count ≤ 0 then 0
  else ((target flow machines).map (accepted registry flow)).getD 0

theorem handle_balance (real : item ≠ 0) (machines : List ItemMachine) :
    ((handle registry machines flow).1.map (held item)).sum = (machines.map (held item)).sum +
        if flow.itemId = item then received registry flow machines else 0 := by
  have balance := deliverAt_balance registry flow real machines
  rw [handle, received]
  by_cases refused : flow.fromNodeId = 0 ∨ flow.itemId = 0 ∨ flow.count ≤ 0
  · rw [if_pos refused]
    have nothing : (if flow.itemId = item then if flow.fromNodeId = 0 ∨ flow.count ≤ 0 then 0
        else ((target flow machines).map (accepted registry flow)).getD 0 else 0) = 0 := by
      split
      · next same =>
        apply if_pos
        have some : flow.itemId ≠ 0 := same ▸ real
        tauto
      · rfl
    rw [nothing]
    rfl
  · have taken : ¬(flow.fromNodeId = 0 ∨ flow.count ≤ 0) := by tauto
    rw [if_neg refused, if_neg taken]
    cases delivered : deliverAt registry flow machines with
    | none =>
      rw [delivered] at balance
      exact balance
    | some changed =>
      rw [delivered] at balance
      exact balance

theorem handle_updates (machines : List ItemMachine) :
    ((handle registry machines flow).2.map fun update => stacksAmount item update.items).sum =
      0 := by
  rw [handle]
  split
  · rfl
  · cases deliverAt registry flow machines <;> rfl

end ItemFlowHandler

structure ItemMachine.Fits (registry : MachineRegistry) (flow : ItemFlowEvent)
    (machine : ItemMachine) : Prop where
  face : machine.faceAllowsInput = true
  inputs : 0 < machine.inputSlots registry
  room : (∃ slot ∈ machine.slots.take (machine.inputSlots registry).toNat, slot.itemId = 0) ∨
    ∃ slot, (machine.slots.take (machine.inputSlots registry).toNat).find?
        (canMerge flow.itemId) = some slot ∧
      slot.count.toNat + flow.count.toUInt8.toNat ≤ 64

theorem ItemFlowHandler.accepted_eq_iff {flow : ItemFlowEvent}
    (positive : flow.count.toUInt8.toNat ≠ 0) {machine : ItemMachine} :
    accepted registry flow machine = flow.count.toUInt8.toNat ↔ machine.Fits registry flow := by
  rw [accepted]
  split
  · next closed =>
    apply iff_of_false positive.symm
    rintro ⟨face, inputs, -⟩
    rw [face] at closed
    exact closed.elim nofun inputs.not_ge
  · next opened =>
    rw [not_or, Bool.not_eq_false, Int.not_le] at opened
    rw [roomFor_eq_iff positive]
    exact ⟨fun room => ⟨opened.1, opened.2, room⟩, ItemMachine.Fits.room⟩

namespace ItemWorld

variable (registry : MachineRegistry)

def Answered (pipes : PipeNetworkService) (request : ItemTransferReq) : Prop :=
  match pipes.protocolToMgr.lookup request.nodeId with
  | none => 0 ≤ request.count
  | some nodeId => (pipes.networkManager.nodes.lookup nodeId).isSome ∨ request.count = 0

def Careful (state : ItemWorld) : ItemInput → Prop
  | .recipeCompleted index => ∀ machine, state.machines[index]? = some machine →
      machine.outputsOf registry = []
  | .itemNodeUpdate index => ∀ update, state.updates[index]? = some update →
      state.pipes.resolves update.nodeId = true ∨
        ∀ slot ∈ update.items, UInt16.ofNat slot.itemId = 0 ∨ slot.count % 2 ^ 8 = 0
  | .transferRequest index => ∀ request, state.requests[index]? = some request →
      request.itemId = 0 ∨ Answered state.pipes request
  | .transferResponse index => ∀ response, state.responses[index]? = some response →
      response.1 = 0 ∨ response.2.remaining ≤ 0
  | .tick => True
  | .itemFlow index => ∀ flow, state.flows[index]? = some flow → flow.itemId = 0 ∨ flow.count = 0 ∨
        flow.fromNodeId ≠ 0 ∧ 0 < flow.count ∧
          ∃ machine, ItemFlowHandler.target flow state.machines = some machine ∧
            machine.Fits registry flow

def SameItems (state next : ItemWorld) : Prop :=
  ∀ item, item ≠ 0 → next.total item = state.total item

theorem SameItems.refl (state : ItemWorld) : state.SameItems state := fun _ _ => rfl

variable {registry : MachineRegistry} {state : ItemWorld} {index : Nat}

theorem mem_outputItems {machine : ItemMachine} {slot : ItemSlot}
    (mem : slot ∈ machine.outputItems slotsIn) :
    ¬(UInt16.ofNat slot.itemId = 0 ∨ slot.count % 2 ^ 8 = 0) := by
  rw [outputItems] at mem
  split at mem
  · exact nomatch mem
  obtain ⟨source, listed, rfl⟩ := mem_map.mp mem
  have kept := (mem_filter.mp listed).2
  rw [Bool.and_eq_true, bne_iff_ne, decide_eq_true_eq] at kept
  rintro (item | count)
  · apply kept.1
    rw [← item]
    exact (UInt16.ofNat_toNat).symm
  have bound := source.count.toNat_lt
  have positive : 0 < source.count.toNat := UInt8.lt_iff_toNat_lt.mp kept.2
  dsimp only at count
  omega

theorem outputsOf_eq_nil_iff (machine : ItemMachine) :
    (∀ item, item ≠ 0 → stacksAmount item (machine.outputsOf registry) = 0) ↔
      machine.outputsOf registry = [] := by
  rw [no_stacks_iff]
  constructor
  · intro empty
    apply eq_nil_iff_forall_not_mem.mpr
    intro slot mem
    have none := empty slot mem
    rw [outputsOf] at mem
    split at mem
    · exact mem_outputItems mem none
    · exact mem_outputItems mem none
  · intro none slot mem
    rw [none] at mem
    exact nomatch mem

theorem pushed_amount (machine : ItemMachine) (item : UInt16) :
    ((machine.pushOutputToPipe registry).map fun update => stacksAmount item update.items).sum =
      stacksAmount item (machine.outputsOf registry) := by
  rw [pushOutputToPipe]
  split
  · next none =>
    rw [none]
    rfl
  · exact Nat.add_zero _

theorem recipeCompleted_sameItems_iff :
    state.SameItems (state.handle registry (.recipeCompleted index)) ↔
      state.Careful registry (.recipeCompleted index) := by
  rw [handle, Careful]
  cases present : state.machines[index]? with
  | none => exact iff_of_true (.refl state) (by rintro _ ⟨⟩)
  | some machine =>
    simp only [SameItems, total, inMachines, inUpdates, inRequests, inResponses, inFlows,
      map_append, sum_append, pushed_amount, Option.some.injEq, forall_eq']
    rw [← outputsOf_eq_nil_iff machine]
    apply forall₂_congr
    intro item real
    omega

theorem itemNodeUpdate_sameItems_iff :
    state.SameItems (state.handle registry (.itemNodeUpdate index)) ↔
      state.Careful registry (.itemNodeUpdate index) := by
  rw [handle, Careful]
  cases present : state.updates[index]? with
  | none => exact iff_of_true (.refl state) (by rintro _ ⟨⟩)
  | some update =>
    simp only [Option.some.injEq, forall_eq', ← no_stacks_iff]
    by_cases resolved : state.pipes.resolves update.nodeId = true
    · apply iff_of_true _ (.inl resolved)
      intro item real
      have moved := PipeNetworkService.handleItemNodeUpdate_balance real state.pipes update
      have taken := sum_map_eraseIdx present fun update => stacksAmount item update.items
      rw [if_pos resolved] at moved
      simp only [total, inMachines, inUpdates, inRequests, inResponses, inFlows]
      omega
    · rw [or_iff_right resolved]
      apply forall₂_congr
      intro item real
      have moved := PipeNetworkService.handleItemNodeUpdate_balance real state.pipes update
      have taken := sum_map_eraseIdx present fun update => stacksAmount item update.items
      rw [if_neg resolved] at moved
      simp only [total, inMachines, inUpdates, inRequests, inResponses, inFlows]
      omega

theorem amount_request (item : UInt16) (request : ItemTransferReq) :
    ItemSlot.amount item ⟨request.itemId.toNat, request.count.toUInt8.toNat⟩ =
      requestAmount item request := by
  have bound := request.count.toUInt8.toNat_lt
  rw [ItemSlot.amount, requestAmount]
  rw [UInt16.ofNat_toNat, Nat.mod_eq_of_lt bound]

variable {pipes : PipeNetworkService} {request : ItemTransferReq}

theorem answer_unknown (unknown : pipes.protocolToMgr.lookup request.nodeId = none) :
    (pipes.handleItemTransferRequest request).2 = ⟨0, request.count.toInt⟩ := by
  rw [PipeNetworkService.handleItemTransferRequest, unknown]

theorem answer_known (known : pipes.protocolToMgr.lookup request.nodeId = some nodeId)
    (item : UInt16) :
    responseAmount item (request.itemId, (pipes.handleItemTransferRequest request).2) = 0 := by
  rw [PipeNetworkService.handleItemTransferRequest, known]
  exact ite_self _

theorem transferRequest_sameItems_iff :
    state.SameItems (state.handle registry (.transferRequest index)) ↔
      state.Careful registry (.transferRequest index) := by
  rw [handle, Careful]
  cases present : state.requests[index]? with
  | none => exact iff_of_true (.refl state) (by rintro _ ⟨⟩)
  | some request =>
    simp only [Option.some.injEq, forall_eq', Answered]
    cases known : state.pipes.protocolToMgr.lookup request.nodeId with
    | none =>
      rw [← toNat_toInt_eq_iff, ← same_amount_iff]
      apply forall₂_congr
      intro item real
      have moved := PipeNetworkService.handleItemTransferRequest_balance item state.pipes
        request
      have taken := sum_map_eraseIdx present (requestAmount item)
      rw [known, Option.any_none, if_neg Bool.false_ne_true] at moved
      rw [requestAmount] at taken
      simp only [total, inMachines, inUpdates, inRequests, inResponses, inFlows,
        map_append, sum_append, map_singleton, sum_singleton]
      rw [answer_unknown known, responseAmount]
      dsimp only
      omega
    | some nodeId =>
      dsimp only
      by_cases stored : (state.pipes.networkManager.nodes.lookup nodeId).isSome = true
      · apply iff_of_true _ (.inr (.inl stored))
        intro item real
        have moved := PipeNetworkService.handleItemTransferRequest_balance item state.pipes
          request
        have taken := sum_map_eraseIdx present (requestAmount item)
        rw [known, Option.any_some, if_pos stored, amount_request] at moved
        simp only [total, inMachines, inUpdates, inRequests, inResponses, inFlows,
          map_append, sum_append, map_singleton, sum_singleton]
        rw [answer_known known]
        omega
      · rw [or_iff_right stored, ← toNat_toUInt8_eq_zero, ← no_amount_iff]
        apply forall₂_congr
        intro item real
        have moved := PipeNetworkService.handleItemTransferRequest_balance item state.pipes
          request
        have taken := sum_map_eraseIdx present (requestAmount item)
        rw [known, Option.any_some, if_neg stored] at moved
        rw [requestAmount] at taken
        simp only [total, inMachines, inUpdates, inRequests, inResponses, inFlows,
          map_append, sum_append, map_singleton, sum_singleton]
        rw [answer_known known]
        omega

theorem transferResponse_sameItems_iff :
    state.SameItems (state.handle registry (.transferResponse index)) ↔
      state.Careful registry (.transferResponse index) := by
  rw [handle, Careful]
  cases present : state.responses[index]? with
  | none =>
    have unchanged : state.responses.eraseIdx index = state.responses :=
      eraseIdx_of_length_le (getElem?_eq_none_iff.mp present)
    rw [unchanged]
    exact iff_of_true (.refl state) (by rintro _ ⟨⟩)
  | some response =>
    simp only [Option.some.injEq, forall_eq', ← Int.toNat_eq_zero, ← no_amount_iff]
    apply forall₂_congr
    intro item real
    have taken := sum_map_eraseIdx present (responseAmount item)
    simp only [total, inMachines, inUpdates, inRequests, inResponses, inFlows]
    rw [responseAmount] at taken
    omega

theorem flowOf_amount (item : UInt16) (events : List PipeNetwork.ConsumedItemEvent) :
    ((events.map flowOf).map (flowAmount item)).sum = PipeNetwork.consumedAmount item events := by
  rw [PipeNetwork.consumedAmount, stacksAmount, map_map, map_map]
  rfl

theorem tick_sameItems : state.SameItems (state.handle registry .tick) := by
  intro item real
  have moved := PipeNetwork.PipeNetworkManager.tickItemNetworks_balance item
    state.pipes.networkManager
  rw [handle]
  simp only [total, inMachines, inUpdates, inRequests, inResponses, inFlows, map_append,
    sum_append, flowOf_amount]
  omega

theorem received_eq_iff {flow : ItemFlowEvent} {machines : List ItemMachine} :
    received registry flow machines = flow.count.toUInt8.toNat ↔ flow.count = 0 ∨
        flow.fromNodeId ≠ 0 ∧ 0 < flow.count ∧ ∃ machine, target flow machines = some machine ∧
            machine.Fits registry flow := by
  by_cases zero : flow.count = 0
  · apply iff_of_true _ (.inl zero)
    rw [received, zero]
    exact if_pos (.inr (Int8.le_refl 0))
  rw [or_iff_right zero, received]
  have positive : flow.count.toUInt8.toNat ≠ 0 := mt toNat_toUInt8_eq_zero.mp zero
  by_cases refused : flow.fromNodeId = 0 ∨ flow.count ≤ 0
  · rw [if_pos refused]
    apply iff_of_false positive.symm
    rintro ⟨source, more, -⟩
    exact refused.elim source (Int8.not_le.mpr more)
  · rw [if_neg refused]
    rw [not_or, Int8.not_le] at refused
    cases target flow machines with
    | none =>
      apply iff_of_false positive.symm
      rintro ⟨-, -, machine, found, -⟩
      exact nomatch found
    | some machine =>
      rw [Option.map_some, Option.getD_some, accepted_eq_iff positive]
      constructor
      · intro fits
        exact ⟨refused.1, refused.2, machine, rfl, fits⟩
      · rintro ⟨-, -, other, same, fits⟩
        cases same
        exact fits

theorem itemFlow_sameItems_iff : state.SameItems (state.handle registry (.itemFlow index)) ↔
      state.Careful registry (.itemFlow index) := by
  rw [handle, Careful]
  cases present : state.flows[index]? with
  | none => exact iff_of_true (.refl state) (by rintro _ ⟨⟩)
  | some flow =>
    simp only [Option.some.injEq, forall_eq', ← received_eq_iff]
    rw [← same_amount_iff]
    apply forall₂_congr
    intro item real
    have moved := handle_balance registry flow real
      state.machines
    have taken := sum_map_eraseIdx present (flowAmount item)
    rw [flowAmount] at taken
    simp only [total, inMachines, inUpdates, inRequests, inResponses, inFlows, map_append,
      sum_append, handle_updates]
    omega

theorem handle_sameItems_iff (state : ItemWorld) (input : ItemInput) :
    state.SameItems (state.handle registry input) ↔ state.Careful registry input := by
  cases input with
  | recipeCompleted machine => exact recipeCompleted_sameItems_iff
  | itemNodeUpdate index => exact itemNodeUpdate_sameItems_iff
  | transferRequest index => exact transferRequest_sameItems_iff
  | transferResponse index => exact transferResponse_sameItems_iff
  | tick => exact iff_of_true tick_sameItems trivial
  | itemFlow index => exact itemFlow_sameItems_iff

variable (registry)

theorem sameItems_always_iff (start : ItemWorld) (inputs : List ItemInput) :
    (∀ before after, inputs = before ++ after →
        start.SameItems ((machine registry).final start before)) ↔
      (machine registry).Along (Careful registry) start inputs := by
  apply Machine.always_iff
  · intro current input same
    rw [← handle_sameItems_iff]
    apply forall₂_congr
    intro item real
    rw [same item real]
    exact Iff.rfl
  · exact .refl start

def pressRegistry : MachineRegistry :=
  AList.insert 7 ⟨"SimpleMachine", some .electricity, none, 1, 1, 1, 1000, 32, 0⟩ ∅

def pressWith (input output : InventorySlot) : ItemMachine where
  entity := 1
  position := ⟨0, 0, 0⟩
  machineId := 7
  sideConfig := fun _ => faceRoleNone
  slots := [input, output]

def madeWorld : ItemWorld where
  machines := [pressWith {} ⟨5, 3, 0⟩]
  pipes := .start 0

def crowdedWorld : ItemWorld where
  machines := [pressWith ⟨5, 60, 0⟩ {}]
  pipes := .start 0
  flows := [⟨1, 2, 5, 10, ⟨0, 0, 0⟩⟩]

theorem items_doubled_or_lost :
    ¬madeWorld.SameItems ((machine pressRegistry).final madeWorld [.recipeCompleted 0]) ∧
      ¬crowdedWorld.SameItems ((machine pressRegistry).final crowdedWorld [.itemFlow 0]) := by
  constructor
  · intro same
    have six : (3 : Nat) + 3 = 3 := same 5 (by decide)
    exact absurd six (by decide)
  · intro same
    have short : (64 : Nat) = 70 := same 5 (by decide)
    exact absurd short (by decide)

theorem roomFor_le (itemId : UInt16) (count : UInt8) (slots : List InventorySlot) :
    roomFor itemId count slots ≤ count.toNat := by
  unfold roomFor
  split
  · exact le_rfl
  · exact min_le_left _ _
  · exact Nat.zero_le _

theorem received_le (flow : ItemFlowEvent) (machines : List ItemMachine) :
    received registry flow machines ≤ flow.count.toUInt8.toNat := by
  unfold received
  split
  · exact Nat.zero_le _
  cases target flow machines with
  | none => exact Nat.zero_le _
  | some machine =>
    rw [Option.map_some, Option.getD_some, accepted]
    split
    · exact Nat.zero_le _
    · exact roomFor_le _ _ _

theorem remaining_le (item : UInt16) (request : ItemTransferReq) :
    responseAmount item (request.itemId, ⟨0, request.count.toInt⟩) ≤ requestAmount item request := by
  rw [responseAmount, requestAmount]
  split
  · by_cases nonneg : 0 ≤ request.count
    · exact (toNat_toInt_eq_iff.mpr nonneg).le
    · have negative : request.count.toInt < 0 := Int8.lt_iff_toInt_lt.mp (Int8.not_le.mp nonneg)
      exact (Int.toNat_eq_zero.mpr negative.le).trans_le (Nat.zero_le _)
  · exact le_rfl

/-- What an input has put on the way to the pipes. -/
def pushed (item : UInt16) (state : ItemWorld) : ItemInput → Nat
  | .recipeCompleted index => ((state.machines[index]?).map fun machine =>
      stacksAmount item (machine.outputsOf registry)).getD 0
  | _ => 0

def pushedIn (item : UInt16) : ItemWorld → List ItemInput → Nat
  | _, [] => 0
  | state, input :: rest =>
    state.pushed registry item input + pushedIn item (state.handle registry input) rest

theorem handle_total_le (real : item ≠ 0) (state : ItemWorld) (input : ItemInput) :
    (state.handle registry input).total item ≤ state.total item + state.pushed registry item input := by
  cases input with
  | recipeCompleted index =>
    rw [handle, pushed]
    cases state.machines[index]? with
    | none => exact Nat.le_add_right _ _
    | some machine =>
      simp only [total, inMachines, inUpdates, inRequests, inResponses, inFlows,
        map_append, sum_append, pushed_amount, Option.map_some, Option.getD_some]
      omega
  | itemNodeUpdate index =>
    rw [handle]
    cases present : state.updates[index]? with
    | none => exact Nat.le_add_right _ _
    | some update =>
      have moved := PipeNetworkService.handleItemNodeUpdate_balance real state.pipes update
      have taken := sum_map_eraseIdx present fun update => stacksAmount item update.items
      simp only [total, inMachines, inUpdates, inRequests, inResponses, inFlows]
      split at moved <;> omega
  | transferRequest index =>
    rw [handle]
    cases present : state.requests[index]? with
    | none => exact Nat.le_add_right _ _
    | some request =>
      have moved := PipeNetworkService.handleItemTransferRequest_balance item state.pipes request
      have taken := sum_map_eraseIdx present (requestAmount item)
      rw [amount_request] at moved
      simp only [total, inMachines, inUpdates, inRequests, inResponses, inFlows,
        map_append, sum_append, map_singleton, sum_singleton]
      cases known : state.pipes.protocolToMgr.lookup request.nodeId with
      | none =>
        have fewer := remaining_le item request
        rw [known, Option.any_none, if_neg Bool.false_ne_true] at moved
        rw [answer_unknown known]
        omega
      | some nodeId =>
        rw [answer_known known]
        split at moved <;> omega
  | transferResponse index =>
    rw [handle]
    cases present : state.responses[index]? with
    | none =>
      rw [eraseIdx_of_length_le (getElem?_eq_none_iff.mp present)]
      exact Nat.le_add_right _ _
    | some response =>
      have taken := sum_map_eraseIdx present (responseAmount item)
      simp only [total, inMachines, inUpdates, inRequests, inResponses, inFlows]
      omega
  | tick => exact (tick_sameItems item real).le
  | itemFlow index =>
    rw [handle]
    cases present : state.flows[index]? with
    | none => exact Nat.le_add_right _ _
    | some flow =>
      have moved := handle_balance registry flow real state.machines
      have taken := sum_map_eraseIdx present (flowAmount item)
      have fewer := received_le registry flow state.machines
      rw [flowAmount] at taken
      simp only [total, inMachines, inUpdates, inRequests, inResponses, inFlows, map_append,
        sum_append, handle_updates]
      split at moved <;> split at taken <;> omega

theorem total_le_pushed (real : item ≠ 0) (state : ItemWorld)
    (inputs : List ItemInput) : ((machine registry).final state inputs).total item ≤
      state.total item + pushedIn registry item state inputs := by
  induction inputs generalizing state with
  | nil => exact le_rfl
  | cons input rest ih =>
    have now := handle_total_le registry real state input
    have later := ih (state.handle registry input)
    rw [pushedIn]
    exact later.trans (by omega)

theorem press_total_le : ((machine pressRegistry).final madeWorld [.recipeCompleted 0]).total 5 ≤
    madeWorld.total 5 + pushedIn pressRegistry 5 madeWorld [.recipeCompleted 0] :=
  total_le_pushed pressRegistry (by decide) madeWorld _

end ItemWorld

end GtnhPlatform.SimCore
