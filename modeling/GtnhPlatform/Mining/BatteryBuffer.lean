import GtnhPlatform.Data.Word
import GtnhPlatform.Mining.DrillSystem

namespace GtnhPlatform.Mining

open List

open Sim (BatteryBufferComponent)
open World (InventorySlot)

/-! Battery buffers charge the tools in their slots and ask the pipe network for more. -/

structure ToolEnergyDef where
  capacity : Int
  maxInput : Int
  tier : UInt8
  deriving DecidableEq

def toolEnergyDefs : List (UInt16 × ToolEnergyDef) :=
  [(Actions.ITEM_DRILL_ULV, ⟨1000, 8, 0⟩), (Actions.ITEM_DRILL_LV, ⟨4000, 32, 1⟩),
    (Actions.ITEM_DRILL_MV, ⟨16000, 128, 2⟩), (Actions.ITEM_DRILL_HV, ⟨64000, 512, 3⟩),
    (60948, ⟨1000, 32, 0⟩), (60949, ⟨4000, 128, 1⟩), (60950, ⟨16000, 512, 2⟩)]

def getToolEnergy (slot : InventorySlot) : Int :=
  match toolEnergyDefs.lookup slot.itemId with
  | none => -1
  | some _ => slot.metadata.toNat

def setToolEnergy (slot : InventorySlot) (energy : Int) : InventorySlot :=
  match toolEnergyDefs.lookup slot.itemId with
  | none => slot
  | some tool => { slot with metadata := UInt16.ofInt (min (max energy 0) tool.capacity) }

def chargeSlot (buffer : BatteryBufferComponent) (slot : InventorySlot) :
    BatteryBufferComponent × InventorySlot :=
  match toolEnergyDefs.lookup slot.itemId with
  | none => (buffer, slot)
  | some tool =>
    let currentEnergy := getToolEnergy slot
    if tool.capacity ≤ currentEnergy then (buffer, slot)
    else
      let energyToTransfer :=
        min (min (min buffer.chargeRate buffer.stored) (tool.capacity - currentEnergy)) tool.maxInput
      if energyToTransfer ≤ 0 then (buffer, slot)
      else
        ({ buffer with stored := buffer.stored - energyToTransfer },
          setToolEnergy slot (currentEnergy + energyToTransfer))

def chargeSlots : Nat → BatteryBufferComponent → List InventorySlot →
    BatteryBufferComponent × List InventorySlot
  | count + 1, buffer, slot :: rest =>
    let charged := if slot.itemId ≠ 0 then chargeSlot buffer slot else (buffer, slot)
    let later := chargeSlots count charged.1 rest
    (later.1, charged.2 :: later.2)
  | _, buffer, slots => (buffer, slots)

/-- An entity of the view, with its entry of `pendingRequests_`, which is under
the entity's id. -/
structure Battery where
  buffer : BatteryBufferComponent
  slots : List InventorySlot
  pending : Option Int := none
  deriving DecidableEq

namespace Battery

variable (battery : Battery)

def cap : Int := wrapI32 battery.buffer.capacity.toNat

def withStored (stored : Int) : Battery :=
  { battery with buffer := { battery.buffer with stored := stored } }

def clampStored : Battery :=
  if battery.buffer.stored < 0 then battery.withStored 0
  else if battery.cap < battery.buffer.stored then battery.withStored battery.cap
  else battery

def charge : Battery :=
  if 0 < battery.buffer.stored then
    let charged := chargeSlots battery.buffer.numSlots.toNat battery.buffer battery.slots
    { battery with buffer := charged.1, slots := charged.2 }
  else battery

def request (connected : Bool) (battery : Battery) : Battery :=
  if connected && decide (battery.buffer.stored < battery.cap) then
    match battery.pending with
    | some _ => battery
    | none =>
      let needed := min (battery.cap - battery.buffer.stored) battery.buffer.maxInput
      if 0 < needed then { battery with pending := some needed } else battery
  else battery

def turn (connected : Bool) (battery : Battery) : Battery :=
  (battery.clampStored.charge).request connected

def settled (stored : Int) : Battery :=
  { battery.withStored stored with pending := none }

def answered (consumed : Int) : Battery :=
  battery.settled (min (battery.buffer.stored + consumed) battery.cap)

end Battery

abbrev BatteryBufferSystem := Table Nat Battery

inductive BatteryInput where
  | tick
  | consumeResponse (nodeId : Nat) (consumed : Int)

namespace BatteryBufferSystem

def tick (connected : Bool) (system : BatteryBufferSystem) : BatteryBufferSystem :=
  system.mapValues fun _ battery => battery.turn connected

def onConsumeResponse (system : BatteryBufferSystem) (nodeId : Nat) (consumed : Int) :
    BatteryBufferSystem × Bool :=
  if consumed ≤ 0 then (system, false)
  else
    match system.lookup nodeId with
    | none => (system, false)
    | some battery =>
      match battery.pending with
      | none => (system, false)
      | some _ => (AList.insert nodeId (battery.answered consumed) system, true)

def step (connected : Bool) (system : BatteryBufferSystem) : BatteryInput → BatteryBufferSystem
  | .tick => system.tick connected
  | .consumeResponse nodeId consumed => (system.onConsumeResponse nodeId consumed).1

def machine (connected : Bool) : Machine BatteryBufferSystem BatteryInput Empty where
  step system input := (system.step connected input, [])

end BatteryBufferSystem

def slotEnergy (slot : InventorySlot) : Int :=
  match toolEnergyDefs.lookup slot.itemId with
  | none => 0
  | some _ => slot.metadata.toNat

def slotsEnergy (slots : List InventorySlot) : Int := (slots.map slotEnergy).sum

structure Charged (chargeRate : Int) (before after : InventorySlot) : Prop where
  itemId : after.itemId = before.itemId
  count : after.count = before.count
  other : toolEnergyDefs.lookup before.itemId = none → after = before
  tool : ∀ tool, toolEnergyDefs.lookup before.itemId = some tool → after = before ∨
      slotEnergy before < slotEnergy after ∧ slotEnergy after ≤ tool.capacity ∧
        slotEnergy after - slotEnergy before ≤ min chargeRate tool.maxInput

theorem Charged.refl (chargeRate : Int) (slot : InventorySlot) : Charged chargeRate slot slot :=
  ⟨rfl, rfl, fun _ => rfl, fun _ _ => .inl rfl⟩

theorem toolCapacity_fits {tool : ToolEnergyDef}
    (known : toolEnergyDefs.lookup itemId = some tool) :
    0 ≤ tool.capacity ∧ tool.capacity < 65536 := by
  have all : ∀ entry ∈ toolEnergyDefs, 0 ≤ entry.2.capacity ∧ entry.2.capacity < 65536 := by decide
  obtain ⟨before, after, split, _⟩ := lookup_eq_some_iff.mp known
  exact all (itemId, tool) (by rw [split]; simp)

variable {slot : InventorySlot}

theorem slotEnergy_of_tool (known : toolEnergyDefs.lookup slot.itemId = some tool) :
    slotEnergy slot = slot.metadata.toNat ∧ getToolEnergy slot = slot.metadata.toNat := by
  simp [slotEnergy, getToolEnergy, known]

theorem slotEnergy_set {tool : ToolEnergyDef} {energy : Int}
    (known : toolEnergyDefs.lookup slot.itemId = some tool) (lower : 0 ≤ energy)
    (upper : energy ≤ tool.capacity) : slotEnergy (setToolEnergy slot energy) = energy := by
  have fits := toolCapacity_fits known
  simp only [setToolEnergy, known, slotEnergy, Int.max_eq_left lower, Int.min_eq_left upper]
  rw [UInt16.ofInt, Int.emod_eq_of_lt lower (by omega), UInt16.toNat_ofNat',
    Nat.mod_eq_of_lt (by omega), Int.toNat_of_nonneg lower]

structure Moved (before after : BatteryBufferComponent) (gained : Int) : Prop where
  frame : after = { before with stored := after.stored }
  paid : after.stored + gained = before.stored
  gained : 0 ≤ gained
  left : 0 ≤ before.stored → 0 ≤ after.stored

variable (buffer : BatteryBufferComponent)

theorem Moved.refl : Moved buffer buffer 0 := ⟨rfl, Int.add_zero _, Int.le_refl 0, id⟩

theorem chargeSlot_spec (slot : InventorySlot) :
    Charged buffer.chargeRate slot (chargeSlot buffer slot).2 ∧
      Moved buffer (chargeSlot buffer slot).1
        (slotEnergy (chargeSlot buffer slot).2 - slotEnergy slot) := by
  have idle : Charged buffer.chargeRate slot slot ∧
      Moved buffer buffer (slotEnergy slot - slotEnergy slot) := by
    rw [Int.sub_self]
    exact ⟨.refl _ _, .refl _⟩
  unfold chargeSlot
  cases known : toolEnergyDefs.lookup slot.itemId with
  | none => exact idle
  | some tool =>
    obtain ⟨energy, current⟩ := slotEnergy_of_tool known
    simp only
    split
    · exact idle
    rename_i below
    split
    · exact idle
    rename_i positive
    have moved := Int.not_le.mp positive
    rw [← current] at energy
    obtain ⟨gain, gainEq⟩ : ∃ gain, min (min (min buffer.chargeRate buffer.stored)
      (tool.capacity - getToolEnergy slot)) tool.maxInput = gain := ⟨_, rfl⟩
    rw [gainEq] at moved ⊢
    have set := @slotEnergy_set slot tool (getToolEnergy slot + gain) known
      (by omega) (by omega)
    refine ⟨⟨by simp [setToolEnergy, known], by simp [setToolEnergy, known],
      fun none => absurd (none.symm.trans known) (by simp), ?_⟩, ⟨rfl, ?_, ?_, ?_⟩⟩
    · intro other otherKnown
      cases known.symm.trans otherKnown
      rw [set]
      exact .inr ⟨by omega, by omega, by omega⟩
    · rw [set]
      simp only
      omega
    · rw [set]
      omega
    · simp only
      omega

theorem chargeSlots_spec (count : Nat) (buffer : BatteryBufferComponent)
    (slots : List InventorySlot) :
    List.Forall₂ (Charged buffer.chargeRate) slots (chargeSlots count buffer slots).2 ∧
      Moved buffer (chargeSlots count buffer slots).1
        (slotsEnergy (chargeSlots count buffer slots).2 - slotsEnergy slots) := by
  have idle : ∀ buffer : BatteryBufferComponent, ∀ slots,
      List.Forall₂ (Charged buffer.chargeRate) slots slots ∧
        Moved buffer buffer (slotsEnergy slots - slotsEnergy slots) := by
    intro buffer slots
    rw [Int.sub_self]
    exact ⟨forall₂_same.mpr fun slot _ => .refl _ slot, .refl buffer⟩
  induction count generalizing buffer slots with
  | zero => exact idle buffer slots
  | succ count ih =>
    cases slots with
    | nil => exact idle buffer []
    | cons slot rest =>
      obtain ⟨charged, chargedEq⟩ : ∃ charged,
          (if slot.itemId ≠ 0 then chargeSlot buffer slot else (buffer, slot)) = charged :=
        ⟨_, rfl⟩
      have first : Charged buffer.chargeRate slot charged.2 ∧
          Moved buffer charged.1 (slotEnergy charged.2 - slotEnergy slot) := by
        rw [← chargedEq]
        split
        · exact chargeSlot_spec buffer slot
        · rw [Int.sub_self]
          exact ⟨.refl _ _, .refl _⟩
      obtain ⟨later, moved⟩ := ih charged.1 rest
      have rate : charged.1.chargeRate = buffer.chargeRate := by rw [first.2.frame]
      rw [rate] at later
      simp only [chargeSlots, chargedEq]
      refine ⟨.cons first.1 later, ⟨?_, ?_, ?_, ?_⟩⟩
      · rw [moved.frame, first.2.frame]
      · have paid := first.2.paid
        have paidLater := moved.paid
        simp only [slotsEnergy, map_cons, sum_cons] at *
        omega
      · have gained := first.2.gained
        have gainedLater := moved.gained
        simp only [slotsEnergy, map_cons, sum_cons] at *
        omega
      · exact fun nonneg => moved.left (first.2.left nonneg)

namespace Battery

structure Sound (battery : Battery) : Prop where
  narrow : battery.buffer.capacity.toNat < 2147483648
  lower : 0 ≤ battery.buffer.stored
  upper : battery.buffer.stored ≤ battery.buffer.capacity.toNat
  room : ∀ requested, battery.pending = some requested →
    battery.buffer.stored + requested ≤ battery.buffer.capacity.toNat

structure Ticked (before after : Battery) : Prop where
  slots : List.Forall₂ (Charged before.buffer.chargeRate) before.slots after.slots
  moved : Moved before.buffer after.buffer (slotsEnergy after.slots - slotsEnergy before.slots)

variable {battery : Battery}

theorem Sound.cap_eq (sound : battery.Sound) : battery.cap = battery.buffer.capacity.toNat := by
  have narrow := sound.narrow
  apply wrapI32_of_bounds <;> omega

theorem clampStored_of_sound (sound : battery.Sound) : battery.clampStored = battery := by
  have lower := sound.lower
  have upper := sound.upper
  rw [← sound.cap_eq] at upper
  rw [clampStored, if_neg (by omega), if_neg (by omega)]

theorem charge_ticked (battery : Battery) : battery.Ticked battery.charge := by
  unfold charge
  split
  · obtain ⟨slots, moved⟩ := chargeSlots_spec battery.buffer.numSlots.toNat battery.buffer
      battery.slots
    exact ⟨slots, moved⟩
  · refine ⟨forall₂_same.mpr fun slot _ => .refl _ slot, ?_⟩
    rw [Int.sub_self]
    exact .refl _

theorem charge_pending (battery : Battery) : battery.charge.pending = battery.pending := by
  unfold charge
  split <;> rfl

theorem request_cases (connected : Bool) (battery : Battery) :
    battery.request connected = battery ∨
      battery.pending = none ∧ ∃ needed, needed ≤ battery.cap - battery.buffer.stored ∧
        battery.request connected = { battery with pending := some needed } := by
  unfold request
  split
  · cases pending : battery.pending with
    | some requested => exact .inl rfl
    | none =>
      simp only
      split
      · exact .inr ⟨trivial, _, Int.min_le_left _ _, rfl⟩
      · exact .inl rfl
  · exact .inl rfl

theorem turn_spec (connected : Bool) (sound : battery.Sound) :
    battery.Ticked (battery.turn connected) ∧ (battery.turn connected).Sound := by
  rw [turn, clampStored_of_sound sound]
  have ticked := battery.charge_ticked
  have frame := ticked.moved.frame
  have capacity : battery.charge.buffer.capacity = battery.buffer.capacity := by rw [frame]
  have paid := ticked.moved.paid
  have gained := ticked.moved.gained
  have charged : battery.charge.Sound := by
    refine ⟨capacity ▸ sound.narrow, ticked.moved.left sound.lower, ?_, ?_⟩
    · have upper := sound.upper
      rw [capacity]
      omega
    intro requested pending
    rw [charge_pending] at pending
    have room := sound.room requested pending
    rw [capacity]
    omega
  rcases request_cases connected battery.charge with same | ⟨_, needed, fits, asked⟩
  · rw [same]
    exact ⟨ticked, charged⟩
  rw [asked]
  refine ⟨⟨ticked.slots, ticked.moved⟩, ⟨charged.narrow, charged.lower, charged.upper, ?_⟩⟩
  rintro requested ⟨⟩
  rw [charged.cap_eq] at fits
  simp only
  omega

@[simp] theorem settled_slots (battery : Battery) (stored : Int) :
    (battery.settled stored).slots = battery.slots := rfl

@[simp] theorem settled_pending (battery : Battery) (stored : Int) :
    (battery.settled stored).pending = none := rfl

@[simp] theorem settled_capacity (battery : Battery) (stored : Int) :
    (battery.settled stored).buffer.capacity = battery.buffer.capacity := rfl

@[simp] theorem settled_stored (battery : Battery) (stored : Int) :
    (battery.settled stored).buffer.stored = stored := rfl

theorem answered_spec (sound : battery.Sound) (pending : battery.pending = some requested)
    (lower : 0 ≤ consumed) (upper : consumed ≤ requested) :
    (battery.answered consumed).buffer.stored = battery.buffer.stored + consumed ∧
      (battery.answered consumed).Sound := by
  have room := sound.room requested pending
  have nonneg := sound.lower
  have fits : battery.buffer.stored + consumed ≤ battery.cap := by
    rw [sound.cap_eq]
    omega
  rw [answered, Int.min_eq_left fits]
  refine ⟨settled_stored _ _, ⟨?_, ?_, ?_, ?_⟩⟩
  · rw [settled_capacity]
    exact sound.narrow
  · rw [settled_stored]
    omega
  · rw [settled_stored, settled_capacity]
    omega
  · intro requested asked
    rw [settled_pending] at asked
    exact absurd asked (by simp)

end Battery

namespace BatteryBufferSystem

variable {connected : Bool} {system : BatteryBufferSystem}

def AllSound (system : BatteryBufferSystem) : Prop :=
  ∀ entity battery, system.lookup entity = some battery → battery.Sound

def Answers (system : BatteryBufferSystem) : BatteryInput → Prop
  | .tick => True
  | .consumeResponse nodeId consumed =>
    0 ≤ consumed ∧ ∃ battery requested, system.lookup nodeId = some battery ∧
      battery.pending = some requested ∧ consumed ≤ requested

def Accounted (before after : BatteryBufferSystem) : BatteryInput → Prop
  | .tick => ∀ entity battery, before.lookup entity = some battery →
      ∃ next, after.lookup entity = some next ∧ battery.Ticked next
  | .consumeResponse nodeId consumed => ∀ entity battery, before.lookup entity = some battery →
      ∃ next, after.lookup entity = some next ∧ next.slots = battery.slots ∧
        next.buffer.stored = battery.buffer.stored + if entity = nodeId then consumed else 0

theorem step_spec (sound : system.AllSound) (answers : system.Answers input) :
    (system.step connected input).AllSound ∧
      Accounted system (system.step connected input) input := by
  cases input with
  | tick =>
    refine ⟨fun entity battery found => ?_, fun entity battery found => ?_⟩
    · rw [step, tick, Table.lookup_mapValues, Option.map_eq_some_iff] at found
      obtain ⟨before, beforeFound, rfl⟩ := found
      exact (Battery.turn_spec connected (sound entity before beforeFound)).2
    · refine ⟨battery.turn connected, ?_, (Battery.turn_spec connected (sound entity battery found)).1⟩
      rw [step, tick, Table.lookup_mapValues, found, Option.map_some]
  | consumeResponse nodeId consumed =>
    obtain ⟨lower, asker, requested, askerFound, pending, upper⟩ := answers
    obtain ⟨stored, soundAfter⟩ :=
      Battery.answered_spec (sound nodeId asker askerFound) pending lower upper
    by_cases nothing : consumed ≤ 0
    · have same : system.step connected (.consumeResponse nodeId consumed) = system := by
        rw [step, onConsumeResponse, if_pos nothing]
      rw [same]
      refine ⟨sound, fun entity battery found => ⟨battery, found, rfl, ?_⟩⟩
      split <;> omega
    · have inserted : system.step connected (.consumeResponse nodeId consumed) =
          AList.insert nodeId (asker.answered consumed) system := by
        simp only [step, onConsumeResponse, if_neg nothing, askerFound, pending]
      rw [inserted]
      refine ⟨fun entity battery found => ?_, fun entity battery found => ?_⟩
      · rw [Table.lookup_insert_eq] at found
        split at found
        · cases found
          exact soundAfter
        · exact sound entity battery found
      · rw [Table.lookup_insert_eq]
        by_cases here : entity = nodeId
        · subst here
          cases askerFound.symm.trans found
          rw [if_pos rfl, if_pos rfl]
          exact ⟨_, rfl, Battery.settled_slots _ _, stored⟩
        · rw [if_neg here, if_neg here, Int.add_zero]
          exact ⟨battery, found, rfl, rfl⟩

structure Built (system : BatteryBufferSystem) : Prop where
  narrow : ∀ entity battery, system.lookup entity = some battery →
    battery.buffer.capacity.toNat < 2147483648
  level : ∀ entity battery, system.lookup entity = some battery →
    0 ≤ battery.buffer.stored ∧ battery.buffer.stored ≤ battery.buffer.capacity.toNat
  idle : ∀ entity battery, system.lookup entity = some battery → battery.pending = none

theorem Built.allSound (built : system.Built) : system.AllSound := by
  intro entity battery found
  refine ⟨built.narrow entity battery found, (built.level entity battery found).1,
    (built.level entity battery found).2, fun requested pending => ?_⟩
  rw [built.idle entity battery found] at pending
  exact absurd pending (by simp)

theorem run_sound (sound : system.AllSound)
    (answers : (machine connected).Along Answers system inputs) :
    ((machine connected).final system inputs).AllSound := by
  apply (machine connected).invariant Answers (fun _ state _ => state.AllSound) sound _ inputs answers
  intro _ current _ input sound answers
  exact (step_spec sound answers).1

structure Conserves (connected : Bool) (system : BatteryBufferSystem)
    (inputs : List BatteryInput) : Prop where
  levels : ∀ before after, inputs = before ++ after → ∀ entity battery,
    ((machine connected).final system before).lookup entity = some battery →
      0 ≤ battery.buffer.stored ∧ battery.buffer.stored ≤ battery.buffer.capacity.toNat
  steps : ∀ before input after, inputs = before ++ input :: after →
    Accounted ((machine connected).final system before)
      ((machine connected).final system (before ++ [input])) input

theorem run_conserves (connected : Bool) {system : BatteryBufferSystem} (built : system.Built)
    {inputs : List BatteryInput} (answers : (machine connected).Along Answers system inputs) :
    Conserves connected system inputs where
  levels := by
    rintro before after rfl entity battery found
    have first := ((machine connected).along_append Answers system before after).mp answers
    have sound := run_sound built.allSound first.1 entity battery found
    exact ⟨sound.lower, sound.upper⟩
  steps := by
    rintro before input after rfl
    have first := ((machine connected).along_append Answers system before _).mp answers
    rw [Machine.final_concat]
    exact (step_spec (run_sound built.allSound first.1) first.2.1).2

def oneBuffer (capacity : UInt32) (stored : Int) (charge : UInt16) : BatteryBufferSystem :=
  AList.insert 1 ⟨⟨capacity, stored, 1, 32, 8, 1⟩, [⟨60948, 1, charge⟩], none⟩ ∅

theorem oneBuffer_conserves :
    Conserves true (oneBuffer 40000 100 0) [.tick, .consumeResponse 1 20, .tick] := by
  have only : ∀ entity battery, (oneBuffer 40000 100 0).lookup entity = some battery →
      battery = ⟨⟨40000, 100, 1, 32, 8, 1⟩, [⟨60948, 1, 0⟩], none⟩ := by
    intro entity battery found
    rw [oneBuffer, Table.lookup_insert_eq] at found
    split at found
    · exact (Option.some.inj found).symm
    · exact absurd found (by simp)
  apply run_conserves true
  · refine ⟨fun entity battery found => ?_, fun entity battery found => ?_,
      fun entity battery found => ?_⟩
    all_goals
      obtain rfl := only entity battery found
      decide
  · refine ⟨trivial, ⟨by decide, ⟨⟨40000, 92, 1, 32, 8, 1⟩, [⟨60948, 1, 8⟩], some 32⟩, 32,
      by decide +kernel, rfl, by decide⟩, trivial, trivial⟩

theorem oneBuffer_exceeds : ¬ Conserves true (oneBuffer 2147483648 5 0) [.tick] ∧
      ((machine true).final (oneBuffer 2147483648 5 0) [.tick]).lookup 1 =
        some ⟨⟨2147483648, -2147483648, 1, 32, 8, 1⟩, [⟨60948, 1, 0⟩], none⟩ ∧
      toolEnergyDefs.lookup 60948 = some ⟨1000, 32, 0⟩ ∧
      ((machine true).final (oneBuffer 40000 100 2000) [.tick]).lookup 1 =
        some ⟨⟨40000, 100, 1, 32, 8, 1⟩, [⟨60948, 1, 2000⟩], some 32⟩ := by
  have after : ((machine true).final (oneBuffer 2147483648 5 0) [.tick]).lookup 1 =
      some ⟨⟨2147483648, -2147483648, 1, 32, 8, 1⟩, [⟨60948, 1, 0⟩], none⟩ := by decide +kernel
  refine ⟨fun conserves => ?_, after, by decide, by decide +kernel⟩
  exact absurd (conserves.levels [.tick] [] rfl 1 _ after).1 (by decide)

end BatteryBufferSystem

end GtnhPlatform.Mining
