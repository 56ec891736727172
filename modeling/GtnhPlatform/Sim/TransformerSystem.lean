import GtnhPlatform.Data.Word
import GtnhPlatform.Sim.SimulationEngine
import Mathlib.Algebra.Order.Ring.Int
import Mathlib.Tactic.Positivity

namespace GtnhPlatform.Sim

open Option List

/-! Transformers. Where `int32_t` arithmetic overflows, or divides by zero, there is no
result. -/

structure TransformerComponent where
  inputTier : UInt8
  outputTier : UInt8
  stepUp : Bool
  buffer : Int
  maxInput : Int
  maxOutput : Int

structure NodeUpdate where
  nodeId : Nat
  position : Position
  energy : Int
  capacity : Int
  maxInput : Int
  maxOutput : Int
  tier : UInt8
  energyType : EnergyType
  isSource : Bool
  isSink : Bool

structure Transformer where
  entity : Nat
  block : Block
  position : Position
  component : TransformerComponent
  energy : EnergyStorage

/-- 0 is ULV with 8, and each tier has four times the voltage of the one below. -/
def tierVoltage (tier : UInt8) : Option Int := do
  let power ← asI32 (4 ^ tier.toNat)
  asI32 (power * 8)

namespace Transformer

def isTransformer (blockId : UInt16) : Bool :=
  blockId == ItemId.pack 0b1110110 7 0 || blockId == ItemId.pack 0b1110110 7 1

variable (transformer : Transformer)

def packets (inputVoltage : Int) : Int :=
  (min transformer.energy.current transformer.component.maxInput).tdiv inputVoltage

def sinkUpdate : NodeUpdate where
  nodeId := transformer.entity
  position := transformer.position
  energy := transformer.energy.current
  capacity := transformer.energy.capacity
  maxInput := transformer.energy.maxInput
  maxOutput := transformer.energy.maxOutput
  tier := transformer.component.inputTier
  energyType := transformer.energy.type
  isSource := false
  isSink := true

def sourceUpdate (energy : Int) (capacity : Int) : NodeUpdate where
  nodeId := transformer.entity ||| 0x100000000
  position := transformer.position
  energy := energy
  capacity := capacity
  maxInput := 0
  maxOutput := transformer.component.maxOutput
  tier := transformer.component.outputTier
  energyType := transformer.energy.type
  isSource := true
  isSink := false

def withLevels (current buffer : Int) : Transformer :=
  { transformer with
    energy := { transformer.energy with current := current }
    component := { transformer.component with buffer := buffer } }

def stepUpTick (connected : Bool) (transformer : Transformer) (inputVoltage outputVoltage : Int) :
    Option (Transformer × List NodeUpdate) :=
  let packets := transformer.packets inputVoltage
  if packets ≤ 0 then some (transformer, [])
  else do
    let limit ← asI32 (transformer.component.maxOutput * 4)
    if limit ≤ transformer.component.buffer then some (transformer, [])
    else do
      let consume := packets * inputVoltage
      let ratio := outputVoltage.tdiv inputVoltage
      let outPackets ← if ratio = 0 then none else some (packets.tdiv ratio)
      let outEnergy := outPackets * outputVoltage
      let buffered ← asI32 (transformer.component.buffer + outEnergy)
      if buffered < outputVoltage then
        some (transformer.withLevels (transformer.energy.current - consume) buffered, [])
      else
        let sendEnergy := buffered.tdiv outputVoltage * outputVoltage
        let sent :=
          transformer.withLevels (transformer.energy.current - consume) (buffered - sendEnergy)
        some (sent, if connected then [sent.sinkUpdate, sent.sourceUpdate sendEnergy limit] else [])

def stepDownTick (connected : Bool) (transformer : Transformer) (inputVoltage : Int) :
    Option (Transformer × List NodeUpdate) :=
  let packets := transformer.packets inputVoltage
  if packets ≤ 0 then some (transformer, [])
  else
    let outEnergy := packets * inputVoltage
    let space := transformer.energy.capacity - transformer.energy.current
    let actualAdd := min outEnergy space
    let added := transformer.withLevels (transformer.energy.current + actualAdd)
      transformer.component.buffer
    if connected then do
      let limit ← asI32 (transformer.component.maxOutput * 4)
      some (added, [added.sinkUpdate, added.sourceUpdate actualAdd limit])
    else some (added, [])

def tick (connected : Bool) (transformer : Transformer) :
    Option (Transformer × List NodeUpdate) :=
  if !isTransformer transformer.block.id then some (transformer, [])
  else do
    let inputVoltage ← tierVoltage transformer.component.inputTier
    let outputVoltage ← tierVoltage transformer.component.outputTier
    if transformer.component.stepUp then
      transformer.stepUpTick connected inputVoltage outputVoltage
    else transformer.stepDownTick connected inputVoltage

end Transformer

def TransformerSystem.tick (connected : Bool) :
    List Transformer → Option (List (Transformer × List NodeUpdate))
  | [] => some []
  | transformer :: rest => do
      let result ← transformer.tick connected
      let results ← TransformerSystem.tick connected rest
      some (result :: results)

variable {voltage : Int}

theorem tierVoltage_eq_some {tier : UInt8} (fits : tierVoltage tier = some voltage) :
    voltage = 4 ^ tier.toNat * 8 := by
  unfold tierVoltage at fits
  rw [bind_eq_bind, bind_eq_some_iff] at fits
  obtain ⟨power, stored, fits⟩ := fits
  obtain ⟨_, powerEq⟩ := asI32_eq_some.mp stored
  obtain ⟨_, voltageEq⟩ := asI32_eq_some.mp fits
  rw [← voltageEq, ← powerEq]

theorem tierVoltage_pos (fits : tierVoltage tier = some voltage) : 0 < voltage := by
  rw [tierVoltage_eq_some fits]
  positivity

theorem tierVoltage_ratio {inputVoltage outputVoltage : Int}
    (input : tierVoltage inputTier = some inputVoltage)
    (output : tierVoltage outputTier = some outputVoltage) : outputVoltage.tdiv inputVoltage = 0 ∨
      (0 < outputVoltage.tdiv inputVoltage ∧
        outputVoltage = outputVoltage.tdiv inputVoltage * inputVoltage) := by
  have positive := tierVoltage_pos input
  rw [Int.tdiv_eq_ediv_of_nonneg (Int.le_of_lt (tierVoltage_pos output))]
  rcases Nat.lt_or_ge outputTier.toNat inputTier.toNat with down | up
  · left
    apply Int.ediv_eq_zero_of_lt (Int.le_of_lt (tierVoltage_pos output))
    rw [tierVoltage_eq_some input, tierVoltage_eq_some output]
    have smaller : (4 : Int) ^ outputTier.toNat < 4 ^ inputTier.toNat :=
      pow_lt_pow_right₀ (by decide) down
    omega
  · right
    have scaled : outputVoltage = 4 ^ (outputTier.toNat - inputTier.toNat) * inputVoltage := by
      rw [tierVoltage_eq_some input, tierVoltage_eq_some output, ← Int.mul_assoc, ← pow_add,
        Nat.sub_add_cancel up]
    rw [scaled, Int.mul_ediv_cancel _ (Int.ne_of_gt positive)]
    exact ⟨by positivity, rfl⟩

def announced (updates : List NodeUpdate) : Int :=
  ((updates.filter NodeUpdate.isSource).map NodeUpdate.energy).sum

namespace Transformer

def held (transformer : Transformer) : Int :=
  transformer.energy.current + transformer.component.buffer

structure Balanced (before : Transformer) (result : Transformer × List NodeUpdate) : Prop where
  total : result.1.held + announced result.2 = before.held
  current : 0 ≤ result.1.energy.current
  buffer : 0 ≤ result.1.component.buffer
  output : 0 ≤ announced result.2

def Conserves (connected : Bool) (transformer : Transformer) : Prop :=
  ∃ result, transformer.tick connected = some result ∧ transformer.Balanced result

structure Charged (transformer : Transformer) : Prop where
  nonneg : 0 ≤ transformer.energy.current
  fits : transformer.energy.current ≤ transformer.energy.capacity
  buffered : 0 ≤ transformer.component.buffer

def PassesUp (connected : Bool) (transformer : Transformer) (inputVoltage outputVoltage : Int) :
    Prop :=
  FitsI32 (transformer.component.maxOutput * 4) ∧
    (transformer.component.maxOutput * 4 ≤ transformer.component.buffer ∨
      connected = true ∧ outputVoltage.tdiv inputVoltage ∣ transformer.packets inputVoltage ∧
        FitsI32 (transformer.component.buffer + transformer.packets inputVoltage * inputVoltage))

def PassesDown (connected : Bool) (transformer : Transformer) : Prop :=
  transformer.energy.current = transformer.energy.capacity ∧
    (connected = true → FitsI32 (transformer.component.maxOutput * 4))

def Passes (connected : Bool) (transformer : Transformer) : Prop :=
  isTransformer transformer.block.id = true → ∃ inputVoltage outputVoltage,
      tierVoltage transformer.component.inputTier = some inputVoltage ∧
      tierVoltage transformer.component.outputTier = some outputVoltage ∧
      (transformer.packets inputVoltage ≤ 0 ∨ if transformer.component.stepUp then
          transformer.PassesUp connected inputVoltage outputVoltage
        else transformer.PassesDown connected)

variable {transformer : Transformer} {connected : Bool}

theorem balanced_of_idle (charged : transformer.Charged) :
    transformer.Balanced (transformer, []) where
  total := Int.add_zero _
  current := charged.nonneg
  buffer := charged.buffered
  output := Int.le_refl 0

variable {inputVoltage : Int}

theorem packets_mul_le (voltage : 0 < inputVoltage)
    (present : 0 < transformer.packets inputVoltage) :
    transformer.packets inputVoltage * inputVoltage ≤ transformer.energy.current := by
  have nonneg : 0 ≤ min transformer.energy.current transformer.component.maxInput := by
    by_contra negative
    have none : transformer.packets inputVoltage ≤ 0 := by
      have magnitude := Int.tdiv_nonneg (Int.neg_nonneg_of_nonpos
        (Int.le_of_lt (Int.not_le.mp negative))) (Int.le_of_lt voltage)
      rw [Int.neg_tdiv] at magnitude
      exact Int.nonpos_of_neg_nonneg magnitude
    omega
  rw [packets, Int.tdiv_eq_ediv_of_nonneg nonneg]
  exact Int.le_trans (Int.ediv_mul_le _ (Int.ne_of_gt voltage)) (Int.min_le_left _ _)

structure Repacked (packets ratio consume outEnergy outputVoltage : Int) : Prop where
  nonneg : 0 ≤ outEnergy
  bounded : outEnergy ≤ consume
  exact_iff : outEnergy = consume ↔ ratio ∣ packets
  whole : ratio ∣ packets → outputVoltage ≤ outEnergy

theorem repacked {packets ratio inputVoltage outputVoltage : Int} (present : 0 < packets)
    (positive : 0 < ratio) (voltage : 0 < inputVoltage)
    (scaled : outputVoltage = ratio * inputVoltage) :
    Repacked packets ratio (packets * inputVoltage) (packets.tdiv ratio * outputVoltage)
      outputVoltage := by
  have nonneg : 0 ≤ packets / ratio := Int.ediv_nonneg (Int.le_of_lt present) (Int.le_of_lt positive)
  have split : packets / ratio * outputVoltage + packets % ratio * inputVoltage =
      packets * inputVoltage := by
    rw [scaled, ← Int.mul_assoc, ← Int.add_mul, Int.mul_comm (packets / ratio) ratio,
      Int.mul_ediv_add_emod]
  have lost : 0 ≤ packets % ratio * inputVoltage :=
    Int.mul_nonneg (Int.emod_nonneg _ (Int.ne_of_gt positive)) (Int.le_of_lt voltage)
  have none_lost : packets % ratio * inputVoltage = 0 ↔ ratio ∣ packets := by
    rw [Int.mul_eq_zero, Int.dvd_iff_emod_eq_zero]
    simp [Int.ne_of_gt voltage]
  have output : 0 < outputVoltage := by
    rw [scaled]
    exact Int.mul_pos positive voltage
  rw [Int.tdiv_eq_ediv_of_nonneg (Int.le_of_lt present)]
  exact {
    nonneg := Int.mul_nonneg nonneg (Int.le_of_lt output)
    bounded := by omega
    exact_iff := by
      rw [← none_lost]
      omega
    whole := by
      rintro ⟨groups, rfl⟩
      rw [Int.mul_ediv_cancel_left _ (Int.ne_of_gt positive)]
      have full : 0 < groups := Int.pos_of_mul_pos_right present positive
      exact le_mul_of_one_le_left (Int.le_of_lt output) full }

theorem announced_source (transformer : Transformer) (energy capacity : Int) :
    announced [transformer.sinkUpdate, transformer.sourceUpdate energy capacity] = energy := by
  simp [announced, sinkUpdate, sourceUpdate]

theorem stepUpTick_iff (charged : transformer.Charged) {inputVoltage outputVoltage : Int}
    (input : 0 < inputVoltage) (output : 0 < outputVoltage)
    (ratio : outputVoltage.tdiv inputVoltage = 0 ∨ (0 < outputVoltage.tdiv inputVoltage ∧
        outputVoltage = outputVoltage.tdiv inputVoltage * inputVoltage))
    (present : 0 < transformer.packets inputVoltage) :
    (∃ result, transformer.stepUpTick connected inputVoltage outputVoltage = some result ∧
      transformer.Balanced result) ↔ transformer.PassesUp connected inputVoltage outputVoltage := by
  have paid := packets_mul_le input present
  obtain ⟨nonneg, fits, buffered⟩ := charged
  rw [stepUpTick, if_neg (Int.not_le.mpr present), PassesUp]
  by_cases limited : FitsI32 (transformer.component.maxOutput * 4)
  swap
  · simp [asI32, limited]
  simp only [asI32, limited, if_true, true_and, bind_eq_bind, bind_some]
  by_cases closed : transformer.component.maxOutput * 4 ≤ transformer.component.buffer
  · simp only [closed, if_true, true_or, iff_true]
    exact ⟨_, rfl, balanced_of_idle ⟨nonneg, fits, buffered⟩⟩
  simp only [closed, if_false, false_or]
  rcases ratio with down | ⟨positive, scaled⟩
  · have never : ¬ (0 : Int) ∣ transformer.packets inputVoltage := by
      rw [zero_dvd_iff]
      exact Int.ne_of_gt present
    simp [down, never]
  have repackedOf := repacked present positive input scaled
  simp only [if_neg (Int.ne_of_gt positive)]
  generalize outputVoltage.tdiv inputVoltage = times at *
  generalize (transformer.packets inputVoltage).tdiv times * outputVoltage = outEnergy at *
  generalize transformer.packets inputVoltage * inputVoltage = consume at *
  by_cases sized : FitsI32 (transformer.component.buffer + outEnergy)
  swap
  · have unpaid : ¬(times ∣ transformer.packets inputVoltage ∧
        FitsI32 (transformer.component.buffer + consume)) := by
      rintro ⟨whole, room⟩
      exact sized (repackedOf.exact_iff.mpr whole ▸ room)
    simp [sized, unpaid]
  simp only [sized, if_true, bind_some]
  by_cases kept : transformer.component.buffer + outEnergy < outputVoltage
  · have partly : ¬times ∣ transformer.packets inputVoltage := by
      intro whole
      have full := repackedOf.whole whole
      omega
    simp only [kept, if_true, partly, false_and, and_false, iff_false]
    rintro ⟨result, resultEq, balanced⟩
    cases resultEq
    have total := balanced.total
    simp only [held, withLevels, announced, filter_nil, map_nil, sum_nil] at total
    exact partly (repackedOf.exact_iff.mp (by omega))
  simp only [kept, if_false]
  have whole := Int.mul_ediv_add_emod (transformer.component.buffer + outEnergy) outputVoltage
  have left := Int.emod_nonneg (transformer.component.buffer + outEnergy) (Int.ne_of_gt output)
  have below := Int.emod_lt_of_pos (transformer.component.buffer + outEnergy) output
  rw [Int.tdiv_eq_ediv_of_nonneg (by omega), Int.mul_comm]
  generalize outputVoltage * ((transformer.component.buffer + outEnergy) / outputVoltage) =
    sendEnergy at *
  constructor
  · rintro ⟨result, resultEq, balanced⟩
    cases resultEq
    have total := balanced.total
    have bounded := repackedOf.bounded
    cases connected with
    | false =>
      simp only [held, withLevels, announced, Bool.false_eq_true, if_false, filter_nil,
        map_nil, sum_nil] at total
      omega
    | true =>
      simp only [if_true, announced_source, held, withLevels] at total
      have same : outEnergy = consume := by omega
      exact ⟨rfl, repackedOf.exact_iff.mp same, same ▸ sized⟩
  · rintro ⟨rfl, divides, _⟩
    have same := repackedOf.exact_iff.mpr divides
    refine ⟨_, rfl, ?_, ?_, ?_, ?_⟩
    · simp only [if_true, announced_source, held, withLevels]
      omega
    · simp only [withLevels]
      omega
    · simp only [withLevels]
      omega
    · simp only [if_true, announced_source]
      omega

theorem stepDownTick_iff (charged : transformer.Charged) (input : 0 < inputVoltage)
    (present : 0 < transformer.packets inputVoltage) :
    (∃ result, transformer.stepDownTick connected inputVoltage = some result ∧
      transformer.Balanced result) ↔ transformer.PassesDown connected := by
  obtain ⟨nonneg, fits, buffered⟩ := charged
  have made : 0 < transformer.packets inputVoltage * inputVoltage := Int.mul_pos present input
  rw [stepDownTick, if_neg (Int.not_le.mpr present), PassesDown]
  generalize transformer.packets inputVoltage * inputVoltage = outEnergy at *
  have room : 0 ≤ min outEnergy (transformer.energy.capacity - transformer.energy.current) ∧
      (min outEnergy (transformer.energy.capacity - transformer.energy.current) = 0 ↔
        transformer.energy.current = transformer.energy.capacity) := by
    omega
  generalize min outEnergy (transformer.energy.capacity - transformer.energy.current) =
    actualAdd at *
  cases connected with
  | false =>
    simp only [Bool.false_eq_true, if_false, false_imp_iff, and_true, ← room.2]
    constructor
    · rintro ⟨result, resultEq, balanced⟩
      cases resultEq
      have total := balanced.total
      simp only [held, withLevels, announced, filter_nil, map_nil, sum_nil] at total
      omega
    · intro full
      refine ⟨_, rfl, ?_, ?_, buffered, Int.le_refl 0⟩
      · simp only [held, withLevels, announced, filter_nil, map_nil, sum_nil]
        omega
      · simp only [withLevels]
        omega
  | true =>
    by_cases limited : FitsI32 (transformer.component.maxOutput * 4)
    swap
    · simp [asI32, limited]
    simp only [asI32, limited, if_true, bind_eq_bind, bind_some, imp_true_iff, and_true, ← room.2]
    constructor
    · rintro ⟨result, resultEq, balanced⟩
      cases resultEq
      have total := balanced.total
      simp only [announced_source, held, withLevels] at total
      omega
    · intro full
      refine ⟨_, rfl, ?_, ?_, buffered, ?_⟩
      · simp only [announced_source, held, withLevels]
        omega
      · simp only [withLevels]
        omega
      · rw [announced_source]
        omega

theorem conserves_iff (charged : transformer.Charged) :
    transformer.Conserves connected ↔ transformer.Passes connected := by
  rw [Conserves, Passes, tick]
  cases kind : isTransformer transformer.block.id with
  | false =>
    simp only [Bool.not_false, if_true, Bool.false_eq_true, false_imp_iff, iff_true]
    exact ⟨_, rfl, balanced_of_idle charged⟩
  | true =>
    simp only [Bool.not_true, Bool.false_eq_true, if_false, bind_eq_bind, true_imp_iff]
    cases input : tierVoltage transformer.component.inputTier with
    | none => simp
    | some inputVoltage =>
      cases output : tierVoltage transformer.component.outputTier with
      | none => simp
      | some outputVoltage =>
        have inputPos := tierVoltage_pos input
        simp only [bind_some, Option.some.injEq, exists_and_left, exists_eq_left']
        by_cases present : 0 < transformer.packets inputVoltage
        · simp only [Int.not_le.mpr present, false_or]
          cases transformer.component.stepUp with
          | true =>
            exact stepUpTick_iff charged inputPos (tierVoltage_pos output)
              (tierVoltage_ratio input output) present
          | false => exact stepDownTick_iff charged inputPos present
        · have none := Int.not_lt.mp present
          simp only [none, true_or, iff_true]
          refine ⟨_, ?_, balanced_of_idle charged⟩
          rw [stepUpTick, stepDownTick, if_pos none, if_pos none, ite_self]

end Transformer

namespace TransformerSystem

def ConservesAll (connected : Bool) (view : List Transformer) : Prop :=
  ∃ results, tick connected view = some results ∧ List.Forall₂ Transformer.Balanced view results

theorem conservesAll_iff (connected : Bool) (view : List Transformer)
    (charged : ∀ transformer ∈ view, transformer.Charged) : ConservesAll connected view ↔
      ∀ transformer ∈ view, transformer.Passes connected := by
  induction view with
  | nil => simp [ConservesAll, tick]
  | cons transformer rest ih =>
    rw [forall_mem_cons] at charged ⊢
    rw [← Transformer.conserves_iff charged.1, ← ih charged.2]
    simp only [ConservesAll, tick, Transformer.Conserves, Option.bind_eq_bind,
      Option.bind_eq_some_iff, Option.some.injEq]
    constructor
    · rintro ⟨_, ⟨result, first, results, later, rfl⟩, balanced⟩
      cases balanced with
      | cons head tail => exact ⟨⟨result, first, head⟩, results, later, tail⟩
    · rintro ⟨⟨result, first, head⟩, results, later, tail⟩
      exact ⟨_, ⟨result, first, results, later, rfl⟩, .cons head tail⟩

theorem not_conservesAll_of_total {transformer : Transformer}
    (differs : total ≠ transformer.held)
    (ticked : (transformer.tick connected).map
      (fun result => result.1.held + announced result.2) = some total) :
    ¬ ConservesAll connected [transformer] := by
  rintro ⟨results, run, balanced⟩
  cases result : transformer.tick connected with
  | none => simp [tick, result] at run
  | some value =>
    simp only [tick, result, bind_eq_bind, bind_some, Option.some.injEq] at run
    subst run
    cases balanced with
    | cons head tail =>
      rw [result, map_some, Option.some.injEq, head.total] at ticked
      exact differs ticked.symm

def mvToHv (stepUp : Bool) (current : Int) : Transformer where
  entity := 1
  block := ⟨ItemId.pack 0b1110110 7 0, 0, 0⟩
  position := ⟨10, 64, 20⟩
  component := ⟨if stepUp then 2 else 3, if stepUp then 3 else 2, stepUp, 0, 100000, 100000⟩
  energy := ⟨100000, current, 100000, 100000, 1, .electricity⟩

theorem mvToHv_conserves : ConservesAll true [mvToHv true 1024] := by
  refine (conservesAll_iff true _ ?_).mpr ?_
  · intro transformer mem
    obtain rfl := mem_singleton.mp mem
    exact ⟨by decide, by decide, by decide⟩
  intro transformer mem
  obtain rfl := mem_singleton.mp mem
  intro _
  exact ⟨128, 512, by decide, by decide, .inr ⟨by decide, .inr ⟨rfl, by decide, by decide⟩⟩⟩

theorem mvToHv_loses_and_creates :
    (mvToHv true 640).Charged ∧ (mvToHv false 512).Charged ∧
      ((mvToHv true 640).tick true).map (fun result => result.1.held + announced result.2) =
        some 512 ∧
      ((mvToHv false 512).tick true).map (fun result => result.1.held + announced result.2) =
        some 1536 ∧
      ¬ ConservesAll true [mvToHv true 640] ∧ ¬ ConservesAll true [mvToHv false 512] := by
  refine ⟨⟨by decide, by decide, by decide⟩, ⟨by decide, by decide, by decide⟩,
    by decide +kernel, by decide +kernel, ?_, ?_⟩
  · exact not_conservesAll_of_total (show 512 ≠ _ by decide) (by decide +kernel)
  · exact not_conservesAll_of_total (show 1536 ≠ _ by decide) (by decide +kernel)

end TransformerSystem

end GtnhPlatform.Sim
