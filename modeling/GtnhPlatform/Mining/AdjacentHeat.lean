import GtnhPlatform.Data.Word
import GtnhPlatform.Sim.PatternLibrary
import Mathlib.Algebra.Order.Ring.Int

namespace GtnhPlatform.Sim.MachineRegistry

def isHeatSource (registry : MachineRegistry) (blockId : UInt16) : Bool :=
  match registry.get blockId with
  | none => false
  | some info => info.energyOut == some .heat

def isHeatSink (registry : MachineRegistry) (blockId : UInt16) : Bool :=
  match registry.get blockId with
  | none => false
  | some info => info.energyIn == some .heat

end GtnhPlatform.Sim.MachineRegistry

namespace GtnhPlatform.Mining

open Sim (EnergyType MachineRegistry Position)

/-! Adjacent heat transfer: sinks draw from the sources among their six neighbours. -/

/-- `packPos`: the fields overlap where a coordinate is wider than its bits. -/
def packPos (pos : Position) : UInt64 :=
  pos.x.toUInt64 <<< 42 ||| pos.y.toUInt64 <<< 21 ||| pos.z.toUInt64

structure HeatMachine where
  entity : Nat
  machineId : UInt16
  energyType : EnergyType
  position : Position

/-- `heatStored` is the `HeatIntakeComponent`, if there is one. -/
structure HeatState where
  capacity : Int
  current : Int
  heatStored : Option Int := none

abbrev HeatStates := Nat → HeatState

def dirs : List (Int × Int × Int) :=
  [(1, 0, 0), (-1, 0, 0), (0, 1, 0), (0, -1, 0), (0, 0, 1), (0, 0, -1)]

/-- A sink looks from its coordinates as `int32_t`; nothing is at a negative
one. -/
def sinkStep (coordinate : UInt32) (delta : Int) : Option UInt32 :=
  let next := wrapI32 (wrapI32 coordinate.toNat + delta)
  if next < 0 then none else some (UInt32.ofInt next)

/-- The search looks from the `uint32_t` coordinates, in 64 bits. -/
def frontierStep (coordinate : UInt32) (delta : Int) : Option UInt32 :=
  let next : Int := coordinate.toNat + delta
  if next < 0 then none else some (UInt32.ofInt next)

def neighbour (step : UInt32 → Int → Option UInt32) (pos : Position) (dir : Int × Int × Int) :
    Option Position := do
  let x ← step pos.x dir.1
  let y ← step pos.y dir.2.1
  let z ← step pos.z dir.2.2
  some ⟨x, y, z⟩

section Pass

variable (registry : MachineRegistry)

variable (machines : List HeatMachine)

def heatSources : List HeatMachine :=
  machines.filter fun machine =>
    machine.energyType == .heat && registry.isHeatSource machine.machineId

def heatSinks : List HeatMachine :=
  machines.filter fun machine =>
    machine.energyType == .heat && registry.isHeatSink machine.machineId

def producersByPos : Table UInt64 HeatMachine :=
  (heatSources registry machines).foldl
    (fun producers machine => AList.insert (packPos machine.position) machine producers) ∅

/-- Distances found so far, and the frontier to search from. -/
structure HeatSearch where
  distances : Table UInt64 Int
  frontier : List Position

namespace HeatSearch

def seed (states : HeatStates) (search : HeatSearch) (machine : HeatMachine) : HeatSearch :=
  if (states machine.entity).current ≤ 0 then search
  else if (search.distances.lookup (packPos machine.position)).isSome then search
  else
    ⟨AList.insert (packPos machine.position) 0 search.distances,
      search.frontier ++ [machine.position]⟩

/-- A source is searched on, a sink only gets its distance. -/
def reach (sourcePos sinkPos : List UInt64) (distance : Int) (pos : Position)
    (search : HeatSearch) (dir : Int × Int × Int) : HeatSearch :=
  match neighbour frontierStep pos dir with
  | none => search
  | some next =>
    let key := packPos next
    let isSource := sourcePos.contains key
    if !isSource && !sinkPos.contains key then search
    else if (search.distances.lookup key).isSome then search
    else
      ⟨AList.insert key (distance + 1) search.distances,
        if isSource then search.frontier ++ [next] else search.frontier⟩

/-- One position of the frontier after the other. Every key of a source joins
the frontier once, so as many rounds as there are sources empty it. -/
def run (sourcePos sinkPos : List UInt64) : Nat → HeatSearch → Table UInt64 Int
  | 0, search => search.distances
  | rounds + 1, search =>
    match search.frontier with
    | [] => search.distances
    | pos :: frontier =>
      let distance := (search.distances.lookup (packPos pos)).getD 0
      run sourcePos sinkPos rounds
        (dirs.foldl (reach sourcePos sinkPos distance pos) ⟨search.distances, frontier⟩)

end HeatSearch

def distByPos (states : HeatStates) : Table UInt64 Int :=
  let sources := heatSources registry machines
  let sourcePos := sources.map fun machine => packPos machine.position
  let sinkPos := (heatSinks registry machines).map fun machine => packPos machine.position
  HeatSearch.run sourcePos sinkPos sources.length
    (sources.foldl (HeatSearch.seed states) ⟨∅, []⟩)

/-- A sink that no distance was found for comes before all others. -/
def sinkOrder (states : HeatStates) : List HeatMachine :=
  let distances := distByPos registry machines states
  let distance := fun machine : HeatMachine =>
    (distances.lookup (packPos machine.position)).getD (-1)
  (heatSinks registry machines).mergeSort fun first second =>
    decide (distance first ≤ distance second)

def donor (sink : HeatMachine) (dir : Int × Int × Int) : Option HeatMachine := do
  let next ← neighbour sinkStep sink.position dir
  let prod ← (producersByPos registry machines).lookup (packPos next)
  if prod.entity = sink.entity then none else some prod

def give (source sink : Nat) (transfer : Int) (states : HeatStates) : HeatStates :=
  fun entity =>
    let state := states entity
    if entity = sink then
      { state with
        current := state.current + transfer
        heatStored := state.heatStored.map fun _ => state.current + transfer }
    else if entity = source then { state with current := state.current - transfer }
    else state

def donors (sink : HeatMachine) : List HeatMachine :=
  dirs.filterMap (donor registry machines sink)

def draw (sink : HeatMachine) : List HeatMachine → Int → HeatStates → HeatStates
  | [], _, states => states
  | prod :: rest, needed, states =>
    let available := (states prod.entity).current
    if available ≤ 0 then draw sink rest needed states
    else
      let transfer := min needed available
      if transfer ≤ 0 then draw sink rest needed states
      else
        let given := give prod.entity sink.entity transfer states
        if needed - transfer ≤ 0 then given else draw sink rest (needed - transfer) given

def visit (states : HeatStates) (sink : HeatMachine) : HeatStates :=
  let state := states sink.entity
  if state.capacity ≤ state.current then states
  else
    let needed := wrapI32 (state.capacity - state.current)
    if needed ≤ 0 then states
    else draw sink (donors registry machines sink) needed states

def heatPass (states : HeatStates) : HeatStates :=
  if (heatSources registry machines).isEmpty then states
  else (sinkOrder registry machines states).foldl (visit registry machines) states

end Pass

section Transfers

variable {registry : MachineRegistry} {machines : List HeatMachine} {prod : HeatMachine}

theorem mem_of_lookup_foldl_insert
    (keyOf : HeatMachine → UInt64) (sources : List HeatMachine) {table : Table UInt64 HeatMachine}
    (found : (sources.foldl (fun producers machine =>
      AList.insert (keyOf machine) machine producers) table).lookup key = some prod) :
    prod ∈ sources ∨ table.lookup key = some prod := by
  induction sources generalizing table with
  | nil => exact .inr found
  | cons machine rest ih =>
    rcases ih found with mem | found
    · exact .inl (List.mem_cons_of_mem machine mem)
    rw [Table.lookup_insert_eq] at found
    split at found
    · cases found
      exact .inl List.mem_cons_self
    · exact .inr found

theorem producersByPos_mem (found : (producersByPos registry machines).lookup key = some prod) :
    prod ∈ heatSources registry machines := by
  rw [producersByPos] at found
  rcases mem_of_lookup_foldl_insert _ _ found with mem | found
  · exact mem
  · exact absurd found (by simp)

theorem donor_spec {sink prod : HeatMachine}
    (found : donor registry machines sink dir = some prod) :
    prod ∈ heatSources registry machines ∧ prod.entity ≠ sink.entity := by
  unfold donor at found
  rw [Option.bind_eq_bind, Option.bind_eq_some_iff] at found
  obtain ⟨next, _, found⟩ := found
  rw [Option.bind_eq_bind, Option.bind_eq_some_iff] at found
  obtain ⟨other, lookup, found⟩ := found
  split at found
  · exact absurd found (by simp)
  · next apart =>
    cases found
    exact ⟨producersByPos_mem lookup, apart⟩

structure Closed (machines : List HeatMachine) (kept : HeatStates → Prop) : Prop where
  give : ∀ states, kept states → ∀ source ∈ machines, ∀ sink ∈ machines,
    source.entity ≠ sink.entity → ∀ transfer, 0 < transfer →
      transfer ≤ (states source.entity).current →
      transfer ≤ (states sink.entity).capacity - (states sink.entity).current →
      kept (give source.entity sink.entity transfer states)

variable {kept : HeatStates → Prop} {states : HeatStates} {sink : HeatMachine}

theorem donors_spec {sink prod : HeatMachine} (found : prod ∈ donors registry machines sink) :
    prod ∈ heatSources registry machines ∧ prod.entity ≠ sink.entity := by
  obtain ⟨dir, _, found⟩ := List.mem_filterMap.mp found
  exact donor_spec found

theorem Closed.draw (closed : Closed machines kept) (mem : sink ∈ machines)
    (others : ∀ prod ∈ prods, prod ∈ machines ∧ prod.entity ≠ sink.entity)
    (room : needed ≤ (states sink.entity).capacity - (states sink.entity).current)
    (holds : kept states) : kept (draw sink prods needed states) := by
  induction prods generalizing needed states with
  | nil => exact holds
  | cons prod rest ih =>
    rw [List.forall_mem_cons] at others
    rw [Mining.draw]
    split
    · exact ih others.2 room holds
    simp only
    split
    · exact ih others.2 room holds
    rename_i some
    have next := closed.give states holds prod others.1.1 sink mem others.1.2 _
      (Int.not_le.mp some) (Int.min_le_right _ _) ((Int.min_le_left _ _).trans room)
    split
    · exact next
    · refine ih others.2 ?_ next
      simp only [Mining.give, if_true]
      omega

theorem Closed.visit (closed : Closed machines kept) (mem : sink ∈ machines)
    (holds : kept states) : kept (visit registry machines states sink) := by
  unfold Mining.visit
  simp only
  split
  · exact holds
  rename_i notFull
  split
  · exact holds
  · refine closed.draw mem (fun prod found => ?_) (wrapI32_le (by omega)) holds
    exact ⟨(List.mem_filter.mp (donors_spec found).1).1, (donors_spec found).2⟩

theorem sinkOrder_perm (states : HeatStates) :
    (sinkOrder registry machines states).Perm (heatSinks registry machines) :=
  List.mergeSort_perm _ _

theorem Closed.heatPass (closed : Closed machines kept) (holds : kept states) :
    kept (heatPass registry machines states) := by
  unfold Mining.heatPass
  split
  · exact holds
  have within : ∀ sink ∈ sinkOrder registry machines states, sink ∈ machines := by
    intro sink mem
    exact (List.mem_filter.mp ((sinkOrder_perm states).mem_iff.mp mem)).1
  generalize sinkOrder registry machines states = sinks at within
  induction sinks generalizing states with
  | nil => exact holds
  | cons sink rest ih =>
    rw [List.forall_mem_cons] at within
    exact ih (closed.visit within.1 holds) within.2

end Transfers

/-- Machines at distinct positions, in the order of the view. -/
structure HeatLayout where
  machines : List HeatMachine
  entities : (machines.map HeatMachine.entity).Nodup
  positions : (machines.map HeatMachine.position).Nodup

def totalHeat (machines : List HeatMachine) (states : HeatStates) : Int :=
  (machines.map fun machine => (states machine.entity).current).sum

def Within (machines : List HeatMachine) (states : HeatStates) : Prop :=
  ∀ machine ∈ machines, 0 ≤ (states machine.entity).current ∧
    (states machine.entity).current ≤ (states machine.entity).capacity

section Conservation

variable {machines : List HeatMachine} {states : HeatStates} {source sink : Nat} {transfer : Int}

theorem current_give (apart : source ≠ sink) (entity : Nat) :
    (give source sink transfer states entity).current = (states entity).current +
      ((if entity = sink then transfer else 0) + if entity = source then -transfer else 0) := by
  unfold give
  by_cases atSink : entity = sink
  · have elsewhere : entity ≠ source := fun same => apart (same.symm.trans atSink)
    simp only [if_pos atSink, if_neg elsewhere, Int.add_zero]
  simp only [if_neg atSink, Int.zero_add]
  split
  · exact Int.sub_eq_add_neg
  · exact (Int.add_zero _).symm

theorem capacity_give (entity : Nat) :
    (give source sink transfer states entity).capacity = (states entity).capacity := by
  unfold give
  split
  · rfl
  · split <;> rfl

theorem sum_at {entities : List Nat} (distinct : entities.Nodup) (mem : entity ∈ entities)
    (value : Int) :
    (entities.map fun other => if other = entity then value else 0).sum = value := by
  induction entities with
  | nil => simp at mem
  | cons head rest ih =>
    obtain ⟨fresh, distinct⟩ := List.nodup_cons.mp distinct
    rw [List.map_cons, List.sum_cons]
    by_cases here : head = entity
    · have none : (rest.map fun other => if other = entity then value else 0).sum = 0 := by
        apply List.sum_eq_zero
        intro amount found
        obtain ⟨other, otherIn, rfl⟩ := List.mem_map.mp found
        rw [if_neg]
        rintro rfl
        exact fresh (here ▸ otherIn)
      rw [if_pos here, none, Int.add_zero]
    · rw [if_neg here, Int.zero_add]
      exact ih distinct ((List.mem_cons.mp mem).resolve_left (Ne.symm here))

theorem totalHeat_give (distinct : (machines.map HeatMachine.entity).Nodup)
    (sourceIn : source ∈ machines.map HeatMachine.entity)
    (sinkIn : sink ∈ machines.map HeatMachine.entity) (apart : source ≠ sink) :
    totalHeat machines (give source sink transfer states) = totalHeat machines states := by
  have entitySum : ∀ states : HeatStates, totalHeat machines states =
      ((machines.map HeatMachine.entity).map fun entity => (states entity).current).sum := by
    intro states
    rw [totalHeat, List.map_map]
    rfl
  rw [entitySum, entitySum]
  simp only [current_give apart]
  rw [List.sum_map_add, List.sum_map_add, sum_at distinct sinkIn, sum_at distinct sourceIn,
    Int.add_right_neg, Int.add_zero]

theorem closed_total (layout : HeatLayout) (total : Int) :
    Closed layout.machines fun states => totalHeat layout.machines states = total where
  give := by
    intro states holds source sourceIn sink sinkIn apart transfer _ _ _
    rw [totalHeat_give layout.entities (List.mem_map_of_mem sourceIn) (List.mem_map_of_mem sinkIn)
      apart]
    exact holds

theorem closed_within (machines : List HeatMachine) : Closed machines (Within machines) where
  give := by
    intro states within source sourceIn sink sinkIn apart transfer positive paid room machine mem
    have bounds := within machine mem
    rw [current_give apart, capacity_give]
    by_cases atSink : machine.entity = sink.entity
    · rw [if_pos atSink, if_neg fun same => apart (same.symm.trans atSink)]
      rw [atSink] at bounds ⊢
      omega
    rw [if_neg atSink]
    by_cases atSource : machine.entity = source.entity
    · rw [if_pos atSource]
      rw [atSource] at bounds ⊢
      omega
    · rw [if_neg atSource]
      omega

end Conservation

def HeatMachine.translate (shift : Int × Int × Int) (machine : HeatMachine) : HeatMachine :=
  { machine with position := machine.position.offset shift.1 shift.2.1 shift.2.2 }

theorem offset_injective (shift : Int × Int × Int) :
    Function.Injective fun pos : Position => pos.offset shift.1 shift.2.1 shift.2.2 := by
  rintro ⟨x, y, z⟩ ⟨otherX, otherY, otherZ⟩ same
  simp only [Position.offset, Position.mk.injEq, UInt32.add_left_inj] at same
  rw [same.1, same.2.1, same.2.2]

def HeatLayout.translate (shift : Int × Int × Int) (layout : HeatLayout) : HeatLayout where
  machines := layout.machines.map (HeatMachine.translate shift)
  entities := by
    rw [List.map_map]
    exact layout.entities
  positions := by
    rw [List.map_map]
    have moved := layout.positions.map (offset_injective shift)
    rwa [List.map_map] at moved

namespace HeatLayout

variable {registry : MachineRegistry} {layout : HeatLayout}

/-- The pass neither makes nor loses heat, keeps every level in its bounds, and
does the same wherever the machines stand. -/
structure Behaves (registry : MachineRegistry) (layout : HeatLayout) : Prop where
  total : ∀ states, totalHeat layout.machines (heatPass registry layout.machines states) =
    totalHeat layout.machines states
  within : ∀ states, Within layout.machines states →
    Within layout.machines (heatPass registry layout.machines states)
  translated : ∀ shift states, Within layout.machines states →
    heatPass registry (layout.translate shift).machines states =
      heatPass registry layout.machines states

def NeverLinked (registry : MachineRegistry) (layout : HeatLayout) : Prop :=
  ∀ shift, ∀ sink ∈ heatSinks registry (layout.translate shift).machines,
    donors registry (layout.translate shift).machines sink = []

variable {machines : List HeatMachine}

theorem heatPass_of_unlinked
    (unlinked : ∀ sink ∈ heatSinks registry machines, donors registry machines sink = [])
    (states : HeatStates) : heatPass registry machines states = states := by
  unfold heatPass
  split
  · rfl
  have none : ∀ sink ∈ sinkOrder registry machines states,
      donors registry machines sink = [] := by
    intro sink mem
    exact unlinked sink ((sinkOrder_perm states).mem_iff.mp mem)
  generalize sinkOrder registry machines states = sinks at none
  induction sinks with
  | nil => rfl
  | cons sink rest ih =>
    rw [List.forall_mem_cons] at none
    have same : visit registry machines states sink = states := by
      unfold visit
      simp only [none.1, draw, ite_self]
    rw [List.foldl_cons, same]
    exact ih none.2

theorem translate_zero (layout : HeatLayout) :
    (layout.translate (0, 0, 0)).machines = layout.machines := by
  have zero : UInt32.ofInt 0 = 0 := rfl
  have same : HeatMachine.translate (0, 0, 0) = id := by
    funext machine
    simp [HeatMachine.translate, Position.offset, zero]
  show layout.machines.map _ = _
  rw [same, List.map_id]

theorem behaves_of_neverLinked (unlinked : layout.NeverLinked registry) :
    layout.Behaves registry where
  total := fun states => (closed_total layout _).heatPass rfl
  within := fun states within => (closed_within _).heatPass within
  translated := by
    intro shift states _
    have here := unlinked (0, 0, 0)
    rw [translate_zero] at here
    rw [heatPass_of_unlinked (unlinked shift), heatPass_of_unlinked here]

def contest (first second : Nat) (level : Int) : HeatStates :=
  fun entity =>
    if entity = first then ⟨2, level, none⟩
    else if entity = second then ⟨2, 2 - level, none⟩
    else ⟨0, 0, none⟩

section Contest

variable {first second : Nat} {level : Int}

theorem contest_swap (apart : first ≠ second) (level : Int) :
    contest first second level = contest second first (2 - level) := by
  funext entity
  unfold contest
  by_cases atFirst : entity = first
  · rw [if_pos atFirst, if_neg fun same => apart (atFirst.symm.trans same), if_pos atFirst,
      Int.sub_sub_self]
  · rw [if_neg atFirst, if_neg atFirst]

theorem contest_first (first second : Nat) (level : Int) :
    contest first second level first = ⟨2, level, none⟩ := if_pos rfl

theorem contest_second (apart : first ≠ second) (level : Int) :
    contest first second level second = ⟨2, 2 - level, none⟩ := by
  rw [contest_swap apart, contest_first]

theorem contest_other (notFirst : entity ≠ first) (notSecond : entity ≠ second) (level : Int) :
    contest first second level entity = ⟨0, 0, none⟩ := by
  rw [contest, if_neg notFirst, if_neg notSecond]

theorem give_contest (apart : first ≠ second) (level transfer : Int) :
    give second first transfer (contest first second level) =
      contest first second (level + transfer) := by
  funext entity
  unfold give
  by_cases atFirst : entity = first
  · subst atFirst
    simp only [if_true, contest_first, Option.map_none]
  rw [if_neg atFirst]
  by_cases atSecond : entity = second
  · subst atSecond
    rw [if_pos rfl, contest_second apart, contest_second apart, Int.sub_sub]
  · rw [if_neg atSecond, contest_other atFirst atSecond, contest_other atFirst atSecond]

variable {sink : HeatMachine}

theorem draw_contest (apart : first ≠ second) (room : level < 2) (here : sink.entity = first)
    {prods : List HeatMachine} (others : ∀ prod ∈ prods, prod.entity ≠ first) :
    draw sink prods (2 - level) (contest first second level) =
      if prods.any fun prod => prod.entity == second then contest first second 2
      else contest first second level := by
  induction prods with
  | nil => rfl
  | cons prod rest ih =>
    rw [List.forall_mem_cons] at others
    rw [draw, List.any_cons]
    by_cases found : prod.entity = second
    · rw [found, contest_second apart, here]
      simp only [Int.min_self, give_contest apart, beq_self_eq_true, Bool.true_or, if_true]
      rw [if_neg (by omega), if_neg (by omega), if_pos (by omega)]
      congr 1
      omega
    · rw [contest_other others.1 found, if_pos (Int.le_refl 0), ih others.2]
      simp [found]

variable {machines : List HeatMachine}

theorem visit_first (apart : first ≠ second) (lower : 0 ≤ level) (upper : level ≤ 2)
    (here : sink.entity = first) :
    visit registry machines (contest first second level) sink =
      if (donors registry machines sink).any fun prod => prod.entity == second then
        contest first second 2
      else contest first second level := by
  have others : ∀ prod ∈ donors registry machines sink, prod.entity ≠ first := by
    intro prod found
    exact here ▸ (donors_spec found).2
  unfold visit
  simp only [here, contest_first]
  by_cases full : 2 ≤ level
  · obtain rfl := Int.le_antisymm upper full
    simp
  · rw [if_neg full, wrapI32_of_bounds (by omega) (by omega), if_neg (by omega),
      draw_contest apart (by omega) here others]

theorem visit_contest (apart : first ≠ second) (lower : 0 ≤ level) (upper : level ≤ 2)
    (sink : HeatMachine) : ∃ next, (next = level ∨ next = 0 ∨ next = 2) ∧
      visit registry machines (contest first second level) sink = contest first second next := by
  by_cases atFirst : sink.entity = first
  · rw [visit_first apart lower upper atFirst]
    split
    · exact ⟨2, .inr (.inr rfl), rfl⟩
    · exact ⟨level, .inl rfl, rfl⟩
  · by_cases atSecond : sink.entity = second
    · rw [contest_swap apart, visit_first apart.symm (by omega) (by omega) atSecond]
      split
      · exact ⟨0, .inr (.inl rfl), (contest_swap apart 0).symm⟩
      · exact ⟨level, .inl rfl, (contest_swap apart level).symm⟩
    · refine ⟨level, .inl rfl, ?_⟩
      unfold visit
      rw [contest_other atFirst atSecond]
      rfl

theorem foldl_contest (apart : first ≠ second)
    {sinks : List HeatMachine} (start : level = 0 ∨ level = 1 ∨ level = 2)
    (linked : level ≠ 1 ∨ ∃ sink ∈ sinks, sink.entity = first ∧
      ∃ prod ∈ donors registry machines sink, prod.entity = second) :
    ∃ last, (last = 0 ∨ last = 2) ∧
      sinks.foldl (visit registry machines) (contest first second level) =
        contest first second last := by
  induction sinks generalizing level with
  | nil =>
    rcases linked with decided | ⟨sink, mem, _⟩
    · exact ⟨level, by omega, rfl⟩
    · exact absurd mem List.not_mem_nil
  | cons sink rest ih =>
    have lower : 0 ≤ level := by omega
    have upper : level ≤ 2 := by omega
    obtain ⟨next, kept, same⟩ :=
      @visit_contest registry first second level machines apart lower upper sink
    have nextStart : next = 0 ∨ next = 1 ∨ next = 2 := by omega
    have stays : level ≠ 1 → next ≠ 1 := by omega
    rw [List.foldl_cons]
    by_cases here : sink.entity = first ∧
        ∃ prod ∈ donors registry machines sink, prod.entity = second
    · obtain ⟨here, prod, found, same⟩ := here
      have finds : ((donors registry machines sink).any
          fun prod => prod.entity == second) = true :=
        List.any_eq_true.mpr ⟨prod, found, beq_iff_eq.mpr same⟩
      rw [visit_first apart lower upper here, if_pos finds]
      exact ih (.inr (.inr rfl)) (.inl (by decide))
    · rw [same]
      refine ih nextStart ?_
      rcases linked with decided | ⟨other, mem, linked⟩
      · exact .inl (stays decided)
      · rcases List.mem_cons.mp mem with rfl | mem
        · exact absurd linked here
        · exact .inr ⟨other, mem, linked⟩

theorem foldl_contest_unlinked {sinks : List HeatMachine} (unlinked : ∀ sink ∈ sinks,
      sink.entity = first ∨ sink.entity = second → donors registry machines sink = []) :
    sinks.foldl (visit registry machines) (contest first second 1) = contest first second 1 := by
  induction sinks with
  | nil => rfl
  | cons sink rest ih =>
    rw [List.forall_mem_cons] at unlinked
    have same : visit registry machines (contest first second 1) sink =
        contest first second 1 := by
      by_cases either : sink.entity = first ∨ sink.entity = second
      · unfold visit
        simp only [unlinked.1 either, draw, ite_self]
      rw [not_or] at either
      unfold visit
      rw [contest_other either.1 either.2]
      rfl
    rw [List.foldl_cons, same]
    exact ih unlinked.2

end Contest

def unseen : UInt32 := 2147483649

theorem sinkStep_unseen {dir : Int × Int × Int} (mem : dir ∈ dirs) :
    sinkStep unseen dir.1 = none ∧ sinkStep unseen dir.2.1 = none := by
  have each : ∀ dir ∈ dirs, sinkStep unseen dir.1 = none ∧ sinkStep unseen dir.2.1 = none := by
    decide +kernel
  exact each dir mem

theorem donors_unseen {sink : HeatMachine}
    (away : sink.position.x = unseen ∨ sink.position.y = unseen) :
    donors registry machines sink = [] := by
  rw [donors, List.filterMap_eq_nil_iff]
  intro dir mem
  have hidden : neighbour sinkStep sink.position dir = none := by
    unfold neighbour
    rcases away with away | away
    · rw [away, (sinkStep_unseen mem).1]
      rfl
    · rw [away, (sinkStep_unseen mem).2]
      cases sinkStep sink.position.x dir.1 <;> rfl
  rw [donor, hidden]
  rfl

theorem exists_shift (start goal : UInt32) : ∃ delta : Int, start + UInt32.ofInt delta = goal := by
  refine ⟨((goal - start).toNat : Int), ?_⟩
  have same : UInt32.ofInt ((goal - start).toNat : Int) = goal - start := by
    have small := (goal - start).toNat_lt
    apply UInt32.toNat_inj.mp
    simp only [UInt32.ofInt, UInt32.toNat_ofNat']
    omega
  rw [same, UInt32.add_comm, UInt32.sub_add_cancel]

theorem eq_of_entity (layout : HeatLayout) {first second : HeatMachine}
    (firstIn : first ∈ layout.machines) (secondIn : second ∈ layout.machines)
    (same : first.entity = second.entity) : first = second :=
  List.inj_on_of_nodup_map layout.entities firstIn secondIn same

theorem neverLinked_of_behaves (behaves : layout.Behaves registry) :
    layout.NeverLinked registry := by
  intro shift sink mem
  by_contra linked
  obtain ⟨prod, found⟩ := List.exists_mem_of_ne_nil _ linked
  obtain ⟨isSource, other⟩ := donors_spec found
  obtain ⟨sinkHome, sinkIn, rfl⟩ := List.mem_map.mp (List.mem_filter.mp mem).1
  obtain ⟨prodHome, prodIn, rfl⟩ := List.mem_map.mp (List.mem_filter.mp isSource).1
  have apart : sinkHome.entity ≠ prodHome.entity := other.symm
  have within : Within layout.machines (contest sinkHome.entity prodHome.entity 1) := by
    intro machine _
    unfold contest
    split
    · decide
    · split <;> decide
  -- where they are linked, one of the two ends up with all the heat
  obtain ⟨last, decided, near⟩ := @foldl_contest registry _ _ 1
    (layout.translate shift).machines apart
    (sinkOrder registry (layout.translate shift).machines
      (contest sinkHome.entity prodHome.entity 1)) (.inr (.inl rfl))
    (.inr ⟨_, (sinkOrder_perm _).mem_iff.mpr mem, rfl, _, found, rfl⟩)
  -- where neither sees a neighbour, nothing moves
  obtain ⟨dx, atX⟩ := exists_shift sinkHome.position.x unseen
  obtain ⟨dy, atY⟩ := exists_shift prodHome.position.y unseen
  have far : heatPass registry (layout.translate (dx, dy, 0)).machines
      (contest sinkHome.entity prodHome.entity 1) =
        contest sinkHome.entity prodHome.entity 1 := by
    unfold heatPass
    split
    · rfl
    apply foldl_contest_unlinked
    intro machine listed either
    have inMap := (List.mem_filter.mp ((sinkOrder_perm _).mem_iff.mp listed)).1
    obtain ⟨home, homeIn, rfl⟩ := List.mem_map.mp inMap
    apply donors_unseen
    rcases either with same | same
    · rw [eq_of_entity layout homeIn sinkIn same]
      exact .inl atX
    · rw [eq_of_entity layout homeIn prodIn same]
      exact .inr atY
  have nonempty : (heatSources registry (layout.translate shift).machines).isEmpty = false := by
    rw [List.isEmpty_eq_false_iff]
    exact List.ne_nil_of_mem isSource
  have same := (behaves.translated shift _ within).trans
    (behaves.translated (dx, dy, 0) _ within).symm
  rw [far, heatPass, nonempty, if_neg (by decide), near] at same
  have level := congrArg (fun states => (states sinkHome.entity).current) same
  simp only [contest_first] at level
  omega

theorem behaves_iff (registry : MachineRegistry) (layout : HeatLayout) :
    layout.Behaves registry ↔ layout.NeverLinked registry :=
  ⟨neverLinked_of_behaves, behaves_of_neverLinked⟩

def besideGenerator : HeatLayout where
  machines := [⟨1, 20, .heat, ⟨10, 64, 10⟩⟩, ⟨2, 21, .heat, ⟨11, 64, 10⟩⟩]
  entities := by decide
  positions := by decide

def heatRegistry : MachineRegistry :=
  AList.insert 20 ⟨"Generator", none, some .heat, 1, 0, 0, 100, 0, 100⟩
    (AList.insert 21 ⟨"Exchanger", some .heat, none, 1, 0, 0, 100, 100, 0⟩ ∅)

theorem besideGenerator_not_behaves : ¬ besideGenerator.Behaves heatRegistry := by
  intro behaves
  have same := behaves.translated (-20, 0, 0)
    (fun entity => if entity = 1 then ⟨100, 60, none⟩ else ⟨100, 0, some 0⟩)
    (by unfold Within; decide +kernel)
  have levels := congrArg (fun states => (states 2).current) same
  revert levels
  decide +kernel

end HeatLayout

end GtnhPlatform.Mining
