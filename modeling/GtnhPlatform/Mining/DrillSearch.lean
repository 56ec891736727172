import Mathlib.Data.Finset.Card
import Mathlib.Data.Int.ConditionallyCompleteOrder
import Mathlib.Data.Int.Interval
import Mathlib.Tactic.Linarith
import Mathlib.Tactic.Ring
import GtnhPlatform.Mining.DrillYields

namespace GtnhPlatform.Mining

open List

open Actions (BlockPos Block CASResult)

namespace Spiral

def dirDx (dir : Nat) : Int := [1, 0, -1, 0].getD dir 0

def dirDz (dir : Nat) : Int := [0, 1, 0, -1].getD dir 0

variable (spiral : Spiral) (steps k : Nat)

theorem advance_cell : spiral.advance.x = spiral.x + dirDx spiral.dir ∧
    spiral.advance.z = spiral.z + dirDz spiral.dir := by
  rw [advance]
  split
  · exact ⟨rfl, rfl⟩
  · exact ⟨rfl, rfl⟩

theorem advance_along (within : spiral.walked + steps < spiral.side) :
    advance^[steps] spiral = { spiral with
      x := spiral.x + steps * dirDx spiral.dir
      z := spiral.z + steps * dirDz spiral.dir
      walked := spiral.walked + steps } := by
  induction steps with
  | zero => simp
  | succ steps ih =>
    rw [Function.iterate_succ_apply', ih (by omega), advance, if_pos (by exact within), mk.injEq]
    refine ⟨?_, ?_, rfl, rfl, rfl, rfl⟩
    · rw [Nat.cast_succ, add_one_mul, ← add_assoc]; rfl
    · rw [Nat.cast_succ, add_one_mul, ← add_assoc]; rfl

theorem advance_side (ends : spiral.walked + steps + 1 = spiral.side) :
    advance^[steps + 1] spiral =
      { x := spiral.x + (steps + 1) * dirDx spiral.dir
        z := spiral.z + (steps + 1) * dirDz spiral.dir
        side := if spiral.second then spiral.side + 1 else spiral.side
        dir := (spiral.dir + 1) % 4
        second := !spiral.second
        walked := 0 } := by
  rw [Function.iterate_succ_apply', advance_along _ _ (by omega), advance,
    if_neg (by exact Nat.not_lt.mpr ends.ge), mk.injEq]
  refine ⟨?_, ?_, rfl, rfl, rfl, rfl⟩
  · rw [add_one_mul, ← add_assoc]; rfl
  · rw [add_one_mul, ← add_assoc]; rfl

theorem cell_along (within : spiral.walked + steps ≤ spiral.side) :
    ((advance^[steps] spiral).x, (advance^[steps] spiral).z) =
      (spiral.x + steps * dirDx spiral.dir, spiral.z + steps * dirDz spiral.dir) := by
  cases steps with
  | zero => simp
  | succ steps =>
    rw [Function.iterate_succ_apply', (advance_cell _).1, (advance_cell _).2,
      advance_along _ _ (by omega), Nat.cast_succ, add_one_mul, add_one_mul, ← add_assoc, ← add_assoc]

def after (n : Nat) : Spiral := advance^[n] {}

theorem after_add (n : Nat) : after (n + steps) = advance^[steps] (after n) := by
  rw [after, after, Nat.add_comm, Function.iterate_add_apply]

/-- The last cell of the square. -/
def squareEnd : Nat := 4 * k * (k + 1)

variable (whole : after (squareEnd k) = ⟨k, -k, 2 * k + 1, 0, false, 2 * k⟩)

include whole

theorem after_leave : after (squareEnd k + 1) = ⟨k + 1, -k, 2 * k + 1, 1, true, 0⟩ := by
  rw [after_add, whole, advance_side _ 0 rfl]
  simp [dirDx, dirDz]

theorem after_right :
    after (squareEnd k + 1 + (2 * k + 1)) = ⟨k + 1, k + 1, 2 * k + 2, 2, false, 0⟩ := by
  rw [after_add, after_leave k whole, advance_side _ (2 * k) (by simp), mk.injEq]
  refine ⟨?_, ?_, rfl, rfl, rfl, rfl⟩
  · simp [dirDx]
  · simp [dirDz]; omega

theorem after_top : after (squareEnd k + 1 + (2 * k + 1) + (2 * k + 2)) =
    ⟨-(k + 1), k + 1, 2 * k + 2, 3, true, 0⟩ := by
  rw [after_add, after_right k whole, advance_side _ (2 * k + 1) (by simp), mk.injEq]
  refine ⟨?_, ?_, rfl, rfl, rfl, rfl⟩
  · simp [dirDx]; omega
  · simp [dirDz]

theorem after_left : after (squareEnd k + 1 + (2 * k + 1) + (2 * k + 2) + (2 * k + 2)) =
    ⟨-(k + 1), -(k + 1), 2 * k + 3, 0, false, 0⟩ := by
  rw [after_add, after_top k whole, advance_side _ (2 * k + 1) (by simp), mk.injEq]
  refine ⟨?_, ?_, rfl, by simp, rfl, rfl⟩
  · simp [dirDx]
  · simp [dirDz]; omega

omit whole

theorem after_square : after (squareEnd k) = ⟨k, -k, 2 * k + 1, 0, false, 2 * k⟩ := by
  induction k with
  | zero => rfl
  | succ k ih =>
    have around : squareEnd (k + 1) =
        squareEnd k + 1 + (2 * k + 1) + (2 * k + 2) + (2 * k + 2) + (2 * k + 2) := by
      rw [squareEnd, squareEnd]
      ring
    rw [around, after_add, after_left k ih, advance_along _ _ (by simp), mk.injEq]
    refine ⟨?_, ?_, by simp; omega, rfl, rfl, by simp; omega⟩
    · simp [dirDx]; omega
    · simp [dirDz]

theorem getSpiralOffset_add (n : Nat) {start : Spiral} (reached : after n = start)
    (within : start.walked + steps ≤ start.side) : getSpiralOffset ((n + steps : Nat) : Int) =
      (start.x + steps * dirDx start.dir, start.z + steps * dirDz start.dir) := by
  subst reached
  rw [← cell_along _ _ within, ← after_add]
  rfl

theorem reaches (x z : Int) (inX : -k ≤ x ∧ x ≤ k) (inZ : -k ≤ z ∧ z ≤ k) :
    ∃ n ≤ squareEnd k, getSpiralOffset n = (x, z) := by
  induction k with
  | zero =>
    obtain rfl : x = 0 := by simp at inX; omega
    obtain rfl : z = 0 := by simp at inZ; omega
    exact ⟨0, Nat.zero_le _, rfl⟩
  | succ k ih =>
    have around : squareEnd (k + 1) =
        squareEnd k + 1 + (2 * k + 1) + (2 * k + 2) + (2 * k + 2) + (2 * k + 2) := by
      rw [squareEnd, squareEnd]
      ring
    have square := after_square k
    push_cast at inX inZ
    by_cases right : x = k + 1 ∧ -k ≤ z
    · obtain ⟨steps, counted⟩ := Int.eq_ofNat_of_zero_le (a := z + k) (by omega)
      refine ⟨squareEnd k + 1 + steps, by omega, ?_⟩
      rw [getSpiralOffset_add steps _ (after_leave k square) (by simp; omega)]
      exact Prod.ext (by simp [dirDx]; omega) (by simp [dirDz]; omega)
    by_cases top : z = k + 1
    · obtain ⟨steps, counted⟩ := Int.eq_ofNat_of_zero_le (a := k + 1 - x) (by omega)
      refine ⟨squareEnd k + 1 + (2 * k + 1) + steps, by omega, ?_⟩
      rw [getSpiralOffset_add steps _ (after_right k square) (by simp; omega)]
      exact Prod.ext (by simp [dirDx]; omega) (by simp [dirDz]; omega)
    by_cases left : x = -(k + 1)
    · obtain ⟨steps, counted⟩ := Int.eq_ofNat_of_zero_le (a := k + 1 - z) (by omega)
      refine ⟨squareEnd k + 1 + (2 * k + 1) + (2 * k + 2) + steps, by omega, ?_⟩
      rw [getSpiralOffset_add steps _ (after_top k square) (by simp; omega)]
      exact Prod.ext (by simp [dirDx]; omega) (by simp [dirDz]; omega)
    by_cases bottom : z = -(k + 1)
    · obtain ⟨steps, counted⟩ := Int.eq_ofNat_of_zero_le (a := x + (k + 1)) (by omega)
      refine ⟨squareEnd k + 1 + (2 * k + 1) + (2 * k + 2) + (2 * k + 2) + steps, by omega, ?_⟩
      rw [getSpiralOffset_add steps _ (after_left k square) (by simp; omega)]
      exact Prod.ext (by simp [dirDx]; omega) (by simp [dirDz]; omega)
    · obtain ⟨n, before, found⟩ := ih (by omega) (by omega)
      exact ⟨n, by omega, found⟩

theorem dir_lt (n : Nat) : (after n).dir < 4 := by
  induction n with
  | zero => decide
  | succ n ih =>
    rw [after_add, Function.iterate_one, advance]
    split
    · exact ih
    · exact Nat.mod_lt _ (by decide)

/-- One step along one axis. -/
def Adjacent (first second : Int × Int) : Prop :=
  |second.1 - first.1| + |second.2 - first.2| = 1

theorem adjacent_succ (n : Nat) : Adjacent (getSpiralOffset n) (getSpiralOffset (n + 1 : Nat)) := by
  have cell := advance_cell (after n)
  have stepped : getSpiralOffset (n + 1 : Nat) = ((after n).advance.x, (after n).advance.z) := by
    change ((after (n + 1)).x, (after (n + 1)).z) = _
    rw [after_add, Function.iterate_one]
  have here : getSpiralOffset n = ((after n).x, (after n).z) := rfl
  rw [Adjacent, stepped, here, cell.1, cell.2]
  have small := dir_lt n
  generalize after n = spiral at *
  have turned : spiral.dir = 0 ∨ spiral.dir = 1 ∨ spiral.dir = 2 ∨ spiral.dir = 3 := by omega
  rcases turned with dir | dir | dir | dir <;> simp [dir, dirDx, dirDz]

noncomputable def cells : Finset (Int × Int) := Finset.Icc (-(k : Int)) k ×ˢ Finset.Icc (-(k : Int)) k

theorem card_cells : (cells k).card = (2 * k + 1) ^ 2 := by
  rw [cells, Finset.card_product, Int.card_Icc]
  have side : (k + 1 - -(k : Int)).toNat = 2 * k + 1 := by omega
  rw [side, sq]

theorem image_getSpiralOffset :
    (Finset.range ((2 * k + 1) ^ 2)).image (fun n : Nat => getSpiralOffset n) = cells k := by
  have size : (2 * k + 1) ^ 2 = squareEnd k + 1 := by
    rw [squareEnd]
    ring
  have covered : cells k ⊆
      (Finset.range ((2 * k + 1) ^ 2)).image (fun n : Nat => getSpiralOffset n) := by
    rintro ⟨x, z⟩ inside
    rw [cells, Finset.mem_product, Finset.mem_Icc, Finset.mem_Icc] at inside
    obtain ⟨n, before, found⟩ := reaches k x z inside.1 inside.2
    exact Finset.mem_image.mpr ⟨n, Finset.mem_range.mpr (by omega), found⟩
  refine (Finset.eq_of_subset_of_card_le covered ?_).symm
  rw [card_cells]
  exact Finset.card_image_le.trans_eq (Finset.card_range _)

theorem getSpiralOffset_injOn :
    Set.InjOn (fun n : Nat => getSpiralOffset n) (Finset.range ((2 * k + 1) ^ 2)) := by
  rw [← Finset.card_image_iff, image_getSpiralOffset, card_cells, Finset.card_range]

theorem getSpiralOffset_injective : Function.Injective fun n : Nat => getSpiralOffset n := by
  intro n m same
  have within (i : Nat) (small : i ≤ n + m) : i ∈ Finset.range ((2 * (n + m) + 1) ^ 2) := by
    rw [Finset.mem_range]
    nlinarith
  exact getSpiralOffset_injOn (n + m) (within n (by omega)) (within m (by omega)) same

/-- One step after the other, each cell of a square once. -/
structure Covers : Prop where
  inside : Set.MapsTo (fun n : Nat => getSpiralOffset n) (Finset.range ((2 * k + 1) ^ 2)) (cells k)
  once : Set.InjOn (fun n : Nat => getSpiralOffset n) (Finset.range ((2 * k + 1) ^ 2))
  every : Set.SurjOn (fun n : Nat => getSpiralOffset n) (Finset.range ((2 * k + 1) ^ 2)) (cells k)
  adjacent : ∀ n : Nat, Adjacent (getSpiralOffset n) (getSpiralOffset (n + 1 : Nat))

theorem covers : Covers k where
  inside n small := by
    rw [← image_getSpiralOffset]
    exact Finset.mem_image_of_mem _ small
  once := getSpiralOffset_injOn k
  every cell inside := by
    rw [← image_getSpiralOffset, Finset.coe_image] at inside
    exact inside
  adjacent := adjacent_succ

end Spiral

theorem layerOffset_natCast (layer : Nat) :
    layerOffset layer = if layer % 2 = 1 then -(((layer + 1) / 2 : Nat) : Int) else (layer / 2 : Nat) := by
  have half : (-((layer : Int) + 1)).tdiv 2 = -(((layer + 1) / 2 : Nat) : Int) := by
    rw [Int.neg_tdiv]
    rfl
  have odd : (layer : Int).tmod 2 = 1 ↔ layer % 2 = 1 := by
    rw [Int.tmod_eq_emod_of_nonneg (Int.natCast_nonneg _)]
    omega
  have even : (layer : Int).tdiv 2 = (layer / 2 : Nat) := rfl
  rw [layerOffset, half, even]
  simp only [odd]
  split <;> split <;> omega

theorem layerOffset_injective : Function.Injective fun layer : Nat => layerOffset layer := by
  intro first second same
  simp only [layerOffset_natCast] at same
  split at same <;> split at same <;> omega

/-- The cell that comes after `count` others, the drill's own among them. -/
def cellOf (pos : BlockPos) (count : Nat) : BlockPos :=
  let (dx, dz) := getSpiralOffset (count % 440 : Nat)
  ⟨pos.x + dx, pos.y + layerOffset (count / 440 : Nat), pos.z + dz⟩

variable (pos : BlockPos)

theorem cellOf_injective : Function.Injective (cellOf pos) := by
  intro first second same
  simp only [cellOf, BlockPos.mk.injEq, add_right_inj] at same
  obtain ⟨x, y, z⟩ := same
  have layers := layerOffset_injective y
  have indices := Spiral.getSpiralOffset_injective (Prod.ext x z)
  rw [← Nat.div_add_mod first 440, ← Nat.div_add_mod second 440, layers, indices]

/-- As many cells are behind it. -/
structure DrillComponent.Passed (drill : DrillComponent) (count : Nat) : Prop where
  layer : drill.searchLayer = (count / 440 : Nat)
  index : drill.searchIndex = (count % 440 : Nat)

namespace DrillComponent.Passed

variable {drill : DrillComponent} {count : Nat} (passed : Passed drill count)

include passed

theorem cell : drill.cell = cellOf drill.pos count := by
  rw [DrillComponent.cell, offset, passed.layer, passed.index]
  rfl

theorem nextCell : Passed drill.nextCell (count + 1) := by
  rw [DrillComponent.nextCell, passed.index, passed.layer]
  split
  · exact ⟨by dsimp only; omega, by dsimp only; omega⟩
  · exact ⟨by dsimp only; omega, by dsimp only; omega⟩

theorem skipOwnCell (some : count ≠ 0) : drill.skipOwnCell = drill := by
  have elsewhere : drill.offset ≠ ⟨0, 0, 0⟩ := by
    intro own
    have same : cellOf ⟨0, 0, 0⟩ count = cellOf ⟨0, 0, 0⟩ 0 := by
      simp only [offset, passed.layer, passed.index, BlockPos.mk.injEq] at own
      simp only [cellOf, zero_add, own.1, own.2.1, own.2.2]
      rfl
    exact some (cellOf_injective _ same)
  exact if_neg elsewhere

end DrillComponent.Passed

/-- The cells that were asked for are the first of the search. -/
structure DrillComponent.Searched (drill : DrillComponent) (cells : List BlockPos) : Prop where
  passed : drill.skipOwnCell.Passed (cells.length + 1)
  cells_eq : cells = (range' 1 cells.length).map (cellOf pos)
  at_pos : drill.pos = pos
  idle : drill.state = .idle → cells = []

namespace DrillComponent.Searched

variable {pos} {drill : DrillComponent} {cells : List BlockPos} (searched : Searched pos drill cells)

include searched

theorem search (active : drill.state ≠ .idle) :
    Searched pos drill.skipOwnCell.nextCell (cells ++ [drill.skipOwnCell.cell]) := by
  have kept : drill.skipOwnCell.nextCell.pos = drill.pos ∧
      drill.skipOwnCell.nextCell.state = drill.state := by
    rw [nextCell, skipOwnCell]
    split <;> split <;> exact ⟨rfl, rfl⟩
  have here : drill.skipOwnCell.pos = pos := by
    rw [skipOwnCell]
    split <;> exact searched.at_pos
  have next := searched.passed.nextCell
  constructor
  · rw [next.skipOwnCell (Nat.succ_ne_zero _), length_append]
    exact next
  · rw [searched.passed.cell, here, length_append, length_singleton, range'_concat,
      map_append, ← searched.cells_eq, Nat.one_mul, Nat.add_comm 1]
    rfl
  · exact kept.1.trans searched.at_pos
  · rw [kept.2]
    exact fun idle => absurd idle active

theorem same {other : DrillComponent} (pos_eq : other.pos = drill.pos)
    (layer : other.searchLayer = drill.searchLayer) (index : other.searchIndex = drill.searchIndex)
    (active : other.state = .idle → drill.state = .idle) : Searched pos other cells := by
  refine ⟨?_, searched.cells_eq, pos_eq.trans searched.at_pos,
    fun idle => searched.idle (active idle)⟩
  have passed := searched.passed
  have offset_eq : other.offset = drill.offset := by rw [offset, offset, layer, index]
  rw [skipOwnCell] at passed ⊢
  rw [offset_eq]
  split at passed
  · next own =>
    rw [if_pos own]
    exact ⟨layer.trans passed.layer, (congrArg (· + 1) index).trans passed.index⟩
  · next own =>
    rw [if_neg own]
    exact ⟨layer.trans passed.layer, index.trans passed.index⟩

theorem layer_eq : drill.searchLayer = ((cells.length + 1) / 440 : Nat) := by
  rw [← searched.passed.layer, skipOwnCell]
  split <;> rfl

end DrillComponent.Searched

namespace DrillWorld

variable (state : DrillWorld)

theorem state_search : state.search.drill.state = state.drill.state := by
  obtain ⟨_, _, drill⟩ := (@gazes_search state).drill
  rw [drill]

/-- The cells that a step asks for. -/
def asked : DrillInput → List BlockPos
  | .tick => state.tick.1.searches.drop state.searches.length
  | _ => []

/-- The drill with what it asks for. -/
def searcher : Machine DrillWorld DrillInput BlockPos where
  step state input := ((state.step input).1, state.asked input)

variable {pos} {state} {cells : List BlockPos} (searched : state.drill.Searched pos cells)

include searched

theorem searched_phaseSearch (active : state.drill.state ≠ .idle) :
    state.phaseSearch.drill.Searched pos
      (cells ++ state.phaseSearch.searches.drop state.searches.length) := by
  rw [phaseSearch]
  split
  · rwa [drop_length, append_nil]
  have first := searched.search active
  have still : state.drill.skipOwnCell.nextCell.state ≠ .idle := by
    rwa [← state_search state] at active
  have asked : state.search.search.searches.drop state.searches.length =
      [state.drill.skipOwnCell.cell, state.drill.skipOwnCell.nextCell.skipOwnCell.cell] := by
    rw [search, search, append_assoc, drop_left]
    rfl
  rw [asked, append_cons]
  exact first.search still

theorem searched_beginSearch (idle : state.drill.state = .idle) :
    state.beginSearch.drill.Searched pos cells := by
  obtain rfl := searched.idle idle
  exact ⟨⟨rfl, rfl⟩, rfl, searched.at_pos, fun _ => rfl⟩

theorem searched_tick :
    state.tick.1.drill.Searched pos (cells ++ state.tick.1.searches.drop state.searches.length) := by
  have unasked {next : DrillWorld} (searches : next.searches = state.searches)
      (drill : next.drill.Searched pos cells) :
      next.drill.Searched pos (cells ++ next.searches.drop state.searches.length) := by
    rwa [searches, drop_length, append_nil]
  rw [tick]
  split
  · next idle => exact searched_phaseSearch (searched_beginSearch searched idle) nofun
  · next searching => exact searched_phaseSearch searched (by rw [searching]; nofun)
  · rcases state.phaseEnergyCheck_cases with ⟨energy, events, powered⟩ | unpowered
    · rw [powered]
      dsimp only
      rw [if_pos rfl, phaseMine]
      split
      · exact unasked rfl (searched.same rfl rfl rfl id)
      · exact unasked rfl (searched.same rfl rfl rfl id)
    · rw [unpowered]
      exact unasked rfl (searched.same rfl rfl rfl nofun)
  · next full =>
    split
    · exact unasked rfl (searched.same rfl rfl rfl nofun)
    · exact unasked rfl searched

theorem searched_onSearchBlockResult (target : BlockPos) (blockId : UInt16) :
    (state.onSearchBlockResult target blockId).drill.Searched pos cells := by
  rw [onSearchBlockResult]
  split
  · exact searched.same rfl rfl rfl nofun
  · exact searched

theorem searched_onMineComplete (result : CASResult) :
    (state.onMineComplete result).drill.Searched pos cells := by
  rw [onMineComplete]
  split
  · exact searched.same rfl rfl rfl nofun
  · refine searched.same rfl rfl rfl ?_
    dsimp only
    split <;> exact nofun

theorem searched_step (input : DrillInput) :
    (state.step input).1.drill.Searched pos (cells ++ state.asked input) := by
  have unasked {other : DrillComponent} (same : other.Searched pos cells) :
      other.Searched pos (cells ++ []) := by
    rwa [append_nil]
  cases input with
  | tick => exact searched_tick searched
  | changeWorld | changeEnergy => exact unasked searched
  | getBlock index | setBlockCAS index =>
    refine unasked ?_
    rw [step]
    split <;> exact searched
  | searchBlockResult index =>
    refine unasked ?_
    rw [step]
    split
    · exact searched
    · exact @searched_onSearchBlockResult pos { state with found := state.found.eraseIdx index }
        cells searched _ _
  | mineComplete index =>
    refine unasked ?_
    rw [step]
    split
    · exact searched
    · exact @searched_onMineComplete pos { state with replies := state.replies.eraseIdx index }
        cells searched _

omit searched

variable (pos) (tier : Int) (world : BlockPos → Option Block) (inputs : List DrillInput)

theorem searched_run : (searcher.final (start pos tier world) inputs).drill.Searched pos
      (searcher.outputs (start pos tier world) inputs) := by
  refine searcher.invariant (fun _ _ => True)
    (fun _ state cells => state.drill.Searched pos cells) ⟨⟨rfl, rfl⟩, rfl, rfl, fun _ => rfl⟩ ?_ inputs
    (searcher.along_true _ inputs)
  intro _ state cells input searched _
  exact searched_step searched input

end DrillWorld

variable {pos} in
theorem DrillComponent.Searched.count_eq {drill : DrillComponent} {cells : List BlockPos}
    (searched : Searched pos drill cells) {layer : Nat} (behind : layer < drill.searchLayer)
    {dx dz : Int} (inside : (dx, dz) ∈ Spiral.cells 10)
    (other : (layerOffset layer, dx, dz) ≠ (0, 0, 0)) :
    cells.count ⟨pos.x + dx, pos.y + layerOffset layer, pos.z + dz⟩ =
      if (dx, dz) = (10, -10) then 0 else 1 := by
  have layers := searched.layer_eq
  rw [Spiral.cells, Finset.mem_product, Finset.mem_Icc, Finset.mem_Icc] at inside
  obtain ⟨index, before, found⟩ := Spiral.reaches 10 dx dz inside.1 inside.2
  have last : getSpiralOffset (440 : Nat) = (10, -10) :=
    congrArg (fun spiral : Spiral => (spiral.x, spiral.z)) (Spiral.after_square 10)
  have wanted (count : Nat) (at_layer : count / 440 = layer) (at_index : count % 440 = index) :
      cellOf pos count = ⟨pos.x + dx, pos.y + layerOffset layer, pos.z + dz⟩ := by
    rw [cellOf, at_layer, at_index, found]
  have size : Spiral.squareEnd 10 = 440 := rfl
  rw [searched.cells_eq]
  by_cases corner : index = 440
  · have at_corner : (dx, dz) = (10, -10) := by rw [← found, corner, last]
    rw [if_pos at_corner, count_eq_zero]
    intro mem
    obtain ⟨count, _, same⟩ := mem_map.mp mem
    simp only [cellOf, BlockPos.mk.injEq, add_right_inj] at same
    have index_eq : count % 440 = index :=
      Spiral.getSpiralOffset_injective ((Prod.ext same.1 same.2.2).trans found.symm)
    omega
  · have inner : (dx, dz) ≠ (10, -10) := by
      rw [← found, ← last]
      exact fun same => corner (Spiral.getSpiralOffset_injective same)
    have own : 440 * layer + index ≠ 0 := by
      intro own
      obtain ⟨rfl, rfl⟩ : layer = 0 ∧ index = 0 := by omega
      obtain ⟨rfl, rfl⟩ := Prod.mk.inj found
      exact other rfl
    have listed : 440 * layer + index ∈ range' 1 cells.length := by
      rw [mem_range'_1]
      omega
    rw [if_neg inner, ← wanted (440 * layer + index) (by omega) (by omega),
      count_map_of_injective _ _ (cellOf_injective pos),
      count_eq_one_of_mem nodup_range' listed]

/-- Every cell of the layer's square has been asked for once, but for the drill's own. -/
def AsksAll (pos : BlockPos) (cells : List BlockPos) (layer : Nat) : Prop :=
  ∀ dx dz, (dx, dz) ∈ Spiral.cells 10 → (layerOffset layer, dx, dz) ≠ (0, 0, 0) →
    cells.count ⟨pos.x + dx, pos.y + layerOffset layer, pos.z + dz⟩ = 1

namespace DrillWorld

section Covers

variable (pos : BlockPos) (tier : Int) (world : BlockPos → Option Block) (inputs : List DrillInput)
  (layer : Nat)

/-- The search is past the layer. -/
def Completes : Prop := layer < (searcher.final (start pos tier world) inputs).drill.searchLayer

theorem not_asksAll (completes : Completes pos tier world inputs layer) :
    ¬AsksAll pos (searcher.outputs (start pos tier world) inputs) layer := by
  intro all
  have corner := all 10 (-10) (by decide) (by simp)
  rw [(searched_run pos tier world inputs).count_eq completes (by decide) (by simp), if_pos rfl]
    at corner
  exact Nat.zero_ne_one corner

theorem covers_iff (k : Nat) : (Spiral.Covers k ∧ (Completes pos tier world inputs layer →
      AsksAll pos (searcher.outputs (start pos tier world) inputs) layer) ↔
      ¬Completes pos tier world inputs layer) ∧
    (Completes pos tier world inputs layer → ∀ dx dz, (dx, dz) ∈ Spiral.cells 10 →
      (layerOffset layer, dx, dz) ≠ (0, 0, 0) →
      (searcher.outputs (start pos tier world) inputs).count
          ⟨pos.x + dx, pos.y + layerOffset layer, pos.z + dz⟩ =
        if (dx, dz) = (10, -10) then 0 else 1) := by
  refine ⟨⟨?_, ?_⟩, ?_⟩
  · rintro ⟨_, asks⟩ completes
    exact not_asksAll pos tier world inputs layer completes (asks completes)
  · exact fun incomplete => ⟨Spiral.covers k, fun completes => absurd completes incomplete⟩
  · exact fun completes dx dz inside other =>
      (searched_run pos tier world inputs).count_eq completes inside other

end Covers

/-- Nothing is on its way. -/
structure Waits (state : DrillWorld) : Prop where
  pending : state.pendingSearches = 0
  searches : state.searches = []
  found : state.found = []
  active : state.drill.state = .idle ∨ state.drill.state = .searching

/-- Two cells are asked for and have no ore. -/
def searchRound : List DrillInput :=
  [.tick, .getBlock 0 false, .getBlock 0 false, .searchBlockResult 0, .searchBlockResult 0]

theorem phaseSearch_waits (state : DrillWorld) (pending : state.pendingSearches = 0)
    (searches : state.searches = []) (active : state.drill.state = .searching) :
    ∃ drill first second, drill.state = .searching ∧
      state.phaseSearch = { state with
        drill := drill, pendingSearches := 2, searches := [first, second] } := by
  refine ⟨state.search.search.drill, state.drill.skipOwnCell.cell,
    state.search.drill.skipOwnCell.cell, ?_, ?_⟩
  · rw [state_search, state_search, active]
  · rw [phaseSearch, pending, if_neg (by decide), search, search, pending, searches]
    rfl

variable {state : DrillWorld}

theorem Waits.tick (waits : Waits state) :
    ∃ drill first second, drill.state = .searching ∧
      state.tick.1 = { state with
        drill := drill, pendingSearches := 2, searches := [first, second] } := by
  rcases waits.active with idle | active
  · obtain ⟨drill, first, second, still, searched⟩ :=
      phaseSearch_waits state.beginSearch waits.pending waits.searches rfl
    exact ⟨drill, first, second, still, by rw [DrillWorld.tick, idle]; exact searched⟩
  · obtain ⟨drill, first, second, still, searched⟩ :=
      phaseSearch_waits state waits.pending waits.searches active
    exact ⟨drill, first, second, still, by rw [DrillWorld.tick, active]; exact searched⟩

theorem Waits.after_round (waits : Waits state) :
    Waits (searcher.final state searchRound) ∧ (searcher.outputs state searchRound).length = 2 := by
  obtain ⟨drill, first, second, active, ticked⟩ := waits.tick
  have stepped : searcher.step state .tick =
      ({ state with drill := drill, pendingSearches := 2, searches := [first, second] },
        [first, second]) := by
    change (state.tick.1, state.tick.1.searches.drop state.searches.length) = _
    rw [ticked, waits.searches]
    rfl
  have none : isOreBlock 0 = false := by decide
  obtain ⟨_, energy, pending, world, searches, found, requests, replies⟩ := state
  obtain ⟨rfl, rfl, rfl, -⟩ := waits
  constructor
  · rw [searchRound, Machine.final, stepped]
    simp [Machine.final, searcher, step, onSearchBlockResult, none, getBlock]
    exact ⟨rfl, rfl, rfl, Or.inr active⟩
  · rw [searchRound, Machine.outputs, stepped]
    simp [Machine.outputs, searcher, asked]

theorem Waits.after_rounds (waits : Waits state) (rounds : Nat) :
    Waits (searcher.final state (replicate rounds searchRound).flatten) ∧
      (searcher.outputs state (replicate rounds searchRound).flatten).length = 2 * rounds := by
  induction rounds generalizing state with
  | zero => exact ⟨waits, rfl⟩
  | succ rounds ih =>
    obtain ⟨still, asked⟩ := waits.after_round
    obtain ⟨last, later⟩ := ih still
    rw [replicate_succ, flatten_cons, Machine.final_append, Machine.outputs_append,
      length_append, asked, later]
    exact ⟨last, by omega⟩

theorem corner_never_asked :
    ¬∀ (pos : BlockPos) (tier : Int) (world : BlockPos → Option Block) (inputs : List DrillInput)
      (layer k : Nat), Spiral.Covers k ∧ (Completes pos tier world inputs layer →
        AsksAll pos (searcher.outputs (start pos tier world) inputs) layer) := by
  intro all
  have waits : Waits (start ⟨0, 0, 0⟩ 0 fun _ => none) := ⟨rfl, rfl, rfl, .inl rfl⟩
  have asked := (waits.after_rounds 220).2
  have completes : Completes ⟨0, 0, 0⟩ 0 (fun _ => none) (replicate 220 searchRound).flatten 0 := by
    rw [Completes, (searched_run _ _ _ _).layer_eq, asked]
    decide
  exact not_asksAll _ _ _ _ _ completes ((all _ _ _ _ 0 0).2 completes)

end DrillWorld

end GtnhPlatform.Mining
