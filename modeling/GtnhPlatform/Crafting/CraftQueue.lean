import GtnhPlatform.Crafting.CraftCharge

namespace GtnhPlatform.Crafting

open Inventory List CraftServer

/-! Craft requests on one workbench. A craft is queued with the grid that was read. -/

structure CraftTask where
  playerId : Nat
  grid : List ItemStack

/-- A request that waits for the entity state store, which answers with the
state it held when it was asked. -/
structure GridLoad where
  playerId : Nat
  state : List UInt8

structure CraftQueue where
  server : CraftServer
  queue : List CraftTask := []
  loads : List GridLoad := []

inductive CraftInput where
  | request (playerId : Nat)
  | loaded (index : Nat)
  | edit (grid : List ItemStack)
  | setSlots (playerId : Nat) (slots : PlayerSlots)
  | runNext

inductive CraftEvent where
  | message (message : CraftMessage)
  | executed (recipe : Recipe)
  | changed (before after : List ItemStack)

namespace CraftQueue

variable (state : CraftQueue)

def grid (pos : Pos) : List ItemStack :=
  (state.server.wbStateManager.getGridState pos).1

def push (playerId : Nat) (grid : List ItemStack) : CraftQueue :=
  { state with queue := state.queue ++ [⟨playerId, grid⟩] }

def request (pos : Pos) (playerId : Nat) : CraftQueue :=
  match state.server.wbStateManager.grids.lookup pos with
  | some grid => state.push playerId grid
  | none =>
    match state.server.wbStateManager.entityStates with
    | none => state.push playerId []
    | some states =>
      { state with loads := state.loads ++ [⟨playerId, (states.lookup pos).getD []⟩] }

def loaded (pos : Pos) (index : Nat) : CraftQueue :=
  match state.loads[index]? with
  | none => state
  | some load =>
    let waiting := { state with loads := state.loads.eraseIdx index }
    if load.state.isEmpty then waiting.push load.playerId []
    else
      let grid := deserializeGrid load.state
      let manager := state.server.wbStateManager
      let cached : CraftServer :=
        { state.server with
          wbStateManager := { manager with grids := AList.insert pos grid manager.grids } }
      { waiting with server := cached }.push load.playerId grid

def edit (pos : Pos) (grid : List ItemStack) : CraftQueue :=
  { state with server := state.server.setGridState pos grid }

def runNext (pos : Pos) : CraftQueue × List CraftEvent :=
  match state.queue with
  | [] => (state, [])
  | task :: rest =>
    let crafted := state.server.doCraft task.playerId pos task.grid
    let recipe :=
      if task.grid.isEmpty then none
      else state.server.recipeManager.findRecipeByInputs kCraftingTableMachineId task.grid
    ({ state with server := crafted.1, queue := rest },
      crafted.2.map .message ++ (recipe.map .executed).toList)

def step (pos : Pos) (state : CraftQueue) : CraftInput → CraftQueue × List CraftEvent
  | .request playerId => (state.request pos playerId, [])
  | .loaded index =>
    let next := state.loaded pos index
    (next, [.changed (state.grid pos) (next.grid pos)])
  | .edit grid =>
    let next := state.edit pos grid
    (next, [.changed (state.grid pos) (next.grid pos)])
  | .setSlots playerId slots =>
    ({ state with server := state.server.setSlots playerId slots }, [])
  | .runNext => state.runNext pos

def machine (pos : Pos) : Machine CraftQueue CraftInput CraftEvent := ⟨step pos⟩

def Executes (task : CraftTask) (recipe : Recipe) : Prop :=
  state.queue.head? = some task ∧ state.server.Accepts task.grid recipe

def NoEffect (state next : CraftQueue) (events : List CraftEvent) : Prop :=
  next.server = state.server ∧
    ∀ result error grid, .message (.craftResponse true result error grid) ∉ events

def CraftLaw (pos : Pos) (state : CraftQueue) : CraftInput → Prop
  | .runNext => ∀ task recipe, state.Executes task recipe →
      let next := state.runNext pos
      (recipe.matchesContainer (state.grid pos) = true →
        next.1.grid pos = recipe.consumeInputs (state.grid pos)) ∧
      (recipe.matchesContainer (state.grid pos) = false → state.NoEffect next.1 next.2)
  | _ => True

def FreshCraft (pos : Pos) (state : CraftQueue) : CraftInput → Prop
  | .runNext => ∀ task recipe, state.Executes task recipe →
      recipe.matchesContainer (state.grid pos) = true ∧
        recipe.consumeInputs (state.grid pos) = recipe.consumeInputs task.grid
  | _ => True

def craftedOf (item : ItemKey) : CraftEvent → Nat
  | .executed recipe => recipe.consumedOnce item
  | _ => 0

def changeOf (item : ItemKey) : CraftEvent → Int
  | .changed before after => (totalOf item after : Int) - totalOf item before
  | _ => 0

section Executed

variable {pos : Pos} {state : CraftQueue} {task : CraftTask} {recipe : Recipe}

theorem isEmpty_of_accepts {server : CraftServer} {grid : List ItemStack}
    (accepted : server.Accepts grid recipe) : grid.isEmpty = false := by
  cases grid with
  | nil => exact absurd rfl accepted.1
  | cons cell rest => rfl

variable (executes : state.Executes task recipe)

include executes

theorem runNext_eq :
    state.runNext pos =
      ({ state with
          server := (state.server.doCraft task.playerId pos task.grid).1
          queue := state.queue.tail },
        (state.server.doCraft task.playerId pos task.grid).2.map .message ++
          [.executed recipe]) := by
  obtain ⟨head, accepted⟩ := executes
  have full := isEmpty_of_accepts accepted
  rw [runNext]
  cases waiting : state.queue with
  | nil =>
    rw [waiting] at head
    exact absurd head nofun
  | cons first rest =>
    rw [waiting] at head
    cases head
    dsimp only
    rw [full, accepted.2]
    rfl

theorem grid_runNext : (state.runNext pos).1.grid pos = recipe.consumeInputs task.grid := by
  rw [runNext_eq executes]
  exact (doCraft_state executes.2 task.playerId pos).1

theorem success_runNext :
    .message (.craftResponse true (some recipe.result) "" (recipe.consumeInputs task.grid)) ∈
      (state.runNext pos).2 := by
  have full := isEmpty_of_accepts executes.2
  rw [runNext_eq executes]
  apply mem_append_left
  apply mem_map_of_mem
  rw [doCraft, full, executes.2.2]
  exact mem_cons_of_mem _ (mem_singleton_self _)

omit executes

theorem craftLaw_iff (pos : Pos) (state : CraftQueue) (input : CraftInput) :
    state.CraftLaw pos input ↔ state.FreshCraft pos input := by
  cases input with
  | runNext =>
    apply forall_congr'
    intro task
    apply forall_congr'
    intro recipe
    apply imp_congr_right
    intro executes
    dsimp only
    rw [grid_runNext executes]
    cases accepts : recipe.matchesContainer (state.grid pos) with
    | true =>
      constructor
      · intro law
        exact ⟨rfl, (law.1 rfl).symm⟩
      · intro fresh
        exact ⟨fun _ => fresh.2.symm, nofun⟩
    | false =>
      apply iff_of_false
      · intro law
        exact (law.2 rfl).2 _ _ _ (success_runNext executes)
      · exact fun fresh => nomatch fresh.1
  | _ => exact Iff.rfl

end Executed

section Books

variable {pos : Pos} {item : ItemKey}

def crafted (item : ItemKey) (history : List CraftEvent) : Nat := (history.map (craftedOf item)).sum

def changed (item : ItemKey) (history : List CraftEvent) : Int := (history.map (changeOf item)).sum

theorem crafted_append (first second : List CraftEvent) :
    crafted item (first ++ second) = crafted item first + crafted item second := by
  rw [crafted, map_append, sum_append]
  rfl

theorem changed_append (first second : List CraftEvent) :
    changed item (first ++ second) = changed item first + changed item second := by
  rw [changed, map_append, sum_append]
  rfl

theorem crafted_messages (messages : List CraftMessage) :
    crafted item (messages.map .message) = 0 := by
  induction messages with
  | nil => rfl
  | cons message rest ih =>
    rw [map_cons, crafted, map_cons, sum_cons]
    exact (Nat.zero_add _).trans ih

theorem changed_messages (messages : List CraftMessage) :
    changed item (messages.map .message) = 0 := by
  induction messages with
  | nil => rfl
  | cons message rest ih =>
    rw [map_cons, changed, map_cons, sum_cons]
    exact (Int.zero_add _).trans ih

def Balanced (item : ItemKey) (before after : List ItemStack) (events : List CraftEvent) : Prop :=
  (totalOf item after : Int) + crafted item events = totalOf item before + changed item events

theorem balanced_quiet {before after : List ItemStack} (same : after = before)
    (messages : List CraftMessage) : Balanced item before after (messages.map .message) := by
  rw [Balanced, crafted_messages, changed_messages, same]
  rfl

theorem grid_request (state : CraftQueue) (playerId : Nat) :
    (state.request pos playerId).grid pos = state.grid pos := by
  rw [request]
  cases state.server.wbStateManager.grids.lookup pos with
  | some grid => rfl
  | none => cases state.server.wbStateManager.entityStates <;> rfl

theorem balanced_changed (before after : List ItemStack) :
    Balanced item before after [.changed before after] := by
  rw [Balanced]
  simp only [crafted, changed, map_cons, map_nil, sum_cons, sum_nil, craftedOf, changeOf]
  omega

variable {state : CraftQueue}

theorem runNext_refused (pos : Pos) (refused : ∀ task recipe, ¬state.Executes task recipe) :
    ∃ messages : List CraftMessage, (state.runNext pos).2 = messages.map .message ∧
      (state.runNext pos).1.grid pos = state.grid pos := by
  rw [runNext]
  cases waiting : state.queue with
  | nil => exact ⟨[], rfl, rfl⟩
  | cons task rest =>
    have none : ∀ recipe, ¬state.server.Accepts task.grid recipe := by
      intro recipe accepted
      exact refused task recipe ⟨by rw [waiting]; rfl, accepted⟩
    refine ⟨(state.server.doCraft task.playerId pos task.grid).2, ?_, ?_⟩
    · dsimp only
      split
      · exact append_nil _
      rename_i full
      cases found : state.server.recipeManager.findRecipeByInputs
          kCraftingTableMachineId task.grid with
      | none => exact append_nil _
      | some recipe =>
        exact absurd ⟨fun empty => full (by rw [empty]; rfl), found⟩ (none recipe)
    · change ((state.server.doCraft task.playerId pos task.grid).1.wbStateManager.getGridState
        pos).1 = _
      rw [doCraft_refused none]
      rfl

theorem balanced_runNext (fresh : state.FreshCraft pos .runNext)
    (untouched : ∀ recipe, .executed recipe ∈ (state.runNext pos).2 → recipe.Untouched item) :
    Balanced item (state.grid pos) ((state.runNext pos).1.grid pos) (state.runNext pos).2 := by
  by_cases executes : ∃ task recipe, state.Executes task recipe
  · obtain ⟨task, recipe, executes⟩ := executes
    obtain ⟨accepts, same⟩ := fresh task recipe executes
    have shown : .executed recipe ∈ (state.runNext pos).2 := by
      rw [runNext_eq executes]
      exact mem_append_right _ (mem_singleton_self _)
    have taken := consumeInputs_total_of_untouched accepts (untouched recipe shown)
    rw [Balanced, grid_runNext executes, ← same, runNext_eq executes, crafted_append,
      changed_append, crafted_messages, changed_messages]
    simp only [crafted, changed, map_cons, map_nil, sum_cons, sum_nil, craftedOf, changeOf]
    omega
  · obtain ⟨messages, quiet, same⟩ :=
      runNext_refused pos fun task recipe found => executes ⟨task, recipe, found⟩
    rw [quiet]
    exact balanced_quiet same messages

theorem balanced_step {input : CraftInput} (fresh : state.FreshCraft pos input)
    (untouched : ∀ recipe, .executed recipe ∈ (step pos state input).2 → recipe.Untouched item) :
    Balanced item (state.grid pos) ((step pos state input).1.grid pos) (step pos state input).2 := by
  cases input with
  | request playerId => exact balanced_quiet (grid_request state playerId) []
  | loaded index => exact balanced_changed _ _
  | edit grid => exact balanced_changed _ _
  | setSlots playerId slots => exact balanced_quiet rfl []
  | runNext => exact balanced_runNext fresh untouched

theorem balanced_run {start : CraftQueue}
    (fresh : (machine pos).Along (FreshCraft pos) start inputs)
    (untouched : ∀ recipe, .executed recipe ∈ (machine pos).outputs start inputs →
      recipe.Untouched item) :
    Balanced item (start.grid pos) (((machine pos).final start inputs).grid pos)
      ((machine pos).outputs start inputs) := by
  induction inputs using reverseRecOn with
  | nil =>
    rw [Balanced]
    rfl
  | append_singleton inputs input ih =>
    obtain ⟨earlier, last⟩ := ((machine pos).along_concat _ start inputs input).mp fresh
    rw [Machine.outputs_concat] at untouched
    have before := ih earlier fun recipe mem =>
      untouched recipe (mem_append_left _ mem)
    have now := balanced_step last fun recipe mem =>
      untouched recipe (mem_append_right _ mem)
    rw [Machine.outputs_concat, Machine.final_concat]
    rw [Balanced] at before now ⊢
    rw [crafted_append, changed_append]
    change _ + ((_ + crafted item (step pos _ input).2 : Nat) : Int) =
      _ + (_ + changed item (step pos _ input).2)
    change (totalOf item ((step pos _ input).1.grid pos) : Int) + _ = _
    omega

end Books

theorem craftLaw_along_iff (pos : Pos) (start : CraftQueue) (inputs : List CraftInput) :
    ((machine pos).Along (CraftLaw pos) start inputs ↔
      (machine pos).Along (FreshCraft pos) start inputs) ∧
    ((machine pos).Along (FreshCraft pos) start inputs → ∀ item,
      (∀ recipe, .executed recipe ∈ (machine pos).outputs start inputs → recipe.Untouched item) →
      Balanced item (start.grid pos) (((machine pos).final start inputs).grid pos)
        ((machine pos).outputs start inputs)) := by
  refine ⟨⟨?_, ?_⟩, fun fresh item untouched => balanced_run fresh untouched⟩
  · exact Machine.Along.mono _ fun state input => (craftLaw_iff pos state input).mp
  · exact Machine.Along.mono _ fun state input => (craftLaw_iff pos state input).mpr

def oneLogStaged : CraftQueue :=
  { server := CraftServer.plankServer.setGridState ⟨0, 64, 0⟩ CraftServer.logGrid }

def bothRead : CraftQueue := (machine ⟨0, 64, 0⟩).final oneLogStaged [.request 1, .request 1]

theorem bothRead_executes : bothRead.Executes ⟨1, logGrid⟩ plankRecipe := ⟨rfl, plankServer_accepts⟩

theorem doCraft_recipeManager (server : CraftServer) (playerId : Nat) (pos : Pos)
    (grid : List ItemStack) :
    (server.doCraft playerId pos grid).1.recipeManager = server.recipeManager := by
  rw [doCraft]
  split
  · rfl
  · split <;> rfl

theorem second_craft_takes_nothing : ¬(machine ⟨0, 64, 0⟩).Along (CraftLaw ⟨0, 64, 0⟩) oneLogStaged
      [.request 1, .request 1, .runNext, .runNext] := by
  intro law
  have first := bothRead_executes
  have second : (bothRead.runNext ⟨0, 64, 0⟩).1.Executes ⟨1, CraftServer.logGrid⟩
      CraftServer.plankRecipe := by
    rw [runNext_eq first]
    refine ⟨rfl, first.2.1, ?_⟩
    rw [doCraft_recipeManager]
    exact first.2.2
  have fresh := (craftLaw_iff ⟨0, 64, 0⟩ (bothRead.runNext ⟨0, 64, 0⟩).1 .runNext).mp
    law.2.2.2.1
  have accepts := (fresh _ _ second).1
  rw [grid_runNext first] at accepts
  exact absurd accepts (by decide)

end CraftQueue

end GtnhPlatform.Crafting
