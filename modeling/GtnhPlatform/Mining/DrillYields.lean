import GtnhPlatform.Mining.DrillSystem

namespace GtnhPlatform.Mining

open List

open Actions (BlockPos Block CASResult casBlock)

theorem not_ore_anyBlock : isOreBlock DrillWorld.anyBlock = false := by
  decide

namespace DrillWorld

theorem dropOf_anyBlock : dropOf anyBlock = [] := by
  decide

theorem dropOf_eq_nil_iff : dropOf oreId = [] ↔ oreToDrop oreId = 0 := by
  unfold dropOf
  split <;> simp_all

/-- The drops that are due when the answer to a mining request is handled: of
the block that was taken out, if one was. -/
def due (state : DrillWorld) : DrillInput → List (UInt16 × UInt8)
  | .mineComplete index =>
    match state.replies[index]? with
    | none => []
    | some reply =>
      match reply.removed with
      | none => []
      | some block => dropOf block.blockId
  | _ => []

structure Yields (state : DrillWorld) (input : DrillInput) : Prop where
  commits : ∀ index request block, input = .setBlockCAS index true →
    state.requests[index]? = some request → state.world request.target = some block →
    block.blockId = request.oreId →
    (state.step input).1.world request.target = some ⟨0, 0⟩ ∧
      (state.step input).1.replies = state.replies ++ [⟨request, ⟨0, ⟨0, 0⟩⟩, some block⟩]
  gains : (state.step input).1.drill.outputBuffer = state.drill.outputBuffer ++ state.due input
  bounded : (state.step input).1.drill.outputBuffer.length ≤ kMaxOutputSize

def Fruitless (state : DrillWorld) : DrillInput → Prop
  | .setBlockCAS index reached => reached = true → ∀ request block,
      state.requests[index]? = some request → state.world request.target = some block →
      block.blockId ≠ request.oreId
  | .mineComplete index => ∀ reply, state.replies[index]? = some reply →
      reply.result.status = 0 → oreToDrop state.drill.targetOreId = 0
  | _ => True

structure Sound (state : DrillWorld) : Prop where
  target : state.drill.state = .mining → isOreBlock state.drill.targetOreId = true
  requests : ∀ request ∈ state.requests, isOreBlock request.oreId = true
  committed : ∀ reply ∈ state.replies, reply.result.status = 0 →
    ∃ block, reply.removed = some block ∧ block.blockId = anyBlock
  refused : ∀ reply ∈ state.replies, reply.result.status ≠ 0 → reply.removed = none
  bounded : state.drill.outputBuffer.length ≤ kMaxOutputSize

theorem sound_start (pos : BlockPos) (tier : Int) (world : BlockPos → Option Block) :
    (start pos tier world).Sound where
  target := nofun
  requests := nofun
  committed := nofun
  refused := nofun
  bounded := Nat.zero_le _

section Ticks

variable {state : DrillWorld}

structure Gazes (state next : DrillWorld) : Prop where
  drill : ∃ layer index,
    next.drill = { state.drill with searchLayer := layer, searchIndex := index }
  requests : next.requests = state.requests
  replies : next.replies = state.replies

theorem gazes_search : Gazes state state.search where
  drill := by
    unfold search DrillComponent.nextCell DrillComponent.skipOwnCell
    dsimp only
    split <;> split <;> exact ⟨_, _, rfl⟩
  requests := rfl
  replies := rfl

theorem Gazes.trans {next last : DrillWorld} (former : Gazes state next)
    (latter : Gazes next last) : Gazes state last where
  drill := by
    obtain ⟨_, _, first⟩ := former.drill
    obtain ⟨layer, index, second⟩ := latter.drill
    exact ⟨layer, index, by rw [second, first]⟩
  requests := latter.requests.trans former.requests
  replies := latter.replies.trans former.replies

theorem gazes_phaseSearch : Gazes state state.phaseSearch := by
  unfold phaseSearch
  split
  · exact ⟨⟨_, _, rfl⟩, rfl, rfl⟩
  · exact gazes_search.trans gazes_search

theorem phaseEnergyCheck_cases :
    (∃ energy events, state.phaseEnergyCheck = ({ state with energy := energy }, true, events)) ∨
      state.phaseEnergyCheck = (state.abandon, false, []) := by
  unfold phaseEnergyCheck
  dsimp only
  cases findToolSlot (state.energy.container.getD []) with
  | some slotIdx =>
    dsimp only
    cases consumeToolEnergy ((state.energy.container.getD []).getD slotIdx .empty)
        state.drill.energyPerTick with
    | some drained => exact .inl ⟨_, _, rfl⟩
    | none => exact .inr rfl
  | none =>
    cases state.energy.storage with
    | some energy => exact .inl ⟨_, _, rfl⟩
    | none => exact .inr rfl

structure Quiet (state next : DrillWorld) : Prop where
  outputBuffer : next.drill.outputBuffer = state.drill.outputBuffer
  replies : next.replies = state.replies
  target : next.drill.state = .mining →
    next.drill.targetOreId = state.drill.targetOreId ∧ state.drill.state = .mining
  requests : next.requests = state.requests ∨ state.drill.state = .mining ∧
    ∃ cell, next.requests = state.requests ++ [⟨cell, state.drill.targetOreId⟩]

theorem Gazes.quiet {next : DrillWorld} (gazes : Gazes state next) : Quiet state next := by
  obtain ⟨layer, index, drill⟩ := gazes.drill
  refine ⟨by rw [drill], gazes.replies, fun mining => ?_, .inl gazes.requests⟩
  rw [drill] at mining ⊢
  exact ⟨rfl, mining⟩

theorem quiet_phaseMine (mining : state.drill.state = .mining) : Quiet state state.phaseMine := by
  unfold phaseMine
  dsimp only
  split
  · exact ⟨rfl, rfl, fun _ => ⟨rfl, mining⟩, .inl rfl⟩
  · exact ⟨rfl, rfl, fun _ => ⟨rfl, mining⟩, .inr ⟨mining, _, rfl⟩⟩

theorem quiet_mining (mining : state.drill.state = .mining) :
    Quiet state (if state.phaseEnergyCheck.2.1 then state.phaseEnergyCheck.1.phaseMine
      else state.phaseEnergyCheck.1) := by
  rcases state.phaseEnergyCheck_cases with ⟨energy, events, powered⟩ | unpowered
  · rw [powered]
    have quiet : Quiet { state with energy := energy }
        { state with energy := energy }.phaseMine := quiet_phaseMine mining
    exact ⟨quiet.outputBuffer, quiet.replies, quiet.target, quiet.requests⟩
  · rw [unpowered]
    exact ⟨rfl, rfl, nofun, .inl rfl⟩

theorem quiet_beginSearch : Quiet state state.beginSearch.phaseSearch := by
  have gazes : Gazes state.beginSearch state.beginSearch.phaseSearch := gazes_phaseSearch
  obtain ⟨layer, index, drill⟩ := gazes.drill
  refine ⟨by rw [drill]; rfl, gazes.replies, fun mining => ?_, .inl gazes.requests⟩
  rw [drill] at mining
  cases mining

theorem quiet_tick : Quiet state state.tick.1 := by
  unfold tick
  split
  · exact quiet_beginSearch
  · exact gazes_phaseSearch.quiet
  · next mining => exact quiet_mining mining
  · split
    · exact ⟨rfl, rfl, nofun, .inl rfl⟩
    · exact ⟨rfl, rfl, fun mining => ⟨rfl, mining⟩, .inl rfl⟩

end Ticks

section Answers

variable {state : DrillWorld}

theorem setBlockCAS_cases (request : MiningRequest) (reached : Bool) :
    (∃ block, reached = true ∧ state.world request.target = some block ∧ block.blockId = anyBlock ∧
        state.setBlockCAS request reached =
          (Function.update state.world request.target (some ⟨0, 0⟩),
            ⟨request, ⟨0, ⟨0, 0⟩⟩, some block⟩)) ∨
      (∃ actual, state.setBlockCAS request reached = (state.world, ⟨request, ⟨1, actual⟩, none⟩)) ∧
        (reached = true → ∀ block, state.world request.target = some block →
          block.blockId ≠ anyBlock) := by
  unfold setBlockCAS casBlock
  cases reached with
  | false => exact .inr ⟨⟨_, rfl⟩, nofun⟩
  | true =>
    cases there : state.world request.target with
    | none => exact .inr ⟨⟨_, rfl⟩, nofun⟩
    | some block =>
      by_cases meets : block.blockId = anyBlock
      · exact .inl ⟨block, rfl, rfl, meets, by simp [meets]⟩
      · refine .inr ⟨⟨block, by simp [meets]⟩, fun _ other same => ?_⟩
        rwa [← Option.some.inj same]

theorem Quiet.sound {next : DrillWorld} (quiet : Quiet state next) (sound : state.Sound) :
    next.Sound where
  target mining := by
    obtain ⟨same, before⟩ := quiet.target mining
    rw [same]
    exact sound.target before
  requests := by
    intro request mem
    rcases quiet.requests with same | ⟨mining, cell, added⟩
    · exact sound.requests request (same ▸ mem)
    rw [added] at mem
    rcases mem_append.mp mem with earlier | new
    · exact sound.requests request earlier
    · obtain rfl := mem_singleton.mp new
      exact sound.target mining
  committed := by
    rw [quiet.replies]
    exact sound.committed
  refused := by
    rw [quiet.replies]
    exact sound.refused
  bounded := by
    rw [quiet.outputBuffer]
    exact sound.bounded

theorem sound_onSearchBlockResult (sound : state.Sound) (pos : BlockPos) (blockId : UInt16) :
    (state.onSearchBlockResult pos blockId).Sound := by
  unfold onSearchBlockResult
  split
  · next ore => exact ⟨fun _ => ore.2, sound.requests, sound.committed, sound.refused, sound.bounded⟩
  · exact ⟨sound.target, sound.requests, sound.committed, sound.refused, sound.bounded⟩

theorem sound_setBlockCAS (sound : state.Sound) {request : MiningRequest} {index : Nat}
    (reached : Bool) :
    ({ state with
        world := (state.setBlockCAS request reached).1
        requests := state.requests.eraseIdx index
        replies := state.replies ++ [(state.setBlockCAS request reached).2] } :
      DrillWorld).Sound := by
  refine ⟨sound.target, fun other mem => sound.requests other (mem_of_mem_eraseIdx mem),
    ?_, ?_, sound.bounded⟩
  · intro reply mem committed
    rcases mem_append.mp mem with earlier | new
    · exact sound.committed reply earlier committed
    obtain rfl := mem_singleton.mp new
    rcases state.setBlockCAS_cases request reached with
      ⟨block, -, -, meets, same⟩ | ⟨⟨actual, same⟩, -⟩
    · exact ⟨block, by rw [same], meets⟩
    · rw [same] at committed
      cases committed
  · intro reply mem refused
    rcases mem_append.mp mem with earlier | new
    · exact sound.refused reply earlier refused
    obtain rfl := mem_singleton.mp new
    rcases state.setBlockCAS_cases request reached with
      ⟨block, -, -, meets, same⟩ | ⟨⟨actual, same⟩, -⟩
    · rw [same] at refused
      exact absurd rfl refused
    · rw [same]

theorem onMineComplete_outputBuffer (result : CASResult) :
    (state.onMineComplete result).drill.outputBuffer = state.drill.outputBuffer ++
        if result.status = 0 then dropOf state.drill.targetOreId else [] := by
  unfold onMineComplete
  by_cases committed : result.status = 0
  · rw [if_neg (not_not.mpr committed), if_pos committed]
  · rw [if_pos committed, if_neg committed, append_nil]

theorem onMineComplete_rest (result : CASResult) :
    (state.onMineComplete result).drill.state ≠ .mining ∧
      (state.onMineComplete result).requests = state.requests ∧
      (state.onMineComplete result).replies = state.replies := by
  unfold onMineComplete
  split
  · exact ⟨nofun, rfl, rfl⟩
  · refine ⟨?_, rfl, rfl⟩
    dsimp only
    split <;> exact nofun

theorem sound_onMineComplete (sound : state.Sound) {result : CASResult}
    (none : result.status = 0 → oreToDrop state.drill.targetOreId = 0) :
    (state.onMineComplete result).Sound := by
  obtain ⟨idle, requests, replies⟩ := state.onMineComplete_rest result
  refine ⟨fun mining => absurd mining idle, ?_, ?_, ?_, ?_⟩
  · rw [requests]
    exact sound.requests
  · rw [replies]
    exact sound.committed
  · rw [replies]
    exact sound.refused
  rw [onMineComplete_outputBuffer]
  split
  · next committed =>
    rw [dropOf_eq_nil_iff.mpr (none committed), append_nil]
    exact sound.bounded
  · rw [append_nil]
    exact sound.bounded

theorem Sound.eraseReply (sound : state.Sound) (index : Nat) :
    ({ state with replies := state.replies.eraseIdx index } : DrillWorld).Sound where
  __ := sound
  committed reply mem := sound.committed reply (mem_of_mem_eraseIdx mem)
  refused reply mem := sound.refused reply (mem_of_mem_eraseIdx mem)

end Answers

variable {state : DrillWorld} {input : DrillInput}

variable (sound : state.Sound)

include sound

theorem sound_step (fruitless : state.Fruitless input) : (state.step input).1.Sound := by
  cases input with
  | tick => exact quiet_tick.sound sound
  | getBlock index reached =>
    simp only [step]
    split
    · exact sound
    · exact ⟨sound.target, sound.requests, sound.committed, sound.refused, sound.bounded⟩
  | searchBlockResult index =>
    simp only [step]
    split
    · exact sound
    · apply sound_onSearchBlockResult
      exact ⟨sound.target, sound.requests, sound.committed, sound.refused, sound.bounded⟩
  | setBlockCAS index reached =>
    simp only [step]
    split
    · exact sound
    · exact sound_setBlockCAS sound reached
  | mineComplete index =>
    simp only [step]
    split
    · exact sound
    · next reply found =>
      exact sound_onMineComplete (sound.eraseReply index) (fruitless reply found)
  | changeWorld pos block =>
    exact ⟨sound.target, sound.requests, sound.committed, sound.refused, sound.bounded⟩
  | changeEnergy energy =>
    exact ⟨sound.target, sound.requests, sound.committed, sound.refused, sound.bounded⟩

theorem yields_of_quiet (other : ∀ index, input ≠ .setBlockCAS index true)
    (nothing : state.due input = [])
    (same : (state.step input).1.drill.outputBuffer = state.drill.outputBuffer) :
    state.Yields input where
  commits index _ _ isRequest := absurd isRequest (other index)
  gains := by rw [same, nothing, append_nil]
  bounded := same ▸ sound.bounded

theorem yields_setBlockCAS_iff (index : Nat) :
    state.Yields (.setBlockCAS index true) ↔ state.Fruitless (.setBlockCAS index true) := by
  constructor
  · intro yields _ request block found there same
    obtain ⟨-, answered⟩ := yields.commits index request block rfl found there same
    have ore := sound.requests request (mem_of_getElem? found)
    simp only [step, found] at answered
    rcases state.setBlockCAS_cases request true with
      ⟨taken, -, present, meets, -⟩ | ⟨⟨actual, refused⟩, -⟩
    · cases present.symm.trans there
      rw [← same, meets, not_ore_anyBlock] at ore
      cases ore
    rw [refused] at answered
    have status : (1 : UInt8) = 0 := congrArg (fun reply => reply.result.status)
      (cons.inj (append_cancel_left answered)).1
    exact absurd status (by decide)
  · intro fruitless
    refine ⟨?_, ?_, ?_⟩
    · intro other request block isRequest found there same
      obtain ⟨rfl, -⟩ := DrillInput.setBlockCAS.inj isRequest
      exact absurd same (fruitless rfl request block found there)
    · simp only [step, due, append_nil]
      split <;> rfl
    · simp only [step]
      split <;> exact sound.bounded

theorem yields_mineComplete_iff (index : Nat) :
    state.Yields (.mineComplete index) ↔ state.Fruitless (.mineComplete index) := by
  have other : ∀ index', DrillInput.mineComplete index ≠ .setBlockCAS index' true := nofun
  cases found : state.replies[index]? with
  | none =>
    have nothing : state.due (.mineComplete index) = [] := by simp only [due, found]
    have same : (state.step (.mineComplete index)).1 = state := by simp only [step, found]
    refine ⟨fun _ reply there => ?_, fun _ => yields_of_quiet sound other nothing (by rw [same])⟩
    rw [found] at there
    cases there
  | some reply =>
    have mem := mem_of_getElem? found
    have nothing : state.due (.mineComplete index) = [] := by
      simp only [due, found]
      by_cases committed : reply.result.status = 0
      · obtain ⟨block, removed, meets⟩ := sound.committed reply mem committed
        simp only [removed, meets, dropOf_anyBlock]
      · simp only [sound.refused reply mem committed]
    have outputBuffer : (state.step (.mineComplete index)).1.drill.outputBuffer =
        state.drill.outputBuffer ++
          if reply.result.status = 0 then dropOf state.drill.targetOreId else [] := by
      simp only [step, found, onMineComplete_outputBuffer]
    constructor
    · intro yields other there committed
      cases found.symm.trans there
      have gains := yields.gains
      rw [outputBuffer, nothing, if_pos committed] at gains
      exact dropOf_eq_nil_iff.mp (append_cancel_left gains)
    · intro fruitless
      apply yields_of_quiet sound other nothing
      rw [outputBuffer]
      split
      · next committed =>
        rw [dropOf_eq_nil_iff.mpr (fruitless reply found committed), append_nil]
      · rw [append_nil]

theorem yields_iff (input : DrillInput) : state.Yields input ↔ state.Fruitless input := by
  cases input with
  | tick => exact iff_of_true (yields_of_quiet sound nofun rfl quiet_tick.outputBuffer) trivial
  | getBlock index reached =>
    refine iff_of_true (yields_of_quiet sound nofun rfl ?_) trivial
    simp only [step]
    split <;> rfl
  | searchBlockResult index =>
    refine iff_of_true (yields_of_quiet sound nofun rfl ?_) trivial
    simp only [step]
    split
    · rfl
    · unfold onSearchBlockResult
      split <;> rfl
  | setBlockCAS index reached =>
    cases reached with
    | true => exact yields_setBlockCAS_iff sound index
    | false =>
      refine iff_of_true (yields_of_quiet sound nofun rfl ?_) nofun
      simp only [step]
      split <;> rfl
  | mineComplete index => exact yields_mineComplete_iff sound index
  | changeWorld pos block => exact iff_of_true (yields_of_quiet sound nofun rfl rfl) trivial
  | changeEnergy energy => exact iff_of_true (yields_of_quiet sound nofun rfl rfl) trivial

omit sound

theorem yields_always_iff (pos : BlockPos) (tier : Int) (world : BlockPos → Option Block)
    (inputs : List DrillInput) : machine.Along Yields (start pos tier world) inputs ↔
      machine.Along Fruitless (start pos tier world) inputs := by
  have agree : ∀ state input, Sound state → (Yields state input ↔ Fruitless state input) :=
    fun state input sound => yields_iff sound input
  have keeps : ∀ state input, Sound state → Fruitless state input →
      Sound (machine.step state input).1 :=
    fun state input sound fruitless => sound_step sound fruitless
  exact machine.along_congr_of agree keeps (sound_start pos tier world) inputs

def ironVein (pos : BlockPos) : Option Block :=
  if pos = ⟨1, 0, 0⟩ then some ⟨kOreIron, 0⟩ else none

def mineIron : List DrillInput :=
  [.changeEnergy { storage := some ⟨10000, 10000, 32, 160, 3, .electricity⟩ }, .tick,
    .getBlock 0 true, .searchBlockResult 0] ++ replicate 25 .tick

theorem mineIron_refused :
    ¬ machine.Along Yields (start ⟨0, 0, 0⟩ 3 ironVein) (mineIron ++ [.setBlockCAS 0 true]) := by
  intro along
  obtain ⟨-, yields⟩ := (machine.along_concat Yields _ mineIron _).mp along
  have answered := (yields.commits 0 ⟨⟨1, 0, 0⟩, kOreIron⟩ ⟨kOreIron, 0⟩ rfl
    (by decide +kernel) (by decide +kernel) rfl).2
  exact absurd answered (by decide +kernel)

end DrillWorld

end GtnhPlatform.Mining
