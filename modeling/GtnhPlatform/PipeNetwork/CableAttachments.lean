import GtnhPlatform.PipeNetwork.CableTracking

namespace GtnhPlatform.PipeNetwork

open PipeNetworkService List

/-- `m_machineToCable` or `m_generatorToCable`, and where each machine or generator was last
registered, which the code does not store. -/
structure Attachments where
  cables : Table Nat Nat := ∅
  positions : Table Nat Position := ∅

structure WiredGraph where
  graph : CableGraph := {}
  machineToCable : Attachments := {}
  generatorToCable : Attachments := {}

inductive CableOperation where
  | addCableNode (nodeId : Nat) (cable : CableDef) (position : Position) (faceMask : Nat)
  | removeCableNode (nodeId : Nat)
  | processOverheat (exploded : CableNode → Bool)
  | registerMachine (machineEntityId : Nat) (position : Position) (tier : Nat)
  | registerGenerator (genEntityId : Nat) (position : Position) (tier : Nat)
  | unregisterMachine (machineEntityId : Nat)
  | unregisterGenerator (genEntityId : Nat)

namespace Attachments

def register (graph : CableGraph) (entityId : Nat) (position : Position) (tier : Nat)
    (attachments : Attachments) : Attachments :=
  match graph.findAdjacentCable position tier with
  | none => attachments
  | some cable =>
    { cables :=
        if cable = 0 then attachments.cables else AList.insert entityId cable attachments.cables
      positions := AList.insert entityId position attachments.positions }

def unregister (entityId : Nat) (attachments : Attachments) : Attachments :=
  { attachments with cables := attachments.cables.erase entityId }

end Attachments

namespace WiredGraph

def addCableNode (wired : WiredGraph) (nodeId : Nat) (cable : CableDef) (position : Position)
    (faceMask : Nat) : WiredGraph :=
  { wired with graph := wired.graph.addCableNode nodeId cable position faceMask }

def removeCableNode (wired : WiredGraph) (nodeId : Nat) : WiredGraph :=
  match wired.graph.nodes.lookup nodeId with
  | none => wired
  | some node =>
    { graph := wired.graph.removeCableNode nodeId
      generatorToCable := wired.generatorToCable.unregister node.id
      machineToCable := wired.machineToCable.unregister node.id }

variable (wired : WiredGraph)

/-- Which nodes are too hot is decided before any of them is removed. -/
def processOverheat (exploded : CableNode → Bool) : WiredGraph :=
  ((wired.graph.nodes.values.filter exploded).map CableNode.id).foldl removeCableNode wired

def registerMachine (machineEntityId : Nat) (position : Position) (tier : Nat) : WiredGraph :=
  { wired with
    machineToCable := wired.machineToCable.register wired.graph machineEntityId position tier }

def registerGenerator (genEntityId : Nat) (position : Position) (tier : Nat) : WiredGraph :=
  { wired with
    generatorToCable := wired.generatorToCable.register wired.graph genEntityId position tier }

def unregisterMachine (machineEntityId : Nat) : WiredGraph :=
  { wired with machineToCable := wired.machineToCable.unregister machineEntityId }

def unregisterGenerator (genEntityId : Nat) : WiredGraph :=
  { wired with generatorToCable := wired.generatorToCable.unregister genEntityId }

def operate : CableOperation → WiredGraph
  | .addCableNode nodeId cable position faceMask =>
    wired.addCableNode nodeId cable position faceMask
  | .removeCableNode nodeId => wired.removeCableNode nodeId
  | .processOverheat exploded => wired.processOverheat exploded
  | .registerMachine machineEntityId position tier =>
    wired.registerMachine machineEntityId position tier
  | .registerGenerator genEntityId position tier =>
    wired.registerGenerator genEntityId position tier
  | .unregisterMachine machineEntityId => wired.unregisterMachine machineEntityId
  | .unregisterGenerator genEntityId => wired.unregisterGenerator genEntityId

def operations : Machine WiredGraph CableOperation Empty where
  step wired operation := (wired.operate operation, [])

end WiredGraph

def Beside (position other : Position) : Prop :=
  ∃ face ∈ faceOffsets, adjacent position face.2 = other

def CableGraph.Reaches (graph : CableGraph) (cable : Nat) (position : Position) : Prop :=
  ∃ node, graph.nodes.lookup cable = some node ∧ Beside position node.position

namespace Attachments

def Holds (attachments : Attachments) (entityId cable : Nat) (position : Position) : Prop :=
  attachments.cables.lookup entityId = some cable ∧
    attachments.positions.lookup entityId = some position

structure Live (attachments : Attachments) (graph : CableGraph) : Prop where
  placed : ∀ entityId cable, attachments.cables.lookup entityId = some cable →
    ∃ position, attachments.positions.lookup entityId = some position
  reached : ∀ entityId cable position, attachments.Holds entityId cable position →
    graph.Reaches cable position

end Attachments

namespace WiredGraph

structure Live (wired : WiredGraph) : Prop where
  machines : wired.machineToCable.Live wired.graph
  generators : wired.generatorToCable.Live wired.graph

end WiredGraph

namespace Attachments

variable (attachments : Attachments)

def KeptByAdd (nodeId : Nat) (position : Position) : Prop :=
  ∀ entityId place, attachments.Holds entityId nodeId place → Beside place position

def KeptByRemoval (removed : Nat → Prop) : Prop :=
  ∀ entityId cable, attachments.cables.lookup entityId = some cable → removed cable →
    removed entityId

def KeptByRegister (graph : CableGraph) (entityId : Nat)
    (position : Position) (tier : Nat) : Prop :=
  ∀ cable ∈ graph.findAdjacentCable position tier,
    if cable = 0 then ∀ kept ∈ attachments.cables.lookup entityId, graph.Reaches kept position
    else graph.Reaches cable position

end Attachments

namespace WiredGraph

def KeepsAttached (wired : WiredGraph) : CableOperation → Prop
  | .addCableNode nodeId _ position _ =>
    wired.machineToCable.KeptByAdd nodeId position ∧
      wired.generatorToCable.KeptByAdd nodeId position
  | .removeCableNode nodeId =>
    let removed := fun id => id = nodeId
    wired.machineToCable.KeptByRemoval removed ∧ wired.generatorToCable.KeptByRemoval removed
  | .processOverheat exploded =>
    let removed := fun id => ∃ node, wired.graph.nodes.lookup id = some node ∧ exploded node
    wired.machineToCable.KeptByRemoval removed ∧ wired.generatorToCable.KeptByRemoval removed
  | .registerMachine machineEntityId position tier =>
    wired.machineToCable.KeptByRegister wired.graph machineEntityId position tier
  | .registerGenerator genEntityId position tier =>
    wired.generatorToCable.KeptByRegister wired.graph genEntityId position tier
  | .unregisterMachine _ => True
  | .unregisterGenerator _ => True

end WiredGraph

namespace Attachments

variable {attachments : Attachments} {graph : CableGraph}

theorem Live.add_iff (live : attachments.Live graph) (nodeId : Nat) (cable : CableDef)
    (position : Position) (faceMask : Nat) :
    attachments.Live (graph.addCableNode nodeId cable position faceMask) ↔
      attachments.KeptByAdd nodeId position := by
  constructor
  · intro after entityId place holds
    obtain ⟨node, present, beside⟩ := after.reached entityId nodeId place holds
    rw [CableGraph.lookup_addCableNode, if_pos rfl] at present
    cases present
    exact beside
  · intro kept
    refine ⟨live.placed, ?_⟩
    intro entityId reached place holds
    by_cases here : reached = nodeId
    · obtain rfl := here
      have stored := graph.lookup_addCableNode reached cable position faceMask reached
      rw [if_pos rfl] at stored
      exact ⟨_, stored, kept entityId place holds⟩
    · obtain ⟨node, present, beside⟩ := live.reached entityId reached place holds
      refine ⟨node, ?_, beside⟩
      rw [CableGraph.lookup_addCableNode, if_neg here]
      exact present

variable {after : Attachments}

variable (live : attachments.Live graph)

include live

theorem Live.removed_iff {afterGraph : CableGraph} {removed : Nat → Prop}
    (nodes : ∀ id node, afterGraph.nodes.lookup id = some node ↔
      graph.nodes.lookup id = some node ∧ ¬removed id)
    (cables : ∀ id cable, after.cables.lookup id = some cable ↔
      attachments.cables.lookup id = some cable ∧ ¬removed id)
    (positions : after.positions = attachments.positions) :
    after.Live afterGraph ↔ attachments.KeptByRemoval removed := by
  constructor
  · intro still entityId cable attached gone
    by_contra stays
    have remains := (cables entityId cable).mpr ⟨attached, stays⟩
    obtain ⟨position, placed⟩ := still.placed entityId cable remains
    obtain ⟨node, present, -⟩ := still.reached entityId cable position ⟨remains, placed⟩
    exact ((nodes cable node).mp present).2 gone
  · intro kept
    constructor
    · intro entityId cable remains
      rw [positions]
      exact live.placed entityId cable ((cables entityId cable).mp remains).1
    intro entityId cable position holds
    obtain ⟨attached, stays⟩ := (cables entityId cable).mp holds.1
    have placed := holds.2
    rw [positions] at placed
    obtain ⟨node, present, beside⟩ := live.reached entityId cable position ⟨attached, placed⟩
    refine ⟨node, (nodes cable node).mpr ⟨present, ?_⟩, beside⟩
    exact fun gone => stays (kept entityId cable attached gone)

theorem Live.placed_iff (positions : after.positions = AList.insert entityId position attachments.positions)
    (others : ∀ other, other ≠ entityId →
      after.cables.lookup other = attachments.cables.lookup other) :
    after.Live graph ↔ ∀ cable ∈ after.cables.lookup entityId, graph.Reaches cable position := by
  have here : after.positions.lookup entityId = some position := by
    rw [positions]
    exact Table.lookup_insert_self _ entityId position
  have apart : ∀ other, other ≠ entityId →
      after.positions.lookup other = attachments.positions.lookup other := by
    intro other different
    rw [positions]
    exact Table.lookup_insert_of_ne _ position different
  constructor
  · intro still cable attached
    exact still.reached entityId cable position ⟨attached, here⟩
  intro reaches
  constructor
  · intro other cable attached
    by_cases same : other = entityId
    · rw [same]
      exact ⟨position, here⟩
    · rw [others other same] at attached
      rw [apart other same]
      exact live.placed other cable attached
  · rintro other cable place ⟨attached, placed⟩
    by_cases same : other = entityId
    · obtain rfl := same
      cases here.symm.trans placed
      exact reaches cable attached
    · rw [others other same] at attached
      rw [apart other same] at placed
      exact live.reached other cable place ⟨attached, placed⟩

theorem Live.register_iff (entityId : Nat) (position : Position) (tier : Nat) :
    (attachments.register graph entityId position tier).Live graph ↔
      attachments.KeptByRegister graph entityId position tier := by
  rw [register, KeptByRegister]
  cases graph.findAdjacentCable position tier with
  | none => exact iff_of_true live fun _ none => nomatch none
  | some found =>
    simp only [Option.mem_some_iff, forall_eq']
    by_cases none : found = 0
    · rw [if_pos none, if_pos none]
      exact live.placed_iff rfl fun _ _ => rfl
    rw [if_neg none, if_neg none, live.placed_iff rfl fun other different =>
      Table.lookup_insert_of_ne _ found different]
    rw [Table.lookup_insert_self]
    simp only [Option.mem_some_iff, forall_eq']

theorem Live.unregister (entityId : Nat) : (attachments.unregister entityId).Live graph := by
  have earlier : ∀ other cable, (attachments.unregister entityId).cables.lookup other =
      some cable → attachments.cables.lookup other = some cable := by
    intro other cable attached
    rw [Attachments.unregister, Table.lookup_erase_eq] at attached
    split at attached
    · exact nomatch attached
    · exact attached
  constructor
  · intro other cable attached
    exact live.placed other cable (earlier other cable attached)
  · intro other cable place holds
    exact live.reached other cable place ⟨earlier other cable holds.1, holds.2⟩

omit live

end Attachments

namespace WiredGraph

variable {wired middle out : WiredGraph}

def Numbered (wired : WiredGraph) : Prop :=
  ∀ id node, wired.graph.nodes.lookup id = some node → node.id = id

structure Removed (wired : WiredGraph) (removed : Nat → Prop) (out : WiredGraph) : Prop where
  nodes : ∀ id node, out.graph.nodes.lookup id = some node ↔
    wired.graph.nodes.lookup id = some node ∧ ¬removed id
  machines : ∀ id cable, out.machineToCable.cables.lookup id = some cable ↔
    wired.machineToCable.cables.lookup id = some cable ∧ ¬removed id
  generators : ∀ id cable, out.generatorToCable.cables.lookup id = some cable ↔
    wired.generatorToCable.cables.lookup id = some cable ∧ ¬removed id
  machinePositions : out.machineToCable.positions = wired.machineToCable.positions
  generatorPositions : out.generatorToCable.positions = wired.generatorToCable.positions

variable {removed : Nat → Prop}

theorem Removed.refl (wired : WiredGraph) (none : ∀ id, ¬removed id) :
    wired.Removed removed wired where
  nodes id _ := (and_iff_left (none id)).symm
  machines id _ := (and_iff_left (none id)).symm
  generators id _ := (and_iff_left (none id)).symm
  machinePositions := rfl
  generatorPositions := rfl

theorem Removed.trans {first later : Nat → Prop} (start : wired.Removed first middle)
    (next : middle.Removed later out) : wired.Removed (fun id => first id ∨ later id) out where
  nodes id node := by
    rw [next.nodes, start.nodes, and_assoc, not_or]
  machines id cable := by
    rw [next.machines, start.machines, and_assoc, not_or]
  generators id cable := by
    rw [next.generators, start.generators, and_assoc, not_or]
  machinePositions := next.machinePositions.trans start.machinePositions
  generatorPositions := next.generatorPositions.trans start.generatorPositions

theorem Removed.congr {first second : Nat → Prop} (removed : wired.Removed first out)
    (same : ∀ id, first id ↔ second id) : wired.Removed second out := by
  obtain rfl : first = second := funext fun id => propext (same id)
  exact removed

theorem Removed.numbered (gone : wired.Removed removed out) (numbered : wired.Numbered) :
    out.Numbered :=
  fun id node present => numbered id node ((gone.nodes id node).mp present).1

theorem lookup_erase_iff {ν : Type} (table : Table Nat ν) (key other : Nat) (value : ν) :
    (table.erase key).lookup other = some value ↔
      table.lookup other = some value ∧ ¬other = key := by
  rw [Table.lookup_erase_eq]
  split
  · next here => exact iff_of_false nofun fun both => both.2 here
  · next apart => exact (and_iff_left apart).symm

variable (numbered : wired.Numbered)

include numbered

theorem removeCableNode_removed (nodeId : Nat) :
    wired.Removed (fun id => id = nodeId ∧ (wired.graph.nodes.lookup id).isSome)
      (wired.removeCableNode nodeId) := by
  rw [removeCableNode]
  cases present : wired.graph.nodes.lookup nodeId with
  | none =>
    apply Removed.refl
    rintro id ⟨rfl, alive⟩
    rw [present] at alive
    exact nomatch alive
  | some node =>
    have alive : ∀ id, id = nodeId ↔ id = nodeId ∧ (wired.graph.nodes.lookup id).isSome := by
      intro id
      constructor
      · rintro rfl
        exact ⟨rfl, by rw [present]; rfl⟩
      · exact And.left
    apply Removed.congr _ alive
    dsimp only
    rw [numbered nodeId node present]
    constructor
    · intro id other
      rw [CableGraph.lookup_removeCableNode]
      split
      · next here => exact iff_of_false nofun fun both => both.2 here
      · next apart => exact (and_iff_left apart).symm
    · exact lookup_erase_iff _ nodeId
    · exact lookup_erase_iff _ nodeId
    · rfl
    · rfl

theorem foldl_removed (ids : List Nat) :
    wired.Removed (fun id => id ∈ ids ∧ (wired.graph.nodes.lookup id).isSome)
      (ids.foldl removeCableNode wired) := by
  induction ids generalizing wired with
  | nil => exact Removed.refl wired fun id both => not_mem_nil both.1
  | cons head rest ih =>
    have first := removeCableNode_removed numbered head
    apply (first.trans (ih (first.numbered numbered))).congr
    intro id
    have alive : ((wired.removeCableNode head).graph.nodes.lookup id).isSome ↔
        (wired.graph.nodes.lookup id).isSome ∧
          ¬(id = head ∧ (wired.graph.nodes.lookup id).isSome) := by
      rw [Option.isSome_iff_exists, Option.isSome_iff_exists]
      constructor
      · rintro ⟨node, present⟩
        obtain ⟨before, stays⟩ := (first.nodes id node).mp present
        rw [Option.isSome_iff_exists] at stays
        exact ⟨⟨node, before⟩, stays⟩
      · rintro ⟨⟨node, before⟩, stays⟩
        rw [← Option.isSome_iff_exists] at stays
        exact ⟨node, (first.nodes id node).mpr ⟨before, stays⟩⟩
    rw [alive, mem_cons]
    tauto

theorem mem_exploded_iff (exploded : CableNode → Bool) (id : Nat) :
    (id ∈ (wired.graph.nodes.values.filter exploded).map CableNode.id ∧
      (wired.graph.nodes.lookup id).isSome) ↔
        ∃ node, wired.graph.nodes.lookup id = some node ∧ exploded node := by
  constructor
  · rintro ⟨mem, -⟩
    obtain ⟨node, listed, rfl⟩ := mem_map.mp mem
    obtain ⟨stored, hot⟩ := mem_filter.mp listed
    obtain ⟨key, present⟩ := Table.mem_values_iff.mp stored
    rw [← numbered key node present] at present
    exact ⟨node, present, hot⟩
  · rintro ⟨node, present, hot⟩
    refine ⟨?_, by rw [present]; rfl⟩
    rw [← numbered id node present]
    apply mem_map_of_mem
    exact mem_filter.mpr ⟨Table.mem_values_iff.mpr ⟨id, present⟩, hot⟩

theorem processOverheat_removed (exploded : CableNode → Bool) :
    wired.Removed (fun id => ∃ node, wired.graph.nodes.lookup id = some node ∧ exploded node)
      (wired.processOverheat exploded) :=
  (foldl_removed numbered _).congr (mem_exploded_iff numbered exploded)

omit numbered

theorem numbered_start : Numbered {} := fun _ _ present => nomatch present

theorem Numbered.operate (numbered : wired.Numbered) (operation : CableOperation) :
    (wired.operate operation).Numbered := by
  cases operation with
  | addCableNode nodeId cable position faceMask =>
    intro id node present
    change (wired.graph.addCableNode nodeId cable position faceMask).nodes.lookup id = _ at present
    rw [CableGraph.lookup_addCableNode] at present
    split at present
    · next here =>
      cases present
      exact here.symm
    · exact numbered id node present
  | removeCableNode nodeId => exact (removeCableNode_removed numbered nodeId).numbered numbered
  | processOverheat exploded => exact (processOverheat_removed numbered exploded).numbered numbered
  | registerMachine machineEntityId position tier => exact numbered
  | registerGenerator genEntityId position tier => exact numbered
  | unregisterMachine machineEntityId => exact numbered
  | unregisterGenerator genEntityId => exact numbered

theorem live_start : Live {} where
  machines := ⟨nofun, fun _ _ _ holds => nomatch holds.1⟩
  generators := ⟨nofun, fun _ _ _ holds => nomatch holds.1⟩

theorem live_iff : wired.Live ↔
    wired.machineToCable.Live wired.graph ∧ wired.generatorToCable.Live wired.graph :=
  ⟨fun live => ⟨live.machines, live.generators⟩, fun both => ⟨both.1, both.2⟩⟩

theorem Removed.live_iff (gone : wired.Removed removed out) (live : wired.Live) :
    out.Live ↔ wired.machineToCable.KeptByRemoval removed ∧
      wired.generatorToCable.KeptByRemoval removed := by
  rw [WiredGraph.live_iff, live.machines.removed_iff gone.nodes gone.machines gone.machinePositions,
    live.generators.removed_iff gone.nodes gone.generators gone.generatorPositions]

theorem Live.operate_iff (live : wired.Live) (numbered : wired.Numbered)
    (operation : CableOperation) :
    (wired.operate operation).Live ↔ wired.KeepsAttached operation := by
  cases operation with
  | addCableNode nodeId cable position faceMask =>
    rw [live_iff]
    apply and_congr
    · exact live.machines.add_iff nodeId cable position faceMask
    · exact live.generators.add_iff nodeId cable position faceMask
  | removeCableNode nodeId =>
    cases present : wired.graph.nodes.lookup nodeId with
    | none =>
      have same : wired.operate (.removeCableNode nodeId) = wired := by
        rw [operate, removeCableNode, present]
      have unused : ∀ attachments : Attachments, attachments.Live wired.graph →
          attachments.KeptByRemoval fun id => id = nodeId := by
        rintro attachments attached entityId cable stored rfl
        obtain ⟨position, placed⟩ := attached.placed entityId cable stored
        obtain ⟨node, there, -⟩ := attached.reached entityId cable position ⟨stored, placed⟩
        rw [present] at there
        exact nomatch there
      rw [same]
      exact iff_of_true live ⟨unused _ live.machines, unused _ live.generators⟩
    | some node =>
      apply ((removeCableNode_removed numbered nodeId).congr _).live_iff live
      intro id
      apply and_iff_left_of_imp
      rintro rfl
      rw [present]
      rfl
  | processOverheat exploded =>
    exact (processOverheat_removed numbered exploded).live_iff live
  | registerMachine machineEntityId position tier =>
    rw [live_iff]
    exact (and_iff_left live.generators).trans
      (live.machines.register_iff machineEntityId position tier)
  | registerGenerator genEntityId position tier =>
    rw [live_iff]
    exact (and_iff_right live.machines).trans
      (live.generators.register_iff genEntityId position tier)
  | unregisterMachine machineEntityId =>
    exact iff_of_true ⟨live.machines.unregister machineEntityId, live.generators⟩ trivial
  | unregisterGenerator genEntityId =>
    exact iff_of_true ⟨live.machines, live.generators.unregister genEntityId⟩ trivial

theorem attachments_live_iff (inputs : List CableOperation) :
    (∀ before after, inputs = before ++ after → (operations.final {} before).Live) ↔
      operations.Along KeepsAttached {} inputs :=
  operations.always_iff_within Numbered
    (fun _ operation numbered _ => numbered.operate operation)
    (fun _ operation numbered _ live => live.operate_iff numbered operation)
    numbered_start live_start (operations.along_true {} inputs)

theorem removed_cable_stays_attached :
    ¬(operations.final {} [.addCableNode 2 ⟨62464, 1, "cable_tin", 0x05f5e100, 0x20, 0x20⟩
      ⟨1, 64, 0⟩ 0, .registerMachine 7 ⟨0, 64, 0⟩ 0, .removeCableNode 2]).Live := by
  intro live
  have attached : (operations.final {} [.addCableNode 2
      ⟨62464, 1, "cable_tin", 0x05f5e100, 0x20, 0x20⟩ ⟨1, 64, 0⟩ 0,
      .registerMachine 7 ⟨0, 64, 0⟩ 0, .removeCableNode 2]).machineToCable.cables.lookup 7 =
        some 2 := by
    decide +kernel
  obtain ⟨position, placed⟩ := live.machines.placed 7 2 attached
  obtain ⟨node, present, -⟩ := live.machines.reached 7 2 position ⟨attached, placed⟩
  have gone : (operations.final {} [.addCableNode 2
      ⟨62464, 1, "cable_tin", 0x05f5e100, 0x20, 0x20⟩ ⟨1, 64, 0⟩ 0,
      .registerMachine 7 ⟨0, 64, 0⟩ 0, .removeCableNode 2]).graph.nodes.lookup 2 = none := by
    decide +kernel
  rw [gone] at present
  exact nomatch present

end WiredGraph

end GtnhPlatform.PipeNetwork
