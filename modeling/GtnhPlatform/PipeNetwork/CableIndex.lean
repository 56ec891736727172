import GtnhPlatform.PipeNetwork.CableTracking
import Mathlib.Data.Set.Function

namespace GtnhPlatform.PipeNetwork

open PipeNetworkService List

inductive CableChange where
  | addCableNode (nodeId : Nat) (cable : CableDef) (faceMask : Nat)
  | removeCableNode (nodeId : Nat)

def CableChange.Among (cables : Set Nat) : CableChange → Prop
  | .addCableNode nodeId _ _ => nodeId ∈ cables
  | .removeCableNode _ => True

namespace CableGraph

def Sees (graph : CableGraph) (position : Position) : Prop :=
  ∀ id, graph.indexed position = some id ↔
    ∃ node, graph.nodes.lookup id = some node ∧ node.position = position

def Present (graph : CableGraph) (id : Nat) : Prop := ∃ node, graph.nodes.lookup id = some node

section Sites

variable (site : Nat → Position) (machines : Set Position)

/-- Cables come and go, each at its own position. -/
def change (graph : CableGraph) : CableChange → CableGraph
  | .addCableNode nodeId cable faceMask =>
    graph.addCableNode nodeId cable (site nodeId) faceMask
  | .removeCableNode nodeId => graph.removeCableNode nodeId

def changes : Machine CableGraph CableChange Unit where
  step graph input := (graph.change site input, [])

/-- The index is exact, and every reader of it gets what it would get from the cables
themselves. -/
structure SeesCables (graph : CableGraph) : Prop where
  index : ∀ id node, graph.nodes.lookup id = some node →
    graph.posToNode.lookup (packPos node.position) = some id
  only : ∀ key id, graph.posToNode.lookup key = some id →
    ∃ node, graph.nodes.lookup id = some node ∧ packPos node.position = key
  neighbours : ∀ id node, graph.nodes.lookup id = some node → ∀ face ∈ faceOffsets,
    graph.Sees (adjacent node.position face.2)
  beside : ∀ position ∈ machines, ∀ face ∈ faceOffsets, graph.Sees (adjacent position face.2)
  networks : graph.rebuildGraph.cableNetworks =
    networksBy (reachedBy graph.nodes graph.standing) graph.nodes.keys
  paths : ∀ fromCable toCable, graph.findPath fromCable toCable =
    pathFrom (reachedBy graph.nodes graph.standing) graph.nodes.keys fromCable toCable
  found : ∀ position ∈ machines, ∀ tier, graph.findAdjacentCable position tier =
    adjacentBy graph.nodes graph.standing position tier faceOffsets

def LookedUp (present : Nat → Prop) (position : Position) : Prop :=
  (∃ id, present id ∧ position = site id) ∨
    (∃ id, present id ∧ ∃ face ∈ faceOffsets, position = adjacent (site id) face.2) ∨
    ∃ machine ∈ machines, ∃ face ∈ faceOffsets, position = adjacent machine face.2

def KeysTellApart (present : Nat → Prop) : Prop :=
  ∀ id, present id → ∀ position, LookedUp site machines present position →
    packPos position = packPos (site id) → position = site id

def PresentAfter (graph : CableGraph) : CableChange → Nat → Prop
  | .addCableNode nodeId _ _, id => id = nodeId ∨ graph.Present id
  | .removeCableNode nodeId, id => id ≠ nodeId ∧ graph.Present id

def Sited (cables : Set Nat) (graph : CableGraph) : Prop :=
  ∀ id node, graph.nodes.lookup id = some node → id ∈ cables ∧ node.position = site id

end Sites

section Index

variable {site : Nat → Position} {machines : Set Position} {cables : Set Nat}
  {graph : CableGraph}

theorem present_change (site : Nat → Position) (graph : CableGraph) (input : CableChange) :
    (graph.change site input).Present = graph.PresentAfter input := by
  funext id
  cases input with
  | addCableNode nodeId cable faceMask =>
    simp only [Present, change, lookup_addCableNode, PresentAfter, eq_iff_iff]
    by_cases here : id = nodeId
    · simp [here]
    · simp [here]
  | removeCableNode nodeId =>
    simp only [Present, change, lookup_removeCableNode, PresentAfter, eq_iff_iff]
    by_cases here : id = nodeId
    · simp [here]
    · simp [here]

theorem standing_eq_some_iff (distinct : Set.InjOn site cables) (sited : graph.Sited site cables)
    (position : Position) (id : Nat) : graph.standing position = some id ↔
      ∃ node, graph.nodes.lookup id = some node ∧ node.position = position := by
  rw [standing, Option.map_eq_some_iff]
  constructor
  · rintro ⟨entry, found, rfl⟩
    exact ⟨entry.2, Table.mem_entries_iff.mp (mem_of_find?_eq_some found),
      by simpa using find?_some found⟩
  rintro ⟨node, present, rfl⟩
  have mem := Table.mem_entries_iff.mpr present
  cases found : graph.nodes.entries.find? fun entry => entry.2.position == node.position with
  | none =>
    have missed := find?_eq_none.mp found ⟨id, node⟩ mem
    exact absurd (beq_self_eq_true node.position) missed
  | some entry =>
    have stored : graph.nodes.lookup entry.1 = some entry.2 :=
      Table.mem_entries_iff.mp (mem_of_find?_eq_some found)
    obtain ⟨known, here⟩ := sited entry.1 entry.2 stored
    obtain ⟨knownToo, there⟩ := sited id node present
    have same : entry.2.position = node.position := by simpa using find?_some found
    exact ⟨entry, rfl, distinct known knownToo (by rw [← here, ← there, same])⟩

theorem SeesCables.keysTellApart (sited : graph.Sited site cables)
    (sees : graph.SeesCables machines) : KeysTellApart site machines graph.Present := by
  rintro id ⟨node, found⟩ position lookedUp same
  have here := (sited id node found).2
  have answer : graph.indexed position = some id := by
    rw [indexed, same, ← here]
    exact sees.index id node found
  have stands : graph.Sees position → position = site id := by
    intro seen
    obtain ⟨other, stored, there⟩ := (seen id).mp answer
    rw [← there, (sited id other stored).2]
  obtain ⟨other, ⟨cable, stored⟩, rfl⟩ | ⟨other, ⟨cable, stored⟩, face, mem, rfl⟩ |
    ⟨machine, listed, face, mem, rfl⟩ := lookedUp
  · have own := sees.index other cable stored
    rw [(sited other cable stored).2] at own
    rw [Option.some.inj (own.symm.trans answer)]
  · have seen := sees.neighbours other cable stored face mem
    rw [(sited other cable stored).2] at seen
    exact stands seen
  · exact stands (sees.beside machine listed face mem)

theorem seesCables_of_keys (distinct : Set.InjOn site cables) (sited : graph.Sited site cables)
    (index : ∀ id node, graph.nodes.lookup id = some node →
      graph.posToNode.lookup (packPos node.position) = some id)
    (only : ∀ key id, graph.posToNode.lookup key = some id →
      ∃ node, graph.nodes.lookup id = some node ∧ packPos node.position = key)
    (keys : KeysTellApart site machines graph.Present) : graph.SeesCables machines := by
  have seen : ∀ position, LookedUp site machines graph.Present position →
      graph.Sees position := by
    intro position lookedUp id
    constructor
    · intro answer
      obtain ⟨node, found, same⟩ := only (packPos position) id answer
      have here := (sited id node found).2
      refine ⟨node, found, ?_⟩
      rw [here]
      exact (keys id ⟨node, found⟩ position lookedUp (by rw [← same, here])).symm
    · rintro ⟨node, found, rfl⟩
      exact index id node found
  have neighbours : ∀ id node, graph.nodes.lookup id = some node → ∀ face ∈ faceOffsets,
      graph.Sees (adjacent node.position face.2) := by
    intro id node found face mem
    refine seen _ (Or.inr (Or.inl ⟨id, ⟨node, found⟩, face, mem, ?_⟩))
    rw [(sited id node found).2]
  have beside : ∀ position ∈ machines, ∀ face ∈ faceOffsets,
      graph.Sees (adjacent position face.2) := fun position listed face mem =>
    seen _ (Or.inr (Or.inr ⟨position, listed, face, mem, rfl⟩))
  have agree : ∀ {position}, graph.Sees position →
      graph.indexed position = graph.standing position := by
    intro position sees
    ext id
    rw [sees id, standing_eq_some_iff distinct sited]
  have reached : reachedBy graph.nodes graph.indexed = reachedBy graph.nodes graph.standing :=
    reachedBy_congr fun id node found face mem => agree (neighbours id node found face mem)
  refine ⟨index, only, neighbours, beside, ?_, ?_, ?_⟩
  · rw [rebuildGraph_cableNetworks, reached]
  · intro fromCable toCable
    rw [findPath, reached]
  · intro position listed tier
    exact adjacentBy_congr graph.nodes position tier fun face mem =>
      agree (beside position listed face mem)

structure Indexed (site : Nat → Position) (machines : Set Position) (cables : Set Nat)
    (graph : CableGraph) : Prop where
  sited : graph.Sited site cables
  sees : graph.SeesCables machines

theorem indexed_start (distinct : Set.InjOn site cables) :
    ({} : CableGraph).Indexed site machines cables := by
  have sited : ({} : CableGraph).Sited site cables := by
    intro id node found
    cases found
  refine ⟨sited, seesCables_of_keys distinct sited ?_ ?_ ?_⟩
  · intro id node found
    cases found
  · intro key id found
    cases found
  · rintro id ⟨node, found⟩
    cases found

variable {input : CableChange}

theorem Sited.change (sited : graph.Sited site cables) (known : input.Among cables) :
    (graph.change site input).Sited site cables := by
  intro id node found
  cases input with
  | addCableNode nodeId cable faceMask =>
    rw [CableGraph.change, lookup_addCableNode] at found
    split at found
    · next here =>
      cases found
      rw [here]
      exact ⟨known, rfl⟩
    · exact sited id node found
  | removeCableNode nodeId =>
    rw [CableGraph.change, lookup_removeCableNode] at found
    split at found
    · cases found
    · exact sited id node found

variable {nodeId : Nat} {cable : CableDef} {faceMask : Nat}

theorem Indexed.index_add (indexed : graph.Indexed site machines cables)
    (keys : KeysTellApart site machines (graph.PresentAfter (.addCableNode nodeId cable faceMask)))
    (distinct : Set.InjOn site cables) (known : nodeId ∈ cables) {id : Nat} {node : CableNode}
    (found : graph.nodes.lookup id = some node) (other : id ≠ nodeId) :
    packPos node.position ≠ packPos (site nodeId) := by
  obtain ⟨listed, here⟩ := indexed.sited id node found
  intro same
  rw [here] at same
  have place := keys nodeId (Or.inl rfl) (site id)
    (Or.inl ⟨id, Or.inr ⟨node, found⟩, rfl⟩) same
  exact other (distinct listed known place)

variable (distinct : Set.InjOn site cables)

include distinct

variable (indexed : graph.Indexed site machines cables)

include indexed

theorem Indexed.add_sees (known : nodeId ∈ cables) (keys : KeysTellApart site machines
      (graph.PresentAfter (.addCableNode nodeId cable faceMask))) :
    (graph.addCableNode nodeId cable (site nodeId) faceMask).SeesCables machines := by
  have sited : (graph.addCableNode nodeId cable (site nodeId) faceMask).Sited site cables :=
    indexed.sited.change (show (CableChange.addCableNode nodeId cable faceMask).Among cables
      from known)
  have written : ∀ key, (graph.addCableNode nodeId cable (site nodeId) faceMask).posToNode.lookup
      key = if key = packPos (site nodeId) then some nodeId else graph.posToNode.lookup key :=
    Table.lookup_insert_eq graph.posToNode _ nodeId
  apply seesCables_of_keys distinct sited
  · intro id node found
    have here := (sited id node found).2
    rw [lookup_addCableNode] at found
    rw [written]
    split at found
    · next same => rw [here, same, if_pos rfl]
    · next other =>
      rw [if_neg (indexed.index_add keys distinct known found other)]
      exact indexed.sees.index id node found
  · intro key id answer
    rw [written] at answer
    split at answer
    · next same =>
      cases answer
      have stored := lookup_addCableNode graph nodeId cable (site nodeId) faceMask nodeId
      rw [if_pos rfl] at stored
      exact ⟨_, stored, same.symm⟩
    · next elsewhere =>
      obtain ⟨node, found, same⟩ := indexed.sees.only key id answer
      have other : id ≠ nodeId := by
        rintro rfl
        rw [(indexed.sited id node found).2] at same
        exact elsewhere same.symm
      exact ⟨node, by rw [lookup_addCableNode, if_neg other, found], same⟩
  · have present := present_change site graph (.addCableNode nodeId cable faceMask)
    rw [← present] at keys
    exact keys

theorem Indexed.remove_sees (keys : KeysTellApart site machines (graph.PresentAfter (.removeCableNode nodeId))) :
    (graph.removeCableNode nodeId).SeesCables machines := by
  cases gone : graph.nodes.lookup nodeId with
  | none =>
    have same : graph.removeCableNode nodeId = graph := by rw [removeCableNode, gone]
    rw [same]
    exact indexed.sees
  | some cable =>
    have sited : (graph.removeCableNode nodeId).Sited site cables :=
      indexed.sited.change (show (CableChange.removeCableNode nodeId).Among cables from trivial)
    have own := indexed.sees.index nodeId cable gone
    have written : ∀ key, (graph.removeCableNode nodeId).posToNode.lookup key =
        if key = packPos cable.position then none else graph.posToNode.lookup key := by
      intro key
      rw [removeCableNode, gone]
      exact Table.lookup_erase_eq graph.posToNode _ key
    apply seesCables_of_keys distinct sited
    · intro id node found
      rw [lookup_removeCableNode] at found
      split at found
      · cases found
      rename_i other
      have answer := indexed.sees.index id node found
      have apart : packPos node.position ≠ packPos cable.position := by
        intro same
        rw [same, own] at answer
        exact other (Option.some.inj answer).symm
      rw [written, if_neg apart]
      exact answer
    · intro key id answer
      rw [written] at answer
      split at answer
      · cases answer
      rename_i elsewhere
      obtain ⟨node, found, same⟩ := indexed.sees.only key id answer
      have other : id ≠ nodeId := by
        rintro rfl
        rw [gone] at found
        cases found
        exact elsewhere same.symm
      exact ⟨node, by rw [lookup_removeCableNode, if_neg other, found], same⟩
    · have present := present_change site graph (.removeCableNode nodeId)
      rw [← present] at keys
      exact keys

theorem Indexed.change_sees (known : input.Among cables)
    (keys : KeysTellApart site machines (graph.PresentAfter input)) :
    (graph.change site input).SeesCables machines := by
  cases input with
  | addCableNode nodeId cable faceMask => exact indexed.add_sees distinct known keys
  | removeCableNode nodeId => exact indexed.remove_sees distinct keys

theorem Indexed.change_iff (known : input.Among cables) :
    (graph.change site input).Indexed site machines cables ↔
      KeysTellApart site machines (graph.PresentAfter input) := by
  constructor
  · intro after
    rw [← present_change site]
    exact after.sees.keysTellApart after.sited
  · intro keys
    exact ⟨indexed.sited.change known, indexed.change_sees distinct known keys⟩

omit indexed

omit distinct

theorem indexed_always_iff (distinct : Set.InjOn site cables) {inputs : List CableChange}
    (known : ∀ input ∈ inputs, input.Among cables) :
    (∀ before after, inputs = before ++ after →
        ((changes site).final {} before).SeesCables machines) ↔
      (changes site).Along
        (fun graph input => KeysTellApart site machines (graph.PresentAfter input)) {} inputs := by
  rw [← (changes site).always_iff_on (indexed_start distinct)
    (fun _ _ known indexed => indexed.change_iff distinct known) known]
  have sited : ∀ before : List CableChange, (∀ input ∈ before, input.Among cables) →
      ((changes site).final {} before).Sited site cables := by
    intro before known
    induction before using reverseRecOn with
    | nil => exact (show ({} : CableGraph).Indexed site machines cables from
          indexed_start distinct).sited
    | append_singleton before input ih =>
      rw [Machine.final_concat]
      exact (ih fun other mem => known other (mem_append_left _ mem)).change
        (known input (by simp))
  constructor
  · intro sees before after split
    refine ⟨sited before ?_, sees before after split⟩
    intro input mem
    exact known input (by rw [split]; exact mem_append_left _ mem)
  · intro indexed before after split
    exact (indexed before after split).sees

end Index

def tinCable : CableDef := ⟨62464, 1, "cable_tin", 0x05f5e100, 0x20, 0x20⟩

def alongX (id : Nat) : Position := ⟨id, 64, 0⟩

def stacked (id : Nat) : Position := ⟨0, 63 + id, -1⟩

theorem alongX_injective : Function.Injective alongX := by
  intro id other same
  have coordinate : (id : Int) = other := congrArg Position.x same
  exact Int.ofNat_inj.mp coordinate

theorem stacked_injective : Function.Injective stacked := by
  intro id other same
  have coordinate : 63 + (id : Int) = 63 + other := congrArg Position.y same
  omega

theorem keysTellApart_single : KeysTellApart alongX {⟨1, 63, 0⟩}
    (({} : CableGraph).PresentAfter (.addCableNode 1 tinCable 0)) := by
  have single : ∀ id, ({} : CableGraph).PresentAfter (.addCableNode 1 tinCable 0) id → id = 1 := by
    rintro id (here | ⟨node, found⟩)
    · exact here
    · cases found
  have faces : ∀ face ∈ faceOffsets, (packPos (adjacent (alongX 1) face.2) = packPos (alongX 1) →
          adjacent (alongX 1) face.2 = alongX 1) ∧
        (packPos (adjacent ⟨1, 63, 0⟩ face.2) = packPos (alongX 1) →
          adjacent ⟨1, 63, 0⟩ face.2 = alongX 1) := by
    decide +kernel
  intro id present position lookedUp same
  obtain rfl := single id present
  obtain ⟨other, present, rfl⟩ | ⟨other, present, face, mem, rfl⟩ |
    ⟨machine, listed, face, mem, rfl⟩ := lookedUp
  · rw [single other present]
  · obtain rfl := single other present
    exact (faces face mem).1 same
  · obtain rfl := Set.mem_singleton_iff.mp listed
    exact (faces face mem).2 same

theorem single_cable_seen :
    ((changes alongX).final {} [.addCableNode 1 tinCable 0]).SeesCables {⟨1, 63, 0⟩} := by
  have known : ∀ input ∈ [CableChange.addCableNode 1 tinCable 0], input.Among Set.univ := by
    intro input mem
    cases input <;> trivial
  have distinct : Set.InjOn alongX Set.univ := fun _ _ _ _ same => alongX_injective same
  exact (indexed_always_iff distinct known).mpr ⟨keysTellApart_single, trivial⟩ _ []
    (append_nil _).symm

theorem stacked_cables_collide : Set.InjOn stacked Set.univ ∧
      (∀ input ∈ [CableChange.addCableNode 1 tinCable 0, .addCableNode 2 tinCable 0],
        input.Among Set.univ) ∧ ¬ ∀ before after,
        [CableChange.addCableNode 1 tinCable 0, .addCableNode 2 tinCable 0] = before ++ after →
          ((changes stacked).final {} before).SeesCables ∅ := by
  refine ⟨fun _ _ _ _ same => stacked_injective same, ?_, ?_⟩
  · intro input mem
    cases input <;> trivial
  intro sees
  have both := sees [.addCableNode 1 tinCable 0, .addCableNode 2 tinCable 0] [] rfl
  have present : (((changes stacked).final {}
      [.addCableNode 1 tinCable 0, .addCableNode 2 tinCable 0]).nodes.lookup 1).map
        (fun node => node.position) = some ⟨0, 64, -1⟩ := by decide +kernel
  obtain ⟨node, found, here⟩ := Option.map_eq_some_iff.mp present
  have answer := both.index 1 node found
  rw [here] at answer
  have other : ((changes stacked).final {}
      [.addCableNode 1 tinCable 0, .addCableNode 2 tinCable 0]).posToNode.lookup
        (packPos ⟨0, 64, -1⟩) = some 2 := by decide +kernel
  rw [other] at answer
  cases answer

end CableGraph

end GtnhPlatform.PipeNetwork
