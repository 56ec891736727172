import GtnhPlatform.PipeNetwork.CableGraph

namespace GtnhPlatform.PipeNetwork

open PipeNetworkService List Option

variable (events : List BlockChangedEvent)

def lastChange (position : Position) :
    Option BlockChangedEvent :=
  events.reverse.find? fun event => event.position == position

def cableAt (position : Position) :
    Option (CableDef × Nat) :=
  (lastChange events position).bind fun event =>
    (getCableDef event.blockId).map fun cable => (cable, event.faceMask)

structure CableView where
  tier : Nat
  maxVoltage : Nat
  ampacity : Nat
  lossPerBlock : Nat
  faceMask : Nat

def CableDef.view (cable : CableDef) (faceMask : Nat) : CableView :=
  ⟨cable.tier, cable.maxVoltage, cable.ampacity, cable.lossPerBlock, faceMask⟩

def CableNode.view (node : CableNode) : CableView :=
  ⟨node.tier, node.maxVoltage, node.ampacity, node.lossPerBlock, node.faceMask⟩

namespace CableGraph

def NodesTrack (graph : CableGraph) (events : List BlockChangedEvent) : Prop := ∀ position view,
    (∃ node ∈ graph.nodes.values, node.position = position ∧ node.view = view) ↔
      (cableAt events position).map (fun found => found.1.view found.2) = some view

def Joined (graph : CableGraph) (first second : Nat) : Prop :=
  ∃ node neighbour, graph.nodes.lookup first = some node ∧
    graph.nodes.lookup second = some neighbour ∧ ∃ face offset, (face, offset) ∈ faceOffsets ∧
        neighbour.position = adjacent node.position offset ∧
          pipeFacesConnected node.faceMask neighbour.faceMask face = true

structure NetworksAreComponents (graph : CableGraph) : Prop where
  covered : ∀ id node, graph.nodes.lookup id = some node →
    ∃ network ∈ graph.cableNetworks, id ∈ network
  component : ∀ network ∈ graph.cableNetworks, ∃ id node, graph.nodes.lookup id = some node ∧
      ∀ other, other ∈ network ↔ Relation.ReflTransGen graph.Joined id other
  once : graph.cableNetworks.flatten.Nodup

structure TracksWorld (graph : CableGraph) (events : List BlockChangedEvent) : Prop where
  nodes : graph.NodesTrack events
  networks : graph.NetworksAreComponents

end CableGraph

def KeepsNodes (event : BlockChangedEvent) : Prop :=
  let keyIsFree := ∀ other, pipePosKey other = pipePosKey event.position →
    other ≠ event.position → cableAt events other = none
  if event.blockId = 0 then keyIsFree
  else
    match getCableDef event.blockId with
    | some cable => keyIsFree ∧ ∀ found ∈ cableAt events event.position, found.1 = cable
    | none => cableAt events event.position = none

theorem getCableDef_isSome (blockId : Nat) :
    (getCableDef blockId).isSome = isCableBlock blockId := by
  rw [Bool.eq_iff_iff, getCableDef, find?_isSome]
  simp only [cableDefs, isCableBlock, Bool.and_eq_true, decide_eq_true_eq, mem_cons,
    not_mem_nil, or_false, beq_iff_eq]
  constructor
  · rintro ⟨cable, isDef, rfl⟩
    rcases isDef with rfl | rfl | rfl | rfl | rfl | rfl <;> decide
  rintro ⟨low, high⟩
  have six : blockId = 62464 ∨ blockId = 62465 ∨ blockId = 62466 ∨ blockId = 62467 ∨
      blockId = 62468 ∨ blockId = 62469 := by omega
  rcases six with rfl | rfl | rfl | rfl | rfl | rfl <;> simp

variable {blockId : Nat} {cable : CableDef}

theorem isCableBlock_of_getCableDef (isDef : getCableDef blockId = some cable) :
    isCableBlock blockId = true := by
  rw [← getCableDef_isSome, isDef]
  rfl

theorem blockId_ne_zero (isDef : getCableDef blockId = some cable) : blockId ≠ 0 := by
  rintro rfl
  exact absurd (isCableBlock_of_getCableDef isDef) (by decide)

theorem getCableDef_eq_none (notCable : isCableBlock blockId = false) :
    getCableDef blockId = none := by
  rw [← not_isSome_iff_eq_none, getCableDef_isSome, notCable]
  decide

theorem view_injective {blockId otherId : Nat} {cable other : CableDef}
    (isDef : getCableDef blockId = some cable) (isOther : getCableDef otherId = some other)
    (same : cable.view faceMask = other.view otherMask) : cable = other := by
  have known := mem_of_find?_eq_some isDef
  have knownOther := mem_of_find?_eq_some isOther
  have ampacities : cable.ampacity = other.ampacity := congrArg CableView.ampacity same
  have distinct : ∀ first ∈ cableDefs, ∀ second ∈ cableDefs,
      first.ampacity = second.ampacity → first = second := by decide
  exact distinct cable known other knownOther ampacities

theorem cableAt_concat (event : BlockChangedEvent)
    (position : Position) :
    cableAt (events ++ [event]) position =
      if event.position = position then
        (getCableDef event.blockId).map fun cable => (cable, event.faceMask)
      else cableAt events position := by
  unfold cableAt lastChange
  rw [reverse_append, reverse_singleton, singleton_append, find?_cons]
  by_cases here : event.position = position
  · rw [if_pos here, beq_iff_eq.mpr here]
    rfl
  · rw [if_neg here, beq_eq_false_iff_ne.mpr here]

variable {events : List BlockChangedEvent}

theorem getCableDef_of_cableAt {found : CableDef × Nat}
    (stands : cableAt events position = some found) :
    ∃ event ∈ events, getCableDef event.blockId = some found.1 := by
  obtain ⟨event, last, mapped⟩ := bind_eq_some_iff.mp stands
  obtain ⟨cable, isDef, rfl⟩ := map_eq_some_iff.mp mapped
  exact ⟨event, mem_reverse.mp (mem_of_find?_eq_some last), isDef⟩

theorem cableAt_eq_none (noCable : ∀ event ∈ events, isCableBlock event.blockId = false)
    (position : Position) : cableAt events position = none := by
  cases stands : cableAt events position with
  | none => rfl
  | some found =>
    obtain ⟨event, mem, isDef⟩ := getCableDef_of_cableAt stands
    exact absurd (isCableBlock_of_getCableDef isDef) (by rw [noCable event mem]; decide)

namespace CableGraph

variable (graph : CableGraph)

theorem lookup_removeCableNode (nodeId other : Nat) :
    (graph.removeCableNode nodeId).nodes.lookup other =
      if other = nodeId then none else graph.nodes.lookup other := by
  rw [removeCableNode]
  cases present : graph.nodes.lookup nodeId with
  | none =>
    by_cases here : other = nodeId
    · rw [if_pos here, here]
      exact present
    · rw [if_neg here]
  | some node =>
    exact Table.lookup_erase_eq graph.nodes nodeId other

theorem lookup_setCableMeta (nodeId faceMask other : Nat) :
    (graph.setCableMeta nodeId faceMask).nodes.lookup other =
      if other = nodeId then
        (graph.nodes.lookup nodeId).map fun node => { node with faceMask }
      else graph.nodes.lookup other := by
  rw [setCableMeta]
  cases present : graph.nodes.lookup nodeId with
  | none =>
    by_cases here : other = nodeId
    · rw [if_pos here, here]
      exact present
    · rw [if_neg here]
  | some node =>
    dsimp only
    split
    case isTrue same =>
      by_cases here : other = nodeId
      · rw [if_pos here, here, present, ← same]
        rfl
      · rw [if_neg here]
    case isFalse =>
      exact Table.lookup_insert_eq graph.nodes nodeId _ other

theorem lookup_addCableNode (nodeId : Nat) (cable : CableDef) (position : Position)
    (faceMask other : Nat) :
    (graph.addCableNode nodeId cable position faceMask).nodes.lookup other = if other = nodeId then
        some ⟨nodeId, position, cable.tier, cable.maxVoltage, cable.ampacity,
          cable.lossPerBlock, cable.blockId, faceMask⟩ else graph.nodes.lookup other :=
  Table.lookup_insert_eq graph.nodes nodeId _ other

def placedNode (cable : CableDef) (event : BlockChangedEvent) : CableNode :=
  match graph.nodes.lookup (pipePosKey event.position) with
  | none =>
    ⟨pipePosKey event.position, event.position, cable.tier, cable.maxVoltage, cable.ampacity,
      cable.lossPerBlock, cable.blockId, event.faceMask⟩
  | some node => { node with faceMask := event.faceMask }

variable {event : BlockChangedEvent} {cable : CableDef}

theorem lookup_placeCable (isDef : getCableDef event.blockId = some cable) (other : Nat) :
    (graph.placeCable event).nodes.lookup other =
      if other = pipePosKey event.position then some (graph.placedNode cable event)
      else graph.nodes.lookup other := by
  rw [placeCable, isDef, placedNode]
  cases present : graph.nodes.lookup (pipePosKey event.position) with
  | none =>
    have free : ¬graph.hasCableNode (pipePosKey event.position) = true := by
      rw [hasCableNode, present]
      decide
    dsimp only
    rw [if_neg free]
    exact lookup_addCableNode graph _ cable event.position event.faceMask other
  | some node =>
    have occupied : graph.hasCableNode (pipePosKey event.position) = true := by
      rw [hasCableNode, present]
      rfl
    have marked := lookup_setCableMeta graph (pipePosKey event.position) event.faceMask other
    rw [present] at marked
    dsimp only
    rw [if_pos occupied]
    exact marked

theorem placedNode_faceMask (cable : CableDef) (event : BlockChangedEvent) :
    (graph.placedNode cable event).faceMask = event.faceMask := by
  unfold placedNode
  cases graph.nodes.lookup (pipePosKey event.position) <;> rfl

theorem placeCable_twice (isDef : getCableDef event.blockId = some cable) :
    (graph.placeCable event).placeCable event = graph.placeCable event := by
  have placed := lookup_placeCable graph isDef (pipePosKey event.position)
  rw [if_pos rfl] at placed
  conv_lhs => rw [placeCable, isDef]
  dsimp only
  rw [hasCableNode, placed, setCableMeta, placed]
  exact if_pos (placedNode_faceMask graph cable event)

theorem handleBlockChanged_cable (isDef : getCableDef event.blockId = some cable) :
    graph.handleBlockChanged event = graph.placeCable event := by
  rw [handleBlockChanged, if_neg (blockId_ne_zero isDef),
    if_pos (isCableBlock_of_getCableDef isDef), placeCable_twice graph isDef]

theorem handleBlockChanged_other (notAir : event.blockId ≠ 0)
    (noDef : getCableDef event.blockId = none) : graph.handleBlockChanged event = graph := by
  have notCable : ¬isCableBlock event.blockId = true := by
    rw [← getCableDef_isSome, noDef]
    decide
  rw [handleBlockChanged, if_neg notAir, if_neg notCable]

def Keyed : Prop :=
  ∀ key node, graph.nodes.lookup key = some node → pipePosKey node.position = key

theorem keyed_start : Keyed {} := by
  intro key node present
  exact absurd present nofun

def shown (position : Position) : Option CableView :=
  (graph.nodes.lookup (pipePosKey position)).bind fun node =>
    if node.position = position then some node.view else none

theorem shown_eq_some (position : Position) (view : CableView) : graph.shown position = some view ↔
      ∃ node, graph.nodes.lookup (pipePosKey position) = some node ∧
        node.position = position ∧ node.view = view := by
  simp only [shown, bind_eq_some_iff, ite_none_right_eq_some, Option.some.injEq]

theorem nodesTrack_iff {graph : CableGraph} (keyed : graph.Keyed)
    (events : List BlockChangedEvent) :
    graph.NodesTrack events ↔ ∀ position, graph.shown position =
        (cableAt events position).map fun found => found.1.view found.2 := by
  have seen : ∀ position view,
      (∃ node ∈ graph.nodes.values, node.position = position ∧ node.view = view) ↔
        graph.shown position = some view := by
    intro position view
    rw [shown_eq_some]
    constructor
    · rintro ⟨node, mem, here, same⟩
      obtain ⟨key, present⟩ := Table.mem_values_iff.mp mem
      have filed := keyed key node present
      rw [here] at filed
      exact ⟨node, by rw [filed]; exact present, here, same⟩
    · rintro ⟨node, present, here, same⟩
      exact ⟨node, Table.mem_values_iff.mpr ⟨_, present⟩, here, same⟩
  constructor
  · intro track position
    apply ext
    intro view
    rw [← seen position view]
    exact track position view
  · intro same position view
    rw [seen, same position]

theorem keyed_handleBlockChanged {graph : CableGraph} (keyed : graph.Keyed)
    (event : BlockChangedEvent) : (graph.handleBlockChanged event).Keyed := by
  intro key node present
  by_cases air : event.blockId = 0
  · rw [handleBlockChanged, if_pos air, lookup_removeCableNode] at present
    by_cases here : key = pipePosKey event.position
    · rw [if_pos here] at present
      exact absurd present nofun
    · rw [if_neg here] at present
      exact keyed key node present
  · cases isDef : getCableDef event.blockId with
    | none =>
      rw [handleBlockChanged_other graph air isDef] at present
      exact keyed key node present
    | some cable =>
      rw [handleBlockChanged_cable graph isDef, lookup_placeCable graph isDef] at present
      by_cases here : key = pipePosKey event.position
      · rw [if_pos here] at present
        cases present
        rw [placedNode, here]
        cases before : graph.nodes.lookup (pipePosKey event.position) with
        | none => rfl
        | some old => exact keyed _ old before
      · rw [if_neg here] at present
        exact keyed key node present

theorem shown_air (air : event.blockId = 0) (position : Position) :
    (graph.handleBlockChanged event).shown position =
      if pipePosKey position = pipePosKey event.position then none else graph.shown position := by
  rw [shown, handleBlockChanged, if_pos air, lookup_removeCableNode]
  by_cases here : pipePosKey position = pipePosKey event.position
  · rw [if_pos here, if_pos here]
    rfl
  · rw [if_neg here, if_neg here]
    rfl

theorem shown_cable (isDef : getCableDef event.blockId = some cable) (position : Position) :
    (graph.handleBlockChanged event).shown position =
      if pipePosKey position = pipePosKey event.position then
        if (graph.placedNode cable event).position = position then
          some (graph.placedNode cable event).view else none else graph.shown position := by
  rw [shown, handleBlockChanged_cable graph isDef, lookup_placeCable graph isDef]
  by_cases here : pipePosKey position = pipePosKey event.position
  · rw [if_pos here, if_pos here]
    rfl
  · rw [if_neg here, if_neg here]
    rfl

theorem shown_of_key (sameKey : pipePosKey position = pipePosKey place) :
    graph.shown position =
      (graph.nodes.lookup (pipePosKey place)).bind fun node =>
        if node.position = position then some node.view else none := by
  rw [shown, sameKey]

section Step

variable {graph : CableGraph} {events : List BlockChangedEvent} {event : BlockChangedEvent}
  (seen : ∀ position, graph.shown position =
    (cableAt events position).map fun found => found.1.view found.2)

include seen

theorem cableAt_eq_none_of_shown {position : Position} (hidden : graph.shown position = none) :
    cableAt events position = none := by
  rw [seen, map_eq_none_iff] at hidden
  exact hidden

theorem air_keeps_iff (air : event.blockId = 0) :
    (∀ position, (graph.handleBlockChanged event).shown position =
      (cableAt (events ++ [event]) position).map fun found => found.1.view found.2) ↔
      KeepsNodes events event := by
  have noDef : getCableDef event.blockId = none := by
    rw [air]
    rfl
  rw [KeepsNodes, if_pos air]
  constructor
  · intro after other sameKey apart
    have there := after other
    rw [shown_air graph air, if_pos sameKey, cableAt_concat, if_neg (Ne.symm apart)] at there
    exact map_eq_none_iff.mp there.symm
  · intro free position
    rw [shown_air graph air, cableAt_concat, noDef]
    by_cases here : event.position = position
    · rw [if_pos here, if_pos (congrArg pipePosKey here.symm)]
      rfl
    rw [if_neg here]
    by_cases sameKey : pipePosKey position = pipePosKey event.position
    · rw [if_pos sameKey, free position sameKey (Ne.symm here)]
      rfl
    · rw [if_neg sameKey]
      exact seen position

theorem other_keeps_iff (notAir : event.blockId ≠ 0) (noDef : getCableDef event.blockId = none) :
    (∀ position, (graph.handleBlockChanged event).shown position =
      (cableAt (events ++ [event]) position).map fun found => found.1.view found.2) ↔
      KeepsNodes events event := by
  rw [handleBlockChanged_other graph notAir noDef, KeepsNodes, if_neg notAir, noDef]
  constructor
  · intro after
    have here := after event.position
    rw [cableAt_concat, if_pos rfl, noDef] at here
    exact cableAt_eq_none_of_shown seen here
  · intro bare position
    rw [cableAt_concat, noDef]
    by_cases here : event.position = position
    · rw [if_pos here, seen position, ← here, bare]
      rfl
    · rw [if_neg here]
      exact seen position

variable {cable : CableDef}

theorem free_keeps_iff (isDef : getCableDef event.blockId = some cable)
    (free : graph.nodes.lookup (pipePosKey event.position) = none) :
    (∀ position, (graph.handleBlockChanged event).shown position =
      (cableAt (events ++ [event]) position).map fun found => found.1.view found.2) ↔
      KeepsNodes events event := by
  have notAir := blockId_ne_zero isDef
  have bare : ∀ position, pipePosKey position = pipePosKey event.position →
      cableAt events position = none := by
    intro position sameKey
    apply cableAt_eq_none_of_shown seen
    rw [shown_of_key graph sameKey, free]
    rfl
  apply iff_of_true
  · intro position
    rw [shown_cable graph isDef, cableAt_concat, isDef, placedNode, free]
    by_cases here : event.position = position
    · rw [if_pos (congrArg pipePosKey here.symm), if_pos here, if_pos here]
      rfl
    rw [if_neg here]
    by_cases sameKey : pipePosKey position = pipePosKey event.position
    · rw [if_pos sameKey, if_neg here, bare position sameKey]
      rfl
    · rw [if_neg sameKey, if_neg here]
      exact seen position
  · rw [KeepsNodes, if_neg notAir, isDef]
    refine ⟨fun other sameKey _ => bare other sameKey, ?_⟩
    intro found stands
    rw [bare event.position rfl] at stands
    exact absurd stands nofun

theorem occupied_keeps_iff (keyed : graph.Keyed) (isDef : getCableDef event.blockId = some cable)
    (occupied : graph.nodes.lookup (pipePosKey event.position) = some node) :
    (∀ position, (graph.handleBlockChanged event).shown position =
      (cableAt (events ++ [event]) position).map fun found => found.1.view found.2) ↔
      KeepsNodes events event := by
  have notAir := blockId_ne_zero isDef
  have sameKey : pipePosKey node.position = pipePosKey event.position := keyed _ node occupied
  have nodeSeen : ∀ position, pipePosKey position = pipePosKey event.position →
      graph.shown position = if node.position = position then some node.view else none := by
    intro position same
    rw [shown_of_key graph same, occupied]
    rfl
  obtain ⟨found, stands, found_view⟩ : ∃ found, cableAt events node.position = some found ∧
      found.1.view found.2 = node.view := by
    have shows := seen node.position
    rw [nodeSeen _ sameKey, if_pos rfl] at shows
    exact map_eq_some_iff.mp shows.symm
  have foundDef := getCableDef_of_cableAt stands
  obtain ⟨earlier, -, earlierDef⟩ := foundDef
  rw [KeepsNodes, if_neg notAir, isDef]
  constructor
  · intro after
    have here := after event.position
    rw [shown_cable graph isDef, if_pos rfl, cableAt_concat, if_pos rfl, isDef, placedNode,
      occupied] at here
    obtain ⟨atEvent, view⟩ := ite_none_right_eq_some.mp here
    refine ⟨?_, ?_⟩
    · intro other same apart
      apply cableAt_eq_none_of_shown seen
      rw [nodeSeen other same]
      exact if_neg fun atOther => apart (atOther.symm.trans atEvent)
    · intro standing there
      have atEvent : node.position = event.position := atEvent
      rw [← atEvent, stands] at there
      cases there
      apply view_injective earlierDef isDef
      · exact congrArg (fun view : CableView => { view with faceMask := event.faceMask }) found_view
          |>.trans (Option.some.inj view)
  · rintro ⟨keyIsFree, sameKind⟩
    have atEvent : node.position = event.position := by
      by_contra apart
      rw [keyIsFree node.position sameKey apart] at stands
      exact absurd stands nofun
    have kind : found.1 = cable := by
      apply sameKind
      rw [← atEvent]
      exact stands
    intro position
    rw [shown_cable graph isDef, cableAt_concat, isDef, placedNode, occupied]
    by_cases same : pipePosKey position = pipePosKey event.position
    · rw [if_pos same]
      by_cases here : event.position = position
      · rw [if_pos here, if_pos (atEvent.trans here), ← kind]
        have view := congrArg (fun view : CableView => { view with faceMask := event.faceMask })
          found_view
        exact congrArg some view.symm
      · rw [if_neg here, if_neg fun atOther => here (atEvent.symm.trans atOther),
          keyIsFree position same (Ne.symm here)]
        rfl
    · rw [if_neg same, if_neg fun here => same (congrArg pipePosKey here.symm)]
      exact seen position

theorem keeps_iff (keyed : graph.Keyed) :
    (∀ position, (graph.handleBlockChanged event).shown position =
      (cableAt (events ++ [event]) position).map fun found => found.1.view found.2) ↔
      KeepsNodes events event := by
  by_cases air : event.blockId = 0
  · exact air_keeps_iff seen air
  cases isDef : getCableDef event.blockId with
  | none => exact other_keeps_iff seen air isDef
  | some cable =>
    cases occupied : graph.nodes.lookup (pipePosKey event.position) with
    | none => exact free_keeps_iff seen isDef occupied
    | some node => exact occupied_keeps_iff seen keyed isDef occupied

end Step

theorem shown_start (position : Position) :
    shown {} position = (cableAt [] position).map fun found => found.1.view found.2 := rfl

theorem keyed_final (events : List BlockChangedEvent) : (machine.final {} events).Keyed := by
  induction events using reverseRecOn with
  | nil => exact keyed_start
  | append_singleton events event ih =>
    rw [Machine.final_concat]
    exact keyed_handleBlockChanged ih event

variable {events : List BlockChangedEvent}

theorem nodesTrack_concat_iff (track : (machine.final {} events).NodesTrack events)
    (event : BlockChangedEvent) :
    (machine.final {} (events ++ [event])).NodesTrack (events ++ [event]) ↔
      KeepsNodes events event := by
  have seen := (nodesTrack_iff (keyed_final events) events).mp track
  rw [nodesTrack_iff (keyed_final _), Machine.final_concat]
  exact keeps_iff seen (keyed_final events)

theorem nodesTrack_along_iff (events : List BlockChangedEvent) :
    (∀ before after, events = before ++ after → (machine.final {} before).NodesTrack before) ↔
      ∀ before event after, events = before ++ event :: after → KeepsNodes before event := by
  constructor
  · intro always before event after split
    have track := always before (event :: after) split
    apply (nodesTrack_concat_iff track event).mp
    apply always (before ++ [event]) after
    rw [split, append_assoc]
    rfl
  · intro keeps before
    induction before using reverseRecOn with
    | nil =>
      intro _ _
      exact (nodesTrack_iff keyed_start []).mpr shown_start
    | append_singleton before event ih =>
      intro after split
      rw [append_assoc] at split
      have track := ih (event :: after) split
      exact (nodesTrack_concat_iff track event).mpr (keeps before event after split)

theorem final_eq_start (noCable : ∀ event ∈ events, isCableBlock event.blockId = false) :
    machine.final {} events = {} := by
  induction events using reverseRecOn with
  | nil => rfl
  | append_singleton events event ih =>
    have earlier := ih fun past mem => noCable past (mem_append_left _ mem)
    have last := noCable event (mem_append_right _ (mem_singleton_self event))
    rw [Machine.final_concat, earlier]
    by_cases air : event.blockId = 0
    · exact if_pos air
    · exact handleBlockChanged_other _ air (getCableDef_eq_none last)

theorem tracksWorld_start (noCable : ∀ event ∈ events, isCableBlock event.blockId = false) :
    TracksWorld {} events where
  nodes := by
    apply (nodesTrack_iff keyed_start events).mpr
    intro position
    rw [cableAt_eq_none noCable position]
    rfl
  networks :=
    { covered := fun _ _ present => absurd present nofun
      component := fun _ mem => absurd mem not_mem_nil
      once := nodup_nil }

theorem cableNetworks_first (isDef : getCableDef event.blockId = some cable) :
    (handleBlockChanged {} event).cableNetworks = [] := by
  rw [handleBlockChanged_cable {} isDef, placeCable, isDef]
  rfl

theorem not_tracksWorld_first (noCable : ∀ past ∈ events, isCableBlock past.blockId = false)
    (isCable : isCableBlock event.blockId = true) :
    ¬(machine.final {} (events ++ [event])).TracksWorld (events ++ [event]) := by
  intro tracks
  rw [← getCableDef_isSome] at isCable
  obtain ⟨cable, isDef⟩ := isSome_iff_exists.mp isCable
  rw [Machine.final_concat, final_eq_start noCable] at tracks
  have placed := lookup_placeCable {} isDef (pipePosKey event.position)
  rw [if_pos rfl, ← handleBlockChanged_cable {} isDef] at placed
  obtain ⟨network, mem, _⟩ := tracks.networks.covered _ _ placed
  have empty : machine.step {} event = (handleBlockChanged {} event, []) := rfl
  rw [empty, cableNetworks_first isDef] at mem
  exact not_mem_nil mem

theorem noCable_of_tracks (always : ∀ before after, events = before ++ after →
      (machine.final {} before).TracksWorld before) :
    ∀ event ∈ events, isCableBlock event.blockId = false := by
  induction events using reverseRecOn with
  | nil => exact fun _ mem => absurd mem not_mem_nil
  | append_singleton events event ih =>
    have earlier := ih fun before after split =>
      always before (after ++ [event]) (by rw [split, append_assoc])
    intro change mem
    rcases mem_append.mp mem with past | last
    · exact earlier change past
    rw [mem_singleton.mp last]
    by_contra isCable
    rw [Bool.not_eq_false] at isCable
    apply not_tracksWorld_first earlier isCable
    exact always (events ++ [event]) [] (append_nil _).symm

theorem tracksWorld_along_iff (events : List BlockChangedEvent) :
    ((∀ before after, events = before ++ after → (machine.final {} before).TracksWorld before) ↔
      ∀ event ∈ events, isCableBlock event.blockId = false) ∧
    ((∀ before after, events = before ++ after → (machine.final {} before).NodesTrack before) ↔
      ∀ before event after, events = before ++ event :: after → KeepsNodes before event) := by
  refine ⟨⟨noCable_of_tracks, ?_⟩, nodesTrack_along_iff events⟩
  intro noCable before after split
  have noneBefore : ∀ event ∈ before, isCableBlock event.blockId = false := by
    intro event mem
    apply noCable
    rw [split]
    exact mem_append_left _ mem
  rw [final_eq_start noneBefore]
  exact tracksWorld_start noneBefore

theorem tin_cable_joins_no_network :
    ¬(machine.final {} [⟨⟨0, 0, 0⟩, 62464, 0⟩]).TracksWorld [⟨⟨0, 0, 0⟩, 62464, 0⟩] :=
  not_tracksWorld_first (fun _ mem => absurd mem not_mem_nil) rfl

end CableGraph

end GtnhPlatform.PipeNetwork
