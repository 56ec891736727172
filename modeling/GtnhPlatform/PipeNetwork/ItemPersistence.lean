import GtnhPlatform.Data.Text
import GtnhPlatform.PipeNetwork.ItemBalance

namespace GtnhPlatform.PipeNetwork

open List

/-! Items in transit across a restart. A throwing start is `none`. -/

abbrev ItemBuffers := Table Nat (List ItemSlot)

namespace PipeNetworkManager

def exportItemBuffers (manager : PipeNetworkManager) : ItemBuffers :=
  let holding := manager.nodes.filter fun _ node => !node.itemBuffer.isEmpty
  { entries := holding.entries.map fun entry => ⟨entry.1, entry.2.itemBuffer⟩
    nodupKeys := List.NodupKeys.map₂ (fun _ node => node.itemBuffer) _ holding.nodupKeys }

/-- Ids without a node are skipped. -/
def importItemBuffers (manager : PipeNetworkManager) (buffers : ItemBuffers) :
    PipeNetworkManager :=
  buffers.entries.foldl
    (fun manager entry => manager.updateNode entry.1 fun node =>
      { node with itemBuffer := entry.2 })
    manager

end PipeNetworkManager

namespace ItemBuffers

def slotText (slot : ItemSlot) : List Char :=
  Text.decimal slot.itemId ++ ',' :: Text.decimal slot.count

def itemsText : List ItemSlot → List Char
  | [] => []
  | slot :: rest => slotText slot ++ rest.flatMap fun slot => ',' :: slotText slot

def nodeText (nid : Nat) (items : List ItemSlot) : List Char :=
  Text.decimal nid ++ ':' :: itemsText items

def text (buffers : ItemBuffers) : List Char :=
  (buffers.entries.map fun entry => nodeText entry.1 entry.2).flatMap fun segment =>
    segment ++ ['|']

/-- The save of `tick`: a file is only written over while a node holds items. -/
def save (buffers : ItemBuffers) (file : Option (List Char)) : Option (List Char) :=
  if buffers.entries = [] then file else some buffers.text

def parseSlot (itemSeg : List Char) : Option (List ItemSlot) :=
  match itemSeg.idxOf? ',' with
  | none => some []
  | some 0 => some []
  | some commaPos => do
      let itemId ← Text.stoull (itemSeg.take commaPos)
      let count ← Text.stoull (itemSeg.drop (commaPos + 1))
      some [⟨itemId % 2 ^ 16, count % 2 ^ 8⟩]

def parseItems : List (List Char) → Option (List ItemSlot)
  | [] => some []
  | itemSeg :: rest => do
      let slots ← parseSlot itemSeg
      let later ← parseItems rest
      some (slots ++ later)

def parseNode (buffers : ItemBuffers) (segment : List Char) : Option ItemBuffers :=
  if segment = [] then some buffers
  else
    match segment.idxOf? ':' with
    | none => some buffers
    | some colonPos => do
        let nid ← Text.stoull (segment.take colonPos)
        let itemsStr := segment.drop (colonPos + 1)
        if itemsStr = [] then some buffers
        else do
          let items ← parseItems (Text.getlines ',' [] itemsStr)
          if items = [] then some buffers else some (AList.insert nid items buffers)

def parseNodes (buffers : ItemBuffers) : List (List Char) → Option ItemBuffers
  | [] => some buffers
  | segment :: rest => do
      let next ← parseNode buffers segment
      parseNodes next rest

def parse (data : List Char) : Option ItemBuffers := parseNodes ∅ (Text.getlines '|' [] data)

end ItemBuffers

namespace PipeNetworkManager

def loadPersistentState (manager : PipeNetworkManager) :
    Option (List Char) → Option (PipeNetworkManager × Option (List Char))
  | none => some (manager, none)
  | some data => do
      let buffers ← ItemBuffers.parse data
      if buffers.entries = [] then some (manager, some data)
      else some (manager.importItemBuffers buffers, none)

def registerNodes (manager : PipeNetworkManager) (placed : List (Position × Nat)) :
    PipeNetworkManager :=
  placed.foldl (fun manager node => (manager.addNode node.1 node.2).1) manager

/-- `Start` loads the file before the first message is handled; the nodes are
registered by the messages that follow. -/
def restart (file : Option (List Char)) (placed : List (Position × Nat)) :
    Option PipeNetworkManager := do
  let (manager, _) ← loadPersistentState {} file
  some (manager.registerNodes placed)

end PipeNetworkManager

namespace ItemBuffers

theorem parseSlot_of_notMem (clean : ',' ∉ itemSeg) : parseSlot itemSeg = some [] := by
  have absent : itemSeg.idxOf? ',' = none := idxOf?_eq_none_iff.mpr clean
  rw [parseSlot, absent]

variable {segments : List (List Char)}

theorem parseItems_of_notMem (clean : ∀ itemSeg ∈ segments, ',' ∉ itemSeg) :
    parseItems segments = some [] := by
  induction segments with
  | nil => rfl
  | cons itemSeg rest ih =>
    rw [parseItems, parseSlot_of_notMem (clean itemSeg mem_cons_self),
      ih fun later mem => clean later (mem_cons_of_mem _ mem)]
    rfl

theorem parseItems_getlines (itemsStr : List Char) :
    parseItems (Text.getlines ',' [] itemsStr) = some [] :=
  parseItems_of_notMem fun _ => Text.notMem_of_mem_getlines not_mem_nil

theorem parseNode_eq {buffers next : ItemBuffers} {segment : List Char}
    (parsed : parseNode buffers segment = some next) : next = buffers := by
  unfold parseNode at parsed
  split at parsed
  · exact (Option.some.inj parsed).symm
  split at parsed
  · exact (Option.some.inj parsed).symm
  obtain ⟨nid, _, parsed⟩ := Option.bind_eq_some_iff.mp parsed
  dsimp only at parsed
  split at parsed
  · exact (Option.some.inj parsed).symm
  · rw [parseItems_getlines] at parsed
    exact (Option.some.inj parsed).symm

theorem parseNodes_eq (parsed : parseNodes buffers segments = some loaded) : loaded = buffers := by
  induction segments generalizing buffers with
  | nil => exact (Option.some.inj parsed).symm
  | cons segment rest ih =>
    obtain ⟨next, first, later⟩ := Option.bind_eq_some_iff.mp parsed
    exact (ih later).trans (parseNode_eq first)

theorem parse_eq_empty (parsed : parse data = some loaded) : loaded = ∅ := parseNodes_eq parsed

end ItemBuffers

structure SurvivesRestart (buffers : ItemBuffers) : Prop where
  readBack : ∀ data, buffers.save none = some data →
    ∃ loaded, ItemBuffers.parse data = some loaded ∧ ∀ nid, loaded.lookup nid = buffers.lookup nid
  heldAgain : ∀ placed manager, PipeNetworkManager.restart (buffers.save none) placed = some manager →
    ∀ nid items node, buffers.lookup nid = some items → manager.nodes.lookup nid = some node →
      node.itemBuffer = items

theorem survivesRestart_iff (buffers : ItemBuffers) :
    SurvivesRestart buffers ↔ buffers.entries = [] := by
  constructor
  · intro survives
    by_contra holding
    have written : buffers.save none = some buffers.text := if_neg holding
    obtain ⟨loaded, parsed, same⟩ := survives.readBack buffers.text written
    obtain ⟨entry, rest, shape⟩ := exists_cons_of_ne_nil holding
    have stored : buffers.lookup entry.1 = some entry.2 :=
      Table.mem_entries_iff.mp (shape ▸ mem_cons_self)
    rw [← same, ItemBuffers.parse_eq_empty parsed] at stored
    contradiction
  · intro empty
    have unwritten : buffers.save none = none := if_pos empty
    refine ⟨fun data written => ?_, fun placed manager _ nid items node stored _ => ?_⟩
    · rw [unwritten] at written
      contradiction
    · have mem := Table.mem_entries_iff.mpr stored
      rw [empty] at mem
      contradiction

def oneStack : ItemBuffers := AList.insert 1 [⟨7, 64⟩] ∅

theorem oneStack_lost : oneStack.save none = some "1:7,64|".toList ∧
      (∃ manager node, PipeNetworkManager.restart (oneStack.save none)
          [(⟨0, 64, 0⟩, blockIdItemPipe)] = some manager ∧
        manager.nodes.lookup 1 = some node ∧ node.itemBuffer = []) ∧
      ¬ SurvivesRestart oneStack := by
  have written : oneStack.save none = some "1:7,64|".toList := by decide +kernel
  have registered : ((PipeNetworkManager.restart (oneStack.save none)
      [(⟨0, 64, 0⟩, blockIdItemPipe)]).bind fun manager =>
        (manager.nodes.lookup 1).map PipeNode.itemBuffer) = some [] := by
    decide +kernel
  obtain ⟨manager, started, held⟩ := Option.bind_eq_some_iff.mp registered
  obtain ⟨node, found, empty⟩ := Option.map_eq_some_iff.mp held
  refine ⟨written, ⟨manager, node, started, found, empty⟩, fun survives => ?_⟩
  have kept := survives.heldAgain _ manager started 1 [⟨7, 64⟩] node rfl found
  rw [empty] at kept
  contradiction

namespace PipeNetworkManager

theorem lookup_importItemBuffers (buffers : ItemBuffers) (manager : PipeNetworkManager) (id : Nat) :
    (manager.importItemBuffers buffers).nodes.lookup id = (manager.nodes.lookup id).map fun node =>
      { node with itemBuffer := (buffers.lookup id).getD node.itemBuffer } := by
  obtain ⟨entries, distinct⟩ := buffers
  change (entries.foldl _ manager).nodes.lookup id = (manager.nodes.lookup id).map fun node =>
    { node with itemBuffer := (dlookup id entries).getD node.itemBuffer }
  induction entries generalizing manager with
  | nil => exact Option.map_id'.symm
  | cons entry rest ih =>
    obtain ⟨fresh, later⟩ := nodupKeys_cons.mp distinct
    rw [foldl_cons, ih _ later, lookup_updateNode, Option.map_map]
    congr 1
    funext node
    by_cases here : id = entry.1
    · subst here
      rw [dlookup_cons_eq, dlookup_eq_none.mpr fresh, Function.comp_apply, if_pos rfl]
      rfl
    · rw [dlookup_cons_ne rest entry here, Function.comp_apply, if_neg here]

/-- Buffers taken over from another manager: a node holds what its namesake held. -/
theorem reimported_buffers (source manager : PipeNetworkManager) (id : Nat) :
    (manager.importItemBuffers source.exportItemBuffers).nodes.lookup id =
      (manager.nodes.lookup id).map fun node => { node with
        itemBuffer := if source.bufferAt id = [] then node.itemBuffer else source.bufferAt id } := by
  have exported : source.exportItemBuffers.lookup id =
      ((source.nodes.lookup id).filter fun node => !node.itemBuffer.isEmpty).map
        PipeNode.itemBuffer := by
    refine (dlookup_map₂ (f := fun _ : Nat => PipeNode.itemBuffer) id).trans (congrArg _ ?_)
    exact Table.lookup_filter (fun _ node => !node.itemBuffer.isEmpty) source.nodes id
  rw [lookup_importItemBuffers, exported, bufferAt]
  cases source.nodes.lookup id with
  | none => rfl
  | some node => cases held : node.itemBuffer <;> simp [held, Option.filter]

end PipeNetworkManager

end GtnhPlatform.PipeNetwork
