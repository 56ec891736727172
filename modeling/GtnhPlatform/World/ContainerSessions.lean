import GtnhPlatform.World.WorldContainers

namespace GtnhPlatform.World

open AList List

namespace WorldContainers

def releasedNode : ContainerEvent → Option Nat
  | .released node _ _ _ _ => some node
  | _ => none

structure Lossless (events : List ContainerEvent) : Prop where
  saved : ∀ node openedAt last savedAt blob, .released node openedAt last savedAt blob ∈ events →
      savedAt = openedAt ∧ blob = serializeToBlob last
  once : (events.filterMap releasedNode).Nodup
  unreplaced : ∀ key, .replaced key ∉ events
  sound : ∀ key, .dangling key ∉ events

def Undisturbed (world : WorldContainers) : ContainerInput → Prop
  | .loaded index _ => ∀ load, world.loads[index]? = some load →
      world.openContainers.lookup load.key = none
  | .saved index success => success = true → ∀ save, world.saves[index]? = some save →
      ∃ entry, world.openContainers.lookup save.key = some entry ∧ entry.node = save.node ∧
        entry.changes = save.changes ∧ entry.pos = save.pos
  | _ => True

def contents (world : WorldContainers) (entry : OpenContainer) : InventoryContainer :=
  (world.entities.lookup entry.entity).getD {}

structure Sound (world : WorldContainers) (events : List ContainerEvent) : Prop where
  known : ∀ key entry, world.openContainers.lookup key = some entry →
    entry.entity < world.nextEntity ∧ entry.node < world.nextNode
  entities : ∀ key other entry another, world.openContainers.lookup key = some entry →
    world.openContainers.lookup other = some another → entry.entity = another.entity → key = other
  nodes : ∀ key other entry another, world.openContainers.lookup key = some entry →
    world.openContainers.lookup other = some another → entry.node = another.node → key = other
  gone : ∀ node ∈ events.filterMap releasedNode, node < world.nextNode ∧
    ∀ key entry, world.openContainers.lookup key = some entry → entry.node ≠ node
  saves : ∀ save ∈ world.saves, save.node < world.nextNode ∧
    ∀ entry, world.openContainers.lookup save.key = some entry → entry.node = save.node →
      save.changes ≤ entry.changes ∧
        (entry.changes = save.changes → save.blob = serializeToBlob (world.contents entry))
  lossless : Lossless events

variable {world : WorldContainers} {events : List ContainerEvent}

variable (sound : world.Sound events)

include sound

theorem Sound.openContainer (pos : BlockPos) (container : InventoryContainer) (playerId : UInt64)
    (free : world.openContainers.lookup key = none) :
    (world.openContainer pos container playerId key).1.Sound
      (events ++ (world.openContainer pos container playerId key).2) := by
  let entry : OpenContainer := ⟨world.nextEntity, playerId, world.nextNode, pos, 0⟩
  have opened : world.openContainer pos container playerId key =
      ({ world with
          entities := insert world.nextEntity container world.entities
          nextEntity := world.nextEntity + 1
          openContainers := insert key entry world.openContainers
          nextNode := world.nextNode + 1 }, []) := by
    unfold WorldContainers.openContainer
    rw [free]
  rw [opened, append_nil]
  have lookup (other : UInt64) : lookup other (insert key entry world.openContainers) =
      if other = key then some entry else world.openContainers.lookup other :=
    Table.lookup_insert_eq _ _ _ _
  have older {other : UInt64} {known : OpenContainer}
      (found : AList.lookup other (AList.insert key entry world.openContainers) = some known) :
      other = key ∧ known = entry ∨
        other ≠ key ∧ world.openContainers.lookup other = some known := by
    rw [lookup] at found
    split at found
    · next same => exact Or.inl ⟨same, (Option.some.inj found).symm⟩
    · next distinct => exact Or.inr ⟨distinct, found⟩
  exact
    { known := by
        intro other known found
        rcases older found with ⟨-, rfl⟩ | ⟨-, before⟩
        · exact ⟨Nat.lt_succ_self _, Nat.lt_succ_self _⟩
        · obtain ⟨entity, node⟩ := sound.known other known before
          exact ⟨Nat.lt_succ_of_lt entity, Nat.lt_succ_of_lt node⟩
      entities := by
        intro one other known another found foundOther same
        rcases older found with ⟨rfl, rfl⟩ | ⟨-, before⟩ <;>
          rcases older foundOther with ⟨rfl, rfl⟩ | ⟨-, beforeOther⟩
        · rfl
        · exact absurd same (sound.known other another beforeOther).1.ne'
        · exact absurd same (sound.known one known before).1.ne
        · exact sound.entities one other known another before beforeOther same
      nodes := by
        intro one other known another found foundOther same
        rcases older found with ⟨rfl, rfl⟩ | ⟨-, before⟩ <;>
          rcases older foundOther with ⟨rfl, rfl⟩ | ⟨-, beforeOther⟩
        · rfl
        · exact absurd same (sound.known other another beforeOther).2.ne'
        · exact absurd same (sound.known one known before).2.ne
        · exact sound.nodes one other known another before beforeOther same
      gone := by
        intro node released
        obtain ⟨early, absent⟩ := sound.gone node released
        refine ⟨Nat.lt_succ_of_lt early, ?_⟩
        intro other known found
        rcases older found with ⟨-, rfl⟩ | ⟨-, before⟩
        · exact early.ne'
        · exact absent other known before
      saves := by
        intro save waiting
        obtain ⟨early, kept⟩ := sound.saves save waiting
        refine ⟨Nat.lt_succ_of_lt early, ?_⟩
        intro known found node
        rcases older found with ⟨-, rfl⟩ | ⟨-, before⟩
        · exact absurd node early.ne'
        have elder := (sound.known _ _ before).1
        have same : AList.lookup known.entity (AList.insert world.nextEntity container
            world.entities) = world.entities.lookup known.entity :=
          Table.lookup_insert_of_ne _ _ elder.ne
        obtain ⟨less, blob⟩ := kept known before node
        refine ⟨less, fun count => ?_⟩
        rw [blob count]
        unfold contents
        rw [same]
      lossless := sound.lossless }

theorem Sound.of_requests (loads : List PendingLoad)
    (saves : List PendingSave) (fewer : saves ⊆ world.saves) :
    Sound { world with loads := loads, saves := saves } events :=
  ⟨sound.known, sound.entities, sound.nodes, sound.gone,
    fun save waiting => sound.saves save (fewer waiting), sound.lossless⟩

theorem Sound.hydrate {load : PendingLoad} (stat : StoredState)
    (free : world.openContainers.lookup load.key = none) :
    (world.hydrate load stat).1.Sound (events ++ (world.hydrate load stat).2) :=
  sound.openContainer _ _ _ free

theorem Sound.onContainerOpen (playerId : UInt64) (pos : BlockPos)
    (entityType : UInt16) (online : Bool) :
    (world.onContainerOpen playerId pos entityType online).1.Sound
      (events ++ (world.onContainerOpen playerId pos entityType online).2) := by
  unfold WorldContainers.onContainerOpen
  dsimp only
  split
  case isTrue =>
    rw [append_nil]
    exact sound
  case isFalse closed =>
    split
    · rw [append_nil]
      exact sound.of_requests _ world.saves fun _ waiting => waiting
    · refine sound.hydrate _ ?_
      exact Option.not_isSome_iff_eq_none.mp closed

omit sound

variable {entry : OpenContainer}

theorem lookup_entryOf (found : world.entryOf playerId pos = some entry) :
    world.openContainers.lookup (packKey pos) = some entry :=
  (Option.filter_eq_some_iff.mp found).1

variable (sound : world.Sound events)

include sound

theorem Sound.onContainerClose (playerId : UInt64) (pos : BlockPos)
    (online : Bool) : (world.onContainerClose playerId pos online).Sound events := by
  unfold WorldContainers.onContainerClose
  split
  case h_1 => exact sound
  case h_2 entry found =>
    have lookup := lookup_entryOf found
    split
    case isFalse => exact sound
    case isTrue =>
      refine ⟨sound.known, sound.entities, sound.nodes, sound.gone, ?_, sound.lossless⟩
      intro save waiting
      cases mem_append.mp waiting with
      | inl old => exact sound.saves save old
      | inr new =>
        rw [mem_singleton.mp new]
        refine ⟨(sound.known _ entry lookup).2, ?_⟩
        intro later foundLater _
        cases lookup.symm.trans foundLater
        exact ⟨Nat.le_refl _, fun _ => rfl⟩

theorem Sound.onContainerAction (playerId : UInt64) (pos : BlockPos)
    (action srcSlot dstSlot count : UInt8) :
    (world.onContainerAction playerId pos action srcSlot dstSlot count).Sound events := by
  unfold WorldContainers.onContainerAction
  split
  case h_1 => exact sound
  case h_2 entry entryFound =>
    have lookup := lookup_entryOf entryFound
    let key := packKey pos
    let acted := (world.contents entry).act action srcSlot dstSlot count
    let touched : OpenContainer :=
      { entry with
        changes := if acted = world.contents entry then entry.changes else entry.changes + 1 }
    have before {other : UInt64} {known : OpenContainer}
        (found : AList.lookup other (AList.insert key touched world.openContainers) = some known) :
        ∃ earlier, world.openContainers.lookup other = some earlier ∧
          known.entity = earlier.entity ∧ known.node = earlier.node ∧
            (other = key ∧ known = touched ∧ earlier = entry ∨ other ≠ key ∧ known = earlier) := by
      rw [Table.lookup_insert_eq] at found
      split at found
      · next same =>
        cases found
        exact ⟨entry, same ▸ lookup, rfl, rfl, Or.inl ⟨same, rfl, rfl⟩⟩
      · next distinct => exact ⟨known, found, rfl, rfl, Or.inr ⟨distinct, rfl⟩⟩
    exact
      { known := by
          intro other known found
          obtain ⟨earlier, stored, entity, node, -⟩ := before found
          rw [entity, node]
          exact sound.known other earlier stored
        entities := by
          intro one other known another found foundOther same
          obtain ⟨earlier, stored, entity, -, -⟩ := before found
          obtain ⟨earlierOther, storedOther, entityOther, -, -⟩ := before foundOther
          rw [entity, entityOther] at same
          exact sound.entities one other earlier earlierOther stored storedOther same
        nodes := by
          intro one other known another found foundOther same
          obtain ⟨earlier, stored, -, node, -⟩ := before found
          obtain ⟨earlierOther, storedOther, -, nodeOther, -⟩ := before foundOther
          rw [node, nodeOther] at same
          exact sound.nodes one other earlier earlierOther stored storedOther same
        gone := by
          intro node released
          obtain ⟨early, absent⟩ := sound.gone node released
          refine ⟨early, ?_⟩
          intro other known found
          obtain ⟨earlier, stored, -, nodeIs, -⟩ := before found
          rw [nodeIs]
          exact absent other earlier stored
        saves := by
          intro save waiting
          obtain ⟨early, kept⟩ := sound.saves save waiting
          refine ⟨early, ?_⟩
          intro known found node
          obtain ⟨earlier, stored, entity, nodeIs, which⟩ := before found
          obtain ⟨less, blob⟩ := kept earlier stored (nodeIs.symm.trans node)
          rcases which with ⟨-, rfl, rfl⟩ | ⟨distinct, rfl⟩
          · change save.changes ≤ (if acted = world.contents earlier then _ else _) ∧
              ((if acted = world.contents earlier then _ else _) = save.changes → _)
            have now : contents { world with
                entities := insert earlier.entity acted world.entities } touched = acted := by
              unfold contents
              rw [show AList.lookup touched.entity (AList.insert earlier.entity acted
                world.entities) = some acted from Table.lookup_insert_self _ _ _]
              rfl
            split
            · next unchanged =>
              refine ⟨less, fun count => ?_⟩
              rw [blob count, ← unchanged]
              exact congrArg serializeToBlob now.symm
            · refine ⟨Nat.le_succ_of_le less, ?_⟩
              intro count
              omega
          · refine ⟨less, fun count => ?_⟩
            rw [blob count]
            unfold contents
            have elsewhere : known.entity ≠ entry.entity := fun same =>
              distinct (sound.entities _ _ known entry stored lookup same)
            rw [show AList.lookup known.entity (AList.insert entry.entity _ world.entities) =
              world.entities.lookup known.entity from Table.lookup_insert_of_ne _ _ elsewhere]
        lossless := sound.lossless }

theorem Sound.releaseContainer {save : PendingSave}
    (found : world.openContainers.lookup save.key = some entry) (node : entry.node = save.node)
    (pos : entry.pos = save.pos) (blob : save.blob = serializeToBlob (world.contents entry)) :
    (world.releaseContainer save).1.Sound (events ++ (world.releaseContainer save).2) := by
  have released : world.releaseContainer save =
      ({ world with
          entities := world.entities.erase entry.entity
          openContainers := world.openContainers.erase save.key },
        [.released entry.node entry.pos (world.contents entry) save.pos save.blob]) := by
    unfold WorldContainers.releaseContainer
    rw [found]
    dsimp only
    rw [if_pos node]
    rfl
  rw [released]
  have before {other : UInt64} {known : OpenContainer}
      (still : lookup other (world.openContainers.erase save.key) = some known) :
      other ≠ save.key ∧ world.openContainers.lookup other = some known := by
    rw [Table.lookup_erase_eq] at still
    split at still
    · cases still
    · next distinct => exact ⟨distinct, still⟩
  have names : (events ++ [ContainerEvent.released entry.node entry.pos (world.contents entry)
      save.pos save.blob]).filterMap releasedNode =
        events.filterMap releasedNode ++ [entry.node] := by
    rw [filterMap_append]
    rfl
  exact
    { known := fun other known still => sound.known other known (before still).2
      entities := fun one other known another still stillOther =>
        sound.entities one other known another (before still).2 (before stillOther).2
      nodes := fun one other known another still stillOther =>
        sound.nodes one other known another (before still).2 (before stillOther).2
      gone := by
        intro gone listed
        rw [names] at listed
        cases mem_append.mp listed with
        | inl old =>
          obtain ⟨early, absent⟩ := sound.gone gone old
          exact ⟨early, fun other known still => absent other known (before still).2⟩
        | inr new =>
          rw [mem_singleton.mp new]
          refine ⟨(sound.known _ entry found).2, ?_⟩
          intro other known still same
          obtain ⟨distinct, stored⟩ := before still
          exact distinct (sound.nodes _ _ known entry stored found same)
      saves := by
        intro other waiting
        obtain ⟨early, kept⟩ := sound.saves other waiting
        refine ⟨early, ?_⟩
        intro known still same
        obtain ⟨distinct, stored⟩ := before still
        obtain ⟨less, same⟩ := kept known stored same
        refine ⟨less, fun count => ?_⟩
        rw [same count]
        unfold contents
        have elsewhere : known.entity ≠ entry.entity := fun same =>
          distinct (sound.entities _ _ known entry stored found same)
        rw [show lookup known.entity (world.entities.erase entry.entity) =
          world.entities.lookup known.entity from lookup_erase_ne elsewhere]
      lossless :=
        { saved := by
            intro gone openedAt last savedAt saved listed
            cases mem_append.mp listed with
            | inl old => exact sound.lossless.saved gone openedAt last savedAt saved old
            | inr new =>
              obtain ⟨-, rfl, rfl, rfl, rfl⟩ := ContainerEvent.released.inj (mem_singleton.mp new)
              exact ⟨pos.symm, blob⟩
          once := by
            rw [names, nodup_append]
            refine ⟨sound.lossless.once, nodup_singleton _, ?_⟩
            intro gone old last isLast
            rw [mem_singleton.mp isLast]
            exact ((sound.gone gone old).2 _ entry found).symm
          unreplaced := by
            intro key listed
            cases mem_append.mp listed with
            | inl old => exact sound.lossless.unreplaced key old
            | inr new => cases mem_singleton.mp new
          sound := by
            intro key listed
            cases mem_append.mp listed with
            | inl old => exact sound.lossless.sound key old
            | inr new => cases mem_singleton.mp new } }

theorem Sound.handle (undisturbed : world.Undisturbed input) :
    (world.handle input).1.Sound (events ++ (world.handle input).2) := by
  unfold WorldContainers.handle
  split
  case isTrue =>
    rw [append_nil]
    exact sound
  case isFalse =>
    cases input with
    | openBlock playerId pos entityType online =>
      exact sound.onContainerOpen playerId pos entityType online
    | closeBlock playerId pos online =>
      rw [append_nil]
      exact sound.onContainerClose playerId pos online
    | act playerId pos action srcSlot dstSlot count =>
      rw [append_nil]
      exact sound.onContainerAction playerId pos action srcSlot dstSlot count
    | loaded index stat =>
      dsimp only
      split
      · rw [append_nil]
        exact sound
      rename_i load found
      have answered := sound.of_requests (world.loads.eraseIdx index) world.saves
        fun _ waiting => waiting
      exact answered.hydrate stat (undisturbed load found)
    | saved index success =>
      dsimp only
      split
      · rw [append_nil]
        exact sound
      rename_i save found
      have answered := sound.of_requests world.loads (world.saves.eraseIdx index)
        fun _ waiting => mem_of_mem_eraseIdx waiting
      split
      · next succeeds =>
        obtain ⟨entry, lookup, node, changes, pos⟩ := undisturbed succeeds save found
        have kept := (sound.saves save (mem_of_getElem? found)).2 entry lookup node
        exact answered.releaseContainer lookup node pos (kept.2 changes)
      · rw [append_nil]
        exact answered

omit sound

theorem sound_start : Sound {} [] where
  known := by
    intro key entry found
    rw [show lookup key (∅ : Table UInt64 OpenContainer) = none from lookup_empty key]
      at found
    cases found
  entities := by
    intro key other entry another found
    rw [show lookup key (∅ : Table UInt64 OpenContainer) = none from lookup_empty key]
      at found
    cases found
  nodes := by
    intro key other entry another found
    rw [show lookup key (∅ : Table UInt64 OpenContainer) = none from lookup_empty key]
      at found
    cases found
  gone := nofun
  saves := nofun
  lossless := ⟨nofun, nodup_nil, nofun, nofun⟩

theorem undisturbed_lossless (inputs : List ContainerInput)
    (undisturbed : machine.Along Undisturbed {} inputs) : Lossless (machine.outputs {} inputs) :=
  (machine.invariant Undisturbed (fun _ world events => world.Sound events) sound_start
    (fun _ _ _ _ sound now => sound.handle now) inputs undisturbed).lossless

def chest : BlockPos := ⟨1, 64, 2⟩

def fiveItems : StoredState := .state (some ⟨2, some [⟨7, 5, 0⟩, ⟨0, 0, 0⟩]⟩)

def openAndMove : List ContainerInput :=
  [.openBlock 1 chest 0 true, .loaded 0 fiveItems, .act 1 chest 0 0 1 2,
    .closeBlock 1 chest true, .saved 0 true]

theorem open_and_move_lossless : Lossless (machine.outputs {} openAndMove) := by
  apply undisturbed_lossless
  refine ⟨trivial, ?_, trivial, trivial, ?_, trivial⟩
  · intro load found
    rfl
  · intro _ save found
    cases found
    exact ⟨⟨0, 1, 0, chest, 1⟩, by decide +kernel, rfl, rfl, rfl⟩

def openTwice : List ContainerInput :=
  [.openBlock 1 chest 0 true, .openBlock 1 chest 0 true, .loaded 0 fiveItems, .loaded 0 fiveItems]

def closeTwice : List ContainerInput :=
  [.openBlock 1 chest 0 true, .loaded 0 fiveItems, .closeBlock 1 chest true,
    .closeBlock 1 chest true, .saved 0 true, .saved 0 true]

def actAfterClose : List ContainerInput :=
  [.openBlock 1 chest 0 true, .loaded 0 fiveItems, .closeBlock 1 chest true,
    .act 1 chest 0 0 1 2, .saved 0 true]

def closeElsewhere : List ContainerInput :=
  [.openBlock 1 ⟨0, 65536, 0⟩ 0 true, .loaded 0 fiveItems, .closeBlock 1 ⟨1, 0, 0⟩ true,
    .saved 0 true]

theorem disturbed_sessions_lose :
    ¬ Lossless (machine.outputs {} openTwice) ∧ ¬ Lossless (machine.outputs {} closeTwice) ∧
      ¬ Lossless (machine.outputs {} actAfterClose) ∧
      ¬ Lossless (machine.outputs {} closeElsewhere) := by
  refine ⟨?_, ?_, ?_, ?_⟩
  · intro lossless
    exact lossless.unreplaced (packKey chest) (by decide +kernel)
  · intro lossless
    exact lossless.sound (packKey chest) (by decide +kernel)
  · intro lossless
    have saved := (lossless.saved 0 chest ⟨0, 2, [⟨7, 3, 0⟩, ⟨7, 2, 0⟩]⟩ chest
      (serializeToBlob ⟨0, 2, [⟨7, 5, 0⟩, ⟨0, 0, 0⟩]⟩) (by decide +kernel)).2
    revert saved
    decide
  · intro lossless
    have saved := (lossless.saved 0 ⟨0, 65536, 0⟩ ⟨0, 2, [⟨7, 5, 0⟩, ⟨0, 0, 0⟩]⟩ ⟨1, 0, 0⟩
      (serializeToBlob ⟨0, 2, [⟨7, 5, 0⟩, ⟨0, 0, 0⟩]⟩) (by decide +kernel)).1
    revert saved
    decide

end WorldContainers

end GtnhPlatform.World
