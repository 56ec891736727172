import GtnhPlatform.Inventory.ClickEffects
import GtnhPlatform.Inventory.MachineWindows

namespace GtnhPlatform.Inventory

open InventoryServer Option

namespace WindowServer

variable {server : WindowServer} {action : InventoryAction} {session : MachineSession}
  {playerId entity : Nat} {slots : List PersistSlot}

def written (server : WindowServer) (session : MachineSession) (slots : List PersistSlot) :
    MachineSession :=
  match server.liveLink session with
  | some _ => session
  | none => { session with slots := slots }

theorem liveLink_eq_some_iff : server.liveLink session = some entity ↔
    session.link = some entity ∧ (server.container entity).isSome := by
  rw [liveLink, filter_eq_some_iff]

theorem exists_entity (present : (server.container entity).isSome) :
    ∃ found, server.entities.lookup entity = some found := by
  obtain ⟨held, holds⟩ := isSome_iff_exists.mp present
  rw [container, bind_eq_some_iff] at holds
  obtain ⟨found, known, _⟩ := holds
  exact ⟨found, known⟩

theorem container_setContainer (present : (server.container entity).isSome) (other : Nat) :
    (server.setContainer entity slots).container other =
      if other = entity then some slots else server.container other := by
  obtain ⟨found, known⟩ := exists_entity present
  rw [setContainer, known, container]
  rw [Table.lookup_insert_eq]
  split
  · rfl
  · rfl

theorem setContainer_frame (server : WindowServer) (entity : Nat) (slots : List PersistSlot) :
    (server.setContainer entity slots).sessions = server.sessions ∧
      (server.setContainer entity slots).inventories = server.inventories ∧
      (server.setContainer entity slots).cursors = server.cursors ∧
      (server.setContainer entity slots).stored = server.stored := by
  rw [setContainer]
  split
  · exact ⟨rfl, rfl, rfl, rfl⟩
  · exact ⟨rfl, rfl, rfl, rfl⟩

theorem writeSlots_frame (server : WindowServer) (playerId : Nat) (session : MachineSession)
    (slots : List PersistSlot) :
    (server.writeSlots playerId session slots).inventories = server.inventories ∧
      (server.writeSlots playerId session slots).cursors = server.cursors ∧
      (server.writeSlots playerId session slots).stored = server.stored := by
  rw [writeSlots]
  split
  · exact (server.setContainer_frame _ slots).2
  · exact ⟨rfl, rfl, rfl⟩

theorem writeSlots_container (other : Nat) :
    (server.writeSlots playerId session slots).container other =
      if server.liveLink session = some other then some slots else server.container other := by
  rw [writeSlots]
  split
  · next target live =>
    rw [live, container_setContainer (liveLink_eq_some_iff.mp live).2]
    simp only [Option.some.injEq, eq_comm]
  · next dead =>
    rw [dead, if_neg nofun]
    rfl

theorem writeSlots_sessions (opened : server.sessions.lookup playerId = some session)
    (other : Nat) : (server.writeSlots playerId session slots).sessions.lookup other =
      if other = playerId then some (server.written session slots)
      else server.sessions.lookup other := by
  rw [writeSlots, written]
  cases server.liveLink session with
  | some target =>
    dsimp only
    rw [(server.setContainer_frame target slots).1]
    split
    · next same => rw [same, opened]
    · rfl
  | none => exact Table.lookup_insert_eq _ _ _ _

theorem slotsRef_writeSlots :
    (server.writeSlots playerId session slots).slotsRef (server.written session slots) = slots := by
  have containers := @writeSlots_container server session playerId slots
  cases live : server.liveLink session with
  | some target =>
    have known := (containers target).trans (if_pos live)
    have linked := (liveLink_eq_some_iff.mp live).1
    have again : (server.writeSlots playerId session slots).liveLink session = some target := by
      rw [liveLink_eq_some_iff, known]
      exact ⟨linked, rfl⟩
    rw [written, live, slotsRef, again, bind_some, known, getD_some]
  | none =>
    have unchanged : ∀ other, (server.writeSlots playerId session slots).container other =
        server.container other := by
      intro other
      rw [containers, live, if_neg nofun]
    have again : (server.writeSlots playerId session slots).liveLink
        { session with slots := slots } = none := by
      rw [liveLink, filter_eq_none_iff] at live ⊢
      intro target linked
      rw [unchanged]
      exact live target linked
    rw [written, live, slotsRef, again]
    rfl

theorem stored_saveSlots (key other : StateKey) : (server.saveSlots key slots).stored other =
      if other = key then slots else server.stored other := by
  rw [stored, stored, Table.lookup_union_eq, Table.lookup_union_eq]
  simp only [saveSlots, Table.lookup_insert_eq]
  split
  · rfl
  · rfl

structure Clicks (server : WindowServer) (action : InventoryAction) (session : MachineSession) :
    Prop where
  player : action.playerId ≠ 0
  container : action.click.containerId = 1
  opened : server.sessions.lookup action.playerId = some session

def Live (server : WindowServer) (session : MachineSession) (slots : List PersistSlot) : Prop :=
  session.link = some session.entity ∧ server.container session.entity = some slots

structure Inert (before after : WindowServer) : Prop where
  inventories : ∀ playerId, after.getSlots playerId = before.getSlots playerId
  cursors : ∀ playerId, after.getCursor playerId = before.getCursor playerId
  entities : ∀ entity, after.container entity = before.container entity
  sessions : ∀ playerId, after.sessions.lookup playerId = before.sessions.lookup playerId
  stored : ∀ key, after.stored key = before.stored key

structure ActsOn (before after : WindowServer) (action : InventoryAction) (entity : Nat)
    (slots : List PersistSlot) : Prop where
  container : after.container entity = (applyContainerClick
    ⟨(before.getSlots action.playerId).val, some slots, before.getCursor action.playerId⟩
      action.click).1.container
  player : ((after.getSlots action.playerId).val, after.getCursor action.playerId) =
    let result := applyContainerClick
      ⟨(before.getSlots action.playerId).val, some slots, before.getCursor action.playerId⟩
        action.click
    if result.2 then (result.1.player, result.1.cursor)
    else ((before.getSlots action.playerId).val, before.getCursor action.playerId)
  others : ∀ other, other ≠ entity → after.container other = before.container other
  sessions : ∀ playerId, after.sessions.lookup playerId = before.sessions.lookup playerId

def Idle (server : WindowServer) (action : InventoryAction) (session : MachineSession) : Prop :=
  Refuses (server.slotsRef session) (server.getSlots action.playerId).val
        (server.getCursor action.playerId) action.click ∧
      ¬ (server.seat action.playerId).PartialQuickMove action ∨
    SwapsAlike (server.slotsRef session) (server.getCursor action.playerId) action.click ∧
      server.stored (session.pos, session.entityType) = server.slotsRef session

theorem seat_eq (opened : server.sessions.lookup playerId = some session) : server.seat playerId =
      ⟨some (server.slotsRef session), server.getSlots playerId, server.getCursor playerId⟩ := by
  rw [seat, opened]
  rfl

def view (server : WindowServer) (playerId : Nat) (slots : List PersistSlot) : ClickState :=
  ⟨(server.getSlots playerId).val, some slots, server.getCursor playerId⟩

theorem handle_seat (clicks : server.Clicks action session) :
    let seat := server.seat action.playerId
    let result := applyContainerClick (server.view action.playerId (server.slotsRef session))
      action.click
    (seat.handle action).session = result.1.container ∧ seat.accepted action = result.2 ∧
      ((seat.handle action).slots.val, (seat.handle action).cursor) =
        if result.2 then (result.1.player, result.1.cursor)
        else ((server.getSlots action.playerId).val, server.getCursor action.playerId) := by
  have reached : (server.seat action.playerId).reaches action = true := by
    simp [reaches, clicks.player, seat_eq clicks.opened]
  have viewed : (server.seat action.playerId).view action.click =
      server.view action.playerId (server.slotsRef session) := by
    rw [InventoryServer.view, if_pos clicks.container, seat_eq clicks.opened]
    rfl
  have accepts : (server.seat action.playerId).accepted action =
      (applyContainerClick (server.view action.playerId (server.slotsRef session))
        action.click).2 := by
    rw [accepted, reached, viewed, Bool.true_and]
  dsimp only
  rw [← accepts]
  cases accepted : (server.seat action.playerId).accepted action with
  | true =>
    obtain ⟨held, slots, cursor⟩ := handle_of_accepted accepted
    rw [viewed, if_pos clicks.container] at held
    rw [viewed] at slots cursor
    exact ⟨held, rfl, Prod.ext slots cursor⟩
  | false =>
    have rejected := accepts.symm.trans accepted
    rw [← viewed] at rejected
    rw [handle_of_rejected reached rejected, if_pos clicks.container, viewed]
    refine ⟨rfl, rfl, ?_⟩
    rw [seat_eq clicks.opened]
    rfl

theorem exists_clicked (clicks : server.Clicks action session) :
    ∃ slots, ((server.seat action.playerId).handle action).session = some slots := by
  have other : action.click.containerId ≠ 0 := by
    rw [clicks.container]
    decide
  rw [(handle_seat clicks).1]
  exact isSome_iff_exists.mp (applyContainerClick_container_isSome other rfl)

structure Clicked (before after : WindowServer) (action : InventoryAction)
    (session : MachineSession) (slots : List PersistSlot) : Prop where
  sessions : ∀ playerId, after.sessions.lookup playerId =
    if playerId = action.playerId then some (before.written session slots)
    else before.sessions.lookup playerId
  container : ∀ entity, after.container entity =
    if before.liveLink session = some entity then some slots else before.container entity
  inventories : ∀ playerId, after.getSlots playerId =
    if playerId = action.playerId then ((before.seat action.playerId).handle action).slots
    else before.getSlots playerId
  cursors : ∀ playerId, after.getCursor playerId =
    if playerId = action.playerId then ((before.seat action.playerId).handle action).cursor
    else before.getCursor playerId
  stored : ∀ key, after.stored key =
    if (before.seat action.playerId).accepted action = true ∧
      key = (session.pos, session.entityType) then slots else before.stored key

variable (clicks : server.Clicks action session)

include clicks

theorem clickSession_eq (clicked : ((server.seat action.playerId).handle action).session = some slots) :
    server.clickSession action = server.writeSlots action.playerId session slots := by
  rw [clickSession, clicks.opened, clicked]
  rfl

theorem persist_settled (player : PlayerSlots) (cursor : PersistSlot) :
    ((server.writeSlots action.playerId session slots).setSlotsAndCursor action.playerId player
        cursor).persist action =
      ((server.writeSlots action.playerId session slots).setSlotsAndCursor action.playerId player
        cursor).saveSlots (session.pos, session.entityType) slots := by
  have found := (@writeSlots_sessions server session action.playerId slots clicks.opened
    action.playerId).trans (if_pos rfl)
  have key : ((server.written session slots).pos, (server.written session slots).entityType) =
      (session.pos, session.entityType) := by
    rw [written]
    split
    · rfl
    · rfl
  have current : ((server.writeSlots action.playerId session slots).setSlotsAndCursor
      action.playerId player cursor).slotsRef (server.written session slots) = slots :=
    slotsRef_writeSlots
  have kept : ((server.writeSlots action.playerId session slots).setSlotsAndCursor
      action.playerId player cursor).sessions.lookup action.playerId =
        some (server.written session slots) := found
  rw [persist, if_pos clicks.container]
  rw [kept]
  dsimp only
  rw [key, current]

theorem click_clicked (clicked : ((server.seat action.playerId).handle action).session = some slots) :
    Clicked server (server.click action) action session slots := by
  obtain ⟨inventories, cursors, storedEq⟩ := server.writeSlots_frame action.playerId session slots
  have sessions := @writeSlots_sessions server session action.playerId slots clicks.opened
  have containers := @writeSlots_container server session action.playerId slots
  have seatEq := seat_eq clicks.opened
  rw [click]
  simp only [clickSession_eq clicks clicked]
  cases accepted : (server.seat action.playerId).accepted action with
  | true =>
    rw [if_pos rfl, persist_settled clicks]
    refine ⟨sessions, containers, ?_, ?_, ?_⟩
    · intro playerId
      rw [getSlots, saveSlots, setSlotsAndCursor]
      rw [Table.lookup_insert_eq, inventories, getSlots]
      split
      · rfl
      · rfl
    · intro playerId
      rw [getCursor, saveSlots, setSlotsAndCursor]
      rw [Table.lookup_insert_eq, cursors, getCursor]
      split
      · rfl
      · rfl
    · intro key
      rw [stored_saveSlots]
      simp only [accepted, true_and]
      split
      · rfl
      · exact congrFun storedEq key
  | false =>
    obtain ⟨_, accepts, result⟩ := handle_seat clicks
    rw [← accepts, accepted, if_neg Bool.false_ne_true] at result
    obtain ⟨player, cursor⟩ := Prod.mk.inj result
    rw [if_neg Bool.false_ne_true]
    refine ⟨sessions, containers, ?_, ?_, ?_⟩
    · intro playerId
      rw [getSlots, inventories]
      split
      · next same =>
        rw [same]
        exact (Subtype.ext player).symm
      · rfl
    · intro playerId
      rw [getCursor, cursors]
      split
      · next same =>
        rw [same]
        exact cursor.symm
      · rfl
    · intro key
      rw [accepted, if_neg fun saved => Bool.false_ne_true saved.1]
      exact congrFun storedEq key

theorem idle_iff : server.Idle action session ↔
      (server.seat action.playerId).handle action = server.seat action.playerId ∧
        ((server.seat action.playerId).accepted action = true →
          server.stored (session.pos, session.entityType) = server.slotsRef session) := by
  have seatEq := seat_eq clicks.opened
  have other : action.click.containerId ≠ 0 := by
    rw [clicks.container]
    decide
  have opened : (server.view action.playerId (server.slotsRef session)).container =
      some (server.slotsRef session) := rfl
  have accepts := (handle_seat clicks).2.1
  have refuses := rejected_iff other opened
  have swaps := accepted_unchanged_iff other opened
  have unchanged := InventoryServer.handle_eq_self_iff clicks.player clicks.container
    (congrArg InventoryServer.session seatEq)
  rw [← accepts] at refuses swaps
  change _ ↔ Refuses (server.slotsRef session) (server.getSlots action.playerId).val
    (server.getCursor action.playerId) action.click at refuses
  change _ ↔ SwapsAlike (server.slotsRef session) (server.getCursor action.playerId)
    action.click at swaps
  change _ ↔ Refuses (server.slotsRef session) (server.getSlots action.playerId).val
    (server.getCursor action.playerId) action.click ∧ _ ∨
      SwapsAlike (server.slotsRef session) (server.getCursor action.playerId) action.click
    at unchanged
  rw [unchanged, Idle, ← refuses, ← swaps]
  cases (server.seat action.playerId).accepted action with
  | true => simp
  | false => simp

theorem inert_iff_idle : Inert server (server.click action) ↔ server.Idle action session := by
  obtain ⟨slots, clicked⟩ := exists_clicked clicks
  have after := click_clicked clicks clicked
  have seatEq := seat_eq clicks.opened
  rw [idle_iff clicks]
  constructor
  · intro inert
    have same : slots = server.slotsRef session := by
      cases live : server.liveLink session with
      | some entity =>
        have held := inert.entities entity
        rw [after.container, if_pos live] at held
        rw [slotsRef, live, bind_some, ← held, getD_some]
      | none =>
        have kept := inert.sessions action.playerId
        rw [after.sessions, if_pos rfl, clicks.opened, written, live, Option.some.injEq] at kept
        rw [slotsRef, live]
        exact congrArg MachineSession.slots kept
    constructor
    · have player := inert.inventories action.playerId
      have cursor := inert.cursors action.playerId
      rw [after.inventories, if_pos rfl] at player
      rw [after.cursors, if_pos rfl] at cursor
      generalize (server.seat action.playerId).handle action = settled at *
      obtain ⟨held, player', cursor'⟩ := settled
      dsimp only at clicked player cursor
      rw [clicked, player, cursor, same, seatEq]
    · intro accepted
      have saved := inert.stored (session.pos, session.entityType)
      rw [after.stored, if_pos ⟨accepted, rfl⟩] at saved
      exact saved.symm.trans same
  · rintro ⟨unchanged, saved⟩
    rw [unchanged, seatEq] at clicked
    cases clicked
    have kept : server.written session (server.slotsRef session) = session := by
      cases live : server.liveLink session with
      | some entity => rw [written, live]
      | none =>
        rw [written, slotsRef, live]
        rfl
    constructor
    · intro playerId
      rw [after.inventories, unchanged, seatEq]
      split
      · next same => rw [same]
      · rfl
    · intro playerId
      rw [after.cursors, unchanged, seatEq]
      split
      · next same => rw [same]
      · rfl
    · intro entity
      rw [after.container]
      split
      · next live =>
        have present := (liveLink_eq_some_iff.mp live).2
        obtain ⟨held, holds⟩ := isSome_iff_exists.mp present
        rw [slotsRef, live, bind_some, holds, getD_some]
      · rfl
    · intro playerId
      rw [after.sessions, kept]
      split
      · next same => rw [same, clicks.opened]
      · rfl
    · intro key
      rw [after.stored]
      split
      · next now =>
        rw [now.2]
        exact (saved now.1).symm
      · rfl

theorem click_actsOn (live : server.Live session slots) :
    ActsOn server (server.click action) action session.entity slots := by
  obtain ⟨result, clicked⟩ := exists_clicked clicks
  have after := click_clicked clicks clicked
  have linked : server.liveLink session = some session.entity := by
    rw [liveLink_eq_some_iff, live.2]
    exact ⟨live.1, rfl⟩
  have current : server.slotsRef session = slots := by
    rw [slotsRef, linked, bind_some, live.2, getD_some]
  obtain ⟨held, _, player⟩ := handle_seat clicks
  rw [current] at held player
  constructor
  · rw [after.container, if_pos linked, ← clicked]
    exact held
  · rw [after.inventories, after.cursors, if_pos rfl, if_pos rfl]
    exact player
  · intro other apart
    have elsewhere : server.liveLink session ≠ some other := by
      rw [linked]
      exact fun same => apart (Option.some.inj same).symm
    rw [after.container, if_neg elsewhere]
  · intro playerId
    rw [after.sessions, written, linked]
    split
    · next same => rw [same, clicks.opened]
    · rfl

omit clicks

def SoundClick (server : WindowServer) : WindowInput → Prop
  | .click action => ∀ session, server.Clicks action session → (∀ slots, server.Live session slots →
        ActsOn server (server.click action) action session.entity slots) ∧
      ((∀ slots, ¬ server.Live session slots) → Inert server (server.click action))
  | _ => True

def IdleUnlessLive (server : WindowServer) : WindowInput → Prop
  | .click action => ∀ session, server.Clicks action session →
      (∀ slots, ¬ server.Live session slots) → server.Idle action session
  | _ => True

theorem sound_iff_idle (start : WindowServer) (inputs : List WindowInput) :
    machine.Along SoundClick start inputs ↔ machine.Along IdleUnlessLive start inputs := by
  apply @Machine.along_congr _ _ _ machine (fun _ => True) _ _ (fun _ _ _ => trivial) _ _ trivial
  intro server input _
  cases input with
  | click action =>
    constructor
    · intro sound session clicks dead
      exact (inert_iff_idle clicks).mp ((sound session clicks).2 dead)
    · intro idle session clicks
      exact ⟨fun slots live => click_actsOn clicks live,
        fun dead => (inert_iff_idle clicks).mpr (idle session clicks dead)⟩
  | _ => exact Iff.rfl

/-- A machine with ten of an item stored, whose block is taken away while its
window is open; the player then clicks the slot. -/
def emptyMachine : WindowEntity := ⟨⟨0, 64, 0⟩, some 9, some [PersistSlot.empty], false⟩

def beforeOpening : WindowServer where
  entities := AList.insert 1 emptyMachine ∅
  sessions := ∅
  cache := ∅
  entityStates := AList.insert (⟨0, 64, 0⟩, 9) [⟨5, 10, 0⟩] ∅
  loads := []
  mainQueue := []
  inventories := ∅
  cursors := ∅

def takeFromWindow : InventoryAction := ⟨1, ⟨.click, .left, 1, 0⟩⟩

def machineGone : List WindowInput := [.openMachine 1 ⟨0, 64, 0⟩, .loaded 0, .linked,
    .entityChanged 1 (some { emptyMachine with machineId := none, container := none })]

theorem gone_machine_gives :
    ((machine.final beforeOpening machineGone).click takeFromWindow).getCursor 1 = ⟨5, 10, 0⟩ ∧
      ¬ machine.Along SoundClick beforeOpening (machineGone ++ [.click takeFromWindow]) := by
  have taken : ((machine.final beforeOpening machineGone).click takeFromWindow).getCursor 1 =
      ⟨5, 10, 0⟩ := by decide +kernel
  refine ⟨taken, ?_⟩
  intro sound
  rw [Machine.along_concat] at sound
  obtain ⟨session, opened⟩ : ∃ session,
      (machine.final beforeOpening machineGone).sessions.lookup 1 = some session :=
    Option.isSome_iff_exists.mp (by decide +kernel)
  have gone : (machine.final beforeOpening machineGone).container session.entity = none := by
    have only : (machine.final beforeOpening machineGone).sessions.lookup 1 =
        some ⟨⟨0, 64, 0⟩, 9, [⟨5, 10, 0⟩], 1, some 1⟩ := by decide +kernel
    rw [only] at opened
    cases opened
    decide +kernel
  have inert := (sound.2 session ⟨by decide, rfl, opened⟩).2 fun slots live => by
    rw [Live, gone] at live
    exact nomatch live.2
  have kept := inert.cursors 1
  rw [taken] at kept
  revert kept
  decide +kernel

end WindowServer

end GtnhPlatform.Inventory
