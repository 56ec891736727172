import GtnhPlatform.Inventory.ChestSessions

namespace GtnhPlatform.Inventory

open List ChestEvent Table

@[simp] theorem dropsOf_append (first second : List ChestEvent) :
    dropsOf (first ++ second) = dropsOf first ++ dropsOf second := filterMap_append

@[simp] theorem dropsOf_dropped (drops : List PersistSlot) :
    dropsOf (drops.map dropped) = drops := by
  induction drops with
  | nil => rfl
  | cons stack rest ih => exact congrArg (stack :: ·) ih

theorem lastChange_append (pos : PosKey) (first second : List ChestEvent) :
    lastChange pos (first ++ second) = (lastChange pos second).or (lastChange pos first) := by
  rw [lastChange, reverse_append, findSome?_append]
  rfl

theorem lastChange_eq_none (quiet : ∀ event ∈ events, event.change? pos = none) :
    lastChange pos events = none := by
  apply findSome?_eq_none_iff.mpr
  intro event mem
  exact quiet event (mem_reverse.mp mem)

namespace ChestServer

structure OneContent (earlier later : ChestServer) (events : List ChestEvent) : Prop where
  conserved : ∀ item, later.total item + totalOf item (dropsOf events) = earlier.total item
  shown : ∀ before playerId session after,
    events = before ++ .shown playerId session :: after → session.alone = true →
      session.slots = (lastChange session.pos before).getD (earlier.contents session.pos)

structure Tracked (earlier later : ChestServer) (events : List ChestEvent) : Prop
    extends OneContent earlier later events where
  latest : ∀ pos, later.contents pos = (lastChange pos events).getD (earlier.contents pos)

variable (server : ChestServer)

theorem Tracked.refl : Tracked server server [] where
  conserved _ := rfl
  latest _ := rfl
  shown before _ _ _ split := by simp at split

theorem Tracked.trans {events later : List ChestEvent} (begun : Tracked first second events)
    (continued : Tracked second third later) : Tracked first third (events ++ later) where
  conserved item := by
    have before := begun.conserved item
    have after := continued.conserved item
    rw [dropsOf_append, totalOf_append]
    omega
  latest pos := by
    rw [continued.latest pos, begun.latest pos, lastChange_append]
    cases lastChange pos later with
    | none => rfl
    | some slots => rfl
  shown before playerId session after split alone := by
    rcases append_eq_append_iff.mp split with ⟨rest, beforeEq, laterEq⟩ | ⟨rest, eventsEq, rest_⟩
    · subst beforeEq
      rw [continued.shown rest playerId session after laterEq alone, begun.latest,
        lastChange_append]
      cases lastChange session.pos rest with
      | none => rfl
      | some slots => rfl
    · cases rest with
      | nil =>
        simp only [append_nil] at eventsEq
        rw [continued.shown [] playerId session after rest_.symm alone, begun.latest, eventsEq]
        rfl
      | cons event rest =>
        obtain ⟨rfl, rfl⟩ := cons.inj rest_
        exact begun.shown before playerId session rest eventsEq alone

variable {earlier later : ChestServer}

theorem Tracked.of_unshown
    (conserved : ∀ item, later.total item + totalOf item (dropsOf events) = earlier.total item)
    (latest : ∀ pos, later.contents pos = (lastChange pos events).getD (earlier.contents pos))
    (unshown : ∀ playerId session, shown playerId session ∉ events) :
    Tracked earlier later events where
  conserved := conserved
  latest := latest
  shown before playerId session after split := by
    have mem : shown playerId session ∈ events := by
      rw [split]
      exact mem_append_right before mem_cons_self
    exact absurd mem (unshown playerId session)

theorem Tracked.silent (cache : later.cache = earlier.cache)
    (entityStates : later.entityStates = earlier.entityStates)
    (inventories : later.inventories = earlier.inventories)
    (cursors : later.cursors = earlier.cursors) : Tracked earlier later [] := by
  refine Tracked.of_unshown (fun item => ?_) (fun pos => ?_) (fun _ _ => not_mem_nil)
  · simp only [total, cache, entityStates, inventories, cursors]
    rfl
  · simp only [contents, stored, cache, entityStates]
    rfl

variable (item : ItemKey)

@[simp] theorem storedAmount_none : storedAmount item none = 0 := by
  simp [storedAmount, ChestSlots.blank, totalOf]

theorem total_write (chests : Table PosKey StoredSlots) (pos : PosKey) (slots : StoredSlots) :
    Table.total (storedAmount item) (AList.insert pos slots chests) +
        storedAmount item (chests.lookup pos).join =
      Table.total (storedAmount item) chests + storedAmount item slots := by
  have written := Table.total_insert (storedAmount item) chests pos slots
  cases present : chests.lookup pos with
  | none =>
    rw [present] at written
    simpa using written
  | some old =>
    rw [present] at written
    exact written

theorem lookup_saved (pos : PosKey) (slots : ChestSlots) (other : PosKey) :
    ((server.saveSlots pos slots).cache ∪ (server.saveSlots pos slots).entityStates).lookup other =
      (AList.insert pos (some slots) (server.cache ∪ server.entityStates)).lookup other := by
  rw [lookup_union_eq, lookup_insert_eq, lookup_union_eq]
  simp only [saveSlots, lookup_insert_eq]
  split
  · rfl
  · rfl

theorem contents_saveSlots (pos : PosKey) (slots : ChestSlots) (other : PosKey) :
    (server.saveSlots pos slots).contents other =
      if other = pos then slots else server.contents other := by
  rw [contents, stored, lookup_saved, lookup_insert_eq]
  split
  · rfl
  · rfl

theorem total_saveSlots (server : ChestServer) (pos : PosKey) (slots : ChestSlots) :
    (server.saveSlots pos slots).total item + totalOf item (server.contents pos).val =
      server.total item + totalOf item slots.val := by
  have written := total_write item (server.cache ∪ server.entityStates) pos (some slots)
  have same := total_congr (storedAmount item) (server.lookup_saved pos slots)
  have old : storedAmount item ((server.cache ∪ server.entityStates).lookup pos).join =
      totalOf item (server.contents pos).val := rfl
  have new : storedAmount item (some slots) = totalOf item slots.val := rfl
  simp only [total, same]
  simp only [saveSlots]
  omega

theorem tracked_saveSlots {server : ChestServer} (held : slots = server.contents pos) :
    Tracked server (server.saveSlots pos slots) [] := by
  refine Tracked.of_unshown (fun item => ?_) (fun other => ?_) (fun _ _ => not_mem_nil)
  · have saved := total_saveSlots item server pos slots
    rw [held] at saved ⊢
    exact Nat.add_right_cancel saved
  rw [contents_saveSlots]
  split
  · next same =>
    rw [held, same]
    rfl
  · rfl

def UpToDate (server : ChestServer) : ChestInput → Prop
  | .openChest _ _ => True
  | .loaded index => ∀ load, server.loads[index]? = some load →
      load.stored.getD ChestSlots.blank = server.contents load.pos ∧
        ∀ session, server.sessions.lookup load.playerId = some session → session.alone = true →
          load.stored.getD session.slots = server.contents session.pos
  | .click action => action.click.containerId = 1 →
      (server.seat action.playerId).accepted action = true →
        ∀ session, server.sessions.lookup action.playerId = some session →
          ∀ item, totalOf item session.slots.val = totalOf item (server.contents session.pos).val
  | .closeChest playerId pos => playerId ≠ 0 →
      ∀ session, server.sessions.lookup playerId = some session →
        session.slots = server.contents pos

variable {playerId : Nat}

theorem tracked_showLoaded {server : ChestServer} {found : StoredSlots}
    (holds : ∀ session, server.sessions.lookup playerId = some session → session.alone = true →
      found.getD session.slots = server.contents session.pos) :
    Tracked server (server.showLoaded playerId found).1 (server.showLoaded playerId found).2 := by
  unfold showLoaded
  cases opened : server.sessions.lookup playerId with
  | none => exact Tracked.refl server
  | some session =>
    refine ⟨⟨fun item => rfl, ?_⟩, fun pos => rfl⟩
    intro before other shown after split alone
    cases before with
    | nil =>
      obtain ⟨rfl, rfl⟩ := ChestEvent.shown.inj (cons.inj split).1
      exact holds session opened alone
    | cons event before => simp at split

theorem tracked_openChest (playerId : Nat) (pos : PosKey) :
    Tracked server (server.openChest playerId pos).1 (server.openChest playerId pos).2 := by
  unfold openChest
  split
  · exact Tracked.refl server
  cases cached : server.cache.lookup pos with
  | none => exact Tracked.silent rfl rfl rfl rfl
  | some found =>
    have begun : Tracked server
        { server with
          sessions := AList.insert playerId
            ⟨pos, ChestSlots.blank, server.unopened pos⟩ server.sessions } [] :=
      Tracked.silent rfl rfl rfl rfl
    refine begun.trans (tracked_showLoaded ?_)
    intro session opened _
    rw [AList.lookup_insert] at opened
    cases opened
    rw [contents, stored, lookup_union_eq, cached]
    rfl

theorem tracked_loaded {server : ChestServer} (current : server.UpToDate (.loaded index)) :
    Tracked server (server.loaded index).1 (server.loaded index).2 := by
  unfold loaded
  cases waiting : server.loads[index]? with
  | none => exact Tracked.refl server
  | some load =>
    obtain ⟨agrees, shows⟩ := current load waiting
    have kept : ∀ pos, ((AList.insert load.pos load.stored server.cache ∪
        server.entityStates).lookup pos).join.getD ChestSlots.blank = server.contents pos := by
      intro pos
      rw [← AList.insert_union, lookup_insert_eq]
      split
      · next same =>
        rw [same, ← agrees]
        rfl
      · rfl
    have cached : Tracked server
        { server with
          cache := AList.insert load.pos load.stored server.cache
          loads := server.loads.eraseIdx index } [] := by
      refine Tracked.of_unshown (fun item => ?_) kept (fun _ _ => not_mem_nil)
      have written := total_write item (server.cache ∪ server.entityStates) load.pos load.stored
      have same : storedAmount item load.stored =
          storedAmount item ((server.cache ∪ server.entityStates).lookup load.pos).join :=
        congrArg (fun slots : ChestSlots => totalOf item slots.val) agrees
      simp only [total, AList.insert_union] at written ⊢
      simp only [dropsOf, filterMap_nil, totalOf_nil]
      omega
    refine cached.trans (tracked_showLoaded fun session opened alone => ?_)
    rw [shows session opened alone]
    exact (kept session.pos).symm

theorem tracked_closeChest {server : ChestServer}
    (current : server.UpToDate (.closeChest playerId pos)) :
    Tracked server (server.closeChest playerId pos) [] := by
  unfold closeChest
  split
  · exact Tracked.refl server
  rename_i known
  cases opened : server.sessions.lookup playerId with
  | none => exact Tracked.refl server
  | some session =>
    have saved := tracked_saveSlots (current known session opened)
    exact saved.trans (Tracked.silent rfl rfl rfl rfl)

theorem total_setSlotsAndCursor (server : ChestServer) (playerId : Nat) (slots : PlayerSlots)
    (cursor : PersistSlot) : (server.setSlotsAndCursor playerId slots cursor).total item +
        (totalOf item (server.getSlots playerId).val + amountOf item (server.getCursor playerId)) =
      server.total item + (totalOf item slots.val + amountOf item cursor) := by
  have inventories := total_insert (fun slots : PlayerSlots => totalOf item slots.val)
    server.inventories playerId slots
  have cursors := total_insert (amountOf item) server.cursors playerId cursor
  have oldSlots : ((server.inventories.lookup playerId).map
      fun slots => totalOf item slots.val).getD 0 =
        totalOf item (server.getSlots playerId).val := by
    unfold getSlots
    cases server.inventories.lookup playerId with
    | none => simp [totalOf]
    | some slots => rfl
  have oldCursor : ((server.cursors.lookup playerId).map (amountOf item)).getD 0 =
      amountOf item (server.getCursor playerId) := by
    unfold getCursor
    cases server.cursors.lookup playerId with
    | none => simp
    | some cursor => rfl
  simp only [total, setSlotsAndCursor]
  omega

variable (action : InventoryAction)

theorem tracked_clickSession : Tracked server (server.clickSession action) [] := by
  unfold clickSession
  cases server.sessions.lookup action.playerId with
  | none => exact Tracked.refl server
  | some session => exact Tracked.silent rfl rfl rfl rfl

theorem clickSession_getSlots (playerId : Nat) :
    (server.clickSession action).getSlots playerId = server.getSlots playerId := by
  unfold clickSession
  cases server.sessions.lookup action.playerId with
  | none => rfl
  | some session => rfl

theorem clickSession_getCursor (playerId : Nat) :
    (server.clickSession action).getCursor playerId = server.getCursor playerId := by
  unfold clickSession
  cases server.sessions.lookup action.playerId with
  | none => rfl
  | some session => rfl

variable {action : InventoryAction}

theorem total_clicked {server : ChestServer}
    (accepts : (server.seat action.playerId).accepted action = true) :
    let result := (server.seat action.playerId).handle action
    ((server.clickSession action).setSlotsAndCursor action.playerId result.slots
        result.cursor).total item + totalOf item (result.session.getD []) +
          totalOf item ((server.seat action.playerId).dropped action) =
      server.total item + totalOf item ((server.seat action.playerId).session.getD []) := by
  intro result
  have moved : totalOf item result.slots.val + totalOf item (result.session.getD []) +
      amountOf item result.cursor + totalOf item ((server.seat action.playerId).dropped action) =
      totalOf item (server.getSlots action.playerId).val +
        totalOf item ((server.seat action.playerId).session.getD []) +
        amountOf item (server.getCursor action.playerId) :=
    InventoryServer.handle_total_of_accepted item accepts
  have written := total_setSlotsAndCursor item (server.clickSession action) action.playerId
    result.slots result.cursor
  have kept := (server.tracked_clickSession action).conserved item
  rw [clickSession_getSlots, clickSession_getCursor] at written
  simp only [dropsOf, filterMap_nil, totalOf_nil] at kept
  omega

theorem unshown_drops (drops : List PersistSlot) (playerId : Nat) (session : ChestSession) :
    shown playerId session ∉ drops.map dropped := by
  intro mem
  obtain ⟨stack, _, same⟩ := mem_map.mp mem
  cases same

theorem lastChange_drops (pos : PosKey) (drops : List PersistSlot) :
    lastChange pos (drops.map dropped) = none := by
  apply lastChange_eq_none
  intro event mem
  obtain ⟨stack, _, rfl⟩ := mem_map.mp mem
  rfl

theorem tracked_playerClick {server : ChestServer}
    (accepts : (server.seat action.playerId).accepted action = true)
    (elsewhere : action.click.containerId ≠ 1) :
    Tracked server (server.click action).1 (server.click action).2 := by
  have kept := (InventoryServer.handle_of_accepted accepts).1
  rw [if_neg elsewhere] at kept
  simp only [click, accepts, if_true, persist, if_neg elsewhere, append_nil]
  refine Tracked.of_unshown (fun item => ?_) (fun pos => ?_) (unshown_drops _)
  · have clicked := total_clicked item accepts
    rw [dropsOf_dropped]
    dsimp only at clicked
    rw [kept] at clicked
    omega
  · rw [lastChange_drops]
    exact (tracked_clickSession server action).latest pos

variable {session : ChestSession}

variable {server : ChestServer}

theorem click_of_chest
    (accepts : (server.seat action.playerId).accepted action = true)
    (chest : action.click.containerId = 1)
    (opened : server.sessions.lookup action.playerId = some session) :
    let result := (server.seat action.playerId).handle action
    let after := session.click (server.getSlots action.playerId)
      (server.getCursor action.playerId) action
    server.click action =
      (((server.clickSession action).setSlotsAndCursor action.playerId result.slots
        result.cursor).saveSlots session.pos after.slots,
        ((server.seat action.playerId).dropped action).map dropped ++
          [.changed session.pos after.slots]) ∧
      after.slots.val = result.session.getD [] := by
  have seated : server.seat action.playerId =
      ChestSession.seat (some session) (server.getSlots action.playerId)
        (server.getCursor action.playerId) := by
    rw [seat, opened]
  have clickedSession : (server.clickSession action).sessions.lookup action.playerId =
      some (session.click (server.getSlots action.playerId) (server.getCursor action.playerId)
        action) := by
    rw [clickSession, opened]
    exact AList.lookup_insert _
  constructor
  · simp only [click, accepts, if_true, persist, if_pos chest, setSlotsAndCursor, clickedSession]
    rfl
  · rw [seated]
    rfl

theorem tracked_chestClick (accepts : (server.seat action.playerId).accepted action = true)
    (chest : action.click.containerId = 1)
    (opened : server.sessions.lookup action.playerId = some session) (enough : ∀ item,
      totalOf item session.slots.val = totalOf item (server.contents session.pos).val) :
    Tracked server (server.click action).1 (server.click action).2 := by
  obtain ⟨clickEq, left⟩ := click_of_chest accepts chest opened
  have before : (server.seat action.playerId).session.getD [] = session.slots.val := by
    rw [seat, opened]
    rfl
  have kept : ∀ pos, (server.clickSession action).contents pos = server.contents pos :=
    (server.tracked_clickSession action).latest
  rw [clickEq]
  refine Tracked.of_unshown (fun item => ?_) (fun pos => ?_) (fun playerId other mem => ?_)
  · have clicked := total_clicked item accepts
    have saved := total_saveSlots item
      ((server.clickSession action).setSlotsAndCursor action.playerId
        ((server.seat action.playerId).handle action).slots
        ((server.seat action.playerId).handle action).cursor) session.pos
      (session.click (server.getSlots action.playerId) (server.getCursor action.playerId)
        action).slots
    have held : ((server.clickSession action).setSlotsAndCursor action.playerId
        ((server.seat action.playerId).handle action).slots
        ((server.seat action.playerId).handle action).cursor).contents session.pos =
          server.contents session.pos := kept session.pos
    rw [held, ← enough item, left] at saved
    rw [before] at clicked
    rw [dropsOf_append, dropsOf_dropped, totalOf_append]
    simp only [dropsOf, filterMap_cons, drop?, filterMap_nil, totalOf_nil]
    omega
  · rw [contents_saveSlots, lastChange_append, lastChange_drops, Option.or_none]
    simp only [lastChange, reverse_singleton, findSome?_cons, findSome?_nil,
      ChestEvent.change?]
    split
    · next same =>
      rw [if_pos same.symm]
      rfl
    · next apart =>
      rw [if_neg (fun same => apart same.symm)]
      exact kept pos
  · rcases mem_append.mp mem with dropped | changed
    · exact unshown_drops _ playerId other dropped
    · cases mem_singleton.mp changed

theorem tracked_click (current : server.UpToDate (.click action)) :
    Tracked server (server.click action).1 (server.click action).2 := by
  cases accepts : (server.seat action.playerId).accepted action with
  | false =>
    simp only [click, accepts, Bool.false_eq_true, if_false]
    exact server.tracked_clickSession action
  | true =>
    by_cases chest : action.click.containerId = 1
    · have open_ : (server.seat action.playerId).session.isSome := by
        simp only [InventoryServer.accepted, InventoryServer.reaches, chest, Bool.and_eq_true,
          Bool.or_eq_true] at accepts
        exact accepts.1.2.resolve_left (by decide)
      cases opened : server.sessions.lookup action.playerId with
      | none =>
        rw [seat, opened] at open_
        cases open_
      | some session =>
        exact tracked_chestClick accepts chest opened
          (current chest accepts session opened)
    · exact tracked_playerClick accepts chest

theorem tracked_step (current : server.UpToDate input) :
    Tracked server (machine.step server input).1 (machine.step server input).2 := by
  cases input with
  | openChest playerId pos => exact tracked_openChest server playerId pos
  | loaded index => exact tracked_loaded current
  | click action => exact tracked_click current
  | closeChest playerId pos => exact tracked_closeChest current

theorem tracked_run (current : machine.Along UpToDate server inputs) :
    Tracked server (machine.final server inputs) (machine.outputs server inputs) := by
  refine machine.invariant UpToDate (fun _ later events => Tracked server later events)
    (Tracked.refl server) ?_ inputs current
  intro _ later events input before now
  exact before.trans (tracked_step now)

theorem one_content (server : ChestServer) (inputs : List ChestInput)
    (current : machine.Along UpToDate server inputs) :
    OneContent server (machine.final server inputs) (machine.outputs server inputs) :=
  (tracked_run current).toOneContent

def spawn : PosKey := ⟨0, 64, 0⟩

def storedTen : ChestSlots := ⟨⟨5, 10, 0⟩ :: replicate 26 PersistSlot.empty, rfl⟩

def oneChest : ChestServer := start (AList.singleton spawn (some storedTen)) ∅ ∅

def take (playerId : Nat) : ChestInput := .click ⟨playerId, ⟨.click, .left, 1, 0⟩⟩

def visit : List ChestInput := [.openChest 1 spawn, .loaded 0, take 1, .closeChest 1 spawn]

def bothTake : List ChestInput :=
  [.openChest 1 spawn, .loaded 0, .openChest 2 spawn, take 1, take 2]

theorem one_content_visit :
    OneContent oneChest (machine.final oneChest visit) (machine.outputs oneChest visit) := by
  have asked : (machine.final oneChest [.openChest 1 spawn]).loads[0]? =
      some ⟨1, spawn, some storedTen⟩ := by decide
  have blank : (machine.final oneChest [.openChest 1 spawn]).sessions.lookup 1 =
      some ⟨spawn, ChestSlots.blank, true⟩ := by decide
  have filled : (machine.final oneChest [.openChest 1 spawn, .loaded 0]).sessions.lookup 1 =
      some ⟨spawn, storedTen, true⟩ := by decide
  refine one_content oneChest visit ⟨trivial, ?_, ?_, ?_, trivial⟩
  · intro load waiting
    cases asked.symm.trans waiting
    refine ⟨by decide, fun session opened _ => ?_⟩
    cases blank.symm.trans opened
    decide
  · intro _ _ session opened item
    cases filled.symm.trans opened
    have held : (machine.final oneChest [.openChest 1 spawn, .loaded 0]).contents spawn =
        storedTen := by decide
    exact congrArg (fun slots : ChestSlots => totalOf item slots.val) held.symm
  · intro _ session opened
    have taken : (machine.final oneChest [.openChest 1 spawn, .loaded 0, take 1]).sessions.lookup
        1 = some ⟨spawn, ChestSlots.blank, true⟩ := by decide
    cases taken.symm.trans opened
    decide

theorem bothTake_duplicates : ¬ OneContent oneChest (machine.final oneChest bothTake)
      (machine.outputs oneChest bothTake) := by
  intro law
  have conserved := law.conserved ⟨5, 0, by decide⟩
  revert conserved
  decide

end ChestServer

end GtnhPlatform.Inventory
