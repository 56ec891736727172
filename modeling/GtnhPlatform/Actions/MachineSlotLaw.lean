import GtnhPlatform.Actions.MachineSlot
import GtnhPlatform.InventorySync.PersistenceLaw

namespace GtnhPlatform.Actions

open List

open Inventory (PersistSlot ItemKey amountOf totalOf totalOf_set amountOf_of_isEmpty
  amountOf_empty kInventorySlots)
open InventorySync (PlayerSlots PlayerInventoryStore)
open Sim (SimulationEngine Entity MachineParts Position)
open World (InventorySlot InventoryContainer)

section Stacks

variable {first second : PersistSlot}

def Alike (first second : PersistSlot) : Prop := ∀ item, amountOf item first = amountOf item second

theorem alike_iff : Alike first second ↔ first.isEmpty ∧ second.isEmpty ∨ first = second := by
  constructor
  · intro alike
    have kept : ∀ {one other : PersistSlot}, Alike one other → one.isEmpty = false →
        one = other := by
      intro one other alike holds
      obtain ⟨real, some⟩ : one.itemId ≠ 0 ∧ one.count ≠ 0 := by
        simpa [PersistSlot.isEmpty] using holds
      have amount := alike ⟨one.itemId, one.metadata, real⟩
      have positive : one.count.toNat ≠ 0 := by simpa [← UInt8.toNat_inj] using some
      simp only [amountOf, and_self, if_true] at amount
      split at amount
      · next same =>
        have count : one.count = other.count := UInt8.toNat_inj.mp amount
        cases one
        cases other
        simp_all
      · exact absurd amount positive
    cases vacant : first.isEmpty with
    | false => exact .inr (kept alike vacant)
    | true =>
      cases other : second.isEmpty with
      | false =>
        obtain rfl := kept (fun item => (alike item).symm) other
        exact .inr rfl
      | true => exact .inl ⟨rfl, rfl⟩
  · rintro (⟨vacant, other⟩ | rfl) item
    · rw [amountOf_of_isEmpty item vacant, amountOf_of_isEmpty item other]
    · rfl

instance : Decidable (Alike first second) := decidable_of_iff' _ alike_iff

def bare (stack : PersistSlot) : PersistSlot := ⟨stack.itemId, stack.count, 0⟩

/-- No `metadata` is lost with it. -/
def Plain (stack : PersistSlot) : Prop := stack.isEmpty ∨ stack.metadata = 0

instance (stack : PersistSlot) : Decidable (Plain stack) := inferInstanceAs (Decidable (_ ∨ _))

variable {stack : PersistSlot}

theorem alike_bare_iff : Alike stack (bare stack) ↔ Plain stack := by
  rw [alike_iff]
  constructor
  · rintro (⟨vacant, -⟩ | same)
    · exact .inl vacant
    · exact .inr (congrArg PersistSlot.metadata same)
  · rintro (vacant | plain)
    · exact .inl ⟨vacant, vacant⟩
    · exact .inr (by cases stack; simp_all [bare])

theorem amountOf_of_metadata {item : ItemKey} (other : stack.metadata ≠ item.metadata) :
    amountOf item stack = 0 :=
  if_neg fun same => other same.2

theorem exists_marked (marked : ¬ Plain stack) :
    ∃ item : ItemKey, item.metadata ≠ 0 ∧ amountOf item stack ≠ 0 := by
  obtain ⟨holds, metadata⟩ := not_or.mp marked
  obtain ⟨real, some⟩ : stack.itemId ≠ 0 ∧ stack.count ≠ 0 := by
    simpa [PersistSlot.isEmpty] using holds
  refine ⟨⟨stack.itemId, stack.metadata, real⟩, metadata, ?_⟩
  simpa [amountOf, ← UInt8.toNat_inj] using some

theorem exchange_iff {old held new : PersistSlot} (plain : new.metadata = 0) :
    (∀ item, amountOf item old + amountOf item held =
        amountOf item new + amountOf item (bare old)) ↔ Plain old ∧ Alike held new := by
  constructor
  · intro balanced
    have oldPlain : Plain old := by
      by_contra marked
      obtain ⟨item, metadata, positive⟩ := exists_marked marked
      have putIn : amountOf item new = 0 := amountOf_of_metadata (plain ▸ Ne.symm metadata)
      have given : amountOf item (bare old) = 0 := amountOf_of_metadata (Ne.symm metadata)
      have amount := balanced item
      omega
    refine ⟨oldPlain, fun item => ?_⟩
    have same := alike_bare_iff.mpr oldPlain item
    have amount := balanced item
    omega
  · rintro ⟨oldPlain, alike⟩ item
    have same := alike_bare_iff.mpr oldPlain item
    have amount := alike item
    omega

end Stacks

theorem set_eq_self_iff {slots : List PersistSlot} (found : slots[index]? = some old) :
    slots.set index new = slots ↔ old = new := by
  obtain ⟨inBounds, rfl⟩ := List.getElem?_eq_some_iff.mp found
  constructor
  · intro same
    have written := congrArg (·[index]?) same
    simpa [inBounds, eq_comm] using written
  · intro same
    rw [← same, set_getElem_self]

namespace SetMachineSlotReq

variable (req : SetMachineSlotReq)

def asked : PersistSlot := ⟨req.itemId, req.count, req.metadata⟩

/-- It can be had by moving items between the machine's slot and the one the
player offers, if he offers one. -/
def CanHonour (old : PersistSlot) : Option PersistSlot → Prop
  | none => Alike old req.asked
  | some held =>
    ∃ left, ∀ item,
      amountOf item old + amountOf item held = amountOf item req.asked + amountOf item left

/-- What is there is what the client says, and nothing of it carries a
`metadata`. -/
def Exact (old : PersistSlot) : Option PersistSlot → Prop
  | none => Alike old (bare req.asked)
  | some held =>
    req.itemId = 0 ∧ old.itemId = 0 ∨ Plain old ∧ Alike held (bare req.asked) ∧
        (Plain req.asked ∨ old = bare req.asked ∧ held = bare req.asked)

instance (old : PersistSlot) (held : Option PersistSlot) : Decidable (req.Exact old held) := by
  cases held <;> unfold Exact <;> infer_instance

variable {req} {old : InventorySlot}

theorem settle_of_nothing (held : PersistSlot) (nothing : req.itemId = 0 ∧ old.itemId = 0) :
    req.settle old held = held := by
  simp [settle, nothing]

theorem amountOf_settle (held : PersistSlot) (something : ¬ (req.itemId = 0 ∧ old.itemId = 0))
    (item : ItemKey) :
    amountOf item (req.settle old held) = amountOf item (bare (stackOf old)) := by
  unfold settle
  split
  · split
    · rfl
    rename_i vacant
    have empty : (bare (stackOf old)).isEmpty := by
      simp [PersistSlot.isEmpty, bare, stackOf, not_not.mp vacant]
    rw [amountOf_of_isEmpty item empty, amountOf_empty]
  · next taken =>
    split
    · rfl
    · next vacant => exact absurd ⟨not_not.mp taken, not_not.mp vacant⟩ something

variable {held : PersistSlot}

theorem settle_same (oldSame : stackOf old = bare req.asked) (heldSame : held = bare req.asked) :
    req.settle old held = held := by
  have oldItem : old.itemId = req.itemId := congrArg PersistSlot.itemId oldSame
  have oldCount : old.count = req.count := congrArg PersistSlot.count oldSame
  subst heldSame
  unfold settle
  split
  · next some => rw [if_pos (oldItem ▸ some), oldItem, oldCount]; rfl
  · next none =>
    rw [if_neg (oldItem ▸ none)]

/-- What the request puts in, takes out and leaves with the player comes to
the same. -/
def Balanced (req : SetMachineSlotReq) (old : InventorySlot) : Option PersistSlot → Prop
  | none => Alike (stackOf old) (bare req.asked)
  | some held =>
    req.itemId = 0 ∧ old.itemId = 0 ∨ Plain (stackOf old) ∧ Alike held (bare req.asked)

theorem settle_balanced_iff : (∀ item, amountOf item (stackOf old) + amountOf item held =
        amountOf item (bare req.asked) + amountOf item (req.settle old held)) ↔
      req.Balanced old (some held) := by
  by_cases nothing : req.itemId = 0 ∧ old.itemId = 0
  · have oldEmpty : (stackOf old).isEmpty := by simp [PersistSlot.isEmpty, stackOf, nothing]
    have newEmpty : (bare req.asked).isEmpty := by simp [PersistSlot.isEmpty, bare, asked, nothing]
    refine ⟨fun _ => .inl nothing, fun _ item => ?_⟩
    rw [settle_of_nothing held nothing, amountOf_of_isEmpty item oldEmpty,
      amountOf_of_isEmpty item newEmpty]
  · simp only [amountOf_settle held nothing, Balanced, nothing, false_or]
    exact exchange_iff rfl

theorem canHonour_of_balanced {held : Option PersistSlot} (balanced : req.Balanced old held)
    (plain : Plain req.asked) : req.CanHonour (stackOf old) held := by
  have same := alike_bare_iff.mpr plain
  cases held with
  | none => exact fun item => (balanced item).trans (same item).symm
  | some held =>
    refine ⟨req.settle old held, fun item => ?_⟩
    rw [same item]
    exact settle_balanced_iff.mpr balanced item

theorem not_canHonour (oldPlain : Plain (stackOf old)) (alike : Alike held (bare req.asked))
    (marked : ¬ Plain req.asked) : ¬ req.CanHonour (stackOf old) (some held) := by
  rintro ⟨left, balanced⟩
  obtain ⟨item, metadata, positive⟩ := exists_marked marked
  have inMachine : amountOf item (stackOf old) = 0 :=
    (alike_bare_iff.mpr oldPlain item).trans (amountOf_of_metadata (Ne.symm metadata))
  have withPlayer : amountOf item held = 0 :=
    (alike item).trans (amountOf_of_metadata (Ne.symm metadata))
  have amount := balanced item
  omega

end SetMachineSlotReq

namespace MachineSlotServer

variable (server : MachineSlotServer) (req : SetMachineSlotReq)

def machineSlots (pos : Position) : List PersistSlot := stacksAt server.engine pos

def playerSlots (playerId : Nat) : PlayerSlots := server.inventoryStore.getSlots playerId

def total (item : ItemKey) : Nat :=
  totalOf item (server.machineSlots req.pos) + totalOf item (server.playerSlots req.playerId).slots

def offered : Option PersistSlot := req.playerIndex.map (server.playerSlots req.playerId).get

def CanHonour : Prop :=
  match server.findSlot req with
  | .error _ => False
  | .ok (_, _, old) => req.CanHonour (stackOf old) (server.offered req)

def Exact : Prop :=
  match server.findSlot req with
  | .error _ => True
  | .ok (_, _, old) => req.Exact (stackOf old) (server.offered req)

end MachineSlotServer

structure Settles (handler : MachineSlotHandler) (server : MachineSlotServer)
    (req : SetMachineSlotReq) : Prop where
  conserves : ∀ item, (server.handle handler req).1.total req item = server.total req item
  untouched : ¬ server.CanHonour req →
    (server.handle handler req).1.machineSlots req.pos = server.machineSlots req.pos ∧
      (server.handle handler req).1.playerSlots req.playerId = server.playerSlots req.playerId

namespace MachineSlotServer

section Handled

variable (handler : MachineSlotHandler) {server : MachineSlotServer} {req : SetMachineSlotReq}

theorem handle_of_error (refused : server.findSlot req = .error error) :
    (server.handle handler req).1 = server := by
  simp only [handle, refused]

variable {entity : Entity} {parts : MachineParts} {old : InventorySlot}

theorem findSlot_ok (found : server.findSlot req = .ok (entity, parts, old)) :
    (server.engine.findEntityAt req.pos).bind Entity.machine = some parts ∧
      parts.container.slots[req.slotIndex.toNat]? = some old := by
  unfold findSlot at found
  split at found
  · cases found
  rename_i entityFound
  split at found
  · cases found
  rename_i partsFound
  split at found
  · cases found
  rename_i slotFound
  cases found
  rw [entityFound]
  exact ⟨partsFound, slotFound⟩

variable (found : server.findSlot req = .ok (entity, parts, old))

include found

theorem machineSlots_of_found :
    server.machineSlots req.pos = parts.container.slots.map stackOf := by
  simp only [machineSlots, stacksAt, (findSlot_ok found).1]

theorem machineSlots_handle : (server.handle handler req).1.machineSlots req.pos =
      (server.machineSlots req.pos).set req.slotIndex.toNat (bare req.asked) := by
  have shown : ((server.setMachineSlot req entity parts).setPlayerSlot req old).machineSlots
      req.pos = (parts.container.slots.set req.slotIndex.toNat req.slot).map stackOf := by
    unfold machineSlots stacksAt setPlayerSlot
    cases req.playerIndex <;>
      simp [setMachineSlot, SimulationEngine.findEntityAt, SimulationEngine.putEntity]
  simp only [handle, found, shown, machineSlots_of_found found, map_set]
  rfl

theorem playerSlots_handle :
    (server.handle handler req).1.playerSlots req.playerId =
      match req.playerIndex with
      | none => server.playerSlots req.playerId
      | some index =>
        (server.playerSlots req.playerId).set index
          (req.settle old ((server.playerSlots req.playerId).get index)) := by
  simp only [handle, found, setPlayerSlot]
  cases req.playerIndex with
  | none => rfl
  | some index => simp [playerSlots, InventorySync.getSlots_setSlots, setMachineSlot]

variable (item : ItemKey)

theorem machine_total : totalOf item ((server.handle handler req).1.machineSlots req.pos) +
        amountOf item (stackOf old) =
      totalOf item (server.machineSlots req.pos) + amountOf item (bare req.asked) := by
  rw [machineSlots_handle handler found]
  apply totalOf_set
  rw [machineSlots_of_found found, getElem?_map, (findSlot_ok found).2]
  rfl

theorem player_total :
    totalOf item ((server.handle handler req).1.playerSlots req.playerId).slots +
        (match server.offered req with | none => 0 | some held => amountOf item held) =
      totalOf item (server.playerSlots req.playerId).slots +
        match server.offered req with
        | none => 0
        | some held => amountOf item (req.settle old held) := by
  rw [playerSlots_handle handler found]
  unfold offered
  cases req.playerIndex with
  | none => rfl
  | some index =>
    apply totalOf_set
    rw [getElem?_eq_getElem]
    rfl

theorem total_handle_iff :
    (server.handle handler req).1.total req item = server.total req item ↔
      match server.offered req with
      | none => amountOf item (stackOf old) = amountOf item (bare req.asked)
      | some held =>
        amountOf item (stackOf old) + amountOf item held =
          amountOf item (bare req.asked) + amountOf item (req.settle old held) := by
  have machine := machine_total handler found item
  have player := player_total handler found item
  unfold total
  cases offer : server.offered req with
  | none =>
    simp only [offer] at player ⊢
    omega
  | some held =>
    simp only [offer] at player ⊢
    omega

theorem conserves_iff :
    (∀ item, (server.handle handler req).1.total req item = server.total req item) ↔
      req.Balanced old (server.offered req) := by
  simp only [total_handle_iff handler found]
  cases server.offered req with
  | none => rfl
  | some held => exact SetMachineSlotReq.settle_balanced_iff

theorem untouched_iff :
    ((server.handle handler req).1.machineSlots req.pos = server.machineSlots req.pos ∧
        (server.handle handler req).1.playerSlots req.playerId = server.playerSlots req.playerId) ↔
      stackOf old = bare req.asked ∧
        ∀ held, server.offered req = some held → req.settle old held = held := by
  have oldAt : (server.machineSlots req.pos)[req.slotIndex.toNat]? = some (stackOf old) := by
    rw [machineSlots_of_found found, getElem?_map, (findSlot_ok found).2]
    rfl
  rw [machineSlots_handle handler found, playerSlots_handle handler found]
  apply and_congr (set_eq_self_iff oldAt)
  unfold offered
  cases req.playerIndex with
  | none => simp
  | some index =>
    have heldAt : (server.playerSlots req.playerId).slots[index.val]? =
        some ((server.playerSlots req.playerId).get index) := by
      rw [getElem?_eq_getElem]
      rfl
    simp only [Option.map_some, Option.some.injEq, forall_eq']
    have whole : ∀ {one other : PlayerSlots}, one = other ↔ one.slots = other.slots := by
      rintro ⟨slots, _⟩ ⟨others, _⟩
      simp
    exact (whole.trans (set_eq_self_iff heldAt)).trans eq_comm

end Handled

end MachineSlotServer

theorem SetMachineSlotReq.exact_iff {req : SetMachineSlotReq} : req.Exact (stackOf old) offered ↔
      req.Balanced old offered ∧
        (req.CanHonour (stackOf old) offered ∨ stackOf old = bare req.asked ∧
            ∀ held, offered = some held → req.settle old held = held) := by
  cases offered with
  | none =>
    constructor
    · intro alike
      refine ⟨alike, ?_⟩
      rcases alike_iff.mp alike with ⟨oldEmpty, newEmpty⟩ | same
      · exact .inl (canHonour_of_balanced alike (.inl newEmpty))
      · exact .inr ⟨same, nofun⟩
    · exact fun exact => exact.1
  | some held =>
    constructor
    · rintro (nothing | ⟨oldPlain, alike, plain | same⟩)
      · have balanced : req.Balanced old (some held) := .inl nothing
        have empty : req.asked.isEmpty := by simp [PersistSlot.isEmpty, asked, nothing]
        exact ⟨balanced, .inl (canHonour_of_balanced balanced (.inl empty))⟩
      · have balanced : req.Balanced old (some held) := .inr ⟨oldPlain, alike⟩
        exact ⟨balanced, .inl (canHonour_of_balanced balanced plain)⟩
      · refine ⟨.inr ⟨oldPlain, alike⟩, .inr ⟨same.1, fun other found => ?_⟩⟩
        cases found
        exact settle_same same.1 same.2
    · rintro ⟨nothing | ⟨oldPlain, alike⟩, settled⟩
      · exact .inl nothing
      refine .inr ⟨oldPlain, alike, ?_⟩
      by_contra unmet
      obtain ⟨marked, different⟩ := not_or.mp unmet
      rcases settled with honoured | ⟨same, -⟩
      · exact not_canHonour oldPlain alike marked honoured
      · rcases alike_iff.mp alike with ⟨_, empty⟩ | heldSame
        · exact marked (.inl empty)
        · exact different ⟨same, heldSame⟩

theorem MachineSlotServer.handle_settles_iff (handler : MachineSlotHandler)
    (server : MachineSlotServer) (req : SetMachineSlotReq) :
    Settles handler server req ↔ server.Exact req := by
  cases found : server.findSlot req with
  | error error =>
    have same := handle_of_error handler found
    simp only [Exact, found, iff_true]
    exact ⟨fun item => by rw [same], fun _ => by rw [same]; exact ⟨rfl, rfl⟩⟩
  | ok slot =>
    obtain ⟨entity, parts, old⟩ := slot
    simp only [Exact, found, SetMachineSlotReq.exact_iff]
    rw [← conserves_iff handler found, ← untouched_iff handler found]
    constructor
    · intro settles
      refine ⟨settles.conserves, or_iff_not_imp_left.mpr fun refused => ?_⟩
      apply settles.untouched
      simpa only [CanHonour, found] using refused
    · rintro ⟨conserves, settled⟩
      refine ⟨conserves, fun refused => settled.resolve_left ?_⟩
      simpa only [CanHonour, found] using refused

def insertServer : MachineSlotServer where
  engine := SimulationEngine.new.putEntity ⟨2, 2, 2⟩
    { id := 0
      machine := some
        { machine := ⟨61, 0, ⟨2, 2, 2⟩, 1, false⟩
          container := ⟨1, 2, [.empty, .empty]⟩
          energy := ⟨10000, 0, 32, 32, 1, .electricity⟩ } }
  inventoryStore :=
    (PlayerInventoryStore.setSlots {} 7 (PlayerSlots.empty.set ⟨4, by decide⟩ ⟨21, 5, 0⟩)).1

def insertThree : SetMachineSlotReq := ⟨7, ⟨2, 2, 2⟩, 0, 21, 3, 0, 4⟩

theorem insertThree_loses : ¬ Settles ⟨none, false, false, false⟩ insertServer insertThree := by
  intro settles
  have amount := settles.conserves ⟨21, 0, by decide⟩
  exact absurd amount (by decide +kernel)

end GtnhPlatform.Actions
