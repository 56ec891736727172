import GtnhPlatform.MetaDb.QuestExchange

namespace GtnhPlatform.MetaDb

open List

/-! Completed quests: reward row, grant and completion are each stored on their own. -/

/-- A `quest.completed` message, with what the runtime and the database choose:
the order in which the grant meets its map, and which of the three steps go
through. -/
structure CompletedMessage where
  playerID : Nat
  questID : Nat
  order : List Int
  stores : Bool
  redeems : Bool
  records : Bool

def CompletedMessage.key (message : CompletedMessage) : Nat × Nat :=
  (message.playerID, message.questID)

def questStatusCompleted : Nat := 3

def completionReward (definitions : Table Nat QuestDef) (message : CompletedMessage) :
    QuestReward where
  playerID := message.playerID
  questID := message.questID
  rewardType := RewardTypeItem
  rewardID := ((definitions.lookup message.questID).map fun quest =>
    quest.rewardItemID.toNat).getD 0
  rewardCount := ((definitions.lookup message.questID).map fun quest =>
    quest.rewardCount.toNat).getD 0
  redeemed := 0

namespace QuestDB

def setQuestProgress (db : QuestDB) (key : Nat × Nat) (status progressPercent : Nat) : QuestDB :=
  { db with progress := AList.insert key ⟨status, progressPercent⟩ db.progress }

def grantStoredQuestReward (db : QuestDB) (message : CompletedMessage) : QuestDB :=
  match db.toMetaDB.storedReward message.playerID message.questID with
  | none => db
  | some rewardID =>
    { db with
      toMetaDB := (db.toMetaDB.commit message.redeems
        (db.toMetaDB.redeemPlayerQuestReward message.order rewardID)).1 }

variable (definitions : Table Nat QuestDef)

def handleQuestCompleted (db : QuestDB)
    (message : CompletedMessage) : QuestDB :=
  let granted :=
    if message.stores then
      (db.storePlayerQuestReward (completionReward definitions message)).grantStoredQuestReward
        message
    else db
  if message.records then granted.setQuestProgress message.key questStatusCompleted 100
  else granted

def completionMachine :
    Machine QuestDB CompletedMessage Empty where
  step db message := (handleQuestCompleted definitions db message, [])

def ofKey (key : Nat × Nat) (reward : QuestReward) : Bool :=
  decide ((reward.playerID, reward.questID) = key)

def rowsOf (key : Nat × Nat) (db : QuestDB) : Nat :=
  Table.total (fun reward => if ofKey key reward then 1 else 0) db.rewards

def redeemedOf (key : Nat × Nat) (db : QuestDB) : Nat :=
  Table.total (fun reward => if ofKey key reward && reward.redeemed == 1 then 1 else 0) db.rewards

def Recorded (db : QuestDB) (key : Nat × Nat) : Prop :=
  ∃ progress, db.progress.lookup key = some progress ∧ progress.status = questStatusCompleted

structure HandledOnce (db : QuestDB) (key : Nat × Nat) : Prop where
  recorded : db.Recorded key
  stored : db.rowsOf key = 1
  granted : db.redeemedOf key = 1

def grantable (db : QuestDB) (message : CompletedMessage) :
    Bool :=
  let reward := completionReward definitions message
  message.redeems &&
    (!MetaDB.paysItems reward ||
      decide (stacksNeeded (roomFor reward.rewardID (db.inventory reward.playerID))
        reward.rewardCount ≤ freeSlots (db.inventory reward.playerID) slotNumbers))

def storesFor (key : Nat × Nat) (message : CompletedMessage) : Bool :=
  decide (message.key = key) && message.stores

structure SingleCompletion (definitions : Table Nat QuestDef) (db : QuestDB)
    (messages : List CompletedMessage) (key : Nat × Nat) : Prop where
  stored : db.rowsOf key + messages.countP (storesFor key) = 1
  redeemed : db.redeemedOf key = db.rowsOf key
  granted : (completionMachine definitions).Along
    (fun db message => storesFor key message = true → grantable definitions db message = true)
    db messages
  recorded : db.Recorded key ∨ ∃ message ∈ messages, message.key = key ∧ message.records = true

theorem redeemedOf_le_rowsOf (key : Nat × Nat) (db : QuestDB) :
    db.redeemedOf key ≤ db.rowsOf key := by
  apply sum_le_sum
  intro reward _
  cases ofKey key reward with
  | false => exact le_refl 0
  | true =>
    rw [Bool.true_and]
    split
    · exact le_refl 1
    · exact Nat.zero_le 1

theorem storedReward_store (db : QuestDB) {reward : QuestReward} (pending : reward.redeemed = 0) :
    (db.storePlayerQuestReward reward).toMetaDB.storedReward reward.playerID reward.questID =
      some db.nextRewardID := by
  have fresh : db.nextRewardID ∉ db.rewards.keys := AList.lookup_eq_none.mp db.nextRewardID_fresh
  have entries : (db.storePlayerQuestReward reward).rewards.entries =
      ⟨db.nextRewardID, reward⟩ :: db.rewards.entries := by
    have unchanged : db.rewards.entries.kerase db.nextRewardID = db.rewards.entries :=
      kerase_of_notMem_keys fresh
    rw [← unchanged]
    exact AList.entries_insert
  rw [MetaDB.storedReward, max?_eq_some_iff, entries]
  constructor
  · apply mem_map.mpr
    refine ⟨⟨db.nextRewardID, reward⟩, ?_, rfl⟩
    rw [mem_filter]
    exact ⟨mem_cons_self, by simp [pending]⟩
  · intro rewardID mem
    obtain ⟨row, listed, rfl⟩ := mem_map.mp mem
    rcases mem_cons.mp (mem_of_mem_filter listed) with rfl | older
    · exact le_refl _
    · exact le_of_lt (lt_nextRewardID (mem_map_of_mem older))

section Message

variable (definitions : Table Nat QuestDef) (db : QuestDB) (message : CompletedMessage)

def afterStore : QuestDB := db.storePlayerQuestReward (completionReward definitions message)

theorem lookup_afterStore : (afterStore definitions db message).rewards.lookup db.nextRewardID =
      some (completionReward definitions message) :=
  AList.lookup_insert db.rewards

theorem redeem_afterStore :
    ((afterStore definitions db message).toMetaDB.commit message.redeems
        ((afterStore definitions db message).toMetaDB.redeemPlayerQuestReward message.order
          db.nextRewardID)).1.rewards =
      if grantable definitions db message then
        AList.insert db.nextRewardID { completionReward definitions message with redeemed := 1 }
          (afterStore definitions db message).rewards
      else (afterStore definitions db message).rewards := by
  have pending : ¬(completionReward definitions message).redeemed = 1 := by
    change ¬(0 : Int) = 1
    decide
  have inventory : (afterStore definitions db message).inventory = db.inventory := rfl
  rw [MetaDB.commit, grantable]
  cases message.redeems with
  | false => rfl
  | true =>
    rw [if_pos rfl, Bool.true_and, MetaDB.redeemPlayerQuestReward, MetaDB.checkAndGrant,
      lookup_afterStore]
    dsimp only
    rw [if_neg pending]
    cases pays : MetaDB.paysItems (completionReward definitions message) with
    | false =>
      rw [if_neg Bool.false_ne_true]
      dsimp only
      rw [MetaDB.markRedeemed, lookup_afterStore]
      rfl
    | true =>
      obtain ⟨named, counted⟩ := MetaDB.paysItems_item pays
      obtain ⟨roomy, full⟩ := grantItemToInventory_spec message.order
        (db.inventory (completionReward definitions message).playerID) named counted
      rw [if_pos rfl, inventory, Bool.not_true, Bool.false_or]
      by_cases fits : stacksNeeded
          (roomFor (completionReward definitions message).rewardID
            (db.inventory (completionReward definitions message).playerID))
          (completionReward definitions message).rewardCount ≤
            freeSlots (db.inventory (completionReward definitions message).playerID)
              slotNumbers
      · obtain ⟨rows, granted, _⟩ := roomy fits
        rw [granted, if_pos (decide_eq_true fits), Option.map_some]
        dsimp only
        rw [MetaDB.markRedeemed, lookup_afterStore]
        rfl
      · rw [full fits, if_neg (by rw [decide_eq_false fits]; exact Bool.false_ne_true)]
        rfl

theorem rewards_handle :
    (handleQuestCompleted definitions db message).rewards =
      if message.stores then
        if grantable definitions db message then
          AList.insert db.nextRewardID { completionReward definitions message with redeemed := 1 }
            (afterStore definitions db message).rewards
        else (afterStore definitions db message).rewards
      else db.rewards := by
  have recorded : ∀ granted : QuestDB,
      (if message.records then granted.setQuestProgress message.key questStatusCompleted 100
        else granted).rewards = granted.rewards := by
    intro granted
    split <;> rfl
  rw [handleQuestCompleted, recorded]
  split
  · have newest : (afterStore definitions db message).toMetaDB.storedReward message.playerID
        message.questID = some db.nextRewardID := storedReward_store db rfl
    rw [← redeem_afterStore]
    change ((afterStore definitions db message).grantStoredQuestReward message).rewards = _
    rw [grantStoredQuestReward, newest]
  · rfl

variable (key : Nat × Nat)

theorem ofKey_completionReward :
    ofKey key (completionReward definitions message) = decide (message.key = key) := rfl

theorem rowsOf_handle : (handleQuestCompleted definitions db message).rowsOf key =
      db.rowsOf key + if storesFor key message then 1 else 0 := by
  have stored := Table.total_insert (fun reward => if ofKey key reward then 1 else 0) db.rewards
    db.nextRewardID (completionReward definitions message)
  have redeemed := Table.total_insert (fun reward => if ofKey key reward then 1 else 0)
    (afterStore definitions db message).rewards db.nextRewardID
    { completionReward definitions message with redeemed := 1 }
  rw [lookup_afterStore, Option.map_some, Option.getD_some] at redeemed
  rw [db.nextRewardID_fresh, Option.map_none, Option.getD_none, ofKey_completionReward] at stored
  rw [rowsOf, rewards_handle, storesFor]
  cases message.stores with
  | false =>
    rw [Bool.and_false]
    rfl
  | true =>
    rw [if_pos rfl, Bool.and_true]
    refine Eq.trans ?_ stored
    split
    · exact Nat.add_right_cancel redeemed
    · rfl

theorem redeemedOf_handle : (handleQuestCompleted definitions db message).redeemedOf key =
      db.redeemedOf key +
        if storesFor key message && grantable definitions db message then 1 else 0 := by
  have stored := Table.total_insert
    (fun reward => if ofKey key reward && reward.redeemed == 1 then 1 else 0) db.rewards
    db.nextRewardID (completionReward definitions message)
  have redeemed := Table.total_insert
    (fun reward => if ofKey key reward && reward.redeemed == 1 then 1 else 0)
    (afterStore definitions db message).rewards db.nextRewardID
    { completionReward definitions message with redeemed := 1 }
  have pending : ((completionReward definitions message).redeemed == 1) = false := rfl
  rw [lookup_afterStore, Option.map_some, Option.getD_some, pending, Bool.and_false,
    if_neg Bool.false_ne_true] at redeemed
  rw [db.nextRewardID_fresh, Option.map_none, Option.getD_none, pending, Bool.and_false,
    if_neg Bool.false_ne_true] at stored
  rw [redeemedOf, rewards_handle, storesFor]
  cases message.stores with
  | false =>
    rw [Bool.and_false, Bool.false_and]
    rfl
  | true =>
    rw [if_pos rfl, Bool.and_true]
    cases grantable definitions db message with
    | false =>
      rw [if_neg Bool.false_ne_true, Bool.and_false]
      exact stored
    | true =>
      rw [if_pos rfl, Bool.and_true]
      refine redeemed.trans ?_
      rw [Nat.add_zero] at stored
      change _ + (if decide (message.key = key) && true then 1 else 0) = _
      rw [Bool.and_true]
      exact congrArg (· + _) stored

theorem recorded_handle : (handleQuestCompleted definitions db message).Recorded key ↔
      db.Recorded key ∨ (message.key = key ∧ message.records = true) := by
  have untouched : ∀ granted : QuestDB,
      (granted.grantStoredQuestReward message).progress = granted.progress := by
    intro granted
    rw [grantStoredQuestReward]
    split <;> rfl
  have progress : (handleQuestCompleted definitions db message).progress =
      if message.records then AList.insert message.key ⟨questStatusCompleted, 100⟩ db.progress
      else db.progress := by
    rw [handleQuestCompleted]
    split
    · split
      · rw [setQuestProgress, untouched]
        rfl
      · rfl
    · split
      · rw [untouched]
        rfl
      · rfl
  rw [Recorded, progress]
  cases message.records with
  | false =>
    rw [if_neg Bool.false_ne_true]
    exact (or_iff_left fun both => absurd both.2 Bool.false_ne_true).symm
  | true =>
    rw [if_pos rfl, Table.lookup_insert_eq]
    by_cases same : key = message.key
    · rw [if_pos same]
      exact iff_of_true ⟨_, rfl, rfl⟩ (Or.inr ⟨same.symm, rfl⟩)
    · rw [if_neg same]
      exact (or_iff_left fun both => same both.1.symm).symm

end Message

section Messages

variable (definitions : Table Nat QuestDef) (key : Nat × Nat)

def grantedTimes : QuestDB → List CompletedMessage → Nat
  | _, [] => 0
  | db, message :: rest =>
    (if storesFor key message && grantable definitions db message then 1 else 0) +
      grantedTimes (handleQuestCompleted definitions db message) rest

variable (db : QuestDB)

variable (messages : List CompletedMessage)

include messages

theorem rowsOf_final : ((completionMachine definitions).final db messages).rowsOf key =
      db.rowsOf key + messages.countP (storesFor key) := by
  induction messages generalizing db with
  | nil => rfl
  | cons message rest ih =>
    rw [Machine.final, ih, countP_cons]
    change (handleQuestCompleted definitions db message).rowsOf key + _ = _
    rw [rowsOf_handle]
    omega

theorem redeemedOf_final : ((completionMachine definitions).final db messages).redeemedOf key =
      db.redeemedOf key + grantedTimes definitions key db messages := by
  induction messages generalizing db with
  | nil => rfl
  | cons message rest ih =>
    rw [Machine.final, ih, grantedTimes]
    change (handleQuestCompleted definitions db message).redeemedOf key + _ = _
    rw [redeemedOf_handle]
    exact Nat.add_assoc _ _ _

theorem recorded_final : ((completionMachine definitions).final db messages).Recorded key ↔
      db.Recorded key ∨ ∃ message ∈ messages, message.key = key ∧ message.records = true := by
  induction messages generalizing db with
  | nil => exact (or_iff_left fun ⟨_, mem, _⟩ => not_mem_nil mem).symm
  | cons message rest ih =>
    rw [Machine.final, ih, exists_mem_cons_iff, ← or_assoc]
    exact or_congr (recorded_handle definitions db message key) Iff.rfl

theorem grantedTimes_spec :
    grantedTimes definitions key db messages ≤ messages.countP (storesFor key) ∧
      (grantedTimes definitions key db messages = messages.countP (storesFor key) ↔
        (completionMachine definitions).Along
          (fun db message => storesFor key message = true →
            grantable definitions db message = true) db messages) := by
  induction messages generalizing db with
  | nil => exact ⟨le_refl 0, iff_of_true rfl trivial⟩
  | cons message rest ih =>
    obtain ⟨fewer, all⟩ := ih (handleQuestCompleted definitions db message)
    rw [grantedTimes, countP_cons, Machine.Along]
    cases stores : storesFor key message with
    | false =>
      rw [Bool.false_and, if_neg Bool.false_ne_true, Nat.zero_add, Nat.add_zero]
      exact ⟨fewer, all.trans (and_iff_right (by rintro ⟨⟩)).symm⟩
    | true =>
      rw [Bool.true_and, if_pos rfl]
      cases fits : grantable definitions db message with
      | false =>
        rw [if_neg Bool.false_ne_true]
        refine ⟨by omega, iff_of_false (by omega) ?_⟩
        intro along
        exact absurd (along.1 rfl) Bool.false_ne_true
      | true =>
        rw [if_pos rfl]
        refine ⟨by omega, Iff.trans ?_ (all.trans (and_iff_right fun _ => rfl).symm)⟩
        omega

theorem handledOnce_iff : ((completionMachine definitions).final db messages).HandledOnce key ↔
      SingleCompletion definitions db messages key := by
  obtain ⟨fewer, all⟩ := grantedTimes_spec definitions key db messages
  have redeemedFewer := redeemedOf_le_rowsOf key db
  constructor
  · intro once
    have stored := once.stored
    have granted := once.granted
    rw [rowsOf_final] at stored
    rw [redeemedOf_final] at granted
    refine ⟨stored, ?_, all.mp ?_, (recorded_final definitions key db messages).mp once.recorded⟩
    · omega
    · omega
  · intro single
    have stored := single.stored
    have redeemed := single.redeemed
    have granted := all.mpr single.granted
    refine ⟨(recorded_final definitions key db messages).mpr single.recorded, ?_, ?_⟩
    · rw [rowsOf_final]
      exact stored
    · rw [redeemedOf_final]
      omega

omit messages

end Messages

theorem completions_handledOnce_iff (definitions : Table Nat QuestDef) (db : QuestDB)
    (messages : List CompletedMessage) : (∀ message ∈ messages,
        ((completionMachine definitions).final db messages).HandledOnce message.key) ↔
      ∀ message ∈ messages, SingleCompletion definitions db messages message.key := by
  apply forall_congr'
  intro message
  exact imp_congr_right fun _ => handledOnce_iff definitions message.key db messages

def redelivered : CompletedMessage := ⟨1, 7, [], true, true, true⟩

theorem redelivery_stores_twice :
    ¬∀ message ∈ [redelivered, redelivered],
      ((completionMachine (AList.insert 7 ⟨5, 1, "", 0, 0, 0⟩ ∅)).final
        { inventory := fun _ => ∅, rewards := ∅ } [redelivered, redelivered]).HandledOnce
          message.key := by
  intro once
  have stored := (once redelivered mem_cons_self).stored
  rw [rowsOf_final] at stored
  exact absurd stored (by decide)

end QuestDB

end GtnhPlatform.MetaDb
