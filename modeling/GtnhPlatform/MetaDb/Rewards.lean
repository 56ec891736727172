import GtnhPlatform.Data.Machine
import GtnhPlatform.MetaDb.Inventory
import Mathlib.Algebra.BigOperators.Group.Finset.Basic
import Mathlib.Algebra.Order.BigOperators.Group.Finset

namespace GtnhPlatform.MetaDb

/-! A stored reward is granted and marked redeemed in one transaction. -/

def RewardTypeItem : String := "item"

structure QuestReward where
  playerID : Nat
  questID : Nat
  rewardType : String
  rewardID : Nat
  rewardCount : Nat
  redeemed : Int

structure MetaDB where
  inventory : Nat → SlotRows
  rewards : Table Int QuestReward

inductive RewardEvent where
  | granted (rewardID : Int)
  deriving DecidableEq

namespace MetaDB

def paysItems (reward : QuestReward) : Bool :=
  reward.rewardType == RewardTypeItem && reward.rewardID != 0 && decide (0 < reward.rewardCount)

theorem paysItems_item {reward : QuestReward} (pays : paysItems reward = true) :
    reward.rewardID ≠ 0 ∧ reward.rewardCount ≠ 0 := by
  simp only [paysItems, Bool.and_eq_true, bne_iff_ne, decide_eq_true_eq] at pays
  exact ⟨pays.1.2, Nat.pos_iff_ne_zero.mp pays.2⟩

variable (db : MetaDB)

/-- The check and the grant that both redemptions make for a reward. `none` is
an error, after which the transaction is rolled back. -/
def checkAndGrant (order : List Int) (rewardID : Int) : Option (MetaDB × List RewardEvent) :=
  match db.rewards.lookup rewardID with
  | none => none
  | some reward =>
    if reward.redeemed = 1 then none
    else if paysItems reward then
      (grantItemToInventory order (db.inventory reward.playerID) reward.rewardID
          reward.rewardCount).map fun rows =>
        ({ db with inventory := Function.update db.inventory reward.playerID rows },
          [.granted rewardID])
    else some (db, [])

/-- No row updated is an error. -/
def markRedeemed (rewardID : Int) : Option MetaDB :=
  (db.rewards.lookup rewardID).map fun reward =>
    { db with rewards := AList.insert rewardID { reward with redeemed := 1 } db.rewards }

def redeemPlayerQuestReward (order : List Int) (rewardID : Int) :
    Option (MetaDB × List RewardEvent) :=
  match db.checkAndGrant order rewardID with
  | none => none
  | some (granted, events) => (granted.markRedeemed rewardID).map fun marked => (marked, events)

def checkAndGrantAll (db : MetaDB) : List (List Int) → List Int → Option (MetaDB × List RewardEvent)
  | _, [] => some (db, [])
  | orders, rewardID :: rest =>
    match db.checkAndGrant (orders.headD []) rewardID with
    | none => none
    | some (granted, events) =>
      (checkAndGrantAll granted orders.tail rest).map fun result =>
        (result.1, events ++ result.2)

def markAll (db : MetaDB) : List Int → Option MetaDB
  | [] => some db
  | rewardID :: rest =>
    match db.markRedeemed rewardID with
    | none => none
    | some marked => markAll marked rest

def batchRedeemPlayerQuestRewards (orders : List (List Int))
    (rewardIDs : List Int) : Option (MetaDB × List RewardEvent) :=
  if rewardIDs = [] then none
  else
    match db.checkAndGrantAll orders rewardIDs with
    | none => none
    | some (granted, events) => (granted.markAll rewardIDs).map fun marked => (marked, events)

def storedReward (playerID questID : Nat) : Option Int :=
  ((db.rewards.entries.filter fun row =>
    row.2.playerID == playerID && row.2.questID == questID && row.2.redeemed == 0).map (·.1)).max?

inductive RewardInput where
  | redeem (rewardID : Int) (order : List Int) (commits : Bool)
  | batchRedeem (rewardIDs : List Int) (orders : List (List Int)) (commits : Bool)
  | grantStored (playerID questID : Nat) (order : List Int) (commits : Bool)

def commit (commits : Bool) (result : Option (MetaDB × List RewardEvent)) :
    MetaDB × List RewardEvent :=
  if commits then result.getD (db, []) else (db, [])

def handle : RewardInput → MetaDB × List RewardEvent
  | .redeem rewardID order commits =>
    db.commit commits (db.redeemPlayerQuestReward order rewardID)
  | .batchRedeem rewardIDs orders commits =>
    db.commit commits (db.batchRedeemPlayerQuestRewards orders rewardIDs)
  | .grantStored playerID questID order commits =>
    match db.storedReward playerID questID with
    | none => (db, [])
    | some rewardID => db.commit commits (db.redeemPlayerQuestReward order rewardID)

def machine : Machine MetaDB RewardInput RewardEvent := ⟨handle⟩

def Redeemed (rewardID : Int) : Prop :=
  ∃ reward, db.rewards.lookup rewardID = some reward ∧ reward.redeemed = 1

def Pending (rewardID : Int) : Prop :=
  ∃ reward, db.rewards.lookup rewardID = some reward ∧ reward.redeemed ≠ 1

def PaysItems (rewardID : Int) : Prop :=
  ∃ reward, db.rewards.lookup rewardID = some reward ∧ paysItems reward = true

def MarksGranted (input : RewardInput) : Prop :=
  ∀ rewardID, .granted rewardID ∈ (db.handle input).2 → (db.handle input).1.Redeemed rewardID

/-- Over a run no reward is granted twice, and none without its mark. -/
structure RedeemedOnce (db : MetaDB) (inputs : List RewardInput) : Prop where
  once : ∀ rewardID, (machine.outputs db inputs).count (.granted rewardID) ≤ 1
  marked : machine.Along MarksGranted db inputs

def due (rewards : Table Int QuestReward) (playerID item : Nat) (rewardIDs : List Int) : Nat :=
  (rewardIDs.map fun rewardID =>
    match rewards.lookup rewardID with
    | none => 0
    | some reward =>
      if paysItems reward ∧ reward.playerID = playerID ∧ reward.rewardID = item then
        reward.rewardCount
      else 0).sum

def Fits (rewardIDs : List Int) : Prop := ∀ (playerID : Nat) (items : Finset Nat),
    ∑ item ∈ items, stacksNeeded (roomFor item (db.inventory playerID))
        (due db.rewards playerID item rewardIDs) ≤
      freeSlots (db.inventory playerID) slotNumbers

def NoRepeatedGrant : RewardInput → Prop
  | .batchRedeem rewardIDs _ commits =>
    commits = true → (∀ rewardID ∈ rewardIDs, db.Pending rewardID) → db.Fits rewardIDs →
      ∀ rewardID, db.PaysItems rewardID → rewardIDs.count rewardID ≤ 1
  | _ => True

end MetaDB

end GtnhPlatform.MetaDb
