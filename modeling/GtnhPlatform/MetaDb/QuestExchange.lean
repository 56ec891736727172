import GtnhPlatform.MetaDb.Exchange
import GtnhPlatform.MetaDb.Rewards

namespace GtnhPlatform.MetaDb

/-! The exchange request for a repeatable quest. -/

structure QuestDef where
  rewardItemID : UInt16
  rewardCount : UInt8
  detectType : String
  costItemID : UInt16
  costCount : UInt8
  cooldownSecs : UInt16

structure QuestProgress where
  status : Nat
  progressPercent : Nat

structure QuestDB extends MetaDB where
  rewardSequence : Int := 0
  cooldowns : Table (Nat × Nat) Int := ∅
  progress : Table (Nat × Nat) QuestProgress := ∅

namespace QuestDB

def nextRewardID (db : QuestDB) : Int := db.rewards.keys.foldr max db.rewardSequence + 1

theorem lt_nextRewardID {db : QuestDB} (used : rewardID ∈ db.rewards.keys) :
    rewardID < db.nextRewardID := by
  have above : ∀ keys : List Int, rewardID ∈ keys → rewardID ≤ keys.foldr max db.rewardSequence := by
    intro keys mem
    induction keys with
    | nil => exact absurd mem List.not_mem_nil
    | cons head rest ih =>
      rcases List.mem_cons.mp mem with rfl | later
      · exact le_max_left _ _
      · exact (ih later).trans (le_max_right _ _)
  exact Int.lt_add_one_of_le (above db.rewards.keys used)

theorem nextRewardID_fresh (db : QuestDB) : db.rewards.lookup db.nextRewardID = none := by
  rw [AList.lookup_eq_none]
  intro used
  exact absurd (lt_nextRewardID used) (lt_irrefl _)

def storePlayerQuestReward (db : QuestDB) (reward : QuestReward) : QuestDB :=
  { db with
    rewards := AList.insert db.nextRewardID reward db.rewards
    rewardSequence := db.nextRewardID }

end QuestDB

inductive ExchangeStatement where
  | begin
  | selectCooldown
  | queryInventory
  | scanInventory
  | writeSlot (slot : Int)
  | storeCooldown
  | storeReward
  | grant
  | commit

structure ExchangeRequest where
  playerID : Nat
  questID : Nat
  now : Int
  order : List Int
  fails : ExchangeStatement → Bool

structure QuestExchangeResponse where
  playerID : Nat
  questID : Nat
  success : Bool
  errorMessage : String
  cooldownRemainingSecs : Nat

def deductSlots (fails : Int → Bool) : List (Int × Int) → Int → SlotRows → Option SlotRows
  | [], _, rows => some rows
  | (slot, count) :: rest, remaining, rows =>
    if remaining ≤ 0 then some rows
    else if fails slot then none
    else
      let take := if remaining < count then remaining else count
      deductSlots fails rest (remaining - take) (leaveInSlot rows slot (count - take))

namespace QuestDB

abbrev ExchangeError := String × Nat

def internalError : ExchangeError := ("internal_error", 0)

def payAndGrant (db : QuestDB) (quest : QuestDef) (request : ExchangeRequest)
    (held : List (Int × Int)) : Except ExchangeError QuestDB :=
  let rows := db.inventory request.playerID
  match deductSlots (fun slot => request.fails (.writeSlot slot)) held quest.costCount.toNat rows with
  | none => .error internalError
  | some deducted =>
    if request.fails .storeCooldown then .error internalError
    else if request.fails .storeReward then .error internalError
    else
      match grantItemToInventory request.order deducted quest.rewardItemID.toNat
          quest.rewardCount.toNat with
      | none => .error ("inventory_full", 0)
      | some granted =>
        if request.fails .grant then .error ("inventory_full", 0)
        else if request.fails .commit then .error internalError
        else
          let stored := db.storePlayerQuestReward
            { playerID := request.playerID, questID := request.questID,
              rewardType := RewardTypeItem, rewardID := quest.rewardItemID.toNat,
              rewardCount := quest.rewardCount.toNat, redeemed := 1 }
          .ok { stored with
            inventory := Function.update db.inventory request.playerID granted
            cooldowns := AList.insert (request.playerID, request.questID)
              (request.now + quest.cooldownSecs.toNat) db.cooldowns }

def checkCost (db : QuestDB) (quest : QuestDef) (request : ExchangeRequest) :
    Except ExchangeError QuestDB :=
  if quest.costItemID = 0 ∨ quest.costCount = 0 then .error ("missing_items", 0)
  else if request.fails .queryInventory then .error internalError
  else if request.fails .scanInventory then .error internalError
  else
    let held := costRows (db.inventory request.playerID) quest.costItemID.toNat
    if (held.map (·.2)).sum < quest.costCount.toNat then .error ("missing_items", 0)
    else db.payAndGrant quest request held

/-- The transaction of `HandleQuestExchangeRequest`; an error rolls it back. -/
def exchangeTransaction (db : QuestDB) (quest : QuestDef) (request : ExchangeRequest) :
    Except ExchangeError QuestDB :=
  if request.fails .begin then .error internalError
  else if request.fails .selectCooldown then .error internalError
  else
    match db.cooldowns.lookup (request.playerID, request.questID) with
    | none => db.checkCost quest request
    | some expiresAt =>
      if request.now < expiresAt then
        .error ("cooldown_active", ((expiresAt - request.now) % 2 ^ 32).toNat)
      else db.checkCost quest request

def reply (request : ExchangeRequest) (success : Bool) (error : ExchangeError) :
    QuestExchangeResponse :=
  ⟨request.playerID, request.questID, success, error.1, error.2⟩

variable (definitions : Table Nat QuestDef)

def handleQuestExchangeRequest (db : QuestDB)
    (request : ExchangeRequest) : QuestDB × QuestExchangeResponse :=
  match definitions.lookup request.questID with
  | none => (db, reply request false ("unknown_quest", 0))
  | some quest =>
    if quest.detectType ≠ "exchange" then (db, reply request false ("not_exchange", 0))
    else
      match db.exchangeTransaction quest request with
      | .error error => (db, reply request false error)
      | .ok next => (next, reply request true ("", quest.cooldownSecs.toNat))

structure Exchanged (quest : QuestDef) (request : ExchangeRequest) (db after : QuestDB) :
    Prop where
  amounts : ∀ item ≠ 0, (amountOf item (after.inventory request.playerID) : Int) =
      amountOf item (db.inventory request.playerID) +
        exchangeGain quest.costItemID.toNat quest.costCount.toNat quest.rewardItemID.toNat
          quest.rewardCount.toNat item
  otherPlayers : ∀ other ≠ request.playerID, after.inventory other = db.inventory other
  reward : ∃ rewardID, db.rewards.lookup rewardID = none ∧ after.rewards = AList.insert rewardID
      { playerID := request.playerID, questID := request.questID, rewardType := RewardTypeItem,
        rewardID := quest.rewardItemID.toNat, rewardCount := quest.rewardCount.toNat,
        redeemed := 1 } db.rewards
  cooldown : after.cooldowns = AList.insert (request.playerID, request.questID)
    (request.now + quest.cooldownSecs.toNat) db.cooldowns
  progress : after.progress = db.progress

def Atomic (db : QuestDB) (request : ExchangeRequest) : Prop :=
  let result := handleQuestExchangeRequest definitions db request
  (result.2.success = false ∧ result.1 = db) ∨
    (result.2.success = true ∧ ∃ quest, definitions.lookup request.questID = some quest ∧
      quest.detectType = "exchange" ∧ Exchanged quest request db result.1)

inductive QuestInput where
  | exchange (request : ExchangeRequest)
  | others (inventory : Nat → SlotRows) (rewards : Table Int QuestReward) (rewardSequence : Int)
      (progress : Table (Nat × Nat) QuestProgress)

structure ExchangeEvent where
  playerID : Nat
  questID : Nat
  now : Int

def step (db : QuestDB) : QuestInput → QuestDB × List ExchangeEvent
  | .exchange request =>
    let result := handleQuestExchangeRequest definitions db request
    (result.1, if result.2.success then [⟨request.playerID, request.questID, request.now⟩] else [])
  | .others inventory rewards rewardSequence progress =>
    ({ db with inventory, rewards, rewardSequence, progress }, [])

def exchangeMachine : Machine QuestDB QuestInput ExchangeEvent := ⟨step definitions⟩

def cooldownOf (questID : Nat) : Int :=
  match definitions.lookup questID with
  | none => 0
  | some quest => quest.cooldownSecs.toNat

def Apart (first second : ExchangeEvent) : Prop :=
  first.playerID = second.playerID → first.questID = second.questID →
    first.now + cooldownOf definitions first.questID ≤ second.now

end QuestDB

end GtnhPlatform.MetaDb
