import GtnhPlatform.MetaDb.QuestExchange

namespace GtnhPlatform.MetaDb

open List

theorem deductSlots_eq {fails : Int → Bool}
    (deducted : deductSlots fails held remaining rows = some result) :
    result = deductCost held remaining rows := by
  induction held generalizing remaining rows with
  | nil => exact (Option.some.inj deducted).symm
  | cons entry rest ih =>
    obtain ⟨slot, count⟩ := entry
    rw [deductSlots] at deducted
    rw [deductCost]
    by_cases paid : remaining ≤ 0
    · rw [if_pos paid] at deducted ⊢
      exact (Option.some.inj deducted).symm
    rw [if_neg paid] at deducted ⊢
    cases failing : fails slot with
    | true =>
      rw [failing] at deducted
      cases deducted
    | false =>
      rw [failing] at deducted
      exact ih deducted

namespace QuestDB

def exchangedReward (quest : QuestDef) (request : ExchangeRequest) : QuestReward where
  playerID := request.playerID
  questID := request.questID
  rewardType := RewardTypeItem
  rewardID := quest.rewardItemID.toNat
  rewardCount := quest.rewardCount.toNat
  redeemed := 1

structure Commits (db next : QuestDB) (quest : QuestDef) (request : ExchangeRequest) : Prop where
  due : ∀ expiresAt, db.cooldowns.lookup (request.playerID, request.questID) = some expiresAt →
    expiresAt ≤ request.now
  written : ∃ granted,
    exchangeItems request.order (db.inventory request.playerID) quest.costItemID.toNat
        quest.costCount.toNat quest.rewardItemID.toNat quest.rewardCount.toNat = some granted ∧
      next = { db.storePlayerQuestReward (exchangedReward quest request) with
        inventory := Function.update db.inventory request.playerID granted
        cooldowns := AList.insert (request.playerID, request.questID)
          (request.now + quest.cooldownSecs.toNat) db.cooldowns }

variable {request : ExchangeRequest} {db next : QuestDB} {quest : QuestDef}

theorem payAndGrant_ok (paid : db.payAndGrant quest request held = .ok next) :
    ∃ granted, grantItemToInventory request.order
          (deductCost held quest.costCount.toNat (db.inventory request.playerID))
          quest.rewardItemID.toNat quest.rewardCount.toNat = some granted ∧
        next = { db.storePlayerQuestReward (exchangedReward quest request) with
          inventory := Function.update db.inventory request.playerID granted
          cooldowns := AList.insert (request.playerID, request.questID)
            (request.now + quest.cooldownSecs.toNat) db.cooldowns } := by
  rw [payAndGrant] at paid
  split at paid
  · exact absurd paid nofun
  rename_i deducted deductedEq
  rw [deductSlots_eq deductedEq] at paid
  split at paid
  · exact absurd paid nofun
  split at paid
  · exact absurd paid nofun
  split at paid
  · exact absurd paid nofun
  rename_i granted grantedEq
  split at paid
  · exact absurd paid nofun
  · split at paid
    · exact absurd paid nofun
    · exact ⟨granted, grantedEq, (Except.ok.inj paid).symm⟩

theorem checkCost_ok (checked : db.checkCost quest request = .ok next) :
    ∃ granted, exchangeItems request.order (db.inventory request.playerID) quest.costItemID.toNat
          quest.costCount.toNat quest.rewardItemID.toNat quest.rewardCount.toNat = some granted ∧
        next = { db.storePlayerQuestReward (exchangedReward quest request) with
          inventory := Function.update db.inventory request.playerID granted
          cooldowns := AList.insert (request.playerID, request.questID)
            (request.now + quest.cooldownSecs.toNat) db.cooldowns } := by
  rw [checkCost] at checked
  split at checked
  · exact absurd checked nofun
  rename_i costly
  split at checked
  · exact absurd checked nofun
  split at checked
  · exact absurd checked nofun
  dsimp only at checked
  split at checked
  · exact absurd checked nofun
  rename_i enough
  obtain ⟨granted, grants, written⟩ := payAndGrant_ok checked
  refine ⟨granted, ?_, written⟩
  have free : ¬(quest.costItemID.toNat = 0 ∨ quest.costCount.toNat = 0) := by
    rintro (noItem | noCount)
    · exact costly (Or.inl (UInt16.toNat_inj.mp noItem))
    · exact costly (Or.inr (UInt8.toNat_inj.mp noCount))
  rw [exchangeItems, if_neg free]
  rw [if_neg enough]
  exact grants

theorem commits_of_ok (committed : db.exchangeTransaction quest request = .ok next) :
    Commits db next quest request := by
  rw [exchangeTransaction] at committed
  split at committed
  · exact absurd committed nofun
  split at committed
  · exact absurd committed nofun
  cases stored : db.cooldowns.lookup (request.playerID, request.questID) with
  | none =>
    rw [stored] at committed
    exact ⟨fun _ some => absurd (stored.symm.trans some) nofun, checkCost_ok committed⟩
  | some expiresAt =>
    rw [stored] at committed
    dsimp only at committed
    split at committed
    · exact absurd committed nofun
    rename_i passed
    refine ⟨?_, checkCost_ok committed⟩
    intro later same
    cases stored.symm.trans same
    omega

theorem Commits.exchanged (commits : Commits db next quest request) :
    Exchanged quest request db next := by
  obtain ⟨granted, exchanges, rfl⟩ := commits.written
  have writes := exchangeItems_writes quest.rewardItemID.toNat_lt exchanges
  refine ⟨?_, ?_, ?_, rfl, rfl⟩
  · intro item real
    change (amountOf item (Function.update db.inventory request.playerID granted
      request.playerID) : Int) = _
    rw [Function.update_self]
    exact writes.amount item real
  · intro other distinct
    exact Function.update_of_ne distinct granted db.inventory
  · exact ⟨db.nextRewardID, db.nextRewardID_fresh, rfl⟩

theorem handle_cases (definitions : Table Nat QuestDef) (db : QuestDB) (request : ExchangeRequest) :
    (∃ error, handleQuestExchangeRequest definitions db request = (db, reply request false error)) ∨
      ∃ quest next error, definitions.lookup request.questID = some quest ∧
        quest.detectType = "exchange" ∧ Commits db next quest request ∧
          handleQuestExchangeRequest definitions db request = (next, reply request true error) := by
  rw [handleQuestExchangeRequest]
  cases defined : definitions.lookup request.questID with
  | none => exact Or.inl ⟨_, rfl⟩
  | some quest =>
    by_cases exchange : quest.detectType = "exchange"
    · dsimp only
      rw [if_neg (not_not.mpr exchange)]
      cases outcome : db.exchangeTransaction quest request with
      | error error => exact Or.inl ⟨error, rfl⟩
      | ok next => exact Or.inr ⟨quest, next, _, rfl, exchange, commits_of_ok outcome, rfl⟩
    · dsimp only
      rw [if_pos exchange]
      exact Or.inl ⟨_, rfl⟩

theorem atomic (definitions : Table Nat QuestDef) (db : QuestDB) (request : ExchangeRequest) :
    Atomic definitions db request := by
  rw [Atomic]
  rcases handle_cases definitions db request with ⟨error, refused⟩ | accepted
  · left
    rw [refused]
    exact ⟨rfl, rfl⟩
  obtain ⟨quest, next, error, defined, exchange, commits, handled⟩ := accepted
  right
  rw [handled]
  exact ⟨rfl, quest, defined, exchange, commits.exchanged⟩

def OnRecord (definitions : Table Nat QuestDef) (db : QuestDB) (history : List ExchangeEvent) :
    Prop :=
  ∀ event ∈ history, ∃ expiresAt,
    db.cooldowns.lookup (event.playerID, event.questID) = some expiresAt ∧
      event.now + cooldownOf definitions event.questID ≤ expiresAt

theorem step_onRecord {db : QuestDB} {history : List ExchangeEvent}
    (onRecord : OnRecord definitions db history) (apart : history.Pairwise (Apart definitions))
    (input : QuestInput) :
    OnRecord definitions (step definitions db input).1 (history ++ (step definitions db input).2) ∧
      (history ++ (step definitions db input).2).Pairwise (Apart definitions) := by
  cases input with
  | others inventory rewards rewardSequence progress =>
    rw [step, append_nil]
    exact ⟨onRecord, apart⟩
  | exchange request =>
    rcases handle_cases definitions db request with ⟨error, refused⟩ | accepted
    · have stepped : step definitions db (.exchange request) = (db, []) := by
        rw [step, refused]
        rfl
      rw [stepped, append_nil]
      exact ⟨onRecord, apart⟩
    · obtain ⟨quest, next, error, defined, exchange, commits, handled⟩ := accepted
      have stepped : step definitions db (.exchange request) =
          (next, [⟨request.playerID, request.questID, request.now⟩]) := by
        rw [step, handled]
        rfl
      rw [stepped]
      have secs : cooldownOf definitions request.questID = quest.cooldownSecs.toNat := by
        rw [cooldownOf, defined]
      obtain ⟨granted, _, written⟩ := commits.written
      have cooldowns : next.cooldowns = AList.insert (request.playerID, request.questID)
          (request.now + quest.cooldownSecs.toNat) db.cooldowns := by rw [written]
      have earlier : ∀ event ∈ history, event.playerID = request.playerID →
          event.questID = request.questID →
            event.now + cooldownOf definitions event.questID ≤ request.now := by
        intro event mem samePlayer sameQuest
        obtain ⟨expiresAt, stored, late⟩ := onRecord event mem
        rw [samePlayer, sameQuest] at stored
        exact late.trans (commits.due expiresAt stored)
      refine ⟨?_, ?_⟩
      · intro event mem
        rw [cooldowns, Table.lookup_insert_eq]
        by_cases same : (event.playerID, event.questID) = (request.playerID, request.questID)
        · rw [if_pos same]
          refine ⟨_, rfl, ?_⟩
          obtain ⟨samePlayer, sameQuest⟩ := Prod.mk.inj same
          rcases mem_append.mp mem with past | now
          · have before := earlier event past samePlayer sameQuest
            omega
          · rw [mem_singleton.mp now, secs]
        · rw [if_neg same]
          rcases mem_append.mp mem with past | now
          · exact onRecord event past
          · rw [mem_singleton.mp now] at same
            exact absurd rfl same
      · rw [pairwise_append]
        refine ⟨apart, pairwise_singleton _ _, ?_⟩
        intro event past last now samePlayer sameQuest
        rw [mem_singleton.mp now] at samePlayer sameQuest ⊢
        exact earlier event past samePlayer sameQuest

theorem exchange_atomic_and_spaced (definitions : Table Nat QuestDef) :
    (∀ db request, Atomic definitions db request) ∧
      ∀ db inputs, ((exchangeMachine definitions).outputs db inputs).Pairwise
        (Apart definitions) := by
  refine ⟨atomic definitions, ?_⟩
  intro db inputs
  have kept := (exchangeMachine definitions).invariant (fun _ _ => True)
    (fun _ db history => OnRecord definitions db history ∧ history.Pairwise (Apart definitions))
    ⟨fun _ mem => absurd mem not_mem_nil, List.Pairwise.nil⟩
    (fun _ _ _ input holds _ => step_onRecord holds.1 holds.2 input) inputs
    ((exchangeMachine definitions).along_true db inputs)
  exact kept.2

end QuestDB

end GtnhPlatform.MetaDb
