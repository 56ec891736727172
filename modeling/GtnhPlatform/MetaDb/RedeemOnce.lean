import GtnhPlatform.MetaDb.Rewards

namespace GtnhPlatform.MetaDb

open List

namespace MetaDB

variable {db : MetaDB} (rewards : Table Int QuestReward)

theorem due_cons (playerID item : Nat) (rewardID : Int) (rest : List Int) :
    due rewards playerID item (rewardID :: rest) =
      due rewards playerID item [rewardID] + due rewards playerID item rest := by
  simp [due]

variable {rewardID : Int} {reward : QuestReward}

theorem due_singleton {rewards : Table Int QuestReward}
    (found : rewards.lookup rewardID = some reward) (playerID item : Nat) :
    due rewards playerID item [rewardID] =
      if paysItems reward ∧ reward.playerID = playerID ∧ reward.rewardID = item then
        reward.rewardCount else 0 := by
  simp [due, found]

theorem fits_nil (db : MetaDB) : db.Fits [] := by
  intro playerID items
  simp [due, stacksNeeded]

variable {rest : List Int}

theorem fits_cons_unpaid (found : db.rewards.lookup rewardID = some reward)
    (unpaid : paysItems reward = false) : db.Fits (rewardID :: rest) ↔ db.Fits rest := by
  have nothing : ∀ playerID item, due db.rewards playerID item (rewardID :: rest) =
      due db.rewards playerID item rest := by
    intro playerID item
    rw [due_cons, due_singleton found, if_neg (by simp [unpaid]), Nat.zero_add]
  simp only [Fits, nothing]

theorem due_zero (playerID : Nat) (rewardIDs : List Int) :
    due rewards playerID 0 rewardIDs = 0 := by
  induction rewardIDs with
  | nil => rfl
  | cons rewardID rest ih =>
    rw [due_cons, ih, Nat.add_zero]
    cases found : rewards.lookup rewardID with
    | none => simp [due, found]
    | some reward =>
      rw [due_singleton found, if_neg]
      rintro ⟨pays, _, blank⟩
      exact (paysItems_item pays).1 blank

theorem due_other_player {rewards : Table Int QuestReward}
    (found : rewards.lookup rewardID = some reward) (other : reward.playerID ≠ playerID)
    (item : Nat) :
    due rewards playerID item (rewardID :: rest) = due rewards playerID item rest := by
  rw [due_cons, due_singleton found, if_neg (fun mine => other mine.2.1), Nat.zero_add]

theorem fits_cons_needs (found : db.rewards.lookup rewardID = some reward)
    (pays : paysItems reward = true) (fits : db.Fits (rewardID :: rest)) :
    stacksNeeded (roomFor reward.rewardID (db.inventory reward.playerID)) reward.rewardCount ≤
      freeSlots (db.inventory reward.playerID) slotNumbers := by
  have alone := fits reward.playerID {reward.rewardID}
  rw [Finset.sum_singleton, due_cons, due_singleton found, if_pos ⟨pays, rfl, rfl⟩,
    stacksNeeded_add] at alone
  exact (Nat.le_add_right _ _).trans alone

variable {rows : SlotRows}

theorem stacks_after_grant (found : db.rewards.lookup rewardID = some reward)
    (pays : paysItems reward = true)
    (granted : Granted reward.rewardID reward.rewardCount (db.inventory reward.playerID) rows)
    {items : Finset Nat} (listed : reward.rewardID ∈ items) :
    ∑ item ∈ items, stacksNeeded (roomFor item (db.inventory reward.playerID))
        (due db.rewards reward.playerID item (rewardID :: rest)) =
      stacksNeeded (roomFor reward.rewardID (db.inventory reward.playerID)) reward.rewardCount +
        ∑ item ∈ items, stacksNeeded (roomFor item rows)
          (due db.rewards reward.playerID item rest) := by
  have here := stacksNeeded_add (roomFor reward.rewardID (db.inventory reward.playerID))
    reward.rewardCount (due db.rewards reward.playerID reward.rewardID rest)
  have room : roomFor reward.rewardID (db.inventory reward.playerID) +
      64 * stacksNeeded (roomFor reward.rewardID (db.inventory reward.playerID))
        reward.rewardCount - reward.rewardCount = roomFor reward.rewardID rows := by
    have after := granted.room
    omega
  have elsewhere : ∀ item ∈ items.erase reward.rewardID,
      stacksNeeded (roomFor item (db.inventory reward.playerID))
          (due db.rewards reward.playerID item (rewardID :: rest)) =
        stacksNeeded (roomFor item rows) (due db.rewards reward.playerID item rest) := by
    intro item mem
    have distinct := Finset.ne_of_mem_erase mem
    rw [due_cons, due_singleton found, if_neg (fun same => distinct same.2.2.symm), Nat.zero_add]
    by_cases blank : item = 0
    · rw [blank, due_zero]
      simp [stacksNeeded]
    · rw [granted.otherRoom item (Int.ofNat_inj.not.mpr distinct) (Int.natCast_ne_zero.mpr blank)]
  rw [← Finset.add_sum_erase items _ listed, Finset.sum_congr rfl elsewhere,
    ← Finset.add_sum_erase items (fun item => stacksNeeded (roomFor item rows)
      (due db.rewards reward.playerID item rest)) listed,
    due_cons, due_singleton found, if_pos ⟨pays, rfl, rfl⟩, here, room, Nat.add_assoc]

theorem fits_cons_paid (found : db.rewards.lookup rewardID = some reward)
    (pays : paysItems reward = true)
    (granted : Granted reward.rewardID reward.rewardCount (db.inventory reward.playerID) rows) :
    db.Fits (rewardID :: rest) ↔
      { db with inventory := Function.update db.inventory reward.playerID rows }.Fits rest := by
  have free := granted.free
  constructor
  · intro fits playerID items
    dsimp only
    by_cases same : playerID = reward.playerID
    · subst same
      rw [Function.update_self]
      have all := fits reward.playerID (insert reward.rewardID items)
      rw [stacks_after_grant found pays granted (Finset.mem_insert_self _ _)] at all
      have more := Finset.sum_le_sum_of_subset (Finset.subset_insert reward.rewardID items)
        (f := fun item : Nat => stacksNeeded (roomFor item rows)
          (due db.rewards reward.playerID item rest))
      omega
    · rw [Function.update_of_ne same]
      have all := fits playerID items
      simpa only [due_other_player found (Ne.symm same)] using all
  · intro fits playerID items
    by_cases same : playerID = reward.playerID
    · subst same
      have all := fits reward.playerID (insert reward.rewardID items)
      dsimp only at all
      rw [Function.update_self] at all
      have more := Finset.sum_le_sum_of_subset (Finset.subset_insert reward.rewardID items)
        (f := fun item : Nat => stacksNeeded (roomFor item (db.inventory reward.playerID))
          (due db.rewards reward.playerID item (rewardID :: rest)))
      rw [stacks_after_grant found pays granted (Finset.mem_insert_self _ _)] at more
      omega
    · have all := fits playerID items
      dsimp only at all
      rw [Function.update_of_ne same] at all
      simpa only [due_other_player found (Ne.symm same)] using all

def grantsOf (rewards : Table Int QuestReward) (rewardIDs : List Int) : List RewardEvent :=
  (rewardIDs.filter fun rewardID => (rewards.lookup rewardID).any paysItems).map .granted

theorem grantsOf_cons (rewardID : Int) (rest : List Int) :
    grantsOf rewards (rewardID :: rest) = grantsOf rewards [rewardID] ++ grantsOf rewards rest := by
  rw [grantsOf, grantsOf, grantsOf, ← map_append, ← filter_append]
  rfl

theorem grantsOf_singleton {rewards : Table Int QuestReward}
    (found : rewards.lookup rewardID = some reward) :
    grantsOf rewards [rewardID] = if paysItems reward then [.granted rewardID] else [] := by
  cases pays : paysItems reward <;> simp [grantsOf, found, pays]

def GoesThrough (db : MetaDB) (orders : List (List Int)) (rewardIDs : List Int) : Prop :=
  ∃ granted, db.checkAndGrantAll orders rewardIDs =
    some (granted, grantsOf db.rewards rewardIDs) ∧ granted.rewards = db.rewards

variable {orders : List (List Int)}

theorem checkAndGrantAll_refused (rest : List Int)
    (refused : db.checkAndGrant (orders.headD []) rewardID = none) :
    db.checkAndGrantAll orders (rewardID :: rest) = none := by
  rw [checkAndGrantAll, refused]

variable {first : MetaDB}

theorem checkAndGrantAll_cons (rest : List Int)
    (granted : db.checkAndGrant (orders.headD []) rewardID =
      some (first, grantsOf db.rewards [rewardID])) (same : first.rewards = db.rewards) :
    (GoesThrough first orders.tail rest → GoesThrough db orders (rewardID :: rest)) ∧
      (first.checkAndGrantAll orders.tail rest = none →
        db.checkAndGrantAll orders (rewardID :: rest) = none) := by
  constructor
  · rintro ⟨last, through, kept⟩
    refine ⟨last, ?_, kept.trans same⟩
    rw [checkAndGrantAll, granted]
    dsimp only
    rw [through, Option.map_some, same, ← grantsOf_cons]
  · intro stopped
    rw [checkAndGrantAll, granted]
    dsimp only
    rw [stopped, Option.map_none]

theorem pending_congr (same : first.rewards = db.rewards) (rewardID : Int) :
    first.Pending rewardID ↔ db.Pending rewardID := by
  rw [Pending, same, Pending]

theorem checkAndGrantAll_spec (db : MetaDB) (orders : List (List Int)) (rewardIDs : List Int) :
    ((∀ rewardID ∈ rewardIDs, db.Pending rewardID) → db.Fits rewardIDs →
        GoesThrough db orders rewardIDs) ∧
      (¬ ((∀ rewardID ∈ rewardIDs, db.Pending rewardID) ∧ db.Fits rewardIDs) →
        db.checkAndGrantAll orders rewardIDs = none) := by
  induction rewardIDs generalizing db orders with
  | nil =>
    refine ⟨fun _ _ => ⟨db, rfl, rfl⟩, fun refused => ?_⟩
    exact absurd ⟨by simp, fits_nil db⟩ refused
  | cons rewardID rest ih =>
    by_cases pending : db.Pending rewardID
    · obtain ⟨reward, found, unredeemed⟩ := pending
      -- what is known of the rest once this reward is dealt with
      have goesOn : ∀ first, first.rewards = db.rewards →
          (db.Fits (rewardID :: rest) ↔ first.Fits rest) →
          db.checkAndGrant (orders.headD []) rewardID =
            some (first, grantsOf db.rewards [rewardID]) →
          ((∀ other ∈ rewardID :: rest, db.Pending other) → db.Fits (rewardID :: rest) →
            GoesThrough db orders (rewardID :: rest)) ∧
          (¬ ((∀ other ∈ rewardID :: rest, db.Pending other) ∧ db.Fits (rewardID :: rest)) →
            db.checkAndGrantAll orders (rewardID :: rest) = none) := by
        intro first same fits granted
        obtain ⟨through, stopped⟩ := checkAndGrantAll_cons rest granted same
        obtain ⟨later, refused⟩ := ih first orders.tail
        simp only [pending_congr same] at later refused
        constructor
        · intro all fit
          exact through (later (forall_mem_cons.mp all).2 (fits.mp fit))
        intro not
        apply stopped
        apply refused
        rintro ⟨all, fit⟩
        exact not ⟨forall_mem_cons.mpr ⟨⟨reward, found, unredeemed⟩, all⟩, fits.mpr fit⟩
      cases pays : paysItems reward with
      | false =>
        refine goesOn db rfl (fits_cons_unpaid found pays) ?_
        rw [checkAndGrant, found]
        dsimp only
        rw [if_neg unredeemed, pays, if_neg Bool.false_ne_true, grantsOf_singleton found, pays,
          if_neg Bool.false_ne_true]
      | true =>
        obtain ⟨named, counted⟩ := paysItems_item pays
        obtain ⟨roomy, full⟩ := grantItemToInventory_spec (orders.headD [])
          (db.inventory reward.playerID) named counted
        by_cases room : stacksNeeded (roomFor reward.rewardID
            (db.inventory reward.playerID)) reward.rewardCount ≤
          freeSlots (db.inventory reward.playerID) slotNumbers
        · obtain ⟨rows, result, granted⟩ := roomy room
          refine goesOn
            { db with inventory := Function.update db.inventory reward.playerID rows } rfl
            (fits_cons_paid found pays granted) ?_
          rw [checkAndGrant, found]
          dsimp only
          rw [if_neg unredeemed, if_pos pays, result, Option.map_some,
            grantsOf_singleton found, if_pos pays]
        · have refused : db.checkAndGrant (orders.headD []) rewardID = none := by
            rw [checkAndGrant, found]
            dsimp only
            rw [if_neg unredeemed, if_pos pays, full room, Option.map_none]
          refine ⟨fun _ fits => absurd (fits_cons_needs found pays fits) room, fun _ => ?_⟩
          exact checkAndGrantAll_refused rest refused
    · have refused : db.checkAndGrant (orders.headD []) rewardID = none := by
        rw [checkAndGrant]
        cases found : db.rewards.lookup rewardID with
        | none => rfl
        | some reward =>
          dsimp only
          rw [if_pos]
          by_contra unredeemed
          exact pending ⟨reward, found, unredeemed⟩
      refine ⟨fun all => absurd (all rewardID mem_cons_self) pending, fun _ => ?_⟩
      exact checkAndGrantAll_refused rest refused

variable {rewardIDs : List Int}

theorem markAll_spec (db : MetaDB)
    (stored : ∀ rewardID ∈ rewardIDs, (db.rewards.lookup rewardID).isSome) :
    ∃ marked, db.markAll rewardIDs = some marked ∧ ∀ other, marked.rewards.lookup other =
        if other ∈ rewardIDs then
          (db.rewards.lookup other).map fun reward => { reward with redeemed := 1 }
        else db.rewards.lookup other := by
  induction rewardIDs generalizing db with
  | nil => exact ⟨db, rfl, fun other => by simp⟩
  | cons rewardID rest ih =>
    obtain ⟨here, later⟩ := forall_mem_cons.mp stored
    obtain ⟨reward, found⟩ := Option.isSome_iff_exists.mp here
    have marks : db.markRedeemed rewardID = some
        { db with
          rewards := AList.insert rewardID { reward with redeemed := 1 } db.rewards } := by
      rw [markRedeemed, found, Option.map_some]
    have known : ∀ other ∈ rest, (AList.lookup other
        (AList.insert rewardID { reward with redeemed := 1 } db.rewards)).isSome := by
      intro other mem
      rw [Table.lookup_insert_eq]
      split
      · rfl
      · exact later other mem
    obtain ⟨marked, all, rows⟩ := ih
      { db with rewards := AList.insert rewardID { reward with redeemed := 1 } db.rewards } known
    refine ⟨marked, by rw [markAll, marks]; exact all, ?_⟩
    intro other
    rw [rows other]
    rw [Table.lookup_insert_eq]
    by_cases same : other = rewardID
    · subst same
      simp [found]
    · simp [same]

theorem redeem_eq_batch (db : MetaDB) (order : List Int) (rewardID : Int) :
    db.redeemPlayerQuestReward order rewardID =
      db.batchRedeemPlayerQuestRewards [order] [rewardID] := by
  have alone : db.checkAndGrantAll [order] [rewardID] = db.checkAndGrant order rewardID := by
    rw [checkAndGrantAll, headD_cons, tail_cons]
    cases db.checkAndGrant order rewardID with
    | none => rfl
    | some result =>
      dsimp only
      rw [checkAndGrantAll, Option.map_some, append_nil]
  rw [redeemPlayerQuestReward, batchRedeemPlayerQuestRewards, if_neg (cons_ne_nil _ _), alone]
  cases db.checkAndGrant order rewardID with
  | none => rfl
  | some result =>
    dsimp only
    rw [markAll]
    cases result.1.markRedeemed rewardID <;> rfl

def requested (db : MetaDB) : RewardInput → List Int
  | .redeem rewardID _ _ => [rewardID]
  | .batchRedeem rewardIDs _ _ => rewardIDs
  | .grantStored playerID questID _ _ => (db.storedReward playerID questID).toList

def commitsOf : RewardInput → Bool
  | .redeem _ _ commits => commits
  | .batchRedeem _ _ commits => commits
  | .grantStored _ _ _ commits => commits

structure Accepts (db : MetaDB) (input : RewardInput) : Prop where
  commits : commitsOf input = true
  names : db.requested input ≠ []
  pending : ∀ rewardID ∈ db.requested input, db.Pending rewardID
  fits : db.Fits (db.requested input)

structure Redeems (db : MetaDB) (rewardIDs : List Int) (result : MetaDB × List RewardEvent) :
    Prop where
  events : result.2 = grantsOf db.rewards rewardIDs
  rows : ∀ other, result.1.rewards.lookup other =
    if other ∈ rewardIDs then
      (db.rewards.lookup other).map fun reward => { reward with redeemed := 1 }
    else db.rewards.lookup other

theorem batch_spec (db : MetaDB) (orders : List (List Int)) (names : rewardIDs ≠ []) :
    ((∀ rewardID ∈ rewardIDs, db.Pending rewardID) → db.Fits rewardIDs →
        ∃ result, db.batchRedeemPlayerQuestRewards orders rewardIDs = some result ∧
          Redeems db rewardIDs result) ∧
      (¬ ((∀ rewardID ∈ rewardIDs, db.Pending rewardID) ∧ db.Fits rewardIDs) →
        db.batchRedeemPlayerQuestRewards orders rewardIDs = none) := by
  obtain ⟨through, stopped⟩ := checkAndGrantAll_spec db orders rewardIDs
  constructor
  · intro pending fits
    obtain ⟨granted, all, same⟩ := through pending fits
    have stored : ∀ rewardID ∈ rewardIDs, (granted.rewards.lookup rewardID).isSome := by
      intro rewardID mem
      obtain ⟨reward, found, _⟩ := pending rewardID mem
      rw [same, found]
      rfl
    obtain ⟨marked, marks, rows⟩ := markAll_spec granted stored
    rw [same] at rows
    refine ⟨(marked, grantsOf db.rewards rewardIDs), ?_, rfl, rows⟩
    rw [batchRedeemPlayerQuestRewards, if_neg names, all]
    dsimp only
    rw [marks, Option.map_some]
  · intro refused
    rw [batchRedeemPlayerQuestRewards, if_neg names, stopped refused]

theorem commit_spec (db : MetaDB) (orders : List (List Int)) (rewardIDs : List Int)
    (commits : Bool) :
    (commits = true → rewardIDs ≠ [] → (∀ rewardID ∈ rewardIDs, db.Pending rewardID) →
        db.Fits rewardIDs → Redeems db rewardIDs
          (db.commit commits (db.batchRedeemPlayerQuestRewards orders rewardIDs))) ∧
      (¬ (commits = true ∧ rewardIDs ≠ [] ∧ (∀ rewardID ∈ rewardIDs, db.Pending rewardID) ∧
          db.Fits rewardIDs) →
        db.commit commits (db.batchRedeemPlayerQuestRewards orders rewardIDs) = (db, [])) := by
  constructor
  · intro goes names pending fits
    obtain ⟨result, batch, redeems⟩ := (batch_spec db orders names).1 pending fits
    rw [commit, if_pos goes, batch]
    exact redeems
  · intro refused
    unfold commit
    split
    · next goes =>
      have none : db.batchRedeemPlayerQuestRewards orders rewardIDs = none := by
        by_cases names : rewardIDs = []
        · rw [batchRedeemPlayerQuestRewards, if_pos names]
        · apply (batch_spec db orders names).2
          rintro ⟨pending, fits⟩
          exact refused ⟨goes, names, pending, fits⟩
      rw [none]
      rfl
    · rfl

theorem handle_spec (db : MetaDB) (input : RewardInput) :
    (db.Accepts input → Redeems db (db.requested input) (db.handle input)) ∧
      (¬ db.Accepts input → db.handle input = (db, [])) := by
  have same : ∃ orders, db.handle input = db.commit (commitsOf input)
      (db.batchRedeemPlayerQuestRewards orders (db.requested input)) := by
    cases input with
    | redeem rewardID order commits => exact ⟨[order], by rw [handle, redeem_eq_batch]; rfl⟩
    | batchRedeem rewardIDs orders commits => exact ⟨orders, rfl⟩
    | grantStored playerID questID order commits =>
      refine ⟨[order], ?_⟩
      rw [handle, requested, commitsOf]
      cases db.storedReward playerID questID with
      | none => cases commits <;> rfl
      | some rewardID =>
        dsimp only
        rw [redeem_eq_batch]
        rfl
  obtain ⟨orders, same⟩ := same
  obtain ⟨accepted, refused⟩ := commit_spec db orders (db.requested input) (commitsOf input)
  rw [same]
  constructor
  · intro accepts
    exact accepted accepts.commits accepts.names accepts.pending accepts.fits
  intro rejects
  apply refused
  rintro ⟨goes, names, pending, fits⟩
  exact rejects ⟨goes, names, pending, fits⟩

theorem noRepeatedGrant_iff (db : MetaDB) (input : RewardInput) : db.NoRepeatedGrant input ↔
      (db.Accepts input → ∀ rewardID, db.PaysItems rewardID →
        (db.requested input).count rewardID ≤ 1) := by
  cases input with
  | redeem rewardID order commits =>
    refine iff_of_true trivial ?_
    intro _ other _
    exact count_le_length
  | batchRedeem rewardIDs orders commits =>
    constructor
    · intro single accepts
      exact single accepts.commits accepts.pending accepts.fits
    intro single goes pending fits rewardID pays
    by_cases names : rewardIDs = []
    · rw [names]
      exact Nat.zero_le _
    · exact single ⟨goes, names, pending, fits⟩ rewardID pays
  | grantStored playerID questID order commits =>
    refine iff_of_true trivial ?_
    intro _ other _
    refine count_le_length.trans ?_
    rw [requested]
    cases db.storedReward playerID questID <;> simp

theorem count_grantsOf (rewardIDs : List Int) (rewardID : Int) :
    (grantsOf rewards rewardIDs).count (.granted rewardID) =
      if (rewards.lookup rewardID).any paysItems then rewardIDs.count rewardID else 0 := by
  have injective : Function.Injective RewardEvent.granted := fun _ _ same => by
    injection same
  rw [grantsOf, count_map_of_injective _ _ injective]
  split
  · next pays => exact count_filter pays
  rename_i unpaid
  apply count_eq_zero.mpr
  intro mem
  exact unpaid (mem_filter.mp mem).2

theorem any_paysItems_iff (db : MetaDB) (rewardID : Int) :
    (db.rewards.lookup rewardID).any paysItems = true ↔ db.PaysItems rewardID := by
  rw [Option.any_eq_true]
  exact Iff.rfl

theorem redeemed_step (redeemed : db.Redeemed rewardID) (input : RewardInput) :
    (db.handle input).1.Redeemed rewardID ∧ (db.handle input).2.count (.granted rewardID) = 0 := by
  obtain ⟨reward, found, marked⟩ := redeemed
  by_cases accepts : db.Accepts input
  · have redeems := (handle_spec db input).1 accepts
    have unnamed : rewardID ∉ db.requested input := by
      intro mem
      obtain ⟨other, same, unredeemed⟩ := accepts.pending rewardID mem
      rw [found] at same
      cases same
      exact unredeemed marked
    constructor
    · refine ⟨reward, ?_, marked⟩
      rw [redeems.rows, if_neg unnamed, found]
    · rw [redeems.events, count_grantsOf, count_eq_zero.mpr unnamed]
      split <;> rfl
  · rw [(handle_spec db input).2 accepts]
    exact ⟨⟨reward, found, marked⟩, rfl⟩

theorem marksGranted (db : MetaDB) (input : RewardInput) : db.MarksGranted input := by
  intro rewardID granted
  by_cases accepts : db.Accepts input
  · have redeems := (handle_spec db input).1 accepts
    rw [redeems.events] at granted
    obtain ⟨other, mem, same⟩ := mem_map.mp granted
    obtain rfl : other = rewardID := by injection same
    have named := (mem_filter.mp mem).1
    obtain ⟨reward, found, _⟩ := accepts.pending other named
    refine ⟨{ reward with redeemed := 1 }, ?_, rfl⟩
    rw [redeems.rows, if_pos named, found]
    rfl
  · rw [(handle_spec db input).2 accepts] at granted
    cases granted

theorem granted_redeemed (db : MetaDB) (inputs : List RewardInput)
    (granted : .granted rewardID ∈ machine.outputs db inputs) :
    (machine.final db inputs).Redeemed rewardID := by
  induction inputs using reverseRecOn with
  | nil => cases granted
  | append_singleton inputs input ih =>
    rw [Machine.outputs_concat, mem_append] at granted
    rw [Machine.final_concat]
    rcases granted with before | now
    · exact (redeemed_step (ih before) input).1
    · exact marksGranted _ input rewardID now

theorem once_concat_iff (db : MetaDB) (inputs : List RewardInput) (input : RewardInput) :
    (∀ rewardID, (machine.outputs db (inputs ++ [input])).count (.granted rewardID) ≤ 1) ↔
      (∀ rewardID, (machine.outputs db inputs).count (.granted rewardID) ≤ 1) ∧
        (machine.final db inputs).NoRepeatedGrant input := by
  simp only [Machine.outputs_concat, count_append]
  rw [noRepeatedGrant_iff]
  constructor
  · intro once
    refine ⟨fun rewardID => (Nat.le_add_right _ _).trans (once rewardID), ?_⟩
    intro accepts rewardID pays
    have step := (Nat.le_add_left _ _).trans (once rewardID)
    change ((machine.final db inputs).handle input).2.count _ ≤ 1 at step
    rwa [((handle_spec _ input).1 accepts).events, count_grantsOf,
      if_pos ((any_paysItems_iff _ _).mpr pays)] at step
  · rintro ⟨before, single⟩ rewardID
    change _ + ((machine.final db inputs).handle input).2.count _ ≤ 1
    by_cases granted : .granted rewardID ∈ machine.outputs db inputs
    · rw [(redeemed_step (granted_redeemed db inputs granted) input).2]
      exact before rewardID
    rw [count_eq_zero.mpr granted, Nat.zero_add]
    by_cases accepts : (machine.final db inputs).Accepts input
    · rw [((handle_spec _ input).1 accepts).events, count_grantsOf]
      split
      · next pays => exact single accepts rewardID ((any_paysItems_iff _ _).mp pays)
      · exact Nat.zero_le _
    · rw [(handle_spec _ input).2 accepts]
      exact Nat.zero_le _

theorem redeemedOnce_iff_noRepeatedGrant (db : MetaDB) (inputs : List RewardInput) :
    RedeemedOnce db inputs ↔ machine.Along NoRepeatedGrant db inputs := by
  have marked : machine.Along MarksGranted db inputs :=
    Machine.Along.mono machine (fun _ input _ => marksGranted _ input)
      (machine.along_true db inputs)
  have once : (∀ rewardID, (machine.outputs db inputs).count (.granted rewardID) ≤ 1) ↔
      machine.Along NoRepeatedGrant db inputs := by
    clear marked
    induction inputs using reverseRecOn with
    | nil => exact iff_of_true (fun _ => Nat.zero_le _) trivial
    | append_singleton inputs input ih =>
      rw [once_concat_iff, ih, machine.along_concat]
  rw [← once]
  exact ⟨RedeemedOnce.once, fun single => ⟨single, marked⟩⟩

def oneReward : MetaDB where
  inventory := fun _ => ∅
  rewards := AList.insert 7 ⟨1, 3, RewardTypeItem, 5, 10, 0⟩ ∅

theorem repeated_batch_grants_twice : ¬ RedeemedOnce oneReward [.batchRedeem [7, 7] [] true] ∧
      (((oneReward.handle (.batchRedeem [7, 7] [] true)).1.inventory 1).lookup 0).map (·.count) =
        some 20 := by
  constructor
  · intro redeemed
    have once := redeemed.once 7
    revert once
    decide +kernel
  · decide +kernel

end MetaDB

end GtnhPlatform.MetaDb
