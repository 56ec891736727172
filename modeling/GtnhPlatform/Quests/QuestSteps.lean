import GtnhPlatform.Quests.QuestManager

namespace GtnhPlatform.Quests

open List Tallied Table

namespace PlayerQuests

def Completed (player : PlayerQuests) (questId : Nat) : Prop :=
  player.progress.lookup questId = some .completed

instance (player : PlayerQuests) (questId : Nat) : Decidable (player.Completed questId) :=
  inferInstanceAs (Decidable (_ = _))

def completions (questId : Nat) (player : PlayerQuests) : Nat :=
  if player.Completed questId then 1 else 0

def announces (questId : Nat) : QuestMessage → Bool
  | .completed completed => completed = questId
  | _ => false

variable {data : QuestData} {player : PlayerQuests}

theorem completions_congr {before after : PlayerQuests} {questId : Nat}
    (same : after.Completed questId ↔ before.Completed questId) :
    completions questId after = completions questId before := by
  unfold completions
  exact if_congr same rfl rfl

theorem lookup_foldl_insert (status : QuestStatus) (questIds : List Nat) (progress : Progress)
    (questId : Nat) :
    (questIds.foldl (fun progress questId => AList.insert questId status progress)
        progress).lookup questId =
      if questId ∈ questIds then some status else progress.lookup questId := by
  induction questIds generalizing progress with
  | nil => rfl
  | cons first rest ih =>
    rw [foldl_cons, ih, lookup_insert_eq]
    by_cases later : questId ∈ rest
    · rw [if_pos later, if_pos (mem_cons_of_mem _ later)]
    · simp [later]

variable (questId : Nat)

theorem lookup_unlockNewlyAvailable : (player.unlockNewlyAvailable data).1.progress.lookup questId =
      if player.progress.lookup questId = some .locked ∧
          data.canComplete questId player.progress = true then some .available
      else player.progress.lookup questId := by
  rw [unlockNewlyAvailable, ← if_congr (data.mem_newlyAvailable_iff questId player.progress) rfl rfl]
  by_cases none : data.newlyAvailable player.progress = []
  · rw [if_pos none, none]
    rfl
  · rw [if_neg none]
    exact lookup_foldl_insert .available _ _ questId

theorem completed_unlockNewlyAvailable :
    (player.unlockNewlyAvailable data).1.Completed questId ↔ player.Completed questId := by
  unfold Completed
  rw [lookup_unlockNewlyAvailable]
  split
  · next locked =>
    rw [locked.1]
    simp
  · exact Iff.rfl

@[simp] theorem completedEras_unlockNewlyAvailable :
    (player.unlockNewlyAvailable data).1.completedEras = player.completedEras := by
  rw [unlockNewlyAvailable]
  split <;> rfl

variable {message : QuestMessage}

theorem unlockNewlyAvailable_messages (mem : message ∈ (player.unlockNewlyAvailable data).2) :
    (∃ questId, message = .progressUpdated questId .available 0) ∨
      ∃ questIds, message = .unlocked questIds := by
  rw [unlockNewlyAvailable] at mem
  split at mem
  · exact absurd mem not_mem_nil
  rcases mem_append.mp mem with updated | unlocked
  · obtain ⟨questId, _, rfl⟩ := mem_map.mp updated
    exact Or.inl ⟨questId, rfl⟩
  · exact Or.inr ⟨_, mem_singleton.mp unlocked⟩

@[simp] theorem progress_maybePublishEraTransition :
    (player.maybePublishEraTransition data questId).1.progress = player.progress := by
  unfold maybePublishEraTransition
  cases data.getQuest questId with
  | none => rfl
  | some quest =>
    dsimp only
    split
    · rfl
    · split <;> rfl

theorem maybePublishEraTransition_messages {questId : Nat}
    (mem : message ∈ (player.maybePublishEraTransition data questId).2) :
    ∃ completed next, message = .eraTransition completed next := by
  unfold maybePublishEraTransition at mem
  cases found : data.getQuest questId with
  | none =>
    rw [found] at mem
    exact absurd mem not_mem_nil
  | some quest =>
    rw [found] at mem
    dsimp only at mem
    split at mem
    · exact absurd mem not_mem_nil
    · split at mem
      · exact ⟨_, _, mem_singleton.mp mem⟩
      · exact absurd mem not_mem_nil

def withCompleted (player : PlayerQuests) (questId : Nat) : PlayerQuests :=
  { player with
    progress := AList.insert questId .completed (player.progress.emplace questId .locked) }

theorem lookup_withCompleted (questId other : Nat) :
    (player.withCompleted questId).progress.lookup other =
      if other = questId then some .completed else player.progress.lookup other := by
  unfold withCompleted
  rw [lookup_insert_eq]
  by_cases same : other = questId
  · rw [if_pos same, if_pos same]
  rw [if_neg same, if_neg same]
  cases present : player.progress.lookup questId with
  | none => rw [lookup_emplace_of_none _ present, if_neg same]
  | some status => rw [emplace_of_some _ present]

theorem completed_withCompleted (questId other : Nat) :
    (player.withCompleted questId).Completed other ↔ other = questId ∨ player.Completed other := by
  unfold Completed
  rw [lookup_withCompleted]
  by_cases same : other = questId <;> simp [same]

theorem completeQuestInternal_of_completed {questId : Nat} (done : player.Completed questId) :
    player.completeQuestInternal data questId = (player, []) := by
  have stored : player.progress.lookup questId = some .completed := done
  unfold completeQuestInternal
  rw [emplace_of_some _ stored, if_pos stored]

theorem completeQuestInternal_eq {questId : Nat} (todo : ¬ player.Completed questId) :
    player.completeQuestInternal data questId =
      let transition := (player.withCompleted questId).maybePublishEraTransition data questId
      let unlock := transition.1.unlockNewlyAvailable data
      (unlock.1, [.completed questId, .progressUpdated questId .completed 100] ++
          transition.2 ++ unlock.2) := by
  have pending :
      (player.progress.emplace questId .locked).lookup questId ≠ some .completed := by
    cases present : player.progress.lookup questId with
    | none =>
      rw [lookup_emplace_of_none _ present, if_pos rfl]
      simp
    | some status =>
      rw [emplace_of_some _ present]
      exact todo
  unfold completeQuestInternal
  rw [if_neg pending]
  rfl

theorem completed_completeQuestInternal (questId other : Nat) :
    (player.completeQuestInternal data questId).1.Completed other ↔
      other = questId ∨ player.Completed other := by
  by_cases done : player.Completed questId
  · rw [completeQuestInternal_of_completed done]
    constructor
    · exact Or.inr
    · rintro (rfl | before)
      · exact done
      · exact before
  · rw [completeQuestInternal_eq done]
    rw [completed_unlockNewlyAvailable]
    unfold Completed
    rw [progress_maybePublishEraTransition]
    exact completed_withCompleted questId other

theorem tallied_completeQuestInternal (questId other : Nat) :
    Tallied (announces other) (completions other) player
      (player.completeQuestInternal data questId) := by
  by_cases done : player.Completed questId
  · rw [completeQuestInternal_of_completed done]
    exact quiet nofun rfl
  have after : (player.completeQuestInternal data questId).1.Completed other ↔ _ :=
    completed_completeQuestInternal questId other
  have silent :
      ((player.completeQuestInternal data questId).2.tail).countP (announces other) = 0 := by
    rw [completeQuestInternal_eq done]
    apply countP_eq_zero.mpr
    intro message mem
    simp only [cons_append, nil_append, tail_cons, mem_cons, mem_append] at mem
    rcases mem with rfl | transition | unlock
    · exact Bool.false_ne_true
    · obtain ⟨_, _, rfl⟩ := maybePublishEraTransition_messages transition
      exact Bool.false_ne_true
    · rcases unlockNewlyAvailable_messages unlock with ⟨_, rfl⟩ | ⟨_, rfl⟩
      · exact Bool.false_ne_true
      · exact Bool.false_ne_true
  have messages : (player.completeQuestInternal data questId).2 =
      .completed questId :: (player.completeQuestInternal data questId).2.tail := by
    rw [completeQuestInternal_eq done]
    rfl
  unfold Tallied completions
  rw [messages, countP_cons, silent]
  by_cases same : other = questId
  · subst same
    simp [announces, done, after]
  · simp [announces, same, Ne.symm same, after]

structure CountsCompletions (data : QuestData) (counted : QuestMessage → Bool)
    (measure : PlayerQuests → Nat) : Prop where
  offered : ∀ questId, counted (.progressUpdated questId .available 0) = false
  unlocked : ∀ questIds, counted (.unlocked questIds) = false
  unchanged : ∀ {before after : PlayerQuests},
    (∀ questId, after.Completed questId ↔ before.Completed questId) →
      after.completedEras = before.completedEras → measure after = measure before
  complete : ∀ player questId,
    Tallied counted measure player (completeQuestInternal data player questId)

variable (data) in
theorem countsCompletions_announces :
    CountsCompletions data (announces questId) (completions questId) where
  offered _ := rfl
  unlocked _ := rfl
  unchanged same _ := completions_congr (same questId)
  complete _ completed := tallied_completeQuestInternal completed questId

section Counted

variable {counted : QuestMessage → Bool} {measure : PlayerQuests → Nat}
    (counts : CountsCompletions data counted measure) {quest : QuestDef}

theorem lookup_handleQuestMet_of_manual (manual : quest.autoComplete = false) (questId : Nat) :
    (player.handleQuestMet data quest).1.progress.lookup questId =
      if questId = quest.id ∧ (player.progress.lookup quest.id = none ∨
          player.progress.lookup quest.id = some .locked) then some .available
      else player.progress.lookup questId := by
  unfold handleQuestMet
  rw [if_neg (by simp [manual])]
  split
  · next missing => simp [missing, lookup_insert_eq]
  · next locked => simp [locked, lookup_insert_eq]
  rename_i missing locked
  rw [if_neg]
  rintro ⟨-, absent | seeded⟩
  · exact missing absent
  · exact locked seeded

theorem completed_handleQuestMet (quest : QuestDef) (questId : Nat) :
    (player.handleQuestMet data quest).1.Completed questId ↔
      (quest.autoComplete = true ∧ questId = quest.id) ∨ player.Completed questId := by
  cases automatic : quest.autoComplete with
  | true =>
    unfold handleQuestMet
    rw [if_pos automatic, completed_completeQuestInternal]
    simp
  | false =>
    unfold Completed
    rw [lookup_handleQuestMet_of_manual automatic]
    split
    · next offered =>
      obtain ⟨rfl, absent | locked⟩ := offered
      · simp [absent]
      · simp [locked]
    · simp

variable {message : QuestMessage}

theorem handleQuestMet_messages_of_manual (manual : quest.autoComplete = false)
    (mem : message ∈ (player.handleQuestMet data quest).2) :
    message = .progressUpdated quest.id .available 0 := by
  unfold handleQuestMet at mem
  rw [if_neg (by simp [manual])] at mem
  split at mem
  · exact mem_singleton.mp mem
  · exact mem_singleton.mp mem
  · exact absurd mem not_mem_nil

theorem completedEras_handleQuestMet_of_manual (manual : quest.autoComplete = false) :
    (player.handleQuestMet data quest).1.completedEras = player.completedEras := by
  unfold handleQuestMet
  rw [if_neg (by simp [manual])]
  split <;> rfl

include counts

theorem tallied_handleQuestMet (quest : QuestDef) :
    Tallied counted measure player (player.handleQuestMet data quest) := by
  cases automatic : quest.autoComplete with
  | true =>
    unfold handleQuestMet
    rw [if_pos automatic]
    exact counts.complete player quest.id
  | false =>
    refine quiet ?silent (counts.unchanged ?same ?eras)
    case silent =>
      intro message mem
      rw [handleQuestMet_messages_of_manual automatic mem]
      exact counts.offered quest.id
    case same =>
      intro questId
      rw [completed_handleQuestMet, automatic]
      simp
    case eras => exact completedEras_handleQuestMet_of_manual automatic

theorem tallied_detect (met : QuestDef → Bool) :
    Tallied counted measure player (player.detect data met) := by
  apply run (detection data met)
  rw [Machine.along_iff]
  intro before quest after _
  show Tallied _ _ _ (detectQuest data met _ quest)
  unfold detectQuest
  split
  · exact tallied_handleQuestMet counts quest
  · exact quiet nofun rfl

theorem tallied_completeQuest (questId : Nat) :
    Tallied counted measure player (player.completeQuest data questId) := by
  unfold completeQuest
  split
  · exact quiet nofun rfl
  split
  · exact quiet nofun rfl
  · split
    · exact quiet nofun rfl
    · exact counts.complete player questId

omit counts

variable (data) in
theorem lookup_seedQuest (seeded : Progress × List Nat) (quest : QuestDef) (questId : Nat) :
    (seedQuest data seeded quest).1.lookup questId = seeded.1.lookup questId ∨
      questId = quest.id ∧ seeded.1.lookup questId = none ∧
        ((seedQuest data seeded quest).1.lookup questId = some .available ∨
          (seedQuest data seeded quest).1.lookup questId = some .locked) := by
  unfold seedQuest
  split
  · exact Or.inl rfl
  rename_i absent
  have missing : seeded.1.lookup quest.id = none := by simpa using absent
  split
  · rw [lookup_insert_eq]
    by_cases same : questId = quest.id
    · subst same
      simp [missing]
    · simp [same]
  · rw [lookup_insert_eq]
    by_cases same : questId = quest.id
    · subst same
      simp [missing]
    · simp [same]

variable (data) in
theorem lookup_seed (quests : List QuestDef) (seeded : Progress × List Nat) (questId : Nat) :
    (quests.foldl (seedQuest data) seeded).1.lookup questId = seeded.1.lookup questId ∨
      (∃ quest ∈ quests, quest.id = questId) ∧ seeded.1.lookup questId = none ∧
        ((quests.foldl (seedQuest data) seeded).1.lookup questId = some .available ∨
          (quests.foldl (seedQuest data) seeded).1.lookup questId = some .locked) := by
  induction quests generalizing seeded with
  | nil => exact Or.inl rfl
  | cons first rest ih =>
    rw [foldl_cons]
    have later := ih (seedQuest data seeded first)
    rcases lookup_seedQuest data seeded first questId with kept | ⟨same, absent, now⟩
    · rw [kept] at later
      rcases later with unchanged | ⟨⟨quest, mem, same⟩, absent, now⟩
      · exact Or.inl unchanged
      · exact Or.inr ⟨⟨quest, mem_cons_of_mem _ mem, same⟩, absent, now⟩
    · have listed : ∃ quest ∈ first :: rest, quest.id = questId := ⟨first, mem_cons_self, same.symm⟩
      rcases later with unchanged | ⟨_, impossible, _⟩
      · rw [unchanged]
        exact Or.inr ⟨listed, absent, now⟩
      rcases now with available | locked
      · rw [available] at impossible
        exact absurd impossible (by simp)
      · rw [locked] at impossible
        exact absurd impossible (by simp)

theorem completed_onPlayerJoined (questId : Nat) :
    (player.onPlayerJoined data).1.Completed questId ↔ player.Completed questId := by
  unfold onPlayerJoined
  rw [completed_unlockNewlyAvailable]
  unfold Completed
  rcases lookup_seed data data.quests (player.progress, []) questId
    with kept | ⟨_, absent, available | locked⟩
  · rw [kept]
  · rw [available, show player.progress.lookup questId = none from absent]
    simp
  · rw [locked, show player.progress.lookup questId = none from absent]
    simp

theorem onPlayerJoined_messages (mem : message ∈ (player.onPlayerJoined data).2) :
    (∃ questId, message = .progressUpdated questId .available 0) ∨
      ∃ questIds, message = .unlocked questIds := by
  unfold onPlayerJoined at mem
  rcases mem_append.mp mem with seeded | unlock
  · split at seeded
    · exact absurd seeded not_mem_nil
    · exact Or.inr ⟨_, mem_singleton.mp seeded⟩
  · exact unlockNewlyAvailable_messages unlock

theorem tallied_onPlayerJoined (counts : CountsCompletions data counted measure) :
    Tallied counted measure player (player.onPlayerJoined data) := by
  refine quiet ?silent (counts.unchanged completed_onPlayerJoined ?eras)
  case silent =>
    intro message mem
    rcases onPlayerJoined_messages mem with ⟨questId, rfl⟩ | ⟨questIds, rfl⟩
    · exact counts.offered questId
    · exact counts.unlocked questIds
  case eras =>
    unfold onPlayerJoined
    exact completedEras_unlockNewlyAvailable

theorem targets_counts (counts : detectType ≠ .exchange) (target : String)
    (met : targets detectType target quest = true) : quest.detectType ≠ .exchange := by
  have sameType : quest.detectType = detectType := by
    simp only [targets, Bool.and_eq_true, decide_eq_true_eq] at met
    exact met.1
  rw [sameType]
  exact counts

theorem handle_cases (idToHierarchical : Nat → String) (event : QuestEvent) :
    player.handle data idToHierarchical event = player.onPlayerJoined data ∨
      (∃ questId, player.handle data idToHierarchical event = player.completeQuest data questId) ∨
      (∃ met : QuestDef → Bool, (∀ quest, met quest = true → quest.detectType ≠ .exchange) ∧
        player.handle data idToHierarchical event = player.detect data met) ∨
      player.handle data idToHierarchical event = (player, []) := by
  cases event with
  | playerJoined => exact Or.inl rfl
  | complete completed => exact Or.inr (Or.inl ⟨completed, rfl⟩)
  | crafted itemId count =>
    by_cases none : count < 1
    · exact Or.inr (Or.inr (Or.inr (if_pos none)))
    · refine Or.inr (Or.inr (Or.inl ⟨targets .craft (idToHierarchical itemId), ?_, ?_⟩))
      · exact fun _ => targets_counts (by decide) _
      · exact if_neg none
  | blockAction blockId =>
    refine Or.inr (Or.inr (Or.inl ⟨targets .blockPlaced (idToHierarchical blockId), ?_, rfl⟩))
    exact fun _ => targets_counts (by decide) _
  | toolCharged itemId =>
    refine Or.inr (Or.inr (Or.inl ⟨targets .toolCharged (idToHierarchical itemId), ?_, rfl⟩))
    exact fun _ => targets_counts (by decide) _
  | sideConfigured machineId =>
    by_cases hatch : machineId = 0
    · exact Or.inr (Or.inr (Or.inr (if_pos hatch)))
    · refine Or.inr (Or.inr (Or.inl ⟨targets .sideConfigured (idToHierarchical machineId), ?_, ?_⟩))
      · exact fun _ => targets_counts (by decide) _
      · exact if_neg hatch
  | machineOutput machineId itemId count =>
    by_cases none : count < 1
    · exact Or.inr (Or.inr (Or.inr (if_pos none)))
    refine Or.inr (Or.inr (Or.inl
      ⟨producedBy (idToHierarchical machineId) (idToHierarchical itemId), ?_, ?_⟩))
    · intro quest met
      have made := (Bool.and_eq_true_iff.mp met).1
      exact targets_counts (by decide) _ made
    · exact if_neg none
  | inventory slots =>
    refine Or.inr (Or.inr (Or.inl ⟨_, ?_, rfl⟩))
    intro quest met repeatable
    simp [holdsEnough, repeatable] at met

theorem tallied_handle (counts : CountsCompletions data counted measure)
    (idToHierarchical : Nat → String) (event : QuestEvent) :
    Tallied counted measure player (player.handle data idToHierarchical event) := by
  rcases handle_cases idToHierarchical event
    with joined | ⟨completed, complete⟩ | ⟨met, _, detected⟩ | idle
  · rw [joined]
    exact tallied_onPlayerJoined counts
  · rw [complete]
    exact tallied_completeQuest counts completed
  · rw [detected]
    exact tallied_detect counts met
  · rw [idle]
    exact quiet nofun rfl

end Counted

end PlayerQuests

end GtnhPlatform.Quests
