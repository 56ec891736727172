import GtnhPlatform.Quests.QuestSteps

namespace GtnhPlatform.Quests

namespace PlayerQuests

variable (data : QuestData)

def EraDone (era : Era) (player : PlayerQuests) : Prop :=
  ∀ quest ∈ data.quests, quest.era = era → quest.detectType ≠ .exchange → player.Completed quest.id

instance (era : Era) (player : PlayerQuests) : Decidable (EraDone data era player) :=
  inferInstanceAs (Decidable (∀ _ ∈ _, _))

def EraHasQuests (era : Era) : Prop :=
  ∃ quest ∈ data.quests, quest.era = era ∧ quest.detectType ≠ .exchange

instance (era : Era) : Decidable (EraHasQuests data era) := inferInstanceAs (Decidable (∃ _ ∈ _, _))

def PrerequisitesClosed (player : PlayerQuests) : Prop := ∀ questId, player.Completed questId →
    ∀ prereq ∈ data.getPrerequisites questId, player.Completed prereq

def NoneStuck (player : PlayerQuests) : Prop :=
  ∀ questId, player.progress.lookup questId = some .locked →
    ¬ ∀ prereq ∈ data.getPrerequisites questId, player.Completed prereq

structure GraphInvariant (player : PlayerQuests) : Prop where
  defined : ∀ questId, player.progress.lookup questId ≠ none →
    ∃ quest ∈ data.quests, quest.id = questId
  counts : ∀ quest ∈ data.quests, player.Completed quest.id → quest.detectType ≠ .exchange
  closed : PrerequisitesClosed data player
  settled : NoneStuck data player
  latched : ∀ era, era ∈ player.completedEras ↔ EraDone data era player ∧ EraHasQuests data era

def transitions (era : Era) : QuestMessage → Bool
  | .eraTransition completed _ => completed = era
  | _ => false

def latches (era : Era) (player : PlayerQuests) : Nat :=
  if era ∈ player.completedEras then 1 else 0

variable {data} {player : PlayerQuests}

theorem canComplete_iff_completed (questId : Nat) :
    data.canComplete questId player.progress = true ↔
      ∀ prereq ∈ data.getPrerequisites questId, player.Completed prereq :=
  data.canComplete_iff questId player.progress

theorem tallied_maybePublishEraTransition (questId : Nat) (era : Era) :
    Tallied (transitions era) (latches era) player
      (player.maybePublishEraTransition data questId) := by
  unfold maybePublishEraTransition
  cases data.getQuest questId with
  | none => exact Tallied.quiet nofun rfl
  | some quest =>
    dsimp only
    split
    · exact Tallied.quiet nofun rfl
    rename_i fresh
    split
    · unfold Tallied latches
      by_cases same : quest.era = era
      · subst same
        simp [transitions, fresh]
      · simp [transitions, same, Ne.symm same]
    · exact Tallied.quiet nofun rfl

theorem countsCompletions_transitions (era : Era) :
    CountsCompletions data (transitions era) (latches era) where
  offered _ := rfl
  unlocked _ := rfl
  unchanged _ eras := by
    unfold latches
    rw [eras]
  complete player questId := by
    by_cases done : player.Completed questId
    · rw [completeQuestInternal_of_completed done]
      exact Tallied.quiet nofun rfl
    rw [completeQuestInternal_eq done]
    have opened : Tallied (transitions era) (latches era) player
        (player.withCompleted questId,
          [.completed questId, .progressUpdated questId .completed 100]) := by
      refine Tallied.quiet ?_ rfl
      intro message mem
      rcases List.mem_cons.mp mem with rfl | later
      · rfl
      · rw [List.mem_singleton.mp later]
        rfl
    have published : Tallied (transitions era) (latches era) (player.withCompleted questId)
        ((player.withCompleted questId).maybePublishEraTransition data questId) :=
      tallied_maybePublishEraTransition questId era
    refine (opened.append published).append (Tallied.quiet ?_ ?_)
    · intro message mem
      rcases unlockNewlyAvailable_messages mem with ⟨_, rfl⟩ | ⟨_, rfl⟩ <;> rfl
    show latches era (PlayerQuests.unlockNewlyAvailable data _).1 = latches era _
    unfold latches
    rw [completedEras_unlockNewlyAvailable]
    rfl

theorem noneStuck_unlockNewlyAvailable : NoneStuck data (player.unlockNewlyAvailable data).1 := by
  intro questId locked ready
  have readyBefore : data.canComplete questId player.progress = true :=
    (canComplete_iff_completed questId).mpr fun prereq mem =>
      (completed_unlockNewlyAvailable prereq).mp (ready prereq mem)
  rw [lookup_unlockNewlyAvailable] at locked
  split at locked
  · exact absurd locked (by simp)
  · next stuck => exact stuck ⟨locked, readyBefore⟩

variable {before after : PlayerQuests}

theorem GraphInvariant.carry (invariant : GraphInvariant data before)
    (same : ∀ questId, after.Completed questId ↔ before.Completed questId)
    (eras : after.completedEras = before.completedEras)
    (defined : ∀ questId, after.progress.lookup questId ≠ none →
      ∃ quest ∈ data.quests, quest.id = questId)
    (settled : NoneStuck data after) : GraphInvariant data after where
  defined := defined
  counts quest mem done := invariant.counts quest mem ((same quest.id).mp done)
  closed questId done prereq mem :=
    (same prereq).mpr (invariant.closed questId ((same questId).mp done) prereq mem)
  settled := settled
  latched era := by
    have eraSame : EraDone data era after ↔ EraDone data era before := by
      unfold EraDone
      simp only [same]
    rw [eras, eraSame]
    exact invariant.latched era

variable {quest : QuestDef}

theorem eras_maybePublishEraTransition (mem : quest ∈ data.quests) (era : Era) :
    era ∈ (player.maybePublishEraTransition data quest.id).1.completedEras ↔
      era ∈ player.completedEras ∨ era = quest.era ∧ EraDone data quest.era player := by
  have complete : data.isEraComplete quest.era player.progress = true ↔
      EraDone data quest.era player := data.isEraComplete_iff quest.era player.progress
  unfold maybePublishEraTransition
  rw [data.getQuest_of_mem mem]
  dsimp only
  split
  · next latched =>
    constructor
    · exact Or.inl
    · rintro (before | ⟨rfl, -⟩)
      · exact before
      · exact latched
  · split
    · next done =>
      have eraDone := complete.mp done
      simp [eraDone, or_comm]
    · next pending =>
      have eraPending : ¬ EraDone data quest.era player := fun done => pending (complete.mpr done)
      simp [eraPending]

theorem eq_of_id_eq {quest other : QuestDef} (mem : quest ∈ data.quests)
    (otherMember : other ∈ data.quests) (same : other.id = quest.id) : other = quest := by
  have found := data.getQuest_of_mem otherMember
  rw [same, data.getQuest_of_mem mem] at found
  exact (Option.some.inj found).symm

theorem eraDone_of_other_era (mem : quest ∈ data.quests)
    (completed : ∀ questId, after.Completed questId ↔
      questId = quest.id ∨ before.Completed questId) (differs : era ≠ quest.era) :
    EraDone data era after ↔ EraDone data era before := by
  refine forall₂_congr fun other otherMember => forall₂_congr fun sameEra _ => ?_
  rw [completed]
  constructor
  · rintro (sameId | done)
    · rw [eq_of_id_eq mem otherMember sameId] at sameEra
      exact absurd sameEra.symm differs
    · exact done
  · exact Or.inr

variable (invariant : GraphInvariant data player)

include invariant

theorem GraphInvariant.completeQuestInternal (mem : quest ∈ data.quests) (counts : quest.detectType ≠ .exchange)
    (ready : ∀ prereq ∈ data.getPrerequisites quest.id, player.Completed prereq) :
    GraphInvariant data (player.completeQuestInternal data quest.id).1 := by
  by_cases done : player.Completed quest.id
  · rw [completeQuestInternal_of_completed done]
    exact invariant
  have completed : ∀ questId, (player.completeQuestInternal data quest.id).1.Completed questId ↔
      questId = quest.id ∨ player.Completed questId := completed_completeQuestInternal quest.id
  rw [completeQuestInternal_eq done] at completed ⊢
  refine ⟨?defined, ?counts, ?closed, noneStuck_unlockNewlyAvailable, ?latched⟩
  case defined =>
    intro questId present
    by_cases same : questId = quest.id
    · exact ⟨quest, mem, same.symm⟩
    refine invariant.defined questId fun absent => present ?_
    rw [lookup_unlockNewlyAvailable, progress_maybePublishEraTransition,
      lookup_withCompleted, if_neg same, absent]
    simp
  case counts =>
    intro other otherMember otherDone
    rcases (completed other.id).mp otherDone with same | before
    · rw [eq_of_id_eq mem otherMember same]
      exact counts
    · exact invariant.counts other otherMember before
  case closed =>
    intro questId questDone prereq listed
    apply (completed prereq).mpr
    rcases (completed questId).mp questDone with rfl | before
    · exact Or.inr (ready prereq listed)
    · exact Or.inr (invariant.closed questId before prereq listed)
  case latched =>
    intro era
    have marked : ∀ questId, (player.withCompleted quest.id).Completed questId ↔
        questId = quest.id ∨ player.Completed questId := completed_withCompleted quest.id
    have sameDone : EraDone data era (player.withCompleted quest.id) ↔
        EraDone data era (((player.withCompleted quest.id).maybePublishEraTransition data
          quest.id).1.unlockNewlyAvailable data).1 := by
      unfold EraDone
      simp only [completed, marked]
    rw [completedEras_unlockNewlyAvailable, eras_maybePublishEraTransition mem, ← sameDone]
    show era ∈ player.completedEras ∨ _ ↔ _
    rw [invariant.latched era]
    by_cases differs : era = quest.era
    · subst differs
      have pending : ¬ EraDone data quest.era player := fun eraDone =>
        done (eraDone quest mem rfl counts)
      have has : EraHasQuests data quest.era := ⟨quest, mem, rfl, counts⟩
      simp [pending, has]
    · rw [eraDone_of_other_era mem marked differs]
      simp [differs]

theorem GraphInvariant.handleQuestMet (mem : quest ∈ data.quests) (counts : quest.detectType ≠ .exchange)
    (ready : ∀ prereq ∈ data.getPrerequisites quest.id, player.Completed prereq) :
    GraphInvariant data (player.handleQuestMet data quest).1 := by
  cases automatic : quest.autoComplete with
  | true =>
    unfold PlayerQuests.handleQuestMet
    rw [if_pos automatic]
    exact invariant.completeQuestInternal mem counts ready
  | false =>
    have same : ∀ questId, (player.handleQuestMet data quest).1.Completed questId ↔
        player.Completed questId := by
      intro questId
      rw [completed_handleQuestMet, automatic]
      simp
    refine invariant.carry same (completedEras_handleQuestMet_of_manual automatic) ?defined ?settled
    case defined =>
      intro questId present
      by_cases own : questId = quest.id
      · exact ⟨quest, mem, own.symm⟩
      · rw [lookup_handleQuestMet_of_manual automatic, if_neg (fun offered => own offered.1)]
          at present
        exact invariant.defined questId present
    case settled =>
      intro questId locked ready
      rw [lookup_handleQuestMet_of_manual automatic] at locked
      split at locked
      · exact absurd locked (by simp)
      · exact invariant.settled questId locked fun prereq listed =>
          (same prereq).mp (ready prereq listed)

theorem GraphInvariant.detect {met : QuestDef → Bool} (counts : ∀ quest, met quest = true → quest.detectType ≠ .exchange) :
    GraphInvariant data (player.detect data met).1 := by
  refine (detection data met).invariant (fun _ quest => quest ∈ data.quests)
    (fun _ player _ => GraphInvariant data player) invariant ?keeps data.quests ?listed
  case keeps =>
    intro _ current _ quest invariant mem
    show GraphInvariant data (detectQuest data met current quest).1
    unfold detectQuest
    split
    · next found =>
      obtain ⟨isMet, ready⟩ := Bool.and_eq_true_iff.mp found
      exact invariant.handleQuestMet mem (counts quest isMet)
        ((canComplete_iff_completed quest.id).mp ready)
    · exact invariant
  case listed =>
    rw [Machine.along_iff]
    intro before quest after split
    rw [split]
    exact List.mem_append_right _ List.mem_cons_self

theorem GraphInvariant.completeQuest (questId : Nat) :
    GraphInvariant data (player.completeQuest data questId).1 := by
  unfold PlayerQuests.completeQuest
  split
  · exact invariant
  rename_i regular
  split
  · exact invariant
  rename_i present
  split
  · exact invariant
  rename_i completable
  have available : player.progress.lookup questId = some .available := by
    simpa using present
  have known : player.progress.lookup questId ≠ none := by
    rw [available]
    simp
  obtain ⟨quest, mem, rfl⟩ := invariant.defined questId known
  rw [data.getQuest_of_mem mem] at regular
  refine invariant.completeQuestInternal mem (by simpa using regular) ?_
  apply (canComplete_iff_completed quest.id).mp
  simpa using completable

theorem GraphInvariant.onPlayerJoined : GraphInvariant data (player.onPlayerJoined data).1 := by
  refine invariant.carry completed_onPlayerJoined ?eras ?defined ?settled
  case eras =>
    unfold PlayerQuests.onPlayerJoined
    exact completedEras_unlockNewlyAvailable
  case defined =>
    intro questId present
    unfold PlayerQuests.onPlayerJoined at present
    rw [lookup_unlockNewlyAvailable] at present
    rcases lookup_seed data data.quests (player.progress, []) questId with kept | ⟨listed, -, -⟩
    · apply invariant.defined questId
      intro absent
      rw [kept, absent] at present
      simp at present
    · exact listed
  case settled =>
    unfold PlayerQuests.onPlayerJoined
    exact noneStuck_unlockNewlyAvailable

theorem GraphInvariant.handle (idToHierarchical : Nat → String) (event : QuestEvent) :
    GraphInvariant data (player.handle data idToHierarchical event).1 := by
  rcases handle_cases idToHierarchical event
    with joined | ⟨completed, complete⟩ | ⟨met, counts, detected⟩ | idle
  · rw [joined]
    exact invariant.onPlayerJoined
  · rw [complete]
    exact invariant.completeQuest completed
  · rw [detected]
    exact invariant.detect counts
  · rw [idle]
    exact invariant

omit invariant

theorem GraphInvariant.fresh : GraphInvariant data {} where
  defined questId present := absurd (AList.lookup_empty questId) present
  counts quest _ done := by
    unfold Completed at done
    simp at done
  closed questId done := by
    unfold Completed at done
    simp at done
  settled questId locked := by simp at locked
  latched era := by
    constructor
    · exact nofun
    rintro ⟨done, quest, mem, sameEra, counts⟩
    have impossible := done quest mem sameEra counts
    unfold Completed at impossible
    simp at impossible

section Runs

variable (data) (idToHierarchical : Nat → String)

theorem graphInvariant_run (inputs : List QuestEvent) :
    GraphInvariant data ((events data idToHierarchical).final {} inputs) := by
  refine (events data idToHierarchical).invariant (fun _ _ => True)
    (fun _ player _ => GraphInvariant data player) GraphInvariant.fresh ?_ inputs
    (Machine.along_true _ _ _)
  intro _ current _ event invariant _
  exact invariant.handle idToHierarchical event

theorem latches_run (inputs : List QuestEvent) (era : Era) :
    latches era ((events data idToHierarchical).final {} inputs) =
      if EraDone data era ((events data idToHierarchical).final {} inputs) ∧
          EraHasQuests data era then 1 else 0 :=
  if_congr ((graphInvariant_run data idToHierarchical inputs).latched era) rfl rfl

variable {data} in
theorem eraDone_of_no_quests (none : ¬ EraHasQuests data era) (player : PlayerQuests) :
    EraDone data era player := by
  intro quest mem sameEra counts
  exact absurd ⟨quest, mem, sameEra, counts⟩ none

theorem eq_of_balance {before after : Prop} [Decidable before] [Decidable after]
    (balance : (count + if before then 1 else 0) = if after then 1 else 0) :
    count = if after ∧ ¬ before then 1 else 0 := by
  by_cases was : before
  · rw [if_pos was] at balance
    rw [if_neg (fun both => both.2 was)]
    split at balance <;> omega
  · rw [if_neg was, Nat.add_zero] at balance
    rw [balance]
    exact if_congr (by simp [was]) rfl rfl

structure GraphLaw (inputs : List QuestEvent) : Prop where
  closed : PrerequisitesClosed data ((events data idToHierarchical).final {} inputs)
  settled : NoneStuck data ((events data idToHierarchical).final {} inputs)
  transition : ∀ before event after era, inputs = before ++ event :: after →
    (((events data idToHierarchical).final {} before).handle data
        idToHierarchical event).2.countP (transitions era) =
      if EraDone data era ((events data idToHierarchical).final {} (before ++ [event])) ∧
          ¬ EraDone data era ((events data idToHierarchical).final {} before) then 1 else 0
  once : ∀ era, ((events data idToHierarchical).outputs {} inputs).countP (transitions era) =
    if EraDone data era ((events data idToHierarchical).final {} inputs) ∧
      EraHasQuests data era then 1 else 0

theorem quest_graph_law (inputs : List QuestEvent) : GraphLaw data idToHierarchical inputs where
  closed := (graphInvariant_run data idToHierarchical inputs).closed
  settled := (graphInvariant_run data idToHierarchical inputs).settled
  transition before event after era split := by
    have step : Tallied (transitions era) (latches era)
        ((events data idToHierarchical).final {} before)
        (((events data idToHierarchical).final {} before).handle data idToHierarchical event) :=
      tallied_handle (countsCompletions_transitions era) idToHierarchical event
    have latchedBefore := latches_run data idToHierarchical before era
    have latchedAfter := latches_run data idToHierarchical (before ++ [event]) era
    rw [Machine.final_concat] at latchedAfter ⊢
    unfold Tallied at step
    rw [latchedBefore] at step
    have balance := step.trans latchedAfter
    by_cases has : EraHasQuests data era
    · simp only [has, and_true] at balance
      exact eq_of_balance balance
    · have vacuous := eraDone_of_no_quests has
      simp only [has, and_false, if_false, Nat.add_zero] at balance
      simpa [vacuous] using balance
  once era := by
    have steps : (events data idToHierarchical).Along
        (fun player event => Tallied (transitions era) (latches era) player
          (player.handle data idToHierarchical event)) {} inputs := by
      rw [Machine.along_iff]
      intro before event after _
      exact tallied_handle (countsCompletions_transitions era) idToHierarchical event
    have tally := Tallied.run (events data idToHierarchical) steps
    unfold Tallied at tally
    rw [latches_run] at tally
    exact tally

end Runs

end PlayerQuests

end GtnhPlatform.Quests
