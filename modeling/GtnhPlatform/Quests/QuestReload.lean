import GtnhPlatform.Quests.QuestSteps

namespace GtnhPlatform.Quests

open List

/-! Replies of the database overwrite the statuses they list. -/

def lastEntry (quests : List QuestEntry) (questId : Nat) : Option QuestEntry :=
  quests.reverse.find? fun entry => entry.questId = questId

namespace PlayerQuests

variable (data : QuestData) (idToHierarchical : Nat → String)

def CompletedOnce (inputs : List QuestInput) : Prop :=
  (∀ before after rest questId, inputs = before ++ after ++ rest →
    ((manager data idToHierarchical).final {} before).Completed questId →
      ((manager data idToHierarchical).final {} (before ++ after)).Completed questId) ∧
  ∀ questId, ((manager data idToHierarchical).outputs {} inputs).count (.completed questId) ≤ 1

/-- A reply lists as completed what the manager holds as completed, or does not
list it. -/
def UpToDate (player : PlayerQuests) : QuestInput → Prop
  | .event _ => True
  | .loadProgress quests => ∀ questId, player.Completed questId →
      ∀ entry, lastEntry quests questId = some entry → entry.status = 3

variable {data} {player : PlayerQuests}

variable (quests : List QuestEntry)

theorem lookup_loaded (progress : Progress) (questId : Nat) :
    (quests.foldl (fun progress (entry : QuestEntry) =>
        AList.insert entry.questId entry.loaded progress) progress).lookup questId =
      match lastEntry quests questId with
      | some entry => some entry.loaded
      | none => progress.lookup questId := by
  induction quests using reverseRecOn with
  | nil => rfl
  | append_singleton quests entry ih =>
    unfold lastEntry at ih ⊢
    rw [foldl_concat, Table.lookup_insert_eq, reverse_concat, find?_cons]
    by_cases listed : questId = entry.questId
    · subst listed
      simp
    · rw [if_neg listed, ih]
      simp [Ne.symm listed]

theorem loaded_eq_completed_iff (entry : QuestEntry) :
    entry.loaded = .completed ↔ entry.status = 3 := by
  unfold QuestEntry.loaded
  by_cases available : entry.status = 1
  · simp [available]
  · by_cases inProgress : entry.status = 2
    · simp [inProgress]
    · by_cases completed : entry.status = 3 <;> simp [available, inProgress, completed]

theorem completed_loadProgress_iff (questId : Nat) :
    (player.loadProgress data quests).1.Completed questId ↔
      match lastEntry quests questId with
      | some entry => entry.status = 3
      | none => player.Completed questId := by
  have overwritten :
      (player.loadProgress data quests).1.Completed questId ↔
        Completed { player with
          progress := quests.foldl (fun progress (entry : QuestEntry) =>
            AList.insert entry.questId entry.loaded progress) player.progress } questId := by
    unfold loadProgress
    split
    · exact Iff.rfl
    · exact completed_unlockNewlyAvailable questId
  rw [overwritten]
  unfold Completed
  rw [lookup_loaded]
  cases lastEntry quests questId with
  | none => exact Iff.rfl
  | some entry => simp [loaded_eq_completed_iff]

theorem loadProgress_silent (questId : Nat) :
    (player.loadProgress data quests).2.countP (announces questId) = 0 := by
  apply countP_eq_zero.mpr
  intro message mem
  unfold loadProgress at mem
  split at mem
  · exact absurd mem not_mem_nil
  rcases mem_append.mp mem with snapshot | unlock
  · unfold publishQuestProgressSnapshot at snapshot
    split at snapshot
    · exact absurd snapshot not_mem_nil
    · rw [mem_singleton.mp snapshot]
      exact Bool.false_ne_true
  · rcases unlockNewlyAvailable_messages unlock with ⟨_, rfl⟩ | ⟨_, rfl⟩ <;>
      exact Bool.false_ne_true

variable (data)

theorem kept_iff_upToDate (input : QuestInput) : (∀ questId, player.Completed questId →
        ((manager data idToHierarchical).step player input).1.Completed questId) ↔
      player.UpToDate input := by
  cases input with
  | event event =>
    refine ⟨fun _ => trivial, fun _ questId done => ?_⟩
    show (player.handle data idToHierarchical event).1.Completed questId
    have tally : Tallied _ _ player _ :=
      tallied_handle (countsCompletions_announces data questId) idToHierarchical event
    unfold Tallied completions at tally
    rw [if_pos done] at tally
    by_contra lost
    rw [if_neg lost] at tally
    omega
  | loadProgress quests =>
    refine forall₂_congr fun questId done => ?_
    show (player.loadProgress data quests).1.Completed questId ↔ _
    rw [completed_loadProgress_iff]
    cases lastEntry quests questId with
    | none => simp [done]
    | some entry => simp

theorem announced_le_step (input : QuestInput) (questId : Nat) (upToDate : player.UpToDate input) :
    ((manager data idToHierarchical).step player input).2.countP (announces questId) +
        completions questId player ≤
      completions questId ((manager data idToHierarchical).step player input).1 := by
  cases input with
  | event event =>
    exact le_of_eq
      (tallied_handle (countsCompletions_announces data questId) idToHierarchical event)
  | loadProgress quests =>
    show (player.loadProgress data quests).2.countP _ + _ ≤ _
    rw [loadProgress_silent, Nat.zero_add]
    unfold completions
    by_cases done : player.Completed questId
    · have kept := (kept_iff_upToDate data idToHierarchical _).mpr upToDate questId done
      rw [if_pos done, if_pos kept]
    · rw [if_neg done]
      exact Nat.zero_le _

theorem announced_le_run (inputs : List QuestInput) (questId : Nat)
    (upToDate : (manager data idToHierarchical).Along UpToDate {} inputs) :
    ((manager data idToHierarchical).outputs {} inputs).countP (announces questId) ≤
      completions questId ((manager data idToHierarchical).final {} inputs) := by
  refine (manager data idToHierarchical).invariant UpToDate
    (fun _ player history => history.countP (announces questId) ≤ completions questId player)
    (Nat.zero_le _) ?_ inputs upToDate
  intro _ current history input soFar now
  have step := announced_le_step data idToHierarchical input questId now
  rw [countP_append]
  omega

theorem count_completed (messages : List QuestMessage) (questId : Nat) :
    messages.count (.completed questId) = messages.countP (announces questId) := by
  apply countP_congr
  intro message _
  cases message <;> simp [announces]

theorem completedOnce_iff (inputs : List QuestInput) : CompletedOnce data idToHierarchical inputs ↔
      (manager data idToHierarchical).Along UpToDate {} inputs := by
  constructor
  · rintro ⟨kept, -⟩
    rw [Machine.along_iff]
    intro before input after split
    apply (kept_iff_upToDate data idToHierarchical input).mp
    intro questId done
    have stays := kept before [input] after questId (by simp [split]) done
    rw [Machine.final_concat] at stays
    exact stays
  · intro upToDate
    constructor
    · intro before after rest questId split done
      rw [split, Machine.along_append, Machine.along_append] at upToDate
      have later := upToDate.1.2
      rw [Machine.final_append]
      clear split upToDate
      generalize (manager data idToHierarchical).final {} before = current at done later
      induction after generalizing current with
      | nil => exact done
      | cons input after ih =>
        have kept := (kept_iff_upToDate data idToHierarchical input).mpr later.1 questId done
        exact ih _ kept later.2
    · intro questId
      rw [count_completed]
      have bound := announced_le_run data idToHierarchical inputs questId upToDate
      unfold completions at bound
      split at bound <;> omega

def handInQuest : QuestData := ⟨[{ id := 1, autoComplete := false }], by decide⟩

theorem late_reply_completes_twice :
    ¬ CompletedOnce handInQuest (fun _ => "")
      [.event .playerJoined, .event (.complete 1), .loadProgress [⟨1, 1, 0⟩],
        .event (.complete 1)] := by
  intro once
  exact absurd (once.2 1) (by decide)

end PlayerQuests

end GtnhPlatform.Quests
