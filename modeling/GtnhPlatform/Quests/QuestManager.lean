import GtnhPlatform.Data.Machine
import GtnhPlatform.Data.Table

namespace GtnhPlatform.Quests

open List

inductive QuestStatus where
  | locked
  | available
  | inProgress
  | completed
  deriving DecidableEq

inductive Era where
  | vagrant
  | apprentice
  | expert
  | administrator
  | energyJunior
  | energyMiddle
  | energySenior
  deriving DecidableEq

/-- The era a transition names after its completed one; the last one is its own
successor. -/
def Era.next : Era → Era
  | vagrant => apprentice
  | apprentice => expert
  | expert => administrator
  | administrator => energyJunior
  | energyJunior => energyMiddle
  | energyMiddle => energySenior
  | energySenior => energySenior

def Era.all : List Era :=
  [vagrant, apprentice, expert, administrator, energyJunior, energyMiddle, energySenior]

theorem Era.mem_all (era : Era) : era ∈ Era.all := by
  cases era <;> decide

inductive DetectionType where
  | craft
  | blockPlaced
  | toolCharged
  | sideConfigured
  | exchange
  | inventory
  | machine
  deriving DecidableEq

structure QuestRequirement where
  kind : DetectionType
  machine : String

structure QuestDef where
  id : Nat
  era : Era := .vagrant
  prerequisites : List Nat := []
  detectType : DetectionType := .craft
  detectTarget : String := ""
  targetCount : Nat := 0
  autoComplete : Bool := true
  requirements : List QuestRequirement := []

structure QuestData where
  quests : List QuestDef
  distinct : (quests.map QuestDef.id).Nodup

abbrev Progress := Table Nat QuestStatus

namespace QuestData

variable (data : QuestData)

def getQuest (questId : Nat) : Option QuestDef :=
  data.quests.find? fun quest => quest.id = questId

def getPrerequisites (questId : Nat) : List Nat :=
  match data.getQuest questId with
  | none => []
  | some quest => quest.prerequisites

/-- `BuildQuestEraMap`: repeatable quests belong to no era. -/
def questEraMap : List (Nat × Era) :=
  (data.quests.filter fun quest => quest.detectType ≠ .exchange).map fun quest =>
    (quest.id, quest.era)

def canComplete (questId : Nat) (current : Progress) : Bool :=
  match data.getQuest questId with
  | none => true
  | some quest =>
    quest.prerequisites.all fun prereq => current.lookup prereq = some .completed

def newlyAvailable (current : Progress) : List Nat :=
  (current.filter fun questId status =>
    status = .locked && data.canComplete questId current).keys

def isEraComplete (era : Era) (current : Progress) : Bool :=
  data.questEraMap.all fun entry =>
    entry.2 ≠ era || current.lookup entry.1 = some .completed

variable (data : QuestData)

theorem getQuest_eq_some_iff (questId : Nat) (quest : QuestDef) :
    data.getQuest questId = some quest ↔ quest ∈ data.quests ∧ quest.id = questId := by
  constructor
  · intro found
    exact ⟨mem_of_find?_eq_some found, by simpa using find?_some found⟩
  rintro ⟨mem, rfl⟩
  cases found : data.getQuest quest.id with
  | none =>
    have differs := find?_eq_none.mp found quest mem
    simp at differs
  | some first =>
    have sameId : first.id = quest.id := by simpa using find?_some found
    have same : first = quest :=
      inj_on_of_nodup_map data.distinct (mem_of_find?_eq_some found) mem sameId
    rw [same]

theorem getQuest_of_mem {quest : QuestDef} (mem : quest ∈ data.quests) :
    data.getQuest quest.id = some quest :=
  (data.getQuest_eq_some_iff quest.id quest).mpr ⟨mem, rfl⟩

theorem canComplete_iff (questId : Nat) (current : Progress) :
    data.canComplete questId current = true ↔
      ∀ prereq ∈ data.getPrerequisites questId, current.lookup prereq = some .completed := by
  unfold canComplete getPrerequisites
  cases data.getQuest questId with
  | none => simp
  | some quest => simp [all_eq_true]

theorem mem_newlyAvailable_iff (questId : Nat) (current : Progress) :
    questId ∈ data.newlyAvailable current ↔
      current.lookup questId = some .locked ∧ data.canComplete questId current = true := by
  have present : questId ∈ data.newlyAvailable current ↔ ∃ status,
      (current.filter fun questId status =>
        status = .locked && data.canComplete questId current).lookup questId = some status := by
    rw [← Option.isSome_iff_exists, AList.lookup_isSome]
    exact Iff.rfl
  rw [present]
  simp only [Table.lookup_filter, Option.filter_eq_some_iff, Bool.and_eq_true, decide_eq_true_eq]
  constructor
  · rintro ⟨status, stored, rfl, completable⟩
    exact ⟨stored, completable⟩
  · rintro ⟨stored, completable⟩
    exact ⟨_, stored, rfl, completable⟩

theorem isEraComplete_iff (era : Era) (current : Progress) : data.isEraComplete era current = true ↔
      ∀ quest ∈ data.quests, quest.era = era → quest.detectType ≠ .exchange →
        current.lookup quest.id = some .completed := by
  unfold isEraComplete questEraMap
  rw [all_eq_true]
  constructor
  · intro every quest mem sameEra counts
    have entry : (quest.id, quest.era) ∈ (data.quests.filter fun quest =>
        quest.detectType ≠ .exchange).map fun quest => (quest.id, quest.era) :=
      mem_map.mpr ⟨quest, by simp [mem, counts], rfl⟩
    simpa [sameEra] using every _ entry
  · intro every entry mem
    obtain ⟨quest, kept, rfl⟩ := mem_map.mp mem
    obtain ⟨listed, counts⟩ := mem_filter.mp kept
    by_cases sameEra : quest.era = era
    · have done := every quest listed sameEra (by simpa using counts)
      simp [done]
    · simp [sameEra]

end QuestData

inductive QuestMessage where
  | completed (questId : Nat)
  | progressUpdated (questId : Nat) (status : QuestStatus) (progress : Nat)
  | progressSnapshot (entries : List (Nat × QuestStatus × Nat))
  | unlocked (questIds : List Nat)
  | eraTransition (completed next : Era)
  deriving DecidableEq

structure PlayerQuests where
  progress : Progress := ∅
  completedEras : List Era := []

namespace PlayerQuests

def publishQuestProgressSnapshot (player : PlayerQuests) : List QuestMessage :=
  if player.progress.entries.isEmpty then []
  else
    [.progressSnapshot (player.progress.entries.map fun entry =>
      (entry.1, entry.2, if entry.2 = .completed then 100 else 0))]

variable (data : QuestData)

def maybePublishEraTransition (player : PlayerQuests) (questId : Nat) :
    PlayerQuests × List QuestMessage :=
  match data.getQuest questId with
  | none => (player, [])
  | some quest =>
    if quest.era ∈ player.completedEras then (player, [])
    else if data.isEraComplete quest.era player.progress then
      ({ player with completedEras := quest.era :: player.completedEras },
        [.eraTransition quest.era quest.era.next])
    else (player, [])

def rebuildCompletedEras (player : PlayerQuests) : PlayerQuests :=
  { player with
    completedEras := Era.all.filter fun era => data.isEraComplete era player.progress }

def unlockNewlyAvailable (player : PlayerQuests) : PlayerQuests × List QuestMessage :=
  let newlyAvailable := data.newlyAvailable player.progress
  if newlyAvailable = [] then (player, [])
  else
    ({ player with
        progress := newlyAvailable.foldl
          (fun progress questId => AList.insert questId .available progress) player.progress },
      newlyAvailable.map (fun questId => .progressUpdated questId .available 0) ++
        [.unlocked newlyAvailable])

/-- A quest that is missing is seeded `locked`; one that is completed already
is left alone. -/
def completeQuestInternal (player : PlayerQuests) (questId : Nat) :
    PlayerQuests × List QuestMessage :=
  let seeded := player.progress.emplace questId .locked
  if seeded.lookup questId = some .completed then ({ player with progress := seeded }, [])
  else
    let completed := { player with progress := AList.insert questId .completed seeded }
    let transition := completed.maybePublishEraTransition data questId
    let unlock := transition.1.unlockNewlyAvailable data
    (unlock.1,
      [.completed questId, .progressUpdated questId .completed 100] ++ transition.2 ++ unlock.2)

def completeQuest (player : PlayerQuests) (questId : Nat) : PlayerQuests × List QuestMessage :=
  if (data.getQuest questId).any (fun quest => quest.detectType = .exchange) then (player, [])
  else if player.progress.lookup questId ≠ some .available then (player, [])
  else if !data.canComplete questId player.progress then (player, [])
  else player.completeQuestInternal data questId

def seedQuest (seeded : Progress × List Nat) (quest : QuestDef) : Progress × List Nat :=
  if (seeded.1.lookup quest.id).isSome then seeded
  else if (data.getPrerequisites quest.id).isEmpty then
    (AList.insert quest.id .available seeded.1, seeded.2 ++ [quest.id])
  else (AList.insert quest.id .locked seeded.1, seeded.2)

def onPlayerJoined (player : PlayerQuests) : PlayerQuests × List QuestMessage :=
  let seeded := data.quests.foldl (seedQuest data) (player.progress, [])
  let unlock := { player with progress := seeded.1 }.unlockNewlyAvailable data
  (unlock.1, (if seeded.2 = [] then [] else [.unlocked seeded.2]) ++ unlock.2)

/-- An objective is met, and so are the prerequisites of its quest. -/
def handleQuestMet (player : PlayerQuests) (quest : QuestDef) : PlayerQuests × List QuestMessage :=
  if quest.autoComplete then player.completeQuestInternal data quest.id
  else
    match player.progress.lookup quest.id with
    | none | some .locked =>
      ({ player with progress := AList.insert quest.id .available player.progress },
        [.progressUpdated quest.id .available 0])
    | _ => (player, [])

def detectQuest (met : QuestDef → Bool) (player : PlayerQuests)
    (quest : QuestDef) : PlayerQuests × List QuestMessage :=
  if met quest && data.canComplete quest.id player.progress then player.handleQuestMet data quest
  else (player, [])

def detection (met : QuestDef → Bool) :
    Machine PlayerQuests QuestDef QuestMessage := ⟨detectQuest data met⟩

def detect (met : QuestDef → Bool) (player : PlayerQuests) : PlayerQuests × List QuestMessage :=
  ((detection data met).final player data.quests, (detection data met).outputs player data.quests)

def targets (detectType : DetectionType) (target : String) (quest : QuestDef) : Bool :=
  quest.detectType = detectType && quest.detectTarget = target

def held (idToHierarchical : Nat → String) (slots : List (Nat × Nat)) (target : String) : Nat :=
  ((slots.filter fun slot => slot.1 ≠ 0 && slot.2 ≠ 0 && idToHierarchical slot.1 ≠ "" &&
    idToHierarchical slot.1 = target).map Prod.snd).sum

def holdsEnough (idToHierarchical : Nat → String) (slots : List (Nat × Nat))
    (quest : QuestDef) : Bool :=
  quest.detectType = .inventory &&
    (if quest.targetCount > 0 then quest.targetCount else 1) ≤
      held idToHierarchical slots quest.detectTarget % 2 ^ 32

def producedBy (machine item : String) (quest : QuestDef) : Bool := targets .machine item quest &&
    quest.requirements.head?.all fun requirement => requirement.machine = machine

section Checks

variable (data : QuestData) (idToHierarchical : Nat → String) (player : PlayerQuests)

def checkCraftCompletion (itemId count : Nat) : PlayerQuests × List QuestMessage :=
  if count < 1 then (player, [])
  else player.detect data (targets .craft (idToHierarchical itemId))

def checkBlockAction (blockId : Nat) : PlayerQuests × List QuestMessage :=
  player.detect data (targets .blockPlaced (idToHierarchical blockId))

def checkToolCharged (itemId : Nat) : PlayerQuests × List QuestMessage :=
  player.detect data (targets .toolCharged (idToHierarchical itemId))

def checkSideConfigured (machineId : Nat) : PlayerQuests × List QuestMessage :=
  if machineId = 0 then (player, [])
  else player.detect data (targets .sideConfigured (idToHierarchical machineId))

def checkMachineOutput (machineId itemId count : Nat) : PlayerQuests × List QuestMessage :=
  if count < 1 then (player, [])
  else player.detect data (producedBy (idToHierarchical machineId) (idToHierarchical itemId))

def checkInventory (slots : List (Nat × Nat)) : PlayerQuests × List QuestMessage :=
  player.detect data (holdsEnough idToHierarchical slots)

end Checks

end PlayerQuests

structure QuestEntry where
  questId : Nat
  status : UInt8
  progress : UInt8 := 0

/-- A status that is none is clamped to `locked`. -/
def QuestEntry.loaded (entry : QuestEntry) : QuestStatus :=
  if entry.status = 1 then .available
  else if entry.status = 2 then .inProgress
  else if entry.status = 3 then .completed
  else .locked

def PlayerQuests.loadProgress (data : QuestData) (player : PlayerQuests)
    (quests : List QuestEntry) : PlayerQuests × List QuestMessage :=
  let loaded := { player with
    progress := quests.foldl
      (fun progress (entry : QuestEntry) => AList.insert entry.questId entry.loaded progress)
      player.progress }
  if quests = [] then (loaded.rebuildCompletedEras data, [])
  else
    let unlock := loaded.unlockNewlyAvailable data
    (unlock.1.rebuildCompletedEras data, loaded.publishQuestProgressSnapshot ++ unlock.2)

inductive QuestEvent where
  | playerJoined
  | complete (questId : Nat)
  | crafted (itemId count : Nat)
  | blockAction (blockId : Nat)
  | toolCharged (itemId : Nat)
  | sideConfigured (machineId : Nat)
  | machineOutput (machineId itemId count : Nat)
  | inventory (slots : List (Nat × Nat))

inductive QuestInput where
  | event (event : QuestEvent)
  | loadProgress (quests : List QuestEntry)

namespace PlayerQuests

variable (data : QuestData) (idToHierarchical : Nat → String)

def handle (player : PlayerQuests) : QuestEvent → PlayerQuests × List QuestMessage
  | .playerJoined => player.onPlayerJoined data
  | .complete questId => player.completeQuest data questId
  | .crafted itemId count => player.checkCraftCompletion data idToHierarchical itemId count
  | .blockAction blockId => player.checkBlockAction data idToHierarchical blockId
  | .toolCharged itemId => player.checkToolCharged data idToHierarchical itemId
  | .sideConfigured machineId => player.checkSideConfigured data idToHierarchical machineId
  | .machineOutput machineId itemId count =>
    player.checkMachineOutput data idToHierarchical machineId itemId count
  | .inventory slots => player.checkInventory data idToHierarchical slots

def events : Machine PlayerQuests QuestEvent QuestMessage := ⟨handle data idToHierarchical⟩

def manager : Machine PlayerQuests QuestInput QuestMessage where
  step player input :=
    match input with
    | .event event => player.handle data idToHierarchical event
    | .loadProgress quests => player.loadProgress data quests

end PlayerQuests

end GtnhPlatform.Quests
