import GtnhPlatform.Router.ClientConn

namespace GtnhPlatform.Router

open List

/-- `+` stands for one segment, `#` for any number of them, any other segment for
itself. -/
inductive Matches : List Name → List Name → Prop
  | nil : Matches [] []
  | one {patterns topics : List Name} (segment : Name) (rest : Matches patterns topics) :
      Matches ([plus] :: patterns) (segment :: topics)
  | many {patterns topics : List Name} (skipped : List Name) (rest : Matches patterns topics) :
      Matches ([hash] :: patterns) (skipped ++ topics)
  | same {patterns topics : List Name} {segment : Name} (literal : segment ≠ [plus])
      (fixed : segment ≠ [hash]) (rest : Matches patterns topics) :
      Matches (segment :: patterns) (segment :: topics)

def PatternMatches (pattern topic : Name) : Prop :=
  Matches (pattern.splitOn dot) (topic.splitOn dot)

variable {patterns topics front rest : List Name} {segment : Name}

theorem matches_nil_iff : Matches [] topics ↔ topics = [] := by
  constructor
  · intro found
    cases found
    rfl
  · rintro rfl
    exact .nil

theorem matches_hash_iff :
    Matches ([hash] :: patterns) topics ↔ ∃ left, left <:+ topics ∧ Matches patterns left := by
  constructor
  · intro found
    cases found with
    | many skipped rest => exact ⟨_, suffix_append _ _, rest⟩
    | same _ fixed _ => exact absurd rfl fixed
  · rintro ⟨left, ⟨skipped, rfl⟩, rest⟩
    exact .many skipped rest

theorem matches_cons_iff (fixed : segment ≠ [hash]) :
    Matches (segment :: patterns) topics ↔ ∃ topic left, topics = topic :: left ∧
      (segment = [plus] ∨ segment = topic) ∧ Matches patterns left := by
  constructor
  · intro found
    cases found with
    | one topic rest => exact ⟨topic, _, rfl, .inl rfl, rest⟩
    | many => exact absurd rfl fixed
    | same _ _ rest => exact ⟨_, _, rfl, .inr rfl, rest⟩
  · rintro ⟨topic, left, rfl, stands, rest⟩
    by_cases wild : segment = [plus]
    · exact wild ▸ .one topic rest
    · obtain rfl := stands.resolve_left wild
      exact .same wild fixed rest

theorem matches_append_iff : Matches (front ++ patterns) topics ↔
    ∃ first left, topics = first ++ left ∧ Matches front first ∧ Matches patterns left := by
  induction front generalizing topics with
  | nil => simp [matches_nil_iff]
  | cons segment front ih =>
    rw [cons_append]
    by_cases many : segment = [hash]
    · subst many
      simp only [matches_hash_iff, ih]
      constructor
      · rintro ⟨_, ⟨skipped, rfl⟩, first, left, rfl, found, others⟩
        exact ⟨skipped ++ first, left, (append_assoc _ _ _).symm,
          ⟨first, suffix_append _ _, found⟩, others⟩
      · rintro ⟨_, left, rfl, ⟨first, ⟨skipped, rfl⟩, found⟩, others⟩
        exact ⟨first ++ left, ⟨skipped, (append_assoc _ _ _).symm⟩, first, left, rfl, found, others⟩
    · simp only [matches_cons_iff many, ih]
      constructor
      · rintro ⟨topic, _, rfl, stands, first, left, rfl, found, others⟩
        exact ⟨topic :: first, left, rfl, ⟨topic, first, rfl, stands, found⟩, others⟩
      · rintro ⟨_, left, rfl, ⟨topic, first, rfl, stands, found⟩, others⟩
        exact ⟨topic, first ++ left, rfl, stands, first, left, rfl, found, others⟩

theorem matches_self (fixed : [hash] ∉ patterns) : Matches patterns patterns := by
  induction patterns with
  | nil => exact .nil
  | cons segment patterns ih =>
    rw [mem_cons, not_or] at fixed
    exact (matches_cons_iff fun same => fixed.1 same.symm).mpr
      ⟨segment, patterns, rfl, .inr rfl, ih fixed.2⟩

variable (found : Matches patterns topics)

include found

theorem Matches.width_le : patterns.countP (· != [hash]) ≤ topics.length := by
  induction found with
  | nil => exact Nat.le_refl 0
  | one segment rest ih =>
    rw [countP_cons, length_cons]
    split <;> omega
  | many skipped rest ih =>
    rw [countP_cons_of_neg (by simp), length_append]
    omega
  | same _ _ rest ih =>
    rw [countP_cons, length_cons]
    split <;> omega

theorem Matches.length_eq (fixed : [hash] ∉ patterns) : topics.length = patterns.length := by
  induction found with
  | nil => rfl
  | one segment rest ih =>
    exact congrArg (· + 1) (ih fun mem => fixed (mem_cons_of_mem _ mem))
  | many => exact absurd mem_cons_self fixed
  | same _ _ rest ih =>
    exact congrArg (· + 1) (ih fun mem => fixed (mem_cons_of_mem _ mem))

theorem Matches.literal_mem (mem : segment ∈ patterns)
    (literal : segment ≠ [plus]) (fixed : segment ≠ [hash]) : segment ∈ topics := by
  induction found with
  | nil => exact mem
  | one _ rest ih =>
    exact mem_cons_of_mem _ (ih ((mem_cons.mp mem).resolve_left literal))
  | many skipped rest ih =>
    exact mem_append_right _ (ih ((mem_cons.mp mem).resolve_left fixed))
  | same _ _ rest ih =>
    rcases mem_cons.mp mem with rfl | mem
    · exact mem_cons_self
    · exact mem_cons_of_mem _ (ih mem)

omit found

theorem matches_iff_eq (literal : [plus] ∉ patterns) (fixed : [hash] ∉ patterns) :
    Matches patterns topics ↔ patterns = topics := by
  constructor
  · intro found
    induction found with
    | nil => rfl
    | one => exact absurd mem_cons_self literal
    | many => exact absurd mem_cons_self fixed
    | same _ _ rest ih =>
      exact congrArg _ (ih (fun mem => literal (mem_cons_of_mem _ mem))
        fun mem => fixed (mem_cons_of_mem _ mem))
  · rintro rfl
    exact matches_self fixed

variable (wild : ∀ segment ∈ patterns, segment = [plus] ∨ segment = [hash])

include wild

theorem matches_of_wild (width : topics.length = patterns.countP (· != [hash])) : Matches patterns topics := by
  induction patterns generalizing topics with
  | nil => exact matches_nil_iff.mpr (length_eq_zero_iff.mp width)
  | cons segment patterns ih =>
    have others := fun segment mem => wild segment (mem_cons_of_mem _ mem)
    rcases wild segment mem_cons_self with rfl | rfl
    · rw [countP_cons_of_pos (by decide)] at width
      cases topics with
      | nil => exact absurd width.symm (Nat.succ_ne_zero _)
      | cons topic topics => exact .one topic (ih others (Nat.succ.inj width))
    · rw [countP_cons_of_neg (by decide)] at width
      exact .many [] (ih others width)

theorem wild_matches_iff :
    (∃ left, left <:+ topics ∧ Matches patterns left) ↔
      patterns.countP (· != [hash]) ≤ topics.length := by
  constructor
  · rintro ⟨left, suffix, found⟩
    exact found.width_le.trans suffix.length_le
  intro enough
  refine ⟨topics.drop (topics.length - patterns.countP (· != [hash])), drop_suffix _ _,
    matches_of_wild wild ?_⟩
  rw [length_drop]
  omega

omit wild

theorem segmentsMatch_cons (fixed : segment ≠ [hash]) (topic : Name) :
    segmentsMatch (segment :: patterns) (topic :: topics) = true ↔
      (segment = [plus] ∨ segment = topic) ∧ segmentsMatch patterns topics = true := by
  rw [segmentsMatch, if_neg fixed]
  split
  · next other => simp [other.1, other.2]
  · next stands =>
    rw [Classical.not_and_iff_not_or_not, not_not, not_not] at stands
    exact (and_iff_right stands).symm

theorem segmentsMatch_nil (fixed : segment ≠ [hash]) :
    segmentsMatch (segment :: patterns) [] = false := by
  cases patterns with
  | nil => simp [segmentsMatch, fixed]
  | cons _ _ => simp [segmentsMatch]

theorem segmentsMatch_iff (fixed : [hash] ∉ patterns) :
    segmentsMatch patterns topics = true ↔ Matches patterns topics := by
  induction patterns generalizing topics with
  | nil => cases topics <;> simp [segmentsMatch, matches_nil_iff]
  | cons segment patterns ih =>
    rw [mem_cons, not_or] at fixed
    have other : segment ≠ [hash] := fun same => fixed.1 same.symm
    rw [matches_cons_iff other]
    cases topics with
    | nil => simp [segmentsMatch_nil other]
    | cons topic topics =>
      rw [segmentsMatch_cons other, ih fixed.2]
      simp

theorem segmentsMatch_hash_iff (fixed : [hash] ∉ front) :
    segmentsMatch (front ++ [hash] :: rest) topics = true ↔
      ∃ first left, topics = first ++ left ∧ Matches front first ∧ (left = [] → rest = []) := by
  induction front generalizing topics with
  | nil =>
    have all : (∃ first left, topics = first ++ left ∧ Matches [] first ∧ (left = [] → rest = [])) ↔
        (topics = [] → rest = []) := by
      simp [matches_nil_iff]
    rw [nil_append, all]
    cases topics with
    | nil => cases rest <;> simp [segmentsMatch]
    | cons topic topics => simp [segmentsMatch]
  | cons segment front ih =>
    rw [mem_cons, not_or] at fixed
    have other : segment ≠ [hash] := fun same => fixed.1 same.symm
    rw [cons_append]
    cases topics with
    | nil =>
      rw [segmentsMatch_nil other]
      refine iff_of_false Bool.false_ne_true ?_
      rintro ⟨first, left, split, found, -⟩
      obtain ⟨rfl, rfl⟩ := append_eq_nil_iff.mp split.symm
      obtain ⟨_, _, impossible, -⟩ := (matches_cons_iff other).mp found
      exact absurd impossible nofun
    | cons topic topics =>
      rw [segmentsMatch_cons other, ih fixed.2]
      constructor
      · rintro ⟨stands, first, left, rfl, found, some⟩
        exact ⟨topic :: first, left, rfl,
          (matches_cons_iff other).mpr ⟨topic, first, rfl, stands, found⟩, some⟩
      rintro ⟨first, left, split, found, some⟩
      obtain ⟨head, tail, rfl, stands, others⟩ := (matches_cons_iff other).mp found
      cases split
      exact ⟨stands, tail, left, rfl, others, some⟩

theorem of_mem_splitOn {text : Name} (mem : segment ∈ text.splitOn dot) :
    dot ∉ segment ∧ segment ⊆ text := by
  induction text generalizing segment with
  | nil =>
    rw [splitOn_nil, mem_singleton] at mem
    subst mem
    exact ⟨nofun, nofun⟩
  | cons byte text ih =>
    rw [splitOn_cons_eq_if_modifyHead] at mem
    split at mem
    · rcases mem_cons.mp mem with rfl | mem
      · exact ⟨nofun, nofun⟩
      · exact (ih mem).imp_right (subset_cons_of_subset byte)
    rename_i other
    obtain ⟨head, tail, split⟩ := exists_cons_of_ne_nil (splitOn_ne_nil dot text)
    rw [split] at ih
    rw [split, modifyHead_cons] at mem
    rcases mem_cons.mp mem with rfl | mem
    · obtain ⟨apart, inside⟩ := ih mem_cons_self
      refine ⟨?_, cons_subset_cons byte inside⟩
      rw [mem_cons, not_or]
      exact ⟨fun same => other (beq_iff_eq.mpr same.symm), apart⟩
    · exact (ih (mem_cons_of_mem _ mem)).imp_right
        (subset_cons_of_subset byte)

theorem exists_topic (some : topics ≠ []) (apart : ∀ segment ∈ topics, dot ∉ segment) :
    ∃ topic : Name, topic.splitOn dot = topics :=
  ⟨[dot].intercalate topics, splitOn_intercalate dot apart some⟩

theorem topicMatches_eq (pattern topic : Name) : topicMatches pattern topic =
      segmentsMatch (pattern.splitOn dot) (topic.splitOn dot) := by
  unfold topicMatches
  split
  · rfl
  rename_i literal
  rw [not_or] at literal
  have plain : [plus] ∉ pattern.splitOn dot := fun mem =>
    literal.1 ((of_mem_splitOn mem).2 mem_cons_self)
  have fixed : [hash] ∉ pattern.splitOn dot := fun mem =>
    literal.2 ((of_mem_splitOn mem).2 mem_cons_self)
  rw [Bool.eq_iff_iff, segmentsMatch_iff fixed, matches_iff_eq plain fixed, decide_eq_true_iff]
  constructor
  · rintro rfl
    rfl
  · intro same
    have whole := congrArg [dot].intercalate same
    rwa [intercalate_splitOn, intercalate_splitOn] at whole

def WildTail (rest : List Name) (segments : Nat) : Prop :=
  (∀ segment ∈ rest, segment = [plus] ∨ segment = [hash]) ∧ rest.countP (· != [hash]) = segments

/-- Behind its first `#` the pattern has nothing, or wildcards with exactly one `+`
among them, or only `#` and nothing in front of it. -/
def EndsWild (pattern : Name) : Prop :=
  ∀ front rest, pattern.splitOn dot = front ++ [hash] :: rest → [hash] ∉ front →
    rest = [] ∨ WildTail rest 1 ∨ front = [] ∧ WildTail rest 0

def AsksLittle (pattern : Name) : Prop :=
  ∀ front rest, pattern.splitOn dot = front ++ [hash] :: rest → [hash] ∉ front →
    WildTail rest 0 ∨ WildTail rest 1

theorem matches_hash_of_wild (wild : ∀ segment ∈ rest, segment = [plus] ∨ segment = [hash]) :
    Matches (front ++ [hash] :: rest) topics ↔
      ∃ first left, topics = first ++ left ∧ Matches front first ∧
        rest.countP (· != [hash]) ≤ left.length := by
  simp only [matches_append_iff, matches_hash_iff, wild_matches_iff wild]

variable (fixed : [hash] ∉ front)

include fixed

theorem segmentsMatch_sound (tail : WildTail rest 0 ∨ WildTail rest 1)
    (found : segmentsMatch (front ++ [hash] :: rest) topics = true) :
    Matches (front ++ [hash] :: rest) topics := by
  obtain ⟨first, left, split, same, some⟩ := (segmentsMatch_hash_iff fixed).mp found
  rcases tail with ⟨wild, none⟩ | ⟨wild, one⟩
  · exact (matches_hash_of_wild wild).mpr ⟨first, left, split, same, none ▸ Nat.zero_le _⟩
  refine (matches_hash_of_wild wild).mpr ⟨first, left, split, same, ?_⟩
  rw [one, Nat.succ_le_iff, length_pos_iff]
  intro empty
  rw [some empty] at one
  exact absurd one (by decide)

theorem segmentsMatch_complete (tail : rest = [] ∨ WildTail rest 1 ∨ front = [] ∧ WildTail rest 0) (some : topics ≠ [])
    (found : Matches (front ++ [hash] :: rest) topics) :
    segmentsMatch (front ++ [hash] :: rest) topics = true := by
  rw [segmentsMatch_hash_iff fixed]
  rcases tail with rfl | ⟨wild, one⟩ | ⟨rfl, wild, -⟩
  · obtain ⟨first, left, split, same, -⟩ := matches_append_iff.mp found
    exact ⟨first, left, split, same, fun _ => rfl⟩
  · obtain ⟨first, left, split, same, enough⟩ := (matches_hash_of_wild wild).mp found
    refine ⟨first, left, split, same, fun empty => ?_⟩
    rw [one, empty] at enough
    exact absurd enough (by decide)
  · exact ⟨[], topics, rfl, .nil, fun empty => absurd empty some⟩

theorem wildTail_of_sound (apart : ∀ segment ∈ front ++ [hash] :: rest, dot ∉ segment)
    (sound : ∀ topics ≠ [], (∀ segment ∈ topics, dot ∉ segment) →
      segmentsMatch (front ++ [hash] :: rest) topics = true →
        Matches (front ++ [hash] :: rest) topics) : WildTail rest 0 ∨ WildTail rest 1 := by
  have fits : ∀ other : Name, dot ∉ other → ∃ left, left <:+ [other] ∧ Matches rest left := by
    intro other free
    have runs : segmentsMatch (front ++ [hash] :: rest) (front ++ [other]) = true :=
      (segmentsMatch_hash_iff fixed).mpr ⟨front, [other], rfl, matches_self fixed, nofun⟩
    have inside : ∀ segment ∈ front ++ [other], dot ∉ segment := by
      intro segment mem
      rcases mem_append.mp mem with early | last
      · exact apart segment (mem_append_left _ early)
      · exact mem_singleton.mp last ▸ free
    obtain ⟨first, left, split, same, found⟩ :=
      matches_append_iff.mp (sound _ (concat_ne_nil other front) inside runs)
    obtain ⟨-, rfl⟩ := append_inj split (same.length_eq fixed).symm
    exact matches_hash_iff.mp found
  have wild : ∀ segment ∈ rest, segment = [plus] ∨ segment = [hash] := by
    intro segment mem
    by_contra literal
    rw [not_or] at literal
    have free : dot ∉ (0 : UInt8) :: segment := by
      rw [mem_cons, not_or]
      exact ⟨by decide, apart segment (mem_append_right _ (mem_cons_of_mem _ mem))⟩
    obtain ⟨left, suffix, found⟩ := fits _ free
    have inside := suffix.subset (found.literal_mem mem literal.1 literal.2)
    exact absurd (congrArg length (mem_singleton.mp inside))
      (Nat.ne_of_lt (Nat.lt_succ_self _))
  obtain ⟨left, suffix, found⟩ := fits [] nofun
  have narrow := found.width_le.trans suffix.length_le
  rcases Nat.le_one_iff_eq_zero_or_eq_one.mp narrow with none | one
  · exact .inl ⟨wild, none⟩
  · exact .inr ⟨wild, one⟩

theorem front_nil_of_complete (tail : WildTail rest 0) (some : rest ≠ [])
    (apart : ∀ segment ∈ front, dot ∉ segment)
    (complete : ∀ topics ≠ [], (∀ segment ∈ topics, dot ∉ segment) →
      Matches (front ++ [hash] :: rest) topics →
        segmentsMatch (front ++ [hash] :: rest) topics = true) : front = [] := by
  by_contra before
  have found : Matches (front ++ [hash] :: rest) front := (matches_hash_of_wild tail.1).mpr
      ⟨front, [], (append_nil front).symm, matches_self fixed, tail.2 ▸ Nat.le_refl 0⟩
  obtain ⟨first, left, split, same, last⟩ :=
    (segmentsMatch_hash_iff fixed).mp (complete front before apart found)
  rw [← append_nil front] at split
  obtain ⟨-, none⟩ := append_inj split (same.length_eq fixed).symm
  exact some (last none.symm)

omit fixed

theorem topicMatches_exact_iff (pattern : Name) :
    ((∀ topic, topicMatches pattern topic = true ↔ PatternMatches pattern topic) ↔
        EndsWild pattern) ∧
      ((∀ topic, topicMatches pattern topic = true → PatternMatches pattern topic) ↔
        AsksLittle pattern) := by
  simp only [topicMatches_eq, PatternMatches]
  have apart : ∀ segment ∈ pattern.splitOn dot, dot ∉ segment :=
    fun segment mem => (of_mem_splitOn mem).1
  have each : ∀ {holds : List Name → Prop}, (∀ topic : Name, holds (topic.splitOn dot)) →
      ∀ topics ≠ [], (∀ segment ∈ topics, dot ∉ segment) → holds topics := by
    intro holds all topics some free
    obtain ⟨topic, split⟩ := exists_topic some free
    exact split ▸ all topic
  refine ⟨⟨fun exact front rest split fixed => ?_, fun tail topic => ?_⟩,
    ⟨fun sound front rest split fixed => ?_, fun tail topic found => ?_⟩⟩
  · rw [split] at exact apart
    have sound := wildTail_of_sound fixed apart (each fun topic => (exact topic).mp)
    by_cases some : rest = []
    · exact .inl some
    rcases sound with none | one
    · refine .inr (.inr ⟨front_nil_of_complete fixed none some ?_ ?_, none⟩)
      · exact fun segment mem => apart segment (mem_append_left _ mem)
      · exact each fun topic => (exact topic).mpr
    · exact .inr (.inl one)
  · by_cases fixed : [hash] ∈ pattern.splitOn dot
    · obtain ⟨front, rest, split, first⟩ := eq_append_cons_of_mem fixed
      have last := tail front rest split first
      rw [split]
      refine ⟨segmentsMatch_sound first ?_, segmentsMatch_complete first last
        (splitOn_ne_nil dot topic)⟩
      rcases last with rfl | one | ⟨-, none⟩
      · exact .inl ⟨nofun, rfl⟩
      · exact .inr one
      · exact .inl none
    · exact segmentsMatch_iff fixed
  · rw [split] at sound apart
    exact wildTail_of_sound fixed apart (each sound)
  · by_cases fixed : [hash] ∈ pattern.splitOn dot
    · obtain ⟨front, rest, split, first⟩ := eq_append_cons_of_mem fixed
      rw [split] at found ⊢
      exact segmentsMatch_sound first (tail front rest split first) found
    · exact (segmentsMatch_iff fixed).mp found

theorem ack_pattern_matches_joined :
    ¬ (topicMatches (bytesOf "#.ack") (bytesOf "player.joined") = true ↔
      PatternMatches (bytesOf "#.ack") (bytesOf "player.joined")) := by
  intro claim
  have found : Matches ([hash] :: [bytesOf "ack"]) [bytesOf "player", bytesOf "joined"] :=
    claim.mp (by decide)
  obtain ⟨left, suffix, found⟩ := matches_hash_iff.mp found
  have inside := suffix.subset (found.literal_mem mem_cons_self (by decide) (by decide))
  revert inside
  decide

end GtnhPlatform.Router
