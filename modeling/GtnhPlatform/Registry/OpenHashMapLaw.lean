import GtnhPlatform.Data.Circular
import GtnhPlatform.Registry.OpenHashMap
import Mathlib.Data.Fintype.Card

namespace GtnhPlatform.Registry.OpenHashMap

open Circular OpenHashMap List

variable {κ : Type u} {ν : Type v} {bits : Nat} {sentinel : κ} {hash : κ → Slot bits}

theorem step_eq (idx : Slot bits) : step idx = next idx := by
  apply Fin.ext
  rw [next_val]
  show (idx.val + 1) &&& mask bits = _
  rw [mask, Nat.and_two_pow_sub_one_eq_mod]
  split
  · next inside => exact Nat.mod_eq_of_lt inside
  · next last =>
    have all : idx.val + 1 = 2 ^ bits := by omega
    rw [all, Nat.mod_self]

theorem onPath_iff (ideal next hole : Slot bits) :
    onPath ideal next hole = true ↔ Within ideal next hole := by
  rw [within_iff]
  unfold onPath
  simp only [Fin.le_def]
  split
  · rw [Bool.and_eq_true, decide_eq_true_iff, decide_eq_true_iff]
  · rw [Bool.or_eq_true, decide_eq_true_iff, decide_eq_true_iff]

section Paths

variable (sentinel hash) (entries : Slot bits → Entry κ ν)

/-- No entry but the slot's own is looked for by way of the slot. -/
def Clear (slot : Slot bits) : Prop := ∀ place, place ≠ slot → (entries place).key ≠ sentinel →
    ¬ Within (hash (entries place).key) place slot

/-- Every empty slot ends the searches that come to it; in a full table one slot does
that is nobody's way but its own. -/
structure Reachable : Prop where
  empty : ∀ slot, (entries slot).key = sentinel → Clear sentinel hash entries slot
  cut : ∃ slot, Clear sentinel hash entries slot

def Distinct : Prop := ∀ first second, (entries first).key ≠ sentinel →
    (entries first).key = (entries second).key → first = second

def Holds (key : κ) (value : ν) : Prop := key ≠ sentinel ∧ ∃ slot, entries slot = ⟨key, value⟩

end Paths

section Searches

variable {entries : Slot bits → Entry κ ν} {key : κ} {slot : Slot bits}

theorem findFrom_eq [DecidableEq κ] (key : κ) (entries : Slot bits → Entry κ ν) (fuel : Nat)
    (start : Slot bits) :
    findFrom sentinel key entries fuel start =
      (probe (fun slot => decide ((entries slot).key = key ∨ (entries slot).key = sentinel))
        fuel start).filter fun slot => decide ((entries slot).key = key) := by
  induction fuel generalizing start with
  | zero => rfl
  | succ fuel ih =>
    rw [findFrom, probe]
    by_cases here : (entries start).key = key
    · rw [if_pos here, if_pos (decide_eq_true (Or.inl here)), Option.filter_some,
        if_pos (decide_eq_true here)]
    by_cases free : (entries start).key = sentinel
    · rw [if_neg here, if_pos free, if_pos (decide_eq_true (Or.inr free)),
        Option.filter_some, if_neg (by simp [here])]
    · rw [if_neg here, if_neg free, if_neg (by simp [here, free]), ih, step_eq]

theorem probe_of_key {stops : Slot bits → Bool}
    (reachable : Reachable sentinel hash entries) (distinct : Distinct sentinel entries)
    (real : key ≠ sentinel) (here : (entries slot).key = key) (holds : stops slot = true)
    (only : ∀ slot, stops slot = true → (entries slot).key = key ∨ (entries slot).key = sentinel) :
    probe stops (2 ^ bits) (hash key) = some slot := by
  refine probe_eq (ahead_lt _ _) holds fun other way apart => ?_
  by_contra stopped
  rcases only other (Bool.eq_true_of_not_eq_false stopped) with same | free
  · have filled : (entries other).key ≠ sentinel := same ▸ real
    exact apart (distinct other slot filled (same.trans here.symm))
  · have filled : (entries slot).key ≠ sentinel := here ▸ real
    exact reachable.empty other free slot apart.symm filled (here ▸ way)

theorem find_eq_some_iff [DecidableEq κ] {map : OpenHashMap κ ν bits}
    (reachable : Reachable sentinel hash map.entries) (distinct : Distinct sentinel map.entries) :
    find sentinel hash key map = some slot ↔ key ≠ sentinel ∧ (map.entries slot).key = key := by
  unfold find
  split
  · next none => exact iff_of_false nofun fun found => found.1 none
  rename_i real
  rw [findFrom_eq, Option.filter_eq_some_iff, decide_eq_true_iff]
  constructor
  · exact fun found => ⟨real, found.2⟩
  · rintro ⟨-, here⟩
    exact ⟨probe_of_key reachable distinct real here (by simp [here])
      fun other stopped => of_decide_eq_true stopped, here⟩

end Searches

section Closing

variable {entries : Slot bits → Entry κ ν} {hole place slot origin : Slot bits}

structure Closing (sentinel : κ) (hash : κ → Slot bits) (origin hole : Slot bits) (scanned : Nat)
    (entries : Slot bits → Entry κ ν) : Prop where
  free : (entries hole).key = sentinel
  clear : ∀ slot, slot ≠ hole → (entries slot).key = sentinel → Clear sentinel hash entries slot
  cut : ∃ slot, Clear sentinel hash entries slot ∧ ahead origin hole ≤ ahead origin slot
  passed : ∀ place, ahead origin hole < ahead origin place → ahead origin place < scanned →
    (entries place).key ≠ sentinel → ¬ Within (hash (entries place).key) place hole
  behind : ahead origin hole < scanned

variable {scanned : Nat}

variable (closing : Closing sentinel hash origin hole scanned entries)

include closing

theorem Closing.before (earlier : ahead origin place < ahead origin hole)
    (filled : (entries place).key ≠ sentinel) : ¬ Within (hash (entries place).key) place hole := by
  obtain ⟨cut, clear, inFront⟩ := closing.cut
  have apart : place ≠ cut := by
    rintro rfl
    omega
  have avoids := clear place apart filled
  rw [within_iff_ahead origin] at avoids ⊢
  split
  · omega
  · next wraps =>
    rw [if_neg wraps] at avoids
    omega

theorem Closing.done (ends : scanned = 2 ^ bits ∨ ∃ place, ahead origin place = scanned ∧
      (entries place).key = sentinel) : Reachable sentinel hash entries := by
  have holeClear : Clear sentinel hash entries hole := by
    intro place apart filled
    rcases Nat.lt_trichotomy (ahead origin place) (ahead origin hole) with earlier | same | later
    · exact closing.before earlier filled
    · exact absurd (ahead_inj same) apart
    by_cases looked : ahead origin place < scanned
    · exact closing.passed place later looked filled
    rcases ends with all | ⟨stop, here, free⟩
    · exact absurd (all ▸ ahead_lt origin place) looked
    have behind := closing.behind
    have stopApart : stop ≠ hole := by
      rintro rfl
      omega
    have placeApart : place ≠ stop := by
      rintro rfl
      exact filled free
    have avoids := closing.clear stop stopApart free place placeApart filled
    rw [within_iff_ahead origin] at avoids ⊢
    split
    · next straight =>
      rw [if_pos straight] at avoids
      omega
    · next wraps =>
      rw [if_neg wraps] at avoids
      omega
  refine ⟨fun slot free => ?_, hole, holeClear⟩
  by_cases same : slot = hole
  · exact same ▸ holeClear
  · exact closing.clear slot same free

theorem Closing.skip (here : ahead origin place = scanned)
    (avoids : ¬ Within (hash (entries place).key) place hole) :
    Closing sentinel hash origin hole (scanned + 1) entries where
  __ := closing
  passed := by
    intro other later looked filled
    by_cases same : ahead origin other = scanned
    · rw [ahead_inj (same.trans here.symm)]
      exact avoids
    · exact closing.passed other later (by omega) filled
  behind := Nat.lt_succ_of_lt closing.behind

omit closing

section Sliding

variable [Inhabited ν]

theorem slide_hole (apart : hole ≠ place) :
    slide sentinel hole place entries hole = entries place := by
  rw [slide, Function.update_of_ne apart, Function.update_self]

theorem slide_place : slide sentinel hole place entries place = vacant sentinel :=
  Function.update_self _ _ _

theorem slide_other (first : slot ≠ hole) (second : slot ≠ place) :
    slide sentinel hole place entries slot = entries slot := by
  rw [slide, Function.update_of_ne second, Function.update_of_ne first]

theorem Clear.slide (clear : Clear sentinel hash entries slot) (apart : hole ≠ place)
    (filled : (entries place).key ≠ sentinel) (way : Within (hash (entries place).key) place hole) :
    Clear sentinel hash (slide sentinel hole place entries) slot := by
  intro other differ
  by_cases first : other = hole
  · rw [first, slide_hole apart]
    intro _ found
    by_cases second : place = slot
    · exact not_within_of_shorter way apart (second ▸ found)
    · exact clear place second filled (within_trans way found)
  · by_cases second : other = place
    · rw [second, slide_place]
      exact fun filled => absurd rfl filled
    · rw [slide_other first second]
      exact clear other differ

theorem Closing.slide (closing : Closing sentinel hash origin hole scanned entries)
    (here : ahead origin place = scanned) (filled : (entries place).key ≠ sentinel)
    (way : Within (hash (entries place).key) place hole) :
    Closing sentinel hash origin place (scanned + 1) (slide sentinel hole place entries) := by
  have behind := closing.behind
  have apart : hole ≠ place := by
    rintro rfl
    omega
  refine ⟨by rw [slide_place]; rfl, fun slot differ free => ?_, ?_, ?_, by omega⟩
  · have notHole : slot ≠ hole := by
      rintro rfl
      rw [slide_hole apart] at free
      exact filled free
    rw [slide_other notHole differ] at free
    exact (closing.clear slot notHole free).slide apart filled way
  · obtain ⟨cut, clear, inFront⟩ := closing.cut
    refine ⟨cut, clear.slide apart filled way, ?_⟩
    -- Had the hole passed the cut, the entry that slid would have come by the cut.
    by_contra past
    have notCut : place ≠ cut := by
      rintro rfl
      omega
    have avoids := clear place notCut filled
    rw [within_iff_ahead origin] at avoids way
    split at way
    · next straight =>
      rw [if_pos straight] at avoids
      omega
    · next wraps =>
      rw [if_neg wraps] at avoids
      omega
  · intro other later looked
    omega

theorem slide_filled (apart : hole ≠ place)
    (filled : (slide sentinel hole place entries slot).key ≠ sentinel) :
    slot = hole ∧ slide sentinel hole place entries slot = entries place ∨
      slot ≠ hole ∧ slot ≠ place ∧ slide sentinel hole place entries slot = entries slot := by
  by_cases first : slot = hole
  · exact .inl ⟨first, by rw [first]; exact slide_hole apart⟩
  by_cases second : slot = place
  · rw [second, slide_place] at filled
    exact absurd rfl filled
  · exact .inr ⟨first, second, slide_other first second⟩

theorem slide_distinct (distinct : Distinct sentinel entries) (apart : hole ≠ place)
    (filled : (entries place).key ≠ sentinel) :
    Distinct sentinel (slide sentinel hole place entries) := by
  intro first second firstFilled same
  have secondFilled := same ▸ firstFilled
  rcases slide_filled apart firstFilled with ⟨rfl, firstHas⟩ | ⟨-, firstApart, firstHas⟩
  · rcases slide_filled apart secondFilled with ⟨rfl, -⟩ | ⟨-, secondApart, secondHas⟩
    · rfl
    · rw [firstHas, secondHas] at same
      exact absurd (distinct place second filled same).symm secondApart
  · rcases slide_filled apart secondFilled with ⟨rfl, secondHas⟩ | ⟨-, -, secondHas⟩
    · rw [firstHas, secondHas] at same
      exact absurd (distinct first place (firstHas ▸ firstFilled) same) firstApart
    · rw [firstHas, secondHas] at same
      exact distinct first second (firstHas ▸ firstFilled) same

theorem slide_holds (free : (entries hole).key = sentinel) (apart : hole ≠ place)
    (key : κ) (value : ν) : Holds sentinel (slide sentinel hole place entries) key value ↔
      Holds sentinel entries key value := by
  refine and_congr_right fun real => ?_
  constructor
  · rintro ⟨slot, has⟩
    have filled : (slide sentinel hole place entries slot).key ≠ sentinel := by
      rw [has]
      exact real
    rcases slide_filled apart filled with ⟨-, same⟩ | ⟨-, -, same⟩
    · exact ⟨place, same.symm.trans has⟩
    · exact ⟨slot, same.symm.trans has⟩
  · rintro ⟨slot, has⟩
    by_cases second : slot = place
    · exact ⟨hole, (slide_hole apart).trans (second ▸ has)⟩
    have first : slot ≠ hole := by
      rintro rfl
      rw [has] at free
      exact real free
    exact ⟨slot, (slide_other first second).trans has⟩

variable [DecidableEq κ]

theorem closeHole_reachable {fuel : Nat} {scanned : Nat} {next : Slot bits}
    (closing : Closing sentinel hash origin hole scanned entries)
    (all : scanned + fuel = 2 ^ bits) (here : 0 < fuel → ahead origin next = scanned) :
    Reachable sentinel hash (closeHole sentinel hash fuel hole next entries) := by
  induction fuel generalizing hole scanned next entries with
  | zero => exact closing.done (.inl all)
  | succ fuel ih =>
    have position := here (Nat.succ_pos fuel)
    have later : 0 < fuel → ahead origin (step next) = scanned + 1 := by
      intro more
      rw [step_eq, ahead_next origin (by omega), position]
    rw [closeHole]
    split
    · next free => exact closing.done (.inr ⟨next, position, free⟩)
    rename_i filled
    split
    · next way =>
      exact ih (closing.slide position filled ((onPath_iff _ _ _).mp way))
        (by omega) later
    · next avoids =>
      exact ih (closing.skip position (mt (onPath_iff _ _ _).mpr avoids))
        (by omega) later

theorem closeHole_distinct (fuel : Nat) (next : Slot bits) (distinct : Distinct sentinel entries)
    (free : (entries hole).key = sentinel) :
    Distinct sentinel (closeHole sentinel hash fuel hole next entries) := by
  induction fuel generalizing hole next entries with
  | zero => exact distinct
  | succ fuel ih =>
    rw [closeHole]
    split
    · exact distinct
    rename_i filled
    split
    · have apart : hole ≠ next := fun same => filled (same ▸ free)
      exact ih _ (slide_distinct distinct apart filled) (by rw [slide_place]; rfl)
    · exact ih _ distinct free

theorem closeHole_holds (fuel : Nat) (next : Slot bits)
    (free : (entries hole).key = sentinel) (key : κ) (value : ν) :
    Holds sentinel (closeHole sentinel hash fuel hole next entries) key value ↔
      Holds sentinel entries key value := by
  induction fuel generalizing hole next entries with
  | zero => exact Iff.rfl
  | succ fuel ih =>
    rw [closeHole]
    split
    · exact Iff.rfl
    rename_i filled
    split
    · have apart : hole ≠ next := fun same => filled (same ▸ free)
      exact (ih _ (by rw [slide_place]; rfl)).trans
        (slide_holds free apart key value)
    · exact ih _ free

end Sliding

end Closing

section Writing

variable {first second entries : Slot bits → Entry κ ν} {slot : Slot bits} {key : κ} {value : ν}

theorem Reachable.of_same_keys (reachable : Reachable sentinel hash first)
    (same : ∀ slot, (second slot).key = (first slot).key) : Reachable sentinel hash second := by
  have clear : ∀ slot, Clear sentinel hash first slot → Clear sentinel hash second slot := by
    intro slot clear place apart filled
    rw [same] at filled ⊢
    exact clear place apart filled
  obtain ⟨cut, cutClear⟩ := reachable.cut
  exact ⟨fun slot free => clear slot (reachable.empty slot ((same slot).symm.trans free)),
    cut, clear cut cutClear⟩

theorem replace_reachable (reachable : Reachable sentinel hash entries)
    (here : (entries slot).key = key) :
    Reachable sentinel hash (Function.update entries slot ⟨key, value⟩) := by
  refine reachable.of_same_keys fun place => ?_
  by_cases same : place = slot
  · rw [same, Function.update_self, here]
  · rw [Function.update_of_ne same]

theorem put_reachable (reachable : Reachable sentinel hash entries) (real : key ≠ sentinel)
    (free : (entries slot).key = sentinel)
    (before : ∀ other, Within (hash key) slot other → other ≠ slot →
      (entries other).key ≠ sentinel) :
    Reachable sentinel hash (Function.update entries slot ⟨key, value⟩) := by
  refine ⟨fun empty isFree => ?_, slot, ?_⟩
  · have apart : empty ≠ slot := by
      rintro rfl
      rw [Function.update_self] at isFree
      exact real isFree
    rw [Function.update_of_ne apart] at isFree
    intro place placeApart filled
    by_cases here : place = slot
    · rw [here, Function.update_self]
      exact fun way => before empty way apart isFree
    · rw [Function.update_of_ne here] at filled ⊢
      exact reachable.empty empty isFree place placeApart filled
  · intro place apart filled
    rw [Function.update_of_ne apart] at filled ⊢
    exact reachable.empty slot free place apart filled

theorem put_distinct (distinct : Distinct sentinel entries)
    (elsewhere : ∀ other, other ≠ slot → (entries other).key ≠ key) :
    Distinct sentinel (Function.update entries slot ⟨key, value⟩) := by
  intro one other filled same
  by_cases oneHere : one = slot
  · by_cases otherHere : other = slot
    · rw [oneHere, otherHere]
    · rw [oneHere, Function.update_self, Function.update_of_ne otherHere] at same
      exact absurd same.symm (elsewhere other otherHere)
  · rw [Function.update_of_ne oneHere] at filled same
    by_cases otherHere : other = slot
    · rw [otherHere, Function.update_self] at same
      exact absurd same (elsewhere one oneHere)
    · rw [Function.update_of_ne otherHere] at same
      exact distinct one other filled same

theorem put_holds [DecidableEq κ] (real : key ≠ sentinel)
    (here : (entries slot).key = sentinel ∨ (entries slot).key = key)
    (elsewhere : ∀ other, other ≠ slot → (entries other).key ≠ key) (other : κ) (found : ν) :
    Holds sentinel (Function.update entries slot ⟨key, value⟩) other found ↔
      if other = key then found = value else Holds sentinel entries other found := by
  split
  · next same =>
    subst same
    constructor
    · rintro ⟨-, place, has⟩
      by_cases written : place = slot
      · rw [written, Function.update_self] at has
        exact (congrArg Entry.value has).symm
      · rw [Function.update_of_ne written] at has
        exact absurd (congrArg Entry.key has) (elsewhere place written)
    · rintro rfl
      exact ⟨real, slot, Function.update_self _ _ _⟩
  · next differ =>
    refine and_congr_right fun otherReal => exists_congr fun place => ?_
    by_cases written : place = slot
    · rw [written, Function.update_self]
      refine iff_of_false (fun has => differ (congrArg Entry.key has).symm) fun has => ?_
      rw [has] at here
      exact here.elim otherReal differ
    · rw [Function.update_of_ne written]

theorem remove_holds [Inhabited ν] [DecidableEq κ] (distinct : Distinct sentinel entries)
    (real : key ≠ sentinel) (here : (entries slot).key = key) (other : κ) (found : ν) :
    Holds sentinel (Function.update entries slot (vacant sentinel)) other found ↔
      other ≠ key ∧ Holds sentinel entries other found := by
  constructor
  · rintro ⟨otherReal, place, has⟩
    by_cases written : place = slot
    · rw [written, Function.update_self] at has
      exact absurd (congrArg Entry.key has).symm otherReal
    rw [Function.update_of_ne written] at has
    refine ⟨?_, otherReal, place, has⟩
    rintro rfl
    have same : (entries place).key = (entries slot).key := by rw [has, here]
    exact written (distinct place slot (by rw [has]; exact real) same)
  · rintro ⟨differ, otherReal, place, has⟩
    refine ⟨otherReal, place, ?_⟩
    have written : place ≠ slot := by
      rintro rfl
      rw [has] at here
      exact differ here
    rw [Function.update_of_ne written]
    exact has

theorem remove_distinct [Inhabited ν] (distinct : Distinct sentinel entries) :
    Distinct sentinel (Function.update entries slot (vacant sentinel)) := by
  intro one other filled same
  have oneApart : one ≠ slot := by
    rintro rfl
    rw [Function.update_self] at filled
    exact filled rfl
  have otherApart : other ≠ slot := by
    rintro rfl
    rw [same, Function.update_self] at filled
    exact filled rfl
  rw [Function.update_of_ne oneApart] at filled same
  rw [Function.update_of_ne otherApart] at same
  exact distinct one other filled same

theorem remove_closing [Inhabited ν] (reachable : Reachable sentinel hash entries)
    (slot : Slot bits) :
    Closing sentinel hash slot slot 1 (Function.update entries slot (vacant sentinel)) := by
  have clear : ∀ other, Clear sentinel hash entries other →
      Clear sentinel hash (Function.update entries slot (vacant sentinel)) other := by
    intro other clear place apart filled
    by_cases here : place = slot
    · rw [here, Function.update_self] at filled
      exact absurd rfl filled
    · rw [Function.update_of_ne here] at filled ⊢
      exact clear place apart filled
  obtain ⟨cut, cutClear⟩ := reachable.cut
  refine ⟨by rw [Function.update_self]; rfl, fun other apart free => ?_,
    ⟨cut, clear cut cutClear, by rw [ahead_self]; exact Nat.zero_le _⟩, ?_, by simp⟩
  · rw [Function.update_of_ne apart] at free
    exact clear other (reachable.empty other free)
  · intro place later looked
    rw [ahead_self] at later
    omega

end Writing

structure Represents [DecidableEq κ] (sentinel : κ) (hash : κ → Slot bits)
    (map : OpenHashMap κ ν bits) (table : Table κ ν) : Prop where
  reachable : Reachable sentinel hash map.entries
  distinct : Distinct sentinel map.entries
  holds : ∀ key value, table.lookup key = some value ↔ Holds sentinel map.entries key value
  size : map.size = table.keys.length

section Operations

variable [DecidableEq κ] {map : OpenHashMap κ ν bits} {table : Table κ ν} {key : κ} {value : ν}
  {slot : Slot bits}

variable (represents : Represents sentinel hash map table)

include represents

theorem Represents.mem_iff :
    key ∈ table ↔ key ≠ sentinel ∧ ∃ slot, (map.entries slot).key = key := by
  rw [← AList.lookup_isSome, Option.isSome_iff_exists]
  constructor
  · rintro ⟨value, found⟩
    obtain ⟨real, slot, has⟩ := (represents.holds key value).mp found
    exact ⟨real, slot, by rw [has]⟩
  · rintro ⟨real, slot, here⟩
    exact ⟨(map.entries slot).value, (represents.holds key _).mpr ⟨real, slot, by rw [← here]⟩⟩

theorem Represents.filled_card :
    (Finset.univ.filter fun slot => (map.entries slot).key ≠ sentinel).card =
      table.keys.length := by
  rw [← toFinset_card_of_nodup (AList.keys_nodup table)]
  refine Finset.card_bij (fun slot _ => (map.entries slot).key) ?_ ?_ ?_
  · intro slot filled
    rw [mem_toFinset]
    exact represents.mem_iff.mpr ⟨(Finset.mem_filter.mp filled).2, slot, rfl⟩
  · intro first filled second _ same
    exact represents.distinct first second (Finset.mem_filter.mp filled).2 same
  · intro key mem
    obtain ⟨real, slot, here⟩ := represents.mem_iff.mp (mem_toFinset.mp mem)
    exact ⟨slot, Finset.mem_filter.mpr ⟨Finset.mem_univ _, by rw [here]; exact real⟩, here⟩

theorem Represents.full_iff :
    table.keys.length = 2 ^ bits ↔ ∀ slot, (map.entries slot).key ≠ sentinel := by
  have card := represents.filled_card
  have all := Finset.card_filter_eq_iff
    (s := (Finset.univ : Finset (Slot bits))) (p := fun slot => (map.entries slot).key ≠ sentinel)
  rw [Finset.card_univ, Fintype.card_fin, card] at all
  rw [all]
  exact ⟨fun each slot => each slot (Finset.mem_univ _), fun each slot _ => each slot⟩

theorem Represents.find (key : κ) :
    (find sentinel hash key map).map (fun slot => (map.entries slot).value) =
      table.lookup key := by
  apply Option.ext
  intro value
  rw [represents.holds key value, Option.map_eq_some_iff]
  constructor
  · rintro ⟨slot, found, rfl⟩
    obtain ⟨real, here⟩ := (find_eq_some_iff represents.reachable represents.distinct).mp found
    exact ⟨real, slot, by rw [← here]⟩
  · rintro ⟨real, slot, has⟩
    exact ⟨slot, (find_eq_some_iff represents.reachable represents.distinct).mpr
      ⟨real, by rw [has]⟩, by rw [has]⟩

omit represents

theorem insertFrom_eq (key : κ) (value : ν) (fuel : Nat) (start : Slot bits)
    (map : OpenHashMap κ ν bits) :
    insertFrom sentinel key value fuel start map =
      match probe (fun slot => decide ((map.entries slot).key = sentinel ∨
        (map.entries slot).key = key)) fuel start with
      | none => (map, none)
      | some idx =>
        ({ entries := Function.update map.entries idx ⟨key, value⟩
           size := if (map.entries idx).key = sentinel then map.size + 1 else map.size },
          some idx) := by
  induction fuel generalizing start with
  | zero => rfl
  | succ fuel ih =>
    rw [insertFrom, probe]
    by_cases here : (map.entries start).key = sentinel ∨ (map.entries start).key = key
    · rw [if_pos here, if_pos (decide_eq_true here)]
    · rw [if_neg here, if_neg (by simpa using here), ih, step_eq]

variable (represents : Represents sentinel hash map table)

include represents

theorem Represents.insert_new (real : key ≠ sentinel) (absent : key ∉ table) (free : (map.entries slot).key = sentinel)
    (before : ∀ other, Within (hash key) slot other → other ≠ slot →
      (map.entries other).key ≠ sentinel) : Represents sentinel hash
      ⟨Function.update map.entries slot ⟨key, value⟩, map.size + 1⟩
      (AList.insert key value table) := by
  have nowhere : ∀ other, (map.entries other).key ≠ key := fun other same =>
    absent (represents.mem_iff.mpr ⟨real, other, same⟩)
  refine ⟨put_reachable represents.reachable real free before,
    put_distinct represents.distinct fun other _ => nowhere other, fun other found => ?_, ?_⟩
  · rw [put_holds real (.inl free) (fun place _ => nowhere place), Table.lookup_insert_eq]
    split
    · next same => rw [Option.some_inj, eq_comm]
    · exact represents.holds other found
  · have length : (AList.insert key value table).keys.length = table.keys.length + 1 := by
      rw [AList.keys_insert, erase_of_not_mem absent, length_cons]
    rw [length, represents.size]
    rfl

theorem Represents.insert_old (real : key ≠ sentinel) (here : (map.entries slot).key = key) :
    Represents sentinel hash ⟨Function.update map.entries slot ⟨key, value⟩, map.size⟩
      (AList.insert key value table) := by
  have elsewhere : ∀ other, other ≠ slot → (map.entries other).key ≠ key :=
    fun other apart same =>
      apart (represents.distinct other slot (same ▸ real) (same.trans here.symm))
  refine ⟨replace_reachable represents.reachable here,
    put_distinct represents.distinct elsewhere, fun other found => ?_, ?_⟩
  · rw [put_holds real (.inr here) elsewhere, Table.lookup_insert_eq]
    split
    · next same => rw [Option.some_inj, eq_comm]
    · exact represents.holds other found
  · have present : key ∈ table.keys := represents.mem_iff.mpr ⟨real, slot, here⟩
    have length : (AList.insert key value table).keys.length = table.keys.length := by
      rw [AList.keys_insert, length_cons, length_erase_of_mem present]
      exact Nat.succ_pred_eq_of_pos (length_pos_of_mem present)
    rw [length, ← represents.size]

theorem Represents.insert (key : κ) (value : ν) :
    (key = sentinel ∨ (key ∉ table ∧ table.keys.length = 2 ^ bits)) ∧
        insert sentinel hash key value map = (map, none) ∨
      ¬ (key = sentinel ∨ (key ∉ table ∧ table.keys.length = 2 ^ bits)) ∧
        ∃ after slot, insert sentinel hash key value map = (after, some slot) ∧
          (after.entries slot).value = value ∧
          Represents sentinel hash after (AList.insert key value table) := by
  unfold OpenHashMap.insert
  split
  · next none => exact .inl ⟨.inl none, rfl⟩
  rename_i real
  rw [insertFrom_eq]
  cases reached : probe (fun slot => decide ((map.entries slot).key = sentinel ∨
      (map.entries slot).key = key)) (2 ^ bits) (hash key) with
  | none =>
    have nowhere := fun slot => of_decide_eq_false (probe_all_none reached slot)
    refine .inl ⟨.inr ⟨fun present => ?_, ?_⟩, rfl⟩
    · obtain ⟨-, slot, here⟩ := represents.mem_iff.mp present
      exact nowhere slot (.inr here)
    · exact represents.full_iff.mpr fun slot free => nowhere slot (.inl free)
  | some slot =>
    obtain ⟨stopped, before⟩ := probe_some reached
    refine .inr ?_
    by_cases free : (map.entries slot).key = sentinel
    · have absent : key ∉ table := by
        intro present
        obtain ⟨-, place, here⟩ := represents.mem_iff.mp present
        have found := probe_of_key represents.reachable represents.distinct real here
          (decide_eq_true (Or.inr here)) fun other stopped =>
            Or.symm (of_decide_eq_true stopped)
        cases reached.symm.trans found
        exact real (here.symm.trans free)
      refine ⟨?_, _, slot, rfl, ?_, ?_⟩
      · rintro (none | ⟨-, full⟩)
        · exact real none
        · exact represents.full_iff.mp full slot free
      · show (Function.update map.entries slot ⟨key, value⟩ slot).value = value
        rw [Function.update_self]
      · rw [if_pos free]
        exact represents.insert_new real absent free fun other way apart stops =>
          of_decide_eq_false (before other way apart) (.inl stops)
    · have here := (of_decide_eq_true stopped).resolve_left free
      refine ⟨?_, _, slot, rfl, ?_, ?_⟩
      · rintro (none | ⟨absent, -⟩)
        · exact real none
        · exact absent (represents.mem_iff.mpr ⟨real, slot, here⟩)
      · show (Function.update map.entries slot ⟨key, value⟩ slot).value = value
        rw [Function.update_self]
      · rw [if_neg free]
        exact represents.insert_old real here

omit represents

theorem eraseFrom_eq [Inhabited ν] (key : κ) (fuel : Nat) (start : Slot bits)
    (map : OpenHashMap κ ν bits) :
    eraseFrom sentinel hash key fuel start map =
      match probe (fun slot => decide ((map.entries slot).key = key)) fuel start with
      | none => (map, false)
      | some idx =>
        ({ entries := closeHole sentinel hash (2 ^ bits - 1) idx (step idx)
             (Function.update map.entries idx (vacant sentinel))
           size := map.size - 1 }, true) := by
  induction fuel generalizing start with
  | zero => rfl
  | succ fuel ih =>
    rw [eraseFrom, probe]
    by_cases here : (map.entries start).key = key
    · rw [if_pos here, if_pos (decide_eq_true here)]
    · rw [if_neg here, if_neg (by simpa using here), ih, step_eq]

theorem Represents.erase_at [Inhabited ν] (represents : Represents sentinel hash map table)
    (real : key ≠ sentinel) (here : (map.entries slot).key = key) : Represents sentinel hash
      ⟨closeHole sentinel hash (2 ^ bits - 1) slot (step slot)
        (Function.update map.entries slot (vacant sentinel)), map.size - 1⟩ (table.erase key) := by
  have free : (Function.update map.entries slot (vacant sentinel) slot).key = sentinel := by
    rw [Function.update_self]
    rfl
  refine ⟨closeHole_reachable (remove_closing represents.reachable slot) ?_ fun more => ?_,
    closeHole_distinct _ _ (remove_distinct represents.distinct) free,
    fun other found => ?_, ?_⟩
  · have positive := Nat.two_pow_pos bits
    omega
  · rw [step_eq, ahead_next slot (by rw [ahead_self]; omega), ahead_self]
  · rw [closeHole_holds _ _ free, remove_holds represents.distinct real here,
      ← represents.holds, Table.lookup_erase_eq]
    split
    · next same => exact iff_of_false nofun fun found => found.1 same
    · next differ => exact (and_iff_right differ).symm
  · have present : key ∈ table.keys := represents.mem_iff.mpr ⟨real, slot, here⟩
    have length : (table.erase key).keys.length = table.keys.length - 1 := by
      rw [AList.keys_erase, length_erase_of_mem present]
    have positive := length_pos_of_mem present
    have size := represents.size
    rw [length]
    simp only
    omega

theorem erase_of_not_mem (absent : key ∉ table) : table.erase key = table :=
  AList.ext (kerase_of_notMem_keys absent)

theorem Represents.erase [Inhabited ν] (represents : Represents sentinel hash map table) (key : κ) :
    (erase sentinel hash key map).2 = decide (key ∈ table) ∧
      Represents sentinel hash (erase sentinel hash key map).1 (table.erase key) := by
  have unchanged : key ∉ table → false = decide (key ∈ table) ∧
      Represents sentinel hash map (table.erase key) := fun absent =>
    ⟨(decide_eq_false absent).symm, by rw [erase_of_not_mem absent]; exact represents⟩
  unfold OpenHashMap.erase
  split
  · next none => exact unchanged fun present => (represents.mem_iff.mp present).1 none
  rename_i real
  rw [eraseFrom_eq]
  cases reached : probe (fun slot => decide ((map.entries slot).key = key)) (2 ^ bits)
      (hash key) with
  | none =>
    refine unchanged fun present => ?_
    obtain ⟨-, slot, here⟩ := represents.mem_iff.mp present
    exact of_decide_eq_false (probe_all_none reached slot) here
  | some slot =>
    have here := of_decide_eq_true (probe_some reached).1
    have present := represents.mem_iff.mpr ⟨real, slot, here⟩
    exact ⟨(decide_eq_true present).symm, represents.erase_at real here⟩

theorem represents_initial [Inhabited ν] (sentinel : κ) (hash : κ → Slot bits) :
    Represents sentinel hash (initial sentinel : OpenHashMap κ ν bits) ∅ := by
  have empty : ∀ slot, ((initial sentinel : OpenHashMap κ ν bits).entries slot).key = sentinel :=
    fun _ => rfl
  have clear : ∀ slot, Clear sentinel hash (initial sentinel : OpenHashMap κ ν bits).entries slot :=
    fun slot place _ filled => absurd (empty place) filled
  refine ⟨⟨fun slot _ => clear slot, ⟨0, Nat.two_pow_pos bits⟩, clear _⟩,
    fun first _ filled => absurd (empty first) filled, fun key value => ?_, rfl⟩
  refine iff_of_false nofun ?_
  rintro ⟨real, slot, has⟩
  exact real ((congrArg Entry.key has).symm.trans (empty slot))

end Operations

section Runs

variable [DecidableEq κ] [Inhabited ν] {map : OpenHashMap κ ν bits} {table : Table κ ν}

theorem Represents.step (represents : Represents sentinel hash map table) (call : MapCall κ ν) :
    Represents sentinel hash ((openHashMap sentinel hash).step map call).1
        ((boundedMap sentinel (2 ^ bits)).step table call).1 ∧
      ((openHashMap sentinel hash).step map call).2 =
        ((boundedMap sentinel (2 ^ bits)).step table call).2 := by
  cases call with
  | insert key value =>
    rcases represents.insert key value with ⟨refused, same⟩ | ⟨taken, after, slot, same, stored, kept⟩
    · simp only [openHashMap, boundedMap, same, if_pos refused]
      exact ⟨represents, by rw [represents.size]; rfl⟩
    · simp only [openHashMap, boundedMap, same, if_neg taken]
      refine ⟨kept, ?_⟩
      rw [kept.size, Option.map_some, stored]
  | erase key =>
    obtain ⟨present, kept⟩ := represents.erase key
    refine ⟨kept, ?_⟩
    show [(MapReply.erased _, _)] = [(MapReply.erased _, _)]
    rw [present, kept.size]
  | find key =>
    refine ⟨represents, ?_⟩
    show [(MapReply.found _, _)] = [(MapReply.found _, _)]
    rw [represents.find, represents.size]
  | clear => exact ⟨represents_initial sentinel hash, rfl⟩

/-- Whatever the hash function does, the map answers every sequence of calls as a
finite map of its capacity does. -/
theorem openHashMap_refines (sentinel : κ) (hash : κ → Slot bits) (calls : List (MapCall κ ν)) :
    (openHashMap sentinel hash).outputs (initial sentinel) calls =
      (boundedMap sentinel (2 ^ bits)).outputs ∅ calls := by
  have step : ∀ (map : OpenHashMap κ ν bits) (table : Table κ ν) (call : MapCall κ ν),
      Represents sentinel hash map table → True →
        Represents sentinel hash ((openHashMap sentinel hash).step map call).1
            ((boundedMap sentinel (2 ^ bits)).step table call).1 ∧
          ((openHashMap sentinel hash).step map call).2.map id =
            ((boundedMap sentinel (2 ^ bits)).step table call).2 := by
    intro map table call represents _
    rw [map_id]
    exact represents.step call
  have run := Machine.simulates step (represents_initial sentinel hash) calls
    ((openHashMap sentinel hash).along_true (initial sentinel) calls)
  rw [← run.2, map_id]

end Runs

end GtnhPlatform.Registry.OpenHashMap
