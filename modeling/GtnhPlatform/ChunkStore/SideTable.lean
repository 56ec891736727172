import Mathlib.Data.UInt
import Mathlib.Algebra.Group.Defs
import Mathlib.Data.Fintype.Card
import Mathlib.Data.List.FinRange
import Mathlib.Logic.Function.Basic
import GtnhPlatform.Data.Bytes

namespace GtnhPlatform.ChunkStore

def SEC_VOL : Nat := 4096

abbrev LocalIndex := Fin SEC_VOL

abbrev Reader := List UInt8

structure WireNumber (ν : Type) where
  width : Nat
  toNat : ν → Nat
  ofNat : Nat → ν
  ofNat_toNat : ∀ value, ofNat (toNat value % 256 ^ width) = value

namespace WireNumber

variable {ν : Type} (number : WireNumber ν)

def write (value : ν) : List UInt8 := Bytes.putLittleEndian number.width (number.toNat value)

def read (r : Reader) : Option (ν × Reader) :=
  if r.length < number.width then none
  else some (number.ofNat (Bytes.littleEndian (r.take number.width)), r.drop number.width)

@[simp] theorem write_length (value : ν) : (number.write value).length = number.width :=
  Bytes.length_putLittleEndian _ _

@[simp] theorem read_write (value : ν) (rest : Reader) :
    number.read (number.write value ++ rest) = some (value, rest) := by
  rw [read, if_neg (by simp)]
  have size := number.write_length value
  rw [List.take_left' size, List.drop_left' size, write, Bytes.littleEndian_putLittleEndian,
    number.ofNat_toNat]

end WireNumber

def u8 : WireNumber UInt8 where
  width := 1
  toNat := UInt8.toNat
  ofNat := UInt8.ofNat
  ofNat_toNat value := by
    rw [Nat.mod_eq_of_lt (by simpa using value.toNat_lt)]
    exact UInt8.ofNat_toNat

def u16 : WireNumber UInt16 where
  width := 2
  toNat := UInt16.toNat
  ofNat := UInt16.ofNat
  ofNat_toNat value := by
    rw [Nat.mod_eq_of_lt (by simpa using value.toNat_lt)]
    exact UInt16.ofNat_toNat

def u32 : WireNumber UInt32 where
  width := 4
  toNat := UInt32.toNat
  ofNat := UInt32.ofNat
  ofNat_toNat value := by
    rw [Nat.mod_eq_of_lt (by simpa using value.toNat_lt)]
    exact UInt32.ofNat_toNat

def skip (n : Nat) (r : Reader) : Option Reader := if r.length < n then none else some (r.drop n)

variable {bytes : List UInt8}

theorem skip_append (size : bytes.length = n) (rest : Reader) :
    skip n (bytes ++ rest) = some rest := by
  rw [skip, if_neg (by simp [size]), List.drop_left' size]

def readBytes (n : Nat) (r : Reader) : Option (List UInt8 × Reader) :=
  if r.length < n then none else some (r.take n, r.drop n)

theorem readBytes_append (size : bytes.length = n) (rest : Reader) :
    readBytes n (bytes ++ rest) = some (bytes, rest) := by
  rw [readBytes, if_neg (by simp [size]), List.take_left' size, List.drop_left' size]

def readNumbers {ν : Type} (number : WireNumber ν) : Nat → Reader → Option (List ν × Reader)
  | 0, r => some ([], r)
  | n + 1, r =>
    match number.read r with
    | none => none
    | some (value, r) => (readNumbers number n r).map fun result => (value :: result.1, result.2)

theorem readNumbers_append {ν : Type} (number : WireNumber ν) (values : List ν) (rest : Reader) :
    readNumbers number values.length (values.flatMap number.write ++ rest) = some (values, rest) := by
  induction values with
  | nil => rfl
  | cons value values ih =>
    rw [List.flatMap_cons, List.append_assoc, List.length_cons, readNumbers, number.read_write]
    dsimp only
    rw [ih, Option.map_some]

open List

/-! Entries sorted by cell, or one value for each cell once there are many. A value
of zero is no entry. -/

structure SideTable (ν : Type) where
  entries : List (LocalIndex × ν)
  flat : Option (LocalIndex → ν)

namespace SideTable

def SPARSE_THRESHOLD : Nat := 256

variable {ν : Type}

section Operations

variable [DecidableEq ν] [Zero ν]

def empty : SideTable ν := ⟨[], none⟩

def lookupEntry (li : LocalIndex) : List (LocalIndex × ν) → ν
  | [] => 0
  | (cell, value) :: rest =>
    if cell < li then lookupEntry li rest else if cell = li then value else 0

def insertEntry (li : LocalIndex) (value : ν) : List (LocalIndex × ν) → List (LocalIndex × ν)
  | [] => [(li, value)]
  | (cell, old) :: rest =>
    if cell < li then (cell, old) :: insertEntry li value rest
    else if cell = li then (cell, value) :: rest
    else (li, value) :: (cell, old) :: rest

def eraseEntry (li : LocalIndex) : List (LocalIndex × ν) → List (LocalIndex × ν)
  | [] => []
  | (cell, old) :: rest =>
    if cell < li then (cell, old) :: eraseEntry li rest
    else if cell = li then rest
    else (cell, old) :: rest

def get (table : SideTable ν) (li : LocalIndex) : ν :=
  match table.flat with
  | some values => values li
  | none => lookupEntry li table.entries

def remove (table : SideTable ν) (li : LocalIndex) : SideTable ν :=
  match table.flat with
  | some values => { table with flat := some (Function.update values li 0) }
  | none => { table with entries := eraseEntry li table.entries }

def flatten (entries : List (LocalIndex × ν)) : SideTable ν where
  entries := []
  flat := some (entries.foldl (fun values entry => Function.update values entry.1 entry.2) fun _ => 0)

def set (table : SideTable ν) (li : LocalIndex) (value : ν) : SideTable ν :=
  if value = 0 then table.remove li
  else
    match table.flat with
    | some values => { table with flat := some (Function.update values li value) }
    | none =>
      let entries := insertEntry li value table.entries
      if table.entries.length < entries.length ∧ SPARSE_THRESHOLD < entries.length then
        flatten entries
      else { table with entries := entries }

def written (table : SideTable ν) : List (LocalIndex × ν) :=
  match table.flat with
  | some values =>
    (finRange SEC_VOL).filterMap fun li =>
      if values li ≠ 0 then some (li, values li) else none
  | none => table.entries

variable (number : WireNumber ν)

def writeEntry (entry : LocalIndex × ν) : List UInt8 :=
  u16.write (UInt16.ofNat entry.1.val) ++ number.write entry.2

def writeToWire (table : SideTable ν) : List UInt8 :=
  u16.write (UInt16.ofNat table.written.length) ++ table.written.flatMap (writeEntry number)

/-- An entry of no cell of the section is read and dropped. -/
def readEntries (number : WireNumber ν) : Nat → Reader → Option (List (LocalIndex × ν) × Reader)
  | 0, r => some ([], r)
  | n + 1, r =>
    match u16.read r with
    | none => none
    | some (li, r) =>
      match number.read r with
      | none => none
      | some (value, r) =>
        (readEntries number n r).map fun result =>
          (if inside : li.toNat < SEC_VOL then (⟨li.toNat, inside⟩, value) :: result.1
            else result.1, result.2)

def readFromWire (r : Reader) :
    Option (List (LocalIndex × ν) × Reader) :=
  match u16.read r with
  | none => none
  | some (count, r) => readEntries number count.toNat r

def skipOnWire (r : Reader) : Option Reader :=
  match u16.read r with
  | none => none
  | some (count, r) => skip (count.toNat * (2 + number.width)) r

def fill (entries : List (LocalIndex × ν)) : SideTable ν :=
  entries.foldl (fun table entry => table.set entry.1 entry.2) empty

end Operations

variable {entries : List (LocalIndex × ν)} {li : LocalIndex}

theorem insertEntry_mem (mem : entry ∈ insertEntry li value entries) :
    entry = (li, value) ∨ entry ∈ entries := by
  induction entries with
  | nil => exact Or.inl (mem_singleton.mp mem)
  | cons first rest ih =>
    obtain ⟨cell, old⟩ := first
    rw [insertEntry] at mem
    split at mem
    · rcases mem_cons.mp mem with rfl | later
      · exact Or.inr mem_cons_self
      · exact (ih later).imp_right (mem_cons_of_mem _)
    split at mem
    · next same =>
      rcases mem_cons.mp mem with rfl | later
      · exact Or.inl (by rw [same])
      · exact Or.inr (mem_cons_of_mem _ later)
    · exact mem_cons.mp mem

theorem eraseEntry_sublist (li : LocalIndex) (entries : List (LocalIndex × ν)) :
    (eraseEntry li entries).Sublist entries := by
  induction entries with
  | nil => exact List.Sublist.slnil
  | cons first rest ih =>
    obtain ⟨cell, old⟩ := first
    rw [eraseEntry]
    split
    · exact ih.cons_cons _
    · split
      · exact sublist_cons_self _ _
      · exact List.Sublist.refl _

theorem insertEntry_sorted (sorted : entries.Pairwise fun first second => first.1 < second.1) :
    (insertEntry li value entries).Pairwise fun first second => first.1 < second.1 := by
  induction entries with
  | nil => exact pairwise_singleton _ _
  | cons first rest ih =>
    obtain ⟨cell, old⟩ := first
    obtain ⟨after, sorted⟩ := pairwise_cons.mp sorted
    rw [insertEntry]
    by_cases before : cell < li
    · rw [if_pos before]
      refine pairwise_cons.mpr ⟨?_, ih sorted⟩
      intro entry mem
      rcases insertEntry_mem mem with rfl | old
      · exact before
      · exact after entry old
    · rw [if_neg before]
      by_cases same : cell = li
      · rw [if_pos same]
        exact pairwise_cons.mpr ⟨after, sorted⟩
      rw [if_neg same]
      have next : li < cell := lt_of_le_of_ne (not_lt.mp before) (Ne.symm same)
      refine pairwise_cons.mpr ⟨?_, pairwise_cons.mpr ⟨after, sorted⟩⟩
      intro entry mem
      rcases mem_cons.mp mem with rfl | later
      · exact next
      · exact next.trans (after entry later)

section Lookup

variable [Zero ν] {entries : List (LocalIndex × ν)} {li : LocalIndex}

theorem lookupEntry_of_lt (later : ∀ entry ∈ entries, li < entry.1) :
    lookupEntry li entries = 0 := by
  cases entries with
  | nil => rfl
  | cons entry rest =>
    have after := later entry mem_cons_self
    rw [lookupEntry, if_neg after.asymm, if_neg after.ne']

variable (sorted : entries.Pairwise fun first second => first.1 < second.1)

include sorted

theorem lookup_insertEntry (other : LocalIndex) : lookupEntry other (insertEntry li value entries) =
      if other = li then value else lookupEntry other entries := by
  induction entries with
  | nil =>
    rw [insertEntry, lookupEntry, lookupEntry]
    by_cases same : other = li
    · rw [if_pos same, if_neg (by simp [same]), if_pos same.symm]
    · rw [if_neg same, if_neg (Ne.symm same)]
      split <;> rfl
  | cons first rest ih =>
    obtain ⟨cell, old⟩ := first
    obtain ⟨after, sorted⟩ := pairwise_cons.mp sorted
    rw [insertEntry]
    by_cases before : cell < li
    · rw [if_pos before, lookupEntry, ih sorted, lookupEntry]
      by_cases same : other = li
      · rw [if_pos same, if_pos (same ▸ before), if_pos same]
      · rw [if_neg same, if_neg same]
    · rw [if_neg before]
      by_cases here : cell = li
      · rw [if_pos here, lookupEntry, lookupEntry]
        by_cases same : other = li
        · rw [if_pos same, if_neg (by simp [here, same]), if_pos (here.trans same.symm)]
        · have apart : cell ≠ other := fun equal => same (equal.symm.trans here)
          rw [if_neg same, if_neg apart, if_neg apart]
      · rw [if_neg here, lookupEntry]
        by_cases same : other = li
        · rw [if_pos same, if_neg (by simp [same]), if_pos same.symm]
        rw [if_neg same]
        by_cases past : li < other
        · rw [if_pos past]
        -- the cell is before the inserted entry, and so before all of them
        have next : li < cell := lt_of_le_of_ne (not_lt.mp before) (Ne.symm here)
        have first : other < li := lt_of_le_of_ne (not_lt.mp past) same
        rw [if_neg past, if_neg (Ne.symm same), lookupEntry_of_lt]
        intro entry mem
        rcases mem_cons.mp mem with rfl | later
        · exact first.trans next
        · exact first.trans (next.trans (after entry later))

theorem lookup_eraseEntry (other : LocalIndex) : lookupEntry other (eraseEntry li entries) =
      if other = li then 0 else lookupEntry other entries := by
  induction entries with
  | nil => rw [eraseEntry, lookupEntry, ite_self]
  | cons first rest ih =>
    obtain ⟨cell, old⟩ := first
    obtain ⟨after, sorted⟩ := pairwise_cons.mp sorted
    rw [eraseEntry]
    by_cases before : cell < li
    · rw [if_pos before, lookupEntry, ih sorted, lookupEntry]
      by_cases same : other = li
      · rw [if_pos same, if_pos (same ▸ before), if_pos same]
      · rw [if_neg same, if_neg same]
    · rw [if_neg before]
      by_cases here : cell = li
      · rw [if_pos here, lookupEntry]
        by_cases same : other = li
        · rw [if_pos same, same, lookupEntry_of_lt]
          intro entry mem
          exact here ▸ after entry mem
        rw [if_neg same]
        by_cases past : cell < other
        · rw [if_pos past]
        have first : other < cell :=
          lt_of_le_of_ne (not_lt.mp past) fun equal => same (equal.trans here)
        rw [if_neg past, if_neg first.ne', lookupEntry_of_lt]
        intro entry mem
        exact first.trans (after entry mem)
      · rw [if_neg here]
        by_cases same : other = li
        · have next : li < cell := lt_of_le_of_ne (not_lt.mp before) (Ne.symm here)
          rw [if_pos same, same, lookupEntry_of_lt]
          intro entry mem
          rcases mem_cons.mp mem with rfl | later
          · exact next
          · exact next.trans (after entry later)
        · rw [if_neg same]

omit sorted

end Lookup

structure Valid [Zero ν] (table : SideTable ν) : Prop where
  sorted : table.entries.Pairwise fun first second => first.1 < second.1
  nonzero : ∀ entry ∈ table.entries, entry.2 ≠ 0
  few : table.entries.length ≤ SPARSE_THRESHOLD

theorem empty_valid [Zero ν] : (empty : SideTable ν).Valid :=
  ⟨List.Pairwise.nil, fun _ mem => absurd mem not_mem_nil, Nat.zero_le _⟩

theorem readEntries_append (number : WireNumber ν) (entries : List (LocalIndex × ν))
    (rest : Reader) :
    readEntries number entries.length (entries.flatMap (writeEntry number) ++ rest) =
      some (entries, rest) := by
  induction entries with
  | nil => rfl
  | cons entry entries ih =>
    have small : entry.1.val < 4096 := entry.1.isLt
    have cell : (UInt16.ofNat entry.1.val).toNat = entry.1.val := by
      rw [UInt16.toNat_ofNat']
      exact Nat.mod_eq_of_lt (by omega)
    rw [flatMap_cons, append_assoc, writeEntry, append_assoc, length_cons,
      readEntries, u16.read_write]
    dsimp only
    rw [number.read_write]
    dsimp only
    rw [ih, Option.map_some]
    simp only [cell, entry.1.isLt, dite_true]

theorem writeEntry_length (number : WireNumber ν) (entries : List (LocalIndex × ν)) :
    (entries.flatMap (writeEntry number)).length = entries.length * (2 + number.width) := by
  induction entries with
  | nil => simp
  | cons entry entries ih =>
    rw [flatMap_cons, length_append, ih, length_cons, Nat.succ_mul,
      writeEntry, length_append, u16.write_length, number.write_length]
    exact Nat.add_comm _ _

section Flattening

variable [Zero ν]

theorem foldl_update (entries : List (LocalIndex × ν)) (values : LocalIndex → ν)
    (sorted : entries.Pairwise fun first second => first.1 < second.1) (li : LocalIndex) :
    entries.foldl (fun values entry => Function.update values entry.1 entry.2) values li =
      if ∃ entry ∈ entries, entry.1 = li then lookupEntry li entries else values li := by
  induction entries generalizing values with
  | nil => simp
  | cons first rest ih =>
    obtain ⟨cell, value⟩ := first
    obtain ⟨after, sorted⟩ := pairwise_cons.mp sorted
    rw [foldl_cons, ih _ sorted, lookupEntry]
    by_cases later : ∃ entry ∈ rest, entry.1 = li
    · obtain ⟨entry, mem, same⟩ := later
      have before : cell < li := same ▸ after entry mem
      rw [if_pos ⟨entry, mem, same⟩, if_pos ⟨entry, mem_cons_of_mem _ mem, same⟩, if_pos before]
    rw [if_neg later]
    by_cases here : cell = li
    · subst here
      rw [Function.update_self, if_pos ⟨_, mem_cons_self, rfl⟩, if_neg (lt_irrefl _), if_pos rfl]
    have absent : ¬ ∃ entry ∈ (cell, value) :: rest, entry.1 = li := by
      rintro ⟨entry, mem, same⟩
      rcases mem_cons.mp mem with rfl | inRest
      · exact here same
      · exact later ⟨entry, inRest, same⟩
    rw [Function.update_of_ne (Ne.symm here), if_neg absent]

variable {entries : List (LocalIndex × ν)} {li : LocalIndex}

theorem lookupEntry_eq_zero (absent : ¬ ∃ entry ∈ entries, entry.1 = li) :
    lookupEntry li entries = 0 := by
  induction entries with
  | nil => rfl
  | cons first rest ih =>
    have here : first.1 ≠ li := fun same => absent ⟨first, mem_cons_self, same⟩
    rw [lookupEntry, if_neg here, ih fun ⟨entry, mem, same⟩ =>
      absent ⟨entry, mem_cons_of_mem _ mem, same⟩]
    split <;> rfl

variable (sorted : entries.Pairwise fun first second => first.1 < second.1)

include sorted

theorem get_flatten (li : LocalIndex) : (flatten entries).get li = lookupEntry li entries := by
  rw [flatten, get]
  dsimp only
  rw [foldl_update entries _ sorted]
  split
  · rfl
  · next absent => exact (lookupEntry_eq_zero absent).symm

theorem lookupEntry_of_mem {entry : LocalIndex × ν} (mem : entry ∈ entries) :
    lookupEntry entry.1 entries = entry.2 := by
  induction entries with
  | nil => cases mem
  | cons first rest ih =>
    obtain ⟨after, sorted⟩ := pairwise_cons.mp sorted
    rw [lookupEntry]
    rcases mem_cons.mp mem with rfl | later
    · rw [if_neg (lt_irrefl _), if_pos rfl]
    · rw [if_pos (after entry later), ih sorted later]

omit sorted

theorem mem_of_lookupEntry (nonzero : lookupEntry li entries ≠ 0) :
    (li, lookupEntry li entries) ∈ entries := by
  induction entries with
  | nil => exact absurd rfl nonzero
  | cons first rest ih =>
    obtain ⟨cell, value⟩ := first
    rw [lookupEntry] at nonzero ⊢
    by_cases before : cell < li
    · rw [if_pos before] at nonzero ⊢
      exact mem_cons_of_mem _ (ih nonzero)
    rw [if_neg before] at nonzero ⊢
    by_cases here : cell = li
    · rw [if_pos here, here]
      exact mem_cons_self
    · rw [if_neg here] at nonzero
      exact absurd rfl nonzero

theorem remove_valid {table : SideTable ν} (valid : table.Valid) (li : LocalIndex) :
    (table.remove li).Valid := by
  unfold remove
  split
  · exact ⟨valid.sorted, valid.nonzero, valid.few⟩
  · have fewer := eraseEntry_sublist li table.entries
    exact ⟨valid.sorted.sublist fewer, fun entry mem => valid.nonzero entry (fewer.subset mem),
      fewer.length_le.trans valid.few⟩

end Flattening

section Setting

variable [DecidableEq ν] [Zero ν] {table : SideTable ν}

variable (valid : table.Valid)

include valid

theorem set_valid (li : LocalIndex) (value : ν) : (table.set li value).Valid := by
  unfold set
  by_cases zero : value = 0
  · rw [if_pos zero]
    exact remove_valid valid li
  rw [if_neg zero]
  split
  · exact ⟨valid.sorted, valid.nonzero, valid.few⟩
  dsimp only
  split
  · exact ⟨List.Pairwise.nil, fun _ mem => absurd mem not_mem_nil, Nat.zero_le _⟩
  rename_i sparse
  refine ⟨insertEntry_sorted valid.sorted, ?_, ?_⟩
  · intro entry mem
    rcases insertEntry_mem mem with rfl | old
    · exact zero
    · exact valid.nonzero entry old
  · have few := valid.few
    dsimp only
    omega

theorem get_set (li : LocalIndex) (value : ν) (other : LocalIndex) :
    (table.set li value).get other = if other = li then value else table.get other := by
  unfold set
  by_cases zero : value = 0
  · rw [if_pos zero, zero]
    unfold remove get
    cases table.flat with
    | some values => exact Function.update_apply values li 0 other
    | none => exact lookup_eraseEntry valid.sorted other
  · rw [if_neg zero]
    cases flat : table.flat with
    | some values =>
      simp only [get, flat]
      exact Function.update_apply values li value other
    | none =>
      dsimp only
      have inserted : lookupEntry other (insertEntry li value table.entries) = _ :=
        lookup_insertEntry valid.sorted other
      split
      · rw [get_flatten (insertEntry_sorted valid.sorted), inserted, get, flat]
      · simp only [get, flat, inserted]

theorem mem_written (entry : LocalIndex × ν) :
    entry ∈ table.written ↔ table.get entry.1 = entry.2 ∧ entry.2 ≠ 0 := by
  unfold written get
  cases table.flat with
  | some values =>
    simp only [mem_filterMap, mem_finRange, true_and]
    constructor
    · rintro ⟨li, chosen⟩
      split at chosen
      · next nonzero =>
        cases chosen
        exact ⟨rfl, nonzero⟩
      · cases chosen
    · rintro ⟨same, nonzero⟩
      refine ⟨entry.1, ?_⟩
      rw [if_pos (same ▸ nonzero), same]
  | none =>
    constructor
    · intro mem
      exact ⟨lookupEntry_of_mem valid.sorted mem, valid.nonzero entry mem⟩
    · rintro ⟨same, nonzero⟩
      have listed := mem_of_lookupEntry (same ▸ nonzero)
      rwa [show lookupEntry entry.1 table.entries = entry.2 from same] at listed

theorem written_sorted :
    table.written.Pairwise fun first second => first.1 < second.1 := by
  unfold written
  cases table.flat with
  | some values =>
    apply List.Pairwise.filterMap _ _ (pairwise_lt_finRange SEC_VOL)
    intro first second before left isLeft right isRight
    split at isLeft
    · cases isLeft
      split at isRight
      · cases isRight
        exact before
      · cases isRight
    · cases isLeft
  | none => exact valid.sorted

theorem written_length : table.written.length ≤ SEC_VOL := by
  have cells : (table.written.map (·.1)).Nodup :=
    pairwise_map.mpr ((written_sorted valid).imp fun before => before.ne)
  have few := cells.length_le_card
  rwa [length_map, Fintype.card_fin] at few

theorem foldl_set {entries : List (LocalIndex × ν)} (sorted : entries.Pairwise fun first second => first.1 < second.1) :
    (entries.foldl (fun table entry => table.set entry.1 entry.2) table).Valid ∧
      ∀ li, (entries.foldl (fun table entry => table.set entry.1 entry.2) table).get li =
        if ∃ entry ∈ entries, entry.1 = li then lookupEntry li entries else table.get li := by
  induction entries generalizing table with
  | nil => exact ⟨valid, fun li => by simp⟩
  | cons first rest ih =>
    obtain ⟨after, sorted⟩ := pairwise_cons.mp sorted
    obtain ⟨stays, values⟩ := ih (set_valid valid first.1 first.2) sorted
    refine ⟨stays, ?_⟩
    intro li
    rw [foldl_cons, values li, get_set valid, lookupEntry]
    by_cases later : ∃ entry ∈ rest, entry.1 = li
    · obtain ⟨entry, mem, same⟩ := later
      have before : first.1 < li := same ▸ after entry mem
      rw [if_pos ⟨entry, mem, same⟩, if_pos ⟨entry, mem_cons_of_mem _ mem, same⟩, if_pos before]
    rw [if_neg later]
    by_cases here : first.1 = li
    · subst here
      rw [if_pos rfl, if_pos ⟨_, mem_cons_self, rfl⟩, if_neg (lt_irrefl _), if_pos rfl]
    have absent : ¬ ∃ entry ∈ first :: rest, entry.1 = li := by
      rintro ⟨entry, mem, same⟩
      rcases mem_cons.mp mem with rfl | inRest
      · exact here same
      · exact later ⟨entry, inRest, same⟩
    rw [if_neg (Ne.symm here), if_neg absent]

theorem get_fill_written (li : LocalIndex) : (fill table.written).get li = table.get li := by
  rw [fill, (foldl_set empty_valid (written_sorted valid)).2 li]
  split
  · next named =>
    obtain ⟨entry, mem, rfl⟩ := named
    rw [lookupEntry_of_mem (written_sorted valid) mem, ((mem_written valid entry).mp mem).1]
  rename_i absent
  by_contra different
  have nonzero : table.get li ≠ 0 := fun zero => different zero.symm
  exact absent ⟨(li, table.get li), (mem_written valid _).mpr ⟨rfl, nonzero⟩, rfl⟩

theorem written_count : (UInt16.ofNat table.written.length).toNat = table.written.length := by
  have few : table.written.length ≤ 4096 := written_length valid
  rw [UInt16.toNat_ofNat']
  exact Nat.mod_eq_of_lt (by omega)

omit valid

theorem readFromWire_write (number : WireNumber ν) (valid : table.Valid) (rest : Reader) :
    readFromWire number (table.writeToWire number ++ rest) = some (table.written, rest) := by
  rw [readFromWire, writeToWire, append_assoc, u16.read_write]
  dsimp only
  rw [written_count valid, readEntries_append]

theorem skipOnWire_write (number : WireNumber ν) (valid : table.Valid) (rest : Reader) :
    skipOnWire number (table.writeToWire number ++ rest) = some rest := by
  rw [skipOnWire, writeToWire, append_assoc, u16.read_write]
  dsimp only
  rw [written_count valid, skip_append (writeEntry_length number _)]

end Setting

end SideTable

end GtnhPlatform.ChunkStore
