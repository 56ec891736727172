import Mathlib.Algebra.Order.Ring.Int
import Mathlib.Algebra.BigOperators.Group.List.Basic
import Mathlib.Data.List.AList

namespace GtnhPlatform

open AList

/-! Keyed tables. An unordered map of the source is an association list whose
keys are distinct; no result depends on its order. -/

abbrev Table (κ : Type u) (ν : Type v) := AList (fun _ : κ => ν)

namespace Table

variable {κ : Type u} {ν : Type v}

def filter (keep : κ → ν → Bool) (table : Table κ ν) : Table κ ν where
  entries := table.entries.filter fun entry => keep entry.1 entry.2
  nodupKeys := table.nodupKeys.sublist List.filter_sublist

def mapValues (rewrite : κ → ν → ν) (table : Table κ ν) : Table κ ν where
  entries := table.entries.map fun entry => ⟨entry.1, rewrite entry.1 entry.2⟩
  nodupKeys := List.NodupKeys.map₂ (fun key value => rewrite key value) _ table.nodupKeys

def values (table : Table κ ν) : List ν := table.entries.map Sigma.snd

def select (choose : κ → ν → Bool) (table : Table κ ν) : List ν := (table.filter choose).values

variable [DecidableEq κ] {key : κ} {value : ν}

theorem mem_entries_iff {table : Table κ ν} :
    ⟨key, value⟩ ∈ table.entries ↔ table.lookup key = some value :=
  mem_lookup_iff.symm

theorem mem_values_iff {table : Table κ ν} :
    value ∈ table.values ↔ ∃ key, table.lookup key = some value := by
  simp only [values, List.mem_map, Sigma.exists, mem_entries_iff]
  constructor
  · rintro ⟨key, found, lookupEq, rfl⟩
    exact ⟨key, lookupEq⟩
  · rintro ⟨key, lookupEq⟩
    exact ⟨key, value, lookupEq, rfl⟩

theorem lookup_filter (keep : κ → ν → Bool) (table : Table κ ν) (key : κ) :
    (table.filter keep).lookup key = (table.lookup key).filter (keep key) := by
  apply Option.ext
  intro value
  rw [← mem_entries_iff, Option.filter_eq_some_iff, ← mem_entries_iff]
  simp [filter]

theorem lookup_mapValues (rewrite : κ → ν → ν) (table : Table κ ν) (key : κ) :
    (table.mapValues rewrite).lookup key = (table.lookup key).map (rewrite key) :=
  List.dlookup_map₂ key

variable {choose : κ → ν → Bool}

theorem mem_select_iff {table : Table κ ν} : value ∈ table.select choose ↔
      ∃ key, table.lookup key = some value ∧ choose key value = true := by
  simp only [select, mem_values_iff, lookup_filter, Option.filter_eq_some_iff]

variable (table : Table κ ν)

@[simp] theorem lookup_insert_self (key : κ) (value : ν) :
    lookup key (insert key value table) = some value :=
  lookup_insert table

theorem lookup_insert_of_ne {key other : κ} (value : ν) (distinct : other ≠ key) :
    lookup other (insert key value table) = lookup other table :=
  lookup_insert_ne distinct

/-- `emplace`: an entry that is already there is kept. -/
def emplace (key : κ) (value : ν) (table : Table κ ν) : Table κ ν :=
  if (table.lookup key).isSome then table else AList.insert key value table

theorem emplace_of_some {table : Table κ ν} (value : ν) (stored : table.lookup key = some present) :
    table.emplace key value = table := by
  rw [emplace, stored]
  exact if_pos rfl

theorem lookup_emplace_of_none {table : Table κ ν} (value : ν) (absent : table.lookup key = none)
    (other : κ) : (table.emplace key value).lookup other =
      if other = key then some value else table.lookup other := by
  rw [emplace, absent, if_neg (by simp)]
  split
  · next equality => rw [equality, lookup_insert_self]
  · next distinct => exact lookup_insert_of_ne table value distinct

theorem lookup_insert_eq (key : κ) (value : ν) (other : κ) : lookup other (insert key value table) =
      if other = key then some value else lookup other table := by
  split
  · next equality => rw [equality, lookup_insert_self]
  · next distinct => exact lookup_insert_of_ne table value distinct

theorem lookup_union_eq (first second : Table κ ν) (key : κ) :
    (first ∪ second).lookup key = (first.lookup key).or (second.lookup key) := by
  cases present : first.lookup key with
  | none => exact lookup_union_right (lookup_eq_none.mp present)
  | some value =>
    have mem : key ∈ first := lookup_isSome.mp (by rw [present]; rfl)
    exact (lookup_union_left mem).trans present

theorem lookup_erase_eq (key other : κ) : lookup other (table.erase key) =
      if other = key then none else lookup other table := by
  split
  · next equality => rw [equality, lookup_erase]
  · next distinct => exact lookup_erase_ne distinct

variable {table : Table κ ν}

theorem select_erase (skipped : ∀ value, table.lookup key = some value → choose key value = false) :
    select choose (table.erase key) = table.select choose := by
  cases present : table.lookup key with
  | none =>
    have absent : key ∉ table.keys := lookup_eq_none.mp present
    have unchanged : table.erase key = table := ext (List.kerase_of_notMem_keys absent)
    rw [unchanged]
  | some value =>
    have mem : key ∈ table.keys := List.mem_keys_of_mem (mem_entries_iff.mpr present)
    obtain ⟨found, before, after, fresh, split, erased⟩ := List.exists_of_kerase mem
    have same : found = value := by
      have stored : table.lookup key = some found := by
        rw [← mem_entries_iff, split]
        exact List.mem_append_right _ List.mem_cons_self
      exact Option.some.inj (stored.symm.trans present)
    subst same
    have entries : (table.erase key).entries = before ++ after := erased
    simp [select, filter, values, entries, split, List.filter_append, skipped found present]

theorem select_insert (skipped : ∀ value, table.lookup key = some value → choose key value = false)
    (unchosen : choose key value = false) :
    select choose (insert key value table) = table.select choose := by
  rw [← select_erase skipped]
  have entries : (insert key value table).entries =
      ⟨key, value⟩ :: (table.erase key).entries := entries_insert
  simp only [select, filter, values, entries]
  rw [List.filter_cons_of_neg (by simp [unchosen])]

theorem select_filter_of_kept {choose keep : κ → ν → Bool}
    (kept : ∀ key value, table.lookup key = some value →
      choose key value = true → keep key value = true) :
    select choose (table.filter keep) = table.select choose := by
  simp only [select, filter, values, List.filter_filter]
  congr 1
  apply List.filter_congr
  intro entry mem
  have found : table.lookup entry.1 = some entry.2 := mem_entries_iff.mp mem
  cases chosen : choose entry.1 entry.2 with
  | false => rfl
  | true => simp [kept entry.1 entry.2 found chosen]

theorem values_of_key (key : κ) :
    (table.entries.filter fun entry => entry.1 = key).map Sigma.snd =
      (table.lookup key).toList := by
  rcases table with ⟨entries, distinct⟩
  simp only [lookup]
  induction entries with
  | nil => rfl
  | cons entry rest ih =>
    obtain ⟨fresh, restDistinct⟩ := List.nodupKeys_cons.mp distinct
    by_cases equality : entry.1 = key
    · subst equality
      have absent : (rest.filter fun other => other.1 = entry.1) = [] := by
        rw [List.filter_eq_nil_iff]
        intro other mem matched
        exact fresh (of_decide_eq_true matched ▸ List.mem_keys_of_mem mem)
      obtain ⟨key, value⟩ := entry
      simp [absent]
    · rw [List.filter_cons_of_neg (by simpa using equality),
        List.dlookup_cons_ne _ _ (Ne.symm equality)]
      exact ih restDistinct

theorem select_filter_key (identity : ν → κ) (choose : κ → ν → Bool) (table : Table κ ν)
    (keyed : ∀ key value, table.lookup key = some value → identity value = key) (key : κ) :
    (table.select choose).filter (fun value => identity value = key) =
      ((table.lookup key).filter (choose key)).toList := by
  rw [← lookup_filter, ← values_of_key, select, values, List.filter_map]
  congr 1
  apply List.filter_congr
  intro entry mem
  have found : table.lookup entry.1 = some entry.2 := by
    rw [← mem_entries_iff]
    exact (List.mem_filter.mp mem).1
  simp [keyed entry.1 entry.2 found]

end Table

section

open List

namespace Table

variable {κ : Type u} {ν : Type v} [DecidableEq κ]

def total (weight : ν → Nat) (table : Table κ ν) : Nat := (table.values.map weight).sum

variable (weight : ν → Nat)

theorem total_erase (table : Table κ ν) (key : κ) : total weight table =
      ((table.lookup key).map weight).getD 0 + total weight (table.erase key) := by
  cases present : table.lookup key with
  | none =>
    have absent : key ∉ table.keys := AList.lookup_eq_none.mp present
    have unchanged : table.erase key = table := AList.ext (kerase_of_notMem_keys absent)
    simp [unchanged]
  | some value =>
    have mem : key ∈ table.keys := mem_keys_of_mem (mem_entries_iff.mpr present)
    obtain ⟨found, before, after, fresh, split, erased⟩ := exists_of_kerase mem
    have stored : table.lookup key = some found := by
      rw [← mem_entries_iff, split]
      exact mem_append_right _ mem_cons_self
    cases stored.symm.trans present
    have entries : (table.erase key).entries = before ++ after := erased
    simp only [total, values, entries, split, map_append, map_cons, sum_append,
      sum_cons, Option.map_some, Option.getD_some]
    omega

theorem total_insert (table : Table κ ν) (key : κ) (value : ν) :
    total weight (AList.insert key value table) + ((table.lookup key).map weight).getD 0 =
      total weight table + weight value := by
  rw [total_erase weight table key]
  have entries : (AList.insert key value table).entries =
      ⟨key, value⟩ :: (table.erase key).entries := AList.entries_insert
  have front : total weight (AList.insert key value table) =
      weight value + total weight (table.erase key) := by
    simp only [total, values, entries, map_cons, sum_cons]
  rw [front]
  omega

variable {table : Table κ ν}

theorem total_eq_zero {weight : ν → Nat}
    (weightless : ∀ key value, table.lookup key = some value → weight value = 0) :
    total weight table = 0 := by
  apply sum_eq_zero
  intro amount mem
  obtain ⟨value, listed, rfl⟩ := mem_map.mp mem
  obtain ⟨key, found⟩ := mem_values_iff.mp listed
  exact weightless key value found

theorem total_eq_sum {keys : List κ} (distinct : keys.Nodup)
    (covers : ∀ key, (table.lookup key).isSome → key ∈ keys) :
    total weight table = (keys.map fun key => ((table.lookup key).map weight).getD 0).sum := by
  induction keys generalizing table with
  | nil =>
    apply total_eq_zero
    intro key value found
    exact absurd (covers key (by rw [found]; rfl)) not_mem_nil
  | cons key rest ih =>
    obtain ⟨fresh, distinct⟩ := nodup_cons.mp distinct
    have elsewhere : ∀ other ∈ rest, (table.erase key).lookup other = table.lookup other := by
      intro other mem
      exact AList.lookup_erase_ne fun same => fresh (same ▸ mem)
    have covered : ∀ other, ((table.erase key).lookup other).isSome → other ∈ rest := by
      intro other present
      have apart : other ≠ key := by
        rintro rfl
        rw [AList.lookup_erase] at present
        cases present
      rw [AList.lookup_erase_ne apart] at present
      exact mem_of_ne_of_mem apart (covers other present)
    rw [total_erase weight table key, ih distinct covered, map_cons, sum_cons]
    congr 2
    apply map_congr_left
    intro other mem
    rw [elsewhere other mem]

omit [DecidableEq κ] in
theorem total_filter (keep : κ → Bool) (table : Table κ ν) :
    total weight (table.filter fun key _ => keep key) +
      total weight (table.filter fun key _ => !keep key) = total weight table := by
  simp only [total, values, filter]
  induction table.entries with
  | nil => rfl
  | cons entry rest ih =>
    cases kept : keep entry.1 with
    | true =>
      simp only [filter_cons, kept, Bool.not_true, if_true, Bool.false_eq_true, if_false,
        map_cons, sum_cons]
      omega
    | false =>
      simp only [filter_cons, kept, Bool.not_false, if_true, Bool.false_eq_true, if_false,
        map_cons, sum_cons]
      omega

theorem total_congr {table other : Table κ ν} (same : ∀ key, table.lookup key = other.lookup key) :
    total weight table = total weight other := by
  have covers : ∀ key, (table.lookup key).isSome → key ∈ table.keys := fun key present =>
    AList.lookup_isSome.mp present
  have otherCovers : ∀ key, (other.lookup key).isSome → key ∈ table.keys := fun key present =>
    covers key (by rw [same key]; exact present)
  rw [total_eq_sum weight table.keys_nodup covers, total_eq_sum weight table.keys_nodup otherCovers]
  simp only [same]

end Table

end

/-! Wire tables: a field that has its default is not written. -/

abbrev FlatTable := Table Nat Nat

namespace FlatTable

def addElement (field value : Nat) (table : FlatTable) : FlatTable :=
  if value = 0 then table else AList.insert field value table

def getField (table : FlatTable) (field : Nat) : Nat := (table.lookup field).getD 0

def build (fields : List (Nat × Nat)) : FlatTable :=
  fields.foldl (fun table field => table.addElement field.1 field.2) ∅

theorem getField_addElement (field value other : Nat) (table : FlatTable)
    (fresh : table.getField field = 0) : (table.addElement field value).getField other =
      if other = field then value else table.getField other := by
  unfold addElement
  by_cases default : value = 0
  · rw [if_pos default, default]
    by_cases same : other = field
    · rw [if_pos same, same, fresh]
    · rw [if_neg same]
  · rw [if_neg default]
    unfold getField
    rw [Table.lookup_insert_eq]
    split <;> rfl

theorem getField_fold (fields : List (Nat × Nat)) (distinct : (fields.map Prod.fst).Nodup)
    (table : FlatTable) (fresh : ∀ field ∈ fields.map Prod.fst, table.getField field = 0)
    (other : Nat) :
    (fields.foldl (fun table field => table.addElement field.1 field.2) table).getField other =
      ((fields.find? fun field => field.1 = other).map Prod.snd).getD (table.getField other) := by
  induction fields generalizing table with
  | nil => rfl
  | cons first rest ih =>
    obtain ⟨key, value⟩ := first
    obtain ⟨notLater, distinct⟩ := List.nodup_cons.mp distinct
    have unset : table.getField key = 0 := fresh key List.mem_cons_self
    have still : ∀ field ∈ rest.map Prod.fst, (table.addElement key value).getField field = 0 := by
      intro field mem
      have differs : field ≠ key := by
        rintro rfl
        exact notLater mem
      rw [getField_addElement key value field table unset, if_neg differs]
      exact fresh field (List.mem_cons_of_mem _ mem)
    rw [List.foldl_cons, ih distinct _ still, getField_addElement key value other table unset]
    by_cases same : other = key
    · subst same
      have absent : rest.find? (fun field => field.1 = other) = none := by
        apply List.find?_eq_none.mpr
        intro field mem named
        exact notLater (List.mem_map.mpr ⟨field, mem, of_decide_eq_true named⟩)
      simp [absent]
    · simp [same, Ne.symm same]

theorem getField_build (fields : List (Nat × Nat)) (distinct : (fields.map Prod.fst).Nodup)
    (field : Nat) :
    (build fields).getField field =
      ((fields.find? fun entry => entry.1 = field).map Prod.snd).getD 0 :=
  getField_fold fields distinct ∅ (fun _ _ => rfl) field

end FlatTable

end GtnhPlatform
