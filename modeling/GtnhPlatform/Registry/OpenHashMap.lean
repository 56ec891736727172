import GtnhPlatform.Data.Machine
import GtnhPlatform.Data.Table
import Mathlib.Data.Nat.Bitwise
import Mathlib.Logic.Function.Basic

namespace GtnhPlatform.Registry

structure Entry (κ : Type u) (ν : Type v) where
  key : κ
  value : ν

abbrev Slot (bits : Nat) := Fin (2 ^ bits)

structure OpenHashMap (κ : Type u) (ν : Type v) (bits : Nat) where
  entries : Slot bits → Entry κ ν
  size : Int

namespace OpenHashMap

variable {κ : Type u} {ν : Type v} {bits : Nat}

def mask (bits : Nat) : Nat := 2 ^ bits - 1

theorem masked_lt (bits index : Nat) : index &&& mask bits < 2 ^ bits := by
  rw [mask, Nat.and_two_pow_sub_one_eq_mod]
  exact Nat.mod_lt _ (Nat.two_pow_pos bits)

def step (idx : Slot bits) : Slot bits := ⟨(idx.val + 1) &&& mask bits, masked_lt bits _⟩

/-- The multiplicative hash of a key's 32-bit word. -/
def hash (word : κ → UInt32) (key : κ) : Slot bits :=
  ⟨((word key * 2654435761).toNat >>> (32 - bits)) &&& mask bits, masked_lt bits _⟩

example : (hash id 1 : Slot 3) = 4 := by decide

section Operations

variable [DecidableEq κ] [Inhabited ν] (sentinel : κ) (hash : κ → Slot bits)

def vacant : Entry κ ν := ⟨sentinel, default⟩

def initial : OpenHashMap κ ν bits := ⟨fun _ => vacant sentinel, 0⟩

def insertFrom (key : κ) (value : ν) : Nat → Slot bits → OpenHashMap κ ν bits →
    OpenHashMap κ ν bits × Option (Slot bits)
  | 0, _, map => (map, none)
  | fuel + 1, idx, map =>
    if (map.entries idx).key = sentinel ∨ (map.entries idx).key = key then
      ({ entries := Function.update map.entries idx ⟨key, value⟩
         size := if (map.entries idx).key = sentinel then map.size + 1 else map.size },
        some idx)
    else insertFrom key value fuel (step idx) map

def insert (key : κ) (value : ν) (map : OpenHashMap κ ν bits) :
    OpenHashMap κ ν bits × Option (Slot bits) :=
  if key = sentinel then (map, none)
  else insertFrom sentinel key value (2 ^ bits) (hash key) map

def findFrom (key : κ) (entries : Slot bits → Entry κ ν) : Nat → Slot bits → Option (Slot bits)
  | 0, _ => none
  | fuel + 1, idx =>
    if (entries idx).key = key then some idx
    else if (entries idx).key = sentinel then none
    else findFrom key entries fuel (step idx)

def find (key : κ) (map : OpenHashMap κ ν bits) : Option (Slot bits) :=
  if key = sentinel then none
  else findFrom sentinel key map.entries (2 ^ bits) (hash key)

def onPath (ideal next hole : Slot bits) : Bool :=
  if ideal ≤ next then decide (ideal ≤ hole) && decide (hole ≤ next)
  else decide (hole ≥ ideal) || decide (hole ≤ next)

def slide (hole next : Slot bits) (entries : Slot bits → Entry κ ν) : Slot bits → Entry κ ν :=
  Function.update (Function.update entries hole (entries next)) next (vacant sentinel)

def closeHole : Nat → Slot bits → Slot bits → (Slot bits → Entry κ ν) → Slot bits → Entry κ ν
  | 0, _, _, entries => entries
  | fuel + 1, hole, next, entries =>
    if (entries next).key = sentinel then entries
    else if onPath (hash (entries next).key) next hole then
      closeHole fuel next (step next) (slide sentinel hole next entries)
    else closeHole fuel hole (step next) entries

def eraseFrom (key : κ) : Nat → Slot bits → OpenHashMap κ ν bits → OpenHashMap κ ν bits × Bool
  | 0, _, map => (map, false)
  | fuel + 1, idx, map =>
    if (map.entries idx).key = key then
      ({ entries := closeHole sentinel hash (2 ^ bits - 1) idx (step idx)
           (Function.update map.entries idx (vacant sentinel))
         size := map.size - 1 }, true)
    else eraseFrom key fuel (step idx) map

def erase (key : κ) (map : OpenHashMap κ ν bits) : OpenHashMap κ ν bits × Bool :=
  if key = sentinel then (map, false)
  else eraseFrom sentinel hash key (2 ^ bits) (hash key) map

end Operations

end OpenHashMap

inductive MapCall (κ : Type u) (ν : Type v)
  | insert (key : κ) (value : ν)
  | erase (key : κ)
  | find (key : κ)
  | clear

/-- What a call returns: the value behind the pointer, or whether a key was there. -/
inductive MapReply (ν : Type v)
  | inserted (value : Option ν)
  | erased (present : Bool)
  | found (value : Option ν)
  | cleared

section Machines

variable {κ : Type u} {ν : Type v} {bits : Nat} [DecidableEq κ]

def openHashMap [Inhabited ν] (sentinel : κ) (hash : κ → Slot bits) :
    Machine (OpenHashMap κ ν bits) (MapCall κ ν) (MapReply ν × Int) where
  step map call :=
    match call with
    | .insert key value =>
      let result := OpenHashMap.insert sentinel hash key value map
      (result.1, [(.inserted (result.2.map fun slot => (result.1.entries slot).value),
        result.1.size)])
    | .erase key =>
      let result := OpenHashMap.erase sentinel hash key map
      (result.1, [(.erased result.2, result.1.size)])
    | .find key =>
      (map, [(.found ((OpenHashMap.find sentinel hash key map).map fun slot =>
        (map.entries slot).value), map.size)])
    | .clear => (OpenHashMap.initial sentinel, [(.cleared, 0)])

def boundedMap (sentinel : κ) (capacity : Nat) :
    Machine (Table κ ν) (MapCall κ ν) (MapReply ν × Int) where
  step table call :=
    match call with
    | .insert key value =>
      if key = sentinel ∨ (key ∉ table ∧ table.keys.length = capacity) then
        (table, [(.inserted none, table.keys.length)])
      else
        (AList.insert key value table,
          [(.inserted (some value), (AList.insert key value table).keys.length)])
    | .erase key =>
      (table.erase key, [(.erased (decide (key ∈ table)), (table.erase key).keys.length)])
    | .find key => (table, [(.found (table.lookup key), table.keys.length)])
    | .clear => (∅, [(.cleared, 0)])

end Machines

end GtnhPlatform.Registry
