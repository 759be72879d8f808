/-
Module: SysdvrWebos.Lib.OrderedMap
Layer: Lib
Purpose: A finite map that remembers the order in which its keys were first inserted and never holds
  more than a fixed number of them. Uniqueness of the keys and the bound are fields of the structure.
Trusted boundary: none (fully proved)
Main exports: OrderedMap, OrderedMap.put, OrderedMap.retain, OrderedMap.put_entries_of_mem,
  OrderedMap.put_entries_of_room, OrderedMap.put_entries_of_full
Open obligations: none
-/
import Mathlib.Data.List.Nodup

/-- An insertion-ordered map with at most `capacity` keys. -/
structure OrderedMap (Key Value : Type*) (capacity : Nat) where
  entries : List (Key × Value)
  keys_nodup : (entries.map Prod.fst).Nodup
  bounded : entries.length ≤ capacity

namespace OrderedMap

variable {Key Value : Type*} {capacity : Nat}

/-- The keys in the order of their first insertion. -/
def keys (map : OrderedMap Key Value capacity) : List Key := map.entries.map Prod.fst

/-- The map without any key. -/
def empty : OrderedMap Key Value capacity where
  entries := []
  keys_nodup := by simp
  bounded := Nat.zero_le capacity

@[simp] theorem empty_entries : (empty : OrderedMap Key Value capacity).entries = [] := rfl

/-- Keep the entries that satisfy `p`, in their order. -/
def retain (p : Key × Value → Bool) (map : OrderedMap Key Value capacity) :
    OrderedMap Key Value capacity where
  entries := map.entries.filter p
  keys_nodup := (List.filter_sublist.map Prod.fst).nodup map.keys_nodup
  bounded := Nat.le_trans (List.length_filter_le p map.entries) map.bounded

@[simp] theorem retain_entries (p : Key × Value → Bool) (map : OrderedMap Key Value capacity) :
    (map.retain p).entries = map.entries.filter p := rfl

variable [DecidableEq Key]

/-- Overwrite the value of one key and leave every other entry, and the order, alone. -/
def overwrite (key : Key) (value : Value) (entries : List (Key × Value)) : List (Key × Value) :=
  entries.map fun entry => if entry.1 = key then (key, value) else entry

theorem overwrite_keys (key : Key) (value : Value) (entries : List (Key × Value)) :
    (overwrite key value entries).map Prod.fst = entries.map Prod.fst := by
  simp only [overwrite, List.map_map]
  apply List.map_congr_left
  intro entry _
  by_cases same : entry.1 = key <;> simp [same]

/-- Replace the value of a present key in place; append an absent key while there is room; change
    nothing when the map is full. -/
def put (key : Key) (value : Value) (map : OrderedMap Key Value capacity) :
    OrderedMap Key Value capacity :=
  if present : key ∈ map.keys then
    { entries := overwrite key value map.entries
      keys_nodup := by
        rw [overwrite_keys]
        exact map.keys_nodup
      bounded := by simpa [overwrite] using map.bounded }
  else if room : map.entries.length < capacity then
    { entries := map.entries ++ [(key, value)]
      keys_nodup := by
        rw [List.map_append, List.nodup_append]
        refine ⟨map.keys_nodup, by simp, ?_⟩
        intro old oldMember new newMember equality
        simp only [List.map_cons, List.map_nil, List.mem_singleton] at newMember
        subst newMember
        subst equality
        exact present oldMember
      bounded := by
        rw [List.length_append]
        exact room }
  else map

theorem put_entries_of_mem {key : Key} {value : Value} {map : OrderedMap Key Value capacity}
    (present : key ∈ map.keys) :
    (map.put key value).entries = overwrite key value map.entries := by
  simp [put, present]

theorem put_entries_of_room {key : Key} {value : Value} {map : OrderedMap Key Value capacity}
    (absent : key ∉ map.keys) (room : map.entries.length < capacity) :
    (map.put key value).entries = map.entries ++ [(key, value)] := by
  simp [put, absent, room]

theorem put_entries_of_full {key : Key} {value : Value} {map : OrderedMap Key Value capacity}
    (absent : key ∉ map.keys) (full : ¬ map.entries.length < capacity) :
    (map.put key value).entries = map.entries := by
  simp [put, absent, full]

/-- With unique keys, overwriting a key is writing to the one position that carries it. -/
theorem overwrite_eq_set {entries : List (Key × Value)} {key : Key} {value : Value} {i : Nat}
    (nodup : (entries.map Prod.fst).Nodup) (bound : i < entries.length)
    (carries : entries[i].1 = key) :
    overwrite key value entries = entries.set i (key, value) := by
  apply List.ext_getElem
  · simp [overwrite]
  · intro j hj hset
    have hj : j < entries.length := by simpa [overwrite] using hj
    rw [List.getElem_set]
    by_cases same : i = j
    · subst same
      simp [overwrite, carries]
    · have other : entries[j].1 ≠ key := by
        intro equality
        apply same
        have hi' : i < (entries.map Prod.fst).length := by simpa using bound
        have hj' : j < (entries.map Prod.fst).length := by simpa using hj
        have keysEq : (entries.map Prod.fst)[i] = (entries.map Prod.fst)[j] := by
          simp [carries, equality]
        exact (List.Nodup.getElem_inj_iff nodup).mp keysEq
      simp [overwrite, other, same]

end OrderedMap
