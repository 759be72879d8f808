/-
Module: SysdvrWebos.Lib.Recency
Layer: Lib
Purpose: The keys of a history in the order of their most recent use, and the bounded list that a cache
  keeps of them: moving each used key to the front of the kept ones and cutting the list gives the first
  keys of that order.
Trusted boundary: none (fully proved)
Main exports: Recency.recent, Recency.recent_append_singleton, Recency.take_touch
Open obligations: none
-/
import Mathlib.Data.List.Dedup

namespace Recency

variable {Key : Type*} [DecidableEq Key]

/-- The distinct keys of a history, the most recently used one first. -/
def recent (history : List Key) : List Key := history.dedup.reverse

theorem nodup_recent (history : List Key) : (recent history).Nodup :=
  List.nodup_reverse.mpr (List.nodup_dedup history)

theorem dedup_append_singleton (history : List Key) (key : Key) :
    (history ++ [key]).dedup = history.dedup.filter (· ≠ key) ++ [key] := by
  induction history with
  | nil => rfl
  | cons first history ih =>
      rw [List.cons_append]
      by_cases again : first ∈ history
      · rw [List.dedup_cons_of_mem (List.mem_append_left _ again), List.dedup_cons_of_mem again, ih]
      · rw [List.dedup_cons_of_notMem again]
        by_cases same : first = key
        · have later : first ∈ history ++ [key] := List.mem_append_right _ (List.mem_singleton.mpr same)
          rw [List.dedup_cons_of_mem later, ih, List.filter_cons_of_neg (by simpa using same)]
        · have once : first ∉ history ++ [key] := by simp [again, same]
          rw [List.dedup_cons_of_notMem once, ih, List.filter_cons_of_pos (by simpa using same),
            List.cons_append]

/-- A use moves its key to the front. -/
theorem recent_append_singleton (history : List Key) (key : Key) :
    recent (history ++ [key]) = key :: (recent history).filter (· ≠ key) := by
  rw [recent, dedup_append_singleton, List.reverse_append, List.reverse_singleton, List.singleton_append,
    ← List.filter_reverse, ← recent]

theorem filter_ne_of_notMem {key : Key} {keys : List Key} (absent : key ∉ keys) :
    keys.filter (· ≠ key) = keys := by
  apply List.filter_eq_self.mpr
  intro other member
  exact decide_eq_true fun same => absent (same ▸ member)

theorem take_filter_take {keys : List Key} (distinct : keys.Nodup) (key : Key) (n : Nat) :
    ((keys.take (n + 1)).filter (· ≠ key)).take n = (keys.filter (· ≠ key)).take n := by
  induction keys generalizing n with
  | nil => simp
  | cons first keys ih =>
      rcases List.nodup_cons.mp distinct with ⟨once, others⟩
      rw [List.take_succ_cons]
      by_cases same : first = key
      · have absent : key ∉ keys := same ▸ once
        rw [List.filter_cons_of_neg (by simpa using same), List.filter_cons_of_neg (by simpa using same),
          filter_ne_of_notMem absent, filter_ne_of_notMem fun member => absent (List.mem_of_mem_take member),
          List.take_take, Nat.min_self]
      · rw [List.filter_cons_of_pos (by simpa using same), List.filter_cons_of_pos (by simpa using same)]
        cases n with
        | zero => rfl
        | succ n => rw [List.take_succ_cons, List.take_succ_cons, ih others n]

/-- A list that was cut before a use is, after the use, what it would be if it were cut only then. -/
theorem take_touch {keys : List Key} (distinct : keys.Nodup) (key : Key) (n : Nat) :
    (key :: (keys.take (n + 1)).filter (· ≠ key)).take (n + 1) =
      (key :: keys.filter (· ≠ key)).take (n + 1) := by
  rw [List.take_succ_cons, List.take_succ_cons, take_filter_take distinct]

end Recency
