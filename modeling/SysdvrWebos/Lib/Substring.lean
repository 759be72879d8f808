/-
Module: SysdvrWebos.Lib.Substring
Layer: Lib
Purpose: The search for the first occurrence of a needle in a text, read from the front: a part of the text
  that cannot begin the needle is passed over, and where the needle stands the search ends.
Trusted boundary: none (fully proved)
Main exports: strstr, strstr_of_prefix, strstr_skip, strstr_skip_all,
  strstr_eq_none, prefix_stop_iff, suffix_skip_all
Open obligations: none
-/
import Mathlib.Data.List.Infix

variable {α : Type*} {first x : α} {needle rest run : List α}

/-- Up to the first stop, two texts without one inside are the same or neither goes on like the other. -/
theorem prefix_stop_iff {stop : α} {key : List α} (keyStop : stop ∉ key) (runStop : stop ∉ run)
    (rest : List α) : key ++ [stop] <+: run ++ stop :: rest ↔ run = key := by
  induction key generalizing run with
  | nil =>
      cases run with
      | nil => simp
      | cons x run =>
          have other : stop ≠ x := (List.ne_and_not_mem_of_not_mem_cons runStop).1
          simp [List.cons_prefix_cons, other]
  | cons c key ih =>
      rcases List.ne_and_not_mem_of_not_mem_cons keyStop with ⟨first, others⟩
      cases run with
      | nil => simp [List.cons_prefix_cons, first.symm]
      | cons x run =>
          rw [List.cons_append, List.cons_append, List.cons_prefix_cons,
            ih others (List.ne_and_not_mem_of_not_mem_cons runStop).2, List.cons.injEq, eq_comm]

/-- A suffix that begins with an element is not begun where there is none. -/
theorem suffix_skip_all (others : first ∉ run) (rest : List α) :
    first :: needle <:+ run ++ rest ↔ first :: needle <:+ rest := by
  induction run with
  | nil => rfl
  | cons x run ih =>
      rcases List.ne_and_not_mem_of_not_mem_cons others with ⟨other, others⟩
      rw [List.cons_append, List.suffix_cons_iff, ih others]
      exact or_iff_right fun same => other (List.cons.inj same).1

variable [DecidableEq α]

/-- `strstr`: the text from the first occurrence of the needle on. -/
def strstr (needle : List α) : List α → Option (List α)
  | [] => if needle = [] then some [] else none
  | x :: rest => if needle <+: x :: rest then some (x :: rest) else strstr needle rest

theorem strstr_of_prefix (rest : List α) :
    strstr (first :: needle) (first :: (needle ++ rest)) = some (first :: (needle ++ rest)) :=
  if_pos (List.cons_prefix_cons.mpr ⟨rfl, List.prefix_append needle rest⟩)

theorem strstr_of_not_prefix (absent : ¬ needle <+: x :: rest) :
    strstr needle (x :: rest) = strstr needle rest :=
  if_neg absent

/-- An element that does not begin the needle is passed over. -/
theorem strstr_skip (other : x ≠ first) (rest : List α) :
    strstr (first :: needle) (x :: rest) = strstr (first :: needle) rest :=
  strstr_of_not_prefix fun isPrefix => other (List.cons_prefix_cons.mp isPrefix).1.symm

theorem strstr_skip_all (others : first ∉ run) (rest : List α) :
    strstr (first :: needle) (run ++ rest) = strstr (first :: needle) rest := by
  induction run with
  | nil => rfl
  | cons x run ih =>
      rcases List.ne_and_not_mem_of_not_mem_cons others with ⟨other, others⟩
      rw [List.cons_append, strstr_skip fun same => other same.symm]
      exact ih others

/-- A text without the first element of the needle does not have the needle. -/
theorem strstr_eq_none (others : first ∉ run) : strstr (first :: needle) run = none := by
  have skipped : strstr (first :: needle) (run ++ []) = _ := strstr_skip_all others []
  rw [List.append_nil] at skipped
  exact skipped
