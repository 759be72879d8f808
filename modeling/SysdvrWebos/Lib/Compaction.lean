/-
Module: SysdvrWebos.Lib.Compaction
Layer: Lib
Purpose: Deleting elements from the front part of an array while scanning it: a read index walks over
  the array and every kept element is moved down to a write index that never overtakes it. The cells
  before the write index end up holding the kept elements in their old order.
Trusted boundary: none (fully proved)
Main exports: compact, compact_length, compact_count, compact_take, compact_of_all_kept, rank,
  getElem?_filter_rank, take_filter_rank
Open obligations: none
-/
import Mathlib.Data.List.Basic

namespace Compaction

variable {α : Type*} (keep : α → Bool)

/-- Scan `n` cells from index `read` on and move the kept ones down to index `write`. The result is the
    array and the final write index. -/
def compact : (n : Nat) → (slots : List α) → (read write : Nat) → List α × Nat
  | 0, slots, _, write => (slots, write)
  | n + 1, slots, read, write =>
      match slots[read]? with
      | none => (slots, write)
      | some x =>
          if keep x then
            compact n (if write ≠ read then slots.set write x else slots) (read + 1) (write + 1)
          else
            compact n slots (read + 1) write

variable {keep}

/-- The cell a kept element is moved to holds it whether or not the move was skipped. -/
private theorem moved_eq_set {slots : List α} {read write : Nat} {x : α}
    (atRead : slots[read]? = some x) :
    (if write ≠ read then slots.set write x else slots) = slots.set write x := by
  split
  · rfl
  · next same =>
      have same : write = read := by simpa using same
      subst same
      obtain ⟨bound, hx⟩ := List.getElem?_eq_some_iff.mp atRead
      rw [← hx, List.set_getElem_self]

/-- Compaction keeps the size of the array. -/
@[simp] theorem compact_length (n : Nat) (slots : List α) (read write : Nat) :
    (compact keep n slots read write).1.length = slots.length := by
  induction n generalizing slots read write with
  | zero => rfl
  | succ n ih =>
      simp only [compact]
      split
      · rfl
      · split
        · rw [ih]
          split <;> simp
        · rw [ih]

/-- One more scanned cell: the window splits into its head and the rest. -/
private theorem window_succ {slots : List α} {read n : Nat} {x : α}
    (atRead : slots[read]? = some x) :
    (slots.drop read).take (n + 1) = x :: (slots.drop (read + 1)).take n := by
  obtain ⟨bound, hx⟩ := List.getElem?_eq_some_iff.mp atRead
  rw [List.drop_eq_getElem_cons bound, hx, List.take_succ_cons]

/-- The write index advances once for each kept cell of the window. -/
theorem compact_count {n : Nat} {slots : List α} {read write : Nat}
    (behind : write ≤ read) (room : read + n ≤ slots.length) :
    (compact keep n slots read write).2
      = write + (((slots.drop read).take n).filter keep).length := by
  induction n generalizing slots read write with
  | zero => simp [compact]
  | succ n ih =>
      have inside : read < slots.length := by omega
      obtain ⟨x, atRead⟩ : ∃ x, slots[read]? = some x := ⟨slots[read], List.getElem?_eq_getElem inside⟩
      simp only [compact, atRead, moved_eq_set atRead, window_succ atRead]
      split
      · next kept =>
          rw [ih (by omega) (by simp; omega), List.drop_set_of_lt (by omega)]
          simp [kept]
          omega
      · next dropped =>
          rw [ih (by omega) (by omega)]
          simp [dropped]

/-- The cells before the final write index hold what stood there before the scan, followed by the kept
    cells of the window in their old order. -/
theorem compact_take {n : Nat} {slots : List α} {read write : Nat}
    (behind : write ≤ read) (room : read + n ≤ slots.length) :
    (compact keep n slots read write).1.take (compact keep n slots read write).2
      = slots.take write ++ ((slots.drop read).take n).filter keep := by
  induction n generalizing slots read write with
  | zero => simp [compact]
  | succ n ih =>
      have inside : read < slots.length := by omega
      obtain ⟨x, atRead⟩ : ∃ x, slots[read]? = some x := ⟨slots[read], List.getElem?_eq_getElem inside⟩
      simp only [compact, atRead, moved_eq_set atRead, window_succ atRead]
      split
      · next kept =>
          have grown : (slots.set write x).take (write + 1) = slots.take write ++ [x] := by
            rw [List.take_add_one, List.take_set_of_le (Nat.le_refl write),
              List.getElem?_set_self (by omega)]
            rfl
          rw [ih (by omega) (by simp; omega), List.drop_set_of_lt (by omega), grown]
          simp [kept]
      · next dropped =>
          rw [ih (by omega) (by omega)]
          simp [dropped]

/-- Compacting a window in which every cell is kept moves nothing. -/
theorem compact_of_all_kept {n : Nat} {slots : List α} {read : Nat} (room : read + n ≤ slots.length)
    (all : ∀ x ∈ (slots.drop read).take n, keep x = true) :
    compact keep n slots read read = (slots, read + n) := by
  induction n generalizing read with
  | zero => rfl
  | succ n ih =>
      have inside : read < slots.length := by omega
      have atRead : slots[read]? = some slots[read] := List.getElem?_eq_getElem inside
      rw [window_succ atRead] at all
      have kept : keep slots[read] = true := all _ List.mem_cons_self
      have rest := ih (by omega) fun x member => all x (List.mem_cons_of_mem _ member)
      simp only [compact, atRead, kept, if_true, ne_eq, not_true_eq_false, if_false, rest]
      rw [Nat.add_assoc, Nat.add_comm 1 n]

/-! ### Where an element goes -/

variable (keep) in
/-- How many elements before index `i` are kept: the index at which a kept element at `i` ends up. -/
def rank (xs : List α) (i : Nat) : Nat := ((xs.take i).filter keep).length

theorem filter_eq_rank_split (xs : List α) (i : Nat) :
    xs.filter keep = (xs.take i).filter keep ++ (xs.drop i).filter keep := by
  rw [← List.filter_append, List.take_append_drop]

theorem take_filter_rank (xs : List α) (i : Nat) :
    (xs.filter keep).take (rank keep xs i) = (xs.take i).filter keep := by
  rw [filter_eq_rank_split xs i]
  exact List.take_left

/-- A kept element is found at its rank. -/
theorem getElem?_filter_rank {xs : List α} {i : Nat} {x : α} (here : xs[i]? = some x)
    (kept : keep x = true) : (xs.filter keep)[rank keep xs i]? = some x := by
  obtain ⟨bound, value⟩ := List.getElem?_eq_some_iff.mp here
  rw [filter_eq_rank_split xs i, rank, List.getElem?_append_right (Nat.le_refl _), Nat.sub_self,
    List.drop_eq_getElem_cons bound, value, List.filter_cons_of_pos kept]
  rfl

end Compaction
