/-
Module: SysdvrWebos.Lib.Spans
Layer: Lib
Purpose: The longest run at the head of a list whose elements pass a test, and what is left behind it. A
  scanner that splits its input in this way is read off the split: the run passes, the rest is empty or
  begins with an element that does not.
Trusted boundary: none (fully proved)
Main exports: Spans, Spans.takeWhile_eq, Spans.dropWhile_eq, Spans.of_list
Open obligations: none
-/
import Mathlib.Data.List.TakeWhile

variable {α : Type*} {p : α → Bool} {run rest : List α}

/-- The run passes the test, and the rest does not begin with an element that does. -/
structure Spans (p : α → Bool) (run rest : List α) : Prop where
  inside : ∀ x ∈ run, p x = true
  stops : ∀ x ∈ rest.head?, p x = false

namespace Spans

theorem to_end (inside : ∀ x ∈ run, p x = true) : Spans p run [] := ⟨inside, nofun⟩

theorem to_cons {x : α} (inside : ∀ x ∈ run, p x = true) (stop : p x = false) :
    Spans p run (x :: rest) where
  inside := inside
  stops := by
    intro y first
    cases first
    exact stop

/-- Each list is split at the first element that does not pass. -/
theorem of_list (p : α → Bool) (l : List α) : Spans p (l.takeWhile p) (l.dropWhile p) where
  inside := fun _ member => List.mem_takeWhile_imp member
  stops := by
    intro x first
    have stopped := List.head?_dropWhile_not p l
    rw [first] at stopped
    exact Bool.eq_false_iff.mpr (by simpa using stopped)

theorem takeWhile_eq (spans : Spans p run rest) : (run ++ rest).takeWhile p = run := by
  rw [List.takeWhile_append_of_pos spans.inside]
  cases rest with
  | nil => exact List.append_nil run
  | cons x rest => simp [spans.stops x rfl]

theorem dropWhile_eq (spans : Spans p run rest) : (run ++ rest).dropWhile p = rest := by
  rw [List.dropWhile_append_of_pos spans.inside]
  cases rest with
  | nil => rfl
  | cons x rest => simp [spans.stops x rfl]

end Spans
