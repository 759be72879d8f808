/-
Module: SysdvrWebos.Lib.FairSchedule
Layer: Lib
Purpose: Schedules that go on forever and keep giving answers of a wanted kind. A run looks at a finite
  part of the schedule only; that part can be taken long enough to hold any number of wanted answers.
Trusted boundary: none (fully proved)
Main exports: Fair, exists_many
Open obligations: none
-/
import Mathlib.Data.List.Basic

namespace FairSchedule

variable {Answer : Type*} (wanted : Answer → Bool)

/-- Wanted answers keep coming. -/
def Fair (schedule : Nat → Answer) : Prop := ∀ k, ∃ later, k ≤ later ∧ wanted (schedule later) = true

variable {wanted} {schedule : Nat → Answer}

/-- One more answer adds one if it is wanted. -/
theorem countP_range_succ (n : Nat) :
    ((List.range (n + 1)).map schedule).countP wanted
      = ((List.range n).map schedule).countP wanted + if wanted (schedule n) then 1 else 0 := by
  rw [List.range_succ, List.map_append, List.countP_append, List.map_singleton, List.countP_singleton]

/-- A longer part of the schedule holds no fewer wanted answers. -/
theorem countP_range_mono {first second : Nat} (longer : first ≤ second) :
    ((List.range first).map schedule).countP wanted
      ≤ ((List.range second).map schedule).countP wanted := by
  induction longer with
  | refl => exact Nat.le_refl _
  | step longer ih =>
      rw [countP_range_succ]
      exact Nat.le_trans ih (Nat.le_add_right _ _)

/-- A fair schedule gives as many wanted answers as one likes, in every part that is long enough. -/
theorem exists_many (fair : Fair wanted schedule) (count : Nat) :
    ∃ enough, ∀ turns, enough ≤ turns →
      count < ((List.range turns).map schedule).countP wanted := by
  have reaches : ∃ enough, count < ((List.range enough).map schedule).countP wanted := by
    induction count with
    | zero =>
        rcases fair 0 with ⟨k, _, hit⟩
        refine ⟨k + 1, ?_⟩
        rw [countP_range_succ, if_pos hit]
        exact Nat.succ_pos _
    | succ count ih =>
        rcases ih with ⟨enough, more⟩
        rcases fair enough with ⟨k, later, hit⟩
        have before : ((List.range enough).map schedule).countP wanted
            ≤ ((List.range k).map schedule).countP wanted := countP_range_mono later
        refine ⟨k + 1, ?_⟩
        rw [countP_range_succ, if_pos hit]
        omega
  rcases reaches with ⟨enough, more⟩
  exact ⟨enough, fun turns later => Nat.lt_of_lt_of_le more (countP_range_mono later)⟩

end FairSchedule
