/-
Module: SysdvrWebos.Lib.Threads
Layer: Lib
Purpose: Finitely many threads, each at a place of its own, that move one at a time. A quantity summed over
  the threads changes by what the thread that moves changes it, and is at most the number of threads times
  the most one of them can have: the accounting behind checks that other threads can overtake.
Trusted boundary: none (fully proved)
Main exports: Places, move, total, total_move, total_le
Open obligations: none
-/
import Mathlib.Algebra.BigOperators.Group.Finset.Basic
import Mathlib.Algebra.Order.BigOperators.Group.Finset

namespace Threads

variable {ι Place : Type*} [DecidableEq ι]

/-- Where each thread stands. -/
abbrev Places (ι Place : Type*) := ι → Place

/-- One thread goes to another place. -/
def move (places : Places ι Place) (t : ι) (place : Place) : Places ι Place := Function.update places t place

@[simp] theorem move_self (places : Places ι Place) (t : ι) (place : Place) :
    move places t place t = place :=
  Function.update_self ..

theorem move_of_ne (places : Places ι Place) {t other : ι} (distinct : other ≠ t) (place : Place) :
    move places t place other = places other :=
  Function.update_of_ne distinct ..

/-- What holds of the place of each thread after a move. -/
theorem forall_move {places : Places ι Place} {t : ι} {place : Place} {P : ι → Place → Prop}
    (mover : P t place) (others : ∀ other, other ≠ t → P other (places other)) :
    ∀ other, P other (move places t place other) := by
  intro other
  by_cases same : other = t
  · rw [same, move_self]
    exact mover
  · rw [move_of_ne places same]
    exact others other same

variable [Fintype ι] (weight : Place → Nat)

/-- The weights of all places. -/
def total (places : Places ι Place) : Nat := ∑ t, weight (places t)

/-- A move changes the total by what the mover changes. -/
theorem total_move (places : Places ι Place) (t : ι) (place : Place) :
    total weight (move places t place) + weight (places t) = total weight places + weight place := by
  have after : total weight (move places t place)
      = weight place + ∑ u ∈ Finset.univ.erase t, weight (places u) := by
    rw [total, ← Finset.add_sum_erase Finset.univ _ (Finset.mem_univ t), move_self]
    congr 1
    apply Finset.sum_congr rfl
    intro u others
    rw [move_of_ne places (Finset.ne_of_mem_erase others)]
  have before : total weight places
      = weight (places t) + ∑ u ∈ Finset.univ.erase t, weight (places u) :=
    (Finset.add_sum_erase Finset.univ _ (Finset.mem_univ t)).symm
  rw [after, before]
  omega

omit [DecidableEq ι] in
/-- No thread has more than the most that a place gives. -/
theorem total_le {most : Nat} (bounded : ∀ place, weight place ≤ most) (places : Places ι Place) :
    total weight places ≤ Fintype.card ι * most := by
  have each : total weight places ≤ ∑ _t : ι, most := Finset.sum_le_sum fun t _ => bounded (places t)
  have all : ∑ _t : ι, most = Fintype.card ι * most := Finset.sum_const_nat fun _ _ => rfl
  omega

end Threads
