/-
Module: SysdvrWebos.Lib.Buffer
Layer: Lib
Purpose: A buffer of fixed size that is filled from the front by consecutive stores. A store that does
  not fit is no store at all, so a run that reaches its end has kept every index in bounds.
Trusted boundary: none (fully proved)
Main exports: Buffer.store, Buffer.store_of_fits, Buffer.length_store, Buffer.take_store
Open obligations: none
-/
import Mathlib.Data.List.Basic

namespace Buffer

variable {Cell : Type*}

/-- Overwrite the cells from `offset` on; `none` if the last one is past the end. -/
def store (buffer : List Cell) (offset : Nat) (cells : List Cell) : Option (List Cell) :=
  if offset + cells.length ≤ buffer.length then
    some (buffer.take offset ++ cells ++ buffer.drop (offset + cells.length))
  else
    none

theorem store_of_fits {buffer cells : List Cell} {offset : Nat}
    (fits : offset + cells.length ≤ buffer.length) :
    store buffer offset cells
      = some (buffer.take offset ++ cells ++ buffer.drop (offset + cells.length)) :=
  if_pos fits

/-- A store keeps the size of the buffer. -/
theorem length_store {buffer cells after : List Cell} {offset : Nat}
    (stored : store buffer offset cells = some after) : after.length = buffer.length := by
  unfold store at stored
  split at stored
  · next fits =>
      cases stored
      simp only [List.length_append, List.length_take, List.length_drop]
      omega
  · contradiction

/-- What was filled before stays in front of what is stored behind it. -/
theorem take_store {buffer cells after : List Cell} {offset : Nat}
    (stored : store buffer offset cells = some after) :
    after.take (offset + cells.length) = buffer.take offset ++ cells := by
  unfold store at stored
  split at stored
  · next fits =>
      cases stored
      have room : (buffer.take offset ++ cells).length = offset + cells.length := by
        simp only [List.length_append, List.length_take]
        omega
      rw [← room, List.take_left]
  · contradiction

end Buffer
