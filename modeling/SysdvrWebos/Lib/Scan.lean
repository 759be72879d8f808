/-
Module: SysdvrWebos.Lib.Scan
Layer: Lib
Purpose: Computations that read a buffer by index. A `Scan` says which cell it reads next depending on
  what it has read so far, so the cells it touches are part of its meaning and not of one evaluation.
  `Within n` bounds them on every branch; a scan within `n` cannot tell two buffers apart that agree
  below `n`.
Trusted boundary: none (fully proved)
Main exports: Scan, Scan.run, Scan.touched, Scan.Within, Scan.slice, Scan.readsAs, Scan.touched_lt,
  Scan.run_congr
Open obligations: none
-/
import Mathlib.Data.List.Basic

/-- A computation over a buffer of `Cell`s that ends in a result. -/
inductive Scan (Cell : Type) (α : Type) : Type where
  | done (result : α)
  | read (index : Nat) (next : Cell → Scan Cell α)

namespace Scan

variable {Cell α β : Type}

protected def bind : Scan Cell α → (α → Scan Cell β) → Scan Cell β
  | .done result, f => f result
  | .read index next, f => .read index fun cell => (next cell).bind f

instance : Monad (Scan Cell) where
  pure := .done
  bind := Scan.bind

/-- Read one cell. -/
def cell (index : Nat) : Scan Cell Cell := .read index .done

/-- The result over a given buffer. -/
def run (memory : Nat → Cell) : Scan Cell α → α
  | .done result => result
  | .read index next => (next (memory index)).run memory

/-- The indices read over a given buffer, in order. -/
def touched (memory : Nat → Cell) : Scan Cell α → List Nat
  | .done _ => []
  | .read index next => index :: (next (memory index)).touched memory

/-- Whatever the cells hold, only indices below `size` are read. -/
def Within (size : Nat) : Scan Cell α → Prop
  | .done _ => True
  | .read index next => index < size ∧ ∀ c, (next c).Within size

/-- Read `count` consecutive cells. -/
def slice (start : Nat) : (count : Nat) → Scan Cell (List Cell)
  | 0 => pure []
  | count + 1 => do
      let head ← cell start
      let tail ← slice (start + 1) count
      pure (head :: tail)

/-- Compare consecutive cells with the expected ones and stop at the first difference. -/
def readsAs [DecidableEq Cell] : List Cell → (start : Nat) → Scan Cell Bool
  | [], _ => pure true
  | expected :: rest, start => do
      let found ← cell start
      if found = expected then readsAs rest (start + 1) else pure false

/-! ### Results -/

@[simp] theorem run_pure (memory : Nat → Cell) (result : α) :
    (pure result : Scan Cell α).run memory = result := rfl

@[simp] theorem run_cell (memory : Nat → Cell) (index : Nat) :
    (cell index).run memory = memory index := rfl

@[simp] theorem run_bind (memory : Nat → Cell) (scan : Scan Cell α) (f : α → Scan Cell β) :
    (scan >>= f).run memory = (f (scan.run memory)).run memory := by
  induction scan with
  | done result => rfl
  | read index next ih => exact ih (memory index)

theorem run_cell_bind (memory : Nat → Cell) (index : Nat) (f : Cell → Scan Cell β) :
    (cell index >>= f).run memory = (f (memory index)).run memory := rfl

@[simp] theorem run_ite (memory : Nat → Cell) (p : Prop) [Decidable p] (first second : Scan Cell α) :
    (if p then first else second).run memory
      = if p then first.run memory else second.run memory := by
  split <;> rfl

theorem run_slice (memory : Nat → Cell) (start count : Nat) :
    (slice start count).run memory = (List.range' start count).map memory := by
  induction count generalizing start with
  | zero => rfl
  | succ count ih => simp [slice, ih, List.range'_succ]

/-! ### Bounds -/

@[simp] theorem within_cell {size index : Nat} :
    (cell index : Scan Cell Cell).Within size ↔ index < size :=
  ⟨fun within => within.1, fun bound => ⟨bound, fun _ => trivial⟩⟩

theorem within_bind {size : Nat} {scan : Scan Cell α} {f : α → Scan Cell β}
    (first : scan.Within size) (second : ∀ result, (f result).Within size) :
    (scan >>= f).Within size := by
  induction scan with
  | done result => exact second result
  | read index next ih => exact ⟨first.1, fun c => ih c (first.2 c)⟩

theorem within_ite {size : Nat} {p : Prop} [Decidable p] {first second : Scan Cell α}
    (holds : p → first.Within size) (fails : ¬ p → second.Within size) :
    (if p then first else second).Within size := by
  split
  · next h => exact holds h
  · next h => exact fails h

theorem within_slice {size start count : Nat} (room : start + count ≤ size) :
    (slice start count : Scan Cell (List Cell)).Within size := by
  induction count generalizing start with
  | zero => trivial
  | succ count ih =>
      refine within_bind (within_cell.mpr (by omega)) fun head => ?_
      exact within_bind (ih (by omega)) fun tail => trivial

theorem within_readsAs [DecidableEq Cell] {size start : Nat} {expected : List Cell}
    (room : start + expected.length ≤ size) : (readsAs expected start).Within size := by
  induction expected generalizing start with
  | nil => trivial
  | cons first rest ih =>
      rw [List.length_cons] at room
      refine within_bind (within_cell.mpr (by omega)) fun found => ?_
      exact within_ite (fun _ => ih (by omega)) fun _ => trivial

/-- A scan within `size` reads only indices below `size` of any buffer. -/
theorem touched_lt {size : Nat} {scan : Scan Cell α} (within : scan.Within size)
    (memory : Nat → Cell) : ∀ index ∈ scan.touched memory, index < size := by
  induction scan with
  | done result => simp [touched]
  | read index next ih =>
      intro other member
      rcases List.mem_cons.mp member with here | later
      · exact here ▸ within.1
      · exact ih (memory index) (within.2 (memory index)) other later

/-- A scan within `size` has the same result over buffers that agree below `size`. -/
theorem run_congr {size : Nat} {scan : Scan Cell α} (within : scan.Within size)
    {first second : Nat → Cell} (agree : ∀ index, index < size → first index = second index) :
    scan.run first = scan.run second := by
  induction scan with
  | done result => rfl
  | read index next ih =>
      simp only [run]
      rw [agree index within.1]
      exact ih (second index) (within.2 (second index))

end Scan
