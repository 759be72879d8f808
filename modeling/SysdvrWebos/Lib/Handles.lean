/-
Module: SysdvrWebos.Lib.Handles
Layer: Lib
Purpose: Resources that are known by a number which the surroundings choose: descriptors, blocks of memory. A
  number is handed out only while it is free, and only what is there can be given back, so a program that
  never gets stuck on these operations gives nothing back twice. `Holds` says what a program holds over the
  resources that were there before it.
Trusted boundary: none (fully proved)
Main exports: Table, acquire, release, adjust, Holds, Holds.acquire, Holds.release, Holds.release_mid, Holds.nothing
Open obligations: none
-/
import Mathlib.Data.List.Perm.Basic
import Mathlib.Logic.Function.Basic

namespace Handles

/-- The resources in use, by their numbers. -/
abbrev Table (Res : Type*) := Nat → Option Res

variable {Res : Type*}

/-- Hand out the number `h`; `none` if it is in use. -/
def acquire (t : Table Res) (h : Nat) (r : Res) : Option (Table Res) :=
  if (t h).isNone then some (Function.update t h (some r)) else none

/-- Give the number `h` back; `none` if it is not in use. -/
def release (t : Table Res) (h : Nat) : Option (Table Res) :=
  if (t h).isSome then some (Function.update t h none) else none

/-- Change what is known by `h`. -/
def adjust (t : Table Res) (h : Nat) (f : Res → Res) : Table Res := Function.update t h ((t h).map f)

theorem acquire_of_free {t : Table Res} {h : Nat} (free : t h = none) (r : Res) :
    acquire t h r = some (Function.update t h (some r)) := by
  simp [acquire, free]

theorem free_of_acquire {t after : Table Res} {h : Nat} {r : Res} (acquired : acquire t h r = some after) :
    t h = none ∧ after = Function.update t h (some r) := by
  unfold acquire at acquired
  split at acquired
  · next free =>
      cases acquired
      exact ⟨Option.isNone_iff_eq_none.mp free, rfl⟩
  · cases acquired

@[simp] theorem adjust_update (t : Table Res) (h : Nat) (r : Res) (f : Res → Res) :
    adjust (Function.update t h (some r)) h f = Function.update t h (some (f r)) := by
  simp [adjust]

/-- What was handed out can be given back, and then all is as before. -/
theorem release_update {t : Table Res} {h : Nat} (free : t h = none) (r : Res) :
    release (Function.update t h (some r)) h = some t := by
  have back : Function.update t h none = t := by
    rw [← free]
    exact Function.update_eq_self h t
  simp [release, back]

/-- Over the resources of `base`, the program holds exactly those in `held`. -/
structure Holds (base : Table Res) (held : List (Nat × Res)) (t : Table Res) : Prop where
  fresh : ∀ p ∈ held, base p.1 = none
  distinct : (held.map Prod.fst).Nodup
  has : ∀ p ∈ held, t p.1 = some p.2
  others : ∀ h, h ∉ held.map Prod.fst → t h = base h

theorem Holds.start (base : Table Res) : Holds base [] base where
  fresh := by simp
  distinct := List.nodup_nil
  has := by simp
  others := fun _ _ => rfl

variable {base t after : Table Res} {held : List (Nat × Res)} {h : Nat} {r : Res}

/-- A program that holds nothing has left all as it was. -/
theorem Holds.nothing (holds : Holds base [] t) : t = base :=
  funext fun h => holds.others h List.not_mem_nil

theorem Holds.notMem (holds : Holds base held t) (free : t h = none) : h ∉ held.map Prod.fst := by
  intro member
  rcases List.mem_map.mp member with ⟨p, inHeld, rfl⟩
  rw [holds.has p inHeld] at free
  cases free

theorem Holds.acquire (holds : Holds base held t) (free : t h = none) (r : Res) :
    Holds base ((h, r) :: held) (Function.update t h (some r)) := by
  have absent := holds.notMem free
  refine ⟨?_, ?_, ?_, ?_⟩
  · intro p member
    rcases List.mem_cons.mp member with rfl | earlier
    · exact (holds.others h absent).symm.trans free
    · exact holds.fresh p earlier
  · exact List.nodup_cons.mpr ⟨absent, holds.distinct⟩
  · intro p member
    rcases List.mem_cons.mp member with rfl | earlier
    · exact Function.update_self ..
    · have other : p.1 ≠ h := fun same => absent (same ▸ List.mem_map_of_mem earlier)
      rw [Function.update_of_ne other]
      exact holds.has p earlier
  · intro other absent'
    rw [List.map_cons, List.mem_cons, not_or] at absent'
    rw [Function.update_of_ne absent'.1]
    exact holds.others other absent'.2

/-- What is held can be given back. -/
theorem Holds.release (holds : Holds base ((h, r) :: held) t) :
    release t h = some (Function.update t h none) ∧ Holds base held (Function.update t h none) := by
  have here : t h = some r := holds.has (h, r) List.mem_cons_self
  have absent : h ∉ held.map Prod.fst := (List.nodup_cons.mp holds.distinct).1
  refine ⟨by simp [Handles.release, here], ?_, (List.nodup_cons.mp holds.distinct).2, ?_, ?_⟩
  · exact fun p member => holds.fresh p (List.mem_cons_of_mem _ member)
  · intro p member
    have other : p.1 ≠ h := fun same => absent (same ▸ List.mem_map_of_mem member)
    rw [Function.update_of_ne other]
    exact holds.has p (List.mem_cons_of_mem _ member)
  · intro other absent'
    by_cases same : other = h
    · subst same
      rw [Function.update_self]
      exact (holds.fresh (other, r) List.mem_cons_self).symm
    · rw [Function.update_of_ne same]
      refine holds.others other ?_
      rw [List.map_cons, List.mem_cons, not_or]
      exact ⟨same, absent'⟩

/-- The order in which things are held does not matter. -/
theorem Holds.perm {other : List (Nat × Res)} (holds : Holds base held t) (same : held.Perm other) :
    Holds base other t where
  fresh := fun p member => holds.fresh p (same.mem_iff.mpr member)
  distinct := (same.map Prod.fst).nodup_iff.mp holds.distinct
  has := fun p member => holds.has p (same.mem_iff.mpr member)
  others := fun h absent => holds.others h fun member => absent ((same.map Prod.fst).mem_iff.mp member)

/-- Something in the middle of what is held can be given back. -/
theorem Holds.release_mid {front back : List (Nat × Res)} (holds : Holds base (front ++ (h, r) :: back) t) :
    ∃ after, Handles.release t h = some after ∧ Holds base (front ++ back) after := by
  rcases (holds.perm List.perm_middle).release with ⟨released, rest⟩
  exact ⟨_, released, rest⟩

end Handles
