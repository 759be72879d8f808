/-
Module: SysdvrWebos.Lib.Alike
Layer: Lib
Purpose: Two computations that may fail, compared step by step: either both fail with the same admissible
  error, or both succeed with related results. With equal computations on both sides this says that no
  other error occurs; with different inputs it says that the difference does not show.
Trusted boundary: none (fully proved)
Main exports: Alike, Alike.bind, Alike.ite, Alike.eq, Alike.map_eq, Alike.ne_error
Open obligations: none
-/

/-- Both fail with the same admissible error, or both succeed with related results. -/
inductive Alike {ε α β : Type} (admissible : ε → Prop) (R : α → β → Prop) :
    Except ε α → Except ε β → Prop where
  | error {e : ε} (allowed : admissible e) : Alike admissible R (.error e) (.error e)
  | ok {a : α} {b : β} (related : R a b) : Alike admissible R (.ok a) (.ok b)

namespace Alike

variable {ε α β γ δ : Type} {admissible : ε → Prop} {R : α → β → Prop} {S : γ → δ → Prop}

theorem admissible_of_error {first : Except ε α} {second : Except ε β} {e : ε}
    (alike : Alike admissible R first second) (failed : first = .error e) : admissible e := by
  cases alike with
  | error allowed =>
      cases failed
      exact allowed
  | ok related => contradiction

/-- A computation is like itself if only admissible errors occur in it. -/
theorem refl {first : Except ε α} (safe : ∀ e, first = .error e → admissible e) :
    Alike admissible Eq first first := by
  cases first with
  | error e => exact .error (safe e rfl)
  | ok a => exact .ok rfl

/-- Related results go into related continuations. -/
theorem bind {first : Except ε α} {second : Except ε β} {f : α → Except ε γ} {g : β → Except ε δ}
    (alike : Alike admissible R first second)
    (next : ∀ a b, R a b → Alike admissible S (f a) (g b)) :
    Alike admissible S (first >>= f) (second >>= g) := by
  cases alike with
  | error allowed => exact .error allowed
  | ok related => exact next _ _ related

/-- The same test on both sides. -/
theorem ite {p q : Prop} [Decidable p] [Decidable q] {first first' : Except ε α}
    {second second' : Except ε β} (same : p ↔ q)
    (holds : p → Alike admissible R first second)
    (fails : ¬ p → Alike admissible R first' second') :
    Alike admissible R (if p then first else first') (if q then second else second') := by
  by_cases test : p
  · rw [if_pos test, if_pos (same.mp test)]
    exact holds test
  · rw [if_neg test, if_neg fun other => test (same.mpr other)]
    exact fails test

/-- Computations alike up to equality are equal. -/
theorem eq {first second : Except ε α} (alike : Alike admissible Eq first second) :
    first = second := by
  cases alike with
  | error allowed => rfl
  | ok related => exact congrArg Except.ok related

/-- Results that agree under an observation are equal under it. -/
theorem map_eq {o : α → γ} {o' : β → γ} {first : Except ε α} {second : Except ε β}
    (alike : Alike admissible R first second) (observed : ∀ a b, R a b → o a = o' b) :
    first.map o = second.map o' := by
  cases alike with
  | error allowed => rfl
  | ok related => exact congrArg Except.ok (observed _ _ related)

/-- An error that is not admissible does not occur. -/
theorem ne_error {first : Except ε α} {second : Except ε β} {e : ε}
    (alike : Alike admissible R first second) (forbidden : ¬ admissible e) : first ≠ .error e :=
  fun failed => forbidden (alike.admissible_of_error failed)

end Alike
