/-
Module: SysdvrWebos.Lib.Ranking
Layer: Lib
Purpose: Termination of a transition system whose environment may act at any time. A rank that every step
  of the system itself lowers, and no step of the environment raises, bounds the number of own steps of a
  run; where an own step is enabled in every state short of the goal, the own steps alone reach it. Where
  some steps of the environment bring more work, each of them is charged with one own step; where steps
  cost something, a run stays within what its steps cost together.
Trusted boundary: none (fully proved)
Main exports: Charged, Charged.bounds, Charged.reaches, Ranked, Ranked.toCharged, Ranked.bounds,
  Ranked.reaches, Approaches, Approaches.arrives, exec_budget
Open obligations: none
-/
import Mathlib.Algebra.BigOperators.Group.List.Basic
import Mathlib.Algebra.Ring.Nat
import SysdvrWebos.Lib.Runs

namespace Runs

variable {State Event : Type*} {step : State → Event → Option State}

/-- Under the invariant, own steps lower the rank, charged steps raise it by one at most, and other steps
    do not raise it. -/
structure Charged (step : State → Event → Option State) (Inv : State → Prop) (own charged : Event → Bool)
    (rank : State → Nat) : Prop where
  preserves : ∀ s e next, Inv s → step s e = some next → Inv next
  lowers : ∀ s e next, Inv s → own e = true → step s e = some next → rank next < rank s
  raises : ∀ s e next, Inv s → charged e = true → step s e = some next → rank next ≤ rank s + 1
  keeps : ∀ s e next, Inv s → own e = false → charged e = false → step s e = some next →
    rank next ≤ rank s

variable {Inv : State → Prop} {own charged : Event → Bool} {rank : State → Nat}

/-- A run takes no more own steps than the rank and the charged steps allow. -/
theorem Charged.bounds (ranked : Charged step Inv own charged rank) :
    ∀ {es : List Event} {s last : State}, Inv s → exec step s es = some last →
      es.countP own + rank last ≤ rank s + es.countP charged := by
  intro es
  induction es with
  | nil =>
      intro s last _ run
      cases run
      simp
  | cons e es ih =>
      intro s last holds run
      obtain ⟨next, taken, rest⟩ := exec_cons.mp run
      have later := ih (ranked.preserves s e next holds taken) rest
      rw [List.countP_cons, List.countP_cons]
      cases isOwn : own e with
      | true =>
          have lower := ranked.lowers s e next holds isOwn taken
          simp only [if_true]
          omega
      | false =>
          cases isCharged : charged e with
          | true =>
              have raised := ranked.raises s e next holds isCharged taken
              simp only [Bool.false_eq_true, if_false, if_true]
              omega
          | false =>
              have kept := ranked.keeps s e next holds isOwn isCharged taken
              simp only [Bool.false_eq_true, if_false]
              omega

/-- Where some own step is enabled in every state short of the goal, own steps alone lead there. -/
theorem Charged.reaches (ranked : Charged step Inv own charged rank) (Goal : State → Prop)
    (enabled : ∀ s, Inv s → ¬ Goal s → ∃ e, own e = true ∧ (step s e).isSome = true) :
    ∀ s, Inv s → ∃ es last, (∀ e ∈ es, own e = true) ∧ es.length ≤ rank s ∧
      exec step s es = some last ∧ Goal last := by
  intro s holds
  induction bound : rank s using Nat.strongRecOn generalizing s with
  | ind n ih =>
      by_cases there : Goal s
      · exact ⟨[], s, by simp, Nat.zero_le _, rfl, there⟩
      · rcases enabled s holds there with ⟨e, isOwn, some_⟩
        rcases Option.isSome_iff_exists.mp some_ with ⟨next, taken⟩
        have lower := ranked.lowers s e next holds isOwn taken
        rcases ih (rank next) (by omega) next (ranked.preserves s e next holds taken) rfl with
          ⟨es, last, all, short, run, goal⟩
        refine ⟨e :: es, last, ?_, ?_, exec_cons.mpr ⟨next, taken, run⟩, goal⟩
        · intro f member
          rcases List.mem_cons.mp member with rfl | later
          · exact isOwn
          · exact all f later
        · simp only [List.length_cons]
          omega

/-- Under the invariant, own steps lower the rank and other steps do not raise it. -/
structure Ranked (step : State → Event → Option State) (Inv : State → Prop) (own : Event → Bool)
    (rank : State → Nat) : Prop where
  preserves : ∀ s e next, Inv s → step s e = some next → Inv next
  lowers : ∀ s e next, Inv s → own e = true → step s e = some next → rank next < rank s
  keeps : ∀ s e next, Inv s → own e = false → step s e = some next → rank next ≤ rank s

/-- Nothing needs to be charged. -/
theorem Ranked.toCharged (ranked : Ranked step Inv own rank) :
    Charged step Inv own (fun _ => false) rank where
  preserves := ranked.preserves
  lowers := ranked.lowers
  raises := fun _ _ _ _ isCharged _ => by cases isCharged
  keeps := fun s e next holds other _ taken => ranked.keeps s e next holds other taken

/-- A run takes no more own steps than the rank allows. -/
theorem Ranked.bounds (ranked : Ranked step Inv own rank) {es : List Event} {s last : State} (holds : Inv s)
    (run : exec step s es = some last) : es.countP own + rank last ≤ rank s := by
  simpa using ranked.toCharged.bounds holds run

/-- Where some own step is enabled in every state short of the goal, own steps alone lead there. -/
theorem Ranked.reaches (ranked : Ranked step Inv own rank) (Goal : State → Prop)
    (enabled : ∀ s, Inv s → ¬ Goal s → ∃ e, own e = true ∧ (step s e).isSome = true) :
    ∀ s, Inv s → ∃ es last, (∀ e ∈ es, own e = true) ∧ es.length ≤ rank s ∧
      exec step s es = some last ∧ Goal last :=
  ranked.toCharged.reaches Goal enabled

/-- Under the invariant, own steps short of the goal lower the rank or reach the goal, other steps do not
    raise the rank, and the goal is not left again. -/
structure Approaches (step : State → Event → Option State) (Inv Goal : State → Prop) (own : Event → Bool)
    (rank : State → Nat) : Prop where
  preserves : ∀ s e next, Inv s → step s e = some next → Inv next
  stays : ∀ s e next, Inv s → Goal s → step s e = some next → Goal next
  lowers : ∀ s e next, Inv s → own e = true → step s e = some next → Goal s ∨ Goal next ∨ rank next < rank s
  keeps : ∀ s e next, Inv s → own e = false → step s e = some next → rank next ≤ rank s

/-- A run with more own steps than the rank has reached the goal. -/
theorem Approaches.arrives {Goal : State → Prop} (approaches : Approaches step Inv Goal own rank) :
    ∀ {es : List Event} {s last : State}, Inv s → exec step s es = some last →
      Goal s ∨ rank s < es.countP own → Goal last := by
  intro es
  induction es with
  | nil =>
      intro s last _ run cause
      cases run
      rcases cause with there | more
      · exact there
      · simp at more
  | cons e es ih =>
      intro s last holds run cause
      rcases exec_cons.mp run with ⟨next, taken, rest⟩
      have later := ih (approaches.preserves s e next holds taken) rest
      rcases cause with there | more
      · exact later (Or.inl (approaches.stays s e next holds there taken))
      · cases isOwn : own e with
        | true =>
            rw [List.countP_cons_of_pos isOwn] at more
            rcases approaches.lowers s e next holds isOwn taken with there | there | lower
            · exact later (Or.inl (approaches.stays s e next holds there taken))
            · exact later (Or.inl there)
            · exact later (Or.inr (by omega))
        | false =>
            rw [List.countP_cons_of_neg (by simp [isOwn])] at more
            have kept := approaches.keeps s e next holds isOwn taken
            exact later (Or.inr (by omega))

/-- An invariant that holds within a budget, where each step costs something. -/
theorem exec_budget {Within : Nat → State → Prop} {A : Event → Prop} {cost : Event → Nat}
    (spends : ∀ b s e next, A e → Within b s → step s e = some next → Within (b + cost e) next) :
    ∀ {es : List Event} {b : Nat} {s last : State}, (∀ e ∈ es, A e) → Within b s →
      exec step s es = some last → Within (b + (es.map cost).sum) last := by
  intro es
  induction es with
  | nil =>
      intro b s last _ within run
      cases run
      exact within
  | cons e es ih =>
      intro b s last allowed within run
      obtain ⟨next, taken, rest⟩ := exec_cons.mp run
      have first := spends b s e next (allowed e List.mem_cons_self) within taken
      have later := ih (fun f member => allowed f (List.mem_cons_of_mem e member)) first rest
      rw [List.map_cons, List.sum_cons, ← Nat.add_assoc]
      exact later

end Runs
