/-
Module: SysdvrWebos.Lib.Runs
Layer: Lib
Purpose: Finite runs of an executable labelled transition system whose steps may be disabled. A run is
  the list of its events, so interleavings of several parties are lists of labels. The induction rules
  here carry one step lemma to every run: an invariant, an invariant that needs a condition on each step,
  the converse reading of such a condition, an invariant about what the steps yield, a flag that some
  steps set, and a simulation by a total abstract step.
Trusted boundary: none (fully proved)
Main exports: exec, AllSteps, AllStates, AnyStep, yields, Reaches, exec_total, exec_invariant, exec_yields,
  allSteps_of_events, allStates_of_allSteps, allSteps_of_allStates, anyStep_or_iff, exec_flag, exec_simulates
Open obligations: none
-/
import Mathlib.Data.List.Basic

namespace Runs

variable {State Event : Type*} (step : State → Event → Option State)

/-- Play the events from left to right; `none` as soon as one of them is not enabled. -/
def exec : State → List Event → Option State
  | s, [] => some s
  | s, e :: es => (step s e).bind fun next => exec next es

/-- Every event of the run is played in a state that satisfies `P` together with it. -/
def AllSteps (P : State → Event → Prop) : State → List Event → Prop
  | _, [] => True
  | s, e :: es => P s e ∧ ∀ next, step s e = some next → AllSteps P next es

/-- Every state the run visits, the first and the last included, satisfies `Q`. -/
def AllStates (Q : State → Prop) : State → List Event → Prop
  | s, [] => Q s
  | s, e :: es => Q s ∧ ∀ next, step s e = some next → AllStates Q next es

/-- Some event of the run is played in a state that satisfies `P` together with it. -/
def AnyStep (P : State → Event → Prop) : State → List Event → Prop
  | _, [] => False
  | s, e :: es => P s e ∨ ∃ next, step s e = some next ∧ AnyStep P next es

/-- What the steps of a run yield, in their order. -/
def yields {Yield : Type*} (f : State → Event → List Yield) : State → List Event → List Yield
  | _, [] => []
  | s, e :: es => f s e ++ match step s e with
    | some next => yields f next es
    | none => []

variable {step}

instance decidableAnyStep {P : State → Event → Prop} [∀ s e, Decidable (P s e)] :
    ∀ (s : State) (es : List Event), Decidable (AnyStep step P s es)
  | _, [] => .isFalse id
  | s, e :: es =>
      match hstep : step s e with
      | none => decidable_of_iff (P s e) (by simp [AnyStep, hstep])
      | some next =>
          have := decidableAnyStep (P := P) next es
          decidable_of_iff (P s e ∨ AnyStep step P next es) (by simp [AnyStep, hstep])

instance decidableAllSteps {P : State → Event → Prop} [∀ s e, Decidable (P s e)] :
    ∀ (s : State) (es : List Event), Decidable (AllSteps step P s es)
  | _, [] => .isTrue trivial
  | s, e :: es =>
      match hstep : step s e with
      | none => decidable_of_iff (P s e) (by simp [AllSteps, hstep])
      | some next =>
          have := decidableAllSteps (P := P) next es
          decidable_of_iff (P s e ∧ AllSteps step P next es) (by simp [AllSteps, hstep])

@[simp] theorem exec_nil (s : State) : exec step s [] = some s := rfl

theorem exec_cons {s last : State} {e : Event} {es : List Event} :
    exec step s (e :: es) = some last ↔
      ∃ next, step s e = some next ∧ exec step next es = some last := by
  simp [exec, Option.bind_eq_some_iff]

theorem exec_append {s last : State} {es fs : List Event} :
    exec step s (es ++ fs) = some last ↔
      ∃ middle, exec step s es = some middle ∧ exec step middle fs = some last := by
  induction es generalizing s with
  | nil => simp
  | cons e es ih =>
      simp only [List.cons_append, exec_cons, ih]
      constructor
      · rintro ⟨next, hstep, middle, hfirst, hsecond⟩
        exact ⟨middle, ⟨next, hstep, hfirst⟩, hsecond⟩
      · rintro ⟨middle, ⟨next, hstep, hfirst⟩, hsecond⟩
        exact ⟨next, hstep, middle, hfirst, hsecond⟩

/-- Where every event is enabled, every run leads somewhere. -/
theorem exec_total (total : ∀ s e, ∃ next, step s e = some next) (s : State) (es : List Event) :
    ∃ last, exec step s es = some last := by
  induction es generalizing s with
  | nil => exact ⟨s, rfl⟩
  | cons e es ih =>
      obtain ⟨next, hstep⟩ := total s e
      obtain ⟨last, hrest⟩ := ih next
      exact ⟨last, exec_cons.mpr ⟨next, hstep, hrest⟩⟩

/-- The invariant rule: what every step preserves holds at the end of every run. -/
theorem exec_invariant {Inv : State → Prop}
    (preserves : ∀ s e next, Inv s → step s e = some next → Inv next) :
    ∀ {es : List Event} {s last : State}, Inv s → exec step s es = some last → Inv last := by
  intro es
  induction es with
  | nil =>
      intro s last hs hrun
      cases hrun
      exact hs
  | cons e es ih =>
      intro s last hs hrun
      obtain ⟨next, hstep, hrest⟩ := exec_cons.mp hrun
      exact ih (preserves s e next hs hstep) hrest

/-- The invariant rule for a run whose every step meets a condition. -/
theorem exec_invariant_of_allSteps {Inv : State → Prop} {P : State → Event → Prop}
    (preserves : ∀ s e next, Inv s → P s e → step s e = some next → Inv next) :
    ∀ {es : List Event} {s last : State}, AllSteps step P s es → Inv s →
      exec step s es = some last → Inv last := by
  intro es
  induction es with
  | nil =>
      intro s last _ hs hrun
      cases hrun
      exact hs
  | cons e es ih =>
      intro s last hall hs hrun
      obtain ⟨next, hstep, hrest⟩ := exec_cons.mp hrun
      exact ih (hall.2 next hstep) (preserves s e next hs hall.1 hstep) hrest

/-- The invariant rule for what a run yields: it may speak of everything yielded so far. -/
theorem exec_yields {Yield : Type*} {f : State → Event → List Yield} {Inv : List Yield → State → Prop}
    {P : State → Event → Prop}
    (preserves : ∀ sofar s e next, Inv sofar s → P s e → step s e = some next → Inv (sofar ++ f s e) next) :
    ∀ {es : List Event} {sofar : List Yield} {s last : State}, AllSteps step P s es → Inv sofar s →
      exec step s es = some last → Inv (sofar ++ yields step f s es) last := by
  intro es
  induction es with
  | nil =>
      intro sofar s last _ hs hrun
      cases hrun
      rw [yields, List.append_nil]
      exact hs
  | cons e es ih =>
      intro sofar s last hall hs hrun
      obtain ⟨next, hstep, hrest⟩ := exec_cons.mp hrun
      have rest := ih (hall.2 next hstep) (preserves sofar s e next hs hall.1 hstep) hrest
      rw [yields, hstep, ← List.append_assoc]
      exact rest

/-- A condition on the events alone can be added to a condition on the steps. -/
theorem AllSteps.and_events {P : State → Event → Prop} {A : Event → Prop} :
    ∀ {es : List Event} {s : State}, AllSteps step P s es → (∀ e ∈ es, A e) →
      AllSteps step (fun s e => P s e ∧ A e) s es := by
  intro es
  induction es with
  | nil =>
      intro s _ _
      exact trivial
  | cons e es ih =>
      intro s hall hevents
      refine ⟨⟨hall.1, hevents e List.mem_cons_self⟩, fun next hstep => ?_⟩
      exact ih (hall.2 next hstep) fun f hf => hevents f (List.mem_cons_of_mem e hf)

/-- A condition on the events alone holds at every step of a run of such events. -/
theorem allSteps_of_events {A : Event → Prop} :
    ∀ {es : List Event} {s : State}, (∀ e ∈ es, A e) → AllSteps step (fun _ e => A e) s es := by
  intro es
  induction es with
  | nil =>
      intro s _
      exact trivial
  | cons e es ih =>
      intro s hevents
      exact ⟨hevents e List.mem_cons_self,
        fun next _ => ih fun f hf => hevents f (List.mem_cons_of_mem e hf)⟩

/-- If each step that meets `P` keeps `Q`, a run whose steps all meet `P` stays inside `Q`. -/
theorem allStates_of_allSteps {Q : State → Prop} {P : State → Event → Prop}
    (preserves : ∀ s e next, Q s → P s e → step s e = some next → Q next) :
    ∀ {es : List Event} {s : State}, Q s → AllSteps step P s es → AllStates step Q s es := by
  intro es
  induction es with
  | nil =>
      intro s hs _
      exact hs
  | cons e es ih =>
      intro s hs hall
      exact ⟨hs, fun next hstep => ih (preserves s e next hs hall.1 hstep) (hall.2 next hstep)⟩

/-- The first state of a run is among the states it visits, -/
theorem AllStates.first {Q : State → Prop} {s : State} {es : List Event}
    (hall : AllStates step Q s es) : Q s := by
  cases es with
  | nil => exact hall
  | cons e es => exact hall.1

/-- If a step that stays inside `Q` must have met `P`, a run inside `Q` meets `P` at every step. -/
theorem allSteps_of_allStates {Q : State → Prop} {P : State → Event → Prop}
    (forced : ∀ s e, Q s → (∀ next, step s e = some next → Q next) → P s e) :
    ∀ {es : List Event} {s : State}, AllStates step Q s es → AllSteps step P s es := by
  intro es
  induction es with
  | nil =>
      intro s _
      exact trivial
  | cons e es ih =>
      intro s hall
      exact ⟨forced s e hall.1 fun next hstep => (hall.2 next hstep).first,
        fun next hstep => ih (hall.2 next hstep)⟩

/-- and so is the last. -/
theorem AllStates.last {Q : State → Prop} :
    ∀ {es : List Event} {s last : State}, AllStates step Q s es →
      exec step s es = some last → Q last := by
  intro es
  induction es with
  | nil =>
      intro s last hall hrun
      cases hrun
      exact hall
  | cons e es ih =>
      intro s last hall hrun
      obtain ⟨next, hstep, hrest⟩ := exec_cons.mp hrun
      exact ih (hall.2 next hstep) hrest

/-- Under an invariant a condition on the steps can be replaced by one that it implies there. -/
theorem AllSteps.imp_of_invariant {Inv : State → Prop} {P Q : State → Event → Prop}
    (preserves : ∀ s e next, Inv s → step s e = some next → Inv next)
    (weaker : ∀ s e, Inv s → P s e → Q s e) :
    ∀ {es : List Event} {s : State}, Inv s → AllSteps step P s es → AllSteps step Q s es := by
  intro es
  induction es with
  | nil =>
      intro s _ _
      exact trivial
  | cons e es ih =>
      intro s hs hall
      exact ⟨weaker s e hs hall.1,
        fun next hstep => ih (preserves s e next hs hstep) (hall.2 next hstep)⟩

/-- Two invariants of a run hold together. -/
theorem AllStates.and {Q R : State → Prop} :
    ∀ {es : List Event} {s : State}, AllStates step Q s es → AllStates step R s es →
      AllStates step (fun s => Q s ∧ R s) s es := by
  intro es
  induction es with
  | nil =>
      intro s hfirst hsecond
      exact ⟨hfirst, hsecond⟩
  | cons e es ih =>
      intro s hfirst hsecond
      exact ⟨⟨hfirst.1, hsecond.1⟩,
        fun next hstep => ih (hfirst.2 next hstep) (hsecond.2 next hstep)⟩

theorem AllStates.imp {Q R : State → Prop} (weaker : ∀ s, Q s → R s) :
    ∀ {es : List Event} {s : State}, AllStates step Q s es → AllStates step R s es := by
  intro es
  induction es with
  | nil =>
      intro s hall
      exact weaker s hall
  | cons e es ih =>
      intro s hall
      exact ⟨weaker s hall.1, fun next hstep => ih (hall.2 next hstep)⟩

/-- Some run leads from the first state to the second. -/
def Reaches (step : State → Event → Option State) (s last : State) : Prop :=
  ∃ es, exec step s es = some last

theorem Reaches.refl (s : State) : Reaches step s s := ⟨[], rfl⟩

theorem Reaches.single {s next : State} {e : Event} (hstep : step s e = some next) :
    Reaches step s next :=
  ⟨[e], exec_cons.mpr ⟨next, hstep, rfl⟩⟩

theorem Reaches.trans {s middle last : State} (first : Reaches step s middle)
    (second : Reaches step middle last) : Reaches step s last := by
  rcases first with ⟨es, hes⟩
  rcases second with ⟨fs, hfs⟩
  exact ⟨es ++ fs, exec_append.mpr ⟨middle, hes, hfs⟩⟩

/-- A step at which one of two conditions holds. -/
theorem anyStep_or_iff {P Q : State → Event → Prop} :
    ∀ {es : List Event} {s : State},
      AnyStep step (fun s e => P s e ∨ Q s e) s es ↔ AnyStep step P s es ∨ AnyStep step Q s es := by
  intro es
  induction es with
  | nil => simp [AnyStep]
  | cons e es ih =>
      intro s
      simp only [AnyStep, ih]
      constructor
      · rintro ((first | second) | ⟨next, hstep, first | second⟩)
        · exact Or.inl (Or.inl first)
        · exact Or.inr (Or.inl second)
        · exact Or.inl (Or.inr ⟨next, hstep, first⟩)
        · exact Or.inr (Or.inr ⟨next, hstep, second⟩)
      · rintro ((first | ⟨next, hstep, first⟩) | (second | ⟨next, hstep, second⟩))
        · exact Or.inl (Or.inl first)
        · exact Or.inr ⟨next, hstep, Or.inl first⟩
        · exact Or.inl (Or.inr second)
        · exact Or.inr ⟨next, hstep, Or.inr second⟩

/-- A flag that each step sets exactly under `P` and none takes back is set at the end of a run exactly
    if it was at its start or `P` held at some step. -/
theorem exec_flag {Flag : State → Prop} {P : State → Event → Prop}
    (sets : ∀ s e next, step s e = some next → (Flag next ↔ Flag s ∨ P s e)) :
    ∀ {es : List Event} {s last : State}, exec step s es = some last →
      (Flag last ↔ Flag s ∨ AnyStep step P s es) := by
  intro es
  induction es with
  | nil =>
      intro s last hrun
      cases hrun
      simp [AnyStep]
  | cons e es ih =>
      intro s last hrun
      obtain ⟨next, hstep, hrest⟩ := exec_cons.mp hrun
      have later : (∃ other, step s e = some other ∧ AnyStep step P other es)
          ↔ AnyStep step P next es := by
        rw [hstep]
        simp
      rw [ih hrest, sets s e next hstep, AnyStep, later, or_assoc]

/-- Forward simulation by a total abstract step: related states stay related along a run whose events
    are all admissible. -/
theorem exec_simulates {Abstract : Type*} {R : State → Abstract → Prop}
    {astep : Abstract → Event → Abstract} {admissible : Event → Prop}
    (simulates : ∀ s a e next, admissible e → R s a → step s e = some next → R next (astep a e)) :
    ∀ {es : List Event} {s last : State} {a : Abstract}, (∀ e ∈ es, admissible e) → R s a →
      exec step s es = some last → R last (es.foldl astep a) := by
  intro es
  induction es with
  | nil =>
      intro s last a _ hs hrun
      cases hrun
      exact hs
  | cons e es ih =>
      intro s last a hadm hs hrun
      obtain ⟨next, hstep, hrest⟩ := exec_cons.mp hrun
      exact ih (fun f hf => hadm f (List.mem_cons_of_mem e hf))
        (simulates s a e next (hadm e List.mem_cons_self) hs hstep) hrest

end Runs
