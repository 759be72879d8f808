/-
Module: SysdvrWebos.Proofs.StallTimeout
Layer: Proofs
Purpose: When the SFTR read gives up on a silent peer. The loop's deadline is compared with a record of the
  last progress that is kept beside the loop and knows nothing of the deadline: the two always agree, so a
  stall is reported exactly after three seconds without progress and never in an idle header.
Trusted boundary: none (fully proved)
Main exports: Visit, visits, ReadMove, readTurn_moves, Clocked, readExactLoop_leaves_iff,
  sftr_stall_timeout_is_exact
Open obligations: none
-/
import SysdvrWebos.Core.SftTransport

namespace SysdvrWebos

/-- The longest wait for the socket to become readable, in microseconds. -/
def selectSliceUs : Nat := 200000

/-! ### The record of progress -/

/-- A turn of the read loop: the locals it starts with, the answers it gets, and the time from which the
    peer has been silent, if it runs: that of the last byte, or of the begin of a payload read. -/
structure Visit where
  state : ReadState
  tick : Tick
  silentFrom : Option Nat

/-- The silence a turn starts with. A payload read begins with its first look at the clock; a header read
    in which nothing has arrived is idle, not silent. -/
def silence (idleAllowed : Bool) (tick : Tick) (before : Option Nat) : Option Nat :=
  if before = none ∧ idleAllowed = false then some tick.armClock else before

/-- The turns of the loop, each with the silence before it. A turn that receives bytes ends the silence. -/
def visits (idleAllowed : Bool) (size : Nat) : List Tick → ReadState → Option Nat → List Visit
  | [], _, _ => []
  | tick :: ticks, s, before =>
      if s.done < size then
        ⟨s, tick, silence idleAllowed tick before⟩ ::
          match readTurn idleAllowed size tick s with
          | .again next =>
              visits idleAllowed size ticks next
                (if s.done < next.done then some tick.progressClock
                  else silence idleAllowed tick before)
          | .leave _ _ => []
          | .outOfBounds => []
      else
        []

namespace Visit

/-- The turn ends the loop in the given way. -/
def Leaves (idleAllowed : Bool) (size : Nat) (ending : ReadEnd) (v : Visit) : Prop :=
  ∃ last, readTurn idleAllowed size v.tick v.state = .leave ending last

/-- The turn reports a stall. -/
def Stalls (idleAllowed : Bool) (size : Nat) (v : Visit) : Prop :=
  ∃ last, readTurn idleAllowed size v.tick v.state = .leave .stalled last

/-- The turn gets as far as its `select`. -/
def Selects (idleAllowed : Bool) (size : Nat) (v : Visit) : Prop :=
  v.tick.running = true ∧ ¬ v.Stalls idleAllowed size

end Visit

/-! ### One turn -/

variable {idleAllowed : Bool} {size : Nat} {tick : Tick} {s : ReadState}

/-- What a turn can do, by the point it gets to. -/
inductive ReadMove (idleAllowed : Bool) (tick : Tick) (s : ReadState) : ReadTurn → Prop where
  | stopped (off : tick.running = false) : ReadMove idleAllowed tick s (.leave .stopped s)
  | stalled (on : tick.running = true) (timed : s.timed idleAllowed = true)
      (late : s.armed idleAllowed tick ≤ tick.checkClock) :
      ReadMove idleAllowed tick s (.leave .stalled { s with deadline := s.armed idleAllowed tick })
  | waited (early : s.timed idleAllowed = true → tick.checkClock < s.armed idleAllowed tick) :
      ReadMove idleAllowed tick s (.again { s with deadline := s.armed idleAllowed tick })
  | received (early : s.timed idleAllowed = true → tick.checkClock < s.armed idleAllowed tick)
      (next : ReadState) (more : s.done < next.done)
      (extended : next.deadline = tick.progressClock + stallLimitUs) :
      ReadMove idleAllowed tick s (.again next)
  | ended (early : s.timed idleAllowed = true → tick.checkClock < s.armed idleAllowed tick)
      (ending : ReadEnd) (other : ending ≠ .stalled) (last : ReadState) :
      ReadMove idleAllowed tick s (.leave ending last)
  | outside (early : s.timed idleAllowed = true → tick.checkClock < s.armed idleAllowed tick) :
      ReadMove idleAllowed tick s .outOfBounds

theorem readTurn_moves (idleAllowed : Bool) (size : Nat) (tick : Tick) (s : ReadState) :
    ReadMove idleAllowed tick s (readTurn idleAllowed size tick s) := by
  unfold readTurn
  split
  · next off => exact .stopped (by simpa using off)
  next on =>
  have on : tick.running = true := by simpa using on
  dsimp only
  split
  · next late =>
      simp only [Bool.and_eq_true, decide_eq_true_eq] at late
      exact .stalled on late.1 late.2
  next notLate =>
  have early : s.timed idleAllowed = true → tick.checkClock < s.armed idleAllowed tick := by
    intro timed
    simpa [timed] using notLate
  cases tick.wait with
  | idle => exact .waited early
  | failed => exact .ended early _ (by decide) _
  | ready answer =>
      cases answer with
      | interrupted => exact .waited early
      | wouldBlock => exact .waited early
      | failed => exact .ended early _ (by decide) _
      | bytes more =>
          dsimp only
          split
          · exact .ended early _ (by decide) _
          · next some_ =>
              split
              · exact .outside early
              · refine .received early _ ?_ rfl
                have positive := List.length_pos_of_ne_nil some_
                change s.done < s.done + _
                omega

/-! ### The deadline and the silence -/

/-- The deadline is three seconds after the begin of the silence, and it is not set in an idle header. -/
def Clocked (idleAllowed : Bool) (s : ReadState) : Option Nat → Prop
  | none => s.deadline = 0 ∧ s.timed idleAllowed = false
  | some from_ => s.deadline = from_ + stallLimitUs ∧ s.timed idleAllowed = true

/-- What the loop knows before a turn: the clock of a payload read that has not begun is still unset. -/
def ClockedBefore (idleAllowed : Bool) (s : ReadState) : Option Nat → Prop
  | none => s.deadline = 0 ∧ s.done = 0
  | some from_ => s.deadline = from_ + stallLimitUs ∧ s.timed idleAllowed = true

/-- Arming the deadline turns what is known before a turn into what is known in it. -/
theorem clocked_armed {before : Option Nat} (clocked : ClockedBefore idleAllowed s before) (tick : Tick) :
    Clocked idleAllowed { s with deadline := s.armed idleAllowed tick }
      (silence idleAllowed tick before) := by
  cases before with
  | some from_ =>
      rcases clocked with ⟨deadline, timed⟩
      have set : ¬ (s.timed idleAllowed && s.deadline = 0) = true := by
        rw [deadline]
        simp [stallLimitUs]
      simp only [silence, reduceCtorEq, false_and, if_false, Clocked, ReadState.armed, if_neg set]
      exact ⟨deadline, timed⟩
  | none =>
      rcases clocked with ⟨deadline, nothing⟩
      cases idleAllowed with
      | true =>
          have idle : s.timed true = false := by simp [ReadState.timed, nothing]
          simp only [silence, Bool.true_eq_false, and_false, if_false, Clocked, ReadState.armed, idle,
            Bool.false_and, Bool.false_eq_true]
          exact ⟨deadline, trivial⟩
      | false =>
          have timed : s.timed false = true := rfl
          simp only [silence, and_self, if_true, Clocked, ReadState.armed, timed, deadline, Bool.true_and,
            decide_true]
          exact ⟨trivial, rfl⟩

/-- A clocked turn can be followed by another one. -/
theorem Clocked.before {silent : Option Nat} (clocked : Clocked idleAllowed s silent) :
    ClockedBefore idleAllowed s silent := by
  cases silent with
  | some from_ => exact clocked
  | none =>
      rcases clocked with ⟨deadline, idle⟩
      refine ⟨deadline, ?_⟩
      simp only [ReadState.timed, Bool.or_eq_false_iff, decide_eq_false_iff_not] at idle
      omega

/-- What holds of a turn, by the silence it starts with. -/
structure Timely (idleAllowed : Bool) (size : Nat) (v : Visit) : Prop where
  /-- A running turn reports a stall exactly after three seconds of silence. -/
  stalls_iff : v.Stalls idleAllowed size ↔
    v.tick.running = true ∧ ∃ from_, v.silentFrom = some from_ ∧
      from_ + stallLimitUs ≤ v.tick.checkClock
  /-- Only a header of which nothing has arrived may idle. -/
  idle_iff : v.silentFrom = none ↔ idleAllowed = true ∧ v.state.done = 0
  /-- A `select` starts within three seconds of silence, so it ends within one slice more. -/
  select_early : v.Selects idleAllowed size → ∀ from_, v.silentFrom = some from_ →
    v.tick.checkClock < from_ + stallLimitUs ∧
      ∀ waited ≤ selectSliceUs, v.tick.checkClock + waited < from_ + stallLimitUs + selectSliceUs

/-- A turn that knows its silence compares the clock with its end. -/
theorem stalls_iff_of_clocked {silent : Option Nat} (clocked :
      Clocked idleAllowed { s with deadline := s.armed idleAllowed tick } silent) (size : Nat) :
    (∃ last, readTurn idleAllowed size tick s = .leave .stalled last) ↔
      tick.running = true ∧ ∃ from_, silent = some from_ ∧ from_ + stallLimitUs ≤ tick.checkClock := by
  have moves := readTurn_moves idleAllowed size tick s
  constructor
  · rintro ⟨last, stalls⟩
    rw [stalls] at moves
    cases moves with
    | stalled on timed late =>
        cases silent with
        | none => exact absurd (clocked.2.symm.trans timed) (by decide)
        | some from_ =>
            rw [show s.armed idleAllowed tick = from_ + stallLimitUs from clocked.1] at late
            exact ⟨on, from_, rfl, late⟩
    | ended _ _ other => exact absurd rfl other
  · rintro ⟨on, from_, rfl, late⟩
    rcases clocked with ⟨deadline, timed⟩
    have noWait : ¬ (s.timed idleAllowed = true → tick.checkClock < s.armed idleAllowed tick) := by
      intro early
      have before := early timed
      rw [show s.armed idleAllowed tick = from_ + stallLimitUs from deadline] at before
      omega
    generalize readTurn idleAllowed size tick s = turn at moves ⊢
    cases moves with
    | stopped off => exact absurd (off.symm.trans on) (by decide)
    | stalled => exact ⟨_, rfl⟩
    | waited early => exact absurd early noWait
    | received early => exact absurd early noWait
    | ended early => exact absurd early noWait
    | outside early => exact absurd early noWait

theorem timely_of_clocked {before : Option Nat} (clocked : ClockedBefore idleAllowed s before)
    (size : Nat) (tick : Tick) : Timely idleAllowed size ⟨s, tick, silence idleAllowed tick before⟩ := by
  have armed := clocked_armed clocked tick
  have stalls := stalls_iff_of_clocked armed size
  refine ⟨stalls, ?_, ?_⟩
  · constructor
    · intro idle
      change silence idleAllowed tick before = none at idle
      rw [idle] at armed
      simpa [ReadState.timed] using armed.2
    · rintro ⟨allowed, nothing⟩
      cases silent : silence idleAllowed tick before with
      | none => rfl
      | some from_ =>
          rw [silent] at armed
          have timed := armed.2
          change s.done = 0 at nothing
          simp [ReadState.timed, allowed, nothing] at timed
  · rintro ⟨on, noStall⟩ from_ silent
    have early : tick.checkClock < from_ + stallLimitUs := by
      by_contra late
      exact noStall (stalls.mpr ⟨on, from_, silent, Nat.not_lt.mp late⟩)
    refine ⟨early, fun waited slice => ?_⟩
    change tick.checkClock + waited < _
    omega

/-! ### The loop -/

/-- After a turn that goes on, the loop knows the silence of the next one. -/
theorem clockedBefore_next {before : Option Nat} (clocked : ClockedBefore idleAllowed s before)
    {next : ReadState} (again : readTurn idleAllowed size tick s = .again next) :
    ClockedBefore idleAllowed next
      (if s.done < next.done then some tick.progressClock else silence idleAllowed tick before) := by
  have moves := readTurn_moves idleAllowed size tick s
  rw [again] at moves
  cases moves with
  | waited =>
      rw [if_neg (Nat.lt_irrefl s.done)]
      exact (clocked_armed clocked tick).before
  | received _ _ more extended =>
      rw [if_pos more]
      refine ⟨extended, ?_⟩
      have begun : 0 < next.done := Nat.lt_of_le_of_lt (Nat.zero_le _) more
      simp [ReadState.timed, begun]

theorem visits_timely {ticks : List Tick} {before : Option Nat}
    (clocked : ClockedBefore idleAllowed s before) :
    ∀ v ∈ visits idleAllowed size ticks s before, Timely idleAllowed size v := by
  induction ticks generalizing s before with
  | nil => exact fun v member => absurd member List.not_mem_nil
  | cons tick ticks ih =>
      intro v member
      unfold visits at member
      split at member
      · rcases List.mem_cons.mp member with here | later
        · rw [here]
          exact timely_of_clocked clocked size tick
        · split at later
          · next again => exact ih (clockedBefore_next clocked again) v later
          · exact absurd later List.not_mem_nil
          · exact absurd later List.not_mem_nil
      · exact absurd member List.not_mem_nil

/-- The loop ends unfinished in a given way exactly if one of its turns does. -/
theorem readExactLoop_leaves_iff {ending : ReadEnd} (unfinished : ending ≠ .complete)
    {ticks : List Tick} (before : Option Nat) {r : ReadExact}
    (read : readExactLoop idleAllowed size ticks s = .ok r) :
    r.ending = ending ↔
      ∃ v ∈ visits idleAllowed size ticks s before, v.Leaves idleAllowed size ending := by
  induction ticks generalizing s before with
  | nil =>
      unfold readExactLoop at read
      split at read
      · cases read
      · cases read
        simp [visits, unfinished.symm]
  | cons tick ticks ih =>
      unfold readExactLoop at read
      unfold visits
      split at read
      · next more =>
          rw [if_pos more]
          simp only [List.mem_cons, exists_eq_or_imp]
          unfold Visit.Leaves at ih ⊢
          cases turn : readTurn idleAllowed size tick s with
          | again next =>
              rw [turn] at read
              rw [ih (if s.done < next.done then some tick.progressClock
                else silence idleAllowed tick before) read]
              simp
          | leave how last =>
              rw [turn] at read
              cases read
              simp
          | outOfBounds =>
              rw [turn] at read
              cases read
      · next finished =>
          cases read
          rw [if_neg finished]
          simp [unfinished.symm]

/-- The loop reports a stall exactly if one of its turns does. -/
theorem readExactLoop_stalled_iff {ticks : List Tick} (before : Option Nat) {r : ReadExact}
    (read : readExactLoop idleAllowed size ticks s = .ok r) :
    r.ending = .stalled ↔
      ∃ v ∈ visits idleAllowed size ticks s before, v.Stalls idleAllowed size :=
  readExactLoop_leaves_iff (by decide) before read

/-- The stall timeout of `read_exact_interruptible` is exact, whatever `select`, `recv` and the clock answer:
    the read reports a stall exactly if a turn does, a turn does exactly after three seconds without a byte
    (or since the begin of a payload read), a header of which nothing has arrived never stalls, and no
    `select` starts later than that. A read whose silences all end sooner is never given up on, however long
    it takes. -/
theorem sftr_stall_timeout_is_exact (idleAllowed : Bool) (size : Nat) (buffer stream : List UInt8)
    (ticks : List Tick) :
    let turns := visits idleAllowed size ticks ⟨stream, buffer, 0, 0⟩ none
    (∀ v ∈ turns, Timely idleAllowed size v) ∧
      ∀ r, readExactInterruptible idleAllowed size buffer ticks stream = .ok r →
        (r.ending = .stalled ↔ ∃ v ∈ turns, v.Stalls idleAllowed size) ∧
          ((∀ v ∈ turns, ∀ from_, v.silentFrom = some from_ →
            v.tick.checkClock < from_ + stallLimitUs) → r.ending ≠ .stalled) := by
  intro turns
  have timely : ∀ v ∈ turns, Timely idleAllowed size v := visits_timely ⟨rfl, rfl⟩
  refine ⟨timely, fun r read => ?_⟩
  have stalled := readExactLoop_stalled_iff none read
  refine ⟨stalled, fun soon gaveUp => ?_⟩
  rcases stalled.mp gaveUp with ⟨v, member, stalls⟩
  rcases (timely v member).stalls_iff.mp stalls with ⟨_, from_, silent, late⟩
  exact absurd (soon v member from_ silent) (Nat.not_lt.mpr late)

end SysdvrWebos
