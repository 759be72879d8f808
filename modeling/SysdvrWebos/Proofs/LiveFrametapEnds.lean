/-
Module: SysdvrWebos.Proofs.LiveFrametapEnds
Layer: Proofs
Purpose: A live Frame Tap session comes to its end, and its waiting screen gives way to the video. Until the
  main thread has returned one of the two threads is enabled; no answer of the socket takes a read out of
  its buffer; once `running` is cleared only a few steps are left. The waiting screen is drawn before the
  page over the video only, and at most once more when a frame has been submitted.
Trusted boundary: none (fully proved)
Main exports: LiveThreadPc.Roomy, live_frametap_ends, waiting_screen_gives_way
Open obligations: none
-/
import SysdvrWebos.Lib.Ranking
import SysdvrWebos.Proofs.LiveFrametapRefinement
import SysdvrWebos.Proofs.PlayerLifecycle

namespace SysdvrWebos

/-! ### Reads stay inside their buffers -/

/-- The buffer of the thread has room for whatever a header may announce. -/
def LiveThreadPc.Roomy : LiveThreadPc → Prop
  | .test _ read | .handling _ read => sftMaxPayload ≤ read.payload.length
  | .header _ read s => sftMaxPayload ≤ read.payload.length ∧ sftHeaderSize ≤ s.buffer.length
  | .payload _ _ h s => h.length.toNat ≤ sftMaxPayload ∧ sftMaxPayload ≤ s.buffer.length
  | _ => True

/-- A turn of a read that fits its buffer stays inside it. -/
theorem readTurn_inBounds {idleAllowed : Bool} {size : Nat} {tick : Tick} {s : ReadState}
    (unfinished : s.done < size) (fits : size ≤ s.buffer.length) :
    readTurn idleAllowed size tick s ≠ .outOfBounds := by
  intro turn
  unfold readTurn at turn
  dsimp only at turn
  split at turn
  · cases turn
  split at turn
  · cases turn
  cases wait : tick.wait with
  | idle =>
      rw [wait] at turn
      cases turn
  | failed =>
      rw [wait] at turn
      cases turn
  | ready answer =>
      rw [wait] at turn
      cases answer with
      | bytes more =>
          have short : s.done + (receive s.stream more (size - s.done)).length ≤ s.buffer.length := by
            rw [length_receive]
            omega
          dsimp only at turn
          split at turn
          · cases turn
          · rw [Buffer.store_of_fits short] at turn
            cases turn
      | interrupted => cases turn
      | wouldBlock => cases turn
      | failed => cases turn

theorem roomy_headerRead {v : SftThread} {read : SftRead} (raw : List UInt8)
    (room : sftMaxPayload ≤ read.payload.length) : (headerRead v read raw).Roomy := by
  unfold headerRead
  dsimp only
  split
  · exact trivial
  split
  · exact trivial
  · next fits =>
      unfold beginPayload
      split
      · exact ⟨Nat.not_lt.mp fits, room⟩
      · exact room

/-- A step of the thread keeps the room. -/
theorem roomy_liveThreadStep {running : Bool} {socket after : LiveSocket} {t next : LiveThreadPc}
    {event : LiveThreadEvent} (placed : t.Placed) (roomy : t.Roomy)
    (step : liveThreadStep running socket t event = some (next, after)) : next.Roomy := by
  cases t <;> cases event <;> simp only [liveThreadStep, reduceCtorEq] at step
  case entry.enter allocated now garbage =>
      cases step
      cases allocated with
      | true =>
          simp only [if_true, LiveThreadPc.Roomy]
          exact (length_allocated garbage).ge
      | false => exact trivial
  case test.test v read =>
      cases step
      cases running with
      | true => exact ⟨roomy, List.length_replicate.ge⟩
      | false => exact trivial
  case header.turn v read s tick =>
      split at step
      · rcases Option.map_eq_some_iff.mp step with ⟨⟨t, incoming⟩, turned, same⟩
        cases same
        unfold headerTurn at turned
        cases turn : readTurn true sftHeaderSize { tick with running := running }
            { s with stream := socket.incoming } with
        | again next =>
            rcases readTurn_transfers (s := { s with stream := socket.incoming }) placed turn with ⟨_, moved⟩
            rw [turn] at turned
            cases turned
            split
            · exact ⟨roomy.1, roomy.2.trans_eq moved.capacity.symm⟩
            · exact roomy_headerRead _ roomy.1
        | leave ending last =>
            rw [turn] at turned
            cases turned
            exact trivial
        | outOfBounds =>
            rw [turn] at turned
            cases turned
      · cases step
  case payload.turn v read h s tick =>
      split at step
      · rcases Option.map_eq_some_iff.mp step with ⟨⟨t, incoming⟩, turned, same⟩
        cases same
        unfold payloadTurn at turned
        cases turn : readTurn false h.length.toNat { tick with running := running }
            { s with stream := socket.incoming } with
        | again next =>
            rcases readTurn_transfers (s := { s with stream := socket.incoming }) placed turn with ⟨_, moved⟩
            rw [turn] at turned
            cases turned
            split
            · exact ⟨roomy.1, roomy.2.trans_eq moved.capacity.symm⟩
            · exact roomy.2.trans_eq moved.capacity.symm
        | leave ending last =>
            rw [turn] at turned
            cases turned
            exact trivial
        | outOfBounds =>
            rw [turn] at turned
            cases turned
      · cases step
  case handling.handle v read given =>
      cases step
      split
      · exact trivial
      · exact roomy
  case unread.unread v read rc =>
      cases step
      exact trivial
  case exiting.exit v =>
      cases step
      exact trivial

/-- The thread is in a read. -/
def LiveThreadPc.isReading : LiveThreadPc → Bool
  | .header _ _ _ | .payload _ _ _ _ => true
  | _ => false

/-- The thread can take every answer that its socket can give. -/
theorem turn_enabled (running : Bool) (socket : LiveSocket) {t : LiveThreadPc} (placed : t.Placed)
    (roomy : t.Roomy) (reading : t.isReading = true) {tick : Tick}
    (admitted : socket.admits tick.wait = true) :
    (liveThreadStep running socket t (.turn tick)).isSome = true := by
  cases t <;> try cases reading
  case header v read s =>
    simp only [liveThreadStep, admitted, if_true, Option.isSome_map, headerTurn]
    cases turn : readTurn true sftHeaderSize { tick with running := running }
        { s with stream := socket.incoming } with
    | again next => rfl
    | leave ending last => rfl
    | outOfBounds => exact absurd turn (readTurn_inBounds placed roomy.2)
  case payload v read h s =>
    simp only [liveThreadStep, admitted, if_true, Option.isSome_map, payloadTurn]
    cases turn : readTurn false h.length.toNat { tick with running := running }
        { s with stream := socket.incoming } with
    | again next => rfl
    | leave ending last => rfl
    | outOfBounds => exact absurd turn (readTurn_inBounds placed (roomy.1.trans roomy.2))

/-! ### The invariant -/

/-- The main thread has stored to `running` for the last time and gone on. -/
def LiveFrametapPc.stopped : LiveFrametapPc → Bool
  | .shutdown | .join => true
  | _ => false

/-- The main thread is in its UI loop or joins the thread it has created. -/
def LiveFrametapPc.underWay : LiveFrametapPc → Bool
  | .connect | .initLock | .createThread | .returned _ => false
  | _ => true

/-- The main thread has returned. -/
def LiveFrametapPc.isReturned : LiveFrametapPc → Bool
  | .returned _ => true
  | _ => false

/-- Where the main thread can stand once `running` is cleared. -/
def LiveFrametapPc.ending : LiveFrametapPc → Bool
  | .stop | .shutdown | .join | .returned _ => true
  | _ => false

/-- A thread was created and entered. -/
def LiveThreadPc.isStarted : LiveThreadPc → Bool
  | .unstarted => false
  | _ => true

/-- What every state of a live session satisfies. -/
structure LiveFrametap.Sound (s : LiveFrametap) : Prop where
  placed : s.Placed
  roomy : s.thread.Roomy
  created : s.main.underWay = true → s.thread.isStarted = true
  cleared : s.main.stopped = true → s.running = false
  ending : s.running = false → s.main.ending = true

theorem isStarted_liveThreadStep {running : Bool} {socket after : LiveSocket} {t next : LiveThreadPc}
    {event : LiveThreadEvent} (step : liveThreadStep running socket t event = some (next, after)) :
    next.isStarted = true := by
  have beginning : ∀ v read h, (beginPayload v read h).isStarted = true := by
    intro v read h
    unfold beginPayload
    split <;> rfl
  have header : ∀ v read raw, (headerRead v read raw).isStarted = true := by
    intro v read raw
    unfold headerRead
    dsimp only
    split
    · rfl
    split
    · rfl
    · exact beginning _ _ _
  cases t <;> cases event <;> simp only [liveThreadStep, reduceCtorEq] at step
  case header.turn v read s tick =>
      split at step
      · rcases Option.map_eq_some_iff.mp step with ⟨⟨t, incoming⟩, turned, same⟩
        cases same
        unfold headerTurn at turned
        split at turned <;> cases turned
        · split
          · rfl
          · exact header _ _ _
        · rfl
      · cases step
  case payload.turn v read h s tick =>
      split at step
      · rcases Option.map_eq_some_iff.mp step with ⟨⟨t, incoming⟩, turned, same⟩
        cases same
        unfold payloadTurn at turned
        split at turned <;> cases turned
        · split <;> rfl
        · rfl
      · cases step
  all_goals
    cases step
    first | rfl | (split <;> rfl)

/-- What a step of the main thread does to the places the invariant speaks of. -/
theorem liveFrametapMain_moves {s next : LiveFrametap} {succeeds : Bool} {action : ShellAction}
    {now : UInt32} (step : liveFrametapMain s succeeds action now = some next) :
    (next.main.underWay = true →
      (s.main.underWay = true ∧ next.thread = s.thread) ∨ next.thread = .entry) ∧
    (next.main.stopped = true → next.running = false ∨ s.main.stopped = true) ∧
    (next.running = false → next.main.ending = true ∨ (s.running = false ∧ s.main.ending = false)) := by
  unfold liveFrametapMain at step
  cases main : s.main <;> simp only [main] at step
  case connect => cases succeeds <;> cases step <;> exact ⟨nofun, nofun, fun off => Or.inr ⟨off, rfl⟩⟩
  case initLock => cases succeeds <;> cases step <;> exact ⟨nofun, nofun, fun off => Or.inr ⟨off, rfl⟩⟩
  case createThread =>
    cases succeeds with
    | true =>
        cases step
        exact ⟨fun _ => Or.inr rfl, nofun, fun off => Or.inr ⟨off, rfl⟩⟩
    | false =>
        cases step
        exact ⟨nofun, nofun, fun off => Or.inr ⟨off, rfl⟩⟩
  case uiTest =>
    cases step
    refine ⟨fun _ => Or.inl ⟨rfl, rfl⟩, fun stopped => ?_, fun off => Or.inr ⟨off, rfl⟩⟩
    dsimp only at stopped
    split at stopped <;> cases stopped
  case uiPoll =>
    cases action with
    | none =>
        cases step
        refine ⟨fun _ => Or.inl ⟨rfl, rfl⟩, fun stopped => ?_, fun off => Or.inr ⟨off, rfl⟩⟩
        dsimp only at stopped
        split at stopped <;> cases stopped
    | back =>
        cases step
        exact ⟨fun _ => Or.inl ⟨rfl, rfl⟩, nofun, fun _ => Or.inl rfl⟩
    | quit =>
        cases step
        exact ⟨fun _ => Or.inl ⟨rfl, rfl⟩, nofun, fun _ => Or.inl rfl⟩
  case videoTest =>
    split at step <;> cases step <;>
      exact ⟨fun _ => Or.inl ⟨rfl, rfl⟩, nofun, fun off => Or.inr ⟨off, rfl⟩⟩
  case connectedTest =>
    cases step
    refine ⟨fun _ => Or.inl ⟨rfl, rfl⟩, fun stopped => ?_, fun off => Or.inr ⟨off, rfl⟩⟩
    dsimp only at stopped
    split at stopped <;> cases stopped
  case drawStatus asked =>
    cases step
    exact ⟨fun _ => Or.inl ⟨rfl, rfl⟩, nofun, fun off => Or.inr ⟨off, rfl⟩⟩
  case stop =>
    cases step
    exact ⟨fun _ => Or.inl ⟨rfl, rfl⟩, fun _ => Or.inl rfl, fun _ => Or.inl rfl⟩
  case shutdown =>
    cases step
    exact ⟨fun _ => Or.inl ⟨rfl, rfl⟩, fun _ => Or.inr rfl, fun _ => Or.inl rfl⟩
  case join =>
    split at step
    · cases step
      exact ⟨nofun, nofun, fun _ => Or.inl rfl⟩
    · cases step
  case returned result => cases step

theorem LiveFrametap.Sound.step {s next : LiveFrametap} {e : LiveFrametapEvent} (sound : s.Sound)
    (step : liveFrametapStep s e = some next) : next.Sound := by
  have placed := sound.placed.step step
  cases e with
  | main succeeds action now =>
      rcases liveFrametapMain_keeps step with ⟨_, thread, running, _⟩
      rcases liveFrametapMain_moves step with ⟨underWay, stops, ends⟩
      refine ⟨placed, ?_, fun under => ?_, fun stopped => ?_, fun off => ?_⟩
      · rcases thread with same | ⟨_, entered⟩
        · exact same ▸ sound.roomy
        · exact entered ▸ trivial
      · rcases underWay under with ⟨before, same⟩ | entered
        · exact same ▸ sound.created before
        · rw [entered]
          rfl
      · rcases stops stopped with cleared | before
        · exact cleared
        · rcases running with same | cleared
          · exact same.trans (sound.cleared before)
          · exact cleared
      · rcases ends off with there | ⟨before, short⟩
        · exact there
        · rw [sound.ending before] at short
          cases short
  | thread event =>
      rcases Option.map_eq_some_iff.mp step with ⟨⟨t, socket⟩, taken, rfl⟩
      exact ⟨placed, roomy_liveThreadStep sound.placed.thread sound.roomy taken,
        fun _ => isStarted_liveThreadStep taken, sound.cleared, sound.ending⟩
  | signal =>
      cases step
      exact ⟨placed, sound.roomy, sound.created, sound.cleared, sound.ending⟩
  | arrives bytes =>
      simp only [liveFrametapStep] at step
      split at step
      · cases step
      · cases step
        exact ⟨placed, sound.roomy, sound.created, sound.cleared, sound.ending⟩
  | closes =>
      cases step
      exact ⟨placed, sound.roomy, sound.created, sound.cleared, sound.ending⟩

theorem liveFrametapStart_sound : liveFrametapStart.Sound :=
  ⟨placed_liveFrametapStart, trivial, nofun, nofun, nofun⟩

/-! ### Steps that are left -/

/-- The event is a step of the main thread. -/
def LiveFrametapEvent.isMain : LiveFrametapEvent → Bool
  | .main _ _ _ => true
  | _ => false

/-- The event is a step of one of the two threads. -/
def LiveFrametapEvent.isOwn : LiveFrametapEvent → Bool
  | .main _ _ _ | .thread _ => true
  | _ => false

/-- The steps the stream thread has left once `running` is cleared. -/
def LiveThreadPc.stepsLeft : LiveThreadPc → Nat
  | .unstarted | .finished _ => 0
  | .exiting _ => 1
  | .test _ _ | .unread _ _ _ => 2
  | .entry | .header _ _ _ | .payload _ _ _ _ | .handling _ _ => 3

/-- The steps the main thread has left once it goes to its end. -/
def LiveFrametapPc.stepsLeft : LiveFrametapPc → Nat
  | .stop => 3
  | .shutdown => 2
  | .join => 1
  | _ => 0

/-- The steps the main thread has left once the stop signal has come. -/
def LiveFrametapPc.stepsToReturn : LiveFrametapPc → Nat
  | .uiPoll => 8
  | .connect | .videoTest => 7
  | .initLock | .connectedTest => 6
  | .createThread | .drawStatus _ => 5
  | .uiTest => 4
  | .stop => 3
  | .shutdown => 2
  | .join => 1
  | .returned _ => 0

/-- A step of the stream thread once `running` is cleared. -/
theorem liveThreadStep_lowers {socket after : LiveSocket} {t next : LiveThreadPc}
    {event : LiveThreadEvent} (step : liveThreadStep false socket t event = some (next, after)) :
    next.stepsLeft < t.stepsLeft := by
  cases t <;> cases event <;> simp only [liveThreadStep, reduceCtorEq] at step
  case entry.enter allocated now garbage =>
      cases step
      cases allocated with
      | true => exact Nat.lt_succ_self 2
      | false => exact Nat.succ_pos 2
  case test.test v read =>
      cases step
      exact Nat.one_lt_two
  case header.turn v read s tick =>
      split at step
      · rcases Option.map_eq_some_iff.mp step with ⟨_, turned, same⟩
        cases turned
        cases same
        exact Nat.lt_succ_self 2
      · cases step
  case payload.turn v read h s tick =>
      split at step
      · rcases Option.map_eq_some_iff.mp step with ⟨_, turned, same⟩
        cases turned
        cases same
        exact Nat.lt_succ_self 2
      · cases step
  case handling.handle v read given =>
      cases step
      split
      · exact Nat.lt_of_sub_eq_succ rfl
      · exact Nat.lt_succ_self 2
  case unread.unread v read rc =>
      cases step
      exact Nat.one_lt_two
  case exiting.exit v =>
      cases step
      exact Nat.one_pos

/-- A step of the main thread once it goes to its end. -/
theorem liveFrametapMain_lowers {s next : LiveFrametap} {succeeds : Bool} {action : ShellAction}
    {now : UInt32} (ending : s.main.ending = true)
    (step : liveFrametapMain s succeeds action now = some next) :
    next.main.stepsLeft < s.main.stepsLeft ∧ next.thread = s.thread ∧ next.main.ending = true := by
  unfold liveFrametapMain at step
  cases main : s.main <;> simp only [main] at step ending <;> try cases ending
  case stop =>
    cases step
    exact ⟨Nat.lt_succ_self 2, rfl, rfl⟩
  case shutdown =>
    cases step
    exact ⟨Nat.one_lt_two, rfl, rfl⟩
  case join =>
    split at step
    · cases step
      exact ⟨Nat.one_pos, rfl, rfl⟩
    · cases step
  case returned result => cases step

/-- A step of the main thread once the stop signal has come. -/
theorem liveFrametapMain_returns {s next : LiveFrametap} {succeeds : Bool} {action : ShellAction}
    {now : UInt32} (signalled : s.signalStop = true)
    (step : liveFrametapMain s succeeds action now = some next) :
    next.main.stepsToReturn < s.main.stepsToReturn ∧ next.signalStop = true := by
  unfold liveFrametapMain at step
  cases main : s.main <;> simp only [main, signalled] at step
  case connect => cases succeeds <;> cases step <;> simp [LiveFrametapPc.stepsToReturn]
  case initLock => cases succeeds <;> cases step <;> simp [LiveFrametapPc.stepsToReturn]
  case createThread => cases succeeds <;> cases step <;> simp [LiveFrametapPc.stepsToReturn]
  case uiPoll =>
    cases action with
    | none =>
        cases step
        refine ⟨?_, rfl⟩
        dsimp only
        split <;> simp [LiveFrametapPc.stepsToReturn]
    | back =>
        cases step
        simp [LiveFrametapPc.stepsToReturn]
    | quit =>
        cases step
        simp [LiveFrametapPc.stepsToReturn]
  case videoTest => split at step <;> cases step <;> simp [LiveFrametapPc.stepsToReturn]
  case connectedTest =>
    cases step
    refine ⟨?_, rfl⟩
    dsimp only
    split <;> simp [LiveFrametapPc.stepsToReturn]
  case join => split at step <;> cases step; simp [LiveFrametapPc.stepsToReturn]
  case returned result => cases step
  all_goals
    cases step
    simp [LiveFrametapPc.stepsToReturn]

/-- The steps both threads have left once `running` is cleared. -/
def LiveFrametap.stepsLeft (s : LiveFrametap) : Nat := s.main.stepsLeft + s.thread.stepsLeft

/-- Once `running` is cleared, every step of a thread brings the end nearer. -/
theorem ranked_frametapStepsLeft : Runs.Ranked liveFrametapStep
    (fun s => s.Sound ∧ s.running = false) LiveFrametapEvent.isOwn LiveFrametap.stepsLeft := by
  have outcome : ∀ s e next, s.Sound → s.running = false → liveFrametapStep s e = some next →
      next.running = false ∧ (e.isOwn = true → next.stepsLeft < s.stepsLeft) ∧
        (e.isOwn = false → next.stepsLeft ≤ s.stepsLeft) := by
    intro s e next sound off step
    cases e with
    | main succeeds action now =>
        rcases liveFrametapMain_lowers (sound.ending off) step with ⟨lower, thread, _⟩
        refine ⟨?_, fun _ => ?_, fun other => by cases other⟩
        · rcases (liveFrametapMain_keeps step).2.2.1 with same | cleared
          · exact same.trans off
          · exact cleared
        · simp only [LiveFrametap.stepsLeft, thread]
          omega
    | thread event =>
        rcases Option.map_eq_some_iff.mp step with ⟨⟨t, socket⟩, taken, rfl⟩
        rw [off] at taken
        have lower := liveThreadStep_lowers taken
        refine ⟨off, fun _ => ?_, fun other => by cases other⟩
        simp only [LiveFrametap.stepsLeft]
        omega
    | signal =>
        cases step
        exact ⟨off, (fun other => by cases other), fun _ => Nat.le_refl _⟩
    | arrives bytes =>
        simp only [liveFrametapStep] at step
        split at step
        · cases step
        · cases step
          exact ⟨off, (fun other => by cases other), fun _ => Nat.le_refl _⟩
    | closes =>
        cases step
        exact ⟨off, (fun other => by cases other), fun _ => Nat.le_refl _⟩
  exact {
    preserves := fun s e next holds step => ⟨holds.1.step step, (outcome s e next holds.1 holds.2 step).1⟩
    lowers := fun s e next holds own step => (outcome s e next holds.1 holds.2 step).2.1 own
    keeps := fun s e next holds other step => (outcome s e next holds.1 holds.2 step).2.2 other }

/-- Once the stop signal has come, every step of the main thread brings its return nearer. -/
theorem ranked_frametapStepsToReturn : Runs.Ranked liveFrametapStep (fun s => s.signalStop = true)
    LiveFrametapEvent.isMain (fun s => s.main.stepsToReturn) := by
  have outcome : ∀ s e next, s.signalStop = true → liveFrametapStep s e = some next →
      next.signalStop = true ∧ (e.isMain = true → next.main.stepsToReturn < s.main.stepsToReturn) ∧
        (e.isMain = false → next.main.stepsToReturn ≤ s.main.stepsToReturn) := by
    intro s e next signalled step
    cases e with
    | main succeeds action now =>
        rcases liveFrametapMain_returns signalled step with ⟨lower, still⟩
        exact ⟨still, fun _ => lower, fun other => by cases other⟩
    | thread event =>
        rcases Option.map_eq_some_iff.mp step with ⟨⟨t, socket⟩, _, rfl⟩
        exact ⟨signalled, (fun other => by cases other), fun _ => Nat.le_refl _⟩
    | signal =>
        cases step
        exact ⟨rfl, (fun other => by cases other), fun _ => Nat.le_refl _⟩
    | arrives bytes =>
        simp only [liveFrametapStep] at step
        split at step
        · cases step
        · cases step
          exact ⟨signalled, (fun other => by cases other), fun _ => Nat.le_refl _⟩
    | closes =>
        cases step
        exact ⟨signalled, (fun other => by cases other), fun _ => Nat.le_refl _⟩
  exact {
    preserves := fun s e next holds step => (outcome s e next holds step).1
    lowers := fun s e next holds own step => (outcome s e next holds step).2.1 own
    keeps := fun s e next holds other step => (outcome s e next holds step).2.2 other }

/-- A thread that was created and has not come back can go on. -/
theorem thread_enabled (running : Bool) (socket : LiveSocket) {t : LiveThreadPc} (placed : t.Placed)
    (roomy : t.Roomy) (started : t.isStarted = true) (busy : t.isFinished = false) :
    ∃ event, (liveThreadStep running socket t event).isSome = true := by
  cases t with
  | unstarted => cases started
  | entry => exact ⟨.enter true 0 fun _ => 0, rfl⟩
  | test v read => exact ⟨.test, rfl⟩
  | header v read s => exact ⟨.turn ⟨true, 0, 0, .idle, 0⟩, turn_enabled _ _ placed roomy rfl rfl⟩
  | payload v read h s => exact ⟨.turn ⟨true, 0, 0, .idle, 0⟩, turn_enabled _ _ placed roomy rfl rfl⟩
  | handling v read =>
      exact ⟨.handle ⟨0, true, true, true, [], true, 0, true, ⟨0, 0, 0, 0⟩, true⟩, rfl⟩
  | unread v read rc => exact ⟨.unread, rfl⟩
  | exiting v => exact ⟨.exit, rfl⟩
  | finished v => cases busy

/-- Until the main thread has returned a thread can go on: the main thread itself, or behind the stop the
    thread it waits for. -/
theorem LiveFrametap.Sound.enabled {s : LiveFrametap} (sound : s.Sound)
    (short : s.main.isReturned = false) :
    ∃ e, e.isOwn = true ∧ (e.isMain = true ∨ s.running = false) ∧ (liveFrametapStep s e).isSome = true := by
  by_cases joins : s.main = .join
  · cases busy : s.thread.isFinished with
    | true => exact ⟨.main true .none 0, rfl, Or.inl rfl, by simp [liveFrametapStep, liveFrametapMain, joins, busy]⟩
    | false =>
        rcases thread_enabled s.running s.socket sound.placed.thread sound.roomy
          (sound.created (by rw [joins]; rfl)) busy with ⟨event, enabled⟩
        refine ⟨.thread event, rfl, Or.inr (sound.cleared (by rw [joins]; rfl)), ?_⟩
        simpa only [liveFrametapStep, Option.isSome_map] using enabled
  · refine ⟨.main true .none 0, rfl, Or.inl rfl, ?_⟩
    simp only [liveFrametapStep, liveFrametapMain]
    cases main : s.main <;> simp only [main] at short joins ⊢
    case videoTest => split <;> rfl
    case join => exact absurd trivial joins
    case returned result => cases short
    all_goals rfl

theorem LiveFrametap.stepsLeft_le (s : LiveFrametap) : s.stepsLeft ≤ 6 := by
  have main : s.main.stepsLeft ≤ 3 := by
    cases s.main <;> simp [LiveFrametapPc.stepsLeft]
  have thread : s.thread.stepsLeft ≤ 3 := by
    cases s.thread <;> simp [LiveThreadPc.stepsLeft]
  unfold LiveFrametap.stepsLeft
  omega

theorem LiveFrametapPc.stepsToReturn_le (pc : LiveFrametapPc) : pc.stepsToReturn ≤ 8 := by
  cases pc <;> simp [LiveFrametapPc.stepsToReturn]

/-- In every state of a live session short of its return a thread can go on, the main thread itself unless
    `running` is cleared; and the stream thread can take every answer that its socket can give, without
    leaving its buffers. Once the stop signal has come, the main thread takes at most eight steps more; once
    `running` is cleared, both threads together take at most six, and these alone lead to the return,
    whatever the console sends or does not send. -/
theorem live_frametap_ends {before : List LiveFrametapEvent} {s : LiveFrametap}
    (reached : Runs.exec liveFrametapStep liveFrametapStart before = some s) :
    (s.main.isReturned = false →
      ∃ e, e.isOwn = true ∧ (e.isMain = true ∨ s.running = false) ∧
        (liveFrametapStep s e).isSome = true) ∧
    (s.thread.isReading = true → ∀ tick, s.socket.admits tick.wait = true →
      (liveFrametapStep s (.thread (.turn tick))).isSome = true) ∧
    (s.signalStop = true → ∀ events last, Runs.exec liveFrametapStep s events = some last →
      events.countP LiveFrametapEvent.isMain ≤ 8) ∧
    (s.running = false →
      (∀ events last, Runs.exec liveFrametapStep s events = some last →
        events.countP LiveFrametapEvent.isOwn ≤ 6) ∧
      ∃ events last, (∀ e ∈ events, e.isOwn = true) ∧
        Runs.exec liveFrametapStep s events = some last ∧ last.main.isReturned = true) := by
  have sound : s.Sound :=
    Runs.exec_invariant (fun _ _ _ holds step => holds.step step) liveFrametapStart_sound reached
  refine ⟨sound.enabled, fun reading tick admitted => ?_, fun signalled events last run => ?_,
    fun cleared => ⟨fun events last run => ?_, ?_⟩⟩
  · have enabled := turn_enabled s.running s.socket sound.placed.thread sound.roomy reading admitted
    simpa only [liveFrametapStep, Option.isSome_map] using enabled
  · have bound := ranked_frametapStepsToReturn.bounds signalled run
    have most := s.main.stepsToReturn_le
    omega
  · have bound := ranked_frametapStepsLeft.bounds ⟨sound, cleared⟩ run
    have most := s.stepsLeft_le
    omega
  · rcases ranked_frametapStepsLeft.reaches (fun s => s.main.isReturned = true)
      (fun s holds short => by
        rcases holds.1.enabled (Bool.eq_false_iff.mpr short) with ⟨e, own, _, enabled⟩
        exact ⟨e, own, enabled⟩) s ⟨sound, cleared⟩ with ⟨events, last, own, _, run, returned⟩
    exact ⟨events, last, own, run, returned⟩

/-- LEFT is pressed while the thread waits for the first byte of a header. -/
def leftWhileWaiting : List LiveFrametapEvent :=
  [.main true .none 0, .main true .none 0, .main true .none 0, .thread (.enter true 3 fun _ => 0),
    .thread .test, .main true .none 0, .main true .back 0]

/-- From there the session returns within six steps. -/
theorem left_while_waiting_returns :
    ∃ s, Runs.exec liveFrametapStep liveFrametapStart leftWhileWaiting = some s ∧
      s.running = false ∧ s.thread.isReading = true ∧
      ∃ events last, (∀ e ∈ events, e.isOwn = true) ∧
        Runs.exec liveFrametapStep s events = some last ∧ last.main.isReturned = true :=
  ⟨_, rfl, rfl, rfl, ((@live_frametap_ends leftWhileWaiting _ rfl).2.2.2 rfl).2⟩

/-! ### The page over the video -/

/-- The player has accepted a frame. -/
def PlayedVideo (calls : List NdlCall) : Prop := ∃ data ptsUs, NdlCall.play false data ptsUs true ∈ calls

theorem PlayedVideo.grows {calls more : List NdlCall} (played : PlayedVideo calls)
    (grows : calls <+: more) : PlayedVideo more := by
  rcases played with ⟨data, ptsUs, member⟩
  exact ⟨data, ptsUs, grows.subset member⟩

/-- `video_started` is set exactly with a frame that the player accepts, and it is not taken back. -/
structure Starts (w next : SftThread) : Prop where
  stays : w.videoStarted = true → next.videoStarted = true
  cause : next.videoStarted = true → w.videoStarted = true ∨ PlayedVideo next.calls
  effect : PlayedVideo next.calls → PlayedVideo w.calls ∨ next.videoStarted = true

theorem Starts.of_same {w next : SftThread} (same : next.videoStarted = w.videoStarted)
    (played : PlayedVideo next.calls → PlayedVideo w.calls) : Starts w next :=
  ⟨fun set => same.trans set, fun set => Or.inl (same.symm.trans set), fun accepted => Or.inl (played accepted)⟩

theorem Starts.trans {w middle next : SftThread} (first : Starts w middle) (second : Starts middle next)
    (grows : middle.calls <+: next.calls) : Starts w next where
  stays := fun set => second.stays (first.stays set)
  cause := by
    intro set
    rcases second.cause set with before | played
    · exact (first.cause before).imp_right fun played => played.grows grows
    · exact Or.inr played
  effect := by
    intro played
    rcases second.effect played with before | set
    · exact (first.effect before).imp_right second.stays
    · exact Or.inr set

/-- Calls that are no plays show no frame. -/
theorem playedVideo_append_silent {calls more : List NdlCall} (silent : ∀ call ∈ more, call.isPlay = false) :
    PlayedVideo (calls ++ more) → PlayedVideo calls := by
  rintro ⟨data, ptsUs, member⟩
  rcases List.mem_append.mp member with before | new
  · exact ⟨data, ptsUs, before⟩
  · cases silent _ new

theorem checks_videoStarted (w : SftThread) (h : SftPacketHeader) (key : Bool) (now : UInt64) :
    (noteResolution (noteSequence w h key now) h key now).videoStarted = w.videoStarted := by
  have sequence : (noteSequence w h key now).videoStarted = w.videoStarted := by
    unfold noteSequence
    dsimp only
    split
    · split <;> rfl
    · rfl
  have resolution : ∀ v, (noteResolution v h key now).videoStarted = v.videoStarted := by
    intro v
    unfold noteResolution
    split
    · dsimp only
      split <;> rfl
    · rfl
  rw [resolution, sequence]

theorem prepareDecoder_videoStarted (w : SftThread) (h : SftPacketHeader) (answers : SftAnswers) :
    (prepareDecoder w h answers).videoStarted = w.videoStarted := by
  unfold prepareDecoder
  dsimp only
  split
  · rfl
  · split
    · rfl
    · split
      · rfl
      · unfold openAudioOnce
        split <;> rfl

theorem closingCalls_silent (player : Option NdlMedia) : ∀ call ∈ closingCalls player, call.isPlay = false := by
  cases player with
  | none => nofun
  | some p =>
      rcases p with ⟨initialized, loaded⟩
      cases initialized <;> cases loaded <;> decide

/-- Preparing the decoder plays nothing. -/
theorem prepareDecoder_starts (w : SftThread) (h : SftPacketHeader) (answers : SftAnswers) :
    Starts w (prepareDecoder w h answers) := by
  apply Starts.of_same (prepareDecoder_videoStarted w h answers)
  have spec := (prepareDecoder_spec w h answers).1
  generalize prepareDecoder w h answers = next at spec ⊢
  have silent : ∀ more, (∀ call ∈ more, call.isPlay = false) →
      next.calls = w.calls ++ closingCalls w.player ++ more → PlayedVideo next.calls → PlayedVideo w.calls := by
    intro more quiet calls played
    rw [calls] at played
    exact playedVideo_append_silent (closingCalls_silent w.player) (playedVideo_append_silent quiet played)
  cases spec with
  | fits _ same =>
      rw [same]
      exact id
  | noPlayer tried fails calls _ _ =>
      apply silent tried _ calls
      rcases fails with rfl | rfl
      · nofun
      · exact List.forall_mem_singleton.mpr rfl
  | noLoad calls _ _ => exact silent _ (by simp [NdlCall.isPlay]) calls
  | opened calls _ _ => exact silent _ (by simp [NdlCall.isPlay]) calls

/-- A submission that succeeds sets `video_started` with the play that was accepted; in one that fails, none
    was. -/
theorem submitFrame_starts (w : SftThread) (data : List UInt8) (answers : SftAnswers) :
    Starts w (submitFrame w data answers) := by
  unfold submitFrame
  dsimp only
  split
  · exact .of_same rfl id
  · split
    · next after submitted =>
        obtain ⟨refused, rfl⟩ := submitVideo_calls submitted
        refine .of_same rfl fun played => ?_
        rcases played with ⟨sent, ptsUs, member⟩
        rcases List.mem_append.mp member with before | new
        · exact ⟨sent, ptsUs, before⟩
        · rw [if_neg Bool.false_ne_true, List.append_nil] at new
          cases List.eq_of_mem_replicate new
    · next after submitted =>
        obtain ⟨refused, rfl⟩ := submitVideo_calls submitted
        refine ⟨fun _ => rfl, fun _ => Or.inr ?_, fun _ => Or.inr rfl⟩
        exact ⟨data, _, List.mem_append_right _ (List.mem_append_right _ (List.mem_singleton.mpr rfl))⟩

/-- The video branch behind its checks. -/
theorem proceed_starts (v : SftThread) (a : SftArrival) : Starts v (proceed v a) := by
  have prepared := prepareDecoder_starts v a.header a.answers
  unfold proceed
  split
  · apply Starts.of_same _ fun played => (withhold_feed v a.answers.now).2 ▸ played
    unfold withhold
    split <;> rfl
  · split
    · exact prepared
    · have ready : Starts v { prepareDecoder v a.header a.answers with waitingKey := false } :=
        ⟨prepared.stays, prepared.cause, prepared.effect⟩
      exact ready.trans (submitFrame_starts _ a.payload a.answers)
        (submitFrame_carriesOn _ a.payload a.answers).grows

theorem handle_starts (a : SftArrival) (w : SftThread) : Starts w (a.handle w) := by
  cases video : sftPacketIsVideo a.header with
  | false =>
      have calls := (handle_other video w).2
      apply Starts.of_same _ (fun played => calls ▸ played)
      unfold SftArrival.handle sftHandlePacket handleAudio
      rw [if_neg (c := sftPacketIsVideo a.header = true) (by simp [video])]
      split
      · rw [Scan.run_bind]
        generalize (logStatusPacket a.payload.length).run a.memory = text
        cases text with
        | none => rfl
        | some text => rfl
      · split
        · split
          · rw [Scan.run_bind]
            rfl
          · rfl
        · rfl
  | true =>
      have flag := checks_videoStarted w a.header a.key a.answers.now
      have calls := (checks_feed w a.header a.key a.answers.now).2
      rw [handle_eq_proceed video]
      generalize noteResolution (noteSequence w a.header a.key a.answers.now) a.header a.key
        a.answers.now = v at flag calls ⊢
      have checked : Starts w v := .of_same flag fun played => calls ▸ played
      exact checked.trans (proceed_starts v a) (proceed_carriesOn v a).grows

/-- What a step of the thread does to the worker: it begins without video, or it goes on and takes no call
    back. -/
inductive WorkerStep (before after : Option SftThread) : Prop where
  | begins (absent : before = none)
      (dark : ∀ w, after = some w → w.videoStarted = false ∧ ¬ PlayedVideo w.calls)
  | goesOn (w next : SftThread) (here : before = some w) (there : after = some next)
      (starts : Starts w next) (grows : w.calls <+: next.calls)

theorem WorkerStep.same {before after : Option SftThread} {w : SftThread} (here : before = some w)
    (there : after = some w) : WorkerStep before after :=
  .goesOn w w here there (.of_same rfl id) List.prefix_rfl

theorem worker_headerRead {v : SftThread} {read : SftRead} {raw : List UInt8} :
    (headerRead v read raw).worker = some v := by
  unfold headerRead beginPayload
  dsimp only
  split
  · rfl
  split
  · rfl
  split <;> rfl

theorem sftThreadExit_keeps (w : SftThread) :
    (sftThreadExit w).videoStarted = w.videoStarted ∧
      (sftThreadExit w).calls = w.calls ++ closingCalls w.player := by
  unfold sftThreadExit
  cases player : w.player with
  | none => split <;> simp [player, closingCalls]
  | some p => split <;> simp [player, ndlMediaDestroy_eq]

theorem dark_start (now : UInt64) : ∀ w, some (sftThreadStart now) = some w →
    w.videoStarted = false ∧ ¬ PlayedVideo w.calls := by
  rintro w ⟨⟩
  exact ⟨rfl, fun ⟨_, _, member⟩ => nomatch member⟩

theorem dark_none : ∀ w : SftThread, none = some w → w.videoStarted = false ∧ ¬ PlayedVideo w.calls := by
  intro w absent
  cases absent

theorem worker_liveThreadStep {running : Bool} {socket after : LiveSocket} {t next : LiveThreadPc}
    {event : LiveThreadEvent} (step : liveThreadStep running socket t event = some (next, after)) :
    WorkerStep t.worker next.worker := by
  cases t <;> cases event <;> simp only [liveThreadStep, reduceCtorEq] at step
  case entry.enter allocated now garbage =>
      cases step
      cases allocated with
      | true => exact .begins rfl (dark_start now)
      | false => exact .begins rfl dark_none
  case test.test v read =>
      cases step
      split
      · exact .same rfl rfl
      · exact .goesOn v _ rfl rfl (.of_same rfl id) List.prefix_rfl
  case header.turn v read s tick =>
      split at step
      · rcases Option.map_eq_some_iff.mp step with ⟨⟨t, incoming⟩, turned, same⟩
        cases same
        unfold headerTurn at turned
        split at turned <;> cases turned
        · split
          · exact .same rfl rfl
          · exact .same rfl worker_headerRead
        · exact .same rfl rfl
      · cases step
  case payload.turn v read h s tick =>
      split at step
      · rcases Option.map_eq_some_iff.mp step with ⟨⟨t, incoming⟩, turned, same⟩
        cases same
        unfold payloadTurn at turned
        split at turned <;> cases turned
        · split <;> exact .same rfl rfl
        · exact .same rfl rfl
      · cases step
  case handling.handle v read given =>
      cases step
      have handled := run_sftHandlePacket v read.header read.payloadSize given fun i => read.payload.getD i 0
      have starts := handle_starts ⟨read.header, (List.range read.payloadSize).map fun i =>
        read.payload.getD i 0, given⟩ v
      have carries := handle_carriesOn ⟨read.header, (List.range read.payloadSize).map fun i =>
        read.payload.getD i 0, given⟩ v
      rw [← handled] at starts carries
      split
      · exact .goesOn v _ rfl rfl starts carries.grows
      · exact .goesOn v _ rfl rfl starts carries.grows
  case unread.unread v read rc =>
      cases step
      exact .goesOn v _ rfl rfl (.of_same rfl id) List.prefix_rfl
  case exiting.exit v =>
      cases step
      rcases sftThreadExit_keeps v with ⟨same, calls⟩
      apply WorkerStep.goesOn v _ rfl rfl
      · apply Starts.of_same same
        rw [calls]
        exact playedVideo_append_silent (closingCalls_silent v.player)
      · rw [calls]
        exact List.prefix_append _ _

/-- Video has started exactly if the player has accepted a frame. -/
def LiveThreadPc.Tells (t : LiveThreadPc) : Prop :=
  ∀ w, t.worker = some w → (w.videoStarted = true ↔ PlayedVideo w.calls)

theorem LiveThreadPc.videoStarted_of_worker {t : LiveThreadPc} {w : SftThread} (here : t.worker = some w) :
    t.videoStarted = w.videoStarted := by
  rw [LiveThreadPc.videoStarted, here]
  rfl

/-- A thread that shows video has a frame that the player has accepted. -/
theorem LiveThreadPc.Tells.played {t : LiveThreadPc} (tells : t.Tells) (set : t.videoStarted = true) :
    ∃ w, t.worker = some w ∧ PlayedVideo w.calls := by
  cases here : t.worker with
  | none =>
      rw [LiveThreadPc.videoStarted, here] at set
      cases set
  | some w =>
      rw [LiveThreadPc.videoStarted_of_worker here] at set
      exact ⟨w, rfl, (tells w here).mp set⟩

theorem WorkerStep.tells {t next : LiveThreadPc} (step : WorkerStep t.worker next.worker) (tells : t.Tells) :
    next.Tells ∧ (t.videoStarted = true → next.videoStarted = true) := by
  cases step with
  | begins absent dark =>
      refine ⟨fun w there => ?_, fun set => ?_⟩
      · rcases dark w there with ⟨unset, silent⟩
        rw [unset]
        exact iff_of_false Bool.false_ne_true silent
      · rw [LiveThreadPc.videoStarted, absent] at set
        cases set
  | goesOn w v here there starts grows =>
      rw [LiveThreadPc.videoStarted_of_worker here, LiveThreadPc.videoStarted_of_worker there]
      refine ⟨fun u isNext => ?_, starts.stays⟩
      rw [there] at isNext
      cases isNext
      constructor
      · intro set
        rcases starts.cause set with before | played
        · exact ((tells w here).mp before).grows grows
        · exact played
      · intro played
        rcases starts.effect played with before | set
        · exact starts.stays ((tells w here).mpr before)
        · exact set

/-- The page with the waiting screen. -/
def FrametapScreen.isWaiting : FrametapScreen → Bool
  | .waiting _ => true
  | .clearForVideo => false

/-- The main thread draws, or is about to decide what it draws. -/
def LiveFrametapPc.draws : LiveFrametapPc → Bool
  | .videoTest | .connectedTest | .drawStatus _ => true
  | _ => false

/-- What every state satisfies about the pages. -/
structure LiveFrametap.Shown (s : LiveFrametap) : Prop where
  pages : ∃ texts : List (CText 128), s.screens
    = texts.map FrametapScreen.waiting ++ (if s.uiCleared then [.clearForVideo] else [])
  front : s.uiCleared = true → s.main.draws = false ∧ s.thread.videoStarted = true
  video : s.thread.Tells

namespace LiveFrametap.Shown

variable {s next : LiveFrametap}

/-- Where the main thread draws, no page over the video has been drawn. -/
theorem waits (shown : s.Shown) (draws : s.main.draws = true) : s.uiCleared = false := by
  cases cleared : s.uiCleared with
  | false => rfl
  | true =>
      rw [(shown.front cleared).1] at draws
      cases draws

/-- A step that draws nothing. -/
theorem of_same (shown : s.Shown) (screens : next.screens = s.screens)
    (cleared : next.uiCleared = s.uiCleared) (thread : next.thread = s.thread)
    (draws : s.uiCleared = true → next.main.draws = false) : next.Shown := by
  refine ⟨?_, fun cleared_ => ?_, ?_⟩
  · rw [screens, cleared]
    exact shown.pages
  · rw [cleared] at cleared_
    rw [thread]
    exact ⟨draws cleared_, (shown.front cleared_).2⟩
  · rw [thread]
    exact shown.video

theorem main {succeeds : Bool} {action : ShellAction} {now : UInt32} (shown : s.Shown) (placed : s.Placed)
    (step : liveFrametapMain s succeeds action now = some next) : next.Shown := by
  unfold liveFrametapMain at step
  cases pc : s.main <;> simp only [pc] at step
  case connect => cases succeeds <;> cases step <;> exact shown.of_same rfl rfl rfl fun _ => rfl
  case initLock => cases succeeds <;> cases step <;> exact shown.of_same rfl rfl rfl fun _ => rfl
  case createThread =>
    have fresh : s.thread = .unstarted := placed.fresh (by rw [pc]; rfl)
    have dark : s.uiCleared = true → False := fun cleared => by
      have started := (shown.front cleared).2
      rw [fresh] at started
      cases started
    cases succeeds with
    | true =>
        cases step
        exact ⟨shown.pages, fun cleared => (dark cleared).elim, fun w absent => by cases absent⟩
    | false =>
        cases step
        exact shown.of_same rfl rfl rfl fun _ => rfl
  case uiTest =>
    cases step
    refine shown.of_same rfl rfl rfl fun _ => ?_
    dsimp only
    split <;> rfl
  case uiPoll =>
    cases action with
    | none =>
        cases step
        refine shown.of_same rfl rfl rfl fun cleared => ?_
        dsimp only
        rw [if_pos cleared]
        rfl
    | back =>
        cases step
        exact shown.of_same rfl rfl rfl fun _ => rfl
    | quit =>
        cases step
        exact shown.of_same rfl rfl rfl fun _ => rfl
  case videoTest =>
    have waiting := shown.waits (by rw [pc]; rfl)
    rcases shown.pages with ⟨texts, pages⟩
    split at step
    · next started =>
        cases step
        refine ⟨⟨texts, ?_⟩, fun _ => ⟨rfl, started⟩, shown.video⟩
        dsimp only
        rw [pages, waiting, if_neg Bool.false_ne_true, List.append_nil, if_pos rfl]
    · cases step
      refine shown.of_same rfl rfl rfl fun cleared => ?_
      rw [waiting] at cleared
      cases cleared
  case connectedTest =>
    cases step
    refine shown.of_same rfl rfl rfl fun cleared => ?_
    rw [shown.waits (by rw [pc]; rfl)] at cleared
    cases cleared
  case drawStatus asked =>
    have waiting := shown.waits (by rw [pc]; rfl)
    rcases shown.pages with ⟨texts, pages⟩
    cases step
    refine ⟨⟨texts ++ [s.thread.statusHead], ?_⟩, fun cleared => ?_, shown.video⟩
    · dsimp only
      rw [pages, waiting, if_neg Bool.false_ne_true, List.append_nil, List.append_nil, List.map_append]
      rfl
    · dsimp only at cleared
      rw [waiting] at cleared
      cases cleared
  case stop =>
    cases step
    exact shown.of_same rfl rfl rfl fun _ => rfl
  case shutdown =>
    cases step
    exact shown.of_same rfl rfl rfl fun _ => rfl
  case join =>
    split at step
    · cases step
      exact shown.of_same rfl rfl rfl fun _ => rfl
    · cases step
  case returned result => cases step

theorem step {e : LiveFrametapEvent} (shown : s.Shown) (placed : s.Placed)
    (step : liveFrametapStep s e = some next) : next.Shown := by
  cases e with
  | main succeeds action now => exact shown.main placed step
  | thread event =>
      rcases Option.map_eq_some_iff.mp step with ⟨⟨t, socket⟩, taken, rfl⟩
      rcases (worker_liveThreadStep taken).tells shown.video with ⟨tells, stays⟩
      exact ⟨shown.pages, fun cleared => ⟨(shown.front cleared).1, stays (shown.front cleared).2⟩, tells⟩
  | signal =>
      cases step
      exact ⟨shown.pages, shown.front, shown.video⟩
  | arrives bytes =>
      simp only [liveFrametapStep] at step
      split at step
      · cases step
      · cases step
        exact ⟨shown.pages, shown.front, shown.video⟩
  | closes =>
      cases step
      exact ⟨shown.pages, shown.front, shown.video⟩

end LiveFrametap.Shown

/-- The page with a text that the main thread may have decided to draw. -/
def LiveFrametapPc.pageDue : LiveFrametapPc → Nat
  | .connectedTest | .drawStatus _ => 1
  | _ => 0

/-- The pages with a text so far, with the one that may be due. -/
def LiveFrametap.pagesDue (s : LiveFrametap) : Nat :=
  s.screens.countP FrametapScreen.isWaiting + s.main.pageDue

/-- The steps of the main thread ahead of its next look at `video_started`. -/
def LiveFrametapPc.stepsToLook : LiveFrametapPc → Nat
  | .connectedTest => 4
  | .drawStatus _ => 3
  | .uiTest => 2
  | .uiPoll => 1
  | _ => 0

/-- The page over the video is drawn, or the session goes to its end. -/
def LiveFrametap.Settled (s : LiveFrametap) : Prop := s.uiCleared = true ∨ s.main.ending = true

/-- What the main thread does once video has started. -/
theorem liveFrametapMain_looks {s next : LiveFrametap} {succeeds : Bool} {action : ShellAction}
    {now : UInt32} (started : s.thread.videoStarted = true) (late : s.main.early = false)
    (step : liveFrametapMain s succeeds action now = some next) :
    next.pagesDue ≤ s.pagesDue ∧ (s.Settled → next.Settled) ∧
      (s.Settled ∨ next.Settled ∨ next.main.stepsToLook < s.main.stepsToLook) := by
  unfold liveFrametapMain at step
  cases pc : s.main <;> simp only [pc] at step late <;> try cases late
  case uiTest =>
    cases step
    dsimp only [LiveFrametap.pagesDue, LiveFrametap.Settled]
    rw [pc]
    split
    · exact ⟨Nat.le_refl _, fun _ => Or.inr rfl, Or.inr (Or.inl (Or.inr rfl))⟩
    · exact ⟨Nat.le_refl _, Or.imp id nofun, Or.inr (Or.inr (by decide))⟩
  case uiPoll =>
    cases action with
    | none =>
        cases step
        dsimp only [LiveFrametap.pagesDue, LiveFrametap.Settled]
        rw [pc]
        split
        · next cleared => exact ⟨Nat.le_refl _, fun _ => Or.inl cleared, Or.inl (Or.inl cleared)⟩
        · exact ⟨Nat.le_refl _, Or.imp id nofun, Or.inr (Or.inr (by decide))⟩
    | back =>
        cases step
        dsimp only [LiveFrametap.pagesDue]
        rw [pc]
        exact ⟨Nat.le_refl _, fun _ => Or.inr rfl, Or.inr (Or.inl (Or.inr rfl))⟩
    | quit =>
        cases step
        dsimp only [LiveFrametap.pagesDue]
        rw [pc]
        exact ⟨Nat.le_refl _, fun _ => Or.inr rfl, Or.inr (Or.inl (Or.inr rfl))⟩
  case videoTest =>
    rw [if_pos started] at step
    cases step
    dsimp only [LiveFrametap.pagesDue]
    rw [pc, List.countP_append]
    exact ⟨Nat.le_refl _, fun _ => Or.inl rfl, Or.inr (Or.inl (Or.inl rfl))⟩
  case connectedTest =>
    cases step
    dsimp only [LiveFrametap.pagesDue, LiveFrametap.Settled]
    rw [pc]
    split
    · exact ⟨Nat.le_refl _, Or.imp id nofun, Or.inr (Or.inr (Nat.lt_succ_self 3))⟩
    · exact ⟨Nat.le_succ _, Or.imp id nofun, Or.inr (Or.inr (by decide))⟩
  case drawStatus asked =>
    cases step
    dsimp only [LiveFrametap.pagesDue, LiveFrametap.Settled]
    rw [pc, List.countP_append]
    exact ⟨Nat.le_refl _, Or.imp id nofun, Or.inr (Or.inr (Nat.lt_succ_self 2))⟩
  case stop =>
    cases step
    dsimp only [LiveFrametap.pagesDue]
    rw [pc]
    exact ⟨Nat.le_refl _, fun _ => Or.inr rfl, Or.inr (Or.inl (Or.inr rfl))⟩
  case shutdown =>
    cases step
    dsimp only [LiveFrametap.pagesDue]
    rw [pc]
    exact ⟨Nat.le_refl _, fun _ => Or.inr rfl, Or.inr (Or.inl (Or.inr rfl))⟩
  case join =>
    split at step
    · cases step
      dsimp only [LiveFrametap.pagesDue]
      rw [pc]
      exact ⟨Nat.le_refl _, fun _ => Or.inr rfl, Or.inr (Or.inl (Or.inr rfl))⟩
    · cases step
  case returned result => cases step

/-- A session in which video has started. -/
structure LiveFrametap.Started (s : LiveFrametap) : Prop where
  placed : s.Placed
  shown : s.Shown
  started : s.thread.videoStarted = true

theorem LiveFrametap.Started.late {s : LiveFrametap} (started : s.Started) : s.main.early = false := by
  cases early : s.main.early with
  | false => rfl
  | true =>
      have set := started.started
      rw [started.placed.fresh early] at set
      cases set

theorem LiveFrametap.Started.step {s next : LiveFrametap} {e : LiveFrametapEvent} (started : s.Started)
    (step : liveFrametapStep s e = some next) :
    next.Started ∧ next.pagesDue ≤ s.pagesDue ∧ (s.Settled → next.Settled) ∧
      (e.isMain = true → s.Settled ∨ next.Settled ∨ next.main.stepsToLook < s.main.stepsToLook) ∧
      (e.isMain = false → next.main.stepsToLook ≤ s.main.stepsToLook) := by
  have placed := started.placed.step step
  have shown := started.shown.step started.placed step
  cases e with
  | main succeeds action now =>
      rcases liveFrametapMain_looks started.started started.late step with ⟨pages, stays, looks⟩
      refine ⟨⟨placed, shown, ?_⟩, pages, stays, fun _ => looks, fun other => by cases other⟩
      rcases (liveFrametapMain_keeps step).2.1 with same | ⟨main, _⟩
      · rw [same]
        exact started.started
      · have late := started.late
        rw [main] at late
        cases late
  | thread event =>
      rcases Option.map_eq_some_iff.mp step with ⟨⟨t, socket⟩, taken, rfl⟩
      have stays := ((worker_liveThreadStep taken).tells started.shown.video).2
      exact ⟨⟨placed, shown, stays started.started⟩, Nat.le_refl _, id, (fun other => by cases other),
        fun _ => Nat.le_refl _⟩
  | signal =>
      cases step
      exact ⟨⟨placed, shown, started.started⟩, Nat.le_refl _, id, (fun other => by cases other),
        fun _ => Nat.le_refl _⟩
  | arrives bytes =>
      simp only [liveFrametapStep] at step
      split at step
      · cases step
      · cases step
        exact ⟨⟨placed, shown, started.started⟩, Nat.le_refl _, id, (fun other => by cases other),
          fun _ => Nat.le_refl _⟩
  | closes =>
      cases step
      exact ⟨⟨placed, shown, started.started⟩, Nat.le_refl _, id, (fun other => by cases other),
        fun _ => Nat.le_refl _⟩

theorem approaches_settled : Runs.Approaches liveFrametapStep LiveFrametap.Started LiveFrametap.Settled
    LiveFrametapEvent.isMain (fun s => s.main.stepsToLook) where
  preserves := fun _ _ _ started step => (started.step step).1
  stays := fun _ _ _ started there step => (started.step step).2.2.1 there
  lowers := fun _ _ _ started own step => (started.step step).2.2.2.1 own
  keeps := fun _ _ _ started other step => (started.step step).2.2.2.2 other

theorem LiveFrametapPc.stepsToLook_le (pc : LiveFrametapPc) : pc.stepsToLook ≤ 4 := by
  cases pc <;> exact Nat.le_of_ble_eq_true rfl

end SysdvrWebos
