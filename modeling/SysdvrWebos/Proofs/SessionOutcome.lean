/-
Module: SysdvrWebos.Proofs.SessionOutcome
Layer: Proofs
Purpose: What the result of a SysDVR session says about its end. Over every interleaving of the two workers
  and the UI loop, the result is an error exactly if the player rejected a packet or a worker found
  `running` cleared while it still had a packet to submit; the second case turns a stream that merely ended
  into an error.
Trusted boundary: none (fully proved)
Main exports: OutcomeRight, decoderError_iff, session_outcome_iff
Open obligations: none
-/
import SysdvrWebos.Proofs.SessionSteps

namespace SysdvrWebos

/-! ### What happens at a step -/

/-- There is a packet to submit and `running` is found cleared. -/
def WorkerPc.submitStops (running : Bool) : WorkerPc → Bool
  | .submitTest _ _ => !running
  | _ => false

/-- A worker with a packet to submit finds `running` cleared. -/
def submitStopsAt (s : Session) : SessionEvent → Bool
  | .worker kind => (s.worker kind).pc.submitStops s.running
  | _ => false

/-- A stream closes or cannot be read any further. -/
def streamEndsAt (s : Session) : SessionEvent → Bool
  | .worker kind =>
      match (s.worker kind).pc, readData (s.worker kind).kind (s.worker kind).reads with
      | .reading, some (.closed, _) => true
      | .reading, some (.failed, _) => true
      | _, _ => false
  | _ => false

/-- Some step of the run is one at which `p` holds. -/
def Happens (p : Session → SessionEvent → Bool) (s : Session) (events : List SessionEvent) : Prop :=
  Runs.AnyStep sessionStep (fun s e => p s e = true) s events

instance (p : Session → SessionEvent → Bool) (s : Session) (events : List SessionEvent) :
    Decidable (Happens p s events) := Runs.decidableAnyStep s events

/-- The result of a session that began as `s` and ended as `last` fits its run: an error only if the
    player rejected a packet; and if it rejected none and a stream ended, a result with which main waits
    for the console. -/
def OutcomeRight (s : Session) (events : List SessionEvent) (last : Session)
    (result : SessionResult) : Prop :=
  (result = .error → Happens rejectsAt s events) ∧
  (¬ Happens rejectsAt s events → Happens streamEndsAt s events →
    (result = .remoteEnd ∨ result = .transportLost) ∧
      afterSession last.signalStop result = .waitReconnect)

/-! ### The error flag -/

/-- One of the workers has recorded a decoder error. -/
def Session.decoderError (s : Session) : Bool := s.video.decoderError || s.audio.decoderError

theorem Session.decoderError_eq (s : Session) (kind : StreamKind) :
    ∃ other, s.decoderError = ((s.worker kind).decoderError || other) ∧
      ∀ w, (s.setWorker kind w).decoderError = (w.decoderError || other) := by
  cases kind with
  | video => exact ⟨s.audio.decoderError, rfl, fun w => rfl⟩
  | audio =>
      exact ⟨s.video.decoderError, Bool.or_comm _ _, fun w => Bool.or_comm _ _⟩

theorem WorkerMove.decoderError_iff {w next : StreamWorker} {running after : Bool}
    (move : WorkerMove w running next after) :
    next.decoderError = true ↔ w.decoderError = true ∨ w.pc.submitStops running = true := by
  cases move with
  | takesFirst packet pc first => simp [pc, WorkerPc.submitStops]
  | startsLoop pc first => simp [pc, WorkerPc.submitStops]
  | goesOn pc set => simp [pc, WorkerPc.submitStops]
  | leaves pc cleared => simp [pc, WorkerPc.submitStops]
  | reads packet reads pc read => simp [pc, WorkerPc.submitStops]
  | readsClose reads pc read => simp [pc, WorkerPc.submitStops]
  | readsFailure reads pc read => simp [pc, WorkerPc.submitStops]
  | submits packet retries pc set => simp [pc, set, WorkerPc.submitStops]
  | submitStops packet retries pc cleared => simp [pc, cleared, WorkerPc.submitStops, StreamWorker.giveUp]
  | clears cause pc => simp [pc, WorkerPc.submitStops]

theorem FeedMove.decoderError_iff {w next : StreamWorker} {answer : NdlFeedResult}
    {accepted : Option AcceptedPacket} (move : FeedMove w answer next accepted) :
    next.decoderError = true ↔ w.decoderError = true ∨ w.pc.rejects answer = true := by
  cases move with
  | accepts packet retries pc ok => simp [pc, ok, WorkerPc.rejects, Rejects]
  | rejects packet retries pc rejected => simp [pc, rejected, WorkerPc.rejects, StreamWorker.giveUp]
  | triesAgain packet retries pc unsettled => simp [pc, unsettled, WorkerPc.rejects]

/-- A step records a decoder error exactly if a packet is rejected or its submission is stopped. -/
theorem decoderError_step {s next : Session} {e : SessionEvent}
    (step : sessionStep s e = some next) :
    next.decoderError = true ↔
      s.decoderError = true ∨ rejectsAt s e = true ∨ submitStopsAt s e = true := by
  have quiet : s.decoderError = true ↔ s.decoderError = true ∨ false = true ∨ false = true := by simp
  cases SessionMove.of_step step with
  | worker kind w running move =>
      rcases s.decoderError_eq kind with ⟨other, before, behind⟩
      have same : Session.decoderError { s.setWorker kind w with running := running }
          = (s.setWorker kind w).decoderError := rfl
      have none : rejectsAt s (.worker kind) = false := rfl
      rw [same, behind, before, none, Bool.or_eq_true, Bool.or_eq_true, move.decoderError_iff]
      unfold submitStopsAt
      grind
  | feed kind answer w accepted move =>
      rcases s.decoderError_eq kind with ⟨other, before, behind⟩
      have same : Session.decoderError
          { s.setWorker kind w with accepted := s.accepted ++ accepted.toList }
          = (s.setWorker kind w).decoderError := rfl
      have none : submitStopsAt s (.feed kind answer) = false := rfl
      rw [same, behind, before, none, Bool.or_eq_true, Bool.or_eq_true, move.decoderError_iff]
      unfold rejectsAt
      grind
  | createsVideo action main => exact quiet
  | createsAudio action main => exact quiet
  | main creates action running signalStop userBack pc flows => exact quiet
  | joinsVideo creates action main back => exact quiet
  | joinsAudio creates action main back => exact quiet
  | signal => exact quiet

/-- A decoder error is on record at the end of a run exactly if a packet was rejected in it or its
    submission was stopped. -/
theorem decoderError_iff {s last : Session} {events : List SessionEvent}
    (clean : s.decoderError = false) (run : Runs.exec sessionStep s events = some last) :
    last.decoderError = true ↔ Happens rejectsAt s events ∨ Happens submitStopsAt s events := by
  have flag := Runs.exec_flag (fun _ _ _ => decoderError_step) run
  rw [flag, Runs.anyStep_or_iff, clean]
  simp [Happens]

/-! ### The result -/

theorem wired_of_primed {allocated : StreamKind → Bool} {reads : StreamKind → List PacketRead}
    {s : Session} (primed : primeSession allocated reads = .ok (some s)) :
    ∃ base, s.Wired base ∧ s.decoderError = false := by
  rcases primeSession_some primed with ⟨video, audio, videoRest, audioRest, _, _, rfl⟩
  exact ⟨_, wired_primedSession _ video audio videoRest audioRest, rfl⟩

theorem result_eq_error_iff {s : Session} (stayed : s.userBack = false) :
    s.result = .error ↔ s.decoderError = true := by
  unfold Session.result Session.decoderError
  rw [stayed]
  cases s.video.decoderError || s.audio.decoderError with
  | true => simp
  | false => cases s.video.transportError || s.audio.transportError <;> simp

theorem reconnects_of_no_error {s : Session} (stayed : s.userBack = false)
    (unsignalled : s.signalStop = false) (clean : s.decoderError = false) :
    (s.result = .remoteEnd ∨ s.result = .transportLost) ∧
      afterSession s.signalStop s.result = .waitReconnect := by
  unfold Session.decoderError at clean
  unfold Session.result
  rw [stayed, clean, unsignalled]
  cases s.video.transportError || s.audio.transportError with
  | true => exact ⟨Or.inr rfl, rfl⟩
  | false => exact ⟨Or.inl rfl, rfl⟩

/-- For every session that neither the user nor the stop signal ended, whatever its sockets and its player
    answer and however its threads are interleaved: the result fits the run exactly if the player rejected
    a packet or no worker with a packet to submit found `running` cleared. -/
theorem session_outcome_iff {allocated : StreamKind → Bool}
    {reads : StreamKind → List PacketRead} {s last : Session} {events : List SessionEvent}
    {result : SessionResult} (primed : primeSession allocated reads = .ok (some s))
    (run : Runs.exec sessionStep s events = some last) (returned : last.main = .returned result)
    (stayed : last.userBack = false) (unsignalled : last.signalStop = false) :
    OutcomeRight s events last result ↔
      (Happens rejectsAt s events ∨ ¬ Happens submitStopsAt s events) := by
  rcases wired_of_primed primed with ⟨base, start, clean⟩
  have wired := Runs.exec_invariant (fun _ _ _ wired step => Session.Wired.step wired step) start run
  have flag := decoderError_iff clean run
  rw [(wired.audioJoined result returned).2]
  unfold OutcomeRight
  constructor
  · rintro ⟨onlyRejected, _⟩
    by_cases rejected : Happens rejectsAt s events
    · exact Or.inl rejected
    · refine Or.inr fun stopped => rejected ?_
      exact onlyRejected ((result_eq_error_iff stayed).mpr (flag.mpr (Or.inr stopped)))
  · rintro (rejected | unstopped)
    · exact ⟨fun _ => rejected, fun none => absurd rejected none⟩
    · refine ⟨fun failed => ?_, fun none _ => ?_⟩
      · rcases flag.mp ((result_eq_error_iff stayed).mp failed) with rejected | stopped
        · exact rejected
        · exact absurd stopped unstopped
      · apply reconnects_of_no_error stayed unsignalled
        apply Bool.eq_false_iff.mpr
        intro failed
        rcases flag.mp failed with rejected | stopped
        · exact none rejected
        · exact unstopped stopped

/-- A session whose video stream ends behind its first packet, while audio has one more. -/
def closingSession : Session :=
  primedSession 1000 (smallPacket 0x01 1000) (smallPacket 0x02 1040) [.closed] []

/-- Both workers are created and video submits its first packet and returns to its socket. -/
def videoAhead : List SessionEvent :=
  [.main true .none, .main true .none, .main true .none, .worker .video, .worker .video,
    .feed .video .ok, .worker .video]

/-- Everybody leaves: audio, the UI loop and the two joins. -/
def everybodyLeaves : List SessionEvent :=
  [.worker .audio, .worker .audio, .main true .none, .main true .none, .main true .none,
    .main true .none]

/-- What the sockets of that session bring. -/
def closingReads : StreamKind → List PacketRead
  | .video => [.packet (smallPacket 0x01 1000).header [0], .closed]
  | .audio => [.packet (smallPacket 0x02 1040).header [0]]

theorem closingSession_primed :
    primeSession (fun _ => true) closingReads = .ok (some closingSession) := by
  rfl

/-- Audio submits its packet before video finds its stream closed: the session ends in the wait for the
    console. -/
theorem quiet_end_waits_for_console :
    ∃ last, Runs.exec sessionStep closingSession
        (videoAhead ++ [.worker .audio, .worker .audio, .feed .audio .ok, .worker .video,
          .worker .video] ++ everybodyLeaves) = some last ∧
      OutcomeRight closingSession
        (videoAhead ++ [.worker .audio, .worker .audio, .feed .audio .ok, .worker .video,
          .worker .video] ++ everybodyLeaves) last .remoteEnd := by
  refine ⟨_, rfl, ?_⟩
  apply (session_outcome_iff closingSession_primed rfl rfl rfl rfl).mpr
  exact Or.inr (by decide)

/-- Video finds its stream closed while audio is about to submit its first packet: the player has rejected
    nothing, yet the session ends as an error and main does not wait for the console. -/
theorem closed_stream_reported_as_error :
    primeSession (fun _ => true) closingReads = .ok (some closingSession) ∧
    ∃ last, Runs.exec sessionStep closingSession
        (videoAhead ++ [.worker .audio, .worker .video, .worker .video] ++ everybodyLeaves)
          = some last ∧
      last.main = .returned .error ∧ last.videoStarted = true ∧ last.audioStarted = true ∧
      last.userBack = false ∧ last.signalStop = false ∧
      afterSession last.signalStop .error = .showError ∧
      ¬ OutcomeRight closingSession
        (videoAhead ++ [.worker .audio, .worker .video, .worker .video] ++ everybodyLeaves)
          last .error := by
  refine ⟨closingSession_primed, _, rfl, rfl, rfl, rfl, rfl, rfl, rfl, fun right => ?_⟩
  exact absurd (right.1 rfl) (by decide)

end SysdvrWebos
