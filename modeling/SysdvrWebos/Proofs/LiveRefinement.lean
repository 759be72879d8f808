/-
Module: SysdvrWebos.Proofs.LiveRefinement
Layer: Proofs
Purpose: A SysDVR session over sockets that fill takes the steps of a session that is given all its sockets
  ever bring, so that what holds of every run of the one holds of the other.
Trusted boundary: none (fully proved)
Main exports: readData_append, Session.receiveAll, liveStep_brings, live_session_refines
Open obligations: none
-/
import SysdvrWebos.Core.LiveSession
import SysdvrWebos.Proofs.SessionSteps

namespace SysdvrWebos

/-! ### Sockets that bring more -/

/-- What a worker takes from its socket does not depend on what the socket brings later. -/
theorem readData_append {kind : StreamKind} {reads : List PacketRead} (more : List PacketRead) :
    ∀ {result : DataResult} {rest : List PacketRead}, readData kind reads = some (result, rest) →
      readData kind (reads ++ more) = some (result, rest ++ more) := by
  induction reads with
  | nil =>
      intro result rest found
      cases found
  | cons read reads ih =>
      intro result rest found
      cases read with
      | closed =>
          cases found
          rfl
      | failed =>
          cases found
          rfl
      | packet header payload =>
          rw [List.cons_append]
          unfold readData at found ⊢
          by_cases error : header.metadata &&& sysdvrPacketError ≠ 0
          · rw [if_pos error] at found ⊢
            cases found
            rfl
          · rw [if_neg error] at found ⊢
            by_cases media : (expectedPacket kind header && decide (payload.length > 0)) = true
            · rw [if_pos media] at found ⊢
              cases found
              rfl
            · rw [if_neg media] at found ⊢
              exact ih found

/-- A worker whose socket brings more. -/
def StreamWorker.receive (w : StreamWorker) (more : List PacketRead) : StreamWorker :=
  { w with reads := w.reads ++ more }

theorem advance_receive {w next : StreamWorker} {running after : Bool} (more : List PacketRead)
    (moved : w.advance running = some (next, after)) :
    (w.receive more).advance running = some (next.receive more, after) := by
  cases WorkerMove.of_advance moved with
  | takesFirst packet pc first => simp [StreamWorker.advance, StreamWorker.receive, pc, first]
  | startsLoop pc first => simp [StreamWorker.advance, StreamWorker.receive, pc, first]
  | goesOn pc set => simp [StreamWorker.advance, StreamWorker.receive, pc, set]
  | leaves pc cleared => simp [StreamWorker.advance, StreamWorker.receive, pc, cleared]
  | reads packet reads pc read =>
      simp [StreamWorker.advance, StreamWorker.receive, pc, readData_append more read]
  | readsClose reads pc read =>
      simp [StreamWorker.advance, StreamWorker.receive, pc, readData_append more read]
  | readsFailure reads pc read =>
      simp [StreamWorker.advance, StreamWorker.receive, pc, readData_append more read]
  | submits packet retries pc set => simp [StreamWorker.advance, StreamWorker.receive, pc, set]
  | submitStops packet retries pc cleared =>
      simp [StreamWorker.advance, StreamWorker.receive, StreamWorker.giveUp, pc, cleared]
  | clears cause pc => simp [StreamWorker.advance, StreamWorker.receive, pc]

theorem feed_receive {w next : StreamWorker} {answer : NdlFeedResult}
    {accepted : Option AcceptedPacket} (more : List PacketRead)
    (moved : w.feed answer = some (next, accepted)) :
    (w.receive more).feed answer = some (next.receive more, accepted) := by
  unfold StreamWorker.feed at moved ⊢
  cases pc : w.pc <;> simp only [pc, StreamWorker.receive] at moved ⊢
  case feeding packet retries =>
    cases answer with
    | ok =>
        cases moved
        rfl
    | error =>
        cases moved
        rfl
    | retry =>
        dsimp only at moved ⊢
        split at moved
        · next spent =>
            cases moved
            rw [if_pos spent]
            rfl
        · next left =>
            cases moved
            rw [if_neg left]
  all_goals cases moved

/-- The session whose sockets bring more. -/
def Session.receiveAll (s : Session) (more : StreamKind → List PacketRead) : Session :=
  { s with video := s.video.receive (more .video), audio := s.audio.receive (more .audio) }

theorem Session.worker_receiveAll (s : Session) (more : StreamKind → List PacketRead)
    (kind : StreamKind) : (s.receiveAll more).worker kind = (s.worker kind).receive (more kind) := by
  cases kind with
  | video => rfl
  | audio => rfl

theorem Session.setWorker_receiveAll (s : Session) (more : StreamKind → List PacketRead)
    (kind : StreamKind) (w : StreamWorker) :
    (s.receiveAll more).setWorker kind (w.receive (more kind))
      = (s.setWorker kind w).receiveAll more := by
  cases kind with
  | video => rfl
  | audio => rfl

theorem mainStep_receiveAll {s next : Session} {creates : Bool} {action : ShellAction}
    (more : StreamKind → List PacketRead) (step : mainStep s creates action = some next) :
    mainStep (s.receiveAll more) creates action = some (next.receiveAll more) := by
  unfold mainStep at step ⊢
  cases main : s.main <;> simp only [main, Session.receiveAll] at step ⊢
  case createVideo =>
    cases creates with
    | true =>
        cases step
        rfl
    | false =>
        cases step
        rfl
  case createAudio =>
    cases creates with
    | true =>
        cases step
        rfl
    | false =>
        cases step
        rfl
  case uiPoll =>
    cases action with
    | none =>
        cases step
        rfl
    | back =>
        cases step
        rfl
    | quit =>
        cases step
        rfl
  case joinVideo =>
    split at step
    · next test =>
        cases step
        exact if_pos test
    · cases step
  case joinAudio =>
    split at step
    · next test =>
        cases step
        exact if_pos test
    · cases step
  case returned result => cases step
  all_goals
    cases step
    rfl

/-- No step depends on what the sockets bring later. -/
theorem sessionStep_receiveAll {s next : Session} {e : SessionEvent}
    (more : StreamKind → List PacketRead) (step : sessionStep s e = some next) :
    sessionStep (s.receiveAll more) e = some (next.receiveAll more) := by
  cases e with
  | worker kind =>
      rcases Option.map_eq_some_iff.mp step with ⟨⟨w, running⟩, moved, rfl⟩
      have later := advance_receive (more kind) moved
      simp only [sessionStep, s.worker_receiveAll more kind]
      refine Option.map_eq_some_iff.mpr ⟨_, later, ?_⟩
      rw [s.setWorker_receiveAll more kind w]
      rfl
  | feed kind answer =>
      rcases Option.map_eq_some_iff.mp step with ⟨⟨w, accepted⟩, moved, rfl⟩
      have later := feed_receive (more kind) moved
      simp only [sessionStep, s.worker_receiveAll more kind]
      refine Option.map_eq_some_iff.mpr ⟨_, later, ?_⟩
      rw [s.setWorker_receiveAll more kind w]
      rfl
  | main creates action => exact mainStep_receiveAll more step
  | signal =>
      cases step
      rfl

/-! ### The refinement -/

/-- What an event brings to the socket of one kind. -/
def LiveEvent.brings (kind : StreamKind) : LiveEvent → List PacketRead
  | .thread _ => []
  | .shutdown other insidePacket => if other = kind then [shutdownRead insidePacket] else []
  | .arrives other read => if other = kind then [read] else []

/-- All that a run brings to the socket of one kind. -/
def broughtBy (events : List LiveEvent) (kind : StreamKind) : List PacketRead :=
  events.flatMap (LiveEvent.brings kind)

/-- The steps of the threads in a run. -/
def threadSteps (events : List LiveEvent) : List SessionEvent :=
  events.filterMap fun
    | .thread event => some event
    | _ => none

theorem Session.receiveAll_receiveAll (s : Session) (first second : StreamKind → List PacketRead) :
    (s.receiveAll first).receiveAll second = s.receiveAll fun kind => first kind ++ second kind := by
  simp [Session.receiveAll, StreamWorker.receive]

theorem Session.receive_eq (s : Session) (kind : StreamKind) (reads : List PacketRead) :
    s.receive kind reads = s.receiveAll fun other => if kind = other then reads else [] := by
  cases kind with
  | video => simp [Session.receive, Session.setWorker, Session.worker, Session.receiveAll,
      StreamWorker.receive]
  | audio => simp [Session.receive, Session.setWorker, Session.worker, Session.receiveAll,
      StreamWorker.receive]

/-- An event of the environment only brings something. -/
theorem liveStep_brings {s next : LiveSession} {e : LiveEvent} (step : liveStep s e = some next)
    (environment : ∀ event, e ≠ .thread event) :
    next.session = s.session.receiveAll fun kind => e.brings kind := by
  cases e with
  | thread event => exact absurd rfl (environment event)
  | shutdown kind insidePacket =>
      simp only [liveStep] at step
      split at step
      · cases step
        cases kind with
        | video => exact s.session.receive_eq .video [shutdownRead insidePacket]
        | audio => exact s.session.receive_eq .audio [shutdownRead insidePacket]
      · cases step
  | arrives kind read =>
      simp only [liveStep] at step
      split at step
      · cases step
      · cases step
        exact Session.receive_eq _ _ _

/-- The steps of a live session are those of a session that is given all that is still to come. -/
theorem liveStep_simulates {s next : LiveSession} {e : LiveEvent} (step : liveStep s e = some next)
    (later : StreamKind → List PacketRead) :
    Runs.exec sessionStep (s.session.receiveAll fun kind => e.brings kind ++ later kind)
      (threadSteps [e]) = some (next.session.receiveAll later) := by
  cases e with
  | thread event =>
      simp only [liveStep] at step
      split at step
      · cases step
      · rcases Option.map_eq_some_iff.mp step with ⟨session, taken, rfl⟩
        exact Runs.exec_cons.mpr ⟨_, sessionStep_receiveAll later taken, rfl⟩
  | shutdown kind insidePacket =>
      rw [liveStep_brings step nofun, Session.receiveAll_receiveAll]
      rfl
  | arrives kind read =>
      rw [liveStep_brings step nofun, Session.receiveAll_receiveAll]
      rfl

/-- Whatever its sockets bring and whenever they bring it, a live session takes the steps of a session that
    is given all of it from the start, and it comes to the same state. -/
theorem live_session_refines {events : List LiveEvent} :
    ∀ {s last : LiveSession}, Runs.exec liveStep s events = some last →
      Runs.exec sessionStep (s.session.receiveAll (broughtBy events)) (threadSteps events)
        = some last.session := by
  induction events with
  | nil =>
      intro s last run
      cases run
      simp [threadSteps, broughtBy, Session.receiveAll, StreamWorker.receive]
  | cons e events ih =>
      intro s last run
      rcases Runs.exec_cons.mp run with ⟨next, step, rest⟩
      have first := liveStep_simulates step (broughtBy events)
      have together : threadSteps (e :: events) = threadSteps [e] ++ threadSteps events := by
        cases e <;> rfl
      rw [together]
      exact Runs.exec_append.mpr ⟨_, first, ih rest⟩

end SysdvrWebos
