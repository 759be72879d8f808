/-
Module: SysdvrWebos.Proofs.LiveSessionEnds
Layer: Proofs
Purpose: A SysDVR session over sockets that fill comes to its end. Once `running` is cleared its threads
  have a bounded number of steps left, and until the main thread has returned one of them is enabled,
  whatever the sockets bring: a worker that waits for its socket is released by the `shutdown` that stands
  ahead of its join.
Trusted boundary: none (fully proved)
Main exports: LiveSession.Sound, LiveSession.Sound.step, live_session_ends
Open obligations: none
-/
import SysdvrWebos.Lib.Ranking
import SysdvrWebos.Proofs.Delivery
import SysdvrWebos.Proofs.LiveRefinement

namespace SysdvrWebos

/-! ### What the threads can rely on -/

/-- The reads of the socket come to an end. -/
def Ends (reads : List PacketRead) : Prop := .closed ∈ reads ∨ .failed ∈ reads

theorem Ends.append {reads : List PacketRead} (ends : Ends reads) (more : List PacketRead) :
    Ends (reads ++ more) := by
  rcases ends with closed | failed
  · exact Or.inl (List.mem_append_left _ closed)
  · exact Or.inr (List.mem_append_left _ failed)

theorem ends_shutdownRead (reads : List PacketRead) (insidePacket : Bool) :
    Ends (reads ++ [shutdownRead insidePacket]) := by
  cases insidePacket with
  | false => exact Or.inl (List.mem_append_right _ (List.mem_singleton_self _))
  | true => exact Or.inr (List.mem_append_right _ (List.mem_singleton_self _))

/-- A read of a socket that comes to an end returns, and the end is still ahead unless it was found. -/
theorem Ends.readData {reads : List PacketRead} (ends : Ends reads) (kind : StreamKind) :
    ∃ result rest, SysdvrWebos.readData kind reads = some (result, rest) ∧
      ∀ packet, result = .data packet → Ends rest := by
  induction reads with
  | nil => rcases ends with closed | failed <;> simp_all
  | cons read reads ih =>
      cases read with
      | closed => exact ⟨.closed, reads, rfl, nofun⟩
      | failed => exact ⟨.failed, reads, rfl, nofun⟩
      | packet header payload =>
          have later : Ends reads := by simpa [Ends] using ends
          unfold SysdvrWebos.readData
          by_cases error : header.metadata &&& sysdvrPacketError ≠ 0
          · rw [if_pos error]
            exact ⟨.failed, reads, rfl, nofun⟩
          · rw [if_neg error]
            by_cases media : (expectedPacket kind header && decide (payload.length > 0)) = true
            · rw [if_pos media]
              exact ⟨_, reads, rfl, fun _ _ => later⟩
            · rw [if_neg media]
              exact ih later

/-- The worker has left its loop, or the socket it reads comes to an end. -/
def StreamWorker.Unblocked (w : StreamWorker) : Prop := w.pc.hasLeft = true ∨ Ends w.reads

/-- The thread can go on by itself or with an answer of the player. -/
theorem StreamWorker.Unblocked.enabled {w : StreamWorker} (unblocked : w.Unblocked)
    (busy : w.pc.idle = false) (running : Bool) :
    (w.advance running).isSome = true ∨ (w.feed .ok).isSome = true := by
  unfold StreamWorker.advance StreamWorker.feed
  cases pc : w.pc <;> simp only [pc, WorkerPc.idle] at busy ⊢
  case entry =>
    left
    split <;> rfl
  case loopTest => exact Or.inl rfl
  case reading =>
    left
    rcases unblocked with left_ | ends
    · rw [pc] at left_
      cases left_
    · rcases ends.readData w.kind with ⟨result, rest, read, _⟩
      rw [read]
      cases result <;> rfl
  case submitTest packet retries => exact Or.inl rfl
  case feeding packet retries => exact Or.inr rfl
  case clearing cause => exact Or.inl rfl
  all_goals cases busy

/-- While the worker is in its loop, only its reads matter. -/
theorem StreamWorker.Unblocked.stays {w next : StreamWorker} (unblocked : w.Unblocked)
    (inLoop : w.pc.hasLeft = false) (same : next.reads = w.reads) : next.Unblocked := by
  rcases unblocked with left_ | ends
  · rw [inLoop] at left_
    cases left_
  · exact Or.inr (same ▸ ends)

theorem WorkerMove.unblocked {w next : StreamWorker} {running after : Bool}
    (move : WorkerMove w running next after) (unblocked : w.Unblocked) : next.Unblocked := by
  cases move with
  | takesFirst packet pc first => exact unblocked.stays (by rw [pc]; rfl) rfl
  | startsLoop pc first => exact unblocked.stays (by rw [pc]; rfl) rfl
  | goesOn pc set => exact unblocked.stays (by rw [pc]; rfl) rfl
  | leaves pc cleared => exact Or.inl rfl
  | reads packet reads pc read =>
      rcases unblocked with left_ | ends
      · rw [pc] at left_
        cases left_
      · rcases ends.readData w.kind with ⟨result, rest, found, later⟩
        rw [read] at found
        cases found
        exact Or.inr (later packet rfl)
  | readsClose reads pc read => exact Or.inl rfl
  | readsFailure reads pc read => exact Or.inl rfl
  | submits packet retries pc set => exact unblocked.stays (by rw [pc]; rfl) rfl
  | submitStops packet retries pc cleared => exact Or.inl rfl
  | clears cause pc => exact Or.inl rfl

theorem FeedMove.unblocked {w next : StreamWorker} {answer : NdlFeedResult}
    {accepted : Option AcceptedPacket} (move : FeedMove w answer next accepted)
    (unblocked : w.Unblocked) : next.Unblocked := by
  cases move with
  | accepts packet retries pc ok => exact unblocked.stays (by rw [pc]; rfl) rfl
  | rejects packet retries pc rejected => exact Or.inl rfl
  | triesAgain packet retries pc unsettled => exact unblocked.stays (by rw [pc]; rfl) rfl

/-! ### The invariant -/

/-- The main thread has stored to `running` for the last time. -/
def MainPc.stopped : MainPc → Bool
  | .joinVideo | .joinAudio | .returned _ => true
  | _ => false

/-- The main thread has created the worker of one kind. -/
def Session.started (s : Session) : StreamKind → Bool
  | .video => s.videoStarted
  | .audio => s.audioStarted

/-- What every state of a live session satisfies: the threads are wired, a created worker is not at its
    beginning any more, `running` stays cleared behind the stop, a worker whose socket is shut down will
    not wait, and the joins begin when both sockets are shut down. -/
structure LiveSession.Sound (s : LiveSession) : Prop where
  wired : ∃ base, s.session.Wired base
  created : ∀ kind, s.session.started kind = true → (s.session.worker kind).pc ≠ .unstarted
  cleared : s.session.main.stopped = true → s.session.running = false
  unblocked : ∀ kind, s.shut kind = true → (s.session.worker kind).Unblocked
  bothShut : s.session.main.stopped = true → s.session.main ≠ .joinVideo → ∀ kind, s.shut kind = true

/-- No move of a worker sets `running`. -/
theorem WorkerMove.running_eq {w next : StreamWorker} {running after : Bool}
    (move : WorkerMove w running next after) : after = running ∨ after = false := by
  cases move with
  | clears cause pc => exact Or.inr rfl
  | _ => exact Or.inl rfl

/-- The main thread only clears `running`, and it has cleared it behind the stop. -/
theorem mainStep_running {s next : Session} {creates : Bool} {action : ShellAction}
    (step : mainStep s creates action = some next) :
    (next.running = s.running ∨ next.running = false) ∧
      (next.main.stopped = true → next.running = false ∨ s.main.stopped = true) := by
  unfold mainStep at step
  cases main : s.main <;> simp only [main] at step
  case createVideo => cases creates <;> cases step <;> simp [MainPc.stopped]
  case audioTest =>
    cases step
    refine ⟨Or.inl rfl, fun stopped => ?_⟩
    dsimp only at stopped
    split at stopped <;> cases stopped
  case createAudio => cases creates <;> cases step <;> simp [MainPc.stopped]
  case audioRefused =>
    cases step
    exact ⟨Or.inr rfl, fun _ => Or.inl rfl⟩
  case uiTest =>
    cases step
    refine ⟨Or.inl rfl, fun stopped => ?_⟩
    dsimp only at stopped
    split at stopped <;> cases stopped
  case signalTest =>
    cases step
    refine ⟨Or.inl rfl, fun stopped => ?_⟩
    dsimp only at stopped
    split at stopped <;> cases stopped
  case uiPoll => cases action <;> cases step <;> simp [MainPc.stopped]
  case stop =>
    cases step
    exact ⟨Or.inr rfl, fun _ => Or.inl rfl⟩
  case joinVideo =>
    split at step
    · cases step
      exact ⟨Or.inl rfl, fun _ => Or.inr rfl⟩
    · cases step
  case joinAudio =>
    split at step
    · cases step
      exact ⟨Or.inl rfl, fun _ => Or.inr rfl⟩
    · cases step
  case returned result => cases step

/-- `running` is only ever cleared, and it is behind the stop. -/
theorem sessionStep_running {s next : Session} {e : SessionEvent}
    (step : sessionStep s e = some next) :
    (next.running = s.running ∨ next.running = false) ∧
      (next.main.stopped = true → next.running = false ∨ s.main.stopped = true) := by
  cases e with
  | worker kind =>
      rcases Option.map_eq_some_iff.mp step with ⟨⟨w, running⟩, moved, rfl⟩
      refine ⟨(WorkerMove.of_advance moved).running_eq, fun stopped => Or.inr ?_⟩
      cases kind with
      | video => exact stopped
      | audio => exact stopped
  | feed kind answer =>
      rcases Option.map_eq_some_iff.mp step with ⟨⟨w, accepted⟩, moved, rfl⟩
      cases kind with
      | video => exact ⟨Or.inl rfl, Or.inr⟩
      | audio => exact ⟨Or.inl rfl, Or.inr⟩
  | main creates action => exact mainStep_running step
  | signal =>
      cases step
      exact ⟨Or.inl rfl, Or.inr⟩

@[simp] theorem Session.started_setWorker (s : Session) (kind other : StreamKind) (w : StreamWorker) :
    (s.setWorker kind w).started other = s.started other := by
  cases kind with
  | video => rfl
  | audio => rfl

/-- A worker that moves keeps the two things its thread is known by. -/
theorem created_and_unblocked_of_move {s : Session} {kind other : StreamKind} {w : StreamWorker}
    (created : s.started other = true → (s.worker other).pc ≠ .unstarted)
    (same : SameWorker (s.worker kind) w)
    (unblocked : (s.worker kind).Unblocked → w.Unblocked) :
    (s.started other = true → ((s.setWorker kind w).worker other).pc ≠ .unstarted) ∧
      ((s.worker other).Unblocked → ((s.setWorker kind w).worker other).Unblocked) := by
  by_cases here : other = kind
  · subst here
    rw [Session.worker_setWorker]
    exact ⟨fun _ => same.started, unblocked⟩
  · rw [Session.worker_setWorker_ne here]
    exact ⟨created, id⟩

/-- A step of the session keeps, for each worker, that it is under way once created and that it does not
    wait once its socket comes to an end. -/
theorem sessionStep_worker {base : UInt64} {s next : Session} {e : SessionEvent} (wired : s.Wired base)
    (created : ∀ kind, s.started kind = true → (s.worker kind).pc ≠ .unstarted)
    (step : sessionStep s e = some next) (kind : StreamKind) :
    (next.started kind = true → (next.worker kind).pc ≠ .unstarted) ∧
      ((s.worker kind).Unblocked → (next.worker kind).Unblocked) := by
  cases SessionMove.of_step step with
  | worker other w running move =>
      have kept := created_and_unblocked_of_move (created kind) move.same move.unblocked
      rw [Session.worker_running]
      cases other with
      | video => exact kept
      | audio => exact kept
  | feed other answer w accepted move =>
      have kept := created_and_unblocked_of_move (created kind) move.same move.unblocked
      rw [Session.worker_accepted]
      cases other with
      | video => exact kept
      | audio => exact kept
  | createsVideo action main =>
      have unstarted := wired.videoUnstarted (wired.videoFresh main)
      cases kind with
      | video => exact ⟨nofun, fun unblocked => unblocked.stays (w := s.video) (by rw [unstarted]; rfl) rfl⟩
      | audio => exact ⟨created .audio, id⟩
  | createsAudio action main =>
      have unstarted := wired.audioUnstarted (wired.audioFresh (Or.inr (Or.inr main)))
      cases kind with
      | video => exact ⟨created .video, id⟩
      | audio => exact ⟨nofun, fun unblocked => unblocked.stays (w := s.audio) (by rw [unstarted]; rfl) rfl⟩
  | main creates action running signalStop userBack pc flows =>
      cases kind with
      | video => exact ⟨created .video, id⟩
      | audio => exact ⟨created .audio, id⟩
  | joinsVideo creates action main back =>
      cases kind with
      | video => exact ⟨created .video, id⟩
      | audio => exact ⟨created .audio, id⟩
  | joinsAudio creates action main back =>
      cases kind with
      | video => exact ⟨created .video, id⟩
      | audio => exact ⟨created .audio, id⟩
  | signal =>
      cases kind with
      | video => exact ⟨created .video, id⟩
      | audio => exact ⟨created .audio, id⟩

/-- The main thread goes past the join of the video worker only from there. -/
theorem sessionStep_joins {s next : Session} {e : SessionEvent} (step : sessionStep s e = some next)
    (past : next.main.stopped = true) (joined : next.main ≠ .joinVideo) :
    (s.main.stopped = true ∧ s.main ≠ .joinVideo) ∨ (s.main = .joinVideo ∧ e.isMain = true) := by
  cases SessionMove.of_step step with
  | worker kind w running move =>
      cases kind with
      | video => exact Or.inl ⟨past, joined⟩
      | audio => exact Or.inl ⟨past, joined⟩
  | feed kind answer w accepted move =>
      cases kind with
      | video => exact Or.inl ⟨past, joined⟩
      | audio => exact Or.inl ⟨past, joined⟩
  | createsVideo action main => cases past
  | createsAudio action main => cases past
  | main creates action running signalStop userBack pc flows =>
      dsimp only at past joined
      cases main : s.main <;> cases pc <;> simp_all [MainPc.flowsTo, MainPc.stopped]
  | joinsVideo creates action main back => exact Or.inr ⟨main, rfl⟩
  | joinsAudio creates action main back =>
      rw [main]
      exact Or.inl ⟨rfl, fun other => by cases other⟩
  | signal => exact Or.inl ⟨past, joined⟩

/-- What the sockets bring concerns the threads only through the reads. -/
theorem LiveSession.Sound.receiveAll {s next : LiveSession} (sound : s.Sound)
    {more : StreamKind → List PacketRead} (same : next.session = s.session.receiveAll more)
    (kept : ∀ kind, s.shut kind = true → next.shut kind = true)
    (unblocked : ∀ kind, next.shut kind = true → s.shut kind = true ∨
      Ends ((s.session.worker kind).reads ++ more kind)) : next.Sound := by
  refine ⟨?_, ?_, ?_, fun kind shut => ?_, ?_⟩
  · rcases sound.wired with ⟨base, wired⟩
    rw [same]
    refine ⟨base, fun kind => ?_, fun kind => ?_, wired.videoUnstarted, wired.audioUnstarted,
      wired.videoFresh, wired.audioFresh, wired.videoJoined, wired.audioJoined⟩
    · rw [Session.worker_receiveAll]
      exact wired.kind kind
    · rw [Session.worker_receiveAll]
      exact wired.base kind
  · intro kind started
    rw [same] at started ⊢
    rw [Session.worker_receiveAll]
    cases kind with
    | video => exact sound.created .video started
    | audio => exact sound.created .audio started
  · rw [same]
    exact sound.cleared
  · rw [same, Session.worker_receiveAll]
    rcases unblocked kind shut with already | ends
    · rcases sound.unblocked kind already with left_ | ends
      · exact Or.inl left_
      · exact Or.inr (ends.append _)
    · exact Or.inr ends
  · rw [same]
    exact fun stopped joined kind => kept kind (sound.bothShut stopped joined kind)

/-- Both sockets are shut down once the main thread goes on from its join of the video worker. -/
theorem shut_of_joining {s : LiveSession} (main : s.session.main = .joinVideo)
    (free : s.nextShutdown.isSome = false) (kind : StreamKind) : s.shut kind = true := by
  unfold LiveSession.nextShutdown at free
  rw [if_pos main] at free
  cases video : s.videoShut <;> cases audio : s.audioShut <;> simp [video, audio] at free
  cases kind with
  | video => exact video
  | audio => exact audio

/-- The invariant is kept by every step. -/
theorem LiveSession.Sound.step {s next : LiveSession} {e : LiveEvent} (sound : s.Sound)
    (step : liveStep s e = some next) : next.Sound := by
  cases e with
  | thread event =>
      simp only [liveStep] at step
      split at step
      · cases step
      · next free =>
          rcases Option.map_eq_some_iff.mp step with ⟨session, taken, rfl⟩
          rcases sound.wired with ⟨base, wired⟩
          rcases sessionStep_running taken with ⟨running, stops⟩
          have workers := sessionStep_worker wired sound.created taken
          refine ⟨⟨base, wired.step taken⟩, fun kind => (workers kind).1, fun stopped => ?_,
            fun kind shut => (workers kind).2 (sound.unblocked kind shut), fun stopped joined kind => ?_⟩
          · rcases stops stopped with cleared | before
            · exact cleared
            · rcases running with same | cleared
              · exact same.trans (sound.cleared before)
              · exact cleared
          · rcases sessionStep_joins taken stopped joined with ⟨before, past⟩ | ⟨main, own⟩
            · exact sound.bothShut before past kind
            · rw [own, Bool.true_and, Bool.not_eq_true] at free
              exact shut_of_joining main free kind
  | shutdown kind insidePacket =>
      have brings := liveStep_brings step fun _ same => by cases same
      simp only [liveStep] at step
      split at step
      · cases step
        refine sound.receiveAll brings (fun other shut => ?_) (fun other shut => ?_)
        · cases kind <;> cases other <;> first | rfl | exact shut
        · by_cases here : kind = other
          · right
            simp only [LiveEvent.brings, if_pos here]
            exact ends_shutdownRead _ insidePacket
          · left
            cases kind <;> cases other <;> first | exact shut | exact absurd rfl here
      · cases step
  | arrives kind read =>
      have brings := liveStep_brings step fun _ same => by cases same
      simp only [liveStep] at step
      split at step
      · cases step
      · cases step
        exact sound.receiveAll brings (fun _ shut => shut) (fun _ shut => Or.inl shut)

theorem liveStart_sound {base : UInt64} {video audio : MediaPacket}
    {videoReads audioReads : List PacketRead} :
    (liveStart (primedSession base video audio videoReads audioReads)).Sound where
  wired := ⟨base, wired_primedSession base video audio videoReads audioReads⟩
  created := fun kind started => by cases kind <;> cases started
  cleared := nofun
  unblocked := fun kind shut => by cases kind <;> cases shut
  bothShut := nofun

/-! ### Steps that are left -/

/-- The steps a worker has left once `running` is cleared. -/
def WorkerPc.stepsLeft : WorkerPc → Nat
  | .unstarted => 0
  | .entry => 3
  | .loopTest => 2
  | .reading => 3
  | .submitTest _ _ => 2
  | .feeding _ _ => 3
  | .clearing _ => 1
  | .finished _ => 0

/-- The steps the main thread has left once `running` is cleared, with those of the workers it may still
    create. -/
def MainPc.stepsLeft : MainPc → Nat
  | .createVideo => 13
  | .audioTest => 9
  | .createAudio => 8
  | .audioRefused => 7
  | .signalTest => 6
  | .uiPoll => 5
  | .uiTest => 4
  | .stop => 3
  | .joinVideo => 2
  | .joinAudio => 1
  | .returned _ => 0

/-- The steps the main thread has left once the stop signal has come. -/
def MainPc.stepsToReturn : MainPc → Nat
  | .createVideo => 9
  | .audioTest => 8
  | .createAudio => 7
  | .audioRefused => 6
  | .uiPoll => 6
  | .uiTest => 5
  | .signalTest => 4
  | .stop => 3
  | .joinVideo => 2
  | .joinAudio => 1
  | .returned _ => 0

namespace LiveSession

/-- The calls of `shutdown` that are still to be made. -/
def openSockets (s : LiveSession) : Nat := (!s.videoShut).toNat + (!s.audioShut).toNat

/-- The steps the threads have left. -/
def stepsLeft (s : LiveSession) : Nat :=
  s.session.main.stepsLeft + s.openSockets + s.session.video.pc.stepsLeft
    + s.session.audio.pc.stepsLeft

/-- The steps the main thread has left. -/
def stepsToReturn (s : LiveSession) : Nat := s.session.main.stepsToReturn + s.openSockets

end LiveSession

/-- The event is a step of one of the threads of the app. -/
def LiveEvent.isOwn : LiveEvent → Bool
  | .thread .signal => false
  | .thread _ => true
  | .shutdown _ _ => true
  | .arrives _ _ => false

/-- The event is a step of the main thread. -/
def LiveEvent.isMain : LiveEvent → Bool
  | .thread event => event.isMain
  | .shutdown _ _ => true
  | .arrives _ _ => false

theorem WorkerMove.lowers {w next : StreamWorker} {after : Bool}
    (move : WorkerMove w false next after) : next.pc.stepsLeft < w.pc.stepsLeft := by
  cases move with
  | takesFirst packet pc first => simp [pc, WorkerPc.stepsLeft]
  | startsLoop pc first => simp [pc, WorkerPc.stepsLeft]
  | goesOn pc set => cases set
  | leaves pc cleared => simp [pc, WorkerPc.stepsLeft]
  | reads packet reads pc read => simp [pc, WorkerPc.stepsLeft]
  | readsClose reads pc read => simp [pc, WorkerPc.stepsLeft]
  | readsFailure reads pc read => simp [pc, WorkerPc.stepsLeft]
  | submits packet retries pc set => cases set
  | submitStops packet retries pc cleared => simp [pc, StreamWorker.giveUp, WorkerPc.stepsLeft]
  | clears cause pc => simp [pc, WorkerPc.stepsLeft]

theorem FeedMove.lowers {w next : StreamWorker} {answer : NdlFeedResult}
    {accepted : Option AcceptedPacket} (move : FeedMove w answer next accepted) :
    next.pc.stepsLeft < w.pc.stepsLeft := by
  cases move with
  | accepts packet retries pc ok => simp [pc, WorkerPc.stepsLeft]
  | rejects packet retries pc rejected => simp [pc, StreamWorker.giveUp, WorkerPc.stepsLeft]
  | triesAgain packet retries pc unsettled => simp [pc, WorkerPc.stepsLeft]

theorem WorkerPc.stepsLeft_le (pc : WorkerPc) : pc.stepsLeft ≤ 3 := by
  cases pc <;> simp [WorkerPc.stepsLeft]

/-- A step of the main thread once `running` is cleared. -/
theorem mainStep_lowers {s next : Session} {creates : Bool} {action : ShellAction}
    (cleared : s.running = false) (step : mainStep s creates action = some next) :
    next.main.stepsLeft + next.video.pc.stepsLeft + next.audio.pc.stepsLeft
      < s.main.stepsLeft + s.video.pc.stepsLeft + s.audio.pc.stepsLeft := by
  unfold mainStep at step
  cases main : s.main <;> simp only [main, cleared] at step
  case createVideo =>
    cases creates <;> cases step <;> simp only [MainPc.stepsLeft, WorkerPc.stepsLeft] <;> omega
  case createAudio =>
    cases creates <;> cases step <;> simp only [MainPc.stepsLeft, WorkerPc.stepsLeft] <;> omega
  case signalTest =>
    cases step
    split <;> simp [MainPc.stepsLeft]
  case uiPoll => cases action <;> cases step <;> simp [MainPc.stepsLeft]
  case joinVideo => split at step <;> cases step; simp [MainPc.stepsLeft]
  case joinAudio => split at step <;> cases step; simp [MainPc.stepsLeft]
  case returned result => cases step
  all_goals
    cases step
    simp [MainPc.stepsLeft]

/-- A step of the main thread once the stop signal has come. -/
theorem mainStep_returns {s next : Session} {creates : Bool} {action : ShellAction}
    (signalled : s.signalStop = true) (step : mainStep s creates action = some next) :
    next.main.stepsToReturn < s.main.stepsToReturn ∧ next.signalStop = true := by
  unfold mainStep at step
  cases main : s.main <;> simp only [main, signalled] at step
  case createVideo => cases creates <;> cases step <;> simp [MainPc.stepsToReturn]
  case audioTest =>
    cases step
    refine ⟨?_, rfl⟩
    dsimp only
    split <;> simp [MainPc.stepsToReturn]
  case createAudio => cases creates <;> cases step <;> simp [MainPc.stepsToReturn]
  case uiTest =>
    cases step
    refine ⟨?_, rfl⟩
    dsimp only
    split <;> simp [MainPc.stepsToReturn]
  case uiPoll => cases action <;> cases step <;> simp [MainPc.stepsToReturn]
  case joinVideo => split at step <;> cases step; simp [MainPc.stepsToReturn]
  case joinAudio => split at step <;> cases step; simp [MainPc.stepsToReturn]
  case returned result => cases step
  all_goals
    cases step
    simp [MainPc.stepsToReturn]

/-- A step of the session once `running` is cleared. -/
theorem sessionStep_lowers {s next : Session} {e : SessionEvent} (cleared : s.running = false)
    (step : sessionStep s e = some next) :
    next.running = false ∧
      (e = .signal → next.main = s.main ∧ next.video = s.video ∧ next.audio = s.audio) ∧
      (e ≠ .signal → next.main.stepsLeft + next.video.pc.stepsLeft + next.audio.pc.stepsLeft
        < s.main.stepsLeft + s.video.pc.stepsLeft + s.audio.pc.stepsLeft) := by
  have off : next.running = false := by
    rcases (sessionStep_running step).1 with same | off
    · exact same.trans cleared
    · exact off
  cases e with
  | worker kind =>
      rcases Option.map_eq_some_iff.mp step with ⟨⟨w, running⟩, moved, rfl⟩
      rw [cleared] at moved
      have lower := (WorkerMove.of_advance moved).lowers
      refine ⟨off, (fun other => by cases other), fun _ => ?_⟩
      cases kind with
      | video =>
          simp only [Session.worker, Session.setWorker] at lower ⊢
          omega
      | audio =>
          simp only [Session.worker, Session.setWorker] at lower ⊢
          omega
  | feed kind answer =>
      rcases Option.map_eq_some_iff.mp step with ⟨⟨w, accepted⟩, moved, rfl⟩
      have lower := (FeedMove.of_feed moved).lowers
      refine ⟨off, (fun other => by cases other), fun _ => ?_⟩
      cases kind with
      | video =>
          simp only [Session.worker, Session.setWorker] at lower ⊢
          omega
      | audio =>
          simp only [Session.worker, Session.setWorker] at lower ⊢
          omega
  | main creates action => exact ⟨off, (fun other => by cases other), fun _ => mainStep_lowers cleared step⟩
  | signal =>
      cases step
      exact ⟨off, fun _ => ⟨rfl, rfl, rfl⟩, fun other => absurd rfl other⟩

/-- The main thread does not come back to an earlier place by a step of another thread. -/
theorem sessionStep_returns {s next : Session} {e : SessionEvent} (signalled : s.signalStop = true)
    (step : sessionStep s e = some next) :
    next.signalStop = true ∧ (e.isMain = true → next.main.stepsToReturn < s.main.stepsToReturn) ∧
      (e.isMain = false → next.main = s.main) := by
  cases e with
  | worker kind =>
      rcases Option.map_eq_some_iff.mp step with ⟨⟨w, running⟩, moved, rfl⟩
      cases kind with
      | video => exact ⟨signalled, nofun, fun _ => rfl⟩
      | audio => exact ⟨signalled, nofun, fun _ => rfl⟩
  | feed kind answer =>
      rcases Option.map_eq_some_iff.mp step with ⟨⟨w, accepted⟩, moved, rfl⟩
      cases kind with
      | video => exact ⟨signalled, nofun, fun _ => rfl⟩
      | audio => exact ⟨signalled, nofun, fun _ => rfl⟩
  | main creates action =>
      rcases mainStep_returns signalled step with ⟨lower, still⟩
      exact ⟨still, fun _ => lower, nofun⟩
  | signal =>
      cases step
      exact ⟨rfl, nofun, fun _ => rfl⟩

/-- What a call of `shutdown` does to the counts. -/
theorem shutDown_openSockets {s : LiveSession} {kind : StreamKind} (due : s.nextShutdown = some kind)
    (insidePacket : Bool) : (s.shutDown kind insidePacket).openSockets + 1 = s.openSockets := by
  unfold LiveSession.nextShutdown at due
  split at due
  · cases video : s.videoShut <;> cases audio : s.audioShut <;> simp [video, audio] at due
    all_goals
      subst due
      simp [LiveSession.shutDown, LiveSession.openSockets, video, audio]
  · cases due

/-! ### The end of the session -/

/-- Once `running` is cleared, every step of the threads brings the end nearer. -/
theorem ranked_stepsLeft : Runs.Ranked liveStep
    (fun s => s.Sound ∧ s.session.running = false) LiveEvent.isOwn LiveSession.stepsLeft := by
  have outcome : ∀ s e next, s.session.running = false → liveStep s e = some next →
      next.session.running = false ∧
        (e.isOwn = true → next.stepsLeft < s.stepsLeft) ∧
        (e.isOwn = false → next.stepsLeft ≤ s.stepsLeft) := by
    intro s e next cleared step
    cases e with
    | thread event =>
        simp only [liveStep] at step
        split at step
        · cases step
        · rcases Option.map_eq_some_iff.mp step with ⟨session, taken, rfl⟩
          rcases sessionStep_lowers cleared taken with ⟨off, arrives, lowers⟩
          refine ⟨off, fun own => ?_, fun other => ?_⟩
          · have step_ : event ≠ .signal := by
              rintro rfl
              cases own
            have lower := lowers step_
            simp only [LiveSession.stepsLeft, LiveSession.openSockets]
            omega
          · have signal : event = .signal := by cases event <;> first | rfl | cases other
            rcases arrives signal with ⟨main, video, audio⟩
            simp [LiveSession.stepsLeft, LiveSession.openSockets, main, video, audio]
    | shutdown kind insidePacket =>
        have brings := liveStep_brings step fun _ same => by cases same
        simp only [liveStep] at step
        split at step
        · next due =>
            cases step
            have fewer := shutDown_openSockets due insidePacket
            refine ⟨?_, fun _ => ?_, fun other => by cases other⟩
            · rw [brings]
              exact cleared
            · simp only [LiveSession.stepsLeft, brings, Session.receiveAll, StreamWorker.receive]
              omega
        · cases step
    | arrives kind read =>
        have brings := liveStep_brings step fun _ same => by cases same
        simp only [liveStep] at step
        split at step
        · cases step
        · cases step
          refine ⟨?_, (fun other => by cases other), fun _ => ?_⟩
          · rw [brings]
            exact cleared
          · cases kind <;> exact Nat.le_refl _
  exact {
    preserves := fun s e next holds step => ⟨holds.1.step step, (outcome s e next holds.2 step).1⟩
    lowers := fun s e next holds own step => (outcome s e next holds.2 step).2.1 own
    keeps := fun s e next holds other step => (outcome s e next holds.2 step).2.2 other }

/-- Once the stop signal has come, every step of the main thread brings its return nearer. -/
theorem ranked_stepsToReturn : Runs.Ranked liveStep (fun s => s.session.signalStop = true)
    LiveEvent.isMain LiveSession.stepsToReturn := by
  have outcome : ∀ s e next, s.session.signalStop = true → liveStep s e = some next →
      next.session.signalStop = true ∧
        (e.isMain = true → next.stepsToReturn < s.stepsToReturn) ∧
        (e.isMain = false → next.stepsToReturn ≤ s.stepsToReturn) := by
    intro s e next signalled step
    cases e with
    | thread event =>
        simp only [liveStep] at step
        split at step
        · cases step
        · rcases Option.map_eq_some_iff.mp step with ⟨session, taken, rfl⟩
          rcases sessionStep_returns signalled taken with ⟨still, lowers, same⟩
          refine ⟨still, fun own => ?_, fun other => ?_⟩
          · have lower := lowers own
            simp only [LiveSession.stepsToReturn, LiveSession.openSockets]
            omega
          · simp [LiveSession.stepsToReturn, LiveSession.openSockets, same other]
    | shutdown kind insidePacket =>
        have brings := liveStep_brings step fun _ same => by cases same
        simp only [liveStep] at step
        split at step
        · next due =>
            cases step
            have fewer := shutDown_openSockets due insidePacket
            refine ⟨?_, fun _ => ?_, fun other => by cases other⟩
            · rw [brings]
              exact signalled
            · simp only [LiveSession.stepsToReturn, brings, Session.receiveAll]
              omega
        · cases step
    | arrives kind read =>
        have brings := liveStep_brings step fun _ same => by cases same
        simp only [liveStep] at step
        split at step
        · cases step
        · cases step
          refine ⟨?_, (fun other => by cases other), fun _ => ?_⟩
          · rw [brings]
            exact signalled
          · cases kind <;> exact Nat.le_refl _
  exact {
    preserves := fun s e next holds step => (outcome s e next holds step).1
    lowers := fun s e next holds own step => (outcome s e next holds step).2.1 own
    keeps := fun s e next holds other step => (outcome s e next holds step).2.2 other }

/-- The main thread has returned. -/
def MainPc.isReturned : MainPc → Bool
  | .returned _ => true
  | _ => false

/-- The main thread is enabled unless it waits in a join. -/
theorem mainStep_enabled {s : Session} (short : s.main.isReturned = false)
    (video : s.main = .joinVideo → s.videoStarted = false ∨ s.video.pc.isFinished = true)
    (audio : s.main = .joinAudio → s.audioStarted = false ∨ s.audio.pc.isFinished = true) :
    (mainStep s true .none).isSome = true := by
  unfold mainStep
  cases main : s.main <;> simp only [main] at short ⊢
  case joinVideo =>
    rw [if_pos (by rcases video main with off | finished <;> simp [*])]
    rfl
  case joinAudio =>
    rw [if_pos (by rcases audio main with off | finished <;> simp [*])]
    rfl
  case returned result => cases short
  all_goals rfl

theorem finished_of_idle {pc : WorkerPc} (idle : pc.idle = true) (created : pc ≠ .unstarted) :
    pc.isFinished = true := by
  cases pc <;> first | rfl | exact absurd rfl created | cases idle

/-- A worker that is waited for can go on. -/
theorem LiveSession.Sound.worker_enabled {s : LiveSession} {kind : StreamKind}
    (shut : s.shut kind = true) (sound : s.Sound)
    (busy : (s.session.worker kind).pc.idle = false) :
    ∃ e, e.isOwn = true ∧ e.isMain = false ∧ (liveStep s e).isSome = true := by
  rcases (sound.unblocked kind shut).enabled busy s.session.running with moves | answered
  · refine ⟨.thread (.worker kind), rfl, rfl, ?_⟩
    simpa [liveStep, SessionEvent.isMain, sessionStep] using moves
  · refine ⟨.thread (.feed kind .ok), rfl, rfl, ?_⟩
    simpa [liveStep, SessionEvent.isMain, sessionStep] using answered

/-- Until the main thread has returned a thread can go on: the main thread itself, or behind the stop a
    worker it waits for. -/
theorem LiveSession.Sound.enabled {s : LiveSession} (sound : s.Sound)
    (short : s.session.main.isReturned = false) :
    ∃ e, e.isOwn = true ∧ (e.isMain = true ∨ s.session.running = false) ∧
      (liveStep s e).isSome = true := by
  cases due : s.nextShutdown with
  | some kind => exact ⟨.shutdown kind false, rfl, Or.inl rfl, by simp [liveStep, due]⟩
  | none =>
      have main_enabled : (mainStep s.session true .none).isSome = true →
          ∃ e, e.isOwn = true ∧ (e.isMain = true ∨ s.session.running = false) ∧
            (liveStep s e).isSome = true := fun enabled =>
        ⟨.thread (.main true .none), rfl, Or.inl rfl, by simpa [liveStep, due, sessionStep] using enabled⟩
      have waits : ∀ kind, s.shut kind = true → s.session.main.stopped = true →
          (s.session.started kind = false ∨ (s.session.worker kind).pc.isFinished = true) ∨
            ∃ e, e.isOwn = true ∧ (e.isMain = true ∨ s.session.running = false) ∧
              (liveStep s e).isSome = true := by
        intro kind shut stopped
        cases started : s.session.started kind with
        | false => exact Or.inl (Or.inl rfl)
        | true =>
            cases idle : (s.session.worker kind).pc.idle with
            | true => exact Or.inl (Or.inr (finished_of_idle idle (sound.created kind started)))
            | false =>
                rcases sound.worker_enabled shut idle with ⟨e, own, _, enabled⟩
                exact Or.inr ⟨e, own, Or.inr (sound.cleared stopped), enabled⟩
      by_cases joinsVideo : s.session.main = .joinVideo
      · have shut := shut_of_joining joinsVideo (by rw [due]; rfl) .video
        rcases waits .video shut (by rw [joinsVideo]; rfl) with back | enabled
        · exact main_enabled (mainStep_enabled short (fun _ => back)
            (fun other => by rw [joinsVideo] at other; cases other))
        · exact enabled
      · by_cases joinsAudio : s.session.main = .joinAudio
        · have shut := sound.bothShut (by rw [joinsAudio]; rfl) joinsVideo .audio
          rcases waits .audio shut (by rw [joinsAudio]; rfl) with back | enabled
          · exact main_enabled (mainStep_enabled short (fun other => absurd other joinsVideo)
              (fun _ => back))
          · exact enabled
        · exact main_enabled (mainStep_enabled short (fun other => absurd other joinsVideo)
            (fun other => absurd other joinsAudio))

theorem LiveSession.stepsLeft_le (s : LiveSession) : s.stepsLeft ≤ 21 := by
  have main : s.session.main.stepsLeft ≤ 13 := by
    cases s.session.main <;> simp [MainPc.stepsLeft]
  have sockets : s.openSockets ≤ 2 := by
    cases video : s.videoShut <;> cases audio : s.audioShut <;>
      simp [LiveSession.openSockets, video, audio]
  have video := s.session.video.pc.stepsLeft_le
  have audio := s.session.audio.pc.stepsLeft_le
  unfold LiveSession.stepsLeft
  omega

theorem LiveSession.stepsToReturn_le (s : LiveSession) : s.stepsToReturn ≤ 11 := by
  have main : s.session.main.stepsToReturn ≤ 9 := by
    cases s.session.main <;> simp [MainPc.stepsToReturn]
  have sockets : s.openSockets ≤ 2 := by
    cases video : s.videoShut <;> cases audio : s.audioShut <;>
      simp [LiveSession.openSockets, video, audio]
  unfold LiveSession.stepsToReturn
  omega

/-- In every state of a live session short of its return some thread can go on, the main thread itself
    unless `running` is cleared. Once the stop signal has come, the main thread takes at most eleven steps
    more; once `running` is cleared, all threads together take at most 21, and these alone lead to the
    return, whatever the sockets bring. -/
theorem live_session_ends {allocated : StreamKind → Bool} {reads : StreamKind → List PacketRead}
    {session : Session} {before : List LiveEvent} {s : LiveSession}
    (primed : primeSession allocated reads = .ok (some session))
    (reached : Runs.exec liveStep (liveStart session) before = some s) :
    (s.session.main.isReturned = false →
      ∃ e, e.isOwn = true ∧ (e.isMain = true ∨ s.session.running = false) ∧
        (liveStep s e).isSome = true) ∧
    (s.session.signalStop = true → ∀ events last, Runs.exec liveStep s events = some last →
      events.countP LiveEvent.isMain ≤ 11) ∧
    (s.session.running = false →
      (∀ events last, Runs.exec liveStep s events = some last →
        events.countP LiveEvent.isOwn ≤ 21) ∧
      ∃ events last, (∀ e ∈ events, e.isOwn = true) ∧ Runs.exec liveStep s events = some last ∧
        last.session.main.isReturned = true) := by
  have start : (liveStart session).Sound := by
    rcases primeSession_some primed with ⟨video, audio, videoRest, audioRest, _, _, rfl⟩
    exact liveStart_sound
  have sound : s.Sound := Runs.exec_invariant (fun _ _ _ holds step => holds.step step) start reached
  refine ⟨sound.enabled, fun signalled events last run => ?_, fun cleared => ⟨fun events last run => ?_, ?_⟩⟩
  · have bound := ranked_stepsToReturn.bounds signalled run
    have most := s.stepsToReturn_le
    omega
  · have bound := ranked_stepsLeft.bounds ⟨sound, cleared⟩ run
    have most := s.stepsLeft_le
    omega
  · rcases ranked_stepsLeft.reaches (fun s => s.session.main.isReturned = true)
      (fun s holds short => by
        rcases holds.1.enabled (Bool.eq_false_iff.mpr short) with ⟨e, own, _, enabled⟩
        exact ⟨e, own, enabled⟩) s ⟨sound, cleared⟩ with ⟨events, last, own, _, run, returned⟩
    exact ⟨events, last, own, run, returned⟩

/-- The workers are created and LEFT is pressed while the audio worker waits for its socket. -/
def leftWhileReading : List LiveEvent :=
  [.thread (.main true .none), .thread (.main true .none), .thread (.main true .none),
    .thread (.worker .audio), .thread (.worker .audio), .thread (.feed .audio .ok),
    .thread (.worker .audio), .thread (.main true .none), .thread (.main true .none),
    .thread (.main true .back), .thread (.main true .none)]

/-- From there the session returns. -/
theorem left_while_reading_returns :
    ∃ s, Runs.exec liveStep (liveStart mixedSession) leftWhileReading = some s ∧
      s.session.audio.pc = .reading ∧ readData .audio s.session.audio.reads = none ∧
      ∃ events last, (∀ e ∈ events, e.isOwn = true) ∧ Runs.exec liveStep s events = some last ∧
        last.session.main.isReturned = true := by
  have primed : primeSession (fun _ => true) mixedReads = .ok (some mixedSession) := rfl
  have ends : (Runs.exec liveStep (liveStart mixedSession) leftWhileReading).map (fun s =>
      (s.session.running, s.session.audio.pc, s.session.audio.reads)) = some (false, .reading, []) := by
    decide
  rcases Option.map_eq_some_iff.mp ends with ⟨s, reached, at_⟩
  simp only [Prod.mk.injEq] at at_
  rcases at_ with ⟨cleared, waits, nothing⟩
  exact ⟨s, reached, waits, by rw [nothing]; rfl, ((live_session_ends primed reached).2.2 cleared).2⟩

end SysdvrWebos
