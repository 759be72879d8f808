/-
Module: SysdvrWebos.Proofs.SessionSteps
Layer: Proofs
Purpose: What one step of a SysDVR session can do, and how its threads are wired: a worker moves only
  between its creation and its return, the main thread joins each worker it has started, and the result it
  returns is the one of the joined session.
Trusted boundary: none (fully proved)
Main exports: WorkerMove, FeedMove, SessionMove, Session.Wired, Session.Wired.step, primeSession_some
Open obligations: none
-/
import SysdvrWebos.Core.StreamSession
import SysdvrWebos.Lib.Runs

namespace SysdvrWebos

namespace Session

@[simp] theorem worker_setWorker (s : Session) (kind : StreamKind) (w : StreamWorker) :
    (s.setWorker kind w).worker kind = w := by
  cases kind with
  | video => rfl
  | audio => rfl

@[simp] theorem worker_running (s : Session) (running : Bool) (kind : StreamKind) :
    Session.worker { s with running := running } kind = s.worker kind := by
  cases kind with
  | video => rfl
  | audio => rfl

@[simp] theorem worker_accepted (s : Session) (accepted : List AcceptedPacket) (kind : StreamKind) :
    Session.worker { s with accepted := accepted } kind = s.worker kind := by
  cases kind with
  | video => rfl
  | audio => rfl

theorem worker_setWorker_ne {kind other : StreamKind} (different : other ≠ kind) (s : Session)
    (w : StreamWorker) : (s.setWorker kind w).worker other = s.worker other := by
  cases kind with
  | video =>
      cases other with
      | video => exact absurd rfl different
      | audio => rfl
  | audio =>
      cases other with
      | video => rfl
      | audio => exact absurd rfl different

end Session

/-! ### Workers -/

/-- What a worker can do outside `feed_packet`. -/
inductive WorkerMove (w : StreamWorker) (running : Bool) : StreamWorker → Bool → Prop where
  | takesFirst (packet : MediaPacket) (pc : w.pc = .entry) (first : w.first = some packet) :
      WorkerMove w running { w with first := none, pc := .submitTest packet 0 } running
  | startsLoop (pc : w.pc = .entry) (first : w.first = none) :
      WorkerMove w running { w with pc := .loopTest } running
  | goesOn (pc : w.pc = .loopTest) (set : running = true) :
      WorkerMove w running { w with pc := .reading } running
  | leaves (pc : w.pc = .loopTest) (cleared : running = false) :
      WorkerMove w running { w with pc := .clearing .flagCleared } running
  | reads (packet : MediaPacket) (reads : List PacketRead) (pc : w.pc = .reading)
      (read : readData w.kind w.reads = some (.data packet, reads)) :
      WorkerMove w running { w with pc := .submitTest packet 0, reads := reads } running
  | readsClose (reads : List PacketRead) (pc : w.pc = .reading)
      (read : readData w.kind w.reads = some (.closed, reads)) :
      WorkerMove w running { w with pc := .clearing .remoteClosed, reads := reads } running
  | readsFailure (reads : List PacketRead) (pc : w.pc = .reading)
      (read : readData w.kind w.reads = some (.failed, reads)) :
      WorkerMove w running
        { w with transportError := true, pc := .clearing .readFailed, reads := reads } running
  | submits (packet : MediaPacket) (retries : Nat) (pc : w.pc = .submitTest packet retries)
      (set : running = true) :
      WorkerMove w running { w with pc := .feeding packet retries } running
  | submitStops (packet : MediaPacket) (retries : Nat) (pc : w.pc = .submitTest packet retries)
      (cleared : running = false) :
      WorkerMove w running (w.giveUp .submitStopped) running
  | clears (cause : StopCause) (pc : w.pc = .clearing cause) :
      WorkerMove w running { w with pc := .finished cause } false

theorem WorkerMove.of_advance {w next : StreamWorker} {running after : Bool}
    (moved : w.advance running = some (next, after)) : WorkerMove w running next after := by
  unfold StreamWorker.advance at moved
  cases pc : w.pc <;> simp only [pc] at moved
  case entry =>
    split at moved
    · next packet first => cases moved; exact .takesFirst packet pc first
    · next first => cases moved; exact .startsLoop pc first
  case loopTest =>
    cases moved
    cases set : running with
    | true => exact .goesOn pc rfl
    | false => exact .leaves pc rfl
  case reading =>
    split at moved
    · cases moved
    · next packet reads read => cases moved; exact .reads packet reads pc read
    · next reads read => cases moved; exact .readsClose reads pc read
    · next reads read => cases moved; exact .readsFailure reads pc read
  case submitTest packet retries =>
    cases moved
    cases set : running with
    | true => exact .submits packet retries pc rfl
    | false => exact .submitStops packet retries pc rfl
  case clearing cause =>
    cases moved
    exact .clears cause pc
  all_goals cases moved

/-- The player has rejected a packet for good. -/
def Rejects (answer : NdlFeedResult) (retries : Nat) : Prop :=
  answer = .error ∨ (answer = .retry ∧ feedMaxRetries ≤ retries)

instance (answer : NdlFeedResult) (retries : Nat) : Decidable (Rejects answer retries) :=
  inferInstanceAs (Decidable (_ ∨ _))

/-- What the answer of the player does to a worker in `feed_packet`. -/
inductive FeedMove (w : StreamWorker) (answer : NdlFeedResult) :
    StreamWorker → Option AcceptedPacket → Prop where
  | accepts (packet : MediaPacket) (retries : Nat) (pc : w.pc = .feeding packet retries)
      (ok : answer = .ok) :
      FeedMove w answer { w with pc := .loopTest } (some ⟨w.kind, packet, w.ptsUs packet⟩)
  | rejects (packet : MediaPacket) (retries : Nat) (pc : w.pc = .feeding packet retries)
      (rejected : Rejects answer retries) :
      FeedMove w answer (w.giveUp .decoderRejected) none
  | triesAgain (packet : MediaPacket) (retries : Nat) (pc : w.pc = .feeding packet retries)
      (unsettled : ¬ Rejects answer retries) :
      FeedMove w answer { w with pc := .submitTest packet (retries + 1) } none

theorem FeedMove.of_feed {w next : StreamWorker} {answer : NdlFeedResult}
    {accepted : Option AcceptedPacket} (moved : w.feed answer = some (next, accepted)) :
    FeedMove w answer next accepted := by
  unfold StreamWorker.feed at moved
  cases pc : w.pc <;> simp only [pc] at moved
  case feeding packet retries =>
    cases answer with
    | ok => cases moved; exact .accepts packet retries pc rfl
    | error => cases moved; exact .rejects packet retries pc (Or.inl rfl)
    | retry =>
        dsimp only at moved
        split at moved
        · next spent => cases moved; exact .rejects packet retries pc (Or.inr ⟨rfl, spent⟩)
        · next left =>
            cases moved
            apply FeedMove.triesAgain packet retries pc
            rintro (other | ⟨_, spent⟩)
            · cases other
            · exact left spent
  all_goals cases moved

/-- The thread is not there: not created yet or already back. -/
def WorkerPc.idle : WorkerPc → Bool
  | .unstarted => true
  | .finished _ => true
  | _ => false

/-- What a moving worker keeps: its kind and its time base. It was there before and is created after. -/
structure SameWorker (w next : StreamWorker) : Prop where
  kind : next.kind = w.kind
  base : next.timelineBaseUs = w.timelineBaseUs
  busy : w.pc.idle = false
  started : next.pc ≠ .unstarted

theorem WorkerMove.same {w next : StreamWorker} {running after : Bool}
    (move : WorkerMove w running next after) : SameWorker w next := by
  cases move with
  | takesFirst packet pc first => exact ⟨rfl, rfl, by rw [pc]; rfl, nofun⟩
  | startsLoop pc first => exact ⟨rfl, rfl, by rw [pc]; rfl, nofun⟩
  | goesOn pc set => exact ⟨rfl, rfl, by rw [pc]; rfl, nofun⟩
  | leaves pc cleared => exact ⟨rfl, rfl, by rw [pc]; rfl, nofun⟩
  | reads packet reads pc read => exact ⟨rfl, rfl, by rw [pc]; rfl, nofun⟩
  | readsClose reads pc read => exact ⟨rfl, rfl, by rw [pc]; rfl, nofun⟩
  | readsFailure reads pc read => exact ⟨rfl, rfl, by rw [pc]; rfl, nofun⟩
  | submits packet retries pc set => exact ⟨rfl, rfl, by rw [pc]; rfl, nofun⟩
  | submitStops packet retries pc cleared => exact ⟨rfl, rfl, by rw [pc]; rfl, nofun⟩
  | clears cause pc => exact ⟨rfl, rfl, by rw [pc]; rfl, nofun⟩

theorem FeedMove.same {w next : StreamWorker} {answer : NdlFeedResult}
    {accepted : Option AcceptedPacket} (move : FeedMove w answer next accepted) :
    SameWorker w next := by
  cases move with
  | accepts packet retries pc ok => exact ⟨rfl, rfl, by rw [pc]; rfl, nofun⟩
  | rejects packet retries pc rejected => exact ⟨rfl, rfl, by rw [pc]; rfl, nofun⟩
  | triesAgain packet retries pc unsettled => exact ⟨rfl, rfl, by rw [pc]; rfl, nofun⟩

/-! ### The session -/

/-- The moves of the main thread that create and join no worker. -/
def MainPc.flowsTo : MainPc → MainPc → Bool
  | .createVideo, .audioTest => true
  | .audioTest, .createAudio => true
  | .audioTest, .audioRefused => true
  | .createAudio, .audioRefused => true
  | .audioRefused, .uiTest => true
  | .uiTest, .signalTest => true
  | .uiTest, .stop => true
  | .signalTest, .uiPoll => true
  | .signalTest, .stop => true
  | .uiPoll, .uiTest => true
  | .uiPoll, .stop => true
  | .stop, .joinVideo => true
  | _, _ => false

/-- What one step of the session can do. -/
inductive SessionMove (s : Session) : SessionEvent → Session → Prop where
  | worker (kind : StreamKind) (w : StreamWorker) (running : Bool)
      (move : WorkerMove (s.worker kind) s.running w running) :
      SessionMove s (.worker kind) { s.setWorker kind w with running := running }
  | feed (kind : StreamKind) (answer : NdlFeedResult) (w : StreamWorker)
      (accepted : Option AcceptedPacket) (move : FeedMove (s.worker kind) answer w accepted) :
      SessionMove s (.feed kind answer)
        { s.setWorker kind w with accepted := s.accepted ++ accepted.toList }
  | createsVideo (action : ShellAction) (main : s.main = .createVideo) :
      SessionMove s (.main true action) { s with
        videoStarted := true, video := { s.video with pc := .entry }, main := .audioTest }
  | createsAudio (action : ShellAction) (main : s.main = .createAudio) :
      SessionMove s (.main true action) { s with
        audioStarted := true, audio := { s.audio with pc := .entry }, main := .uiTest }
  | main (creates : Bool) (action : ShellAction) (running signalStop userBack : Bool) (pc : MainPc)
      (flows : s.main.flowsTo pc = true) :
      SessionMove s (.main creates action) { s with
        running := running, signalStop := signalStop, userBack := userBack, main := pc }
  | joinsVideo (creates : Bool) (action : ShellAction) (main : s.main = .joinVideo)
      (back : s.videoStarted = false ∨ s.video.pc.idle = true) :
      SessionMove s (.main creates action) { s with main := .joinAudio }
  | joinsAudio (creates : Bool) (action : ShellAction) (main : s.main = .joinAudio)
      (back : s.audioStarted = false ∨ s.audio.pc.idle = true) :
      SessionMove s (.main creates action) { s with main := .returned s.result }
  | signal : SessionMove s .signal { s with signalStop := true }

theorem joined_of_test {started : Bool} {pc : WorkerPc} (test : (!started || pc.isFinished) = true) :
    started = false ∨ pc.idle = true := by
  cases started with
  | false => exact Or.inl rfl
  | true =>
      right
      cases pc <;> first | rfl | cases test

theorem SessionMove.of_mainStep {s next : Session} {creates : Bool} {action : ShellAction}
    (step : mainStep s creates action = some next) : SessionMove s (.main creates action) next := by
  have flow : ∀ (running signalStop userBack : Bool) (pc : MainPc), s.main.flowsTo pc = true →
      SessionMove s (.main creates action) { s with
        running := running, signalStop := signalStop, userBack := userBack, main := pc } :=
    fun running signalStop userBack pc flows =>
      .main creates action running signalStop userBack pc flows
  unfold mainStep at step
  cases main : s.main <;> simp only [main] at step
  case createVideo =>
    cases creates with
    | true => cases step; exact .createsVideo action main
    | false => cases step; exact flow false s.signalStop s.userBack _ (by rw [main]; rfl)
  case audioTest =>
    split at step
    · cases step; exact flow s.running s.signalStop s.userBack _ (by rw [main]; rfl)
    · cases step; exact flow s.running s.signalStop s.userBack _ (by rw [main]; rfl)
  case createAudio =>
    cases creates with
    | true => cases step; exact .createsAudio action main
    | false => cases step; exact flow s.running s.signalStop s.userBack _ (by rw [main]; rfl)
  case audioRefused => cases step; exact flow false s.signalStop s.userBack _ (by rw [main]; rfl)
  case uiTest =>
    split at step
    · cases step; exact flow s.running s.signalStop s.userBack _ (by rw [main]; rfl)
    · cases step; exact flow s.running s.signalStop s.userBack _ (by rw [main]; rfl)
  case signalTest =>
    split at step
    · cases step; exact flow s.running s.signalStop s.userBack _ (by rw [main]; rfl)
    · cases step; exact flow s.running s.signalStop s.userBack _ (by rw [main]; rfl)
  case uiPoll =>
    cases action with
    | none => cases step; exact flow s.running s.signalStop s.userBack _ (by rw [main]; rfl)
    | back => cases step; exact flow s.running s.signalStop true _ (by rw [main]; rfl)
    | quit => cases step; exact flow s.running true s.userBack _ (by rw [main]; rfl)
  case stop => cases step; exact flow false s.signalStop s.userBack _ (by rw [main]; rfl)
  case joinVideo =>
    split at step
    · next test => cases step; exact .joinsVideo creates action main (joined_of_test test)
    · cases step
  case joinAudio =>
    split at step
    · next test => cases step; exact .joinsAudio creates action main (joined_of_test test)
    · cases step
  case returned result => cases step

/-- Every step of the session is one of the moves. -/
theorem SessionMove.of_step {s next : Session} {e : SessionEvent}
    (step : sessionStep s e = some next) : SessionMove s e next := by
  cases e with
  | worker kind =>
      rcases Option.map_eq_some_iff.mp step with ⟨⟨w, running⟩, moved, rfl⟩
      exact .worker kind w running (.of_advance moved)
  | feed kind answer =>
      rcases Option.map_eq_some_iff.mp step with ⟨⟨w, accepted⟩, moved, rfl⟩
      exact .feed kind answer w accepted (.of_feed moved)
  | main creates action => exact .of_mainStep step
  | signal => cases step; exact .signal

/-! ### Rejected packets -/

/-- The answer of the player ends the attempts to submit a packet. -/
def WorkerPc.rejects (answer : NdlFeedResult) : WorkerPc → Bool
  | .feeding _ retries => decide (Rejects answer retries)
  | _ => false

/-- The player rejects a packet for good. -/
def rejectsAt (s : Session) : SessionEvent → Bool
  | .feed kind answer => (s.worker kind).pc.rejects answer
  | _ => false

/-! ### How the threads are wired -/

/-- The workers are of their kinds and share a time base; one that is not started has not been created,
    one that is joined is back; the returned result is the one of the joined session. -/
structure Session.Wired (base : UInt64) (s : Session) : Prop where
  kind : ∀ kind, (s.worker kind).kind = kind
  base : ∀ kind, (s.worker kind).timelineBaseUs = base
  videoUnstarted : s.videoStarted = false → s.video.pc = .unstarted
  audioUnstarted : s.audioStarted = false → s.audio.pc = .unstarted
  videoFresh : s.main = .createVideo → s.videoStarted = false
  audioFresh : s.main = .createVideo ∨ s.main = .audioTest ∨ s.main = .createAudio →
    s.audioStarted = false
  videoJoined : s.main = .joinAudio ∨ (∃ result, s.main = .returned result) →
    s.video.pc.idle = true
  audioJoined : ∀ result, s.main = .returned result → s.audio.pc.idle = true ∧ result = s.result

theorem idle_of_unstarted {pc : WorkerPc} (unstarted : pc = .unstarted) : pc.idle = true := by
  rw [unstarted]
  rfl

/-- A worker that moves is started and not joined, so its move keeps the wiring. -/
theorem Session.Wired.setWorker {base : UInt64} {s : Session} (wired : s.Wired base)
    {kind : StreamKind} {w : StreamWorker} (same : SameWorker (s.worker kind) w) :
    (s.setWorker kind w).Wired base := by
  have kinds : ∀ other, ((s.setWorker kind w).worker other).kind = other := fun other => by
    by_cases here : other = kind
    · rw [here, s.worker_setWorker kind w, same.kind, wired.kind kind]
    · rw [Session.worker_setWorker_ne here, wired.kind other]
  have bases : ∀ other, ((s.setWorker kind w).worker other).timelineBaseUs = base := fun other => by
    by_cases here : other = kind
    · rw [here, s.worker_setWorker kind w, same.base, wired.base kind]
    · rw [Session.worker_setWorker_ne here, wired.base other]
  have busy : ∀ {P : Prop}, (s.worker kind).pc.idle = true → P := fun idle => by
    rw [same.busy] at idle
    cases idle
  cases kind with
  | video =>
      exact ⟨kinds, bases, fun unstarted => busy (idle_of_unstarted (wired.videoUnstarted unstarted)),
        wired.audioUnstarted, wired.videoFresh, wired.audioFresh,
        fun joined => busy (wired.videoJoined joined),
        fun result back => busy (wired.videoJoined (Or.inr ⟨result, back⟩))⟩
  | audio =>
      exact ⟨kinds, bases, wired.videoUnstarted,
        fun unstarted => busy (idle_of_unstarted (wired.audioUnstarted unstarted)), wired.videoFresh,
        wired.audioFresh, wired.videoJoined, fun result back => busy (wired.audioJoined result back).1⟩

/-- The moves that create and join no worker lead from no joining state to no joining state, and to the
    states ahead of the creation of the audio worker only from such states. -/
theorem MainPc.flowsTo_spec {pc next : MainPc} (flows : pc.flowsTo next = true) :
    next ≠ .createVideo ∧ next ≠ .joinAudio ∧ (∀ result, next ≠ .returned result) ∧
      (next = .audioTest ∨ next = .createAudio → pc = .createVideo ∨ pc = .audioTest) := by
  cases pc <;> cases next <;> simp_all [MainPc.flowsTo]

/-- The wiring is kept by every step. -/
theorem Session.Wired.step {base : UInt64} {s next : Session} {e : SessionEvent}
    (wired : s.Wired base) (step : sessionStep s e = some next) : next.Wired base := by
  cases SessionMove.of_step step with
  | worker kind w running move =>
      rcases wired.setWorker move.same with ⟨a, b, c, d, e, f, g, h⟩
      exact ⟨a, b, c, d, e, f, g, h⟩
  | feed kind answer w accepted move =>
      rcases wired.setWorker move.same with ⟨a, b, c, d, e, f, g, h⟩
      exact ⟨a, b, c, d, e, f, g, h⟩
  | createsVideo action main =>
      refine ⟨fun kind => ?_, fun kind => ?_, nofun, wired.audioUnstarted, nofun,
        fun _ => wired.audioFresh (Or.inl main), ?_, nofun⟩
      · cases kind with
        | video => exact wired.kind .video
        | audio => exact wired.kind .audio
      · cases kind with
        | video => exact wired.base .video
        | audio => exact wired.base .audio
      · rintro (joined | ⟨result, returned⟩)
        · cases joined
        · cases returned
  | createsAudio action main =>
      refine ⟨fun kind => ?_, fun kind => ?_, wired.videoUnstarted, nofun, nofun, ?_, ?_, nofun⟩
      · cases kind with
        | video => exact wired.kind .video
        | audio => exact wired.kind .audio
      · cases kind with
        | video => exact wired.base .video
        | audio => exact wired.base .audio
      · rintro (ahead | ahead | ahead) <;> cases ahead
      · rintro (joined | ⟨result, returned⟩)
        · cases joined
        · cases returned
  | main creates action running signalStop userBack pc flows =>
      rcases MainPc.flowsTo_spec flows with ⟨first, joined, returned, ahead⟩
      refine ⟨wired.kind, wired.base, wired.videoUnstarted, wired.audioUnstarted,
        fun here => absurd here first, ?_, ?_, fun result here => absurd here (returned result)⟩
      · rintro (here | here)
        · exact absurd here first
        · rcases ahead here with before | before
          · exact wired.audioFresh (Or.inl before)
          · exact wired.audioFresh (Or.inr (Or.inl before))
      · rintro (here | ⟨result, here⟩)
        · exact absurd here joined
        · exact absurd here (returned result)
  | joinsVideo creates action main back =>
      refine ⟨wired.kind, wired.base, wired.videoUnstarted, wired.audioUnstarted, nofun, ?_, ?_, nofun⟩
      · rintro (ahead | ahead | ahead) <;> cases ahead
      · intro _
        rcases back with unstarted | idle
        · exact idle_of_unstarted (wired.videoUnstarted unstarted)
        · exact idle
  | joinsAudio creates action main back =>
      refine ⟨wired.kind, wired.base, wired.videoUnstarted, wired.audioUnstarted, nofun, ?_,
        fun _ => wired.videoJoined (Or.inl main), ?_⟩
      · rintro (ahead | ahead | ahead) <;> cases ahead
      · rintro result same
        cases same
        refine ⟨?_, rfl⟩
        rcases back with unstarted | idle
        · exact idle_of_unstarted (wired.audioUnstarted unstarted)
        · exact idle
  | signal =>
      exact ⟨wired.kind, wired.base, wired.videoUnstarted, wired.audioUnstarted, wired.videoFresh,
        wired.audioFresh, wired.videoJoined, wired.audioJoined⟩

/-! ### Priming -/

/-- The smaller of two time stamps. -/
def earlierUs (video audio : UInt64) : UInt64 := if video < audio then video else audio

theorem earlierUs_toNat (video audio : UInt64) :
    (earlierUs video audio).toNat = min video.toNat audio.toNat := by
  unfold earlierUs
  split
  · next less =>
      rw [UInt64.lt_iff_toNat_lt] at less
      exact (Nat.min_eq_left less.le).symm
  · next least =>
      rw [UInt64.lt_iff_toNat_lt] at least
      exact (Nat.min_eq_right (Nat.not_lt.mp least)).symm

/-- The session behind the priming with the given first packets and reads. -/
def primedSession (base : UInt64) (video audio : MediaPacket) (videoReads audioReads : List PacketRead) :
    Session where
  running := true
  signalStop := false
  userBack := false
  videoStarted := false
  audioStarted := false
  video := primedWorker .video base video videoReads
  audio := primedWorker .audio base audio audioReads
  main := .createVideo
  accepted := []

theorem primeWorker_some {allocated : Bool} {kind : StreamKind} {reads rest : List PacketRead}
    {packet : MediaPacket} (primed : primeWorker allocated kind reads = .ok (some (packet, rest))) :
    readData kind reads = some (.data packet, rest) := by
  unfold primeWorker at primed
  split at primed
  · cases primed
  · split at primed
    · cases primed
    · next found => cases primed; exact found
    · cases primed

/-- A session starts with the first data packet of each socket, on the earlier of their time stamps. -/
theorem primeSession_some {allocated : StreamKind → Bool} {reads : StreamKind → List PacketRead}
    {s : Session} (primed : primeSession allocated reads = .ok (some s)) :
    ∃ video audio videoRest audioRest,
      readData .video (reads .video) = some (.data video, videoRest) ∧
      readData .audio (reads .audio) = some (.data audio, audioRest) ∧
      s = primedSession (earlierUs video.header.timestampUs audio.header.timestampUs) video audio
        videoRest audioRest := by
  unfold primeSession at primed
  cases first : primeWorker (allocated .video) .video (reads .video) with
  | error halt => rw [first] at primed; cases primed
  | ok video =>
      cases video with
      | none => rw [first] at primed; cases primed
      | some video =>
          cases second : primeWorker (allocated .audio) .audio (reads .audio) with
          | error halt => simp [first, second, bind, Except.bind] at primed
          | ok audio =>
              cases audio with
              | none => simp [first, second, bind, Except.bind, pure, Except.pure] at primed
              | some audio =>
                  rcases video with ⟨video, videoRest⟩
                  rcases audio with ⟨audio, audioRest⟩
                  refine ⟨video, audio, videoRest, audioRest, primeWorker_some first,
                    primeWorker_some second, ?_⟩
                  simp only [first, second, bind, Except.bind, pure, Except.pure, Except.ok.injEq,
                    Option.some.injEq] at primed
                  exact primed.symm

theorem wired_primedSession (base : UInt64) (video audio : MediaPacket)
    (videoReads audioReads : List PacketRead) :
    (primedSession base video audio videoReads audioReads).Wired base := by
  refine ⟨fun kind => ?_, fun kind => ?_, fun _ => rfl, fun _ => rfl, fun _ => rfl, fun _ => rfl, ?_,
    nofun⟩
  · cases kind with
    | video => rfl
    | audio => rfl
  · cases kind with
    | video => rfl
    | audio => rfl
  · rintro (joined | ⟨result, returned⟩)
    · cases joined
    · cases returned

/-- A packet of one byte with the given kind bit and time stamp. -/
def smallPacket (metadata : UInt8) (timestampUs : UInt64) : MediaPacket :=
  ⟨⟨sysdvrPacketMagic, 1, timestampUs, metadata, 0⟩, [0]⟩

end SysdvrWebos
