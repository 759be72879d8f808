/-
Module: SysdvrWebos.Core.StreamSession
Layer: Core
Purpose: A SysDVR session (src/webos_main.c, prime_worker, submit_packet, stream_thread and
  run_stream_session from the priming on, and what main makes of its result) as one step relation over its
  three threads: the two workers and the UI loop. Every access to the shared `running` flag is a step of
  its own. A socket is the list of what its sysdvr_read_packet calls come back with; counters that only go
  into log lines are left out.
Trusted boundary: none
Main exports: PacketRead, readData, StreamWorker, Session, primeSession, SessionEvent, sessionStep,
  SessionResult, afterSession
Open obligations: none
-/
import SysdvrWebos.Core.NdlMedia
import SysdvrWebos.Core.SysdvrProtocol

namespace SysdvrWebos

/-! ### Reading -/

/-- What one `sysdvr_read_packet` comes back with. -/
inductive PacketRead where
  | packet (header : SysdvrPacketHeader) (payload : List UInt8)
  | closed
  | failed
deriving Repr, DecidableEq

/-- A packet on its way to the player. -/
structure MediaPacket where
  header : SysdvrPacketHeader
  payload : List UInt8
deriving Repr, DecidableEq

/-- What `read_data_packet` comes back with. -/
inductive DataResult where
  | data (packet : MediaPacket)
  | closed
  | failed
deriving Repr, DecidableEq

/-- `read_data_packet` over the results of its reads, with the results that are left; `none` while it
    waits for a further one. -/
def readData (kind : StreamKind) : List PacketRead → Option (DataResult × List PacketRead)
  | [] => none
  | .closed :: reads => some (.closed, reads)
  | .failed :: reads => some (.failed, reads)
  | .packet header payload :: reads =>
      if header.metadata &&& sysdvrPacketError ≠ 0 then
        some (.failed, reads)
      else if expectedPacket kind header && payload.length > 0 then
        some (.data ⟨header, payload⟩, reads)
      else
        readData kind reads

/-! ### Workers -/

/-- `FEED_MAX_RETRIES`. -/
def feedMaxRetries : Nat := 250

/-- Why a worker has left its loop: `running` was found cleared by the loop or by the submit loop, the
    stream has ended in one of two ways, or the player has rejected a packet. -/
inductive StopCause where
  | flagCleared
  | submitStopped
  | remoteClosed
  | readFailed
  | decoderRejected
deriving Repr, DecidableEq

/-- Where a `stream_thread` stands: at its entry, at the test of the loop, in `read_data_packet`, at the
    test of the submit loop, in `feed_packet`, or at the final store to `running`. -/
inductive WorkerPc where
  | unstarted
  | entry
  | loopTest
  | reading
  | submitTest (packet : MediaPacket) (retries : Nat)
  | feeding (packet : MediaPacket) (retries : Nat)
  | clearing (cause : StopCause)
  | finished (cause : StopCause)
deriving Repr, DecidableEq

/-- The thread has returned, so that it can be joined. -/
def WorkerPc.isFinished : WorkerPc → Bool
  | .finished _ => true
  | _ => false

/-- `stream_worker`; `first` is the primed packet while it is pending. -/
structure StreamWorker where
  kind : StreamKind
  timelineBaseUs : UInt64
  first : Option MediaPacket
  transportError : Bool
  decoderError : Bool
  pc : WorkerPc
  reads : List PacketRead
deriving Repr, DecidableEq

/-- A packet the player has accepted. -/
structure AcceptedPacket where
  kind : StreamKind
  packet : MediaPacket
  ptsUs : UInt64
deriving Repr, DecidableEq

namespace StreamWorker

/-- The time stamp `submit_packet` gives a packet. -/
def ptsUs (w : StreamWorker) (packet : MediaPacket) : UInt64 :=
  if packet.header.timestampUs ≥ w.timelineBaseUs
    then packet.header.timestampUs - w.timelineBaseUs
    else 0

/-- Leave the loop with a packet that was not accepted. -/
def giveUp (w : StreamWorker) (cause : StopCause) : StreamWorker :=
  { w with decoderError := true, pc := .clearing cause }

/-- One step of `stream_thread` outside `feed_packet`: the worker and `running` behind it. -/
def advance (w : StreamWorker) (running : Bool) : Option (StreamWorker × Bool) :=
  match w.pc with
  | .entry =>
      match w.first with
      | some packet => some ({ w with first := none, pc := .submitTest packet 0 }, running)
      | none => some ({ w with pc := .loopTest }, running)
  | .loopTest =>
      some ({ w with pc := if running then .reading else .clearing .flagCleared }, running)
  | .reading =>
      match readData w.kind w.reads with
      | none => none
      | some (.data packet, reads) =>
          some ({ w with pc := .submitTest packet 0, reads := reads }, running)
      | some (.closed, reads) =>
          some ({ w with pc := .clearing .remoteClosed, reads := reads }, running)
      | some (.failed, reads) =>
          some ({ w with transportError := true, pc := .clearing .readFailed, reads := reads }, running)
  | .submitTest packet retries =>
      some (if running then { w with pc := .feeding packet retries } else w.giveUp .submitStopped,
        running)
  | .clearing cause => some ({ w with pc := .finished cause }, false)
  | _ => none

/-- The answer of the player to `feed_packet`: the worker behind it and the packet if it was accepted. -/
def feed (w : StreamWorker) (answer : NdlFeedResult) :
    Option (StreamWorker × Option AcceptedPacket) :=
  match w.pc with
  | .feeding packet retries =>
      match answer with
      | .ok => some ({ w with pc := .loopTest }, some ⟨w.kind, packet, w.ptsUs packet⟩)
      | .error => some (w.giveUp .decoderRejected, none)
      | .retry =>
          if retries ≥ feedMaxRetries then
            some (w.giveUp .decoderRejected, none)
          else
            some ({ w with pc := .submitTest packet (retries + 1) }, none)
  | _ => none

end StreamWorker

/-! ### The session -/

/-- `session_result`. -/
inductive SessionResult where
  | remoteEnd
  | transportLost
  | error
  | userBack
deriving Repr, DecidableEq

/-- Where the thread of `run_stream_session` stands, from the creation of the workers on. -/
inductive MainPc where
  | createVideo
  | audioTest
  | createAudio
  | audioRefused
  | uiTest
  | signalTest
  | uiPoll
  | stop
  | joinVideo
  | joinAudio
  | returned (result : SessionResult)
deriving Repr, DecidableEq

/-- The variables of `run_stream_session`, the stop signal, and what the player has accepted. -/
structure Session where
  running : Bool
  signalStop : Bool
  userBack : Bool
  videoStarted : Bool
  audioStarted : Bool
  video : StreamWorker
  audio : StreamWorker
  main : MainPc
  accepted : List AcceptedPacket
deriving Repr, DecidableEq

namespace Session

/-- The worker of one kind. -/
def worker (s : Session) : StreamKind → StreamWorker
  | .video => s.video
  | .audio => s.audio

/-- Replace the worker of one kind. -/
def setWorker (s : Session) (kind : StreamKind) (w : StreamWorker) : Session :=
  match kind with
  | .video => { s with video := w }
  | .audio => { s with audio := w }

/-- The result by the flags of the session once both workers are joined. -/
def result (s : Session) : SessionResult :=
  if s.userBack then
    .userBack
  else if s.video.decoderError || s.audio.decoderError then
    .error
  else if s.video.transportError || s.audio.transportError then
    .transportLost
  else
    .remoteEnd

end Session

/-- `prime_worker`: `none` if a buffer or the first packet is not had. -/
def primeWorker (allocated : Bool) (kind : StreamKind) (reads : List PacketRead) :
    Except Halt (Option (MediaPacket × List PacketRead)) :=
  if !allocated then
    .ok none
  else
    match readData kind reads with
    | none => .error .blocked
    | some (.data packet, reads) => .ok (some (packet, reads))
    | some (_, _) => .ok none

/-- A worker as `run_stream_session` hands it to its thread. -/
def primedWorker (kind : StreamKind) (baseUs : UInt64) (first : MediaPacket)
    (reads : List PacketRead) : StreamWorker :=
  ⟨kind, baseUs, some first, false, false, .unstarted, reads⟩

/-- The two workers on their common timeline; `none` if one of them is not primed. -/
def primeSession (allocated : StreamKind → Bool) (reads : StreamKind → List PacketRead) :
    Except Halt (Option Session) := do
  let some (video, videoReads) ← primeWorker (allocated .video) .video (reads .video) | return none
  let some (audio, audioReads) ← primeWorker (allocated .audio) .audio (reads .audio) | return none
  let base := if video.header.timestampUs < audio.header.timestampUs
    then video.header.timestampUs
    else audio.header.timestampUs
  return some {
    running := true
    signalStop := false
    userBack := false
    videoStarted := false
    audioStarted := false
    video := primedWorker .video base video videoReads
    audio := primedWorker .audio base audio audioReads
    main := .createVideo
    accepted := [] }

/-- What `sdl_shell_poll` brings: nothing of interest, LEFT or BACK, or the end of the app. -/
inductive ShellAction where
  | none
  | back
  | quit
deriving Repr, DecidableEq

/-- One step of a thread of the session, or the arrival of the stop signal. `creates` is the answer of
    `pthread_create`, `action` that of `sdl_shell_poll`; they only count where the main thread asks. -/
inductive SessionEvent where
  | worker (kind : StreamKind)
  | feed (kind : StreamKind) (answer : NdlFeedResult)
  | main (creates : Bool) (action : ShellAction)
  | signal
deriving Repr, DecidableEq

/-- One step of the main thread. -/
def mainStep (s : Session) (creates : Bool) (action : ShellAction) : Option Session :=
  match s.main with
  | .createVideo =>
      if creates then
        some { s with
          videoStarted := true, video := { s.video with pc := .entry }, main := .audioTest }
      else
        some { s with running := false, main := .audioTest }
  | .audioTest => some { s with main := if s.running then .createAudio else .audioRefused }
  | .createAudio =>
      if creates then
        some { s with audioStarted := true, audio := { s.audio with pc := .entry }, main := .uiTest }
      else
        some { s with main := .audioRefused }
  -- `running` is only stored to where it is still set
  | .audioRefused => some { s with running := false, main := .uiTest }
  | .uiTest => some { s with main := if s.running then .signalTest else .stop }
  | .signalTest => some { s with main := if s.signalStop then .stop else .uiPoll }
  | .uiPoll =>
      match action with
      | .none => some { s with main := .uiTest }
      | .back => some { s with userBack := true, main := .stop }
      | .quit => some { s with signalStop := true, main := .stop }
  | .stop => some { s with running := false, main := .joinVideo }
  | .joinVideo =>
      if !s.videoStarted || s.video.pc.isFinished then
        some { s with main := .joinAudio }
      else
        none
  | .joinAudio =>
      if !s.audioStarted || s.audio.pc.isFinished then
        some { s with main := .returned s.result }
      else
        none
  | .returned _ => none

/-- The session as a transition system; `none` where the thread cannot make the step. -/
def sessionStep (s : Session) : SessionEvent → Option Session
  | .worker kind =>
      ((s.worker kind).advance s.running).map fun (w, running) =>
        { s.setWorker kind w with running := running }
  | .feed kind answer =>
      ((s.worker kind).feed answer).map fun (w, accepted) =>
        { s.setWorker kind w with accepted := s.accepted ++ accepted.toList }
  | .main creates action => mainStep s creates action
  | .signal => some { s with signalStop := true }

/-! ### Afterwards -/

/-- The states main goes to behind a session. -/
inductive AfterSession where
  | leave
  | browse
  | showError
  | waitReconnect
deriving Repr, DecidableEq

/-- What main does with the result of a session the user has started. -/
def afterSession (signalStop : Bool) (result : SessionResult) : AfterSession :=
  if signalStop then
    .leave
  else
    match result with
    | .userBack => .browse
    | .error => .showError
    | .remoteEnd => .waitReconnect
    | .transportLost => .waitReconnect

end SysdvrWebos
