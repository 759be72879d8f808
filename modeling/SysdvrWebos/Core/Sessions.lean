/-
Module: SysdvrWebos.Core.Sessions
Layer: Core
Purpose: Whole sessions of the two backends, each with the player it owns: run_stream_session of
  src/webos_main.c from the creation of the player to its end, with the streaming in between taken from
  StreamSession, and frametap_run_stream_session of src/frametap_backend.c with its UI loop and its stream
  thread. main runs one session after the other; the calls on the player are recorded across them.
Trusted boundary: a connection attempt and a handshake are seen through their success; which packets a
  socket brings and how the player answers comes from outside
Main exports: StreamRun, streamRunStep, FrametapRun, frametapRunStep, Playback, playbackStep
Open obligations: none
-/
import SysdvrWebos.Core.FrametapBackend
import SysdvrWebos.Core.SessionManager
import SysdvrWebos.Core.StreamSession

namespace SysdvrWebos

/-! ### run_stream_session -/

/-- `VIDEO_WIDTH`. -/
def videoWidth : UInt32 := 1280

/-- `VIDEO_HEIGHT`. -/
def videoHeight : UInt32 := 720

/-- `ndl_media_open`. -/
def ndlMediaOpen (p : NdlMedia) (width height : UInt32) (loadSucceeds : Bool) (calls : List NdlCall) :
    Bool × NdlMedia × List NdlCall :=
  ndlMediaOpenInternal p width height true loadSucceeds calls

/-- `ndl_media_feed_audio`. -/
def ndlMediaFeedAudio (p : NdlMedia) (data : List UInt8) (ptsUs : UInt64) (playSucceeds : Bool)
    (calls : List NdlCall) : NdlFeedResult × List NdlCall :=
  feedLocked p data ptsUs true playSucceeds calls

/-- `feed_packet`. -/
def feedPacket (kind : StreamKind) (p : NdlMedia) (data : List UInt8) (ptsUs : UInt64)
    (playSucceeds : Bool) (calls : List NdlCall) : NdlFeedResult × List NdlCall :=
  match kind with
  | .video => ndlMediaFeedVideo p data ptsUs playSucceeds calls
  | .audio => ndlMediaFeedAudio p data ptsUs playSucceeds calls

/-- Where `run_stream_session` stands. On the early exits the player is destroyed behind the sockets. -/
inductive StreamRunPc where
  | create
  | load (player : NdlMedia)
  | connect (kind : StreamKind) (player : NdlMedia)
  | handshake (kind : StreamKind) (player : NdlMedia)
  | prime (player : NdlMedia)
  | streaming (session : Session) (player : NdlMedia)
  | giveUp (player : NdlMedia)
  | returned (result : SessionResult)
deriving DecidableEq

/-- A run of `run_stream_session` with the player calls it has made. -/
structure StreamRun where
  pc : StreamRunPc
  calls : List NdlCall
deriving DecidableEq

def streamRunStart : StreamRun := ⟨.create, []⟩

/-- The stage behind a handshake. -/
def afterHandshake (kind : StreamKind) (player : NdlMedia) : StreamRunPc :=
  match kind with
  | .video => .connect .audio player
  | .audio => .prime player

/-- What happens next in a run: a call of its set-up with its answer, the priming with what the sockets
    bring, a step of one of the session's threads, or the end of the player. -/
inductive StreamRunEvent where
  | create (allocated initSucceeds : Bool)
  | load (succeeds : Bool)
  | connect (succeeds : Bool)
  | handshake (succeeds : Bool)
  | prime (allocated : StreamKind → Bool) (reads : StreamKind → List PacketRead)
  | session (event : SessionEvent)
  | feed (kind : StreamKind) (playSucceeds : Bool)
  | destroy

/-- A worker in `feed_packet`: the player takes or refuses the packet, and the worker goes on with its
    answer. -/
def streamRunFeed (session : Session) (player : NdlMedia) (calls : List NdlCall) (kind : StreamKind)
    (playSucceeds : Bool) : Option StreamRun :=
  match (session.worker kind).pc with
  | .feeding packet _ =>
      let (answer, calls) := feedPacket kind player packet.payload ((session.worker kind).ptsUs packet)
        playSucceeds calls
      (sessionStep session (.feed kind answer)).map fun session => ⟨.streaming session player, calls⟩
  | _ => none

/-- A step of a session in which no packet is fed. -/
def streamRunSession (session : Session) (player : NdlMedia) (calls : List NdlCall) :
    SessionEvent → Option StreamRun
  | .feed _ _ => none
  | event => (sessionStep session event).map fun session => ⟨.streaming session player, calls⟩

/-- `run_stream_session`; `none` where it stands elsewhere. -/
def streamRunStep (r : StreamRun) (event : StreamRunEvent) : Option StreamRun :=
  match r.pc, event with
  | .create, .create allocated initSucceeds =>
      match ndlMediaCreate allocated initSucceeds r.calls with
      | (none, calls) => some ⟨.returned .error, calls⟩
      | (some player, calls) => some ⟨.load player, calls⟩
  | .load player, .load succeeds =>
      match ndlMediaOpen player videoWidth videoHeight succeeds r.calls with
      | (true, player, calls) => some ⟨.connect .video player, calls⟩
      | (false, player, calls) => some ⟨.giveUp player, calls⟩
  | .connect kind player, .connect succeeds =>
      some ⟨if succeeds then .handshake kind player else .giveUp player, r.calls⟩
  | .handshake kind player, .handshake succeeds =>
      some ⟨if succeeds then afterHandshake kind player else .giveUp player, r.calls⟩
  | .prime player, .prime allocated reads =>
      match primeSession allocated reads with
      | .error _ => none
      | .ok none => some ⟨.giveUp player, r.calls⟩
      | .ok (some session) => some ⟨.streaming session player, r.calls⟩
  | .streaming session player, .session event => streamRunSession session player r.calls event
  | .streaming session player, .feed kind playSucceeds =>
      streamRunFeed session player r.calls kind playSucceeds
  | .streaming session player, .destroy =>
      match session.main with
      | .returned result => some ⟨.returned result, ndlMediaDestroy player r.calls⟩
      | _ => none
  | .giveUp player, .destroy => some ⟨.returned .error, ndlMediaDestroy player r.calls⟩
  | _, _ => none

/-! ### frametap_run_stream_session -/

/-- Where the main thread stands in `frametap_run_stream_session`. -/
inductive FrametapPc where
  | connect
  | initLock
  | createThread
  | uiTest
  | uiPoll
  | stop
  | join
  | returned (result : SessionResult)
deriving Repr, DecidableEq

/-- Where the stream thread stands: at the allocation of its payload buffer, in its packet loop, or back,
    with the `failed` flag and the player calls it leaves behind. -/
inductive SftThreadPc where
  | unstarted
  | entry
  | loop (thread : SftThread) (connection : SftConnection)
  | finished (failed : Bool) (calls : List NdlCall)
deriving DecidableEq

namespace SftThreadPc

/-- The thread has stored `finished`, so that it can be joined. -/
def isFinished : SftThreadPc → Bool
  | .finished _ _ => true
  | _ => false

/-- The `failed` flag of the worker. -/
def failed : SftThreadPc → Bool
  | .loop thread _ => thread.failed
  | .finished failed _ => failed
  | _ => false

/-- The player calls of the thread. -/
def calls : SftThreadPc → List NdlCall
  | .loop thread _ => thread.calls
  | .finished _ calls => calls
  | _ => []

end SftThreadPc

/-- A run of `frametap_run_stream_session` with its stream thread. -/
structure FrametapRun where
  main : FrametapPc
  running : Bool
  signalStop : Bool
  userBack : Bool
  thread : SftThreadPc
deriving DecidableEq

def frametapRunStart : FrametapRun where
  main := .connect
  running := true
  signalStop := false
  userBack := false
  thread := .unstarted

/-- The result once the thread is joined. -/
def FrametapRun.result (r : FrametapRun) : SessionResult :=
  if r.userBack then
    .userBack
  else if r.signalStop then
    .remoteEnd
  else if r.thread.failed then
    .transportLost
  else
    .remoteEnd

/-- One step of a thread of the session, or the arrival of the stop signal. -/
inductive FrametapRunEvent where
  | main (succeeds : Bool) (action : ShellAction)
  | signal
  | enter (allocated : Bool) (now : UInt64) (connection : SftConnection)
  | turn (turn : SftTurn)
  | exit
deriving DecidableEq

/-- One step of the main thread. `succeeds` is the answer of the call it makes, `action` that of
    `sdl_shell_poll`. -/
def frametapMainStep (r : FrametapRun) (succeeds : Bool) (action : ShellAction) : Option FrametapRun :=
  match r.main with
  | .connect => some { r with main := if succeeds then .initLock else .returned .transportLost }
  | .initLock => some { r with main := if succeeds then .createThread else .returned .error }
  | .createThread =>
      if succeeds then
        some { r with thread := .entry, main := .uiTest }
      else
        some { r with main := .returned .error }
  | .uiTest =>
      some { r with main := if r.signalStop || r.thread.isFinished then .stop else .uiPoll }
  | .uiPoll =>
      match action with
      | .none => some { r with main := .uiTest }
      | .back => some { r with userBack := true, running := false, main := .stop }
      | .quit => some { r with signalStop := true, main := .stop }
  | .stop => some { r with running := false, main := .join }
  | .join => if r.thread.isFinished then some { r with main := .returned r.result } else none
  | .returned _ => none

/-- One step of the stream thread. The test of its loop reads the flag of the session. -/
def sftThreadStep (running : Bool) (thread : SftThreadPc) (event : FrametapRunEvent) :
    Option SftThreadPc :=
  match thread, event with
  | .entry, .enter allocated now connection =>
      some (if allocated then .loop (sftThreadStart now) connection else .finished true [])
  | .loop w c, .turn turn =>
      if w.left then
        none
      else
        match sftStreamTurn w c { turn with running := running } with
        | .ok (w, c) => some (.loop w c)
        | .error _ => none
  | .loop w _, .exit =>
      if w.left then some (.finished (sftThreadExit w).failed (sftThreadExit w).calls) else none
  | _, _ => none

/-- `frametap_run_stream_session` with its thread; `none` where the thread cannot make the step. -/
def frametapRunStep (r : FrametapRun) : FrametapRunEvent → Option FrametapRun
  | .main succeeds action => frametapMainStep r succeeds action
  | .signal => some { r with signalStop := true }
  | event => (sftThreadStep r.running r.thread event).map fun thread => { r with thread := thread }

/-! ### One session after the other -/

/-- The session main is in. -/
inductive CurrentSession where
  | idle
  | stream (run : StreamRun)
  | frametap (run : FrametapRun)
deriving DecidableEq

/-- The player calls of the session. -/
def CurrentSession.calls : CurrentSession → List NdlCall
  | .idle => []
  | .stream run => run.calls
  | .frametap run => run.thread.calls

/-- The session has returned to main. -/
def CurrentSession.isReturned : CurrentSession → Bool
  | .idle => false
  | .stream run => match run.pc with
      | .returned _ => true
      | _ => false
  | .frametap run => match run.main with
      | .returned _ => true
      | _ => false

/-- The sessions main has run, seen through their player calls, and the one it is in. -/
structure Playback where
  past : List NdlCall
  current : CurrentSession
deriving DecidableEq

/-- All calls the player has got. -/
def Playback.calls (s : Playback) : List NdlCall := s.past ++ s.current.calls

def playbackStart : Playback := ⟨[], .idle⟩

/-- main calls the session of a backend, a session makes a step, or it has returned. -/
inductive PlaybackEvent where
  | call (source : StreamSource)
  | stream (event : StreamRunEvent)
  | frametap (event : FrametapRunEvent)
  | finish

def playbackStep (s : Playback) (event : PlaybackEvent) : Option Playback :=
  match s.current, event with
  | .idle, .call .sysdvr => some { s with current := .stream streamRunStart }
  | .idle, .call .frametap => some { s with current := .frametap frametapRunStart }
  | .stream run, .stream event =>
      (streamRunStep run event).map fun run => { s with current := .stream run }
  | .frametap run, .frametap event =>
      (frametapRunStep run event).map fun run => { s with current := .frametap run }
  | current, .finish =>
      if current.isReturned then some ⟨s.past ++ current.calls, .idle⟩ else none
  | _, _ => none

end SysdvrWebos
