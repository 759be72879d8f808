/-
Module: SysdvrWebos.Core.LiveFrametap
Layer: Core
Purpose: A Switch Frame Tap session while its socket fills (src/frametap_backend.c,
  frametap_run_stream_session and sft_stream_thread; src/sft_protocol.c, the turns of
  read_exact_interruptible). Where FrametapBackend takes a packet in one step, here every turn of the read
  loop is a step of its own, the flag it tests is the one the main thread clears, and the main thread draws
  its waiting screen in between.
Trusted boundary: behind its `shutdown` a socket brings nothing more, and reading it does not wait
Main exports: LiveSocket, LiveThreadPc, liveThreadStep, LiveFrametap, LiveFrametapEvent, liveFrametapStep
Open obligations: none
-/
import SysdvrWebos.Core.Sessions

namespace SysdvrWebos

/-! ### The socket -/

/-- The bytes that have arrived and were not read, and whether the stream ends behind them. -/
structure LiveSocket where
  incoming : List UInt8
  ended : Bool
deriving Repr, DecidableEq

/-- The socket can give this answer: bytes only as far as they are there, the end only behind them. -/
def LiveSocket.admits (socket : LiveSocket) : Wait → Bool
  | .ready (.bytes more) => more < socket.incoming.length || (socket.incoming = [] && socket.ended)
  | _ => true

/-! ### The stream thread -/

/-- Where the stream thread stands: at the allocation of its payload buffer, at the test of its loop, in
    the read of a header or of a payload, behind a packet, behind a read that came back without one, at its
    end, or back; `none` if the buffer was refused. -/
inductive LiveThreadPc where
  | unstarted
  | entry
  | test (w : SftThread) (read : SftRead)
  | header (w : SftThread) (read : SftRead) (state : ReadState)
  | payload (w : SftThread) (read : SftRead) (h : SftPacketHeader) (state : ReadState)
  | handling (w : SftThread) (read : SftRead)
  | unread (w : SftThread) (read : SftRead) (rc : Int)
  | exiting (w : SftThread)
  | finished (w : Option SftThread)

namespace LiveThreadPc

/-- The variables of the worker as the main thread finds them. -/
def worker : LiveThreadPc → Option SftThread
  | .test w _ | .header w _ _ | .payload w _ _ _ | .handling w _ | .unread w _ _ | .exiting w => some w
  | .finished w => w
  | _ => none

/-- `connected`. -/
def connected (t : LiveThreadPc) : Bool := t.worker.elim false SftThread.connected

/-- `video_started`. -/
def videoStarted (t : LiveThreadPc) : Bool := t.worker.elim false SftThread.videoStarted

/-- `failed`. -/
def failed : LiveThreadPc → Bool
  | .finished none => true
  | t => t.worker.elim false SftThread.failed

/-- `finished`. -/
def isFinished : LiveThreadPc → Bool
  | .finished _ => true
  | _ => false

/-- `status_head`. -/
def statusHead (t : LiveThreadPc) : CText 128 := t.worker.elim sftReadyText SftThread.statusHead

end LiveThreadPc

/-- A step of the stream thread with the answers it gets. The buffer from `malloc` holds anything. -/
inductive LiveThreadEvent where
  | enter (allocated : Bool) (now : UInt64) (garbage : Nat → UInt8)
  | test
  | turn (tick : Tick)
  | handle (answers : SftAnswers)
  | unread
  | exit

/-- The read of a payload begins; a packet without one is read already. -/
def beginPayload (w : SftThread) (read : SftRead) (h : SftPacketHeader) : LiveThreadPc :=
  if 0 < h.length.toNat then
    .payload w read h ⟨[], read.payload, 0, 0⟩
  else
    .handling w ⟨h, read.payload, h.length.toNat⟩

/-- The header bytes are there. -/
def headerRead (w : SftThread) (read : SftRead) (raw : List UInt8) : LiveThreadPc :=
  let h := sftParseHeader raw
  if sftValidateHeader h ≠ 0 then
    .unread w { read with header := h } (-1)
  else if h.length.toNat > sftMaxPayload then
    .unread w { read with header := h } (-1)
  else
    beginPayload w read h

/-- One turn of the read of a header. -/
def headerTurn (w : SftThread) (read : SftRead) (tick : Tick) (state : ReadState) :
    Option (LiveThreadPc × List UInt8) :=
  match readTurn true sftHeaderSize tick state with
  | .again next =>
      some (if next.done < sftHeaderSize then .header w read next else headerRead w read next.buffer,
        next.stream)
  | .leave ending last => some (.unread w read (ReadExact.got ⟨ending, last, []⟩), last.stream)
  | .outOfBounds => none

/-- One turn of the read of a payload. -/
def payloadTurn (w : SftThread) (read : SftRead) (h : SftPacketHeader) (tick : Tick)
    (state : ReadState) : Option (LiveThreadPc × List UInt8) :=
  match readTurn false h.length.toNat tick state with
  | .again next =>
      some (if next.done < h.length.toNat then .payload w read h next
        else .handling w ⟨h, next.buffer, h.length.toNat⟩, next.stream)
  | .leave _ last => some (.unread w { read with header := h, payload := last.buffer } (-1), last.stream)
  | .outOfBounds => none

/-- One step of `sft_stream_thread`: the thread and its socket behind it. -/
def liveThreadStep (running : Bool) (socket : LiveSocket) (t : LiveThreadPc) (event : LiveThreadEvent) :
    Option (LiveThreadPc × LiveSocket) :=
  match t, event with
  | .entry, .enter allocated now garbage =>
      some (if allocated
        then .test (sftThreadStart now) ⟨sftParseHeader [], (List.range sftMaxPayload).map garbage, 0⟩
        else .finished none, socket)
  | .test w read, .test =>
      some (if running
        then .header w read ⟨[], List.replicate sftHeaderSize 0, 0, 0⟩
        else .exiting { w with left := true }, socket)
  | .header w read state, .turn tick =>
      if socket.admits tick.wait then
        (headerTurn w read { tick with running := running }
          { state with stream := socket.incoming }).map fun (t, incoming) =>
            (t, { socket with incoming := incoming })
      else
        none
  | .payload w read h state, .turn tick =>
      if socket.admits tick.wait then
        (payloadTurn w read h { tick with running := running }
          { state with stream := socket.incoming }).map fun (t, incoming) =>
            (t, { socket with incoming := incoming })
      else
        none
  | .handling w read, .handle answers =>
      let handled := (sftHandlePacket w read.header read.payloadSize answers).run fun i =>
        read.payload.getD i 0
      some (if handled.left then .exiting handled else .test handled read, socket)
  | .unread w _ rc, .unread =>
      some (.exiting { w with
        left := true, failed := if rc < 0 then w.failed || running else w.failed }, socket)
  | .exiting w, .exit => some (.finished (some (sftThreadExit w)), socket)
  | _, _ => none

/-! ### The main thread -/

/-- Where the main thread stands. The waiting screen is drawn in three steps: the two flags are read one
    after the other, then the text is copied under its lock. -/
inductive LiveFrametapPc where
  | connect
  | initLock
  | createThread
  | uiTest
  | uiPoll
  | videoTest
  | connectedTest
  | drawStatus (asked : UInt32)
  | stop
  | shutdown
  | join
  | returned (result : SessionResult)
deriving Repr, DecidableEq

/-- What the main thread has drawn: the waiting screen with a text, or the transparent page over the
    video. -/
inductive FrametapScreen where
  | waiting (status : CText 128)
  | clearForVideo
deriving DecidableEq

/-- A session with its socket. -/
structure LiveFrametap where
  main : LiveFrametapPc
  running : Bool
  signalStop : Bool
  userBack : Bool
  uiCleared : Bool
  lastWaitRender : UInt32
  thread : LiveThreadPc
  socket : LiveSocket
  screens : List FrametapScreen

def liveFrametapStart : LiveFrametap where
  main := .connect
  running := true
  signalStop := false
  userBack := false
  uiCleared := false
  lastWaitRender := 0
  thread := .unstarted
  socket := ⟨[], false⟩
  screens := []

/-- The result once the thread is joined. -/
def LiveFrametap.result (s : LiveFrametap) : SessionResult :=
  if s.userBack then
    .userBack
  else if s.signalStop then
    .remoteEnd
  else if s.thread.failed then
    .transportLost
  else
    .remoteEnd

/-- One step of the main thread. `succeeds` is the answer of the call it makes, `action` that of
    `sdl_shell_poll`, `now` that of `SDL_GetTicks`. -/
def liveFrametapMain (s : LiveFrametap) (succeeds : Bool) (action : ShellAction) (now : UInt32) :
    Option LiveFrametap :=
  match s.main with
  | .connect => some { s with main := if succeeds then .initLock else .returned .transportLost }
  | .initLock => some { s with main := if succeeds then .createThread else .returned .error }
  | .createThread =>
      if succeeds then
        some { s with thread := .entry, main := .uiTest }
      else
        some { s with main := .returned .error }
  | .uiTest =>
      some { s with main := if s.signalStop || s.thread.isFinished then .stop else .uiPoll }
  | .uiPoll =>
      match action with
      | .none => some { s with main := if s.uiCleared then .uiTest else .videoTest }
      | .back => some { s with userBack := true, running := false, main := .stop }
      | .quit => some { s with signalStop := true, main := .stop }
  | .videoTest =>
      if s.thread.videoStarted then
        some { s with uiCleared := true, screens := s.screens ++ [.clearForVideo], main := .uiTest }
      else
        some { s with main := .connectedTest }
  | .connectedTest =>
      some { s with main :=
        if s.thread.connected && now - s.lastWaitRender ≥ 500 then .drawStatus now else .uiTest }
  | .drawStatus asked =>
      some { s with
        screens := s.screens ++ [.waiting s.thread.statusHead]
        lastWaitRender := asked
        main := .uiTest }
  | .stop => some { s with running := false, main := .shutdown }
  | .shutdown => some { s with socket := { s.socket with ended := true }, main := .join }
  | .join => if s.thread.isFinished then some { s with main := .returned s.result } else none
  | .returned _ => none

/-- A step of the main thread or of the stream thread, the stop signal, the arrival of bytes, or the close
    by the console. -/
inductive LiveFrametapEvent where
  | main (succeeds : Bool) (action : ShellAction) (now : UInt32)
  | thread (event : LiveThreadEvent)
  | signal
  | arrives (bytes : List UInt8)
  | closes

/-- The session as a transition system; `none` where a thread cannot make the step. -/
def liveFrametapStep (s : LiveFrametap) : LiveFrametapEvent → Option LiveFrametap
  | .main succeeds action now => liveFrametapMain s succeeds action now
  | .thread event =>
      (liveThreadStep s.running s.socket s.thread event).map fun (thread, socket) =>
        { s with thread := thread, socket := socket }
  | .signal => some { s with signalStop := true }
  | .arrives bytes =>
      if s.socket.ended then
        none
      else
        some { s with socket := { s.socket with incoming := s.socket.incoming ++ bytes } }
  | .closes => some { s with socket := { s.socket with ended := true } }

end SysdvrWebos
