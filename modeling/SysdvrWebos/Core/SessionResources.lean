/-
Module: SysdvrWebos.Core.SessionResources
Layer: Core
Purpose: What the sessions acquire and give back (src/webos_main.c, prime_worker, worker_release and
  run_stream_session; src/frametap_backend.c, frametap_run_stream_session and sft_stream_thread;
  src/ndl_media.c, ndl_media_create and ndl_media_destroy): sockets, packet buffers, players and the lock of
  the status text, on every way out. The control flow is that of Sessions; each step here takes the one
  there and does to the resources what the source does at that place. A resource that is given back without
  being held stops the run.
Trusted boundary: the kernel hands out numbers of descriptors and of blocks that are not in use
Main exports: WorkerBuffers, PlayerMemory, preparePlayer, comesToPlayer, SessionLocals, Ledger,
  ledgerStart, LedgerEvent, ledgerStep
Open obligations: none
-/
import SysdvrWebos.Core.Sessions
import SysdvrWebos.Core.TcpConnect

namespace SysdvrWebos

/-- The blocks of memory in use. -/
abbrev Heap := Handles.Table Unit

/-- `malloc`, which brings the given block or NULL. -/
def malloc (heap : Heap) : Option Nat → Option Heap
  | none => some heap
  | some block => Handles.acquire heap block ()

/-- `free`, which ignores NULL. -/
def free (heap : Heap) : Option Nat → Option Heap
  | none => some heap
  | some block => Handles.release heap block

/-- `close` on a variable that holds a descriptor. -/
def closeSocket (k : Kernel) (fd : Option Nat) : Option Kernel := fd.bind k.close

/-- The buffers of a `stream_worker`. -/
structure WorkerBuffers where
  firstPayload : Option Nat
  payload : Option Nat
deriving Repr, DecidableEq

namespace WorkerBuffers

/-- The worker before it is primed. -/
def zero : WorkerBuffers := ⟨none, none⟩

/-- Both buffers are there. -/
def isWhole (b : WorkerBuffers) : Bool := b.firstPayload.isSome && b.payload.isSome

/-- The allocations of `prime_worker`. -/
def allocate (heap : Heap) (b : WorkerBuffers) : Option Heap := do
  let heap ← malloc heap b.firstPayload
  malloc heap b.payload

/-- `worker_release`. -/
def release (heap : Heap) (b : WorkerBuffers) : Option Heap := do
  let heap ← free heap b.firstPayload
  free heap b.payload

end WorkerBuffers

/-! ### The player -/

/-- What `calloc` and `pthread_mutex_init` answer in `ndl_media_create`. -/
structure PlayerMemory where
  block : Option Nat
  lockSucceeds : Bool
deriving Repr, DecidableEq

/-- Memory and mutex are had. -/
def PlayerMemory.allocated (memory : PlayerMemory) : Bool := memory.block.isSome && memory.lockSucceeds

/-- `ndl_media_create`: the block of a player whose lock or whose vendor interface cannot be initialised is
    freed at once. -/
def createPlayer (heap : Heap) (memory : PlayerMemory) (initSucceeds : Bool) : Option (Heap × Option Nat) := do
  let heap ← malloc heap memory.block
  if memory.lockSucceeds && initSucceeds then
    pure (heap, memory.block)
  else
    let heap ← free heap memory.block
    pure (heap, none)

/-- `prepareDecoder`: a player that does not fit is destroyed, and another created in its place, which is
    destroyed again if it cannot be opened. -/
def preparePlayer (heap : Heap) (player : Option Nat) (w : SftThread) (h : SftPacketHeader)
    (memory : PlayerMemory) (answers : SftAnswers) : Option (Heap × Option Nat) :=
  if w.player.isSome ∧ h.width = w.decoderW ∧ h.height = w.decoderH then
    some (heap, player)
  else do
    let heap ← free heap player
    let (heap, player) ← createPlayer heap memory answers.initSucceeds
    if answers.loadSucceeds then
      pure (heap, player)
    else
      let heap ← free heap player
      pure (heap, none)

/-- The packet with which a turn of the packet loop comes to the player, and the thread as it then stands. -/
def comesToPlayer (w : SftThread) (c : SftConnection) (turn : SftTurn) : Option (SftThread × SftPacketHeader) :=
  if !turn.running then
    none
  else
    match sftReadPacket sftMaxPayload c.read c.ticks c.stream with
    | .error _ => none
    | .ok r =>
        let h := r.read.header
        if r.rc ≤ 0 ∨ sftPacketIsStatus h ∨ sftPacketIsAudio h ∨ !sftPacketIsVideo h then
          none
        else
          let key := (sftPacketIsKey h r.read.payloadSize).run fun i => r.read.payload.getD i 0
          let w := noteResolution (noteSequence w h key turn.answers.now) h key turn.answers.now
          if w.waitingKey && !key then none else some (w, h)

/-- The variables of the session that name what it holds; those of what was given back are cleared here. -/
structure SessionLocals where
  videoFd : Option Nat
  audioFd : Option Nat
  video : WorkerBuffers
  audio : WorkerBuffers
  fd : Option Nat
  payload : Option Nat
  player : Option Nat
  statusLock : Bool
deriving Repr, DecidableEq

def SessionLocals.zero : SessionLocals := ⟨none, none, .zero, .zero, none, none, none, false⟩

/-- The sessions of main with all that the process holds. -/
structure Ledger where
  playback : Playback
  kernel : Kernel
  heap : Heap
  locals : SessionLocals

def ledgerStart (kernel : Kernel) (heap : Heap) : Ledger := ⟨playbackStart, kernel, heap, .zero⟩

namespace Ledger

variable (l : Ledger)

/-- The sockets of a SysDVR session are closed, that of the audio stream first. -/
def closeBoth : Option Ledger := do
  let kernel ← closeSocket l.kernel l.locals.audioFd
  let kernel ← closeSocket kernel l.locals.videoFd
  pure { l with kernel := kernel, locals := { l.locals with audioFd := none, videoFd := none } }

def closeVideo : Option Ledger := do
  let kernel ← closeSocket l.kernel l.locals.videoFd
  pure { l with kernel := kernel, locals := { l.locals with videoFd := none } }

/-- The socket of a Frame Tap session is closed. -/
def closeFrametap : Option Ledger := do
  let kernel ← closeSocket l.kernel l.locals.fd
  pure { l with kernel := kernel, locals := { l.locals with fd := none } }

/-- `pthread_mutex_destroy`. -/
def destroyLock : Option Ledger :=
  if l.locals.statusLock then some { l with locals := { l.locals with statusLock := false } } else none

/-- The buffers of both workers are freed. -/
def releaseWorkers : Option Ledger := do
  let heap ← l.locals.video.release l.heap
  let heap ← l.locals.audio.release heap
  pure { l with heap := heap, locals := { l.locals with video := .zero, audio := .zero } }

/-- `ndl_media_destroy`. -/
def destroyPlayer : Option Ledger := do
  let heap ← free l.heap l.locals.player
  pure { l with heap := heap, locals := { l.locals with player := none } }

end Ledger

/-- What happens next: main calls a session or takes its result, a session creates its player in the given
    memory, it connects with what the kernel answers, its workers are primed in the given buffers, the stream
    thread enters with the given buffer or makes a turn with the given memory for a player, or another step
    of the session. -/
inductive LedgerEvent where
  | call (source : StreamSource)
  | finish
  | create (memory : PlayerMemory) (initSucceeds : Bool)
  | connect (gai : Option (List AddressAnswers))
  | prime (buffers : StreamKind → WorkerBuffers) (reads : StreamKind → List PacketRead)
  | enter (payload : Option Nat) (now : UInt64) (connection : SftConnection)
  | turn (memory : PlayerMemory) (turn : SftTurn)
  | stream (event : StreamRunEvent)
  | frametap (event : FrametapRunEvent)

/-- `ndl_media_create` in `run_stream_session`. -/
def streamCreate (l : Ledger) (memory : PlayerMemory) (initSucceeds : Bool) : Option Ledger := do
  let playback ← playbackStep l.playback (.stream (.create memory.allocated initSucceeds))
  let (heap, player) ← createPlayer l.heap memory initSucceeds
  pure { l with playback := playback, heap := heap, locals := { l.locals with player := player } }

/-- `connect` and what follows it at once in `run_stream_session`. -/
def streamConnect (l : Ledger) (kind : StreamKind) (gai : Option (List AddressAnswers)) : Option Ledger := do
  let (fd, kernel) ← sysdvrTcpConnect l.kernel gai
  let playback ← playbackStep l.playback (.stream (.connect fd.isSome))
  let l := { l with playback := playback, kernel := kernel }
  match kind, fd with
  | .video, some fd => pure { l with locals := { l.locals with videoFd := some fd } }
  | .audio, some fd => pure { l with locals := { l.locals with audioFd := some fd } }
  | .video, none => pure l
  | .audio, none => l.closeVideo

/-- `SFT_CONNECT_TIMEOUT_MS`. -/
def sftConnectTimeoutMs : Int := 3000

/-- `connect` in `frametap_run_stream_session`. -/
def frametapConnect (l : Ledger) (gai : Option (List AddressAnswers)) : Option Ledger := do
  let (fd, kernel) ← sysdvrTcpConnectTimeout l.kernel sftConnectTimeoutMs gai
  let playback ← playbackStep l.playback (.frametap (.main fd.isSome .none))
  pure { l with playback := playback, kernel := kernel, locals := { l.locals with fd := fd } }

/-- The priming: the audio worker gets its buffers only once the video worker is primed. -/
def streamPrime (l : Ledger) (buffers : StreamKind → WorkerBuffers)
    (reads : StreamKind → List PacketRead) : Option Ledger := do
  let playback ← playbackStep l.playback (.stream (.prime (fun kind => (buffers kind).isWhole) reads))
  let heap ← (buffers .video).allocate l.heap
  let audio := match primeWorker (buffers .video).isWhole .video (reads .video) with
    | .ok (some _) => buffers .audio
    | _ => .zero
  let heap ← audio.allocate heap
  let l := { l with
    playback := playback, heap := heap, locals := { l.locals with video := buffers .video, audio := audio } }
  match playback.current with
  | .stream ⟨.giveUp _, _⟩ => l.releaseWorkers >>= Ledger.closeBoth
  | _ => pure l

/-- A handshake that fails closes what is open. -/
def streamHandshake (l : Ledger) (kind : StreamKind) (succeeds : Bool) : Option Ledger := do
  let playback ← playbackStep l.playback (.stream (.handshake succeeds))
  let l := { l with playback := playback }
  match kind, succeeds with
  | _, true => pure l
  | .video, false => l.closeVideo
  | .audio, false => l.closeBoth

/-- The other steps of `run_stream_session`: its end behind the joins gives everything back. -/
def streamLedgerStep (l : Ledger) (pc : StreamRunPc) (event : StreamRunEvent) : Option Ledger :=
  match pc, event with
  | .handshake kind _, .handshake succeeds => streamHandshake l kind succeeds
  | .streaming _ _, .destroy => do
      let playback ← playbackStep l.playback (.stream .destroy)
      { l with playback := playback }.releaseWorkers >>= Ledger.closeBoth >>= Ledger.destroyPlayer
  | .giveUp _, .destroy => do
      let playback ← playbackStep l.playback (.stream .destroy)
      { l with playback := playback }.destroyPlayer
  -- these come with what the kernel or the allocator answers
  | _, .create _ _ => none
  | _, .connect _ => none
  | _, .prime _ _ => none
  | _, event => (playbackStep l.playback (.stream event)).map fun playback =>
      { l with playback := playback }

/-- The turn, with what the allocator has answered. -/
def SftTurn.within (turn : SftTurn) (memory : PlayerMemory) : SftTurn :=
  { turn with answers := { turn.answers with allocated := memory.allocated } }

/-- The player of `sft_stream_thread` over a turn. -/
def turnPlayer (heap : Heap) (player : Option Nat) (run : FrametapRun) (memory : PlayerMemory) (turn : SftTurn) :
    Option (Heap × Option Nat) :=
  match run.thread with
  | .loop w c =>
      match comesToPlayer w c { turn with running := run.running } with
      | some (w, h) => preparePlayer heap player w h memory turn.answers
      | none => some (heap, player)
  | _ => some (heap, player)

/-- A turn of the packet loop of `sft_stream_thread`. -/
def frametapTurn (l : Ledger) (run : FrametapRun) (memory : PlayerMemory) (turn : SftTurn) : Option Ledger := do
  let playback ← playbackStep l.playback (.frametap (.turn (turn.within memory)))
  let (heap, player) ← turnPlayer l.heap l.locals.player run memory (turn.within memory)
  pure { l with playback := playback, heap := heap, locals := { l.locals with player := player } }

/-- The other steps of `frametap_run_stream_session` and of its thread. -/
def frametapLedgerStep (l : Ledger) (pc : FrametapPc) (event : FrametapRunEvent) : Option Ledger := do
  let playback ← playbackStep l.playback (.frametap event)
  let l := { l with playback := playback }
  match pc, event with
  -- these come with what the kernel or the allocator answers
  | .connect, .main _ _ => none
  | .initLock, .main true _ => pure { l with locals := { l.locals with statusLock := true } }
  | .initLock, .main false _ => l.closeFrametap
  | .createThread, .main false _ => l.destroyLock >>= Ledger.closeFrametap
  | .join, .main _ _ => l.closeFrametap >>= Ledger.destroyLock
  | _, .enter _ _ _ => none
  | _, .turn _ => none
  | _, .exit => do
      let l ← l.destroyPlayer
      let heap ← free l.heap l.locals.payload
      pure { l with heap := heap, locals := { l.locals with payload := none } }
  | _, _ => pure l

/-- The sessions with their resources; `none` where a thread cannot make the step, or where something is
    given back that is not held. -/
def ledgerStep (l : Ledger) (event : LedgerEvent) : Option Ledger :=
  match l.playback.current, event with
  | _, .call source => (playbackStep l.playback (.call source)).map fun playback =>
      { l with playback := playback, locals := .zero }
  | _, .finish => (playbackStep l.playback .finish).map fun playback => { l with playback := playback }
  | .stream _, .create memory initSucceeds => streamCreate l memory initSucceeds
  | .stream ⟨.connect kind _, _⟩, .connect gai => streamConnect l kind gai
  | .frametap ⟨.connect, _, _, _, _⟩, .connect gai => frametapConnect l gai
  | .stream _, .prime buffers reads => streamPrime l buffers reads
  | .frametap _, .enter payload now connection => do
      let playback ← playbackStep l.playback (.frametap (.enter payload.isSome now connection))
      let heap ← malloc l.heap payload
      pure { l with playback := playback, heap := heap, locals := { l.locals with payload := payload } }
  | .frametap run, .turn memory turn => frametapTurn l run memory turn
  | .stream run, .stream event => streamLedgerStep l run.pc event
  | .frametap run, .frametap event => frametapLedgerStep l run.main event
  | _, _ => none

end SysdvrWebos
