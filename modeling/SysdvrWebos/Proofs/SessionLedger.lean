/-
Module: SysdvrWebos.Proofs.SessionLedger
Layer: Proofs
Purpose: The books of the sessions balance. Over any number of sessions of both backends, on every way out of
  them and under every interleaving of their threads, the process holds exactly the sockets, the buffers and the
  player that the place of the session calls for: nothing leaks, nothing is given back twice, and a thread that
  reads has its socket and its buffers.
Trusted boundary: none (fully proved)
Main exports: HoldsConnected, turn_player, HoldsBlocks, Ledger.Books, turnPlayer_holds, Ledger.Books.step,
  Ledger.Books.streaming, Ledger.Books.looping, Ledger.Books.unhindered, sessions_keep_their_books
Open obligations: none
-/
import SysdvrWebos.Core.SessionResources
import SysdvrWebos.Lib.Runs
import SysdvrWebos.Proofs.ConnectAttempts
import SysdvrWebos.Proofs.FeedStep

namespace SysdvrWebos

/-! ### Sockets -/

/-- Over the descriptors of `base`, the process holds exactly these, all connected. -/
def HoldsConnected (base : Handles.Table SocketDescriptor) (fds : List Nat)
    (table : Handles.Table SocketDescriptor) : Prop :=
  ∃ held, held.map Prod.fst = fds ∧ (∀ p ∈ held, p.2.connected = true) ∧ Handles.Holds base held table

namespace HoldsConnected

variable {base table : Handles.Table SocketDescriptor} {fds : List Nat} {fd : Nat}

theorem start (base : Handles.Table SocketDescriptor) : HoldsConnected base [] base :=
  ⟨[], rfl, by simp, .start base⟩

theorem nothing (holds : HoldsConnected base [] table) : table = base := by
  rcases holds with ⟨held, none_, _, holds⟩
  cases List.map_eq_nil_iff.mp none_
  exact holds.nothing

theorem acquire (holds : HoldsConnected base fds table) (free : table fd = none) (flags : UInt32) :
    HoldsConnected base (fd :: fds) (Function.update table fd (some ⟨flags, true⟩)) := by
  rcases holds with ⟨held, rfl, connected, holds⟩
  exact ⟨_, rfl, List.forall_mem_cons.mpr ⟨rfl, connected⟩, holds.acquire free ⟨flags, true⟩⟩

theorem has (holds : HoldsConnected base fds table) (member : fd ∈ fds) :
    ∃ flags, table fd = some ⟨flags, true⟩ := by
  rcases holds with ⟨held, rfl, connected, holds⟩
  rcases List.mem_map.mp member with ⟨⟨fd, flags, _⟩, inHeld, rfl⟩
  cases connected _ inHeld
  exact ⟨flags, holds.has _ inHeld⟩

/-- The first of them can be closed. -/
theorem close {k : Kernel} (holds : HoldsConnected base (fd :: fds) k.table) :
    ∃ k', k.close fd = some k' ∧ HoldsConnected base fds k'.table := by
  rcases holds with ⟨held, same, connected, holds⟩
  rcases List.map_eq_cons_iff.mp same with ⟨⟨fd, d⟩, rest, rfl, rfl, rfl⟩
  rcases holds.release with ⟨released, holds⟩
  refine ⟨_, by rw [Kernel.close, released]; rfl, rest, rfl, ?_, holds⟩
  exact fun p member => connected p (List.mem_cons_of_mem _ member)

end HoldsConnected

/-- A call of `connect` leaves the descriptor it returns and no other. -/
theorem HoldsConnected.connect {base : Handles.Table SocketDescriptor} {fds : List Nat} {k k' : Kernel}
    {timeoutMs : Int} {gai : Option (List AddressAnswers)} {fd : Option Nat}
    (holds : HoldsConnected base fds k.table)
    (returned : sysdvrTcpConnectTimeout k timeoutMs gai = some (fd, k')) :
    HoldsConnected base (fd.toList ++ fds) k'.table := by
  cases gai with
  | none =>
      cases returned
      exact holds
  | some addresses =>
      rcases Option.map_eq_some_iff.mp returned with ⟨⟨made, lastErrno, after⟩, loop, same⟩
      rcases connectLoop_holds loop with ⟨_, unconnected, connected⟩
      cases made with
      | none =>
          have table := unconnected rfl
          cases lastErrno <;> cases same
          · exact table.symm ▸ holds
          · exact table.symm ▸ holds
      | some made =>
          rcases connected made rfl with ⟨free, flags, table⟩
          cases same
          rw [table]
          exact holds.acquire free flags

/-! ### The player over a turn -/

/-- A player that is put in place of one that does not fit is there if all its calls succeed. -/
theorem prepareDecoder_player {w : SftThread} {h : SftPacketHeader} {answers : SftAnswers}
    (misfits : ¬ w.feed.Fits h) : (prepareDecoder w h answers).player.isSome
      = ((answers.allocated && answers.initSucceeds) && answers.loadSucceeds) := by
  have other : ¬ (w.player.isSome = true ∧ h.width = w.decoderW ∧ h.height = w.decoderH) := misfits
  unfold prepareDecoder
  rw [if_neg other]
  simp only [ndlMediaCreate, ndlMediaOpenVideoOnly, ndlMediaOpenInternal]
  cases answers.allocated with
  | false => rfl
  | true =>
    cases answers.initSucceeds with
    | false => rfl
    | true =>
      cases answers.loadSucceeds with
      | false => rfl
      | true =>
          exact congrArg Option.isSome (congrArg FeedState.player (openAudioOnce_feed _ answers).1)

/-- Handing a frame over leaves the player open. -/
theorem submitFrame_player (w : SftThread) (data : List UInt8) (answers : SftAnswers) :
    (submitFrame w data answers).player = w.player := by
  unfold submitFrame
  dsimp only
  split
  · rfl
  · split <;> rfl

/-- The video branch keeps the player or prepares it. -/
theorem run_handleVideo_player {w u : SftThread} {h : SftPacketHeader} {size : Nat} {answers : SftAnswers}
    {memory : Nat → UInt8} {key : Bool} (isKey : (sftPacketIsKey h size).run memory = key)
    (noted : noteResolution (noteSequence w h key answers.now) h key answers.now = u) :
    ((handleVideo w h size answers).run memory).player
      = if u.waitingKey && !key then w.player else (prepareDecoder u h answers).player := by
  have same : u.player = w.player := by
    rw [← noted]
    exact congrArg FeedState.player (checks_feed w h key answers.now).1
  unfold handleVideo
  rw [Scan.run_bind, isKey]
  simp only [noted, Scan.run_ite, Scan.run_pure, Scan.run_bind]
  split
  · exact (congrArg FeedState.player (withhold_feed u answers.now).1).trans same
  · split
    · rfl
    · exact submitFrame_player _ _ _

/-- What a turn of the packet loop makes of the player. -/
theorem turn_player {w next : SftThread} {c after : SftConnection} {turn : SftTurn}
    (turned : sftStreamTurn w c turn = .ok (next, after)) :
    match comesToPlayer w c turn with
    | none => next.player = w.player
    | some (u, h) => u.player = w.player ∧ next.player = (prepareDecoder u h turn.answers).player := by
  unfold sftStreamTurn at turned
  unfold comesToPlayer
  split at turned
  · next off =>
      cases turned
      rw [if_pos off]
  · next on =>
      rw [if_neg on]
      cases read : sftReadPacket sftMaxPayload c.read c.ticks c.stream with
      | error halt =>
          rw [read] at turned
          cases turned
      | ok r =>
          rw [read] at turned
          simp only [bind, Except.bind, pure, Except.pure] at turned ⊢
          split at turned
          · next ended =>
              cases turned
              rw [if_pos (Or.inl (Int.le_of_eq ended))]
          · split at turned
            · next failed =>
                cases turned
                rw [if_pos (Or.inl (Int.le_of_lt failed))]
            · next received failed =>
                have positive : ¬ r.rc ≤ 0 := by omega
                cases turned
                cases video : sftPacketIsVideo r.read.header with
                | false =>
                    rw [if_pos (by simp), run_sftHandlePacket]
                    exact congrArg FeedState.player (handle_other video w).1
                | true =>
                    rcases excluded_of_video video with ⟨status, audio⟩
                    rw [if_neg (by simp [positive, status, audio])]
                    have handled := @run_handleVideo_player w _ r.read.header r.read.payloadSize turn.answers
                      (fun i => r.read.payload.getD i 0) _ rfl rfl
                    have same := fun key =>
                      congrArg FeedState.player (checks_feed w r.read.header key turn.answers.now).1
                    have branch : sftHandlePacket w r.read.header r.read.payloadSize turn.answers
                        = handleVideo w r.read.header r.read.payloadSize turn.answers := by
                      rw [sftHandlePacket, if_neg (by simp [status]), if_neg (by simp [audio]), if_pos video]
                    rw [branch, handled]
                    generalize (sftPacketIsKey r.read.header r.read.payloadSize).run
                      (fun i => r.read.payload.getD i 0) = key
                    cases (noteResolution (noteSequence w r.read.header key turn.answers.now) r.read.header key
                        turn.answers.now).waitingKey && !key with
                    | true => rfl
                    | false => exact ⟨same key, rfl⟩

/-! ### Blocks -/

/-- Over the blocks of `base`, the process holds exactly these. -/
def HoldsBlocks (base : Heap) (blocks : List Nat) (heap : Heap) : Prop :=
  Handles.Holds base (blocks.map fun block => (block, ())) heap

/-- The buffers of a worker, the later one first. -/
def WorkerBuffers.list (b : WorkerBuffers) : List Nat := b.payload.toList ++ b.firstPayload.toList

namespace HoldsBlocks

variable {base heap after : Heap} {blocks front back : List Nat}

theorem malloc {p : Option Nat} (holds : HoldsBlocks base blocks heap)
    (got : SysdvrWebos.malloc heap p = some after) : HoldsBlocks base (p.toList ++ blocks) after := by
  cases p with
  | none =>
      cases got
      exact holds
  | some block =>
      rcases Handles.free_of_acquire got with ⟨free, rfl⟩
      exact Handles.Holds.acquire holds free ()

theorem free {p : Option Nat} (holds : HoldsBlocks base (front ++ (p.toList ++ back)) heap) :
    ∃ after, SysdvrWebos.free heap p = some after ∧ HoldsBlocks base (front ++ back) after := by
  cases p with
  | none => exact ⟨heap, rfl, holds⟩
  | some block =>
      unfold HoldsBlocks at holds ⊢
      rw [List.map_append, Option.toList_some, List.singleton_append, List.map_cons] at holds
      rw [List.map_append]
      exact holds.release_mid

theorem allocate {b : WorkerBuffers} (holds : HoldsBlocks base blocks heap)
    (got : b.allocate heap = some after) : HoldsBlocks base (b.list ++ blocks) after := by
  rcases Option.bind_eq_some_iff.mp got with ⟨middle, first, second⟩
  rw [WorkerBuffers.list, List.append_assoc]
  exact (holds.malloc first).malloc second

theorem release {b : WorkerBuffers} (holds : HoldsBlocks base (front ++ (b.list ++ back)) heap) :
    ∃ after, b.release heap = some after ∧ HoldsBlocks base (front ++ back) after := by
  rw [WorkerBuffers.list, List.append_assoc, ← List.append_assoc] at holds
  rcases holds.free with ⟨middle, first, rest⟩
  rw [List.append_assoc] at rest
  rcases rest.free with ⟨after, second, rest⟩
  exact ⟨after, Option.bind_eq_some_iff.mpr ⟨middle, first, second⟩, rest⟩

/-- The order in which blocks are held does not matter. -/
theorem swap (holds : HoldsBlocks base (front ++ back) heap) : HoldsBlocks base (back ++ front) heap :=
  Handles.Holds.perm holds (List.perm_append_comm.map _)

/-- A player that is created holds its block, and one that is not holds nothing. -/
theorem createPlayer {memory : PlayerMemory} (holds : HoldsBlocks base blocks heap)
    (got : SysdvrWebos.malloc heap memory.block = some after) (initSucceeds : Bool) :
    ∃ rest player, SysdvrWebos.createPlayer heap memory initSucceeds = some (rest, player) ∧
      HoldsBlocks base (player.toList ++ blocks) rest ∧
      player.isSome = (memory.allocated && initSucceeds) := by
  have held : HoldsBlocks base ([] ++ (memory.block.toList ++ blocks)) after := holds.malloc got
  unfold SysdvrWebos.createPlayer
  cases ready : memory.lockSucceeds && initSucceeds with
  | true =>
      rw [Bool.and_eq_true] at ready
      refine ⟨after, memory.block, Option.bind_eq_some_iff.mpr ⟨_, got, rfl⟩, held, ?_⟩
      rw [PlayerMemory.allocated, ready.1, ready.2, Bool.and_true, Bool.and_true]
  | false =>
      rcases held.free with ⟨rest, freed, held⟩
      refine ⟨rest, none, Option.bind_eq_some_iff.mpr ⟨_, got, Option.bind_eq_some_iff.mpr ⟨_, freed, rfl⟩⟩,
        held, ?_⟩
      rw [PlayerMemory.allocated, Bool.and_assoc, ready, Bool.and_false]
      rfl

/-- What `prepareDecoder` makes of the player it makes of its block. -/
theorem preparePlayer {player : Option Nat} {memory : PlayerMemory} {w : SftThread} {h : SftPacketHeader}
    {answers : SftAnswers} (holds : HoldsBlocks base (player.toList ++ blocks) heap)
    (same : player.isSome = w.player.isSome) (allocated : answers.allocated = memory.allocated)
    (granted : ¬ w.feed.Fits h → ∀ freed, SysdvrWebos.free heap player = some freed →
      ∃ after, SysdvrWebos.malloc freed memory.block = some after) :
    ∃ rest next, SysdvrWebos.preparePlayer heap player w h memory answers = some (rest, next) ∧
      HoldsBlocks base (next.toList ++ blocks) rest ∧
      next.isSome = (prepareDecoder w h answers).player.isSome := by
  unfold SysdvrWebos.preparePlayer
  by_cases fits : w.feed.Fits h
  · have here : w.player.isSome = true ∧ h.width = w.decoderW ∧ h.height = w.decoderH := fits
    rw [if_pos here, prepareDecoder_fits fits]
    exact ⟨heap, player, rfl, holds, same⟩
  · have other : ¬ (w.player.isSome = true ∧ h.width = w.decoderW ∧ h.height = w.decoderH) := fits
    rw [if_neg other, prepareDecoder_player fits, allocated]
    have front : HoldsBlocks base ([] ++ (player.toList ++ blocks)) heap := holds
    rcases front.free with ⟨freed, isFreed, held⟩
    rcases granted fits freed isFreed with ⟨after, got⟩
    rcases held.createPlayer got answers.initSucceeds with ⟨rest, next, created, held, created_⟩
    cases answers.loadSucceeds with
    | true =>
        refine ⟨rest, next, ?_, held, by rw [created_, Bool.and_true]⟩
        exact Option.bind_eq_some_iff.mpr ⟨_, isFreed, Option.bind_eq_some_iff.mpr ⟨_, created, rfl⟩⟩
    | false =>
        have front : HoldsBlocks base ([] ++ (next.toList ++ blocks)) rest := held
        rcases front.free with ⟨last, destroyed, held⟩
        refine ⟨last, none, ?_, held, by rw [Bool.and_false]; rfl⟩
        exact Option.bind_eq_some_iff.mpr ⟨_, isFreed, Option.bind_eq_some_iff.mpr ⟨_, created,
          Option.bind_eq_some_iff.mpr ⟨_, destroyed, rfl⟩⟩⟩

theorem distinct (holds : HoldsBlocks base blocks heap) : blocks.Nodup := by
  have nodup := Handles.Holds.distinct holds
  rwa [List.map_map, show Prod.fst ∘ (fun block : Nat => (block, ())) = id from rfl, List.map_id] at nodup

theorem has {block : Nat} (holds : HoldsBlocks base blocks heap) (member : block ∈ blocks) :
    heap block = some () :=
  Handles.Holds.has holds _ (List.mem_map_of_mem member)

end HoldsBlocks

/-! ### What a session owns -/

theorem exists_of_isSome {value : Option Nat} (there : value.isSome = true) : ∃ n, value = some n :=
  Option.isSome_iff_exists.mp there

theorem none_of_isSome {value : Option Nat} (absent : value.isSome = false) : value = none :=
  Option.isNone_iff_eq_none.mp (Option.isSome_eq_false_iff.mp absent)

namespace SessionLocals

/-- The sockets held, the latest first. -/
def sockets (s : SessionLocals) : List Nat := s.audioFd.toList ++ (s.videoFd.toList ++ s.fd.toList)

/-- The blocks held, the latest first. -/
def blocks (s : SessionLocals) : List Nat :=
  s.audio.list ++ (s.video.list ++ (s.payload.toList ++ s.player.toList))

end SessionLocals

namespace StreamRunPc

/-- The socket of the video stream is open. -/
def hasVideo : StreamRunPc → Bool
  | .handshake _ _ | .connect .audio _ | .prime _ | .streaming _ _ => true
  | _ => false

/-- The socket of the audio stream is open. -/
def hasAudio : StreamRunPc → Bool
  | .handshake .audio _ | .prime _ | .streaming _ _ => true
  | _ => false

/-- The workers have their buffers. -/
def hasBuffers : StreamRunPc → Bool
  | .streaming _ _ => true
  | _ => false

/-- The player is there. -/
def hasPlayer : StreamRunPc → Bool
  | .create | .returned _ => false
  | _ => true

/-- The variables of the session name what its place calls for. -/
structure Owns (pc : StreamRunPc) (s : SessionLocals) : Prop where
  video : s.videoFd.isSome = pc.hasVideo
  audio : s.audioFd.isSome = pc.hasAudio
  player : s.player.isSome = pc.hasPlayer
  whole : pc.hasBuffers = true → s.video.isWhole = true ∧ s.audio.isWhole = true
  bare : pc.hasBuffers = false → s.video = .zero ∧ s.audio = .zero
  rest : s.fd = none ∧ s.payload = none ∧ s.statusLock = false

end StreamRunPc

namespace FrametapPc

/-- The socket is open. -/
def hasSocket : FrametapPc → Bool
  | .connect | .returned _ => false
  | _ => true

/-- The lock of the status text is initialised. -/
def hasLock : FrametapPc → Bool
  | .connect | .initLock | .returned _ => false
  | _ => true

/-- The stream thread may be there. -/
def hasThread : FrametapPc → Bool
  | .uiTest | .uiPoll | .stop | .join => true
  | _ => false

end FrametapPc

/-- The stream thread has its payload buffer. -/
def SftThreadPc.hasPayload : SftThreadPc → Bool
  | .loop _ _ => true
  | _ => false

/-- The stream thread has a player. -/
def SftThreadPc.hasPlayer : SftThreadPc → Bool
  | .loop w _ => w.player.isSome
  | _ => false

/-- The stream thread has not begun or has come back. -/
def SftThreadPc.isIdle : SftThreadPc → Bool
  | .unstarted | .finished _ _ => true
  | _ => false

theorem SftThreadPc.hasPayload_of_isIdle {thread : SftThreadPc} (idle : thread.isIdle = true) :
    thread.hasPayload = false := by
  cases thread <;> first | rfl | cases idle

theorem SftThreadPc.hasPlayer_of_isIdle {thread : SftThreadPc} (idle : thread.isIdle = true) :
    thread.hasPlayer = false := by
  cases thread <;> first | rfl | cases idle

/-- The variables of a Frame Tap session name what its place and that of its thread call for. -/
structure FrametapRun.Owns (run : FrametapRun) (s : SessionLocals) : Prop where
  fd : s.fd.isSome = run.main.hasSocket
  lock : s.statusLock = run.main.hasLock
  payload : s.payload.isSome = run.thread.hasPayload
  player : s.player.isSome = run.thread.hasPlayer
  thread : run.main.hasThread = false → run.thread.isIdle = true
  rest : s.videoFd = none ∧ s.audioFd = none ∧ s.video = .zero ∧ s.audio = .zero

/-- The variables name what the session main is in calls for. -/
def CurrentSession.Owns (current : CurrentSession) (s : SessionLocals) : Prop :=
  match current with
  | .idle => s.sockets = [] ∧ s.blocks = []
  | .stream run => run.pc.Owns s
  | .frametap run => run.Owns s

/-- A session that has returned names nothing. -/
theorem CurrentSession.Owns.whenReturned {current : CurrentSession} {s : SessionLocals}
    (owns : current.Owns s) (returned : current.isReturned = true) : CurrentSession.idle.Owns s := by
  cases current with
  | idle => cases returned
  | stream run =>
      rcases run with ⟨pc, calls⟩
      cases pc <;> try cases returned
      rcases owns.bare rfl with ⟨video, audio⟩
      rcases owns.rest with ⟨fd, payload, _⟩
      have noVideo := none_of_isSome owns.video
      have noAudio := none_of_isSome owns.audio
      have player := none_of_isSome owns.player
      constructor
      · rw [SessionLocals.sockets, noVideo, noAudio, fd]
        rfl
      · rw [SessionLocals.blocks, video, audio, payload, player]
        rfl
  | frametap run =>
      rcases run with ⟨pc, running, signalStop, userBack, thread⟩
      cases pc <;> try cases returned
      rcases owns.rest with ⟨noVideo, noAudio, video, audio⟩
      have fd := none_of_isSome owns.fd
      have payload := none_of_isSome
        (owns.payload.trans (SftThreadPc.hasPayload_of_isIdle (owns.thread rfl)))
      have player := none_of_isSome
        (owns.player.trans (SftThreadPc.hasPlayer_of_isIdle (owns.thread rfl)))
      constructor
      · rw [SessionLocals.sockets, noVideo, noAudio, fd]
        rfl
      · rw [SessionLocals.blocks, video, audio, payload, player]
        rfl

/-- Over what was there before, the process holds what its variables name. -/
structure Ledger.Holding (kernel : Kernel) (heap : Heap) (l : Ledger) : Prop where
  sockets : HoldsConnected kernel.table l.locals.sockets l.kernel.table
  blocks : HoldsBlocks heap l.locals.blocks l.heap

/-- The books balance. -/
structure Ledger.Books (kernel : Kernel) (heap : Heap) (l : Ledger) : Prop where
  holding : l.Holding kernel heap
  owns : l.playback.current.Owns l.locals

/-! ### Giving back -/

namespace Ledger.Holding

variable {kernel : Kernel} {heap : Heap} {l : Ledger}

theorem closeVideo {fd : Nat} (holding : l.Holding kernel heap) (audio : l.locals.audioFd = none)
    (video : l.locals.videoFd = some fd) :
    ∃ k, l.closeVideo = some { l with kernel := k, locals := { l.locals with videoFd := none } } ∧
      Holding kernel heap { l with kernel := k, locals := { l.locals with videoFd := none } } := by
  have held := holding.sockets
  rw [SessionLocals.sockets, audio, video] at held
  rcases HoldsConnected.close held with ⟨k, closed, rest⟩
  refine ⟨k, ?_, ?_, holding.blocks⟩
  · rw [Ledger.closeVideo, closeSocket, video]
    simp only [Option.bind_some, closed]
    rfl
  · rw [SessionLocals.sockets, audio]
    exact rest

theorem closeBoth {videoFd audioFd : Nat} (holding : l.Holding kernel heap)
    (audio : l.locals.audioFd = some audioFd) (video : l.locals.videoFd = some videoFd) :
    ∃ k, l.closeBoth
        = some { l with kernel := k, locals := { l.locals with audioFd := none, videoFd := none } } ∧
      Holding kernel heap
        { l with kernel := k, locals := { l.locals with audioFd := none, videoFd := none } } := by
  have held := holding.sockets
  rw [SessionLocals.sockets, audio, video] at held
  rcases HoldsConnected.close held with ⟨first, closed, rest⟩
  rcases HoldsConnected.close rest with ⟨k, closed', rest⟩
  refine ⟨k, ?_, rest, holding.blocks⟩
  rw [Ledger.closeBoth]
  simp only [closeSocket, audio, video, bind, Option.bind, closed, closed']
  rfl

theorem closeFrametap {fd : Nat} (holding : l.Holding kernel heap) (audio : l.locals.audioFd = none)
    (video : l.locals.videoFd = none) (opened : l.locals.fd = some fd) :
    ∃ k, l.closeFrametap = some { l with kernel := k, locals := { l.locals with fd := none } } ∧
      Holding kernel heap { l with kernel := k, locals := { l.locals with fd := none } } := by
  have held := holding.sockets
  rw [SessionLocals.sockets, audio, video, opened] at held
  rcases HoldsConnected.close held with ⟨k, closed, rest⟩
  refine ⟨k, ?_, ?_, holding.blocks⟩
  · rw [Ledger.closeFrametap, closeSocket, opened]
    simp only [Option.bind_some, closed]
    rfl
  · rw [SessionLocals.sockets, audio, video]
    exact rest

theorem releaseWorkers (holding : l.Holding kernel heap) :
    ∃ rest, l.releaseWorkers
        = some { l with heap := rest, locals := { l.locals with video := .zero, audio := .zero } } ∧
      Holding kernel heap
        { l with heap := rest, locals := { l.locals with video := .zero, audio := .zero } } := by
  rcases HoldsBlocks.release holding.blocks with ⟨middle, first, held⟩
  have front : HoldsBlocks heap ([] ++ (l.locals.audio.list ++
      (l.locals.payload.toList ++ l.locals.player.toList))) middle := held
  rcases front.release with ⟨rest, second, held⟩
  refine ⟨rest, ?_, holding.sockets, held⟩
  rw [Ledger.releaseWorkers]
  simp only [bind, Option.bind, first, second]
  rfl

theorem destroyPlayer (holding : l.Holding kernel heap) :
    ∃ rest, l.destroyPlayer = some { l with heap := rest, locals := { l.locals with player := none } } ∧
      Holding kernel heap { l with heap := rest, locals := { l.locals with player := none } } := by
  have held := holding.blocks
  rw [SessionLocals.blocks, ← List.append_assoc, ← List.append_assoc, ← List.append_nil l.locals.player.toList]
    at held
  rcases held.free with ⟨rest, freed, held⟩
  rw [List.append_assoc, List.append_assoc] at held
  exact ⟨rest, Option.bind_eq_some_iff.mpr ⟨_, freed, rfl⟩, holding.sockets, held⟩

end Ledger.Holding

/-! ### Steps of run_stream_session -/

/-- The outcome of a step goes as the sessions alone do, and the books balance behind it. -/
def Follows (kernel : Kernel) (heap : Heap) (outcome : Option Ledger) (playback : Playback) : Prop :=
  ∃ next, outcome = some next ∧ next.playback = playback ∧ next.Books kernel heap

section StreamSteps

variable {kernel : Kernel} {heap : Heap} {l : Ledger} {run : StreamRun} {playback : Playback}

/-- A step of the session alone, in terms of its run. -/
theorem playbackStep_stream {s : Playback} (current : s.current = .stream run) (event : StreamRunEvent) :
    playbackStep s (.stream event)
      = (streamRunStep run event).map fun run => { s with current := .stream run } := by
  unfold playbackStep
  rw [current]

/-- The session begins with a player, or without one it returns. -/
theorem follows_streamCreate {calls : List NdlCall} {memory : PlayerMemory} {initSucceeds : Bool} {after : Heap}
    (books : l.Books kernel heap) (current : l.playback.current = .stream ⟨.create, calls⟩)
    (got : malloc l.heap memory.block = some after)
    (played : playbackStep l.playback (.stream (.create memory.allocated initSucceeds)) = some playback) :
    Follows kernel heap (streamCreate l memory initSucceeds) playback := by
  have owns := books.owns
  rw [current] at owns
  rcases owns.bare rfl with ⟨noVideo, noAudio⟩
  have held := books.holding.blocks
  have noPlayer := none_of_isSome owns.player
  rw [SessionLocals.blocks, noVideo, noAudio, owns.rest.2.1, noPlayer] at held
  rcases HoldsBlocks.createPlayer held got initSucceeds with ⟨rest, player, created, held, there⟩
  have blocks : HoldsBlocks heap { l.locals with player := player }.blocks rest := by
    rw [SessionLocals.blocks, noVideo, noAudio, owns.rest.2.1]
    exact (List.append_nil player.toList) ▸ held
  have isPlayed := played
  rw [playbackStep_stream current] at played
  rcases Option.map_eq_some_iff.mp played with ⟨run', ran, rfl⟩
  refine ⟨_, Option.bind_eq_some_iff.mpr ⟨_, isPlayed, Option.bind_eq_some_iff.mpr ⟨_, created, rfl⟩⟩, rfl,
    ⟨books.holding.sockets, blocks⟩, ?_⟩
  cases ready : memory.allocated && initSucceeds with
  | true =>
      rw [ready] at there
      rw [Bool.and_eq_true] at ready
      rw [ready.1, ready.2] at ran
      cases ran
      exact ⟨owns.video, owns.audio, there, owns.whole, owns.bare, owns.rest⟩
  | false =>
      rw [ready] at there
      have returns : ∃ calls', run' = ⟨.returned .error, calls'⟩ := by
        cases allocated : memory.allocated with
        | false =>
            rw [allocated] at ran
            cases ran
            exact ⟨_, rfl⟩
        | true =>
            rw [allocated, Bool.true_and] at ready
            rw [allocated, ready] at ran
            cases ran
            exact ⟨_, rfl⟩
      rcases returns with ⟨calls', rfl⟩
      exact ⟨owns.video, owns.audio, there, owns.whole, owns.bare, owns.rest⟩

theorem follows_streamConnect {kind : StreamKind} {player : NdlMedia} {calls : List NdlCall}
    {gai : Option (List AddressAnswers)} {fd : Option Nat} {k : Kernel} (books : l.Books kernel heap)
    (current : l.playback.current = .stream ⟨.connect kind player, calls⟩)
    (connected : sysdvrTcpConnect l.kernel gai = some (fd, k))
    (played : playbackStep l.playback (.stream (.connect fd.isSome)) = some playback) :
    Follows kernel heap (streamConnect l kind gai) playback := by
  have owns := books.owns
  rw [current] at owns
  have held := books.holding.sockets.connect connected
  have isPlayed := played
  rw [playbackStep_stream current] at played
  cases played
  have noAudio := none_of_isSome owns.audio
  cases kind with
  | video =>
      have noVideo := none_of_isSome owns.video
      cases fd with
      | some fd =>
          refine ⟨_, Option.bind_eq_some_iff.mpr ⟨_, connected,
            Option.bind_eq_some_iff.mpr ⟨_, isPlayed, rfl⟩⟩, rfl, ⟨?_, books.holding.blocks⟩, rfl,
            owns.audio, owns.player, owns.whole, owns.bare, owns.rest⟩
          rw [SessionLocals.sockets, noAudio, noVideo] at held
          rw [SessionLocals.sockets, noAudio]
          exact held
      | none =>
          exact ⟨_, Option.bind_eq_some_iff.mpr ⟨_, connected,
            Option.bind_eq_some_iff.mpr ⟨_, isPlayed, rfl⟩⟩, rfl, ⟨held, books.holding.blocks⟩,
            owns.video, owns.audio, owns.player, owns.whole, owns.bare, owns.rest⟩
  | audio =>
      cases fd with
      | some fd =>
          refine ⟨_, Option.bind_eq_some_iff.mpr ⟨_, connected,
            Option.bind_eq_some_iff.mpr ⟨_, isPlayed, rfl⟩⟩, rfl, ⟨?_, books.holding.blocks⟩,
            owns.video, rfl, owns.player, owns.whole, owns.bare, owns.rest⟩
          rw [SessionLocals.sockets, noAudio] at held
          exact held
      | none =>
          rcases exists_of_isSome owns.video with ⟨videoFd, video⟩
          have holding : Ledger.Holding kernel heap { l with
              playback := ⟨l.playback.past, .stream ⟨.giveUp player, calls⟩⟩, kernel := k } :=
            ⟨held, books.holding.blocks⟩
          rcases holding.closeVideo noAudio video with ⟨k', closed, holding⟩
          exact ⟨_, Option.bind_eq_some_iff.mpr ⟨_, connected,
            Option.bind_eq_some_iff.mpr ⟨_, isPlayed, closed⟩⟩, rfl, holding, rfl, owns.audio,
            owns.player, owns.whole, owns.bare, owns.rest⟩

theorem follows_streamHandshake {kind : StreamKind} {player : NdlMedia} {calls : List NdlCall}
    {succeeds : Bool} (books : l.Books kernel heap)
    (current : l.playback.current = .stream ⟨.handshake kind player, calls⟩)
    (played : playbackStep l.playback (.stream (.handshake succeeds)) = some playback) :
    Follows kernel heap (streamHandshake l kind succeeds) playback := by
  have owns := books.owns
  rw [current] at owns
  have isPlayed := played
  rw [playbackStep_stream current] at played
  cases played
  have holding : ∀ playback : Playback, Ledger.Holding kernel heap { l with playback := playback } :=
    fun _ => ⟨books.holding.sockets, books.holding.blocks⟩
  rcases exists_of_isSome owns.video with ⟨videoFd, video⟩
  cases kind with
  | video =>
      cases succeeds with
      | true =>
          exact ⟨_, Option.bind_eq_some_iff.mpr ⟨_, isPlayed, rfl⟩, rfl, holding _, owns.video,
            owns.audio, owns.player, owns.whole, owns.bare, owns.rest⟩
      | false =>
          rcases (holding ⟨l.playback.past, .stream ⟨.giveUp player, calls⟩⟩).closeVideo
            (none_of_isSome owns.audio) video with ⟨k, closed, holding⟩
          exact ⟨_, Option.bind_eq_some_iff.mpr ⟨_, isPlayed, closed⟩, rfl, holding, rfl, owns.audio,
            owns.player, owns.whole, owns.bare, owns.rest⟩
  | audio =>
      cases succeeds with
      | true =>
          exact ⟨_, Option.bind_eq_some_iff.mpr ⟨_, isPlayed, rfl⟩, rfl, holding _, owns.video,
            owns.audio, owns.player, owns.whole, owns.bare, owns.rest⟩
      | false =>
          rcases exists_of_isSome owns.audio with ⟨audioFd, audio⟩
          rcases (holding ⟨l.playback.past, .stream ⟨.giveUp player, calls⟩⟩).closeBoth audio video with
            ⟨k, closed, holding⟩
          exact ⟨_, Option.bind_eq_some_iff.mpr ⟨_, isPlayed, closed⟩, rfl, holding, rfl, rfl,
            owns.player, owns.whole, owns.bare, owns.rest⟩

/-- The buffers and the sockets are given back, in the order of the source. -/
theorem Ledger.Holding.giveBack {videoFd audioFd : Nat} (holding : l.Holding kernel heap)
    (audio : l.locals.audioFd = some audioFd) (video : l.locals.videoFd = some videoFd) :
    ∃ k rest, (l.releaseWorkers >>= Ledger.closeBoth)
        = some ⟨l.playback, k, rest, { l.locals with
            video := .zero, audio := .zero, audioFd := none, videoFd := none }⟩ ∧
      Ledger.Holding kernel heap ⟨l.playback, k, rest, { l.locals with
        video := .zero, audio := .zero, audioFd := none, videoFd := none }⟩ := by
  rcases holding.releaseWorkers with ⟨rest, released, holding⟩
  rcases holding.closeBoth audio video with ⟨k, closed, holding⟩
  exact ⟨k, rest, Option.bind_eq_some_iff.mpr ⟨_, released, closed⟩, holding⟩

/-- The buffers of the audio worker, which gets them only once the video worker is primed. -/
def audioBuffers (buffers : StreamKind → WorkerBuffers) (reads : StreamKind → List PacketRead) :
    WorkerBuffers :=
  match primeWorker (buffers .video).isWhole .video (reads .video) with
  | .ok (some _) => buffers .audio
  | _ => .zero

/-- A primed session has both workers primed. -/
theorem whole_of_primed {buffers : StreamKind → WorkerBuffers} {reads : StreamKind → List PacketRead}
    {session : Session}
    (primed : primeSession (fun kind => (buffers kind).isWhole) reads = .ok (some session)) :
    (∃ packet, primeWorker (buffers .video).isWhole .video (reads .video) = .ok (some packet)) ∧
      (buffers .video).isWhole = true ∧ (buffers .audio).isWhole = true := by
  have allocated : ∀ {whole kind reads packet}, primeWorker whole kind reads = .ok (some packet) →
      whole = true := by
    intro whole kind reads packet isPrimed
    cases whole with
    | true => rfl
    | false => cases isPrimed
  unfold primeSession at primed
  cases video : primeWorker (buffers .video).isWhole .video (reads .video) with
  | error halt =>
      rw [video] at primed
      cases primed
  | ok first =>
      cases first with
      | none =>
          rw [video] at primed
          cases primed
      | some first =>
          refine ⟨⟨first, rfl⟩, allocated video, ?_⟩
          cases audio : primeWorker (buffers .audio).isWhole .audio (reads .audio) with
          | error halt =>
              simp only [video, audio, bind, Except.bind] at primed
              cases primed
          | ok second =>
              cases second with
              | none =>
                  simp only [video, audio, bind, Except.bind] at primed
                  cases primed
              | some second => exact allocated audio

theorem follows_streamPrime {player : NdlMedia} {calls : List NdlCall}
    {buffers : StreamKind → WorkerBuffers} {reads : StreamKind → List PacketRead} {middle after : Heap}
    (books : l.Books kernel heap) (current : l.playback.current = .stream ⟨.prime player, calls⟩)
    (first : (buffers .video).allocate l.heap = some middle)
    (second : (audioBuffers buffers reads).allocate middle = some after)
    (played : playbackStep l.playback (.stream (.prime (fun kind => (buffers kind).isWhole) reads))
      = some playback) :
    Follows kernel heap (streamPrime l buffers reads) playback := by
  have owns := books.owns
  rw [current] at owns
  rcases exists_of_isSome owns.video with ⟨videoFd, video⟩
  rcases exists_of_isSome owns.audio with ⟨audioFd, audio⟩
  rcases owns.bare rfl with ⟨noVideo, noAudio⟩
  have held := books.holding.blocks
  rw [SessionLocals.blocks, noVideo, noAudio] at held
  have held := (HoldsBlocks.allocate held first).allocate second
  have isPlayed := played
  rw [playbackStep_stream current] at played
  rcases Option.map_eq_some_iff.mp played with ⟨run, ran, rfl⟩
  unfold streamRunStep at ran
  dsimp only at ran
  cases primed : primeSession (fun kind => (buffers kind).isWhole) reads with
  | error halt =>
      rw [primed] at ran
      cases ran
  | ok session =>
      rw [primed] at ran
      cases session with
      | none =>
          cases ran
          have holding : Ledger.Holding kernel heap ⟨⟨l.playback.past, .stream ⟨.giveUp player, calls⟩⟩,
              l.kernel, after, { l.locals with video := buffers .video, audio := audioBuffers buffers reads }⟩ :=
            ⟨books.holding.sockets, held⟩
          rcases holding.giveBack audio video with ⟨k, rest, gaveBack, holding⟩
          exact ⟨_, Option.bind_eq_some_iff.mpr ⟨_, isPlayed, Option.bind_eq_some_iff.mpr
            ⟨_, first, Option.bind_eq_some_iff.mpr ⟨_, second, gaveBack⟩⟩⟩, rfl, holding, rfl, rfl,
            owns.player, nofun, fun _ => ⟨rfl, rfl⟩, owns.rest⟩
      | some session =>
          cases ran
          rcases whole_of_primed primed with ⟨⟨packet, isPrimed⟩, whole⟩
          have isAudio : audioBuffers buffers reads = buffers .audio := by
            rw [audioBuffers, isPrimed]
          refine ⟨_, Option.bind_eq_some_iff.mpr ⟨_, isPlayed, Option.bind_eq_some_iff.mpr
            ⟨_, first, Option.bind_eq_some_iff.mpr ⟨_, second, rfl⟩⟩⟩, rfl,
            ⟨books.holding.sockets, held⟩, owns.video, owns.audio, owns.player, fun _ => ⟨whole.1, ?_⟩, nofun,
            owns.rest⟩
          exact (congrArg WorkerBuffers.isWhole isAudio).trans whole.2

/-- A step that moves the session between places that call for the same. -/
theorem books_of_same {pc : StreamRunPc} {calls : List NdlCall} (books : l.Books kernel heap)
    (current : l.playback.current = .stream run)
    (video : pc.hasVideo = run.pc.hasVideo) (audio : pc.hasAudio = run.pc.hasAudio)
    (player : pc.hasPlayer = run.pc.hasPlayer) (buffers : pc.hasBuffers = run.pc.hasBuffers) :
    Ledger.Books kernel heap { l with playback := ⟨l.playback.past, .stream ⟨pc, calls⟩⟩ } := by
  have owns := books.owns
  rw [current] at owns
  exact ⟨⟨books.holding.sockets, books.holding.blocks⟩, owns.video.trans video.symm,
    owns.audio.trans audio.symm, owns.player.trans player.symm, fun set => owns.whole (buffers.symm.trans set),
    fun unset => owns.bare (buffers.symm.trans unset), owns.rest⟩

/-- The event does not come with what the kernel or the allocator answers. -/
def StreamRunEvent.isInternal : StreamRunEvent → Bool
  | .create _ _ | .connect _ | .prime _ _ => false
  | _ => true

theorem follows_streamLedgerStep {event : StreamRunEvent} (books : l.Books kernel heap)
    (current : l.playback.current = .stream run) (internal : event.isInternal = true)
    (played : playbackStep l.playback (.stream event) = some playback) :
    Follows kernel heap (streamLedgerStep l run.pc event) playback := by
  rcases run with ⟨pc, calls⟩
  have owns := books.owns
  rw [current] at owns
  have isPlayed := played
  rw [playbackStep_stream current] at played
  rcases Option.map_eq_some_iff.mp played with ⟨run', ran, rfl⟩
  have same : ∀ {pc' calls'}, run' = ⟨pc', calls'⟩ → pc'.hasVideo = pc.hasVideo →
      pc'.hasAudio = pc.hasAudio → pc'.hasPlayer = pc.hasPlayer → pc'.hasBuffers = pc.hasBuffers →
      Follows kernel heap ((playbackStep l.playback (.stream event)).map fun playback =>
        { l with playback := playback }) ⟨l.playback.past, .stream run'⟩ := by
    rintro pc' calls' rfl video audio player buffers
    exact ⟨_, by rw [isPlayed]; rfl, rfl, books_of_same books current video audio player buffers⟩
  cases event with
  | connect succeeds => cases internal
  | prime allocated reads => cases internal
  | create allocated initSucceeds => cases internal
  | load succeeds =>
      cases pc <;> simp only [streamRunStep, reduceCtorEq] at ran
      split at ran <;> cases ran <;> exact same rfl rfl rfl rfl rfl
  | handshake succeeds =>
      cases pc <;> simp only [streamRunStep, reduceCtorEq] at ran
      exact follows_streamHandshake books current isPlayed
  | session event =>
      cases pc <;> simp only [streamRunStep, reduceCtorEq] at ran
      case streaming session player =>
        have streams : ∃ session', run' = ⟨.streaming session' player, calls⟩ := by
          cases event <;> simp only [streamRunSession, reduceCtorEq] at ran
          all_goals
            rcases Option.map_eq_some_iff.mp ran with ⟨session', _, rfl⟩
            exact ⟨session', rfl⟩
        rcases streams with ⟨session', isRun⟩
        exact same isRun rfl rfl rfl rfl
  | feed kind playSucceeds =>
      cases pc <;> simp only [streamRunStep, reduceCtorEq] at ran
      case streaming session player =>
        simp only [streamRunFeed] at ran
        split at ran
        · rcases Option.map_eq_some_iff.mp ran with ⟨session', _, rfl⟩
          exact same rfl rfl rfl rfl rfl
        · cases ran
  | destroy =>
      cases pc <;> simp only [streamRunStep, reduceCtorEq] at ran
      case streaming session player =>
        rcases exists_of_isSome owns.video with ⟨videoFd, video⟩
        rcases exists_of_isSome owns.audio with ⟨audioFd, audio⟩
        split at ran
        · next result _ =>
            cases ran
            have holding : Ledger.Holding kernel heap { l with playback :=
                ⟨l.playback.past, .stream ⟨.returned result, ndlMediaDestroy player calls⟩⟩ } :=
              ⟨books.holding.sockets, books.holding.blocks⟩
            rcases holding.giveBack audio video with ⟨k, rest, gaveBack, holding⟩
            rcases holding.destroyPlayer with ⟨last, destroyed, holding⟩
            exact ⟨_, Option.bind_eq_some_iff.mpr ⟨_, isPlayed,
              Option.bind_eq_some_iff.mpr ⟨_, gaveBack, destroyed⟩⟩, rfl, holding, rfl, rfl, rfl, nofun,
              fun _ => ⟨rfl, rfl⟩, owns.rest⟩
        · cases ran
      case giveUp player =>
        cases ran
        have holding : Ledger.Holding kernel heap { l with playback :=
            ⟨l.playback.past, .stream ⟨.returned .error, ndlMediaDestroy player calls⟩⟩ } :=
          ⟨books.holding.sockets, books.holding.blocks⟩
        rcases holding.destroyPlayer with ⟨last, destroyed, holding⟩
        exact ⟨_, Option.bind_eq_some_iff.mpr ⟨_, isPlayed, destroyed⟩, rfl, holding, owns.video, owns.audio, rfl,
          owns.whole, owns.bare, owns.rest⟩

end StreamSteps

/-! ### Steps of frametap_run_stream_session -/

section FrametapSteps

variable {kernel : Kernel} {heap : Heap} {l : Ledger} {run : FrametapRun} {playback : Playback}

theorem playbackStep_frametap {s : Playback} (current : s.current = .frametap run)
    (event : FrametapRunEvent) :
    playbackStep s (.frametap event)
      = (frametapRunStep run event).map fun run => { s with current := .frametap run } := by
  unfold playbackStep
  rw [current]

theorem follows_frametapConnect {gai : Option (List AddressAnswers)} {fd : Option Nat} {k : Kernel}
    (books : l.Books kernel heap) (current : l.playback.current = .frametap run)
    (main : run.main = .connect)
    (connected : sysdvrTcpConnectTimeout l.kernel sftConnectTimeoutMs gai = some (fd, k))
    (played : playbackStep l.playback (.frametap (.main fd.isSome .none)) = some playback) :
    Follows kernel heap (frametapConnect l gai) playback := by
  have owns := books.owns
  rw [current] at owns
  have held := books.holding.sockets.connect connected
  have noFd : l.locals.fd = none := none_of_isSome (by rw [owns.fd, main]; rfl)
  rw [SessionLocals.sockets, owns.rest.1, owns.rest.2.1, noFd] at held
  have isPlayed := played
  rw [playbackStep_frametap current] at played
  rcases run with ⟨pc, running, signalStop, userBack, thread⟩
  cases main
  cases played
  have idle := owns.thread rfl
  refine ⟨_, Option.bind_eq_some_iff.mpr ⟨_, connected, Option.bind_eq_some_iff.mpr
    ⟨_, isPlayed, rfl⟩⟩, rfl, ⟨?_, books.holding.blocks⟩, ?_, ?_, owns.payload, owns.player, fun _ => idle,
    owns.rest⟩
  · rw [SessionLocals.sockets, owns.rest.1, owns.rest.2.1]
    simpa only [Option.toList_none, List.nil_append, List.append_nil] using held
  · cases fd with
    | some fd => rfl
    | none => rfl
  · cases fd with
    | some fd => exact owns.lock
    | none => exact owns.lock

/-- A step that moves the session or its thread between places that call for the same. -/
theorem books_of_frametap {run' : FrametapRun} (books : l.Books kernel heap)
    (current : l.playback.current = .frametap run)
    (socket : run'.main.hasSocket = run.main.hasSocket) (lock : run'.main.hasLock = run.main.hasLock)
    (payload : run'.thread.hasPayload = run.thread.hasPayload)
    (player : run'.thread.hasPlayer = run.thread.hasPlayer)
    (thread : run'.main.hasThread = false → run'.thread.isIdle = true) :
    Ledger.Books kernel heap { l with playback := ⟨l.playback.past, .frametap run'⟩ } := by
  have owns := books.owns
  rw [current] at owns
  exact ⟨⟨books.holding.sockets, books.holding.blocks⟩, owns.fd.trans socket.symm,
    owns.lock.trans lock.symm, owns.payload.trans payload.symm, owns.player.trans player.symm, thread,
    owns.rest⟩

theorem follows_frametapMain {succeeds : Bool} {action : ShellAction} (books : l.Books kernel heap)
    (current : l.playback.current = .frametap run) (behind : run.main ≠ .connect)
    (played : playbackStep l.playback (.frametap (.main succeeds action)) = some playback) :
    Follows kernel heap (frametapLedgerStep l run.main (.main succeeds action)) playback := by
  have owns := books.owns
  rw [current] at owns
  have isPlayed := played
  rw [playbackStep_frametap current] at played
  rcases Option.map_eq_some_iff.mp played with ⟨run', ran, rfl⟩
  rcases run with ⟨pc, running, signalStop, userBack, thread⟩
  have holding : ∀ playback : Playback, Ledger.Holding kernel heap { l with playback := playback } :=
    fun _ => ⟨books.holding.sockets, books.holding.blocks⟩
  cases pc with
  | connect => exact absurd rfl behind
  | initLock =>
      have idle := owns.thread rfl
      cases succeeds with
      | true =>
          cases ran
          exact ⟨_, Option.bind_eq_some_iff.mpr ⟨_, isPlayed, rfl⟩, rfl,
            ⟨books.holding.sockets, books.holding.blocks⟩, owns.fd, rfl, owns.payload, owns.player, fun _ => idle,
            owns.rest⟩
      | false =>
          cases ran
          rcases exists_of_isSome owns.fd with ⟨fd, opened⟩
          rcases (holding ⟨l.playback.past, .frametap ⟨.returned .error, running, signalStop, userBack,
            thread⟩⟩).closeFrametap owns.rest.2.1 owns.rest.1 opened with ⟨k, closed, holding⟩
          exact ⟨_, Option.bind_eq_some_iff.mpr ⟨_, isPlayed, closed⟩, rfl, holding, rfl, owns.lock,
            owns.payload, owns.player, fun _ => idle, owns.rest⟩
  | createThread =>
      have idle := owns.thread rfl
      cases succeeds with
      | true =>
          cases ran
          exact ⟨_, Option.bind_eq_some_iff.mpr ⟨_, isPlayed, rfl⟩, rfl, books_of_frametap books current
            rfl rfl (SftThreadPc.hasPayload_of_isIdle idle).symm
            (SftThreadPc.hasPlayer_of_isIdle idle).symm nofun⟩
      | false =>
          cases ran
          rcases exists_of_isSome owns.fd with ⟨fd, opened⟩
          have locked : l.locals.statusLock = true := owns.lock
          have holding : Ledger.Holding kernel heap { l with
              playback := ⟨l.playback.past, .frametap ⟨.returned .error, running, signalStop, userBack,
                thread⟩⟩
              locals := { l.locals with statusLock := false } } :=
            ⟨books.holding.sockets, books.holding.blocks⟩
          rcases holding.closeFrametap owns.rest.2.1 owns.rest.1 opened with ⟨k, closed, holding⟩
          exact ⟨_, Option.bind_eq_some_iff.mpr ⟨_, isPlayed, Option.bind_eq_some_iff.mpr
            ⟨_, if_pos locked, closed⟩⟩, rfl, holding, rfl, rfl, owns.payload, owns.player, fun _ => idle,
            owns.rest⟩
  | uiTest =>
      cases ran
      refine ⟨_, Option.bind_eq_some_iff.mpr ⟨_, isPlayed, rfl⟩, rfl,
        books_of_frametap books current ?_ ?_ rfl rfl ?_⟩
      all_goals dsimp only; split
      · rfl
      · rfl
      · rfl
      · rfl
      · exact nofun
      · exact nofun
  | uiPoll =>
      cases action <;> cases ran <;>
        exact ⟨_, Option.bind_eq_some_iff.mpr ⟨_, isPlayed, rfl⟩, rfl,
          books_of_frametap books current rfl rfl rfl rfl nofun⟩
  | stop =>
      cases ran
      exact ⟨_, Option.bind_eq_some_iff.mpr ⟨_, isPlayed, rfl⟩, rfl,
        books_of_frametap books current rfl rfl rfl rfl nofun⟩
  | join =>
      simp only [frametapRunStep, frametapMainStep] at ran
      split at ran
      · next finished =>
          cases ran
          have idle : thread.isIdle = true := by
            cases thread <;> first | rfl | cases finished
          rcases exists_of_isSome owns.fd with ⟨fd, opened⟩
          have locked : l.locals.statusLock = true := owns.lock
          rcases (holding ⟨l.playback.past, .frametap ⟨.returned _, running, signalStop, userBack,
            thread⟩⟩).closeFrametap owns.rest.2.1 owns.rest.1 opened with ⟨k, closed, holding⟩
          exact ⟨_, Option.bind_eq_some_iff.mpr ⟨_, isPlayed, Option.bind_eq_some_iff.mpr
            ⟨_, closed, if_pos locked⟩⟩, rfl, ⟨holding.sockets, holding.blocks⟩, rfl, rfl, owns.payload,
            owns.player, fun _ => idle, owns.rest⟩
      · cases ran
  | returned result => cases ran

theorem follows_signal (books : l.Books kernel heap) (current : l.playback.current = .frametap run)
    (played : playbackStep l.playback (.frametap .signal) = some playback) :
    Follows kernel heap (frametapLedgerStep l run.main .signal) playback := by
  have owns := books.owns
  rw [current] at owns
  have isPlayed := played
  rw [playbackStep_frametap current] at played
  cases played
  have goes : frametapLedgerStep l run.main .signal
      = some { l with playback := ⟨l.playback.past, .frametap { run with signalStop := true }⟩ } := by
    refine Option.bind_eq_some_iff.mpr ⟨_, isPlayed, ?_⟩
    cases run.main <;> rfl
  exact ⟨_, goes, rfl, books_of_frametap books current rfl rfl rfl rfl owns.thread⟩

/-- The thread begins with the buffer it has got. -/
theorem follows_enter {payload : Option Nat} {now : UInt64} {connection : SftConnection} {after : Heap}
    (books : l.Books kernel heap) (current : l.playback.current = .frametap run)
    (got : malloc l.heap payload = some after)
    (played : playbackStep l.playback (.frametap (.enter payload.isSome now connection)) = some playback) :
    Follows kernel heap (ledgerStep l (.enter payload now connection)) playback := by
  have owns := books.owns
  rw [current] at owns
  have isPlayed := played
  rw [playbackStep_frametap current] at played
  rcases Option.map_eq_some_iff.mp played with ⟨run', ran, rfl⟩
  rcases Option.map_eq_some_iff.mp ran with ⟨thread', entered, rfl⟩
  rcases run with ⟨pc, running, signalStop, userBack, thread⟩
  cases thread with
  | entry =>
      have held := books.holding.blocks
      have noPayload : l.locals.payload = none := none_of_isSome owns.payload
      have noPlayer : l.locals.player = none := none_of_isSome owns.player
      rw [SessionLocals.blocks, owns.rest.2.2.1, owns.rest.2.2.2, noPayload, noPlayer] at held
      have held := HoldsBlocks.malloc held got
      have goes : ledgerStep l (.enter payload now connection) = some { l with
          playback := ⟨l.playback.past, .frametap ⟨pc, running, signalStop, userBack, thread'⟩⟩
          heap := after
          locals := { l.locals with payload := payload } } := by
        unfold ledgerStep
        rw [current]
        exact Option.bind_eq_some_iff.mpr ⟨_, isPlayed, Option.bind_eq_some_iff.mpr ⟨_, got, rfl⟩⟩
      have begun : pc.hasThread = false → thread'.isIdle = true :=
        fun none_ => absurd (owns.thread none_) nofun
      cases entered
      refine ⟨_, goes, rfl, ⟨books.holding.sockets, ?_⟩, owns.fd, owns.lock, ?_, ?_, begun, owns.rest⟩
      · rw [SessionLocals.blocks, owns.rest.2.2.1, owns.rest.2.2.2, noPlayer]
        simpa only [WorkerBuffers.list, WorkerBuffers.zero, Option.toList_none, List.nil_append,
          List.append_nil] using held
      · cases payload with
        | none => rfl
        | some block => rfl
      · rw [noPlayer]
        cases payload with
        | none => rfl
        | some block => rfl
  | unstarted => cases entered
  | loop w c => cases entered
  | finished failed calls => cases entered

/-- A turn that puts a player in place of one that does not fit. -/
def asksForPlayer (run : FrametapRun) (turn : SftTurn) : Prop :=
  ∃ w c u h, run.thread = .loop w c ∧ comesToPlayer w c { turn with running := run.running } = some (u, h) ∧
    ¬ u.feed.Fits h

/-- A turn leaves the blocks as the player it leaves calls for. -/
theorem turnPlayer_holds {memory : PlayerMemory} {turn : SftTurn} {player : Option Nat} {blocks : List Nat}
    {thread' : SftThreadPc} {before : Heap} (holds : HoldsBlocks heap (player.toList ++ blocks) before)
    (same : player.isSome = run.thread.hasPlayer)
    (granted : asksForPlayer run (turn.within memory) → ∀ freed, free before player = some freed →
      ∃ after, malloc freed memory.block = some after)
    (turned : sftThreadStep run.running run.thread (.turn (turn.within memory)) = some thread') :
    ∃ rest next, turnPlayer before player run memory (turn.within memory) = some (rest, next) ∧
      HoldsBlocks heap (next.toList ++ blocks) rest ∧ next.isSome = thread'.hasPlayer ∧
      ∃ w c w' c', run.thread = .loop w c ∧ thread' = .loop w' c' := by
  rcases run with ⟨pc, running, signalStop, userBack, thread⟩
  cases thread with
  | loop w c =>
      simp only [sftThreadStep] at turned
      split at turned
      · cases turned
      · split at turned
        · next w' c' looped =>
            cases turned
            have prepared := turn_player looped
            unfold turnPlayer
            dsimp only
            cases comes : comesToPlayer w c { turn.within memory with running := running } with
            | none =>
                rw [comes] at prepared
                exact ⟨before, player, rfl, holds, same.trans (congrArg Option.isSome prepared.symm), w, c, w', c',
                  rfl, rfl⟩
            | some place =>
                rcases place with ⟨u, h⟩
                rw [comes] at prepared
                have there : player.isSome = u.player.isSome :=
                  same.trans (congrArg Option.isSome prepared.1.symm)
                have allocated : (turn.within memory).answers.allocated = memory.allocated := rfl
                rcases holds.preparePlayer there allocated
                  fun misfits => granted ⟨w, c, u, h, rfl, comes, misfits⟩ with ⟨rest, next, goes, held, isSome⟩
                exact ⟨rest, next, goes, held, isSome.trans (congrArg Option.isSome prepared.2.symm), w, c, w', c',
                  rfl, rfl⟩
        · cases turned
  | unstarted => cases turned
  | entry => cases turned
  | finished failed calls => cases turned

/-- A turn that has put a player in place of another has got a block for it. -/
theorem malloc_of_turnPlayer {memory : PlayerMemory} {turn : SftTurn} {player : Option Nat} {before freed : Heap}
    {after : Heap × Option Nat} (turned : turnPlayer before player run memory turn = some after)
    (asks : asksForPlayer run turn) (isFreed : free before player = some freed) :
    ∃ rest, malloc freed memory.block = some rest := by
  rcases asks with ⟨w, c, u, h, loops, comes, misfits⟩
  have other : ¬ (u.player.isSome = true ∧ h.width = u.decoderW ∧ h.height = u.decoderH) := misfits
  unfold turnPlayer at turned
  rw [loops] at turned
  dsimp only at turned
  rw [comes] at turned
  dsimp only at turned
  rw [preparePlayer, if_neg other] at turned
  rcases Option.bind_eq_some_iff.mp turned with ⟨first, isFirst, rest⟩
  rw [isFreed] at isFirst
  cases isFirst
  rcases Option.bind_eq_some_iff.mp rest with ⟨created, creates, _⟩
  rcases Option.bind_eq_some_iff.mp creates with ⟨got, isGot, _⟩
  exact ⟨got, isGot⟩

theorem follows_turn {memory : PlayerMemory} {turn : SftTurn} (books : l.Books kernel heap)
    (current : l.playback.current = .frametap run)
    (granted : asksForPlayer run (turn.within memory) → ∀ freed, free l.heap l.locals.player = some freed →
      ∃ after, malloc freed memory.block = some after)
    (played : playbackStep l.playback (.frametap (.turn (turn.within memory))) = some playback) :
    Follows kernel heap (frametapTurn l run memory turn) playback := by
  have owns := books.owns
  rw [current] at owns
  have isPlayed := played
  rw [playbackStep_frametap current] at played
  rcases Option.map_eq_some_iff.mp played with ⟨run', ran, rfl⟩
  rcases Option.map_eq_some_iff.mp ran with ⟨thread', turned, rfl⟩
  have held := books.holding.blocks
  rw [SessionLocals.blocks, owns.rest.2.2.1, owns.rest.2.2.2] at held
  rcases turnPlayer_holds (HoldsBlocks.swap held) owns.player granted turned with
    ⟨rest, next, goes, held, player, w, c, w', c', loops, rfl⟩
  refine ⟨_, Option.bind_eq_some_iff.mpr ⟨_, isPlayed, Option.bind_eq_some_iff.mpr ⟨_, goes, rfl⟩⟩, rfl,
    ⟨books.holding.sockets, ?_⟩, owns.fd, owns.lock, ?_, player, fun none_ => ?_, owns.rest⟩
  · rw [SessionLocals.blocks, owns.rest.2.2.1, owns.rest.2.2.2]
    exact held.swap
  · have payload := owns.payload
    rw [loops] at payload
    exact payload
  · have idle := owns.thread none_
    rw [loops] at idle
    cases idle

/-- Behind its loop the thread destroys its player and frees its buffer. -/
theorem follows_exit (books : l.Books kernel heap) (current : l.playback.current = .frametap run)
    (played : playbackStep l.playback (.frametap .exit) = some playback) :
    Follows kernel heap (frametapLedgerStep l run.main .exit) playback := by
  have owns := books.owns
  rw [current] at owns
  have isPlayed := played
  rw [playbackStep_frametap current] at played
  rcases Option.map_eq_some_iff.mp played with ⟨run', ran, rfl⟩
  rcases Option.map_eq_some_iff.mp ran with ⟨thread', left, rfl⟩
  have holding : Ledger.Holding kernel heap { l with playback :=
      ⟨l.playback.past, .frametap { run with thread := thread' }⟩ } :=
    ⟨books.holding.sockets, books.holding.blocks⟩
  rcases holding.destroyPlayer with ⟨middle, destroyed, holding⟩
  have held := holding.blocks
  rw [SessionLocals.blocks, owns.rest.2.2.1, owns.rest.2.2.2] at held
  rcases HoldsBlocks.free held with ⟨freed, isFreed, held⟩
  have goes : ∀ pc, frametapLedgerStep l pc .exit = some { l with
      playback := ⟨l.playback.past, .frametap { run with thread := thread' }⟩
      heap := freed
      locals := { l.locals with payload := none, player := none } } := by
    intro pc
    refine Option.bind_eq_some_iff.mpr ⟨_, isPlayed, ?_⟩
    cases pc <;> exact Option.bind_eq_some_iff.mpr ⟨_, destroyed,
      Option.bind_eq_some_iff.mpr ⟨_, isFreed, rfl⟩⟩
  rcases run with ⟨pc, running, signalStop, userBack, thread⟩
  cases thread with
  | loop w c =>
      have finishes : ∃ failed calls, thread' = .finished failed calls := by
        simp only [sftThreadStep] at left
        split at left
        · cases left
          exact ⟨_, _, rfl⟩
        · cases left
      rcases finishes with ⟨failed, calls, rfl⟩
      refine ⟨_, goes _, rfl, ⟨books.holding.sockets, ?_⟩, owns.fd, owns.lock, rfl, rfl, fun _ => rfl,
        owns.rest⟩
      rw [SessionLocals.blocks, owns.rest.2.2.1, owns.rest.2.2.2]
      exact held
  | unstarted => cases left
  | entry => cases left
  | finished failed calls => cases left

end FrametapSteps

/-! ### Steps of all sessions -/

section Steps

variable {kernel : Kernel} {heap : Heap} {l next : Ledger} {event : LedgerEvent}

/-- A connection attempt finds an address that gives a connection. -/
def reaches (gai : Option (List AddressAnswers)) : Bool := (gai.bind firstConnection).isSome

/-- Main is about to connect. -/
def Ledger.connects (l : Ledger) : Bool :=
  match l.playback.current with
  | .stream ⟨.connect _ _, _⟩ => true
  | .frametap ⟨.connect, _, _, _, _⟩ => true
  | _ => false

/-- The timeout of the session for a connection attempt. -/
def Ledger.connectTimeoutMs (l : Ledger) : Int :=
  match l.playback.current with
  | .frametap _ => sftConnectTimeoutMs
  | _ => 5000

/-- The step of the sessions alone. -/
def LedgerEvent.plain (l : Ledger) : LedgerEvent → PlaybackEvent
  | .call source => .call source
  | .finish => .finish
  | .connect gai =>
      match l.playback.current with
      | .frametap _ => .frametap (.main (reaches gai) .none)
      | _ => .stream (.connect (reaches gai))
  | .create memory initSucceeds => .stream (.create memory.allocated initSucceeds)
  | .prime buffers reads => .stream (.prime (fun kind => (buffers kind).isWhole) reads)
  | .enter payload now connection => .frametap (.enter payload.isSome now connection)
  | .turn memory t => .frametap (.turn (t.within memory))
  | .stream event => .stream event
  | .frametap event => .frametap event

/-- The session is at a place where the event is not one that comes with what the kernel answers. -/
def FrametapRunEvent.isInternal (l : Ledger) : FrametapRunEvent → Bool
  | .main _ _ => !l.connects
  | .enter _ _ _ => false
  | .turn _ => false
  | _ => true

/-- What the step asks of the kernel is given. -/
def LedgerEvent.Granted (l : Ledger) : LedgerEvent → Prop
  | .call _ | .finish => True
  | .connect gai => l.connects = true ∧
      ∃ fd k, sysdvrTcpConnectTimeout l.kernel l.connectTimeoutMs gai = some (fd, k)
  | .prime buffers reads => ∃ middle after, (buffers .video).allocate l.heap = some middle ∧
      (audioBuffers buffers reads).allocate middle = some after
  | .create memory _ => ∃ after, malloc l.heap memory.block = some after
  | .enter payload _ _ => ∃ after, malloc l.heap payload = some after
  | .turn memory t => ∀ run, l.playback.current = .frametap run → asksForPlayer run (t.within memory) →
      ∀ freed, free l.heap l.locals.player = some freed → ∃ after, malloc freed memory.block = some after
  | .stream event => event.isInternal = true
  | .frametap event => event.isInternal l = true

/-- The descriptor of a call of `connect` is that of the first connection. -/
theorem isSome_of_connected {k k' : Kernel} {timeoutMs : Int} {gai : Option (List AddressAnswers)}
    {fd : Option Nat} (connected : sysdvrTcpConnectTimeout k timeoutMs gai = some (fd, k')) :
    fd.isSome = reaches gai := by
  cases gai with
  | none =>
      cases connected
      rfl
  | some addresses =>
      rcases Option.map_eq_some_iff.mp connected with ⟨⟨made, lastErrno, after⟩, loop, same⟩
      have first := (connectLoop_holds loop).1
      have isFd : made = fd := by
        cases made <;> cases lastErrno <;> cases same <;> rfl
      rw [← isFd, first, Option.isSome_map]
      rfl

/-- Where the kernel gives what the step asks for, the step goes as in the sessions alone. -/
theorem ledgerStep_follows {playback : Playback} (books : l.Books kernel heap) (granted : event.Granted l)
    (played : playbackStep l.playback (event.plain l) = some playback) :
    Follows kernel heap (ledgerStep l event) playback := by
  rcases l with ⟨⟨past, current⟩, k, blocks, locals⟩
  have owns := books.owns
  cases event with
  | call source =>
      have goes : ledgerStep ⟨⟨past, current⟩, k, blocks, locals⟩ (.call source)
          = some ⟨playback, k, blocks, .zero⟩ := by
        unfold ledgerStep
        cases current <;> exact Option.map_eq_some_iff.mpr ⟨playback, played, rfl⟩
      cases current with
      | idle =>
          have holding := books.holding
          refine ⟨_, goes, rfl, ⟨?_, ?_⟩, ?_⟩
          · rw [show SessionLocals.sockets .zero = locals.sockets from owns.1.symm]
            exact holding.sockets
          · rw [show SessionLocals.blocks .zero = locals.blocks from owns.2.symm]
            exact holding.blocks
          · cases source with
            | sysdvr =>
                cases played
                exact ⟨rfl, rfl, rfl, nofun, fun _ => ⟨rfl, rfl⟩, rfl, rfl, rfl⟩
            | frametap =>
                cases played
                exact ⟨rfl, rfl, rfl, rfl, fun _ => rfl, rfl, rfl, rfl, rfl⟩
      | stream run => cases source <;> cases played
      | frametap run => cases source <;> cases played
  | finish =>
      have goes : ledgerStep ⟨⟨past, current⟩, k, blocks, locals⟩ .finish
          = some ⟨playback, k, blocks, locals⟩ := by
        unfold ledgerStep
        cases current <;> exact Option.map_eq_some_iff.mpr ⟨playback, played, rfl⟩
      have returned : current.isReturned = true ∧ playback.current = .idle := by
        cases current <;> simp only [LedgerEvent.plain, playbackStep] at played <;> split at played <;>
          cases played <;> exact ⟨by assumption, rfl⟩
      refine ⟨_, goes, rfl, ⟨books.holding.sockets, books.holding.blocks⟩, ?_⟩
      rw [returned.2]
      exact (owns.whenReturned returned.1)
  | connect gai =>
      rcases granted with ⟨connects, fd, k', connected⟩
      simp only [LedgerEvent.plain, ← isSome_of_connected connected] at played
      rcases current with _ | ⟨_ | _ | ⟨kind, player⟩ | _ | _ | _ | _ | _, calls⟩ |
        ⟨_ | _ | _ | _ | _ | _ | _ | _, running, signalStop, userBack, thread⟩ <;>
        try cases connects
      · exact follows_streamConnect books rfl connected played
      · exact follows_frametapConnect books rfl rfl connected played
  | create memory initSucceeds =>
      rcases granted with ⟨after, got⟩
      rcases current with _ | ⟨pc, calls⟩ | run
      · cases played
      · have isPlayed := played
        simp only [LedgerEvent.plain, playbackStep] at played
        rcases Option.map_eq_some_iff.mp played with ⟨run', ran, _⟩
        cases pc <;> try cases ran
        exact follows_streamCreate books rfl got isPlayed
      · cases played
  | prime buffers reads =>
      rcases granted with ⟨middle, after, first, second⟩
      rcases current with _ | ⟨pc, calls⟩ | run
      · cases played
      · have isPlayed := played
        simp only [LedgerEvent.plain, playbackStep] at played
        rcases Option.map_eq_some_iff.mp played with ⟨run', ran, _⟩
        cases pc <;> try cases ran
        have goes := follows_streamPrime books rfl first second isPlayed
        exact goes
      · cases played
  | enter payload now connection =>
      rcases granted with ⟨after, got⟩
      rcases current with _ | run | run
      · cases played
      · cases played
      · exact follows_enter books rfl got played
  | turn memory turn =>
      rcases current with _ | run | run
      · cases played
      · cases played
      · exact follows_turn books rfl (granted run rfl) played
  | stream event =>
      rcases current with _ | run | run
      · cases played
      · exact follows_streamLedgerStep books rfl granted played
      · cases played
  | frametap event =>
      rcases current with _ | run | run
      · cases played
      · cases played
      · cases event with
        | main succeeds action =>
            have behind : run.main ≠ .connect := by
              rcases run with ⟨pc, running, signalStop, userBack, thread⟩
              rintro rfl
              cases granted
            exact follows_frametapMain books rfl behind played
        | signal => exact follows_signal books rfl played
        | enter allocated now connection => cases granted
        | turn turn => cases granted
        | exit => exact follows_exit books rfl played

/-- A step that is made has got what it asked for, and the sessions alone make it too. -/
theorem granted_of_step (step : ledgerStep l event = some next) :
    event.Granted l ∧ ∃ playback, playbackStep l.playback (event.plain l) = some playback := by
  rcases l with ⟨⟨past, current⟩, k, blocks, locals⟩
  cases event with
  | call source =>
      have goes : (playbackStep ⟨past, current⟩ (.call source)).isSome = true := by
        unfold ledgerStep at step
        cases current <;> exact Option.isSome_map ▸ Option.isSome_iff_exists.mpr ⟨_, step⟩
      exact ⟨trivial, Option.isSome_iff_exists.mp goes⟩
  | finish =>
      have goes : (playbackStep ⟨past, current⟩ .finish).isSome = true := by
        unfold ledgerStep at step
        cases current <;> exact Option.isSome_map ▸ Option.isSome_iff_exists.mpr ⟨_, step⟩
      exact ⟨trivial, Option.isSome_iff_exists.mp goes⟩
  | connect gai =>
      rcases current with _ | ⟨_ | _ | ⟨kind, player⟩ | _ | _ | _ | _ | _, calls⟩ |
        ⟨_ | _ | _ | _ | _ | _ | _ | _, running, signalStop, userBack, thread⟩ <;>
        try cases step
      · rcases Option.bind_eq_some_iff.mp step with ⟨⟨fd, k'⟩, connected, rest⟩
        rcases Option.bind_eq_some_iff.mp rest with ⟨playback, played, _⟩
        refine ⟨⟨rfl, fd, k', connected⟩, playback, ?_⟩
        simp only [LedgerEvent.plain, ← isSome_of_connected connected]
        exact played
      · rcases Option.bind_eq_some_iff.mp step with ⟨⟨fd, k'⟩, connected, rest⟩
        rcases Option.bind_eq_some_iff.mp rest with ⟨playback, played, _⟩
        refine ⟨⟨rfl, fd, k', connected⟩, playback, ?_⟩
        simp only [LedgerEvent.plain, ← isSome_of_connected connected]
        exact played
  | create memory initSucceeds =>
      rcases current with _ | run | run
      · cases step
      · rcases Option.bind_eq_some_iff.mp step with ⟨playback, played, rest⟩
        rcases Option.bind_eq_some_iff.mp rest with ⟨created, creates, _⟩
        rcases Option.bind_eq_some_iff.mp creates with ⟨after, got, _⟩
        exact ⟨⟨after, got⟩, playback, played⟩
      · cases step
  | prime buffers reads =>
      rcases current with _ | run | run
      · cases step
      · rcases Option.bind_eq_some_iff.mp step with ⟨playback, played, rest⟩
        rcases Option.bind_eq_some_iff.mp rest with ⟨middle, first, rest⟩
        rcases Option.bind_eq_some_iff.mp rest with ⟨after, second, _⟩
        exact ⟨⟨middle, after, first, second⟩, playback, played⟩
      · cases step
  | enter payload now connection =>
      rcases current with _ | run | run
      · cases step
      · cases step
      · rcases Option.bind_eq_some_iff.mp step with ⟨playback, played, rest⟩
        rcases Option.bind_eq_some_iff.mp rest with ⟨after, got, _⟩
        exact ⟨⟨after, got⟩, playback, played⟩
  | turn memory turn =>
      rcases current with _ | run | run
      · cases step
      · cases step
      · rcases Option.bind_eq_some_iff.mp step with ⟨playback, played, rest⟩
        rcases Option.bind_eq_some_iff.mp rest with ⟨after, turned, _⟩
        refine ⟨?_, playback, played⟩
        rintro other same asks freed isFreed
        cases same
        exact malloc_of_turnPlayer turned asks isFreed
  | stream event =>
      rcases current with _ | ⟨pc, calls⟩ | run
      · cases step
      · have internal : event.isInternal = true := by
          cases event <;> first | rfl | (cases pc <;> cases step)
        have goes : (playbackStep ⟨past, .stream ⟨pc, calls⟩⟩ (.stream event)).isSome = true := by
          cases played : playbackStep ⟨past, .stream ⟨pc, calls⟩⟩ (.stream event) with
          | some playback => rfl
          | none =>
              simp only [ledgerStep, streamLedgerStep] at step
              split at step <;> simp [streamHandshake, played] at step
        exact ⟨internal, Option.isSome_iff_exists.mp goes⟩
      · cases step
  | frametap event =>
      rcases current with _ | run | run
      · cases step
      · cases step
      · rcases Option.bind_eq_some_iff.mp step with ⟨playback, played, rest⟩
        refine ⟨?_, playback, played⟩
        rcases run with ⟨pc, running, signalStop, userBack, thread⟩
        cases event with
        | main succeeds action => cases pc <;> first | rfl | cases rest
        | enter allocated now connection => cases pc <;> cases rest
        | signal => rfl
        | turn turn => cases pc <;> cases rest
        | exit => rfl

/-- Every step keeps the books. -/
theorem Ledger.Books.step (books : l.Books kernel heap) (step : ledgerStep l event = some next) :
    next.Books kernel heap := by
  rcases granted_of_step step with ⟨granted, playback, played⟩
  rcases ledgerStep_follows books granted played with ⟨other, goes, _, books⟩
  have same := goes.symm.trans step
  cases same
  exact books

theorem ledgerStart_books (kernel : Kernel) (heap : Heap) : (ledgerStart kernel heap).Books kernel heap :=
  ⟨⟨.start _, Handles.Holds.start _⟩, rfl, rfl⟩

end Steps

/-! ### Every run -/

/-- A block that is free can be had, and the others stay. -/
theorem malloc_of_free {heap : Heap} {p : Option Nat} (free : ∀ block ∈ p.toList, heap block = none) :
    ∃ after, malloc heap p = some after ∧ ∀ block, block ∉ p.toList → after block = heap block := by
  cases p with
  | none => exact ⟨heap, rfl, fun _ _ => rfl⟩
  | some block =>
      refine ⟨_, Handles.acquire_of_free (free block (List.mem_singleton.mpr rfl)) (), ?_⟩
      intro other absent
      exact Function.update_of_ne (fun same => absurd (List.mem_singleton.mpr same) absent) _ _

theorem allocate_of_free {heap : Heap} {b : WorkerBuffers} (distinct : b.list.Nodup)
    (free : ∀ block ∈ b.list, heap block = none) :
    ∃ after, b.allocate heap = some after ∧ ∀ block, block ∉ b.list → after block = heap block := by
  rcases List.nodup_append.mp distinct with ⟨_, _, apart⟩
  rcases malloc_of_free fun block member => free block (List.mem_append_right _ member) with
    ⟨middle, first, kept⟩
  have stillFree : ∀ block ∈ b.payload.toList, middle block = none := fun block member =>
    (kept block fun other => apart block member block other rfl).trans
      (free block (List.mem_append_left _ member))
  rcases malloc_of_free stillFree with ⟨after, second, kept'⟩
  refine ⟨after, Option.bind_eq_some_iff.mpr ⟨middle, first, second⟩, fun block absent => ?_⟩
  rw [WorkerBuffers.list, List.mem_append, not_or] at absent
  exact (kept' block absent.1).trans (kept block absent.2)

/-- The kernel hands out what is free, where the session asks for it. -/
def LedgerEvent.Served (l : Ledger) : LedgerEvent → Prop
  | .call _ | .finish => True
  | .connect gai => l.connects = true ∧
      ∀ addresses, gai = some addresses → HandsOutFree l.kernel.table addresses
  | .create memory _ => ∀ block ∈ memory.block.toList, l.heap block = none
  | .prime buffers reads => ((audioBuffers buffers reads).list ++ (buffers .video).list).Nodup ∧
      ∀ block ∈ (audioBuffers buffers reads).list ++ (buffers .video).list, l.heap block = none
  | .enter payload _ _ => ∀ block ∈ payload.toList, l.heap block = none
  -- the block of a player that is replaced can be had again
  | .turn memory _ => ∀ block ∈ memory.block.toList, l.heap block = none ∨ l.locals.player = some block
  | .stream event => event.isInternal = true
  | .frametap event => event.isInternal l = true

/-- Behind a free, a block that was free or has been freed is free. -/
theorem free_of_freed {heap freed : Heap} {p : Option Nat} {block : Nat} (isFreed : free heap p = some freed)
    (served : heap block = none ∨ p = some block) : freed block = none := by
  cases p with
  | none =>
      cases isFreed
      rcases served with free | same
      · exact free
      · cases same
  | some old =>
      have released : Handles.release heap old = some freed := isFreed
      unfold Handles.release at released
      split at released
      · cases released
        by_cases same : block = old
        · rw [same]
          exact Function.update_self ..
        · rw [Function.update_of_ne same]
          rcases served with free | replaced
          · exact free
          · cases replaced
            exact absurd rfl same
      · cases released

theorem granted_of_served {l : Ledger} {event : LedgerEvent} (served : event.Served l) :
    event.Granted l := by
  cases event with
  | call source => exact trivial
  | finish => exact trivial
  | connect gai =>
      refine ⟨served.1, ?_⟩
      cases gai with
      | none => exact ⟨none, l.kernel, rfl⟩
      | some addresses =>
          rcases @connectLoop_spec (connectTimeout l.connectTimeoutMs) addresses l.kernel none
            (served.2 addresses rfl) with ⟨fd, lastErrno, k, loop, _⟩
          simp only [sysdvrTcpConnectTimeout, loop, Option.map_some]
          exact ⟨_, _, rfl⟩
  | prime buffers reads =>
      rcases List.nodup_append.mp served.1 with ⟨audio, video, apart⟩
      rcases allocate_of_free video fun block member => served.2 block (List.mem_append_right _ member)
        with ⟨middle, first, kept⟩
      have stillFree : ∀ block ∈ (audioBuffers buffers reads).list, middle block = none :=
        fun block member => (kept block fun other => apart block member block other rfl).trans
          (served.2 block (List.mem_append_left _ member))
      rcases allocate_of_free audio stillFree with ⟨after, second, _⟩
      exact ⟨middle, after, first, second⟩
  | create memory initSucceeds =>
      rcases malloc_of_free served with ⟨after, got, _⟩
      exact ⟨after, got⟩
  | enter payload now connection =>
      rcases malloc_of_free served with ⟨after, got, _⟩
      exact ⟨after, got⟩
  | turn memory turn =>
      intro run _ _ freed isFreed
      rcases malloc_of_free fun block member => free_of_freed isFreed (served block member) with ⟨after, got, _⟩
      exact ⟨after, got⟩
  | stream event => exact served
  | frametap event => exact served

/-- The descriptor is open and connected. -/
def Kernel.HasConnected (k : Kernel) (fd : Nat) : Prop := ∃ flags, k.table fd = some ⟨flags, true⟩

theorem list_length_of_isWhole {b : WorkerBuffers} (whole : b.isWhole = true) : b.list.length = 2 := by
  rcases b with ⟨_ | first, _ | payload⟩ <;> first | rfl | cases whole

namespace Ledger.Books

variable {kernel : Kernel} {heap : Heap} {l : Ledger}

/-- Between sessions nothing is held. -/
theorem nothing (books : l.Books kernel heap)
    (outside : l.playback.current = .idle ∨ l.playback.current.isReturned = true) :
    l.kernel.table = kernel.table ∧ l.heap = heap := by
  have nothing : CurrentSession.idle.Owns l.locals := by
    rcases outside with idle | returned
    · exact idle ▸ books.owns
    · exact books.owns.whenReturned returned
  have sockets := books.holding.sockets
  have blocks := books.holding.blocks
  rw [nothing.1] at sockets
  rw [nothing.2] at blocks
  exact ⟨sockets.nothing, Handles.Holds.nothing blocks⟩

/-- A session that streams has its sockets, its buffers and its player. -/
theorem streaming {session : Session} {player : NdlMedia} {calls : List NdlCall} (books : l.Books kernel heap)
    (streams : l.playback.current = .stream ⟨.streaming session player, calls⟩) :
    (∃ videoFd audioFd, l.locals.videoFd = some videoFd ∧ l.locals.audioFd = some audioFd ∧
      videoFd ≠ audioFd ∧ l.kernel.HasConnected videoFd ∧ l.kernel.HasConnected audioFd) ∧
    (l.locals.audio.list ++ (l.locals.video.list ++ l.locals.player.toList)).length = 5 ∧
    (l.locals.audio.list ++ (l.locals.video.list ++ l.locals.player.toList)).Nodup ∧
    ∀ block ∈ l.locals.audio.list ++ (l.locals.video.list ++ l.locals.player.toList),
      l.heap block = some () := by
  have owns := books.owns
  rw [streams] at owns
  rcases exists_of_isSome owns.video with ⟨videoFd, video⟩
  rcases exists_of_isSome owns.audio with ⟨audioFd, audio⟩
  rcases exists_of_isSome owns.player with ⟨player, isPlayer⟩
  rcases owns.whole rfl with ⟨wholeVideo, wholeAudio⟩
  have sockets := books.holding.sockets
  have blocks := books.holding.blocks
  rw [SessionLocals.sockets, audio, video, owns.rest.1] at sockets
  rw [SessionLocals.blocks, owns.rest.2.1, Option.toList_none, List.nil_append] at blocks
  refine ⟨⟨videoFd, audioFd, video, audio, ?_, sockets.has (by simp), sockets.has (by simp)⟩, ?_,
    blocks.distinct, fun block => blocks.has⟩
  · rcases sockets with ⟨held, same, _, holds⟩
    have distinct := same ▸ holds.distinct
    simpa [eq_comm] using distinct
  · rw [List.length_append, List.length_append, list_length_of_isWhole wholeAudio,
      list_length_of_isWhole wholeVideo, isPlayer]
    rfl

/-- So has a Frame Tap thread in its loop, with the lock. -/
theorem looping {run : FrametapRun} {w : SftThread} {c : SftConnection} (books : l.Books kernel heap)
    (runs : l.playback.current = .frametap run) (loops : run.thread = .loop w c) :
    ∃ fd payload, l.locals.fd = some fd ∧ l.kernel.HasConnected fd ∧ l.locals.statusLock = true ∧
      l.locals.payload = some payload ∧ l.heap payload = some () ∧
      l.locals.player.isSome = w.player.isSome ∧
      ∀ block ∈ l.locals.player, l.heap block = some () ∧ block ≠ payload := by
  have owns := books.owns
  rw [runs] at owns
  have present : run.main.hasThread = true := by
    cases main : run.main.hasThread with
    | true => rfl
    | false =>
        have idle := owns.thread main
        rw [loops] at idle
        cases idle
  have inside : run.main.hasSocket = true ∧ run.main.hasLock = true := by
    cases main : run.main <;> rw [main] at present <;> first | exact ⟨rfl, rfl⟩ | cases present
  rcases exists_of_isSome (owns.fd.trans inside.1) with ⟨fd, opened⟩
  rcases exists_of_isSome (owns.payload.trans (by rw [loops]; rfl)) with ⟨payload, allocated⟩
  have player := owns.player
  rw [loops] at player
  have blocks := books.holding.blocks
  have distinct := blocks.distinct
  refine ⟨fd, payload, opened, books.holding.sockets.has ?_, owns.lock.trans inside.2, allocated,
    blocks.has ?_, player, fun block isPlayer => ⟨blocks.has ?_, ?_⟩⟩
  · simp [SessionLocals.sockets, opened]
  · simp [SessionLocals.blocks, allocated]
  · simp [SessionLocals.blocks, Option.mem_def.mp isPlayer]
  · rintro rfl
    simp [SessionLocals.blocks, allocated, Option.mem_def.mp isPlayer, List.nodup_append] at distinct

/-- The resources stand in the way of no step. -/
theorem unhindered {event : LedgerEvent} (books : l.Books kernel heap) (served : event.Served l) :
    (ledgerStep l event).map Ledger.playback = playbackStep l.playback (event.plain l) := by
  cases played : playbackStep l.playback (event.plain l) with
  | some playback =>
      rcases ledgerStep_follows books (granted_of_served served) played with ⟨next, goes, same, _⟩
      rw [goes, Option.map_some, same]
  | none =>
      cases goes : ledgerStep l event with
      | none => rfl
      | some next =>
          rcases granted_of_step goes with ⟨_, playback, other⟩
          rw [played] at other
          cases other

end Ledger.Books

/-- Over every run of sessions of both backends, whatever the kernel answers, when no session runs the open
    descriptors and the allocated blocks are those there were before the first. While a session streams, both its
    sockets are open and connected and its four buffers and its player allocated, all different; while the
    thread of a Frame Tap session is in its loop, its socket is connected, the lock initialised and its buffer
    allocated, and so is its player, if it has one. And no step of a session is ever held up by a descriptor, a
    block or a lock that is given back without being held: with a kernel that hands out what is free, it goes as
    the sessions alone do. -/
theorem sessions_keep_their_books {kernel : Kernel} {heap : Heap} {events : List LedgerEvent} {l : Ledger}
    (reached : Runs.exec ledgerStep (ledgerStart kernel heap) events = some l) :
    (l.playback.current = .idle ∨ l.playback.current.isReturned = true →
      l.kernel.table = kernel.table ∧ l.heap = heap) ∧
    (∀ session player calls, l.playback.current = .stream ⟨.streaming session player, calls⟩ →
      (∃ videoFd audioFd, l.locals.videoFd = some videoFd ∧ l.locals.audioFd = some audioFd ∧
        videoFd ≠ audioFd ∧ l.kernel.HasConnected videoFd ∧ l.kernel.HasConnected audioFd) ∧
      (l.locals.audio.list ++ (l.locals.video.list ++ l.locals.player.toList)).length = 5 ∧
      (l.locals.audio.list ++ (l.locals.video.list ++ l.locals.player.toList)).Nodup ∧
      ∀ block ∈ l.locals.audio.list ++ (l.locals.video.list ++ l.locals.player.toList),
        l.heap block = some ()) ∧
    (∀ run w c, l.playback.current = .frametap run → run.thread = .loop w c →
      ∃ fd payload, l.locals.fd = some fd ∧ l.kernel.HasConnected fd ∧ l.locals.statusLock = true ∧
        l.locals.payload = some payload ∧ l.heap payload = some () ∧
        l.locals.player.isSome = w.player.isSome ∧
        ∀ block ∈ l.locals.player, l.heap block = some () ∧ block ≠ payload) ∧
    ∀ event : LedgerEvent, event.Served l →
      (ledgerStep l event).map Ledger.playback = playbackStep l.playback (event.plain l) := by
  have books : l.Books kernel heap :=
    Runs.exec_invariant (fun _ _ _ books step => books.step step) (ledgerStart_books kernel heap) reached
  exact ⟨books.nothing, fun _ _ _ streams => books.streaming streams, fun _ _ _ runs loops =>
    books.looping runs loops, fun _ served => books.unhindered served⟩

/-- A session whose audio stream cannot be connected, behind one whose thread cannot be created. -/
def failedSessions : List LedgerEvent :=
  [.call .frametap, .connect (some [⟨.ok (7, 2), ⟨none, none, none, .timedOut, .none, none⟩⟩]),
    .frametap (.main true .none), .frametap (.main false .none), .finish, .call .sysdvr,
    .create ⟨some 3, true⟩ true, .stream (.load true), .connect (some twoAddresses),
    .stream (.handshake true),
    .connect (some [⟨.error (.other 24), ⟨none, none, none, .timedOut, .none, none⟩⟩]), .stream .destroy]

/-- Both have closed what they opened. -/
theorem failed_sessions_leave_nothing : ∃ l,
    Runs.exec ledgerStep (ledgerStart ⟨fun _ => none, none, 0⟩ fun _ => none) failedSessions = some l ∧
      (∀ fd, l.kernel.table fd = none) ∧ ∀ block, l.heap block = none := by
  have runs : ((Runs.exec ledgerStep (ledgerStart ⟨fun _ => none, none, 0⟩ fun _ => none)
      failedSessions).map fun l => l.playback.current.isReturned) = some true := by
    decide +kernel
  rcases Option.map_eq_some_iff.mp runs with ⟨l, reached, returned⟩
  rcases (sessions_keep_their_books reached).1 (Or.inr returned) with ⟨table, heap⟩
  exact ⟨l, reached, fun fd => by rw [table], fun block => by rw [heap]⟩

end SysdvrWebos
