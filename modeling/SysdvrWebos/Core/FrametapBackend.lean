/-
Module: SysdvrWebos.Core.FrametapBackend
Layer: Core
Purpose: The stream thread of the Switch Frame Tap backend (src/frametap_backend.c, sft_stream_thread with
  submit_video and log_status_packet): one packet at a time, with the answers the clock, the player and
  the audio device give while it is handled. Statistics and remarks that only go into log lines are left
  out.
Trusted boundary: none
Main exports: SftThread, SftAnswers, submitVideo, logStatusPacket, sftHandlePacket, sftStreamTurn,
  sftStreamLoop, sftThreadExit
Open obligations: none
-/
import SysdvrWebos.Core.NdlMedia
import SysdvrWebos.Core.SftAudio
import SysdvrWebos.Core.SftTransport
import SysdvrWebos.Lib.CText

namespace SysdvrWebos

/-- `SFT_FEED_MAX_RETRIES`. -/
def sftFeedMaxRetries : Nat := 200

/-- The flags of `sft_worker` that the UI reads, the locals of `sft_stream_thread`, and what the thread
    has done to the outside: its player calls and the times of its keyframe requests. `left` records that
    the packet loop was left. -/
structure SftThread where
  connected : Bool
  videoStarted : Bool
  failed : Bool
  finished : Bool
  statusHead : CText 128
  player : Option NdlMedia
  decoderW : UInt32
  decoderH : UInt32
  waitingKey : Bool
  haveSequence : Bool
  lastSequence : UInt32
  timelineWallBase : UInt64
  lastKeyRequest : UInt64
  audio : SftAudio
  audioDevice : SdlDevice UInt8
  audioOpenAttempted : Bool
  left : Bool
  calls : List NdlCall
  keyRequests : List UInt64
deriving DecidableEq

/-- The text the waiting screen shows when the console has nothing to say. -/
def sftReadyText : CText 128 := CText.print 128 (CString.literal "Connected. Open a game on the Switch...")

/-- `sft_request_keyframe` and the note of its time; a failed send is only logged. -/
def SftThread.requestKeyframe (w : SftThread) (now : UInt64) : SftThread :=
  { w with keyRequests := w.keyRequests ++ [now], lastKeyRequest := now }

/-- The thread up to its loop, started at `now`. -/
def sftThreadStart (now : UInt64) : SftThread :=
  SftThread.requestKeyframe {
    connected := true
    videoStarted := false
    failed := false
    finished := false
    statusHead := sftReadyText
    player := none
    decoderW := 0
    decoderH := 0
    waitingKey := true
    haveSequence := false
    lastSequence := 0
    timelineWallBase := 0
    lastKeyRequest := 0
    audio := SftAudio.zero
    audioDevice := ⟨[], 0⟩
    audioOpenAttempted := false
    left := false
    calls := []
    keyRequests := [] } now

/-- What the surroundings answer while one packet is handled: the clock, whether a player can be created,
    initialized and loaded, how `NDL_DirectVideoPlay` answers each time the submit loop finds `running`
    set (the flag is found cleared after the last of them), and the audio device. -/
structure SftAnswers where
  now : UInt64
  allocated : Bool
  initSucceeds : Bool
  loadSucceeds : Bool
  plays : List Bool
  audioInit : Bool
  audioDevice : Nat
  audioFormat : Bool
  drains : Drains
  queueAccepts : Bool
deriving Repr, DecidableEq

/-- `submit_video` with `retries` behind it. -/
def submitVideo (player : NdlMedia) (data : List UInt8) (ptsUs : UInt64) :
    (plays : List Bool) → (retries : Nat) → List NdlCall → Bool × List NdlCall
  | [], _, calls => (false, calls)
  | answer :: plays, retries, calls =>
      match ndlMediaFeedVideo player data ptsUs answer calls with
      | (.ok, calls) => (true, calls)
      | (.error, calls) => (false, calls)
      | (.retry, calls) =>
          if retries ≥ sftFeedMaxRetries then
            (false, calls)
          else
            submitVideo player data ptsUs plays (retries + 1) calls

/-- What `log_status_packet` takes out of a packet. -/
structure StatusText where
  reason : UInt32
  head : CString
  detail : CString
deriving DecidableEq

/-- The extraction in `log_status_packet`; a packet of less than eight bytes is only counted. -/
def logStatusPacket (size : Nat) : Scan UInt8 (Option StatusText) :=
  if size < 8 then
    pure none
  else do
    let b₀ ← Scan.cell 4
    let b₁ ← Scan.cell 5
    let b₂ ← Scan.cell 6
    let b₃ ← Scan.cell 7
    let head ← (if size > 8 then Scan.slice 8 (min (size - 8) 64) else pure [])
    let detail ← (if size > 72 then Scan.slice 72 (min (size - 72) 120) else pure [])
    pure (some ⟨LittleEndian.le32 b₀ b₁ b₂ b₃, CString.ofBytes head, CString.ofBytes detail⟩)

/-- The status line the waiting screen shows after a status packet. -/
def statusLine (text : StatusText) : CText 128 :=
  if text.reason ≠ 0 ∧ text.head.bytes ≠ [] then CText.print 128 text.head else sftReadyText

/-- The sequence check of a video packet. -/
def noteSequence (w : SftThread) (h : SftPacketHeader) (key : Bool) (now : UInt64) : SftThread :=
  let w :=
    if w.haveSequence && h.sequence ≠ w.lastSequence + 1 then
      let w := { w with waitingKey := !key }
      if !key && now - w.lastKeyRequest ≥ 250000 then w.requestKeyframe now else w
    else
      w
  { w with lastSequence := h.sequence, haveSequence := true }

/-- The resolution check of a video packet. -/
def noteResolution (w : SftThread) (h : SftPacketHeader) (key : Bool) (now : UInt64) : SftThread :=
  if w.decoderW ≠ 0 ∧ (h.width ≠ w.decoderW ∨ h.height ≠ w.decoderH) then
    let w := { w with waitingKey := !key }
    if !key && now - w.lastKeyRequest ≥ 250000 then w.requestKeyframe now else w
  else
    w

/-- A video packet that is not decodable. -/
def withhold (w : SftThread) (now : UInt64) : SftThread :=
  if now - w.lastKeyRequest ≥ 1000000 then w.requestKeyframe now else w

/-- The audio output is opened once, with the first decoder. -/
def openAudioOnce (w : SftThread) (answers : SftAnswers) : SftThread :=
  if w.audioOpenAttempted then
    w
  else
    { w with
      audioOpenAttempted := true
      audio := (sftAudioOpen answers.audioInit answers.audioDevice answers.audioFormat).2 }

/-- The thread gives up: the worker has failed and the loop is left. -/
def SftThread.fail (w : SftThread) : SftThread := { w with failed := true, left := true }

/-- A player for the dimensions of the packet, in place of an earlier one. -/
def prepareDecoder (w : SftThread) (h : SftPacketHeader) (answers : SftAnswers) : SftThread :=
  if w.player.isSome ∧ h.width = w.decoderW ∧ h.height = w.decoderH then
    w
  else
    let calls := match w.player with
      | some old => ndlMediaDestroy old w.calls
      | none => w.calls
    match ndlMediaCreate answers.allocated answers.initSucceeds calls with
    | (none, calls) => SftThread.fail { w with player := none, calls := calls }
    | (some p, calls) =>
        match ndlMediaOpenVideoOnly p h.width h.height answers.loadSucceeds calls with
        | (false, p, calls) =>
            SftThread.fail { w with player := none, calls := ndlMediaDestroy p calls }
        | (true, p, calls) =>
            openAudioOnce { w with
              player := some p
              calls := calls
              decoderW := h.width
              decoderH := h.height
              timelineWallBase := answers.now } answers

/-- Hand a frame to the player. -/
def submitFrame (w : SftThread) (data : List UInt8) (answers : SftAnswers) : SftThread :=
  let ptsUs := if answers.now ≥ w.timelineWallBase then answers.now - w.timelineWallBase else 0
  match w.player with
  | none => w.fail
  | some p =>
      match submitVideo p data ptsUs answers.plays 0 w.calls with
      | (false, calls) => SftThread.fail { w with calls := calls }
      | (true, calls) => { w with calls := calls, videoStarted := true }

/-- The video branch of the packet loop. -/
def handleVideo (w : SftThread) (h : SftPacketHeader) (size : Nat) (answers : SftAnswers) :
    Scan UInt8 SftThread := do
  let key ← sftPacketIsKey h size
  let w := noteResolution (noteSequence w h key answers.now) h key answers.now
  if w.waitingKey && !key then
    pure (withhold w answers.now)
  else
    let w := prepareDecoder w h answers
    if w.left then
      pure w
    else
      let data ← Scan.slice 0 size
      pure (submitFrame { w with waitingKey := false } data answers)

/-- The audio branch: before the output is ready a packet is only counted. -/
def handleAudio (w : SftThread) (size : Nat) (answers : SftAnswers) : Scan UInt8 SftThread :=
  if w.audio.ready then do
    let result ← sftAudioOffer w.audio w.audioDevice size answers.now.toNat answers.drains
      answers.queueAccepts
    pure { w with audio := result.audio, audioDevice := result.device }
  else
    pure w

/-- The body of the packet loop behind a successful read. -/
def sftHandlePacket (w : SftThread) (h : SftPacketHeader) (size : Nat) (answers : SftAnswers) :
    Scan UInt8 SftThread :=
  if sftPacketIsStatus h then do
    let text ← logStatusPacket size
    match text with
    | none => pure w
    | some text => pure { w with statusHead := statusLine text }
  else if sftPacketIsAudio h then
    handleAudio w size answers
  else if sftPacketIsVideo h then
    handleVideo w h size answers
  else
    pure w

/-- One turn of the packet loop: `running` at its test and after a failed read. -/
structure SftTurn where
  running : Bool
  runningAfter : Bool
  answers : SftAnswers
deriving Repr, DecidableEq

/-- What the thread reads its packets with: the caller's variables of the packet read, the turns of its
    read loop, and what the peer has still to send. -/
structure SftConnection where
  read : SftRead
  ticks : List Tick
  stream : List UInt8
deriving Repr, DecidableEq

/-- One turn of the packet loop of `sft_stream_thread`. -/
def sftStreamTurn (w : SftThread) (c : SftConnection) (turn : SftTurn) :
    Except Halt (SftThread × SftConnection) :=
  if !turn.running then
    .ok ({ w with left := true }, c)
  else do
    let r ← sftReadPacket sftMaxPayload c.read c.ticks c.stream
    let c : SftConnection := ⟨r.read, r.ticks, r.stream⟩
    if r.rc = 0 then
      return ({ w with left := true }, c)
    if r.rc < 0 then
      return ({ w with left := true, failed := w.failed || turn.runningAfter }, c)
    let handled := sftHandlePacket w r.read.header r.read.payloadSize turn.answers
    return (handled.run fun i => r.read.payload.getD i 0, c)

/-- The packet loop until it is left. -/
def sftStreamLoop : List SftTurn → SftThread → SftConnection → Except Halt (SftThread × SftConnection)
  | [], w, c => if w.left then .ok (w, c) else .error .blocked
  | turn :: turns, w, c =>
      if w.left then
        .ok (w, c)
      else do
        let (w, c) ← sftStreamTurn w c turn
        sftStreamLoop turns w c

/-- The end of the thread. Closing the audio output clears its queue. -/
def sftThreadExit (w : SftThread) : SftThread :=
  let w := if w.audioOpenAttempted
    then { w with
      audio := { w.audio with device := 0, ready := false }
      audioDevice := if w.audio.device ≠ 0 then w.audioDevice.clear else w.audioDevice }
    else w
  { w with
    player := none
    calls := match w.player with
      | some p => ndlMediaDestroy p w.calls
      | none => w.calls
    finished := true }

end SysdvrWebos
