/-
Module: SysdvrWebos.Core.SftAudio
Layer: Core
Purpose: The audio output of the Switch Frame Tap backend (src/sft_audio.c): opening, offering a packet,
  resetting. The SDL device is a queue of samples that the hardware takes whole frames from at any time
  in between; a size read and the clear that depends on it are one step. The obtained audio format and
  the log lines are left out, and so are the NULL arguments that no caller passes.
Trusted boundary: SDL_QueueAudio appends what it is given or reports a failure and appends nothing; the
  64-bit counters and the clock in microseconds are numbers that do not wrap
Main exports: SdlDevice, SftAudio, sftAudioOpen, sftAudioReset, sftAudioOffer, AudioState, audioStep
Open obligations: none
-/
import SysdvrWebos.Lib.Scan

namespace SysdvrWebos

/-- `SFT_AUDIO_BYTES_PER_FRAME`. -/
def sftAudioBytesPerFrame : Nat := 4
/-- `SFT_AUDIO_BYTES_PER_SECOND`. -/
def sftAudioBytesPerSecond : Nat := 48000 * sftAudioBytesPerFrame
/-- `SFT_AUDIO_PACKET_KEEP_MS`. -/
def sftAudioPacketKeepMs : Nat := 80
/-- `SFT_AUDIO_QUEUE_LIMIT_MS`. -/
def sftAudioQueueLimitMs : Nat := 120
/-- `SFT_AUDIO_STALL_RESET_MS`. -/
def sftAudioStallResetMs : Nat := 250

/-- `bytes_for_ms`. -/
def bytesForMs (ms : Nat) : Nat := sftAudioBytesPerSecond * ms / 1000

/-- The queue of the audio device, and how many bytes have been played from it. -/
structure SdlDevice (Cell : Type) where
  queue : List Cell
  played : Nat
deriving Repr, DecidableEq

namespace SdlDevice

variable {Cell : Type}

/-- The hardware plays up to the given number of whole frames. -/
def drain (device : SdlDevice Cell) (frames : Nat) : SdlDevice Cell where
  queue := device.queue.drop (sftAudioBytesPerFrame * frames)
  played := device.played + min (sftAudioBytesPerFrame * frames) device.queue.length

/-- `SDL_GetQueuedAudioSize`. -/
def queuedSize (device : SdlDevice Cell) : Nat := device.queue.length

/-- `SDL_ClearQueuedAudio`. -/
def clear (device : SdlDevice Cell) : SdlDevice Cell := { device with queue := [] }

/-- A successful `SDL_QueueAudio`. -/
def push (device : SdlDevice Cell) (chunk : List Cell) : SdlDevice Cell :=
  { device with queue := device.queue ++ chunk }

end SdlDevice

/-- `sft_audio`. A device of `0` is none; a `lastOfferUs` of `0` stands for no offer yet. -/
structure SftAudio where
  device : Nat
  ready : Bool
  started : Bool
  failed : Bool
  packets : Nat
  inputBytes : Nat
  queuedBytes : Nat
  droppedBytes : Nat
  queueResets : Nat
  queueErrors : Nat
  peakQueueBytes : Nat
  lastOfferUs : Nat
deriving Repr, DecidableEq

/-- `memset(a, 0, sizeof(*a))`. -/
def SftAudio.zero : SftAudio where
  device := 0
  ready := false
  started := false
  failed := false
  packets := 0
  inputBytes := 0
  queuedBytes := 0
  droppedBytes := 0
  queueResets := 0
  queueErrors := 0
  peakQueueBytes := 0
  lastOfferUs := 0

/-- `sft_audio_open`: whether SDL starts its audio system, the device it opens (`0` on failure), and
    whether that device has the wanted format. -/
def sftAudioOpen (initSucceeds : Bool) (device : Nat) (formatFits : Bool) : Bool × SftAudio :=
  if !initSucceeds then
    (false, { SftAudio.zero with failed := true })
  else if device = 0 then
    (false, { SftAudio.zero with failed := true })
  else if !formatFits then
    (false, { SftAudio.zero with failed := true })
  else
    (true, { SftAudio.zero with device := device, ready := true, started := true })

variable {Cell : Type}

/-- `sft_audio_reset`. -/
def sftAudioReset (a : SftAudio) (device : SdlDevice Cell) : SftAudio × SdlDevice Cell :=
  if !a.ready || a.device = 0 then
    (a, device)
  else
    ({ a with
        droppedBytes := a.droppedBytes + device.queuedSize
        queuedBytes := 0
        queueResets := a.queueResets + 1 }, device.clear)

/-- The frames played during one offer, by the call into SDL they come before. -/
structure Drains where
  beforeStallCheck : Nat
  beforeGuard : Nat
  beforeQueue : Nat
  afterQueue : Nat
deriving Repr, DecidableEq

/-- The part of `sft_audio_offer` that clears what is left from before an arrival stall. -/
def clearAfterStall (a : SftAudio) (device : SdlDevice Cell) (receivedUs frames : Nat) :
    SftAudio × SdlDevice Cell :=
  if a.lastOfferUs ≠ 0 ∧ receivedUs > a.lastOfferUs then
    if receivedUs - a.lastOfferUs ≥ sftAudioStallResetMs * 1000 then
      let device := device.drain frames
      if device.queuedSize > 0 then
        ({ a with
            droppedBytes := a.droppedBytes + device.queuedSize
            queueResets := a.queueResets + 1 }, device.clear)
      else
        (a, device)
    else
      (a, device)
  else
    (a, device)

/-- The part of `sft_audio_offer` that clears a queue with no room for `keep` more bytes. -/
def guardLatency (a : SftAudio) (device : SdlDevice Cell) (keep frames : Nat) :
    SftAudio × SdlDevice Cell :=
  let device := device.drain frames
  if device.queuedSize + keep > bytesForMs sftAudioQueueLimitMs then
    ({ a with
        droppedBytes := a.droppedBytes + device.queuedSize
        queueResets := a.queueResets + 1 }, device.clear)
  else
    (a, device)

/-- What an offer hands back: its return value, the new state, and the chunk SDL took, if any. -/
structure OfferResult (Cell : Type) where
  rc : Bool
  audio : SftAudio
  device : SdlDevice Cell
  chunk : Option (List Cell)
deriving Repr, DecidableEq

/-- The bytes trimmed from the front of a packet of which `keep` bytes are whole frames. -/
def trimmed (keep : Nat) : Nat :=
  let excess := keep - bytesForMs sftAudioPacketKeepMs
  excess - excess % sftAudioBytesPerFrame

theorem trimmed_le (keep : Nat) : trimmed keep ≤ keep :=
  Nat.le_trans (Nat.sub_le _ _) (Nat.sub_le _ _)

/-- The end of `sft_audio_offer`: `SDL_QueueAudio` with its answer, and the size read back. -/
def queueChunk (a : SftAudio) (device : SdlDevice Cell) (drop keep frames : Nat) (accepts : Bool) :
    Scan Cell (OfferResult Cell) := do
  let chunk ← Scan.slice drop keep
  if accepts then
    let device := (device.push chunk).drain frames
    pure ⟨true,
      { a with
        queuedBytes := device.queuedSize
        peakQueueBytes := max a.peakQueueBytes device.queuedSize }, device, some chunk⟩
  else
    pure ⟨false, { a with queueErrors := a.queueErrors + 1, failed := true }, device, none⟩

/-- `sft_audio_offer`; `accepts` is the answer of `SDL_QueueAudio`. -/
def sftAudioOffer (a : SftAudio) (device : SdlDevice Cell) (size receivedUs : Nat) (drains : Drains)
    (accepts : Bool) : Scan Cell (OfferResult Cell) :=
  if !a.ready || a.failed || a.device = 0 || size = 0 then
    pure ⟨false, a, device, none⟩
  else
    let a := { a with packets := a.packets + 1, inputBytes := a.inputBytes + size }
    let keep := size - size % sftAudioBytesPerFrame
    if keep = 0 then
      pure ⟨true, a, device, none⟩
    else
      let drop := if keep > bytesForMs sftAudioPacketKeepMs then trimmed keep else 0
      let a := { a with droppedBytes := a.droppedBytes + drop }
      let stalled := clearAfterStall a device receivedUs drains.beforeStallCheck
      let guarded := guardLatency { stalled.1 with lastOfferUs := receivedUs } stalled.2 (keep - drop)
        drains.beforeGuard
      queueChunk guarded.1 (guarded.2.drain drains.beforeQueue) drop (keep - drop) drains.afterQueue
        accepts

/-- The calls made on an audio output, and the playing that goes on between them. -/
inductive AudioOp (Cell : Type) where
  | offer (payload : Nat → Cell) (size receivedUs : Nat) (drains : Drains) (accepts : Bool)
  | reset
  | play (frames : Nat)

/-- An audio output in use; `queued` records every chunk SDL took with the arrival time of its packet. -/
structure AudioState (Cell : Type) where
  audio : SftAudio
  device : SdlDevice Cell
  queued : List (Nat × List Cell)
deriving Repr, DecidableEq

/-- One call, or some playing. -/
def audioStep (s : AudioState Cell) : AudioOp Cell → AudioState Cell
  | .offer payload size receivedUs drains accepts =>
      let result := (sftAudioOffer s.audio s.device size receivedUs drains accepts).run payload
      { audio := result.audio
        device := result.device
        queued := s.queued ++ (result.chunk.map (receivedUs, ·)).toList }
  | .reset =>
      let (audio, device) := sftAudioReset s.audio s.device
      { s with audio, device }
  | .play frames => { s with device := s.device.drain frames }

end SysdvrWebos
