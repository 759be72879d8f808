/-
Module: SysdvrWebos.Proofs.AudioAccounting
Layer: Proofs
Purpose: Where the bytes offered to the Frame Tap audio output go. Each part of an offer moves bytes between
  the packet in hand, the queue, the hardware and the dropped ones and loses none, so the counters balance
  after every call until SDL refuses a chunk.
Trusted boundary: none (fully proved)
Main exports: Balanced, balanced_offer, frametap_audio_bytes_balance
Open obligations: none
-/
import SysdvrWebos.Proofs.AudioQueue

namespace SysdvrWebos

variable {Cell : Type}

/-- Every byte offered so far has been played, is queued, was dropped, or is among the `inHand` bytes of the
    packet being offered. -/
def Balanced (a : SftAudio) (device : SdlDevice Cell) (inHand : Nat) : Prop :=
  a.inputBytes = device.played + device.queue.length + a.droppedBytes + inHand

variable {a : SftAudio} {device : SdlDevice Cell} {inHand : Nat}

/-! ### The parts of an offer -/

/-- Playing moves bytes from the queue to the hardware. -/
theorem balanced_drain (balanced : Balanced a device inHand) (frames : Nat) :
    Balanced a (device.drain frames) inHand := by
  simp only [Balanced, SdlDevice.drain, List.length_drop] at balanced ⊢
  omega

/-- A clear that is counted moves the whole queue to the dropped bytes. -/
theorem balanced_clear (balanced : Balanced a device inHand) {cleared : SftAudio}
    (input : cleared.inputBytes = a.inputBytes)
    (dropped : cleared.droppedBytes = a.droppedBytes + device.queuedSize) :
    Balanced cleared device.clear inHand := by
  simp only [Balanced, SdlDevice.clear, SdlDevice.queuedSize, List.length_nil] at balanced dropped ⊢
  omega

theorem balanced_clearAfterStall (balanced : Balanced a device inHand) (receivedUs frames : Nat) :
    Balanced (clearAfterStall a device receivedUs frames).1
      (clearAfterStall a device receivedUs frames).2 inHand := by
  have drained := balanced_drain balanced frames
  unfold clearAfterStall
  split
  · split
    · dsimp only
      split
      · exact balanced_clear drained rfl rfl
      · exact drained
    · exact balanced
  · exact balanced

theorem balanced_guardLatency (balanced : Balanced a device inHand) (keep frames : Nat) :
    Balanced (guardLatency a device keep frames).1 (guardLatency a device keep frames).2 inHand := by
  have drained := balanced_drain balanced frames
  unfold guardLatency
  dsimp only
  split
  · exact balanced_clear drained rfl rfl
  · exact drained

/-- A chunk that SDL takes leaves nothing in hand. -/
theorem balanced_queueChunk {drop keep : Nat} (balanced : Balanced a device keep) (frames : Nat)
    (accepts : Bool) (payload : Nat → Cell)
    (works : ((queueChunk a device drop keep frames accepts).run payload).audio.failed = false) :
    Balanced ((queueChunk a device drop keep frames accepts).run payload).audio
      ((queueChunk a device drop keep frames accepts).run payload).device 0 := by
  unfold queueChunk at works ⊢
  rw [Scan.run_bind, Scan.run_ite] at works ⊢
  split
  · next taken =>
      have pushed : Balanced a (device.push ((Scan.slice drop keep).run payload)) 0 := by
        simp only [Balanced, SdlDevice.push, List.length_append, Scan.run_slice, List.length_map,
          List.length_range'] at balanced ⊢
        omega
      exact balanced_drain pushed frames
  · next refused =>
      rw [if_neg refused] at works
      cases works

/-! ### One call -/

/-- A packet of whole frames is taken into hand, trimmed, and queued. -/
theorem balanced_offer (balanced : Balanced a device 0) {size : Nat} (whole : size % 4 = 0)
    (receivedUs : Nat) (drains : Drains) (accepts : Bool) (payload : Nat → Cell)
    (works : ((sftAudioOffer a device size receivedUs drains accepts).run payload).audio.failed
      = false) :
    Balanced ((sftAudioOffer a device size receivedUs drains accepts).run payload).audio
      ((sftAudioOffer a device size receivedUs drains accepts).run payload).device 0 := by
  have frame : sftAudioBytesPerFrame = 4 := rfl
  have keepAll : size - size % sftAudioBytesPerFrame = size := by
    rw [frame]
    omega
  unfold sftAudioOffer at works ⊢
  simp only [Scan.run_ite, keepAll] at works ⊢
  split
  · exact balanced
  next usable =>
  rw [if_neg usable] at works
  split
  · next empty =>
      simp only [Balanced, Scan.run_pure, empty] at balanced ⊢
      omega
  next nonempty =>
  rw [if_neg nonempty] at works
  have trims : (if size > bytesForMs sftAudioPacketKeepMs then trimmed size else 0) ≤ size := by
    split
    · exact trimmed_le size
    · exact Nat.zero_le size
  generalize (if size > bytesForMs sftAudioPacketKeepMs then trimmed size else 0) = drop at *
  have inHand : Balanced { a with
      packets := a.packets + 1
      inputBytes := a.inputBytes + size
      droppedBytes := a.droppedBytes + drop } device (size - drop) := by
    simp only [Balanced] at balanced ⊢
    omega
  have stalled := balanced_clearAfterStall inHand receivedUs drains.beforeStallCheck
  have guarded := balanced_guardLatency (a := { (clearAfterStall _ _ _ _).1 with
    lastOfferUs := receivedUs }) stalled (size - drop) drains.beforeGuard
  exact balanced_queueChunk (balanced_drain guarded drains.beforeQueue) _ _ _ works

theorem balanced_reset (balanced : Balanced a device 0) :
    Balanced (sftAudioReset a device).1 (sftAudioReset a device).2 0 := by
  unfold sftAudioReset
  split
  · exact balanced
  · exact balanced_clear balanced rfl rfl

/-! ### A run -/

/-- The packet offered consists of whole frames, as `sft_validate_header` demands. -/
def AudioOp.WholeFrames : AudioOp Cell → Prop
  | .offer _ size _ _ _ => size % 4 = 0
  | .reset | .play _ => True

/-- An output that works now has worked all along. -/
theorem failed_of_audioStep {s : AudioState Cell} {op : AudioOp Cell}
    (works : (audioStep s op).audio.failed = false) : s.audio.failed = false := by
  cases op with
  | play frames => exact works
  | reset =>
      simp only [audioStep, sftAudioReset] at works
      split at works
      · exact works
      · exact works
  | offer payload size receivedUs drains accepts =>
      have outcome := sftAudioOffer_outcome s.audio s.device payload size receivedUs drains accepts
      simp only [audioStep] at works
      cases outcome with
      | ignored _ _ failed _ _ => exact failed ▸ works
      | refused _ _ failed _ => rw [failed] at works; cases works
      | queued _ worked => exact worked

theorem balanced_audioStep {s : AudioState Cell} {op : AudioOp Cell} (whole : op.WholeFrames)
    (balanced : Balanced s.audio s.device 0) (works : (audioStep s op).audio.failed = false) :
    Balanced (audioStep s op).audio (audioStep s op).device 0 := by
  cases op with
  | play frames => exact balanced_drain balanced frames
  | reset => exact balanced_reset balanced
  | offer payload size receivedUs drains accepts =>
      exact balanced_offer balanced whole receivedUs drains accepts payload works

theorem failed_of_run {ops : List (AudioOp Cell)} {s : AudioState Cell}
    (works : (ops.foldl audioStep s).audio.failed = false) : s.audio.failed = false := by
  induction ops generalizing s with
  | nil => exact works
  | cons op ops ih => exact failed_of_audioStep (ih works)

theorem balanced_run {ops : List (AudioOp Cell)} {s : AudioState Cell}
    (balanced : Balanced s.audio s.device 0) (whole : ∀ op ∈ ops, op.WholeFrames)
    (works : (ops.foldl audioStep s).audio.failed = false) :
    Balanced (ops.foldl audioStep s).audio (ops.foldl audioStep s).device 0 := by
  induction ops generalizing s with
  | nil => exact balanced
  | cons op ops ih =>
      have step := balanced_audioStep (whole op List.mem_cons_self) balanced (failed_of_run works)
      exact ih step (fun later member => whole later (List.mem_cons_of_mem op member)) works

theorem balanced_opened (device : Nat) :
    Balanced (audioOpened device : AudioState Cell).audio (audioOpened device : AudioState Cell).device 0 := by
  unfold Balanced audioOpened sftAudioOpen
  by_cases none : device = 0 <;> simp [none, SftAudio.zero]

/-- After any calls on an opened output, with any playing in between and as long as no `SDL_QueueAudio`
    has failed, the bytes offered are those played, those queued and those dropped. -/
theorem frametap_audio_bytes_balance (device : Nat) (ops : List (AudioOp Cell))
    (whole : ∀ op ∈ ops, op.WholeFrames)
    (works : (ops.foldl audioStep (audioOpened device)).audio.failed = false) :
    let s := ops.foldl audioStep (audioOpened device)
    s.audio.inputBytes = s.device.played + s.device.queue.length + s.audio.droppedBytes :=
  balanced_run (balanced_opened device) whole works

/-- Two frames, of which one is played before a stall clears the other, and three frames after it. -/
theorem offers_around_stall_balance :
    let s := [.offer (fun i => i) 8 1000 ⟨0, 0, 0, 1⟩ true, .offer (fun i => i) 12 400000 ⟨0, 0, 0, 0⟩ true,
      .reset, .play 1].foldl audioStep (audioOpened 2 : AudioState Nat)
    s.audio.inputBytes = s.device.played + s.device.queue.length + s.audio.droppedBytes :=
  frametap_audio_bytes_balance 2
    [.offer (fun i => i) 8 1000 ⟨0, 0, 0, 1⟩ true, .offer (fun i => i) 12 400000 ⟨0, 0, 0, 0⟩ true,
      .reset, .play 1]
    (by simp [AudioOp.WholeFrames]) (by decide)

end SysdvrWebos
