/-
Module: SysdvrWebos.Proofs.AudioQueue
Layer: Proofs
Purpose: The Frame Tap audio output keeps its latency bounded and its channels aligned over any run of
  offers, resets and playing: one lemma on what an offer does to the queue, the invariant it keeps, and
  the run.
Trusted boundary: none (fully proved)
Main exports: newestWholeFrames, Drained, OfferOutcome, sftAudioOffer_outcome, AudioOp.queues, AudioInv,
  frametap_audio_latency_bounded
Open obligations: none
-/
import SysdvrWebos.Core.SftAudio

namespace SysdvrWebos

variable {Cell : Type}

/-- The payload of a packet. -/
def payloadOf (payload : Nat → Cell) (size : Nat) : List Cell := (List.range size).map payload

/-- The whole frames of a payload, of those the newest 80 ms. -/
def newestWholeFrames (payload : List Cell) : List Cell :=
  let whole := payload.take (payload.length - payload.length % 4)
  whole.drop (whole.length - 15360)

/-- An audio output just opened on the given device. -/
def audioOpened (device : Nat) : AudioState Cell where
  audio := (sftAudioOpen true device true).2
  device := ⟨[], 0⟩
  queued := []

/-! ### Draining -/

/-- Whole frames were taken from the front of the queue, perhaps all of them. -/
def Drained (before after : List Cell) : Prop := ∃ frames, after = before.drop (4 * frames)

namespace Drained

theorem refl (queue : List Cell) : Drained queue queue := ⟨0, rfl⟩

theorem trans {first second third : List Cell} (early : Drained first second)
    (late : Drained second third) : Drained first third := by
  rcases early with ⟨m, rfl⟩
  rcases late with ⟨n, rfl⟩
  exact ⟨m + n, by rw [List.drop_drop, Nat.mul_add]⟩

theorem clear (queue : List Cell) : Drained queue [] :=
  ⟨queue.length, (List.drop_eq_nil_of_le (by omega)).symm⟩

theorem drain (device : SdlDevice Cell) (frames : Nat) :
    Drained device.queue (device.drain frames).queue := ⟨frames, rfl⟩

theorem length_le {before after : List Cell} (drained : Drained before after) :
    after.length ≤ before.length := by
  rcases drained with ⟨n, rfl⟩
  rw [List.length_drop]
  omega

theorem aligned {before after : List Cell} (drained : Drained before after)
    (whole : 4 ∣ before.length) : 4 ∣ after.length := by
  rcases drained with ⟨n, rfl⟩
  rw [List.length_drop]
  omega

theorem eq_nil {after : List Cell} (drained : Drained [] after) : after = [] := by
  rcases drained with ⟨n, rfl⟩
  exact List.drop_nil

end Drained

/-! ### The chunk -/

theorem payloadOf_length (payload : Nat → Cell) (size : Nat) :
    (payloadOf payload size).length = size := by simp [payloadOf]

/-- What an offer hands to SDL: the cells of the packet from `drop` on that are left after both cuts. -/
theorem slice_newestWholeFrames (payload : Nat → Cell) (size : Nat) :
    let keep := size - size % sftAudioBytesPerFrame
    let drop := if keep > bytesForMs sftAudioPacketKeepMs then trimmed keep else 0
    (Scan.slice drop (keep - drop)).run payload = newestWholeFrames (payloadOf payload size) := by
  have limit : bytesForMs sftAudioPacketKeepMs = 15360 := by decide
  have frame : sftAudioBytesPerFrame = 4 := rfl
  intro keep drop
  have whole : keep % 4 = 0 := by
    simp only [keep, frame]
    omega
  have cut : drop = keep - 15360 := by
    simp only [drop, trimmed, limit, frame]
    split <;> omega
  have front : (payloadOf payload size).take keep = (List.range' 0 keep).map payload := by
    rw [payloadOf, ← List.map_take, List.range_eq_range', List.take_range'_of_length_ge (Nat.sub_le _ _)]
  calc (Scan.slice drop (keep - drop)).run payload
      = (List.range' (0 + drop * 1) (keep - drop)).map payload := by
        rw [Scan.run_slice, Nat.zero_add, Nat.mul_one]
    _ = ((List.range' 0 keep).map payload).drop drop := by
        rw [← List.map_drop, List.drop_range']
    _ = newestWholeFrames (payloadOf payload size) := by
        have cutBack : (payloadOf payload size).length - (payloadOf payload size).length % 4 = keep := by
          rw [payloadOf_length]
          rfl
        simp only [newestWholeFrames, cutBack, front, List.length_map, List.length_range', cut]

theorem newestWholeFrames_length (payload : List Cell) :
    (newestWholeFrames payload).length ≤ 15360 ∧ 4 ∣ (newestWholeFrames payload).length := by
  simp only [newestWholeFrames, List.length_drop, List.length_take]
  omega

/-! ### One offer -/

theorem clearAfterStall_drained (a : SftAudio) (device : SdlDevice Cell) (receivedUs frames : Nat) :
    Drained device.queue (clearAfterStall a device receivedUs frames).2.queue ∧
      (clearAfterStall a device receivedUs frames).1.failed = a.failed ∧
      (clearAfterStall a device receivedUs frames).1.peakQueueBytes = a.peakQueueBytes := by
  unfold clearAfterStall
  split
  · split
    · dsimp only
      split
      · exact ⟨Drained.clear _, rfl, rfl⟩
      · exact ⟨Drained.drain _ _, rfl, rfl⟩
    · exact ⟨Drained.refl _, rfl, rfl⟩
  · exact ⟨Drained.refl _, rfl, rfl⟩

/-- An arrival gap of 250 ms leaves nothing in the queue. -/
theorem clearAfterStall_of_gap (a : SftAudio) (device : SdlDevice Cell) (receivedUs frames : Nat)
    (offered : a.lastOfferUs ≠ 0) (gap : a.lastOfferUs + 250000 ≤ receivedUs) :
    (clearAfterStall a device receivedUs frames).2.queue = [] := by
  have later : receivedUs > a.lastOfferUs := by omega
  have stalled : receivedUs - a.lastOfferUs ≥ sftAudioStallResetMs * 1000 := by
    rw [sftAudioStallResetMs]
    omega
  unfold clearAfterStall
  rw [if_pos ⟨offered, later⟩, if_pos stalled]
  dsimp only
  split
  · rfl
  · next empty =>
      apply List.eq_nil_of_length_eq_zero
      exact Nat.eq_zero_of_not_pos empty

theorem guardLatency_drained (a : SftAudio) (device : SdlDevice Cell) (keep frames : Nat) :
    Drained device.queue (guardLatency a device keep frames).2.queue ∧
      (guardLatency a device keep frames).1.failed = a.failed ∧
      (guardLatency a device keep frames).1.peakQueueBytes = a.peakQueueBytes ∧
      (guardLatency a device keep frames).1.lastOfferUs = a.lastOfferUs := by
  unfold guardLatency
  dsimp only
  split
  · exact ⟨Drained.clear _, rfl, rfl, rfl⟩
  · exact ⟨Drained.drain _ _, rfl, rfl, rfl⟩

/-- After the guard there is room for the chunk within 120 ms. -/
theorem guardLatency_room (a : SftAudio) (device : SdlDevice Cell) {keep : Nat} (frames : Nat)
    (short : keep ≤ 23040) :
    (guardLatency a device keep frames).2.queue.length + keep ≤ 23040 := by
  have limit : bytesForMs sftAudioQueueLimitMs = 23040 := by decide
  unfold guardLatency
  dsimp only
  rw [limit]
  split
  · simpa [SdlDevice.clear] using short
  · next fits =>
      show (device.drain frames).queue.length + keep ≤ 23040
      simp only [SdlDevice.queuedSize] at fits
      omega

/-- What one offer comes to: nothing is queued and nothing else changes, or SDL refuses the chunk and the
    output is given up, or the chunk goes behind what is left of the queue. -/
inductive OfferOutcome (a : SftAudio) (device : SdlDevice Cell) (payload : List Cell)
    (receivedUs : Nat) (r : OfferResult Cell) : Prop where
  | ignored (chunk : r.chunk = none) (queue : r.device.queue = device.queue)
      (failed : r.audio.failed = a.failed) (peak : r.audio.peakQueueBytes = a.peakQueueBytes)
      (lastOffer : r.audio.lastOfferUs = a.lastOfferUs)
  | refused (chunk : r.chunk = none) (queue : Drained device.queue r.device.queue)
      (failed : r.audio.failed = true) (peak : r.audio.peakQueueBytes = a.peakQueueBytes)
  | queued (left : List Cell) (works : a.failed = false)
      (chunk : r.chunk = some (newestWholeFrames payload))
      (kept : Drained device.queue left)
      (room : left.length + (newestWholeFrames payload).length ≤ 23040)
      (queue : Drained (left ++ newestWholeFrames payload) r.device.queue)
      (fresh : a.lastOfferUs ≠ 0 → a.lastOfferUs + 250000 ≤ receivedUs → left = [])
      (failed : r.audio.failed = false)
      (peak : r.audio.peakQueueBytes = max a.peakQueueBytes r.device.queue.length)
      (lastOffer : r.audio.lastOfferUs = receivedUs)

theorem sftAudioOffer_outcome (a : SftAudio) (device : SdlDevice Cell) (payload : Nat → Cell)
    (size receivedUs : Nat) (drains : Drains) (accepts : Bool) :
    OfferOutcome a device (payloadOf payload size) receivedUs
      ((sftAudioOffer a device size receivedUs drains accepts).run payload) := by
  have chunk := slice_newestWholeFrames payload size
  have keepLength := congrArg List.length chunk
  have short := (newestWholeFrames_length (payloadOf payload size)).1
  dsimp only at chunk keepLength
  rw [Scan.run_slice, List.length_map, List.length_range'] at keepLength
  unfold sftAudioOffer
  split
  · exact .ignored rfl rfl rfl rfl rfl
  next usable =>
  have works : a.failed = false := by
    cases failed : a.failed with
    | false => rfl
    | true => simp [failed] at usable
  dsimp only
  split
  · exact .ignored rfl rfl rfl rfl rfl
  generalize size - size % sftAudioBytesPerFrame = keep at chunk keepLength ⊢
  generalize (if keep > bytesForMs sftAudioPacketKeepMs then trimmed keep else 0) = drop at *
  -- the counters that the later steps only pass on are of no interest
  generalize counted : ({ a with
    packets := a.packets + 1
    inputBytes := a.inputBytes + size
    droppedBytes := a.droppedBytes + drop } : SftAudio) = a₀
  have failed₀ : a₀.failed = a.failed := counted ▸ rfl
  have peak₀ : a₀.peakQueueBytes = a.peakQueueBytes := counted ▸ rfl
  have lastOffer₀ : a₀.lastOfferUs = a.lastOfferUs := counted ▸ rfl
  rcases clearAfterStall_drained a₀ device receivedUs drains.beforeStallCheck with
    ⟨drained₁, failed₁, peak₁⟩
  have gap₁ := clearAfterStall_of_gap a₀ device receivedUs drains.beforeStallCheck
  generalize clearAfterStall a₀ device receivedUs drains.beforeStallCheck = stalled at *
  rcases guardLatency_drained { stalled.1 with lastOfferUs := receivedUs } stalled.2 (keep - drop)
    drains.beforeGuard with ⟨drained₂, failed₂, peak₂, lastOffer₂⟩
  have fits : keep - drop ≤ 23040 := by omega
  have room₂ := guardLatency_room { stalled.1 with lastOfferUs := receivedUs } stalled.2
    drains.beforeGuard fits
  generalize guardLatency { stalled.1 with lastOfferUs := receivedUs } stalled.2 (keep - drop)
    drains.beforeGuard = guarded at *
  have drained₃ := Drained.drain guarded.2 drains.beforeQueue
  unfold queueChunk
  rw [Scan.run_bind, chunk, Scan.run_ite]
  split
  · refine .queued (guarded.2.drain drains.beforeQueue).queue works rfl
      ((drained₁.trans drained₂).trans drained₃) ?_ (Drained.drain _ _) ?_ ?_ ?_ lastOffer₂
    · have := drained₃.length_le
      omega
    · intro offered gap
      have empty := gap₁ (by rwa [lastOffer₀]) (by rwa [lastOffer₀])
      rw [empty] at drained₂
      exact (drained₂.trans drained₃).eq_nil
    · exact failed₂.trans (failed₁.trans (failed₀.trans works))
    · have peak : guarded.1.peakQueueBytes = a.peakQueueBytes := peak₂.trans (peak₁.trans peak₀)
      rw [← peak]
      rfl
  · exact .refused rfl ((drained₁.trans drained₂).trans drained₃) rfl
      (peak₂.trans (peak₁.trans peak₀))

/-- The call queues a chunk: an offer of a whole frame to an output in use, which SDL takes. -/
def AudioOp.queues (s : AudioState Cell) : AudioOp Cell → Bool
  | .offer _ size _ _ accepts =>
      s.audio.ready && !s.audio.failed && s.audio.device ≠ 0 && 4 ≤ size && accepts
  | .reset => false
  | .play _ => false

theorem isSome_chunk (s : AudioState Cell) (payload : Nat → Cell) (size receivedUs : Nat) (drains : Drains)
    (accepts : Bool) :
    ((sftAudioOffer s.audio s.device size receivedUs drains accepts).run payload).chunk.isSome
      = (AudioOp.offer payload size receivedUs drains accepts).queues s := by
  have frame : sftAudioBytesPerFrame = 4 := rfl
  unfold sftAudioOffer AudioOp.queues
  split
  · next unusable =>
      rw [Scan.run_pure]
      simp only [Bool.or_eq_true, Bool.not_eq_true', decide_eq_true_eq] at unusable
      rcases unusable with ((unready | failed) | closed) | empty
      · simp [unready]
      · simp [failed]
      · simp [closed]
      · simp [empty]
  · next usable =>
      simp only [Bool.or_eq_true, Bool.not_eq_true', decide_eq_true_eq, not_or, Bool.not_eq_false,
        Bool.not_eq_true] at usable
      obtain ⟨⟨⟨ready, works⟩, opened⟩, _⟩ := usable
      simp only [ready, works, opened, frame, Bool.not_false, Bool.true_and, ne_eq, not_false_eq_true,
        decide_true]
      split
      · next none =>
          have short : ¬ 4 ≤ size := by omega
          simp [short, Scan.run_pure]
      · next some_ =>
          have long : 4 ≤ size := by omega
          simp only [long, decide_true, Bool.true_and]
          unfold queueChunk
          rw [Scan.run_bind, Scan.run_ite]
          cases accepts <;> rfl

/-! ### A run -/

/-- What every call keeps: the queue is within 120 ms and holds whole frames, and while the output works
    the recorded offer time is that of the last chunk SDL took. -/
structure AudioInv (s : AudioState Cell) : Prop where
  bounded : s.device.queue.length ≤ 23040
  aligned : 4 ∣ s.device.queue.length
  peak : s.audio.peakQueueBytes ≤ 23040
  lastOffer : s.audio.failed = false → ∀ e ∈ s.queued.getLast?, e.1 = s.audio.lastOfferUs
  positive : ∀ e ∈ s.queued, 0 < e.1

theorem audioInv_opened (device : Nat) : AudioInv (audioOpened device : AudioState Cell) where
  bounded := Nat.zero_le _
  aligned := ⟨0, rfl⟩
  peak := by
    unfold audioOpened sftAudioOpen
    by_cases none : device = 0 <;> simp [none, SftAudio.zero]
  lastOffer := by simp [audioOpened]
  positive := by simp [audioOpened]

/-- A call that only drains the queue keeps the invariant. -/
theorem AudioInv.drained {s : AudioState Cell} (inv : AudioInv s) {audio : SftAudio}
    {device : SdlDevice Cell} (queue : Drained s.device.queue device.queue)
    (peak : audio.peakQueueBytes = s.audio.peakQueueBytes)
    (lastOffer : audio.failed = false → s.audio.failed = false ∧
      audio.lastOfferUs = s.audio.lastOfferUs) :
    AudioInv { s with audio, device } where
  bounded := Nat.le_trans queue.length_le inv.bounded
  aligned := queue.aligned inv.aligned
  peak := Nat.le_trans (Nat.le_of_eq peak) inv.peak
  lastOffer works e last := by
    rcases lastOffer works with ⟨worked, same⟩
    exact (inv.lastOffer worked e last).trans same.symm
  positive := inv.positive

/-- Packets arrive after the epoch of the clock. -/
def AudioOp.ArrivesLate : AudioOp Cell → Prop
  | .offer _ _ receivedUs _ _ => 0 < receivedUs
  | .reset | .play _ => True

/-- What is true right after a call that queued the chunk of a packet. -/
structure ChunkQueued (before after : AudioState Cell) (payload : List Cell) (receivedUs : Nat) :
    Prop where
  recorded : after.queued = before.queued ++ [(receivedUs, newestWholeFrames payload)]
  whole : 4 ∣ (newestWholeFrames payload).length
  short : (newestWholeFrames payload).length ≤ 15360
  fresh : ∀ e ∈ before.queued.getLast?, e.1 + 250000 ≤ receivedUs →
    after.device.queue <:+ newestWholeFrames payload

/-- One call keeps the invariant, and what it queues is the newest part of the packet offered. -/
theorem audioStep_inv {s : AudioState Cell} {op : AudioOp Cell} (inv : AudioInv s)
    (late : op.ArrivesLate) :
    AudioInv (audioStep s op) ∧
      ((op.queues s = false ∧ (audioStep s op).queued = s.queued) ∨
        (op.queues s = true ∧
          ∃ payload size receivedUs drains accepts, op = .offer payload size receivedUs drains accepts ∧
            ChunkQueued s (audioStep s op) (payloadOf payload size) receivedUs)) := by
  cases op with
  | play frames =>
      exact ⟨inv.drained (Drained.drain _ _) rfl fun works => ⟨works, rfl⟩, Or.inl ⟨rfl, rfl⟩⟩
  | reset =>
      have kept : AudioInv (audioStep s .reset) := by
        simp only [audioStep, sftAudioReset]
        split
        · exact inv
        · exact inv.drained (Drained.clear _) rfl fun works => ⟨works, rfl⟩
      exact ⟨kept, Or.inl ⟨rfl, rfl⟩⟩
  | offer payload size receivedUs drains accepts =>
      have outcome := sftAudioOffer_outcome s.audio s.device payload size receivedUs drains accepts
      have queues := isSome_chunk s payload size receivedUs drains accepts
      rw [← queues]
      simp only [audioStep]
      generalize (sftAudioOffer s.audio s.device size receivedUs drains accepts).run payload = r at *
      cases outcome with
      | ignored chunk queue failed peak lastOffer =>
          simp only [chunk, Option.map_none, Option.toList_none, List.append_nil]
          refine ⟨inv.drained ?_ peak fun works => ⟨failed ▸ works, lastOffer⟩, Or.inl ⟨rfl, trivial⟩⟩
          rw [queue]
          exact Drained.refl _
      | refused chunk queue failed peak =>
          simp only [chunk, Option.map_none, Option.toList_none, List.append_nil]
          exact ⟨inv.drained queue peak fun works => by simp [failed] at works, Or.inl ⟨rfl, trivial⟩⟩
      | queued left works chunk kept room queue fresh failed peak lastOffer =>
          rcases newestWholeFrames_length (payloadOf payload size) with ⟨short, whole⟩
          simp only [chunk, Option.map_some, Option.toList_some]
          have bounded : r.device.queue.length ≤ 23040 := by
            have := queue.length_le
            rw [List.length_append] at this
            omega
          refine ⟨⟨bounded, queue.aligned ?_, ?_, ?_, ?_⟩, Or.inr ⟨rfl, payload, size, receivedUs, drains,
            accepts, rfl, ⟨rfl, whole, short, ?_⟩⟩⟩
          · rw [List.length_append]
            exact Nat.dvd_add (kept.aligned inv.aligned) whole
          · show r.audio.peakQueueBytes ≤ 23040
            rw [peak]
            exact Nat.max_le.mpr ⟨inv.peak, bounded⟩
          · intro _ e last
            rw [List.getLast?_concat, Option.mem_some] at last
            rw [← last]
            exact lastOffer.symm
          · intro e member
            rcases List.mem_append.mp member with earlier | this
            · exact inv.positive e earlier
            · rw [List.mem_singleton.mp this]
              exact late
          · intro e last gap
            have offered : e.1 = s.audio.lastOfferUs := inv.lastOffer works e last
            have positive := inv.positive e (List.mem_of_getLast? last)
            have empty : left = [] := fresh (by omega) (by omega)
            rcases queue with ⟨frames, drained⟩
            rw [empty, List.nil_append] at drained
            exact drained ▸ List.drop_suffix _ _

theorem audioInv_run {ops : List (AudioOp Cell)} :
    ∀ {s : AudioState Cell}, AudioInv s → (∀ op ∈ ops, op.ArrivesLate) →
      AudioInv (ops.foldl audioStep s) := by
  induction ops with
  | nil => exact fun inv _ => inv
  | cons op ops ih =>
      intro s inv late
      exact ih (audioStep_inv inv (late op List.mem_cons_self)).1
        fun later member => late later (List.mem_cons_of_mem _ member)

/-- After every call on an opened output, whatever was offered before and whatever the hardware played
    in between: the queue and its recorded peak are within 120 ms and the queue holds whole frames. An offer
    of a whole frame that SDL takes queues the newest whole-frame part of the packet, at most 80 ms; if it
    comes 250 ms or more after the chunk queued before, nothing else is in the queue. No other call queues
    anything. -/
theorem frametap_audio_latency_bounded (device : Nat) (ops : List (AudioOp Cell)) (op : AudioOp Cell)
    (late : ∀ o ∈ ops ++ [op], o.ArrivesLate) :
    let before := ops.foldl audioStep (audioOpened device)
    let after := audioStep before op
    after.device.queue.length ≤ 23040 ∧ 4 ∣ after.device.queue.length ∧
      after.audio.peakQueueBytes ≤ 23040 ∧
      ((op.queues before = false ∧ after.queued = before.queued) ∨
        (op.queues before = true ∧
          ∃ payload size receivedUs drains accepts, op = .offer payload size receivedUs drains accepts ∧
            ChunkQueued before after (payloadOf payload size) receivedUs)) := by
  intro before after
  have inv : AudioInv before := audioInv_run (audioInv_opened device) fun o member =>
    late o (List.mem_append_left _ member)
  rcases audioStep_inv inv (late op (by simp)) with ⟨kept, queued⟩
  exact ⟨kept.bounded, kept.aligned, kept.peak, queued⟩

/-- Ten bytes at 1 ms and seven at 400 ms, with a reset and some playing in between: the first four of the
    seven are queued. -/
theorem offer_after_stall_bounded :
    let before := [.offer (fun i => i) 10 1000 ⟨0, 0, 1, 0⟩ true, .reset, .play 1].foldl audioStep
      (audioOpened 2 : AudioState Nat)
    let after := audioStep before (.offer (fun i => i) 7 400000 ⟨0, 0, 0, 0⟩ true)
    after.device.queue.length ≤ 23040 ∧ 4 ∣ after.device.queue.length ∧
      after.audio.peakQueueBytes ≤ 23040 ∧ ChunkQueued before after [0, 1, 2, 3, 4, 5, 6] 400000 := by
  intro before after
  obtain ⟨bounded, aligned, peak, queued⟩ := frametap_audio_latency_bounded 2
    [.offer (fun i => i) 10 1000 ⟨0, 0, 1, 0⟩ true, .reset, .play 1]
    (.offer (fun i => i) 7 400000 ⟨0, 0, 0, 0⟩ true) (by simp [AudioOp.ArrivesLate])
  refine ⟨bounded, aligned, peak, ?_⟩
  rcases queued with ⟨idle, _⟩ | ⟨_, payload, size, receivedUs, drains, accepts, same, chunk⟩
  · exact absurd idle (by decide)
  · cases same
    exact chunk

end SysdvrWebos
