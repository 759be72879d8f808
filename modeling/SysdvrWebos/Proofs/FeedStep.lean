/-
Module: SysdvrWebos.Proofs.FeedStep
Layer: Proofs
Purpose: What one packet does to the video side of the Frame Tap stream thread, said once: a frame is
  withheld, fed to the open player, or a player is opened for it; any other packet leaves the video side
  alone. The thread's loop body refines this step.
Trusted boundary: the player accepts every frame within the retries the thread makes
Main exports: SftArrival, sftStreamTurn_cases, SftAnswers.Accepting, prepareDecoder_spec, FeedState,
  FeedStep, handle_video, handle_other
Open obligations: none
-/
import SysdvrWebos.Core.FrametapBackend
import SysdvrWebos.Proofs.BufferSafety
import SysdvrWebos.Proofs.HeaderGrammar

namespace SysdvrWebos

/-! ### Packets -/

/-- A packet at the packet loop, with the answers given while it is handled. -/
structure SftArrival where
  header : SftPacketHeader
  payload : List UInt8
  answers : SftAnswers
deriving DecidableEq

namespace SftArrival

/-- The header passes the checks and the payload has the announced length. -/
def Valid (a : SftArrival) : Prop :=
  sftValidateHeader a.header = 0 ∧ a.payload.length = a.header.length.toNat

instance (a : SftArrival) : Decidable a.Valid := inferInstanceAs (Decidable (_ ∧ _))

/-- The payload buffer behind the packet. -/
def memory (a : SftArrival) (index : Nat) : UInt8 := a.payload.getD index 0

/-- `sft_packet_is_key` on the packet. -/
def key (a : SftArrival) : Bool := (sftPacketIsKey a.header a.payload.length).run a.memory

/-- The thread behind the loop body. -/
def handle (a : SftArrival) (w : SftThread) : SftThread :=
  (sftHandlePacket w a.header a.payload.length a.answers).run a.memory

end SftArrival

/-- The loop body over any buffer is that of the packet that stands in it. -/
theorem run_sftHandlePacket (w : SftThread) (h : SftPacketHeader) (size : Nat) (answers : SftAnswers)
    (memory : Nat → UInt8) :
    (sftHandlePacket w h size answers).run memory
      = SftArrival.handle ⟨h, (List.range size).map memory, answers⟩ w := by
  have length : ((List.range size).map memory).length = size := by
    rw [List.length_map, List.length_range]
  unfold SftArrival.handle
  simp only [length]
  apply Scan.run_congr (sftHandlePacket_within w h size answers)
  intro index bound
  simp [SftArrival.memory, bound]

/-- A turn of the packet loop leaves it, or it is the loop body for the packet it has read. -/
theorem sftStreamTurn_cases {w next : SftThread} {c after : SftConnection} {turn : SftTurn}
    (turned : sftStreamTurn w c turn = .ok (next, after)) :
    (∃ failed, next = { w with left := true, failed := failed }) ∨
      ∃ r, sftReadPacket sftMaxPayload c.read c.ticks c.stream = .ok r ∧ 0 < r.rc ∧
        next = SftArrival.handle ⟨r.read.header,
          (List.range r.read.payloadSize).map fun i => r.read.payload.getD i 0, turn.answers⟩ w := by
  unfold sftStreamTurn at turned
  split at turned
  · cases turned
    exact Or.inl ⟨w.failed, rfl⟩
  · cases read : sftReadPacket sftMaxPayload c.read c.ticks c.stream with
    | error halt =>
        rw [read] at turned
        cases turned
    | ok r =>
        rw [read] at turned
        simp only [bind, Except.bind, pure, Except.pure] at turned
        split at turned
        · cases turned
          exact Or.inl ⟨w.failed, rfl⟩
        · split at turned
          · cases turned
            exact Or.inl ⟨_, rfl⟩
          · cases turned
            right
            refine ⟨r, rfl, by omega, ?_⟩
            exact run_sftHandlePacket w r.read.header r.read.payloadSize turn.answers _

/-- Creating and opening a player succeeds and a frame is accepted after at most the retries that the
    thread is ready to make. -/
def SftAnswers.Accepting (answers : SftAnswers) : Prop :=
  answers.allocated = true ∧ answers.initSucceeds = true ∧ answers.loadSucceeds = true ∧
    ∃ retries ≤ sftFeedMaxRetries, ∃ later,
      answers.plays = List.replicate retries false ++ true :: later

/-! ### The player -/

theorem submitVideo_accepting {p : NdlMedia} (loaded : p.loaded = true) {data : List UInt8}
    (content : data ≠ []) (ptsUs : UInt64) (retries : Nat) (later : List Bool) :
    ∀ (done : Nat) (calls : List NdlCall), done + retries ≤ sftFeedMaxRetries →
      submitVideo p data ptsUs (List.replicate retries false ++ true :: later) done calls
        = (true, calls ++ List.replicate retries (.play false data ptsUs false)
            ++ [.play false data ptsUs true]) := by
  induction retries with
  | zero =>
      intro done calls _
      simp [submitVideo, ndlMediaFeedVideo, feedLocked, loaded, content]
  | succ retries ih =>
      intro done calls bound
      have again : ¬ done ≥ sftFeedMaxRetries := by omega
      rw [List.replicate_succ, List.cons_append, submitVideo]
      simp only [ndlMediaFeedVideo, feedLocked, loaded, content, List.isEmpty_iff, Bool.not_true,
        Bool.false_or, Bool.false_eq_true, if_false, again]
      rw [ih (done + 1) _ (by omega)]
      simp [List.replicate_succ]

/-- What a submission adds to the calls: plays of the frame that are refused, and behind them, if it succeeds,
    one that is accepted. -/
theorem submitVideo_calls {p : NdlMedia} {data : List UInt8} {ptsUs : UInt64} {plays : List Bool}
    {succeeds : Bool} :
    ∀ {retries : Nat} {calls after : List NdlCall},
      submitVideo p data ptsUs plays retries calls = (succeeds, after) →
        ∃ refused, after = calls ++ (List.replicate refused (.play false data ptsUs false)
          ++ if succeeds then [.play false data ptsUs true] else []) := by
  induction plays with
  | nil =>
      intro retries calls after submitted
      cases submitted
      exact ⟨0, (List.append_nil _).symm⟩
  | cons answer plays ih =>
      intro retries calls after submitted
      simp only [submitVideo, ndlMediaFeedVideo, feedLocked] at submitted
      by_cases unusable : (!p.loaded || data.isEmpty) = true
      · rw [if_pos unusable] at submitted
        cases submitted
        exact ⟨0, (List.append_nil _).symm⟩
      · rw [if_neg unusable] at submitted
        cases answer with
        | true =>
            cases submitted
            exact ⟨0, rfl⟩
        | false =>
            simp only [Bool.false_eq_true, if_false] at submitted
            split at submitted
            · cases submitted
              exact ⟨1, rfl⟩
            · obtain ⟨refused, rfl⟩ := ih submitted
              exact ⟨refused + 1, by simp [List.replicate_succ]⟩

/-- The calls that end a player. -/
def closingCalls (player : Option NdlMedia) : List NdlCall :=
  match player with
  | some p => ndlMediaDestroy p []
  | none => []

theorem ndlMediaDestroy_eq (p : NdlMedia) (calls : List NdlCall) :
    ndlMediaDestroy p calls = calls ++ closingCalls (some p) := by
  simp only [closingCalls, ndlMediaDestroy]
  split <;> split <;> simp

/-- What becomes of the player when a frame is to be submitted: it fits and stays, or it is ended, which
    leaves the calls `closed`, and a new one is opened, which may fail at either step. -/
inductive Prepared (w : SftThread) (h : SftPacketHeader) (closed : List NdlCall) (next : SftThread) :
    Prop where
  | fits (player : w.player.isSome = true) (same : next = w)
  | noPlayer (tried : List NdlCall) (fails : tried = [] ∨ tried = [.init false])
      (calls : next.calls = closed ++ tried) (player : next.player = none) (left : next.left = true)
  | noLoad (calls : next.calls = closed
        ++ [.init true, .setAppState, .load h.width h.height false false, .quit])
      (player : next.player = none) (left : next.left = true)
  | opened (calls : next.calls = closed
        ++ [.init true, .setAppState, .load h.width h.height false true, .setArea])
      (player : next.player = some ⟨true, true⟩) (left : next.left = w.left)

theorem prepareDecoder_spec (w : SftThread) (h : SftPacketHeader) (answers : SftAnswers) :
    Prepared w h (w.calls ++ closingCalls w.player) (prepareDecoder w h answers) ∧
      (prepareDecoder w h answers).keyRequests = w.keyRequests ∧
      (prepareDecoder w h answers).lastKeyRequest = w.lastKeyRequest := by
  unfold prepareDecoder
  split
  · next fits => exact ⟨.fits fits.1 rfl, rfl, rfl⟩
  extract_lets calls
  have closed : calls = w.calls ++ closingCalls w.player := by
    cases player : w.player with
    | none => simp only [calls, player, closingCalls, List.append_nil]
    | some p =>
        simp only [calls, player]
        exact ndlMediaDestroy_eq p w.calls
  clear_value calls
  rw [← closed]
  simp only [ndlMediaCreate, ndlMediaOpenVideoOnly, ndlMediaOpenInternal]
  cases answers.allocated with
  | false => exact ⟨.noPlayer [] (.inl rfl) (List.append_nil _).symm rfl rfl, rfl, rfl⟩
  | true =>
    cases answers.initSucceeds with
    | false => exact ⟨.noPlayer [.init false] (.inr rfl) rfl rfl rfl, rfl, rfl⟩
    | true =>
      cases answers.loadSucceeds with
      | false =>
          refine ⟨.noLoad ?_ rfl rfl, rfl, rfl⟩
          simp [ndlMediaDestroy, SftThread.fail]
      | true =>
          simp only [Bool.not_true, Bool.false_eq_true, if_false]
          unfold openAudioOnce
          split
          · exact ⟨.opened (List.append_assoc _ _ _) rfl rfl, rfl, rfl⟩
          · exact ⟨.opened (List.append_assoc _ _ _) rfl rfl, rfl, rfl⟩

/-! ### One packet -/

/-- The part of the thread that decides about video packets. -/
structure FeedState where
  player : Option NdlMedia
  decoderW : UInt32
  decoderH : UInt32
  waitingKey : Bool
  haveSequence : Bool
  lastSequence : UInt32
  wallBase : UInt64
  left : Bool
deriving DecidableEq

def SftThread.feed (w : SftThread) : FeedState :=
  ⟨w.player, w.decoderW, w.decoderH, w.waitingKey, w.haveSequence, w.lastSequence, w.timelineWallBase,
    w.left⟩

namespace FeedState

/-- The packet breaks the sequence or the resolution. -/
def Disturbed (s : FeedState) (h : SftPacketHeader) : Prop :=
  (s.haveSequence = true ∧ h.sequence ≠ s.lastSequence + 1) ∨
    (s.decoderW ≠ 0 ∧ (h.width ≠ s.decoderW ∨ h.height ≠ s.decoderH))

instance (s : FeedState) (h : SftPacketHeader) : Decidable (s.Disturbed h) :=
  inferInstanceAs (Decidable (_ ∨ _))

/-- The open player was loaded with the dimensions of the packet. -/
def Fits (s : FeedState) (h : SftPacketHeader) : Prop :=
  s.player.isSome = true ∧ h.width = s.decoderW ∧ h.height = s.decoderH

instance (s : FeedState) (h : SftPacketHeader) : Decidable (s.Fits h) :=
  inferInstanceAs (Decidable (_ ∧ _ ∧ _))

/-- The packet is neither skipped nor does it make the thread wait for a key frame. -/
def Passes (s : FeedState) (h : SftPacketHeader) (key : Bool) : Prop :=
  key = true ∨ (s.waitingKey = false ∧ ¬ s.Disturbed h)

/-- The state behind the sequence check, with the given answer to whether a key frame is awaited. -/
def noted (s : FeedState) (h : SftPacketHeader) (waiting : Bool) : FeedState :=
  { s with waitingKey := waiting, haveSequence := true, lastSequence := h.sequence }

end FeedState

/-- The calls that hand over one frame. -/
def playCalls (data : List UInt8) (ptsUs : UInt64) (retries : Nat) : List NdlCall :=
  List.replicate retries (.play false data ptsUs false) ++ [.play false data ptsUs true]

/-- The calls that replace the player. -/
def openCalls (old : Option NdlMedia) (h : SftPacketHeader) : List NdlCall :=
  (if old.isSome then [.unload, .quit] else [])
    ++ [.init true, .setAppState, .load h.width h.height false true, .setArea]

/-- What a video packet can do to the feed: it is withheld, it is fed to the open player, or a player is
    opened for it. -/
inductive FeedStep (h : SftPacketHeader) (data : List UInt8) (key : Bool) (now : UInt64)
    (s : FeedState) : FeedState → List NdlCall → Prop where
  | withheld (delta : key = false) (closed : s.waitingKey = true ∨ s.Disturbed h) :
      FeedStep h data key now s (s.noted h true) []
  | fed (passes : s.Passes h key) (fits : s.Fits h) (retries : Nat) :
      FeedStep h data key now s (s.noted h false)
        (playCalls data (if now ≥ s.wallBase then now - s.wallBase else 0) retries)
  | opened (passes : s.Passes h key) (misfits : ¬ s.Fits h) (retries : Nat) :
      FeedStep h data key now s
        { s.noted h false with
          player := some ⟨true, true⟩, decoderW := h.width, decoderH := h.height, wallBase := now }
        (openCalls s.player h ++ playCalls data 0 retries)

theorem FeedStep.left_eq {h : SftPacketHeader} {data : List UInt8} {key : Bool} {now : UInt64}
    {s next : FeedState} {calls : List NdlCall} (step : FeedStep h data key now s next calls) :
    next.left = s.left := by
  cases step with
  | withheld => rfl
  | fed => rfl
  | opened => rfl

/-- The sequence check on the feed. -/
theorem noteSequence_feed (w : SftThread) (h : SftPacketHeader) (key : Bool) (now : UInt64) :
    (noteSequence w h key now).feed = w.feed.noted h
      (if w.haveSequence = true ∧ h.sequence ≠ w.lastSequence + 1 then !key else w.waitingKey) ∧
    (noteSequence w h key now).calls = w.calls := by
  unfold noteSequence
  by_cases gap : w.haveSequence = true ∧ h.sequence ≠ w.lastSequence + 1
  · have taken : (w.haveSequence && decide (h.sequence ≠ w.lastSequence + 1)) = true := by
      simpa using gap
    rw [if_pos gap]
    simp only [taken, if_true]
    split
    · exact ⟨rfl, rfl⟩
    · exact ⟨rfl, rfl⟩
  · have passed : (w.haveSequence && decide (h.sequence ≠ w.lastSequence + 1)) = false := by
      simpa using gap
    rw [if_neg gap, passed]
    exact ⟨rfl, rfl⟩

/-- The resolution check on the feed. -/
theorem noteResolution_feed (w : SftThread) (h : SftPacketHeader) (key : Bool) (now : UInt64) :
    (noteResolution w h key now).feed = { w.feed with
      waitingKey := if w.decoderW ≠ 0 ∧ (h.width ≠ w.decoderW ∨ h.height ≠ w.decoderH)
        then !key else w.waitingKey } ∧
    (noteResolution w h key now).calls = w.calls := by
  unfold noteResolution
  split
  · dsimp only
    split
    · exact ⟨rfl, rfl⟩
    · exact ⟨rfl, rfl⟩
  · exact ⟨rfl, rfl⟩

/-- Both checks together: a disturbance decides anew whether a key frame is awaited. -/
theorem checks_feed (w : SftThread) (h : SftPacketHeader) (key : Bool) (now : UInt64) :
    (noteResolution (noteSequence w h key now) h key now).feed
      = w.feed.noted h (if w.feed.Disturbed h then !key else w.waitingKey) ∧
    (noteResolution (noteSequence w h key now) h key now).calls = w.calls := by
  rcases noteSequence_feed w h key now with ⟨sequenced, sameCalls⟩
  rcases noteResolution_feed (noteSequence w h key now) h key now with ⟨resolved, sameCalls'⟩
  refine ⟨?_, sameCalls'.trans sameCalls⟩
  generalize noteSequence w h key now = middle at *
  have width : middle.decoderW = w.decoderW := congrArg FeedState.decoderW sequenced
  have height : middle.decoderH = w.decoderH := congrArg FeedState.decoderH sequenced
  have waiting := congrArg FeedState.waitingKey sequenced
  simp only [FeedState.noted, SftThread.feed] at waiting
  rw [resolved, sequenced, width, height, waiting]
  simp only [FeedState.noted, FeedState.Disturbed, SftThread.feed]
  grind

theorem withhold_feed (w : SftThread) (now : UInt64) :
    (withhold w now).feed = w.feed ∧ (withhold w now).calls = w.calls := by
  unfold withhold
  split
  · exact ⟨rfl, rfl⟩
  · exact ⟨rfl, rfl⟩

theorem openAudioOnce_feed (w : SftThread) (answers : SftAnswers) :
    (openAudioOnce w answers).feed = w.feed ∧ (openAudioOnce w answers).calls = w.calls := by
  unfold openAudioOnce
  split
  · exact ⟨rfl, rfl⟩
  · exact ⟨rfl, rfl⟩

/-- No player, or one that is initialized and loaded. -/
def PlayerReady (player : Option NdlMedia) : Prop := ∀ p ∈ player, p = ⟨true, true⟩

theorem prepareDecoder_fits {w : SftThread} {h : SftPacketHeader} (fits : w.feed.Fits h)
    (answers : SftAnswers) : prepareDecoder w h answers = w :=
  if_pos fits

/-- A player that does not fit is replaced by one that does. -/
theorem prepareDecoder_misfits {w : SftThread} {h : SftPacketHeader} (misfits : ¬ w.feed.Fits h)
    {answers : SftAnswers} (accepting : answers.Accepting) (ready : PlayerReady w.player) :
    (prepareDecoder w h answers).feed
      = { w.feed with
          player := some ⟨true, true⟩, decoderW := h.width, decoderH := h.height
          wallBase := answers.now } ∧
    (prepareDecoder w h answers).calls = w.calls ++ openCalls w.player h := by
  rcases accepting with ⟨allocated, initialized, loads, _⟩
  have replaced : ¬ (w.player.isSome = true ∧ h.width = w.decoderW ∧ h.height = w.decoderH) := misfits
  unfold prepareDecoder
  rw [if_neg replaced]
  simp only [ndlMediaCreate, allocated, initialized, loads, ndlMediaOpenVideoOnly,
    ndlMediaOpenInternal, Bool.not_true, Bool.false_eq_true, if_false]
  refine ⟨(openAudioOnce_feed _ answers).1, (openAudioOnce_feed _ answers).2.trans ?_⟩
  cases player : w.player with
  | none => simp [openCalls]
  | some p =>
      rw [ready p player]
      simp [openCalls, ndlMediaDestroy]

/-- A frame for a loaded player is accepted and changes nothing but the calls. -/
theorem submitFrame_accepting {w : SftThread} (player : w.player = some ⟨true, true⟩)
    {data : List UInt8} (content : data ≠ []) {answers : SftAnswers} (accepting : answers.Accepting) :
    ∃ retries, (submitFrame w data answers).feed = w.feed ∧
      (submitFrame w data answers).calls = w.calls ++ playCalls data
        (if answers.now ≥ w.timelineWallBase then answers.now - w.timelineWallBase else 0) retries := by
  rcases accepting with ⟨_, _, _, retries, bound, later, plays⟩
  unfold submitFrame
  dsimp only
  generalize (if answers.now ≥ w.timelineWallBase then answers.now - w.timelineWallBase else 0)
    = ptsUs
  split
  · next closed => rw [player] at closed; contradiction
  · next p open_ =>
      rw [player] at open_
      cases open_
      rw [plays, submitVideo_accepting rfl content _ retries later 0 _ (by omega)]
      exact ⟨retries, rfl, List.append_assoc _ _ _⟩

theorem run_payload (a : SftArrival) :
    (Scan.slice 0 a.payload.length : Scan UInt8 (List UInt8)).run a.memory = a.payload := by
  rw [Scan.run_slice]
  apply List.ext_getElem
  · simp
  · intro i first second
    simp [SftArrival.memory, second]

/-- A frame that passes the checks is handed over, by a player that fits. -/
theorem submit_outcome {w : SftThread} {h : SftPacketHeader} {data : List UInt8} {key : Bool}
    {answers : SftAnswers} (ready : PlayerReady w.player) (content : data ≠ [])
    (accepting : answers.Accepting) {s : FeedState} (noted : w.feed = s.noted h w.waitingKey)
    (passes : s.Passes h key) :
    ∃ calls, FeedStep h data key answers.now s
        (submitFrame { prepareDecoder w h answers with waitingKey := false } data answers).feed calls ∧
      (submitFrame { prepareDecoder w h answers with waitingKey := false } data answers).calls
        = w.calls ++ calls := by
  by_cases fits : w.feed.Fits h
  · rw [prepareDecoder_fits fits]
    have player : w.player = some ⟨true, true⟩ := by
      rcases Option.isSome_iff_exists.mp fits.1 with ⟨p, open_⟩
      have open' : w.player = some p := open_
      rw [open', ready p open']
    rcases submitFrame_accepting (w := { w with waitingKey := false }) player content accepting
      with ⟨retries, feed, calls⟩
    refine ⟨_, ?_, calls⟩
    have base : w.timelineWallBase = s.wallBase := congrArg FeedState.wallBase noted
    have after : ({ w with waitingKey := false } : SftThread).feed = s.noted h false := by
      have := congrArg (fun t : FeedState => { t with waitingKey := false }) noted
      exact this
    rw [feed, after, base]
    exact .fed passes (by rw [noted] at fits; exact fits) retries
  · rcases prepareDecoder_misfits fits accepting ready with ⟨feed, opened⟩
    generalize prepareDecoder w h answers = next at *
    have player : next.player = some ⟨true, true⟩ := congrArg FeedState.player feed
    have base : next.timelineWallBase = answers.now := congrArg FeedState.wallBase feed
    rcases submitFrame_accepting (w := { next with waitingKey := false }) player content accepting
      with ⟨retries, submitted, played⟩
    have start : (if answers.now ≥ next.timelineWallBase
        then answers.now - next.timelineWallBase else 0) = 0 := by
      rw [base, UInt64.sub_self, ite_self]
    have calls : (submitFrame { next with waitingKey := false } data answers).calls
        = w.calls ++ (openCalls w.player h ++ playCalls data 0 retries) := by
      rw [played, start]
      exact (congrArg (· ++ playCalls data 0 retries) opened).trans (List.append_assoc _ _ _)
    refine ⟨_, ?_, calls⟩
    have old : w.player = s.player := congrArg FeedState.player noted
    have after : ({ next with waitingKey := false } : SftThread).feed
        = { s.noted h false with
            player := some ⟨true, true⟩, decoderW := h.width, decoderH := h.height
            wallBase := answers.now } := by
      rw [noted] at feed
      exact congrArg (fun t : FeedState => { t with waitingKey := false }) feed
    rw [submitted, after, old]
    exact .opened passes (by rw [noted] at fits; exact fits) retries

/-- A valid packet that is video is nothing else and has content and dimensions. -/
theorem SftArrival.Valid.video {a : SftArrival} (valid : a.Valid)
    (video : sftPacketIsVideo a.header = true) :
    sftPacketIsStatus a.header = false ∧ sftPacketIsAudio a.header = false ∧
      a.payload ≠ [] ∧ a.header.width ≠ 0 := by
  rcases accepted_class valid.1 with ⟨cls, _, agree, fits, _⟩
  cases (agree .video).mp video
  rcases fits with ⟨wide, _, _, _, _, _, length, _⟩
  have status : ¬ classifier .status a.header = true := fun holds => by cases (agree _).mp holds
  have audio : ¬ classifier .audio a.header = true := fun holds => by cases (agree _).mp holds
  refine ⟨Bool.eq_false_iff.mpr status, Bool.eq_false_iff.mpr audio, fun empty => ?_, fun zero => ?_⟩
  · have none := valid.2
    rw [empty] at none
    exact length (UInt32.toNat_inj.mp none.symm)
  · rw [zero] at wide
    exact absurd wide (by decide)

/-- A mask of flags none of which is set has no part that is set. -/
theorem hasFlag_of_part {h : SftPacketHeader} {mask part : UInt32} (none : h.hasFlag mask = false)
    (inside : mask &&& part = part) : h.hasFlag part = false := by
  simp only [SftPacketHeader.hasFlag, ne_eq, decide_eq_false_iff_not, not_not] at none ⊢
  rw [← inside, ← UInt32.and_assoc, none, UInt32.zero_and]

/-- A video packet is neither of the packets that are looked at first, whatever else is wrong with it. -/
theorem excluded_of_video {h : SftPacketHeader} (video : sftPacketIsVideo h = true) :
    sftPacketIsStatus h = false ∧ sftPacketIsAudio h = false := by
  have others : h.hasFlag (sftFlagAudio ||| sftFlagStatus) = false := by
    simp only [sftPacketIsVideo, Bool.and_eq_true, Bool.not_eq_true'] at video
    exact video.2
  have audio : h.hasFlag sftFlagAudio = false := hasFlag_of_part others (by decide)
  refine ⟨hasFlag_of_part others (by decide), ?_⟩
  rw [sftPacketIsAudio, audio, Bool.false_and]

/-- The video branch behind its two checks. -/
def proceed (w : SftThread) (a : SftArrival) : SftThread :=
  if w.waitingKey && !a.key then
    withhold w a.answers.now
  else if (prepareDecoder w a.header a.answers).left then
    prepareDecoder w a.header a.answers
  else
    submitFrame { prepareDecoder w a.header a.answers with waitingKey := false } a.payload a.answers

theorem handle_eq_proceed {a : SftArrival} (video : sftPacketIsVideo a.header = true) (w : SftThread) :
    a.handle w = proceed
      (noteResolution (noteSequence w a.header a.key a.answers.now) a.header a.key a.answers.now) a := by
  rcases excluded_of_video video with ⟨status, audio⟩
  unfold SftArrival.handle sftHandlePacket
  rw [if_neg (by simp [status]), if_neg (by simp [audio]), if_pos video]
  simp only [handleVideo, Scan.run_bind, Scan.run_ite, Scan.run_pure, run_payload]
  rfl

theorem prepareDecoder_left {w : SftThread} {h : SftPacketHeader} {answers : SftAnswers}
    (accepting : answers.Accepting) (ready : PlayerReady w.player) :
    (prepareDecoder w h answers).left = w.left := by
  by_cases fits : w.feed.Fits h
  · rw [prepareDecoder_fits fits]
  · exact congrArg FeedState.left (prepareDecoder_misfits fits accepting ready).1

/-- A video packet makes one step of the feed. -/
theorem handle_video {a : SftArrival} (valid : a.Valid) (video : sftPacketIsVideo a.header = true)
    (accepting : a.answers.Accepting) {w : SftThread} (staying : w.left = false)
    (ready : PlayerReady w.player) :
    ∃ calls, FeedStep a.header a.payload a.key a.answers.now w.feed (a.handle w).feed calls ∧
      (a.handle w).calls = w.calls ++ calls := by
  rcases valid.video video with ⟨_, _, content, _⟩
  rcases checks_feed w a.header a.key a.answers.now with ⟨checked, sameCalls⟩
  rw [handle_eq_proceed video]
  generalize noteResolution (noteSequence w a.header a.key a.answers.now) a.header a.key a.answers.now
    = next at *
  have waiting : next.waitingKey = if w.feed.Disturbed a.header then !a.key else w.waitingKey :=
    congrArg FeedState.waitingKey checked
  have ready' : PlayerReady next.player := by
    have same : next.player = w.player := congrArg FeedState.player checked
    rwa [same]
  have staying' : next.left = false := (congrArg FeedState.left checked).trans staying
  rw [← waiting] at checked
  unfold proceed
  by_cases skipped : next.waitingKey = true ∧ a.key = false
  · rw [if_pos (by simp [skipped])]
    rcases withhold_feed next a.answers.now with ⟨feed, calls⟩
    refine ⟨[], ?_, by rw [calls, sameCalls, List.append_nil]⟩
    rw [feed, checked, skipped.1]
    apply FeedStep.withheld skipped.2
    rw [skipped.1] at waiting
    by_cases disturbed : w.feed.Disturbed a.header
    · exact Or.inr disturbed
    · rw [if_neg disturbed] at waiting
      exact Or.inl waiting.symm
  · have passes : w.feed.Passes a.header a.key := by
      cases key : a.key with
      | true => exact Or.inl rfl
      | false =>
          have closed : next.waitingKey = false := by simpa [key] using skipped
          rw [closed, key] at waiting
          by_cases disturbed : w.feed.Disturbed a.header
          · rw [if_pos disturbed] at waiting
            cases waiting
          · rw [if_neg disturbed] at waiting
            exact Or.inr ⟨waiting.symm, disturbed⟩
    rw [if_neg (by simpa using skipped), prepareDecoder_left accepting ready', staying',
      if_neg Bool.false_ne_true, ← sameCalls]
    exact submit_outcome ready' content accepting checked passes

/-- Any other packet leaves the feed and the player alone. -/
theorem handle_other {a : SftArrival} (other : sftPacketIsVideo a.header = false) (w : SftThread) :
    (a.handle w).feed = w.feed ∧ (a.handle w).calls = w.calls := by
  unfold SftArrival.handle sftHandlePacket handleAudio
  rw [if_neg (c := sftPacketIsVideo a.header = true) (by simp [other])]
  split
  · rw [Scan.run_bind]
    generalize (logStatusPacket a.payload.length).run a.memory = text
    cases text with
    | none => exact ⟨rfl, rfl⟩
    | some text => exact ⟨rfl, rfl⟩
  · split
    · split
      · rw [Scan.run_bind]
        exact ⟨rfl, rfl⟩
      · exact ⟨rfl, rfl⟩
    · exact ⟨rfl, rfl⟩

end SysdvrWebos
