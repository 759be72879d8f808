/-
Module: SysdvrWebos.Proofs.DecoderFeed
Layer: Proofs
Purpose: The Frame Tap stream thread hands over exactly the decodable frames: a key frame always, any other
  frame exactly when it continues the frame before it and that one was handed over. A frame that is handed
  over is played once, for one that is not no call is made, and what the decoder instances have accepted is
  the frames handed over, in order. Every instance is well fed.
Trusted boundary: the player accepts every frame within the retries the thread makes
Main exports: VideoTurn, VideoTurn.Whole, Viewing, watchAll, decodersOf, frames_of_whole,
  frametap_feeds_decodable_frames
Open obligations: none
-/
import Mathlib.Data.List.Induction
import SysdvrWebos.Proofs.FeedStep
import SysdvrWebos.Spec.DecoderInstances

namespace SysdvrWebos

/-! ### The run -/

/-- A video packet behind the loop body: the calls that were made for it. -/
structure VideoTurn where
  header : SftPacketHeader
  payload : List UInt8
  key : Bool
  calls : List NdlCall
deriving DecidableEq

/-- The packet was submitted to the player: the player has accepted its payload as a video frame, once, and
    nothing else. -/
def VideoTurn.submitted (t : VideoTurn) : Bool := t.calls.filterMap NdlCall.taken == [(false, t.payload)]

/-- For a packet that is not submitted no call is made, and no call hands over anything but its payload. -/
structure VideoTurn.Whole (t : VideoTurn) : Prop where
  withheld : t.submitted = false → t.calls = []
  played : ∀ call ∈ t.calls, call.playsOnly t.payload = true

/-- The thread with the video packets it has seen. -/
structure Viewing where
  thread : SftThread
  turns : List VideoTurn
deriving DecidableEq

/-- One packet, unless the loop has been left. -/
def Viewing.watch (v : Viewing) (a : SftArrival) : Viewing :=
  if v.thread.left then
    v
  else
    let next := a.handle v.thread
    ⟨next,
      if sftPacketIsVideo a.header
        then v.turns ++ [⟨a.header, a.payload, a.key, next.calls.drop v.thread.calls.length⟩]
        else v.turns⟩

/-- The packets of a connection that began at `start`. -/
def watchAll (start : UInt64) (arrivals : List SftArrival) : Viewing :=
  arrivals.foldl Viewing.watch ⟨sftThreadStart start, []⟩

/-- The decoder instances of a list of packets, the latest first. -/
def decodersOf (turns : List VideoTurn) : List Decoder :=
  turns.foldl (fun decoders t => recordCalls t.header t.key decoders t.calls) []

/-- The packet continues the one before it: the next sequence number, the same dimensions. -/
def Continues (previous h : SftPacketHeader) : Prop :=
  previous.sequence + 1 = h.sequence ∧ previous.width = h.width ∧ previous.height = h.height

/-! ### Which frames are submitted -/

/-- Where the feed stands behind the given last video packet: before the first one a key frame is
    awaited; later it is awaited exactly if that packet was not submitted, and if it was, its decoder is
    open. -/
def Stands (s : FeedState) : Option VideoTurn → Prop
  | none => s.haveSequence = false ∧ s.waitingKey = true ∧ s.decoderW = 0 ∧ s.player = none
  | some p =>
      s.haveSequence = true ∧ s.lastSequence = p.header.sequence ∧
      (p.submitted = true ↔ s.waitingKey = false) ∧
      (p.submitted = true → s.Fits p.header ∧ s.decoderW ≠ 0)

/-- Handing over a frame comes to one accepted play of it. -/
theorem taken_playCalls (data : List UInt8) (ptsUs : UInt64) (retries : Nat) :
    (playCalls data ptsUs retries).filterMap NdlCall.taken = [(false, data)] := by
  have refused : (List.replicate retries (NdlCall.play false data ptsUs false)).filterMap NdlCall.taken = [] := by
    apply List.filterMap_eq_nil_iff.mpr
    intro call member
    rw [List.eq_of_mem_replicate member]
    rfl
  rw [playCalls, List.filterMap_append, refused]
  rfl

theorem playsOnly_playCalls (data : List UInt8) (ptsUs : UInt64) (retries : Nat) :
    ∀ call ∈ playCalls data ptsUs retries, call.playsOnly data = true := by
  intro call member
  rcases List.mem_append.mp member with refused | accepted
  · rw [List.eq_of_mem_replicate refused]
    simp [NdlCall.playsOnly]
  · rw [List.mem_singleton.mp accepted]
    simp [NdlCall.playsOnly]

/-- Opening a player plays nothing. -/
theorem openCalls_plays_nothing (old : Option NdlMedia) (h : SftPacketHeader) (data : List UInt8) :
    (openCalls old h).filterMap NdlCall.taken = [] ∧ ∀ call ∈ openCalls old h, call.playsOnly data = true := by
  unfold openCalls
  split
  · exact ⟨rfl, by simp [NdlCall.playsOnly]⟩
  · exact ⟨rfl, by simp [NdlCall.playsOnly]⟩

/-- A packet that was played behind calls that play nothing is submitted, and nothing else was played. -/
theorem played_turn {h : SftPacketHeader} {data : List UInt8} {key : Bool} {before : List NdlCall}
    (silent : before.filterMap NdlCall.taken = [] ∧ ∀ call ∈ before, call.playsOnly data = true)
    (ptsUs : UInt64) (retries : Nat) :
    (VideoTurn.mk h data key (before ++ playCalls data ptsUs retries)).submitted = true ∧
      (VideoTurn.mk h data key (before ++ playCalls data ptsUs retries)).Whole := by
  have submitted : (VideoTurn.mk h data key (before ++ playCalls data ptsUs retries)).submitted = true := by
    rw [VideoTurn.submitted, List.filterMap_append, silent.1, taken_playCalls]
    exact beq_self_eq_true _
  refine ⟨submitted, fun withheld => ?_, fun call member => ?_⟩
  · rw [submitted] at withheld
    cases withheld
  · rcases List.mem_append.mp member with opening | playing
    · exact silent.2 call opening
    · exact playsOnly_playCalls data ptsUs retries call playing

/-- Behind a submitted packet exactly the packets that continue it pass without being key frames. -/
theorem passes_iff {s : FeedState} {last : Option VideoTurn} (stands : Stands s last)
    (h : SftPacketHeader) (key : Bool) :
    s.Passes h key ↔
      key = true ∨ ∃ p ∈ last, p.submitted = true ∧ Continues p.header h := by
  unfold FeedState.Passes
  apply or_congr_right
  cases last with
  | none =>
      rcases stands with ⟨_, waiting, _, _⟩
      simp [waiting]
  | some p =>
      rcases stands with ⟨have_, sequence, open_, fits⟩
      rw [← open_]
      constructor
      · rintro ⟨submitted, undisturbed⟩
        rcases fits submitted with ⟨⟨_, width, height⟩, positive⟩
        refine ⟨p, rfl, submitted, ?_⟩
        unfold FeedState.Disturbed at undisturbed
        unfold Continues
        grind
      · rintro ⟨q, same, submitted, sequence', width', height'⟩
        cases same
        rcases fits submitted with ⟨⟨_, width, height⟩, positive⟩
        refine ⟨submitted, ?_⟩
        unfold FeedState.Disturbed
        grind

/-- One step submits its packet whole or not at all: exactly if it is a key frame or continues a submitted
    packet. The feed stands behind it afterwards. -/
theorem FeedStep.decides {h : SftPacketHeader} {data : List UInt8} {key : Bool} {now : UInt64}
    {s next : FeedState} {calls : List NdlCall} {last : Option VideoTurn}
    (step : FeedStep h data key now s next calls) (stands : Stands s last) (wide : h.width ≠ 0) :
    ((VideoTurn.mk h data key calls).submitted = true ↔
      key = true ∨ ∃ p ∈ last, p.submitted = true ∧ Continues p.header h) ∧
    (VideoTurn.mk h data key calls).Whole ∧ Stands next (some ⟨h, data, key, calls⟩) := by
  rw [← passes_iff stands]
  cases step with
  | withheld delta closed =>
      have blocked : ¬ s.Passes h key := by
        rintro (isKey | ⟨open_, undisturbed⟩)
        · rw [delta] at isKey
          cases isKey
        · rcases closed with waiting | disturbed
          · rw [open_] at waiting
            cases waiting
          · exact undisturbed disturbed
      have withheld : (VideoTurn.mk h data key []).submitted = false := rfl
      have never : ¬ (VideoTurn.mk h data key []).submitted = true := by
        rw [withheld]
        exact Bool.false_ne_true
      refine ⟨iff_of_false never blocked, ⟨fun _ => rfl, List.forall_mem_nil _⟩, rfl, rfl, ?_, ?_⟩
      · exact iff_of_false never (by simp [FeedState.noted])
      · exact fun submitted => absurd submitted never
  | fed passes fits retries =>
      obtain ⟨submitted, whole⟩ := @played_turn h data key [] ⟨rfl, List.forall_mem_nil _⟩
        (if now ≥ s.wallBase then now - s.wallBase else 0) retries
      refine ⟨iff_of_true submitted passes, whole, rfl, rfl, iff_of_true submitted rfl, fun _ => ⟨fits, ?_⟩⟩
      have width : h.width = s.decoderW := fits.2.1
      exact width ▸ wide
  | opened passes misfits retries =>
      obtain ⟨submitted, whole⟩ := @played_turn h data key (openCalls s.player h)
        (openCalls_plays_nothing s.player h data) 0 retries
      exact ⟨iff_of_true submitted passes, whole, rfl, rfl, iff_of_true submitted rfl,
        fun _ => ⟨⟨rfl, rfl, rfl⟩, wide⟩⟩

/-! ### The decoder instances -/

/-- The open player is the latest instance; its frames lie between its base and `latest`. -/
structure Feeds (s : FeedState) (decoders : List Decoder) (latest : UInt64) : Prop where
  ready : PlayerReady s.player
  wellFed : ∀ d ∈ decoders, d.WellFed
  current : s.player.isSome = true → ∃ d earlier, decoders = d :: earlier ∧
    d.width = s.decoderW ∧ d.height = s.decoderH ∧ s.wallBase ≤ latest ∧
      ∀ f ∈ d.frames, f.ptsUs ≤ latest - s.wallBase

theorem sub_le_sub_of_le {base first second : UInt64} (above : base ≤ first)
    (later : first ≤ second) : first - base ≤ second - base := by
  have above' : base ≤ second := UInt64.le_trans above later
  rw [UInt64.le_iff_toNat_le] at *
  rw [UInt64.toNat_sub_of_le _ _ (UInt64.le_iff_toNat_le.mpr above),
    UInt64.toNat_sub_of_le _ _ (UInt64.le_iff_toNat_le.mpr above')]
  omega

/-- Time may pass. -/
theorem Feeds.later {s : FeedState} {decoders : List Decoder} {latest now : UInt64}
    (feeds : Feeds s decoders latest) (clock : latest ≤ now) : Feeds s decoders now := by
  refine ⟨feeds.ready, feeds.wellFed, fun open_ => ?_⟩
  rcases feeds.current open_ with ⟨d, earlier, same, width, height, base, pts⟩
  refine ⟨d, earlier, same, width, height, UInt64.le_trans base clock, fun f member => ?_⟩
  exact UInt64.le_trans (pts f member) (sub_le_sub_of_le base clock)

theorem recordCalls_append (header : SftPacketHeader) (key : Bool) (decoders : List Decoder)
    (first second : List NdlCall) :
    recordCalls header key decoders (first ++ second)
      = recordCalls header key (recordCalls header key decoders first) second :=
  List.foldl_append

theorem recordCalls_replicate_retry (header : SftPacketHeader) (key : Bool) (decoders : List Decoder)
    (data : List UInt8) (ptsUs : UInt64) (retries : Nat) :
    recordCalls header key decoders (List.replicate retries (.play false data ptsUs false))
      = decoders := by
  induction retries with
  | zero => rfl
  | succ retries ih =>
      rw [List.replicate_succ]
      exact ih

theorem recordCalls_playCalls (h : SftPacketHeader) (key : Bool) (d : Decoder)
    (earlier : List Decoder) (data : List UInt8) (ptsUs : UInt64) (retries : Nat) :
    recordCalls h key (d :: earlier) (playCalls data ptsUs retries)
      = { d with frames := d.frames ++ [⟨h, key, data, ptsUs⟩] } :: earlier := by
  rw [playCalls, recordCalls_append, recordCalls_replicate_retry]
  rfl

theorem recordCalls_openCalls (h : SftPacketHeader) (key : Bool) (decoders : List Decoder)
    (old : Option NdlMedia) :
    recordCalls h key decoders (openCalls old h) = ⟨h.width, h.height, []⟩ :: decoders := by
  unfold openCalls
  rw [recordCalls_append]
  split
  · rfl
  · rfl

/-- A frame of the same dimensions that is not earlier keeps an instance well fed. -/
theorem Decoder.WellFed.snoc {d : Decoder} (wellFed : d.WellFed) {f : FedFrame}
    (width : f.header.width = d.width) (height : f.header.height = d.height)
    (later : ∀ g ∈ d.frames, g.ptsUs ≤ f.ptsUs) :
    Decoder.WellFed { d with frames := d.frames ++ [f] } := by
  rcases wellFed with ⟨⟨first, rest, frames, key, start⟩, dims, ordered⟩
  refine ⟨⟨first, rest ++ [f], by simp [frames], key, start⟩, ?_, ?_⟩
  · intro g member
    rcases List.mem_append.mp member with old | new
    · exact dims g old
    · cases List.mem_singleton.mp new
      exact ⟨width, height⟩
  · apply List.pairwise_append.mpr
    refine ⟨ordered, List.pairwise_singleton _ _, fun g member k new => ?_⟩
    cases List.mem_singleton.mp new
    exact later g member

/-- One step keeps every instance well fed. -/
theorem FeedStep.feeds {h : SftPacketHeader} {data : List UInt8} {key : Bool} {now latest : UInt64}
    {s next : FeedState} {calls : List NdlCall} {last : Option VideoTurn} {decoders : List Decoder}
    (step : FeedStep h data key now s next calls) (stands : Stands s last)
    (feeds : Feeds s decoders latest) (clock : latest ≤ now) :
    Feeds next (recordCalls h key decoders calls) now := by
  cases step with
  | withheld delta closed =>
      rcases feeds.later clock with ⟨ready, wellFed, current⟩
      exact ⟨ready, wellFed, current⟩
  | fed passes fits retries =>
      rcases (feeds.later clock).current fits.1 with
        ⟨d, earlier, same, width, height, reached, earlierPts⟩
      rw [same, if_pos reached, recordCalls_playCalls]
      refine ⟨feeds.ready, ?_, fun _ => ⟨_, earlier, rfl, width, height, reached, ?_⟩⟩
      · intro e member
        rcases List.mem_cons.mp member with here | there
        · subst here
          apply Decoder.WellFed.snoc (feeds.wellFed d (by simp [same])) _ _ earlierPts
          · exact fits.2.1.trans width.symm
          · exact fits.2.2.trans height.symm
        · exact feeds.wellFed e (by simp [same, there])
      · intro f member
        rcases List.mem_append.mp member with old | new
        · exact earlierPts f old
        · cases List.mem_singleton.mp new
          exact UInt64.le_refl _
  | opened passes misfits retries =>
      have isKey : key = true := by
        rcases passes with isKey | ⟨open_, undisturbed⟩
        · exact isKey
        · cases last with
          | none =>
              rw [stands.2.1] at open_
              cases open_
          | some p =>
              rcases stands with ⟨_, _, submitted, fits⟩
              rcases fits (submitted.mpr open_) with ⟨⟨isSome, width, height⟩, positive⟩
              unfold FeedState.Disturbed at undisturbed
              unfold FeedState.Fits at misfits
              grind
      rw [recordCalls_append, recordCalls_openCalls, recordCalls_playCalls]
      refine ⟨fun p same => ?_, ?_, fun _ => ⟨_, decoders, rfl, rfl, rfl, UInt64.le_refl _, ?_⟩⟩
      · exact (Option.some.inj same).symm
      · intro d member
        rcases List.mem_cons.mp member with here | there
        · subst here
          exact ⟨⟨_, [], rfl, isKey, rfl⟩, by simp, List.pairwise_singleton _ _⟩
        · exact feeds.wellFed d there
      · intro f member
        cases List.mem_singleton.mp member
        exact UInt64.zero_le

/-! ### The frames of the instances -/

/-- A call adds to the accepted frames what the player accepts with it. -/
theorem framesOf_recordCall (header : SftPacketHeader) (key : Bool) (decoders : List Decoder) (call : NdlCall) :
    (framesOf (recordCall header key decoders call)).map (fun f => (f.header, f.key, f.data)) =
      (framesOf decoders).map (fun f => (f.header, f.key, f.data)) ++
        call.taken.toList.map fun play => (header, key, play.2) := by
  cases call with
  | play audio data ptsUs succeeds =>
      cases succeeds with
      | false => simp [recordCall, NdlCall.taken]
      | true =>
          cases decoders with
          | nil => simp [recordCall, NdlCall.taken, framesOf]
          | cons d earlier => simp [recordCall, NdlCall.taken, framesOf]
  | load width height withAudio succeeds =>
      cases succeeds with
      | false => simp [recordCall, NdlCall.taken]
      | true => simp [recordCall, NdlCall.taken, framesOf]
  | _ => simp [recordCall, NdlCall.taken]

theorem framesOf_recordCalls (header : SftPacketHeader) (key : Bool) (decoders : List Decoder)
    (calls : List NdlCall) :
    (framesOf (recordCalls header key decoders calls)).map (fun f => (f.header, f.key, f.data)) =
      (framesOf decoders).map (fun f => (f.header, f.key, f.data)) ++
        (calls.filterMap NdlCall.taken).map fun play => (header, key, play.2) := by
  induction calls generalizing decoders with
  | nil => exact (List.append_nil _).symm
  | cons call calls ih =>
      have later := ih (recordCall header key decoders call)
      rw [framesOf_recordCall, List.append_assoc] at later
      refine later.trans (congrArg (_ ++ ·) ?_)
      cases taken : call.taken with
      | none => rw [List.filterMap_cons_none taken, Option.toList_none, List.map_nil, List.nil_append]
      | some play =>
          rw [List.filterMap_cons_some taken, Option.toList_some]
          rfl

/-! ### The stream -/

/-- Every packet of the list is submitted exactly if it is a key frame or continues a submitted one. -/
def Decided (turns : List VideoTurn) : Prop :=
  ∀ k t, turns[k]? = some t → (t.submitted = true ↔ t.key = true ∨
    (0 < k ∧ ∃ p, turns[k - 1]? = some p ∧ p.submitted = true ∧ Continues p.header t.header))

theorem Decided.snoc {turns : List VideoTurn} (decided : Decided turns) {t : VideoTurn}
    (last : t.submitted = true ↔ t.key = true ∨
      ∃ p ∈ turns.getLast?, p.submitted = true ∧ Continues p.header t.header) :
    Decided (turns ++ [t]) := by
  intro k u found
  rcases Nat.lt_trichotomy k turns.length with inside | here | beyond
  · rw [List.getElem?_append_left inside] at found
    rw [decided k u found, List.getElem?_append_left (by omega)]
  · subst here
    rw [List.getElem?_concat_length] at found
    cases found
    rw [last]
    apply or_congr_right
    rw [List.getLast?_eq_getElem?]
    cases turns with
    | nil => simp
    | cons first rest =>
        rw [List.getElem?_append_left (by simp)]
        simp
  · rw [List.getElem?_eq_none (by simp; omega)] at found
    cases found

theorem decodersOf_snoc (turns : List VideoTurn) (t : VideoTurn) :
    decodersOf (turns ++ [t]) = recordCalls t.header t.key (decodersOf turns) t.calls := by
  rw [decodersOf, List.foldl_append]
  rfl

/-- What the instances have accepted is the submitted packets, in order. -/
theorem frames_of_whole {turns : List VideoTurn} (whole : ∀ t ∈ turns, t.Whole) :
    (framesOf (decodersOf turns)).map (fun f => (f.header, f.key, f.data)) =
      (turns.filter VideoTurn.submitted).map fun t => (t.header, t.key, t.payload) := by
  induction turns using List.reverseRecOn with
  | nil => rfl
  | append_singleton turns t ih =>
      have earlier := ih fun u member => whole u (List.mem_append_left _ member)
      have last : t.Whole := whole t (List.mem_append_right _ (List.mem_singleton.mpr rfl))
      rw [decodersOf_snoc, framesOf_recordCalls, earlier, List.filter_append, List.map_append]
      apply congrArg (_ ++ ·)
      cases submitted : t.submitted with
      | false => rw [last.withheld submitted, List.filter_cons_of_neg (by simp [submitted])]; rfl
      | true =>
          have taken : t.calls.filterMap NdlCall.taken = [(false, t.payload)] := eq_of_beq submitted
          rw [taken, List.filter_cons_of_pos submitted]
          rfl

/-- The invariant of the packet loop: it is not left, its packets are decided, each of them was submitted
    whole or not at all, and the feed stands behind the last of them with every instance well fed. -/
structure Viewing.Sound (v : Viewing) (latest : UInt64) : Prop where
  staying : v.thread.left = false
  decided : Decided v.turns
  whole : ∀ t ∈ v.turns, t.Whole
  stands : Stands v.thread.feed v.turns.getLast?
  feeds : Feeds v.thread.feed (decodersOf v.turns) latest
  calls : v.turns.flatMap VideoTurn.calls = v.thread.calls

theorem sound_start (start : UInt64) : (Viewing.mk (sftThreadStart start) []).Sound 0 where
  staying := rfl
  decided := fun k t found => by cases found
  whole := nofun
  stands := ⟨rfl, rfl, rfl, rfl⟩
  feeds := ⟨fun p open_ => (by cases open_), fun d member => (by cases member),
    fun open_ => (by cases open_)⟩
  calls := rfl

/-- One packet keeps the invariant. -/
theorem Viewing.Sound.watch {v : Viewing} {latest : UInt64} (sound : v.Sound latest) {a : SftArrival}
    (valid : a.Valid) (accepting : a.answers.Accepting) (clock : latest ≤ a.answers.now) :
    (v.watch a).Sound a.answers.now := by
  unfold Viewing.watch
  rw [if_neg (by simp [sound.staying])]
  by_cases video : sftPacketIsVideo a.header = true
  · rcases handle_video valid video accepting sound.staying sound.feeds.ready with ⟨calls, step, made⟩
    have new : (a.handle v.thread).calls.drop v.thread.calls.length = calls := by
      rw [made, List.drop_left]
    rcases step.decides sound.stands (valid.video video).2.2.2 with ⟨decides, isWhole, stands⟩
    have staying : (a.handle v.thread).left = false := step.left_eq.trans sound.staying
    simp only [video, if_true, new]
    refine ⟨staying, sound.decided.snoc decides, ?_, ?_, ?_, ?_⟩
    · exact List.forall_mem_append.mpr ⟨sound.whole, List.forall_mem_singleton.mpr isWhole⟩
    · rwa [List.getLast?_concat]
    · rw [decodersOf_snoc]
      exact step.feeds sound.stands sound.feeds clock
    · simp [sound.calls, made]
  · rcases handle_other (Bool.eq_false_iff.mpr video) v.thread with ⟨feed, calls⟩
    simp only [video, Bool.false_eq_true, if_false]
    refine ⟨(congrArg FeedState.left feed).trans sound.staying, sound.decided, sound.whole, ?_, ?_, ?_⟩
    · rw [feed]
      exact sound.stands
    · rw [feed]
      exact sound.feeds.later clock
    · rw [calls]
      exact sound.calls

theorem foldl_watch {arrivals : List SftArrival} :
    ∀ {v : Viewing} {latest : UInt64}, v.Sound latest → (∀ a ∈ arrivals, a.Valid) →
      (∀ a ∈ arrivals, a.answers.Accepting) →
      (latest :: arrivals.map fun a => a.answers.now).Pairwise (· ≤ ·) →
      (∃ now, (arrivals.foldl Viewing.watch v).Sound now) ∧
      (arrivals.foldl Viewing.watch v).turns.map (fun t => (t.header, t.payload, t.key))
        = v.turns.map (fun t => (t.header, t.payload, t.key)) ++
          (arrivals.filter fun a => sftPacketIsVideo a.header).map fun a => (a.header, a.payload, a.key) := by
  induction arrivals with
  | nil =>
      intro v latest sound _ _ _
      exact ⟨⟨latest, sound⟩, by simp⟩
  | cons a arrivals ih =>
      intro v latest sound valid accepting clock
      rcases List.pairwise_cons.mp clock with ⟨first, rest⟩
      have next := sound.watch (valid a List.mem_cons_self) (accepting a List.mem_cons_self)
        (first _ (by simp))
      rcases ih next (fun b member => valid b (List.mem_cons_of_mem _ member))
        (fun b member => accepting b (List.mem_cons_of_mem _ member)) rest with ⟨last, seen⟩
      refine ⟨last, seen.trans ?_⟩
      unfold Viewing.watch
      rw [if_neg (by simp [sound.staying])]
      cases video : sftPacketIsVideo a.header with
      | true => simp [video]
      | false => simp [video]

/-- On every stream of valid packets with a clock that does not go back and a player that accepts what it
    is given, the stream thread stays in its loop and sees each video packet once; the packet is submitted
    exactly if it is a key frame or continues the submitted packet before it, and every decoder instance is
    well fed. All calls on the player are made for these packets: none for one that is not submitted, and
    one accepted play of its payload for one that is, with refused ones of it before. What the instances
    have accepted is the submitted packets, in order. -/
theorem frametap_feeds_decodable_frames (start : UInt64) (arrivals : List SftArrival)
    (valid : ∀ a ∈ arrivals, a.Valid) (accepting : ∀ a ∈ arrivals, a.answers.Accepting)
    (clock : (arrivals.map fun a => a.answers.now).Pairwise (· ≤ ·)) :
    (watchAll start arrivals).thread.left = false ∧
    (watchAll start arrivals).turns.map (fun t => (t.header, t.payload, t.key))
      = ((arrivals.filter fun a => sftPacketIsVideo a.header).map fun a => (a.header, a.payload, a.key)) ∧
    (watchAll start arrivals).turns.flatMap VideoTurn.calls = (watchAll start arrivals).thread.calls ∧
    (∀ k t, (watchAll start arrivals).turns[k]? = some t →
      (t.submitted = true ↔ t.key = true ∨
        (0 < k ∧ ∃ p, (watchAll start arrivals).turns[k - 1]? = some p ∧ p.submitted = true ∧
          p.header.sequence + 1 = t.header.sequence ∧ p.header.width = t.header.width ∧
          p.header.height = t.header.height))) ∧
    (∀ t ∈ (watchAll start arrivals).turns,
      (t.submitted = false → t.calls = []) ∧
      (t.submitted = true → t.calls.filterMap NdlCall.taken = [(false, t.payload)]) ∧
      ∀ call ∈ t.calls, call.playsOnly t.payload = true) ∧
    (framesOf (decodersOf (watchAll start arrivals).turns)).map (fun f => (f.header, f.key, f.data))
      = (((watchAll start arrivals).turns.filter VideoTurn.submitted).map
          fun t => (t.header, t.key, t.payload)) ∧
    ∀ d ∈ decodersOf (watchAll start arrivals).turns,
      (∃ first rest, d.frames = first :: rest ∧ first.key = true ∧ first.ptsUs = 0) ∧
      (∀ f ∈ d.frames, f.header.width = d.width ∧ f.header.height = d.height) ∧
      d.frames.Pairwise fun f g => f.ptsUs ≤ g.ptsUs := by
  have clock' : ((0 : UInt64) :: arrivals.map fun a => a.answers.now).Pairwise (· ≤ ·) :=
    List.pairwise_cons.mpr ⟨fun _ _ => UInt64.zero_le, clock⟩
  rcases foldl_watch (sound_start start) valid accepting clock' with ⟨⟨now, sound⟩, seen⟩
  refine ⟨sound.staying, seen, sound.calls, sound.decided, fun t member => ?_, frames_of_whole sound.whole,
    sound.feeds.wellFed⟩
  have whole := sound.whole t member
  exact ⟨whole.withheld, eq_of_beq, whole.played⟩

/-- A 640x480 video packet of one byte, accepted by the player at the second attempt. -/
def smallFrame (flags : UInt16) (sequence : UInt32) (now : UInt64) : SftArrival where
  header := ⟨sftMagic, sftProtocolVersion, flags, flags, 640, 480, 0, 1, 4, sequence⟩
  payload := [0]
  answers := ⟨now, true, true, true, [false, true], false, 0, false, ⟨0, 0, 0, 0⟩, true⟩

/-- A key frame, the frame behind it across the wrap of the sequence, and one behind a gap. -/
def wrappingStream : List SftArrival :=
  [smallFrame 0x06 4294967295 7, smallFrame 0x02 0 9, smallFrame 0x02 5 12]

/-- The frame behind the wrap is submitted as the packet before it was. -/
theorem frame_behind_the_wrap_is_submitted :
    ∃ t, (watchAll 3 wrappingStream).turns[1]? = some t ∧ t.submitted = true := by
  have accepting : ∀ a ∈ wrappingStream, a.answers.Accepting := by
    intro a member
    simp only [wrappingStream, List.mem_cons, List.not_mem_nil, or_false] at member
    rcases member with rfl | rfl | rfl
    all_goals exact ⟨rfl, rfl, rfl, 1, by decide, [], rfl⟩
  rcases frametap_feeds_decodable_frames 3 wrappingStream (by decide +kernel) accepting (by decide)
    with ⟨_, _, _, decided, _⟩
  have first : (watchAll 3 wrappingStream).turns[0]? = some
      ⟨(smallFrame 0x06 4294967295 7).header, [0], true,
        openCalls none (smallFrame 0x06 4294967295 7).header ++ playCalls [0] 0 1⟩ := by
    decide +kernel
  have second : (watchAll 3 wrappingStream).turns[1]? = some
      ⟨(smallFrame 0x02 0 9).header, [0], false, playCalls [0] 2 1⟩ := by
    decide +kernel
  exact ⟨_, second, (decided 1 _ second).mpr
    (Or.inr ⟨by decide, _, first, (decided 0 _ first).mpr (Or.inl rfl), rfl, rfl, rfl⟩)⟩

end SysdvrWebos
