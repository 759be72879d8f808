/-
Module: SysdvrWebos.Proofs.PlayerLifecycle
Layer: Proofs
Purpose: Both backends keep to the call protocol of the player. What a session knows of its player
  determines the phase the player is in, and each step of a session takes both along, so a session that has
  returned leaves no player behind; and a player is torn down only by a thread that no other feeds it with.
Trusted boundary: none (fully proved)
Main exports: MayBeIn, Leads, SftThread.Sound, CarriesOn, streamRunStep_goes, frametapRunStep_goes,
  PlayerThread, CurrentSession.mayFeed, player_protocol_respected
Open obligations: none
-/
import SysdvrWebos.Core.Sessions
import SysdvrWebos.Proofs.FeedStep
import SysdvrWebos.Proofs.SessionSteps
import SysdvrWebos.Spec.PlayerProtocol

namespace SysdvrWebos

/-! ### The wrapper -/

/-- The calls lead the player to the phase. -/
def Leads (calls : List NdlCall) (phase : PlayerPhase) : Prop :=
  Runs.exec playerStep .off calls = some phase

/-- The phases a player may be in by what the wrapper knows of it. -/
inductive MayBeIn : NdlMedia → PlayerPhase → Prop where
  | opened : MayBeIn ⟨true, false⟩ .foreground
  | refused : MayBeIn ⟨true, false⟩ .unloadable
  | playing : MayBeIn ⟨true, true⟩ .playing

variable {calls : List NdlCall} {phase : PlayerPhase} {player : NdlMedia}

theorem Leads.append {more : List NdlCall} {next : PlayerPhase} (leads : Leads calls phase)
    (run : Runs.exec playerStep phase more = some next) : Leads (calls ++ more) next :=
  Runs.exec_append.mpr ⟨phase, leads, run⟩

/-- A player that could not be created is off; one that was is in the foreground. -/
theorem ndlMediaCreate_leads (leads : Leads calls .off) (allocated initSucceeds : Bool) :
    (∃ more, ndlMediaCreate allocated initSucceeds calls = (none, calls ++ more) ∧
        Leads (calls ++ more) .off) ∨
      ∃ more, ndlMediaCreate allocated initSucceeds calls = (some ⟨true, false⟩, calls ++ more) ∧
        Leads (calls ++ more) .foreground := by
  cases allocated with
  | false =>
      left
      refine ⟨[], ?_, leads.append rfl⟩
      rw [List.append_nil]
      rfl
  | true =>
      cases initSucceeds with
      | false => exact Or.inl ⟨_, rfl, leads.append rfl⟩
      | true => exact Or.inr ⟨_, rfl, leads.append rfl⟩

/-- Loading works or leaves a player that can only be ended. -/
theorem ndlMediaOpen_leads (leads : Leads calls .foreground) (width height : UInt32)
    (loadSucceeds : Bool) :
    (∃ more, ndlMediaOpen ⟨true, false⟩ width height loadSucceeds calls
          = (true, ⟨true, true⟩, calls ++ more) ∧ Leads (calls ++ more) .playing) ∨
      ∃ more, ndlMediaOpen ⟨true, false⟩ width height loadSucceeds calls
          = (false, ⟨true, false⟩, calls ++ more) ∧ Leads (calls ++ more) .unloadable := by
  cases loadSucceeds with
  | false => exact Or.inr ⟨_, rfl, leads.append rfl⟩
  | true => exact Or.inl ⟨_, rfl, leads.append rfl⟩

/-- Feeding adds nothing or one play. -/
theorem feedLocked_calls (p : NdlMedia) (data : List UInt8) (ptsUs : UInt64)
    (audio playSucceeds : Bool) (calls : List NdlCall) :
    ∃ plays, (feedLocked p data ptsUs audio playSucceeds calls).2 = calls ++ plays ∧
      ∀ call ∈ plays, call.isPlay = true := by
  unfold feedLocked
  split
  · exact ⟨[], (List.append_nil calls).symm, by simp⟩
  · refine ⟨_, rfl, ?_⟩
    intro call member
    rw [List.mem_singleton.mp member]
    rfl

/-- Whatever phase the player is in, its destruction ends it. -/
theorem ndlMediaDestroy_leads (stands : MayBeIn player phase) (leads : Leads calls phase) :
    Leads (ndlMediaDestroy player calls) .off := by
  rw [ndlMediaDestroy_eq]
  cases stands with
  | opened => exact leads.append rfl
  | refused => exact leads.append rfl
  | playing => exact leads.append rfl

/-! ### The Frame Tap stream thread -/

/-- The thread has no player and all are ended, or it has one that is playing. -/
def SftThread.Sound (w : SftThread) : Prop :=
  match w.player with
  | none => Leads w.calls .off
  | some p => p = ⟨true, true⟩ ∧ Leads w.calls .playing

/-- A part of the thread takes the player along with its calls and takes none back. -/
structure CarriesOn (w next : SftThread) : Prop where
  sound : w.Sound → next.Sound
  grows : w.calls <+: next.calls

theorem CarriesOn.trans {w middle next : SftThread} (first : CarriesOn w middle)
    (second : CarriesOn middle next) : CarriesOn w next where
  sound := fun sound => second.sound (first.sound sound)
  grows := List.IsPrefix.trans first.grows second.grows

/-- A part that makes no call. -/
theorem CarriesOn.of_same {w next : SftThread} (player : next.player = w.player)
    (calls : next.calls = w.calls) : CarriesOn w next where
  sound := by
    intro sound
    rw [SftThread.Sound, player, calls]
    exact sound
  grows := calls ▸ List.prefix_rfl

/-- Ending the player of a thread leaves none alive. -/
theorem SftThread.Sound.closed {w : SftThread} (sound : w.Sound) :
    Leads (w.calls ++ closingCalls w.player) .off := by
  unfold SftThread.Sound at sound
  cases player : w.player with
  | none =>
      rw [player] at sound
      rw [closingCalls, List.append_nil]
      exact sound
  | some p =>
      rw [player] at sound
      rcases sound with ⟨rfl, playing⟩
      exact playing.append rfl

theorem prepareDecoder_carriesOn (w : SftThread) (h : SftPacketHeader) (answers : SftAnswers) :
    CarriesOn w (prepareDecoder w h answers) := by
  have spec := (prepareDecoder_spec w h answers).1
  generalize prepareDecoder w h answers = next at spec ⊢
  have grows : ∀ more, next.calls = w.calls ++ closingCalls w.player ++ more →
      w.calls <+: next.calls := by
    intro more calls
    rw [calls, List.append_assoc]
    exact List.prefix_append _ _
  cases spec with
  | fits _ same =>
      rw [same]
      exact .of_same rfl rfl
  | noPlayer tried fails calls player _ =>
      refine ⟨fun sound => ?_, grows tried calls⟩
      rw [SftThread.Sound, player, calls]
      rcases fails with rfl | rfl
      · exact sound.closed.append rfl
      · exact sound.closed.append rfl
  | noLoad calls player _ =>
      refine ⟨fun sound => ?_, grows _ calls⟩
      rw [SftThread.Sound, player, calls]
      exact sound.closed.append rfl
  | opened calls player _ =>
      refine ⟨fun sound => ?_, grows _ calls⟩
      rw [SftThread.Sound, player, calls]
      exact ⟨rfl, sound.closed.append rfl⟩

/-- A submission only plays. -/
theorem isPlay_submission (data : List UInt8) (ptsUs : UInt64) (refused : Nat) (succeeds : Bool) :
    ∀ call ∈ List.replicate refused (NdlCall.play false data ptsUs false)
      ++ (if succeeds then [NdlCall.play false data ptsUs true] else []), call.isPlay = true := by
  intro call member
  rcases List.mem_append.mp member with again | last
  · rw [List.eq_of_mem_replicate again]
    rfl
  · cases succeeds with
    | false => cases last
    | true =>
        rw [List.mem_singleton.mp last]
        rfl

/-- A thread that feeds its player goes on playing. -/
theorem CarriesOn.of_plays {w next : SftThread} {p : NdlMedia} {plays : List NdlCall}
    (player : w.player = some p) (player' : next.player = some p) (calls : next.calls = w.calls ++ plays)
    (only : ∀ call ∈ plays, call.isPlay = true) : CarriesOn w next where
  sound := by
    intro sound
    rw [SftThread.Sound, player] at sound
    rw [SftThread.Sound, player', calls]
    exact ⟨sound.1, sound.2.append (exec_plays only)⟩
  grows := by
    rw [calls]
    exact List.prefix_append _ _

theorem submitFrame_carriesOn (w : SftThread) (data : List UInt8) (answers : SftAnswers) :
    CarriesOn w (submitFrame w data answers) := by
  unfold submitFrame
  extract_lets ptsUs
  split
  · exact .of_same rfl rfl
  · next p open_ =>
      split
      · next after submitted =>
          obtain ⟨refused, fed⟩ := submitVideo_calls submitted
          exact .of_plays open_ open_ fed (isPlay_submission data ptsUs refused false)
      · next after submitted =>
          obtain ⟨refused, fed⟩ := submitVideo_calls submitted
          exact .of_plays open_ open_ fed (isPlay_submission data ptsUs refused true)

theorem withhold_carriesOn (w : SftThread) (now : UInt64) : CarriesOn w (withhold w now) :=
  .of_same (congrArg FeedState.player (withhold_feed w now).1) (withhold_feed w now).2

/-- The video branch behind its checks. -/
theorem proceed_carriesOn (w : SftThread) (a : SftArrival) : CarriesOn w (proceed w a) := by
  have prepared := prepareDecoder_carriesOn w a.header a.answers
  unfold proceed
  split
  · exact withhold_carriesOn w a.answers.now
  · split
    · exact prepared
    · have ready : CarriesOn (prepareDecoder w a.header a.answers)
          { prepareDecoder w a.header a.answers with waitingKey := false } := .of_same rfl rfl
      exact (prepared.trans ready).trans (submitFrame_carriesOn _ a.payload a.answers)

/-- One packet, of whatever type. -/
theorem handle_carriesOn (a : SftArrival) (w : SftThread) : CarriesOn w (a.handle w) := by
  cases video : sftPacketIsVideo a.header with
  | true =>
      rcases checks_feed w a.header a.key a.answers.now with ⟨feed, calls⟩
      rw [handle_eq_proceed video]
      apply CarriesOn.trans (.of_same (congrArg FeedState.player feed) calls)
      exact proceed_carriesOn _ a
  | false =>
      rcases handle_other video w with ⟨feed, calls⟩
      exact .of_same (congrArg FeedState.player feed) calls

theorem sftStreamTurn_carriesOn {w next : SftThread} {c after : SftConnection} {turn : SftTurn}
    (turned : sftStreamTurn w c turn = .ok (next, after)) : CarriesOn w next := by
  rcases sftStreamTurn_cases turned with ⟨failed, rfl⟩ | ⟨r, _, _, rfl⟩
  · exact .of_same rfl rfl
  · exact handle_carriesOn _ w

/-- The end of the thread ends the player it still has. -/
theorem sftThreadExit_leads {w : SftThread} (sound : w.Sound) :
    Leads (sftThreadExit w).calls .off ∧ w.calls <+: (sftThreadExit w).calls := by
  have calls : (sftThreadExit w).calls = w.calls ++ closingCalls w.player := by
    unfold sftThreadExit
    extract_lets _ u
    have player : u.player = w.player := by
      simp only [u]
      split <;> rfl
    have made : u.calls = w.calls := by
      simp only [u]
      split <;> rfl
    clear_value u
    cases holds : w.player with
    | none =>
        rw [holds] at player
        simp only [player, made, closingCalls, List.append_nil]
    | some p =>
        rw [holds] at player
        simp only [player, made]
        exact ndlMediaDestroy_eq p w.calls
  rw [calls]
  exact ⟨sound.closed, List.prefix_append _ _⟩

/-! ### Threads and teardowns -/

/-- The threads of the two backends. -/
inductive PlayerThread where
  | main
  | worker (kind : StreamKind)
  | sftStream
deriving Repr, DecidableEq

/-- A worker of the session is there. -/
def StreamRunPc.feeds : StreamRunPc → StreamKind → Bool
  | .streaming session _, kind => !(session.worker kind).pc.idle
  | _, _ => false

/-- The stream thread is in its loop and has a player. -/
def SftThreadPc.feeds : SftThreadPc → Bool
  | .loop w _ => w.player.isSome
  | _ => false

/-- The thread may still feed the player of the session. -/
def CurrentSession.mayFeed : CurrentSession → PlayerThread → Bool
  | .stream run, .worker kind => run.pc.feeds kind
  | .frametap run, .sftStream => run.thread.feeds
  | _, _ => false

/-- The thread that makes the step. -/
def PlaybackEvent.thread : PlaybackEvent → PlayerThread
  | .stream (.session (.worker kind)) => .worker kind
  | .stream (.feed kind _) => .worker kind
  | .frametap (.enter _ _ _) => .sftStream
  | .frametap (.turn _) => .sftStream
  | .frametap .exit => .sftStream
  | _ => .main

/-- The calls after the earlier ones end a player. -/
def TearsDown (before after : List NdlCall) : Prop :=
  .unload ∈ after.drop before.length ∨ .quit ∈ after.drop before.length

theorem not_tearsDown_self (calls : List NdlCall) : ¬ TearsDown calls calls := by
  simp [TearsDown]

theorem not_tearsDown_of_plays {plays : List NdlCall} (only : ∀ call ∈ plays, call.isPlay = true) :
    ¬ TearsDown calls (calls ++ plays) := by
  rw [TearsDown, List.drop_left]
  rintro (unload | quit)
  · cases only _ unload
  · cases only _ quit

/-! ### A SysDVR session -/

/-- The phase of the player where `run_stream_session` stands. -/
inductive StandsAt : StreamRunPc → PlayerPhase → Prop where
  | create : StandsAt .create .off
  | load : StandsAt (.load ⟨true, false⟩) .foreground
  | connect (kind : StreamKind) : StandsAt (.connect kind ⟨true, true⟩) .playing
  | handshake (kind : StreamKind) : StandsAt (.handshake kind ⟨true, true⟩) .playing
  | prime : StandsAt (.prime ⟨true, true⟩) .playing
  | streaming (base : UInt64) (session : Session) (wired : session.Wired base) :
      StandsAt (.streaming session ⟨true, true⟩) .playing
  | giveUp (p : NdlMedia) (left : PlayerPhase) (stands : MayBeIn p left) : StandsAt (.giveUp p) left
  | returned (result : SessionResult) : StandsAt (.returned result) .off

def StreamRun.Sound (r : StreamRun) : Prop := ∃ phase, StandsAt r.pc phase ∧ Leads r.calls phase

/-- What a step of the session does to the player's calls: none is taken back, and the player is torn down
    only when no worker is there. -/
structure StreamRun.Goes (r t : StreamRun) : Prop where
  sound : t.Sound
  grows : r.calls <+: t.calls
  quiet : TearsDown r.calls t.calls → ∀ kind, r.pc.feeds kind = false

theorem streamRunSession_goes {session : Session} {base : UInt64} (wired : session.Wired base)
    (leads : Leads calls .playing) {event : SessionEvent} {t : StreamRun}
    (step : streamRunSession session ⟨true, true⟩ calls event = some t) :
    StreamRun.Goes ⟨.streaming session ⟨true, true⟩, calls⟩ t := by
  have goes : ∃ next, sessionStep session event = some next ∧
      t = ⟨.streaming next ⟨true, true⟩, calls⟩ := by
    cases event with
    | feed kind answer => cases step
    | worker kind =>
        obtain ⟨next, stepped, same⟩ := Option.map_eq_some_iff.mp step
        exact ⟨next, stepped, same.symm⟩
    | main creates action =>
        obtain ⟨next, stepped, same⟩ := Option.map_eq_some_iff.mp step
        exact ⟨next, stepped, same.symm⟩
    | signal =>
        cases step
        exact ⟨_, rfl, rfl⟩
  obtain ⟨next, stepped, rfl⟩ := goes
  exact ⟨⟨.playing, .streaming base next (wired.step stepped), leads⟩, List.prefix_rfl,
    fun tears => absurd tears (not_tearsDown_self calls)⟩

theorem feedPacket_calls (kind : StreamKind) (p : NdlMedia) (data : List UInt8) (ptsUs : UInt64)
    (playSucceeds : Bool) (calls : List NdlCall) :
    ∃ plays, (feedPacket kind p data ptsUs playSucceeds calls).2 = calls ++ plays ∧
      ∀ call ∈ plays, call.isPlay = true := by
  cases kind with
  | video => exact feedLocked_calls p data ptsUs false playSucceeds calls
  | audio => exact feedLocked_calls p data ptsUs true playSucceeds calls

theorem streamRunFeed_goes {session : Session} {base : UInt64} (wired : session.Wired base)
    (leads : Leads calls .playing) {kind : StreamKind} {playSucceeds : Bool} {t : StreamRun}
    (step : streamRunFeed session ⟨true, true⟩ calls kind playSucceeds = some t) :
    StreamRun.Goes ⟨.streaming session ⟨true, true⟩, calls⟩ t := by
  unfold streamRunFeed at step
  split at step
  · next packet retries _ =>
      obtain ⟨plays, fed, only⟩ := feedPacket_calls kind ⟨true, true⟩ packet.payload
        ((session.worker kind).ptsUs packet) playSucceeds calls
      generalize feedPacket kind ⟨true, true⟩ packet.payload ((session.worker kind).ptsUs packet)
        playSucceeds calls = result at fed step
      rcases result with ⟨answer, after⟩
      cases fed
      obtain ⟨next, stepped, rfl⟩ := Option.map_eq_some_iff.mp step
      exact ⟨⟨.playing, .streaming base next (wired.step stepped), leads.append (exec_plays only)⟩,
        List.prefix_append _ _, fun tears => absurd tears (not_tearsDown_of_plays only)⟩
  · cases step

/-- The player is destroyed behind the joins. -/
theorem destroy_goes {session : Session} {base : UInt64} (wired : session.Wired base)
    (leads : Leads calls .playing) {result : SessionResult} (returned : session.main = .returned result) :
    StreamRun.Goes ⟨.streaming session ⟨true, true⟩, calls⟩
      ⟨.returned result, ndlMediaDestroy ⟨true, true⟩ calls⟩ := by
  refine ⟨⟨.off, .returned result, ndlMediaDestroy_leads .playing leads⟩, ?_, fun _ kind => ?_⟩
  · rw [ndlMediaDestroy_eq]
    exact List.prefix_append _ _
  · cases kind with
    | video =>
        change (!session.video.pc.idle) = false
        rw [wired.videoJoined (Or.inr ⟨result, returned⟩)]
        rfl
    | audio =>
        change (!session.audio.pc.idle) = false
        rw [(wired.audioJoined result returned).1]
        rfl

/-- Every step of the session takes the player along. -/
theorem streamRunStep_goes {r t : StreamRun} {event : StreamRunEvent} (sound : r.Sound)
    (step : streamRunStep r event = some t) : r.Goes t := by
  rcases r with ⟨pc, calls⟩
  rcases sound with ⟨phase, stands, leads⟩
  dsimp only at stands leads
  cases stands with
  | create =>
      cases event with
      | create allocated initSucceeds =>
          rcases ndlMediaCreate_leads leads allocated initSucceeds with
            ⟨more, made, leads'⟩ | ⟨more, made, leads'⟩
          · simp only [streamRunStep, made] at step
            cases step
            exact ⟨⟨.off, .returned .error, leads'⟩, List.prefix_append _ _, fun _ _ => rfl⟩
          · simp only [streamRunStep, made] at step
            cases step
            exact ⟨⟨.foreground, .load, leads'⟩, List.prefix_append _ _, fun _ _ => rfl⟩
      | _ => cases step
  | load =>
      cases event with
      | load succeeds =>
          rcases ndlMediaOpen_leads leads videoWidth videoHeight succeeds with
            ⟨more, made, leads'⟩ | ⟨more, made, leads'⟩
          · simp only [streamRunStep, made] at step
            cases step
            exact ⟨⟨.playing, .connect .video, leads'⟩, List.prefix_append _ _, fun _ _ => rfl⟩
          · simp only [streamRunStep, made] at step
            cases step
            exact ⟨⟨.unloadable, .giveUp _ _ .refused, leads'⟩, List.prefix_append _ _, fun _ _ => rfl⟩
      | _ => cases step
  | connect kind =>
      cases event with
      | connect succeeds =>
          cases step
          refine ⟨⟨.playing, ?_, leads⟩, List.prefix_rfl, fun _ _ => rfl⟩
          cases succeeds with
          | true => exact .handshake kind
          | false => exact .giveUp _ _ .playing
      | _ => cases step
  | handshake kind =>
      cases event with
      | handshake succeeds =>
          cases step
          refine ⟨⟨.playing, ?_, leads⟩, List.prefix_rfl, fun _ _ => rfl⟩
          cases succeeds with
          | true =>
              cases kind with
              | video => exact .connect .audio
              | audio => exact .prime
          | false => exact .giveUp _ _ .playing
      | _ => cases step
  | prime =>
      cases event with
      | prime allocated reads =>
          simp only [streamRunStep] at step
          split at step
          · cases step
          · cases step
            exact ⟨⟨.playing, .giveUp _ _ .playing, leads⟩, List.prefix_rfl, fun _ _ => rfl⟩
          · next session primed =>
              cases step
              obtain ⟨video, audio, videoRest, audioRest, _, _, rfl⟩ := primeSession_some primed
              exact ⟨⟨.playing, .streaming _ _ (wired_primedSession _ video audio videoRest audioRest),
                leads⟩, List.prefix_rfl, fun _ _ => rfl⟩
      | _ => cases step
  | streaming base session wired =>
      cases event with
      | session event => exact streamRunSession_goes wired leads step
      | feed kind playSucceeds => exact streamRunFeed_goes wired leads step
      | destroy =>
          simp only [streamRunStep] at step
          split at step
          · next result returned =>
              cases step
              exact destroy_goes wired leads returned
          · cases step
      | _ => cases step
  | giveUp p left stands =>
      cases event with
      | destroy =>
          cases step
          refine ⟨⟨.off, .returned .error, ndlMediaDestroy_leads stands leads⟩, ?_, fun _ _ => rfl⟩
          rw [ndlMediaDestroy_eq]
          exact List.prefix_append _ _
      | _ => cases step
  | returned result => cases event <;> cases step

/-! ### A Frame Tap session -/

/-- The stream thread takes its player along, and leaves none behind. -/
def SftThreadPc.Sound : SftThreadPc → Prop
  | .loop w _ => w.Sound
  | .finished _ calls => Leads calls .off
  | _ => True

/-- There is no stream thread. -/
def SftThreadPc.absent : SftThreadPc → Bool
  | .unstarted => true
  | .finished _ _ => true
  | _ => false

/-- The main thread has not created the stream thread yet. -/
def FrametapPc.ahead : FrametapPc → Bool
  | .connect => true
  | .initLock => true
  | .createThread => true
  | _ => false

/-- The session is back. -/
def FrametapPc.isReturned : FrametapPc → Bool
  | .returned _ => true
  | _ => false

/-- How the main thread and the stream thread are wired. -/
structure FrametapRun.Sound (r : FrametapRun) : Prop where
  thread : r.thread.Sound
  fresh : r.main.ahead = true → r.thread = .unstarted
  joined : r.main.isReturned = true → r.thread.absent = true

theorem frametapRun_start_sound : frametapRunStart.Sound :=
  ⟨trivial, fun _ => rfl, fun _ => rfl⟩

/-- A thread without a player to come has made no call or ended the last one. -/
theorem SftThreadPc.Sound.off {thread : SftThreadPc} (sound : thread.Sound)
    (absent : thread.absent = true) : Leads thread.calls .off := by
  cases thread with
  | unstarted => rfl
  | finished failed calls => exact sound
  | entry => cases absent
  | loop w c => cases absent

/-- A step of the stream thread: it was there, and it takes its player along. -/
structure SftThreadPc.Goes (thread next : SftThreadPc) : Prop where
  sound : thread.Sound → next.Sound
  grows : thread.Sound → thread.calls <+: next.calls
  present : thread.absent = false

theorem sftThreadStep_goes {running : Bool} {thread next : SftThreadPc} {event : FrametapRunEvent}
    (step : sftThreadStep running thread event = some next) : thread.Goes next := by
  unfold sftThreadStep at step
  split at step
  · next allocated now connection =>
      cases step
      refine ⟨fun _ => ?_, fun _ => List.nil_prefix, rfl⟩
      cases allocated with
      | true => rfl
      | false => rfl
  · next w c turn =>
      split at step
      · cases step
      · split at step
        · next after c' turned =>
            cases step
            have goes := sftStreamTurn_carriesOn turned
            exact ⟨goes.sound, fun _ => goes.grows, rfl⟩
        · cases step
  · next w c =>
      split at step
      · cases step
        exact ⟨fun sound => (sftThreadExit_leads sound).1, fun sound => (sftThreadExit_leads sound).2,
          rfl⟩
      · cases step
  · cases step

/-- What a step of the session does to the player's calls: only the stream thread adds to them. -/
structure FrametapRun.Goes (r : FrametapRun) (event : FrametapRunEvent) (t : FrametapRun) : Prop where
  sound : t.Sound
  grows : r.thread.calls <+: t.thread.calls
  byThread : (PlaybackEvent.frametap event).thread = .main → t.thread.calls = r.thread.calls

/-- A step of the main thread that leaves the stream thread alone. -/
theorem FrametapRun.Sound.goesOn {r : FrametapRun} {event : FrametapRunEvent} (sound : r.Sound)
    {main : FrametapPc} (running signalStop userBack : Bool)
    (fresh : main.ahead = true → r.thread = .unstarted)
    (joined : main.isReturned = true → r.thread.absent = true) :
    r.Goes event ⟨main, running, signalStop, userBack, r.thread⟩ :=
  ⟨⟨sound.thread, fresh, joined⟩, List.prefix_rfl, fun _ => rfl⟩

theorem absent_of_unstarted {thread : SftThreadPc} (unstarted : thread = .unstarted) :
    thread.absent = true := by
  rw [unstarted]
  rfl

theorem absent_of_finished {thread : SftThreadPc} (finished : thread.isFinished = true) :
    thread.absent = true := by
  cases thread <;> first | rfl | cases finished

theorem frametapMainStep_goes {r t : FrametapRun} {succeeds : Bool} {action : ShellAction}
    (sound : r.Sound) (step : frametapMainStep r succeeds action = some t) :
    r.Goes (.main succeeds action) t := by
  unfold frametapMainStep at step
  split at step
  · next connecting =>
      have unstarted := sound.fresh (by rw [connecting]; rfl)
      cases step
      exact sound.goesOn _ _ _ (fun _ => unstarted) (fun _ => absent_of_unstarted unstarted)
  · next locking =>
      have unstarted := sound.fresh (by rw [locking]; rfl)
      cases step
      exact sound.goesOn _ _ _ (fun _ => unstarted) (fun _ => absent_of_unstarted unstarted)
  · next creating =>
      have unstarted := sound.fresh (by rw [creating]; rfl)
      split at step
      · cases step
        have none : r.thread.calls = [] := by rw [unstarted]; rfl
        refine ⟨⟨trivial, nofun, nofun⟩, ?_, fun _ => none.symm⟩
        rw [none]
        exact List.nil_prefix
      · cases step
        exact sound.goesOn _ _ _ nofun (fun _ => absent_of_unstarted unstarted)
  · cases step
    refine sound.goesOn _ _ _ (fun ahead => ?_) (fun back => ?_)
    · split at ahead <;> cases ahead
    · split at back <;> cases back
  · split at step
    · cases step
      exact sound.goesOn _ _ _ nofun nofun
    · cases step
      exact sound.goesOn _ _ _ nofun nofun
    · cases step
      exact sound.goesOn _ _ _ nofun nofun
  · cases step
    exact sound.goesOn _ _ _ nofun nofun
  · split at step
    · next finished =>
        cases step
        exact sound.goesOn _ _ _ nofun (fun _ => absent_of_finished finished)
    · cases step
  · cases step

/-- A thread that makes a step has been created and is not joined. -/
theorem FrametapRun.Sound.threadGoes {r : FrametapRun} {next : SftThreadPc} {event : FrametapRunEvent}
    (sound : r.Sound) (byThread : (PlaybackEvent.frametap event).thread = .sftStream)
    (goes : r.thread.Goes next) : r.Goes event { r with thread := next } := by
  refine ⟨⟨goes.sound sound.thread, fun ahead => ?_, fun back => ?_⟩, goes.grows sound.thread,
    fun main => ?_⟩
  · have absent := absent_of_unstarted (sound.fresh ahead)
    rw [goes.present] at absent
    cases absent
  · have absent := sound.joined back
    rw [goes.present] at absent
    cases absent
  · rw [byThread] at main
    cases main

theorem frametapRunStep_goes {r t : FrametapRun} {event : FrametapRunEvent} (sound : r.Sound)
    (step : frametapRunStep r event = some t) : r.Goes event t := by
  cases event with
  | main succeeds action => exact frametapMainStep_goes sound step
  | signal =>
      cases step
      exact sound.goesOn _ _ _ sound.fresh sound.joined
  | enter allocated now connection =>
      obtain ⟨next, stepped, rfl⟩ := Option.map_eq_some_iff.mp step
      exact sound.threadGoes rfl (sftThreadStep_goes stepped)
  | turn turn =>
      obtain ⟨next, stepped, rfl⟩ := Option.map_eq_some_iff.mp step
      exact sound.threadGoes rfl (sftThreadStep_goes stepped)
  | exit =>
      obtain ⟨next, stepped, rfl⟩ := Option.map_eq_some_iff.mp step
      exact sound.threadGoes rfl (sftThreadStep_goes stepped)

/-! ### One session after the other -/

/-- The session takes its player along. -/
def CurrentSession.Sound : CurrentSession → Prop
  | .idle => True
  | .stream run => run.Sound
  | .frametap run => run.Sound

/-- The sessions that are over have left no player behind. -/
structure Playback.Sound (s : Playback) : Prop where
  past : Leads s.past .off
  current : s.current.Sound

theorem playback_start_sound : playbackStart.Sound := ⟨rfl, trivial⟩

theorem SftThread.Sound.leads {w : SftThread} (sound : w.Sound) : ∃ phase, Leads w.calls phase := by
  unfold SftThread.Sound at sound
  split at sound
  · exact ⟨.off, sound⟩
  · exact ⟨.playing, sound.2⟩

/-- The calls of a session lead somewhere, -/
theorem CurrentSession.Sound.leads {current : CurrentSession} (sound : current.Sound) :
    ∃ phase, Leads current.calls phase := by
  cases current with
  | idle => exact ⟨.off, rfl⟩
  | stream run =>
      rcases sound with ⟨phase, _, leads⟩
      exact ⟨phase, leads⟩
  | frametap run =>
      have thread := sound.thread
      change ∃ phase, Leads run.thread.calls phase
      cases stands : run.thread with
      | unstarted => exact ⟨.off, rfl⟩
      | entry => exact ⟨.off, rfl⟩
      | loop w c =>
          rw [stands] at thread
          exact SftThread.Sound.leads thread
      | finished failed calls =>
          rw [stands] at thread
          exact ⟨.off, thread⟩

/-- and to no player once it is back. -/
theorem CurrentSession.Sound.off {current : CurrentSession} (sound : current.Sound)
    (returned : current.isReturned = true) : Leads current.calls .off := by
  cases current with
  | idle => cases returned
  | stream run =>
      rcases run with ⟨pc, calls⟩
      rcases sound with ⟨phase, stands, leads⟩
      cases stands with
      | returned result => exact leads
      | _ => cases returned
  | frametap run =>
      have back : run.main.isReturned = true := returned
      exact sound.thread.off (sound.joined back)

/-- What a step does to all calls: none is taken back, and a player is torn down only while no thread but
    the one that does it may feed it. -/
structure Playback.Goes (s : Playback) (event : PlaybackEvent) (t : Playback) : Prop where
  sound : t.Sound
  grows : s.calls <+: t.calls
  quiet : TearsDown s.calls t.calls →
    ∀ thread, thread ≠ event.thread → s.current.mayFeed thread = false

/-- The calls of the earlier sessions do not matter for what a step adds. -/
theorem tearsDown_append {past before after : List NdlCall} :
    TearsDown (past ++ before) (past ++ after) ↔ TearsDown before after := by
  rw [TearsDown, TearsDown, List.length_append, List.drop_length_add_append]

theorem mayFeed_stream {run : StreamRun} (none : ∀ kind, run.pc.feeds kind = false)
    (thread : PlayerThread) : (CurrentSession.stream run).mayFeed thread = false := by
  cases thread with
  | main => rfl
  | worker kind => exact none kind
  | sftStream => rfl

theorem mayFeed_frametap {run : FrametapRun} {thread : PlayerThread} (other : thread ≠ .sftStream) :
    (CurrentSession.frametap run).mayFeed thread = false := by
  cases thread with
  | main => rfl
  | worker kind => rfl
  | sftStream => exact absurd rfl other

theorem frametap_event_thread (event : FrametapRunEvent) :
    (PlaybackEvent.frametap event).thread = .main ∨
      (PlaybackEvent.frametap event).thread = .sftStream := by
  cases event with
  | main succeeds action => exact Or.inl rfl
  | signal => exact Or.inl rfl
  | enter allocated now connection => exact Or.inr rfl
  | turn turn => exact Or.inr rfl
  | exit => exact Or.inr rfl

theorem playbackStep_goes {s t : Playback} {event : PlaybackEvent} (sound : s.Sound)
    (step : playbackStep s event = some t) : s.Goes event t := by
  rcases s with ⟨past, current⟩
  rcases sound with ⟨before, here⟩
  unfold playbackStep at step
  split at step
  · next idle =>
      change current = _ at idle
      subst idle
      cases step
      exact ⟨⟨before, .off, .create, rfl⟩, List.prefix_rfl,
        fun tears => absurd tears (not_tearsDown_self _)⟩
  · next idle =>
      change current = _ at idle
      subst idle
      cases step
      exact ⟨⟨before, frametapRun_start_sound⟩, List.prefix_rfl,
        fun tears => absurd tears (not_tearsDown_self _)⟩
  · next run event same =>
      change current = _ at same
      subst same
      obtain ⟨next, stepped, rfl⟩ := Option.map_eq_some_iff.mp step
      have goes := streamRunStep_goes here stepped
      refine ⟨⟨before, goes.sound⟩, (List.prefix_append_right_inj past).mpr goes.grows, ?_⟩
      intro tears thread _
      exact mayFeed_stream (goes.quiet (tearsDown_append.mp tears)) thread
  · next run event same =>
      change current = _ at same
      subst same
      obtain ⟨next, stepped, rfl⟩ := Option.map_eq_some_iff.mp step
      have goes := frametapRunStep_goes here stepped
      refine ⟨⟨before, goes.sound⟩, (List.prefix_append_right_inj past).mpr goes.grows, ?_⟩
      intro tears thread other
      rcases frametap_event_thread event with main | stream
      · have added : TearsDown run.thread.calls next.thread.calls := tearsDown_append.mp tears
        rw [goes.byThread main] at added
        exact absurd added (not_tearsDown_self _)
      · rw [stream] at other
        exact mayFeed_frametap other
  · split at step
    · next returned =>
        cases step
        have calls : (⟨past ++ current.calls, .idle⟩ : Playback).calls
            = (⟨past, current⟩ : Playback).calls := List.append_nil _
        refine ⟨⟨before.append (here.off returned), trivial⟩, ?_, ?_⟩
        · exact calls ▸ List.prefix_rfl
        · intro tears
          rw [calls] at tears
          exact absurd tears (not_tearsDown_self _)
    · cases step
  · cases step

/-! ### Runs -/

/-- In every run of sessions of the two backends the calls on the player are whole lives with at most one
    begun life behind them; where no session runs, or the one that does is back, they are whole lives, each
    set up and torn down once; and no step tears a player down that another thread may still feed. -/
theorem player_protocol_respected (events : List PlaybackEvent) (s : Playback)
    (run : Runs.exec playbackStep playbackStart events = some s) :
    (∃ phase lives begun, s.calls = List.flatten lives ++ begun ∧
        (∀ life ∈ lives, PlayerLife life) ∧ Begun phase begun) ∧
      (s.current = .idle ∨ s.current.isReturned = true →
        FollowsProtocol s.calls ∧ Paired s.calls) ∧
      ∀ event t, playbackStep s event = some t → s.calls <+: t.calls ∧
        (TearsDown s.calls t.calls →
          ∀ thread, thread ≠ event.thread → s.current.mayFeed thread = false) := by
  have sound : s.Sound := by
    apply Runs.exec_invariant _ playback_start_sound run
    intro s event next sound step
    exact (playbackStep_goes sound step).sound
  refine ⟨?_, ?_, ?_⟩
  · obtain ⟨phase, here⟩ := sound.current.leads
    exact ⟨phase, exec_playerStep_iff.mp (sound.past.append here)⟩
  · intro back
    have off : Leads s.current.calls .off := by
      rcases back with idle | returned
      · rw [idle]
        rfl
      · exact sound.current.off returned
    have follows : FollowsProtocol s.calls := followsProtocol_iff.mpr (sound.past.append off)
    exact ⟨follows, follows.paired⟩
  · intro event t step
    have goes := playbackStep_goes sound step
    exact ⟨goes.grows, goes.quiet⟩

/-- A SysDVR session that cannot connect its audio socket, and then one that gets no player. -/
def twoFailedSessions : List PlaybackEvent :=
  [.call .sysdvr, .stream (.create true true), .stream (.load true), .stream (.connect true),
    .stream (.handshake true), .stream (.connect false), .stream .destroy, .finish,
    .call .sysdvr, .stream (.create true false), .finish]

theorem player_protocol_over_two_failed_sessions :
    FollowsProtocol [.init true, .setAppState, .load videoWidth videoHeight true true, .setArea,
      .unload, .quit, .init false] := by
  have respected := player_protocol_respected twoFailedSessions
    ⟨[.init true, .setAppState, .load videoWidth videoHeight true true, .setArea, .unload, .quit,
      .init false], .idle⟩ rfl
  have whole := respected.2.1 (Or.inl rfl)
  exact whole.1

end SysdvrWebos
