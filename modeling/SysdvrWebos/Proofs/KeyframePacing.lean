/-
Module: SysdvrWebos.Proofs.KeyframePacing
Layer: Proofs
Purpose: When the Frame Tap stream thread asks for a key frame. Three branches of its loop body can ask, each
  for packets of its own kind, and all of them share the time of the last request; what they do together is
  one relation that composes, so a packet causes at most one request and only one that is due.
Trusted boundary: none (fully proved)
Main exports: packetStep, Withholds, Asked, PacketAsks, handle_asks, RequestLog, Paced, frametap_keyframe_requests_paced
Open obligations: none
-/
import Mathlib.Data.List.Chain
import SysdvrWebos.Lib.Runs
import SysdvrWebos.Proofs.FeedStep

namespace SysdvrWebos

/-- The packet loop takes the next packet unless it has been left. -/
def packetStep (w : SftThread) (a : SftArrival) : Option SftThread :=
  if w.left then none else some (a.handle w)

/-- The thread goes on after a video packet of which the decoder gets nothing. -/
def Withholds (w : SftThread) (a : SftArrival) : Prop :=
  sftPacketIsVideo a.header = true ∧ (a.handle w).calls = w.calls ∧ (a.handle w).left = false

instance (w : SftThread) (a : SftArrival) : Decidable (Withholds w a) :=
  inferInstanceAs (Decidable (_ ∧ _ ∧ _))

/-! ### Asking -/

/-- What some part of the loop body does about key frames: nothing, or one request that is due, for a packet
    that is no key frame and while one is awaited. -/
inductive Asked (key : Bool) (now : UInt64) (w next : SftThread) : Prop where
  | quiet (requests : next.keyRequests = w.keyRequests) (last : next.lastKeyRequest = w.lastKeyRequest)
  | sent (delta : key = false) (waits : next.waitingKey = true)
      (due : 250000 ≤ now - w.lastKeyRequest) (requests : next.keyRequests = w.keyRequests ++ [now])
      (last : next.lastKeyRequest = now)

variable {w middle next : SftThread} {h : SftPacketHeader} {key : Bool} {now : UInt64}

/-- Right after a request no other one is due. -/
theorem not_due_again (now : UInt64) : ¬ (250000 : UInt64) ≤ now - now := by
  rw [UInt64.sub_self]
  decide

/-- Two parts that run one after the other ask at most once. -/
theorem Asked.trans (first : Asked key now w middle) (second : Asked key now middle next)
    (awaits : key = false → middle.waitingKey = true → next.waitingKey = true) : Asked key now w next := by
  cases first with
  | quiet requests last =>
      cases second with
      | quiet requests' last' => exact .quiet (requests'.trans requests) (last'.trans last)
      | sent delta waits due requests' last' =>
          rw [last] at due
          exact .sent delta waits due (requests'.trans (by rw [requests])) last'
  | sent delta waits due requests last =>
      cases second with
      | quiet requests' last' =>
          exact .sent delta (awaits delta waits) due (requests'.trans requests) (last'.trans last)
      | sent _ _ due' _ _ =>
          rw [last] at due'
          exact absurd due' (not_due_again now)

/-- What the two checks do when they find a disturbance. -/
theorem disturbed_asked (w : SftThread) (key : Bool) (now : UInt64) :
    Asked key now w
      (if !key && now - w.lastKeyRequest ≥ 250000
        then ({ w with waitingKey := !key } : SftThread).requestKeyframe now
        else { w with waitingKey := !key }) := by
  split
  · next asks =>
      simp only [Bool.and_eq_true, Bool.not_eq_true', decide_eq_true_eq] at asks
      rcases asks with ⟨delta, due⟩
      refine .sent delta ?_ due rfl rfl
      change (!key) = true
      rw [delta]
      rfl
  · exact .quiet rfl rfl

theorem noteSequence_asked (w : SftThread) (h : SftPacketHeader) (key : Bool) (now : UInt64) :
    Asked key now w (noteSequence w h key now) := by
  have disturbed := disturbed_asked w key now
  unfold noteSequence
  split
  · dsimp only
    cases disturbed with
    | quiet requests last => exact .quiet requests last
    | sent delta waits due requests last => exact .sent delta waits due requests last
  · exact .quiet rfl rfl

theorem noteResolution_asked (w : SftThread) (h : SftPacketHeader) (key : Bool) (now : UInt64) :
    Asked key now w (noteResolution w h key now) := by
  unfold noteResolution
  split
  · exact disturbed_asked w key now
  · exact .quiet rfl rfl

/-- A packet that is no key frame does not end the wait for one. -/
theorem noteResolution_awaits (delta : key = false) (waits : w.waitingKey = true) :
    (noteResolution w h key now).waitingKey = true := by
  have feed := congrArg FeedState.waitingKey (noteResolution_feed w h key now).1
  change (noteResolution w h key now).waitingKey = _ at feed
  rw [feed, delta, waits]
  exact ite_self true

theorem checks_asked (w : SftThread) (h : SftPacketHeader) (key : Bool) (now : UInt64) :
    Asked key now w (noteResolution (noteSequence w h key now) h key now) :=
  (noteSequence_asked w h key now).trans (noteResolution_asked _ h key now) noteResolution_awaits

theorem withhold_asked (delta : key = false) (waits : w.waitingKey = true) :
    Asked key now w (withhold w now) := by
  unfold withhold
  split
  · next old =>
      have due : (250000 : UInt64) ≤ now - w.lastKeyRequest := UInt64.le_trans (by decide) old
      exact .sent delta waits due rfl rfl
  · exact .quiet rfl rfl

/-- Behind a withheld packet the last request is recent. -/
theorem withhold_recent (w : SftThread) (now : UInt64) :
    now - (withhold w now).lastKeyRequest < 1000000 := by
  unfold withhold
  split
  · change now - now < 1000000
    rw [UInt64.sub_self]
    decide
  · next young => exact UInt64.not_le.mp young

/-! ### Submitting -/

/-- The player's calls only grow while the decoder is prepared. -/
theorem prepareDecoder_calls_length (w : SftThread) (h : SftPacketHeader) (answers : SftAnswers) :
    w.calls.length ≤ (prepareDecoder w h answers).calls.length := by
  have spec := (prepareDecoder_spec w h answers).1
  generalize prepareDecoder w h answers = next at spec ⊢
  have grown : ∀ more, next.calls = w.calls ++ closingCalls w.player ++ more →
      w.calls.length ≤ next.calls.length := by
    intro more calls
    rw [calls, List.length_append, List.length_append]
    omega
  cases spec with
  | fits _ same => rw [same]
  | noPlayer tried _ calls _ _ => exact grown tried calls
  | noLoad calls _ _ => exact grown _ calls
  | opened calls _ _ => exact grown _ calls

/-- After a submission the loop is left or the decoder got something. -/
theorem submitFrame_keeps (w : SftThread) (data : List UInt8) (answers : SftAnswers) :
    (submitFrame w data answers).keyRequests = w.keyRequests ∧
      (submitFrame w data answers).lastKeyRequest = w.lastKeyRequest ∧
      ((submitFrame w data answers).left = true ∨
        w.calls.length < (submitFrame w data answers).calls.length) := by
  unfold submitFrame
  dsimp only
  split
  · exact ⟨rfl, rfl, .inl rfl⟩
  · split
    · exact ⟨rfl, rfl, .inl rfl⟩
    · next submitted =>
        obtain ⟨refused, rfl⟩ := submitVideo_calls submitted
        exact ⟨rfl, rfl, .inr (by simp)⟩

/-! ### One packet -/

/-- The packet as the loop body sees it behind its two checks. -/
def checked (w : SftThread) (a : SftArrival) : SftThread :=
  noteResolution (noteSequence w a.header a.key a.answers.now) a.header a.key a.answers.now

/-- What one packet does: a packet that is not video and a frame that is submitted cause no request, and the
    latter is played or ends the loop; a frame that is withheld leaves a recent request behind. -/
inductive PacketAsks (w : SftThread) (a : SftArrival) (next : SftThread) : Prop where
  | other (noVideo : sftPacketIsVideo a.header = false) (requests : next.keyRequests = w.keyRequests)
      (last : next.lastKeyRequest = w.lastKeyRequest)
  | withheld (video : sftPacketIsVideo a.header = true) (delta : a.key = false)
      (asked : Asked a.key a.answers.now w next)
      (recent : a.answers.now - next.lastKeyRequest < 1000000)
      (calls : next.calls = w.calls) (left : next.left = w.left)
  | submitted (requests : next.keyRequests = w.keyRequests)
      (last : next.lastKeyRequest = w.lastKeyRequest)
      (gone : next.left = true ∨ w.calls.length < next.calls.length)

theorem handle_other_requests {a : SftArrival} (other : sftPacketIsVideo a.header = false)
    (w : SftThread) :
    (a.handle w).keyRequests = w.keyRequests ∧ (a.handle w).lastKeyRequest = w.lastKeyRequest := by
  unfold SftArrival.handle sftHandlePacket handleAudio
  rw [if_neg (c := sftPacketIsVideo a.header = true) (by simp [other])]
  split
  · rw [Scan.run_bind]
    generalize (logStatusPacket a.payload.length).run a.memory = text
    cases text with
    | none => exact ⟨rfl, rfl⟩
    | some text => exact ⟨rfl, rfl⟩
  · split
    · split
      · rw [Scan.run_bind]
        exact ⟨rfl, rfl⟩
      · exact ⟨rfl, rfl⟩
    · exact ⟨rfl, rfl⟩

/-- A frame that is submitted was asked for by neither check. -/
theorem checked_quiet {a : SftArrival} (submits : ¬ ((checked w a).waitingKey && !a.key) = true) :
    (checked w a).keyRequests = w.keyRequests ∧ (checked w a).lastKeyRequest = w.lastKeyRequest := by
  have asked := checks_asked w a.header a.key a.answers.now
  cases asked with
  | quiet requests last => exact ⟨requests, last⟩
  | sent delta waits _ _ _ =>
      have both : ((checked w a).waitingKey && !a.key) = true := by
        rw [delta, checked, waits]
        rfl
      exact absurd both submits

theorem handle_asks (w : SftThread) (a : SftArrival) : PacketAsks w a (a.handle w) := by
  cases video : sftPacketIsVideo a.header with
  | false =>
      rcases handle_other_requests video w with ⟨requests, last⟩
      exact .other video requests last
  | true =>
      have checks := checks_asked w a.header a.key a.answers.now
      rcases checks_feed w a.header a.key a.answers.now with ⟨feed, calls⟩
      have left : (checked w a).left = w.left := congrArg FeedState.left feed
      rw [handle_eq_proceed video]
      change PacketAsks w a (proceed (checked w a) a)
      change (checked w a).calls = w.calls at calls
      unfold proceed
      split
      · next skipped =>
          simp only [Bool.and_eq_true, Bool.not_eq_true'] at skipped
          rcases skipped with ⟨waits, delta⟩
          rcases withhold_feed (checked w a) a.answers.now with ⟨feed', calls'⟩
          have left' : (withhold (checked w a) a.answers.now).left = (checked w a).left :=
            congrArg FeedState.left feed'
          have still : (withhold (checked w a) a.answers.now).waitingKey = (checked w a).waitingKey :=
            congrArg FeedState.waitingKey feed'
          exact .withheld video delta
            (checks.trans (withhold_asked delta waits) fun _ waiting => still.trans waiting)
            (withhold_recent _ _) (calls'.trans calls) (left'.trans left)
      · next submits =>
          rcases checked_quiet submits with ⟨requests, last⟩
          rcases prepareDecoder_spec (checked w a) a.header a.answers with ⟨_, requests', last'⟩
          have grown := prepareDecoder_calls_length (checked w a) a.header a.answers
          rw [calls] at grown
          split
          · next gone => exact .submitted (requests'.trans requests) (last'.trans last) (.inl gone)
          · rcases submitFrame_keeps
              { prepareDecoder (checked w a) a.header a.answers with waitingKey := false } a.payload
              a.answers with ⟨requests'', last'', played⟩
            refine .submitted (requests''.trans (requests'.trans requests))
              (last''.trans (last'.trans last)) ?_
            rcases played with gone | longer
            · exact .inl gone
            · exact .inr (Nat.lt_of_le_of_lt grown longer)

/-! ### Runs -/

/-- The recorded requests are at least 250 ms apart, and the last of them is the one remembered. -/
structure RequestLog (w : SftThread) (latest : UInt64) : Prop where
  apart : w.keyRequests.IsChain fun first second => first.toNat + 250000 ≤ second.toNat
  last : w.keyRequests.getLast? = some w.lastKeyRequest
  past : w.lastKeyRequest ≤ latest

theorem requestLog_start (start : UInt64) : RequestLog (sftThreadStart start) start where
  apart := List.isChain_singleton start
  last := rfl
  past := UInt64.le_refl start

theorem RequestLog.asked {latest : UInt64} (log : RequestLog w latest)
    (clock : latest ≤ now) (asked : Asked key now w next) : RequestLog next now := by
  have past := UInt64.le_trans log.past clock
  cases asked with
  | quiet requests last =>
      refine ⟨requests ▸ log.apart, ?_, last ▸ past⟩
      rw [requests, last]
      exact log.last
  | sent _ _ due requests last =>
      refine ⟨?_, ?_, last ▸ UInt64.le_refl now⟩
      · rw [requests]
        apply log.apart.append (List.isChain_singleton now)
        intro before isLast first isNow
        rw [log.last, Option.mem_some_iff] at isLast
        rw [List.head?_cons, Option.mem_some_iff] at isNow
        rw [← isLast, ← isNow]
        rw [UInt64.le_iff_toNat_le, UInt64.toNat_sub_of_le _ _ past] at due
        have bound := UInt64.le_iff_toNat_le.mp past
        change 250000 ≤ _ at due
        omega
      · rw [requests, last, List.getLast?_concat]

theorem RequestLog.packet {a : SftArrival} {latest : UInt64} (log : RequestLog w latest)
    (clock : latest ≤ a.answers.now) : RequestLog (a.handle w) a.answers.now := by
  have asks := handle_asks w a
  generalize a.handle w = next at asks ⊢
  cases asks with
  | other _ requests last =>
      have asked : Asked a.key a.answers.now w next := .quiet requests last
      exact log.asked clock asked
  | withheld _ _ asked _ _ _ => exact log.asked clock asked
  | submitted requests last _ =>
      have asked : Asked a.key a.answers.now w next := .quiet requests last
      exact log.asked clock asked

/-- What holds of the requests around one packet. -/
structure Paced (w : SftThread) (a : SftArrival) : Prop where
  /-- At most one request, and only for a packet that is no key frame and that is then withheld. -/
  sparing : (a.handle w).keyRequests = w.keyRequests ∨
    (a.handle w).keyRequests = w.keyRequests ++ [a.answers.now] ∧ Withholds w a ∧ a.key = false
  /-- Behind a withheld packet the last request is less than a second old. -/
  mindful : Withholds w a →
    ∃ last, (a.handle w).keyRequests.getLast? = some last ∧ a.answers.now.toNat < last.toNat + 1000000

theorem paced_of_log {a : SftArrival} {latest : UInt64} (staying : w.left = false)
    (log : RequestLog w latest) (clock : latest ≤ a.answers.now) : Paced w a := by
  have after := log.packet clock
  have asks := handle_asks w a
  constructor
  · cases asks with
    | other _ requests _ => exact .inl requests
    | withheld video delta asked _ calls left =>
        cases asked with
        | quiet requests _ => exact .inl requests
        | sent _ _ _ requests _ =>
            exact .inr ⟨requests, ⟨video, calls, left.trans staying⟩, delta⟩
    | submitted requests _ _ => exact .inl requests
  · intro withholds
    refine ⟨(a.handle w).lastKeyRequest, after.last, ?_⟩
    cases asks with
    | other noVideo _ _ => exact absurd withholds.1 (by simp [noVideo])
    | withheld _ _ _ recent _ _ =>
        have past := after.past
        rw [UInt64.lt_iff_toNat_lt, UInt64.toNat_sub_of_le _ _ past] at recent
        change _ < 1000000 at recent
        omega
    | submitted _ _ gone =>
        rcases gone with left | longer
        · rw [withholds.2.2] at left
          cases left
        · rw [withholds.2.1] at longer
          exact absurd longer (Nat.lt_irrefl _)

/-- Any two consecutive requests are at least 250 ms apart. -/
def RequestsApart (w : SftThread) : Prop :=
  w.keyRequests.IsChain fun first second => first.toNat + 250000 ≤ second.toNat

theorem packetStep_eq {a : SftArrival} (step : packetStep w a = some next) : next = a.handle w := by
  unfold packetStep at step
  split at step
  · cases step
  · cases step
    rfl

theorem paced_run {arrivals : List SftArrival} :
    ∀ {w : SftThread} {latest : UInt64}, RequestLog w latest →
      (latest :: arrivals.map fun a => a.answers.now).Pairwise (· ≤ ·) →
      Runs.AllSteps packetStep (fun w a => w.left = false → Paced w a) w arrivals ∧
        Runs.AllStates packetStep RequestsApart w arrivals := by
  induction arrivals with
  | nil => exact fun log _ => ⟨trivial, log.apart⟩
  | cons a arrivals ih =>
      intro w latest log clock
      rcases List.pairwise_cons.mp clock with ⟨first, rest⟩
      have now : latest ≤ a.answers.now := first _ (by simp)
      have later := ih (log.packet now) rest
      constructor
      · refine ⟨fun staying => paced_of_log staying log now, fun next step => ?_⟩
        rw [packetStep_eq step]
        exact later.1
      · refine ⟨log.apart, fun next step => ?_⟩
        rw [packetStep_eq step]
        exact later.2

/-- Over any packets and any clock that does not go back, the thread asks once when it starts, and from
    then on at most once a packet, only for a frame that is no key frame and that it withholds, at least
    250 ms after the request before; behind a frame it withholds the last request is less than a second
    old. -/
theorem frametap_keyframe_requests_paced (start : UInt64) (arrivals : List SftArrival)
    (clock : (start :: arrivals.map fun a => a.answers.now).Pairwise (· ≤ ·)) :
    (sftThreadStart start).keyRequests = [start] ∧
      Runs.AllSteps packetStep (fun w a => w.left = false → Paced w a) (sftThreadStart start) arrivals ∧
      Runs.AllStates packetStep RequestsApart (sftThreadStart start) arrivals :=
  ⟨rfl, paced_run (requestLog_start start) clock⟩

/-- A 640x480 video packet without KEY. -/
def deltaFrame (sequence : UInt32) (now : UInt64) : SftArrival where
  header := ⟨sftMagic, sftProtocolVersion, 2, 2, 640, 480, 0, 1, 4, sequence⟩
  payload := [0]
  answers := ⟨now, true, true, true, [true], false, 0, false, ⟨0, 0, 0, 0⟩, true⟩

/-- Three frames before any key frame: the second comes a second after the start, the third behind a gap
    but too soon for another request. -/
theorem deltaFrames_are_paced :
    Runs.AllSteps packetStep (fun w a => w.left = false → Paced w a) (sftThreadStart 5)
        [deltaFrame 1 900000, deltaFrame 2 1000005, deltaFrame 9 1200000] ∧
      (Runs.exec packetStep (sftThreadStart 5)
        [deltaFrame 1 900000, deltaFrame 2 1000005, deltaFrame 9 1200000]).map (·.keyRequests)
          = some [5, 1000005] := by
  rcases frametap_keyframe_requests_paced 5
    [deltaFrame 1 900000, deltaFrame 2 1000005, deltaFrame 9 1200000] (by decide) with ⟨_, steps, _⟩
  exact ⟨steps, by decide +kernel⟩

end SysdvrWebos
