/-
Module: SysdvrWebos.Proofs.LiveFrametapRefinement
Layer: Proofs
Purpose: The stream thread of a live Frame Tap session does what its packet loop does over all the bytes that
  ever arrive. Whatever the threads, the console and the stop interleave to, the thread comes to the state
  its loop comes to with the answers the thread was given; so what the player gets live is decodable.
Trusted boundary: none (fully proved)
Main exports: readTurn_append, Completes, completes_step, completes_of_run,
  live_frametap_decodes_what_was_written
Open obligations: none
-/
import SysdvrWebos.Core.LiveFrametap
import SysdvrWebos.Lib.Runs
import SysdvrWebos.Proofs.WireToDecoder

namespace SysdvrWebos

/-! ### Turns over a longer stream -/

/-- The same read with more bytes still to come. -/
def ReadState.followedBy (s : ReadState) (more : List UInt8) : ReadState :=
  { s with stream := s.stream ++ more }

/-- The same outcome with more bytes still to come. -/
def ReadTurn.followedBy (more : List UInt8) : ReadTurn → ReadTurn
  | .again s => .again (s.followedBy more)
  | .leave ending s => .leave ending (s.followedBy more)
  | .outOfBounds => .outOfBounds

/-- A `recv` that finds its bytes takes the same ones whatever comes behind them. -/
theorem receive_append {stream : List UInt8} {count : Nat} (there : count < stream.length)
    (more : List UInt8) (room : Nat) : receive (stream ++ more) count room = receive stream count room := by
  unfold receive
  exact List.take_append_of_le_length (by omega)

/-- A turn whose answer the socket can give does not depend on what arrives later. -/
theorem readTurn_append (idleAllowed : Bool) (size : Nat) (tick : Tick) {s : ReadState} {ended : Bool}
    (admitted : LiveSocket.admits ⟨s.stream, ended⟩ tick.wait = true) {more : List UInt8}
    (last : ended = true → more = []) :
    readTurn idleAllowed size tick (s.followedBy more)
      = (readTurn idleAllowed size tick s).followedBy more := by
  by_cases nothing : more = []
  · subst nothing
    have same : s.followedBy [] = s := by simp [ReadState.followedBy]
    rw [same]
    cases readTurn idleAllowed size tick s <;> simp [ReadTurn.followedBy, ReadState.followedBy]
  unfold readTurn
  have armed : (s.followedBy more).armed idleAllowed tick = s.armed idleAllowed tick := rfl
  have timed : (s.followedBy more).timed idleAllowed = s.timed idleAllowed := rfl
  rw [armed, timed]
  split
  · rfl
  dsimp only
  split
  · rfl
  cases wait : tick.wait with
  | idle => rfl
  | failed => rfl
  | ready answer =>
      cases answer with
      | interrupted => rfl
      | wouldBlock => rfl
      | failed => rfl
      | bytes count =>
          have there : count < s.stream.length := by
            rw [wait] at admitted
            simp only [LiveSocket.admits, Bool.or_eq_true, decide_eq_true_eq, Bool.and_eq_true] at admitted
            rcases admitted with there | ⟨_, isEnd⟩
            · exact there
            · exact absurd (last isEnd) nothing
          have short : (receive s.stream count (size - s.done)).length ≤ s.stream.length := by
            rw [length_receive]
            omega
          simp only [ReadState.followedBy, receive_append there]
          split
          · rfl
          · cases Buffer.store s.buffer s.done (receive s.stream count (size - s.done)) with
            | none => rfl
            | some buffer =>
                simp only [ReadTurn.followedBy, ReadState.followedBy,
                  List.drop_append_of_le_length short]

/-! ### What remains of a turn -/

/-- The packet read from inside its payload on. -/
def payloadFrom (read : SftRead) (h : SftPacketHeader) (ticks : List Tick) (s : ReadState) :
    Except Halt SftReadResult := do
  let body ← readExactLoop false h.length.toNat ticks s
  if body.got ≠ h.length.toNat then
    return ⟨-1, { read with header := h, payload := body.state.buffer }, body.ticks, body.state.stream⟩
  return ⟨1, ⟨h, body.state.buffer, h.length.toNat⟩, body.ticks, body.state.stream⟩

/-- The packet read from inside its header on. -/
def headerFrom (read : SftRead) (ticks : List Tick) (s : ReadState) : Except Halt SftReadResult := do
  let head ← readExactLoop true sftHeaderSize ticks s
  if head.got ≤ 0 then
    return ⟨head.got, read, head.ticks, head.state.stream⟩
  sftReadBody sftMaxPayload read head.state.buffer head.ticks head.state.stream

/-- The turn of the packet loop from its packet read on. -/
def turnFrom (w : SftThread) (turn : SftTurn) (r : SftReadResult) : SftThread × SftConnection :=
  if r.rc = 0 then
    ({ w with left := true }, ⟨r.read, r.ticks, r.stream⟩)
  else if r.rc < 0 then
    ({ w with left := true, failed := w.failed || turn.runningAfter }, ⟨r.read, r.ticks, r.stream⟩)
  else
    ((sftHandlePacket w r.read.header r.read.payloadSize turn.answers).run fun i =>
      r.read.payload.getD i 0, ⟨r.read, r.ticks, r.stream⟩)

/-- The packet loop from inside the packet read of a turn on. -/
def loopFrom (w : SftThread) (turn : SftTurn) (turns : List SftTurn)
    (reading : Except Halt SftReadResult) : Except Halt (SftThread × SftConnection) := do
  let r ← reading
  sftStreamLoop turns (turnFrom w turn r).1 (turnFrom w turn r).2

theorem sftStreamLoop_eq_loopFrom {w : SftThread} {read : SftRead} {ticks : List Tick}
    {stream : List UInt8} {turn : SftTurn} {turns : List SftTurn} (stays : w.left = false)
    (runs : turn.running = true) :
    sftStreamLoop (turn :: turns) w ⟨read, ticks, stream⟩
      = loopFrom w turn turns
          (headerFrom read ticks ⟨stream, List.replicate sftHeaderSize 0, 0, 0⟩) := by
  have same : sftReadPacket sftMaxPayload read ticks stream
      = headerFrom read ticks ⟨stream, List.replicate sftHeaderSize 0, 0, 0⟩ := rfl
  rw [← same, sftStreamLoop, if_neg (by simp [stays]), sftStreamTurn, if_neg (by simp [runs]), loopFrom]
  cases sftReadPacket sftMaxPayload read ticks stream with
  | error halt => rfl
  | ok r =>
      simp only [bind, Except.bind, pure, Except.pure, turnFrom]
      by_cases nothing : r.rc = 0
      · rw [if_pos nothing, if_pos nothing]
      · by_cases wrong : r.rc < 0
        · rw [if_neg nothing, if_pos wrong, if_neg nothing, if_pos wrong]
        · rw [if_neg nothing, if_neg wrong, if_neg nothing, if_neg wrong]

/-- A read that has what it needs does not look at the schedule. -/
theorem readExactLoop_done {idleAllowed : Bool} {size : Nat} {s : ReadState} (done : ¬ s.done < size)
    (ticks : List Tick) : readExactLoop idleAllowed size ticks s = .ok ⟨.complete, s, ticks⟩ := by
  cases ticks with
  | nil => exact if_neg done
  | cons tick ticks => exact if_neg done

/-- A turn never leaves with what it needs, so what the read returns then is no success. -/
theorem got_of_leave {idleAllowed : Bool} {size : Nat} {tick : Tick} {s last : ReadState}
    {ending : ReadEnd} (turn : readTurn idleAllowed size tick s = .leave ending last)
    (ticks : List Tick) : ReadExact.got ⟨ending, last, ticks⟩ ≤ 0 := by
  cases ending with
  | complete =>
      unfold readTurn at turn
      dsimp only at turn
      split at turn
      · cases turn
      split at turn
      · cases turn
      split at turn <;> try cases turn
      split at turn
      · cases turn
      · split at turn <;> cases turn
  | closed =>
      simp only [ReadExact.got]
      split <;> decide
  | stopped => exact Int.le_refl 0
  | stalled => exact show (-1 : Int) ≤ 0 by decide
  | selectFailed => exact show (-1 : Int) ≤ 0 by decide
  | recvFailed => exact show (-1 : Int) ≤ 0 by decide

/-! ### What a thread amounts to -/

/-- The turns of the packet loop that remain and those of its reads: they handle their packets with the
    given answers, the last one possibly with `spare` where it handles none, and they find `running` set
    as long as it stays set. -/
structure Script (stays : Bool) (spare : SftAnswers) (answers : List SftAnswers) (turns : List SftTurn)
    (ticks : List Tick) : Prop where
  answered : turns.map (fun t => t.answers) = answers ∨ turns.map (fun t => t.answers) = answers ++ [spare]
  flags : stays = true → ∀ t ∈ turns, t.running = true ∧ t.runningAfter = true
  watched : stays = true → ∀ tick ∈ ticks, tick.running = true

/-- The packet loop, from inside the packet read of a turn on, ends with the thread handing back `w`. -/
def ReadsOn (stays : Bool) (spare : SftAnswers) (answers : List SftAnswers) (w : SftThread)
    (v : SftThread) (reading : List Tick → Except Halt SftReadResult) : Prop :=
  ∃ turn turns ticks last after, Script stays spare answers (turn :: turns) ticks ∧ turn.running = true ∧
    loopFrom v turn turns (reading ticks) = .ok (last, after) ∧ w = sftThreadExit last

/-- The packet loop, from its test on, ends with the thread handing back `w`. -/
def LoopsOn (stays : Bool) (spare : SftAnswers) (answers : List SftAnswers) (w : SftThread)
    (v : SftThread) (read : SftRead) (stream : List UInt8) : Prop :=
  ∃ turns ticks last after, Script stays spare answers turns ticks ∧
    sftStreamLoop turns v ⟨read, ticks, stream⟩ = .ok (last, after) ∧ w = sftThreadExit last

/-- With these bytes to come and these answers for the packets in them, the thread hands back `w`. -/
def LiveThreadPc.Completes (stays : Bool) (spare : SftAnswers) (answers : List SftAnswers)
    (stream : List UInt8) (w : SftThread) : LiveThreadPc → Prop
  | .unstarted | .entry => ∃ now buffer, buffer.length = sftMaxPayload ∧
      LoopsOn stays spare answers w (sftThreadStart now) ⟨sftParseHeader [], buffer, 0⟩ stream
  | .test v read => LoopsOn stays spare answers w v read stream
  | .header v read s => ReadsOn stays spare answers w v fun ticks =>
      headerFrom read ticks { s with stream := stream }
  | .payload v read h s => ReadsOn stays spare answers w v fun ticks =>
      payloadFrom read h ticks { s with stream := stream }
  | .handling v read => ReadsOn stays spare answers w v fun ticks => .ok ⟨1, read, ticks, stream⟩
  | .unread v read rc => ReadsOn stays spare answers w v fun ticks => .ok ⟨rc, read, ticks, stream⟩
  | .exiting v => answers = [] ∧ w = sftThreadExit v
  | .finished v => answers = [] ∧ v = some w

/-- A thread in its loop has not left it, a read under way lacks something, and what comes back without a
    packet is no success. -/
def LiveThreadPc.Placed : LiveThreadPc → Prop
  | .test v _ => v.left = false
  | .header _ _ s => s.done < sftHeaderSize
  | .payload _ _ h s => s.done < h.length.toNat
  | .unread _ _ rc => rc ≤ 0
  | _ => True

/-- The answers an event gives for a packet. -/
def LiveThreadEvent.answers : LiveThreadEvent → List SftAnswers
  | .handle answers => [answers]
  | _ => []

section Steps

variable {stays : Bool} {spare : SftAnswers} {answers : List SftAnswers} {w v : SftThread}

/-- One more turn of a read in front. -/
theorem ReadsOn.turn {running : Bool} (on : stays = true → running = true) (tick : Tick)
    {reading before : List Tick → Except Halt SftReadResult}
    (here : ∀ ticks, before ({ tick with running := running } :: ticks) = reading ticks)
    (later : ReadsOn stays spare answers w v reading) : ReadsOn stays spare answers w v before := by
  rcases later with ⟨turn, turns, ticks, last, after, script, runs, loop, back⟩
  refine ⟨turn, turns, { tick with running := running } :: ticks, last, after,
    ⟨script.answered, script.flags, fun kept => ?_⟩, runs, (here ticks) ▸ loop, back⟩
  intro other member
  rcases List.mem_cons.mp member with rfl | member
  · exact on kept
  · exact script.watched kept other member

theorem ReadsOn.congr {reading before : List Tick → Except Halt SftReadResult}
    (same : ∀ ticks, before ticks = reading ticks) (later : ReadsOn stays spare answers w v reading) :
    ReadsOn stays spare answers w v before := by
  rw [show before = reading from funext same]
  exact later

/-- A turn that leaves the loop is the last one. -/
theorem readsOn_of_leaves (turn : SftTurn) {rc : Int} {read : SftRead} {stream : List UInt8}
    (script : Script stays spare answers [turn] []) (runs : turn.running = true)
    (leaves : (turnFrom v turn ⟨rc, read, [], stream⟩).1.left = true)
    (back : w = sftThreadExit (turnFrom v turn ⟨rc, read, [], stream⟩).1) :
    ReadsOn stays spare answers w v fun ticks => .ok ⟨rc, read, ticks, stream⟩ :=
  ⟨turn, [], [], _, _, script, runs, sftStreamLoop_left leaves, back⟩

/-- What the thread makes of a read that came back without a packet. -/
theorem turnFrom_unread (turn : SftTurn) {r : SftReadResult} (nothing : r.rc ≤ 0) :
    (turnFrom v turn r).1 = { v with
      left := true, failed := if r.rc < 0 then v.failed || turn.runningAfter else v.failed } := by
  unfold turnFrom
  by_cases end_ : r.rc = 0
  · rw [if_pos end_, if_neg (by omega)]
  · rw [if_neg end_, if_pos (by omega), if_pos (by omega)]

/-- A read that is complete is a packet. -/
theorem payloadFrom_done {read : SftRead} {h : SftPacketHeader} {s : ReadState}
    (done : s.done = h.length.toNat) (ticks : List Tick) :
    payloadFrom read h ticks s = .ok ⟨1, ⟨h, s.buffer, h.length.toNat⟩, ticks, s.stream⟩ := by
  unfold payloadFrom
  rw [readExactLoop_done (by omega)]
  simp only [bind, Except.bind, ReadExact.got, done, ne_eq, not_true_eq_false, if_false]
  rfl

theorem completes_beginPayload {read : SftRead} {h : SftPacketHeader} {stream : List UInt8}
    (later : (beginPayload v read h).Completes stays spare answers stream w) :
    ReadsOn stays spare answers w v fun ticks => payloadFrom read h ticks ⟨stream, read.payload, 0, 0⟩ := by
  unfold beginPayload at later
  split at later
  · exact later
  · next empty =>
      refine ReadsOn.congr (fun ticks => ?_) later
      exact payloadFrom_done (show 0 = h.length.toNat by omega) ticks

theorem completes_headerRead {read : SftRead} {s : ReadState} (done : ¬ s.done < sftHeaderSize)
    (later : (headerRead v read s.buffer).Completes stays spare answers s.stream w) :
    ReadsOn stays spare answers w v fun ticks => headerFrom read ticks s := by
  have body : ∀ ticks, headerFrom read ticks s
      = sftReadBody sftMaxPayload read s.buffer ticks s.stream := by
    intro ticks
    have positive : ¬ ((s.done : Int) ≤ 0) := by
      unfold sftHeaderSize at done
      omega
    unfold headerFrom
    rw [readExactLoop_done done]
    exact if_neg positive
  unfold headerRead at later
  dsimp only at later
  split at later
  · next invalid =>
      refine ReadsOn.congr (fun ticks => ?_) later
      rw [body ticks, sftReadBody, if_pos invalid]
  split at later
  · next valid long =>
      refine ReadsOn.congr (fun ticks => ?_) later
      rw [body ticks, sftReadBody, if_neg valid, if_pos long]
  · next valid fits =>
      refine ReadsOn.congr (fun ticks => ?_) (completes_beginPayload later)
      rw [body ticks, sftReadBody, if_neg valid, if_neg fits]
      rfl

/-- A header read goes on as the turn says. -/
theorem headerFrom_again {read : SftRead} {tick : Tick} {s next : ReadState} (unread : s.done < sftHeaderSize)
    (turn : readTurn true sftHeaderSize tick s = .again next) (ticks : List Tick) :
    headerFrom read (tick :: ticks) s = headerFrom read ticks next := by
  unfold headerFrom
  rw [readExactLoop, if_pos unread, turn]

theorem headerFrom_leave {read : SftRead} {tick : Tick} {s last : ReadState} {ending : ReadEnd}
    (unread : s.done < sftHeaderSize) (turn : readTurn true sftHeaderSize tick s = .leave ending last)
    (ticks : List Tick) : headerFrom read (tick :: ticks) s
      = .ok ⟨ReadExact.got ⟨ending, last, []⟩, read, ticks, last.stream⟩ := by
  have nothing : ReadExact.got ⟨ending, last, ticks⟩ ≤ 0 := got_of_leave turn ticks
  unfold headerFrom
  rw [readExactLoop, if_pos unread, turn]
  simp only [bind, Except.bind, pure, Except.pure, if_pos nothing]
  rfl

theorem payloadFrom_again {read : SftRead} {h : SftPacketHeader} {tick : Tick} {s next : ReadState}
    (unread : s.done < h.length.toNat) (turn : readTurn false h.length.toNat tick s = .again next)
    (ticks : List Tick) : payloadFrom read h (tick :: ticks) s = payloadFrom read h ticks next := by
  unfold payloadFrom
  rw [readExactLoop, if_pos unread, turn]

theorem payloadFrom_leave {read : SftRead} {h : SftPacketHeader} {tick : Tick} {s last : ReadState}
    {ending : ReadEnd} (unread : s.done < h.length.toNat)
    (turn : readTurn false h.length.toNat tick s = .leave ending last) (ticks : List Tick) :
    payloadFrom read h (tick :: ticks) s
      = .ok ⟨-1, { read with header := h, payload := last.buffer }, ticks, last.stream⟩ := by
  have nothing : ReadExact.got ⟨ending, last, ticks⟩ ≤ 0 := got_of_leave turn ticks
  have short : ReadExact.got ⟨ending, last, ticks⟩ ≠ h.length.toNat := by omega
  unfold payloadFrom
  rw [readExactLoop, if_pos unread, turn]
  simp only [bind, Except.bind, pure, Except.pure, if_pos short]

/-- One turn of the read of a header, with what is still to come behind it. -/
theorem completes_headerTurn {running : Bool} (on : stays = true → running = true) {read : SftRead}
    {tick : Tick} {s : ReadState} {socket : LiveSocket} {t : LiveThreadPc} {incoming more : List UInt8}
    (unread : s.done < sftHeaderSize) (admitted : socket.admits tick.wait = true)
    (last : socket.ended = true → more = [])
    (turned : headerTurn v read { tick with running := running } { s with stream := socket.incoming }
      = some (t, incoming))
    (later : t.Completes stays spare answers (incoming ++ more) w) :
    ReadsOn stays spare answers w v fun ticks =>
      headerFrom read ticks { s with stream := socket.incoming ++ more } := by
  have same := readTurn_append true sftHeaderSize { tick with running := running }
    (s := { s with stream := socket.incoming }) admitted last
  unfold headerTurn at turned
  cases turn : readTurn true sftHeaderSize { tick with running := running }
      { s with stream := socket.incoming } with
  | outOfBounds =>
      rw [turn] at turned
      cases turned
  | leave ending left_ =>
      rw [turn] at turned same
      cases turned
      exact ReadsOn.turn on tick (fun ticks =>
        headerFrom_leave (s := { s with stream := socket.incoming ++ more }) unread same ticks) later
  | again next =>
      rw [turn] at turned same
      cases turned
      refine ReadsOn.turn on tick (fun ticks =>
        headerFrom_again (s := { s with stream := socket.incoming ++ more }) unread same ticks) ?_
      split at later
      · exact later
      · next done => exact completes_headerRead (s := next.followedBy more) done later

theorem completes_payloadTurn {running : Bool} (on : stays = true → running = true) {read : SftRead}
    {h : SftPacketHeader} {tick : Tick} {s : ReadState} {socket : LiveSocket} {t : LiveThreadPc}
    {incoming more : List UInt8} (unread : s.done < h.length.toNat)
    (admitted : socket.admits tick.wait = true) (last : socket.ended = true → more = [])
    (turned : payloadTurn v read h { tick with running := running }
      { s with stream := socket.incoming } = some (t, incoming))
    (later : t.Completes stays spare answers (incoming ++ more) w) :
    ReadsOn stays spare answers w v fun ticks =>
      payloadFrom read h ticks { s with stream := socket.incoming ++ more } := by
  have same := readTurn_append false h.length.toNat { tick with running := running }
    (s := { s with stream := socket.incoming }) admitted last
  unfold payloadTurn at turned
  cases turn : readTurn false h.length.toNat { tick with running := running }
      { s with stream := socket.incoming } with
  | outOfBounds =>
      rw [turn] at turned
      cases turned
  | leave ending left_ =>
      rw [turn] at turned same
      cases turned
      exact ReadsOn.turn on tick (fun ticks =>
        payloadFrom_leave (s := { s with stream := socket.incoming ++ more }) unread same ticks) later
  | again next =>
      rcases readTurn_transfers (s := { s with stream := socket.incoming }) unread turn with ⟨_, moved⟩
      rw [turn] at turned same
      cases turned
      refine ReadsOn.turn on tick (fun ticks =>
        payloadFrom_again (s := { s with stream := socket.incoming ++ more }) unread same ticks) ?_
      split at later
      · exact later
      · next done =>
          have whole : next.done = h.length.toNat := Nat.le_antisymm moved.inside (Nat.not_lt.mp done)
          exact ReadsOn.congr (fun ticks => payloadFrom_done (s := next.followedBy more) whole ticks) later

theorem length_allocated (garbage : Nat → UInt8) :
    ((List.range sftMaxPayload).map garbage).length = sftMaxPayload := by
  rw [List.length_map, List.length_range]

/-- A step of the thread amounts to what is left of it behind the step, with the answers of the step in
    front. -/
theorem completes_step {running : Bool} (on : stays = true → running = true) {socket after : LiveSocket}
    {t next : LiveThreadPc} {event : LiveThreadEvent} {more : List UInt8} (placed : t.Placed)
    (last : socket.ended = true → more = [])
    (step : liveThreadStep running socket t event = some (next, after))
    (later : next.Completes stays spare answers (after.incoming ++ more) w) :
    t.Completes stays spare (event.answers ++ answers) (socket.incoming ++ more) w := by
  cases t <;> cases event <;> simp only [liveThreadStep, reduceCtorEq] at step
  case entry.enter allocated now garbage =>
      cases step
      cases allocated with
      | true => exact ⟨now, _, length_allocated garbage, later⟩
      | false => cases later.2
  case test.test v read =>
      cases step
      cases running with
      | true =>
          rcases later with ⟨turn, turns, ticks, last, after, script, runs, loop, back⟩
          refine ⟨turn :: turns, ticks, last, after, script, ?_, back⟩
          rw [sftStreamLoop_eq_loopFrom placed runs]
          exact loop
      | false =>
          rcases later with ⟨rfl, rfl⟩
          have cleared : stays ≠ true := fun kept => Bool.noConfusion (on kept)
          exact ⟨[⟨false, false, spare⟩], [], { v with left := true }, ⟨read, [], _⟩,
            ⟨Or.inr rfl, fun kept => absurd kept cleared, fun kept => absurd kept cleared⟩,
            (sftStreamLoop_cons placed rfl).trans (sftStreamLoop_left rfl), rfl⟩
  case header.turn v read s tick =>
      split at step
      · next admitted =>
          rcases Option.map_eq_some_iff.mp step with ⟨⟨t, incoming⟩, turned, same⟩
          cases same
          exact completes_headerTurn on placed admitted last turned later
      · cases step
  case payload.turn v read h s tick =>
      split at step
      · next admitted =>
          rcases Option.map_eq_some_iff.mp step with ⟨⟨t, incoming⟩, turned, same⟩
          cases same
          exact completes_payloadTurn on placed admitted last turned later
      · cases step
  case handling.handle v read given =>
      cases step
      split at later
      · next leaves =>
          rcases later with ⟨rfl, back⟩
          exact readsOn_of_leaves ⟨true, true, given⟩
            ⟨Or.inl rfl, fun _ => List.forall_mem_singleton.mpr ⟨rfl, rfl⟩, nofun⟩ rfl leaves back
      · rcases later with ⟨turns, ticks, last, after, script, loop, back⟩
        refine ⟨⟨true, true, given⟩, turns, ticks, last, after, ⟨?_, fun kept => ?_, script.watched⟩, rfl,
          loop, back⟩
        · rcases script.answered with all | spared
          · exact Or.inl (congrArg (given :: ·) all)
          · exact Or.inr (congrArg (given :: ·) spared)
        · exact List.forall_mem_cons.mpr ⟨⟨rfl, rfl⟩, script.flags kept⟩
  case unread.unread v read rc =>
      cases step
      rcases later with ⟨rfl, back⟩
      have made := turnFrom_unread (v := v) ⟨true, running, spare⟩
        (r := ⟨rc, read, [], socket.incoming ++ more⟩) placed
      refine readsOn_of_leaves ⟨true, running, spare⟩
        ⟨Or.inr rfl, fun kept => List.forall_mem_singleton.mpr ⟨rfl, on kept⟩, nofun⟩ rfl ?_ ?_
      · rw [made]
      · rw [made]
        exact back
  case exiting.exit v =>
      cases step
      rcases later with ⟨rfl, same⟩
      cases same
      exact ⟨rfl, rfl⟩

end Steps

/-! ### The invariant -/

theorem placed_beginPayload {v : SftThread} {read : SftRead} {h : SftPacketHeader} :
    (beginPayload v read h).Placed := by
  unfold beginPayload
  split
  · next some_ => exact some_
  · exact trivial

theorem placed_headerRead {v : SftThread} {read : SftRead} {raw : List UInt8} :
    (headerRead v read raw).Placed := by
  have wrong : (-1 : Int) ≤ 0 := by decide
  unfold headerRead
  dsimp only
  split
  · exact wrong
  split
  · exact wrong
  · exact placed_beginPayload

theorem placed_headerTurn {v : SftThread} {read : SftRead} {tick : Tick} {s : ReadState}
    {t : LiveThreadPc} {incoming : List UInt8} (turned : headerTurn v read tick s = some (t, incoming)) :
    t.Placed := by
  unfold headerTurn at turned
  cases turn : readTurn true sftHeaderSize tick s <;> rw [turn] at turned <;> cases turned
  case again next =>
    split
    · next more => exact more
    · exact placed_headerRead
  case leave ending last => exact got_of_leave turn []

theorem placed_payloadTurn {v : SftThread} {read : SftRead} {h : SftPacketHeader} {tick : Tick}
    {s : ReadState} {t : LiveThreadPc} {incoming : List UInt8}
    (turned : payloadTurn v read h tick s = some (t, incoming)) : t.Placed := by
  have wrong : (-1 : Int) ≤ 0 := by decide
  unfold payloadTurn at turned
  cases turn : readTurn false h.length.toNat tick s <;> rw [turn] at turned <;> cases turned
  case again next =>
    split
    · next more => exact more
    · exact trivial
  case leave ending last => exact wrong

theorem placed_liveThreadStep {running : Bool} {socket after : LiveSocket} {t next : LiveThreadPc}
    {event : LiveThreadEvent} (step : liveThreadStep running socket t event = some (next, after)) :
    next.Placed := by
  cases t <;> cases event <;> simp only [liveThreadStep, reduceCtorEq] at step
  case entry.enter allocated now garbage =>
      cases step
      cases allocated with
      | true => exact rfl
      | false => exact trivial
  case test.test v read =>
      cases step
      cases running with
      | true => exact show 0 < sftHeaderSize by decide
      | false => exact trivial
  case header.turn v read s tick =>
      split at step
      · rcases Option.map_eq_some_iff.mp step with ⟨⟨t, incoming⟩, turned, same⟩
        cases same
        exact placed_headerTurn turned
      · cases step
  case payload.turn v read h s tick =>
      split at step
      · rcases Option.map_eq_some_iff.mp step with ⟨⟨t, incoming⟩, turned, same⟩
        cases same
        exact placed_payloadTurn turned
      · cases step
  case handling.handle v read given =>
      cases step
      split
      · exact trivial
      · next stays => exact Bool.eq_false_of_not_eq_true stays
  case unread.unread v read rc =>
      cases step
      exact trivial
  case exiting.exit v =>
      cases step
      exact trivial

/-- The main thread has not created the stream thread yet. -/
def LiveFrametapPc.early : LiveFrametapPc → Bool
  | .connect | .initLock | .createThread => true
  | _ => false

/-- What every state of a live session satisfies about its thread. -/
structure LiveFrametap.Placed (s : LiveFrametap) : Prop where
  thread : s.thread.Placed
  fresh : s.main.early = true → s.thread = .unstarted

/-- What a step of the main thread leaves alone, and what it does to the rest. -/
theorem liveFrametapMain_keeps {s next : LiveFrametap} {succeeds : Bool} {action : ShellAction}
    {now : UInt32} (step : liveFrametapMain s succeeds action now = some next) :
    next.socket.incoming = s.socket.incoming ∧
      (next.thread = s.thread ∨ (s.main = .createThread ∧ next.thread = .entry)) ∧
      (next.running = s.running ∨ next.running = false) ∧
      (next.main.early = true → s.main.early = true ∧ next.thread = s.thread) := by
  unfold liveFrametapMain at step
  cases main : s.main <;> simp only [main] at step
  case connect =>
    cases step
    exact ⟨rfl, Or.inl rfl, Or.inl rfl, fun _ => ⟨rfl, rfl⟩⟩
  case initLock =>
    cases step
    exact ⟨rfl, Or.inl rfl, Or.inl rfl, fun _ => ⟨rfl, rfl⟩⟩
  case createThread =>
    cases succeeds with
    | true =>
        cases step
        exact ⟨rfl, Or.inr ⟨rfl, rfl⟩, Or.inl rfl, nofun⟩
    | false =>
        cases step
        exact ⟨rfl, Or.inl rfl, Or.inl rfl, nofun⟩
  case uiTest =>
    cases step
    refine ⟨rfl, Or.inl rfl, Or.inl rfl, fun early => ?_⟩
    dsimp only at early
    split at early <;> cases early
  case uiPoll =>
    cases action with
    | none =>
        cases step
        refine ⟨rfl, Or.inl rfl, Or.inl rfl, fun early => ?_⟩
        dsimp only at early
        split at early <;> cases early
    | back =>
        cases step
        exact ⟨rfl, Or.inl rfl, Or.inr rfl, nofun⟩
    | quit =>
        cases step
        exact ⟨rfl, Or.inl rfl, Or.inl rfl, nofun⟩
  case videoTest =>
    split at step
    · cases step
      exact ⟨rfl, Or.inl rfl, Or.inl rfl, nofun⟩
    · cases step
      exact ⟨rfl, Or.inl rfl, Or.inl rfl, nofun⟩
  case connectedTest =>
    cases step
    refine ⟨rfl, Or.inl rfl, Or.inl rfl, fun early => ?_⟩
    dsimp only at early
    split at early <;> cases early
  case drawStatus asked =>
    cases step
    exact ⟨rfl, Or.inl rfl, Or.inl rfl, nofun⟩
  case stop =>
    cases step
    exact ⟨rfl, Or.inl rfl, Or.inr rfl, nofun⟩
  case shutdown =>
    cases step
    exact ⟨rfl, Or.inl rfl, Or.inl rfl, nofun⟩
  case join =>
    split at step
    · cases step
      exact ⟨rfl, Or.inl rfl, Or.inl rfl, nofun⟩
    · cases step
  case returned result => cases step

theorem LiveFrametap.Placed.step {s next : LiveFrametap} {e : LiveFrametapEvent} (placed : s.Placed)
    (step : liveFrametapStep s e = some next) : next.Placed := by
  cases e with
  | main succeeds action now =>
      rcases liveFrametapMain_keeps step with ⟨_, thread, _, early⟩
      refine ⟨?_, fun fresh => ?_⟩
      · rcases thread with same | ⟨_, entered⟩
        · exact same ▸ placed.thread
        · exact entered ▸ trivial
      · rcases early fresh with ⟨before, same⟩
        exact same.trans (placed.fresh before)
  | thread event =>
      rcases Option.map_eq_some_iff.mp step with ⟨⟨t, socket⟩, taken, rfl⟩
      refine ⟨placed_liveThreadStep taken, fun fresh => ?_⟩
      rw [placed.fresh fresh] at taken
      cases event <;> cases taken
  | signal =>
      cases step
      exact ⟨placed.thread, placed.fresh⟩
  | arrives bytes =>
      simp only [liveFrametapStep] at step
      split at step
      · cases step
      · cases step
        exact ⟨placed.thread, placed.fresh⟩
  | closes =>
      cases step
      exact ⟨placed.thread, placed.fresh⟩

theorem placed_liveFrametapStart : liveFrametapStart.Placed := ⟨trivial, fun _ => rfl⟩

/-- No step sets `running`. -/
theorem running_of_liveFrametapStep {s next : LiveFrametap} {e : LiveFrametapEvent}
    (step : liveFrametapStep s e = some next) (kept : next.running = true) : s.running = true := by
  cases e with
  | main succeeds action now =>
      rcases (liveFrametapMain_keeps step).2.2.1 with same | cleared
      · exact same ▸ kept
      · rw [cleared] at kept
        cases kept
  | thread event =>
      rcases Option.map_eq_some_iff.mp step with ⟨⟨t, socket⟩, _, rfl⟩
      exact kept
  | signal =>
      cases step
      exact kept
  | arrives bytes =>
      simp only [liveFrametapStep] at step
      split at step
      · cases step
      · cases step
        exact kept
  | closes =>
      cases step
      exact kept

/-! ### The refinement -/

/-- The bytes an event brings. -/
def LiveFrametapEvent.brings : LiveFrametapEvent → List UInt8
  | .arrives bytes => bytes
  | _ => []

/-- The answers an event gives for a packet. -/
def LiveFrametapEvent.answers : LiveFrametapEvent → List SftAnswers
  | .thread event => event.answers
  | _ => []

/-- All bytes that arrive in a run. -/
def arrivedBytes (events : List LiveFrametapEvent) : List UInt8 :=
  events.flatMap LiveFrametapEvent.brings

/-- The answers given in a run, in their order. -/
def givenAnswers (events : List LiveFrametapEvent) : List SftAnswers :=
  events.flatMap LiveFrametapEvent.answers

/-- A socket that has ended stays so under the steps of the thread. -/
theorem ended_liveThreadStep {running : Bool} {socket after : LiveSocket} {t next : LiveThreadPc}
    {event : LiveThreadEvent} (step : liveThreadStep running socket t event = some (next, after)) :
    after.ended = socket.ended := by
  cases t <;> cases event <;> simp only [liveThreadStep, reduceCtorEq] at step
  case header.turn v read s tick =>
    split at step
    · rcases Option.map_eq_some_iff.mp step with ⟨_, _, same⟩
      cases same
      rfl
    · cases step
  case payload.turn v read h s tick =>
    split at step
    · rcases Option.map_eq_some_iff.mp step with ⟨_, _, same⟩
      cases same
      rfl
    · cases step
  all_goals
    cases step
    rfl

/-- A stream that has ended brings nothing more, and it stays so. -/
theorem ended_liveFrametapStep {s next : LiveFrametap} {e : LiveFrametapEvent}
    (step : liveFrametapStep s e = some next) (ended : s.socket.ended = true) :
    next.socket.ended = true ∧ e.brings = [] := by
  cases e with
  | main succeeds action now =>
      refine ⟨?_, rfl⟩
      simp only [liveFrametapStep, liveFrametapMain] at step
      cases main : s.main <;> simp only [main] at step
      case uiPoll => cases action <;> cases step <;> exact ended
      case createThread => cases succeeds <;> cases step <;> exact ended
      case videoTest => split at step <;> cases step <;> exact ended
      case join => split at step <;> cases step; exact ended
      case shutdown =>
        cases step
        rfl
      case returned result => cases step
      all_goals
        cases step
        exact ended
  | thread event =>
      rcases Option.map_eq_some_iff.mp step with ⟨⟨t, socket⟩, taken, rfl⟩
      exact ⟨(ended_liveThreadStep taken).trans ended, rfl⟩
  | signal =>
      cases step
      exact ⟨ended, rfl⟩
  | arrives bytes => simp only [liveFrametapStep, ended, if_true, reduceCtorEq] at step
  | closes =>
      cases step
      exact ⟨rfl, rfl⟩

theorem arrivedBytes_ended {events : List LiveFrametapEvent} :
    ∀ {s last : LiveFrametap}, Runs.exec liveFrametapStep s events = some last →
      s.socket.ended = true → arrivedBytes events = [] := by
  induction events with
  | nil => exact fun _ _ => rfl
  | cons e events ih =>
      intro s last run ended
      rcases Runs.exec_cons.mp run with ⟨next, step, rest⟩
      rcases ended_liveFrametapStep step ended with ⟨still, nothing⟩
      have later : arrivedBytes events = [] := ih rest still
      unfold arrivedBytes at later ⊢
      rw [List.flatMap_cons, nothing, later]
      rfl

theorem running_of_run {events : List LiveFrametapEvent} :
    ∀ {s last : LiveFrametap}, Runs.exec liveFrametapStep s events = some last →
      last.running = true → s.running = true := by
  induction events with
  | nil =>
      intro s last run kept
      cases run
      exact kept
  | cons e events ih =>
      intro s last run kept
      rcases Runs.exec_cons.mp run with ⟨next, step, rest⟩
      exact running_of_liveFrametapStep step (ih rest kept)

/-- What the threads do from a state on amounts to the rest of the packet loop over all bytes still to
    come. -/
theorem completes_of_run (spare : SftAnswers) {w : SftThread} {events : List LiveFrametapEvent} :
    ∀ {s last : LiveFrametap}, s.Placed → Runs.exec liveFrametapStep s events = some last →
      last.thread = .finished (some w) →
      s.thread.Completes last.running spare (givenAnswers events)
        (s.socket.incoming ++ arrivedBytes events) w := by
  induction events with
  | nil =>
      intro s last _ run back
      cases run
      rw [back]
      exact ⟨rfl, rfl⟩
  | cons e events ih =>
      intro s last placed run back
      rcases Runs.exec_cons.mp run with ⟨next, step, rest⟩
      have later := ih (placed.step step) rest back
      have all : arrivedBytes (e :: events) = e.brings ++ arrivedBytes events := List.flatMap_cons
      cases e with
      | main succeeds action now =>
          rcases liveFrametapMain_keeps step with ⟨incoming, thread, _, _⟩
          rw [incoming] at later
          rcases thread with same | ⟨main, entered⟩
          · rwa [same] at later
          · have fresh : s.thread = .unstarted := placed.fresh (by rw [main]; rfl)
            rw [entered] at later
            rw [fresh]
            exact later
      | thread event =>
          rcases Option.map_eq_some_iff.mp step with ⟨⟨t, socket⟩, taken, rfl⟩
          have nothing : s.socket.ended = true → arrivedBytes events = [] :=
            fun ended => arrivedBytes_ended rest (ended_liveFrametapStep step ended).1
          exact completes_step (running_of_run run) placed.thread nothing taken later
      | signal =>
          cases step
          exact later
      | arrives bytes =>
          simp only [liveFrametapStep] at step
          split at step
          · cases step
          · cases step
            rw [all, ← List.append_assoc]
            exact later
      | closes =>
          cases step
          exact later

theorem le_latest (a : UInt64) : a ≤ 0xFFFFFFFFFFFFFFFF := by
  rw [UInt64.le_iff_toNat_le]
  have below := a.toNat_lt
  have top : (0xFFFFFFFFFFFFFFFF : UInt64).toNat = 2 ^ 64 - 1 := rfl
  omega

/-- The turn of a read that takes `count` bytes. -/
def takingTurn (count : Nat) : LiveFrametapEvent :=
  .thread (.turn ⟨true, 0, 0, .ready (.bytes (count - 1)), 0⟩)

/-- The steps in which the thread takes a packet that has arrived and handles it. -/
def takingEvents (p : WirePacket) (answers : SftAnswers) : List LiveFrametapEvent :=
  [.thread .test, takingTurn sftHeaderSize, takingTurn p.payload.length, .thread (.handle answers)]

/-- A read that wants what is at the front of the stream takes it in one turn. -/
theorem readTurn_takes (idleAllowed : Bool) {wanted buffer : List UInt8} (more : List UInt8) {clock : Tick}
    (some_ : 0 < wanted.length) (room : wanted.length ≤ buffer.length)
    (tick : clock = ⟨true, 0, 0, .ready (.bytes (wanted.length - 1)), 0⟩) :
    ∃ next, readTurn idleAllowed wanted.length clock ⟨wanted ++ more, buffer, 0, 0⟩ = .again next ∧
      next.stream = more ∧ next.done = wanted.length ∧
      next.buffer = wanted ++ buffer.drop wanted.length := by
  subst tick
  have count : min (wanted.length - 1 + 1) (wanted.length - 0) = wanted.length := by omega
  have segment : receive (wanted ++ more) (wanted.length - 1) (wanted.length - 0) = wanted := by
    unfold receive
    rw [count, List.take_left]
  have there : wanted ≠ [] := List.ne_nil_of_length_pos some_
  have fits : 0 + wanted.length ≤ buffer.length := by omega
  have awake : ¬ ((ReadState.timed ⟨wanted ++ more, buffer, 0, 0⟩ idleAllowed
      && decide (ReadState.armed ⟨wanted ++ more, buffer, 0, 0⟩ idleAllowed
        ⟨true, 0, 0, .ready (.bytes (wanted.length - 1)), 0⟩ ≤ 0)) = true) := by
    cases idleAllowed with
    | true => exact Bool.false_ne_true
    | false => exact Bool.false_ne_true
  unfold readTurn
  dsimp only
  rw [if_neg (show ¬ (!true) = true from Bool.false_ne_true), if_neg awake, segment, if_neg there,
    Buffer.store_of_fits fits]
  refine ⟨_, rfl, List.drop_left, Nat.zero_add _, ?_⟩
  dsimp only
  rw [List.take_zero, List.nil_append, Nat.zero_add]

theorem headerTurn_takes {v : SftThread} (read : SftRead) (p : WirePacket) (more : List UInt8) :
    headerTurn v read ⟨true, 0, 0, .ready (.bytes (sftHeaderSize - 1)), 0⟩
        ⟨p.wire ++ more, List.replicate sftHeaderSize 0, 0, 0⟩
      = some (.payload v read p.header ⟨[], read.payload, 0, 0⟩, p.payload ++ more) := by
  have long : p.raw.val.length = sftHeaderSize := p.raw.property
  have front : p.wire ++ more = p.raw.val ++ (p.payload ++ more) := List.append_assoc _ _ _
  rcases @readTurn_takes true p.raw.val (List.replicate sftHeaderSize 0) (p.payload ++ more) _
    (by rw [long]; decide) (by rw [long]; exact List.length_replicate.ge) rfl with
    ⟨next, turn, stream, done, buffer⟩
  rw [long] at turn done
  have all : next.buffer = p.raw.val := by
    rw [buffer, long, List.drop_of_length_le List.length_replicate.le, List.append_nil]
  have some_ : 0 < (sftParseHeader p.raw.val).length.toNat := accepted_length_pos p.valid
  have fits : ¬ (sftParseHeader p.raw.val).length.toNat > sftMaxPayload :=
    Nat.not_lt.mpr (p.announced ▸ p.payload_le)
  unfold headerTurn
  rw [front, turn]
  dsimp only
  rw [if_neg (by omega), all, stream, headerRead]
  rw [if_neg (not_not.mpr p.valid), if_neg fits, beginPayload, if_pos some_]
  rfl

theorem payloadTurn_takes {v : SftThread} {read : SftRead} (p : WirePacket) (more : List UInt8)
    (room : sftMaxPayload ≤ read.payload.length) :
    payloadTurn v read p.header ⟨true, 0, 0, .ready (.bytes (p.payload.length - 1)), 0⟩
        ⟨p.payload ++ more, read.payload, 0, 0⟩
      = some (.handling v ⟨p.header, p.payload ++ read.payload.drop p.payload.length, p.payload.length⟩,
          more) := by
  have some_ : 0 < p.payload.length := p.announced ▸ accepted_length_pos p.valid
  have announced : p.header.length.toNat = p.payload.length := p.announced.symm
  rcases @readTurn_takes false p.payload read.payload more _ some_
    (p.payload_le.trans room) rfl with ⟨next, turn, stream, done, buffer⟩
  unfold payloadTurn
  rw [announced, turn]
  dsimp only
  rw [if_neg (by omega), stream, buffer]

theorem stepsHeader (running : Bool) {socket : LiveSocket} {v : SftThread} {read : SftRead}
    (state : ReadState) (tick : Tick) {t : LiveThreadPc} {incoming : List UInt8}
    (admitted : socket.admits tick.wait = true)
    (turned : headerTurn v read { tick with running := running }
      { state with stream := socket.incoming } = some (t, incoming)) :
    liveThreadStep running socket (.header v read state) (.turn tick)
      = some (t, { socket with incoming := incoming }) := by
  simp only [liveThreadStep, admitted, if_true, turned, Option.map_some]

theorem stepsPayload (running : Bool) {socket : LiveSocket} {v : SftThread} {read : SftRead}
    {h : SftPacketHeader} (state : ReadState) (tick : Tick) {t : LiveThreadPc} {incoming : List UInt8}
    (admitted : socket.admits tick.wait = true)
    (turned : payloadTurn v read h { tick with running := running }
      { state with stream := socket.incoming } = some (t, incoming)) :
    liveThreadStep running socket (.payload v read h state) (.turn tick)
      = some (t, { socket with incoming := incoming }) := by
  simp only [liveThreadStep, admitted, if_true, turned, Option.map_some]

/-- The packet at the front of what has arrived is taken and handled, if the thread is at the test of its
    loop and `running` is set. -/
theorem live_takes_packet {s : LiveFrametap} {v : SftThread} {read : SftRead} (p : WirePacket)
    (answers : SftAnswers) (more : List UInt8) (test : s.thread = .test v read)
    (room : sftMaxPayload ≤ read.payload.length) (runs : s.running = true)
    (incoming : s.socket.incoming = p.wire ++ more) :
    ∃ read', read'.payload.length = read.payload.length ∧
      Runs.exec liveFrametapStep s (takingEvents p answers) = some { s with
        socket := { s.socket with incoming := more }
        thread := if ((p.arrival answers).handle v).left then .exiting ((p.arrival answers).handle v)
          else .test ((p.arrival answers).handle v) read' } := by
  rcases s with ⟨main, running, signalStop, userBack, uiCleared, wait, thread, ⟨bytes, ended⟩, screens⟩
  cases test
  cases runs
  cases incoming
  have small : p.payload.length ≤ read.payload.length := p.payload_le.trans room
  let read' : SftRead :=
    ⟨p.header, p.payload ++ read.payload.drop p.payload.length, p.payload.length⟩
  have content : read'.payload.take p.payload.length = p.payload := List.take_left
  have kept : read'.payload.length = read.payload.length := by
    rw [List.length_append, List.length_drop]
    omega
  have handled : (sftHandlePacket v read'.header read'.payloadSize answers).run
      (fun i => read'.payload.getD i 0) = (p.arrival answers).handle v := by
    rw [run_sftHandlePacket, map_range_getD (by rw [kept]; exact small), content]
    rfl
  have headThere : LiveSocket.admits ⟨p.wire ++ more, ended⟩ (.ready (.bytes (sftHeaderSize - 1))) = true := by
    have long : (p.wire ++ more).length = sftHeaderSize + p.payload.length + more.length := by
      rw [List.length_append, WirePacket.wire, List.length_append, p.raw.property]
      rfl
    simp only [LiveSocket.admits, Bool.or_eq_true, decide_eq_true_eq]
    unfold sftHeaderSize at long ⊢
    omega
  have bodyThere : LiveSocket.admits ⟨p.payload ++ more, ended⟩
      (.ready (.bytes (p.payload.length - 1))) = true := by
    have some_ : 0 < p.payload.length := p.announced ▸ accepted_length_pos p.valid
    simp only [LiveSocket.admits, Bool.or_eq_true, decide_eq_true_eq, List.length_append]
    omega
  have head := stepsHeader true ⟨[], List.replicate sftHeaderSize 0, 0, 0⟩
    ⟨true, 0, 0, .ready (.bytes (sftHeaderSize - 1)), 0⟩ headThere
    (headerTurn_takes (v := v) read p more)
  have body := stepsPayload true ⟨[], read.payload, 0, 0⟩
    ⟨true, 0, 0, .ready (.bytes (p.payload.length - 1)), 0⟩ bodyThere
    (payloadTurn_takes (v := v) p more room)
  refine ⟨read', kept, ?_⟩
  rw [← handled]
  exact Runs.exec_cons.mpr ⟨_, rfl, Runs.exec_cons.mpr ⟨_, Option.map_eq_some_iff.mpr ⟨_, head, rfl⟩,
    Runs.exec_cons.mpr ⟨_, Option.map_eq_some_iff.mpr ⟨_, body, rfl⟩,
      Runs.exec_cons.mpr ⟨_, rfl, rfl⟩⟩⟩⟩

/-- The console closes, and the thread finds the end behind everything that arrived. -/
def closingEvents : List LiveFrametapEvent :=
  [.closes, .thread .test, takingTurn 1, .thread .unread, .thread .exit]

theorem live_ends_at_close {s : LiveFrametap} {v : SftThread} {read : SftRead}
    (test : s.thread = .test v read) (runs : s.running = true) (empty : s.socket.incoming = []) :
    Runs.exec liveFrametapStep s closingEvents = some { s with
      socket := ⟨[], true⟩, thread := .finished (some (sftThreadExit { v with left := true })) } := by
  rcases s with ⟨main, running, signalStop, userBack, uiCleared, wait, thread, ⟨bytes, ended⟩, screens⟩
  cases test
  cases runs
  cases empty
  rfl

/-- The answers of a player that accepts a frame at the second attempt. -/
def acceptingAnswers : SftAnswers := ⟨7, true, true, true, [false, true], false, 0, false, ⟨0, 0, 0, 0⟩, true⟩

theorem acceptingAnswers_accepting : acceptingAnswers.Accepting := ⟨rfl, rfl, rfl, 1, by decide, [], rfl⟩

/-- The thread goes on behind a key frame that the player accepts. -/
theorem stays_behind_firstKeyFrame :
    ((firstKeyFrame.arrival acceptingAnswers).handle (sftThreadStart 3)).left = false := by
  have watched := (@foldl_watch [firstKeyFrame.arrival acceptingAnswers] _ _ (sound_start 3)
    (List.forall_mem_singleton.mpr (firstKeyFrame.arrival_valid _))
    (List.forall_mem_singleton.mpr acceptingAnswers_accepting) (by decide)).1
  rcases watched with ⟨now, sound⟩
  exact sound.staying

/-- A session on whose socket a key frame has arrived. -/
def keyFrameArrived (buffer : List UInt8) : LiveFrametap :=
  { liveFrametapStart with
    main := .uiTest
    socket := ⟨firstKeyFrame.wire, false⟩
    thread := .test (sftThreadStart 3) ⟨sftParseHeader [], buffer, 0⟩ }

/-- The steps up to there. -/
def keyFrameArrives : List LiveFrametapEvent :=
  [.main true .none 0, .main true .none 0, .main true .none 0, .arrives firstKeyFrame.wire,
    .thread (.enter true 3 fun _ => 0)]

theorem keyFrameArrived_reached : ∃ buffer, sftMaxPayload ≤ buffer.length ∧
    Runs.exec liveFrametapStep liveFrametapStart keyFrameArrives = some (keyFrameArrived buffer) :=
  ⟨_, (length_allocated _).ge, rfl⟩

end SysdvrWebos
