/-
Module: SysdvrWebos.Proofs.WireToDecoder
Layer: Proofs
Purpose: From the wire to the decoder of the Frame Tap backend. Whatever the connection does, the packet
  loop of the stream thread handles packets that were written, in order and without a hole; what it hands
  to the player is decodable, and a thread that ends without a failure and without being stopped has
  handled everything.
Trusted boundary: the player accepts every frame within the retries the thread makes
Main exports: readExactLoop_moves, sftReadPacket_sound, WirePacket.wire_unique, sftStreamLoop_watches,
  decoder_gets_what_was_written
Open obligations: none
-/
import SysdvrWebos.Proofs.DecoderFeed
import SysdvrWebos.Proofs.SftFraming
import SysdvrWebos.Proofs.StopOrFailure

namespace SysdvrWebos

/-! ### One read, whatever the connection does -/

/-- A turn that goes on has moved a segment, possibly none. -/
theorem readTurn_transfers {idleAllowed : Bool} {size : Nat} {tick : Tick} {s next : ReadState}
    (unfinished : s.done < size) (turn : readTurn idleAllowed size tick s = .again next) :
    ∃ segment, Moved size s next segment := by
  have stays : ∀ deadline, Moved size s { s with deadline := deadline } [] := fun deadline =>
    ⟨rfl, rfl, unfinished.le, by simp, rfl⟩
  unfold readTurn at turn
  split at turn
  · cases turn
  dsimp only at turn
  split at turn
  · cases turn
  split at turn
  · cases turn
    exact ⟨[], stays _⟩
  · cases turn
  · cases turn
    exact ⟨[], stays _⟩
  · cases turn
    exact ⟨[], stays _⟩
  · cases turn
  · next more _ =>
      split at turn
      · cases turn
      · split at turn
        · cases turn
        · next buffer stored =>
            cases turn
            have count := length_receive s.stream more (size - s.done)
            refine ⟨_, ⟨(receive_append_drop s.stream more (size - s.done)).symm, rfl, ?_,
              Buffer.take_store stored, Buffer.length_store stored⟩⟩
            dsimp only
            omega

/-- A turn that leaves the loop moves nothing, and it finds the end only where the stream has ended. -/
theorem readTurn_ends {idleAllowed : Bool} {size : Nat} {tick : Tick} {s last : ReadState}
    {ending : ReadEnd} (unfinished : s.done < size)
    (turn : readTurn idleAllowed size tick s = .leave ending last) :
    Moved size s last [] ∧ (ending = .closed → s.stream = []) := by
  have stays : ∀ deadline, Moved size s { s with deadline := deadline } [] := fun deadline =>
    ⟨rfl, rfl, unfinished.le, by simp, rfl⟩
  unfold readTurn at turn
  split at turn
  · cases turn
    exact ⟨stays _, nofun⟩
  dsimp only at turn
  split at turn
  · cases turn
    exact ⟨stays _, nofun⟩
  split at turn
  · cases turn
  · cases turn
    exact ⟨stays _, nofun⟩
  · cases turn
  · cases turn
  · cases turn
    exact ⟨stays _, nofun⟩
  · split at turn
    · next nothing =>
        cases turn
        exact ⟨stays _, fun _ => (receive_eq_nil_iff (by omega)).mp nothing⟩
    · split at turn
      · cases turn
      · cases turn

theorem Moved.trans {size : Nat} {s middle last : ReadState} {first second : List UInt8}
    (early : Moved size s middle first) (late : Moved size middle last second) :
    Moved size s last (first ++ second) where
  stream := by rw [early.stream, late.stream, List.append_assoc]
  done := by rw [late.done, early.done, List.length_append, Nat.add_assoc]
  inside := late.inside
  buffer := by rw [late.buffer, early.buffer, List.append_assoc]
  capacity := late.capacity.trans early.capacity

/-- A read moves bytes from the stream to its buffer. It is complete with all that were asked for, and it
    finds the end only where the stream has ended. -/
theorem readExactLoop_moves {idleAllowed : Bool} {size : Nat} {ticks : List Tick} :
    ∀ {s : ReadState} {r : ReadExact}, s.done ≤ size → readExactLoop idleAllowed size ticks s = .ok r →
      (∃ segment, Moved size s r.state segment) ∧ (r.ending = .complete → r.state.done = size) ∧
        (r.ending = .closed → r.state.stream = []) := by
  induction ticks with
  | nil =>
      intro s r inside read
      unfold readExactLoop at read
      split at read
      · cases read
      · next full =>
          cases read
          have all : s.done = size := by omega
          exact ⟨⟨[], rfl, rfl, inside, by simp, rfl⟩, fun _ => all, fun other => by cases other⟩
  | cons tick ticks ih =>
      intro s r inside read
      unfold readExactLoop at read
      split at read
      · next unfinished =>
          split at read
          · next next turn =>
              rcases readTurn_transfers unfinished turn with ⟨segment, moved⟩
              rcases ih moved.inside read with ⟨⟨later, rest⟩, complete, closed⟩
              exact ⟨⟨_, moved.trans rest⟩, complete, closed⟩
          · next ending last turn =>
              cases read
              rcases readTurn_ends unfinished turn with ⟨moved, atEnd⟩
              refine ⟨⟨[], moved⟩, fun complete => ?_, fun closed => ?_⟩
              · exact absurd complete (readTurn_leave turn).1
              · have stream := moved.stream
                rw [List.nil_append] at stream
                rw [← stream]
                exact atEnd closed
          · cases read
      · next full =>
          cases read
          have all : s.done = size := by omega
          exact ⟨⟨[], rfl, rfl, inside, by simp, rfl⟩, fun _ => all, fun other => by cases other⟩

/-- A read takes turns off the front of its schedule, and it is stopped only by one that says so. -/
theorem readExactLoop_turns {idleAllowed : Bool} {size : Nat} {ticks : List Tick} :
    ∀ {s : ReadState} {r : ReadExact}, readExactLoop idleAllowed size ticks s = .ok r →
      r.ticks <:+ ticks ∧ ((∀ tick ∈ ticks, tick.running = true) → r.ending ≠ .stopped) := by
  induction ticks with
  | nil =>
      intro s r read
      unfold readExactLoop at read
      split at read
      · cases read
      · cases read
        exact ⟨List.suffix_rfl, fun _ other => by cases other⟩
  | cons tick ticks ih =>
      intro s r read
      unfold readExactLoop at read
      split at read
      · split at read
        · rcases ih read with ⟨left_, stopped⟩
          exact ⟨left_.trans (List.suffix_cons _ _),
            fun runs => stopped fun later member => runs later (List.mem_cons_of_mem _ member)⟩
        · next ending last turn =>
            cases read
            refine ⟨List.suffix_cons _ _, fun runs stopped => ?_⟩
            have off := (readTurn_leave turn).2.2.mp stopped
            rw [runs tick List.mem_cons_self] at off
            cases off
        · cases read
      · cases read
        exact ⟨List.suffix_rfl, fun _ other => by cases other⟩

/-- A packet read takes turns off the front of its schedule. -/
theorem sftReadPacket_turns {capacity : Nat} {read : SftRead} {ticks : List Tick}
    {stream : List UInt8} {r : SftReadResult}
    (reads : sftReadPacket capacity read ticks stream = .ok r) : r.ticks <:+ ticks := by
  unfold sftReadPacket at reads
  cases headRead : readExactInterruptible true sftHeaderSize (List.replicate sftHeaderSize 0) ticks
      stream with
  | error halt =>
      rw [headRead] at reads
      cases reads
  | ok head =>
      have behindHead := (readExactLoop_turns headRead).1
      simp only [headRead, bind, Except.bind, pure, Except.pure] at reads
      split at reads
      · cases reads
        exact behindHead
      · unfold sftReadBody at reads
        dsimp only at reads
        split at reads
        · cases reads
          exact behindHead
        split at reads
        · cases reads
          exact behindHead
        cases bodyRead : readExactInterruptible false (sftParseHeader head.state.buffer).length.toNat
            read.payload head.ticks head.state.stream with
        | error halt =>
            rw [bodyRead] at reads
            cases reads
        | ok body =>
            have behindBody := (readExactLoop_turns bodyRead).1.trans behindHead
            simp only [bodyRead, bind, Except.bind, pure, Except.pure] at reads
            split at reads
            · cases reads
              exact behindBody
            · cases reads
              exact behindBody

/-- A read that returns the size it was asked for has taken that many bytes off the stream. -/
theorem readExactInterruptible_all {idleAllowed : Bool} {size : Nat} {buffer stream : List UInt8}
    {ticks : List Tick} {r : ReadExact} (positive : 0 < size)
    (read : readExactInterruptible idleAllowed size buffer ticks stream = .ok r) (got : r.got = size) :
    ∃ segment, stream = segment ++ r.state.stream ∧ segment.length = size ∧
      r.state.buffer.take size = segment ∧ r.state.buffer.length = buffer.length := by
  rcases readExactLoop_moves (Nat.zero_le size) read with ⟨⟨segment, moved⟩, complete, _⟩
  have all : r.ending = .complete := by
    cases ending : r.ending <;> simp only [ReadExact.got, ending] at got
    case complete => rfl
    case closed => split at got <;> omega
    all_goals omega
  have done := complete all
  have front := moved.buffer
  have count := moved.done
  rw [done] at front count
  rw [List.take_zero, List.nil_append] at front
  exact ⟨segment, moved.stream, by simpa using count.symm, front, moved.capacity⟩

/-! ### One packet -/

namespace WirePacket

/-- The header as the client sees it. -/
def header (p : WirePacket) : SftPacketHeader := sftParseHeader p.raw.val

/-- The packet begins a decodable sequence by itself. -/
def isKey (p : WirePacket) : Bool :=
  (sftPacketIsKey p.header p.payload.length).run fun i => p.payload.getD i 0

/-- A stream begins with one packet at most. -/
theorem wire_unique {p q : WirePacket} {first second : List UInt8}
    (same : p.wire ++ first = q.wire ++ second) : p = q ∧ first = second := by
  rcases p with ⟨raw, payload, valid, announced⟩
  rcases q with ⟨raw', payload', valid', announced'⟩
  simp only [wire, List.append_assoc] at same
  have heads : raw.val = raw'.val :=
    (List.append_inj same (raw.property.trans raw'.property.symm)).1
  have tails := (List.append_inj same (raw.property.trans raw'.property.symm)).2
  have lengths : payload.length = payload'.length := by rw [announced, announced', heads]
  rcases List.append_inj tails lengths with ⟨payloads, rests⟩
  exact ⟨by cases Subtype.ext heads; cases payloads; rfl, rests⟩

end WirePacket

/-- An accepted header announces a payload. -/
theorem accepted_length_pos {h : SftPacketHeader} (accepted : sftValidateHeader h = 0) :
    0 < h.length.toNat := by
  have of_ne : h.length ≠ 0 → 0 < h.length.toNat := fun some_ =>
    Nat.pos_of_ne_zero fun zero => some_ (UInt32.toNat_inj.mp zero)
  rcases accepted_class accepted with ⟨cls, _, _, fits, _⟩
  cases cls with
  | status =>
      have least : 8 ≤ h.length.toNat := UInt32.le_iff_toNat_le.mp fits.1
      omega
  | audio => exact of_ne fits.2.2.1
  | video => exact of_ne fits.2.2.2.2.2.2.1

/-- A packet read that succeeds has read a packet that was written. -/
theorem sftReadPacket_sound {capacity : Nat} {read : SftRead} {ticks : List Tick}
    {stream : List UInt8} {r : SftReadResult}
    (reads : sftReadPacket capacity read ticks stream = .ok r) (success : 0 < r.rc) :
    ∃ p : WirePacket, stream = p.wire ++ r.stream ∧ r.read.header = p.header ∧
      r.read.payloadSize = p.payload.length ∧ r.read.payload.take r.read.payloadSize = p.payload ∧
      r.read.payload.length = read.payload.length ∧ p.payload.length ≤ capacity := by
  unfold sftReadPacket at reads
  cases headRead : readExactInterruptible true sftHeaderSize (List.replicate sftHeaderSize 0) ticks
      stream with
  | error halt =>
      rw [headRead] at reads
      cases reads
  | ok head =>
      simp only [headRead, bind, Except.bind, pure, Except.pure] at reads
      split at reads
      · next none =>
          cases reads
          dsimp only at success
          omega
      · next some_ =>
          have ends := readExactLoop_ends (Nat.zero_le sftHeaderSize) headRead
          have got : head.got = sftHeaderSize := by
            refine (got_eq_size_iff ends).mpr ?_
            rcases ends with ⟨complete, _⟩ | ⟨short, _⟩
            · exact complete
            · exact absurd (headerEnd_tellsStop short).1 some_
          rcases readExactInterruptible_all (by decide) headRead got with
            ⟨raw, split_, long, filled, capacity_⟩
          have whole : head.state.buffer = raw := by
            rwa [List.take_of_length_le (by simp [capacity_])] at filled
          rw [whole] at reads
          unfold sftReadBody at reads
          dsimp only at reads
          split at reads
          · cases reads
            dsimp only at success
            omega
          next valid =>
          split at reads
          · cases reads
            dsimp only at success
            omega
          next fits =>
          cases bodyRead : readExactInterruptible false (sftParseHeader raw).length.toNat read.payload
              head.ticks head.state.stream with
          | error halt =>
              rw [bodyRead] at reads
              cases reads
          | ok body =>
              simp only [bodyRead, bind, Except.bind, pure, Except.pure] at reads
              split at reads
              · cases reads
                dsimp only at success
                omega
              next all =>
              cases reads
              have positive := accepted_length_pos (not_not.mp valid)
              rcases readExactInterruptible_all positive bodyRead (not_not.mp all) with
                ⟨payload, rest, count, content, room⟩
              refine ⟨⟨⟨raw, long⟩, payload, not_not.mp valid, count⟩, ?_, rfl, count.symm, content,
                room, ?_⟩
              · rw [split_, rest, WirePacket.wire, List.append_assoc]
              · dsimp only
                omega

/-- A packet read that comes back with nothing, and was not stopped, stands at the end of the stream. -/
theorem sftReadPacket_ended {capacity : Nat} {read : SftRead} {ticks : List Tick}
    {stream : List UInt8} {r : SftReadResult}
    (reads : sftReadPacket capacity read ticks stream = .ok r) (nothing : r.rc = 0)
    (runs : ∀ tick ∈ ticks, tick.running = true) : stream = [] := by
  unfold sftReadPacket at reads
  cases headRead : readExactInterruptible true sftHeaderSize (List.replicate sftHeaderSize 0) ticks
      stream with
  | error halt =>
      rw [headRead] at reads
      cases reads
  | ok head =>
      simp only [headRead, bind, Except.bind, pure, Except.pure] at reads
      rcases readExactLoop_moves (Nat.zero_le sftHeaderSize) headRead with
        ⟨⟨segment, moved⟩, complete, closed⟩
      split at reads
      · cases reads
        dsimp only at nothing
        cases ending : head.ending <;> simp only [ReadExact.got, ending] at nothing
        case complete =>
          rw [complete ending] at nothing
          cases nothing
        case stopped =>
          exact absurd ending ((readExactLoop_turns headRead).2 runs)
        case closed =>
          split at nothing
          · next none =>
              have count := moved.done
              rw [none] at count
              have empty : segment = [] := List.eq_nil_of_length_eq_zero (by simpa using count.symm)
              have stream := moved.stream
              rw [empty, closed ending] at stream
              exact stream
          · cases nothing
        all_goals cases nothing
      · exfalso
        unfold sftReadBody at reads
        dsimp only at reads
        split at reads
        · cases reads
          cases nothing
        split at reads
        · cases reads
          cases nothing
        cases bodyRead : readExactInterruptible false (sftParseHeader head.state.buffer).length.toNat
            read.payload head.ticks head.state.stream with
        | error halt =>
            rw [bodyRead] at reads
            cases reads
        | ok body =>
            simp only [bodyRead, bind, Except.bind, pure, Except.pure] at reads
            split at reads <;> cases reads <;> cases nothing

/-! ### The packet loop -/

/-- No packet begins here: the stream has ended, is cut off, or goes on with something malformed. -/
def NoPacket (stream : List UInt8) : Prop := ∀ (p : WirePacket) (rest : List UInt8), stream ≠ p.wire ++ rest

/-- A packet as the packet loop handles it. -/
def WirePacket.arrival (p : WirePacket) (answers : SftAnswers) : SftArrival := ⟨p.header, p.payload, answers⟩

theorem WirePacket.arrival_valid (p : WirePacket) (answers : SftAnswers) : (p.arrival answers).Valid :=
  ⟨p.valid, p.announced⟩

/-- One turn of the packet loop leaves it or handles the packet in front of the stream. -/
inductive TurnOutcome (w : SftThread) (c : SftConnection) (turn : SftTurn) (next : SftThread)
    (after : SftConnection) : Prop where
  | leaves (left : next = { w with left := true, failed := next.failed })
      (cause : turn.running = true → turn.runningAfter = true →
        (∀ tick ∈ c.ticks, tick.running = true) → next.failed = false → c.stream = [])
  | handles (p : WirePacket) (stream : c.stream = p.wire ++ after.stream)
      (handled : next = (p.arrival turn.answers).handle w)
      (room : after.read.payload.length = c.read.payload.length)
      (turns : after.ticks <:+ c.ticks)

theorem map_range_getD {content : List UInt8} {count : Nat} (inside : count ≤ content.length) :
    (List.range count).map (fun i => content.getD i 0) = content.take count := by
  apply List.ext_getElem
  · simp [inside]
  · intro i first second
    rw [List.length_map, List.length_range] at first
    simp [show i < content.length by omega]

theorem sftStreamTurn_outcome {w next : SftThread} {c after : SftConnection} {turn : SftTurn}
    (room : sftMaxPayload ≤ c.read.payload.length)
    (turned : sftStreamTurn w c turn = .ok (next, after)) : TurnOutcome w c turn next after := by
  unfold sftStreamTurn at turned
  split at turned
  · next off =>
      cases turned
      exact .leaves rfl fun runs => absurd off (by simp [runs])
  cases reads : sftReadPacket sftMaxPayload c.read c.ticks c.stream with
  | error halt =>
      rw [reads] at turned
      cases turned
  | ok r =>
      simp only [reads, bind, Except.bind, pure, Except.pure] at turned
      split at turned
      · next nothing =>
          cases turned
          exact .leaves rfl fun _ _ runs _ => sftReadPacket_ended reads nothing runs
      split at turned
      · cases turned
        refine .leaves rfl fun _ runsAfter _ kept => ?_
        simp [runsAfter] at kept
      · cases turned
        rcases sftReadPacket_sound reads (by omega) with ⟨p, stream, header, size, content, capacity, fits⟩
        refine .handles p stream ?_ capacity (sftReadPacket_turns reads)
        rw [run_sftHandlePacket, header, map_range_getD (by omega), content]
        rfl

theorem sftStreamLoop_left {turns : List SftTurn} {w : SftThread} {c : SftConnection}
    (left_ : w.left = true) : sftStreamLoop turns w c = .ok (w, c) := by
  cases turns with
  | nil => exact if_pos left_
  | cons turn turns => exact if_pos left_

theorem sftStreamLoop_cons {w next : SftThread} {c after : SftConnection} {turn : SftTurn}
    {turns : List SftTurn} (stays : w.left = false) (turned : sftStreamTurn w c turn = .ok (next, after)) :
    sftStreamLoop (turn :: turns) w c = sftStreamLoop turns next after := by
  rw [sftStreamLoop, if_neg (by simp [stays]), turned]
  rfl

/-- The packet loop handles packets in the order in which they were written, without a hole, each with the
    answers of its own turn; and where nothing stops it and no failure is noted it has handled all of them
    and stands at the end of the stream. -/
theorem sftStreamLoop_watches {rest : List UInt8} (behind : NoPacket rest) {turns : List SftTurn} :
    ∀ {packets : List WirePacket} {w last : SftThread} {c after : SftConnection} {v : Viewing},
      c.stream = packets.flatMap WirePacket.wire ++ rest →
      sftMaxPayload ≤ c.read.payload.length → v.thread = w → w.left = false →
      sftStreamLoop turns w c = .ok (last, after) →
      ∃ arrivals seen left_ failed, seen <+: packets ∧
        List.Forall₂ (fun a p => ∃ answers, a = WirePacket.arrival p answers) arrivals seen ∧
        arrivals.map (fun a => a.answers) <+: turns.map (fun t => t.answers) ∧
        last = { (arrivals.foldl Viewing.watch v).thread with left := left_, failed := failed } ∧
        ((∀ t ∈ turns, t.running = true ∧ t.runningAfter = true) →
          (∀ tick ∈ c.ticks, tick.running = true) → failed = false →
          (arrivals.foldl Viewing.watch v).thread.left = true ∨ (seen = packets ∧ rest = [])) := by
  induction turns with
  | nil =>
      intro packets w last c after v stream room same stays loop
      unfold sftStreamLoop at loop
      rw [if_neg (by simp [stays])] at loop
      cases loop
  | cons turn turns ih =>
      intro packets w last c after v stream room same stays loop
      unfold sftStreamLoop at loop
      rw [if_neg (by simp [stays])] at loop
      cases turned : sftStreamTurn w c turn with
      | error halt =>
          rw [turned] at loop
          cases loop
      | ok result =>
          rcases result with ⟨next, between⟩
          simp only [turned, bind, Except.bind] at loop
          cases sftStreamTurn_outcome room turned with
          | leaves left_ cause =>
              have ended : last = next := by
                rw [sftStreamLoop_left (show next.left = true by rw [left_])] at loop
                cases loop
                rfl
              refine ⟨[], [], true, next.failed, List.nil_prefix, .nil, List.nil_prefix, ?_, ?_⟩
              · rw [ended, left_, List.foldl_nil, same]
              · intro runs ticks kept
                rcases runs turn List.mem_cons_self with ⟨now, afterwards⟩
                have nothing := cause now afterwards ticks kept
                rw [stream] at nothing
                rcases List.append_eq_nil_iff.mp nothing with ⟨none, ended⟩
                right
                cases packets with
                | nil => exact ⟨rfl, ended⟩
                | cons p packets =>
                    have long : p.raw.val.length = 32 := p.raw.property
                    rw [List.flatMap_cons, WirePacket.wire] at none
                    simp only [List.append_eq_nil_iff] at none
                    rw [none.1.1] at long
                    cases long
          | handles p front handled capacity ticks =>
              have step : v.watch (p.arrival turn.answers)
                  = ⟨next, (v.watch (p.arrival turn.answers)).turns⟩ := by
                unfold Viewing.watch
                rw [same, if_neg (by simp [stays]), handled]
              cases packets with
              | nil =>
                  rw [List.flatMap_nil, List.nil_append] at stream
                  exact absurd (stream.symm.trans front) (behind p _)
              | cons q packets =>
                  rw [List.flatMap_cons, List.append_assoc] at stream
                  rcases WirePacket.wire_unique (front.symm.trans stream) with ⟨rfl, later⟩
                  cases leftLoop : next.left with
                  | true =>
                      rw [sftStreamLoop_left leftLoop] at loop
                      cases loop
                      refine ⟨[p.arrival turn.answers], [p], true, last.failed,
                        List.prefix_cons_inj p |>.mpr List.nil_prefix,
                        .cons ⟨turn.answers, rfl⟩ .nil, ?_, ?_, ?_⟩
                      · exact List.prefix_cons_inj turn.answers |>.mpr List.nil_prefix
                      · rw [List.foldl_cons, List.foldl_nil, step, ← leftLoop]
                      · intro _ _ _
                        rw [List.foldl_cons, List.foldl_nil, step]
                        exact Or.inl leftLoop
                  | false =>
                      rcases ih (v := v.watch (p.arrival turn.answers)) later (capacity ▸ room)
                        (by rw [step]) leftLoop loop with
                        ⟨arrivals, seen, left_, failed, front_, each, answers, isLast, complete⟩
                      refine ⟨p.arrival turn.answers :: arrivals, p :: seen, left_, failed,
                        List.prefix_cons_inj p |>.mpr front_, .cons ⟨turn.answers, rfl⟩ each, ?_, isLast, ?_⟩
                      · exact List.prefix_cons_inj turn.answers |>.mpr answers
                      · intro runs onTicks kept
                        rcases complete (fun t member => runs t (List.mem_cons_of_mem _ member))
                          (fun tick member => onTicks tick (ticks.subset member)) kept with
                          stopped | ⟨rfl, ended⟩
                        · exact Or.inl stopped
                        · exact Or.inr ⟨rfl, ended⟩

/-- The video packets of a list, as the player is to see them. -/
def videoFrames (packets : List WirePacket) : List (SftPacketHeader × List UInt8 × Bool) :=
  (packets.filter fun p => sftPacketIsVideo p.header).map fun p => (p.header, p.payload, p.isKey)

theorem valid_of_arrivals {arrivals : List SftArrival} {seen : List WirePacket}
    (each : List.Forall₂ (fun a p => ∃ answers, a = WirePacket.arrival p answers) arrivals seen) :
    ∀ a ∈ arrivals, a.Valid := by
  induction each with
  | nil => simp
  | cons here _ ih =>
      rcases here with ⟨answers, rfl⟩
      intro a member
      rcases List.mem_cons.mp member with rfl | later
      · exact WirePacket.arrival_valid _ answers
      · exact ih a later

theorem videoFrames_of_arrivals {arrivals : List SftArrival} {seen : List WirePacket}
    (each : List.Forall₂ (fun a p => ∃ answers, a = WirePacket.arrival p answers) arrivals seen) :
    (arrivals.filter fun a => sftPacketIsVideo a.header).map (fun a => (a.header, a.payload, a.key))
      = videoFrames seen := by
  induction each with
  | nil => rfl
  | cons here _ ih =>
      rcases here with ⟨answers, rfl⟩
      unfold videoFrames at ih ⊢
      rw [List.filter_cons, List.filter_cons]
      change (if sftPacketIsVideo (WirePacket.header _) = true then _ else _ : List SftArrival).map _ = _
      split
      · rw [List.map_cons, List.map_cons, ih]
        rfl
      · exact ih

/-- The console writes the given packets, and behind them comes something that is no packet, or nothing.
    Whatever the connection does, the stream thread sees packets that were written, in order and without a
    hole. Where the player accepts what it is given and the clock does not go back: it is given exactly the
    decodable ones among the video frames seen, every decoder instance is well fed, and a thread that ends
    without a failure and without being stopped has seen everything that was written. -/
theorem decoder_gets_what_was_written {start : UInt64} {packets : List WirePacket} {rest : List UInt8}
    {turns : List SftTurn} {c after : SftConnection} {w : SftThread} (behind : NoPacket rest)
    (stream : c.stream = packets.flatMap WirePacket.wire ++ rest)
    (room : sftMaxPayload ≤ c.read.payload.length)
    (accepting : ∀ t ∈ turns, t.answers.Accepting)
    (clock : (turns.map fun t => t.answers.now).Pairwise (· ≤ ·))
    (loop : sftStreamLoop turns (sftThreadStart start) c = .ok (w, after)) :
    ∃ seen frames, seen <+: packets ∧
      frames.map (fun t : VideoTurn => (t.header, t.payload, t.key)) = videoFrames seen ∧
      frames.flatMap VideoTurn.calls = w.calls ∧
      (∀ k t, frames[k]? = some t →
        (t.submitted = true ↔ t.key = true ∨
          (0 < k ∧ ∃ p, frames[k - 1]? = some p ∧ p.submitted = true ∧ Continues p.header t.header))) ∧
      (∀ t ∈ frames, t.Whole) ∧
      (framesOf (decodersOf frames)).map (fun f => (f.header, f.key, f.data))
        = ((frames.filter VideoTurn.submitted).map fun t => (t.header, t.key, t.payload)) ∧
      (∀ d ∈ decodersOf frames, d.WellFed) ∧
      ((∀ t ∈ turns, t.running = true ∧ t.runningAfter = true) →
        (∀ tick ∈ c.ticks, tick.running = true) → w.failed = false → seen = packets ∧ rest = []) := by
  rcases sftStreamLoop_watches behind (v := ⟨sftThreadStart start, []⟩) stream room rfl rfl loop with
    ⟨arrivals, seen, left_, failed, front, each, answers, isLast, complete⟩
  have valid := valid_of_arrivals each
  have accepts : ∀ a ∈ arrivals, a.answers.Accepting := by
    intro a member
    rcases List.mem_map.mp (answers.subset (List.mem_map_of_mem member)) with ⟨t, inTurns, same⟩
    rw [← same]
    exact accepting t inTurns
  have times : (arrivals.map fun a => a.answers.now) <+: turns.map fun t => t.answers.now := by
    have mapped := answers.map SftAnswers.now
    rwa [List.map_map, List.map_map] at mapped
  have clock' : ((0 : UInt64) :: arrivals.map fun a => a.answers.now).Pairwise (· ≤ ·) :=
    List.pairwise_cons.mpr ⟨fun _ _ => UInt64.zero_le, clock.sublist times.sublist⟩
  rcases foldl_watch (sound_start start) valid accepts clock' with ⟨⟨now, sound⟩, found⟩
  refine ⟨seen, (arrivals.foldl Viewing.watch ⟨sftThreadStart start, []⟩).turns, front, ?_, ?_,
    sound.decided, sound.whole, frames_of_whole sound.whole, sound.feeds.wellFed, fun runs ticks kept => ?_⟩
  · rw [found, videoFrames_of_arrivals each]
    rfl
  · rw [sound.calls, isLast]
  · have noFailure : failed = false := by
      rw [isLast] at kept
      exact kept
    rcases complete runs ticks noFailure with stopped | all
    · rw [sound.staying] at stopped
      cases stopped
    · exact all

end SysdvrWebos
