/-
Module: SysdvrWebos.Proofs.SftFraming
Layer: Proofs
Purpose: Reading back what was written: whatever way the bytes of a list of packets are cut into `recv`
  results, interleaved with idle waits and interrupted calls, the packet reads return exactly those
  packets, and the end of the stream is told apart by where it falls.
Trusted boundary: none (fully proved)
Main exports: WirePacket, ReceivedAs, Delivery, readTurn_delivery, readExactLoop_fills, sftReadPacket_packet,
  sft_framing_round_trip
Open obligations: none
-/
import SysdvrWebos.Core.SftTransport
import SysdvrWebos.Lib.FairSchedule
import SysdvrWebos.Proofs.HeaderGrammar

namespace SysdvrWebos

/-- A packet as it is written: a valid header and a payload of the announced length. -/
structure WirePacket where
  raw : RawHeader
  payload : List UInt8
  valid : sftValidateHeader (sftParseHeader raw.val) = 0
  announced : payload.length = (sftParseHeader raw.val).length.toNat

/-- The bytes of a packet. -/
def WirePacket.wire (packet : WirePacket) : List UInt8 := packet.raw.val ++ packet.payload

/-- A packet was received: every header field is the little-endian field of the wire, the payload is its
    payload, and exactly its bytes were consumed. -/
structure ReceivedAs (packet : WirePacket) (reception : Reception) : Prop where
  rc : reception.rc = 1
  magic : reception.header.magic.toNat = wireField packet.raw.val 0 4
  version : reception.header.version.toNat = wireField packet.raw.val 4 2
  flags : reception.header.flags.toNat = packetFlags packet.raw.val
  rawFlags : reception.header.rawFlags.toNat = wireField packet.raw.val 6 2
  width : reception.header.width.toNat = wireField packet.raw.val 8 4
  height : reception.header.height.toNat = wireField packet.raw.val 12 4
  consoleAgeUs : reception.header.consoleAgeUs.toNat = wireField packet.raw.val 16 4
  length : reception.header.length.toNat = wireField packet.raw.val 20 4
  blockHeightLog2 : reception.header.blockHeightLog2.toNat = wireField packet.raw.val 24 4
  sequence : reception.header.sequence.toNat = wireField packet.raw.val 28 4
  payload : reception.payload = packet.payload
  consumed : reception.consumed = sftHeaderSize + packet.payload.length

/-! ### Schedules -/

/-- The turn hands over bytes, or the end of the stream. -/
def Tick.delivers (tick : Tick) : Bool :=
  match tick.wait with
  | .ready (.bytes _) => true
  | _ => false

/-- How many turns of a schedule deliver. A read takes only the turns it needs, so a schedule may go on
    for as long as one likes. -/
def deliveries (ticks : List Tick) : Nat := ticks.countP Tick.delivers

/-- The stream goes on: the worker is not stopped and neither `select` nor `recv` fails. -/
def Tick.Live (tick : Tick) : Prop :=
  tick.running = true ∧ tick.wait ≠ .failed ∧ tick.wait ≠ .ready .failed

/-- The clock does not run backwards, and whenever it is compared with the deadline the last delivery,
    if there was one, is less than 3 s ago. -/
def Prompt : (last : Option Nat) → (now : Nat) → List Tick → Prop
  | _, _, [] => True
  | last, now, tick :: ticks =>
      now ≤ tick.armClock ∧ tick.armClock ≤ tick.checkClock ∧ tick.checkClock ≤ tick.progressClock ∧
      (∀ t ∈ last, tick.checkClock < t + stallLimitUs) ∧
      Prompt (if tick.delivers then some tick.progressClock else last) tick.progressClock ticks

/-- A clock that stands still is prompt. -/
theorem prompt_of_still_clock {ticks : List Tick}
    (still : ∀ tick ∈ ticks, tick.armClock = 0 ∧ tick.checkClock = 0 ∧ tick.progressClock = 0) :
    ∀ {last : Option Nat}, Prompt last 0 ticks := by
  induction ticks with
  | nil => exact fun {_} => trivial
  | cons tick ticks ih =>
      intro last
      obtain ⟨arm, check, progress⟩ := still tick List.mem_cons_self
      refine ⟨Nat.zero_le _, by omega, by omega, fun t _ => ?_, ?_⟩
      · rw [check, stallLimitUs]
        omega
      · rw [progress]
        exact ih fun later member => still later (List.mem_cons_of_mem _ member)

/-- The rest of a schedule under which the stream goes on and delivers more than `bytes` times. -/
structure Delivery (last : Option Nat) (now bytes : Nat) (ticks : List Tick) : Prop where
  live : ∀ tick ∈ ticks, tick.Live
  prompt : Prompt last now ticks
  past : ∀ t ∈ last, t ≤ now
  enough : bytes < deliveries ticks

theorem Delivery.head {last : Option Nat} {now bytes : Nat} {tick : Tick} {ticks : List Tick}
    (schedule : Delivery last now bytes (tick :: ticks)) : tick.Live :=
  schedule.live tick List.mem_cons_self

/-- A turn without a delivery leaves the rest of the schedule as good as it was. -/
theorem Delivery.tail_idle {last : Option Nat} {now bytes : Nat} {tick : Tick} {ticks : List Tick}
    (schedule : Delivery last now bytes (tick :: ticks)) (idle : tick.delivers = false) :
    Delivery last tick.progressClock bytes ticks := by
  obtain ⟨arm, check, progress, -, rest⟩ := schedule.prompt
  refine ⟨fun t member => schedule.live t (List.mem_cons_of_mem _ member), ?_, ?_, ?_⟩
  · simpa [idle] using rest
  · intro t isLast
    have := schedule.past t isLast
    omega
  · have enough := schedule.enough
    rwa [deliveries, List.countP_cons_of_neg (by simp [idle])] at enough

/-- A turn that delivers `count` bytes makes itself the last delivery. -/
theorem Delivery.tail_delivered {last : Option Nat} {now bytes count : Nat} {tick : Tick}
    {ticks : List Tick} (schedule : Delivery last now bytes (tick :: ticks))
    (delivers : tick.delivers = true) (some_bytes : 0 < count) (covered : count ≤ bytes) :
    Delivery (some tick.progressClock) tick.progressClock (bytes - count) ticks := by
  obtain ⟨arm, check, progress, -, rest⟩ := schedule.prompt
  refine ⟨fun t member => schedule.live t (List.mem_cons_of_mem _ member), ?_, ?_, ?_⟩
  · simpa [delivers] using rest
  · intro t isLast
    rw [Option.mem_some.mp isLast]
  · have enough := schedule.enough
    rw [deliveries, List.countP_cons_of_pos (by simp [delivers])] at enough
    unfold deliveries
    omega

/-! ### One read -/

/-- What the loop knows about its deadline: it is not armed, or it lies at least 3 s after the last
    delivery; and where it applies there was a delivery. -/
structure DeadlineKept (idleAllowed : Bool) (last : Option Nat) (s : ReadState) : Prop where
  armed : s.deadline = 0 ∨ ∃ t ∈ last, t + stallLimitUs ≤ s.deadline
  started : s.timed idleAllowed = true → last.isSome = true

/-- Under a prompt clock the deadline is ahead, so no turn stalls. -/
theorem not_stalled {idleAllowed : Bool} {last : Option Nat} {now bytes : Nat} {tick : Tick}
    {ticks : List Tick} {s : ReadState} (schedule : Delivery last now bytes (tick :: ticks))
    (kept : DeadlineKept idleAllowed last s) :
    (s.timed idleAllowed && s.armed idleAllowed tick ≤ tick.checkClock) = false ∧
      DeadlineKept idleAllowed last { s with deadline := s.armed idleAllowed tick } := by
  obtain ⟨arm, check, -, gap, -⟩ := schedule.prompt
  cases timed : s.timed idleAllowed with
  | false =>
      have unchanged : s.armed idleAllowed tick = s.deadline := by simp [ReadState.armed, timed]
      rw [unchanged]
      exact ⟨rfl, kept⟩
  | true =>
      obtain ⟨t, isLast⟩ := Option.isSome_iff_exists.mp (kept.started timed)
      have lastPast := schedule.past t isLast
      have lastGap := gap t isLast
      have ahead : t + stallLimitUs ≤ s.armed idleAllowed tick := by
        unfold ReadState.armed
        split
        · omega
        · next armedBefore =>
            rcases kept.armed with unarmed | ⟨t', isLast', later⟩
            · exact absurd (by simp [timed, unarmed]) armedBefore
            · cases isLast.symm.trans isLast'
              exact later
      refine ⟨?_, Or.inr ⟨t, isLast, ahead⟩, fun _ => by simp [isLast]⟩
      simp only [Bool.true_and, decide_eq_false_iff_not]
      omega

/-- From `s` to `next` a segment went from the stream to the front part of the buffer. -/
structure Moved (size : Nat) (s next : ReadState) (segment : List UInt8) : Prop where
  stream : s.stream = segment ++ next.stream
  done : next.done = s.done + segment.length
  inside : next.done ≤ size
  buffer : next.buffer.take next.done = s.buffer.take s.done ++ segment
  capacity : next.buffer.length = s.buffer.length

/-- One turn under a good schedule moves a segment, possibly none, or meets the end of the stream. -/
theorem readTurn_delivery {idleAllowed : Bool} {size : Nat} {last : Option Nat} {now : Nat}
    {tick : Tick} {ticks : List Tick} {s : ReadState}
    (schedule : Delivery last now s.stream.length (tick :: ticks))
    (kept : DeadlineKept idleAllowed last s) (unfinished : s.done < size)
    (room : size ≤ s.buffer.length) :
    (∃ next segment last', readTurn idleAllowed size tick s = .again next ∧
      Moved size s next segment ∧
      Delivery last' tick.progressClock next.stream.length ticks ∧
      DeadlineKept idleAllowed last' next) ∨
    (s.stream = [] ∧ ∃ next, readTurn idleAllowed size tick s = .leave .closed next ∧
      next.done = s.done) := by
  obtain ⟨running, selects, receives⟩ := schedule.head
  obtain ⟨ahead, waitingKept⟩ := not_stalled schedule kept
  unfold readTurn
  rw [if_neg (by simp [running]), if_neg (by simp only [ahead]; decide)]
  have waits : tick.delivers = false →
      ∃ next segment last', ReadTurn.again { s with deadline := s.armed idleAllowed tick }
          = .again next ∧ Moved size s next segment ∧
        Delivery last' tick.progressClock next.stream.length ticks ∧
        DeadlineKept idleAllowed last' next := by
    intro idle
    exact ⟨_, [], last, rfl, ⟨rfl, rfl, unfinished.le, by simp, rfl⟩, schedule.tail_idle idle,
      waitingKept⟩
  cases wait : tick.wait with
  | idle => exact Or.inl (waits (by simp [Tick.delivers, wait]))
  | failed => exact absurd wait selects
  | ready answer =>
      cases answer with
      | interrupted => exact Or.inl (waits (by simp [Tick.delivers, wait]))
      | wouldBlock => exact Or.inl (waits (by simp [Tick.delivers, wait]))
      | failed => exact absurd wait receives
      | bytes more =>
          have delivers : tick.delivers = true := by simp [Tick.delivers, wait]
          have asked : 0 < size - s.done := by omega
          by_cases atEnd : s.stream = []
          · refine Or.inr ⟨atEnd, { s with deadline := s.armed idleAllowed tick }, ?_, rfl⟩
            simp only [(receive_eq_nil_iff asked).mpr atEnd, reduceIte]
          · have received : receive s.stream more (size - s.done) ≠ [] :=
              fun empty => atEnd ((receive_eq_nil_iff asked).mp empty)
            have count := length_receive s.stream more (size - s.done)
            have split := receive_append_drop s.stream more (size - s.done)
            generalize isSegment : receive s.stream more (size - s.done) = segment at *
            have positive : 0 < segment.length := List.length_pos_iff.mpr received
            have fits : s.done + segment.length ≤ s.buffer.length := by omega
            obtain ⟨buffer, stored⟩ : ∃ buffer, Buffer.store s.buffer s.done segment = some buffer :=
              ⟨_, Buffer.store_of_fits fits⟩
            let next : ReadState :=
              ⟨s.stream.drop segment.length, buffer, s.done + segment.length,
                tick.progressClock + stallLimitUs⟩
            have inside : s.done + segment.length ≤ size := by omega
            refine Or.inl ⟨next, segment, some tick.progressClock, ?_,
              ⟨split.symm, rfl, inside, ?_, ?_⟩, ?_, ⟨Or.inr ⟨_, rfl, le_rfl⟩, fun _ => rfl⟩⟩
            · simp only [isSegment, if_neg received, stored, next]
            · exact Buffer.take_store stored
            · exact Buffer.length_store stored
            · rw [List.length_drop]
              exact schedule.tail_delivered delivers positive (by omega)

/-- A read that fills its buffer: what it took off the stream is what it put behind the bytes that were
    already there, and the schedule goes on. -/
structure Filled (idleAllowed : Bool) (size : Nat) (s : ReadState) (r : ReadExact)
    (last : Option Nat) (now : Nat) : Prop where
  ending : r.ending = .complete
  done : r.state.done = size
  stream : r.state.stream = s.stream.drop (size - s.done)
  buffer : r.state.buffer.take size = s.buffer.take s.done ++ s.stream.take (size - s.done)
  capacity : r.state.buffer.length = s.buffer.length
  schedule : Delivery last now r.state.stream.length r.ticks
  kept : DeadlineKept idleAllowed last r.state

theorem readExactLoop_fills {idleAllowed : Bool} {size : Nat} {ticks : List Tick} :
    ∀ {last : Option Nat} {now : Nat} {s : ReadState}, Delivery last now s.stream.length ticks →
      DeadlineKept idleAllowed last s → s.done ≤ size → size ≤ s.buffer.length →
      size - s.done ≤ s.stream.length →
      ∃ r last' now', readExactLoop idleAllowed size ticks s = .ok r ∧
        Filled idleAllowed size s r last' now' := by
  induction ticks with
  | nil =>
      intro last now s schedule
      have enough := schedule.enough
      simp [deliveries] at enough
  | cons tick ticks ih =>
      intro last now s schedule kept inside room available
      unfold readExactLoop
      by_cases unfinished : s.done < size
      case neg =>
        have full : s.done = size := by omega
        rw [if_neg unfinished]
        exact ⟨_, last, now, rfl, rfl, full, by simp [full], by simp [full], rfl, schedule, kept⟩
      rw [if_pos unfinished]
      rcases readTurn_delivery schedule kept unfinished room with
        ⟨next, segment, last', turn, moved, rest, nextKept⟩ | ⟨atEnd, -⟩
      case inr =>
        rw [atEnd, List.length_nil] at available
        omega
      have lengths : s.stream.length = segment.length + next.stream.length := by
        rw [moved.stream, List.length_append]
      have advanced := moved.done
      obtain ⟨r, last'', now'', loop, filled⟩ := ih rest nextKept moved.inside
        (room.trans_eq moved.capacity.symm) (by omega)
      have offset : size - s.done = segment.length + (size - next.done) := by
        have := moved.inside
        omega
      refine ⟨r, last'', now'', by rw [turn]; exact loop, filled.ending, filled.done, ?_, ?_,
        filled.capacity.trans moved.capacity, filled.schedule, filled.kept⟩
      · rw [filled.stream, moved.stream, offset, ← List.drop_drop, List.drop_left]
      · rw [filled.buffer, moved.buffer, moved.stream, offset, List.take_length_add_append,
          List.append_assoc]

/-- If the stream ends before the buffer is full, the read ends there. -/
theorem readExactLoop_closed {idleAllowed : Bool} {size : Nat} {ticks : List Tick} :
    ∀ {last : Option Nat} {now : Nat} {s : ReadState}, Delivery last now s.stream.length ticks →
      DeadlineKept idleAllowed last s → s.done ≤ size → size ≤ s.buffer.length →
      s.stream.length < size - s.done →
      ∃ r, readExactLoop idleAllowed size ticks s = .ok r ∧ r.ending = .closed ∧
        r.state.done = s.done + s.stream.length := by
  induction ticks with
  | nil =>
      intro last now s schedule
      have enough := schedule.enough
      simp [deliveries] at enough
  | cons tick ticks ih =>
      intro last now s schedule kept inside room missing
      have unfinished : s.done < size := by omega
      unfold readExactLoop
      rw [if_pos unfinished]
      rcases readTurn_delivery schedule kept unfinished room with
        ⟨next, segment, last', turn, moved, rest, nextKept⟩ | ⟨atEnd, next, turn, same⟩
      · have lengths : s.stream.length = segment.length + next.stream.length := by
          rw [moved.stream, List.length_append]
        have advanced := moved.done
        obtain ⟨r, loop, ending, done⟩ := ih rest nextKept moved.inside
          (room.trans_eq moved.capacity.symm) (by omega)
        exact ⟨r, by rw [turn]; exact loop, ending, by omega⟩
      · exact ⟨_, by rw [turn], rfl, by rw [atEnd]; exact same⟩

/-! ### One packet -/

/-- The header read may idle for as long as it likes before its first byte. -/
theorem header_deadlineKept (last : Option Nat) (stream buffer : List UInt8) :
    DeadlineKept true last ⟨stream, buffer, 0, 0⟩ :=
  ⟨Or.inl rfl, fun timed => by simp [ReadState.timed] at timed⟩

theorem payload_deadlineKept {last : Option Nat} (delivered : last.isSome = true)
    (stream buffer : List UInt8) : DeadlineKept false last ⟨stream, buffer, 0, 0⟩ :=
  ⟨Or.inl rfl, fun _ => delivered⟩

theorem Filled.got_eq {idleAllowed : Bool} {size now : Nat} {s : ReadState} {r : ReadExact}
    {last : Option Nat} (filled : Filled idleAllowed size s r last now) : r.got = size := by
  simp [ReadExact.got, filled.ending, filled.done]

/-- If a whole header is on the stream, the packet read goes on with its 32 bytes. -/
theorem sftReadPacket_header {last : Option Nat} {now : Nat} {ticks : List Tick}
    {raw rest : List UInt8} (long : raw.length = sftHeaderSize)
    (schedule : Delivery last now (raw ++ rest).length ticks) :
    ∃ ticks' last' now', (∀ capacity read, sftReadPacket capacity read ticks (raw ++ rest)
        = sftReadBody capacity read raw ticks' rest) ∧
      last'.isSome = true ∧ Delivery last' now' rest.length ticks' := by
  obtain ⟨r, last', now', loop, filled⟩ := readExactLoop_fills
    (s := ⟨raw ++ rest, List.replicate sftHeaderSize 0, 0, 0⟩) schedule (header_deadlineKept _ _ _)
    (Nat.zero_le sftHeaderSize) (by simp) (by simp [long])
  have whole : r.state.buffer.length = sftHeaderSize := by simp [filled.capacity]
  have buffer : r.state.buffer = raw := by
    have front := filled.buffer
    rwa [← whole, List.take_length, whole, Nat.sub_zero, List.take_zero, List.nil_append, ← long,
      List.take_left] at front
  have stream : r.state.stream = rest := by
    rw [filled.stream, Nat.sub_zero, ← long, List.drop_left]
  have notEmpty : ¬ r.got ≤ 0 := by
    rw [filled.got_eq]
    decide
  refine ⟨r.ticks, last', now', fun capacity read => ?_, filled.kept.started ?_,
    stream ▸ filled.schedule⟩
  · have unread : readExactInterruptible true sftHeaderSize (List.replicate sftHeaderSize 0) ticks
        (raw ++ rest) = .ok r := loop
    rw [← buffer, ← stream] at unread ⊢
    rw [sftReadPacket, unread]
    exact if_neg notEmpty
  · simp [ReadState.timed, filled.done, sftHeaderSize]

theorem sftReadBody_accepted {packet : WirePacket} {capacity : Nat}
    (fits : packet.payload.length ≤ capacity) (read : SftRead) (ticks : List Tick)
    (stream : List UInt8) :
    sftReadBody capacity read packet.raw.val ticks stream = do
      let body ← readExactInterruptible false packet.payload.length read.payload ticks stream
      if body.got ≠ packet.payload.length then
        return ⟨-1, { read with header := sftParseHeader packet.raw.val
                                payload := body.state.buffer }, body.ticks, body.state.stream⟩
      return ⟨1, ⟨sftParseHeader packet.raw.val, body.state.buffer, packet.payload.length⟩, body.ticks,
        body.state.stream⟩ := by
  have bounded : ¬ (sftParseHeader packet.raw.val).length.toNat > capacity := by
    rw [← packet.announced]
    omega
  rw [sftReadBody, if_neg (by simp [packet.valid]), if_neg bounded, ← packet.announced]

/-- A packet whose bytes lead the stream is received, and nothing behind it is touched. -/
theorem sftReadPacket_packet {packet : WirePacket} {rest : List UInt8} {capacity : Nat} {read : SftRead}
    {last : Option Nat} {now : Nat} {ticks : List Tick}
    (schedule : Delivery last now (packet.wire ++ rest).length ticks)
    (fits : packet.payload.length ≤ capacity) (room : capacity ≤ read.payload.length) :
    ∃ result last' now', sftReadPacket capacity read ticks (packet.wire ++ rest) = .ok result ∧
      ReceivedAs packet (result.reception (packet.wire ++ rest)) ∧ result.stream = rest ∧
      result.read.payload.length = read.payload.length ∧
      Delivery last' now' rest.length result.ticks := by
  have long : packet.raw.val.length = sftHeaderSize := packet.raw.property
  rw [WirePacket.wire, List.append_assoc] at schedule ⊢
  obtain ⟨ticks₁, last₁, now₁, head, delivered, schedule₁⟩ := sftReadPacket_header long schedule
  obtain ⟨body, last₂, now₂, loop, filled⟩ := readExactLoop_fills
    (s := ⟨packet.payload ++ rest, read.payload, 0, 0⟩) schedule₁ (payload_deadlineKept delivered _ _)
    (Nat.zero_le packet.payload.length) (fits.trans room) (by simp)
  have payload : body.state.buffer.take packet.payload.length = packet.payload := by
    simpa using filled.buffer
  have remaining : body.state.stream = rest := by
    simpa using filled.stream
  have readsAll : readExactInterruptible false packet.payload.length read.payload ticks₁
      (packet.payload ++ rest) = .ok body := loop
  refine ⟨⟨1, ⟨sftParseHeader packet.raw.val, body.state.buffer, packet.payload.length⟩, body.ticks,
    body.state.stream⟩, last₂, now₂, ?_, ?_, remaining, filled.capacity, ?_⟩
  · rw [head, sftReadBody_accepted fits, readsAll]
    exact if_neg (by simp [filled.got_eq])
  · obtain ⟨magic, version, flags, rawFlags, width, height, age, length, block, sequence⟩ :=
      sftParseHeader_fields packet.raw.property
    refine ⟨rfl, magic, version, flags, rawFlags, width, height, age, length, block, sequence,
      payload, ?_⟩
    simp only [SftReadResult.reception, remaining, List.length_append, long]
    omega
  · rw [← remaining]
    exact filled.schedule

/-- A stream that ends inside a packet: the read reports the end if no byte of the packet came, and an
    error otherwise. -/
theorem sftReadPacket_cut {packet : WirePacket} {cut missing : List UInt8} {capacity : Nat}
    {read : SftRead} {last : Option Nat} {now : Nat} {ticks : List Tick}
    (incomplete : cut ++ missing = packet.wire) (misses : missing ≠ [])
    (schedule : Delivery last now cut.length ticks)
    (fits : packet.payload.length ≤ capacity) (room : capacity ≤ read.payload.length) :
    ∃ result, sftReadPacket capacity read ticks cut = .ok result ∧
      result.rc = if cut = [] then 0 else -1 := by
  have long : packet.raw.val.length = sftHeaderSize := packet.raw.property
  have positive : 0 < missing.length := List.length_pos_iff.mpr misses
  by_cases inHeader : cut.length < sftHeaderSize
  · obtain ⟨r, loop, ending, done⟩ := readExactLoop_closed
      (s := ⟨cut, List.replicate sftHeaderSize 0, 0, 0⟩) schedule (header_deadlineKept _ _ _)
      (Nat.zero_le sftHeaderSize) (by simp) (by simpa using inHeader)
    have got : r.got = if cut = [] then 0 else -1 := by
      simp [ReadExact.got, ending, done]
    have unread : readExactInterruptible true sftHeaderSize (List.replicate sftHeaderSize 0) ticks
        cut = .ok r := loop
    refine ⟨⟨r.got, read, r.ticks, r.state.stream⟩, ?_, got⟩
    rw [sftReadPacket, unread]
    exact if_pos (by rw [got]; split <;> decide)
  · have begun : cut ≠ [] := by
      rintro rfl
      exact inHeader (by decide)
    obtain ⟨part, rfl⟩ : ∃ part, cut = packet.raw.val ++ part := by
      refine ⟨cut.drop sftHeaderSize, ?_⟩
      have front : cut.take sftHeaderSize = packet.raw.val := by
        have extended : (cut ++ missing).take sftHeaderSize = cut.take sftHeaderSize :=
          List.take_append_of_le_length (by omega)
        rw [← extended, incomplete, WirePacket.wire, ← long, List.take_left]
      rw [← front, List.take_append_drop]
    have rejoined : part ++ missing = packet.payload := by
      rw [WirePacket.wire, List.append_assoc] at incomplete
      exact List.append_cancel_left incomplete
    have short : part.length < packet.payload.length := by
      rw [← rejoined, List.length_append]
      omega
    obtain ⟨ticks₁, last₁, now₁, head, delivered, schedule₁⟩ := sftReadPacket_header long schedule
    obtain ⟨body, loop, ending, done⟩ := readExactLoop_closed (s := ⟨part, read.payload, 0, 0⟩) schedule₁
      (payload_deadlineKept delivered _ _) (Nat.zero_le packet.payload.length) (fits.trans room)
      (by simpa using short)
    have unread : readExactInterruptible false packet.payload.length read.payload ticks₁ part
        = .ok body := loop
    have got : body.got ≤ 0 := by
      simp only [ReadExact.got, ending]
      split <;> decide
    have incompleteBody : body.got ≠ packet.payload.length := by omega
    rw [if_neg begun, head, sftReadBody_accepted fits, unread]
    exact ⟨_, if_pos incompleteBody, rfl⟩

/-! ### The stream -/

/-- The calls that read a list of packets return them one by one. -/
theorem sftReadPackets_packets {capacity : Nat} {cut : List UInt8} {packets : List WirePacket}
    (fit : ∀ packet ∈ packets, packet.payload.length ≤ capacity) :
    ∀ {last : Option Nat} {now : Nat} {ticks : List Tick} {read : SftRead},
      Delivery last now (packets.flatMap WirePacket.wire ++ cut).length ticks →
      capacity ≤ read.payload.length →
      ∃ receptions read' ticks' last' now',
        sftReadPackets capacity packets.length read ticks (packets.flatMap WirePacket.wire ++ cut)
          = .ok (receptions, read', ticks', cut) ∧
        List.Forall₂ ReceivedAs packets receptions ∧
        read'.payload.length = read.payload.length ∧ Delivery last' now' cut.length ticks' := by
  induction packets with
  | nil =>
      intro last now ticks read schedule room
      exact ⟨[], read, ticks, last, now, rfl, List.Forall₂.nil, rfl, schedule⟩
  | cons packet packets ih =>
      intro last now ticks read schedule room
      rw [List.flatMap_cons, List.append_assoc] at schedule ⊢
      obtain ⟨result, last₁, now₁, first, received, remaining, capacity₁, schedule₁⟩ :=
        sftReadPacket_packet schedule (fit packet List.mem_cons_self) room
      obtain ⟨receptions, read₂, ticks₂, last₂, now₂, others, receivedAll, capacity₂, schedule₂⟩ :=
        ih (fun p member => fit p (List.mem_cons_of_mem _ member)) schedule₁ (room.trans_eq capacity₁.symm)
      refine ⟨result.reception _ :: receptions, read₂, ticks₂, last₂, now₂, ?_,
        List.Forall₂.cons received receivedAll, capacity₂.trans capacity₁, schedule₂⟩
      rw [List.length_cons, sftReadPackets, first]
      simp only [bind, Except.bind, remaining, others]
      rfl

theorem WirePacket.payload_le (packet : WirePacket) : packet.payload.length ≤ sftMaxPayload := by
  obtain ⟨-, -, -, -, fits⟩ := accepted_class packet.valid
  rw [packet.announced]
  exact fits

/-- For every list of packets, every cut-off part of a further one, every schedule of idle waits,
    interrupted calls and deliveries of any sizes, and every clock that never sees 3 s without a delivery:
    the packet reads return the packets in order and use up exactly their bytes, and once the peer closes
    the next read returns 0 at a packet boundary and -1 elsewhere. -/
theorem sft_framing_round_trip (packets : List WirePacket) (next : WirePacket)
    (cut missing : List UInt8) (read : SftRead) (schedule : Nat → Tick)
    (incomplete : cut ++ missing = next.wire) (misses : missing ≠ [])
    (room : read.payload.length = sftMaxPayload)
    (live : ∀ k, (schedule k).Live)
    (prompt : ∀ turns, Prompt none 0 ((List.range turns).map schedule))
    (fair : ∀ k, ∃ later, k ≤ later ∧ (schedule later).delivers = true) :
    ∃ enough, ∀ turns, enough ≤ turns → ∃ receptions read' ticks' last,
      sftReadPackets sftMaxPayload packets.length read ((List.range turns).map schedule)
          (packets.flatMap WirePacket.wire ++ cut) = .ok (receptions, read', ticks', cut) ∧
      List.Forall₂ ReceivedAs packets receptions ∧
      sftReadPacket sftMaxPayload read' ticks' cut = .ok last ∧
      last.rc = if cut = [] then 0 else -1 := by
  obtain ⟨enough, delivered⟩ :=
    FairSchedule.exists_many fair (packets.flatMap WirePacket.wire ++ cut).length
  refine ⟨enough, fun turns later => ?_⟩
  have liveTurns : ∀ tick ∈ (List.range turns).map schedule, tick.Live := by
    intro tick member
    obtain ⟨k, -, rfl⟩ := List.mem_map.mp member
    exact live k
  obtain ⟨receptions, read', ticks', last', now', reads, received, capacity, rest⟩ :=
    sftReadPackets_packets (fun packet _ => packet.payload_le)
      ⟨liveTurns, prompt turns, by simp, delivered turns later⟩ room.ge
  have roomLeft : sftMaxPayload ≤ read'.payload.length := by omega
  obtain ⟨last, lastRead, rc⟩ := sftReadPacket_cut incomplete misses rest next.payload_le roomLeft
  exact ⟨receptions, read', ticks', last, reads, received, lastRead, rc⟩

/-- A status packet of eight bytes. -/
def pausedStatus : WirePacket where
  raw := ⟨[0x53, 0x46, 0x54, 0x52, 2, 0, 0x18, 0, 0, 0, 0, 0, 0, 0, 0, 0, 0, 0, 0, 0, 8, 0, 0, 0,
    0, 0, 0, 0, 1, 0, 0, 0], rfl⟩
  payload := [2, 0, 0, 0, 0, 0, 0, 0]
  valid := by decide
  announced := by decide

/-- A 1280x720 key frame of five bytes. -/
def firstKeyFrame : WirePacket where
  raw := ⟨[0x53, 0x46, 0x54, 0x52, 2, 0, 0x86, 0, 0x00, 0x05, 0, 0, 0xD0, 0x02, 0, 0, 1, 2, 0, 0,
    5, 0, 0, 0, 4, 0, 0, 0, 9, 0, 0, 0], rfl⟩
  payload := [0, 0, 1, 0x65, 0x88]
  valid := by decide
  announced := by decide

/-- Both packets and the first 35 bytes of a third, at most seven bytes at a time with idle and
    interrupted waits in between. -/
theorem sevenByteSegments_round_trip :
    ∃ enough, ∀ turns, enough ≤ turns → ∃ receptions read' ticks' last,
      sftReadPackets sftMaxPayload 2
          ⟨sftParseHeader [], List.replicate sftMaxPayload 0, 0⟩
          ((List.range turns).map fun k => ⟨true, 0, 0,
            if k % 3 = 0 then .idle else if k % 3 = 1 then .ready .interrupted else .ready (.bytes 6),
            0⟩)
          ([pausedStatus, firstKeyFrame].flatMap WirePacket.wire ++ firstKeyFrame.wire.take 35)
        = .ok (receptions, read', ticks', firstKeyFrame.wire.take 35) ∧
      List.Forall₂ ReceivedAs [pausedStatus, firstKeyFrame] receptions ∧
      sftReadPacket sftMaxPayload read' ticks' (firstKeyFrame.wire.take 35) = .ok last ∧
      last.rc = if firstKeyFrame.wire.take 35 = [] then 0 else -1 := by
  refine sft_framing_round_trip [pausedStatus, firstKeyFrame] firstKeyFrame
    (firstKeyFrame.wire.take 35) (firstKeyFrame.wire.drop 35) _ _ (List.take_append_drop _ _)
    (by decide) List.length_replicate (fun k => ⟨rfl, ?_, ?_⟩) (fun turns => ?_) (fun k => ?_)
  · split <;> [simp; (split <;> simp)]
  · split <;> [simp; (split <;> simp)]
  · refine prompt_of_still_clock fun tick member => ?_
    obtain ⟨k, -, rfl⟩ := List.mem_map.mp member
    exact ⟨rfl, rfl, rfl⟩
  · refine ⟨3 * k + 2, by omega, ?_⟩
    simp [Tick.delivers, Nat.add_mod]

end SysdvrWebos
