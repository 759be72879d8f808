/-
Module: SysdvrWebos.Proofs.StopOrFailure
Layer: Proofs
Purpose: Whether the return code of `sft_read_packet` tells a stop from a failure. The inner read returns 0
  both when it was stopped and when the peer closed before the first byte; behind the header that is
  handed on, but behind the payload every result other than the whole payload becomes -1. So a stop that
  is observed in the payload is reported as a transport error, and no other end is misreported.
Trusted boundary: none (fully proved)
Main exports: PacketEnd, packetEnd, headerTurns, payloadTurns, TellsStop, readExactLoop_ends,
  return_code_tells_stop_iff, payload_stop_is_reported_as_failure
Open obligations: none
-/
import SysdvrWebos.Proofs.SftFraming
import SysdvrWebos.Proofs.StallTimeout

namespace SysdvrWebos

/-! ### Why a packet read ends -/

/-- The ends of `sft_read_packet`, by the log line or the log line of the inner read. -/
inductive PacketEnd where
  | delivered
  | stopped
  | closedBefore
  | closedInside
  | malformed
  | aboveCapacity
  | selectFailed
  | recvFailed
  | stalled
deriving Repr, DecidableEq

/-- The ends the header of the function documents as malformed packet or transport error. -/
def PacketEnd.isFailure : PacketEnd → Bool
  | .delivered => false
  | .stopped => false
  | .closedBefore => false
  | .closedInside => true
  | .malformed => true
  | .aboveCapacity => true
  | .selectFailed => true
  | .recvFailed => true
  | .stalled => true

/-- The end of the packet read whose header or payload read ended in the given way; `begun` once a byte of
    the packet has arrived. -/
def ReadEnd.ofPacket (begun : Bool) : ReadEnd → PacketEnd
  | .complete => .delivered
  | .stopped => .stopped
  | .closed => if begun then .closedInside else .closedBefore
  | .selectFailed => .selectFailed
  | .recvFailed => .recvFailed
  | .stalled => .stalled

/-- Why `sft_read_packet` ends once the 32 header bytes are read. -/
def bodyEnd (payloadCapacity : Nat) (payload raw : List UInt8) (ticks : List Tick)
    (stream : List UInt8) : Except Halt PacketEnd :=
  let header := sftParseHeader raw
  if sftValidateHeader header ≠ 0 then
    .ok .malformed
  else if header.length.toNat > payloadCapacity then
    .ok .aboveCapacity
  else
    (readExactInterruptible false header.length.toNat payload ticks stream).map
      fun body => body.ending.ofPacket true

/-- Why `sft_read_packet` ends. -/
def packetEnd (payloadCapacity : Nat) (read : SftRead) (ticks : List Tick) (stream : List UInt8) :
    Except Halt PacketEnd := do
  let head ← readExactInterruptible true sftHeaderSize (List.replicate sftHeaderSize 0) ticks stream
  if head.ending = .complete then
    bodyEnd payloadCapacity read.payload head.state.buffer head.ticks head.state.stream
  else
    return head.ending.ofPacket (0 < head.state.done)

/-- The turns of the header read. -/
def headerTurns (ticks : List Tick) (stream : List UInt8) : List Visit :=
  visits true sftHeaderSize ticks ⟨stream, List.replicate sftHeaderSize 0, 0, 0⟩ none

/-- The turns of the payload read; none are taken if the header read ends unfinished, or if the header is
    malformed or announces more than the capacity. -/
def payloadTurns (payloadCapacity : Nat) (read : SftRead) (ticks : List Tick) (stream : List UInt8) :
    List Visit :=
  match readExactInterruptible true sftHeaderSize (List.replicate sftHeaderSize 0) ticks stream with
  | .error _ => []
  | .ok head =>
      let header := sftParseHeader head.state.buffer
      if head.ending ≠ .complete ∨ sftValidateHeader header ≠ 0 ∨
          header.length.toNat > payloadCapacity then
        []
      else
        visits false header.length.toNat head.ticks ⟨head.state.stream, read.payload, 0, 0⟩ none

/-- The return code as it is documented: a stop is 0, -1 is a failure, and 0 is a stop or the end of the
    stream before a packet. -/
structure TellsStop (rc : Int) (cause : PacketEnd) : Prop where
  stopped : cause = .stopped → rc = 0
  failure : rc = -1 → cause.isFailure = true
  ended : rc = 0 → cause = .stopped ∨ cause = .closedBefore

/-! ### The inner read -/

section

variable {idleAllowed : Bool} {size : Nat} {tick : Tick} {ticks : List Tick} {s : ReadState}

/-- A turn that ends the loop stores nothing and does not complete it, and it is stopped exactly if it finds
    the flag cleared. -/
theorem readTurn_leave {ending : ReadEnd} {last : ReadState}
    (turn : readTurn idleAllowed size tick s = .leave ending last) :
    ending ≠ .complete ∧ last.done = s.done ∧ (ending = .stopped ↔ tick.running = false) := by
  unfold readTurn at turn
  split at turn
  · next off =>
      cases turn
      exact ⟨nofun, rfl, by simpa using off⟩
  next on =>
  have on : tick.running = true := by simpa using on
  rw [on]
  dsimp only at turn
  split at turn
  · cases turn
    exact ⟨nofun, rfl, by simp⟩
  split at turn
  · cases turn
  · cases turn
    exact ⟨nofun, rfl, by simp⟩
  · cases turn
  · cases turn
  · cases turn
    exact ⟨nofun, rfl, by simp⟩
  · split at turn
    · cases turn
      exact ⟨nofun, rfl, by simp⟩
    · split at turn
      · cases turn
      · cases turn

/-- A turn that goes on does not receive more than was asked for. -/
theorem readTurn_again {next : ReadState} (unfinished : s.done < size)
    (turn : readTurn idleAllowed size tick s = .again next) : next.done ≤ size := by
  unfold readTurn at turn
  split at turn
  · cases turn
  dsimp only at turn
  split at turn
  · cases turn
  split at turn
  · cases turn
    exact Nat.le_of_lt unfinished
  · cases turn
  · cases turn
    exact Nat.le_of_lt unfinished
  · cases turn
    exact Nat.le_of_lt unfinished
  · cases turn
  · next more _ =>
      have short := length_receive s.stream more (size - s.done)
      split at turn
      · cases turn
      · split at turn
        · cases turn
        · cases turn
          change s.done + (receive s.stream more (size - s.done)).length ≤ size
          omega

theorem leaves_stopped_iff {v : Visit} : v.Leaves idleAllowed size .stopped ↔ v.tick.running = false := by
  constructor
  · rintro ⟨last, turn⟩
    exact (readTurn_leave turn).2.2.mp rfl
  · intro off
    exact ⟨v.state, by rw [readTurn, off]; rfl⟩

/-- The loop is stopped exactly if one of its turns finds the flag cleared. -/
theorem readExactLoop_stopped_iff {r : ReadExact}
    (read : readExactLoop idleAllowed size ticks s = .ok r) :
    r.ending = .stopped ↔
      ∃ v ∈ visits idleAllowed size ticks s none, v.tick.running = false := by
  rw [readExactLoop_leaves_iff (by decide) none read]
  simp only [leaves_stopped_iff]

/-- How the inner read ends: with all bytes, or short of them. -/
theorem readExactLoop_ends {r : ReadExact} (inside : s.done ≤ size)
    (read : readExactLoop idleAllowed size ticks s = .ok r) :
    r.ending = .complete ∧ r.state.done = size ∨ r.ending ≠ .complete ∧ r.state.done < size := by
  induction ticks generalizing s with
  | nil =>
      unfold readExactLoop at read
      split at read
      · cases read
      · next finished =>
          cases read
          exact Or.inl ⟨rfl, Nat.le_antisymm inside (Nat.not_lt.mp finished)⟩
  | cons tick ticks ih =>
      unfold readExactLoop at read
      split at read
      · next unfinished =>
          cases turn : readTurn idleAllowed size tick s with
          | again next =>
              rw [turn] at read
              exact ih (readTurn_again unfinished turn) read
          | leave ending last =>
              rw [turn] at read
              cases read
              rcases readTurn_leave turn with ⟨short, same, _⟩
              exact Or.inr ⟨short, same ▸ unfinished⟩
          | outOfBounds =>
              rw [turn] at read
              cases read
      · next finished =>
          cases read
          exact Or.inl ⟨rfl, Nat.le_antisymm inside (Nat.not_lt.mp finished)⟩

end

/-! ### The packet read -/

theorem TellsStop.of_end {cause : PacketEnd} (ended : cause = .stopped ∨ cause = .closedBefore) :
    TellsStop 0 cause where
  stopped := fun _ => rfl
  failure := fun zero => absurd zero (by decide)
  ended := fun _ => ended

theorem TellsStop.of_failure {cause : PacketEnd} (failure : cause.isFailure = true) :
    TellsStop (-1) cause where
  stopped := by
    intro stop
    rw [stop] at failure
    cases failure
  failure := fun _ => failure
  ended := fun zero => absurd zero (by decide)

/-- In the header read the result of the inner read is the documented code of its end. -/
theorem headerEnd_tellsStop {r : ReadExact} (short : r.ending ≠ .complete) :
    r.got ≤ 0 ∧ TellsStop r.got (r.ending.ofPacket (0 < r.state.done)) := by
  cases ending : r.ending with
  | complete => exact absurd ending short
  | stopped =>
      simp only [ReadExact.got, ending]
      exact ⟨Int.le_refl 0, .of_end (Or.inl rfl)⟩
  | closed =>
      simp only [ReadExact.got, ending]
      by_cases begun : r.state.done = 0
      · simp only [begun, if_true]
        exact ⟨Int.le_refl 0, .of_end (Or.inr rfl)⟩
      · rw [if_neg begun]
        have inside : ReadEnd.closed.ofPacket (0 < r.state.done) = .closedInside := by
          simp [ReadEnd.ofPacket, Nat.pos_of_ne_zero begun]
        rw [inside]
        exact ⟨by decide, .of_failure rfl⟩
  | selectFailed =>
      simp only [ReadExact.got, ending]
      exact ⟨by decide, .of_failure rfl⟩
  | recvFailed =>
      simp only [ReadExact.got, ending]
      exact ⟨by decide, .of_failure rfl⟩
  | stalled =>
      simp only [ReadExact.got, ending]
      exact ⟨by decide, .of_failure rfl⟩

/-- The inner read of a payload falls short of the length exactly if it does not complete. -/
theorem got_eq_size_iff {r : ReadExact} {size : Nat}
    (ends : r.ending = .complete ∧ r.state.done = size ∨ r.ending ≠ .complete ∧ r.state.done < size) :
    r.got = size ↔ r.ending = .complete := by
  rcases ends with ⟨complete, all⟩ | ⟨short, less⟩
  · simp [ReadExact.got, complete, all]
  · have positive : (0 : Int) < size := by omega
    have few : r.got ≤ 0 := (headerEnd_tellsStop short).1
    simp only [short, iff_false]
    omega

/-- Behind the payload -1 is the documented code of every unfinished end but the stop. -/
theorem payloadEnd_tellsStop_iff {ending : ReadEnd} (short : ending ≠ .complete) :
    TellsStop (-1) (ending.ofPacket true) ↔ ending ≠ .stopped := by
  constructor
  · intro tells stopped
    subst stopped
    cases tells.failure rfl
  · intro other
    cases ending with
    | complete => exact absurd rfl short
    | stopped => exact absurd rfl other
    | closed => exact .of_failure rfl
    | selectFailed => exact .of_failure rfl
    | recvFailed => exact .of_failure rfl
    | stalled => exact .of_failure rfl

/-- Every turn finds the flag set unless one finds it cleared. -/
theorem all_running_iff {turns : List Visit} :
    (∀ v ∈ turns, v.tick.running = true) ↔ ¬ ∃ v ∈ turns, v.tick.running = false := by
  simp

/-- What the packet read hands back once the header is there. -/
theorem sftReadBody_tellsStop {capacity : Nat} {read : SftRead} {raw : List UInt8} {ticks : List Tick}
    {stream : List UInt8} {r : SftReadResult}
    (reads : sftReadBody capacity read raw ticks stream = .ok r) :
    let header := sftParseHeader raw
    let turns := if sftValidateHeader header ≠ 0 ∨ header.length.toNat > capacity then []
      else visits false header.length.toNat ticks ⟨stream, read.payload, 0, 0⟩ none
    ∃ cause, bodyEnd capacity read.payload raw ticks stream = .ok cause ∧
      (cause = .stopped ↔ ∃ v ∈ turns, v.tick.running = false) ∧
      (TellsStop r.rc cause ↔ ∀ v ∈ turns, v.tick.running = true) := by
  intro header turns
  unfold sftReadBody at reads
  unfold bodyEnd
  by_cases malformed : sftValidateHeader header ≠ 0
  · have none_ : turns = [] := if_pos (Or.inl malformed)
    rw [if_pos malformed] at reads ⊢
    cases reads
    refine ⟨_, rfl, by simp [none_], ?_⟩
    simp only [none_, List.not_mem_nil, false_imp_iff, implies_true, iff_true]
    exact .of_failure rfl
  rw [if_neg malformed] at reads ⊢
  by_cases above : header.length.toNat > capacity
  · have none_ : turns = [] := if_pos (Or.inr above)
    rw [if_pos above] at reads ⊢
    cases reads
    refine ⟨_, rfl, by simp [none_], ?_⟩
    simp only [none_, List.not_mem_nil, false_imp_iff, implies_true, iff_true]
    exact .of_failure rfl
  rw [if_neg above] at reads ⊢
  have taken : turns = visits false header.length.toNat ticks ⟨stream, read.payload, 0, 0⟩ none :=
    if_neg (by rw [not_or]; exact ⟨malformed, above⟩)
  change (readExactInterruptible false header.length.toNat read.payload ticks stream >>= _) = _ at reads
  cases loop : readExactInterruptible false header.length.toNat read.payload ticks stream with
  | error halt =>
      rw [loop] at reads
      cases reads
  | ok body =>
      have stopped := readExactLoop_stopped_iff loop
      have ends := readExactLoop_ends (Nat.zero_le _) loop
      rw [← taken] at stopped
      rw [loop] at reads
      change (if body.got ≠ header.length.toNat then _ else _) = _ at reads
      refine ⟨body.ending.ofPacket true, rfl, ?_, ?_⟩
      · rw [← stopped]
        cases body.ending <;> simp [ReadEnd.ofPacket]
      · rw [all_running_iff, ← stopped]
        by_cases complete : body.ending = .complete
        · rw [if_neg (not_not.mpr ((got_eq_size_iff ends).mpr complete))] at reads
          cases reads
          simp only [complete, ReadEnd.ofPacket, reduceCtorEq, not_false_eq_true, iff_true]
          exact ⟨nofun, nofun, nofun⟩
        · rw [if_pos (mt (got_eq_size_iff ends).mp complete)] at reads
          cases reads
          exact payloadEnd_tellsStop_iff complete

/-- A packet read that ends ends for one reason; the reason is a stop exactly if a turn of either phase
    found the flag cleared, and the return code is the documented one exactly if no turn of the payload
    did. -/
theorem return_code_tells_stop_iff (capacity : Nat) (read : SftRead) (ticks : List Tick)
    (stream : List UInt8) (r : SftReadResult) (reads : sftReadPacket capacity read ticks stream = .ok r) :
    ∃ cause, packetEnd capacity read ticks stream = .ok cause ∧
      (cause = .stopped ↔ ∃ v ∈ headerTurns ticks stream ++ payloadTurns capacity read ticks stream,
        v.tick.running = false) ∧
      (TellsStop r.rc cause ↔ ∀ v ∈ payloadTurns capacity read ticks stream, v.tick.running = true) := by
  unfold sftReadPacket at reads
  unfold packetEnd payloadTurns
  cases loop : readExactInterruptible true sftHeaderSize (List.replicate sftHeaderSize 0) ticks stream with
  | error halt =>
      rw [loop] at reads
      cases reads
  | ok head =>
      have stopped := readExactLoop_stopped_iff loop
      change _ ↔ ∃ v ∈ headerTurns ticks stream, v.tick.running = false at stopped
      have ends := readExactLoop_ends (Nat.zero_le sftHeaderSize) loop
      rw [loop] at reads
      change (if head.got ≤ 0 then _ else _) = _ at reads
      simp only [List.mem_append, or_and_right, exists_or, ← stopped]
      by_cases complete : head.ending = .complete
      · have all : head.got = sftHeaderSize := (got_eq_size_iff ends).mpr complete
        rw [if_neg (by rw [all]; decide)] at reads
        rcases sftReadBody_tellsStop reads with ⟨cause, ended, stops, tells⟩
        simp only [complete, ne_eq, not_true_eq_false, false_or, reduceCtorEq]
        exact ⟨cause, (if_pos complete).trans ended, stops, tells⟩
      · rcases headerEnd_tellsStop complete with ⟨short, tells⟩
        rw [if_pos short] at reads
        cases reads
        have none_ : (head.ending ≠ .complete ∨ sftValidateHeader (sftParseHeader head.state.buffer) ≠ 0 ∨
            (sftParseHeader head.state.buffer).length.toNat > capacity) := Or.inl complete
        refine ⟨head.ending.ofPacket (0 < head.state.done), if_neg complete, ?_, ?_⟩
        · simp only [if_pos none_, List.not_mem_nil, false_and, exists_false, or_false]
          cases head.ending with
          | closed =>
              simp only [ReadEnd.ofPacket]
              split <;> simp
          | complete => simp [ReadEnd.ofPacket]
          | stopped => simp [ReadEnd.ofPacket]
          | stalled => simp [ReadEnd.ofPacket]
          | selectFailed => simp [ReadEnd.ofPacket]
          | recvFailed => simp [ReadEnd.ofPacket]
        · simp only [if_pos none_, List.not_mem_nil, false_imp_iff, implies_true, iff_true]
          exact tells

/-- The header of `firstKeyFrame` arrives but for its last byte, and then the worker is stopped. -/
def stopInHeader : List Tick := [⟨true, 0, 0, .ready (.bytes 30), 0⟩, ⟨false, 0, 0, .idle, 0⟩]

/-- The header of `firstKeyFrame` arrives, and then the worker is stopped. -/
def stopBehindHeader : List Tick := [⟨true, 0, 0, .ready (.bytes 31), 0⟩, ⟨false, 0, 0, .idle, 0⟩]

/-- The variables of a caller with room for 16 bytes. -/
def emptyRead : SftRead := ⟨sftParseHeader [], List.replicate 16 0, 0⟩

theorem header_stop_is_told :
    ∃ r cause, sftReadPacket 16 emptyRead stopInHeader firstKeyFrame.wire = .ok r ∧
      packetEnd 16 emptyRead stopInHeader firstKeyFrame.wire = .ok cause ∧ TellsStop r.rc cause := by
  have returns : (sftReadPacket 16 emptyRead stopInHeader firstKeyFrame.wire).toOption.isSome = true := by
    decide
  have noPayload : payloadTurns 16 emptyRead stopInHeader firstKeyFrame.wire = [] := rfl
  cases reads : sftReadPacket 16 emptyRead stopInHeader firstKeyFrame.wire with
  | error halt =>
      rw [reads] at returns
      cases returns
  | ok r =>
      rcases return_code_tells_stop_iff 16 _ _ _ r reads with ⟨cause, ends, _, tells⟩
      rw [noPayload] at tells
      exact ⟨r, cause, rfl, ends, tells.mpr nofun⟩

/-- A stop that is observed in the payload is returned as -1. -/
theorem payload_stop_is_reported_as_failure :
    ¬ ∀ capacity read ticks stream r cause, sftReadPacket capacity read ticks stream = .ok r →
      packetEnd capacity read ticks stream = .ok cause → TellsStop r.rc cause := by
  intro always
  have fails : (sftReadPacket 16 emptyRead stopBehindHeader firstKeyFrame.wire).toOption.map (·.rc)
      = some (-1) := by decide
  have ends : packetEnd 16 emptyRead stopBehindHeader firstKeyFrame.wire = .ok .stopped := by decide
  cases reads : sftReadPacket 16 emptyRead stopBehindHeader firstKeyFrame.wire with
  | error halt =>
      rw [reads] at fails
      cases fails
  | ok r =>
      rw [reads] at fails
      have failure : r.rc = -1 := Option.some.inj fails
      have stopped := (always _ _ _ _ r .stopped reads ends).stopped rfl
      rw [failure] at stopped
      cases stopped

end SysdvrWebos
