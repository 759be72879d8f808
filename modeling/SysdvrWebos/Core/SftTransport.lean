/-
Module: SysdvrWebos.Core.SftTransport
Layer: Core
Purpose: Reading SFTR packets off a socket: the interruptible exact read with its stall deadline and the
  packet read built on it (src/sft_protocol.c, read_exact_interruptible and sft_read_packet). One turn of
  the loop is a function of what the flag, the clock, select and recv answer in it. The clock readings
  that only go into a log line are left out.
Trusted boundary: the 64-bit clocks are numbers that do not wrap
Main exports: Tick, ReadState, readTurn, readExactInterruptible, SftRead, sftReadPacket
Open obligations: none
-/
import SysdvrWebos.Core.SftProtocol
import SysdvrWebos.Core.Socket

namespace SysdvrWebos

/-- What `wait_readable` and the `recv` behind it answer. An interrupted `select` counts as an idle one. -/
inductive Wait where
  | idle
  | failed
  | ready (answer : RecvResult)
deriving Repr, DecidableEq

/-- One turn of the read loop as its surroundings see it: the value of `running`, the clock where the
    deadline may be armed, where it is compared and after a successful `recv`, and the wait. -/
structure Tick where
  running : Bool
  armClock : Nat
  checkClock : Nat
  wait : Wait
  progressClock : Nat
deriving Repr, DecidableEq

/-- The 3 s without progress, in microseconds. -/
def stallLimitUs : Nat := 3000000

/-- The locals of `read_exact_interruptible` and what the peer has still to send. A deadline of `0` is
    not armed. -/
structure ReadState where
  stream : List UInt8
  buffer : List UInt8
  done : Nat
  deadline : Nat
deriving Repr, DecidableEq

/-- How the read loop is left, by the log line it writes. -/
inductive ReadEnd where
  | complete
  | stopped
  | stalled
  | selectFailed
  | recvFailed
  | closed
deriving Repr, DecidableEq

/-- The outcome of one turn. -/
inductive ReadTurn where
  | again (state : ReadState)
  | leave (ending : ReadEnd) (state : ReadState)
  | outOfBounds
deriving Repr, DecidableEq

/-- The deadline applies: in a payload, and in a header once it has begun. -/
def ReadState.timed (s : ReadState) (idleAllowed : Bool) : Bool := !idleAllowed || 0 < s.done

/-- The deadline this turn is compared with. -/
def ReadState.armed (s : ReadState) (idleAllowed : Bool) (tick : Tick) : Nat :=
  if s.timed idleAllowed && s.deadline = 0 then tick.armClock + stallLimitUs else s.deadline

/-- One turn of the loop, entered with `done < size`. -/
def readTurn (idleAllowed : Bool) (size : Nat) (tick : Tick) (s : ReadState) : ReadTurn :=
  if !tick.running then
    .leave .stopped s
  else
    let waiting := { s with deadline := s.armed idleAllowed tick }
    if s.timed idleAllowed && waiting.deadline ≤ tick.checkClock then
      .leave .stalled waiting
    else
      match tick.wait with
      | .idle => .again waiting
      | .failed => .leave .selectFailed waiting
      | .ready .interrupted => .again waiting
      | .ready .wouldBlock => .again waiting
      | .ready .failed => .leave .recvFailed waiting
      | .ready (.bytes more) =>
          let segment := receive s.stream more (size - s.done)
          if segment = [] then
            .leave .closed waiting
          else
            match Buffer.store s.buffer s.done segment with
            | none => .outOfBounds
            | some buffer =>
                .again {
                  stream := s.stream.drop segment.length
                  buffer := buffer
                  done := s.done + segment.length
                  deadline := tick.progressClock + stallLimitUs }

/-- What `read_exact_interruptible` hands back: how it ended, its locals and the turns not yet taken. -/
structure ReadExact where
  ending : ReadEnd
  state : ReadState
  ticks : List Tick
deriving Repr, DecidableEq

/-- The return value. -/
def ReadExact.got (r : ReadExact) : Int :=
  match r.ending with
  | .complete => r.state.done
  | .stopped => 0
  | .closed => if r.state.done = 0 then 0 else -1
  | .stalled | .selectFailed | .recvFailed => -1

/-- The loop of `read_exact_interruptible`. -/
def readExactLoop (idleAllowed : Bool) (size : Nat) :
    List Tick → ReadState → Except Halt ReadExact
  | [], s => if s.done < size then .error .blocked else .ok ⟨.complete, s, []⟩
  | tick :: ticks, s =>
      if s.done < size then
        match readTurn idleAllowed size tick s with
        | .again next => readExactLoop idleAllowed size ticks next
        | .leave ending last => .ok ⟨ending, last, ticks⟩
        | .outOfBounds => .error .outOfBounds
      else
        .ok ⟨.complete, s, tick :: ticks⟩

/-- `read_exact_interruptible`. -/
def readExactInterruptible (idleAllowed : Bool) (size : Nat) (buffer : List UInt8)
    (ticks : List Tick) (stream : List UInt8) : Except Halt ReadExact :=
  readExactLoop idleAllowed size ticks ⟨stream, buffer, 0, 0⟩

/-- The variables of the caller that `sft_read_packet` writes. -/
structure SftRead where
  header : SftPacketHeader
  payload : List UInt8
  payloadSize : Nat
deriving Repr, DecidableEq

/-- What a packet read hands back: its return value, the caller's variables, and what is left of the
    turns and of the stream. -/
structure SftReadResult where
  rc : Int
  read : SftRead
  ticks : List Tick
  stream : List UInt8
deriving Repr, DecidableEq

/-- `sft_read_packet` once the 32 header bytes are read. -/
def sftReadBody (payloadCapacity : Nat) (read : SftRead) (raw : List UInt8) (ticks : List Tick)
    (stream : List UInt8) : Except Halt SftReadResult :=
  let header := sftParseHeader raw
  if sftValidateHeader header ≠ 0 then
    .ok ⟨-1, { read with header }, ticks, stream⟩
  else if header.length.toNat > payloadCapacity then
    .ok ⟨-1, { read with header }, ticks, stream⟩
  else do
    let body ← readExactInterruptible false header.length.toNat read.payload ticks stream
    if body.got ≠ header.length.toNat then
      return ⟨-1, { read with header, payload := body.state.buffer }, body.ticks, body.state.stream⟩
    return ⟨1, ⟨header, body.state.buffer, header.length.toNat⟩, body.ticks, body.state.stream⟩

/-- `sft_read_packet`. -/
def sftReadPacket (payloadCapacity : Nat) (read : SftRead) (ticks : List Tick)
    (stream : List UInt8) : Except Halt SftReadResult := do
  let head ← readExactInterruptible true sftHeaderSize (List.replicate sftHeaderSize 0) ticks stream
  if head.got ≤ 0 then
    return ⟨head.got, read, head.ticks, head.state.stream⟩
  sftReadBody payloadCapacity read head.state.buffer head.ticks head.state.stream

/-- One reception: the return value, the header, the payload it announces and the bytes consumed. -/
structure Reception where
  rc : Int
  header : SftPacketHeader
  payload : List UInt8
  consumed : Nat
deriving Repr, DecidableEq

/-- What the caller has received after a packet read. -/
def SftReadResult.reception (r : SftReadResult) (before : List UInt8) : Reception where
  rc := r.rc
  header := r.read.header
  payload := r.read.payload.take r.read.payloadSize
  consumed := before.length - r.stream.length

/-- `sft_read_packet` called a number of times on the same variables. -/
def sftReadPackets (payloadCapacity : Nat) : (calls : Nat) → SftRead → List Tick → List UInt8 →
    Except Halt (List Reception × SftRead × List Tick × List UInt8)
  | 0, read, ticks, stream => pure ([], read, ticks, stream)
  | calls + 1, read, ticks, stream => do
      let result ← sftReadPacket payloadCapacity read ticks stream
      let (receptions, last) ← sftReadPackets payloadCapacity calls result.read result.ticks
        result.stream
      pure (result.reception stream :: receptions, last)

end SysdvrWebos
