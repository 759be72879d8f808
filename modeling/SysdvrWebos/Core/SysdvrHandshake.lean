/-
Module: SysdvrWebos.Core.SysdvrHandshake
Layer: Core
Purpose: Negotiating a SysDVR stream (src/protocol.c, sysdvr_handshake; src/net.c, sysdvr_write_all): the
  hello of the console, the request, the response. What passes over the connection is recorded in order.
  The stream kinds that no caller passes are left out.
Trusted boundary: a `send` that succeeds takes bytes from the front of what it is given
Main exports: SendResult, sysdvrWriteAll, Exchange, handshakeRequest, sysdvrHandshake
Open obligations: none
-/
import SysdvrWebos.Core.SysdvrProtocol

namespace SysdvrWebos

/-- `SYSDVR_HELLO_SIZE`. -/
def sysdvrHelloSize : Nat := 10
/-- `SYSDVR_HANDSHAKE_REQUEST_SIZE`. -/
def sysdvrHandshakeRequestSize : Nat := 16
/-- `SYSDVR_REQUEST_MAGIC`. -/
def sysdvrRequestMagic : UInt32 := 0xAAAAAAAA
/-- `SYSDVR_MAX_AUDIO_BATCHING`. -/
def sysdvrMaxAudioBatching : UInt8 := 5
/-- `HANDSHAKE_OK`. -/
def handshakeOk : UInt32 := 6

/-- What one `send` comes back with. `accepted more` takes up to `more + 1` bytes. -/
inductive SendResult where
  | accepted (more : Nat)
  | interrupted
  | zero
  | failed
deriving Repr, DecidableEq

/-- What `sysdvr_write_all` hands back: its return value, the bytes the connection took, and what is left of
    the schedule. -/
structure SysdvrWrite where
  got : Int
  sent : List UInt8
  sends : List SendResult
deriving Repr, DecidableEq

/-- `sysdvr_write_all` with `total` bytes behind it; `sent` are the bytes taken so far. -/
def sysdvrWriteAll (buffer : List UInt8) : (sends : List SendResult) → (total : Nat) →
    (sent : List UInt8) → Except Halt SysdvrWrite
  | [], total, sent => if total < buffer.length then .error .blocked else .ok ⟨total, sent, []⟩
  | answer :: sends, total, sent =>
      if total < buffer.length then
        match answer with
        | .interrupted => sysdvrWriteAll buffer sends total sent
        | .failed => .ok ⟨-1, sent, sends⟩
        | .zero => .ok ⟨-1, sent, sends⟩
        | .accepted more =>
            let segment := (buffer.drop total).take (more + 1)
            sysdvrWriteAll buffer sends (total + segment.length) (sent ++ segment)
      else
        .ok ⟨total, sent, answer :: sends⟩

/-- Bytes that passed over the connection. -/
inductive Exchange where
  | received (bytes : List UInt8)
  | sent (bytes : List UInt8)
deriving Repr, DecidableEq

/-- `write_le32(buffer + offset, value)`. -/
def writeLe32 (buffer : List UInt8) (offset : Nat) (value : UInt32) : List UInt8 :=
  (((buffer.set offset (value &&& 0xFF).toUInt8).set (offset + 1) ((value >>> 8) &&& 0xFF).toUInt8).set
    (offset + 2) ((value >>> 16) &&& 0xFF).toUInt8).set (offset + 3) ((value >>> 24) &&& 0xFF).toUInt8

/-- `protocol_supported`: `'0'` and then `'2'` or `'3'`. -/
def protocolSupported (a b : UInt8) : Bool := a = 0x30 && (b = 0x32 || b = 0x33)

/-- `"SysDVR|"`. -/
def helloTag : List UInt8 := [0x53, 0x79, 0x73, 0x44, 0x56, 0x52, 0x7C]

/-- The request `sysdvr_handshake` fills in. -/
def handshakeRequest (kind : StreamKind) (ver0 ver1 audioBatching : UInt8) : List UInt8 :=
  let request := writeLe32 (List.replicate sysdvrHandshakeRequestSize 0) 0 sysdvrRequestMagic
  let request := (request.set 4 ver0).set 5 ver1
  let request := match kind with
    -- ProtoMeta_Video with ProtoMetaVideo_InjectPPSSPS
    | .video => (request.set 6 1).set 7 2
    -- ProtoMeta_Audio
    | .audio => request.set 6 2
  (request.set 8 audioBatching).set 9 0

/-- What a handshake hands back: its return value, the version it wrote out, what passed over the connection,
    and what is left of the schedules and of the stream. -/
structure HandshakeResult where
  rc : Int
  protocolVersion : Option (UInt8 × UInt8)
  exchanges : List Exchange
  recvs : List RecvResult
  sends : List SendResult
  stream : List UInt8
deriving Repr, DecidableEq

/-- The bytes a read took. -/
def takenFrom (before after : List UInt8) : List UInt8 := before.take (before.length - after.length)

/-- `sysdvr_handshake` from the request on. -/
def sysdvrNegotiate (kind : StreamKind) (ver0 ver1 audioBatching : UInt8) (hello : List UInt8)
    (recvs : List RecvResult) (sends : List SendResult) (stream : List UInt8) :
    Except Halt HandshakeResult := do
  let request := handshakeRequest kind ver0 ver1 audioBatching
  let write ← sysdvrWriteAll request sends 0 []
  if write.got ≠ sysdvrHandshakeRequestSize then
    return ⟨-1, some (ver0, ver1), [.received hello, .sent write.sent], recvs, write.sends, stream⟩
  let responseSize := if ver1 ≥ 0x33 then 72 else 4
  let response ← sysdvrReadExact responseSize recvs stream (List.replicate 72 0) 0
  let exchanges := [.received hello, .sent write.sent, .received (takenFrom stream response.stream)]
  if response.got ≠ responseSize then
    return ⟨-1, some (ver0, ver1), exchanges, response.recvs, write.sends, response.stream⟩
  if readLe32 response.buffer 0 ≠ handshakeOk then
    return ⟨-1, some (ver0, ver1), exchanges, response.recvs, write.sends, response.stream⟩
  return ⟨0, some (ver0, ver1), exchanges, response.recvs, write.sends, response.stream⟩

/-- `sysdvr_handshake`. -/
def sysdvrHandshake (kind : StreamKind) (audioBatching : UInt8) (recvs : List RecvResult)
    (sends : List SendResult) (stream : List UInt8) : Except Halt HandshakeResult :=
  if audioBatching > sysdvrMaxAudioBatching then
    .ok ⟨-1, none, [], recvs, sends, stream⟩
  else do
    let hello ← sysdvrReadExact sysdvrHelloSize recvs stream (List.replicate sysdvrHelloSize 0) 0
    let heard := takenFrom stream hello.stream
    if hello.got ≠ sysdvrHelloSize then
      return ⟨-1, none, [.received heard], hello.recvs, sends, hello.stream⟩
    if hello.buffer.take 7 ≠ helloTag ∨ hello.buffer.getD 9 0 ≠ 0 then
      return ⟨-1, none, [.received heard], hello.recvs, sends, hello.stream⟩
    let ver0 := hello.buffer.getD 7 0
    let ver1 := hello.buffer.getD 8 0
    if !protocolSupported ver0 ver1 then
      return ⟨-1, none, [.received heard], hello.recvs, sends, hello.stream⟩
    sysdvrNegotiate kind ver0 ver1 audioBatching heard hello.recvs sends hello.stream

end SysdvrWebos
