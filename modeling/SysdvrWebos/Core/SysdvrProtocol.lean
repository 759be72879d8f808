/-
Module: SysdvrWebos.Core.SysdvrProtocol
Layer: Core
Purpose: Reading SysDVR packets off a socket (src/net.c, sysdvr_read_exact; src/protocol.c,
  sysdvr_read_packet and sysdvr_parse_error_packet; src/webos_main.c, read_data_packet). The schedule of a
  blocking socket is the list of what each `recv` comes back with.
Trusted boundary: none
Main exports: sysdvrReadExact, SysdvrPacketHeader, sysdvrReadPacket, sysdvrParseErrorPacket, StreamKind,
  expectedPacket, readDataPacket
Open obligations: none
-/
import SysdvrWebos.Core.Socket
import SysdvrWebos.Lib.LittleEndian
import SysdvrWebos.Lib.Scan

namespace SysdvrWebos

/-- `SYSDVR_PACKET_HEADER_SIZE`. -/
def sysdvrPacketHeaderSize : Nat := 18
/-- `SYSDVR_PACKET_MAGIC`. -/
def sysdvrPacketMagic : UInt32 := 0xCCCCCCCC
/-- `SYSDVR_MAX_PAYLOAD`. -/
def sysdvrMaxPayload : Nat := 0x54000

/-! The `SYSDVR_PACKET_*` flags of the metadata byte. -/

def sysdvrPacketVideo : UInt8 := 0x01
def sysdvrPacketAudio : UInt8 := 0x02
def sysdvrPacketReplay : UInt8 := 0x08
def sysdvrPacketError : UInt8 := 0x20

/-- What `sysdvr_read_exact` hands back: its return value, the buffer, and what is left of the schedule
    and of the stream. -/
structure SysdvrRead where
  got : Int
  buffer : List UInt8
  recvs : List RecvResult
  stream : List UInt8
deriving Repr, DecidableEq

/-- `sysdvr_read_exact` with `total` bytes behind it. -/
def sysdvrReadExact (size : Nat) : (recvs : List RecvResult) → (stream buffer : List UInt8) →
    (total : Nat) → Except Halt SysdvrRead
  | [], stream, buffer, total =>
      if total < size then .error .blocked else .ok ⟨total, buffer, [], stream⟩
  | answer :: recvs, stream, buffer, total =>
      if total < size then
        match answer with
        | .interrupted => sysdvrReadExact size recvs stream buffer total
        | .wouldBlock => .ok ⟨-1, buffer, recvs, stream⟩
        | .failed => .ok ⟨-1, buffer, recvs, stream⟩
        | .bytes more =>
            let segment := receive stream more (size - total)
            if segment = [] then
              .ok ⟨total, buffer, recvs, stream⟩
            else
              match Buffer.store buffer total segment with
              | none => .error .outOfBounds
              | some buffer =>
                  sysdvrReadExact size recvs (stream.drop segment.length) buffer
                    (total + segment.length)
      else
        .ok ⟨total, buffer, answer :: recvs, stream⟩

/-- `sysdvr_packet_header`. -/
structure SysdvrPacketHeader where
  magic : UInt32
  dataSize : UInt32
  timestampUs : UInt64
  metadata : UInt8
  replaySlot : UInt8
deriving Repr, DecidableEq

/-- `read_le32(p + offset)`. -/
def readLe32 (raw : List UInt8) (offset : Nat) : UInt32 :=
  LittleEndian.le32 (raw.getD offset 0) (raw.getD (offset + 1) 0) (raw.getD (offset + 2) 0)
    (raw.getD (offset + 3) 0)

/-- `read_le64(p + offset)`. -/
def readLe64 (raw : List UInt8) (offset : Nat) : UInt64 :=
  LittleEndian.le64 (readLe32 raw offset) (readLe32 raw (offset + 4))

/-- The header fields `sysdvr_read_packet` decodes. -/
def sysdvrDecodeHeader (raw : List UInt8) : SysdvrPacketHeader where
  magic := readLe32 raw 0
  dataSize := readLe32 raw 4
  timestampUs := readLe64 raw 8
  metadata := raw.getD 16 0
  replaySlot := raw.getD 17 0

/-- The variables of the caller that `sysdvr_read_packet` writes. -/
structure SysdvrPacket where
  header : SysdvrPacketHeader
  payload : List UInt8
  payloadSize : Nat
deriving Repr, DecidableEq

/-- What a packet read hands back: its return value, the caller's variables, and what is left of the
    schedule and of the stream. -/
structure SysdvrReadResult where
  rc : Int
  packet : SysdvrPacket
  recvs : List RecvResult
  stream : List UInt8
deriving Repr, DecidableEq

/-- `sysdvr_read_packet` once the header bytes are read. -/
def sysdvrReadBody (payloadCapacity : Nat) (packet : SysdvrPacket) (raw : List UInt8)
    (recvs : List RecvResult) (stream : List UInt8) : Except Halt SysdvrReadResult :=
  let header := sysdvrDecodeHeader raw
  let packet := { packet with header }
  if header.magic ≠ sysdvrPacketMagic then
    .ok ⟨-1, packet, recvs, stream⟩
  else if header.dataSize.toNat > payloadCapacity ∨ header.dataSize.toNat > sysdvrMaxPayload then
    .ok ⟨-1, packet, recvs, stream⟩
  else if header.metadata &&& sysdvrPacketReplay ≠ 0 then
    .ok ⟨-1, { packet with payloadSize := 0 }, recvs, stream⟩
  else if header.dataSize.toNat > 0 then do
    let body ← sysdvrReadExact header.dataSize.toNat recvs stream packet.payload 0
    let packet := { packet with payload := body.buffer }
    if body.got ≠ header.dataSize.toNat then
      return ⟨-1, packet, body.recvs, body.stream⟩
    return ⟨1, { packet with payloadSize := header.dataSize.toNat }, body.recvs, body.stream⟩
  else
    .ok ⟨1, { packet with payloadSize := 0 }, recvs, stream⟩

/-- `sysdvr_read_packet`. -/
def sysdvrReadPacket (payloadCapacity : Nat) (packet : SysdvrPacket) (recvs : List RecvResult)
    (stream : List UInt8) : Except Halt SysdvrReadResult := do
  let head ← sysdvrReadExact sysdvrPacketHeaderSize recvs stream
    (List.replicate sysdvrPacketHeaderSize 0) 0
  if head.got = 0 then
    return ⟨0, packet, head.recvs, head.stream⟩
  if head.got ≠ sysdvrPacketHeaderSize then
    return ⟨-1, packet, head.recvs, head.stream⟩
  sysdvrReadBody payloadCapacity packet head.buffer head.recvs head.stream

/-- `sysdvr_error_packet`. -/
structure SysdvrErrorPacket where
  errorType : UInt32
  errorCode : UInt32
  context1 : UInt64
  context2 : UInt64
  context3 : UInt64
deriving Repr, DecidableEq

/-- `sysdvr_parse_error_packet`. -/
def sysdvrParseErrorPacket (payloadSize : Nat) : Scan UInt8 (Option SysdvrErrorPacket) :=
  if payloadSize < 32 then
    pure none
  else do
    let raw ← Scan.slice 0 32
    pure (some ⟨readLe32 raw 0, readLe32 raw 4, readLe64 raw 8, readLe64 raw 16, readLe64 raw 24⟩)

/-- `sysdvr_stream_kind`. -/
inductive StreamKind where
  | video
  | audio
deriving Repr, DecidableEq

/-- `expected_packet`. -/
def expectedPacket (kind : StreamKind) (h : SysdvrPacketHeader) : Bool :=
  match kind with
  | .video => h.metadata &&& sysdvrPacketVideo ≠ 0
  | .audio => h.metadata &&& sysdvrPacketAudio ≠ 0

/-- What a packet amounts to for a stream of one kind: the console's error report (`none` if it is
    malformed), media data, or something to skip. -/
inductive PacketContent where
  | error (report : Option SysdvrErrorPacket)
  | media (header : SysdvrPacketHeader) (data : List UInt8)
  | unexpected
deriving Repr, DecidableEq

/-- The inspection of a packet in `read_data_packet`; the bytes of a media packet are read by the player
    it goes to. -/
def packetContent (kind : StreamKind) (h : SysdvrPacketHeader) (size : Nat) :
    Scan UInt8 PacketContent :=
  if h.metadata &&& sysdvrPacketError ≠ 0 then do
    let report ← sysdvrParseErrorPacket size
    pure (.error report)
  else if expectedPacket kind h && size > 0 then do
    let data ← Scan.slice 0 size
    pure (.media h data)
  else
    pure .unexpected

/-- What `read_data_packet` hands back, with the content its last packet had. -/
structure DataRead where
  rc : Int
  content : Option PacketContent
  packet : SysdvrPacket
  recvs : List RecvResult
  stream : List UInt8
deriving Repr, DecidableEq

/-- `read_data_packet`: packets of no use are skipped, for at most `calls` packets. -/
def readDataPacket (kind : StreamKind) : (calls : Nat) → SysdvrPacket → List RecvResult →
    List UInt8 → Except Halt DataRead
  | 0, _, _, _ => .error .blocked
  | calls + 1, packet, recvs, stream => do
      let r ← sysdvrReadPacket sysdvrMaxPayload packet recvs stream
      if r.rc ≤ 0 then
        return ⟨r.rc, none, r.packet, r.recvs, r.stream⟩
      let content := (packetContent kind r.packet.header r.packet.payloadSize).run
        fun i => r.packet.payload.getD i 0
      match content with
      | .error report => return ⟨-1, some (.error report), r.packet, r.recvs, r.stream⟩
      | .media h data => return ⟨1, some (.media h data), r.packet, r.recvs, r.stream⟩
      | .unexpected => readDataPacket kind calls r.packet r.recvs r.stream

/-- What a worker receives from its socket: the contents of the data packets it reads into one buffer, and
    the return value of the last read. -/
def receiveData (kind : StreamKind) (calls : Nat) : (packets : Nat) → SysdvrPacket →
    List RecvResult → List UInt8 → Except Halt (List (Option PacketContent) × Int)
  | 0, _, _, _ => .ok ([], 1)
  | packets + 1, packet, recvs, stream => do
      let r ← readDataPacket kind calls packet recvs stream
      if r.rc ≤ 0 then
        return ([r.content], r.rc)
      let (contents, rc) ← receiveData kind calls packets r.packet r.recvs r.stream
      return (r.content :: contents, rc)

end SysdvrWebos
