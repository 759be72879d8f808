/-
Module: SysdvrWebos.Proofs.SysdvrFraming
Layer: Proofs
Purpose: Reading SysDVR packets back: however the bytes of a list of packets are cut into `recv` results, the
  packet reads return exactly those packets, and what comes behind them is told apart by one verdict: the
  end of the stream, a packet, or something malformed.
Trusted boundary: none (fully proved)
Main exports: SysdvrWirePacket, Malformed, PacketVerdict, sysdvrReadPacket_verdict, sysdvrReadPacket_spent,
  sysdvr_framing_round_trip
Open obligations: none
-/
import SysdvrWebos.Lib.FairSchedule
import SysdvrWebos.Proofs.HeaderGrammar
import SysdvrWebos.Proofs.SysdvrReading

namespace SysdvrWebos

open LittleEndian (encode)

/-! ### Packets on the wire -/

/-- A packet as the console writes it. -/
structure SysdvrWirePacket where
  timestampUs : UInt64
  metadata : UInt8
  replaySlot : UInt8
  payload : List UInt8
  noReplay : metadata &&& sysdvrPacketReplay = 0
  fits : payload.length ≤ sysdvrMaxPayload

namespace SysdvrWirePacket

/-- The 18 header bytes. -/
def head (p : SysdvrWirePacket) : List UInt8 :=
  encode 4 sysdvrPacketMagic.toNat ++ encode 4 p.payload.length ++ encode 8 p.timestampUs.toNat
    ++ [p.metadata, p.replaySlot]

/-- All bytes of the packet. -/
def wire (p : SysdvrWirePacket) : List UInt8 := p.head ++ p.payload

/-- The header as the client should see it. -/
def header (p : SysdvrWirePacket) : SysdvrPacketHeader where
  magic := sysdvrPacketMagic
  dataSize := UInt32.ofNat p.payload.length
  timestampUs := p.timestampUs
  metadata := p.metadata
  replaySlot := p.replaySlot

theorem length_head (p : SysdvrWirePacket) : p.head.length = sysdvrPacketHeaderSize := by
  simp [head, sysdvrPacketHeaderSize]

end SysdvrWirePacket

/-- What a packet read leaves with its caller. -/
structure SysdvrReception where
  rc : Int
  header : SysdvrPacketHeader
  payload : List UInt8
deriving Repr, DecidableEq

/-- `sysdvr_read_packet` called a number of times on the same variables. -/
def sysdvrReadPackets : (calls : Nat) → SysdvrPacket → List RecvResult → List UInt8 →
    Except Halt (List SysdvrReception × SysdvrPacket × List RecvResult × List UInt8)
  | 0, packet, recvs, stream => pure ([], packet, recvs, stream)
  | calls + 1, packet, recvs, stream => do
      let r ← sysdvrReadPacket sysdvrMaxPayload packet recvs stream
      let (receptions, last) ← sysdvrReadPackets calls r.packet r.recvs r.stream
      pure (⟨r.rc, r.packet.header, r.packet.payload.take r.packet.payloadSize⟩ :: receptions, last)

/-- What can be wrong with a stream that has not ended. -/
inductive Malformed (stream : List UInt8) : Prop where
  | cutHeader (begun : stream ≠ []) (short : stream.length < sysdvrPacketHeaderSize)
  | wrongMagic (whole : sysdvrPacketHeaderSize ≤ stream.length)
      (magic : wireField stream 0 4 ≠ sysdvrPacketMagic.toNat)
  | oversized (whole : sysdvrPacketHeaderSize ≤ stream.length)
      (large : sysdvrMaxPayload < wireField stream 4 4)
  | replay (whole : sysdvrPacketHeaderSize ≤ stream.length)
      (bit : stream.getD 16 0 &&& sysdvrPacketReplay ≠ 0)
  | cutPayload (whole : sysdvrPacketHeaderSize ≤ stream.length)
      (short : stream.length < sysdvrPacketHeaderSize + wireField stream 4 4)

/-! ### Header fields -/

theorem readLe32_toNat {raw : List UInt8} {offset : Nat} (room : offset + 4 ≤ raw.length) :
    (readLe32 raw offset).toNat = wireField raw offset 4 := le32At_toNat room

theorem readLe64_toNat {raw : List UInt8} {offset : Nat} (room : offset + 8 ≤ raw.length) :
    (readLe64 raw offset).toNat = wireField raw offset 8 := by
  have split : (raw.drop offset).take 8
      = (raw.drop offset).take 4 ++ (raw.drop (offset + 4)).take 4 := by
    rw [← List.drop_drop, ← List.take_add]
  have low : ((raw.drop offset).take 4).length = 4 := by
    rw [List.length_take, List.length_drop]
    omega
  rw [readLe64, LittleEndian.le64_toNat, readLe32_toNat (by omega), readLe32_toNat (by omega), wireField,
    wireField, wireField, split, LittleEndian.value_append, low]
  norm_num

/-- A field within the first bytes does not depend on the others. -/
theorem wireField_take {raw : List UInt8} {offset width n : Nat} (inside : offset + width ≤ n) :
    wireField (raw.take n) offset width = wireField raw offset width := by
  rw [wireField, wireField, List.drop_take, List.take_take, Nat.min_eq_left (by omega)]

/-- A field behind a front part is a field of the rest. -/
theorem wireField_skip {front : List UInt8} {n : Nat} (long : front.length = n) (back : List UInt8)
    (offset width : Nat) : wireField (front ++ back) (n + offset) width = wireField back offset width := by
  rw [wireField, wireField, ← List.drop_drop, ← long, List.drop_left]

/-- A number that was written is read. -/
theorem wireField_encode {width n : Nat} (fits : n < 256 ^ width) (back : List UInt8) :
    wireField (encode width n ++ back) 0 width = n := by
  have front : (encode width n ++ back).take width = encode width n := by
    rw [List.take_append_of_le_length (by simp), List.take_of_length_le (by simp)]
  rw [wireField, List.drop_zero, front, LittleEndian.value_encode fits]

/-- The decoded header holds the fields of the stream it was read from. -/
theorem sysdvrDecodeHeader_fields {stream : List UInt8}
    (whole : sysdvrPacketHeaderSize ≤ stream.length) :
    let h := sysdvrDecodeHeader (stream.take sysdvrPacketHeaderSize)
    h.magic.toNat = wireField stream 0 4 ∧ h.dataSize.toNat = wireField stream 4 4 ∧
      h.timestampUs.toNat = wireField stream 8 8 ∧ h.metadata = stream.getD 16 0 ∧
      h.replaySlot = stream.getD 17 0 := by
  have size : sysdvrPacketHeaderSize = 18 := rfl
  have long : (stream.take 18).length = 18 := by
    rw [List.length_take]
    omega
  rw [size]
  refine ⟨?_, ?_, ?_, ?_, ?_⟩
  · exact (readLe32_toNat (by omega)).trans (wireField_take (by decide))
  · exact (readLe32_toNat (by omega)).trans (wireField_take (by decide))
  · exact (readLe64_toNat (by omega)).trans (wireField_take (by decide))
  · simp [sysdvrDecodeHeader, List.getD_eq_getElem?_getD]
  · simp [sysdvrDecodeHeader, List.getD_eq_getElem?_getD]

/-- The fields at the front of a written packet. -/
theorem wire_fields (p : SysdvrWirePacket) (rest : List UInt8) :
    let stream := p.wire ++ rest
    wireField stream 0 4 = sysdvrPacketMagic.toNat ∧ wireField stream 4 4 = p.payload.length ∧
      wireField stream 8 8 = p.timestampUs.toNat ∧ stream.getD 16 0 = p.metadata ∧
      stream.getD 17 0 = p.replaySlot := by
  have bound := p.fits
  have word : p.payload.length < 256 ^ 4 := by
    rw [sysdvrMaxPayload] at bound
    omega
  have clock : p.timestampUs.toNat < 256 ^ 8 := p.timestampUs.toNat_lt
  intro stream
  have layout : stream = encode 4 sysdvrPacketMagic.toNat ++ (encode 4 p.payload.length ++
      (encode 8 p.timestampUs.toNat ++ (p.metadata :: p.replaySlot :: (p.payload ++ rest)))) := by
    simp [stream, SysdvrWirePacket.wire, SysdvrWirePacket.head]
  rw [layout]
  refine ⟨wireField_encode (by decide) _, ?_, ?_, ?_, ?_⟩
  · exact (wireField_skip (LittleEndian.length_encode 4 _) _ 0 4).trans (wireField_encode word _)
  · exact (wireField_skip (LittleEndian.length_encode 4 _) _ 4 8).trans
      ((wireField_skip (LittleEndian.length_encode 4 _) _ 0 8).trans (wireField_encode clock _))
  · simp [List.getD_eq_getElem?_getD, List.getElem?_append]
  · simp [List.getD_eq_getElem?_getD, List.getElem?_append]

/-- What was written is decoded. -/
theorem sysdvrDecodeHeader_wire (p : SysdvrWirePacket) (rest : List UInt8) :
    sysdvrDecodeHeader ((p.wire ++ rest).take sysdvrPacketHeaderSize) = p.header := by
  have bound := p.fits
  have whole : sysdvrPacketHeaderSize ≤ (p.wire ++ rest).length := by
    rw [SysdvrWirePacket.wire, List.length_append, List.length_append, p.length_head]
    omega
  have size : (UInt32.ofNat p.payload.length).toNat = p.payload.length := by
    have range : UInt32.size = 4294967296 := rfl
    rw [sysdvrMaxPayload] at bound
    exact UInt32.toNat_ofNat_of_lt' (by omega)
  rcases sysdvrDecodeHeader_fields whole with ⟨magic, dataSize, clock, metadata, slot⟩
  rcases wire_fields p rest with ⟨magic', dataSize', clock', metadata', slot'⟩
  generalize sysdvrDecodeHeader ((p.wire ++ rest).take sysdvrPacketHeaderSize) = h at *
  cases h
  simp only [SysdvrWirePacket.header, SysdvrPacketHeader.mk.injEq]
  refine ⟨?_, ?_, ?_, metadata.trans metadata', slot.trans slot'⟩
  · exact UInt32.toNat_inj.mp (magic.trans magic')
  · exact UInt32.toNat_inj.mp ((dataSize.trans dataSize').trans size.symm)
  · exact UInt64.toNat_inj.mp (clock.trans clock')

/-! ### One packet -/

variable {packet : SysdvrPacket} {recvs : List RecvResult} {stream : List UInt8}

/-- What one packet read comes to over a connection that lives. -/
inductive PacketVerdict (packet : SysdvrPacket) (stream : List UInt8) (r : SysdvrReadResult) : Prop where
  | ended (nothing : stream = []) (rc : r.rc = 0)
  | refused (bad : Malformed stream) (rc : r.rc = -1)
  | received (rc : r.rc = 1)
      (whole : sysdvrPacketHeaderSize + wireField stream 4 4 ≤ stream.length)
      (magic : wireField stream 0 4 = sysdvrPacketMagic.toNat)
      (fits : wireField stream 4 4 ≤ sysdvrMaxPayload)
      (noReplay : stream.getD 16 0 &&& sysdvrPacketReplay = 0)
      (header : r.packet.header = sysdvrDecodeHeader (stream.take sysdvrPacketHeaderSize))
      (payload : r.packet.payload.take r.packet.payloadSize
        = (stream.drop sysdvrPacketHeaderSize).take (wireField stream 4 4))
      (capacity : r.packet.payload.length = packet.payload.length)
      (rest : r.stream = stream.drop (sysdvrPacketHeaderSize + wireField stream 4 4))
      (steady : Steady r.stream.length r.recvs)

/-- The packet read behind a whole header. -/
theorem sysdvrReadBody_verdict (whole : sysdvrPacketHeaderSize ≤ stream.length)
    (room : packet.payload.length = sysdvrMaxPayload)
    (steady : Steady (stream.drop sysdvrPacketHeaderSize).length recvs) :
    ∃ r, sysdvrReadBody sysdvrMaxPayload packet (stream.take sysdvrPacketHeaderSize) recvs
        (stream.drop sysdvrPacketHeaderSize) = .ok r ∧ PacketVerdict packet stream r := by
  rcases sysdvrDecodeHeader_fields whole with ⟨magic, dataSize, _, metadata, _⟩
  unfold sysdvrReadBody
  generalize isHeader : sysdvrDecodeHeader (stream.take sysdvrPacketHeaderSize) = h at *
  dsimp only
  by_cases otherMagic : h.magic ≠ sysdvrPacketMagic
  · rw [if_pos otherMagic]
    refine ⟨_, rfl, .refused (.wrongMagic whole ?_) rfl⟩
    rw [← magic]
    exact fun same => otherMagic (UInt32.toNat_inj.mp same)
  rw [if_neg otherMagic]
  by_cases tooLarge : h.dataSize.toNat > sysdvrMaxPayload ∨ h.dataSize.toNat > sysdvrMaxPayload
  · rw [if_pos tooLarge]
    refine ⟨_, rfl, .refused (.oversized whole ?_) rfl⟩
    rw [← dataSize]
    exact tooLarge.elim id id
  rw [if_neg tooLarge]
  by_cases isReplay : h.metadata &&& sysdvrPacketReplay ≠ 0
  · rw [if_pos isReplay]
    exact ⟨_, rfl, .refused (.replay whole (metadata ▸ isReplay)) rfl⟩
  rw [if_neg isReplay]
  have fits : wireField stream 4 4 ≤ sysdvrMaxPayload := by
    rw [← dataSize]
    omega
  have magicField : wireField stream 0 4 = sysdvrPacketMagic.toNat := by
    rw [← magic, not_not.mp otherMagic]
  have noReplay : stream.getD 16 0 &&& sysdvrPacketReplay = 0 := by
    rw [← metadata]
    exact not_not.mp isReplay
  rw [dataSize]
  split
  · next positive =>
      by_cases enough : wireField stream 4 4 ≤ (stream.drop sysdvrPacketHeaderSize).length
      · rcases sysdvrReadExact_fills steady (Nat.zero_le _) (fits.trans_eq room.symm)
          (show wireField stream 4 4 - 0 ≤ _ by omega) with ⟨body, read, all⟩
        refine ⟨⟨1, ⟨h, body.buffer, wireField stream 4 4⟩, body.recvs, body.stream⟩, ?_, ?_⟩
        · simp only [read, bind, Except.bind, all.got, ne_eq, not_true_eq_false, if_false, pure,
            Except.pure]
        · have filled := all.filled
          rw [List.take_zero, List.nil_append, Nat.sub_zero] at filled
          have remaining := all.remaining
          rw [Nat.sub_zero, List.drop_drop] at remaining
          rw [List.length_drop] at enough
          exact .received rfl (by omega) magicField fits noReplay isHeader.symm filled all.capacity
            remaining all.steady
      · rcases sysdvrReadExact_closed steady (fits.trans_eq room.symm)
          (show _ < wireField stream 4 4 - 0 by omega) with ⟨body, read, got, _⟩
        have short : body.got ≠ (wireField stream 4 4 : Nat) := by
          rw [got]
          omega
        refine ⟨⟨-1, ⟨h, body.buffer, packet.payloadSize⟩, body.recvs, body.stream⟩, ?_, ?_⟩
        · simp only [read, bind, Except.bind, ne_eq, short, not_false_eq_true, if_true, pure,
            Except.pure]
        · rw [List.length_drop] at enough
          exact .refused (.cutPayload whole (by omega)) rfl
  · next empty =>
      have none : wireField stream 4 4 = 0 := by omega
      refine ⟨_, rfl, .received rfl (by omega) magicField fits noReplay isHeader.symm ?_ rfl ?_ steady⟩
      · rw [none]
        rfl
      · rw [none]
        rfl

/-- Over a connection that lives, a packet read returns and its verdict is that of the stream. -/
theorem sysdvrReadPacket_verdict (room : packet.payload.length = sysdvrMaxPayload)
    (steady : Steady stream.length recvs) :
    ∃ r, sysdvrReadPacket sysdvrMaxPayload packet recvs stream = .ok r ∧
      PacketVerdict packet stream r := by
  have zeros : sysdvrPacketHeaderSize ≤ (List.replicate sysdvrPacketHeaderSize (0 : UInt8)).length := by
    simp
  have size : sysdvrPacketHeaderSize = 18 := rfl
  unfold sysdvrReadPacket
  by_cases whole : sysdvrPacketHeaderSize ≤ stream.length
  · rcases sysdvrReadExact_fills steady (Nat.zero_le _) zeros
      (show sysdvrPacketHeaderSize - 0 ≤ stream.length by omega) with ⟨head, read, all⟩
    have raw : head.buffer = stream.take sysdvrPacketHeaderSize := by
      have filled := all.filled
      have long := all.capacity
      rw [List.length_replicate] at long
      rwa [List.take_of_length_le long.le, List.take_zero, List.nil_append, Nat.sub_zero] at filled
    have remaining : head.stream = stream.drop sysdvrPacketHeaderSize := all.remaining
    have steady' := all.steady
    rw [remaining] at steady'
    rcases sysdvrReadBody_verdict whole room steady' with ⟨r, body, verdict⟩
    refine ⟨r, ?_, verdict⟩
    simp only [read, bind, Except.bind, all.got, ne_eq, not_true_eq_false, if_false, raw, remaining]
    exact body
  · rcases sysdvrReadExact_closed steady zeros
      (show stream.length < sysdvrPacketHeaderSize - 0 by omega) with ⟨head, read, got, _⟩
    rw [Nat.zero_add] at got
    by_cases nothing : stream = []
    · have zero : head.got = 0 := by
        rw [got, nothing]
        rfl
      refine ⟨⟨0, packet, head.recvs, head.stream⟩, ?_, .ended nothing rfl⟩
      simp only [read, bind, Except.bind, zero, if_true, pure, Except.pure]
    · have positive := List.length_pos_of_ne_nil nothing
      have begun : ¬ head.got = 0 := by omega
      have short : ¬ head.got = (sysdvrPacketHeaderSize : Nat) := by omega
      refine ⟨⟨-1, packet, head.recvs, head.stream⟩, ?_,
        .refused (.cutHeader nothing (Nat.lt_of_not_le whole)) rfl⟩
      simp only [read, bind, Except.bind, begun, short, ne_eq, not_false_eq_true, if_true, if_false, pure,
        Except.pure]

/-- Only a stream with bytes in it is malformed. -/
theorem Malformed.ne_nil (bad : Malformed stream) : stream ≠ [] := by
  rintro rfl
  cases bad with
  | cutHeader begun _ => exact begun rfl
  | wrongMagic whole _ => exact absurd whole (by decide)
  | oversized whole _ => exact absurd whole (by decide)
  | replay whole _ => exact absurd whole (by decide)
  | cutPayload whole _ => exact absurd whole (by decide)

/-- The return value tells the three verdicts apart. -/
theorem PacketVerdict.rc_iff {r : SysdvrReadResult} (verdict : PacketVerdict packet stream r) :
    (r.rc = 0 ↔ stream = []) ∧ (r.rc = -1 ↔ Malformed stream) ∧ (r.rc = 0 ∨ r.rc = 1 ∨ r.rc = -1) := by
  cases verdict with
  | ended nothing rc =>
      refine ⟨⟨fun _ => nothing, fun _ => rc⟩, ⟨fun failed => ?_, fun bad => ?_⟩, .inl rc⟩
      · rw [rc] at failed
        cases failed
      · exact absurd nothing bad.ne_nil
  | refused bad rc =>
      refine ⟨⟨fun zero => ?_, fun nothing => absurd nothing bad.ne_nil⟩, ⟨fun _ => bad, fun _ => rc⟩,
        .inr (.inr rc)⟩
      rw [rc] at zero
      cases zero
  | received rc whole magic fits noReplay =>
      have size : sysdvrPacketHeaderSize = 18 := rfl
      refine ⟨⟨fun zero => ?_, fun nothing => ?_⟩, ⟨fun failed => ?_, fun bad => ?_⟩, .inr (.inl rc)⟩
      · rw [rc] at zero
        cases zero
      · rw [nothing, List.length_nil] at whole
        omega
      · rw [rc] at failed
        cases failed
      · cases bad with
        | cutHeader _ short => omega
        | wrongMagic _ other => exact absurd magic other
        | oversized _ large => omega
        | replay _ bit => exact absurd noReplay bit
        | cutPayload _ short => omega

/-- A packet that leads the stream is received. -/
theorem sysdvrReadPacket_wire {p : SysdvrWirePacket} {rest : List UInt8}
    (room : packet.payload.length = sysdvrMaxPayload)
    (steady : Steady (p.wire ++ rest).length recvs) :
    ∃ r, sysdvrReadPacket sysdvrMaxPayload packet recvs (p.wire ++ rest) = .ok r ∧
      r.rc = 1 ∧ r.packet.header = p.header ∧
      r.packet.payload.take r.packet.payloadSize = p.payload ∧
      r.packet.payload.length = sysdvrMaxPayload ∧ r.stream = rest ∧ Steady rest.length r.recvs := by
  have size : sysdvrPacketHeaderSize = 18 := rfl
  rcases sysdvrReadPacket_verdict room steady with ⟨r, read, verdict⟩
  rcases wire_fields p rest with ⟨magic', dataSize', _, metadata', _⟩
  have long : (p.wire ++ rest).length
      = sysdvrPacketHeaderSize + p.payload.length + rest.length := by
    rw [SysdvrWirePacket.wire, List.length_append, List.length_append, p.length_head]
  have behind : (p.wire ++ rest).drop sysdvrPacketHeaderSize = p.payload ++ rest := by
    rw [SysdvrWirePacket.wire, List.append_assoc, ← p.length_head, List.drop_left]
  refine ⟨r, read, ?_⟩
  cases verdict with
  | ended nothing _ =>
      rw [nothing, List.length_nil] at long
      omega
  | refused bad _ =>
      exfalso
      have fits := p.fits
      cases bad with
      | cutHeader _ short => omega
      | wrongMagic _ other => exact other magic'
      | oversized _ large => omega
      | replay _ bit => exact bit (metadata' ▸ p.noReplay)
      | cutPayload _ short => omega
  | received rc whole magic fits noReplay header payload capacity remaining steady' =>
      rw [dataSize', behind, List.take_left] at payload
      rw [dataSize', ← List.drop_drop, behind, List.drop_left] at remaining
      rw [remaining] at steady'
      exact ⟨rc, header.trans (sysdvrDecodeHeader_wire p rest), payload, capacity.trans room, remaining,
        steady'⟩

/-! ### A connection that breaks -/

theorem sysdvrReadBody_spent {capacity : Nat} {raw : List UInt8} {r : SysdvrReadResult}
    (read : sysdvrReadBody capacity packet raw recvs stream = .ok r) : SpentOn recvs r.recvs r.rc := by
  unfold sysdvrReadBody at read
  dsimp only at read
  generalize sysdvrDecodeHeader raw = h at read
  split at read
  · cases read
    exact .nothing _ _
  split at read
  · cases read
    exact .nothing _ _
  split at read
  · cases read
    exact .nothing _ _
  split at read
  · cases body : sysdvrReadExact h.dataSize.toNat recvs stream packet.payload 0 with
    | error halt =>
        rw [body] at read
        cases read
    | ok b =>
        have spent := sysdvrReadExact_spent body
        simp only [body, bind, Except.bind, pure, Except.pure] at read
        split at read
        · cases read
          exact spent.imp fun _ => rfl
        · next complete =>
            cases read
            refine spent.imp fun failed => ?_
            have got : b.got = h.dataSize.toNat := not_not.mp complete
            omega
  · cases read
    exact .nothing _ _

/-- A packet read that meets a broken connection, wherever that happens, returns -1. -/
theorem sysdvrReadPacket_spent {capacity : Nat} {r : SysdvrReadResult}
    (read : sysdvrReadPacket capacity packet recvs stream = .ok r) : SpentOn recvs r.recvs r.rc := by
  unfold sysdvrReadPacket at read
  cases head : sysdvrReadExact sysdvrPacketHeaderSize recvs stream
      (List.replicate sysdvrPacketHeaderSize 0) 0 with
  | error halt =>
      rw [head] at read
      cases read
  | ok b =>
      have spent := sysdvrReadExact_spent head
      simp only [head, bind, Except.bind, pure, Except.pure] at read
      split at read
      · next zero =>
          cases read
          refine spent.imp fun failed => ?_
          rw [zero] at failed
          cases failed
      · split at read
        · cases read
          exact spent.imp fun _ => rfl
        · next complete =>
            have got : b.got = sysdvrPacketHeaderSize := not_not.mp complete
            refine spent.trans (sysdvrReadBody_spent read) (fun failed => ?_) id
            rw [got] at failed
            cases failed

/-! ### The stream -/

theorem sysdvrReadPackets_wire {packets : List SysdvrWirePacket} {rest : List UInt8}
    (room : packet.payload.length = sysdvrMaxPayload)
    (steady : Steady (packets.flatMap SysdvrWirePacket.wire ++ rest).length recvs) :
    ∃ packet' recvs', sysdvrReadPackets packets.length packet recvs
        (packets.flatMap SysdvrWirePacket.wire ++ rest)
        = .ok (packets.map fun p => ⟨1, p.header, p.payload⟩, packet', recvs', rest) ∧
      packet'.payload.length = sysdvrMaxPayload ∧ Steady rest.length recvs' := by
  induction packets generalizing packet recvs with
  | nil => exact ⟨packet, recvs, rfl, room, steady⟩
  | cons p packets ih =>
      rw [List.flatMap_cons, List.append_assoc] at steady ⊢
      rcases sysdvrReadPacket_wire room steady with
        ⟨r, read, rc, header, payload, room', remaining, steady'⟩
      rcases ih room' steady' with ⟨packet', recvs', others, room'', steady''⟩
      refine ⟨packet', recvs', ?_, room'', steady''⟩
      rw [List.length_cons, sysdvrReadPackets, read]
      simp only [bind, Except.bind, remaining, others, rc, header, payload]
      rfl

/-- For every list of packets, everything that may stand behind them, and every schedule of interrupted calls
    and deliveries of any sizes that never stops delivering: the packet reads return the packets in order.
    The next read returns 0 exactly at the end of the stream and -1 exactly if what follows is malformed.
    Any read that meets a failed or timed-out `recv` returns -1. -/
theorem sysdvr_framing_round_trip (packets : List SysdvrWirePacket) (rest : List UInt8)
    (packet : SysdvrPacket) (schedule : Nat → RecvResult)
    (room : packet.payload.length = sysdvrMaxPayload)
    (lives : ∀ k, ¬ (schedule k).Breaks)
    (fair : FairSchedule.Fair RecvResult.delivers schedule) :
    (∃ enough, ∀ turns, enough ≤ turns → ∃ packet' recvs' last,
      sysdvrReadPackets packets.length packet ((List.range turns).map schedule)
          (packets.flatMap SysdvrWirePacket.wire ++ rest)
        = .ok (packets.map fun p => ⟨1, p.header, p.payload⟩, packet', recvs', rest) ∧
      sysdvrReadPacket sysdvrMaxPayload packet' recvs' rest = .ok last ∧
      (last.rc = 0 ↔ rest = []) ∧ (last.rc = -1 ↔ Malformed rest) ∧
      (last.rc = 0 ∨ last.rc = 1 ∨ last.rc = -1)) ∧
    ∀ capacity own recvs stream r,
      sysdvrReadPacket capacity own recvs stream = .ok r → SpentOn recvs r.recvs r.rc := by
  refine ⟨?_, fun _ _ _ _ _ read => sysdvrReadPacket_spent read⟩
  rcases FairSchedule.exists_many fair (packets.flatMap SysdvrWirePacket.wire ++ rest).length with
    ⟨enough, many⟩
  refine ⟨enough, fun turns later => ?_⟩
  have steady : Steady (packets.flatMap SysdvrWirePacket.wire ++ rest).length
      ((List.range turns).map schedule) := by
    refine ⟨fun answer member => ?_, many turns later⟩
    rcases List.mem_map.mp member with ⟨k, _, rfl⟩
    exact lives k
  rcases sysdvrReadPackets_wire room steady with ⟨packet', recvs', reads, room', steady'⟩
  rcases sysdvrReadPacket_verdict room' steady' with ⟨last, read, verdict⟩
  exact ⟨packet', recvs', last, reads, read, verdict.rc_iff⟩

/-- A video packet of three bytes. -/
def threeByteVideo : SysdvrWirePacket where
  timestampUs := 0x0102030405060708
  metadata := sysdvrPacketVideo
  replaySlot := 7
  payload := [9, 8, 7]
  noReplay := by decide
  fits := by decide

/-- Two packets and the first twenty bytes of a third, at most five bytes at a time with interrupted calls
    in between. -/
theorem fiveByteSegments_round_trip :
    ∃ enough, ∀ turns, enough ≤ turns → ∃ packet' recvs' last,
      sysdvrReadPackets 2 ⟨threeByteVideo.header, List.replicate sysdvrMaxPayload 0, 0⟩
          ((List.range turns).map fun k => if k % 2 = 0 then .interrupted else .bytes 4)
          ([threeByteVideo, threeByteVideo].flatMap SysdvrWirePacket.wire ++ threeByteVideo.wire.take 20)
        = .ok ([threeByteVideo, threeByteVideo].map fun p => ⟨1, p.header, p.payload⟩, packet', recvs',
            threeByteVideo.wire.take 20) ∧
      sysdvrReadPacket sysdvrMaxPayload packet' recvs' (threeByteVideo.wire.take 20) = .ok last ∧
      last.rc = -1 := by
  rcases (sysdvr_framing_round_trip [threeByteVideo, threeByteVideo] (threeByteVideo.wire.take 20)
    ⟨threeByteVideo.header, List.replicate sysdvrMaxPayload 0, 0⟩
    (fun k => if k % 2 = 0 then .interrupted else .bytes 4) List.length_replicate
    (fun k => by split <;> decide)
    (fun k => ⟨2 * k + 1, by omega, by simp [RecvResult.delivers, Nat.add_mod]⟩)).1 with
    ⟨enough, reads⟩
  refine ⟨enough, fun turns later => ?_⟩
  rcases reads turns later with ⟨packet', recvs', last, all, read, _, malformed, _⟩
  exact ⟨packet', recvs', last, all, read, malformed.mpr (.cutPayload (by decide) (by decide))⟩

end SysdvrWebos
