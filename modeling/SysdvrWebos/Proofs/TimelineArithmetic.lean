/-
Module: SysdvrWebos.Proofs.TimelineArithmetic
Layer: Proofs
Purpose: Which time stamps the arithmetic of a session computes exactly. The unsigned differences are
  guarded and never wrap; the two casts to signed are not guarded. The initial offset is exact exactly if
  both first time stamps are on one side of 2^63, and a packet reaches the player with a time stamp that
  is not negative exactly if it is less than 2^63 behind the time base.
Trusted boundary: none (fully proved)
Main exports: OffsetExact, PtsExact, GapExact, toInt_toInt64, offsetExact_iff, ptsExact_iff,
  timeline_exact_iff, far_first_stamps_break_the_timeline
Open obligations: none
-/
import SysdvrWebos.Core.Timeline
import SysdvrWebos.Proofs.Delivery

namespace SysdvrWebos

open Runs

/-! ### Exactness -/

/-- The initial offset has a value, and it is the difference of the time stamps. -/
def OffsetExact (videoUs audioUs : UInt64) : Prop :=
  ∃ offset, initialAvUs videoUs audioUs = some offset ∧
    offset.toInt = (audioUs.toNat : Int) - videoUs.toNat

/-- The worker stamps the packet with its distance from the base, and the player is not given a negative
    time stamp. -/
def PtsExact (baseUs : Nat) (w : StreamWorker) (packet : MediaPacket) : Prop :=
  ((w.ptsUs packet).toNat : Int) = distanceUs baseUs packet ∧ 0 ≤ (ndlPts (w.ptsUs packet)).toInt

/-- The source gap is the distance from the packet before. -/
def GapExact (w : ArrivalDiagnosis) (previous header : SysdvrPacketHeader) : Prop :=
  ((sourceGapUs w header).toNat : Int)
    = max 0 ((header.timestampUs.toNat : Int) - previous.timestampUs.toNat)

/-! ### The casts -/

/-- A cast to signed keeps the value below the sign bit and takes off 2^64 from there on. -/
theorem toInt_toInt64 (x : UInt64) :
    x.toInt64.toInt = if x.toNat < 2 ^ 63 then (x.toNat : Int) else (x.toNat : Int) - 2 ^ 64 := by
  have cast : x.toInt64.toInt = x.toBitVec.toInt := by
    rw [← Int64.toInt_toBitVec, UInt64.toBitVec_toInt64]
  rw [cast, BitVec.toInt_eq_toNat_cond, UInt64.toNat_toBitVec]
  split
  · rw [if_pos (by omega)]
  · rw [if_neg (by omega)]
    norm_num

/-- The initial offset is exact exactly if neither or both of the casts change the sign. -/
theorem offsetExact_iff (videoUs audioUs : UInt64) :
    OffsetExact videoUs audioUs ↔ (audioUs.toNat < 2 ^ 63 ↔ videoUs.toNat < 2 ^ 63) := by
  have audio := toInt_toInt64 audioUs
  have video := toInt_toInt64 videoUs
  have audioBound := audioUs.toNat_lt
  have videoBound := videoUs.toNat_lt
  unfold OffsetExact initialAvUs
  rw [Int64.toInt_minValue, Int64.toInt_maxValue]
  dsimp only
  constructor
  · rintro ⟨offset, value, exact_⟩
    split at value
    · next fits =>
        cases value
        rw [Int64.toInt_ofInt_of_le (by omega) (by omega)] at exact_
        split at audio <;> split at video <;> omega
    · cases value
  · intro sameSide
    have difference : audioUs.toInt64.toInt - videoUs.toInt64.toInt
        = (audioUs.toNat : Int) - videoUs.toNat := by
      split at audio <;> split at video <;> omega
    have fits : -2 ^ 63 ≤ (audioUs.toNat : Int) - videoUs.toNat ∧
        (audioUs.toNat : Int) - videoUs.toNat ≤ 2 ^ 63 - 1 := by
      omega
    refine ⟨_, if_pos (difference ▸ fits), ?_⟩
    rw [difference, Int64.toInt_ofInt_of_le (by omega) (by omega)]

/-- A time stamp reaches the player without a sign exactly if it is below 2^63. -/
theorem ndlPts_nonneg_iff (ptsUs : UInt64) : 0 ≤ (ndlPts ptsUs).toInt ↔ ptsUs.toNat < 2 ^ 63 := by
  have bound := ptsUs.toNat_lt
  rw [ndlPts, toInt_toInt64]
  split <;> omega

/-! ### The guarded differences -/

theorem ptsExact_iff {baseUs : Nat} {w : StreamWorker} (based : w.timelineBaseUs.toNat = baseUs)
    (packet : MediaPacket) :
    PtsExact baseUs w packet ↔ packet.header.timestampUs.toNat - baseUs < 2 ^ 63 := by
  have stamp := ptsUs_toNat w packet
  rw [based] at stamp
  rw [PtsExact, ndlPts_nonneg_iff]
  constructor
  · rintro ⟨-, below⟩
    rw [distanceUs] at stamp
    omega
  · intro near
    refine ⟨stamp, ?_⟩
    rw [distanceUs] at stamp
    omega

/-- The source gap is exact for every two time stamps. -/
theorem gapExact_diagnoseArrivals (earlier : List (SysdvrPacketHeader × UInt64))
    (previous header : SysdvrPacketHeader) (nowUs : UInt64) :
    GapExact (diagnoseArrivals (earlier ++ [(previous, nowUs)])) previous header := by
  unfold GapExact sourceGapUs
  rw [lastSourcePtsUs_diagnoseArrivals]
  split
  · next reached =>
      have bound := UInt64.le_iff_toNat_le.mp reached
      rw [UInt64.toNat_sub_of_le _ _ reached]
      omega
  · next ahead =>
      have bound : ¬ previous.timestampUs.toNat ≤ header.timestampUs.toNat := fun le =>
        ahead (UInt64.le_iff_toNat_le.mpr le)
      have zero : (0 : UInt64).toNat = 0 := rfl
      rw [zero]
      omega

/-! ### Sessions -/

/-- In every state of every session with the given first packets, the timeline arithmetic of a packet is
    exact exactly if the first time stamps are on one side of 2^63 and the packet is less than 2^63 behind
    the earlier of them. -/
theorem timeline_exact_iff (allocated : StreamKind → Bool) (reads : StreamKind → List PacketRead)
    (start s : Session) (video audio : MediaPacket) (events : List SessionEvent)
    (primed : primeSession allocated reads = .ok (some start)) (firstVideo : start.video.first = some video)
    (firstAudio : start.audio.first = some audio) (run : exec sessionStep start events = some s)
    (kind : StreamKind) (earlier : List (SysdvrPacketHeader × UInt64)) (previous : SysdvrPacketHeader)
    (nowUs : UInt64) (packet : MediaPacket) :
    let baseUs := min video.header.timestampUs.toNat audio.header.timestampUs.toNat
    (OffsetExact video.header.timestampUs audio.header.timestampUs ∧
        PtsExact baseUs (s.worker kind) packet ∧
        GapExact (diagnoseArrivals (earlier ++ [(previous, nowUs)])) previous packet.header) ↔
      (audio.header.timestampUs.toNat < 2 ^ 63 ↔ video.header.timestampUs.toNat < 2 ^ 63) ∧
        packet.header.timestampUs.toNat - baseUs < 2 ^ 63 := by
  intro baseUs
  rcases primeSession_some primed with ⟨video', audio', videoRest, audioRest, _, _, rfl⟩
  cases firstVideo
  cases firstAudio
  have wired : s.Wired (earlierUs video.header.timestampUs audio.header.timestampUs) := by
    apply exec_invariant _ _ run
    · exact fun s event next wired => Session.Wired.step wired
    · exact wired_primedSession _ _ _ _ _
  have based : (s.worker kind).timelineBaseUs.toNat = baseUs := by
    rw [wired.base kind, earlierUs_toNat]
  rw [offsetExact_iff, ptsExact_iff based]
  simp only [gapExact_diagnoseArrivals, and_true]

theorem mixedSession_timeline_exact :
    OffsetExact 1000 1012 ∧
      PtsExact 1000 (mixedSession.worker .video) ⟨(smallPacket 0x01 1033).header, [9]⟩ ∧
      GapExact (diagnoseArrivals ([] ++ [((smallPacket 0x01 1000).header, 5)]))
        (smallPacket 0x01 1000).header (smallPacket 0x01 1033).header := by
  have primed : primeSession (fun _ => true) mixedReads = .ok (some mixedSession) := rfl
  apply (timeline_exact_iff _ mixedReads mixedSession mixedSession _ _ [] primed rfl rfl rfl .video []
    (smallPacket 0x01 1000).header 5 ⟨(smallPacket 0x01 1033).header, [9]⟩).mpr
  decide

/-- The console stamps its first video packet with 0 and its first audio packet with 2^63. -/
def farReads : StreamKind → List PacketRead
  | .video => [.packet (smallPacket 0x01 0).header [7]]
  | .audio => [.packet (smallPacket 0x02 9223372036854775808).header [5]]

/-- The session on these sockets. -/
def farSession : Session :=
  primedSession 0 ⟨(smallPacket 0x01 0).header, [7]⟩
    ⟨(smallPacket 0x02 9223372036854775808).header, [5]⟩ [] []

/-- The initial offset comes out negative, and the audio packet would be played at a negative time. -/
theorem far_first_stamps_break_the_timeline :
    ¬ ∀ (allocated : StreamKind → Bool) (reads : StreamKind → List PacketRead) (start s : Session)
      (video audio : MediaPacket) (events : List SessionEvent),
      primeSession allocated reads = .ok (some start) → start.video.first = some video →
      start.audio.first = some audio → exec sessionStep start events = some s →
      ∀ (kind : StreamKind) (earlier : List (SysdvrPacketHeader × UInt64)) (previous : SysdvrPacketHeader)
        (nowUs : UInt64) (packet : MediaPacket),
        OffsetExact video.header.timestampUs audio.header.timestampUs ∧
        PtsExact (min video.header.timestampUs.toNat audio.header.timestampUs.toNat) (s.worker kind)
          packet ∧
        GapExact (diagnoseArrivals (earlier ++ [(previous, nowUs)])) previous packet.header := by
  intro always
  have primed : primeSession (fun _ => true) farReads = .ok (some farSession) := rfl
  have exact_ := always _ farReads farSession farSession _ _ [] primed rfl rfl rfl .audio []
    (smallPacket 0x02 0).header 1 ⟨(smallPacket 0x02 9223372036854775808).header, [5]⟩
  have sameSide := (offsetExact_iff _ _).mp exact_.1
  revert sameSide
  decide

end SysdvrWebos
