/-
Module: SysdvrWebos.Core.Timeline
Layer: Core
Purpose: The arithmetic of a SysDVR session on the time stamps of the console, beside the one of
  submit_packet: the initial offset of run_stream_session, the gaps of diagnose_arrival
  (src/webos_main.c), and the cast of feed_locked (src/ndl_media.c). A signed operation that overflows has
  no value.
Trusted boundary: none
Main exports: initialAvUs, ndlPts, ArrivalDiagnosis, sourceGapUs, diagnoseArrival, diagnoseArrivals
Open obligations: none
-/
import SysdvrWebos.Core.StreamSession

namespace SysdvrWebos

/-- `initial_av_us`: the first time stamps are cast to signed and then subtracted. -/
def initialAvUs (videoUs audioUs : UInt64) : Option Int64 :=
  let difference := audioUs.toInt64.toInt - videoUs.toInt64.toInt
  if Int64.minValue.toInt ≤ difference ∧ difference ≤ Int64.maxValue.toInt then
    some (Int64.ofInt difference)
  else
    none

/-- `(long long)pts_us`, the time stamp as the player is given it. -/
def ndlPts (ptsUs : UInt64) : Int64 := ptsUs.toInt64

/-- `DIAG_GAP_US`. -/
def diagGapUs : UInt64 := 250000

/-- The fields of `stream_worker` that `diagnose_arrival` writes. -/
structure ArrivalDiagnosis where
  lastSourcePtsUs : UInt64
  lastRxWallUs : UInt64
  gapEvents : UInt64
  maxWallGapUs : UInt64
  maxSourceGapUs : UInt64
deriving Repr, DecidableEq

/-- The fields as the worker starts with them. -/
def ArrivalDiagnosis.start : ArrivalDiagnosis := ⟨0, 0, 0, 0, 0⟩

/-- `pts_delta` of `diagnose_arrival`. -/
def sourceGapUs (w : ArrivalDiagnosis) (header : SysdvrPacketHeader) : UInt64 :=
  if header.timestampUs ≥ w.lastSourcePtsUs then header.timestampUs - w.lastSourcePtsUs else 0

/-- `diagnose_arrival`, but for its log line. -/
def diagnoseArrival (w : ArrivalDiagnosis) (header : SysdvrPacketHeader) (nowUs : UInt64) :
    ArrivalDiagnosis :=
  let measured :=
    if w.lastRxWallUs ≠ 0 then
      let wallDelta := nowUs - w.lastRxWallUs
      let ptsDelta := sourceGapUs w header
      { w with
        maxWallGapUs := if wallDelta > w.maxWallGapUs then wallDelta else w.maxWallGapUs
        maxSourceGapUs := if ptsDelta > w.maxSourceGapUs then ptsDelta else w.maxSourceGapUs
        gapEvents :=
          if wallDelta ≥ diagGapUs ∨ ptsDelta ≥ diagGapUs then w.gapEvents + 1 else w.gapEvents }
    else
      w
  { measured with lastRxWallUs := nowUs, lastSourcePtsUs := header.timestampUs }

/-- `diagnose_arrival` on the packets of a worker, each with the time of its arrival. -/
def diagnoseArrivals (arrivals : List (SysdvrPacketHeader × UInt64)) : ArrivalDiagnosis :=
  arrivals.foldl (fun w arrival => diagnoseArrival w arrival.1 arrival.2) .start

/-- The next packet is measured against the one before it. -/
theorem lastSourcePtsUs_diagnoseArrivals (earlier : List (SysdvrPacketHeader × UInt64))
    (previous : SysdvrPacketHeader) (nowUs : UInt64) :
    (diagnoseArrivals (earlier ++ [(previous, nowUs)])).lastSourcePtsUs = previous.timestampUs := by
  rw [diagnoseArrivals, List.foldl_append]
  rfl

end SysdvrWebos
