/-
Module: SysdvrWebos.Spec.DeviceMap
Layer: Spec
Purpose: What the console registry is for: an ordered map of at most eight consoles, keyed by the serial
  for SysDVR and by the address for Frame Tap, that remembers the last report of each and forgets a
  console seven seconds after it.
Trusted boundary: none
Main exports: DeviceKey, deviceKey, ConsistentIdentity, DeviceMap, DeviceMap.step
Open obligations: none
-/
import SysdvrWebos.Lib.OrderedMap
import SysdvrWebos.Core.SessionManager

namespace SysdvrWebos

/-- What identifies a console of each backend. -/
inductive DeviceKey where
  | sysdvr (serial : CText 96)
  | frametap (host : CText 64)
deriving DecidableEq

def deviceKey (device : SysdvrDevice) : DeviceKey :=
  match device.source with
  | .sysdvr => .sysdvr device.serial
  | .frametap => .frametap device.host

/-- A SysDVR report names its console's serial; a Frame Tap report carries none. -/
def ConsistentIdentity (device : SysdvrDevice) : Prop :=
  match device.source with
  | .sysdvr => device.serial.bytes ≠ []
  | .frametap => device.serial.bytes = []

/-- The last report about a console and its time in milliseconds. -/
structure LastReport where
  info : SysdvrDevice
  atMs : UInt64
deriving DecidableEq

abbrev DeviceMap := OrderedMap DeviceKey LastReport sessionMaxDevices

/-- The report is more than seven seconds old, over unbounded integers. -/
def LastReport.Expired (nowMs : UInt64) (report : LastReport) : Prop :=
  report.atMs.toNat + 7000 < nowMs.toNat

instance (nowMs : UInt64) (report : LastReport) : Decidable (report.Expired nowMs) :=
  inferInstanceAs (Decidable (_ < _))

/-- The effect of one registry call on the map. -/
def DeviceMap.step (map : DeviceMap) : RegistryOp → DeviceMap
  | .seen device nowMs => map.put (deviceKey device) ⟨device, nowMs⟩
  | .prune nowMs => map.retain fun entry => ¬ entry.2.Expired nowMs
  | .addManual _ | .move _ | .rememberSelected => map

/-- The calls of a run without configured hosts in which every report carries a consistent identity. -/
def RegistryOp.Consistent : RegistryOp → Prop
  | .seen device _ => ConsistentIdentity device
  | .addManual _ => False
  | .prune _ | .move _ | .rememberSelected => True

end SysdvrWebos
