/-
Module: SysdvrWebos.Core.SessionManager
Layer: Core
Purpose: The registry of discovered consoles (src/session_manager.c, include/sysdvr/session_manager.h):
  eight slots with a count, a cursor, and the console to reconnect to. Slots at or above the count keep
  whatever stood there, as in the source; `live` is the part the program reads.
Trusted boundary: none
Main exports: SysdvrDevice, SessionDevice, SessionManager, sameDevice, sessionManagerSeen,
  sessionManagerAddManual, sessionManagerPrune, sessionManagerMove, sessionManagerSelected,
  sessionManagerRememberSelected, sessionManagerMatchesPreferred, RegistryOp, registryStep
Open obligations: none
-/
import SysdvrWebos.Lib.CText
import SysdvrWebos.Lib.Compaction
import SysdvrWebos.Lib.Runs

namespace SysdvrWebos

/-- `stream_source`. -/
inductive StreamSource where
  | sysdvr
  | frametap
deriving Repr, DecidableEq

/-- `sysdvr_device`. -/
structure SysdvrDevice where
  source : StreamSource
  host : CText 64
  clientVersion : CText 32
  protocol : CText 8
  serial : CText 96
deriving DecidableEq

/-- The record `memset` to zero. -/
def SysdvrDevice.zero : SysdvrDevice where
  source := .sysdvr
  host := .empty
  clientVersion := .empty
  protocol := .empty
  serial := .empty

/-- `session_device`. -/
structure SessionDevice where
  info : SysdvrDevice
  lastSeenMs : UInt64
  manual : Bool
deriving DecidableEq

def SessionDevice.zero : SessionDevice := ⟨.zero, 0, false⟩

/-- `SYSDVR_SESSION_MAX_DEVICES`. -/
def sessionMaxDevices : Nat := 8

/-- `SYSDVR_DEVICE_STALE_MS`. -/
def deviceStaleMs : UInt64 := 7000

/-- `session_manager`. The array has its fixed size and the count never leaves it. -/
structure SessionManager where
  devices : List SessionDevice
  devices_length : devices.length = sessionMaxDevices
  count : Nat
  count_le : count ≤ sessionMaxDevices
  selected : Nat
  preferredSerial : CText 96
  preferredHost : CText 64
  preferredSource : StreamSource
  havePreferred : Bool

namespace SessionManager

/-- The entries below the count, in array order. -/
def live (m : SessionManager) : List SessionDevice := m.devices.take m.count

@[simp] theorem live_length (m : SessionManager) : m.live.length = m.count := by
  have size := m.devices_length
  have bound := m.count_le
  simp [live]
  omega

end SessionManager

/-- `same_device`: the backends must agree; two known serials decide, otherwise the hosts do. -/
def sameDevice (entry : SessionDevice) (device : SysdvrDevice) : Bool :=
  if entry.info.source ≠ device.source then
    false
  else if entry.info.serial.bytes ≠ [] ∧ device.serial.bytes ≠ [] then
    entry.info.serial.bytes = device.serial.bytes
  else
    entry.info.host.bytes = device.host.bytes

/-- `session_manager_init`. -/
def sessionManagerInit : SessionManager where
  devices := List.replicate sessionMaxDevices .zero
  devices_length := by simp
  count := 0
  count_le := Nat.zero_le _
  selected := 0
  preferredSerial := .empty
  preferredHost := .empty
  preferredSource := .sysdvr
  havePreferred := false

namespace SessionManager

/-- Assign one array cell. -/
def assign (m : SessionManager) (i : Nat) (entry : SessionDevice) : SessionManager :=
  { m with
    devices := m.devices.set i entry
    devices_length := by rw [List.length_set, m.devices_length] }

/-- `&m->devices[m->count++]` followed by writing the new entry. -/
def append (m : SessionManager) (room : m.count < sessionMaxDevices) (entry : SessionDevice) :
    SessionManager :=
  { m.assign m.count entry with
    count := m.count + 1
    count_le := room }

end SessionManager

/-- `session_manager_seen`: overwrite the first entry that is the same device, or append. -/
def sessionManagerSeen (m : SessionManager) (device : SysdvrDevice) (nowMs : UInt64) :
    SessionManager :=
  match m.live.findIdx? (fun entry => sameDevice entry device) with
  | some i => m.assign i { info := device, lastSeenMs := nowMs, manual := false }
  | none =>
      if room : m.count < sessionMaxDevices then
        m.append room { info := device, lastSeenMs := nowMs, manual := false }
      else
        m

/-- The record `session_manager_add_manual` fills in for a configured host. -/
def manualDevice (host : CString) : SessionDevice where
  info :=
    { source := .sysdvr
      host := .print 64 host
      -- "manual"
      clientVersion := ⟨[109, 97, 110, 117, 97, 108], by decide, by decide⟩
      -- "--"
      protocol := ⟨[45, 45], by decide, by decide⟩
      serial := .empty }
  lastSeenMs := 0xFFFFFFFFFFFFFFFF
  manual := true

/-- `session_manager_add_manual`. -/
def sessionManagerAddManual (m : SessionManager) (host : CString) : SessionManager :=
  if host.bytes = [] then
    m
  else if room : m.count < sessionMaxDevices then
    m.append room (manualDevice host)
  else
    m

/-- The test that lets `session_manager_prune` keep an entry. -/
def keepEntry (nowMs : UInt64) (entry : SessionDevice) : Bool :=
  entry.manual || nowMs < entry.lastSeenMs || nowMs - entry.lastSeenMs ≤ deviceStaleMs

/-- `session_manager_selected`. -/
def sessionManagerSelected (m : SessionManager) : Option SessionDevice :=
  if m.count = 0 ∨ m.selected ≥ m.count then
    none
  else
    m.devices[m.selected]?

/-- The registry after the compaction loop of `session_manager_prune`, the cursor not yet repaired. -/
def SessionManager.compacted (m : SessionManager) (nowMs : UInt64) : SessionManager :=
  { m with
    devices := (Compaction.compact (keepEntry nowMs) m.count m.devices 0 0).1
    devices_length := by rw [Compaction.compact_length, m.devices_length]
    count := (Compaction.compact (keepEntry nowMs) m.count m.devices 0 0).2
    count_le := by
      have size := m.devices_length
      have bound := m.count_le
      rw [Compaction.compact_count (Nat.le_refl 0) (by omega)]
      have short := List.length_filter_le (keepEntry nowMs) ((m.devices.drop 0).take m.count)
      have window := List.length_take_le m.count (m.devices.drop 0)
      omega }

/-- `session_manager_prune`. The identity of the selected entry is saved before the compaction and
    searched for afterwards. -/
def sessionManagerPrune (m : SessionManager) (nowMs : UInt64) : SessionManager :=
  let selectedInfo := (sessionManagerSelected m).map (·.info)
  let pruned := m.compacted nowMs
  if pruned.count = 0 then
    { pruned with selected := 0 }
  else
    match selectedInfo.bind fun info =>
        pruned.live.findIdx? (fun entry => sameDevice entry info) with
    | some i => { pruned with selected := i }
    | none =>
        if pruned.selected ≥ pruned.count then
          { pruned with selected := pruned.count - 1 }
        else
          pruned

/-- `session_manager_move`. -/
def sessionManagerMove (m : SessionManager) (delta : Int) : SessionManager :=
  if m.count = 0 ∨ delta = 0 then
    m
  else
    let selected : Int := (m.selected : Int) + delta
    { m with
      selected :=
        if selected < 0 then m.count - 1
        else if selected ≥ m.count then 0
        else selected.toNat }

/-- `session_manager_remember_selected`. -/
def sessionManagerRememberSelected (m : SessionManager) : SessionManager :=
  match sessionManagerSelected m with
  | none => m
  | some entry =>
      { m with
        preferredHost := .print 64 entry.info.host.toCString
        preferredSerial := .print 96 entry.info.serial.toCString
        preferredSource := entry.info.source
        havePreferred := true }

/-- `session_manager_matches_preferred`. -/
def sessionManagerMatchesPreferred (m : SessionManager) (device : SysdvrDevice) : Bool :=
  if !m.havePreferred then
    false
  else if m.preferredSource ≠ device.source then
    false
  else if m.preferredSerial.bytes ≠ [] ∧ device.serial.bytes ≠ [] then
    m.preferredSerial.bytes = device.serial.bytes
  else
    m.preferredHost.bytes = device.host.bytes

/-! ### What each operation does to the entries below the count -/

namespace SessionManager

theorem live_assign {m : SessionManager} {i : Nat} {entry : SessionDevice} :
    (m.assign i entry).live = m.live.set i entry := by
  simp [live, assign, List.take_set]

theorem live_append {m : SessionManager} {entry : SessionDevice} (room : m.count < sessionMaxDevices) :
    (m.append room entry).live = m.live ++ [entry] := by
  have size := m.devices_length
  have inside : m.count < m.devices.length := by omega
  simp only [live, append, assign]
  rw [List.take_add_one, List.take_set_of_le (Nat.le_refl m.count), List.getElem?_set_self inside]
  rfl

theorem live_compacted (m : SessionManager) (nowMs : UInt64) :
    (m.compacted nowMs).live = m.live.filter (keepEntry nowMs) := by
  have size := m.devices_length
  have bound := m.count_le
  have room : 0 + m.count ≤ m.devices.length := by omega
  have kept : (m.compacted nowMs).live
      = m.devices.take 0 ++ ((m.devices.drop 0).take m.count).filter (keepEntry nowMs) :=
    Compaction.compact_take (Nat.le_refl 0) room
  simpa [live] using kept

end SessionManager

/-- The wrapping age test keeps an entry exactly if it is manual or its stamp is at most seven seconds
    old, also when the stamp lies after now. -/
theorem keepEntry_iff (nowMs : UInt64) (entry : SessionDevice) :
    keepEntry nowMs entry = true ↔
      entry.manual = true ∨ nowMs.toNat ≤ entry.lastSeenMs.toNat + 7000 := by
  have bound := nowMs.toNat_lt
  have bound' := entry.lastSeenMs.toNat_lt
  simp only [keepEntry, deviceStaleMs, Bool.or_eq_true, decide_eq_true_eq, UInt64.lt_iff_toNat_lt,
    UInt64.le_iff_toNat_le, UInt64.toNat_sub, UInt64.toNat_ofNat, or_assoc]
  apply or_congr_right
  omega

@[simp] theorem live_init : sessionManagerInit.live = [] := rfl

/-- A reported device that an entry already stands for replaces the first such entry. -/
theorem live_seen_of_match {m : SessionManager} {device : SysdvrDevice} {nowMs : UInt64} {i : Nat}
    (found : m.live.findIdx? (fun entry => sameDevice entry device) = some i) :
    (sessionManagerSeen m device nowMs).live
      = m.live.set i { info := device, lastSeenMs := nowMs, manual := false } := by
  simp [sessionManagerSeen, found, SessionManager.live_assign]

/-- A device no entry stands for is appended while a slot is free. -/
theorem live_seen_of_room {m : SessionManager} {device : SysdvrDevice} {nowMs : UInt64}
    (unknown : m.live.findIdx? (fun entry => sameDevice entry device) = none)
    (room : m.count < sessionMaxDevices) :
    (sessionManagerSeen m device nowMs).live
      = m.live ++ [{ info := device, lastSeenMs := nowMs, manual := false }] := by
  simp [sessionManagerSeen, unknown, room, SessionManager.live_append]

/-- With all slots taken an unknown device is ignored. -/
theorem seen_of_full {m : SessionManager} {device : SysdvrDevice} {nowMs : UInt64}
    (unknown : m.live.findIdx? (fun entry => sameDevice entry device) = none)
    (full : ¬ m.count < sessionMaxDevices) :
    sessionManagerSeen m device nowMs = m := by
  simp [sessionManagerSeen, unknown, full]

/-- Pruning filters the entries and changes none of them. -/
@[simp] theorem live_prune (m : SessionManager) (nowMs : UInt64) :
    (sessionManagerPrune m nowMs).live = m.live.filter (keepEntry nowMs) := by
  rw [← SessionManager.live_compacted]
  simp only [sessionManagerPrune]
  split
  · rfl
  · split
    · rfl
    · split <;> rfl

@[simp] theorem live_move (m : SessionManager) (delta : Int) :
    (sessionManagerMove m delta).live = m.live := by
  simp only [sessionManagerMove]
  split <;> rfl

@[simp] theorem live_rememberSelected (m : SessionManager) :
    (sessionManagerRememberSelected m).live = m.live := by
  simp only [sessionManagerRememberSelected]
  split <;> rfl

/-- Reports and pruning leave the console to reconnect to alone. -/
@[simp] theorem matchesPreferred_seen (m : SessionManager) (device : SysdvrDevice) (nowMs : UInt64) :
    sessionManagerMatchesPreferred (sessionManagerSeen m device nowMs)
      = sessionManagerMatchesPreferred m := by
  simp only [sessionManagerSeen]
  split
  · rfl
  · split <;> rfl

@[simp] theorem matchesPreferred_prune (m : SessionManager) (nowMs : UInt64) :
    sessionManagerMatchesPreferred (sessionManagerPrune m nowMs)
      = sessionManagerMatchesPreferred m := by
  simp only [sessionManagerPrune]
  split
  · rfl
  · split
    · rfl
    · split <;> rfl

@[simp] theorem matchesPreferred_move (m : SessionManager) (delta : Int) :
    sessionManagerMatchesPreferred (sessionManagerMove m delta) = sessionManagerMatchesPreferred m := by
  simp only [sessionManagerMove]
  split <;> rfl

@[simp] theorem matchesPreferred_addManual (m : SessionManager) (host : CString) :
    sessionManagerMatchesPreferred (sessionManagerAddManual m host)
      = sessionManagerMatchesPreferred m := by
  simp only [sessionManagerAddManual]
  split
  · rfl
  · split <;> rfl

/-- The preferred console is the one under the cursor when it is remembered: both copies of the identity
    rule read the same texts, since each buffer has the size of the field it is printed from. -/
theorem matchesPreferred_rememberSelected {m : SessionManager} {entry : SessionDevice}
    (here : sessionManagerSelected m = some entry) :
    sessionManagerMatchesPreferred (sessionManagerRememberSelected m) = sameDevice entry := by
  funext device
  simp only [sessionManagerRememberSelected, here, sameDevice, sessionManagerMatchesPreferred,
    CText.print_toCString, Bool.not_true, Bool.false_eq_true, if_false]

/-! ### Runs of the registry -/

/-- One call that `main` or the functions it calls make on the registry. -/
inductive RegistryOp where
  | seen (device : SysdvrDevice) (nowMs : UInt64)
  | addManual (host : CString)
  | prune (nowMs : UInt64)
  | move (delta : Int)
  | rememberSelected

/-- Every operation is total, so each event of a registry run is enabled. -/
def registryStep (m : SessionManager) : RegistryOp → Option SessionManager
  | .seen device nowMs => some (sessionManagerSeen m device nowMs)
  | .addManual host => some (sessionManagerAddManual m host)
  | .prune nowMs => some (sessionManagerPrune m nowMs)
  | .move delta => some (sessionManagerMove m delta)
  | .rememberSelected => some (sessionManagerRememberSelected m)

theorem registryStep_total (m : SessionManager) (op : RegistryOp) :
    ∃ next, registryStep m op = some next := by
  cases op <;> exact ⟨_, rfl⟩

end SysdvrWebos
