/-
Module: SysdvrWebos.Proofs.RegistryRefinement
Layer: Proofs
Purpose: The registry refines the ordered map of Spec.DeviceMap. On reports with a consistent identity
  `same_device` is equality of keys, so the first-match scan finds the one entry of a key and the
  in-place compaction is deletion of the expired keys.
Trusted boundary: none (fully proved)
Main exports: sameDevice_eq_key, keepEntry_eq_not_expired, Represents, represents_step,
  registry_refines_device_map
Open obligations: none
-/
import SysdvrWebos.Spec.DeviceMap

namespace SysdvrWebos

/-- The registry entry that stands for an entry of the map. -/
def listedEntry (entry : DeviceKey × LastReport) : SessionDevice where
  info := entry.2.info
  lastSeenMs := entry.2.atMs
  manual := false

/-- An entry of the map is filed under the key of its own report, and the report is consistent. -/
def WellFiled (entry : DeviceKey × LastReport) : Prop :=
  entry.1 = deviceKey entry.2.info ∧ ConsistentIdentity entry.2.info

/-- The simulation relation: the listed entries are those of the map, in order. -/
structure Represents (m : SessionManager) (map : DeviceMap) : Prop where
  listed : m.live = map.entries.map listedEntry
  filed : ∀ entry ∈ map.entries, WellFiled entry

/-! ### Identity and age -/

theorem cText_eq_iff {capacity : Nat} (first second : CText capacity) :
    first.bytes = second.bytes ↔ first = second :=
  ⟨CText.ext, fun same => same ▸ rfl⟩

/-- With consistent identities the identity test compares keys. -/
theorem sameDevice_eq_key {entry : SessionDevice} {device : SysdvrDevice}
    (known : ConsistentIdentity entry.info) (reported : ConsistentIdentity device) :
    sameDevice entry device = decide (deviceKey entry.info = deviceKey device) := by
  cases backend : entry.info.source <;> cases reportedBackend : device.source <;>
    simp_all [sameDevice, deviceKey, ConsistentIdentity, cText_eq_iff]

/-- The wrapping age test keeps a discovered entry exactly while its report is at most seven seconds
    old, also when the report is stamped later than now. -/
theorem keepEntry_eq_not_expired (nowMs : UInt64) (entry : DeviceKey × LastReport) :
    keepEntry nowMs (listedEntry entry) = decide (¬ entry.2.Expired nowMs) := by
  rw [Bool.eq_iff_iff, decide_eq_true_iff, keepEntry_iff]
  simp only [listedEntry, LastReport.Expired, Bool.false_eq_true, false_or, not_lt]

/-! ### One step -/

theorem represents_init : Represents sessionManagerInit OrderedMap.empty where
  listed := rfl
  filed := by simp

/-- Tests that agree on the elements of a list find the same position. -/
private theorem findIdx?_congr_mem {α : Type*} {p q : α → Bool} {xs : List α}
    (agree : ∀ x ∈ xs, p x = q x) : xs.findIdx? p = xs.findIdx? q := by
  induction xs with
  | nil => rfl
  | cons x xs ih =>
      rw [List.findIdx?_cons, List.findIdx?_cons, agree x List.mem_cons_self,
        ih fun y member => agree y (List.mem_cons_of_mem x member)]

/-- Scanning the registry for a device is scanning the map for its key. -/
private theorem findIdx?_eq_key {m : SessionManager} {map : DeviceMap} {device : SysdvrDevice}
    (related : Represents m map) (reported : ConsistentIdentity device) :
    m.live.findIdx? (fun entry => sameDevice entry device)
      = map.entries.findIdx? (fun entry => entry.1 = deviceKey device) := by
  rw [related.listed, List.findIdx?_map]
  apply findIdx?_congr_mem
  intro entry member
  obtain ⟨key, consistent⟩ := related.filed entry member
  have identity : sameDevice (listedEntry entry) device
      = decide (deviceKey entry.2.info = deviceKey device) :=
    sameDevice_eq_key consistent reported
  rw [Function.comp_apply, identity, key]

/-- A report is a `put` under the key of the reported device. -/
theorem represents_seen {m : SessionManager} {map : DeviceMap} {device : SysdvrDevice}
    {nowMs : UInt64} (related : Represents m map) (reported : ConsistentIdentity device) :
    Represents (sessionManagerSeen m device nowMs) (map.put (deviceKey device) ⟨device, nowMs⟩) := by
  have scan := findIdx?_eq_key related reported
  have sizes : m.count = map.entries.length := by
    rw [← m.live_length, related.listed, List.length_map]
  cases found : map.entries.findIdx? (fun entry => entry.1 = deviceKey device) with
  | some i =>
      obtain ⟨bound, hit, _⟩ := List.findIdx?_eq_some_iff_getElem.mp found
      have carries : map.entries[i].1 = deviceKey device := by simpa using hit
      have present : deviceKey device ∈ map.keys :=
        List.mem_map.mpr ⟨map.entries[i], List.getElem_mem bound, carries⟩
      have overwritten : OrderedMap.overwrite (deviceKey device) ⟨device, nowMs⟩ map.entries
          = map.entries.set i (deviceKey device, ⟨device, nowMs⟩) :=
        OrderedMap.overwrite_eq_set map.keys_nodup bound carries
      constructor
      · rw [live_seen_of_match (scan.trans found), OrderedMap.put_entries_of_mem present, overwritten,
          List.map_set, related.listed]
        rfl
      · rw [OrderedMap.put_entries_of_mem present, overwritten]
        intro entry member
        rcases List.mem_or_eq_of_mem_set member with old | fresh
        · exact related.filed entry old
        · subst fresh
          exact ⟨rfl, reported⟩
  | none =>
      have absent : deviceKey device ∉ map.keys := by
        intro present
        obtain ⟨entry, member, carries⟩ := List.mem_map.mp present
        have unmatched := List.findIdx?_eq_none_iff.mp found entry member
        simp [carries] at unmatched
      by_cases room : m.count < sessionMaxDevices
      · have mapRoom : map.entries.length < sessionMaxDevices := sizes ▸ room
        constructor
        · rw [live_seen_of_room (scan.trans found) room,
            OrderedMap.put_entries_of_room absent mapRoom, List.map_append, related.listed]
          rfl
        · rw [OrderedMap.put_entries_of_room absent mapRoom]
          intro entry member
          rcases List.mem_append.mp member with old | fresh
          · exact related.filed entry old
          · rw [List.mem_singleton] at fresh
            subst fresh
            exact ⟨rfl, reported⟩
      · have mapFull : ¬ map.entries.length < sessionMaxDevices := sizes ▸ room
        constructor
        · rw [seen_of_full (scan.trans found) room, OrderedMap.put_entries_of_full absent mapFull]
          exact related.listed
        · rw [OrderedMap.put_entries_of_full absent mapFull]
          exact related.filed

/-- Pruning deletes the expired keys. -/
theorem represents_prune {m : SessionManager} {map : DeviceMap} {nowMs : UInt64}
    (related : Represents m map) :
    Represents (sessionManagerPrune m nowMs)
      (map.retain fun entry => ¬ entry.2.Expired nowMs) := by
  constructor
  · rw [live_prune, related.listed, List.filter_map, OrderedMap.retain_entries]
    congr 1
    apply List.filter_congr
    intro entry _
    exact keepEntry_eq_not_expired nowMs entry
  · intro entry member
    rw [OrderedMap.retain_entries] at member
    exact related.filed entry (List.mem_filter.mp member).1

/-- Every consistent call of the registry is matched by the step of the map. -/
theorem represents_step (m : SessionManager) (map : DeviceMap) (op : RegistryOp)
    (next : SessionManager) (consistent : op.Consistent) (related : Represents m map)
    (step : registryStep m op = some next) : Represents next (map.step op) := by
  cases op with
  | seen device nowMs =>
      cases step
      exact represents_seen related consistent
  | addManual host => exact consistent.elim
  | prune nowMs =>
      cases step
      exact represents_prune related
  | move delta =>
      cases step
      exact ⟨(live_move m delta).trans related.listed, related.filed⟩
  | rememberSelected =>
      cases step
      exact ⟨(live_rememberSelected m).trans related.listed, related.filed⟩

/-! ### Runs -/

/-- After any run of consistent reports, prunes and cursor moves the listed entries are, in array order,
    those of the ordered map the same calls build, each filed under the key of its own report. -/
theorem registry_refines_device_map (ops : List RegistryOp) (m : SessionManager)
    (consistent : ∀ op ∈ ops, op.Consistent)
    (run : Runs.exec registryStep sessionManagerInit ops = some m) :
    m.live = (ops.foldl DeviceMap.step OrderedMap.empty).entries.map listedEntry ∧
      ∀ entry ∈ (ops.foldl DeviceMap.step OrderedMap.empty).entries,
        entry.1 = deviceKey entry.2.info := by
  have related := Runs.exec_simulates represents_step consistent represents_init run
  exact ⟨related.listed, fun entry member => (related.filed entry member).1⟩

theorem x1_nul_free : (0 : UInt8) ∉ ([88, 49] : List UInt8) := by decide

theorem x1_fits : ([88, 49] : List UInt8).length < 96 := by decide

/-- A SysDVR console with serial `X1`. -/
def serialConsole : SysdvrDevice := { SysdvrDevice.zero with serial := ⟨[88, 49], x1_nul_free, x1_fits⟩ }

/-- A Frame Tap console at address `h`. -/
def tapConsole : SysdvrDevice :=
  { SysdvrDevice.zero with
    source := .frametap
    host := ⟨[104], by decide, by decide⟩ }

/-- The SysDVR console is last heard at 1000 ms, the Frame Tap console at 2000 ms: a prune at 8500 ms
    leaves the second one. -/
theorem expired_console_is_deleted :
    (sessionManagerPrune
      (sessionManagerSeen (sessionManagerSeen sessionManagerInit serialConsole 1000) tapConsole 2000)
      8500).live = [⟨tapConsole, 2000, false⟩] := by
  have refined := registry_refines_device_map
    [.seen serialConsole 1000, .seen tapConsole 2000, .prune 8500] _
    (by simp [RegistryOp.Consistent, ConsistentIdentity, serialConsole, tapConsole, SysdvrDevice.zero])
    rfl
  rw [refined.1]
  decide

end SysdvrWebos
