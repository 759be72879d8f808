/-
Module: SysdvrWebos.Proofs.TickWrap
Layer: Proofs
Purpose: Expiry of the listed consoles in real time. Entries are stamped and pruned with `ui_now_ms`, a
  32-bit counter widened to 64 bits, and the age test compares the widened values. Beside each entry runs
  the real time of its last report: a stale entry is removed exactly if the counter has not wrapped since
  that report, and a recent one is always kept.
Trusted boundary: `SDL_GetTicks` is the real time modulo 2^32 ms
Main exports: TimedRegistry, TimedOp, timedStep, Stamped, ExpiresStale, KeepsRecent, NoWrapSince,
  expiry_iff_no_wrap, stale_console_survives_the_wrap
Open obligations: none
-/
import SysdvrWebos.Core.MainLoop

namespace SysdvrWebos

open Runs

/-! ### The registry in real time -/

/-- The registry with the real time in milliseconds, and beside each listed entry the real time at which
    it was last reported (for a configured host, at which it was added). -/
structure TimedRegistry where
  clock : Nat
  manager : SessionManager
  dated : List (SessionDevice × Nat)
  entries : dated.map Prod.fst = manager.live

/-- What happens to the registry, each call at the time of the clock. -/
inductive TimedOp where
  | elapse (ms : Nat)
  | seen (device : SysdvrDevice)
  | addManual (host : CString)
  | prune
  | move (delta : Int)
  | rememberSelected

namespace TimedRegistry

/-- The empty registry at a given time. -/
def start (clock : Nat) : TimedRegistry := ⟨clock, sessionManagerInit, [], rfl⟩

/-- The stamp of a report. -/
def nowMs (s : TimedRegistry) : UInt64 := uiNowMs s.clock

/-- What a report writes. -/
def report (s : TimedRegistry) (device : SysdvrDevice) : SessionDevice × Nat :=
  (⟨device, s.nowMs, false⟩, s.clock)

/-- `session_manager_seen` dates the entry it writes. -/
def seen (s : TimedRegistry) (device : SysdvrDevice) : TimedRegistry :=
  match found : s.manager.live.findIdx? (fun entry => sameDevice entry device) with
  | some i =>
      { s with
        manager := sessionManagerSeen s.manager device s.nowMs
        dated := s.dated.set i (s.report device)
        entries := by rw [List.map_set, s.entries, live_seen_of_match found, report] }
  | none =>
      if room : s.manager.count < sessionMaxDevices then
        { s with
          manager := sessionManagerSeen s.manager device s.nowMs
          dated := s.dated ++ [s.report device]
          entries := by
            rw [List.map_append, s.entries, live_seen_of_room found room, report]
            rfl }
      else
        { s with
          manager := sessionManagerSeen s.manager device s.nowMs
          entries := by rw [seen_of_full found room, s.entries] }

/-- `session_manager_add_manual`. -/
def addManual (s : TimedRegistry) (host : CString) : TimedRegistry :=
  if room : host.bytes ≠ [] ∧ s.manager.count < sessionMaxDevices then
    { s with
      manager := sessionManagerAddManual s.manager host
      dated := s.dated ++ [(manualDevice host, s.clock)]
      entries := by
        rw [List.map_append, s.entries, sessionManagerAddManual, if_neg room.1, dif_pos room.2,
          SessionManager.live_append]
        rfl }
  else
    { s with
      manager := sessionManagerAddManual s.manager host
      entries := by
        rw [s.entries, sessionManagerAddManual]
        split
        · rfl
        · next some_ => rw [dif_neg fun free => room ⟨some_, free⟩] }

/-- `session_manager_prune` keeps the dates of what it keeps. -/
def prune (s : TimedRegistry) : TimedRegistry :=
  { s with
    manager := sessionManagerPrune s.manager s.nowMs
    dated := s.dated.filter (keepEntry s.nowMs ∘ Prod.fst)
    entries := by rw [live_prune, ← s.entries, List.filter_map] }

def move (s : TimedRegistry) (delta : Int) : TimedRegistry :=
  { s with
    manager := sessionManagerMove s.manager delta
    entries := by rw [live_move, s.entries] }

def rememberSelected (s : TimedRegistry) : TimedRegistry :=
  { s with
    manager := sessionManagerRememberSelected s.manager
    entries := by rw [live_rememberSelected, s.entries] }

end TimedRegistry

/-- The registry in real time as a transition system. -/
def timedStep (s : TimedRegistry) : TimedOp → Option TimedRegistry
  | .elapse ms => some { s with clock := s.clock + ms }
  | .seen device => some (s.seen device)
  | .addManual host => some (s.addManual host)
  | .prune => some s.prune
  | .move delta => some (s.move delta)
  | .rememberSelected => some s.rememberSelected

/-! ### Stamps -/

/-- Each listed entry that was discovered carries the counter at its last report, which is past. -/
def Stamped (s : TimedRegistry) : Prop :=
  ∀ entry reportedAt, (entry, reportedAt) ∈ s.dated → entry.manual = false →
    entry.lastSeenMs = uiNowMs reportedAt ∧ reportedAt ≤ s.clock

theorem stamped_seen {s : TimedRegistry} (stamped : Stamped s) (device : SysdvrDevice) :
    Stamped (s.seen device) := by
  have fresh : ∀ entry reportedAt, (entry, reportedAt) = s.report device →
      entry.lastSeenMs = uiNowMs reportedAt ∧ reportedAt ≤ s.clock := by
    intro entry reportedAt same
    cases same
    exact ⟨rfl, Nat.le_refl _⟩
  simp only [TimedRegistry.seen]
  split
  · intro entry reportedAt member discovered
    rcases List.mem_or_eq_of_mem_set member with old | new
    · exact stamped entry reportedAt old discovered
    · exact fresh entry reportedAt new
  · split
    · intro entry reportedAt member discovered
      rcases List.mem_append.mp member with old | new
      · exact stamped entry reportedAt old discovered
      · exact fresh entry reportedAt (List.mem_singleton.mp new)
    · exact stamped

theorem stamped_addManual {s : TimedRegistry} (stamped : Stamped s) (host : CString) :
    Stamped (s.addManual host) := by
  simp only [TimedRegistry.addManual]
  split
  · intro entry reportedAt member discovered
    rcases List.mem_append.mp member with old | new
    · exact stamped entry reportedAt old discovered
    · cases List.mem_singleton.mp new
      cases discovered
  · exact stamped

theorem stamped_step {s next : TimedRegistry} {op : TimedOp} (stamped : Stamped s)
    (stepped : timedStep s op = some next) : Stamped next := by
  cases op with
  | elapse ms =>
      cases stepped
      intro entry reportedAt member discovered
      rcases stamped entry reportedAt member discovered with ⟨stamp, past⟩
      exact ⟨stamp, Nat.le_add_right_of_le past⟩
  | seen device =>
      cases stepped
      exact stamped_seen stamped device
  | addManual host =>
      cases stepped
      exact stamped_addManual stamped host
  | prune =>
      cases stepped
      intro entry reportedAt member discovered
      exact stamped entry reportedAt (List.mem_of_mem_filter member) discovered
  | move delta =>
      cases stepped
      exact stamped
  | rememberSelected =>
      cases stepped
      exact stamped

/-! ### The age test in real time -/

/-- The prune removes each discovered entry whose last report is more than 7000 ms and less than 2^31 ms
    ago. -/
def ExpiresStale (s : TimedRegistry) : TimedOp → Prop
  | .prune => ∀ entry reportedAt, (entry, reportedAt) ∈ s.dated → entry.manual = false →
      7000 < s.clock - reportedAt → s.clock - reportedAt < 2147483648 →
        entry ∉ s.prune.manager.live
  | _ => True

/-- The prune keeps each discovered entry whose last report is at most 7000 ms ago. -/
def KeepsRecent (s : TimedRegistry) : TimedOp → Prop
  | .prune => ∀ entry reportedAt, (entry, reportedAt) ∈ s.dated → entry.manual = false →
      s.clock - reportedAt ≤ 7000 → entry ∈ s.prune.manager.live
  | _ => True

/-- When the prune runs, the counter has not wrapped since the last report of an entry that is to go. -/
def NoWrapSince (s : TimedRegistry) : TimedOp → Prop
  | .prune => ∀ entry reportedAt, (entry, reportedAt) ∈ s.dated → entry.manual = false →
      7000 < s.clock - reportedAt → s.clock - reportedAt < 2147483648 →
        reportedAt / 4294967296 = s.clock / 4294967296
  | _ => True

/-- A prune keeps a stamped entry exactly if the counter is at most 7000 ahead of the stamp. -/
theorem mem_prune_iff {s : TimedRegistry} {entry : SessionDevice} {reportedAt : Nat}
    (member : (entry, reportedAt) ∈ s.dated) (discovered : entry.manual = false)
    (stamp : entry.lastSeenMs = uiNowMs reportedAt) :
    entry ∈ s.prune.manager.live ↔
      s.clock % 4294967296 ≤ reportedAt % 4294967296 + 7000 := by
  have listed : entry ∈ s.manager.live := by
    rw [← s.entries]
    exact List.mem_map_of_mem member
  have kept := keepEntry_iff s.nowMs entry
  rw [stamp, TimedRegistry.nowMs, toNat_uiNowMs, toNat_uiNowMs, discovered] at kept
  change entry ∈ (sessionManagerPrune s.manager s.nowMs).live ↔ _
  rw [live_prune, List.mem_filter, TimedRegistry.nowMs, kept]
  simp [listed]

/-- A stale entry goes exactly if the counter has not wrapped since its last report. -/
theorem expiresStale_iff {s : TimedRegistry} {op : TimedOp} (stamped : Stamped s) :
    ExpiresStale s op ↔ NoWrapSince s op := by
  cases op with
  | prune =>
      apply forall₄_congr
      intro entry reportedAt member discovered
      rcases stamped entry reportedAt member discovered with ⟨stamp, past⟩
      rw [mem_prune_iff member discovered stamp]
      omega
  | elapse ms => exact Iff.rfl
  | seen device => exact Iff.rfl
  | addManual host => exact Iff.rfl
  | move delta => exact Iff.rfl
  | rememberSelected => exact Iff.rfl

/-- A recent entry stays, on either side of a wrap. -/
theorem keepsRecent {s : TimedRegistry} (stamped : Stamped s) (op : TimedOp) : KeepsRecent s op := by
  cases op with
  | prune =>
      intro entry reportedAt member discovered recent
      rcases stamped entry reportedAt member discovered with ⟨stamp, past⟩
      rw [mem_prune_iff member discovered stamp]
      omega
  | elapse ms => exact trivial
  | seen device => exact trivial
  | addManual host => exact trivial
  | move delta => exact trivial
  | rememberSelected => exact trivial

/-- In every run each prune removes what is stale exactly if no entry that is to go was last reported
    before a wrap of the counter; what is recent stays in any case. -/
theorem expiry_iff_no_wrap (clock : Nat) (ops : List TimedOp) :
    (AllSteps timedStep (fun s op => ExpiresStale s op ∧ KeepsRecent s op) (.start clock) ops
      ↔ AllSteps timedStep NoWrapSince (.start clock) ops) ∧
    AllSteps timedStep KeepsRecent (.start clock) ops := by
  have start : Stamped (.start clock) := fun _ _ member => absurd member List.not_mem_nil
  have preserves : ∀ s op next, Stamped s → timedStep s op = some next → Stamped next :=
    fun _ _ _ => stamped_step
  refine ⟨⟨?_, ?_⟩, ?_⟩
  · apply AllSteps.imp_of_invariant preserves _ start
    intro s op stamped right
    exact (expiresStale_iff stamped).mp right.1
  · apply AllSteps.imp_of_invariant preserves _ start
    intro s op stamped same
    exact ⟨(expiresStale_iff stamped).mpr same, keepsRecent stamped op⟩
  · have anything : AllSteps timedStep (fun _ _ => True) (.start clock) ops :=
      allSteps_of_events (A := fun _ => True) (fun _ _ => trivial)
    exact AllSteps.imp_of_invariant preserves (fun s op stamped _ => keepsRecent stamped op) start anything

/-- A console without a serial, as it is reported from 192.168.0.7. -/
def reportedConsole : SysdvrDevice :=
  describedDevice ⟨192, 168, 0, 7⟩ (CString.literal "6.2").bytes (CString.literal "03").bytes none

/-- The console is reported one second before the counter wraps, and then it is silent for eight. -/
theorem stale_console_survives_the_wrap :
    ¬ ∀ (clock : Nat) (ops : List TimedOp),
      AllSteps timedStep (fun s op => ExpiresStale s op ∧ KeepsRecent s op) (.start clock) ops := by
  intro always
  have run := always 4294966296 [.seen reportedConsole, .elapse 8000, .prune]
  have expires := ((run.2 _ rfl).2 _ rfl).1.1
  refine expires ⟨reportedConsole, 4294966296, false⟩ 4294966296 ?_ rfl ?_ ?_ ?_
  · exact List.mem_singleton_self _
  · decide
  · decide
  · decide

end SysdvrWebos
