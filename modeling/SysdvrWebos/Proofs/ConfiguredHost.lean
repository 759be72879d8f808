/-
Module: SysdvrWebos.Proofs.ConfiguredHost
Layer: Proofs
Purpose: How long the configured host stays in the selector. Its entry is exempt from expiry by two fields
  that the first report carrying the host rewrites, and from then on it expires like a discovered console.
  It therefore stays through every silence exactly if no SysDVR report carries the host, and only if the
  host fits into the entry at all.
Trusted boundary: none (fully proved)
Main exports: Lists, RegistryOp.Reports, RegistryOp.SilentBy, lists_of_unreported, fading_of_reported,
  configured_host_stays_listed
Open obligations: none
-/
import SysdvrWebos.Proofs.RegistryCursor

namespace SysdvrWebos

/-- The registry contains a SysDVR entry whose host is exactly the given text. -/
def Lists (host : CString) (m : SessionManager) : Prop :=
  ∃ entry ∈ m.live, entry.info.source = .sysdvr ∧ entry.info.host.bytes = host.bytes

instance (host : CString) (m : SessionManager) : Decidable (Lists host m) :=
  inferInstanceAs (Decidable (∃ entry ∈ m.live, _))

/-- The call records a SysDVR report that carries the host. -/
def RegistryOp.Reports (host : CString) : RegistryOp → Prop
  | .seen device _ => device.source = .sysdvr ∧ device.host.bytes = host.bytes
  | _ => False

/-- A report is older than seven seconds at the given time. -/
def RegistryOp.SilentBy (nowMs : UInt64) : RegistryOp → Prop
  | .seen _ seenMs => seenMs.toNat + 7000 < nowMs.toNat
  | _ => True

variable {host : CString} {m : SessionManager} {device : SysdvrDevice} {head entry : SessionDevice}
  {rest : List SessionDevice} {seenMs nowMs : UInt64}

/-! ### The manual entry and the reports -/

/-- The manual entry has no serial, so the reports it stands for are those that carry its host. -/
theorem sameDevice_manualDevice (fits : host.bytes.length ≤ 63) (device : SysdvrDevice) :
    sameDevice (manualDevice host) device = true
      ↔ device.source = .sysdvr ∧ device.host.bytes = host.bytes := by
  have whole : host.bytes.take 63 = host.bytes := List.take_of_length_le fits
  by_cases backend : device.source = .sysdvr
  · simp [sameDevice, manualDevice, backend, whole, eq_comm]
  · simp [sameDevice, manualDevice, backend, Ne.symm backend]

theorem seen_of_reports {op : RegistryOp} (reported : op.Reports host) :
    ∃ device seenMs, op = .seen device seenMs := by
  cases op with
  | seen device seenMs => exact ⟨device, seenMs, rfl⟩
  | _ => exact reported.elim

theorem other_of_unreported (fits : host.bytes.length ≤ 63)
    (unreported : ¬ RegistryOp.Reports host (.seen device seenMs)) :
    sameDevice (manualDevice host) device = false := by
  rw [Bool.eq_false_iff]
  exact fun same => unreported ((sameDevice_manualDevice fits device).mp same)

/-- A report replaces the first entry if that is the console it is about. -/
theorem live_seen_of_head (listed : m.live = head :: rest) (same : sameDevice head device = true) :
    (sessionManagerSeen m device seenMs).live
      = { info := device, lastSeenMs := seenMs, manual := false } :: rest := by
  have found : m.live.findIdx? (fun entry => sameDevice entry device) = some 0 := by
    rw [listed, List.findIdx?_cons, if_pos same]
  rw [live_seen_of_match found, listed, List.set_cons_zero]

/-- A report about another console leaves the first entry alone. -/
theorem live_seen_of_tail (listed : m.live = head :: rest) (other : sameDevice head device = false) :
    ∃ later, (sessionManagerSeen m device seenMs).live = head :: later ∧
      ∀ entry ∈ later,
        entry ∈ rest ∨ entry = { info := device, lastSeenMs := seenMs, manual := false } := by
  have position : m.live.findIdx? (fun entry => sameDevice entry device)
      = (rest.findIdx? fun entry => sameDevice entry device).map (· + 1) := by
    rw [listed, List.findIdx?_cons, if_neg (by simp [other])]
  cases found : rest.findIdx? (fun entry => sameDevice entry device) with
  | some i =>
      rw [found] at position
      rw [live_seen_of_match position, listed]
      exact ⟨_, List.set_cons_succ, fun entry member => List.mem_or_eq_of_mem_set member⟩
  | none =>
      rw [found] at position
      by_cases room : m.count < sessionMaxDevices
      · rw [live_seen_of_room position room, listed]
        refine ⟨_, List.cons_append, ?_⟩
        intro entry member
        simpa using member
      · rw [seen_of_full position room, listed]
        exact ⟨rest, rfl, fun entry member => Or.inl member⟩

/-- After a report each entry is an old one or the report itself. -/
theorem mem_live_seen (member : entry ∈ (sessionManagerSeen m device seenMs).live) :
    entry ∈ m.live ∨ entry = { info := device, lastSeenMs := seenMs, manual := false } := by
  cases found : m.live.findIdx? (fun entry => sameDevice entry device) with
  | some i =>
      rw [live_seen_of_match found] at member
      exact List.mem_or_eq_of_mem_set member
  | none =>
      by_cases room : m.count < sessionMaxDevices
      · rw [live_seen_of_room found room] at member
        simpa using member
      · rw [seen_of_full found room] at member
        exact Or.inl member

/-! ### While no report carries the host -/

/-- The manual entry stands first. Nothing is said about the entries behind it. -/
def Pinned (host : CString) (m : SessionManager) : Prop :=
  ∃ rest, m.live = manualDevice host :: rest

theorem lists_of_pinned (fits : host.bytes.length ≤ 63) (pinned : Pinned host m) : Lists host m := by
  rcases pinned with ⟨rest, listed⟩
  refine ⟨manualDevice host, ?_, rfl, List.take_of_length_le fits⟩
  rw [listed]
  exact List.mem_cons_self

/-- A host longer than the entry's field is cut off, and no entry can carry it. -/
theorem fits_of_lists (listed : Lists host m) : host.bytes.length ≤ 63 := by
  rcases listed with ⟨entry, _, _, same⟩
  have room := entry.info.host.fits
  rw [same] at room
  omega

/-- The registry starts with the manual entry and nothing else. -/
theorem live_registryStart (given : host.bytes ≠ []) :
    (registryStart (some host)).live = [manualDevice host] := by
  have room : sessionManagerInit.count < sessionMaxDevices := by decide
  simp [registryStart, sessionManagerAddManual, given, room, SessionManager.live_append]

/-- The manual entry outlives every prune. -/
theorem live_prune_of_pinned (listed : m.live = manualDevice host :: rest) (nowMs : UInt64) :
    (sessionManagerPrune m nowMs).live = manualDevice host :: rest.filter (keepEntry nowMs) := by
  rw [live_prune, listed, List.filter_cons_of_pos rfl]

/-- A main-loop call that records no report of the host leaves the manual entry first. -/
theorem pinned_step {next : SessionManager} {op : RegistryOp} (fits : host.bytes.length ≤ 63)
    (mainLoop : op.FromMainLoop) (unreported : ¬ op.Reports host) (pinned : Pinned host m)
    (step : registryStep m op = some next) : Pinned host next := by
  rcases pinned with ⟨rest, listed⟩
  cases registryStep_live mainLoop step with
  | reports device seenMs =>
      obtain ⟨later, stays, _⟩ := live_seen_of_tail listed (other_of_unreported fits unreported)
      exact ⟨later, stays⟩
  | prunes nowMs => exact ⟨_, live_prune_of_pinned listed nowMs⟩
  | keeps _ _ live _ => exact ⟨rest, live.trans listed⟩

/-- A run without a report of the host lists it in every state. -/
theorem lists_of_unreported {ops : List RegistryOp} (given : host.bytes ≠ [])
    (fits : host.bytes.length ≤ 63)
    (quiet : ∀ op ∈ ops, op.FromMainLoop ∧ ¬ op.Reports host) :
    Runs.AllStates registryStep (Lists host) (registryStart (some host)) ops := by
  apply Runs.AllStates.imp fun m => lists_of_pinned fits
  apply Runs.allStates_of_allSteps (P := fun _ op => op.FromMainLoop ∧ ¬ op.Reports host)
  · intro m op next pinned allowed step
    exact pinned_step fits allowed.1 allowed.2 pinned step
  · exact ⟨[], live_registryStart given⟩
  · exact Runs.allSteps_of_events quiet

/-! ### Once a report carries the host -/

/-- A prune at the given time drops every entry. -/
def Fading (nowMs : UInt64) (m : SessionManager) : Prop :=
  ∀ entry ∈ m.live, ¬ Survives nowMs entry

/-- A prune at the given time keeps the manual entry alone. -/
def FadingBehind (host : CString) (nowMs : UInt64) (m : SessionManager) : Prop :=
  ∃ rest, m.live = manualDevice host :: rest ∧ ∀ entry ∈ rest, ¬ Survives nowMs entry

/-- What a report writes is dropped once it is older than seven seconds. -/
theorem not_survives_report (silent : seenMs.toNat + 7000 < nowMs.toNat) :
    ¬ Survives nowMs { info := device, lastSeenMs := seenMs, manual := false } := by
  rintro (manual | young)
  · cases manual
  · change nowMs.toNat ≤ seenMs.toNat + 7000 at young
    omega

/-- No main-loop call makes an entry manual again. -/
theorem fading_step {next : SessionManager} {op : RegistryOp} (mainLoop : op.FromMainLoop)
    (silent : op.SilentBy nowMs) (fading : Fading nowMs m) (step : registryStep m op = some next) :
    Fading nowMs next := by
  intro entry member
  cases registryStep_live mainLoop step with
  | reports device seenMs =>
      rcases mem_live_seen member with old | rfl
      · exact fading entry old
      · exact not_survives_report silent
  | prunes pruneMs =>
      rw [live_prune] at member
      exact fading entry (List.mem_of_mem_filter member)
  | keeps _ _ live _ =>
      rw [live] at member
      exact fading entry member

/-- The first report of the host takes the exemption from the manual entry; other calls keep it. -/
theorem fadingBehind_step {next : SessionManager} {op : RegistryOp} (fits : host.bytes.length ≤ 63)
    (mainLoop : op.FromMainLoop) (silent : op.SilentBy nowMs) (fading : FadingBehind host nowMs m)
    (step : registryStep m op = some next) :
    (op.Reports host → Fading nowMs next) ∧ (¬ op.Reports host → FadingBehind host nowMs next) := by
  rcases fading with ⟨rest, listed, dropped⟩
  cases registryStep_live mainLoop step with
  | reports device seenMs =>
      constructor
      · intro reported entry member
        have same := (sameDevice_manualDevice fits device).mpr reported
        rw [live_seen_of_head listed same, List.mem_cons] at member
        rcases member with rfl | old
        · exact not_survives_report silent
        · exact dropped entry old
      · intro unreported
        obtain ⟨later, stays, origin⟩ := live_seen_of_tail listed (other_of_unreported fits unreported)
        refine ⟨later, stays, fun entry member => ?_⟩
        rcases origin entry member with old | rfl
        · exact dropped entry old
        · exact not_survives_report silent
  | prunes pruneMs =>
      refine ⟨fun reported => reported.elim, fun _ => ⟨_, live_prune_of_pinned listed pruneMs, ?_⟩⟩
      exact fun entry member => dropped entry (List.mem_of_mem_filter member)
  | keeps _ _ live noReport =>
      constructor
      · intro reported
        obtain ⟨device, seenMs, rfl⟩ := seen_of_reports reported
        exact absurd rfl (noReport device seenMs)
      · intro _
        exact ⟨rest, live.trans listed, dropped⟩

/-- After a report of the host nothing in the registry is exempt from expiry any more. -/
theorem fading_of_reported (fits : host.bytes.length ≤ 63) :
    ∀ {ops : List RegistryOp} {m last : SessionManager}, FadingBehind host nowMs m →
      (∀ op ∈ ops, op.FromMainLoop ∧ op.SilentBy nowMs) → (∃ op ∈ ops, op.Reports host) →
      Runs.exec registryStep m ops = some last → Fading nowMs last := by
  intro ops
  induction ops with
  | nil =>
      intro m last _ _ reported
      simp at reported
  | cons op ops ih =>
      intro m last fading allowed reported run
      obtain ⟨next, step, rest⟩ := Runs.exec_cons.mp run
      obtain ⟨mainLoop, silent⟩ := allowed op List.mem_cons_self
      have allowedRest : ∀ op ∈ ops, op.FromMainLoop ∧ op.SilentBy nowMs :=
        fun op member => allowed op (List.mem_cons_of_mem _ member)
      have after := fadingBehind_step fits mainLoop silent fading step
      by_cases now : op.Reports host
      · exact Runs.exec_invariant_of_allSteps
          (fun m op next fading allowed step => fading_step allowed.1 allowed.2 fading step)
          (Runs.allSteps_of_events allowedRest) (after.1 now) rest
      · have later : ∃ op ∈ ops, op.Reports host := by
          simpa [now] using reported
        exact ih (after.2 now) allowedRest later rest

theorem not_lists_of_fading (fading : Fading nowMs m) : ¬ Lists host (sessionManagerPrune m nowMs) := by
  rintro ⟨entry, member, _⟩
  rw [live_prune, keepEntry_eq_survives] at member
  obtain ⟨old, survives⟩ := List.mem_filter.mp member
  exact fading entry old (of_decide_eq_true survives)

/-! ### The selector -/

/-- A host that fits into the entry is listed in every state of every run in which no SysDVR report
    carries it. And a run that ends in a silence of more than seven seconds lists it throughout only if
    that is so. -/
theorem configured_host_stays_listed (host : CString) (given : host.bytes ≠ [])
    (ops : List RegistryOp) (mainLoop : ∀ op ∈ ops, op.FromMainLoop) :
    ((host.bytes.length ≤ 63 ∧ ∀ op ∈ ops, ¬ op.Reports host) →
        Runs.AllStates registryStep (Lists host) (registryStart (some host)) ops) ∧
      ∀ nowMs : UInt64, (∀ op ∈ ops, op.SilentBy nowMs) →
        (Runs.AllStates registryStep (Lists host) (registryStart (some host)) (ops ++ [.prune nowMs])
          ↔ host.bytes.length ≤ 63 ∧ ∀ op ∈ ops, ¬ op.Reports host) := by
  constructor
  · rintro ⟨fits, unreported⟩
    exact lists_of_unreported given fits fun op member => ⟨mainLoop op member, unreported op member⟩
  · intro nowMs silent
    constructor
    · intro listed
      have fits := fits_of_lists listed.first
      refine ⟨fits, fun op member reported => ?_⟩
      obtain ⟨last, run⟩ := Runs.exec_total registryStep_total (registryStart (some host)) ops
      have start : FadingBehind host nowMs (registryStart (some host)) :=
        ⟨[], live_registryStart given, by simp⟩
      have fading := fading_of_reported fits start
        (fun op member => ⟨mainLoop op member, silent op member⟩) ⟨op, member, reported⟩ run
      exact not_lists_of_fading fading
        (listed.last (Runs.exec_append.mpr ⟨last, run, rfl⟩))
    · rintro ⟨fits, unreported⟩
      apply lists_of_unreported given fits
      intro op member
      rw [List.mem_append, List.mem_singleton] at member
      rcases member with earlier | rfl
      · exact ⟨mainLoop op earlier, unreported op earlier⟩
      · exact ⟨trivial, id⟩

/-- The configured host outlives a day of silence after a report about another console. -/
theorem configured_host_outlives_silence :
    Runs.AllStates registryStep (Lists configuredHost) (registryStart (some configuredHost))
      ([.seen (consoleAt otherHost) 1000] ++ [.prune 86400000]) := by
  have stays := configured_host_stays_listed configuredHost (by decide)
    [.seen (consoleAt otherHost) 1000] (by simp [RegistryOp.FromMainLoop])
  apply (stays.2 86400000 _).mpr
  · constructor
    · decide
    · simp only [List.mem_singleton, forall_eq, RegistryOp.Reports]
      decide
  · simp only [List.mem_singleton, forall_eq, RegistryOp.SilentBy]
    decide

/-- The console at the configured host reports once, then sleeps for eight seconds: its report has made
    the manual entry an ordinary one, and the configured host is gone from the selector. -/
theorem reported_host_expires :
    ¬ ∀ (host : CString) (ops : List RegistryOp), host.bytes ≠ [] → host.bytes.length ≤ 255 →
      (∀ op ∈ ops, op.FromMainLoop) →
      Runs.AllStates registryStep (Lists host) (registryStart (some host)) ops := by
  intro always
  have states := always configuredHost [.seen (consoleAt configuredHost) 1000, .prune 9000]
    (by decide) (by decide) (by simp [RegistryOp.FromMainLoop])
  have lost : ¬ Lists configuredHost (sessionManagerPrune
      (sessionManagerSeen (registryStart (some configuredHost)) (consoleAt configuredHost) 1000)
      9000) := by
    decide
  exact lost (states.last rfl)

end SysdvrWebos
