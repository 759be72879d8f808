/-
Module: SysdvrWebos.Proofs.RegistryUniqueness
Layer: Proofs
Purpose: When the registry lists a console twice. `session_manager_seen` overwrites the first entry that
  is the same device and does not look at the others, and `same_device` is not transitive, so a report
  that two entries stand for leaves a duplicate behind. That is the only way: a run of the main loop is
  free of duplicates in every state exactly if no report matches two listed entries.
Trusted boundary: none (fully proved)
Main exports: NoDuplicates, Unambiguous, registryStart, noDuplicates_seen, unambiguous_of_noDuplicates_seen,
  registry_noDuplicates_iff, moved_console_is_listed_twice
Open obligations: none
-/
import SysdvrWebos.Core.SessionManager

namespace SysdvrWebos

/-- No two entries below the count are the same device. -/
def NoDuplicates (m : SessionManager) : Prop :=
  m.live.Pairwise fun first second => ¬ sameDevice first second.info

instance (m : SessionManager) : Decidable (NoDuplicates m) :=
  inferInstanceAs (Decidable (List.Pairwise _ m.live))

/-- At most one entry stands for the reported device. -/
def MatchesAtMostOne (m : SessionManager) (device : SysdvrDevice) : Prop :=
  m.live.Pairwise fun first second => ¬ (sameDevice first device ∧ sameDevice second device)

instance (m : SessionManager) (device : SysdvrDevice) : Decidable (MatchesAtMostOne m device) :=
  inferInstanceAs (Decidable (List.Pairwise _ m.live))

/-- The condition on one step: a report is about at most one of the entries listed when it arrives. -/
def Unambiguous (m : SessionManager) : RegistryOp → Prop
  | .seen device _ => MatchesAtMostOne m device
  | _ => True

/-- The calls `main` makes once the selector runs; a configured host is only added before. -/
def RegistryOp.FromMainLoop : RegistryOp → Prop
  | .addManual _ => False
  | _ => True

/-- The registry `main` starts the selector with. -/
def registryStart : Option CString → SessionManager
  | none => sessionManagerInit
  | some host => sessionManagerAddManual sessionManagerInit host

/-! ### The identity test -/

theorem sameDevice_symm (first second : SessionDevice) :
    sameDevice first second.info = sameDevice second first.info := by
  simp only [sameDevice, ne_eq]
  by_cases backend : first.info.source = second.info.source
  · by_cases serials : first.info.serial.bytes ≠ [] ∧ second.info.serial.bytes ≠ []
    · simp [backend, serials, eq_comm]
    · have serials' : ¬ (second.info.serial.bytes ≠ [] ∧ first.info.serial.bytes ≠ []) := by
        rwa [and_comm]
      simp only [ne_eq] at serials serials'
      simp [backend, serials, serials', eq_comm]
  · simp [backend, Ne.symm backend]

/-- A freshly written entry is the same device as another entry if that entry stands for the report. -/
theorem sameDevice_fresh (device : SysdvrDevice) (nowMs : UInt64) (entry : SessionDevice) :
    sameDevice { info := device, lastSeenMs := nowMs, manual := false } entry.info
      = sameDevice entry device :=
  sameDevice_symm { info := device, lastSeenMs := nowMs, manual := false } entry

/-! ### One report -/

/-- Writing one cell keeps a pairwise relation if the new value is related to all other cells. -/
private theorem pairwise_set {α : Type*} {R : α → α → Prop} {xs : List α} {i : Nat} {x : α}
    (before : xs.Pairwise R)
    (left : ∀ j (hj : j < xs.length), j < i → R xs[j] x)
    (right : ∀ j (hj : j < xs.length), i < j → R x xs[j]) :
    (xs.set i x).Pairwise R := by
  rw [List.pairwise_iff_getElem] at before ⊢
  intro j k hj hk ordered
  rw [List.length_set] at hj hk
  rw [List.getElem_set, List.getElem_set]
  by_cases atFirst : i = j
  · subst atFirst
    have later : i ≠ k := Nat.ne_of_lt ordered
    simpa [later] using right k hk ordered
  · by_cases atSecond : i = k
    · subst atSecond
      simpa [atFirst] using left j hj ordered
    · simpa [atFirst, atSecond] using before j k hj hk ordered

/-- The first matching entry matches, and it is an entry below the count. -/
theorem findIdx?_sameDevice {m : SessionManager} {device : SysdvrDevice} {i : Nat}
    (found : m.live.findIdx? (fun entry => sameDevice entry device) = some i) :
    ∃ bound : i < m.live.length, sameDevice m.live[i] device = true := by
  obtain ⟨bound, hit, _⟩ := List.findIdx?_eq_some_iff_getElem.mp found
  exact ⟨bound, hit⟩

/-- A report about at most one entry keeps the registry free of duplicates. -/
theorem noDuplicates_seen {m : SessionManager} {device : SysdvrDevice} {nowMs : UInt64}
    (distinct : NoDuplicates m) (unambiguous : MatchesAtMostOne m device) :
    NoDuplicates (sessionManagerSeen m device nowMs) := by
  cases found : m.live.findIdx? (fun entry => sameDevice entry device) with
  | some i =>
      obtain ⟨bound, hit⟩ := findIdx?_sameDevice found
      have others := List.pairwise_iff_getElem.mp unambiguous
      rw [NoDuplicates, live_seen_of_match found]
      apply pairwise_set distinct
      · intro j hj before both
        exact others j i hj bound before ⟨both, hit⟩
      · intro j hj after both
        rw [sameDevice_fresh] at both
        exact others i j bound hj after ⟨hit, both⟩
  | none =>
      have unknown := List.findIdx?_eq_none_iff.mp found
      by_cases room : m.count < sessionMaxDevices
      · rw [NoDuplicates, live_seen_of_room found room, List.pairwise_append]
        refine ⟨distinct, List.pairwise_singleton _ _, ?_⟩
        intro entry member fresh freshMember
        rw [List.mem_singleton] at freshMember
        subst freshMember
        simp [unknown entry member]
      · rw [seen_of_full found room]
        exact distinct

/-- If a report leaves the registry free of duplicates, it was about at most one entry. -/
theorem unambiguous_of_noDuplicates_seen {m : SessionManager} {device : SysdvrDevice}
    {nowMs : UInt64} (distinct : NoDuplicates (sessionManagerSeen m device nowMs)) :
    MatchesAtMostOne m device := by
  rw [MatchesAtMostOne, List.pairwise_iff_getElem]
  rintro j k hj hk ordered ⟨hitFirst, hitSecond⟩
  cases found : m.live.findIdx? (fun entry => sameDevice entry device) with
  | none =>
      have unknown := List.findIdx?_eq_none_iff.mp found
      simp [unknown _ (List.getElem_mem hj)] at hitFirst
  | some i =>
      -- The overwritten entry is the first match, so the second match still stands behind it.
      obtain ⟨bound, _, first⟩ := List.findIdx?_eq_some_iff_getElem.mp found
      have notLater : i ≤ j := by
        by_contra later
        exact first j (by omega) hitFirst
      rw [NoDuplicates, live_seen_of_match found, List.pairwise_iff_getElem] at distinct
      have apart := distinct i k (by simpa using bound) (by simpa using hk) (by omega)
      have behind : i ≠ k := by omega
      simp only [List.getElem_set_self, List.getElem_set_ne behind, sameDevice_fresh] at apart
      exact apart hitSecond

theorem noDuplicates_prune {m : SessionManager} (distinct : NoDuplicates m) (nowMs : UInt64) :
    NoDuplicates (sessionManagerPrune m nowMs) := by
  rw [NoDuplicates, live_prune]
  exact List.Pairwise.filter _ distinct

/-! ### Runs -/

/-- The registry is free of duplicates when the selector starts. -/
theorem noDuplicates_start (manualHost : Option CString) :
    NoDuplicates (registryStart manualHost) := by
  cases manualHost with
  | none => exact List.Pairwise.nil
  | some host =>
      simp only [NoDuplicates, registryStart, sessionManagerAddManual]
      split
      · exact List.Pairwise.nil
      · split
        · simp [SessionManager.live_append]
        · exact List.Pairwise.nil

/-- What one call of the main loop does to the entries below the count. -/
inductive LiveMoves (m : SessionManager) : RegistryOp → SessionManager → Prop where
  | reports (device : SysdvrDevice) (nowMs : UInt64) :
      LiveMoves m (.seen device nowMs) (sessionManagerSeen m device nowMs)
  | prunes (nowMs : UInt64) : LiveMoves m (.prune nowMs) (sessionManagerPrune m nowMs)
  | keeps (op : RegistryOp) (next : SessionManager) (live : next.live = m.live)
      (noReport : ∀ device nowMs, op ≠ .seen device nowMs) : LiveMoves m op next

theorem registryStep_live {m next : SessionManager} {op : RegistryOp} (mainLoop : op.FromMainLoop)
    (step : registryStep m op = some next) : LiveMoves m op next := by
  cases op with
  | seen device nowMs =>
      cases step
      exact .reports device nowMs
  | addManual host => exact mainLoop.elim
  | prune nowMs =>
      cases step
      exact .prunes nowMs
  | move delta =>
      cases step
      exact .keeps _ _ (live_move m delta) (fun _ _ => nofun)
  | rememberSelected =>
      cases step
      exact .keeps _ _ (live_rememberSelected m) (fun _ _ => nofun)

/-- An unambiguous main-loop step keeps the registry free of duplicates. -/
theorem noDuplicates_step {m next : SessionManager} {op : RegistryOp} (mainLoop : op.FromMainLoop)
    (distinct : NoDuplicates m) (unambiguous : Unambiguous m op)
    (step : registryStep m op = some next) : NoDuplicates next := by
  cases registryStep_live mainLoop step with
  | reports device nowMs => exact noDuplicates_seen distinct unambiguous
  | prunes nowMs => exact noDuplicates_prune distinct nowMs
  | keeps _ _ live _ =>
      rw [NoDuplicates, live]
      exact distinct

/-- A step after which the registry is still free of duplicates was unambiguous. -/
theorem unambiguous_of_step {m next : SessionManager} {op : RegistryOp}
    (step : registryStep m op = some next) (distinct : NoDuplicates next) : Unambiguous m op := by
  cases op with
  | seen device nowMs =>
      cases step
      exact unambiguous_of_noDuplicates_seen distinct
  | addManual host => exact trivial
  | prune nowMs => exact trivial
  | move delta => exact trivial
  | rememberSelected => exact trivial

/-- A run of the main loop never lists one console twice exactly if each report it processes matches at
    most one of the entries listed at that moment. -/
theorem registry_noDuplicates_iff (manualHost : Option CString) (ops : List RegistryOp)
    (mainLoop : ∀ op ∈ ops, op.FromMainLoop) :
    Runs.AllStates registryStep NoDuplicates (registryStart manualHost) ops
      ↔ Runs.AllSteps registryStep Unambiguous (registryStart manualHost) ops := by
  constructor
  · apply Runs.allSteps_of_allStates
    intro m op _ after
    obtain ⟨next, step⟩ := registryStep_total m op
    exact unambiguous_of_step step (after next step)
  · intro unambiguous
    exact Runs.allStates_of_allSteps
      (fun m op next distinct both step => noDuplicates_step both.2 distinct both.1 step)
      (noDuplicates_start manualHost) (Runs.AllSteps.and_events unambiguous mainLoop)

/-! ### A console that moves to the configured address -/

/-- `10.0.0.5`, entered as the configured host. -/
def configuredHost : CString := ⟨[49, 48, 46, 48, 46, 48, 46, 53], by decide⟩

/-- `10.0.0.9`. -/
def otherHost : CString := ⟨[49, 48, 46, 48, 46, 48, 46, 57], by decide⟩

/-- A console with serial `X1`, reporting from the given address. -/
def consoleAt (host : CString) : SysdvrDevice :=
  { SysdvrDevice.zero with
    host := .print 64 host
    -- "02"
    protocol := ⟨[48, 50], by decide, by decide⟩
    serial := ⟨[88, 49], by decide, by decide⟩ }

/-- The console is seen at `10.0.0.9` first and, a second later, at the configured address. -/
def movingConsole : List RegistryOp :=
  [.seen (consoleAt otherHost) 1000,
    .seen (consoleAt configuredHost) 2000]

/-- Without a configured host the same two reports are about one entry, which follows the console. -/
theorem movingConsole_without_configured_host :
    Runs.AllStates registryStep NoDuplicates (registryStart none) movingConsole := by
  apply (registry_noDuplicates_iff none movingConsole
    (by simp [movingConsole, RegistryOp.FromMainLoop])).mpr
  refine ⟨?_, fun first firstStep => ⟨?_, fun second _ => trivial⟩⟩
  · change MatchesAtMostOne _ _
    decide
  · cases firstStep
    change MatchesAtMostOne _ _
    decide

/-- The second report overwrites the manual entry, whose address it carries, while the entry written by
    the first report still carries its serial: the console is listed twice. -/
theorem moved_console_is_listed_twice :
    ¬ ∀ (manualHost : Option CString) (ops : List RegistryOp), (∀ op ∈ ops, op.FromMainLoop) →
      Runs.AllStates registryStep NoDuplicates (registryStart manualHost) ops := by
  intro always
  have states := always (some configuredHost) movingConsole
    (by simp [movingConsole, RegistryOp.FromMainLoop])
  have listedTwice : ¬ NoDuplicates
      (sessionManagerSeen
        (sessionManagerSeen (registryStart (some configuredHost)) (consoleAt otherHost) 1000)
        (consoleAt configuredHost) 2000) := by
    decide
  exact listedTwice (states.last rfl)

end SysdvrWebos
