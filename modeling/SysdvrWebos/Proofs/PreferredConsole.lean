/-
Module: SysdvrWebos.Proofs.PreferredConsole
Layer: Proofs
Purpose: The two copies of the identity rule. `session_manager_matches_preferred` tests the buffers that
  `session_manager_remember_selected` has printed, `same_device` the fields of an entry; they stay in
  agreement on the entry that was remembered, whatever the registry does to that entry later. The main
  loop makes only calls of the registry, so its runs are runs of the registry, and a console on which
  `wait_for_preferred_console` returns is the one that was remembered last.
Trusted boundary: none (fully proved)
Main exports: remembered, Prefers, prefers_exec, registryCalls, callsOfRun, appStep_calls,
  exec_calls, preferred_is_remembered
Open obligations: none
-/
import SysdvrWebos.Proofs.ReconnectCursor

namespace SysdvrWebos

open Runs

/-! ### Runs of the registry -/

/-- The entry that stands for the preferred console behind a call, given the one in front of it. -/
def rememberedBy (m : SessionManager) (last : Option SessionDevice) : RegistryOp → Option SessionDevice
  | .rememberSelected => (sessionManagerSelected m).or last
  | .seen _ _ => last
  | .addManual _ => last
  | .prune _ => last
  | .move _ => last

/-- The entry, as it was then, that was selected when a run of calls last remembered one. -/
def remembered (m : SessionManager) (last : Option SessionDevice) :
    List RegistryOp → Option SessionDevice
  | [] => last
  | op :: ops =>
      match registryStep m op with
      | none => last
      | some next => remembered next (rememberedBy m last op) ops

/-- The filter for the preferred console is the identity test of the given entry; without one it lets
    nothing pass. -/
def Prefers (m : SessionManager) (last : Option SessionDevice) : Prop :=
  ∀ device, sessionManagerMatchesPreferred m device = last.any (sameDevice · device)

section

variable {m next : SessionManager} {last : Option SessionDevice} {op : RegistryOp} {ops : List RegistryOp}

theorem prefers_init : Prefers sessionManagerInit none := fun _ => rfl

theorem Prefers.of_same (prefers : Prefers m last)
    (same : sessionManagerMatchesPreferred next = sessionManagerMatchesPreferred m) :
    Prefers next last := by
  intro device
  rw [same]
  exact prefers device

/-- Only remembering changes the preference, and it agrees with the entry it copies. -/
theorem prefers_step (prefers : Prefers m last) (stepped : registryStep m op = some next) :
    Prefers next (rememberedBy m last op) := by
  cases op with
  | seen device nowMs =>
      cases stepped
      exact prefers.of_same (matchesPreferred_seen m device nowMs)
  | addManual host =>
      cases stepped
      exact prefers.of_same (matchesPreferred_addManual m host)
  | prune nowMs =>
      cases stepped
      exact prefers.of_same (matchesPreferred_prune m nowMs)
  | move delta =>
      cases stepped
      exact prefers.of_same (matchesPreferred_move m delta)
  | rememberSelected =>
      cases stepped
      cases here : sessionManagerSelected m with
      | none =>
          rw [rememberedBy, sessionManagerRememberSelected, here]
          exact prefers
      | some entry =>
          intro device
          rw [matchesPreferred_rememberSelected here, rememberedBy, here]
          rfl

/-- Along a run the filter is the identity test of the entry that was remembered last. -/
theorem prefers_exec (prefers : Prefers m last) (run : exec registryStep m ops = some next) :
    Prefers next (remembered m last ops) := by
  induction ops generalizing m last with
  | nil =>
      cases run
      exact prefers
  | cons op ops ih =>
      rcases exec_cons.mp run with ⟨middle, stepped, rest⟩
      rw [remembered, stepped]
      exact ih (prefers_step prefers stepped) rest

/-- Calls that do not remember leave the remembered entry alone. -/
theorem remembered_of_not_mem (never : ∀ op ∈ ops, op ≠ .rememberSelected) :
    remembered m last ops = last := by
  induction ops generalizing m with
  | nil => rfl
  | cons op ops ih =>
      have kept : rememberedBy m last op = last := by
        cases op with
        | rememberSelected => exact absurd rfl (never _ List.mem_cons_self)
        | seen device nowMs => rfl
        | addManual host => rfl
        | prune nowMs => rfl
        | move delta => rfl
      rcases registryStep_total m op with ⟨middle, stepped⟩
      rw [remembered, stepped, kept]
      exact ih fun op member => never op (List.mem_cons_of_mem _ member)

end

/-! ### The calls of the main loop -/

/-- The console that a poll of the listener hands to the loops around it. -/
def polledConsole (s : App) (source : StreamSource) (socket : SocketEvent) : Option SysdvrDevice :=
  (s.listener source).bind fun queue =>
    (readSocket queue socket).bind fun (answer, _, _) =>
      match discoveryPoll source answer with
      | .found device => some device
      | .failed => none
      | .idle => none

/-- The calls with which `browse_for_device` answers an action. -/
def actionCalls : SdlShellAction → List RegistryOp
  | .up => [.move (-1)]
  | .down => [.move 1]
  | .ok => [.rememberSelected]
  | .left => []
  | .back => []
  | .right => []
  | .none => []

/-- The calls of the registry in one step of the main loop. -/
def registryCalls (s : App) : AppEvent → List RegistryOp
  | .discoveryPoll socket nowMs =>
      match s.phase with
      | .browsePoll source _ => ((polledConsole s source socket).map (RegistryOp.seen · nowMs)).toList
      | .waitPoll source _ => ((polledConsole s source socket).map (RegistryOp.seen · nowMs)).toList
      | _ => []
  | .proceed nowMs =>
      match s.phase with
      | .browsePrune action => .prune nowMs :: actionCalls action
      | .waitPrune _ => [.prune nowMs]
      | .returned target .selection => [.seen target nowMs]
      | _ => []
  | .arrive _ _ => []
  | .signal => []
  | .shellPoll _ => []
  | .sessionEnds _ => []

/-- The calls of the registry in a run of the main loop. -/
def callsOfRun (s : App) : List AppEvent → List RegistryOp
  | [] => []
  | event :: events =>
      registryCalls s event ++
        match appStep s event with
        | none => []
        | some next => callsOfRun next events

/-- Where the wait has returned a console, that console is the preferred one. -/
def ReturnsPreferred (s : App) : Prop :=
  ∀ device caller, s.phase = .returned device caller →
    sessionManagerMatchesPreferred s.manager device = true

/-- A step makes the given calls, and the wait returns in it only on the preferred console. -/
structure Calls (s t : App) (calls : List RegistryOp) : Prop where
  run : exec registryStep s.manager calls = some t.manager
  returned : ReturnsPreferred s → ReturnsPreferred t

section

variable {s t : App} {event : AppEvent}

theorem returnsPreferred_of_elsewhere (elsewhere : t.phase.isReturned = false) :
    ReturnsPreferred s → ReturnsPreferred t :=
  fun _ device _ here => absurd here (AppPhase.ne_returned elsewhere device)

/-- A step that goes elsewhere and makes no call. -/
theorem Calls.quiet (manager : t.manager = s.manager) (elsewhere : t.phase.isReturned = false) :
    Calls s t [] where
  run := by rw [manager, exec_nil]
  returned := returnsPreferred_of_elsewhere elsewhere

/-- A step that leaves phase and registry alone. -/
theorem Calls.same (manager : t.manager = s.manager) (phase : t.phase = s.phase) : Calls s t [] where
  run := by rw [manager, exec_nil]
  returned := by
    intro preferred device caller here
    rw [manager]
    exact preferred device caller (phase ▸ here)

theorem shellStep_calls {input : ShellInput} (stepped : shellStep s input = some t) : Calls s t [] := by
  cases shellStep_cases stepped with
  | stays => exact .same rfl rfl
  | goes leads => exact .quiet rfl leads.elsewhere
  | stops leads => exact .quiet rfl leads.elsewhere

/-- A poll of the selector lists the console it finds. -/
theorem browsePolled_calls {u : App} {source : StreamSource} {action : SdlShellAction} {nowMs : UInt64}
    (manager : u.manager = s.manager) (phase : u.phase = .browsePoll source action) :
    ∀ result : PollResult SysdvrDevice, Calls s (browsePolled u source action nowMs result)
      (match result with
        | .found device => [.seen device nowMs]
        | .failed => []
        | .idle => [])
  | .found device => by
      have stays : (browsePolled u source action nowMs (.found device)).phase
          = .browsePoll source action := phase
      refine ⟨by rw [← manager]; rfl, returnsPreferred_of_elsewhere ?_⟩
      rw [stays]
      rfl
  | .failed => by cases source <;> exact .quiet manager rfl
  | .idle => by cases source <;> exact .quiet manager rfl

/-- A poll of the wait lists the console it finds, and returns on it if it is the preferred one. -/
theorem waitPolled_calls {u : App} {source : StreamSource} {caller : MainLoop} {arrivedAt : Nat}
    {nowMs : UInt64} (manager : u.manager = s.manager) (phase : u.phase = .waitPoll source caller) :
    ∀ result : PollResult SysdvrDevice, Calls s (waitPolled u source caller arrivedAt nowMs result)
      (match result with
        | .found device => [.seen device nowMs]
        | .failed => []
        | .idle => [])
  | .found device => by
      simp only [waitPolled]
      split
      · next wanted =>
          refine ⟨by rw [← manager]; rfl, fun _ other caller here => ?_⟩
          cases here
          exact wanted
      · have stays : (u.setManager (sessionManagerSeen u.manager device nowMs)).phase
            = .waitPoll source caller := phase
        refine ⟨by rw [← manager]; rfl, returnsPreferred_of_elsewhere ?_⟩
        rw [stays]
        rfl
  | .failed => by cases source <;> exact .quiet manager rfl
  | .idle => by cases source <;> exact .quiet manager rfl

/-- What a poll hands out makes the one call of the step. -/
theorem calls_of_polled {source : StreamSource} {socket : SocketEvent} {nowMs : UInt64}
    {queue rest : List Arrival} {answer : SocketAnswer} {arrivedAt : Nat}
    (opened : s.listener source = some queue)
    (read : readSocket queue socket = some (answer, arrivedAt, rest)) :
    ((polledConsole s source socket).map (RegistryOp.seen · nowMs)).toList
      = match discoveryPoll source answer with
        | .found device => [.seen device nowMs]
        | .failed => []
        | .idle => [] := by
  simp only [polledConsole, opened, read, Option.bind_some]
  cases discoveryPoll source answer <;> rfl

theorem pollStep_calls {socket : SocketEvent} {nowMs : UInt64}
    (stepped : pollStep s socket nowMs = some t) :
    Calls s t (registryCalls s (.discoveryPoll socket nowMs)) := by
  cases pollStep_cases stepped with
  | @browse source action queue answer arrivedAt rest here opened read =>
      simp only [registryCalls, here, calls_of_polled opened read]
      apply browsePolled_calls (App.setListener_manager s source rest)
      rw [App.setListener_phase, here]
  | @wait source caller queue answer arrivedAt rest here opened read =>
      simp only [registryCalls, here, calls_of_polled opened read]
      apply waitPolled_calls (App.setListener_manager s source rest)
      rw [App.setListener_phase, here]

/-- An empty registry selects nothing, so remembering it changes nothing. -/
theorem rememberSelected_of_empty {m : SessionManager} (empty : ¬ m.count > 0) :
    sessionManagerRememberSelected m = m := by
  have nothing : sessionManagerSelected m = none := by
    rw [sessionManagerSelected, if_pos (Or.inl (Nat.eq_zero_of_not_pos empty))]
  rw [sessionManagerRememberSelected, nothing]

/-- The selector prunes, answers the action and goes elsewhere. -/
theorem browseAction_calls {nowMs : UInt64} (action : SdlShellAction) :
    Calls s (browseAction (s.setManager (sessionManagerPrune s.manager nowMs)) action)
      (.prune nowMs :: actionCalls action) := by
  cases action with
  | none => exact ⟨rfl, returnsPreferred_of_elsewhere rfl⟩
  | up => exact ⟨rfl, returnsPreferred_of_elsewhere rfl⟩
  | down => exact ⟨rfl, returnsPreferred_of_elsewhere rfl⟩
  | left => exact ⟨rfl, returnsPreferred_of_elsewhere rfl⟩
  | right => exact ⟨rfl, returnsPreferred_of_elsewhere rfl⟩
  | back => exact ⟨rfl, returnsPreferred_of_elsewhere rfl⟩
  | ok =>
      simp only [browseAction]
      split
      · exact ⟨rfl, returnsPreferred_of_elsewhere rfl⟩
      · next empty =>
          refine ⟨?_, returnsPreferred_of_elsewhere rfl⟩
          have same := rememberSelected_of_empty empty
          exact congrArg some same

theorem registryCalls_of_quiet {nowMs : UInt64} (quiet : s.phase.callsRegistry = false) :
    registryCalls s (.proceed nowMs) = [] := by
  simp only [registryCalls]
  split
  · next here =>
      rw [here] at quiet
      cases quiet
  · next here =>
      rw [here] at quiet
      cases quiet
  · next here =>
      rw [here] at quiet
      cases quiet
  · rfl

theorem proceedStep_calls {nowMs : UInt64} (stepped : proceedStep s nowMs = some t) :
    Calls s t (registryCalls s (.proceed nowMs)) := by
  cases proceedStep_cases stepped with
  | goes quiet leads =>
      rw [registryCalls_of_quiet quiet]
      exact .quiet rfl leads.elsewhere
  | answers here =>
      simp only [registryCalls, here]
      exact browseAction_calls _
  | prunes here =>
      simp only [registryCalls, here]
      exact ⟨rfl, returnsPreferred_of_elsewhere rfl⟩
  | refreshes here =>
      simp only [registryCalls, here]
      exact ⟨rfl, returnsPreferred_of_elsewhere (reconnectLoop_elsewhere _ _)⟩

theorem sessionEndStep_calls {result : SessionResult} (stepped : sessionEndStep s result = some t) :
    Calls s t [] := by
  rcases sessionEndStep_eq stepped with ⟨target, loop, streaming, rfl⟩
  have manager : (s.dateEnd result).manager = s.manager := by cases result <;> rfl
  refine .quiet manager ?_
  cases loop <;> cases s.signalStop <;> cases result <;> rfl

theorem appMove_calls (moved : appMove s event = some t) : Calls s t (registryCalls s event) := by
  cases event with
  | arrive source datagram =>
      rcases Option.map_eq_some_iff.mp moved with ⟨queue, opened, rfl⟩
      exact .same (App.setListener_manager s source _) (App.setListener_phase s source _)
  | signal =>
      cases moved
      exact .same rfl rfl
  | shellPoll input => exact shellStep_calls moved
  | discoveryPoll socket nowMs => exact pollStep_calls moved
  | sessionEnds result => exact sessionEndStep_calls moved
  | proceed nowMs => exact proceedStep_calls moved

theorem appStep_calls (stepped : appStep s event = some t) : Calls s t (registryCalls s event) := by
  rcases Option.map_eq_some_iff.mp stepped with ⟨u, moved, rfl⟩
  have calls := appMove_calls moved
  exact ⟨calls.run, calls.returned⟩

/-- A run of the main loop is a run of the registry, and each return of the wait is on the preferred
    console. -/
theorem exec_calls {events : List AppEvent} (run : exec appStep s events = some t) :
    Calls s t (callsOfRun s events) := by
  induction events generalizing s with
  | nil =>
      cases run
      exact .same rfl rfl
  | cons event events ih =>
      rcases exec_cons.mp run with ⟨middle, stepped, rest⟩
      have first := appStep_calls stepped
      have later := ih rest
      simp only [callsOfRun, stepped]
      exact ⟨exec_append.mpr ⟨middle.manager, first.run, later.run⟩,
        fun preferred => later.returned (first.returned preferred)⟩

end

/-- Consoles on different backends are never the same. -/
theorem source_of_sameDevice {entry : SessionDevice} {device : SysdvrDevice}
    (same : sameDevice entry device = true) : device.source = entry.info.source := by
  by_contra other
  rw [sameDevice, if_pos (Ne.symm other)] at same
  cases same

/-- The filter agrees with the identity test of the remembered entry as long as no other entry is
    remembered, and so each console that the wait returns is the one remembered last, on its backend. -/
theorem preferred_is_remembered :
    (∀ before m entry, exec registryStep sessionManagerInit before = some m →
      sessionManagerSelected m = some entry →
      ∀ after last, (∀ op ∈ after, op ≠ .rememberSelected) →
        exec registryStep (sessionManagerRememberSelected m) after = some last →
        ∀ device, sessionManagerMatchesPreferred last device = true ↔ sameDevice entry device = true) ∧
    (∀ host scannerOpens sftScannerOpens events s,
      exec appStep (appStart host scannerOpens sftScannerOpens) events = some s →
      let start := appStart host scannerOpens sftScannerOpens
      exec registryStep start.manager (callsOfRun start events) = some s.manager ∧
        ∀ device caller, s.phase = .returned device caller →
          ∃ entry, remembered start.manager none (callsOfRun start events) = some entry ∧
            sameDevice entry device = true ∧ device.source = entry.info.source) := by
  constructor
  · intro before m entry _ here after last never run device
    have first : Prefers (sessionManagerRememberSelected m) (some entry) := by
      intro device
      rw [matchesPreferred_rememberSelected here]
      rfl
    have agrees := prefers_exec first run device
    rw [remembered_of_not_mem never] at agrees
    rw [agrees]
    rfl
  · intro host scannerOpens sftScannerOpens events s run start
    have calls := exec_calls run
    refine ⟨calls.run, fun device caller here => ?_⟩
    have none_yet : Prefers start.manager none := by
      cases host with
      | none => exact prefers_init
      | some host => exact prefers_init.of_same (matchesPreferred_addManual sessionManagerInit host)
    have none_returned : ReturnsPreferred start :=
      fun device _ here => absurd here (AppPhase.ne_returned rfl device)
    have wanted : sessionManagerMatchesPreferred s.manager device = true :=
      calls.returned none_returned device caller here
    rw [prefers_exec none_yet calls.run device] at wanted
    cases known : remembered start.manager none (callsOfRun start events) with
    | none =>
        rw [known] at wanted
        cases wanted
    | some entry =>
        rw [known] at wanted
        exact ⟨entry, rfl, wanted, source_of_sameDevice wanted⟩

/-- A console is remembered and then dropped from the registry; in a run of the main loop the wait returns
    it. -/
theorem preferred_is_remembered_wakeUp :
    (∀ device, sessionManagerMatchesPreferred
        (sessionManagerPrune (sessionManagerRememberSelected
          (sessionManagerSeen sessionManagerInit announcedConsole 40)) 9000) device = true
      ↔ sameDevice ⟨announcedConsole, 40, false⟩ device = true) ∧
    ∃ entry, remembered sessionManagerInit none
        (callsOfRun (appStart none true false) (selectAnnounced ++ wakeUp)) = some entry ∧
      sameDevice entry announcedConsole = true ∧ announcedConsole.source = entry.info.source := by
  constructor
  · apply preferred_is_remembered.1 [.seen announcedConsole 40] _ _ rfl (by decide) [.prune 9000] _ _ rfl
    simp
  · have ends : (exec appStep (appStart none true false) (selectAnnounced ++ wakeUp)).map (·.phase)
        = some (.returned announcedConsole .selection) := by
      decide
    rcases Option.map_eq_some_iff.mp ends with ⟨last, run, returned⟩
    exact (preferred_is_remembered.2 none true false _ last run).2 announcedConsole .selection returned

end SysdvrWebos
