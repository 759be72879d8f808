/-
Module: SysdvrWebos.Proofs.ReconnectCursor
Layer: Proofs
Purpose: Where the selector cursor stands when `wait_for_preferred_console` returns to main's outer loop.
  main refreshes the registry entry of the console and leaves the cursor alone, although the comment there
  goes on to select the matching item. The cursor is right exactly if the registry was ready for the
  report that ended the wait, and it is ready as long as each prune of the wait keeps the selected entry.
Trusted boundary: none (fully proved)
Main exports: CursorFollows, ReturnsOn, ReturnsReady, PruneKeepsCursor, CursorMoves, appStep_cursor,
  reconnect_cursor_iff
Open obligations: none
-/
import SysdvrWebos.Proofs.CursorAnchor
import SysdvrWebos.Proofs.ReconnectFreshness

namespace SysdvrWebos

open Runs

/-- Once the wait has returned a console to the outer loop, the cursor is on that console after the
    refresh that follows. -/
def CursorFollows (s : App) : Prop :=
  ∀ device, s.phase = .returned device .selection →
    ∀ nowMs t, appStep s (.proceed nowMs) = some t → OnCursor t.manager device

/-- The step reads the announcement on which the wait of the outer loop returns. -/
def ReturnsOn (s : App) (event : AppEvent) (device : SysdvrDevice) : Prop :=
  ∃ source nowMs arrival queue,
    event = .discoveryPoll .receive nowMs ∧ s.phase = .waitPoll source .selection ∧
      s.listener source = some (arrival :: queue) ∧
      discoveryPoll source (.received arrival.datagram) = .found device ∧
      sessionManagerMatchesPreferred s.manager device = true

/-- The announcement on which the wait returns finds the registry ready for it. -/
def ReturnsReady (s : App) (event : AppEvent) : Prop :=
  ∀ device, ReturnsOn s event device → CursorReady s.manager device

/-- A prune of the wait keeps the selected entry. -/
def PruneKeepsCursor (s : App) : AppEvent → Prop
  | .proceed nowMs => s.phase = .waitPrune .selection → KeepsCursor s.manager nowMs
  | _ => True

/-! ### What a step does to the cursor -/

/-- What a step can do to the registry between a selection and the refresh behind the wait. -/
inductive CursorMoves (s : App) (event : AppEvent) (t : App) : Prop where
  | keeps (manager : t.manager = s.manager)
      (selection : t.phase.keepsSelection = true → s.phase.keepsSelection = true)
      (returned : ∀ device, t.phase = .returned device .selection → s.phase = .returned device .selection)
  | leaves (inside : CursorInside s.manager → CursorInside t.manager)
      (selection : t.phase.keepsSelection = false)
      (returned : ∀ device, t.phase ≠ .returned device .selection)
  | selects {nowMs} (something : (sessionManagerPrune s.manager nowMs).count ≠ 0)
      (manager : t.manager = sessionManagerRememberSelected (sessionManagerPrune s.manager nowMs))
      (phase : t.phase = .selected)
  | reports {source device nowMs} (waits : s.phase = .waitPoll source .selection)
      (unwanted : sessionManagerMatchesPreferred s.manager device = false)
      (manager : t.manager = sessionManagerSeen s.manager device nowMs)
      (phase : t.phase = .waitPoll source .selection)
  | returns {device nowMs} (on : ReturnsOn s event device)
      (manager : t.manager = sessionManagerSeen s.manager device nowMs)
      (phase : t.phase = .returned device .selection)
  | prunes {nowMs} (waits : s.phase = .waitPrune .selection) (now : event = .proceed nowMs)
      (manager : t.manager = sessionManagerPrune s.manager nowMs)
      (phase : t.phase = .waitTop .selection)

section

variable {s t : App} {event : AppEvent}

/-- A step that goes to a phase outside the selection. -/
theorem CursorMoves.away (manager : t.manager = s.manager) (selection : t.phase.keepsSelection = false)
    (elsewhere : t.phase.isReturned = false) : CursorMoves s event t :=
  .leaves (fun inside => manager ▸ inside) selection (AppPhase.ne_returned elsewhere)

/-- A step within the selection that leaves the registry alone. -/
theorem CursorMoves.within (manager : t.manager = s.manager) (selection : s.phase.keepsSelection = true)
    (elsewhere : t.phase.isReturned = false) : CursorMoves s event t :=
  .keeps manager (fun _ => selection) fun device here =>
    absurd here (AppPhase.ne_returned elsewhere device)

/-- A step from one phase to another that leaves the registry alone. -/
theorem CursorMoves.leads (manager : t.manager = s.manager) (leads : s.phase.Leads t.phase) :
    CursorMoves s event t :=
  .keeps manager leads.selection fun device here => absurd here (AppPhase.ne_returned leads.elsewhere device)

theorem shellStep_cursor {input : ShellInput} (stepped : shellStep s input = some t) :
    CursorMoves s (.shellPoll input) t := by
  cases shellStep_cases stepped with
  | stays => exact .keeps rfl id (fun _ => id)
  | goes leads => exact .leads rfl leads
  | stops leads => exact .leads rfl leads

/-- Only a read of a datagram that waits in the queue makes a poll report a console. -/
theorem readSocket_of_found {source : StreamSource} {queue rest : List Arrival} {socket : SocketEvent}
    {answer : SocketAnswer} {arrivedAt : Nat} {device : SysdvrDevice}
    (read : readSocket queue socket = some (answer, arrivedAt, rest))
    (found : discoveryPoll source answer = .found device) :
    ∃ arrival, socket = .receive ∧ queue = arrival :: rest ∧
      discoveryPoll source (.received arrival.datagram) = .found device := by
  rcases received_of_found found with ⟨datagram, rfl⟩
  cases socket with
  | nothing => cases read
  | failed => cases read
  | receive =>
      cases queue with
      | nil => cases read
      | cons arrival queue =>
          cases read
          exact ⟨arrival, rfl, rfl, found⟩

theorem browsePolled_cursor {u : App} {source : StreamSource} {action : SdlShellAction}
    {nowMs : UInt64} {result : PollResult SysdvrDevice} (manager : u.manager = s.manager)
    (phase : u.phase = .browsePoll source action) :
    CursorMoves s event (browsePolled u source action nowMs result) := by
  cases result with
  | idle => cases source <;> exact .away manager rfl rfl
  | failed => cases source <;> exact .away manager rfl rfl
  | found device =>
      have stays : (browsePolled u source action nowMs (.found device)).phase
          = .browsePoll source action := phase
      refine .leaves (fun inside => ?_) ?_ (AppPhase.ne_returned ?_)
      · change CursorInside (sessionManagerSeen u.manager device nowMs)
        rw [manager]
        exact cursorInside_seen inside device nowMs
      · rw [stays]
        rfl
      · rw [stays]
        rfl

/-- A poll of the wait of the outer loop goes on with the wait, or returns on an announcement of the
    preferred console. -/
theorem waitPolled_cursor {u : App} {source : StreamSource} {arrivedAt : Nat} {nowMs : UInt64}
    {result : PollResult SysdvrDevice} (manager : u.manager = s.manager)
    (phase : s.phase = .waitPoll source .selection) (same : u.phase = s.phase)
    (on : ∀ device, result = .found device → sessionManagerMatchesPreferred s.manager device = true →
      ReturnsOn s event device) :
    CursorMoves s event (waitPolled u source .selection arrivedAt nowMs result) := by
  have selection : s.phase.keepsSelection = true := by rw [phase]; rfl
  cases result with
  | idle => cases source <;> exact .within manager selection rfl
  | failed => cases source <;> exact .within manager selection rfl
  | found device =>
      simp only [waitPolled, App.setManager_manager, matchesPreferred_seen, manager]
      split
      · next wanted => exact .returns (on device rfl wanted) rfl rfl
      · next unwanted =>
          exact .reports phase (Bool.eq_false_iff.mpr unwanted) rfl (same.trans phase)

/-- The wait of the reconnect loop is over no selection. -/
theorem waitPolled_cursor_reconnect {u : App} {source : StreamSource} {arrivedAt : Nat}
    {nowMs : UInt64} {result : PollResult SysdvrDevice} (manager : u.manager = s.manager)
    (phase : u.phase = .waitPoll source .reconnect) :
    CursorMoves s event (waitPolled u source .reconnect arrivedAt nowMs result) := by
  cases result with
  | idle => cases source <;> exact .away manager rfl rfl
  | failed => cases source <;> exact .away manager rfl rfl
  | found device =>
      have after : CursorInside s.manager → CursorInside (sessionManagerSeen u.manager device nowMs) := by
        intro inside
        rw [manager]
        exact cursorInside_seen inside device nowMs
      simp only [waitPolled]
      split
      · refine .leaves after rfl (fun _ here => ?_)
        cases here
      · have stays : (u.setManager (sessionManagerSeen u.manager device nowMs)).phase
            = .waitPoll source .reconnect := phase
        refine .leaves after ?_ (AppPhase.ne_returned ?_)
        · rw [stays]
          rfl
        · rw [stays]
          rfl

theorem pollStep_cursor {socket : SocketEvent} {nowMs : UInt64}
    (stepped : pollStep s socket nowMs = some t) :
    CursorMoves s (.discoveryPoll socket nowMs) t := by
  cases pollStep_cases stepped with
  | @browse source action queue answer arrivedAt rest here opened read =>
      apply browsePolled_cursor (App.setListener_manager s source rest)
      rw [App.setListener_phase, here]
  | @wait source caller queue answer arrivedAt rest here opened read =>
      have manager : (s.setListener source rest).manager = s.manager := App.setListener_manager s source rest
      have same : (s.setListener source rest).phase = s.phase := App.setListener_phase s source rest
      cases caller with
      | selection =>
          apply waitPolled_cursor manager here same
          intro device found wanted
          rcases readSocket_of_found read found with ⟨arrival, rfl, rfl, announced⟩
          exact ⟨source, nowMs, arrival, rest, rfl, here, opened, announced, wanted⟩
      | reconnect => exact waitPolled_cursor_reconnect manager (same.trans here)

theorem browseAction_cursor {u : App} {action : SdlShellAction} {nowMs : UInt64}
    (pruned : u.manager = sessionManagerPrune s.manager nowMs) :
    CursorMoves s event (browseAction u action) := by
  have inside : CursorInside u.manager := pruned ▸ cursorInside_prune s.manager nowMs
  cases action with
  | none => exact .leaves (fun _ => inside) rfl (AppPhase.ne_returned rfl)
  | up => exact .leaves (fun _ => cursorInside_move inside (-1)) rfl (AppPhase.ne_returned rfl)
  | down => exact .leaves (fun _ => cursorInside_move inside 1) rfl (AppPhase.ne_returned rfl)
  | left => exact .leaves (fun _ => inside) rfl (AppPhase.ne_returned rfl)
  | right => exact .leaves (fun _ => inside) rfl (AppPhase.ne_returned rfl)
  | back => exact .leaves (fun _ => inside) rfl (AppPhase.ne_returned rfl)
  | ok =>
      simp only [browseAction]
      split
      · next something =>
          rw [pruned] at something
          refine .selects (Nat.ne_of_gt something) ?_ rfl
          rw [← pruned]
          rfl
      · exact .leaves (fun _ => inside) rfl (AppPhase.ne_returned rfl)

theorem proceedStep_cursor {nowMs : UInt64} (stepped : proceedStep s nowMs = some t) :
    CursorMoves s (.proceed nowMs) t := by
  cases proceedStep_cases stepped with
  | goes _ leads => exact .leads rfl leads
  | answers _ => exact browseAction_cursor rfl
  | @prunes caller here =>
      cases caller with
      | selection => exact .prunes here rfl rfl rfl
      | reconnect =>
          exact .leaves (fun _ => cursorInside_prune s.manager nowMs) rfl (AppPhase.ne_returned rfl)
  | @refreshes target here =>
      exact .leaves (fun inside => cursorInside_seen inside target nowMs) (reconnectLoop_selection _ _)
        (AppPhase.ne_returned (reconnectLoop_elsewhere _ _))

/-- Behind a session main keeps the selection only in the wait of the outer loop. -/
theorem sessionEndStep_cursor {result : SessionResult} (stepped : sessionEndStep s result = some t) :
    CursorMoves s (.sessionEnds result) t := by
  rcases sessionEndStep_eq stepped with ⟨target, loop, streaming, rfl⟩
  have manager : (s.dateEnd result).manager = s.manager := by cases result <;> rfl
  cases loop with
  | selection =>
      have selection : s.phase.keepsSelection = true := by rw [streaming]; rfl
      refine .within manager selection ?_
      cases s.signalStop <;> cases result <;> rfl
  | reconnect =>
      refine .away manager ?_ ?_
      · cases s.signalStop <;> cases result <;> rfl
      · cases s.signalStop <;> cases result <;> rfl

theorem appMove_cursor (moved : appMove s event = some t) : CursorMoves s event t := by
  cases event with
  | arrive source datagram =>
      rcases Option.map_eq_some_iff.mp moved with ⟨queue, opened, rfl⟩
      refine .keeps (App.setListener_manager s source _) (fun selection => ?_) (fun device here => ?_)
      · rwa [App.setListener_phase] at selection
      · rwa [App.setListener_phase] at here
  | signal =>
      cases moved
      exact .keeps rfl id (fun _ => id)
  | shellPoll input => exact shellStep_cursor moved
  | discoveryPoll socket nowMs => exact pollStep_cursor moved
  | sessionEnds result => exact sessionEndStep_cursor moved
  | proceed nowMs => exact proceedStep_cursor moved

/-- The ghost clock is not about the cursor. -/
theorem CursorMoves.tick (moves : CursorMoves s event t) : CursorMoves s event t.tick := by
  cases moves with
  | keeps manager selection returned => exact .keeps manager selection returned
  | leaves inside selection returned => exact .leaves inside selection returned
  | selects something manager phase => exact .selects something manager phase
  | reports waits unwanted manager phase => exact .reports waits unwanted manager phase
  | returns on manager phase => exact .returns on manager phase
  | prunes waits now manager phase => exact .prunes waits now manager phase

theorem appStep_cursor (stepped : appStep s event = some t) : CursorMoves s event t := by
  rcases Option.map_eq_some_iff.mp stepped with ⟨u, moved, rfl⟩
  exact (appMove_cursor moved).tick

/-! ### Runs -/

/-- The refresh is the one step main takes from there. -/
theorem cursorFollows_iff {device : SysdvrDevice} (returned : s.phase = .returned device .selection) :
    CursorFollows s ↔ ∀ nowMs, OnCursor (sessionManagerSeen s.manager device nowMs) device := by
  have refresh : ∀ nowMs, appStep s (.proceed nowMs)
      = some (reconnectLoop (s.setManager (sessionManagerSeen s.manager device nowMs)) device).tick := by
    intro nowMs
    simp only [appStep, appMove, proceedStep, returned, Option.map_some]
  constructor
  · intro follows nowMs
    exact follows device returned nowMs _ (refresh nowMs)
  · intro on other returned' nowMs t stepped
    rw [returned] at returned'
    cases returned'
    rw [refresh] at stepped
    cases stepped
    exact on nowMs

theorem cursorFollows_of_elsewhere (elsewhere : ∀ device, s.phase ≠ .returned device .selection) :
    CursorFollows s :=
  fun device returned => absurd returned (elsewhere device)

/-- What the steps keep as long as each return of the wait finds the registry ready. -/
structure Following (s : App) : Prop where
  inside : CursorInside s.manager
  follows : CursorFollows s

theorem following_start (host : Option CString) (scannerOpens sftScannerOpens : Bool) :
    Following (appStart host scannerOpens sftScannerOpens) where
  inside := by
    have start := cursorInside_start host
    cases host <;> exact start
  follows := cursorFollows_of_elsewhere (AppPhase.ne_returned rfl)

theorem cursorInside_step (inside : CursorInside s.manager) (moves : CursorMoves s event t) :
    CursorInside t.manager := by
  cases moves with
  | keeps manager _ _ => rwa [manager]
  | leaves after _ _ => exact after inside
  | selects _ manager _ =>
      rw [manager]
      exact cursorInside_rememberSelected (cursorInside_prune s.manager _)
  | reports _ _ manager _ =>
      rw [manager]
      exact cursorInside_seen inside _ _
  | returns _ manager _ =>
      rw [manager]
      exact cursorInside_seen inside _ _
  | prunes _ _ manager _ =>
      rw [manager]
      exact cursorInside_prune s.manager _

/-- The wait returns with the cursor on the console exactly if the registry was ready for it. -/
theorem cursorFollows_of_returns {device : SysdvrDevice} {nowMs : UInt64}
    (inside : CursorInside s.manager) (manager : t.manager = sessionManagerSeen s.manager device nowMs)
    (phase : t.phase = .returned device .selection) :
    CursorFollows t ↔ CursorReady s.manager device := by
  rw [cursorFollows_iff phase, manager]
  constructor
  · intro on
    exact (onCursor_seen_again inside 0).mp (on 0)
  · intro ready againMs
    exact (onCursor_seen_again inside againMs).mpr ready

theorem cursorFollows_step (following : Following s) (ready : ReturnsReady s event)
    (moves : CursorMoves s event t) : CursorFollows t := by
  cases moves with
  | keeps manager _ returned =>
      intro device here nowMs next stepped
      have follows := (cursorFollows_iff (returned device here)).mp following.follows
      rw [← manager] at follows
      exact (cursorFollows_iff here).mpr follows device here nowMs next stepped
  | leaves _ _ returned => exact cursorFollows_of_elsewhere returned
  | selects _ _ phase => exact cursorFollows_of_elsewhere (AppPhase.ne_returned (by rw [phase]; rfl))
  | reports _ _ _ phase => exact cursorFollows_of_elsewhere (AppPhase.ne_returned (by rw [phase]; rfl))
  | returns on manager phase =>
      exact (cursorFollows_of_returns following.inside manager phase).mpr (ready _ on)
  | prunes _ _ _ phase => exact cursorFollows_of_elsewhere (AppPhase.ne_returned (by rw [phase]; rfl))

/-- An announcement of the preferred console ends the wait. -/
theorem appStep_of_returnsOn {device : SysdvrDevice} (on : ReturnsOn s event device) :
    ∃ next nowMs, appStep s event = some next ∧
      next.manager = sessionManagerSeen s.manager device nowMs ∧
      next.phase = .returned device .selection := by
  rcases on with ⟨source, nowMs, arrival, queue, rfl, phase, opened, found, wanted⟩
  have wanted' : sessionManagerMatchesPreferred
      (sessionManagerSeen (s.setListener source queue).manager device nowMs) device = true := by
    rw [matchesPreferred_seen, App.setListener_manager]
    exact wanted
  have stepped : appStep s (.discoveryPoll .receive nowMs)
      = some (waitPolled (s.setListener source queue) source .selection arrival.arrivedAt nowMs
          (.found device)).tick := by
    simp only [appStep, appMove, pollStep, phase, opened, Option.bind_some, readSocket, Option.map_some,
      found]
  have returns : waitPolled (s.setListener source queue) source .selection arrival.arrivedAt nowMs
        (.found device)
      = (((s.setListener source queue).setManager
          (sessionManagerSeen (s.setListener source queue).manager device nowMs)).record
            arrival.arrivedAt).enter (.returned device .selection) := by
    rw [waitPolled]
    exact if_pos wanted'
  rw [returns] at stepped
  refine ⟨_, nowMs, stepped, ?_, rfl⟩
  change sessionManagerSeen (s.setListener source queue).manager device nowMs = _
  rw [App.setListener_manager]

/-- Where the cursor follows each return, each return found the registry ready. -/
theorem returnsReady_of_follows (following : Following s)
    (after : ∀ next, appStep s event = some next → Following next) : ReturnsReady s event := by
  intro device on
  rcases appStep_of_returnsOn on with ⟨next, nowMs, stepped, manager, phase⟩
  exact (cursorFollows_of_returns following.inside manager phase).mp (after next stepped).follows

theorem following_step (following : Following s) (ready : ReturnsReady s event)
    (stepped : appStep s event = some t) : Following t where
  inside := cursorInside_step following.inside (appStep_cursor stepped)
  follows := cursorFollows_step following ready (appStep_cursor stepped)

/-- What the steps keep as long as each prune of the wait keeps the selected entry. -/
structure Selecting (s : App) : Prop where
  following : Following s
  anchored : s.phase.keepsSelection = true → Anchored s.manager

theorem anchored_step (selecting : Selecting s) (keeps : PruneKeepsCursor s event)
    (moves : CursorMoves s event t) (selection : t.phase.keepsSelection = true) :
    Anchored t.manager := by
  cases moves with
  | keeps manager within _ =>
      rw [manager]
      exact selecting.anchored (within selection)
  | leaves _ away _ =>
      rw [away] at selection
      cases selection
  | selects something manager _ =>
      obtain ⟨entry, here⟩ := selected_of_cursorInside (cursorInside_prune s.manager _) something
      rw [manager]
      exact anchored_rememberSelected here
  | reports waits unwanted manager _ =>
      rw [manager]
      exact anchored_seen (selecting.anchored (by rw [waits]; rfl)) unwanted _
  | returns _ _ phase =>
      rw [phase] at selection
      cases selection
  | prunes waits now manager _ =>
      subst now
      rw [manager]
      exact anchored_prune (selecting.anchored (by rw [waits]; rfl)) (keeps waits)

/-- While the cursor is anchored, every return finds the registry ready. -/
theorem returnsReady_of_selecting (selecting : Selecting s) : ReturnsReady s event := by
  intro device on
  rcases on with ⟨_, _, _, _, _, phase, _, _, wanted⟩
  exact ready_of_anchored (selecting.anchored (by rw [phase]; rfl)) wanted

theorem selecting_step (selecting : Selecting s) (keeps : PruneKeepsCursor s event)
    (stepped : appStep s event = some t) : Selecting t where
  following := following_step selecting.following (returnsReady_of_selecting selecting) stepped
  anchored := anchored_step selecting keeps (appStep_cursor stepped)

end

/-- In a run of main the cursor is on the console after each automatic reconnect exactly if each
    announcement that ends the wait finds the registry ready for it; and it does if each prune of the wait
    keeps the selected entry. -/
theorem reconnect_cursor_iff (host : Option CString) (scannerOpens sftScannerOpens : Bool)
    (events : List AppEvent) :
    (AllStates appStep CursorFollows (appStart host scannerOpens sftScannerOpens) events
      ↔ AllSteps appStep ReturnsReady (appStart host scannerOpens sftScannerOpens) events) ∧
    (AllSteps appStep PruneKeepsCursor (appStart host scannerOpens sftScannerOpens) events →
      AllStates appStep CursorFollows (appStart host scannerOpens sftScannerOpens) events) := by
  have start := following_start host scannerOpens sftScannerOpens
  refine ⟨⟨?_, ?_⟩, ?_⟩
  · intro follows
    have inside : AllStates appStep (fun s => CursorInside s.manager)
        (appStart host scannerOpens sftScannerOpens) events := by
      refine allStates_of_allSteps ?_ start.inside (allSteps_of_events (A := fun _ => True) (by simp))
      intro s event next inside _ stepped
      exact cursorInside_step inside (appStep_cursor stepped)
    refine allSteps_of_allStates ?_ (inside.and follows)
    intro s event before after
    apply returnsReady_of_follows ⟨before.1, before.2⟩
    intro next stepped
    exact ⟨(after next stepped).1, (after next stepped).2⟩
  · intro ready
    apply AllStates.imp fun s => Following.follows
    exact allStates_of_allSteps (fun s event next => following_step) start ready
  · intro keeps
    have first : Selecting (appStart host scannerOpens sftScannerOpens) :=
      ⟨start, fun selection => nomatch selection⟩
    have everywhere : AllStates appStep Selecting (appStart host scannerOpens sftScannerOpens) events :=
      allStates_of_allSteps (fun s event next => selecting_step) first keeps
    exact everywhere.imp fun s selecting => selecting.following.follows

/-- Another SysDVR console, at 192.168.0.8. -/
def otherAnnouncement : Datagram where
  data := (CString.literal "SysDVR|6.2|03|XAW10099999999").bytes
  remote := ⟨192, 168, 0, 8⟩

/-- The console that sends `announcement`. -/
def announcedConsole : SysdvrDevice :=
  describedDevice ⟨192, 168, 0, 7⟩ (CString.literal "6.2").bytes (CString.literal "03").bytes
    (some (CString.literal "XAW10012345678").bytes)

/-- Two consoles are listed, and the user selects the first. It sleeps for more than seven seconds, so the
    wait drops it and keeps the other one, and then it announces itself again. -/
def sleepBesideAnother : List AppEvent :=
  [.arrive .sysdvr announcement, .arrive .sysdvr otherAnnouncement, .shellPoll (.action .ok),
    .discoveryPoll .receive 1000, .discoveryPoll .receive 1000, .discoveryPoll .nothing 1000,
    .proceed 1000, .proceed 1000, .proceed 1000, .sessionEnds .remoteEnd,
    .arrive .sysdvr otherAnnouncement, .shellPoll (.action .none), .discoveryPoll .receive 8500,
    .discoveryPoll .nothing 8500, .proceed 8500, .proceed 8500,
    .arrive .sysdvr announcement, .shellPoll (.action .none), .discoveryPoll .receive 9500]

/-- The returning console is appended behind the other one, and the cursor stays on that. -/
theorem cursor_on_another_console :
    ¬ ∀ (host : Option CString) (scannerOpens sftScannerOpens : Bool) (events : List AppEvent),
      AllStates appStep CursorFollows (appStart host scannerOpens sftScannerOpens) events := by
  intro always
  have ends : (exec appStep (appStart none true false) sleepBesideAnother).map (fun s =>
      (s.phase,
        (sessionManagerSeen s.manager announcedConsole 9500).live.any (sameDevice · announcedConsole),
        (sessionManagerSelected (sessionManagerSeen s.manager announcedConsole 9500)).map
          (sameDevice · announcedConsole)))
      = some (.returned announcedConsole .selection, true, some false) := by
    decide
  rcases Option.map_eq_some_iff.mp ends with ⟨last, run, reads⟩
  have follows := (always none true false sleepBesideAnother).last run
  have returned : last.phase = .returned announcedConsole .selection := congrArg Prod.fst reads
  have on := (cursorFollows_iff returned).mp follows 9500
  have listed := List.any_eq_true.mp (congrArg (fun r => r.2.1) reads)
  rcases on listed with ⟨entry, here, same⟩
  have elsewhere := congrArg (fun r => r.2.2) reads
  simp only [here, Option.map_some, same] at elsewhere
  cases elsewhere

end SysdvrWebos
