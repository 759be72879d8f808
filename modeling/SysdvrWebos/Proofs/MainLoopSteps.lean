/-
Module: SysdvrWebos.Proofs.MainLoopSteps
Layer: Proofs
Purpose: What one step of main's loops can do: the branches of the shell polls, of the polls of the
  listeners and of the steps between them, each with what it leaves alone. From them, what a step does to
  the listeners, to the console main waits for and to the record of reconnects: only an arrival adds to a
  listener, only the end of a session starts a wait, and only an announcement of the console wanted ends
  one with a reconnect; every other step keeps to a frame.
Trusted boundary: none (fully proved)
Main exports: announces, announcesPreferred, AppPhase.afterLoss, AppPhase.keepsSelection, AppPhase.Leads,
  shellStep_cases, pollStep_cases, proceedStep_cases, sessionEndStep_eq, Frame, AppMoves, appStep_moves
Open obligations: none
-/
import SysdvrWebos.Core.MainLoop

namespace SysdvrWebos

/-! ### Announcements of the preferred console -/

/-- The datagram makes the poll of the listener report a console that is wanted. -/
def announces (wanted : SysdvrDevice → Bool) (source : StreamSource) (datagram : Datagram) : Bool :=
  match discoveryPoll source (.received datagram) with
  | .found device => wanted device
  | .failed => false
  | .idle => false

/-- The datagram announces the console the registry wants back. -/
def announcesPreferred (m : SessionManager) (source : StreamSource) (datagram : Datagram) : Bool :=
  announces (sessionManagerMatchesPreferred m) source datagram

theorem found_of_announces {wanted : SysdvrDevice → Bool} {source : StreamSource} {datagram : Datagram}
    (yes : announces wanted source datagram = true) :
    ∃ device, discoveryPoll source (.received datagram) = .found device ∧ wanted device = true := by
  unfold announces at yes
  split at yes
  · rename_i device found
    exact ⟨device, found, yes⟩
  · cases yes
  · cases yes

/-! ### Steps -/

/-- The phases from the end of a session that ended by itself up to the next selection by the user. -/
def AppPhase.afterLoss : AppPhase → Bool
  | .waitTop _ => true
  | .waitPoll _ _ => true
  | .waitPrune _ => true
  | .returned _ _ => true
  | .streaming _ .reconnect => true
  | .showError .reconnect => true
  | .streaming _ .selection => false
  | .showError .selection => false
  | .browseTop => false
  | .browsePoll _ _ => false
  | .browsePrune _ => false
  | .selected => false
  | .left => false

/-- The phases from the selection by the user up to the return of the wait behind its session. -/
def AppPhase.keepsSelection : AppPhase → Bool
  | .selected => true
  | .streaming _ loop => loop = .selection
  | .waitTop caller => caller = .selection
  | .waitPoll _ caller => caller = .selection
  | .waitPrune caller => caller = .selection
  | .returned _ _ => false
  | .showError _ => false
  | .browseTop => false
  | .browsePoll _ _ => false
  | .browsePrune _ => false
  | .left => false

/-- The wait has just returned a console. -/
def AppPhase.isReturned : AppPhase → Bool
  | .returned _ _ => true
  | .browseTop => false
  | .browsePoll _ _ => false
  | .browsePrune _ => false
  | .selected => false
  | .streaming _ _ => false
  | .showError _ => false
  | .waitTop _ => false
  | .waitPoll _ _ => false
  | .waitPrune _ => false
  | .left => false

theorem AppPhase.ne_returned {phase : AppPhase} {caller : MainLoop} (elsewhere : phase.isReturned = false)
    (device : SysdvrDevice) : phase ≠ .returned device caller := by
  intro here
  rw [here] at elsewhere
  cases elsewhere

/-- The phases whose next step is a call of the registry. -/
def AppPhase.callsRegistry : AppPhase → Bool
  | .browsePrune _ => true
  | .waitPrune _ => true
  | .returned _ .selection => true
  | .returned _ .reconnect => false
  | .browseTop => false
  | .browsePoll _ _ => false
  | .selected => false
  | .streaming _ _ => false
  | .showError _ => false
  | .waitTop _ => false
  | .waitPoll _ _ => false
  | .left => false

/-- What is true of every way from one phase to another on which main asks nothing of the registry: the wait
    returns no console, and neither a loss nor a selection begins. -/
structure AppPhase.Leads (phase next : AppPhase) : Prop where
  elsewhere : next.isReturned = false
  afterLoss : next.afterLoss = true → phase.afterLoss = true
  selection : next.keepsSelection = true → phase.keepsSelection = true

/-- A way out of the phases after a loss and of those of a selection. -/
theorem AppPhase.Leads.out {phase next : AppPhase} (elsewhere : next.isReturned = false)
    (calm : next.afterLoss = false) (unselected : next.keepsSelection = false) : phase.Leads next where
  elsewhere := elsewhere
  afterLoss := by
    intro lost
    rw [calm] at lost
    cases lost
  selection := by
    intro selected
    rw [unselected] at selected
    cases selected

/-- The results of `sdl_shell_poll` in the loops of main. -/
inductive ShellMoves (s : App) : App → Prop where
  | stays : ShellMoves s s
  | goes {next} (leads : s.phase.Leads next) : ShellMoves s (s.enter next)
  | stops {next} (leads : s.phase.Leads next) : ShellMoves s (s.stop.enter next)

theorem shellStep_cases {s t : App} {input : ShellInput} (stepped : shellStep s input = some t) :
    ShellMoves s t := by
  unfold shellStep at stepped
  split at stepped
  · cases stepped
  · split at stepped
    -- browseTop
    · cases stepped
      exact .stops (.out rfl rfl rfl)
    · cases stepped
      exact .goes (.out rfl rfl rfl)
    -- waitTop
    · cases stepped
      exact .stops (.out rfl rfl rfl)
    · next caller action _ phase =>
        split at stepped
        · cases stepped
          exact .goes (.out rfl rfl rfl)
        · cases stepped
          apply ShellMoves.goes
          rw [phase]
          exact ⟨rfl, fun _ => rfl, id⟩
    -- showError
    · cases stepped
      exact .stops (.out rfl rfl rfl)
    · next phase =>
        cases stepped
        apply ShellMoves.stops
        rw [phase]
        exact ⟨rfl, fun _ => rfl, id⟩
    · cases stepped
      split
      · exact .goes (.out rfl rfl rfl)
      · exact .stays
    · next action _ phase =>
        cases stepped
        split
        · apply ShellMoves.goes
          rw [phase]
          exact ⟨rfl, fun _ => rfl, id⟩
        · exact .stays
    · cases stepped

/-- The results of a poll. -/
inductive PollMoves (s : App) (socket : SocketEvent) (nowMs : UInt64) : App → Prop where
  | browse {source action queue answer arrivedAt rest} (here : s.phase = .browsePoll source action)
      (opened : s.listener source = some queue)
      (read : readSocket queue socket = some (answer, arrivedAt, rest)) :
      PollMoves s socket nowMs
        (browsePolled (s.setListener source rest) source action nowMs (discoveryPoll source answer))
  | wait {source caller queue answer arrivedAt rest} (here : s.phase = .waitPoll source caller)
      (opened : s.listener source = some queue)
      (read : readSocket queue socket = some (answer, arrivedAt, rest)) :
      PollMoves s socket nowMs
        (waitPolled (s.setListener source rest) source caller arrivedAt nowMs
          (discoveryPoll source answer))

theorem pollStep_cases {s t : App} {socket : SocketEvent} {nowMs : UInt64}
    (stepped : pollStep s socket nowMs = some t) : PollMoves s socket nowMs t := by
  unfold pollStep at stepped
  split at stepped
  · next source action here =>
      rcases Option.bind_eq_some_iff.mp stepped with ⟨queue, opened, polled⟩
      rcases Option.map_eq_some_iff.mp polled with ⟨⟨answer, arrivedAt, rest⟩, read, rfl⟩
      exact .browse here opened read
  · next source caller here =>
      rcases Option.bind_eq_some_iff.mp stepped with ⟨queue, opened, polled⟩
      rcases Option.map_eq_some_iff.mp polled with ⟨⟨answer, arrivedAt, rest⟩, read, rfl⟩
      exact .wait here opened read
  · cases stepped

/-- The reconnect loop streams once more, or it is left. -/
theorem reconnectLoop_elsewhere (s : App) (target : SysdvrDevice) :
    (reconnectLoop s target).phase.isReturned = false := by
  unfold reconnectLoop
  split
  · rfl
  · rfl

theorem reconnectLoop_selection (s : App) (target : SysdvrDevice) :
    (reconnectLoop s target).phase.keepsSelection = false := by
  unfold reconnectLoop
  split
  · rfl
  · rfl

theorem reconnectLoop_leads {s : App} {target : SysdvrDevice} {caller : MainLoop}
    (here : s.phase = .returned target caller) : s.phase.Leads (reconnectLoop s target).phase where
  elsewhere := reconnectLoop_elsewhere s target
  afterLoss := by
    intro _
    rw [here]
    rfl
  selection := by
    intro selected
    rw [reconnectLoop_selection] at selected
    cases selected

/-- The results of the steps between the polls. -/
inductive ProceedMoves (s : App) (nowMs : UInt64) : App → Prop where
  | goes {next} (quiet : s.phase.callsRegistry = false) (leads : s.phase.Leads next) :
      ProceedMoves s nowMs (s.enter next)
  | answers {action} (here : s.phase = .browsePrune action) :
      ProceedMoves s nowMs (browseAction (s.setManager (sessionManagerPrune s.manager nowMs)) action)
  | prunes {caller} (here : s.phase = .waitPrune caller) :
      ProceedMoves s nowMs ((s.setManager (sessionManagerPrune s.manager nowMs)).enter (.waitTop caller))
  | refreshes {target} (here : s.phase = .returned target .selection) :
      ProceedMoves s nowMs (reconnectLoop (s.setManager (sessionManagerSeen s.manager target nowMs)) target)

theorem proceedStep_cases {s t : App} {nowMs : UInt64} (stepped : proceedStep s nowMs = some t) :
    ProceedMoves s nowMs t := by
  unfold proceedStep at stepped
  split at stepped
  all_goals
    rename_i here
    have quiet := congrArg AppPhase.callsRegistry here
  -- browseTop
  · split at stepped
    · cases stepped
      exact .goes quiet (.out rfl rfl rfl)
    · cases stepped
  -- browsePoll
  · rename_i source action
    split at stepped
    · cases stepped
      apply ProceedMoves.goes quiet
      cases source with
      | sysdvr => exact .out rfl rfl rfl
      | frametap => exact .out rfl rfl rfl
    · cases stepped
  -- browsePrune
  · cases stepped
    exact .answers here
  -- selected
  · split at stepped
    · cases stepped
      apply ProceedMoves.goes quiet
      rw [here]
      exact ⟨rfl, nofun, fun _ => rfl⟩
    · cases stepped
      exact .goes quiet (.out rfl rfl rfl)
  -- showError
  · cases stepped
    exact .goes quiet (.out rfl rfl rfl)
  · cases stepped
    apply ProceedMoves.goes quiet
    rw [here]
    exact ⟨rfl, fun _ => rfl, id⟩
  -- waitTop
  · split at stepped
    · cases stepped
      exact .goes quiet (.out rfl rfl rfl)
    · cases stepped
  -- waitPoll
  · rename_i source caller
    split at stepped
    · cases stepped
      apply ProceedMoves.goes quiet
      rw [here]
      cases source with
      | sysdvr => exact ⟨rfl, fun _ => rfl, id⟩
      | frametap => exact ⟨rfl, fun _ => rfl, id⟩
    · cases stepped
  -- waitPrune
  · cases stepped
    exact .prunes here
  -- returned
  · cases stepped
    exact .refreshes here
  · cases stepped
    exact .goes quiet (reconnectLoop_leads here)
  · cases stepped
  · cases stepped

/-- A session ends only where one is running. -/
theorem sessionEndStep_eq {s t : App} {result : SessionResult}
    (stepped : sessionEndStep s result = some t) :
    ∃ target loop, s.phase = .streaming target loop
      ∧ t = (s.dateEnd result).enter (loop.afterSession s.signalStop result) := by
  unfold sessionEndStep at stepped
  split at stepped
  · rename_i target loop phase
    cases stepped
    exact ⟨target, loop, phase, rfl⟩
  · cases stepped

/-! ### The listeners and the console wanted -/

/-- What every step but an arrival and the end of a session leaves alone. While main waits, the console
    it waits for stays the same. -/
structure Frame (s t : App) : Prop where
  clock : t.clock = s.clock
  endedAt : t.endedAt = s.endedAt
  queued : ∀ source, t.queued source ⊆ s.queued source
  waiting : t.phase.afterLoss = true → s.phase.afterLoss = true ∧
    sessionManagerMatchesPreferred t.manager = sessionManagerMatchesPreferred s.manager

theorem announcesPreferred_congr {m m' : SessionManager}
    (same : sessionManagerMatchesPreferred m' = sessionManagerMatchesPreferred m) :
    announcesPreferred m' = announcesPreferred m := by
  funext source datagram
  simp only [announcesPreferred, same]

/-- What a step can do. -/
inductive AppMoves (s : App) : AppEvent → App → Prop where
  | arrives {source datagram queue} (opened : s.listener source = some queue) :
      AppMoves s (.arrive source datagram) (s.setListener source (queue ++ [⟨datagram, s.clock⟩]))
  | quiet {event t} (frame : Frame s t) (reconnects : t.reconnects = s.reconnects) :
      AppMoves s event t
  | returns {event t source arrival} (frame : Frame s t) (waiting : s.phase.afterLoss = true)
      (waits : arrival ∈ s.queued source)
      (preferred : announcesPreferred s.manager source arrival.datagram = true)
      (reconnects : t.reconnects = s.reconnects ++ [⟨arrival.arrivedAt, s.endedAt⟩]) :
      AppMoves s event t
  | ends {target loop result} (streaming : s.phase = .streaming target loop) :
      AppMoves s (.sessionEnds result)
        ((s.dateEnd result).enter (loop.afterSession s.signalStop result))

theorem Frame.trans {s t u : App} (first : Frame s t) (second : Frame t u) : Frame s u where
  clock := second.clock.trans first.clock
  endedAt := second.endedAt.trans first.endedAt
  queued := fun source => List.Subset.trans (second.queued source) (first.queued source)
  waiting := by
    intro waiting
    rcases second.waiting waiting with ⟨earlier, same⟩
    rcases first.waiting earlier with ⟨earliest, same'⟩
    exact ⟨earliest, same.trans same'⟩

/-- A step that reads no listener. -/
structure Untouched (s t : App) : Prop where
  clock : t.clock = s.clock
  endedAt : t.endedAt = s.endedAt
  listener : t.listener = s.listener

theorem Untouched.queued {s t : App} (untouched : Untouched s t) (source : StreamSource) :
    t.queued source ⊆ s.queued source := by
  rw [App.queued, App.queued, untouched.listener]
  exact List.Subset.refl _

/-- Such a step may leave the phases after a loss, -/
theorem Untouched.leaves {s t : App} (untouched : Untouched s t) (gone : t.phase.afterLoss = false) :
    Frame s t := by
  refine ⟨untouched.clock, untouched.endedAt, untouched.queued, fun waiting => ?_⟩
  rw [gone] at waiting
  cases waiting

/-- or stay among them with the same console wanted. -/
theorem Untouched.stays {s t : App} (untouched : Untouched s t) (waiting : s.phase.afterLoss = true)
    (same : sessionManagerMatchesPreferred t.manager = sessionManagerMatchesPreferred s.manager) :
    Frame s t :=
  ⟨untouched.clock, untouched.endedAt, untouched.queued, fun _ => ⟨waiting, same⟩⟩

theorem Untouched.leads {s t : App} (untouched : Untouched s t) (leads : s.phase.Leads t.phase)
    (same : sessionManagerMatchesPreferred t.manager = sessionManagerMatchesPreferred s.manager) :
    Frame s t :=
  ⟨untouched.clock, untouched.endedAt, untouched.queued, fun waiting => ⟨leads.afterLoss waiting, same⟩⟩

theorem Frame.refl (s : App) : Frame s s where
  clock := rfl
  endedAt := rfl
  queued := fun _ => List.Subset.refl _
  waiting := fun waiting => ⟨waiting, rfl⟩

theorem untouched_enter (s : App) (phase : AppPhase) : Untouched s (s.enter phase) :=
  ⟨rfl, rfl, rfl⟩

theorem untouched_stop_enter (s : App) (phase : AppPhase) : Untouched s (s.stop.enter phase) :=
  ⟨rfl, rfl, rfl⟩

theorem untouched_setManager (s : App) (m : SessionManager) : Untouched s (s.setManager m) :=
  ⟨rfl, rfl, rfl⟩

theorem untouched_setManager_enter (s : App) (m : SessionManager) (phase : AppPhase) :
    Untouched s ((s.setManager m).enter phase) :=
  ⟨rfl, rfl, rfl⟩

theorem shellStep_moves {s t : App} {input : ShellInput} (stepped : shellStep s input = some t) :
    AppMoves s (.shellPoll input) t := by
  cases shellStep_cases stepped with
  | stays => exact .quiet (.refl s) rfl
  | goes leads => exact .quiet ((untouched_enter s _).leads leads rfl) rfl
  | stops leads => exact .quiet ((untouched_stop_enter s _).leads leads rfl) rfl

/-- Reading a socket only takes from its queue, and what it hands out was there. -/
theorem readSocket_queue {queue rest : List Arrival} {socket : SocketEvent} {answer : SocketAnswer}
    {arrivedAt : Nat} (read : readSocket queue socket = some (answer, arrivedAt, rest)) :
    rest ⊆ queue ∧ ∀ datagram, answer = .received datagram → ⟨datagram, arrivedAt⟩ ∈ queue := by
  cases socket with
  | nothing =>
      cases read
      exact ⟨List.Subset.refl _, fun _ received => by cases received⟩
  | failed =>
      cases read
      exact ⟨List.Subset.refl _, fun _ received => by cases received⟩
  | receive =>
      cases queue with
      | nil => cases read
      | cons arrival queue =>
          cases read
          refine ⟨List.subset_cons_self _ _, fun datagram received => ?_⟩
          cases received
          exact List.mem_cons_self

theorem queued_setListener {s : App} {source : StreamSource} {queue rest : List Arrival}
    (opened : s.listener source = some queue) (less : rest ⊆ queue) (other : StreamSource) :
    (s.setListener source rest).queued other ⊆ s.queued other := by
  by_cases same : other = source
  · subst same
    rw [App.queued, App.queued, App.listener_setListener, opened]
    exact less
  · rw [App.queued, App.queued, App.listener_setListener_of_ne s same]
    exact List.Subset.refl _

/-- Only a datagram makes a poll report a console. -/
theorem received_of_found {source : StreamSource} {answer : SocketAnswer} {device : SysdvrDevice}
    (found : discoveryPoll source answer = .found device) : ∃ datagram, answer = .received datagram := by
  cases answer with
  | nothing => cases source <;> cases found
  | failed => cases source <;> cases found
  | received datagram => exact ⟨datagram, rfl⟩

theorem frame_setListener {s : App} {source : StreamSource} {queue rest : List Arrival}
    (opened : s.listener source = some queue) (less : rest ⊆ queue) :
    Frame s (s.setListener source rest) where
  clock := App.setListener_clock s source rest
  endedAt := App.setListener_endedAt s source rest
  queued := queued_setListener opened less
  waiting := by
    intro waiting
    rw [App.setListener_phase] at waiting
    rw [App.setListener_manager]
    exact ⟨waiting, rfl⟩

theorem browsePolled_frame {s : App} {source : StreamSource} {action : SdlShellAction}
    (phase : s.phase = .browsePoll source action) (nowMs : UInt64) (result : PollResult SysdvrDevice) :
    Frame s (browsePolled s source action nowMs result)
      ∧ (browsePolled s source action nowMs result).reconnects = s.reconnects := by
  have next : (afterBrowsePoll action source).afterLoss = false := by cases source <;> rfl
  cases result with
  | idle => exact ⟨(untouched_enter s _).leaves next, rfl⟩
  | failed => exact ⟨(untouched_enter s _).leaves next, rfl⟩
  | found device =>
      refine ⟨(untouched_setManager s _).leaves ?_, rfl⟩
      show s.phase.afterLoss = false
      rw [phase]
      rfl

/-- The wait goes on with the same console wanted, or it returns true at a console that is wanted. -/
theorem waitPolled_frame {s : App} {source : StreamSource} {caller : MainLoop}
    (phase : s.phase = .waitPoll source caller) (arrivedAt : Nat) (nowMs : UInt64)
    (result : PollResult SysdvrDevice) :
    Frame s (waitPolled s source caller arrivedAt nowMs result)
      ∧ ((waitPolled s source caller arrivedAt nowMs result).reconnects = s.reconnects
        ∨ (∃ device, result = .found device ∧ sessionManagerMatchesPreferred s.manager device = true)
          ∧ (waitPolled s source caller arrivedAt nowMs result).reconnects
            = s.reconnects ++ [⟨arrivedAt, s.endedAt⟩]) := by
  have waiting : s.phase.afterLoss = true := by rw [phase]; rfl
  cases result with
  | idle => exact ⟨(untouched_enter s _).stays waiting rfl, Or.inl rfl⟩
  | failed => exact ⟨(untouched_enter s _).stays waiting rfl, Or.inl rfl⟩
  | found device =>
      have same := matchesPreferred_seen s.manager device nowMs
      simp only [waitPolled]
      split
      · rename_i wanted
        have wanted' : sessionManagerMatchesPreferred s.manager device = true := by
          rw [← same]
          exact wanted
        exact ⟨Untouched.stays ⟨rfl, rfl, rfl⟩ waiting same, Or.inr ⟨⟨device, rfl, wanted'⟩, rfl⟩⟩
      · exact ⟨(untouched_setManager s _).stays waiting same, Or.inl rfl⟩

theorem pollStep_moves {s t : App} {socket : SocketEvent} {nowMs : UInt64}
    (stepped : pollStep s socket nowMs = some t) : AppMoves s (.discoveryPoll socket nowMs) t := by
  cases pollStep_cases stepped with
  | @browse source action queue answer arrivedAt rest here opened read =>
      have polling : (s.setListener source rest).phase = .browsePoll source action := by
        rw [App.setListener_phase, here]
      rcases browsePolled_frame polling nowMs (discoveryPoll source answer) with ⟨frame, reconnects⟩
      rw [App.setListener_reconnects] at reconnects
      exact .quiet ((frame_setListener opened (readSocket_queue read).1).trans frame) reconnects
  | @wait source caller queue answer arrivedAt rest here opened read =>
      have polling : (s.setListener source rest).phase = .waitPoll source caller := by
        rw [App.setListener_phase, here]
      rcases readSocket_queue read with ⟨less, was⟩
      rcases waitPolled_frame polling arrivedAt nowMs (discoveryPoll source answer)
        with ⟨frame, goesOn | ⟨⟨device, found, wanted⟩, returned⟩⟩
      · rw [App.setListener_reconnects] at goesOn
        exact .quiet ((frame_setListener opened less).trans frame) goesOn
      · rw [App.setListener_reconnects, App.setListener_endedAt] at returned
        rw [App.setListener_manager] at wanted
        rcases received_of_found found with ⟨datagram, rfl⟩
        have member : (⟨datagram, arrivedAt⟩ : Arrival) ∈ s.queued source := by
          rw [App.queued, opened]
          exact was datagram rfl
        have preferred : announcesPreferred s.manager source datagram = true := by
          simp only [announcesPreferred, announces, found, wanted]
        exact .returns ((frame_setListener opened less).trans frame) (by rw [here]; rfl) member
          preferred returned

theorem browseAction_frame (s : App) (action : SdlShellAction) :
    Frame s (browseAction s action) ∧ (browseAction s action).reconnects = s.reconnects := by
  cases action with
  | none => exact ⟨(untouched_enter s _).leaves rfl, rfl⟩
  | up => exact ⟨(untouched_setManager_enter s _ _).leaves rfl, rfl⟩
  | down => exact ⟨(untouched_setManager_enter s _ _).leaves rfl, rfl⟩
  | left => exact ⟨(untouched_stop_enter s _).leaves rfl, rfl⟩
  | right => exact ⟨(untouched_enter s _).leaves rfl, rfl⟩
  | ok =>
      simp only [browseAction]
      split
      · exact ⟨(untouched_setManager_enter s _ _).leaves rfl, rfl⟩
      · exact ⟨(untouched_enter s _).leaves rfl, rfl⟩
  | back => exact ⟨(untouched_stop_enter s _).leaves rfl, rfl⟩

theorem proceedStep_moves {s t : App} {nowMs : UInt64} (stepped : proceedStep s nowMs = some t) :
    AppMoves s (.proceed nowMs) t := by
  cases proceedStep_cases stepped with
  | goes _ leads => exact .quiet ((untouched_enter s _).leads leads rfl) rfl
  | @answers action here =>
      rcases browseAction_frame (s.setManager (sessionManagerPrune s.manager nowMs)) action
        with ⟨frame, reconnects⟩
      have pruned : Frame s (s.setManager (sessionManagerPrune s.manager nowMs)) := by
        refine (untouched_setManager s _).leaves ?_
        show s.phase.afterLoss = false
        rw [here]
        rfl
      exact .quiet (pruned.trans frame) reconnects
  | prunes here =>
      have waiting : s.phase.afterLoss = true := by rw [here]; rfl
      exact .quiet ((untouched_setManager_enter s _ _).stays waiting
        (matchesPreferred_prune s.manager nowMs)) rfl
  | @refreshes target here =>
      have waiting : s.phase.afterLoss = true := by rw [here]; rfl
      exact .quiet ((untouched_setManager_enter s _ _).stays waiting
        (matchesPreferred_seen s.manager target nowMs)) rfl

theorem appMove_moves {s t : App} {event : AppEvent} (moved : appMove s event = some t) :
    AppMoves s event t := by
  cases event with
  | arrive source datagram =>
      rcases Option.map_eq_some_iff.mp moved with ⟨queue, opened, rfl⟩
      exact .arrives opened
  | signal =>
      cases moved
      exact .quiet ⟨rfl, rfl, fun _ => List.Subset.refl _, fun waiting => ⟨waiting, rfl⟩⟩ rfl
  | shellPoll input => exact shellStep_moves moved
  | discoveryPoll socket nowMs => exact pollStep_moves moved
  | sessionEnds result =>
      rcases sessionEndStep_eq moved with ⟨target, loop, streaming, rfl⟩
      exact .ends streaming
  | proceed nowMs => exact proceedStep_moves moved

theorem appStep_moves {s next : App} {event : AppEvent} (stepped : appStep s event = some next) :
    ∃ t, AppMoves s event t ∧ next = t.tick := by
  rcases Option.map_eq_some_iff.mp stepped with ⟨t, moved, rfl⟩
  exact ⟨t, appMove_moves moved, rfl⟩

end SysdvrWebos
