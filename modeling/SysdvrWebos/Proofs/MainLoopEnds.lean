/-
Module: SysdvrWebos.Proofs.MainLoopEnds
Layer: Proofs
Purpose: main comes to its end once the stop flag is set (src/webos_main.c, main with browse_for_device,
  show_error_briefly and wait_for_preferred_console). From every place of its loops a few steps are left;
  only the datagrams in the two listeners can add to them, one step each, since both polls empty their
  socket before they look at the flag again. On its way out main starts at most one more session.
Trusted boundary: none (fully proved)
Main exports: AppEvent.isMain, AppEvent.isArrival, AppPhase.stepsToLeave, App.stepsToLeave,
  AppPhase.sessionsAhead, charged_stepsToLeave, ranked_sessionsAhead, main_leaves_after_stop
Open obligations: none
-/
import SysdvrWebos.Lib.Ranking
import SysdvrWebos.Proofs.MainLoopSteps
import SysdvrWebos.Proofs.ReconnectFreshness

namespace SysdvrWebos

/-! ### What is left to do -/

/-- The kernel puts a datagram into a listener. -/
def AppEvent.isArrival : AppEvent → Bool
  | .arrive _ _ => true
  | _ => false

/-- The main thread takes a step. -/
def AppEvent.isMain : AppEvent → Bool
  | .arrive _ _ => false
  | .signal => false
  | _ => true

/-- A session of main comes to its end. -/
def AppEvent.isSessionEnd : AppEvent → Bool
  | .sessionEnds _ => true
  | _ => false

namespace AppPhase

/-- The steps of main from here, with empty listeners and the stop flag set. -/
def stepsToLeave : AppPhase → Nat
  | .left => 0
  | .browseTop => 1
  | .streaming _ .selection => 1
  | .streaming _ .reconnect => 2
  | .selected => 2
  | .showError .selection => 2
  | .waitTop _ => 2
  | .returned _ _ => 2
  | .showError .reconnect => 3
  | .waitPrune _ => 3
  | .browsePrune _ => 3
  | .browsePoll .frametap _ => 4
  | .waitPoll .frametap _ => 4
  | .browsePoll .sysdvr _ => 5
  | .waitPoll .sysdvr _ => 5

/-- The sessions that end from here on, with the stop flag set. -/
def sessionsAhead : AppPhase → Nat
  | .streaming _ _ => 1
  | .selected => 1
  | .browsePrune _ => 1
  | .browsePoll _ _ => 1
  | _ => 0

theorem stepsToLeave_le (phase : AppPhase) : phase.stepsToLeave ≤ 5 := by
  unfold stepsToLeave
  split <;> omega

theorem sessionsAhead_le (phase : AppPhase) : phase.sessionsAhead ≤ 1 := by
  unfold sessionsAhead
  split <;> omega

end AppPhase

namespace App

/-- The datagrams that wait in both listeners. -/
def waiting (s : App) : Nat := (s.queued .sysdvr).length + (s.queued .frametap).length

/-- The steps of main from here, one for each datagram that waits included. -/
def stepsToLeave (s : App) : Nat := s.phase.stepsToLeave + s.waiting

end App

/-! ### One step -/

/-- A datagram is read at the cost of one that waits; without one the poll is over. -/
theorem waiting_setListener {s : App} {source : StreamSource} {queue : List Arrival} (rest : List Arrival)
    (opened : s.listener source = some queue) :
    (s.setListener source rest).waiting + queue.length = s.waiting + rest.length := by
  cases source
  · have queued : s.queued .sysdvr = queue := by rw [App.queued, opened]; rfl
    have other : (s.setListener .sysdvr rest).queued .frametap = s.queued .frametap := rfl
    have here : (s.setListener .sysdvr rest).queued .sysdvr = rest := rfl
    rw [App.waiting, App.waiting, queued, other, here]
    omega
  · have queued : s.queued .frametap = queue := by rw [App.queued, opened]; rfl
    have other : (s.setListener .frametap rest).queued .sysdvr = s.queued .sysdvr := rfl
    have here : (s.setListener .frametap rest).queued .frametap = rest := rfl
    rw [App.waiting, App.waiting, queued, other, here]
    omega

/-- What a poll takes from the queue: a console only with a datagram. -/
theorem length_readSocket (source : StreamSource) {queue rest : List Arrival} {socket : SocketEvent}
    {answer : SocketAnswer} {arrivedAt : Nat}
    (read : readSocket queue socket = some (answer, arrivedAt, rest)) :
    rest.length ≤ queue.length ∧
      ∀ device, discoveryPoll source answer = .found device → rest.length < queue.length := by
  cases socket with
  | nothing =>
      cases read
      exact ⟨Nat.le_refl _, fun device found => by cases source <;> cases found⟩
  | failed =>
      cases read
      exact ⟨Nat.le_refl _, fun device found => by cases source <;> cases found⟩
  | receive =>
      cases queue with
      | nil => cases read
      | cons first later =>
          cases read
          exact ⟨Nat.le_succ _, fun _ _ => Nat.lt_succ_self _⟩

/-- What a step does on the way out of main. -/
structure WaysOut (s : App) (event : AppEvent) (t : App) : Prop where
  stopped : t.signalStop = true
  main : event.isMain = true → t.stepsToLeave < s.stepsToLeave
  arrives : event.isArrival = true → t.stepsToLeave ≤ s.stepsToLeave + 1
  waits : event.isMain = false → event.isArrival = false → t.stepsToLeave ≤ s.stepsToLeave
  ends : event.isSessionEnd = true → t.phase.sessionsAhead < s.phase.sessionsAhead
  sessions : t.phase.sessionsAhead ≤ s.phase.sessionsAhead

/-- A step of main itself, in terms of where it leads. -/
theorem waysOut_main {s t : App} {event : AppEvent} (own : event.isMain = true)
    (stopped : t.signalStop = true) (lower : t.stepsToLeave < s.stepsToLeave)
    (sessions : t.phase.sessionsAhead ≤ s.phase.sessionsAhead)
    (ends : event.isSessionEnd = true → t.phase.sessionsAhead < s.phase.sessionsAhead) :
    WaysOut s event t where
  stopped := stopped
  main := fun _ => lower
  arrives := fun _ => Nat.le_succ_of_le (Nat.le_of_lt lower)
  waits := by
    intro other
    rw [own] at other
    cases other
  ends := ends
  sessions := sessions

/-- The poll of a listener is over, and main goes on to a place that is nearer. -/
theorem waysOut_exhausted {s : App} {source : StreamSource} {queue rest : List Arrival} {phase : AppPhase}
    {event : AppEvent} (stopped : s.signalStop = true) (opened : s.listener source = some queue)
    (kept : rest.length ≤ queue.length) (own : event.isMain = true)
    (lower : phase.stepsToLeave < s.phase.stepsToLeave)
    (sessions : phase.sessionsAhead ≤ s.phase.sessionsAhead) (going : event.isSessionEnd = false) :
    WaysOut s event ((s.setListener source rest).enter phase) := by
  have waits := waiting_setListener rest opened
  apply waysOut_main own
  · exact (App.setListener_signalStop s source rest).trans stopped
  · have same : ((s.setListener source rest).enter phase).waiting
        = (s.setListener source rest).waiting := rfl
    have there : ((s.setListener source rest).enter phase).phase = phase := rfl
    rw [App.stepsToLeave, App.stepsToLeave, same, there]
    omega
  · exact sessions
  · intro ended
    rw [going] at ended
    cases ended

/-- A datagram is taken, and main is not farther than before. -/
theorem waysOut_taken {s t : App} {source : StreamSource} {queue rest : List Arrival}
    {event : AppEvent} (opened : s.listener source = some queue) (less : rest.length < queue.length)
    (own : event.isMain = true) (stopped : t.signalStop = true)
    (same : t.waiting = (s.setListener source rest).waiting)
    (near : t.phase.stepsToLeave ≤ s.phase.stepsToLeave)
    (sessions : t.phase.sessionsAhead ≤ s.phase.sessionsAhead) (going : event.isSessionEnd = false) :
    WaysOut s event t := by
  have waits := waiting_setListener rest opened
  apply waysOut_main own stopped
  · rw [App.stepsToLeave, App.stepsToLeave, same]
    omega
  · exact sessions
  · intro ended
    rw [going] at ended
    cases ended

theorem waysOut_poll {s t : App} {socket : SocketEvent} {nowMs : UInt64} (stopped : s.signalStop = true)
    (polled : pollStep s socket nowMs = some t) : WaysOut s (.discoveryPoll socket nowMs) t := by
  cases pollStep_cases polled with
  | @browse source action queue answer arrivedAt rest here opened read =>
      obtain ⟨kept, found⟩ := length_readSocket source read
      have nearer : (afterBrowsePoll action source).stepsToLeave < s.phase.stepsToLeave := by
        rw [here]
        cases source <;> exact Nat.lt_succ_self _
      have sessions : (afterBrowsePoll action source).sessionsAhead ≤ s.phase.sessionsAhead := by
        rw [here]
        cases source <;> exact Nat.le_refl _
      cases result : discoveryPoll source answer with
      | found device =>
          have phase : (s.setListener source rest).phase = s.phase := App.setListener_phase s source rest
          refine waysOut_taken opened (found device result) rfl ?_ rfl ?_ ?_ rfl
          · exact (App.setListener_signalStop s source rest).trans stopped
          · exact Nat.le_of_eq (congrArg AppPhase.stepsToLeave phase)
          · exact Nat.le_of_eq (congrArg AppPhase.sessionsAhead phase)
      | failed => exact waysOut_exhausted stopped opened kept rfl nearer sessions rfl
      | idle => exact waysOut_exhausted stopped opened kept rfl nearer sessions rfl
  | @wait source caller queue answer arrivedAt rest here opened read =>
      obtain ⟨kept, found⟩ := length_readSocket source read
      have nearer : (afterWaitPoll caller source).stepsToLeave < s.phase.stepsToLeave := by
        rw [here]
        cases source <;> exact Nat.lt_succ_self _
      have sessions : (afterWaitPoll caller source).sessionsAhead ≤ s.phase.sessionsAhead := by
        rw [here]
        cases source <;> exact Nat.le_refl _
      cases result : discoveryPoll source answer with
      | found device =>
          have phase : (s.setListener source rest).phase = s.phase := App.setListener_phase s source rest
          simp only [waitPolled]
          split
          · refine waysOut_taken opened (found device result) rfl ?_ rfl ?_ ?_ rfl
            · exact (App.setListener_signalStop s source rest).trans stopped
            · rw [here]
              cases source <;> exact Nat.le_of_ble_eq_true rfl
            · exact Nat.zero_le _
          · refine waysOut_taken opened (found device result) rfl ?_ rfl ?_ ?_ rfl
            · exact (App.setListener_signalStop s source rest).trans stopped
            · exact Nat.le_of_eq (congrArg AppPhase.stepsToLeave phase)
            · exact Nat.le_of_eq (congrArg AppPhase.sessionsAhead phase)
      | failed => exact waysOut_exhausted stopped opened kept rfl nearer sessions rfl
      | idle => exact waysOut_exhausted stopped opened kept rfl nearer sessions rfl

/-- A step that leaves the listeners alone and leads to a place that is nearer. -/
theorem waysOut_goes {s t : App} {event : AppEvent} (own : event.isMain = true)
    (stopped : t.signalStop = true) (same : t.waiting = s.waiting)
    (lower : t.phase.stepsToLeave < s.phase.stepsToLeave)
    (sessions : t.phase.sessionsAhead ≤ s.phase.sessionsAhead)
    (ends : event.isSessionEnd = true → t.phase.sessionsAhead < s.phase.sessionsAhead) :
    WaysOut s event t := by
  apply waysOut_main own stopped _ sessions ends
  rw [App.stepsToLeave, App.stepsToLeave, same]
  exact Nat.add_lt_add_right lower _

theorem waysOut_browseAction {s : App} {action : SdlShellAction} {nowMs : UInt64}
    (stopped : s.signalStop = true) (here : s.phase = .browsePrune action) :
    WaysOut s (.proceed nowMs)
      (browseAction (s.setManager (sessionManagerPrune s.manager nowMs)) action) := by
  have goes : ∀ t : App, t.signalStop = true → t.waiting = s.waiting → t.phase.stepsToLeave < 3 →
      t.phase.sessionsAhead ≤ 1 → WaysOut s (.proceed nowMs) t := by
    intro t still same lower sessions
    apply waysOut_goes rfl still same
    · rw [here]
      exact lower
    · rw [here]
      exact sessions
    · exact fun ended => by cases ended
  have leaves : ∀ t : App, t.signalStop = true → t.waiting = s.waiting → t.phase = .left →
      WaysOut s (.proceed nowMs) t := fun t still same there =>
    goes t still same (by rw [there]; decide) (by rw [there]; decide)
  have browses : ∀ t : App, t.signalStop = true → t.waiting = s.waiting → t.phase = .browseTop →
      WaysOut s (.proceed nowMs) t := fun t still same there =>
    goes t still same (by rw [there]; decide) (by rw [there]; decide)
  cases action with
  | ok =>
      rw [browseAction]
      split
      · exact goes _ stopped rfl (Nat.lt_succ_self _) (Nat.le_refl _)
      · exact browses _ stopped rfl rfl
  | left => exact leaves _ rfl rfl rfl
  | back => exact leaves _ rfl rfl rfl
  | up => exact browses _ stopped rfl rfl
  | down => exact browses _ stopped rfl rfl
  | right => exact browses _ stopped rfl rfl
  | none => exact browses _ stopped rfl rfl

theorem reconnectLoop_stopped {s : App} {target : SysdvrDevice} (stopped : s.signalStop = true) :
    reconnectLoop s target = s.enter .browseTop := by
  rw [reconnectLoop, if_pos stopped]

theorem waysOut_proceed {s t : App} {nowMs : UInt64} (stopped : s.signalStop = true)
    (proceeded : proceedStep s nowMs = some t) : WaysOut s (.proceed nowMs) t := by
  have goes : ∀ {phase : AppPhase} (manager : SessionManager),
      phase.stepsToLeave < s.phase.stepsToLeave → phase.sessionsAhead ≤ s.phase.sessionsAhead →
      WaysOut s (.proceed nowMs) ((s.setManager manager).enter phase) := fun _ lower sessions =>
    waysOut_goes rfl stopped rfl lower sessions fun ended => by cases ended
  have stays : ∀ {phase : AppPhase},
      phase.stepsToLeave < s.phase.stepsToLeave → phase.sessionsAhead ≤ s.phase.sessionsAhead →
      WaysOut s (.proceed nowMs) (s.enter phase) := fun lower sessions => goes s.manager lower sessions
  unfold proceedStep at proceeded
  split at proceeded
  all_goals rename_i here
  -- browseTop
  · rw [if_pos stopped] at proceeded
    cases proceeded
    apply stays <;> rw [here] <;> decide
  -- browsePoll
  · rename_i source action
    split at proceeded
    · cases proceeded
      apply stays <;> rw [here] <;> cases source <;> exact Nat.lt_succ_self _
    · cases proceeded
  -- browsePrune
  · cases proceeded
    exact waysOut_browseAction stopped here
  -- selected
  · split at proceeded
    · cases proceeded
      apply stays <;> rw [here] <;> exact Nat.lt_succ_self _
    · cases proceeded
      apply stays <;> rw [here] <;> decide
  -- showError
  · cases proceeded
    apply stays <;> rw [here] <;> decide
  · cases proceeded
    apply stays <;> rw [here] <;> decide
  -- waitTop
  · rw [if_pos stopped] at proceeded
    cases proceeded
    apply stays <;> rw [here] <;> first | exact Nat.lt_succ_self _ | exact Nat.le_refl _
  -- waitPoll
  · rename_i source caller
    split at proceeded
    · cases proceeded
      apply stays <;> rw [here] <;> cases source <;> first | exact Nat.lt_succ_self _ | exact Nat.le_refl _
    · cases proceeded
  -- waitPrune
  · cases proceeded
    apply goes <;> rw [here] <;> first | exact Nat.lt_succ_self _ | exact Nat.le_refl _
  -- returned
  · rename_i target
    cases proceeded
    rw [reconnectLoop_stopped (s := s.setManager (sessionManagerSeen s.manager target nowMs)) stopped]
    apply goes <;> rw [here] <;> first | exact Nat.lt_succ_self _ | exact Nat.le_refl _
  · cases proceeded
    rw [reconnectLoop_stopped stopped]
    apply stays <;> rw [here] <;> first | exact Nat.lt_succ_self _ | exact Nat.le_refl _
  · cases proceeded
  · cases proceeded

theorem waysOut_sessionEnd {s t : App} {result : SessionResult} (stopped : s.signalStop = true)
    (ended : sessionEndStep s result = some t) : WaysOut s (.sessionEnds result) t := by
  obtain ⟨target, loop, here, rfl⟩ := sessionEndStep_eq ended
  have dated : (s.dateEnd result).signalStop = s.signalStop ∧ (s.dateEnd result).waiting = s.waiting := by
    cases result <;> exact ⟨rfl, rfl⟩
  have behind : loop.afterSession s.signalStop result = .left ∨
      loop = .reconnect ∧ loop.afterSession s.signalStop result = .browseTop := by
    rw [stopped]
    cases loop
    · exact Or.inl rfl
    · exact Or.inr ⟨rfl, rfl⟩
  have nearer : (loop.afterSession s.signalStop result).stepsToLeave < s.phase.stepsToLeave ∧
      (loop.afterSession s.signalStop result).sessionsAhead < s.phase.sessionsAhead := by
    rw [here]
    obtain gone | ⟨rfl, top⟩ := behind
    · rw [gone]
      cases loop
      · exact ⟨Nat.zero_lt_one, Nat.zero_lt_one⟩
      · exact ⟨Nat.zero_lt_two, Nat.zero_lt_one⟩
    · rw [top]
      exact ⟨Nat.lt_succ_self _, Nat.zero_lt_one⟩
  exact waysOut_goes rfl (dated.1.trans stopped) dated.2 nearer.1 (Nat.le_of_lt nearer.2) fun _ => nearer.2

/-- A step of the environment, which leaves main where it stands. -/
theorem waysOut_environment {s t : App} {event : AppEvent} (other : event.isMain = false)
    (stopped : t.signalStop = true) (phase : t.phase = s.phase) (more : t.waiting ≤ s.waiting + 1)
    (quiet : event.isArrival = false → t.waiting ≤ s.waiting) : WaysOut s event t where
  stopped := stopped
  main := by
    intro own
    rw [other] at own
    cases own
  arrives := by
    intro _
    rw [App.stepsToLeave, App.stepsToLeave, phase]
    omega
  waits := by
    intro _ silent
    have kept := quiet silent
    rw [App.stepsToLeave, App.stepsToLeave, phase]
    omega
  ends := by
    intro ended
    cases event <;> first | cases other; done | cases ended
  sessions := Nat.le_of_eq (congrArg AppPhase.sessionsAhead phase)

/-- Every step of a main that is to stop leads out. -/
theorem waysOut_of_step {s t : App} {event : AppEvent} (stopped : s.signalStop = true)
    (stepped : appStep s event = some t) : WaysOut s event t := by
  obtain ⟨u, moved, rfl⟩ := Option.map_eq_some_iff.mp stepped
  have moves : WaysOut s event u := by
    cases event with
    | arrive source datagram =>
        obtain ⟨queue, opened, rfl⟩ := Option.map_eq_some_iff.mp moved
        have waits := waiting_setListener (queue ++ [⟨datagram, s.clock⟩]) opened
        rw [List.length_append, List.length_singleton] at waits
        apply waysOut_environment rfl _ (App.setListener_phase ..) (by omega) (fun other => by cases other)
        exact (App.setListener_signalStop ..).trans stopped
    | signal =>
        cases moved
        exact waysOut_environment rfl rfl rfl (Nat.le_succ _) fun _ => Nat.le_refl _
    | shellPoll input =>
        simp only [appMove, shellStep, stopped, if_true, reduceCtorEq] at moved
    | discoveryPoll socket nowMs => exact waysOut_poll stopped moved
    | sessionEnds result => exact waysOut_sessionEnd stopped moved
    | proceed nowMs => exact waysOut_proceed stopped moved
  exact ⟨moves.stopped, moves.main, moves.arrives, moves.waits, moves.ends, moves.sessions⟩

/-! ### Every run -/

theorem charged_stepsToLeave : Runs.Charged appStep (fun s => s.signalStop = true) AppEvent.isMain
    AppEvent.isArrival App.stepsToLeave where
  preserves := fun _ _ _ stopped step => (waysOut_of_step stopped step).stopped
  lowers := fun _ _ _ stopped own step => (waysOut_of_step stopped step).main own
  raises := fun _ _ _ stopped arrival step => (waysOut_of_step stopped step).arrives arrival
  keeps := fun _ _ _ stopped other silent step => (waysOut_of_step stopped step).waits other silent

theorem ranked_sessionsAhead : Runs.Ranked appStep (fun s => s.signalStop = true) AppEvent.isSessionEnd
    (fun s => s.phase.sessionsAhead) where
  preserves := fun _ _ _ stopped step => (waysOut_of_step stopped step).stopped
  lowers := fun _ _ _ stopped ended step => (waysOut_of_step stopped step).ends ended
  keeps := fun _ _ _ stopped _ step => (waysOut_of_step stopped step).sessions

/-- A main that is to stop is held up by nothing but a running session. -/
theorem main_enabled {s : App} (stopped : s.signalStop = true) (inside : s.phase ≠ .left) :
    ∃ e, e.isMain = true ∧ (appStep s e).isSome = true := by
  cases phase : s.phase with
  | browseTop => exact ⟨.proceed 0, rfl, by simp [appStep, appMove, proceedStep, phase, stopped]⟩
  | browsePoll source action =>
      cases opened : s.listener source with
      | none => exact ⟨.proceed 0, rfl, by simp [appStep, appMove, proceedStep, phase, opened]⟩
      | some queue =>
          exact ⟨.discoveryPoll .nothing 0, rfl, by
            simp [appStep, appMove, pollStep, phase, opened, readSocket]⟩
  | browsePrune action => exact ⟨.proceed 0, rfl, by simp [appStep, appMove, proceedStep, phase]⟩
  | selected =>
      refine ⟨.proceed 0, rfl, ?_⟩
      cases chosen : sessionManagerSelected s.manager <;>
        simp [appStep, appMove, proceedStep, phase, chosen]
  | streaming target loop =>
      exact ⟨.sessionEnds .remoteEnd, rfl, by simp [appStep, appMove, sessionEndStep, phase]⟩
  | showError loop =>
      cases loop <;> exact ⟨.proceed 0, rfl, by simp [appStep, appMove, proceedStep, phase]⟩
  | waitTop caller => exact ⟨.proceed 0, rfl, by simp [appStep, appMove, proceedStep, phase, stopped]⟩
  | waitPoll source caller =>
      cases opened : s.listener source with
      | none => exact ⟨.proceed 0, rfl, by simp [appStep, appMove, proceedStep, phase, opened]⟩
      | some queue =>
          exact ⟨.discoveryPoll .nothing 0, rfl, by
            simp [appStep, appMove, pollStep, phase, opened, readSocket]⟩
  | waitPrune caller => exact ⟨.proceed 0, rfl, by simp [appStep, appMove, proceedStep, phase]⟩
  | returned target caller =>
      cases caller <;> exact ⟨.proceed 0, rfl, by simp [appStep, appMove, proceedStep, phase]⟩
  | left => exact absurd phase inside

/-- Once the stop flag is set it stays set, and main is nowhere held up short of its end but by the session
    it runs. It takes at most five steps more and one for each datagram that waits or still arrives,
    whatever it is that arrives, and at most one more session comes to its end; with no more arrivals, these
    steps lead to the end. -/
theorem main_leaves_after_stop {s : App} (stopped : s.signalStop = true) :
    (∀ events last, Runs.exec appStep s events = some last →
      last.signalStop = true ∧
      (last.phase ≠ .left → ∃ e, e.isMain = true ∧ (appStep last e).isSome = true) ∧
      events.countP AppEvent.isMain
        ≤ 5 + (s.queued .sysdvr).length + (s.queued .frametap).length + events.countP AppEvent.isArrival ∧
      events.countP AppEvent.isSessionEnd ≤ 1) ∧
    ∃ events last, (∀ e ∈ events, e.isMain = true) ∧
      events.length ≤ 5 + (s.queued .sysdvr).length + (s.queued .frametap).length ∧
      Runs.exec appStep s events = some last ∧ last.phase = .left := by
  have near := s.phase.stepsToLeave_le
  have total : s.stepsToLeave
      = s.phase.stepsToLeave + ((s.queued .sysdvr).length + (s.queued .frametap).length) := rfl
  constructor
  · intro events last run
    have still : last.signalStop = true :=
      Runs.exec_invariant (fun _ _ _ holds step => (waysOut_of_step holds step).stopped) stopped run
    have steps := charged_stepsToLeave.bounds stopped run
    have sessions := ranked_sessionsAhead.bounds stopped run
    have one := s.phase.sessionsAhead_le
    exact ⟨still, main_enabled still, by omega, by omega⟩
  · obtain ⟨events, last, own, short, run, gone⟩ := charged_stepsToLeave.reaches (fun s => s.phase = .left)
      (fun _ holds inside => main_enabled holds inside) s stopped
    exact ⟨events, last, own, by omega, run, gone⟩

/-- The stop signal comes while main polls the first of two listeners, in which an announcement waits. -/
def stopWhilePolling : List AppEvent :=
  [.arrive .sysdvr announcement, .shellPoll (.action .ok), .signal]

/-- main behind the signal. -/
def stoppedWhilePolling : App :=
  { appStart none true true with
    clock := 3
    signalStop := true
    scanner := some [⟨announcement, 0⟩]
    phase := .browsePoll .sysdvr .ok }

/-- The console that is announced can still be selected and its session run, and then main has left. -/
theorem stop_while_polling_leaves :
    ∃ s, Runs.exec appStep (appStart none true true) stopWhilePolling = some s ∧
      s.queued .sysdvr = [⟨announcement, 0⟩] ∧
      ∃ events last, (∀ e ∈ events, e.isMain = true) ∧ events.length ≤ 6 ∧
        Runs.exec appStep s events = some last ∧ last.phase = .left :=
  ⟨_, rfl, rfl, (@main_leaves_after_stop stoppedWhilePolling rfl).2⟩

end SysdvrWebos
