/-
Module: SysdvrWebos.Core.MainLoop
Layer: Core
Purpose: The loops of src/webos_main.c around the streaming sessions: browse_for_device, the reconnect loop
  of main and wait_for_preferred_console, with the sockets of the two listeners as queues that the kernel
  fills at any time. Each step is one moment at which the main thread takes something from outside; a
  whole session is one step, since it reads neither listener. A ghost clock counts the steps and dates
  the arrivals and the ends of sessions.
Trusted boundary: a socket hands out its datagrams in the order of their arrival; what a session does to
  the stop flag may also come from outside and is the event `signal`
Main exports: uiNowMs, ShellInput, Arrival, AppPhase, App, appStart, AppEvent, appStep
Open obligations: none
-/
import SysdvrWebos.Core.Discovery
import SysdvrWebos.Core.StreamSession

namespace SysdvrWebos

/-! ### The clock of the selector -/

/-- `SDL_GetTicks` of SDL2 at a real time in milliseconds: a 32-bit counter. -/
def sdlGetTicks (realMs : Nat) : UInt32 := UInt32.ofNat realMs

/-- `ui_now_ms`. -/
def uiNowMs (realMs : Nat) : UInt64 := (sdlGetTicks realMs).toUInt64

/-- Widening the counter does not undo its wrap. -/
theorem toNat_uiNowMs (realMs : Nat) : (uiNowMs realMs).toNat = realMs % 4294967296 := by
  rw [uiNowMs, sdlGetTicks, UInt32.toNat_toUInt64, UInt32.toNat_ofNat']

/-! ### State -/

/-- `sdl_shell_action`. -/
inductive SdlShellAction where
  | none
  | up
  | down
  | left
  | right
  | ok
  | back
deriving Repr, DecidableEq

/-- `action_is_backish`. -/
def actionIsBackish (action : SdlShellAction) : Bool := action = .back || action = .left

/-- What `sdl_shell_poll` returns: false at the end of the app, otherwise an action. -/
inductive ShellInput where
  | quit
  | action (action : SdlShellAction)
deriving Repr, DecidableEq

/-- A datagram in the queue of a socket, with the time of its arrival. -/
structure Arrival where
  datagram : Datagram
  arrivedAt : Nat
deriving Repr, DecidableEq

/-- Which of main's two loops runs the session or waits: the one over the selections of the user, or the
    reconnect loop inside it. -/
inductive MainLoop where
  | selection
  | reconnect
deriving Repr, DecidableEq

/-- Where the main thread stands. -/
inductive AppPhase where
  | browseTop
  | browsePoll (source : StreamSource) (action : SdlShellAction)
  | browsePrune (action : SdlShellAction)
  | selected
  | streaming (target : SysdvrDevice) (loop : MainLoop)
  | showError (loop : MainLoop)
  | waitTop (caller : MainLoop)
  | waitPoll (source : StreamSource) (caller : MainLoop)
  | waitPrune (caller : MainLoop)
  | returned (target : SysdvrDevice) (caller : MainLoop)
  | left
deriving DecidableEq

/-- A return of true from `wait_for_preferred_console`: when the datagram behind it had arrived, and when
    the last session that ended by itself had ended. -/
structure Reconnect where
  arrivedAt : Nat
  endedAt : Option Nat
deriving Repr, DecidableEq

/-- The state of main. The queue of a listener that could not be opened is missing. `clock`, `endedAt`
    (of the last session that ended by itself) and `reconnects` are ghosts. -/
structure App where
  clock : Nat
  signalStop : Bool
  manager : SessionManager
  scanner : Option (List Arrival)
  sftScanner : Option (List Arrival)
  phase : AppPhase
  endedAt : Option Nat
  reconnects : List Reconnect

/-- main in front of its loop. -/
def appStart (host : Option CString) (scannerOpens sftScannerOpens : Bool) : App where
  clock := 0
  signalStop := false
  manager := match host with
    | some host => sessionManagerAddManual sessionManagerInit host
    | none => sessionManagerInit
  scanner := if scannerOpens then some [] else none
  sftScanner := if sftScannerOpens then some [] else none
  phase := .browseTop
  endedAt := none
  reconnects := []

namespace App

/-- The listener of a source. -/
def listener (s : App) : StreamSource → Option (List Arrival)
  | .sysdvr => s.scanner
  | .frametap => s.sftScanner

/-- The datagrams that wait in the listener of a source. -/
def queued (s : App) (source : StreamSource) : List Arrival := (s.listener source).getD []

def setListener (s : App) (source : StreamSource) (queue : List Arrival) : App :=
  match source with
  | .sysdvr => { s with scanner := some queue }
  | .frametap => { s with sftScanner := some queue }

def enter (s : App) (phase : AppPhase) : App := { s with phase := phase }

def setManager (s : App) (manager : SessionManager) : App := { s with manager := manager }

def stop (s : App) : App := { s with signalStop := true }

/-- The ghost record of a true return at a datagram that arrived at `arrivedAt`. -/
def record (s : App) (arrivedAt : Nat) : App :=
  { s with reconnects := s.reconnects ++ [⟨arrivedAt, s.endedAt⟩] }

/-- The ghost date of a session that ends by itself now. -/
def dateEnd (s : App) (result : SessionResult) : App :=
  match result with
  | .remoteEnd => { s with endedAt := some s.clock }
  | .transportLost => { s with endedAt := some s.clock }
  | .error => s
  | .userBack => s

def tick (s : App) : App := { s with clock := s.clock + 1 }

@[simp] theorem setManager_manager (s : App) (manager : SessionManager) :
    (s.setManager manager).manager = manager := rfl

@[simp] theorem listener_setListener (s : App) (source : StreamSource) (queue : List Arrival) :
    (s.setListener source queue).listener source = some queue := by
  cases source <;> rfl

theorem listener_setListener_of_ne (s : App) {source other : StreamSource} (distinct : other ≠ source)
    (queue : List Arrival) : (s.setListener source queue).listener other = s.listener other := by
  cases source <;> cases other <;> first | rfl | exact absurd rfl distinct

/-- Putting back what was there changes nothing. -/
theorem setListener_listener {s : App} {source : StreamSource} {queue : List Arrival}
    (opened : s.listener source = some queue) : s.setListener source queue = s := by
  cases source <;> cases s <;> cases opened <;> rfl

@[simp] theorem setListener_clock (s : App) (source : StreamSource) (queue : List Arrival) :
    (s.setListener source queue).clock = s.clock := by
  cases source <;> rfl

@[simp] theorem setListener_signalStop (s : App) (source : StreamSource) (queue : List Arrival) :
    (s.setListener source queue).signalStop = s.signalStop := by
  cases source <;> rfl

@[simp] theorem setListener_manager (s : App) (source : StreamSource) (queue : List Arrival) :
    (s.setListener source queue).manager = s.manager := by
  cases source <;> rfl

@[simp] theorem setListener_phase (s : App) (source : StreamSource) (queue : List Arrival) :
    (s.setListener source queue).phase = s.phase := by
  cases source <;> rfl

@[simp] theorem setListener_endedAt (s : App) (source : StreamSource) (queue : List Arrival) :
    (s.setListener source queue).endedAt = s.endedAt := by
  cases source <;> rfl

@[simp] theorem setListener_reconnects (s : App) (source : StreamSource) (queue : List Arrival) :
    (s.setListener source queue).reconnects = s.reconnects := by
  cases source <;> rfl

end App

/-! ### Steps -/

/-- What the socket under a poll does. -/
inductive SocketEvent where
  | nothing
  | failed
  | receive
deriving Repr, DecidableEq

/-- An event of the app. `arrive` is the kernel putting a datagram into the queue of an open listener, and
    `proceed` a step of the main thread that takes nothing from outside but the time. -/
inductive AppEvent where
  | arrive (source : StreamSource) (datagram : Datagram)
  | signal
  | shellPoll (input : ShellInput)
  | discoveryPoll (socket : SocketEvent) (nowMs : UInt64)
  | sessionEnds (result : SessionResult)
  | proceed (nowMs : UInt64)
deriving Repr, DecidableEq

/-- `while (!g_signal_stop)` and `sdl_shell_poll` behind it, in each of the loops that poll the shell. -/
def shellStep (s : App) (input : ShellInput) : Option App :=
  if s.signalStop then
    none
  else
    match s.phase, input with
    | .browseTop, .quit => some (s.stop.enter .left)
    | .browseTop, .action action => some (s.enter (.browsePoll .sysdvr action))
    | .waitTop _, .quit => some (s.stop.enter .browseTop)
    | .waitTop caller, .action action =>
        if actionIsBackish action then
          some (s.enter .browseTop)
        else
          some (s.enter (.waitPoll .sysdvr caller))
    | .showError .selection, .quit => some (s.stop.enter .browseTop)
    | .showError .reconnect, .quit => some (s.stop.enter (.waitTop .reconnect))
    | .showError .selection, .action action =>
        some (if actionIsBackish action then s.enter .browseTop else s)
    | .showError .reconnect, .action action =>
        some (if actionIsBackish action then s.enter (.waitTop .reconnect) else s)
    | _, _ => none

/-- The answer of the socket, the date of the datagram it hands out, and what stays in the queue. -/
def readSocket (queue : List Arrival) : SocketEvent → Option (SocketAnswer × Nat × List Arrival)
  | .nothing => some (.nothing, 0, queue)
  | .failed => some (.failed, 0, queue)
  | .receive =>
      match queue with
      | [] => none
      | arrival :: rest => some (.received arrival.datagram, arrival.arrivedAt, rest)

/-- Where the polling of one listener leads when it is done. -/
def afterBrowsePoll (action : SdlShellAction) : StreamSource → AppPhase
  | .sysdvr => .browsePoll .frametap action
  | .frametap => .browsePrune action

def afterWaitPoll (caller : MainLoop) : StreamSource → AppPhase
  | .sysdvr => .waitPoll .frametap caller
  | .frametap => .waitPrune caller

/-- The body of the loop of `poll_discovery_once` over one listener, behind the poll. -/
def browsePolled (s : App) (source : StreamSource) (action : SdlShellAction) (nowMs : UInt64) :
    PollResult SysdvrDevice → App
  | .found device => s.setManager (sessionManagerSeen s.manager device nowMs)
  | .failed => s.enter (afterBrowsePoll action source)
  | .idle => s.enter (afterBrowsePoll action source)

/-- The body of the loop of `wait_for_preferred_console` over one listener, behind the poll. -/
def waitPolled (s : App) (source : StreamSource) (caller : MainLoop) (arrivedAt : Nat)
    (nowMs : UInt64) : PollResult SysdvrDevice → App
  | .found device =>
      let seen := s.setManager (sessionManagerSeen s.manager device nowMs)
      if sessionManagerMatchesPreferred seen.manager device then
        (seen.record arrivedAt).enter (.returned device caller)
      else
        seen
  | .failed => s.enter (afterWaitPoll caller source)
  | .idle => s.enter (afterWaitPoll caller source)

/-- A poll of the listener the main thread has come to. -/
def pollStep (s : App) (socket : SocketEvent) (nowMs : UInt64) : Option App :=
  match s.phase with
  | .browsePoll source action =>
      (s.listener source).bind fun queue =>
        (readSocket queue socket).map fun (answer, _, rest) =>
          browsePolled (s.setListener source rest) source action nowMs (discoveryPoll source answer)
  | .waitPoll source caller =>
      (s.listener source).bind fun queue =>
        (readSocket queue socket).map fun (answer, arrivedAt, rest) =>
          waitPolled (s.setListener source rest) source caller arrivedAt nowMs
            (discoveryPoll source answer)
  | _ => none

/-- What `browse_for_device` does with the action once it has polled and pruned. -/
def browseAction (s : App) : SdlShellAction → App
  | .up => (s.setManager (sessionManagerMove s.manager (-1))).enter .browseTop
  | .down => (s.setManager (sessionManagerMove s.manager 1)).enter .browseTop
  | .ok =>
      if s.manager.count > 0 then
        (s.setManager (sessionManagerRememberSelected s.manager)).enter .selected
      else
        s.enter .browseTop
  | .left => s.stop.enter .left
  | .back => s.stop.enter .left
  | .right => s.enter .browseTop
  | .none => s.enter .browseTop

/-- `while (!g_signal_stop)` of the reconnect loop. -/
def reconnectLoop (s : App) (target : SysdvrDevice) : App :=
  s.enter (if s.signalStop then .browseTop else .streaming target .reconnect)

/-- The steps between the polls. -/
def proceedStep (s : App) (nowMs : UInt64) : Option App :=
  match s.phase with
  | .browseTop => if s.signalStop then some (s.enter .left) else none
  -- a listener that is not open is not polled
  | .browsePoll source action =>
      match s.listener source with
      | none => some (s.enter (afterBrowsePoll action source))
      | some _ => none
  | .browsePrune action =>
      some (browseAction (s.setManager (sessionManagerPrune s.manager nowMs)) action)
  | .selected =>
      match sessionManagerSelected s.manager with
      | some target => some (s.enter (.streaming target.info .selection))
      | none => some (s.enter .browseTop)
  | .showError .selection => some (s.enter .browseTop)
  | .showError .reconnect => some (s.enter (.waitTop .reconnect))
  | .waitTop _ => if s.signalStop then some (s.enter .browseTop) else none
  | .waitPoll source caller =>
      match s.listener source with
      | none => some (s.enter (afterWaitPoll caller source))
      | some _ => none
  | .waitPrune caller =>
      some ((s.setManager (sessionManagerPrune s.manager nowMs)).enter (.waitTop caller))
  -- the first reconnect refreshes the registry entry once more
  | .returned target .selection =>
      some (reconnectLoop (s.setManager (sessionManagerSeen s.manager target nowMs)) target)
  | .returned target .reconnect => some (reconnectLoop s target)
  | .streaming _ _ => none
  | .left => none

/-- Where main goes behind a session of its outer loop. -/
def AfterSession.phase : AfterSession → AppPhase
  | .leave => .left
  | .browse => .browseTop
  | .showError => .showError .selection
  | .waitReconnect => .waitTop .selection

/-- Where main goes behind a session of the reconnect loop. -/
def afterReconnectSession (signalStop : Bool) (result : SessionResult) : AppPhase :=
  if signalStop then
    .browseTop
  else
    match result with
    | .userBack => .browseTop
    | .error => .showError .reconnect
    | .remoteEnd => .waitTop .reconnect
    | .transportLost => .waitTop .reconnect

/-- Where main goes behind a session of either loop. -/
def MainLoop.afterSession (loop : MainLoop) (signalStop : Bool) (result : SessionResult) : AppPhase :=
  match loop with
  | .selection => (SysdvrWebos.afterSession signalStop result).phase
  | .reconnect => afterReconnectSession signalStop result

/-- The end of a session. -/
def sessionEndStep (s : App) (result : SessionResult) : Option App :=
  match s.phase with
  | .streaming _ loop => some ((s.dateEnd result).enter (loop.afterSession s.signalStop result))
  | _ => none

/-- The app, but for the ghost clock. -/
def appMove (s : App) : AppEvent → Option App
  | .arrive source datagram =>
      (s.listener source).map fun queue => s.setListener source (queue ++ [⟨datagram, s.clock⟩])
  | .signal => some s.stop
  | .shellPoll input => shellStep s input
  | .discoveryPoll socket nowMs => pollStep s socket nowMs
  | .sessionEnds result => sessionEndStep s result
  | .proceed nowMs => proceedStep s nowMs

/-- The app as a transition system; `none` where the main thread stands elsewhere. -/
def appStep (s : App) (event : AppEvent) : Option App := (appMove s event).map App.tick

end SysdvrWebos
