/-
Module: SysdvrWebos.Proofs.TargetOrigin
Layer: Proofs
Purpose: Where the consoles that main connects to come from. Over every run of the app, each entry of the
  registry and each target of a session or of a reconnect goes back to a datagram that arrived at the
  listener of its backend and that the parser accepts, and its host is the address the datagram was sent
  from; or it is the configured host.
Trusted boundary: none (fully proved)
Main exports: Origin, Known, AppPhase.destination, Directs, destination_step, known_step, targets_are_announced
Open obligations: none
-/
import SysdvrWebos.Proofs.BeaconParser
import SysdvrWebos.Proofs.ConfiguredHost
import SysdvrWebos.Proofs.DescriptorParser
import SysdvrWebos.Proofs.PreferredConsole

namespace SysdvrWebos

open Runs

/-- The console of a session, or the one a reconnect goes to. -/
def AppPhase.destination : AppPhase → Option SysdvrDevice
  | .streaming target _ => some target
  | .returned target _ => some target
  | _ => none

/-- An announcement of the device came in, or it is the configured host. -/
inductive Origin (came : StreamSource → Datagram → Prop) (host : Option CString) (device : SysdvrDevice) :
    Prop where
  | announced {source datagram} (arrived : came source datagram)
      (reports : discoveryPoll source (.received datagram) = .found device)
  | configured {text} (given : host = some text) (is : device = (manualDevice text).info)

/-- The queues hold what came in, and the registry and the phase name consoles of known origin. -/
structure Known (came : StreamSource → Datagram → Prop) (host : Option CString) (s : App) : Prop where
  queued : ∀ source, ∀ arrival ∈ s.queued source, came source arrival.datagram
  listed : ∀ entry ∈ s.manager.live, Origin came host entry.info
  target : ∀ device, s.phase.destination = some device → Origin came host device

variable {came : StreamSource → Datagram → Prop} {host : Option CString} {s t : App} {event : AppEvent}

/-! ### The registry -/

/-- What a poll hands out has come in. -/
theorem origin_of_polled {source : StreamSource} {socket : SocketEvent} {device : SysdvrDevice}
    (known : Known came host s) (polled : polledConsole s source socket = some device) :
    Origin came host device := by
  obtain ⟨queue, opened, handed⟩ := Option.bind_eq_some_iff.mp polled
  obtain ⟨⟨answer, arrivedAt, rest⟩, read, reports⟩ := Option.bind_eq_some_iff.mp handed
  dsimp only at reports
  split at reports
  · next other found =>
      cases reports
      obtain ⟨arrival, _, rfl, announced⟩ := readSocket_of_found read found
      apply Origin.announced (known.queued source arrival _) announced
      rw [App.queued, opened]
      exact List.mem_cons_self
  · cases reports
  · cases reports

/-- Neither a report nor an entry by hand. -/
def RegistryOp.isQuiet : RegistryOp → Bool
  | .seen _ _ => false
  | .addManual _ => false
  | _ => true

/-- The selector answers an action without a report. -/
theorem quiet_actionCalls {action : SdlShellAction} {nowMs : UInt64} {op : RegistryOp}
    (member : op ∈ .prune nowMs :: actionCalls action) : op.isQuiet = true := by
  obtain rfl | answered := List.mem_cons.mp member
  · rfl
  · cases action with
    | up => rw [List.mem_singleton.mp answered]; rfl
    | down => rw [List.mem_singleton.mp answered]; rfl
    | ok => rw [List.mem_singleton.mp answered]; rfl
    | left => cases answered
    | right => cases answered
    | back => cases answered
    | none => cases answered

/-- A call that keeps a registry of consoles of known origin. -/
def RegistryOp.Allowed (came : StreamSource → Datagram → Prop) (host : Option CString) : RegistryOp → Prop
  | .seen device _ => Origin came host device
  | .addManual _ => False
  | _ => True

/-- Such a call keeps it. -/
theorem listed_step {m next : SessionManager} {op : RegistryOp} (stepped : registryStep m op = some next)
    (allowed : op.Allowed came host) (listed : ∀ entry ∈ m.live, Origin came host entry.info) :
    ∀ entry ∈ next.live, Origin came host entry.info := by
  cases op with
  | seen device nowMs =>
      cases stepped
      intro entry member
      obtain old | rfl := mem_live_seen member
      · exact listed entry old
      · exact allowed
  | addManual text => exact allowed.elim
  | prune nowMs =>
      cases stepped
      intro entry member
      rw [live_prune] at member
      exact listed entry (List.mem_of_mem_filter member)
  | move delta =>
      cases stepped
      rw [live_move]
      exact listed
  | rememberSelected =>
      cases stepped
      rw [live_rememberSelected]
      exact listed

theorem allowed_of_quiet {op : RegistryOp} (quiet : op.isQuiet = true) : op.Allowed came host := by
  cases op with
  | seen => cases quiet
  | addManual => cases quiet
  | _ => exact trivial

/-- The calls of main report consoles of known origin and add none by hand. -/
theorem allowed_calls (known : Known came host s) : ∀ op ∈ registryCalls s event, op.Allowed came host := by
  have polls : ∀ source socket nowMs, ∀ op ∈ ((polledConsole s source socket).map (RegistryOp.seen · nowMs)).toList,
      op.Allowed came host := by
    intro source socket nowMs op member
    obtain ⟨device, polled, rfl⟩ := Option.map_eq_some_iff.mp (Option.mem_toList.mp member)
    exact origin_of_polled known polled
  intro op member
  unfold registryCalls at member
  split at member
  · split at member
    · exact polls _ _ _ op member
    · exact polls _ _ _ op member
    · cases member
  · next nowMs =>
      split at member
      · next action here =>
          exact allowed_of_quiet (quiet_actionCalls member)
      · obtain rfl := List.mem_singleton.mp member
        exact allowed_of_quiet rfl
      · next target here =>
          obtain rfl := List.mem_singleton.mp member
          exact known.target target (by rw [here]; rfl)
      · cases member
  · cases member
  · cases member
  · cases member
  · cases member

/-! ### The targets -/

/-- How a step comes to the console it goes to: it was the target before, the selector has it under the
    cursor, or a wait has just polled it. -/
inductive Directs (s : App) (device : SysdvrDevice) : AppEvent → Prop where
  | before {event : AppEvent} (was : s.phase.destination = some device) : Directs s device event
  | selected {nowMs entry} (here : s.phase = .selected) (on : sessionManagerSelected s.manager = some entry)
      (is : entry.info = device) : Directs s device (.proceed nowMs)
  | polled {socket nowMs source caller} (here : s.phase = .waitPoll source caller)
      (found : polledConsole s source socket = some device) : Directs s device (.discoveryPoll socket nowMs)

theorem destination_shell {input : ShellInput} (stepped : shellStep s input = some t) :
    t.phase.destination = none := by
  unfold shellStep at stepped
  split at stepped
  · cases stepped
  · split at stepped
    all_goals rename_i here
    -- browseTop
    · cases stepped
      rfl
    · cases stepped
      rfl
    -- waitTop
    · cases stepped
      rfl
    · split at stepped <;> cases stepped <;> rfl
    -- showError
    · cases stepped
      rfl
    · cases stepped
      rfl
    · cases stepped
      split
      · rfl
      · rw [here]
        rfl
    · cases stepped
      split
      · rfl
      · rw [here]
        rfl
    · cases stepped

/-- A wait that returns a console has just polled it. -/
theorem destination_poll {socket : SocketEvent} {nowMs : UInt64} {device : SysdvrDevice}
    (stepped : pollStep s socket nowMs = some t) (goes : t.phase.destination = some device) :
    Directs s device (.discoveryPoll socket nowMs) := by
  cases pollStep_cases stepped with
  | @browse source action queue answer arrivedAt rest here opened read =>
      have away : ∀ result, (browsePolled (s.setListener source rest) source action nowMs result).phase.destination
          = none := by
        intro result
        cases result with
        | found other =>
            show (s.setListener source rest).phase.destination = none
            rw [App.setListener_phase, here]
            rfl
        | idle => cases source <;> rfl
        | failed => cases source <;> rfl
      rw [away] at goes
      cases goes
  | @wait source caller queue answer arrivedAt rest here opened read =>
      have still : (s.setListener source rest).phase.destination = none := by
        rw [App.setListener_phase, here]
        rfl
      refine .polled here ?_
      rw [polledConsole, opened, Option.bind_some, read, Option.bind_some]
      cases result : discoveryPoll source answer with
      | idle =>
          rw [result] at goes
          cases source <;> cases goes
      | failed =>
          rw [result] at goes
          cases source <;> cases goes
      | found other =>
          rw [result] at goes
          simp only [waitPolled] at goes
          split at goes
          · cases goes
            dsimp only
            rw [result]
          · have never := still.symm.trans goes
            cases never

/-- A session goes to the selected console, or to the one a reconnect has returned. -/
theorem destination_proceed {nowMs : UInt64} {device : SysdvrDevice} (stepped : proceedStep s nowMs = some t)
    (goes : t.phase.destination = some device) : Directs s device (.proceed nowMs) := by
  have looped : ∀ (u : App) (target : SysdvrDevice), (reconnectLoop u target).phase.destination = some device →
      target = device := by
    intro u target streams
    unfold reconnectLoop at streams
    split at streams <;> cases streams
    rfl
  unfold proceedStep at stepped
  split at stepped
  all_goals rename_i here
  -- browseTop
  · split at stepped <;> cases stepped
    cases goes
  -- browsePoll
  · rename_i source action
    split at stepped <;> cases stepped
    cases source <;> cases goes
  -- browsePrune
  · rename_i action
    cases stepped
    have away : (browseAction (s.setManager (sessionManagerPrune s.manager nowMs)) action).phase.destination
        = none := by
      cases action with
      | ok =>
          simp only [browseAction]
          split <;> rfl
      | _ => rfl
    rw [away] at goes
    cases goes
  -- selected
  · split at stepped
    · next entry on =>
        cases stepped
        cases goes
        exact .selected here on rfl
    · cases stepped
      cases goes
  -- showError
  · cases stepped
    cases goes
  · cases stepped
    cases goes
  -- waitTop
  · split at stepped <;> cases stepped
    cases goes
  -- waitPoll
  · rename_i source caller
    split at stepped <;> cases stepped
    cases source <;> cases goes
  -- waitPrune
  · cases stepped
    cases goes
  -- returned
  · cases stepped
    refine .before ?_
    rw [here]
    exact congrArg some (looped _ _ goes)
  · cases stepped
    refine .before ?_
    rw [here]
    exact congrArg some (looped _ _ goes)
  · cases stepped
  · cases stepped

theorem destination_step {device : SysdvrDevice} (stepped : appStep s event = some t)
    (goes : t.phase.destination = some device) : Directs s device event := by
  obtain ⟨u, moved, rfl⟩ := Option.map_eq_some_iff.mp stepped
  change u.phase.destination = some device at goes
  cases event with
  | arrive source datagram =>
      obtain ⟨queue, _, rfl⟩ := Option.map_eq_some_iff.mp moved
      rw [App.setListener_phase] at goes
      exact .before goes
  | signal =>
      cases moved
      exact .before goes
  | shellPoll input =>
      rw [destination_shell moved] at goes
      cases goes
  | discoveryPoll socket nowMs => exact destination_poll moved goes
  | sessionEnds result =>
      obtain ⟨target, loop, _, rfl⟩ := sessionEndStep_eq moved
      have away : (loop.afterSession s.signalStop result).destination = none := by
        cases loop <;> cases s.signalStop <;> cases result <;> rfl
      change (loop.afterSession s.signalStop result).destination = some device at goes
      rw [away] at goes
      cases goes
  | proceed nowMs => exact destination_proceed moved goes

/-! ### Runs -/

/-- What arrives in the step has come in. -/
def AppEvent.Came (came : StreamSource → Datagram → Prop) : AppEvent → Prop
  | .arrive source datagram => came source datagram
  | _ => True

theorem queued_step (known : Known came host s) (arrives : event.Came came)
    (stepped : appStep s event = some t) :
    ∀ source, ∀ arrival ∈ t.queued source, came source arrival.datagram := by
  obtain ⟨u, moves, rfl⟩ := appStep_moves stepped
  intro source arrival member
  cases moves with
  | @arrives from_ datagram queue opened =>
      by_cases same : source = from_
      · subst same
        change arrival ∈ (s.setListener source (queue ++ [⟨datagram, s.clock⟩])).queued source at member
        rw [App.queued, App.listener_setListener, Option.getD_some] at member
        obtain old | new := List.mem_append.mp member
        · apply known.queued source arrival
          rw [App.queued, opened]
          exact old
        · obtain rfl := List.mem_singleton.mp new
          exact arrives
      · change arrival ∈ (s.setListener from_ (queue ++ [⟨datagram, s.clock⟩])).queued source at member
        rw [App.queued, App.listener_setListener_of_ne s same] at member
        exact known.queued source arrival member
  | quiet frame _ => exact known.queued source arrival (frame.queued source member)
  | returns frame _ _ _ _ => exact known.queued source arrival (frame.queued source member)
  | @ends target loop result streaming =>
      have same : (s.dateEnd result).queued source = s.queued source := by
        cases result <;> cases source <;> rfl
      exact known.queued source arrival (same ▸ member)

theorem known_step (known : Known came host s) (arrives : event.Came came)
    (stepped : appStep s event = some t) : Known came host t where
  queued := queued_step known arrives stepped
  listed := by
    have keeps : ∀ (m : SessionManager) op next, (∀ entry ∈ m.live, Origin came host entry.info) →
        op.Allowed came host → registryStep m op = some next →
        ∀ entry ∈ next.live, Origin came host entry.info :=
      fun _ _ _ listed allowed stepped => listed_step stepped allowed listed
    exact exec_invariant_of_allSteps keeps (allSteps_of_events (allowed_calls known)) known.listed
      (appStep_calls stepped).run
  target := by
    intro device goes
    cases destination_step stepped goes with
    | before was => exact known.target device was
    | @selected nowMs entry _ on is =>
        subst is
        rw [sessionManagerSelected_eq] at on
        exact known.listed entry (List.mem_of_getElem? on)
    | polled _ found => exact origin_of_polled known found

theorem known_start (scannerOpens sftScannerOpens : Bool) :
    Known came host (appStart host scannerOpens sftScannerOpens) where
  queued := by
    intro source arrival member
    cases source <;> cases scannerOpens <;> cases sftScannerOpens <;> cases member
  listed := by
    intro entry member
    cases host with
    | none => cases member
    | some text =>
        change entry ∈ (sessionManagerAddManual sessionManagerInit text).live at member
        by_cases given : text.bytes = []
        · rw [sessionManagerAddManual, if_pos given] at member
          cases member
        · have start := live_registryStart given
          change (sessionManagerAddManual sessionManagerInit text).live = _ at start
          rw [start] at member
          obtain rfl := List.mem_singleton.mp member
          exact .configured rfl rfl
  target := fun _ goes => by cases goes

/-! ### Announcements -/

/-- The datagram is an announcement of the backend, in its grammar. -/
def IsAnnouncement (datagram : Datagram) : StreamSource → Prop
  | .sysdvr => ∃ d : Descriptor, descriptorText (datagram.data.take discoveryBufferSize) = d.text
  | .frametap => ∃ b : Beacon, (CString.ofBytes (datagram.data.take 255)).bytes = b.text

theorem found_of_ofParsed {α : Type} {parsed : Option α} {device : α}
    (found : PollResult.ofParsed parsed = .found device) : parsed = some device := by
  cases parsed <;> cases found
  rfl

/-- What makes a listener report a console is an announcement of its backend, and the console is at the
    address that it was sent from. -/
theorem announcement_of_reports {source : StreamSource} {datagram : Datagram} {device : SysdvrDevice}
    (reports : discoveryPoll source (.received datagram) = .found device) :
    IsAnnouncement datagram source ∧ device.source = source ∧
      device.host.bytes = (inetNtop datagram.remote).bytes := by
  cases source with
  | sysdvr =>
      have parsed := found_of_ofParsed reports
      obtain ⟨d, same⟩ := text_of_parseDescriptor parsed
      rw [parseDescriptor_of_text d same] at parsed
      cases parsed
      exact ⟨⟨d, same⟩, rfl, print_inetNtop datagram.remote⟩
  | frametap =>
      have short : (CString.ofBytes (datagram.data.take 255)).bytes.length ≤ 255 :=
        (List.takeWhile_prefix _).length_le.trans (List.length_take_le _ _)
      change ((PollResult.ofParsed (parseBeacon (.ofBytes (datagram.data.take 255)) datagram.remote)).map
        frametapDeviceToSession) = .found device at reports
      cases parsed : parseBeacon (.ofBytes (datagram.data.take 255)) datagram.remote with
      | none =>
          rw [parsed] at reports
          cases reports
      | some found =>
          rw [parsed] at reports
          obtain ⟨b, same⟩ := text_of_parseBeacon short parsed
          rw [parseBeacon_of_text b short same] at parsed
          cases parsed
          cases reports
          refine ⟨⟨b, same⟩, rfl, ?_⟩
          rw [frametapDeviceToSession, beaconDevice, CText.print_toCString]
          exact print_inetNtop datagram.remote

/-- Over every run of the app, each console that is listed, that a session goes to or that a reconnect returns
    is the configured host, or an announcement of its backend had arrived from the address it is
    connected at. -/
theorem targets_are_announced {host : Option CString} {scannerOpens sftScannerOpens : Bool}
    {events : List AppEvent} {s : App} {device : SysdvrDevice}
    (run : exec appStep (appStart host scannerOpens sftScannerOpens) events = some s)
    (named : s.phase.destination = some device ∨ ∃ entry ∈ s.manager.live, entry.info = device) :
    (∃ datagram, .arrive device.source datagram ∈ events ∧ IsAnnouncement datagram device.source ∧
      device.host.bytes = (inetNtop datagram.remote).bytes) ∨
    ∃ text, host = some text ∧ device = (manualDevice text).info := by
  have arrived : ∀ event ∈ events, event.Came fun source datagram => .arrive source datagram ∈ events := by
    intro event member
    cases event with
    | arrive => exact member
    | _ => exact trivial
  have keeps : ∀ (u : App) event next, Known (fun source datagram => .arrive source datagram ∈ events) host u →
      event.Came (fun source datagram => .arrive source datagram ∈ events) → appStep u event = some next →
      Known (fun source datagram => .arrive source datagram ∈ events) host next :=
    fun _ _ _ known arrives stepped => known_step known arrives stepped
  have known := exec_invariant_of_allSteps keeps (allSteps_of_events arrived)
    (known_start scannerOpens sftScannerOpens) run
  have origin : Origin (fun source datagram => .arrive source datagram ∈ events) host device := by
    obtain goes | ⟨entry, member, rfl⟩ := named
    · exact known.target device goes
    · exact known.listed entry member
  cases origin with
  | @announced source datagram arrival reports =>
      obtain ⟨announcement, rfl, address⟩ := announcement_of_reports reports
      exact Or.inl ⟨datagram, arrival, announcement, address⟩
  | configured given is => exact Or.inr ⟨_, given, is⟩

theorem selected_console_was_announced :
    ∃ s device, exec appStep (appStart none true false) selectAnnounced = some s ∧
      s.phase.destination = some device ∧
      ((∃ datagram, .arrive device.source datagram ∈ selectAnnounced ∧
          IsAnnouncement datagram device.source ∧ device.host.bytes = (inetNtop datagram.remote).bytes) ∨
        ∃ text, none = some text ∧ device = (manualDevice text).info) := by
  have goes : ((exec appStep (appStart none true false) selectAnnounced).bind fun s =>
      s.phase.destination).isSome = true := by decide
  obtain ⟨device, reached⟩ := Option.isSome_iff_exists.mp goes
  obtain ⟨s, run, named⟩ := Option.bind_eq_some_iff.mp reached
  exact ⟨s, device, run, named, targets_are_announced run (Or.inl named)⟩

end SysdvrWebos
