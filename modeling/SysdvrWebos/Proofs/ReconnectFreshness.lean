/-
Module: SysdvrWebos.Proofs.ReconnectFreshness
Layer: Proofs
Purpose: What the datagram behind an automatic reconnect says about the time. Nobody reads the listeners
  while a session runs and nothing empties them when it ends, so an announcement of the preferred console
  from before the end can bring it back. Reconnects are fresh in every run in which no such announcement
  waits when a session ends by itself, and wherever one does wait a stale reconnect can follow.
Trusted boundary: none (fully proved)
Main exports: EndsClean, FreshReconnects, reconnects_fresh_of_clean_ends, stale_beacon_reconnects
Open obligations: none
-/
import SysdvrWebos.Proofs.MainLoopSteps

namespace SysdvrWebos

open Runs

/-! ### Clean ends and fresh reconnects -/

/-- An announcement of the preferred console waits in one of the listeners. -/
def preferredWaits (s : App) : Bool :=
  [StreamSource.sysdvr, StreamSource.frametap].any fun source =>
    (s.queued source).any fun arrival => announcesPreferred s.manager source arrival.datagram

theorem preferredWaits_iff (s : App) :
    preferredWaits s = true ↔ ∃ source, ∃ arrival ∈ s.queued source,
      announcesPreferred s.manager source arrival.datagram = true := by
  simp only [preferredWaits, List.any_eq_true]
  constructor
  · rintro ⟨source, _, waits⟩
    exact ⟨source, waits⟩
  · rintro ⟨source, waits⟩
    refine ⟨source, ?_, waits⟩
    cases source <;> simp

/-- The ends of a session behind which main waits for the console. -/
def SessionResult.lost : SessionResult → Bool
  | .remoteEnd => true
  | .transportLost => true
  | .error => false
  | .userBack => false

/-- A session that ends by itself while the app goes on leaves no announcement of the preferred console
    behind. -/
def EndsClean (s : App) : AppEvent → Prop
  | .sessionEnds result => result.lost = true → s.signalStop = false → preferredWaits s = false
  | _ => True

instance decidableEndsClean (s : App) : ∀ event : AppEvent, Decidable (EndsClean s event)
  | .sessionEnds result => inferInstanceAs
      (Decidable (result.lost = true → s.signalStop = false → preferredWaits s = false))
  | .arrive _ _ => .isTrue trivial
  | .signal => .isTrue trivial
  | .shellPoll _ => .isTrue trivial
  | .discoveryPoll _ _ => .isTrue trivial
  | .proceed _ => .isTrue trivial

/-- Each datagram that made the wait return true arrived after the session waited for had ended. -/
def FreshReconnects (s : App) : Prop :=
  ∀ r ∈ s.reconnects, ∃ endedAt, r.endedAt = some endedAt ∧ endedAt < r.arrivedAt

/-! ### The dates of a run -/

/-- Nothing is dated later than now. -/
structure Dated (s : App) : Prop where
  endedAt_lt : ∀ endedAt, s.endedAt = some endedAt → endedAt < s.clock
  arrivedAt_lt : ∀ source, ∀ arrival ∈ s.queued source, arrival.arrivedAt < s.clock

theorem dated_start (host : Option CString) (scannerOpens sftScannerOpens : Bool) :
    Dated (appStart host scannerOpens sftScannerOpens) where
  endedAt_lt := fun _ ended => by cases ended
  arrivedAt_lt := by
    intro source arrival member
    cases source <;> cases scannerOpens <;> cases sftScannerOpens <;> cases member

/-- An arrival puts one datagram, dated now, behind the others. -/
theorem queued_arrives {s : App} {source : StreamSource} {datagram : Datagram} {queue : List Arrival}
    (opened : s.listener source = some queue) {other : StreamSource} {arrival : Arrival}
    (member : arrival ∈ (s.setListener source (queue ++ [⟨datagram, s.clock⟩])).queued other) :
    arrival ∈ s.queued other ∨ arrival.arrivedAt = s.clock := by
  by_cases same : other = source
  · subst same
    rw [App.queued, App.listener_setListener] at member
    rcases List.mem_append.mp member with old | new
    · left
      rw [App.queued, opened]
      exact old
    · right
      rw [List.mem_singleton.mp new]
  · left
    rw [App.queued, App.listener_setListener_of_ne s same] at member
    exact member

/-- The end of a session touches no listener. -/
theorem queued_ends (s : App) (result : SessionResult) (phase : AppPhase) (source : StreamSource) :
    ((s.dateEnd result).enter phase).queued source = s.queued source := by
  cases result <;> rfl

theorem dateEnd_clock (s : App) (result : SessionResult) : (s.dateEnd result).clock = s.clock := by
  cases result <;> rfl

theorem dateEnd_of_lost (s : App) {result : SessionResult} (lost : result.lost = true) :
    (s.dateEnd result).endedAt = some s.clock := by
  cases result with
  | remoteEnd => rfl
  | transportLost => rfl
  | error => cases lost
  | userBack => cases lost

theorem dateEnd_of_not_lost (s : App) {result : SessionResult} (lost : result.lost = false) :
    s.dateEnd result = s := by
  cases result with
  | remoteEnd => cases lost
  | transportLost => cases lost
  | error => rfl
  | userBack => rfl

theorem Dated.of_frame {s t : App} (dated : Dated s) (frame : Frame s t) : Dated t.tick := by
  constructor
  · intro endedAt ended
    have before := dated.endedAt_lt endedAt (frame.endedAt.symm.trans ended)
    show endedAt < t.clock + 1
    rw [frame.clock]
    exact Nat.lt_succ_of_lt before
  · intro source arrival member
    have before := dated.arrivedAt_lt source arrival (frame.queued source member)
    show arrival.arrivedAt < t.clock + 1
    rw [frame.clock]
    exact Nat.lt_succ_of_lt before

/-- An arrival is dated now. -/
theorem Dated.arrives {s : App} {source : StreamSource} {datagram : Datagram} {queue : List Arrival}
    (dated : Dated s) (opened : s.listener source = some queue) :
    Dated (s.setListener source (queue ++ [⟨datagram, s.clock⟩])).tick := by
  constructor
  · intro endedAt ended
    have before := dated.endedAt_lt endedAt ((App.setListener_endedAt s source _).symm.trans ended)
    show endedAt < (s.setListener source (queue ++ [⟨datagram, s.clock⟩])).clock + 1
    rw [App.setListener_clock]
    exact Nat.lt_succ_of_lt before
  · intro other arrival member
    show arrival.arrivedAt < (s.setListener source (queue ++ [⟨datagram, s.clock⟩])).clock + 1
    rw [App.setListener_clock]
    rcases queued_arrives opened member with old | new
    · exact Nat.lt_succ_of_lt (dated.arrivedAt_lt other arrival old)
    · rw [new]
      exact Nat.lt_succ_self s.clock

/-- So is the end of a session. -/
theorem Dated.ends {s : App} (dated : Dated s) (result : SessionResult) (phase : AppPhase) :
    Dated ((s.dateEnd result).enter phase).tick := by
  constructor
  · intro endedAt ended
    show endedAt < (s.dateEnd result).clock + 1
    rw [dateEnd_clock]
    cases lost : result.lost with
    | true =>
        have now : s.clock = endedAt := Option.some.inj ((dateEnd_of_lost s lost).symm.trans ended)
        rw [now]
        exact Nat.lt_succ_self endedAt
    | false =>
        rw [dateEnd_of_not_lost s lost] at ended
        exact Nat.lt_succ_of_lt (dated.endedAt_lt endedAt ended)
  · intro source arrival member
    have member : arrival ∈ s.queued source := queued_ends s result phase source ▸ member
    show arrival.arrivedAt < (s.dateEnd result).clock + 1
    rw [dateEnd_clock]
    exact Nat.lt_succ_of_lt (dated.arrivedAt_lt source arrival member)

theorem dated_tick {s t : App} {event : AppEvent} (dated : Dated s) (moves : AppMoves s event t) :
    Dated t.tick := by
  cases moves with
  | arrives opened => exact dated.arrives opened
  | quiet frame _ => exact dated.of_frame frame
  | returns frame _ _ _ _ => exact dated.of_frame frame
  | ends streaming => exact dated.ends _ _

/-! ### Runs that leave no announcement behind -/

/-- Main goes on to wait behind a session that ended by itself, or that the reconnect loop could not
    start. -/
theorem afterSession_afterLoss {loop : MainLoop} {signalStop : Bool} {result : SessionResult}
    (waits : (loop.afterSession signalStop result).afterLoss = true) :
    signalStop = false ∧ (result.lost = true ∨ result.lost = false ∧ loop = .reconnect) := by
  cases signalStop with
  | true => cases loop <;> cases waits
  | false =>
      refine ⟨rfl, ?_⟩
      cases result with
      | remoteEnd => exact Or.inl rfl
      | transportLost => exact Or.inl rfl
      | error =>
          cases loop with
          | selection => cases waits
          | reconnect => exact Or.inr ⟨rfl, rfl⟩
      | userBack => cases loop <;> cases waits

/-- While main waits, the announcements of the preferred console in the listeners are all younger than
    the session that ended. -/
def WaitsFresh (s : App) : Prop :=
  ∃ endedAt, s.endedAt = some endedAt ∧ ∀ source, ∀ arrival ∈ s.queued source,
    announcesPreferred s.manager source arrival.datagram = true → endedAt < arrival.arrivedAt

/-- The invariant of the runs whose sessions end clean. -/
structure Fresh (s : App) : Prop where
  dated : Dated s
  waits : s.phase.afterLoss = true → WaitsFresh s
  reconnects : FreshReconnects s

theorem fresh_start (host : Option CString) (scannerOpens sftScannerOpens : Bool) :
    Fresh (appStart host scannerOpens sftScannerOpens) where
  dated := dated_start host scannerOpens sftScannerOpens
  waits := fun waiting => by cases waiting
  reconnects := fun r member => by cases member

/-- A step that leaves the listeners alone carries the freshness of the queues over. -/
theorem WaitsFresh.of_frame {s t : App} (frame : Frame s t) (waiting : t.phase.afterLoss = true)
    (fresh : s.phase.afterLoss = true → WaitsFresh s) : WaitsFresh t := by
  rcases frame.waiting waiting with ⟨earlier, same⟩
  rcases fresh earlier with ⟨endedAt, ended, younger⟩
  refine ⟨endedAt, frame.endedAt.trans ended, fun source arrival member announces => ?_⟩
  rw [announcesPreferred_congr same] at announces
  exact younger source arrival (frame.queued source member) announces

/-- A new arrival is younger than any session that has ended. -/
theorem WaitsFresh.arrives {s : App} {source : StreamSource} {datagram : Datagram}
    {queue : List Arrival} (dated : Dated s) (fresh : WaitsFresh s)
    (opened : s.listener source = some queue) :
    WaitsFresh (s.setListener source (queue ++ [⟨datagram, s.clock⟩])) := by
  rcases fresh with ⟨endedAt, ended, younger⟩
  refine ⟨endedAt, (App.setListener_endedAt s source _).trans ended, ?_⟩
  intro other arrival member announced
  rw [App.setListener_manager] at announced
  rcases queued_arrives opened member with old | new
  · exact younger other arrival old announced
  · rw [new]
    exact dated.endedAt_lt endedAt ended

/-- The wait behind a session begins with fresh queues: they are clean, or the reconnect loop goes back
    to the wait it came from. -/
theorem WaitsFresh.ends {s : App} {target : SysdvrDevice} {loop : MainLoop} {result : SessionResult}
    (waits : s.phase.afterLoss = true → WaitsFresh s) (clean : EndsClean s (.sessionEnds result))
    (streaming : s.phase = .streaming target loop)
    (waiting : (loop.afterSession s.signalStop result).afterLoss = true) :
    WaitsFresh ((s.dateEnd result).enter (loop.afterSession s.signalStop result)) := by
  rcases afterSession_afterLoss waiting with ⟨goesOn, lost | ⟨failed, again⟩⟩
  · refine ⟨s.clock, dateEnd_of_lost s lost, fun source arrival member announced => ?_⟩
    rw [queued_ends] at member
    have none : preferredWaits s = false := clean lost goesOn
    have some : preferredWaits s = true := by
      refine (preferredWaits_iff s).mpr ⟨source, arrival, member, ?_⟩
      cases result <;> exact announced
    rw [none] at some
    cases some
  · have waited : s.phase.afterLoss = true := by rw [streaming, again]; rfl
    rw [dateEnd_of_not_lost s failed]
    exact waits waited

theorem waitsFresh_tick {s t : App} {event : AppEvent} (fresh : Fresh s) (clean : EndsClean s event)
    (moves : AppMoves s event t) (waiting : t.phase.afterLoss = true) : WaitsFresh t := by
  cases moves with
  | arrives opened =>
      rw [App.setListener_phase] at waiting
      exact (fresh.waits waiting).arrives fresh.dated opened
  | quiet frame _ => exact .of_frame frame waiting fresh.waits
  | returns frame _ _ _ _ => exact .of_frame frame waiting fresh.waits
  | ends streaming => exact .ends fresh.waits clean streaming waiting

theorem freshReconnects_tick {s t : App} {event : AppEvent} (fresh : Fresh s)
    (moves : AppMoves s event t) : FreshReconnects t := by
  intro r member
  cases moves with
  | arrives opened =>
      rw [App.setListener_reconnects] at member
      exact fresh.reconnects r member
  | quiet _ reconnects =>
      rw [reconnects] at member
      exact fresh.reconnects r member
  | returns _ waiting waits preferred reconnects =>
      rw [reconnects] at member
      rcases List.mem_append.mp member with old | new
      · exact fresh.reconnects r old
      · rcases fresh.waits waiting with ⟨endedAt, ended, younger⟩
        rw [List.mem_singleton.mp new]
        exact ⟨endedAt, ended, younger _ _ waits preferred⟩
  | ends streaming =>
      rename_i target loop result
      have same : ((s.dateEnd result).enter (loop.afterSession s.signalStop result)).reconnects
          = s.reconnects := by cases result <;> rfl
      rw [same] at member
      exact fresh.reconnects r member

theorem fresh_tick {s t : App} {event : AppEvent} (fresh : Fresh s) (clean : EndsClean s event)
    (moves : AppMoves s event t) : Fresh t.tick where
  dated := dated_tick fresh.dated moves
  waits := by
    intro waiting
    have next : WaitsFresh t := waitsFresh_tick fresh clean moves waiting
    exact next
  reconnects := by
    have next : FreshReconnects t := freshReconnects_tick fresh moves
    exact next

theorem fresh_of_clean {s : App} (fresh : Fresh s) {events : List AppEvent}
    (clean : AllSteps appStep EndsClean s events) : AllStates appStep FreshReconnects s events := by
  have everywhere : AllStates appStep Fresh s events := by
    refine allStates_of_allSteps ?_ fresh clean
    intro s event next fresh clean stepped
    rcases appStep_moves stepped with ⟨t, moves, rfl⟩
    exact fresh_tick fresh clean moves
  exact everywhere.imp fun _ fresh => fresh.reconnects

/-! ### A waiting announcement brings the console back -/

/-- Main waits for a console at a phase of its loop, with given datagrams in one listener. -/
structure Awaits (s : App) (phase : AppPhase) (wanted : SysdvrDevice → Bool) (endedAt : Nat)
    (source : StreamSource) (queue : List Arrival) : Prop where
  phase : s.phase = phase
  running : s.signalStop = false
  wanted : sessionManagerMatchesPreferred s.manager = wanted
  endedAt : s.endedAt = some endedAt
  opened : s.listener source = some queue

section

variable {wanted : SysdvrDevice → Bool} {endedAt : Nat} {source : StreamSource} {queue : List Arrival}

/-- A poll of a listener that has nothing to hand out goes on behind it, as does one that is not open. -/
theorem Awaits.skip {s : App} {other : StreamSource} {caller : MainLoop}
    (waits : Awaits s (.waitPoll other caller) wanted endedAt source queue) :
    ∃ t, Reaches appStep s t ∧ Awaits t (afterWaitPoll caller other) wanted endedAt source queue := by
  refine ⟨(s.enter (afterWaitPoll caller other)).tick, ?_, rfl, waits.running, waits.wanted,
    waits.endedAt, waits.opened⟩
  cases opened : s.listener other with
  | none =>
      refine Reaches.single (e := .proceed 0) ?_
      simp only [appStep, appMove, proceedStep, waits.phase, opened, Option.map_some]
  | some other_queue =>
      refine Reaches.single (e := .discoveryPoll .nothing 0) ?_
      have idle : discoveryPoll other .nothing = .idle := by cases other <;> rfl
      simp only [appStep, appMove, pollStep, waits.phase, opened, Option.bind_some, readSocket,
        Option.map_some, App.setListener_listener opened, idle, waitPolled]

theorem Awaits.prune {s : App} {caller : MainLoop}
    (waits : Awaits s (.waitPrune caller) wanted endedAt source queue) :
    ∃ t, Reaches appStep s t ∧ Awaits t (.waitTop caller) wanted endedAt source queue := by
  refine ⟨((s.setManager (sessionManagerPrune s.manager 0)).enter (.waitTop caller)).tick, ?_, rfl,
    waits.running, (matchesPreferred_prune s.manager 0).trans waits.wanted, waits.endedAt, waits.opened⟩
  refine Reaches.single (e := .proceed 0) ?_
  simp only [appStep, appMove, proceedStep, waits.phase, Option.map_some]

theorem Awaits.start {s : App} {caller : MainLoop}
    (waits : Awaits s (.waitTop caller) wanted endedAt source queue) :
    ∃ t, Reaches appStep s t ∧ Awaits t (.waitPoll .sysdvr caller) wanted endedAt source queue := by
  refine ⟨(s.enter (.waitPoll .sysdvr caller)).tick, ?_, rfl, waits.running, waits.wanted,
    waits.endedAt, waits.opened⟩
  refine Reaches.single (e := .shellPoll (.action .none)) ?_
  have stays : actionIsBackish .none = false := rfl
  simp [appStep, appMove, shellStep, waits.phase, waits.running, stays]

/-- From the start of an iteration to the poll of a given listener. -/
theorem Awaits.approach {s : App} {caller : MainLoop}
    (waits : Awaits s (.waitTop caller) wanted endedAt source queue) :
    ∃ t, Reaches appStep s t ∧ Awaits t (.waitPoll source caller) wanted endedAt source queue := by
  rcases waits.start with ⟨first, toFirst, atFirst⟩
  cases source with
  | sysdvr => exact ⟨first, toFirst, atFirst⟩
  | frametap =>
      rcases atFirst.skip with ⟨second, toSecond, atSecond⟩
      exact ⟨second, toFirst.trans toSecond, atSecond⟩

/-- From behind the poll of a listener around the loop and back to it. -/
theorem Awaits.comeRound {s : App} {caller : MainLoop}
    (waits : Awaits s (afterWaitPoll caller source) wanted endedAt source queue) :
    ∃ t, Reaches appStep s t ∧ Awaits t (.waitPoll source caller) wanted endedAt source queue := by
  have toPrune : ∃ t, Reaches appStep s t ∧ Awaits t (.waitPrune caller) wanted endedAt source queue := by
    cases source with
    | sysdvr => exact Awaits.skip waits
    | frametap => exact ⟨s, Reaches.refl s, waits⟩
  rcases toPrune with ⟨first, toFirst, atFirst⟩
  rcases atFirst.prune with ⟨second, toSecond, atSecond⟩
  rcases atSecond.approach with ⟨third, toThird, atThird⟩
  exact ⟨third, (toFirst.trans toSecond).trans toThird, atThird⟩

/-- Reading the first datagram of a listener. -/
theorem Awaits.receive {s : App} {caller : MainLoop} {first : Arrival}
    (waits : Awaits s (.waitPoll source caller) wanted endedAt source (first :: queue)) :
    Reaches appStep s (waitPolled (s.setListener source queue) source caller first.arrivedAt 0
      (discoveryPoll source (.received first.datagram))).tick := by
  refine Reaches.single (e := .discoveryPoll .receive 0) ?_
  simp only [appStep, appMove, pollStep, waits.phase, waits.opened, Option.bind_some, readSocket,
    Option.map_some]

theorem Awaits.setListener {s : App} {phase : AppPhase} {before : List Arrival}
    (waits : Awaits s phase wanted endedAt source before) (queue : List Arrival) :
    Awaits (s.setListener source queue) phase wanted endedAt source queue where
  phase := (App.setListener_phase s source queue).trans waits.phase
  running := (App.setListener_signalStop s source queue).trans waits.running
  wanted := (congrArg _ (App.setListener_manager s source queue)).trans waits.wanted
  endedAt := (App.setListener_endedAt s source queue).trans waits.endedAt
  opened := App.listener_setListener s source queue

/-- Behind a poll that brought no wanted console the wait comes to the same listener again. -/
theorem Awaits.polled {s : App} {caller : MainLoop} {result : PollResult SysdvrDevice}
    (waits : Awaits s (.waitPoll source caller) wanted endedAt source queue) (arrivedAt : Nat)
    (unwanted : ∀ device, result = .found device → wanted device = false) :
    ∃ t, Reaches appStep (waitPolled s source caller arrivedAt 0 result).tick t
      ∧ Awaits t (.waitPoll source caller) wanted endedAt source queue := by
  cases result with
  | idle =>
      exact Awaits.comeRound (s := (s.enter (afterWaitPoll caller source)).tick)
        ⟨rfl, waits.running, waits.wanted, waits.endedAt, waits.opened⟩
  | failed =>
      exact Awaits.comeRound (s := (s.enter (afterWaitPoll caller source)).tick)
        ⟨rfl, waits.running, waits.wanted, waits.endedAt, waits.opened⟩
  | found device =>
      have seen := (matchesPreferred_seen s.manager device 0).trans waits.wanted
      have unmatched : ¬ sessionManagerMatchesPreferred
          (s.setManager (sessionManagerSeen s.manager device 0)).manager device = true := by
        rw [App.setManager_manager, seen, unwanted device rfl]
        exact Bool.false_ne_true
      refine ⟨_, Reaches.refl _, ?_⟩
      rw [waitPolled, if_neg unmatched]
      exact ⟨waits.phase, waits.running, seen, waits.endedAt, waits.opened⟩

/-- A wanted console ends the wait, whenever its announcement came in. -/
theorem Awaits.polled_wanted {s : App} {caller : MainLoop} {device : SysdvrDevice}
    (waits : Awaits s (.waitPoll source caller) wanted endedAt source queue) (arrivedAt : Nat)
    (isWanted : wanted device = true) :
    (⟨arrivedAt, some endedAt⟩ : Reconnect)
      ∈ (waitPolled s source caller arrivedAt 0 (.found device)).tick.reconnects := by
  have matched : sessionManagerMatchesPreferred
      (s.setManager (sessionManagerSeen s.manager device 0)).manager device = true := by
    rw [App.setManager_manager, matchesPreferred_seen, waits.wanted]
    exact isWanted
  rw [waitPolled, if_pos matched]
  show _ ∈ s.reconnects ++ [⟨arrivedAt, s.endedAt⟩]
  rw [waits.endedAt]
  exact List.mem_append_right _ List.mem_cons_self

/-- The listener is read on until it announces the wanted console, however long ago that announcement
    came in. The induction is on its queue: what stands in front costs one poll each. -/
theorem Awaits.returns_stale {s : App} {caller : MainLoop}
    (waits : Awaits s (.waitPoll source caller) wanted endedAt source queue)
    (announced : ∃ arrival ∈ queue, announces wanted source arrival.datagram = true)
    (past : ∀ arrival ∈ queue, arrival.arrivedAt < endedAt) :
    ∃ t, Reaches appStep s t ∧ ¬ FreshReconnects t := by
  induction queue generalizing s with
  | nil =>
      rcases announced with ⟨arrival, member, _⟩
      cases member
  | cons first queue ih =>
      have read := waits.receive
      cases here : announces wanted source first.datagram with
      | true =>
          rcases found_of_announces here with ⟨device, found, isWanted⟩
          rw [found] at read
          refine ⟨_, read, fun fresh => ?_⟩
          have recorded := (waits.setListener queue).polled_wanted first.arrivedAt isWanted
          rcases fresh _ recorded with ⟨endedAt', same, younger⟩
          have older := past first List.mem_cons_self
          cases same
          exact Nat.lt_asymm older younger
      | false =>
          have unwanted : ∀ device, discoveryPoll source (.received first.datagram) = .found device →
              wanted device = false := by
            intro device found
            simpa only [announces, found] using here
          rcases (waits.setListener queue).polled first.arrivedAt unwanted with ⟨back, toBack, atBack⟩
          have further : ∃ arrival ∈ queue, announces wanted source arrival.datagram = true := by
            rcases announced with ⟨arrival, member, yes⟩
            rcases List.mem_cons.mp member with rfl | member
            · rw [here] at yes
              cases yes
            · exact ⟨arrival, member, yes⟩
          rcases ih atBack further fun arrival member => past arrival (List.mem_cons_of_mem first member)
            with ⟨t, toT, stale⟩
          exact ⟨t, (read.trans toBack).trans toT, stale⟩

end

/-- Behind a session that ended by itself main waits, with the end dated and the listeners as they were. -/
theorem waits_of_lost {s next : App} {result : SessionResult} {source : StreamSource}
    {queue : List Arrival} (stepped : appStep s (.sessionEnds result) = some next)
    (lost : result.lost = true) (running : s.signalStop = false)
    (opened : s.listener source = some queue) :
    ∃ caller, Awaits next (.waitTop caller) (sessionManagerMatchesPreferred s.manager) s.clock source
      queue := by
  rcases Option.map_eq_some_iff.mp stepped with ⟨t, moved, rfl⟩
  rcases sessionEndStep_eq moved with ⟨target, loop, streaming, rfl⟩
  refine ⟨loop, ?_⟩
  have dated := dateEnd_of_lost s lost
  rw [running]
  cases result with
  | remoteEnd => cases loop <;> cases source <;> exact ⟨rfl, running, rfl, dated, opened⟩
  | transportLost => cases loop <;> cases source <;> exact ⟨rfl, running, rfl, dated, opened⟩
  | error => cases lost
  | userBack => cases lost

/-- A session that ends by itself while an announcement of the preferred console waits: the wait behind
    it can return on that announcement. -/
theorem stale_of_not_clean {s next : App} {result : SessionResult} (dated : Dated s)
    (stepped : appStep s (.sessionEnds result) = some next)
    (unclean : ¬ EndsClean s (.sessionEnds result)) :
    ∃ t, Reaches appStep next t ∧ ¬ FreshReconnects t := by
  simp only [EndsClean, Classical.not_imp, Bool.not_eq_false] at unclean
  rcases unclean with ⟨lost, running, waiting⟩
  rcases (preferredWaits_iff s).mp waiting with ⟨source, arrival, member, announced⟩
  cases opened : s.listener source with
  | none =>
      rw [App.queued, opened] at member
      cases member
  | some queue =>
      have queued : s.queued source = queue := by rw [App.queued, opened]; rfl
      rcases waits_of_lost stepped lost running opened with ⟨caller, waits⟩
      rcases waits.approach with ⟨first, toFirst, atFirst⟩
      rw [queued] at member
      have past : ∀ arrival ∈ queue, arrival.arrivedAt < s.clock :=
        fun arrival member => dated.arrivedAt_lt source arrival (queued ▸ member)
      rcases atFirst.returns_stale ⟨arrival, member, announced⟩ past with ⟨t, toT, stale⟩
      exact ⟨t, toFirst.trans toT, stale⟩

/-! ### Results -/

/-- Reconnects are fresh in every state of a run in which no announcement of the preferred console waits
    whenever a session ends by itself. Where one does wait at such an end, a stale reconnect can follow. -/
theorem reconnects_fresh_of_clean_ends (host : Option CString) (scannerOpens sftScannerOpens : Bool)
    (events : List AppEvent) :
    (AllSteps appStep EndsClean (appStart host scannerOpens sftScannerOpens) events →
      AllStates appStep FreshReconnects (appStart host scannerOpens sftScannerOpens) events)
    ∧ ∀ s next result, exec appStep (appStart host scannerOpens sftScannerOpens) events = some s →
        appStep s (.sessionEnds result) = some next → ¬ EndsClean s (.sessionEnds result) →
        ∃ more last, exec appStep next more = some last ∧ ¬ FreshReconnects last := by
  constructor
  · intro clean
    exact fresh_of_clean (fresh_start host scannerOpens sftScannerOpens) clean
  · intro s next result run stepped unclean
    have dated : Dated s := by
      refine exec_invariant ?_ (dated_start host scannerOpens sftScannerOpens) run
      intro s event next dated stepped
      rcases appStep_moves stepped with ⟨t, moves, rfl⟩
      exact dated_tick dated moves
    rcases stale_of_not_clean dated stepped unclean with ⟨last, ⟨more, run'⟩, stale⟩
    exact ⟨more, last, run', stale⟩

/-- A SysDVR console that announces itself from 192.168.0.7. -/
def announcement : Datagram where
  data := (CString.literal "SysDVR|6.2|03|XAW10012345678").bytes
  remote := ⟨192, 168, 0, 7⟩

/-- The user selects the announced console, and its session runs. -/
def selectAnnounced : List AppEvent :=
  [.arrive .sysdvr announcement, .shellPoll (.action .ok), .discoveryPoll .receive 40,
    .discoveryPoll .nothing 40, .proceed 40, .proceed 55, .proceed 55]

/-- The console sleeps and wakes up again: its announcement comes in while main waits. -/
def wakeUp : List AppEvent :=
  [.sessionEnds .remoteEnd, .arrive .sysdvr announcement, .shellPoll (.action .none),
    .discoveryPoll .receive 9000]

/-- The console announces itself once more while it streams, and then goes to sleep for good. -/
def staleAnnouncement : List AppEvent :=
  [.arrive .sysdvr announcement, .sessionEnds .remoteEnd, .shellPoll (.action .none),
    .discoveryPoll .receive 9000]

theorem reconnects_fresh_on_wake_up :
    (∃ last, exec appStep (appStart none true false) (selectAnnounced ++ wakeUp) = some last
      ∧ last.reconnects = [⟨8, some 7⟩] ∧ FreshReconnects last)
    ∧ ∃ more last, exec appStep (appStart none true false)
        (selectAnnounced ++ [.arrive .sysdvr announcement] ++ .sessionEnds .remoteEnd :: more) = some last
      ∧ ¬ FreshReconnects last := by
  constructor
  · have clean : AllSteps appStep EndsClean (appStart none true false) (selectAnnounced ++ wakeUp) := by
      decide
    have recorded : (exec appStep (appStart none true false) (selectAnnounced ++ wakeUp)).map
        App.reconnects = some [⟨8, some 7⟩] := by decide
    rcases Option.map_eq_some_iff.mp recorded with ⟨last, run, reconnects⟩
    have fresh := (reconnects_fresh_of_clean_ends none true false (selectAnnounced ++ wakeUp)).1 clean
    exact ⟨last, run, reconnects, fresh.last run⟩
  · have unclean : (exec appStep (appStart none true false)
        (selectAnnounced ++ [.arrive .sysdvr announcement])).map (fun s =>
          ((appStep s (.sessionEnds .remoteEnd)).isSome, decide (EndsClean s (.sessionEnds .remoteEnd))))
        = some (true, false) := by decide
    rcases Option.map_eq_some_iff.mp unclean with ⟨s, run, both⟩
    rcases Option.isSome_iff_exists.mp (congrArg Prod.fst both) with ⟨next, ends⟩
    have waiting := of_decide_eq_false (congrArg Prod.snd both)
    rcases (reconnects_fresh_of_clean_ends none true false
      (selectAnnounced ++ [.arrive .sysdvr announcement])).2 s next .remoteEnd run ends waiting
      with ⟨more, last, continued, stale⟩
    exact ⟨more, last, exec_append.mpr ⟨s, run, exec_cons.mpr ⟨next, ends, continued⟩⟩, stale⟩

/-- The wait returns true on a datagram that was already there when the session ended. -/
theorem stale_beacon_reconnects :
    ¬ ∀ (host : Option CString) (scannerOpens sftScannerOpens : Bool) (events : List AppEvent),
      AllStates appStep FreshReconnects (appStart host scannerOpens sftScannerOpens) events := by
  intro always
  have recorded : (exec appStep (appStart none true false) (selectAnnounced ++ staleAnnouncement)).map
      App.reconnects = some [⟨7, some 8⟩] := by decide
  rcases Option.map_eq_some_iff.mp recorded with ⟨last, run, reconnects⟩
  have fresh := (always none true false (selectAnnounced ++ staleAnnouncement)).last run
  rcases fresh ⟨7, some 8⟩ (by rw [reconnects]; exact List.mem_cons_self) with ⟨endedAt, same, younger⟩
  cases same
  exact absurd younger (by decide)

end SysdvrWebos
