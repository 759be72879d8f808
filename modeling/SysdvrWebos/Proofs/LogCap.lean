/-
Module: SysdvrWebos.Proofs.LogCap
Layer: Proofs
Purpose: What the limits of the diagnostic log are worth while several threads print to it (src/log.c). A
  thread tests the limits before it prints, so others can overtake it: the file outgrows its limit by as
  many messages and notices as there are threads at the most, and by what other code writes. Behind the time
  limit no more messages get in than there are threads. Of what each thread logs, the file holds a prefix,
  and all of it as long as the capture goes on.
Trusted boundary: none (fully proved)
Main exports: Quiet, LogMoves, LogState.Sound, LogState.Sound.step, holdings_step, size_run, notices_run,
  messages_run, log_stays_capped
Open obligations: none
-/
import SysdvrWebos.Core.DiagnosticLog
import SysdvrWebos.Lib.Ranking

namespace SysdvrWebos

variable {ι : Type} [DecidableEq ι]

/-! ### What a step of a thread can do -/

/-- The steps that write nothing and change no flag. -/
inductive Quiet (s : LogState ι) (answer : LogAnswer) : LogPc → LogPc → Prop where
  | refuses {text} (ended : s.stopped = true) : Quiet s answer (.enter text) .idle
  | begins {text} (open_ : s.stopped = false) (set : s.initialized = true) :
      Quiet s answer (.enter text) (.limit text)
  | unwatched {text} (open_ : s.stopped = false) (unset : s.initialized = false) :
      Quiet s answer (.enter text) (.print text)
  | ends {text} (ended : s.stopped = true) : Quiet s answer (.limit text) .idle
  | unlimited {text} (open_ : s.stopped = false) (volatile : s.persistent = false) :
      Quiet s answer (.limit text) (.print text)
  | watches {text} (open_ : s.stopped = false) (kept : s.persistent = true) :
      Quiet s answer (.limit text) (.clock text)
  | late {text} (up : s.limits.timeIsUp answer.now = true) :
      Quiet s answer (.clock text) (.disable .time)
  | inTime {text} (early : s.limits.timeIsUp answer.now = false) :
      Quiet s answer (.clock text) (.size text)
  | full {text} (up : s.sizeIsUp answer = true) : Quiet s answer (.size text) (.disable .size)
  | fits {text} (room : s.sizeIsUp answer = false) : Quiet s answer (.size text) (.print text)
  | leaves {limit} (off : s.persistent = false ∨ s.stopped = true) :
      Quiet s answer (.disable limit) .idle
  | announces {limit} (open_ : s.stopped = false) (kept : s.persistent = true) :
      Quiet s answer (.disable limit) (.notice limit)

omit [DecidableEq ι] in
theorem Quiet.busy {s : LogState ι} {answer : LogAnswer} {old pc : LogPc} (goes : Quiet s answer old pc) :
    old ≠ .idle := by
  rintro rfl
  cases goes

/-- What a step of the thread `t` leads to. -/
inductive LogMoves (s : LogState ι) (t : ι) (answer : LogAnswer) : LogState ι → Prop where
  | quiet {pc} (goes : Quiet s answer (s.threads t) pc) : LogMoves s t answer (s.goTo t pc)
  | prints {text} (here : s.threads t = .print text) :
      LogMoves s t answer ((s.write (.message t answer.stamp text)).goTo t .idle)
  | notes {limit} (here : s.threads t = .notice limit) :
      LogMoves s t answer ((s.write (.notice t answer.stamp limit)).goTo t .reopen)
  | reopens {sink} (here : s.threads t = .reopen) (away : sink ≠ .file) :
      LogMoves s t answer ({ s with sink := sink }.goTo t .stop)
  | stops (here : s.threads t = .stop) :
      LogMoves s t answer ({ s with stopped := true }.goTo t .idle)

theorem logThreadStep_cases {s next : LogState ι} {t : ι} {answer : LogAnswer}
    (step : logThreadStep s t answer = some next) : LogMoves s t answer next := by
  unfold logThreadStep at step
  split at step
  all_goals rename_i here
  -- idle
  · cases step
  -- enter
  · cases step
    cases ended : s.stopped with
    | true => exact .quiet (here ▸ .refuses ended)
    | false =>
        cases set : s.initialized with
        | true => exact .quiet (here ▸ .begins ended set)
        | false => exact .quiet (here ▸ .unwatched ended set)
  -- limit
  · cases step
    cases ended : s.stopped with
    | true =>
        rw [if_pos (by simp), if_pos rfl]
        exact .quiet (here ▸ .ends ended)
    | false =>
        cases kept : s.persistent with
        | true => exact .quiet (here ▸ .watches ended kept)
        | false => exact .quiet (here ▸ .unlimited ended kept)
  -- clock
  · cases step
    cases up : s.limits.timeIsUp answer.now with
    | true => exact .quiet (here ▸ .late up)
    | false => exact .quiet (here ▸ .inTime up)
  -- size
  · cases step
    cases up : s.sizeIsUp answer with
    | true => exact .quiet (here ▸ .full up)
    | false => exact .quiet (here ▸ .fits up)
  -- print
  · cases step
    exact .prints here
  -- disable
  · cases step
    cases ended : s.stopped with
    | true =>
        rw [if_pos (by simp)]
        exact .quiet (here ▸ .leaves (Or.inr ended))
    | false =>
        cases kept : s.persistent with
        | true => exact .quiet (here ▸ .announces ended kept)
        | false => exact .quiet (here ▸ .leaves (Or.inl kept))
  -- notice
  · cases step
    exact .notes here
  -- reopen
  · cases step
    apply LogMoves.reopens here
    split
    · exact LogSink.noConfusion
    · exact LogSink.noConfusion
  -- stop
  · cases step
    exact .stops here

/-! ### What the file holds -/

/-- The message that is on its way. -/
def LogPc.pending : LogPc → List CString
  | .enter text => [text]
  | .limit text => [text]
  | .clock text => [text]
  | .size text => [text]
  | .print text => [text]
  | _ => []

omit [DecidableEq ι] in
theorem Quiet.pending_subset {s : LogState ι} {answer : LogAnswer} {old pc : LogPc}
    (goes : Quiet s answer old pc) : pc.pending ⊆ old.pending := by
  cases goes with
  | begins => exact List.Subset.refl _
  | unwatched => exact List.Subset.refl _
  | unlimited => exact List.Subset.refl _
  | watches => exact List.Subset.refl _
  | inTime => exact List.Subset.refl _
  | fits => exact List.Subset.refl _
  | _ => exact List.nil_subset _

/-- The message was given up for the notice. -/
def LogPc.drops : LogPc → Bool
  | .disable _ => true
  | .notice _ => true
  | .reopen => true
  | .stop => true
  | _ => false

namespace LogState

variable (s : LogState ι)

/-- What the file holds of the messages of a thread. -/
def texts (t : ι) : List CString := s.file.filterMap (LogLine.textOf t)

/-- The file is what the capture has made of it, and it goes on as long as stderr leads there. -/
structure Sound : Prop where
  live : s.closed = false → s.sink = .file →
    s.initialized = true ∧ s.persistent = true ∧ s.stopped = false
  quiet : s.closed = true → ∀ t, s.threads t = .idle
  away : ∀ t, s.threads t = .stop → s.sink ≠ .file
  kept : ∀ t, s.texts t <+: s.called t
  exact : s.sink = .file → ∀ t, (s.threads t).drops = false →
    s.called t = s.texts t ++ (s.threads t).pending

end LogState

/-- What holds of each thread when one of them has moved. -/
theorem forall_goTo (s : LogState ι) {t : ι} {pc : LogPc} (P : ι → LogPc → Prop) (mover : P t pc)
    (others : ∀ other, other ≠ t → P other (s.threads other)) :
    ∀ other, P other ((s.goTo t pc).threads other) :=
  Threads.forall_move mover others

theorem logStart_sound (limits : LogLimits) (hasPath opened : Bool) :
    (logStart limits hasPath opened : LogState ι).Sound where
  live := by
    intro _ leads
    cases hasPath <;> cases opened <;> cases leads
    exact ⟨rfl, rfl, rfl⟩
  quiet := fun _ _ => rfl
  away := fun _ here => by cases here
  kept := fun _ => List.prefix_rfl
  exact := fun _ _ _ => rfl

omit [DecidableEq ι] in
@[simp] theorem write_threads (s : LogState ι) (line : LogLine ι) :
    (s.write line).threads = s.threads := by
  unfold LogState.write
  split <;> rfl

omit [DecidableEq ι] in
@[simp] theorem write_sink (s : LogState ι) (line : LogLine ι) : (s.write line).sink = s.sink := by
  unfold LogState.write
  split <;> rfl

omit [DecidableEq ι] in
@[simp] theorem write_called (s : LogState ι) (line : LogLine ι) : (s.write line).called = s.called := by
  unfold LogState.write
  split <;> rfl

omit [DecidableEq ι] in
theorem write_limits (s : LogState ι) (line : LogLine ι) : (s.write line).limits = s.limits := by
  unfold LogState.write
  split <;> rfl

omit [DecidableEq ι] in
/-- The flags are left alone. -/
theorem write_flags (s : LogState ι) (line : LogLine ι) :
    (s.write line).closed = s.closed ∧ (s.write line).initialized = s.initialized ∧
      (s.write line).persistent = s.persistent ∧ (s.write line).stopped = s.stopped := by
  unfold LogState.write
  split <;> exact ⟨rfl, rfl, rfl, rfl⟩

omit [DecidableEq ι] in
theorem write_of_file {s : LogState ι} (leads : s.sink = .file) (line : LogLine ι) :
    s.write line = { s with file := s.file ++ [line] } := by
  unfold LogState.write
  split
  · rfl
  · next away => exact absurd leads away

omit [DecidableEq ι] in
theorem write_of_away {s : LogState ι} (away : s.sink ≠ .file) (line : LogLine ι) : s.write line = s := by
  unfold LogState.write
  split
  · next leads => exact absurd leads away
  · rfl

/-- What the line adds to the messages of a thread. -/
theorem texts_write {s : LogState ι} (leads : s.sink = .file) (line : LogLine ι) (t : ι) :
    (s.write line).texts t = s.texts t ++ (LogLine.textOf t line).toList := by
  rw [LogState.texts, write_of_file leads, List.filterMap_append]
  cases text : LogLine.textOf t line <;> simp [LogState.texts, text]

namespace LogState.Sound

variable {s : LogState ι} {t : ι} {answer : LogAnswer}

/-- A thread that is underway finds the capture open where stderr leads to the file. -/
theorem underway (sound : s.Sound) (busy : s.threads t ≠ .idle) (leads : s.sink = .file) :
    s.initialized = true ∧ s.persistent = true ∧ s.stopped = false := by
  apply sound.live _ leads
  cases shut : s.closed with
  | false => rfl
  | true => exact absurd (sound.quiet shut t) busy

/-- A move that writes nothing. -/
theorem goTo (sound : s.Sound) {pc : LogPc} (busy : s.threads t ≠ .idle) (moving : pc ≠ .stop)
    (exact : s.sink = .file → pc.drops = false → s.called t = s.texts t ++ pc.pending) :
    (s.goTo t pc).Sound where
  live := sound.live
  quiet := fun shut => absurd (sound.quiet shut t) busy
  away := by
    apply forall_goTo s (fun _ pc => pc = .stop → s.sink ≠ .file)
    · exact fun here => absurd here moving
    · exact fun other _ => sound.away other
  kept := sound.kept
  exact := by
    intro leads
    apply forall_goTo s fun other pc => pc.drops = false → s.called other = s.texts other ++ pc.pending
    · exact exact leads
    · exact fun other _ => sound.exact leads other

theorem quietMove (sound : s.Sound) {pc : LogPc} (goes : Quiet s answer (s.threads t) pc) :
    (s.goTo t pc).Sound := by
  have busy : s.threads t ≠ .idle := goes.busy
  have open_ := fun leads => sound.underway busy leads
  apply sound.goTo busy
  · intro stops
    generalize s.threads t = old at goes
    subst stops
    cases goes
  · intro leads stays
    obtain ⟨set, persistent, running⟩ := open_ leads
    have same := sound.exact leads t
    generalize s.threads t = old at goes same
    cases goes with
    | refuses ended => exact absurd (running.symm.trans ended) Bool.false_ne_true
    | ends ended => exact absurd (running.symm.trans ended) Bool.false_ne_true
    | unwatched _ unset => exact absurd (unset.symm.trans set) Bool.false_ne_true
    | unlimited _ volatile => exact absurd (volatile.symm.trans persistent) Bool.false_ne_true
    | begins => exact same rfl
    | watches => exact same rfl
    | inTime => exact same rfl
    | fits => exact same rfl
    | late => cases stays
    | full => cases stays
    | announces => cases stays
    | leaves off =>
        obtain volatile | ended := off
        · exact absurd (volatile.symm.trans persistent) Bool.false_ne_true
        · exact absurd (running.symm.trans ended) Bool.false_ne_true

/-- A line of the thread is written, or nothing where stderr leads elsewhere. -/
theorem writes (sound : s.Sound) {line : LogLine ι} {pc : LogPc} (busy : s.threads t ≠ .idle)
    (moving : pc ≠ .stop) (others : ∀ other, other ≠ t → LogLine.textOf other line = none)
    (prefix_ : s.sink = .file → s.texts t ++ (LogLine.textOf t line).toList <+: s.called t)
    (exact : s.sink = .file → pc.drops = false →
      s.called t = s.texts t ++ (LogLine.textOf t line).toList ++ pc.pending) :
    ((s.write line).goTo t pc).Sound := by
  by_cases leads : s.sink = .file
  · obtain ⟨closed, initialized, persistent, stopped⟩ := write_flags s line
    have same : ∀ other, other ≠ t → (s.write line).texts other = s.texts other := by
      intro other distinct
      rw [texts_write leads, others other distinct]
      exact List.append_nil _
    refine ⟨?_, ?_, ?_, ?_, ?_⟩
    · intro open_ _
      have flags := sound.live (closed.symm.trans open_) leads
      exact ⟨initialized.trans flags.1, persistent.trans flags.2.1, stopped.trans flags.2.2⟩
    · exact fun shut => absurd (sound.quiet (closed.symm.trans shut) t) busy
    · apply forall_goTo (s.write line) (fun _ pc => pc = .stop → (s.write line).sink ≠ .file)
      · exact fun here => absurd here moving
      · intro other _
        rw [write_threads, write_sink]
        exact sound.away other
    · intro other
      show (s.write line).texts other <+: (s.write line).called other
      rw [write_called]
      by_cases isT : other = t
      · rw [isT, texts_write leads]
        exact prefix_ leads
      · rw [same other isT]
        exact sound.kept other
    · intro _
      apply forall_goTo (s.write line) fun other pc =>
        pc.drops = false → (s.write line).called other = (s.write line).texts other ++ pc.pending
      · rw [texts_write leads, write_called]
        exact exact leads
      · intro other distinct
        rw [same other distinct, write_threads, write_called]
        exact sound.exact leads other
  · rw [write_of_away leads]
    exact sound.goTo busy moving fun here => absurd here leads

theorem move (sound : s.Sound) {next : LogState ι} (moves : LogMoves s t answer next) : next.Sound := by
  have away : ∀ u : LogState ι, u.sink ≠ .file → u.closed = s.closed → u.file = s.file →
      u.called = s.called → s.threads t ≠ .idle → (∃ pc, u.threads = Threads.move s.threads t pc) →
      u.Sound := by
    rintro u off closed file called busy ⟨pc, threads⟩
    refine ⟨fun _ leads => absurd leads off, fun shut => ?_, fun _ _ => off, fun other => ?_,
      fun leads => absurd leads off⟩
    · exact absurd (sound.quiet (closed.symm.trans shut) t) busy
    · rw [LogState.texts, file, called]
      exact sound.kept other
  cases moves with
  | quiet goes => exact sound.quietMove goes
  | @prints text here =>
      have busy : s.threads t ≠ .idle := by
        intro idle
        rw [idle] at here
        cases here
      have same : s.sink = .file → s.called t = s.texts t ++ [text] := by
        intro leads
        have exact := sound.exact leads t
        rw [here] at exact
        exact exact rfl
      have own : LogLine.textOf t (.message t answer.stamp text) = some text := if_pos rfl
      apply sound.writes busy (fun stops => by cases stops)
      · exact fun other distinct => if_neg (Ne.symm distinct)
      · intro leads
        rw [own, same leads]
        exact List.prefix_rfl
      · intro leads _
        rw [own, same leads]
        exact (List.append_nil _).symm
  | notes here =>
      have busy : s.threads t ≠ .idle := by
        intro idle
        rw [idle] at here
        cases here
      apply sound.writes busy (fun stops => by cases stops) (fun _ _ => rfl)
      · intro _
        show s.texts t ++ [] <+: s.called t
        rw [List.append_nil]
        exact sound.kept t
      · exact fun _ stays => by cases stays
  | reopens here off =>
      have busy : s.threads t ≠ .idle := by
        intro idle
        rw [idle] at here
        cases here
      exact away _ off rfl rfl rfl busy ⟨_, rfl⟩
  | stops here =>
      have busy : s.threads t ≠ .idle := by
        intro idle
        rw [idle] at here
        cases here
      exact away _ (sound.away t here) rfl rfl rfl busy ⟨_, rfl⟩

/-- A call of the thread. -/
theorem call (sound : s.Sound) (idle : s.threads t = .idle) (open_ : s.closed = false) (text : CString) :
    { s.goTo t (.enter text) with
      called := Function.update s.called t (s.called t ++ [text]) : LogState ι }.Sound where
  live := sound.live
  quiet := fun shut => absurd (open_.symm.trans shut) Bool.false_ne_true
  away := by
    apply forall_goTo s (fun _ pc => pc = .stop → s.sink ≠ .file)
    · exact fun here => by cases here
    · exact fun other _ => sound.away other
  kept := by
    intro other
    show s.texts other <+: Function.update s.called t (s.called t ++ [text]) other
    by_cases same : other = t
    · rw [same, Function.update_self]
      exact (sound.kept t).trans (List.prefix_append ..)
    · rw [Function.update_of_ne same]
      exact sound.kept other
  exact := by
    intro leads
    apply forall_goTo s fun other pc => pc.drops = false →
      Function.update s.called t (s.called t ++ [text]) other = s.texts other ++ pc.pending
    · intro _
      have before := sound.exact leads t
      rw [idle] at before
      have all : s.called t = s.texts t ++ [] := before rfl
      rw [Function.update_self, all, List.append_nil]
      rfl
    · intro other distinct
      rw [Function.update_of_ne distinct]
      exact sound.exact leads other

/-- A line of other code. -/
theorem foreign (sound : s.Sound) (bytes : List UInt8) : (s.write (.foreign bytes)).Sound := by
  by_cases leads : s.sink = .file
  · have same : ∀ other, (s.write (.foreign bytes)).texts other = s.texts other := by
      intro other
      rw [texts_write leads]
      exact List.append_nil _
    rw [write_of_file leads] at same ⊢
    exact ⟨sound.live, sound.quiet, sound.away, fun other => same other ▸ sound.kept other,
      fun _ other => same other ▸ sound.exact leads other⟩
  · rw [write_of_away leads]
    exact sound

theorem close (sound : s.Sound) (idle : ∀ t, s.threads t = .idle) :
    { s with initialized := false, persistent := false, closed := true : LogState ι }.Sound where
  live := fun open_ => by cases open_
  quiet := fun _ => idle
  away := sound.away
  kept := sound.kept
  exact := sound.exact

variable [Fintype ι]

theorem step (sound : s.Sound) {event : LogEvent ι} {next : LogState ι}
    (taken : logStep s event = some next) : next.Sound := by
  cases event with
  | call t text =>
      rw [logStep] at taken
      split at taken
      · next free =>
          cases taken
          exact sound.call free.1 free.2 text
      · cases taken
  | run t answer => exact sound.move (logThreadStep_cases taken)
  | foreign bytes =>
      cases taken
      exact sound.foreign bytes
  | close =>
      rw [logStep] at taken
      split at taken
      · next free =>
          cases taken
          exact sound.close free.1
      · cases taken

end LogState.Sound

/-! ### What the threads still hold -/

namespace LogState

variable [Fintype ι] (line : LogLine ι → Nat) (place : LogPc → Nat) (s : LogState ι)

/-- The weights of the lines in the file. -/
def measure : Nat := (s.file.map line).sum

/-- With what the threads can still bring into the file. -/
def holdings : Nat := s.measure line + if s.sink = .file then Threads.total place s.threads else 0

end LogState

section holdings

variable [Fintype ι] (line : LogLine ι → Nat) (place : LogPc → Nat) {s : LogState ι} {t : ι}

omit [DecidableEq ι] in
theorem holdings_away (off : s.sink ≠ .file) : s.holdings line place = s.measure line := by
  rw [LogState.holdings, if_neg off, Nat.add_zero]

omit [DecidableEq ι] in
theorem holdings_file (leads : s.sink = .file) :
    s.holdings line place = s.measure line + Threads.total place s.threads := by
  rw [LogState.holdings, if_pos leads]

omit [DecidableEq ι] [Fintype ι] in
theorem measure_write (leads : s.sink = .file) (added : LogLine ι) :
    (s.write added).measure line = s.measure line + line added := by
  rw [LogState.measure, write_of_file leads, List.map_append, List.sum_append]
  rfl

/-- A thread that moves exchanges what it holds. -/
theorem holdings_goTo (leads : s.sink = .file) (pc : LogPc) :
    (s.goTo t pc).holdings line place + place (s.threads t) = s.holdings line place + place pc := by
  have moved := Threads.total_move place s.threads t pc
  have after : (s.goTo t pc).holdings line place
      = s.measure line + Threads.total place (Threads.move s.threads t pc) :=
    holdings_file line place (s := s.goTo t pc) leads
  rw [after, holdings_file line place leads]
  omega

/-- A thread that writes a line pays for it. -/
theorem holdings_write (leads : s.sink = .file) (added : LogLine ι) (pc : LogPc) :
    ((s.write added).goTo t pc).holdings line place + place (s.threads t)
      = s.holdings line place + line added + place pc := by
  have sink : (s.write added).sink = .file := (write_sink s added).trans leads
  have moved := holdings_goTo line place (t := t) sink pc
  have same : (s.write added).holdings line place = s.holdings line place + line added := by
    rw [holdings_file line place sink, holdings_file line place leads, measure_write line leads,
      write_threads]
    omega
  rw [write_threads, same] at moved
  exact moved

end holdings

/-! ### The file is left -/

/-- Where stderr leads elsewhere, the file stays as it is. -/
theorem file_left {s next : LogState ι} {t : ι} {answer : LogAnswer} (away : s.sink ≠ .file)
    (moves : LogMoves s t answer next) : next.sink ≠ .file ∧ next.file = s.file := by
  cases moves with
  | quiet => exact ⟨away, rfl⟩
  | prints =>
      rw [write_of_away away]
      exact ⟨away, rfl⟩
  | notes =>
      rw [write_of_away away]
      exact ⟨away, rfl⟩
  | reopens _ off => exact ⟨off, rfl⟩
  | stops => exact ⟨away, rfl⟩

variable [Fintype ι]

theorem file_left_step {s next : LogState ι} {event : LogEvent ι} (away : s.sink ≠ .file)
    (taken : logStep s event = some next) : next.sink ≠ .file ∧ next.file = s.file := by
  cases event with
  | call t text =>
      rw [logStep] at taken
      split at taken
      · cases taken
        exact ⟨away, rfl⟩
      · cases taken
  | run t answer => exact file_left away (logThreadStep_cases taken)
  | foreign bytes =>
      cases taken
      rw [write_of_away away]
      exact ⟨away, rfl⟩
  | close =>
      rw [logStep] at taken
      split at taken
      · cases taken
        exact ⟨away, rfl⟩
      · cases taken

theorem file_left_run {s last : LogState ι} {events : List (LogEvent ι)} (away : s.sink ≠ .file)
    (run : Runs.exec logStep s events = some last) : last.file = s.file := by
  have keeps : ∀ (u : LogState ι) event next, u.sink ≠ .file ∧ u.file = s.file →
      logStep u event = some next → next.sink ≠ .file ∧ next.file = s.file := by
    intro u event next left taken
    obtain ⟨off, same⟩ := file_left_step left.1 taken
    exact ⟨off, same.trans left.2⟩
  exact (Runs.exec_invariant keeps ⟨away, rfl⟩ run).2

/-! ### What a step costs -/

/-- What a thread can bring into the file: the notice, a ticket behind the test of the clock, and the
    message behind the test of the size. -/
def LogPc.holds (ticket hand note : Nat) : LogPc → Nat
  | .size _ => note + ticket
  | .print _ => note + hand
  | .reopen => 0
  | .stop => 0
  | _ => note

/-- What other code brings into the file. -/
def LogEvent.cost (line : LogLine ι → Nat) : LogEvent ι → Nat
  | .foreign bytes => line (.foreign bytes)
  | _ => 0

omit [DecidableEq ι] [Fintype ι] in
/-- Only a thread that passes a test comes to hold more. -/
theorem Quiet.holds_le {s : LogState ι} {answer : LogAnswer} {old pc : LogPc} (ticket hand note : Nat)
    (goes : Quiet s answer old pc)
    (flags : s.initialized = true ∧ s.persistent = true ∧ s.stopped = false) :
    pc.holds ticket hand note ≤ old.holds ticket hand note ∨
      (∃ text, old = .clock text ∧ pc = .size text ∧ s.limits.timeIsUp answer.now = false) ∨
      ∃ text, old = .size text ∧ pc = .print text ∧ s.sizeIsUp answer = false := by
  obtain ⟨set, kept, open_⟩ := flags
  cases goes with
  | inTime early => exact Or.inr (Or.inl ⟨_, rfl, rfl, early⟩)
  | fits room => exact Or.inr (Or.inr ⟨_, rfl, rfl, room⟩)
  | unwatched _ unset => exact absurd (unset.symm.trans set) Bool.false_ne_true
  | unlimited _ volatile => exact absurd (volatile.symm.trans kept) Bool.false_ne_true
  | full => exact Or.inl (Nat.le_add_right ..)
  | _ => exact Or.inl (Nat.le_refl _)

section steps

variable {line : LogLine ι → Nat} {ticket hand note most : Nat} {s next : LogState ι}

/-- A step of a thread stays within what is allowed: its lines are paid for, and where it passes a test
    this costs nothing or leads to a state within. -/
theorem holdings_move {t : ι} {answer : LogAnswer} (sound : s.Sound)
    (within : s.holdings line (LogPc.holds ticket hand note) ≤ most) (moves : LogMoves s t answer next)
    (message : ∀ stamp text, s.threads t = .print text → line (.message t stamp text) ≤ hand)
    (notice : ∀ stamp limit, line (.notice t stamp limit) ≤ note)
    (tickets : ticket = 0 ∨ s.limits.timeIsUp answer.now = true)
    (hands : hand = ticket ∨ (s.sink = .file → s.sizeIsUp answer = false →
      ∀ pc, (s.goTo t pc).holdings line (LogPc.holds ticket hand note) ≤ most)) :
    next.holdings line (LogPc.holds ticket hand note) ≤ most := by
  have below : s.measure line ≤ most := (Nat.le_add_right ..).trans within
  by_cases leads : s.sink = .file
  · cases moves with
    | @quiet pc quiet =>
        have exchange := holdings_goTo line (LogPc.holds ticket hand note) (t := t) leads pc
        have busy : s.threads t ≠ .idle := quiet.busy
        obtain cheap | ⟨text, here, rfl, early⟩ | ⟨text, here, rfl, room⟩ :=
          quiet.holds_le ticket hand note (sound.underway busy leads)
        · omega
        · obtain free | up := tickets
          · rw [here, free] at exchange
            simp only [LogPc.holds] at exchange
            rw [free] at within ⊢
            omega
          · exact absurd (early.symm.trans up) Bool.false_ne_true
        · obtain even | there := hands
          · rw [here, even] at exchange
            simp only [LogPc.holds] at exchange
            rw [even] at within ⊢
            omega
          · exact there leads room _
    | @prints text here =>
        have paid := holdings_write line (LogPc.holds ticket hand note) (t := t) leads
          (.message t answer.stamp text) .idle
        have cheap := message answer.stamp text here
        rw [here] at paid
        simp only [LogPc.holds] at paid
        omega
    | @notes limit here =>
        have paid := holdings_write line (LogPc.holds ticket hand note) (t := t) leads
          (.notice t answer.stamp limit) .reopen
        have cheap := notice answer.stamp limit
        rw [here] at paid
        simp only [LogPc.holds] at paid
        omega
    | reopens here off =>
        rw [holdings_away line _ off]
        exact below
    | stops here => exact absurd leads (sound.away t here)
  · obtain ⟨off, same⟩ := file_left leads moves
    rw [holdings_away line _ off, LogState.measure, same]
    exact below

/-- A step of the log stays within what is allowed and what other code brings in. -/
theorem holdings_step {event : LogEvent ι} (sound : s.Sound)
    (within : s.holdings line (LogPc.holds ticket hand note) ≤ most) (taken : logStep s event = some next)
    (message : ∀ t stamp text, s.threads t = .print text → line (.message t stamp text) ≤ hand)
    (notice : ∀ t stamp limit, line (.notice t stamp limit) ≤ note)
    (tickets : ticket = 0 ∨ ∀ t answer, event = .run t answer → s.limits.timeIsUp answer.now = true)
    (hands : hand = ticket ∨ ∀ t answer, event = .run t answer → s.sink = .file →
      s.sizeIsUp answer = false →
        ∀ pc, (s.goTo t pc).holdings line (LogPc.holds ticket hand note) ≤ most) :
    next.holdings line (LogPc.holds ticket hand note) ≤ most + event.cost line := by
  cases event with
  | call t text =>
      rw [logStep] at taken
      split at taken
      · next free =>
          cases taken
          show (s.goTo t (.enter text)).holdings line _ ≤ most
          by_cases leads : s.sink = .file
          · have exchange := holdings_goTo line (LogPc.holds ticket hand note) (t := t) leads (.enter text)
            rw [free.1] at exchange
            exact (Nat.add_right_cancel exchange).trans_le within
          · rw [holdings_away line _ leads] at within
            exact (holdings_away line _ (s := s.goTo t (.enter text)) leads).trans_le within
      · cases taken
  | run t answer =>
      apply holdings_move sound within (logThreadStep_cases taken) (message t) (notice t)
      · exact tickets.imp_right fun up => up t answer rfl
      · exact hands.imp_right fun there => there t answer rfl
  | foreign bytes =>
      cases taken
      by_cases leads : s.sink = .file
      · have sink : (s.write (.foreign bytes)).sink = .file := (write_sink s _).trans leads
        rw [holdings_file line _ leads] at within
        rw [holdings_file line _ sink, measure_write line leads, write_threads, LogEvent.cost]
        omega
      · rw [write_of_away leads]
        exact within.trans (Nat.le_add_right ..)
  | close =>
      rw [logStep] at taken
      split at taken
      · cases taken
        exact within
      · cases taken

end steps

/-! ### Whole runs -/

/-- Messages of a known length, and an `fstat` that works. -/
def LogEvent.watched (longest : Nat) : LogEvent ι → Prop
  | .call _ text => text.bytes.length ≤ longest
  | .run _ answer => answer.statFails = false
  | _ => True

instance decidableWatched (longest : Nat) : ∀ event : LogEvent ι, Decidable (event.watched longest)
  | .call _ text => inferInstanceAs (Decidable (text.bytes.length ≤ longest))
  | .run _ answer => inferInstanceAs (Decidable (answer.statFails = false))
  | .foreign _ => .isTrue trivial
  | .close => .isTrue trivial

/-- The clock is beyond the time limit. -/
def LogEvent.late (limits : LogLimits) : LogEvent ι → Prop
  | .run _ answer => limits.timeIsUp answer.now = true
  | _ => True

/-- What other code brings into the file. -/
def LogEvent.foreignBytes : LogEvent ι → Nat := LogEvent.cost fun line => line.bytes.length

/-- One for a message. -/
def LogLine.isMessage : LogLine ι → Nat
  | .message .. => 1
  | _ => 0

/-- One for a notice. -/
def LogLine.isNotice : LogLine ι → Nat
  | .notice .. => 1
  | _ => 0

namespace LogState

variable (s : LogState ι)

/-- The messages in the file. -/
def messages : Nat := s.measure LogLine.isMessage

/-- The notices in the file. -/
def notices : Nat := s.measure LogLine.isNotice

/-- The messages on their way are of the known length. -/
def Short (longest : Nat) : Prop := ∀ t, ∀ text ∈ (s.threads t).pending, text.bytes.length ≤ longest

end LogState

omit [DecidableEq ι] [Fintype ι] in
theorem stamped_length_le (stamp : CText 40) (text : List UInt8) :
    (stamped stamp text).length ≤ text.length + 42 := by
  have room := stamp.fits
  have opening : (CString.literal "[").bytes.length = 1 := by decide
  have closing : (CString.literal "] ").bytes.length = 2 := by decide
  rw [stamped, List.length_append, List.length_append, List.length_append, opening, closing]
  omega

theorem noticeText_length_le (limit : LogLimit) : (noticeText limit).length ≤ 94 := by
  cases limit <;> decide

omit [Fintype ι] in
theorem limits_move {s next : LogState ι} {t : ι} {answer : LogAnswer} (moves : LogMoves s t answer next) :
    next.limits = s.limits := by
  cases moves with
  | quiet => rfl
  | prints => exact write_limits s _
  | notes => exact write_limits s _
  | reopens => rfl
  | stops => rfl

omit [Fintype ι] in
/-- A step of a thread brings no message on its way. -/
theorem short_move {s next : LogState ι} {t : ι} {answer : LogAnswer} {longest : Nat} (short : s.Short longest)
    (moves : LogMoves s t answer next) : next.Short longest := by
  have gone : ∀ (u : LogState ι) pc, u.threads = s.threads → (∀ text ∈ pc.pending, text.bytes.length ≤ longest) →
      (u.goTo t pc).Short longest := by
    intro u pc same few
    apply forall_goTo u fun _ pc => ∀ text ∈ pc.pending, text.bytes.length ≤ longest
    · exact few
    · intro other _
      rw [same]
      exact short other
  cases moves with
  | @quiet pc quiet => exact gone s pc rfl fun text member => short t text (quiet.pending_subset member)
  | prints => exact gone _ _ (write_threads s _) fun _ member => by cases member
  | notes => exact gone _ _ (write_threads s _) fun _ member => by cases member
  | reopens => exact gone _ _ rfl fun _ member => by cases member
  | stops => exact gone _ _ rfl fun _ member => by cases member

theorem limits_step {s next : LogState ι} {event : LogEvent ι} (taken : logStep s event = some next) :
    next.limits = s.limits := by
  cases event with
  | call t text =>
      rw [logStep] at taken
      split at taken
      · cases taken
        rfl
      · cases taken
  | run t answer => exact limits_move (logThreadStep_cases taken)
  | foreign bytes =>
      cases taken
      exact write_limits s _
  | close =>
      rw [logStep] at taken
      split at taken
      · cases taken
        rfl
      · cases taken

/-- Messages of a known length come in. -/
theorem short_step {s next : LogState ι} {event : LogEvent ι} {longest : Nat}
    (allowed : event.watched longest) (short : s.Short longest) (taken : logStep s event = some next) :
    next.Short longest := by
  cases event with
  | call t text =>
      rw [logStep] at taken
      split at taken
      · cases taken
        apply forall_goTo s fun _ pc => ∀ text ∈ pc.pending, text.bytes.length ≤ longest
        · intro other member
          obtain rfl := List.mem_singleton.mp member
          exact allowed
        · exact fun other _ => short other
      · cases taken
  | run t answer => exact short_move short (logThreadStep_cases taken)
  | foreign bytes =>
      cases taken
      intro t
      rw [write_threads]
      exact short t
  | close =>
      rw [logStep] at taken
      split at taken
      · cases taken
        exact short
      · cases taken

/-- The file and what the threads hold stay within the limit, one message and one notice for each thread,
    and what other code has written so far. -/
structure WithinSize (limits : LogLimits) (longest foreign : Nat) (s : LogState ι) : Prop where
  sound : s.Sound
  same : s.limits = limits
  short : s.Short longest
  room : s.holdings (fun line => line.bytes.length) (LogPc.holds 0 (longest + 42) 136)
    ≤ limits.maxBytes - 1 + Fintype.card ι * (longest + 178) + foreign

theorem holds_le (longest : Nat) (pc : LogPc) : pc.holds 0 (longest + 42) 136 ≤ longest + 178 := by
  unfold LogPc.holds
  split <;> omega

omit [DecidableEq ι] in
/-- Below the limit there is room for what the threads can bring. -/
theorem withinSize_of_below {s : LogState ι} {limits : LogLimits} (longest : Nat)
    (below : s.fileSize ≤ limits.maxBytes - 1) :
    s.holdings (fun line => line.bytes.length) (LogPc.holds 0 (longest + 42) 136)
      ≤ limits.maxBytes - 1 + Fintype.card ι * (longest + 178) := by
  have held := Threads.total_le _ (holds_le longest) s.threads
  have size : s.measure (fun line => line.bytes.length) = s.fileSize := rfl
  rw [LogState.holdings, size]
  split <;> omega

theorem WithinSize.step {limits : LogLimits} {longest foreign : Nat} {s next : LogState ι}
    {event : LogEvent ι} (limited : limits.maxBytes ≠ 0) (allowed : event.watched longest)
    (within : WithinSize limits longest foreign s) (taken : logStep s event = some next) :
    WithinSize limits longest (foreign + event.foreignBytes) next := by
  have short := short_step allowed within.short taken
  refine ⟨within.sound.step taken, (limits_step taken).trans within.same, short, ?_⟩
  rw [← Nat.add_assoc]
  apply holdings_step within.sound within.room taken
  · intro t stamp text here
    have few := within.short t text (by rw [here]; exact List.mem_singleton_self _)
    exact (stamped_length_le stamp _).trans (Nat.add_le_add_right few 42)
  · intro t stamp limit
    exact (stamped_length_le stamp _).trans (Nat.add_le_add_right (noticeText_length_le limit) 42)
  · exact Or.inl rfl
  · refine Or.inr fun t answer isRun leads room pc => ?_
    subst isRun
    -- The test of the size has seen a file below the limit.
    have works : answer.statFails = false := allowed
    have below : s.fileSize < limits.maxBytes := by
      rw [LogState.sizeIsUp, LogState.currentLogSize, works, leads, within.same] at room
      simpa [limited] using room
    have fresh := withinSize_of_below (s := s.goTo t pc) longest (Nat.le_sub_one_of_lt below)
    exact fresh.trans (Nat.le_add_right ..)

theorem size_run {limits : LogLimits} {longest : Nat} {hasPath opened : Bool} {events : List (LogEvent ι)}
    {last : LogState ι} (limited : limits.maxBytes ≠ 0) (allowed : ∀ e ∈ events, e.watched longest)
    (run : Runs.exec logStep (logStart limits hasPath opened) events = some last) :
    last.fileSize ≤ limits.maxBytes - 1 + Fintype.card ι * (longest + 178)
      + (events.map LogEvent.foreignBytes).sum := by
  have start : WithinSize limits longest 0 (logStart limits hasPath opened : LogState ι) := by
    refine ⟨logStart_sound limits hasPath opened, rfl, ?_, withinSize_of_below longest (Nat.zero_le _)⟩
    intro _ _ member
    cases member
  have spends : ∀ b (s : LogState ι) e next, e.watched longest → WithinSize limits longest b s →
      logStep s e = some next → WithinSize limits longest (b + e.foreignBytes) next :=
    fun _ _ _ _ allowed within taken => within.step limited allowed taken
  have final := Runs.exec_budget spends allowed start run
  rw [Nat.zero_add] at final
  exact (Nat.le_add_right ..).trans final.room

/-- A notice for each thread. -/
theorem notices_run {s last : LogState ι} {events : List (LogEvent ι)} {most : Nat} (sound : s.Sound)
    (within : s.holdings LogLine.isNotice (LogPc.holds 0 0 1) ≤ most)
    (run : Runs.exec logStep s events = some last) : last.notices ≤ most := by
  have keeps : ∀ (u : LogState ι) event next,
      u.Sound ∧ u.holdings LogLine.isNotice (LogPc.holds 0 0 1) ≤ most → logStep u event = some next →
        next.Sound ∧ next.holdings LogLine.isNotice (LogPc.holds 0 0 1) ≤ most := by
    intro u event next held taken
    have paid := holdings_step held.1 held.2 taken (fun _ _ _ _ => Nat.le_refl 0) (fun _ _ _ => Nat.le_refl 1)
      (Or.inl rfl) (Or.inl rfl)
    have free : event.cost LogLine.isNotice = 0 := by cases event <;> rfl
    rw [free] at paid
    exact ⟨held.1.step taken, paid⟩
  exact (Nat.le_add_right ..).trans (Runs.exec_invariant keeps ⟨sound, within⟩ run).2

/-- Beyond the time limit each thread brings in the message that has passed its test, at the most. -/
theorem messages_run {s last : LogState ι} {events : List (LogEvent ι)} (sound : s.Sound)
    (allowed : ∀ e ∈ events, e.late s.limits) (run : Runs.exec logStep s events = some last) :
    last.messages ≤ s.messages + Fintype.card ι := by
  have few : ∀ pc : LogPc, pc.holds 1 1 0 ≤ 1 := by
    intro pc
    unfold LogPc.holds
    split <;> exact Nat.le_of_ble_eq_true rfl
  have start : s.holdings LogLine.isMessage (LogPc.holds 1 1 0) ≤ s.messages + Fintype.card ι := by
    have held := Threads.total_le _ few s.threads
    rw [LogState.holdings, LogState.messages]
    split <;> omega
  have keeps : ∀ (u : LogState ι) event next,
      u.Sound ∧ u.limits = s.limits ∧
        u.holdings LogLine.isMessage (LogPc.holds 1 1 0) ≤ s.messages + Fintype.card ι →
      event.late s.limits → logStep u event = some next →
        next.Sound ∧ next.limits = s.limits ∧
          next.holdings LogLine.isMessage (LogPc.holds 1 1 0) ≤ s.messages + Fintype.card ι := by
    rintro u event next ⟨sound, same, within⟩ late taken
    have up : ∀ t answer, event = .run t answer → u.limits.timeIsUp answer.now = true := by
      rintro t answer rfl
      rw [same]
      exact late
    have paid := holdings_step sound within taken (fun _ _ _ _ => Nat.le_refl 1) (fun _ _ _ => Nat.le_refl 0)
      (Or.inr up) (Or.inl rfl)
    have free : event.cost LogLine.isMessage = 0 := by cases event <;> rfl
    rw [free] at paid
    exact ⟨sound.step taken, (limits_step taken).trans same, paid⟩
  have kept := Runs.exec_invariant_of_allSteps keeps (Runs.allSteps_of_events allowed) ⟨sound, rfl, start⟩ run
  exact (Nat.le_add_right ..).trans kept.2.2

/-- While several threads print and other code writes, the file stays below its size limit, if `fstat` gives
    its size whenever it is asked, up to as many messages and notices as there are threads and what other code
    writes; it holds no more notices than there are threads; of what a thread logs it holds a prefix, and
    everything as long as the capture goes on and the thread is done; once stderr leads elsewhere it never
    changes; and beyond the time limit no more messages enter it than there are threads. -/
theorem log_stays_capped {limits : LogLimits} {hasPath opened : Bool} {events : List (LogEvent ι)}
    {last : LogState ι}
    (run : Runs.exec logStep (logStart limits hasPath opened) events = some last) :
    (∀ longest, limits.maxBytes ≠ 0 → (∀ e ∈ events, e.watched longest) →
      last.fileSize ≤ limits.maxBytes - 1 + Fintype.card ι * (longest + 178)
        + (events.map LogEvent.foreignBytes).sum) ∧
    last.notices ≤ Fintype.card ι ∧
    (∀ t, last.texts t <+: last.called t ∧
      (last.sink = .file → last.threads t = .idle → last.texts t = last.called t)) ∧
    ∀ more later, Runs.exec logStep last more = some later →
      (last.sink ≠ .file → later.file = last.file) ∧
      ((∀ e ∈ more, e.late limits) → later.messages ≤ last.messages + Fintype.card ι) := by
  have steps : ∀ (u : LogState ι) event next, u.Sound → logStep u event = some next → next.Sound :=
    fun _ _ _ held taken => held.step taken
  have sound : last.Sound := Runs.exec_invariant steps (logStart_sound limits hasPath opened) run
  have keeps : ∀ (u : LogState ι) event next, u.limits = limits → logStep u event = some next →
      next.limits = limits :=
    fun _ _ _ held taken => (limits_step taken).trans held
  have same : last.limits = limits := Runs.exec_invariant keeps rfl run
  refine ⟨fun longest limited allowed => size_run limited allowed run, ?_, fun t => ⟨sound.kept t, ?_⟩, ?_⟩
  · apply notices_run (logStart_sound limits hasPath opened) _ run
    have few : ∀ pc : LogPc, pc.holds 0 0 1 ≤ 1 := by
      intro pc
      unfold LogPc.holds
      split <;> exact Nat.le_of_ble_eq_true rfl
    have held := Threads.total_le _ few (logStart limits hasPath opened : LogState ι).threads
    have none : (logStart limits hasPath opened : LogState ι).measure LogLine.isNotice = 0 := rfl
    rw [LogState.holdings, none]
    split <;> omega
  · intro leads idle
    have all := sound.exact leads t
    rw [idle] at all
    exact ((all rfl).trans (List.append_nil _)).symm
  · intro more later goesOn
    refine ⟨fun away => file_left_run away goesOn, fun late => ?_⟩
    rw [← same] at late
    exact messages_run sound late goesOn

/-- A limit of a line, no time limit. -/
def raceLimits : LogLimits where
  startUs := 0
  maxDurationUs := 0
  maxBytes := 40

/-- The answers at one time of the day. -/
def raceAnswer : LogAnswer where
  now := 5
  statFails := false
  stamp := CText.print 40 (.literal "2025-06-01 12:00:00.000000")
  reopens := true

/-- Two threads test an empty file and print, and the first then meets the limit; other code writes to the
    file and past it. -/
def raceEvents : List (LogEvent Bool) :=
  [.call false (.literal "[wifi] up\n"), .call true (.literal "[ndl] load\n")] ++
    (List.replicate 4 [.run false raceAnswer, .run true raceAnswer]).flatten ++
    [.run false raceAnswer, .foreign [71, 10], .run true raceAnswer, .call false (.literal "[wifi] down\n")] ++
    List.replicate 8 (.run false raceAnswer) ++ [.foreign [71, 10]]

set_option maxRecDepth 4000 in
theorem race_outgrows_limit :
    ∃ last, Runs.exec logStep (logStart raceLimits true true) raceEvents = some last ∧
      raceLimits.maxBytes < last.fileSize ∧ last.sink = .devNull ∧ last.notices = 1 ∧
      last.fileSize ≤ 39 + 2 * (12 + 178) + 4 ∧
      ∀ more later, Runs.exec logStep last more = some later → later.file = last.file := by
  have runs : (Runs.exec logStep (logStart raceLimits true true) raceEvents).isSome = true := by decide
  obtain ⟨last, run⟩ := Option.isSome_iff_exists.mp runs
  have seen : (Runs.exec logStep (logStart raceLimits true true) raceEvents).map
      (fun s => (decide (raceLimits.maxBytes < s.fileSize), s.sink, s.notices)) = some (true, .devNull, 1) := by
    decide
  rw [run] at seen
  simp only [Option.map_some, Option.some.injEq, Prod.mk.injEq, decide_eq_true_eq] at seen
  obtain ⟨outgrown, sink, notices⟩ := seen
  obtain ⟨size, -, -, after⟩ := log_stays_capped run
  refine ⟨last, run, outgrown, sink, notices, ?_, fun more later goesOn => ?_⟩
  · apply size 12 Nat.noConfusion
    decide
  · apply (after more later goesOn).1
    rw [sink]
    exact LogSink.noConfusion

end SysdvrWebos
