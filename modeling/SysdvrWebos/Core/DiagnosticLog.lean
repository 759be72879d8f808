/-
Module: SysdvrWebos.Core.DiagnosticLog
Layer: Core
Purpose: The diagnostic log (src/log.c): one file per launch that stops growing at a time limit or a size
  limit. Any number of threads print to it at once; other code writes to stderr as it likes. Each test of a
  flag, each answer of the system and each line printed under the lock of the stream is one step of its
  thread. `called` is a ghost.
Trusted boundary: reads and writes of the plain flags take effect in some order; a line is printed as a
  whole, since the stream is locked around it
Main exports: LogSink, LogPc, LogLine, LogLimits, LogState, logStart, LogAnswer, LogEvent, logStep
Open obligations: none
-/
import SysdvrWebos.Lib.CText
import SysdvrWebos.Lib.Threads

namespace SysdvrWebos

/-- Where stderr leads: to what it was at the launch, to the file of the log, to /dev/null, or nowhere,
    behind a `freopen` that failed. -/
inductive LogSink where
  | launch
  | file
  | devNull
  | closed
deriving Repr, DecidableEq

/-- The limit that ended the capture. -/
inductive LogLimit where
  | time
  | size
deriving Repr, DecidableEq

/-- The reason given to `disable_persistent_logging`. -/
def LogLimit.reason : LogLimit → CString
  | .time => .literal "time limit reached"
  | .size => .literal "file size limit reached"

/-- Where a thread stands in `sysdvr_log_printf` and the functions it calls. -/
inductive LogPc where
  | idle
  | enter (text : CString)
  | limit (text : CString)
  | clock (text : CString)
  | size (text : CString)
  | print (text : CString)
  | disable (limit : LogLimit)
  | notice (limit : LogLimit)
  | reopen
  | stop
deriving DecidableEq

/-- A line in the file: a message or a notice of a thread, or what other code wrote. -/
inductive LogLine (ι : Type) where
  | message (thread : ι) (stamp : CText 40) (text : CString)
  | notice (thread : ι) (stamp : CText 40) (limit : LogLimit)
  | foreign (bytes : List UInt8)
deriving DecidableEq

/-- `"[%s] "`. -/
def stamped (stamp : CText 40) (text : List UInt8) : List UInt8 :=
  (CString.literal "[").bytes ++ stamp.bytes ++ (CString.literal "] ").bytes ++ text

/-- The notice of `disable_persistent_logging`. -/
def noticeText (limit : LogLimit) : List UInt8 :=
  (CString.literal "[log] persistent capture stopped: ").bytes ++ limit.reason.bytes ++
    (CString.literal "; application will continue normally\n").bytes

namespace LogLine

variable {ι : Type}

/-- The bytes of a line. -/
def bytes : LogLine ι → List UInt8
  | .message _ stamp text => stamped stamp text.bytes
  | .notice _ stamp limit => stamped stamp (noticeText limit)
  | .foreign bytes => bytes

/-- The text of a message of the thread. -/
def textOf [DecidableEq ι] (t : ι) : LogLine ι → Option CString
  | .message u _ text => if u = t then some text else none
  | _ => none

end LogLine

/-- What `sysdvr_log_init` stores; a limit of zero is none. -/
structure LogLimits where
  startUs : UInt64
  maxDurationUs : UInt64
  maxBytes : Nat
deriving Repr, DecidableEq

/-- The time limit is reached. -/
def LogLimits.timeIsUp (limits : LogLimits) (now : UInt64) : Bool :=
  limits.maxDurationUs ≠ 0 && now ≥ limits.startUs && now - limits.startUs ≥ limits.maxDurationUs

/-- The flags of the log, the stream, the file and where the threads stand. -/
structure LogState (ι : Type) where
  limits : LogLimits
  initialized : Bool
  persistent : Bool
  stopped : Bool
  sink : LogSink
  file : List (LogLine ι)
  threads : Threads.Places ι LogPc
  closed : Bool
  called : ι → List CString

variable {ι : Type}

/-- `sysdvr_log_init` up to its first message. The path may be missing, or its `freopen` fail. -/
def logStart (limits : LogLimits) (hasPath opened : Bool) : LogState ι where
  limits := limits
  initialized := true
  persistent := hasPath && opened
  stopped := false
  sink := if hasPath then (if opened then .file else .closed) else .launch
  file := []
  threads := fun _ => .idle
  closed := false
  called := fun _ => []

/-- What the calls of a step answer: the clock, whether `fstat` fails, the time stamp, and whether `freopen`
    succeeds. -/
structure LogAnswer where
  now : UInt64
  statFails : Bool
  stamp : CText 40
  reopens : Bool
deriving DecidableEq

/-- A thread calls `sysdvr_log_printf`, or takes a step in it; other code writes to stderr; main calls
    `sysdvr_log_close` behind the last message. -/
inductive LogEvent (ι : Type) where
  | call (thread : ι) (text : CString)
  | run (thread : ι) (answer : LogAnswer)
  | foreign (bytes : List UInt8)
  | close
deriving DecidableEq

namespace LogState

variable (s : LogState ι)

/-- The bytes of the file. -/
def fileSize : Nat := (s.file.map fun line => line.bytes.length).sum

/-- What is written to stderr. -/
def write (line : LogLine ι) : LogState ι :=
  match s.sink with
  | .file => { s with file := s.file ++ [line] }
  | _ => s

/-- `current_log_size`. -/
def currentLogSize (answer : LogAnswer) : Nat :=
  if answer.statFails then
    0
  else
    match s.sink with
    | .file => s.fileSize
    | _ => 0

/-- The size limit is reached. -/
def sizeIsUp (answer : LogAnswer) : Bool :=
  s.limits.maxBytes ≠ 0 && s.currentLogSize answer ≥ s.limits.maxBytes

variable [DecidableEq ι]

def goTo (t : ι) (pc : LogPc) : LogState ι := { s with threads := Threads.move s.threads t pc }

end LogState

variable [DecidableEq ι]

/-- One step of a thread in `sysdvr_log_printf`. -/
def logThreadStep (s : LogState ι) (t : ι) (answer : LogAnswer) : Option (LogState ι) :=
  match s.threads t with
  | .idle => none
  | .enter text =>
      some (if s.stopped then s.goTo t .idle
        else s.goTo t (if s.initialized then .limit text else .print text))
  -- `limit_reached`
  | .limit text =>
      some (if !s.persistent || s.stopped then s.goTo t (if s.stopped then .idle else .print text)
        else s.goTo t (.clock text))
  | .clock text => some (s.goTo t (if s.limits.timeIsUp answer.now then .disable .time else .size text))
  | .size text => some (s.goTo t (if s.sizeIsUp answer then .disable .size else .print text))
  | .print text => some ((s.write (.message t answer.stamp text)).goTo t .idle)
  -- `disable_persistent_logging`
  | .disable limit => some (s.goTo t (if !s.persistent || s.stopped then .idle else .notice limit))
  | .notice limit => some ((s.write (.notice t answer.stamp limit)).goTo t .reopen)
  | .reopen => some ({ s with sink := if answer.reopens then .devNull else .closed }.goTo t .stop)
  | .stop => some ({ s with stopped := true }.goTo t .idle)

/-- The log; `none` where a thread cannot make the step. -/
def logStep [Fintype ι] (s : LogState ι) : LogEvent ι → Option (LogState ι)
  | .call t text =>
      if s.threads t = .idle ∧ s.closed = false then
        some { s.goTo t (.enter text) with
          called := Function.update s.called t (s.called t ++ [text]) }
      else
        none
  | .run t answer => logThreadStep s t answer
  | .foreign bytes => some (s.write (.foreign bytes))
  -- `sysdvr_log_close`: the other threads have been joined
  | .close =>
      if (∀ t, s.threads t = .idle) ∧ s.closed = false then
        some { s with initialized := false, persistent := false, closed := true }
      else
        none

end SysdvrWebos
