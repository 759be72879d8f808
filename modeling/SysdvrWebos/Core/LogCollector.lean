/-
Module: SysdvrWebos.Core.LogCollector
Layer: Core
Purpose: The download of a log (tools/log-collector/get_sysdvr_log.py, retrieve_log). The remote command is
  seen through what the calls on its channel come back with; the directory of the tool is a map from names
  to bytes. Whatever happens behind the `try`, the temporary file is removed.
Trusted boundary: creating, renaming and removing a file succeed
Main exports: Raised, RemoteLog, logName, downloadLoop, downloadTo, retrieveLog
Open obligations: none
-/
import Mathlib.Data.List.Infix
import SysdvrWebos.Lib.Files
import SysdvrWebos.Lib.PyText

namespace SysdvrWebos

/-- `MAX_LOG`. -/
def maxLog : Nat := 12 * 1024 * 1024

/-- The most one read of the channel asks for. -/
def readSize : Nat := 32768

/-- What a call may raise: a `CollectorError` with its message, or an exception of the connection. -/
inductive Raised where
  | collectorError (message : PyText)
  | connection
deriving Repr, DecidableEq

/-- The remote command: whether `exec_command` comes back, what the reads of its output come back with up to
    the end of the stream, the number of the read that raises, if one does, the exit status, and the error
    text, if the read of it does not raise. -/
structure RemoteLog where
  opens : Bool
  chunks : List (List UInt8)
  chunks_read : ∀ chunk ∈ chunks, chunk ≠ [] ∧ chunk.length ≤ readSize
  failsAt : Option Nat
  exitStatus : Int
  stderr : Option PyText

/-- The bytes of the remote stream. -/
def RemoteLog.bytes (remote : RemoteLog) : List UInt8 := remote.chunks.flatten

/-- The name of the output file. -/
def logName (stamp ip : PyText) : PyText :=
  "sysdvr-webos_".toList ++ stamp ++ "_".toList ++ ip.map (fun c => if c = '.' then '-' else c) ++
    ".log".toList

/-- The name of the temporary file. -/
def partName (name : PyText) : PyText := name ++ ".part".toList

/-- The loop of `retrieve_log` over the reads. -/
def downloadLoop (temp : PyText) : (failsAt : Option Nat) → (chunks : List (List UInt8)) →
    (total : Nat) → Files PyText (List UInt8) → Except Raised Nat × Files PyText (List UInt8)
  | some 0, _, _, files => (.error .connection, files)
  | _, [], total, files => (.ok total, files)
  | failsAt, chunk :: chunks, total, files =>
      if total + chunk.length > maxLog then
        (.error (.collectorError "Log exceeds the 12 MiB safety limit.".toList), files)
      else
        downloadLoop temp (failsAt.map (· - 1)) chunks (total + chunk.length) (files.append temp chunk)

/-- The error for a command that failed. -/
def commandError (code : Int) (error : PyText) : Raised :=
  if code = 44 ∨ "LOG_NOT_FOUND".toList <:+: error then
    .collectorError ("No app log found. Launch SysDVR WebOS, reproduce ".toList ++
      "the issue, then run the collector again.".toList)
  else
    .collectorError ("Remote command failed (exit ".toList ++ (toString code).toList ++ "): ".toList ++
      PyText.strip error)

/-- The body of the `try` of `retrieve_log`. -/
def downloadTo (output temp : PyText) (remote : RemoteLog) (files : Files PyText (List UInt8)) :
    Except Raised PyText × Files PyText (List UInt8) :=
  if !remote.opens then
    (.error .connection, files)
  else
    match downloadLoop temp remote.failsAt remote.chunks 0 (files.write temp []) with
    | (.error raised, files) => (.error raised, files)
    | (.ok total, files) =>
        match remote.stderr with
        | none => (.error .connection, files)
        | some error =>
            if remote.exitStatus ≠ 0 then
              (.error (commandError remote.exitStatus error), files)
            else if total = 0 then
              (.error (.collectorError "The TV returned an empty log.".toList), files)
            else
              (.ok output, files.rename temp output)

/-- `retrieve_log`, with the time stamp it puts into the name. -/
def retrieveLog (stamp ip : PyText) (remote : RemoteLog) (files : Files PyText (List UInt8)) :
    Except Raised PyText × Files PyText (List UInt8) :=
  let output := logName stamp ip
  let temp := partName output
  match downloadTo output temp remote files with
  -- the `finally` clause
  | (result, files) => (result, files.unlink temp)

end SysdvrWebos
