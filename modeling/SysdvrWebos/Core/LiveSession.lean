/-
Module: SysdvrWebos.Core.LiveSession
Layer: Core
Purpose: A SysDVR session while its sockets fill (src/webos_main.c, run_stream_session). Where
  StreamSession takes all that a socket ever brings as given, here each packet read is brought by an
  arrival of its own, and what unblocks a waiting worker at the end is the `shutdown` of its socket, which
  the main thread makes behind the store to `running` and ahead of the joins.
Trusted boundary: behind its `shutdown` a socket brings nothing more, and reading it does not wait
Main exports: LiveSession, LiveEvent, liveStep
Open obligations: none
-/
import SysdvrWebos.Core.StreamSession

namespace SysdvrWebos

/-- A session with the sockets main has shut down. -/
structure LiveSession where
  session : Session
  videoShut : Bool
  audioShut : Bool
deriving Repr, DecidableEq

/-- What a socket is read to when it is shut down: the end of the stream, or a failure if that comes
    inside a packet. -/
def shutdownRead (insidePacket : Bool) : PacketRead := if insidePacket then .failed else .closed

namespace Session

/-- The reads of one socket are continued. -/
def receive (s : Session) (kind : StreamKind) (more : List PacketRead) : Session :=
  s.setWorker kind { s.worker kind with reads := (s.worker kind).reads ++ more }

end Session

namespace LiveSession

/-- The socket of one kind is shut down. -/
def shut (s : LiveSession) : StreamKind → Bool
  | .video => s.videoShut
  | .audio => s.audioShut

/-- The call of `shutdown` the main thread makes next. -/
def nextShutdown (s : LiveSession) : Option StreamKind :=
  if s.session.main = .joinVideo then
    if !s.videoShut then
      some .video
    else if !s.audioShut then
      some .audio
    else
      none
  else
    none

/-- Shut down a socket. -/
def shutDown (s : LiveSession) (kind : StreamKind) (insidePacket : Bool) : LiveSession :=
  let session := s.session.receive kind [shutdownRead insidePacket]
  match kind with
  | .video => { s with session := session, videoShut := true }
  | .audio => { s with session := session, audioShut := true }

end LiveSession

/-- A step of one of the threads or the stop signal, a call of `shutdown`, or the arrival of what the next
    read of a socket comes back with. -/
inductive LiveEvent where
  | thread (event : SessionEvent)
  | shutdown (kind : StreamKind) (insidePacket : Bool)
  | arrives (kind : StreamKind) (read : PacketRead)
deriving Repr, DecidableEq

/-- The event is a step of the main thread. -/
def SessionEvent.isMain : SessionEvent → Bool
  | .main _ _ => true
  | _ => false

/-- The session as a transition system over sockets that fill. -/
def liveStep (s : LiveSession) : LiveEvent → Option LiveSession
  | .thread event =>
      if event.isMain && s.nextShutdown.isSome then
        none
      else
        (sessionStep s.session event).map fun session => { s with session := session }
  | .shutdown kind insidePacket =>
      if s.nextShutdown = some kind then some (s.shutDown kind insidePacket) else none
  | .arrives kind read =>
      if s.shut kind then none else some { s with session := s.session.receive kind [read] }

/-- A session behind its priming. -/
def liveStart (session : Session) : LiveSession := ⟨session, false, false⟩

end SysdvrWebos
