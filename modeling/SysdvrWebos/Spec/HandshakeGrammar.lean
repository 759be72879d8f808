/-
Module: SysdvrWebos.Spec.HandshakeGrammar
Layer: Spec
Purpose: The SysDVR handshake as it looks on the wire: a ten-byte hello that names the version, a
  sixteen-byte request that echoes it, and a response whose size depends on it. Nothing here refers to how
  a client reads or writes.
Trusted boundary: none
Main exports: ProtocolVersion, responseSize, handshakeSize, hello, request, AcceptedBy
Open obligations: none
-/
import SysdvrWebos.Core.SysdvrProtocol
import SysdvrWebos.Spec.SftrGrammar

namespace SysdvrWebos

/-- The protocol versions a client of this kind speaks. -/
inductive ProtocolVersion where
  | v02
  | v03
deriving Repr, DecidableEq

namespace ProtocolVersion

/-- The second character of the version. -/
def digit : ProtocolVersion → UInt8
  | .v02 => 0x32
  | .v03 => 0x33

/-- The size of the response. -/
def responseSize : ProtocolVersion → Nat
  | .v02 => 4
  | .v03 => 72

/-- All a peer sends before its first packet. -/
def handshakeSize (version : ProtocolVersion) : Nat := 10 + version.responseSize

/-- The hello, `SysDVR|02` or `SysDVR|03` with its terminator. -/
def hello (version : ProtocolVersion) : List UInt8 :=
  [0x53, 0x79, 0x73, 0x44, 0x56, 0x52, 0x7C, 0x30, version.digit, 0]

/-- The request: a magic, the version of the hello, the stream with its options, the batching, and zeros. -/
def request (version : ProtocolVersion) (kind : StreamKind) (audioBatching : UInt8) : List UInt8 :=
  [0xAA, 0xAA, 0xAA, 0xAA, 0x30, version.digit,
    (match kind with | .video => 1 | .audio => 2), (match kind with | .video => 2 | .audio => 0),
    audioBatching, 0, 0, 0, 0, 0, 0, 0]

/-- The peer says hello in this version and accepts: a complete response follows, and its first word is 6. -/
structure AcceptedBy (version : ProtocolVersion) (stream : List UInt8) : Prop where
  greets : version.hello <+: stream
  whole : version.handshakeSize ≤ stream.length
  accepts : wireField stream 10 4 = 6

end ProtocolVersion

end SysdvrWebos
