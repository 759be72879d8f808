/-
Module: SysdvrWebos.Spec.DescriptorGrammar
Layer: Spec
Purpose: The text with which a SysDVR console announces itself: a magic, the version of the client, the
  protocol, and possibly more, with pipes between them. Nothing here refers to how the text is cut.
Trusted boundary: none
Main exports: descriptorText, Descriptor, Descriptor.text, Descriptor.Describes
Open obligations: none
-/
import SysdvrWebos.Core.Discovery
import SysdvrWebos.Spec.HandshakeGrammar

namespace SysdvrWebos

/-- The text of a datagram: the bytes up to the first NUL, limited to the first 511. -/
def descriptorText (data : List UInt8) : List UInt8 := (data.takeWhile (· ≠ 0)).take 511

/-- The protocol as it is written in a descriptor. -/
def ProtocolVersion.field (version : ProtocolVersion) : List UInt8 := [0x30, version.digit]

/-- A descriptor: a version without pipes, one of the two protocols, and a remainder that may be missing
    and may have anything in it. -/
structure Descriptor where
  version : List UInt8
  version_free : fieldSeparator ∉ version
  protocol : ProtocolVersion
  remainder : Option (List UInt8)

namespace Descriptor

/-- The remainder with the pipe ahead of it. -/
def tail (d : Descriptor) : List UInt8 :=
  match d.remainder with
  | none => []
  | some rest => fieldSeparator :: rest

/-- `SysDVR|version|protocol` and `|remainder`, if there is one. -/
def text (d : Descriptor) : List UInt8 :=
  [0x53, 0x79, 0x73, 0x44, 0x56, 0x52] ++ fieldSeparator ::
    (d.version ++ fieldSeparator :: (d.protocol.field ++ d.tail))

/-- The record for a descriptor that came from the given address. -/
structure Describes (d : Descriptor) (remote : Ipv4Address) (device : SysdvrDevice) : Prop where
  source : device.source = .sysdvr
  host : device.host.bytes = (inetNtop remote).bytes
  clientVersion : device.clientVersion.bytes = d.version.take 31
  protocol : device.protocol.bytes = d.protocol.field.take 7
  serial : device.serial.bytes = (d.remainder.getD []).take 95

end Descriptor

end SysdvrWebos
