/-
Module: SysdvrWebos.Spec.SharedTimeline
Layer: Spec
Purpose: What a SysDVR session should hand to the player, said about the results of the packet reads alone:
  of each socket the media packets up to its end, in order, each at its distance from a time base that both
  sockets share.
Trusted boundary: none
Main exports: untilEnd, deliverable, distanceUs
Open obligations: none
-/
import SysdvrWebos.Core.StreamSession

namespace SysdvrWebos

/-- The packets ahead of the first error packet, end of stream or read failure. -/
def untilEnd : List PacketRead → List MediaPacket
  | .packet header payload :: reads =>
      if header.metadata &&& sysdvrPacketError ≠ 0 then [] else ⟨header, payload⟩ :: untilEnd reads
  | _ => []

/-- The packets a socket has for the player: those of its kind that have content. -/
def deliverable (kind : StreamKind) (reads : List PacketRead) : List MediaPacket :=
  (untilEnd reads).filter fun packet => expectedPacket kind packet.header && packet.payload.length > 0

/-- The distance of a packet from the time base; packets ahead of the base are at it. -/
def distanceUs (baseUs : Nat) (packet : MediaPacket) : Int :=
  max 0 (packet.header.timestampUs.toNat - baseUs)

end SysdvrWebos
