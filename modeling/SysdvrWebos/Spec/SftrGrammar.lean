/-
Module: SysdvrWebos.Spec.SftrGrammar
Layer: Spec
Purpose: The SFTR v2 header as a grammar over its 32 bytes: little-endian fields at fixed offsets, the
  packet flags with the INPUT capability bit cleared, and the status, audio and video forms. Nothing here
  refers to how a client parses a header.
Trusted boundary: none
Main exports: RawHeader, wireField, packetFlags, PacketClass, PacketForm, HeaderOf, toggleInput
Open obligations: none
-/
import Mathlib.Algebra.Group.Even
import SysdvrWebos.Lib.LittleEndian

namespace SysdvrWebos

/-- The 32 bytes in front of every packet. -/
abbrev RawHeader := {raw : List UInt8 // raw.length = 32}

/-- The little-endian field of `width` bytes at `offset`. -/
def wireField (raw : List UInt8) (offset width : Nat) : Nat :=
  LittleEndian.value ((raw.drop offset).take width)

/-- The flag field without the INPUT bit `0x80`, which announces a capability of the console. -/
def packetFlags (raw : List UInt8) : Nat := wireField raw 6 2 &&& 0xFF7F

/-- What a packet carries. -/
inductive PacketClass where
  | video
  | audio
  | status
deriving Repr, DecidableEq

/-- Flags and fields of a packet of the given class. A video packet may carry KEY (`0x04`), CROP (`0x20`)
    and CROP_MID (`0x40`) in any combination. -/
def PacketForm (flags width height length : Nat) : PacketClass → Prop
  | .status => flags = 0x18 ∧ 8 ≤ length ∧ length ≤ 4096
  | .audio => flags = 0x08 ∧ width = 48000 ∧ height = 2 ∧ 4 ≤ length ∧ length ≤ 65536 ∧ 4 ∣ length
  | .video =>
      (∃ key crop cropMid : Bool,
        flags = 0x02 + 0x04 * key.toNat + 0x20 * crop.toNat + 0x40 * cropMid.toNat) ∧
      Even width ∧ 16 ≤ width ∧ width ≤ 1920 ∧
      Even height ∧ 16 ≤ height ∧ height ≤ 1088 ∧
      1 ≤ length ∧ length ≤ 8 * 1024 * 1024

/-- The header begins an SFTR v2 packet of the given class; the magic is `SFTR` on the wire. -/
def HeaderOf (raw : List UInt8) (cls : PacketClass) : Prop :=
  wireField raw 0 4 = 0x52544653 ∧ wireField raw 4 2 = 2 ∧
    PacketForm (packetFlags raw) (wireField raw 8 4) (wireField raw 12 4) (wireField raw 20 4) cls

/-- The same header with the INPUT bit inverted. -/
def toggleInput (raw : RawHeader) : RawHeader :=
  ⟨raw.val.modify 6 (· ^^^ 0x80), by rw [List.length_modify, raw.property]⟩

end SysdvrWebos
