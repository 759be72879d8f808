/-
Module: SysdvrWebos.Core.SftProtocol
Layer: Core
Purpose: The SFTR v2 packet header of Switch Frame Tap and what is read off a packet: parsing and
  validating the 32 header bytes, the three packet classes, and the key-frame test with its Annex-B scan
  (src/sft_protocol.c, include/sft/protocol.h). Arguments the callers never pass as NULL are not options.
Trusted boundary: none
Main exports: SftPacketHeader, sftParseHeader, sftPacketIsStatus, sftPacketIsAudio, sftPacketIsVideo,
  sftValidateHeader, sftPacketIsKey
Open obligations: none
-/
import SysdvrWebos.Lib.LittleEndian
import SysdvrWebos.Lib.Scan

namespace SysdvrWebos

/-- `SFT_MAGIC`, the bytes `SFTR` on the wire. -/
def sftMagic : UInt32 := 0x52544653
/-- `SFT_PROTOCOL_VERSION`. -/
def sftProtocolVersion : UInt16 := 2
/-- `SFT_HEADER_SIZE`. -/
def sftHeaderSize : Nat := 32
/-- `SFT_MAX_VIDEO`. -/
def sftMaxVideo : UInt32 := 8 * 1024 * 1024
/-- `SFT_MAX_AUDIO`. -/
def sftMaxAudio : UInt32 := 65536
/-- `SFT_MAX_STATUS`. -/
def sftMaxStatus : UInt32 := 4096
/-- `SFT_MAX_PAYLOAD`. -/
def sftMaxPayload : Nat := sftMaxVideo.toNat

/-! The `SFT_FLAG_*` constants. They are `unsigned`, so a 16-bit flag field is widened before it is
masked. -/

def sftFlagVideo : UInt32 := 0x02
def sftFlagKey : UInt32 := 0x04
def sftFlagAudio : UInt32 := 0x08
def sftFlagStatus : UInt32 := 0x10
def sftFlagCrop : UInt32 := 0x20
def sftFlagCropMid : UInt32 := 0x40
def sftFlagInput : UInt32 := 0x80

/-- `sft_packet_header`. `rawFlags` is the wire field, `flags` the same without the INPUT bit. -/
structure SftPacketHeader where
  magic : UInt32
  version : UInt16
  flags : UInt16
  rawFlags : UInt16
  width : UInt32
  height : UInt32
  consoleAgeUs : UInt32
  length : UInt32
  blockHeightLog2 : UInt32
  sequence : UInt32
deriving Repr, DecidableEq

/-- `le16(raw + offset)`. -/
def le16At (raw : List UInt8) (offset : Nat) : UInt16 :=
  LittleEndian.le16 (raw.getD offset 0) (raw.getD (offset + 1) 0)

/-- `le32(raw + offset)`. -/
def le32At (raw : List UInt8) (offset : Nat) : UInt32 :=
  LittleEndian.le32 (raw.getD offset 0) (raw.getD (offset + 1) 0) (raw.getD (offset + 2) 0)
    (raw.getD (offset + 3) 0)

/-- `sft_parse_header` on the 32 bytes of a header. -/
def sftParseHeader (raw : List UInt8) : SftPacketHeader where
  magic := le32At raw 0
  version := le16At raw 4
  rawFlags := le16At raw 6
  flags := le16At raw 6 &&& ~~~sftFlagInput.toUInt16
  width := le32At raw 8
  height := le32At raw 12
  consoleAgeUs := le32At raw 16
  length := le32At raw 20
  blockHeightLog2 := le32At raw 24
  sequence := le32At raw 28

namespace SftPacketHeader

/-- Some bit of the mask is set in the flags. -/
def hasFlag (h : SftPacketHeader) (mask : UInt32) : Bool := h.flags.toUInt32 &&& mask ≠ 0

end SftPacketHeader

/-- `sft_packet_is_status`. -/
def sftPacketIsStatus (h : SftPacketHeader) : Bool := h.hasFlag sftFlagStatus

/-- `sft_packet_is_audio`. -/
def sftPacketIsAudio (h : SftPacketHeader) : Bool :=
  h.hasFlag sftFlagAudio && !h.hasFlag sftFlagStatus

/-- `sft_packet_is_video`. -/
def sftPacketIsVideo (h : SftPacketHeader) : Bool :=
  h.hasFlag sftFlagVideo && !h.hasFlag (sftFlagAudio ||| sftFlagStatus)

/-- `sft_validate_header`: `0` on success. -/
def sftValidateHeader (h : SftPacketHeader) : Int :=
  if h.magic ≠ sftMagic ∨ h.version ≠ sftProtocolVersion then
    -1
  else if h.hasFlag (~~~(sftFlagVideo ||| sftFlagKey ||| sftFlagAudio ||| sftFlagStatus |||
      sftFlagCrop ||| sftFlagCropMid)) then
    -1
  else if sftPacketIsStatus h then
    if h.flags.toUInt32 ≠ (sftFlagAudio ||| sftFlagStatus) ∨
        h.length < 8 ∨ h.length > sftMaxStatus then
      -1
    else
      0
  else if sftPacketIsAudio h then
    if h.flags.toUInt32 ≠ sftFlagAudio ∨ h.width ≠ 48000 ∨ h.height ≠ 2 ∨
        h.length = 0 ∨ h.length > sftMaxAudio ∨ h.length % 4 ≠ 0 then
      -1
    else
      0
  else if sftPacketIsVideo h then
    if h.hasFlag (~~~(sftFlagVideo ||| sftFlagKey ||| sftFlagCrop ||| sftFlagCropMid)) then
      -1
    else if h.width < 16 ∨ h.width > 1920 ∨ h.height < 16 ∨ h.height > 1088 ∨
        h.width &&& 1 ≠ 0 ∨ h.height &&& 1 ≠ 0 ∨ h.length = 0 ∨ h.length > sftMaxVideo then
      -1
    else
      0
  else
    -1

/-- `start_code_len(payload + at, remaining)`: the length of the Annex-B start code at `start`, or `0`.
    The comparisons stop at the first byte that differs. -/
def startCodeLen (start remaining : Nat) : Scan UInt8 Nat := do
  let short ← (if remaining ≥ 3 then Scan.readsAs [0, 0, 1] start else pure false)
  if short then
    pure 3
  else
    let long ← (if remaining ≥ 4 then Scan.readsAs [0, 0, 0, 1] start else pure false)
    pure (if long then 4 else 0)

/-- The loop of `sft_packet_is_key` from index `i` on. Every turn advances `i`, so `size` turns are
    enough. -/
def annexBScan (size : Nat) : (turns : Nat) → (i : Nat) → Scan UInt8 Bool
  | 0, _ => pure false
  | turns + 1, i =>
      if i + 4 < size then do
        let startCode ← startCodeLen i (size - i)
        if startCode = 0 ∨ i + startCode ≥ size then
          annexBScan size turns (i + 1)
        else
          let nal ← Scan.cell (i + startCode)
          if nal &&& 0x1f = 5 then pure true else annexBScan size turns (i + startCode)
      else
        pure false

/-- `sft_packet_is_key`. -/
def sftPacketIsKey (h : SftPacketHeader) (size : Nat) : Scan UInt8 Bool :=
  if !sftPacketIsVideo h then
    pure false
  else if h.hasFlag sftFlagKey then
    pure true
  else
    annexBScan size size 0

end SysdvrWebos
