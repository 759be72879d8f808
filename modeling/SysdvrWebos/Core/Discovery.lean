/-
Module: SysdvrWebos.Core.Discovery
Layer: Core
Purpose: The two discovery listeners (src/discovery.c, src/sft_discovery.c): what a datagram has to say to
  count as a console, and what one poll comes back with. A poll is seen through the answer of the socket
  under it.
Trusted boundary: inet_ntop gives the dotted decimal text of an address; strtok_r leaves its cursor behind
  the separator that ended the token
Main exports: Ipv4Address, Datagram, parseDescriptor, parseDescriptorInto, parseBeacon, SocketAnswer,
  PollResult, sysdvrDiscoveryPoll, sftDiscoveryPoll, frametapDeviceToSession, discoveryPoll
Open obligations: none
-/
import Mathlib.Data.List.DropRight
import SysdvrWebos.Core.SessionManager

namespace SysdvrWebos

/-- An IPv4 address, its bytes in network order. -/
structure Ipv4Address where
  a : UInt8
  b : UInt8
  c : UInt8
  d : UInt8
deriving Repr, DecidableEq

/-- A UDP datagram with the address it came from. -/
structure Datagram where
  data : List UInt8
  remote : Ipv4Address
deriving Repr, DecidableEq

/-- A number in decimal digits. -/
def decimalText (n : Nat) : List UInt8 :=
  (Nat.toDigits 10 n).map fun digit => UInt8.ofNat digit.toNat

/-- `inet_ntop(AF_INET, ...)`. -/
def inetNtop (address : Ipv4Address) : CString :=
  CString.ofBytes (List.intercalate [46] ([address.a, address.b, address.c, address.d].map
    fun octet => decimalText octet.toNat))

/-! ### SysDVR descriptors -/

/-- `DISCOVERY_BUFFER_SIZE`. -/
def discoveryBufferSize : Nat := 512

/-- The byte between the fields of a descriptor. -/
def fieldSeparator : UInt8 := 124

/-- `supported_protocol`. -/
def supportedProtocol (protocol : List UInt8) : Bool :=
  protocol = (CString.literal "02").bytes || protocol = (CString.literal "03").bytes

/-- `take_field`: the field and the cursor behind it, which is gone with the last field. -/
def takeField : (cursor : Option (List UInt8)) → Option (List UInt8) × Option (List UInt8)
  | none => (none, none)
  | some [] => (none, some [])
  | some text =>
      match text.dropWhile (· ≠ fieldSeparator) with
      | [] => (some text, none)
      | _ :: rest => (some (text.takeWhile (· ≠ fieldSeparator)), some rest)

/-- The record `parse_descriptor` fills in. -/
def describedDevice (remote : Ipv4Address) (clientVersion protocol : List UInt8)
    (serial : Option (List UInt8)) : SysdvrDevice where
  source := .sysdvr
  host := .print 64 (inetNtop remote)
  clientVersion := .print 32 (.ofBytes clientVersion)
  protocol := .print 8 (.ofBytes protocol)
  serial := match serial with
    | some serial => .print 96 (.ofBytes serial)
    | none => .empty

/-- `parse_descriptor`. -/
def parseDescriptor (data : List UInt8) (remote : Ipv4Address) : Option SysdvrDevice :=
  if data = [] then
    none
  else
    let text := (data.take (discoveryBufferSize - 1)).takeWhile (· ≠ 0)
    let (magic, cursor) := takeField (some text)
    let (clientVersion, cursor) := takeField cursor
    let (protocol, cursor) := takeField cursor
    -- the rest is the serial, separators included
    let serial := cursor.filter (· ≠ [])
    match magic, clientVersion, protocol with
    | some magic, some clientVersion, some protocol =>
        if magic = (CString.literal "SysDVR").bytes && supportedProtocol protocol then
          some (describedDevice remote clientVersion protocol serial)
        else
          none
    | _, _, _ => none

/-- A call of `parse_descriptor`: its return value, and the caller's record behind it. The record is
    cleared and written only behind the last check. -/
def parseDescriptorInto (data : List UInt8) (remote : Ipv4Address) (out : SysdvrDevice) :
    Bool × SysdvrDevice :=
  match parseDescriptor data remote with
  | some device => (true, device)
  | none => (false, out)

/-! ### Frame Tap beacons -/

/-- `sft_device`. -/
structure SftDevice where
  host : CText 64
  port : UInt16
  label : CText 96
deriving DecidableEq

/-- `isspace` in the C locale. -/
def isSpace (byte : UInt8) : Bool := byte = 32 || (9 ≤ byte && byte ≤ 13)

/-- `isdigit`. -/
def isDigit (byte : UInt8) : Bool := 48 ≤ byte && byte ≤ 57

/-- The value of a run of decimal digits. -/
def digitsValue (digits : List UInt8) : Nat :=
  digits.foldl (fun value digit => value * 10 + (digit.toNat - 48)) 0

/-- `parse_port`, with `strtol` over unbounded integers: what it cannot represent it clamps to a value
    that is out of range as well. -/
def parsePort (text : List UInt8) : Option UInt16 :=
  let number := text.dropWhile isSpace
  let (negative, number) := match number with
    | 45 :: digits => (true, digits)
    | 43 :: digits => (false, digits)
    | digits => (false, digits)
  let digits := number.takeWhile isDigit
  let value := digitsValue digits
  if digits = [] ∨ number.dropWhile isDigit ≠ [] ∨ negative ∨ value = 0 ∨ value > 65535 then
    none
  else
    some (UInt16.ofNat value)

/-- The separators of a beacon: blank, tab, carriage return and line feed. -/
def isBeaconSeparator (byte : UInt8) : Bool := byte = 32 || byte = 9 || byte = 13 || byte = 10

/-- `strtok_r` with the beacon separators: the token and the cursor behind it. -/
def strtok (cursor : List UInt8) : Option (List UInt8) × List UInt8 :=
  match cursor.dropWhile isBeaconSeparator with
  | [] => (none, [])
  | start =>
      (some (start.takeWhile (!isBeaconSeparator ·)),
        (start.dropWhile (!isBeaconSeparator ·)).drop 1)

/-- The label without the line end it may carry. -/
def trimLineEnd (label : CText 96) : CText 96 where
  bytes := label.bytes.rdropWhile fun byte => byte = 13 || byte = 10
  nul_free := fun member => label.nul_free ((List.rdropWhile_prefix _ label.bytes).subset member)
  fits := Nat.lt_of_le_of_lt (List.rdropWhile_prefix _ label.bytes).length_le label.fits

/-- The label of a console that announces none. -/
def defaultLabel : CString := CString.literal "Switch Frame Tap"

/-- The label out of what follows the port. -/
def beaconLabel (rest : List UInt8) : CText 96 :=
  let name := rest.dropWhile fun byte => byte = 32 || byte = 9
  let label := trimLineEnd (.print 96 (if name = [] then defaultLabel else .ofBytes name))
  if label.bytes = [] then .print 96 defaultLabel else label

/-- `parse_beacon`. The announced address is only required to be there. -/
def parseBeacon (message : CString) (remote : Ipv4Address) : Option SftDevice :=
  let copy := message.bytes.take 255
  let (magic, cursor) := strtok copy
  let (announcedIp, cursor) := strtok cursor
  let (portText, cursor) := strtok cursor
  match magic, announcedIp, portText with
  | some magic, some _, some portText =>
      if magic = (CString.literal "SFTAP1").bytes then
        match parsePort portText with
        | some port => some ⟨.print 64 (inetNtop remote), port, beaconLabel cursor⟩
        | none => none
      else
        none
  | _, _, _ => none

/-! ### Polls -/

/-- What the socket under a poll answers: nothing to read (a timeout, an interrupted call, or a datagram
    that is gone again), an error, or a datagram. -/
inductive SocketAnswer where
  | nothing
  | failed
  | received (datagram : Datagram)
deriving Repr, DecidableEq

/-- What a poll returns: 0, -1, or 1 with the device it has filled in. -/
inductive PollResult (α : Type) where
  | idle
  | failed
  | found (device : α)
deriving DecidableEq

def PollResult.map {α β : Type} (f : α → β) : PollResult α → PollResult β
  | .idle => .idle
  | .failed => .failed
  | .found device => .found (f device)

/-- The result of a poll whose datagram was parsed; one that is no announcement counts as nothing read. -/
def PollResult.ofParsed {α : Type} : Option α → PollResult α
  | some device => .found device
  | none => .idle

/-- `sysdvr_discovery_poll` on an open scanner. -/
def sysdvrDiscoveryPoll : SocketAnswer → PollResult SysdvrDevice
  | .nothing => .idle
  | .failed => .failed
  | .received datagram =>
      .ofParsed (parseDescriptor (datagram.data.take discoveryBufferSize) datagram.remote)

/-- `sft_discovery_poll` on an open scanner. -/
def sftDiscoveryPoll : SocketAnswer → PollResult SftDevice
  | .nothing => .idle
  | .failed => .failed
  | .received datagram =>
      .ofParsed (parseBeacon (.ofBytes (datagram.data.take 255)) datagram.remote)

/-- `frametap_device_to_session`. -/
def frametapDeviceToSession (source : SftDevice) : SysdvrDevice where
  source := .frametap
  host := .print 64 source.host.toCString
  clientVersion := .print 32 (CString.literal "Frame Tap")
  protocol := .print 8 (CString.literal "SFTR2")
  serial := .empty

/-- A poll of the listener of `source`, with a Frame Tap console turned into a session device as both
    callers do. -/
def discoveryPoll (source : StreamSource) (answer : SocketAnswer) : PollResult SysdvrDevice :=
  match source with
  | .sysdvr => sysdvrDiscoveryPoll answer
  | .frametap => (sftDiscoveryPoll answer).map frametapDeviceToSession

end SysdvrWebos
