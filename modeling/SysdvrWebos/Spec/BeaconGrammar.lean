/-
Module: SysdvrWebos.Spec.BeaconGrammar
Layer: Spec
Purpose: The text with which a Switch Frame Tap announces itself: a magic, an address and a port as tokens
  with separators between them, and possibly a label behind the port. Nothing here refers to how the text
  is cut.
Trusted boundary: none
Main exports: BeaconToken, BeaconGap, StrtolConsumes, Beacon, Beacon.text, Beacon.label,
  Beacon.Describes, Beacon.withAddress
Open obligations: none
-/
import Mathlib.Data.Nat.Digits.Defs
import SysdvrWebos.Core.Discovery

namespace SysdvrWebos

/-- A token: some bytes, none of them a separator. -/
structure BeaconToken where
  bytes : List UInt8
  some_ : bytes ≠ []
  free : ∀ byte ∈ bytes, isBeaconSeparator byte = false

/-- What stands between two tokens: some separators. -/
structure BeaconGap where
  bytes : List UInt8
  some_ : bytes ≠ []
  separators : ∀ byte ∈ bytes, isBeaconSeparator byte = true

/-- The sign `strtol` reads ahead of the digits. -/
inductive Sign where
  | none
  | plus
  | minus
deriving Repr, DecidableEq

namespace Sign

def text : Sign → List UInt8
  | .none => []
  | .plus => [43]
  | .minus => [45]

def apply : Sign → Nat → Int
  | .none, magnitude => magnitude
  | .plus, magnitude => magnitude
  | .minus, magnitude => -magnitude

end Sign

/-- `strtol` in base 10 consumes the whole text, with the given value: white space, a sign, and digits. -/
def StrtolConsumes (text : List UInt8) (value : Int) : Prop :=
  ∃ (blanks : List UInt8) (sign : Sign) (digits : List UInt8),
    text = blanks ++ (sign.text ++ digits) ∧ (∀ byte ∈ blanks, isSpace byte = true) ∧
      digits ≠ [] ∧ (∀ byte ∈ digits, isDigit byte = true) ∧
      value = sign.apply (Nat.ofDigits 10 (digits.map fun digit => digit.toNat - 48).reverse)

/-- A beacon: three tokens, the first of them the magic and the third a port; behind the port a separator
    and anything. -/
structure Beacon where
  lead : List UInt8
  lead_separators : ∀ byte ∈ lead, isBeaconSeparator byte = true
  gap : BeaconGap
  address : BeaconToken
  secondGap : BeaconGap
  portToken : BeaconToken
  port : Nat
  port_consumed : StrtolConsumes portToken.bytes port
  port_range : 1 ≤ port ∧ port ≤ 65535
  behind : Option (UInt8 × List UInt8)
  behind_separator : ∀ rest ∈ behind, isBeaconSeparator rest.1 = true

namespace Beacon

/-- What follows the port. -/
def tail (b : Beacon) : List UInt8 :=
  match b.behind with
  | none => []
  | some (separator, rest) => separator :: rest

def text (b : Beacon) : List UInt8 :=
  b.lead ++ ([0x53, 0x46, 0x54, 0x41, 0x50, 0x31] ++ (b.gap.bytes ++ (b.address.bytes ++
    (b.secondGap.bytes ++ (b.portToken.bytes ++ b.tail)))))

/-- The label: what follows the one separator behind the port, without leading blanks and tabs, cut to 95
    bytes, and without the line ends behind it. -/
def label (b : Beacon) : List UInt8 :=
  (((b.tail.drop 1).dropWhile fun byte => byte = 32 || byte = 9).take 95).rdropWhile fun byte =>
    byte = 13 || byte = 10

/-- The record for a beacon that came from the given address. -/
structure Describes (b : Beacon) (remote : Ipv4Address) (device : SftDevice) : Prop where
  host : device.host.bytes = (inetNtop remote).bytes
  port : device.port.toNat = b.port
  label : device.label.bytes
    = if b.label = [] then (CString.literal "Switch Frame Tap").bytes else b.label

/-- The beacon with another second token. -/
def withAddress (b : Beacon) (address : BeaconToken) : Beacon := { b with address := address }

end Beacon

end SysdvrWebos
