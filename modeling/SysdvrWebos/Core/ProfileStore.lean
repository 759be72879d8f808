/-
Module: SysdvrWebos.Core.ProfileStore
Layer: Core
Purpose: The saved TVs of the log collector (tools/log-collector/get_sysdvr_log.py, ipv4, load_profiles and
  save_profile). The data directory is a map from names to texts; a file is the text that its bytes decode to.
Trusted boundary: creating, renaming and removing a file succeed, lines end in a single character, and a
  profile file is UTF-8. Python's text of a list or a dictionary is a parameter.
Main exports: Profile, ipv4, loadProfiles, saveProfile
Open obligations: none
-/
import SysdvrWebos.Lib.Files
import SysdvrWebos.Lib.Json

namespace SysdvrWebos

/-! ### Addresses -/

/-- `IPv4Address._parse_octet`. -/
def parseOctet (text : PyText) : Option Nat :=
  if text = [] ∨ ¬ text.all Char.isDigit ∨ text.length > 3 ∨ (text ≠ ['0'] ∧ text.head? = some '0') then
    none
  else
    let octet := Nat.ofDigitChars 10 text 0
    if octet > 255 then none else some octet

/-- `ipaddress.ip_address`, as far as it gives an IPv4 address. -/
def parseIpv4 (text : PyText) : Option (List Nat) :=
  let octets := text.splitOn '.'
  if octets.length ≠ 4 then none else octets.mapM parseOctet

/-- `str(address)`. -/
def ipv4Text (octets : List Nat) : PyText := ['.'].intercalate (octets.map (Nat.toDigits 10))

/-- `address.is_multicast`. -/
def isMulticast (octets : List Nat) : Prop := 224 ≤ octets.headD 0 ∧ octets.headD 0 ≤ 239

/-- `address.is_unspecified`. -/
def isUnspecified (octets : List Nat) : Prop := octets = [0, 0, 0, 0]

instance (octets : List Nat) : Decidable (isMulticast octets) := inferInstanceAs (Decidable (_ ∧ _))

instance (octets : List Nat) : Decidable (isUnspecified octets) := inferInstanceAs (Decidable (_ = _))

/-- `ipv4`; `none` is a `CollectorError`. -/
def ipv4 (value : PyText) : Option PyText := do
  let octets ← parseIpv4 (PyText.strip value)
  if isMulticast octets ∨ isUnspecified octets then none else some (ipv4Text octets)

/-! ### Loading -/

/-- A saved TV. -/
structure Profile where
  ip : PyText
  name : PyText
deriving Repr, DecidableEq

/-- `PROFILES`. -/
def profilesFile : PyText := "tvs.json".toList

/-- The temporary file of `save_profile`. -/
def profilesTemp : PyText := "tvs.json.tmp".toList

/-- The most bytes that `load_profiles` reads. -/
def maxProfileBytes : Nat := 65536

/-- The most TVs that `save_profile` keeps. -/
def maxProfiles : Nat := 20

/-- The name of a TV that has none. -/
def defaultName : PyText := "LG webOS TV".toList

/-- The name of a TV whose address was typed in. -/
def manualEntry : PyText := "Manual IP entry".toList

/-- `name or "LG webOS TV"`. -/
def orDefault (name : PyText) : PyText := if name = [] then defaultName else name

section

variable (repr : Json → PyText)

/-- `str(value)`. -/
def pyStr : Json → PyText
  | .str text => text
  | .null => "None".toList
  | .bool true => "True".toList
  | .bool false => "False".toList
  | .int i => Json.decimal i
  | value => repr value

/-- `value == 1`. -/
def equalsOne : Json → Bool
  | .int i => i = 1
  | .bool b => b
  | _ => false

/-- What a `for` loop over the value goes through; `none` is a `TypeError`. -/
def iterate : Json → Option (List Json)
  | .arr items => some items
  | .obj members => some (members.map fun member => .str member.1)
  | .str text => some (text.map fun c => .str [c])
  | _ => none

/-- The body of the loop of `load_profiles`; `none` is a `continue`. -/
def readProfile : Json → Option Profile
  | .obj item => do
      let address ← ipv4 (pyStr repr ((Json.get? item "ip".toList).getD (.str [])))
      let name := (PyText.joinWords (PyText.split
        (pyStr repr ((Json.get? item "name".toList).getD (.str defaultName))))).take 100
      return { ip := address, name := orDefault name }
  | _ => none

/-- `load_profiles`. -/
def loadProfiles (files : Files PyText PyText) : List Profile × PyText :=
  match files.read profilesFile with
  | none => ([], [])
  | some text =>
      if PyText.utf8Size text > maxProfileBytes then ([], [])
      else
        match Json.loads text with
        | some (.obj saved) =>
            if !((Json.get? saved "version".toList).map equalsOne).getD false then ([], [])
            else
              match iterate ((Json.get? saved "tvs".toList).getD (.arr [])) with
              | none => ([], [])
              | some items =>
                  (items.filterMap (readProfile repr),
                    pyStr repr ((Json.get? saved "last_used".toList).getD (.str [])))
        | _ => ([], [])

/-! ### Saving -/

/-- A saved TV as a document. -/
def Profile.toJson (profile : Profile) : Json :=
  .obj [("ip".toList, .str profile.ip), ("name".toList, .str profile.name)]

/-- The document of `save_profile`. -/
def payload (ip : PyText) (profiles : List Profile) : Json :=
  .obj [("version".toList, .int 1), ("last_used".toList, .str ip),
    ("tvs".toList, .arr (profiles.map Profile.toJson))]

/-- `if old and name == "Manual IP entry": name = old["name"]`. -/
def keepName (old : Option Profile) (name : PyText) : PyText :=
  match old with
  | some old => if name = manualEntry then old.name else name
  | none => name

/-- `save_profile`. -/
def saveProfile (ip name : PyText) (files : Files PyText PyText) : Files PyText PyText :=
  let profiles := (loadProfiles repr files).1
  let old := profiles.find? fun entry => entry.ip = ip
  let profiles := profiles.filter fun entry => entry.ip ≠ ip
  let profiles := { ip := ip, name := orDefault (keepName old name) } :: profiles
  let text := Json.dumps (payload ip (profiles.take maxProfiles)) ++ "\n".toList
  ((files.write profilesTemp text).rename profilesTemp profilesFile).unlink profilesTemp

end

end SysdvrWebos
