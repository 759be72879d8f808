/-
Module: SysdvrWebos.Spec.RecentTvs
Layer: Spec
Purpose: What the saved TVs are for: a most recently used list. The addresses stand in the order of their
  last save, each with the name it was last saved under; a save under the name of a typed-in address keeps
  the name that is stored.
Trusted boundary: none
Main exports: TvSave, tidied, recentAddresses, nameOf, RecentTvs, SaveFits
Open obligations: none
-/
import SysdvrWebos.Core.ProfileStore
import SysdvrWebos.Lib.Recency

namespace SysdvrWebos

/-- A call of `save_profile` for an address that came out of `ipv4`. -/
structure TvSave where
  ip : PyText
  name : PyText
  accepted : ∃ value, ipv4 value = some ip

/-- A name with its white space runs collapsed, cut to 100 characters, and not empty. -/
def tidied (name : PyText) : PyText := orDefault ((PyText.joinWords (PyText.split name)).take 100)

/-- The addresses that are stored, the most recently saved one first. -/
def recentAddresses (saves : List TvSave) : List PyText :=
  (Recency.recent (saves.map TvSave.ip)).take maxProfiles

/-- The name of an address after some saves, the last one first. -/
def nameAfter : List TvSave → PyText → Option PyText
  | [], _ => none
  | save :: before, ip =>
      if save.ip ≠ ip then nameAfter before ip
      -- a typed-in address keeps its name while it is stored
      else if save.name = manualEntry ∧ ip ∈ recentAddresses before.reverse then nameAfter before ip
      else some (tidied save.name)

/-- The name of an address after some saves. -/
def nameOf (saves : List TvSave) (ip : PyText) : Option PyText := nameAfter saves.reverse ip

/-- What is loaded is the list of the most recently saved TVs. A name may have lost the blank that cutting it
    left at its end. -/
structure RecentTvs (saves : List TvSave) (loaded : List Profile × PyText) : Prop where
  addresses : loaded.1.map Profile.ip = recentAddresses saves
  lastUsed : ∀ save ∈ saves.getLast?, loaded.2 = save.ip
  names : ∀ profile ∈ loaded.1, ∃ name, nameOf saves profile.ip = some name ∧
    (profile.name = name ∨ profile.name ++ [' '] = name)

/-! ### The room for a save -/

/-- The bytes a saved TV takes up in the file. -/
def profileBytes (profile : Profile) : Nat :=
  46 + Json.escapedLength profile.ip + Json.escapedLength profile.name

/-- The name that goes into the file: the stored one for a typed-in address, else the given one. -/
def nameToWrite (known : List Profile) (save : TvSave) : PyText :=
  if save.name = manualEntry then
    ((known.find? fun entry => entry.ip = save.ip).map Profile.name).getD manualEntry
  else orDefault save.name

/-- The file stays within the 64 KiB that are read back: the TV that is saved, with the nineteen other ones
    that are kept. -/
def SaveFits (repr : Json → PyText) (files : Files PyText PyText) (save : TvSave) : Prop :=
  let known := (loadProfiles repr files).1
  let others := (known.filter fun entry => entry.ip ≠ save.ip).take (maxProfiles - 1)
  53 + Json.escapedLength save.ip + profileBytes { ip := save.ip, name := nameToWrite known save } +
    (others.map profileBytes).sum ≤ maxProfileBytes

end SysdvrWebos
