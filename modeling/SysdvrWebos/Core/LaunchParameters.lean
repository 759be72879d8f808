/-
Module: SysdvrWebos.Core.LaunchParameters
Layer: Core
Purpose: The lookup of a launch parameter (webos_main.c, json_string): a search for the quoted key and a scan
  of the string behind it.
Trusted boundary: `key` and `out` are never NULL at the calls; what is left in `out` when the result is false
  is not part of the result
Main exports: copyString, stringBehind, valueBehind, jsonString
Open obligations: none
-/
import SysdvrWebos.Core.Discovery
import SysdvrWebos.Lib.Substring

namespace SysdvrWebos

/-- The loop of `json_string` that copies up to the closing quote, with the number of bytes already copied.
    The end of the list is the terminating NUL. -/
def copyString (outSize : Nat) : (n : Nat) → List UInt8 → Option (List UInt8)
  | _, [] => none
  | n, byte :: rest =>
      if byte = 34 then some []
      else if byte = 92 then
        match rest with
        -- a backslash at the very end is copied as it is, but no closing quote follows
        | [] => none
        | escaped :: rest =>
            if n + 1 ≥ outSize then none else (copyString outSize (n + 1) rest).map (escaped :: ·)
      else if n + 1 ≥ outSize then none
      else (copyString outSize (n + 1) rest).map (byte :: ·)

/-- `json_string` behind the colon: a string. -/
def stringBehind (outSize : Nat) (text : List UInt8) : Option (List UInt8) :=
  match text.dropWhile isSpace with
  | 34 :: text => copyString outSize 0 text
  | _ => none

/-- `json_string` behind the key: a colon and a string. -/
def valueBehind (outSize : Nat) (text : List UInt8) : Option (List UInt8) :=
  match text.dropWhile isSpace with
  | 58 :: text => stringBehind outSize text
  | _ => none

/-- The quoted key. -/
def needleOf (key : CString) : CText 96 :=
  .print 96 {
    bytes := 34 :: key.bytes ++ [34]
    nul_free := by
      have inner := key.nul_free
      simpa using inner }

/-- `json_string`: the text that is in `out` if the result is true. -/
def jsonString (json : Option CString) (key : CString) (outSize : Nat) : Option (List UInt8) :=
  match json with
  | none => none
  | some json =>
      if outSize = 0 then none
      else
        let needle := (needleOf key).bytes
        match strstr needle json.bytes with
        | none => none
        | some found => valueBehind outSize (found.drop needle.length)

end SysdvrWebos
