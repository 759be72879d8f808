/-
Module: SysdvrWebos.Lib.CText
Layer: Lib
Purpose: NUL-terminated text, unbounded (`CString`, what a `const char *` points to) and held in a
  character array of fixed size (`CText n`, the array `char[n]`). Both carry the absence of an inner NUL,
  and `CText` the room for its terminator, so that equality of the bytes is what `strcmp` decides and
  printing one text into an array of the same size loses nothing.
Trusted boundary: none (fully proved)
Main exports: CString, CString.ofBytes, CString.literal, CString.join, CText, CText.print, CText.print_toCString
Open obligations: none
-/
import Mathlib.Algebra.Ring.Nat
import Mathlib.Data.List.TakeWhile

/-- The text a `const char *` points to: the bytes before its terminating NUL. -/
structure CString where
  bytes : List UInt8
  nul_free : 0 ∉ bytes
deriving DecidableEq

namespace CString

/-- The text in a zero-terminated array that begins with the given bytes: it ends at the first NUL. -/
def ofBytes (bytes : List UInt8) : CString where
  bytes := bytes.takeWhile (· ≠ 0)
  nul_free := fun member => by simpa using List.mem_takeWhile_imp member

/-- A string literal of the source. -/
def literal (text : String) : CString := ofBytes (text.toList.map fun c => UInt8.ofNat c.toNat)

/-- Texts one behind the other. -/
def join (parts : List CString) : CString where
  bytes := parts.flatMap bytes
  nul_free := by
    intro member
    obtain ⟨part, _, inside⟩ := List.mem_flatMap.mp member
    exact part.nul_free inside

@[simp] theorem join_bytes (parts : List CString) : (join parts).bytes = parts.flatMap bytes := rfl

end CString

/-- The text held by a `char[capacity]` array. The terminator needs one of the cells. -/
structure CText (capacity : Nat) where
  bytes : List UInt8
  nul_free : 0 ∉ bytes
  fits : bytes.length < capacity
deriving DecidableEq

namespace CText

variable {capacity : Nat}

@[ext] theorem ext {first second : CText capacity} (same : first.bytes = second.bytes) :
    first = second := by
  cases first
  cases second
  cases same
  rfl

/-- An array filled with zeroes holds the empty text. -/
def empty [NeZero capacity] : CText capacity where
  bytes := []
  nul_free := by simp
  fits := Nat.pos_of_neZero capacity

@[simp] theorem empty_bytes [NeZero capacity] : (empty : CText capacity).bytes = [] := rfl

instance [NeZero capacity] : Inhabited (CText capacity) := ⟨empty⟩

/-- The text as a pointer to it sees it. -/
def toCString (text : CText capacity) : CString := ⟨text.bytes, text.nul_free⟩

@[simp] theorem toCString_bytes (text : CText capacity) : text.toCString.bytes = text.bytes := rfl

/-! The sizes that texts are printed to. -/

instance neZero_8 : NeZero 8 := ⟨by decide⟩

instance neZero_32 : NeZero 32 := ⟨by decide⟩

instance neZero_64 : NeZero 64 := ⟨by decide⟩

instance neZero_96 : NeZero 96 := ⟨by decide⟩

instance neZero_128 : NeZero 128 := ⟨by decide⟩

instance neZero_320 : NeZero 320 := ⟨by decide⟩

instance neZero_512 : NeZero 512 := ⟨by decide⟩

/-- `snprintf(array, sizeof(array), "%s", text)`: what fits before the terminator is kept. -/
def print (capacity : Nat) [NeZero capacity] (text : CString) : CText capacity where
  bytes := text.bytes.take (capacity - 1)
  nul_free := fun member => text.nul_free (List.mem_of_mem_take member)
  fits := by
    have positive : 0 < capacity := Nat.pos_of_neZero capacity
    have short : (text.bytes.take (capacity - 1)).length ≤ capacity - 1 := List.length_take_le _ _
    omega

@[simp] theorem print_bytes [NeZero capacity] (text : CString) :
    (print capacity text).bytes = text.bytes.take (capacity - 1) := rfl

/-- Printing the text of an array into an array of the same size copies it. -/
@[simp] theorem print_toCString [NeZero capacity] (text : CText capacity) :
    print capacity text.toCString = text := by
  have fits := text.fits
  apply CText.ext
  rw [print_bytes, toCString_bytes]
  exact List.take_of_length_le (by omega)

end CText
