/-
Module: SysdvrWebos.Lib.LittleEndian
Layer: Lib
Purpose: Little-endian integers. `value` is what a list of bytes denotes, least significant byte first;
  `le16`, `le32` and `le64` assemble a machine word with shifts and bitwise or, and denote the same
  number.
Trusted boundary: none (fully proved)
Main exports: value, encode, value_encode, le16, le32, le64, le16_toNat, le32_toNat, le64_toNat
Open obligations: none
-/
import Mathlib.Data.Nat.Bitwise
import Mathlib.Tactic.Ring

namespace LittleEndian

/-- The number a list of bytes denotes, least significant byte first. -/
def value : List UInt8 → Nat
  | [] => 0
  | byte :: rest => byte.toNat + 256 * value rest

/-- The least significant bytes of a number, as many as `width`. -/
def encode : (width : Nat) → (n : Nat) → List UInt8
  | 0, _ => []
  | width + 1, n => UInt8.ofNat n :: encode width (n / 256)

@[simp] theorem length_encode (width n : Nat) : (encode width n).length = width := by
  induction width generalizing n with
  | zero => rfl
  | succ width ih => rw [encode, List.length_cons, ih]

/-- A number is what its bytes denote if it fits into them. -/
theorem value_encode {width n : Nat} (fits : n < 256 ^ width) : value (encode width n) = n := by
  induction width generalizing n with
  | zero =>
      rw [Nat.pow_zero, Nat.lt_one_iff] at fits
      rw [fits]
      rfl
  | succ width ih =>
      have rest : n / 256 < 256 ^ width := by
        rw [Nat.div_lt_iff_lt_mul (by decide), ← Nat.pow_succ]
        exact fits
      have low : (UInt8.ofNat n).toNat = n % 256 := UInt8.toNat_ofNat'
      rw [encode, value, ih rest, low, Nat.mod_add_div]

theorem value_append (first second : List UInt8) :
    value (first ++ second) = value first + 256 ^ first.length * value second := by
  induction first with
  | nil => simp [value]
  | cons byte first ih =>
      rw [List.cons_append, value, value, ih, List.length_cons, Nat.pow_succ]
      ring

/-- Two bytes to a 16-bit word. -/
def le16 (b₀ b₁ : UInt8) : UInt16 := b₀.toUInt16 ||| (b₁.toUInt16 <<< 8)

/-- Four bytes to a 32-bit word. -/
def le32 (b₀ b₁ b₂ b₃ : UInt8) : UInt32 :=
  b₀.toUInt32 ||| (b₁.toUInt32 <<< 8) ||| (b₂.toUInt32 <<< 16) ||| (b₃.toUInt32 <<< 24)

/-- A low and a high 32-bit word to a 64-bit word. -/
def le64 (lo hi : UInt32) : UInt64 := lo.toUInt64 ||| (hi.toUInt64 <<< 32)

/-- Or-ing a shifted number onto one that fits below it adds them, if nothing is shifted out. -/
private theorem or_shifted {low high k width : Nat} (below : low < 2 ^ k)
    (fits : 2 ^ k * high < width) : low ||| (high <<< k) % width = low + 2 ^ k * high := by
  rw [Nat.shiftLeft_eq, Nat.mul_comm, Nat.mod_eq_of_lt fits, Nat.lor_comm,
    ← Nat.two_pow_add_eq_or_of_lt below, Nat.add_comm]

theorem le16_toNat (b₀ b₁ : UInt8) : (le16 b₀ b₁).toNat = value [b₀, b₁] := by
  have h₀ := b₀.toNat_lt
  have h₁ := b₁.toNat_lt
  simp only [le16, UInt16.toNat_or, UInt16.toNat_shiftLeft, UInt8.toNat_toUInt16,
    UInt16.toNat_ofNat, Nat.reducePow, Nat.reduceMod, value]
  rw [or_shifted h₀ (by omega)]
  omega

theorem le32_toNat (b₀ b₁ b₂ b₃ : UInt8) :
    (le32 b₀ b₁ b₂ b₃).toNat = value [b₀, b₁, b₂, b₃] := by
  have h₀ := b₀.toNat_lt
  have h₁ := b₁.toNat_lt
  have h₂ := b₂.toNat_lt
  have h₃ := b₃.toNat_lt
  simp only [le32, UInt32.toNat_or, UInt32.toNat_shiftLeft, UInt8.toNat_toUInt32,
    UInt32.toNat_ofNat, Nat.reducePow, Nat.reduceMod, value]
  have second : b₀.toNat ||| (b₁.toNat <<< 8) % 4294967296 = b₀.toNat + 2 ^ 8 * b₁.toNat :=
    or_shifted h₀ (by omega)
  have third : (b₀.toNat + 2 ^ 8 * b₁.toNat) ||| (b₂.toNat <<< 16) % 4294967296
      = b₀.toNat + 2 ^ 8 * b₁.toNat + 2 ^ 16 * b₂.toNat :=
    or_shifted (by omega) (by omega)
  rw [second, third, or_shifted (by omega) (by omega)]
  omega

theorem le64_toNat (lo hi : UInt32) : (le64 lo hi).toNat = lo.toNat + 2 ^ 32 * hi.toNat := by
  have hlo := lo.toNat_lt
  have hhi := hi.toNat_lt
  simp only [le64, UInt64.toNat_or, UInt64.toNat_shiftLeft, UInt32.toNat_toUInt64,
    UInt64.toNat_ofNat, Nat.reducePow, Nat.reduceMod]
  exact or_shifted hlo (by omega)

end LittleEndian
