/-
Module: SysdvrWebos.Proofs.KeyDetection
Layer: Proofs
Purpose: What the Annex-B fallback of the key-frame test finds. The loop looks at every start code with at
  least five bytes from its first byte on, so the one it cannot see is a three-byte start code whose NAL
  header is the last byte of the payload.
Trusted boundary: none (fully proved)
Main exports: IdrAt, ScannedIdr, annexBScan_eq_true_iff, sft_packet_is_key_misses_only_the_last_byte
Open obligations: none
-/
import SysdvrWebos.Core.SftProtocol

namespace SysdvrWebos

/-! ### Start codes -/

/-- The three bytes `0, 0, 1` stand at `i`. -/
def ShortCodeAt (memory : Nat → UInt8) (i : Nat) : Prop :=
  memory i = 0 ∧ memory (i + 1) = 0 ∧ memory (i + 2) = 1

/-- The four bytes `0, 0, 0, 1` stand at `i`. -/
def LongCodeAt (memory : Nat → UInt8) (i : Nat) : Prop := memory i = 0 ∧ ShortCodeAt memory (i + 1)

/-- A start code at `i` is followed by a NAL header byte of type 5, an IDR slice. -/
def IdrAt (memory : Nat → UInt8) (i : Nat) : Prop :=
  memory i = 0 ∧ memory (i + 1) = 0 ∧ memory (i + 2) = 1 ∧ memory (i + 3) &&& 0x1f = 5

/-- An IDR slice that the loop recognizes when its index is `i`: behind either start code. -/
def ScannedIdr (memory : Nat → UInt8) (i : Nat) : Prop :=
  IdrAt memory i ∨ memory i = 0 ∧ IdrAt memory (i + 1)

variable {memory : Nat → UInt8} {size i j : Nat}

/-- What `start_code_len` answers where the loop calls it. -/
inductive StartCode (memory : Nat → UInt8) (i : Nat) : Nat → Prop where
  | short (code : ShortCodeAt memory i) : StartCode memory i 3
  | long (code : LongCodeAt memory i) : StartCode memory i 4
  | absent (noShort : ¬ ShortCodeAt memory i) (noLong : ¬ LongCodeAt memory i) : StartCode memory i 0

theorem readsAs_run (expected : List UInt8) (start : Nat) :
    (Scan.readsAs expected start).run memory
      = decide ((List.range' start expected.length).map memory = expected) := by
  induction expected generalizing start with
  | nil => rfl
  | cons byte rest ih =>
      simp only [Scan.readsAs, Scan.run_cell_bind, Scan.run_ite, ih, Scan.run_pure,
        List.length_cons, List.range'_succ, List.map_cons, List.cons.injEq]
      split
      · next same => simp [same]
      · next other => simp [other]

theorem startCodeLen_spec (room : i + 4 < size) :
    StartCode memory i ((startCodeLen i (size - i)).run memory) := by
  have three : size - i ≥ 3 := by omega
  have four : size - i ≥ 4 := by omega
  have long_iff : LongCodeAt memory i ↔
      memory i = 0 ∧ memory (i + 1) = 0 ∧ memory (i + 2) = 0 ∧ memory (i + 3) = 1 := Iff.rfl
  simp only [startCodeLen, three, four, if_true, Scan.run_bind, readsAs_run, List.length_cons,
    List.length_nil, List.range'_succ, List.range'_zero, List.map_cons, List.map_nil,
    List.cons.injEq, and_true, decide_eq_true_eq, Scan.run_ite, Scan.run_pure]
  split
  · next short => exact .short short
  · next noShort =>
      split
      · next long => exact .long (long_iff.mpr long)
      · next noLong => exact .absent noShort fun long => noLong (long_iff.mp long)

/-! ### The loop -/

theorem scannedIdr_codes (found : ScannedIdr memory i) :
    ShortCodeAt memory i ∨ LongCodeAt memory i := by
  rcases found with ⟨first, second, third, nal⟩ | ⟨zero, first, second, third, nal⟩
  · exact .inl ⟨first, second, third⟩
  · exact .inr ⟨zero, first, second, third⟩

/-- At a three-byte start code the loop decides on the byte behind it. -/
theorem scannedIdr_short (code : ShortCodeAt memory i) :
    ScannedIdr memory i ↔ memory (i + 3) &&& 0x1f = 5 := by
  rcases code with ⟨first, second, third⟩
  constructor
  · intro found
    rcases found with ⟨_, _, _, nal⟩ | ⟨_, _, zero, _, _⟩
    · exact nal
    · rw [third] at zero
      cases zero
  · intro nal
    exact .inl ⟨first, second, third, nal⟩

theorem scannedIdr_long (code : LongCodeAt memory i) :
    ScannedIdr memory i ↔ memory (i + 4) &&& 0x1f = 5 := by
  rcases code with ⟨zero, first, second, third⟩
  constructor
  · intro found
    rcases found with ⟨_, _, one, _⟩ | ⟨_, _, _, _, nal⟩
    · rw [one] at second
      cases second
    · exact nal
  · intro nal
    exact .inr ⟨zero, first, second, third, nal⟩

/-- No start code begins inside one, so the indices the loop jumps over hold nothing it would find. -/
theorem not_scannedIdr_inside_short (code : ShortCodeAt memory i) (after : i < j) (before : j < i + 3) :
    ¬ ScannedIdr memory j := by
  rcases code with ⟨first, second, third⟩
  intro found
  have one : j = i + 1 ∨ j = i + 2 := by omega
  rcases one with rfl | rfl
  · rcases scannedIdr_codes found with ⟨_, zero, _⟩ | ⟨_, zero, _⟩
    · rw [third] at zero
      cases zero
    · rw [third] at zero
      cases zero
  · rcases scannedIdr_codes found with ⟨zero, _⟩ | ⟨zero, _⟩
    · rw [third] at zero
      cases zero
    · rw [third] at zero
      cases zero

theorem not_scannedIdr_inside_long (code : LongCodeAt memory i) (other : memory (i + 4) &&& 0x1f ≠ 5)
    (after : i < j) (before : j < i + 4) : ¬ ScannedIdr memory j := by
  by_cases next : j = i + 1
  · rw [next, scannedIdr_short code.2]
    exact other
  · exact not_scannedIdr_inside_short code.2 (by omega) (by omega)

/-- Leaving out indices that hold nothing the loop would find changes nothing. -/
theorem exists_scanned_skip {next : Nat} (ahead : i ≤ next)
    (nothing : ∀ j, i ≤ j → j < next → ¬ ScannedIdr memory j) :
    (∃ j, i ≤ j ∧ j + 4 < size ∧ ScannedIdr memory j) ↔
      ∃ j, next ≤ j ∧ j + 4 < size ∧ ScannedIdr memory j := by
  constructor
  · rintro ⟨j, from_i, room, found⟩
    by_cases skipped : j < next
    · exact absurd found (nothing j from_i skipped)
    · exact ⟨j, by omega, room, found⟩
  · rintro ⟨j, from_next, room, found⟩
    exact ⟨j, by omega, room, found⟩

/-- The loop from index `i` finds exactly the IDR slices whose start code has four more bytes behind its
    first one. -/
theorem annexBScan_eq_true_iff (turns i : Nat) (enough : size ≤ i + turns) :
    (annexBScan size turns i).run memory = true ↔
      ∃ j, i ≤ j ∧ j + 4 < size ∧ ScannedIdr memory j := by
  induction turns generalizing i with
  | zero =>
      simp only [annexBScan, Scan.run_pure, Bool.false_eq_true, false_iff]
      rintro ⟨j, from_i, room, _⟩
      omega
  | succ turns ih =>
      by_cases room : i + 4 < size
      · rw [annexBScan, if_pos room, Scan.run_bind]
        have spec : StartCode memory i ((startCodeLen i (size - i)).run memory) := startCodeLen_spec room
        generalize (startCodeLen i (size - i)).run memory = startCode at spec ⊢
        cases spec with
        | absent noShort noLong =>
            rw [if_pos (.inl rfl), ih (i + 1) (by omega)]
            refine (exists_scanned_skip (by omega) fun j from_i before found => ?_).symm
            obtain rfl : j = i := by omega
            exact (scannedIdr_codes found).elim noShort noLong
        | short code =>
            rw [if_neg (by omega), Scan.run_cell_bind, Scan.run_ite, Scan.run_pure]
            split
            · next nal => exact ⟨fun _ => ⟨i, le_rfl, room, (scannedIdr_short code).mpr nal⟩, fun _ => rfl⟩
            · next other =>
                rw [ih (i + 3) (by omega)]
                refine (exists_scanned_skip (by omega) fun j from_i before found => ?_).symm
                by_cases here : j = i
                · exact other ((scannedIdr_short code).mp (here ▸ found))
                · exact not_scannedIdr_inside_short code (by omega) before found
        | long code =>
            rw [if_neg (by omega), Scan.run_cell_bind, Scan.run_ite, Scan.run_pure]
            split
            · next nal => exact ⟨fun _ => ⟨i, le_rfl, room, (scannedIdr_long code).mpr nal⟩, fun _ => rfl⟩
            · next other =>
                rw [ih (i + 4) (by omega)]
                refine (exists_scanned_skip (by omega) fun j from_i before found => ?_).symm
                by_cases here : j = i
                · exact other ((scannedIdr_long code).mp (here ▸ found))
                · exact not_scannedIdr_inside_long code other (by omega) before found
      · simp only [annexBScan, room, if_false, Scan.run_pure, Bool.false_eq_true, false_iff]
        rintro ⟨j, from_i, later, _⟩
        omega

/-! ### The key-frame test -/

/-- The payload's only IDR slice has a three-byte start code, no zero byte before it, and its NAL header
    is the payload's last byte. -/
def OnlyIdrEndsPayload (memory : Nat → UInt8) (size : Nat) : Prop :=
  ∃ last, last + 4 = size ∧ IdrAt memory last ∧ (∀ i, i + 1 = last → memory i ≠ 0) ∧
    ∀ i, i < last → ¬ IdrAt memory i

theorem sftPacketIsKey_eq_annexBScan {h : SftPacketHeader} (video : sftPacketIsVideo h = true)
    (noKey : h.hasFlag sftFlagKey = false) (size : Nat) :
    sftPacketIsKey h size = annexBScan size size 0 := by
  simp only [sftPacketIsKey, video, noKey, Bool.not_true, Bool.false_eq_true, if_false]

/-- What the loop finds is there. -/
theorem exists_idrAt_of_scanned (room : j + 4 < size) (found : ScannedIdr memory j) :
    ∃ i, i + 3 < size ∧ IdrAt memory i := by
  rcases found with idr | ⟨_, idr⟩
  · exact ⟨j, by omega, idr⟩
  · exact ⟨j + 1, by omega, idr⟩

/-- What is there and not found ends the payload. -/
theorem onlyIdrEndsPayload_of_missed (bound : i + 3 < size) (idr : IdrAt memory i)
    (missed : ∀ j, j + 4 < size → ¬ ScannedIdr memory j) : OnlyIdrEndsPayload memory size := by
  have last : i + 4 = size := by
    by_contra other
    exact missed i (by omega) (.inl idr)
  refine ⟨i, last, idr, ?_, ?_⟩
  · intro before next zero
    exact missed before (by omega) (.inr ⟨zero, next ▸ idr⟩)
  · intro earlier less found
    exact missed earlier (by omega) (.inl found)

/-- An IDR slice that ends the payload is not found. -/
theorem not_scannedIdr_of_ends (ends : OnlyIdrEndsPayload memory size) (room : j + 4 < size) :
    ¬ ScannedIdr memory j := by
  rcases ends with ⟨last, fits, idr, unpreceded, only⟩
  rintro (found | ⟨zero, found⟩)
  · exact only j (by omega) found
  · by_cases before : j + 1 = last
    · exact unpreceded j before zero
    · exact only (j + 1) (by omega) found

/-- Without the KEY flag the test of a video packet is exact unless the payload's only IDR slice is a
    lone last byte behind an unpreceded three-byte start code. -/
theorem sft_packet_is_key_misses_only_the_last_byte (h : SftPacketHeader)
    (video : sftPacketIsVideo h = true) (noKey : h.hasFlag sftFlagKey = false)
    (memory : Nat → UInt8) (size : Nat) :
    ((sftPacketIsKey h size).run memory = true ↔ ∃ i, i + 3 < size ∧ IdrAt memory i) ↔
      ¬ OnlyIdrEndsPayload memory size := by
  rw [sftPacketIsKey_eq_annexBScan video noKey, annexBScan_eq_true_iff size 0 (by omega)]
  constructor
  · intro exact_test ends
    rcases ends with ⟨last, fits, idr, unpreceded, only⟩
    rcases exact_test.mpr ⟨last, by omega, idr⟩ with ⟨j, _, room, found⟩
    exact not_scannedIdr_of_ends ⟨last, fits, idr, unpreceded, only⟩ room found
  · intro notLast
    constructor
    · rintro ⟨j, _, room, found⟩
      exact exists_idrAt_of_scanned room found
    · rintro ⟨i, bound, idr⟩
      by_contra missed
      apply notLast
      apply onlyIdrEndsPayload_of_missed bound idr
      intro j room found
      exact missed ⟨j, Nat.zero_le j, room, found⟩

/-- The header of a valid video packet without the KEY flag. -/
def keylessVideo (length : UInt32) : SftPacketHeader where
  magic := sftMagic
  version := sftProtocolVersion
  flags := 2
  rawFlags := 2
  width := 16
  height := 16
  consoleAgeUs := 0
  length := length
  blockHeightLog2 := 0
  sequence := 1

/-- A payload that is one three-byte start code and the NAL header byte of an IDR slice. -/
def bareIdr : List UInt8 := [0, 0, 1, 0x65]

theorem idrAt_bareIdr : IdrAt (fun i => bareIdr.getD i 0) 0 := by
  unfold IdrAt
  decide

theorem sft_packet_is_key_misses_only_the_last_byte_applied :
    ((sftPacketIsKey (keylessVideo 4) bareIdr.length).run (fun i => bareIdr.getD i 0) = true ↔
        ∃ i, i + 3 < bareIdr.length ∧ IdrAt (fun i => bareIdr.getD i 0) i) ↔
      ¬ OnlyIdrEndsPayload (fun i => bareIdr.getD i 0) bareIdr.length :=
  sft_packet_is_key_misses_only_the_last_byte (keylessVideo 4) (by decide) (by decide) _ _

/-- The four bytes pass validation and hold an IDR slice that the test does not see. -/
theorem sft_packet_is_key_misses_bareIdr :
    sftValidateHeader (keylessVideo 4) = 0 ∧ sftPacketIsVideo (keylessVideo 4) = true ∧
      (keylessVideo 4).hasFlag sftFlagKey = false ∧
      ¬ ((sftPacketIsKey (keylessVideo 4) bareIdr.length).run (fun i => bareIdr.getD i 0) = true ↔
        ∃ i, i + 3 < bareIdr.length ∧ IdrAt (fun i => bareIdr.getD i 0) i) := by
  have missed :
      (sftPacketIsKey (keylessVideo 4) bareIdr.length).run (fun i => bareIdr.getD i 0) = false := by
    decide
  refine ⟨by decide, by decide, by decide, fun exact_test => ?_⟩
  rw [missed] at exact_test
  cases exact_test.mpr ⟨0, by decide, idrAt_bareIdr⟩

end SysdvrWebos
