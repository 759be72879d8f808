/-
Module: SysdvrWebos.Proofs.ParameterLookup
Layer: Proofs
Purpose: What `json_string` makes of a JSON object of strings. The quoted key can only end at a closing quote
  or begin at one, so the search is followed token by token; behind the place where it ends, the scan reads
  the next string without its backslashes. Whether this is the value of the parameter depends on the place.
Trusted boundary: none (fully proved)
Main exports: Place.answer, jsonString_eq_answer, spelled_eq_decoded_iff, lookup_agrees_iff,
  value_named_like_the_key_hides_it
Open obligations: none
-/
import Mathlib.Data.List.Nodup
import SysdvrWebos.Lib.Spans
import SysdvrWebos.Spec.ParameterGrammar

namespace SysdvrWebos

variable {key rest before behind gap closing : List UInt8} {items : List StringItem} {outSize n : Nat}

/-! ### Strings in the text -/

@[simp] theorem rawText_nil : rawText [] = [] := rfl

@[simp] theorem rawText_cons (item : StringItem) (items : List StringItem) :
    rawText (item :: items) = item.text ++ rawText items := rfl

@[simp] theorem spelledText_nil : spelledText [] = [] := rfl

@[simp] theorem spelledText_cons (item : StringItem) (items : List StringItem) :
    spelledText (item :: items) = item.spelled ++ spelledText items := rfl

theorem plainByte_ne (byte : PlainByte) : byte.val ≠ 34 ∧ byte.val ≠ 92 := byte.property.2

theorem hexDigit_ne (digit : HexDigit) : digit.val ≠ 34 ∧ digit.val ≠ 92 := by
  constructor
  all_goals
    intro same
    have range := digit.property
    rw [same] at range
    revert range
    decide

/-- A quote inside a string comes after a backslash. -/
theorem backslash_before_quote (split : rawText items = before ++ 34 :: behind) : 92 ∈ before := by
  induction items generalizing before with
  | nil => simp at split
  | cons item items ih =>
      cases before with
      | nil =>
          cases item with
          | plain byte => exact absurd (List.cons.inj split).1 (plainByte_ne byte).1
          | short escape => exact absurd (List.cons.inj split).1 (by decide)
          | unicode a b c d => exact absurd (List.cons.inj split).1 (by decide)
      | cons byte before =>
          rw [List.cons_append] at split
          cases item with
          | plain _ => exact List.mem_cons_of_mem _ (ih (List.cons.inj split).2)
          | short escape => exact List.mem_cons.mpr (.inl (List.cons.inj split).1)
          | unicode a b c d => exact List.mem_cons.mpr (.inl (List.cons.inj split).1)

/-- Where no backslash stands ahead, there is no quote. -/
theorem ne_quote_of_split {byte : UInt8} (split : rawText items = before ++ byte :: behind)
    (free : 92 ∉ before) : byte ≠ 34 := by
  intro quote
  rw [quote] at split
  exact free (backslash_before_quote split)

/-- The closing quote is the first one of a string without escapes. -/
theorem prefix_rawText_iff (keyQuote : 34 ∉ key) (keyBackslash : 92 ∉ key) :
    key ++ [34] <+: rawText items ++ 34 :: rest ↔ rawText items = key := by
  by_cases escaped : 34 ∈ rawText items
  · rcases List.eq_append_cons_of_mem escaped with ⟨before, behind, split, first⟩
    have backslash := backslash_before_quote split
    rw [split, List.append_assoc, List.cons_append, prefix_stop_iff keyQuote first]
    constructor
    · intro same
      exact absurd (same ▸ backslash) keyBackslash
    · intro same
      exact absurd (same ▸ List.mem_append_right _ List.mem_cons_self) keyQuote
  · exact prefix_stop_iff keyQuote escaped rest

/-! ### The search -/

/-- The quoted key. -/
abbrev quotedKey (key : List UInt8) : List UInt8 := 34 :: (key ++ [34])

theorem strstr_here (rest : List UInt8) :
    strstr (quotedKey key) (34 :: (key ++ 34 :: rest)) = some (34 :: (key ++ 34 :: rest)) := by
  have found : strstr (quotedKey key) (34 :: (key ++ [34] ++ rest)) = _ := strstr_of_prefix rest
  rw [List.append_assoc, List.singleton_append] at found
  exact found

theorem strstr_not_here (absent : ¬ key ++ [34] <+: rest) :
    strstr (quotedKey key) (34 :: rest) = strstr (quotedKey key) rest :=
  strstr_of_not_prefix fun isPrefix => absent (List.cons_prefix_cons.mp isPrefix).2

theorem not_quote_mem_plain (byte : PlainByte) : 34 ∉ (StringItem.plain byte).text := by
  simpa [StringItem.text] using (plainByte_ne byte).1.symm

theorem not_quote_mem_unicode (a b c d : HexDigit) : 34 ∉ (StringItem.unicode a b c d).text := by
  simp [StringItem.text, (hexDigit_ne _).1.symm]

/-- The search at a quote, given what it does behind it. -/
theorem strstr_quote (keyQuote : 34 ∉ key) (keyBackslash : 92 ∉ key) (rest : List UInt8)
    (behind : strstr (quotedKey key) (rawText items ++ 34 :: rest) =
      if 34 :: key <:+ rawText items then some (34 :: (key ++ 34 :: rest))
      else strstr (quotedKey key) (34 :: rest)) :
    strstr (quotedKey key) (34 :: (rawText items ++ 34 :: rest)) =
      if EndsWith key items then some (34 :: (key ++ 34 :: rest)) else strstr (quotedKey key) (34 :: rest) := by
  by_cases whole : rawText items = key
  · rw [if_pos (.inl whole), whole, strstr_here]
  · have suffix_iff : EndsWith key items ↔ 34 :: key <:+ rawText items := or_iff_right whole
    rw [strstr_not_here (mt (prefix_rawText_iff keyQuote keyBackslash).mp whole), behind]
    simp only [suffix_iff]

/-- The search in a string, from its first item on. -/
theorem strstr_rawText (keyQuote : 34 ∉ key) (keyBackslash : 92 ∉ key) (rest : List UInt8) :
    strstr (quotedKey key) (rawText items ++ 34 :: rest) =
      if 34 :: key <:+ rawText items then some (34 :: (key ++ 34 :: rest))
      else strstr (quotedKey key) (34 :: rest) := by
  induction items with
  | nil =>
      have none_ : ¬ 34 :: key <:+ rawText [] := fun suffix => nomatch List.suffix_nil.mp suffix
      rw [if_neg none_]
      rfl
  | cons item items ih =>
      -- only the escape of a quote has a quote in it
      have skipped : 34 ∉ item.text → strstr (quotedKey key) (rawText (item :: items) ++ 34 :: rest) =
          if 34 :: key <:+ rawText (item :: items) then some (34 :: (key ++ 34 :: rest))
          else strstr (quotedKey key) (34 :: rest) := by
        intro noQuote
        have suffix_iff : 34 :: key <:+ rawText (item :: items) ↔ 34 :: key <:+ rawText items :=
          suffix_skip_all noQuote _
        rw [rawText_cons, List.append_assoc, strstr_skip_all noQuote, ih, ← rawText_cons]
        simp only [suffix_iff]
      cases item with
      | plain byte => exact skipped (not_quote_mem_plain byte)
      | unicode a b c d => exact skipped (not_quote_mem_unicode a b c d)
      | short escape =>
          by_cases quote : escape = .quote
          · have suffix_iff : 34 :: key <:+ rawText (.short escape :: items) ↔ EndsWith key items := by
              rw [quote, EndsWith, eq_comm]
              simp [StringItem.text, ShortEscape.letter, List.suffix_cons_iff]
            have step := strstr_quote keyQuote keyBackslash rest ih
            simp only [suffix_iff]
            rw [← step, quote]
            exact strstr_skip (by decide) _
          · have letter : escape.letter ≠ 34 := by
              cases escape
              case quote => exact absurd rfl quote
              all_goals decide
            exact skipped (by simp [StringItem.text, letter.symm])

/-- The search in a string, from its opening quote on. -/
theorem strstr_string (keyQuote : 34 ∉ key) (keyBackslash : 92 ∉ key) (rest : List UInt8) :
    strstr (quotedKey key) (34 :: (rawText items ++ 34 :: rest)) =
      if EndsWith key items then some (34 :: (key ++ 34 :: rest)) else strstr (quotedKey key) (34 :: rest) :=
  strstr_quote keyQuote keyBackslash rest (strstr_rawText keyQuote keyBackslash rest)

/-- The search from a closing quote to the next opening one. -/
theorem strstr_gap (keyQuote : 34 ∉ key) (gapQuote : 34 ∉ gap) (rest : List UInt8) :
    strstr (quotedKey key) (34 :: (gap ++ 34 :: rest)) =
      if gap = key then some (34 :: (key ++ 34 :: rest)) else strstr (quotedKey key) (34 :: rest) := by
  by_cases whole : gap = key
  · rw [if_pos whole, whole, strstr_here]
  · rw [if_neg whole, strstr_not_here (mt (prefix_stop_iff keyQuote gapQuote rest).mp whole)]
    exact strstr_skip_all gapQuote _

/-- The search from the last closing quote on. -/
theorem strstr_closing (closingQuote : 34 ∉ closing) : strstr (quotedKey key) (34 :: closing) = none := by
  have absent : ¬ key ++ [34] <+: closing := by
    intro isPrefix
    exact closingQuote (isPrefix.subset (List.mem_append_right _ List.mem_cons_self))
  rw [strstr_not_here absent]
  exact strstr_eq_none closingQuote

/-! ### The scan -/

/-- Some bytes that the loop has copied ahead of the rest. -/
def copied (outSize : Nat) : (n : Nat) → (bytes rest : List UInt8) → Option (List UInt8)
  | n, [], rest => copyString outSize n rest
  | n, byte :: bytes, rest =>
      if n + 1 ≥ outSize then none else (copied outSize (n + 1) bytes rest).map (byte :: ·)

theorem copied_append {bytes more : List UInt8}
    (behind : ∀ n, copyString outSize n before = copied outSize n more rest) :
    copied outSize n bytes before = copied outSize n (bytes ++ more) rest := by
  induction bytes generalizing n with
  | nil => exact behind n
  | cons byte bytes ih => rw [List.cons_append, copied, copied, ih]

theorem copyString_plain {byte : UInt8} (quote : byte ≠ 34) (backslash : byte ≠ 92) :
    copyString outSize n (byte :: rest) = copied outSize n [byte] rest := by
  rw [copyString.eq_def]
  simp only [if_neg quote, if_neg backslash, copied]

theorem copyString_close (n : Nat) (rest : List UInt8) : copyString outSize n (34 :: rest) = some [] := by
  rw [copyString.eq_def]
  exact if_pos rfl

theorem copyString_escape (byte : UInt8) :
    copyString outSize n (92 :: byte :: rest) = copied outSize n [byte] rest := by
  rw [copyString.eq_def]
  rfl

/-- Bytes without quotes and backslashes are copied as they are. -/
theorem copyString_run {run : List UInt8} (plain : ∀ byte ∈ run, byte ≠ 34 ∧ byte ≠ 92) :
    copyString outSize n (run ++ rest) = copied outSize n run rest := by
  induction run generalizing n with
  | nil => rfl
  | cons byte run ih =>
      rcases List.forall_mem_cons.mp plain with ⟨⟨quote, backslash⟩, others⟩
      rw [List.cons_append, copyString_plain quote backslash]
      exact copied_append fun n => ih others

theorem copyString_item (item : StringItem) :
    copyString outSize n (item.text ++ rest) = copied outSize n item.spelled rest := by
  cases item with
  | plain byte => exact copyString_plain (plainByte_ne byte).1 (plainByte_ne byte).2
  | short escape => exact copyString_escape escape.letter
  | unicode a b c d =>
      have digits : ∀ byte ∈ [a.val, b.val, c.val, d.val], byte ≠ 34 ∧ byte ≠ 92 := by
        simp [hexDigit_ne]
      exact (copyString_escape 117).trans (copied_append fun n => copyString_run digits)

/-- Of a string, the backslashes are dropped. -/
theorem copyString_rawText (items : List StringItem) (rest : List UInt8) :
    copyString outSize n (rawText items ++ rest) = copied outSize n (spelledText items) rest := by
  induction items generalizing n with
  | nil => rfl
  | cons item items ih =>
      rw [rawText_cons, spelledText_cons, List.append_assoc, copyString_item]
      exact copied_append fun n => ih

/-- At the closing quote everything has been copied, if it fits. -/
theorem copied_quote {bytes : List UInt8} (room : n < outSize) :
    copied outSize n bytes (34 :: rest) = if n + bytes.length < outSize then some bytes else none := by
  induction bytes generalizing n with
  | nil =>
      rw [copied, List.length_nil, Nat.add_zero, if_pos room, copyString_close]
  | cons byte bytes ih =>
      rw [copied, List.length_cons]
      split
      · rw [if_neg (by omega)]
      · next more =>
          have longer : n + 1 + bytes.length = n + (bytes.length + 1) := by omega
          rw [ih (Nat.not_le.mp more), longer]
          split <;> rfl

theorem copyString_open (n : Nat) {run : List UInt8} (plain : ∀ byte ∈ run, byte ≠ 34 ∧ byte ≠ 92) :
    copyString outSize n run = none := by
  have copies : ∀ (bytes : List UInt8) n, copied outSize n bytes [] = none := by
    intro bytes
    induction bytes with
    | nil => exact fun _ => rfl
    | cons byte bytes ih =>
        intro n
        rw [copied, ih]
        split <;> rfl
  rw [← List.append_nil run, copyString_run plain, copies]

theorem fitting_some (outSize : Nat) (text : List UInt8) :
    fitting outSize (some text) = if text.length < outSize then some text else none := by
  simp [fitting, Option.filter_some]

/-- The scan of a string. -/
theorem copyString_string (room : 0 < outSize) (items : List StringItem) (rest : List UInt8) :
    copyString outSize 0 (rawText items ++ 34 :: rest) = fitting outSize (some (spelledText items)) := by
  rw [copyString_rawText, copied_quote room, Nat.zero_add, fitting_some]

/-- The scan of what separates two strings. -/
theorem copyString_gap (room : 0 < outSize) (plain : ∀ byte ∈ gap, byte ≠ 34 ∧ byte ≠ 92)
    (rest : List UInt8) : copyString outSize 0 (gap ++ 34 :: rest) = fitting outSize (some gap) := by
  rw [copyString_run plain, copied_quote room, Nat.zero_add, fitting_some]

/-! ### Behind the key -/

theorem isSpace_blanks (blanks : Blanks) : ∀ byte ∈ blanks.val, isSpace byte = true := by
  intro byte member
  rcases blanks.property byte member with rfl | rfl | rfl | rfl <;> rfl

theorem blanks_plain (blanks : Blanks) : ∀ byte ∈ blanks.val, byte ≠ 34 ∧ byte ≠ 92 := by
  intro byte member
  rcases blanks.property byte member with rfl | rfl | rfl | rfl <;> decide

theorem dropWhile_blanks (blanks : Blanks) {byte : UInt8} (visible : isSpace byte = false) (rest : List UInt8) :
    (blanks.val ++ byte :: rest).dropWhile isSpace = byte :: rest :=
  (Spans.to_cons (isSpace_blanks blanks) visible).dropWhile_eq

theorem stringBehind_quote {text : List UInt8} (quote : text.dropWhile isSpace = 34 :: rest) :
    stringBehind outSize text = copyString outSize 0 rest := by
  rw [stringBehind, quote]
  rfl

theorem stringBehind_other {text : List UInt8} {byte : UInt8} (found : text.dropWhile isSpace = byte :: rest)
    (other : byte ≠ 34) : stringBehind outSize text = none := by
  rw [stringBehind, found]
  split
  · next quote => exact absurd (List.cons.inj quote).1 other
  · rfl

theorem valueBehind_found {text : List UInt8} (colon : text.dropWhile isSpace = 58 :: rest) :
    valueBehind outSize text = stringBehind outSize rest := by
  rw [valueBehind, colon]
  rfl

theorem valueBehind_other {text : List UInt8} {byte : UInt8} (found : text.dropWhile isSpace = byte :: rest)
    (other : byte ≠ 58) : valueBehind outSize text = none := by
  rw [valueBehind, found]
  split
  · next colon => exact absurd (List.cons.inj colon).1 other
  · rfl

theorem valueBehind_colon (member : Member) (rest : List UInt8) :
    valueBehind outSize (member.colon ++ 34 :: rest) = copyString outSize 0 rest := by
  rw [Member.colon, List.append_assoc, List.cons_append, valueBehind_found (dropWhile_blanks _ rfl _),
    stringBehind_quote (dropWhile_blanks _ rfl _)]

theorem hexDigit_printable (digit : HexDigit) : 32 ≤ digit.val := by
  have range := digit.property
  revert range
  generalize digit.val = byte
  intro range
  rw [UInt8.le_iff_toNat_le]
  simp only [UInt8.le_iff_toNat_le, UInt8.reduceToNat] at range ⊢
  omega

theorem rawText_printable (items : List StringItem) : ∀ byte ∈ rawText items, 32 ≤ byte := by
  induction items with
  | nil => nofun
  | cons item items ih =>
      intro byte member
      rcases List.mem_append.mp member with inside | later
      · cases item with
        | plain plain =>
            rw [List.mem_singleton.mp inside]
            exact plain.property.1
        | short escape =>
            cases escape
            all_goals
              simp only [StringItem.text, ShortEscape.letter, List.mem_cons, List.not_mem_nil, or_false] at inside
              rcases inside with rfl | rfl <;> decide
        | unicode a b c d =>
            simp only [StringItem.text, List.mem_cons, List.not_mem_nil, or_false] at inside
            rcases inside with rfl | rfl | rfl | rfl | rfl | rfl
            · decide
            · decide
            all_goals exact hexDigit_printable _
      · exact ih byte later

theorem isSpace_iff {byte : UInt8} (printable : 32 ≤ byte) : isSpace byte = true ↔ byte = 32 := by
  rw [UInt8.le_iff_toNat_le] at printable
  simp only [isSpace, Bool.or_eq_true, Bool.and_eq_true, decide_eq_true_eq, UInt8.le_iff_toNat_le,
    UInt8.reduceToNat] at printable ⊢
  constructor
  · intro space
    exact space.elim id fun control => absurd control.2 (by omega)
  · exact .inl

/-- The blanks at the head of printable bytes. -/
theorem blanks_ahead {bytes : List UInt8} (printable : ∀ byte ∈ bytes, 32 ≤ byte) :
    ∃ blanks others, bytes = blanks ++ others ∧ (∀ byte ∈ blanks, byte = 32) ∧ Spans isSpace blanks others := by
  refine ⟨bytes.takeWhile isSpace, bytes.dropWhile isSpace, List.takeWhile_append_dropWhile.symm, ?_,
    Spans.of_list isSpace bytes⟩
  intro byte member
  have isBlank := (Spans.of_list isSpace bytes).inside byte member
  exact (isSpace_iff (printable byte ((List.takeWhile_prefix _).subset member))).mp isBlank

theorem filter_blanks {blanks : List UInt8} (blank : ∀ byte ∈ blanks, byte = 32) :
    blanks.filter (· ≠ 32) = [] := by
  apply List.filter_eq_nil_iff.mpr
  intro byte member
  simpa using blank byte member

theorem ne_blank {byte : UInt8} (visible : isSpace byte = false) : byte ≠ 32 := by
  intro same
  rw [same] at visible
  cases visible

theorem filter_visible {byte : UInt8} (notBlank : byte ≠ 32) (bytes : List UInt8) :
    (byte :: bytes).filter (· ≠ 32) = byte :: bytes.filter (· ≠ 32) :=
  List.filter_cons_of_pos (by simpa using notBlank)

theorem isColon_iff {blanks others : List UInt8} (split : rawText items = blanks ++ others)
    (blank : ∀ byte ∈ blanks, byte = 32) : IsColon items ↔ others.filter (· ≠ 32) = [58] := by
  unfold IsColon
  rw [split, List.filter_append, filter_blanks blank, List.nil_append]

/-- Behind a colon, the inside of a string is taken for blanks if it is some. -/
theorem stringBehind_inside {inside : List UInt8} (printable : ∀ byte ∈ inside, 32 ≤ byte)
    (noQuote : ∀ blanks byte more, inside = blanks ++ byte :: more → (∀ blank ∈ blanks, blank = 32) →
      byte ≠ 34) (rest : List UInt8) :
    stringBehind outSize (inside ++ 34 :: rest) =
      if inside.filter (· ≠ 32) = [] then copyString outSize 0 rest else none := by
  rcases blanks_ahead printable with ⟨blanks, others, split, blank, spans⟩
  rw [split, List.filter_append, filter_blanks blank, List.nil_append, List.append_assoc]
  cases others with
  | nil =>
      have found : (blanks ++ 34 :: rest).dropWhile isSpace = 34 :: rest :=
        (Spans.to_cons spans.inside rfl).dropWhile_eq
      rw [List.nil_append, stringBehind_quote found]
      exact (if_pos rfl).symm
  | cons byte others =>
      have visible := spans.stops byte rfl
      have found : (blanks ++ byte :: (others ++ 34 :: rest)).dropWhile isSpace =
          byte :: (others ++ 34 :: rest) :=
        (Spans.to_cons spans.inside visible).dropWhile_eq
      have some_ : (byte :: others).filter (· ≠ 32) ≠ [] := by
        rw [filter_visible (ne_blank visible)]
        exact List.cons_ne_nil _ _
      rw [if_neg some_, List.cons_append]
      exact stringBehind_other found (noQuote blanks byte others split blank)

/-- The inside of a string is taken for a colon and a quote if it is one. -/
theorem valueBehind_rawText (items : List StringItem) (rest : List UInt8) :
    valueBehind outSize (rawText items ++ 34 :: rest) =
      if IsColon items then copyString outSize 0 rest else none := by
  have printable := rawText_printable items
  rcases blanks_ahead printable with ⟨first, others, split, blank, spans⟩
  have isColon := isColon_iff split blank
  rw [split] at printable
  cases others with
  | nil =>
      have notColon : ¬ IsColon items := mt isColon.mp (by simp)
      have found : (first ++ 34 :: rest).dropWhile isSpace = 34 :: rest :=
        (Spans.to_cons spans.inside rfl).dropWhile_eq
      rw [if_neg notColon, split, List.append_assoc, List.nil_append]
      exact valueBehind_other found (by decide)
  | cons byte others =>
      have visible := spans.stops byte rfl
      have found : (first ++ byte :: (others ++ 34 :: rest)).dropWhile isSpace = byte :: (others ++ 34 :: rest) :=
        (Spans.to_cons spans.inside visible).dropWhile_eq
      rw [filter_visible (ne_blank visible)] at isColon
      by_cases colon : byte = 58
      · subst colon
        have alone : IsColon items ↔ others.filter (· ≠ 32) = [] := isColon.trans (by simp)
        have laterPrintable : ∀ byte ∈ others, 32 ≤ byte := fun byte member => printable byte (by simp [member])
        -- a quote here would be an escaped one, but no backslash stands ahead of it
        have noQuote : ∀ blanks byte more, others = blanks ++ byte :: more →
            (∀ other ∈ blanks, other = 32) → byte ≠ 34 := by
          intro blanks byte more later blankLater
          have ahead : 92 ∉ first ++ 58 :: blanks := by
            intro member
            rcases List.mem_append.mp member with before | member
            · exact absurd (blank 92 before) (by decide)
            · rcases List.mem_cons.mp member with colon | behind
              · exact absurd colon (by decide)
              · exact absurd (blankLater 92 behind) (by decide)
          rw [later, ← List.cons_append, ← List.append_assoc] at split
          exact ne_quote_of_split split ahead
        rw [split, List.append_assoc, List.cons_append, valueBehind_found found,
          stringBehind_inside laterPrintable noQuote]
        simp only [alone]
      · have notColon : ¬ IsColon items := mt isColon.mp fun same => colon (List.cons.inj same).1
        rw [if_neg notColon, split, List.append_assoc, List.cons_append]
        exact valueBehind_other found colon

/-! ### The lookup -/

/-- What is read at a place. -/
def Place.answer (outSize : Nat) : Place → Option (List UInt8)
  | .nowhere => none
  | .value => none
  | .name member => fitting outSize (some (spelledText member.value))
  | .between opened behind => if IsColon opened then fitting outSize behind else none

/-- The search and the scan behind it. -/
def readAt (outSize : Nat) (key text : List UInt8) : Option (List UInt8) :=
  (strstr (quotedKey key) text).bind fun found => valueBehind outSize (found.drop (quotedKey key).length)

theorem readAt_here {text : List UInt8} (found : strstr (quotedKey key) text = some (34 :: (key ++ 34 :: rest))) :
    readAt outSize key text = valueBehind outSize rest := by
  have dropped : (34 :: (key ++ 34 :: rest)).drop (quotedKey key).length = rest := by
    have whole : 34 :: (key ++ 34 :: rest) = quotedKey key ++ rest := by simp
    rw [whole, List.drop_left]
  rw [readAt, found, Option.bind_some, dropped]

theorem readAt_skip {text : List UInt8} (skipped : strstr (quotedKey key) text = strstr (quotedKey key) rest) :
    readAt outSize key text = readAt outSize key rest := by
  rw [readAt, skipped, readAt]

theorem readAt_none {text : List UInt8} (absent : strstr (quotedKey key) text = none) :
    readAt outSize key text = none := by
  rw [readAt, absent, Option.bind_none]

/-- Blanks around one byte. -/
theorem around_plain (before after : Blanks) {byte : UInt8} (plain : byte ≠ 34 ∧ byte ≠ 92) :
    ∀ other ∈ before.val ++ byte :: after.val, other ≠ 34 ∧ other ≠ 92 := by
  intro other inside
  rcases List.mem_append.mp inside with blank | inside
  · exact blanks_plain before other blank
  · rcases List.mem_cons.mp inside with rfl | blank
    · exact plain
    · exact blanks_plain after other blank

theorem colon_plain (member : Member) : ∀ byte ∈ member.colon, byte ≠ 34 ∧ byte ≠ 92 :=
  around_plain _ _ (by decide)

theorem comma_plain (member next : Member) : ∀ byte ∈ member.comma next, byte ≠ 34 ∧ byte ≠ 92 :=
  around_plain _ _ (by decide)

theorem closing_plain (blanks after : Blanks) :
    ∀ byte ∈ blanks.val ++ 125 :: after.val, byte ≠ 34 ∧ byte ≠ 92 :=
  around_plain _ _ (by decide)

theorem not_quote_mem {bytes : List UInt8} (plain : ∀ byte ∈ bytes, byte ≠ 34 ∧ byte ≠ 92) : 34 ∉ bytes :=
  fun member => (plain 34 member).1 rfl

/-- Behind a value there is no colon. -/
theorem valueBehind_separator (after : Blanks) (member : Member) (next : Option Member) (rest : List UInt8) :
    valueBehind outSize (member.separator (125 :: after.val) next ++ rest) = none := by
  cases next with
  | none =>
      rw [Member.separator, List.append_assoc, List.cons_append]
      exact valueBehind_other (dropWhile_blanks _ rfl _) (by decide)
  | some next =>
      rw [Member.separator, Member.comma, List.append_assoc, List.cons_append]
      exact valueBehind_other (dropWhile_blanks _ rfl _) (by decide)

theorem readAt_members (room : 0 < outSize) (keyQuote : 34 ∉ key) (keyBackslash : 92 ∉ key) (after : Blanks)
    (members : List Member) :
    readAt outSize key (membersText (125 :: after.val) members) = (placeOf key members).answer outSize := by
  induction members with
  | nil => rfl
  | cons member others ih =>
      rw [membersText, placeOf.eq_def]
      dsimp only
      -- the name
      by_cases atName : EndsWith key member.name
      · rw [if_pos atName, readAt_here ((strstr_string keyQuote keyBackslash _).trans (if_pos atName)),
          valueBehind_colon, copyString_string room]
        rfl
      rw [if_neg atName, readAt_skip ((strstr_string keyQuote keyBackslash _).trans (if_neg atName))]
      -- the colon
      have colonQuote := not_quote_mem (colon_plain member)
      by_cases atColon : member.colon = key
      · rw [if_pos atColon, readAt_here ((strstr_gap keyQuote colonQuote _).trans (if_pos atColon)),
          valueBehind_rawText, Place.answer]
        cases others with
        | nil =>
            have open_ : copyString outSize 0 (member.afterValue.val ++ 125 :: after.val) = none :=
              copyString_open 0 (closing_plain member.afterValue after)
            rw [membersText, List.append_nil, List.head?_nil, Member.separator, open_]
            rfl
        | cons next others =>
            rw [membersText, List.head?_cons, Member.separator, copyString_gap room (comma_plain member next)]
            rfl
      rw [if_neg atColon, readAt_skip ((strstr_gap keyQuote colonQuote _).trans (if_neg atColon))]
      -- the value
      by_cases atValue : EndsWith key member.value
      · rw [if_pos atValue, readAt_here ((strstr_string keyQuote keyBackslash _).trans (if_pos atValue)),
          valueBehind_separator]
        rfl
      rw [if_neg atValue, readAt_skip ((strstr_string keyQuote keyBackslash _).trans (if_neg atValue))]
      -- the comma
      cases others with
      | nil =>
          have lastQuote := not_quote_mem (closing_plain member.afterValue after)
          rw [readAt_none]
          · rfl
          · rw [membersText, List.append_nil]
            exact strstr_closing lastQuote
      | cons next others =>
          have commaQuote := not_quote_mem (comma_plain member next)
          have begins : ∃ rest, membersText (125 :: after.val) (next :: others) =
              34 :: (rawText next.name ++ 34 :: (next.colon ++ 34 :: rest)) := ⟨_, rfl⟩
          rcases begins with ⟨rest, begins⟩
          rw [List.head?_cons, Member.separator]
          dsimp only
          by_cases atComma : member.comma next = key
          · rw [if_pos atComma, begins, readAt_here ((strstr_gap keyQuote commaQuote _).trans (if_pos atComma)),
              valueBehind_rawText, copyString_gap room (colon_plain next)]
            rfl
          · rw [if_neg atComma, ← ih, begins]
            exact readAt_skip ((strstr_gap keyQuote commaQuote _).trans (if_neg atComma))

theorem PlainKey.no_quote (key : PlainKey) : 34 ∉ key.bytes := fun member => (key.plain 34 member).2.1 rfl

theorem PlainKey.no_backslash (key : PlainKey) : 92 ∉ key.bytes := fun member => (key.plain 92 member).2.2 rfl

theorem readAt_text (room : 0 < outSize) (key : PlainKey) (object : ParameterObject) :
    readAt outSize key.bytes object.text = (placeOf key.bytes object.members).answer outSize := by
  have lookup := readAt_members room key.no_quote key.no_backslash object.after object.members
  have before : 34 ∉ object.before.val := not_quote_mem (blanks_plain _)
  have inner : 34 ∉ object.inner.val := not_quote_mem (blanks_plain _)
  have opened : ∀ rest, strstr (quotedKey key.bytes) (object.before.val ++ 123 :: (object.inner.val ++ rest)) =
      strstr (quotedKey key.bytes) rest := fun rest => by
    rw [strstr_skip_all before, strstr_skip (by decide), strstr_skip_all inner]
  rw [ParameterObject.text, readAt_skip (opened _)]
  cases h : object.members with
  | nil =>
      have closing : 34 ∉ 125 :: object.after.val := not_quote_mem (closing_plain ⟨[], nofun⟩ object.after)
      exact readAt_none (strstr_eq_none closing)
  | cons first others =>
      rw [h] at lookup
      rw [← lookup]
      exact readAt_skip (strstr_skip_all (not_quote_mem (blanks_plain _)) _)

theorem nul_not_mem_blanks (blanks : Blanks) : 0 ∉ blanks.val := by
  intro member
  rcases blanks.property 0 member with same | same | same | same <;> cases same

theorem nul_not_mem_rawText (items : List StringItem) : 0 ∉ rawText items :=
  fun member => absurd (rawText_printable items 0 member) (by decide)

theorem nul_not_mem_members (after : Blanks) (members : List Member) :
    0 ∉ membersText (125 :: after.val) members := by
  induction members with
  | nil => nofun
  | cons member others ih =>
      cases h : others.head? with
      | none =>
          simp [membersText, h, Member.colon, Member.separator, nul_not_mem_blanks, nul_not_mem_rawText, ih]
      | some next =>
          simp [membersText, h, Member.colon, Member.separator, Member.comma, nul_not_mem_blanks,
            nul_not_mem_rawText, ih]

/-- No NUL stands in the text of an object. -/
theorem nul_not_mem_text (object : ParameterObject) : 0 ∉ object.text := by
  have members := nul_not_mem_members object.after object.members
  cases h : object.members with
  | nil => simp [ParameterObject.text, h, nul_not_mem_blanks]
  | cons first others =>
      rw [h] at members
      simp [ParameterObject.text, h, nul_not_mem_blanks, members]

theorem ofBytes_bytes {bytes : List UInt8} (free : 0 ∉ bytes) : (CString.ofBytes bytes).bytes = bytes := by
  apply List.takeWhile_eq_self_iff.mpr
  intro byte member
  exact decide_eq_true fun nul => free (nul ▸ member)

theorem fitting_zero (text : Option (List UInt8)) : fitting 0 text = none := by
  cases text with
  | none => rfl
  | some text => rw [fitting_some, if_neg (Nat.not_lt_zero _)]

theorem answer_zero (place : Place) : place.answer 0 = none := by
  cases place with
  | nowhere => rfl
  | value => rfl
  | name member => exact fitting_zero _
  | between opened behind =>
      rw [Place.answer, fitting_zero]
      split <;> rfl

theorem needleOf_bytes (key : PlainKey) : (needleOf (CString.ofBytes key.bytes)).bytes = quotedKey key.bytes := by
  have free : 0 ∉ key.bytes := fun member => absurd (key.plain 0 member).1 (by decide)
  have short := key.short
  change (34 :: (CString.ofBytes key.bytes).bytes ++ [34]).take 95 = quotedKey key.bytes
  rw [ofBytes_bytes free, List.cons_append]
  apply List.take_of_length_le
  rw [List.length_cons, List.length_append, List.length_singleton]
  omega

/-- What `json_string` makes of an object depends on the place of the key alone. -/
theorem jsonString_eq_answer (object : ParameterObject) (key : PlainKey) (outSize : Nat) :
    jsonString (some (CString.ofBytes object.text)) (CString.ofBytes key.bytes) outSize =
      (placeOf key.bytes object.members).answer outSize := by
  rcases Nat.eq_zero_or_pos outSize with none_ | room
  · rw [none_, answer_zero]
    rfl
  · have positive : outSize ≠ 0 := Nat.pos_iff_ne_zero.mp room
    rw [← readAt_text room, jsonString, needleOf_bytes, ofBytes_bytes (nul_not_mem_text object), readAt]
    simp only [if_neg positive]
    cases strstr (quotedKey key.bytes) object.text <;> rfl

/-! ### Values -/

/-- A string without backslashes stands for itself. -/
theorem decodeItems_of_plain (noBackslash : 92 ∉ rawText items) : decodeItems items = rawText items := by
  induction items with
  | nil => rfl
  | cons item items ih =>
      rw [rawText_cons] at noBackslash
      have later : 92 ∉ rawText items := fun member => noBackslash (List.mem_append_right _ member)
      cases item with
      | plain byte => rw [decodeItems, ih later]; rfl
      | short escape => exact absurd (List.mem_append_left _ List.mem_cons_self) noBackslash
      | unicode a b c d => exact absurd (List.mem_append_left _ List.mem_cons_self) noBackslash

theorem HexDigit.value_lt (digit : HexDigit) : HexDigit.value digit < 16 := by
  have range := digit.property
  simp only [UInt8.le_iff_toNat_le, UInt8.reduceToNat] at range
  simp only [HexDigit.value, UInt8.le_iff_toNat_le, UInt8.reduceToNat]
  split_ifs
  all_goals omega

theorem unitOf_lt (a b c d : HexDigit) : unitOf a b c d < 0x10000 := by
  have := HexDigit.value_lt a
  have := HexDigit.value_lt b
  have := HexDigit.value_lt c
  have := HexDigit.value_lt d
  unfold unitOf
  omega

theorem length_utf8Bytes (point : Nat) : (utf8Bytes point).length ≤ 4 := by
  unfold utf8Bytes
  split_ifs
  all_goals simp

theorem length_utf8Bytes_unit (a b c d : HexDigit) : (utf8Bytes (unitOf a b c d)).length ≤ 3 := by
  unfold utf8Bytes
  rw [if_pos (unitOf_lt a b c d)]
  split_ifs
  all_goals simp

/-- Decoding makes a string no longer than its spelling, and shorter where it has `\u` escapes. -/
theorem length_decodeItems (items : List StringItem) :
    (decodeItems items).length + 2 * items.countP StringItem.isUnicode ≤ (spelledText items).length := by
  induction items using decodeItems.induct with
  | case1 => exact Nat.le_refl _
  | case2 byte items ih =>
      simp only [decodeItems, spelledText_cons, StringItem.spelled, List.length_append, List.length_cons,
        List.length_nil, List.countP_cons, StringItem.isUnicode, Bool.false_eq_true, if_false]
      omega
  | case3 escape items ih =>
      simp only [decodeItems, spelledText_cons, StringItem.spelled, List.length_append, List.length_cons,
        List.length_nil, List.countP_cons, StringItem.isUnicode, Bool.false_eq_true, if_false]
      omega
  | case4 a b c d a' b' c' d' items high low surrogates ih =>
      have bytes := length_utf8Bytes
        (0x10000 + (unitOf a b c d - 0xD800) * 1024 + (unitOf a' b' c' d' - 0xDC00))
      rw [decodeItems, if_pos surrogates]
      simp only [spelledText_cons, StringItem.spelled, List.length_append, List.length_cons,
        List.length_nil, List.countP_cons, StringItem.isUnicode, if_true]
      omega
  | case5 a b c d a' b' c' d' items high low alone ih =>
      have bytes := length_utf8Bytes_unit a b c d
      rw [decodeItems, if_neg alone, spelledText_cons, List.countP_cons]
      simp only [StringItem.spelled, List.length_append, List.length_cons, List.length_nil,
        StringItem.isUnicode, if_true]
      omega
  | case6 a b c d items last ih =>
      have bytes := length_utf8Bytes_unit a b c d
      rw [decodeItems, spelledText_cons, List.countP_cons]
      · simp only [StringItem.spelled, List.length_append, List.length_cons, List.length_nil,
          StringItem.isUnicode, if_true]
        omega
      · exact last

/-- Where there are none, only the short escapes of control characters make a difference. -/
theorem spelled_eq_decoded_of_short {items : List StringItem} (short : ∀ item ∈ items, item.isUnicode = false) :
    spelledText items = decodeItems items ↔ ∀ item ∈ items, item.Literal := by
  induction items with
  | nil => simp [decodeItems]
  | cons item items ih =>
      rcases List.forall_mem_cons.mp short with ⟨first, others⟩
      rw [List.forall_mem_cons, ← ih others]
      cases item with
      | plain byte => simp [decodeItems, StringItem.spelled, StringItem.Literal]
      | short escape => simp [decodeItems, StringItem.spelled, StringItem.Literal]
      | unicode a b c d => cases first

/-- A string stands for its spelling exactly if all its escapes do. -/
theorem spelled_eq_decoded_iff (items : List StringItem) :
    spelledText items = decodeItems items ↔ ∀ item ∈ items, item.Literal := by
  by_cases short : ∀ item ∈ items, item.isUnicode = false
  · exact spelled_eq_decoded_of_short short
  · constructor
    · intro same
      have length := length_decodeItems items
      rw [same] at length
      have none_ : items.countP StringItem.isUnicode = 0 := by omega
      refine absurd ?_ short
      intro item member
      exact Bool.eq_false_iff.mpr (List.countP_eq_zero.mp none_ item member)
    · intro literal
      refine absurd ?_ short
      intro item member
      cases item with
      | plain byte => rfl
      | short escape => rfl
      | unicode a b c d => exact (literal _ member).elim

/-! ### The lookup and the value -/

theorem placeOf_name {members : List Member} {member : Member} (place : placeOf key members = .name member) :
    member ∈ members := by
  induction members with
  | nil => cases place
  | cons first others ih =>
      rw [placeOf.eq_def] at place
      dsimp only at place
      split at place
      · cases place
        exact List.mem_cons_self
      · split at place
        · cases place
        · split at place
          · cases place
          · cases others with
            | nil => cases place
            | cons next others =>
                dsimp only at place
                split at place
                · cases place
                · exact List.mem_cons_of_mem _ (ih place)

/-- At its own name, the value of the key is that of the member. -/
theorem value_of_name {object : ParameterObject} {key : PlainKey} {member : Member}
    (inside : member ∈ object.members) (own : rawText member.name = key.bytes) :
    object.value key = some (decodeItems member.value) := by
  have named : decodeItems member.name = key.bytes := by
    rw [← own]
    exact decodeItems_of_plain (own ▸ key.no_backslash)
  have found : object.members.find? (fun member => decodeItems member.name = key.bytes) = some member := by
    cases h : object.members.find? fun member => decodeItems member.name = key.bytes with
    | none => exact absurd (decide_eq_true named) (List.find?_eq_none.mp h member inside)
    | some other =>
        have otherNamed : decodeItems other.name = key.bytes := by simpa using List.find?_some h
        exact congrArg some (List.inj_on_of_nodup_map object.distinct (List.mem_of_find?_eq_some h) inside
          (otherNamed.trans named.symm))
  rw [ParameterObject.value, found, Option.map_some]

/-- The spelling of a string and the string itself come to the same where they fit. -/
theorem fitting_spelled_iff (items : List StringItem) :
    fitting outSize (some (spelledText items)) = fitting outSize (some (decodeItems items)) ↔
      (∀ item ∈ items, item.Literal) ∨ outSize ≤ (decodeItems items).length := by
  have length := length_decodeItems items
  rw [← spelled_eq_decoded_iff, fitting_some, fitting_some]
  by_cases fits : (decodeItems items).length < outSize
  · have notLong : ¬ outSize ≤ (decodeItems items).length := Nat.not_le.mpr fits
    rw [if_pos fits, or_iff_left notLong]
    constructor
    · intro same
      split at same
      · exact Option.some.inj same
      · cases same
    · intro same
      rw [same, if_pos fits]
  · rw [if_neg fits, if_neg (by omega)]
    exact ⟨fun _ => .inr (Nat.not_lt.mp fits), fun _ => rfl⟩

/-- What is read in place of the value comes to what is wanted exactly if it does no harm. -/
theorem wanted_eq_fitting_iff {object : ParameterObject} {key : PlainKey} (read : List UInt8) :
    object.wanted key outSize = fitting outSize (some read) ↔ object.Harmless key outSize read := by
  rw [ParameterObject.Harmless, fitting_some]
  by_cases fits : read.length < outSize
  · have short : ¬ (object.wanted key outSize = none ∧ outSize ≤ read.length) := by omega
    rw [if_pos fits, or_iff_left short, ParameterObject.wanted]
    constructor
    · intro same
      exact (Option.filter_eq_some_iff.mp same).1
    · intro same
      rw [same, fitting_some, if_pos fits]
  · rw [if_neg fits]
    constructor
    · intro nothing
      exact .inr ⟨nothing, Nat.not_lt.mp fits⟩
    · rintro (same | ⟨nothing, _⟩)
      · rw [ParameterObject.wanted, same, fitting_some, if_neg fits]
      · exact nothing

/-- For every JSON object of strings with distinct names, every key that needs no escapes and every size, the
    lookup comes to the value that fits, or to none, exactly if the place of the key does no harm. -/
theorem lookup_agrees_iff (object : ParameterObject) (key : PlainKey) (outSize : Nat) :
    jsonString (some (CString.ofBytes object.text)) (CString.ofBytes key.bytes) outSize =
      object.wanted key outSize ↔ object.ReadsRight key outSize := by
  rw [jsonString_eq_answer, ParameterObject.ReadsRight]
  cases place : placeOf key.bytes object.members with
  | nowhere => exact eq_comm
  | value => exact eq_comm
  | between opened behind =>
      dsimp only
      by_cases colon : IsColon opened
      · rw [Place.answer, if_pos colon, if_pos colon]
        cases behind with
        | none => exact eq_comm
        | some separator => exact eq_comm.trans (wanted_eq_fitting_iff separator)
      · rw [Place.answer, if_neg colon, if_neg colon]
        exact eq_comm
  | name member =>
      dsimp only
      split
      · next own =>
          rw [ParameterObject.wanted, value_of_name (placeOf_name place) own]
          exact fitting_spelled_iff member.value
      · exact eq_comm.trans (wanted_eq_fitting_iff _)

/-- A string without escapes. -/
def plainItems (text : String) : List StringItem :=
  (text.toList.map fun c => UInt8.ofNat c.toNat).filterMap fun byte =>
    if plain : 32 ≤ byte ∧ byte ≠ 34 ∧ byte ≠ 92 then some (.plain ⟨byte, plain⟩) else none

/-- A member without escapes and blanks. -/
def plainMember (name value : String) : Member where
  beforeName := ⟨[], nofun⟩
  name := plainItems name
  afterName := ⟨[], nofun⟩
  beforeValue := ⟨[], nofun⟩
  value := plainItems value
  afterValue := ⟨[], nofun⟩
  nul_free := by
    intro a b c d member
    rcases List.mem_filterMap.mp member with ⟨byte, _, isPlain⟩
    split at isPlain
    · cases isPlain
    · cases isPlain

/-- `{"log":"host","host":"tv"}`. -/
def hiddenHost : ParameterObject where
  before := ⟨[], nofun⟩
  inner := ⟨[], nofun⟩
  members := [plainMember "log" "host", plainMember "host" "tv"]
  after := ⟨[], nofun⟩
  distinct := by decide

/-- `host`. -/
def hostKey : PlainKey where
  bytes := "host".toList.map fun c => UInt8.ofNat c.toNat
  plain := fun byte member => of_decide_eq_true
    (List.all_eq_true.mp (rfl : ("host".toList.map fun c => UInt8.ofNat c.toNat).all
      (fun byte => decide (32 ≤ byte ∧ byte ≠ 34 ∧ byte ≠ 92)) = true) byte member)
  short := by decide

/-- The parameter is there, and fits, but a value of its name ahead of it hides it. -/
theorem value_named_like_the_key_hides_it :
    hiddenHost.wanted hostKey 256 = some ("tv".toList.map fun c => UInt8.ofNat c.toNat) ∧
      jsonString (some (CString.ofBytes hiddenHost.text)) (CString.ofBytes hostKey.bytes) 256 = none := by
  decide

end SysdvrWebos
