/-
Module: SysdvrWebos.Lib.Json
Layer: Lib
Purpose: JSON documents as Python's `json` module writes and reads them: `json.dumps` with an indentation of
  two and `ensure_ascii`, and the scanner of `json.loads`. What is written reads back as what it was, and
  the length of what is written is known without writing it.
Trusted boundary: numbers are the integers; a text with a fraction, an exponent, a non-finite number or a
  lone surrogate is refused by the reader here, and nesting is not limited
Main exports: Json, Json.dumps, Json.loads, Json.get?, Json.escapedLength, Json.loads_dumps, Json.ascii_dump
Open obligations: none
-/
import Mathlib.Data.List.TakeWhile
import SysdvrWebos.Lib.PyText
import SysdvrWebos.Lib.Spans

/-- A JSON document. The members of an object stand as in the text. -/
inductive Json where
  | null
  | bool (b : Bool)
  | int (i : Int)
  | str (text : PyText)
  | arr (items : List Json)
  | obj (members : List (PyText × Json))

namespace Json

/-! ### Writing -/

/-- Four hexadecimal digits in lower case. -/
def hex4 (n : Nat) : PyText :=
  [Nat.digitChar (n / 4096 % 16), Nat.digitChar (n / 256 % 16), Nat.digitChar (n / 16 % 16),
    Nat.digitChar (n % 16)]

/-- The `\u` escape of a UTF-16 unit. -/
def unitEscape (unit : Nat) : PyText := '\\' :: 'u' :: hex4 unit

/-- The UTF-16 units of a character. -/
def unitsOf (c : Char) : List Nat :=
  if c.toNat < 0x10000 then [c.toNat]
  else [0xD800 + (c.toNat - 0x10000) / 1024, 0xDC00 + (c.toNat - 0x10000) % 1024]

/-- The letter of the short escape of a character, if it has one. -/
def shortEscape? (c : Char) : Option Char :=
  if c = '"' then some '"'
  else if c = '\\' then some '\\'
  else if c = '\n' then some 'n'
  else if c = '\r' then some 'r'
  else if c = '\t' then some 't'
  else if c = '\x0c' then some 'f'
  else if c = '\x08' then some 'b'
  else none

/-- A character inside a string, with `ensure_ascii`. -/
def escape (c : Char) : PyText :=
  match shortEscape? c with
  | some letter => ['\\', letter]
  | none =>
      if 32 ≤ c.toNat ∧ c.toNat ≤ 126 then [c]
      else ((unitsOf c).map unitEscape).flatten

/-- A string. -/
def quoted (text : PyText) : PyText := '"' :: (text.map escape).flatten ++ ['"']

/-- The start of a line at some depth. -/
def newline (depth : Nat) : PyText := '\n' :: List.replicate (2 * depth) ' '

/-- An integer in decimal digits. -/
def decimal : Int → PyText
  | .ofNat n => Nat.toDigits 10 n
  | .negSucc n => '-' :: Nat.toDigits 10 (n + 1)

mutual

/-- `json.dumps(value, indent=2, ensure_ascii=True)` for a value at some depth. -/
def dump (depth : Nat) : Json → PyText
  | .null => "null".toList
  | .bool true => "true".toList
  | .bool false => "false".toList
  | .int i => decimal i
  | .str text => quoted text
  | .arr [] => "[]".toList
  | .arr (item :: items) =>
      '[' :: newline (depth + 1) ++ dump (depth + 1) item ++ dumpItems (depth + 1) items ++
        newline depth ++ [']']
  | .obj [] => "{}".toList
  | .obj ((name, value) :: members) =>
      '{' :: newline (depth + 1) ++ quoted name ++ [':', ' '] ++ dump (depth + 1) value ++
        dumpMembers (depth + 1) members ++ newline depth ++ ['}']

/-- The items of an array behind the first one. -/
def dumpItems (depth : Nat) : List Json → PyText
  | [] => []
  | item :: items => ',' :: newline depth ++ dump depth item ++ dumpItems depth items

/-- The members of an object behind the first one. -/
def dumpMembers (depth : Nat) : List (PyText × Json) → PyText
  | [] => []
  | (name, value) :: members =>
      ',' :: newline depth ++ quoted name ++ [':', ' '] ++ dump depth value ++ dumpMembers depth members

end

/-- `json.dumps`, with that indentation. -/
def dumps (value : Json) : PyText := dump 0 value

/-! ### The size of what is written -/

/-- The length of a string between its quotes. -/
def escapedLength (text : PyText) : Nat :=
  (text.map fun c =>
    if (shortEscape? c).isSome then 2
    else if 32 ≤ c.toNat ∧ c.toNat ≤ 126 then 1
    else if c.toNat < 0x10000 then 6
    else 12).sum

theorem length_escapes (text : PyText) : (text.map escape).flatten.length = escapedLength text := by
  rw [List.length_flatten, List.map_map, escapedLength]
  refine congrArg List.sum (List.map_congr_left fun c _ => ?_)
  rw [Function.comp_apply, escape]
  cases shortEscape? c with
  | some letter => rfl
  | none =>
      by_cases printable : 32 ≤ c.toNat ∧ c.toNat ≤ 126
      · simp [printable]
      · by_cases small : c.toNat < 0x10000
        · simp [printable, small, unitsOf, unitEscape, hex4]
        · simp [printable, small, unitsOf, unitEscape, hex4]

theorem length_quoted (text : PyText) : (quoted text).length = escapedLength text + 2 := by
  have inner := length_escapes text
  rw [quoted, List.length_append, List.length_cons, inner]
  rfl

/-- No character needs more than one byte. -/
def Ascii (text : PyText) : Prop := ∀ c ∈ text, c.toNat < 128

@[simp] theorem ascii_nil : Ascii [] := nofun

@[simp] theorem ascii_cons {c : Char} {text : PyText} :
    Ascii (c :: text) ↔ c.toNat < 128 ∧ Ascii text :=
  List.forall_mem_cons

@[simp] theorem ascii_append {before behind : PyText} :
    Ascii (before ++ behind) ↔ Ascii before ∧ Ascii behind :=
  List.forall_mem_append

/-- Such a text has as many bytes as characters. -/
theorem Ascii.utf8Size {text : PyText} (ascii : Ascii text) : PyText.utf8Size text = text.length := by
  induction text with
  | nil => rfl
  | cons c text ih =>
      rcases ascii_cons.mp ascii with ⟨small, others⟩
      have one : c.utf8Size = 1 := Char.utf8Size_eq_one_iff.mpr (by
        rw [UInt32.le_iff_toNat_le]
        exact Nat.le_of_lt_succ small)
      rw [PyText.utf8Size, List.map_cons, List.sum_cons, one, ← PyText.utf8Size, ih others, List.length_cons,
        Nat.add_comm]

theorem ascii_newline (depth : Nat) : Ascii (newline depth) := by
  apply ascii_cons.mpr ⟨by decide, ?_⟩
  intro c member
  rw [List.eq_of_mem_replicate member]
  decide

theorem ascii_toDigits (n : Nat) : Ascii (Nat.toDigits 10 n) := by
  intro c member
  have digit : c.isDigit = true := Nat.isDigit_of_mem_toDigits (by decide) (by decide) member
  exact Nat.lt_of_le_of_lt (Char.isDigit_iff_toNat.mp digit).2 (by decide)

theorem ascii_unitEscape (unit : Nat) : Ascii (unitEscape unit) := by
  have digits : ∀ d, d < 16 → (Nat.digitChar d).toNat < 128 := by decide
  simp [unitEscape, hex4, digits _ (Nat.mod_lt _ (by decide : 0 < 16))]

theorem ascii_escape (c : Char) : Ascii (escape c) := by
  unfold escape
  split
  · next letter short =>
      have small : letter.toNat < 128 := by
        simp only [shortEscape?] at short
        split_ifs at short
        all_goals
          cases short
          decide
      simp [small]
  · split
    · next printable => simpa using Nat.lt_of_le_of_lt printable.2 (by decide)
    · intro d member
      rcases List.mem_flatten.mp member with ⟨escaped, among, inside⟩
      rcases List.mem_map.mp among with ⟨unit, _, rfl⟩
      exact ascii_unitEscape unit d inside

theorem ascii_quoted (text : PyText) : Ascii (quoted text) := by
  have inner : Ascii (text.map escape).flatten := by
    intro d member
    rcases List.mem_flatten.mp member with ⟨escaped, among, inside⟩
    rcases List.mem_map.mp among with ⟨c, _, rfl⟩
    exact ascii_escape c d inside
  simp [quoted, inner]

mutual

/-- With `ensure_ascii` everything that is written is ASCII. -/
theorem ascii_dump : ∀ (value : Json) (depth : Nat), Ascii (dump depth value)
  | .null, depth => by simp [dump]
  | .bool true, depth => by simp [dump]
  | .bool false, depth => by simp [dump]
  | .int (.ofNat n), depth => by simp [dump, decimal, ascii_toDigits n]
  | .int (.negSucc n), depth => by simp [dump, decimal, ascii_toDigits (n + 1)]
  | .str text, depth => by simp [dump, ascii_quoted text]
  | .arr [], depth => by simp [dump]
  | .arr (item :: items), depth => by
      simp [dump, ascii_newline, ascii_dump item, ascii_dumpItems items]
  | .obj [], depth => by simp [dump]
  | .obj ((name, value) :: members), depth => by
      simp [dump, ascii_newline, ascii_quoted name, ascii_dump value, ascii_dumpMembers members]

theorem ascii_dumpItems : ∀ (items : List Json) (depth : Nat), Ascii (dumpItems depth items)
  | [], depth => by simp [dumpItems]
  | item :: items, depth => by
      simp [dumpItems, ascii_newline, ascii_dump item, ascii_dumpItems items]

theorem ascii_dumpMembers : ∀ (members : List (PyText × Json)) (depth : Nat),
    Ascii (dumpMembers depth members)
  | [], depth => by simp [dumpMembers]
  | (name, value) :: members, depth => by
      simp [dumpMembers, ascii_newline, ascii_quoted name, ascii_dump value, ascii_dumpMembers members]

end

/-! ### Reading -/

/-- The white space of JSON. -/
def isBlank (c : Char) : Bool := c = ' ' || c = '\n' || c = '\r' || c = '\t'

def skipBlanks (text : PyText) : PyText := text.dropWhile isBlank

/-- The value of a hexadecimal digit. -/
def hexValue? (c : Char) : Option Nat :=
  if '0' ≤ c ∧ c ≤ '9' then some (c.toNat - '0'.toNat)
  else if 'a' ≤ c ∧ c ≤ 'f' then some (c.toNat - 'a'.toNat + 10)
  else if 'A' ≤ c ∧ c ≤ 'F' then some (c.toNat - 'A'.toNat + 10)
  else none

/-- The character of a short escape. -/
def unescape? (letter : Char) : Option Char :=
  if letter = '"' then some '"'
  else if letter = '\\' then some '\\'
  else if letter = '/' then some '/'
  else if letter = 'b' then some '\x08'
  else if letter = 'f' then some '\x0c'
  else if letter = 'n' then some '\n'
  else if letter = 'r' then some '\r'
  else if letter = 't' then some '\t'
  else none

/-- The units of a string up to its closing quote, and the text behind it. -/
def scanUnits : PyText → Option (List Nat × PyText)
  | [] => none
  | c :: rest =>
      if c = '"' then some ([], rest)
      else if c = '\\' then
        match rest with
        | [] => none
        | letter :: rest =>
            if letter = 'u' then
              match rest with
              | a :: b :: c :: d :: rest => do
                  let a ← hexValue? a
                  let b ← hexValue? b
                  let c ← hexValue? c
                  let d ← hexValue? d
                  let (units, rest) ← scanUnits rest
                  return ((((a * 16 + b) * 16 + c) * 16 + d) :: units, rest)
              | _ => none
            else do
              let c ← unescape? letter
              let (units, rest) ← scanUnits rest
              return (c.toNat :: units, rest)
      else if c.toNat < 32 then none
      else do
        let (units, rest) ← scanUnits rest
        return (c.toNat :: units, rest)
termination_by structural text => text

/-- The text of some units, where a high surrogate stands ahead of a low one. -/
def ofUnits? : List Nat → Option PyText
  | [] => some []
  | unit :: units =>
      if 0xD800 ≤ unit ∧ unit < 0xDC00 then
        match units with
        | [] => none
        | low :: units =>
            if 0xDC00 ≤ low ∧ low < 0xE000 then do
              let text ← ofUnits? units
              return Char.ofNat (0x10000 + (unit - 0xD800) * 1024 + (low - 0xDC00)) :: text
            else none
      else if 0xDC00 ≤ unit ∧ unit < 0xE000 then none
      else do
        let text ← ofUnits? units
        return Char.ofNat unit :: text

/-- A string behind its opening quote. -/
def scanString (text : PyText) : Option (PyText × PyText) := do
  let (units, rest) ← scanUnits text
  let text ← ofUnits? units
  return (text, rest)

/-- The digits of a number: a zero alone, or digits that do not begin with one. -/
def scanNat : PyText → Option (Nat × PyText)
  | [] => none
  | c :: rest =>
      if c = '0' then some (0, rest)
      else if c.isDigit then
        some (Nat.ofDigitChars 10 ((c :: rest).takeWhile Char.isDigit) 0,
          (c :: rest).dropWhile Char.isDigit)
      else none

mutual

/-- A value, at its first character. -/
def scanValue : Nat → PyText → Option (Json × PyText)
  | 0, _ => none
  | _, [] => none
  | fuel + 1, c :: rest =>
      if c = '"' then (scanString rest).map fun (text, rest) => (.str text, rest)
      else if c = '{' then
        match skipBlanks rest with
        | '}' :: rest => some (.obj [], rest)
        | rest => (scanMembers fuel rest).map fun (members, rest) => (.obj members, rest)
      else if c = '[' then
        match skipBlanks rest with
        | ']' :: rest => some (.arr [], rest)
        | rest => (scanItems fuel rest).map fun (items, rest) => (.arr items, rest)
      else if c = '-' then (scanNat rest).map fun (n, rest) => (.int (-n), rest)
      else if c = 'n' then
        if "ull".toList.isPrefixOf rest then some (.null, rest.drop 3) else none
      else if c = 't' then
        if "rue".toList.isPrefixOf rest then some (.bool true, rest.drop 3) else none
      else if c = 'f' then
        if "alse".toList.isPrefixOf rest then some (.bool false, rest.drop 4) else none
      else (scanNat (c :: rest)).map fun (n, rest) => (.int n, rest)

/-- The items of an array, at the first one. -/
def scanItems : Nat → PyText → Option (List Json × PyText)
  | 0, _ => none
  | fuel + 1, text =>
      match scanValue fuel text with
      | none => none
      | some (item, rest) =>
          match skipBlanks rest with
          | ']' :: rest => some ([item], rest)
          | ',' :: rest => (scanItems fuel (skipBlanks rest)).map fun (items, rest) => (item :: items, rest)
          | _ => none

/-- The members of an object, at the first one. -/
def scanMembers : Nat → PyText → Option (List (PyText × Json) × PyText)
  | fuel + 1, '"' :: text =>
      match scanString text with
      | none => none
      | some (name, rest) =>
          match skipBlanks rest with
          | ':' :: rest =>
              match scanValue fuel (skipBlanks rest) with
              | none => none
              | some (value, rest) =>
                  match skipBlanks rest with
                  | '}' :: rest => some ([(name, value)], rest)
                  | ',' :: rest =>
                      (scanMembers fuel (skipBlanks rest)).map fun (members, rest) =>
                        ((name, value) :: members, rest)
                  | _ => none
          | _ => none
  | _, _ => none

end

/-- `json.loads`. -/
def loads (text : PyText) : Option Json :=
  match scanValue (2 * text.length + 1) (skipBlanks text) with
  | some (value, rest) => if skipBlanks rest = [] then some value else none
  | none => none

/-! ### Strings read back -/

/-- The units of a string behind some more. -/
def prepend (before : List Nat) (scanned : Option (List Nat × PyText)) : Option (List Nat × PyText) :=
  scanned.map fun (units, rest) => (before ++ units, rest)

@[simp] theorem prepend_some (before units : List Nat) (rest : PyText) :
    prepend before (some (units, rest)) = some (before ++ units, rest) := rfl

theorem prepend_prepend (before more : List Nat) (scanned : Option (List Nat × PyText)) :
    prepend before (prepend more scanned) = prepend (before ++ more) scanned := by
  cases scanned with
  | none => rfl
  | some scanned => simp [prepend, List.append_assoc]

theorem hexValue?_digitChar {d : Nat} (digit : d < 16) : hexValue? (Nat.digitChar d) = some d := by
  have all : ∀ d, d < 16 → hexValue? (Nat.digitChar d) = some d := by decide
  exact all d digit

theorem scanUnits_unitEscape {unit : Nat} (small : unit < 0x10000) (rest : PyText) :
    scanUnits (unitEscape unit ++ rest) = prepend [unit] (scanUnits rest) := by
  have whole : ((unit / 4096 % 16 * 16 + unit / 256 % 16) * 16 + unit / 16 % 16) * 16 + unit % 16 = unit := by
    omega
  have d₁ := hexValue?_digitChar (Nat.mod_lt (unit / 4096) (by decide : 0 < 16))
  have d₂ := hexValue?_digitChar (Nat.mod_lt (unit / 256) (by decide : 0 < 16))
  have d₃ := hexValue?_digitChar (Nat.mod_lt (unit / 16) (by decide : 0 < 16))
  have d₄ := hexValue?_digitChar (Nat.mod_lt unit (by decide : 0 < 16))
  simp only [unitEscape, hex4, List.cons_append, List.nil_append]
  rw [scanUnits.eq_def]
  simp only [Char.reduceEq, if_false, if_true, d₁, d₂, d₃, d₄]
  cases scanUnits rest with
  | none => rfl
  | some scanned => exact congrArg (fun u => some (u :: scanned.1, scanned.2)) whole

theorem scanUnits_quote (rest : PyText) : scanUnits ('"' :: rest) = some ([], rest) := by
  rw [scanUnits.eq_def]
  exact if_pos rfl

theorem scanUnits_short {letter c : Char} (short : unescape? letter = some c) (rest : PyText) :
    scanUnits ('\\' :: letter :: rest) = prepend [c.toNat] (scanUnits rest) := by
  have notU : letter ≠ 'u' := by
    intro same
    rw [same] at short
    cases short
  rw [scanUnits.eq_def]
  simp only [Char.reduceEq, if_false, if_true, notU, short]
  cases scanUnits rest <;> rfl

theorem scanUnits_plain {c : Char} (quote : c ≠ '"') (backslash : c ≠ '\\') (printable : 32 ≤ c.toNat)
    (rest : PyText) : scanUnits (c :: rest) = prepend [c.toNat] (scanUnits rest) := by
  rw [scanUnits.eq_def]
  simp only [quote, backslash, Nat.not_lt.mpr printable, if_false]
  cases scanUnits rest <;> rfl

/-- Each short escape is the one its letter stands for. -/
theorem unescape?_of_shortEscape? {c letter : Char} (short : shortEscape? c = some letter) :
    unescape? letter = some c := by
  simp only [shortEscape?] at short
  split_ifs at short with h₁ h₂ h₃ h₄ h₅ h₆ h₇
  all_goals
    cases short
    simp [unescape?, *]

theorem ascii_of_shortEscape? {c letter : Char} (short : shortEscape? c = some letter) : c.toNat < 128 := by
  simp only [shortEscape?] at short
  split_ifs at short
  all_goals
    subst c
    decide

/-- A character without a short escape is neither a quote nor a backslash. -/
theorem plain_of_shortEscape? {c : Char} (long : shortEscape? c = none) : c ≠ '"' ∧ c ≠ '\\' := by
  constructor
  all_goals
    intro same
    rw [same] at long
    cases long

/-- A character is no surrogate, and below the end of Unicode. -/
theorem scalar (c : Char) : c.toNat < 0xD800 ∨ 0xDFFF < c.toNat ∧ c.toNat < 0x110000 := c.valid

theorem unitsOf_lt (c : Char) : ∀ unit ∈ unitsOf c, unit < 0x10000 := by
  have valid := scalar c
  unfold unitsOf
  split
  · next small => simpa using small
  · next large =>
      intro unit member
      simp only [List.mem_cons, List.not_mem_nil, or_false] at member
      rcases member with high | low
      · omega
      · omega

theorem scanUnits_unitEscapes {units : List Nat} (small : ∀ unit ∈ units, unit < 0x10000) (rest : PyText) :
    scanUnits ((units.map unitEscape).flatten ++ rest) = prepend units (scanUnits rest) := by
  induction units with
  | nil => cases h : scanUnits rest <;> simp [prepend, h]
  | cons unit units ih =>
      rw [List.map_cons, List.flatten_cons, List.append_assoc,
        scanUnits_unitEscape (small unit List.mem_cons_self),
        ih fun unit member => small unit (List.mem_cons_of_mem _ member), prepend_prepend]
      rfl

theorem scanUnits_escape (c : Char) (rest : PyText) :
    scanUnits (escape c ++ rest) = prepend (unitsOf c) (scanUnits rest) := by
  unfold escape
  split
  · next letter short =>
      have ascii : unitsOf c = [c.toNat] := if_pos (by have := ascii_of_shortEscape? short; omega)
      rw [ascii]
      exact scanUnits_short (unescape?_of_shortEscape? short) rest
  · next long =>
      rcases plain_of_shortEscape? long with ⟨quote, backslash⟩
      split
      · next printable =>
          have ascii : unitsOf c = [c.toNat] := if_pos (by omega)
          rw [ascii]
          exact scanUnits_plain quote backslash printable.1 rest
      · exact scanUnits_unitEscapes (unitsOf_lt c) rest

/-- The units of a character are read as the character. -/
theorem ofUnits?_unitsOf (c : Char) (units : List Nat) :
    ofUnits? (unitsOf c ++ units) = (ofUnits? units).map (c :: ·) := by
  have valid := scalar c
  unfold unitsOf
  split
  · next small =>
      have high : ¬ (0xD800 ≤ c.toNat ∧ c.toNat < 0xDC00) := by omega
      have low : ¬ (0xDC00 ≤ c.toNat ∧ c.toNat < 0xE000) := by omega
      rw [List.singleton_append, ofUnits?.eq_def]
      simp only [if_neg high, if_neg low, Char.ofNat_toNat]
      cases ofUnits? units <;> rfl
  · next large =>
      have high : 0xD800 ≤ 0xD800 + (c.toNat - 0x10000) / 1024 ∧
          0xD800 + (c.toNat - 0x10000) / 1024 < 0xDC00 := by omega
      have low : 0xDC00 ≤ 0xDC00 + (c.toNat - 0x10000) % 1024 ∧
          0xDC00 + (c.toNat - 0x10000) % 1024 < 0xE000 := by omega
      have whole : 0x10000 + (0xD800 + (c.toNat - 0x10000) / 1024 - 0xD800) * 1024 +
          (0xDC00 + (c.toNat - 0x10000) % 1024 - 0xDC00) = c.toNat := by omega
      rw [List.cons_append, List.singleton_append, ofUnits?.eq_def]
      simp only [if_pos high, if_pos low, whole, Char.ofNat_toNat]
      cases ofUnits? units <;> rfl

theorem scanString_quoted (text rest : PyText) :
    scanString ((text.map escape).flatten ++ '"' :: rest) = some (text, rest) := by
  have scanned : scanUnits ((text.map escape).flatten ++ '"' :: rest) =
      some ((text.map unitsOf).flatten, rest) := by
    induction text with
    | nil => exact scanUnits_quote rest
    | cons c text ih =>
        rw [List.map_cons, List.flatten_cons, List.append_assoc, scanUnits_escape, ih, prepend_some]
        rfl
  have joined : ofUnits? (text.map unitsOf).flatten = some text := by
    clear scanned
    induction text with
    | nil => rfl
    | cons c text ih => rw [List.map_cons, List.flatten_cons, ofUnits?_unitsOf, ih, Option.map_some]
  simp [scanString, scanned, joined]

/-! ### Numbers read back -/

/-- Only zero is written with a zero at its head. -/
theorem toDigits_head {n : Nat} (positive : 0 < n) : (Nat.toDigits 10 n).head? ≠ some '0' := by
  induction n using Nat.strongRecOn with
  | _ n ih =>
      by_cases small : n < 10
      · have digits : ∀ d, d < 10 → 0 < d → Nat.digitChar d ≠ '0' := by decide
        rw [Nat.toDigits_of_lt_base small]
        intro same
        exact digits n small positive (Option.some.inj same)
      · rw [Nat.toDigits_of_base_le (by decide) (Nat.not_lt.mp small),
          List.head?_append_of_ne_nil _ Nat.toDigits_ne_nil]
        exact ih (n / 10) (Nat.div_lt_self positive (by decide)) (by omega)

theorem scanNat_toDigits (n : Nat) {rest : PyText} (stop : ∀ c ∈ rest.head?, c.isDigit = false) :
    scanNat (Nat.toDigits 10 n ++ rest) = some (n, rest) := by
  rcases Nat.eq_zero_or_pos n with zero | positive
  · rw [zero]
    rfl
  · have digits : ∀ c ∈ Nat.toDigits 10 n, c.isDigit = true := fun c member =>
      Nat.isDigit_of_mem_toDigits (by decide) (by decide) member
    have spans : Spans Char.isDigit (Nat.toDigits 10 n) rest := ⟨digits, stop⟩
    have run := spans.takeWhile_eq
    have behind := spans.dropWhile_eq
    have value : Nat.ofDigitChars 10 (Nat.toDigits 10 n) 0 = n :=
      Nat.ofDigitChars_toDigits (by decide) (by decide)
    have leading := toDigits_head positive
    cases h : Nat.toDigits 10 n with
    | nil => exact absurd h Nat.toDigits_ne_nil
    | cons c more =>
        rw [h] at run behind value leading digits
        rw [List.cons_append] at run behind ⊢
        have notZero : c ≠ '0' := fun zero => leading (congrArg some zero)
        rw [scanNat, if_neg notZero, if_pos (digits c List.mem_cons_self), run, behind, value]

/-! ### Documents read back -/

/-- The text does not begin with a digit, as behind a value. -/
def NoDigit (text : PyText) : Prop := ∀ c ∈ text.head?, c.isDigit = false

theorem skipBlanks_newline (depth : Nat) (text : PyText) :
    skipBlanks (newline depth ++ text) = skipBlanks text := by
  have blanks : ∀ c ∈ newline depth, isBlank c = true := by
    intro c member
    rcases List.mem_cons.mp member with rfl | space
    · rfl
    · rw [List.eq_of_mem_replicate space]
      rfl
  exact List.dropWhile_append_of_pos blanks

theorem skipBlanks_of_head {c : Char} (visible : isBlank c = false) (text : PyText) :
    skipBlanks (c :: text) = c :: text :=
  List.dropWhile_cons_of_neg (by rw [visible]; decide)

theorem skipBlanks_space (text : PyText) : skipBlanks (' ' :: text) = skipBlanks text := rfl

/-- Where a value begins there is no white space, and no bracket that closes. -/
def Opens (c : Char) : Prop := isBlank c = false ∧ c ≠ ']' ∧ c ≠ '}'

instance (c : Char) : Decidable (Opens c) := inferInstanceAs (Decidable (_ ∧ _))

theorem opens_of_isDigit {c : Char} (digit : c.isDigit = true) : Opens c := by
  refine ⟨?_, ?_, ?_⟩
  · apply Bool.eq_false_iff.mpr
    intro blank
    simp only [isBlank, Bool.or_eq_true, decide_eq_true_eq] at blank
    rcases blank with ((rfl | rfl) | rfl) | rfl <;> cases digit
  all_goals
    intro same
    rw [same] at digit
    cases digit

theorem toDigits_opens (n : Nat) : ∃ c text, Nat.toDigits 10 n = c :: text ∧ Opens c := by
  cases h : Nat.toDigits 10 n with
  | nil => exact absurd h Nat.toDigits_ne_nil
  | cons c text =>
      have member : c ∈ Nat.toDigits 10 n := h ▸ List.mem_cons_self
      exact ⟨c, text, rfl, opens_of_isDigit (Nat.isDigit_of_mem_toDigits (by decide) (by decide) member)⟩

theorem dump_opens (depth : Nat) (value : Json) : ∃ c text, dump depth value = c :: text ∧ Opens c := by
  cases value with
  | null => exact ⟨'n', _, by rw [dump]; rfl, by decide⟩
  | bool b =>
      cases b with
      | true => exact ⟨'t', _, by rw [dump]; rfl, by decide⟩
      | false => exact ⟨'f', _, by rw [dump]; rfl, by decide⟩
  | int i =>
      cases i with
      | ofNat n => simpa only [dump, decimal] using toDigits_opens n
      | negSucc n => exact ⟨'-', _, by rw [dump]; rfl, by decide⟩
  | str text => exact ⟨'"', _, by rw [dump]; rfl, by decide⟩
  | arr items =>
      cases items with
      | nil => exact ⟨'[', _, by rw [dump]; rfl, by decide⟩
      | cons item items => exact ⟨'[', _, by rw [dump]; rfl, by decide⟩
  | obj members =>
      cases members with
      | nil => exact ⟨'{', _, by rw [dump]; rfl, by decide⟩
      | cons member members => exact ⟨'{', _, by rw [dump]; rfl, by decide⟩

theorem skipBlanks_dump (depth : Nat) (value : Json) (rest : PyText) :
    skipBlanks (dump depth value ++ rest) = dump depth value ++ rest := by
  rcases dump_opens depth value with ⟨c, text, same, opens⟩
  rw [same, List.cons_append, skipBlanks_of_head opens.1]

theorem length_dump_pos (depth : Nat) (value : Json) : 0 < (dump depth value).length := by
  rcases dump_opens depth value with ⟨c, text, same, _⟩
  rw [same]
  exact Nat.succ_pos _

theorem scanValue_items (fuel : Nat) {rest : PyText} {item : Json} {items : List Json} {behind : PyText}
    (opens : ∃ c text, skipBlanks rest = c :: text ∧ Opens c)
    (scanned : scanItems fuel (skipBlanks rest) = some (item :: items, behind)) :
    scanValue (fuel + 1) ('[' :: rest) = some (.arr (item :: items), behind) := by
  rcases opens with ⟨c, text, same, _, notClosed, _⟩
  rw [scanValue.eq_def]
  simp only [Char.reduceEq, if_false, if_true]
  split
  · next closed =>
      rw [same] at closed
      exact absurd (List.cons.inj closed).1 notClosed
  · rw [scanned, Option.map_some]

theorem scanValue_members (fuel : Nat) {rest : PyText} {member : PyText × Json}
    {members : List (PyText × Json)} {behind : PyText}
    (opens : ∃ c text, skipBlanks rest = c :: text ∧ Opens c)
    (scanned : scanMembers fuel (skipBlanks rest) = some (member :: members, behind)) :
    scanValue (fuel + 1) ('{' :: rest) = some (.obj (member :: members), behind) := by
  rcases opens with ⟨c, text, same, _, _, notClosed⟩
  rw [scanValue.eq_def]
  simp only [Char.reduceEq, if_false, if_true]
  split
  · next closed =>
      rw [same] at closed
      exact absurd (List.cons.inj closed).1 notClosed
  · rw [scanned, Option.map_some]

theorem scanItems_last {fuel : Nat} {text rest behind : PyText} {item : Json}
    (scanned : scanValue fuel text = some (item, rest)) (closed : skipBlanks rest = ']' :: behind) :
    scanItems (fuel + 1) text = some ([item], behind) := by
  rw [scanItems, scanned]
  simp only [closed]

theorem scanItems_more {fuel : Nat} {text rest behind : PyText} {item : Json} {items : List Json}
    (more : PyText) (scanned : scanValue fuel text = some (item, rest)) (comma : skipBlanks rest = ',' :: more)
    (others : scanItems fuel (skipBlanks more) = some (items, behind)) :
    scanItems (fuel + 1) text = some (item :: items, behind) := by
  rw [scanItems, scanned]
  simp only [comma, others, Option.map_some]

theorem scanMembers_last {fuel : Nat} {text value_ behind : PyText} {name : PyText} {value : Json}
    (rest : PyText) (named : scanString text = some (name, ':' :: value_))
    (scanned : scanValue fuel (skipBlanks value_) = some (value, rest))
    (closed : skipBlanks rest = '}' :: behind) :
    scanMembers (fuel + 1) ('"' :: text) = some ([(name, value)], behind) := by
  rw [scanMembers, named]
  simp only [skipBlanks_of_head (rfl : isBlank ':' = false), scanned, closed]

theorem scanMembers_more {fuel : Nat} {text value_ behind : PyText} {name : PyText} {value : Json}
    {members : List (PyText × Json)} (rest more : PyText) (named : scanString text = some (name, ':' :: value_))
    (scanned : scanValue fuel (skipBlanks value_) = some (value, rest))
    (comma : skipBlanks rest = ',' :: more)
    (others : scanMembers fuel (skipBlanks more) = some (members, behind)) :
    scanMembers (fuel + 1) ('"' :: text) = some ((name, value) :: members, behind) := by
  rw [scanMembers, named]
  simp only [skipBlanks_of_head (rfl : isBlank ':' = false), scanned, comma, others, Option.map_some]

theorem scanValue_digits (fuel n : Nat) {rest : PyText} (stop : NoDigit rest) :
    scanValue (fuel + 1) (Nat.toDigits 10 n ++ rest) = some (.int n, rest) := by
  have scanned := scanNat_toDigits n stop
  cases h : Nat.toDigits 10 n with
  | nil => exact absurd h Nat.toDigits_ne_nil
  | cons c more =>
      have digit : c.isDigit = true :=
        Nat.isDigit_of_mem_toDigits (by decide) (by decide) (h ▸ List.mem_cons_self : c ∈ Nat.toDigits 10 n)
      have other : ∀ d, d.isDigit = false → c ≠ d := by
        intro d notDigit same
        rw [same, notDigit] at digit
        cases digit
      rw [h] at scanned
      rw [List.cons_append] at scanned ⊢
      rw [scanValue.eq_def]
      simp only [if_neg (other '"' rfl), if_neg (other '{' rfl), if_neg (other '[' rfl),
        if_neg (other '-' rfl), if_neg (other 'n' rfl), if_neg (other 't' rfl), if_neg (other 'f' rfl),
        scanned, Option.map_some]

theorem noDigit_newline {depth : Nat} {text : PyText} : NoDigit (newline depth ++ text) := by
  intro c first
  cases first
  rfl

theorem noDigit_dumpItems {depth depth' : Nat} {items : List Json} {text : PyText} :
    NoDigit (dumpItems depth items ++ (newline depth' ++ text)) := by
  cases items with
  | nil =>
      rw [dumpItems]
      exact noDigit_newline
  | cons item items =>
      intro c first
      rw [dumpItems] at first
      cases first
      rfl

theorem noDigit_dumpMembers {depth depth' : Nat} {members : List (PyText × Json)} {text : PyText} :
    NoDigit (dumpMembers depth members ++ (newline depth' ++ text)) := by
  cases members with
  | nil =>
      rw [dumpMembers]
      exact noDigit_newline
  | cons member members =>
      intro c first
      rw [dumpMembers] at first
      cases first
      rfl

theorem quoted_append (text rest : PyText) :
    quoted text ++ rest = '"' :: ((text.map escape).flatten ++ '"' :: rest) := by
  simp [quoted]

mutual

/-- A value that is written reads back, whatever follows that is not a digit. -/
theorem scanValue_dump : ∀ (fuel : Nat) (value : Json) (depth : Nat) {rest : PyText}, NoDigit rest →
    2 * (dump depth value).length ≤ fuel → scanValue fuel (dump depth value ++ rest) = some (value, rest)
  | 0, value, depth, rest, _, enough => by
      have := length_dump_pos depth value
      omega
  | fuel + 1, .null, depth, rest, _, _ => by
      simp [dump, scanValue]
  | fuel + 1, .bool true, depth, rest, _, _ => by
      simp [dump, scanValue]
  | fuel + 1, .bool false, depth, rest, _, _ => by
      simp [dump, scanValue]
  | fuel + 1, .int (.ofNat n), depth, rest, stop, _ => by
      rw [dump, decimal]
      exact scanValue_digits fuel n stop
  | fuel + 1, .int (.negSucc n), depth, rest, stop, _ => by
      rw [dump, decimal, List.cons_append, scanValue.eq_def]
      simp only [Char.reduceEq, if_false, if_true, scanNat_toDigits (n + 1) stop, Option.map_some]
      rfl
  | fuel + 1, .str text, depth, rest, _, _ => by
      rw [dump, quoted_append, scanValue.eq_def]
      simp only [if_true, scanString_quoted, Option.map_some]
  | fuel + 1, .arr [], depth, rest, _, _ => by
      simp [dump, scanValue, skipBlanks, isBlank]
  | fuel + 1, .arr (item :: items), depth, rest, _, enough => by
      have begin_ : ∀ text, skipBlanks (newline (depth + 1) ++ (dump (depth + 1) item ++ text)) =
          dump (depth + 1) item ++ text := fun text => by
        rw [skipBlanks_newline, skipBlanks_dump]
      have split_ : dump depth (.arr (item :: items)) ++ rest = '[' :: (newline (depth + 1) ++
          (dump (depth + 1) item ++ (dumpItems (depth + 1) items ++ (newline depth ++ ']' :: rest)))) := by
        simp [dump]
      rw [split_]
      refine scanValue_items fuel ?_ ?_
      · rcases dump_opens (depth + 1) item with ⟨c, text, same, opens⟩
        rw [begin_, same]
        exact ⟨c, _, rfl, opens⟩
      · rw [begin_]
        refine scanItems_dump fuel item items (depth + 1) depth ?_
        simp only [dump, List.cons_append, List.length_cons, List.length_append] at enough
        omega
  | fuel + 1, .obj [], depth, rest, _, _ => by
      simp [dump, scanValue, skipBlanks, isBlank]
  | fuel + 1, .obj ((name, value) :: members), depth, rest, _, enough => by
      have begin_ : ∀ text, skipBlanks (newline (depth + 1) ++ (quoted name ++ text)) =
          quoted name ++ text := fun text => by
        rw [skipBlanks_newline, quoted_append, skipBlanks_of_head rfl]
      have split_ : dump depth (.obj ((name, value) :: members)) ++ rest = '{' :: (newline (depth + 1) ++
          (quoted name ++ (':' :: ' ' :: (dump (depth + 1) value ++ (dumpMembers (depth + 1) members ++
            (newline depth ++ '}' :: rest)))))) := by
        simp [dump]
      rw [split_]
      refine scanValue_members fuel ?_ ?_
      · rw [begin_, quoted_append]
        exact ⟨'"', _, rfl, by decide⟩
      · rw [begin_]
        refine scanMembers_dump fuel name value members (depth + 1) depth ?_
        simp only [dump, List.cons_append, List.length_cons, List.length_append] at enough
        omega

theorem scanItems_dump : ∀ (fuel : Nat) (item : Json) (items : List Json) (depth depth' : Nat)
    {rest : PyText}, 2 * ((dump depth item).length + (dumpItems depth items).length) + 1 ≤ fuel →
      scanItems fuel (dump depth item ++ (dumpItems depth items ++ (newline depth' ++ ']' :: rest))) =
        some (item :: items, rest)
  | 0, item, items, depth, depth', rest, enough => by omega
  | fuel + 1, item, [], depth, depth', rest, enough => by
      refine scanItems_last (scanValue_dump fuel item depth noDigit_dumpItems (by omega)) ?_
      rw [dumpItems, List.nil_append, skipBlanks_newline]
      rfl
  | fuel + 1, item, second :: items, depth, depth', rest, enough => by
      have written := length_dump_pos depth item
      simp only [dumpItems, List.cons_append, List.length_cons, List.length_append] at enough
      refine scanItems_more (newline depth ++ (dump depth second ++ (dumpItems depth items ++
        (newline depth' ++ ']' :: rest)))) (scanValue_dump fuel item depth noDigit_dumpItems (by omega)) ?_ ?_
      · simp [dumpItems, skipBlanks_of_head (rfl : isBlank ',' = false)]
      · rw [skipBlanks_newline, skipBlanks_dump]
        exact scanItems_dump fuel second items depth depth' (by omega)

theorem scanMembers_dump : ∀ (fuel : Nat) (name : PyText) (value : Json) (members : List (PyText × Json))
    (depth depth' : Nat) {rest : PyText},
    2 * ((quoted name).length + 2 + (dump depth value).length + (dumpMembers depth members).length) + 1 ≤
      fuel →
      scanMembers fuel (quoted name ++ (':' :: ' ' :: (dump depth value ++ (dumpMembers depth members ++
        (newline depth' ++ '}' :: rest))))) = some ((name, value) :: members, rest)
  | 0, name, value, members, depth, depth', rest, enough => by omega
  | fuel + 1, name, value, [], depth, depth', rest, enough => by
      rw [quoted_append]
      refine scanMembers_last (dumpMembers depth [] ++ (newline depth' ++ '}' :: rest))
        (scanString_quoted name _) ?_ ?_
      · rw [skipBlanks_space, skipBlanks_dump]
        exact scanValue_dump fuel value depth noDigit_dumpMembers (by omega)
      · rw [dumpMembers, List.nil_append, skipBlanks_newline]
        rfl
  | fuel + 1, name, value, (name', value') :: members, depth, depth', rest, enough => by
      simp only [dumpMembers, List.cons_append, List.length_cons, List.length_append, List.length_nil] at enough
      rw [quoted_append]
      refine scanMembers_more (dumpMembers depth ((name', value') :: members) ++ (newline depth' ++ '}' :: rest))
        (newline depth ++ (quoted name' ++ (':' :: ' ' :: (dump depth value' ++ (dumpMembers depth members ++
        (newline depth' ++ '}' :: rest)))))) (scanString_quoted name _) ?_ ?_ ?_
      · rw [skipBlanks_space, skipBlanks_dump]
        exact scanValue_dump fuel value depth noDigit_dumpMembers (by omega)
      · simp [dumpMembers, skipBlanks_of_head (rfl : isBlank ',' = false)]
      · rw [skipBlanks_newline, quoted_append, skipBlanks_of_head (rfl : isBlank '"' = false), ← quoted_append]
        exact scanMembers_dump fuel name' value' members depth depth' (by omega)

end

/-- What `json.dumps` writes, `json.loads` reads, also with blanks behind it. -/
theorem loads_dumps (value : Json) {blanks : PyText} (blank : ∀ c ∈ blanks, isBlank c = true) :
    loads (dumps value ++ blanks) = some value := by
  have stop : NoDigit blanks := by
    intro c first
    have notDigit := blank c (List.mem_of_mem_head? first)
    by_contra digit
    rw [(opens_of_isDigit (by simpa using digit)).1] at notDigit
    cases notDigit
  have scanned : scanValue (2 * (dumps value ++ blanks).length + 1) (dumps value ++ blanks) =
      some (value, blanks) := by
    refine scanValue_dump _ value 0 stop ?_
    rw [List.length_append, dumps]
    omega
  have ended : skipBlanks blanks = [] := List.dropWhile_eq_nil_iff.mpr blank
  rw [loads, dumps, skipBlanks_dump, ← dumps, scanned]
  simp only [ended, if_true]

/-! ### Members -/

/-- `members.get(name)` of a dictionary read from a text: the last member of that name counts. -/
def get? (members : List (PyText × Json)) (name : PyText) : Option Json :=
  (members.reverse.find? fun member => member.1 = name).map Prod.snd

end Json
