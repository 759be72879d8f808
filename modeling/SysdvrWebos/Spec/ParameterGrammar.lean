/-
Module: SysdvrWebos.Spec.ParameterGrammar
Layer: Spec
Purpose: JSON objects whose members are strings, as texts: strings with every escape of RFC 8259, and blanks
  between the tokens. The value of a parameter is the decoded string of the member of that name.
Trusted boundary: the bytes of a string are not checked for UTF-8, and a surrogate that stands alone is
  decoded to three bytes like any other unit
Main exports: StringItem, decodeItems, Member, ParameterObject, ParameterObject.text, PlainKey,
  ParameterObject.wanted, placeOf, ParameterObject.Harmless, ParameterObject.ReadsRight
Open obligations: none
-/
import SysdvrWebos.Core.LaunchParameters

namespace SysdvrWebos

/-! ### Strings -/

/-- A byte that stands for itself in a string. -/
abbrev PlainByte := { byte : UInt8 // 32 ≤ byte ∧ byte ≠ 34 ∧ byte ≠ 92 }

/-- A hexadecimal digit. -/
abbrev HexDigit :=
  { byte : UInt8 // (48 ≤ byte ∧ byte ≤ 57) ∨ (65 ≤ byte ∧ byte ≤ 70) ∨ (97 ≤ byte ∧ byte ≤ 102) }

def HexDigit.value (digit : HexDigit) : Nat :=
  if digit.val ≤ 57 then digit.val.toNat - 48
  else if digit.val ≤ 70 then digit.val.toNat - 55
  else digit.val.toNat - 87

/-- The escapes of two characters. -/
inductive ShortEscape where
  | quote
  | backslash
  | slash
  | backspace
  | formFeed
  | lineFeed
  | carriageReturn
  | tab
deriving Repr, DecidableEq

/-- The letter behind the backslash. -/
def ShortEscape.letter : ShortEscape → UInt8
  | .quote => 34
  | .backslash => 92
  | .slash => 47
  | .backspace => 98
  | .formFeed => 102
  | .lineFeed => 110
  | .carriageReturn => 114
  | .tab => 116

/-- The byte that is meant. -/
def ShortEscape.byte : ShortEscape → UInt8
  | .quote => 34
  | .backslash => 92
  | .slash => 47
  | .backspace => 8
  | .formFeed => 12
  | .lineFeed => 10
  | .carriageReturn => 13
  | .tab => 9

/-- A piece of a string between its quotes. -/
inductive StringItem where
  | plain (byte : PlainByte)
  | short (escape : ShortEscape)
  | unicode (a b c d : HexDigit)
deriving DecidableEq

namespace StringItem

/-- The piece in the text. -/
def text : StringItem → List UInt8
  | .plain byte => [byte.val]
  | .short escape => [92, escape.letter]
  | .unicode a b c d => [92, 117, a.val, b.val, c.val, d.val]

/-- The piece without its backslash. -/
def spelled : StringItem → List UInt8
  | .plain byte => [byte.val]
  | .short escape => [escape.letter]
  | .unicode a b c d => [117, a.val, b.val, c.val, d.val]

/-- The piece is a `\u` escape. -/
def isUnicode : StringItem → Bool
  | .unicode .. => true
  | _ => false

/-- The piece stands for what is left without the backslash: no escape, or one of a quote, a backslash or a
    slash. -/
def Literal : StringItem → Prop
  | .plain _ => True
  | .short escape => escape.letter = escape.byte
  | .unicode .. => False

instance : DecidablePred Literal
  | .plain _ => .isTrue trivial
  | .short escape => inferInstanceAs (Decidable (escape.letter = escape.byte))
  | .unicode .. => .isFalse id

end StringItem

/-- The UTF-16 unit of an escape. -/
def unitOf (a b c d : HexDigit) : Nat := ((a.value * 16 + b.value) * 16 + c.value) * 16 + d.value

/-- A code point in UTF-8. -/
def utf8Bytes (point : Nat) : List UInt8 :=
  if point < 0x80 then [UInt8.ofNat point]
  else if point < 0x800 then [UInt8.ofNat (0xC0 + point / 64), UInt8.ofNat (0x80 + point % 64)]
  else if point < 0x10000 then
    [UInt8.ofNat (0xE0 + point / 4096), UInt8.ofNat (0x80 + point / 64 % 64), UInt8.ofNat (0x80 + point % 64)]
  else
    [UInt8.ofNat (0xF0 + point / 262144), UInt8.ofNat (0x80 + point / 4096 % 64),
      UInt8.ofNat (0x80 + point / 64 % 64), UInt8.ofNat (0x80 + point % 64)]

/-- The string that some pieces stand for. Two escapes of a high and a low surrogate are one character. -/
def decodeItems : List StringItem → List UInt8
  | [] => []
  | .plain byte :: items => byte.val :: decodeItems items
  | .short escape :: items => escape.byte :: decodeItems items
  | .unicode a b c d :: .unicode a' b' c' d' :: items =>
      let high := unitOf a b c d
      let low := unitOf a' b' c' d'
      if 0xD800 ≤ high ∧ high < 0xDC00 ∧ 0xDC00 ≤ low ∧ low < 0xE000 then
        utf8Bytes (0x10000 + (high - 0xD800) * 1024 + (low - 0xDC00)) ++ decodeItems items
      else
        utf8Bytes high ++ decodeItems (.unicode a' b' c' d' :: items)
  | .unicode a b c d :: items => utf8Bytes (unitOf a b c d) ++ decodeItems items

/-- The bytes between the quotes. -/
def rawText (items : List StringItem) : List UInt8 := (items.map StringItem.text).flatten

/-- The bytes between the quotes without the backslashes of the escapes. -/
def spelledText (items : List StringItem) : List UInt8 := (items.map StringItem.spelled).flatten

/-! ### Objects -/

/-- White space between tokens. -/
abbrev Blanks := { bytes : List UInt8 // ∀ byte ∈ bytes, byte = 32 ∨ byte = 9 ∨ byte = 10 ∨ byte = 13 }

/-- A member with a string, and the blanks around its tokens. No value has an escaped NUL. -/
structure Member where
  beforeName : Blanks
  name : List StringItem
  afterName : Blanks
  beforeValue : Blanks
  value : List StringItem
  afterValue : Blanks
  nul_free : ∀ a b c d, .unicode a b c d ∈ value → unitOf a b c d ≠ 0

/-- Between the quotes around a colon. -/
def Member.colon (member : Member) : List UInt8 := member.afterName.val ++ 58 :: member.beforeValue.val

/-- Between the quotes around a comma. -/
def Member.comma (member next : Member) : List UInt8 := member.afterValue.val ++ 44 :: next.beforeName.val

/-- From the last quote of a member on, up to the next one. -/
def Member.separator (closing : List UInt8) (member : Member) : (next : Option Member) → List UInt8
  | none => member.afterValue.val ++ closing
  | some next => member.comma next

/-- From the first quote of some members on. -/
def membersText (closing : List UInt8) : List Member → List UInt8
  | [] => []
  | member :: others =>
      34 :: (rawText member.name ++ 34 :: (member.colon ++ 34 :: (rawText member.value ++
        34 :: (member.separator closing others.head? ++ membersText closing others))))

/-- A JSON object of strings with distinct names. -/
structure ParameterObject where
  before : Blanks
  inner : Blanks
  members : List Member
  after : Blanks
  distinct : (members.map fun member => decodeItems member.name).Nodup

/-- The text of an object. -/
def ParameterObject.text (object : ParameterObject) : List UInt8 :=
  let closing := 125 :: object.after.val
  object.before.val ++ 123 :: (object.inner.val ++
    match object.members with
    | [] => closing
    | first :: _ => first.beforeName.val ++ membersText closing object.members)

/-! ### Lookups -/

/-- A key that needs no escapes. -/
structure PlainKey where
  bytes : List UInt8
  plain : ∀ byte ∈ bytes, 32 ≤ byte ∧ byte ≠ 34 ∧ byte ≠ 92
  short : bytes.length ≤ 90

/-- The decoded value of the member of that name. -/
def ParameterObject.value (object : ParameterObject) (key : PlainKey) : Option (List UInt8) :=
  (object.members.find? fun member => decodeItems member.name = key.bytes).map fun member =>
    decodeItems member.value

/-- What leaves room for the terminator. -/
def fitting (outSize : Nat) (text : Option (List UInt8)) : Option (List UInt8) :=
  text.filter fun text => text.length < outSize

/-- What a lookup should come to: the value, if it fits. -/
def ParameterObject.wanted (object : ParameterObject) (key : PlainKey) (outSize : Nat) : Option (List UInt8) :=
  fitting outSize (object.value key)

/-! ### Where a key is found -/

/-- The quoted key ends where the string ends: it is the string, or what follows an escaped quote in it. -/
def EndsWith (key : List UInt8) (items : List StringItem) : Prop :=
  rawText items = key ∨ 34 :: key <:+ rawText items

instance (key : List UInt8) (items : List StringItem) : Decidable (EndsWith key items) :=
  inferInstanceAs (Decidable (_ ∨ _))

/-- Where the quoted key first occurs: nowhere, at the end of a name or of a value, or between the quotes of
    two strings. In that case `opened` is the second string, and `behind` what stands between it and the next
    one. -/
inductive Place where
  | nowhere
  | name (member : Member)
  | value
  | between (opened : List StringItem) (behind : Option (List UInt8))

/-- The place of a key in some members. -/
def placeOf (key : List UInt8) : List Member → Place
  | [] => .nowhere
  | member :: others =>
      if EndsWith key member.name then .name member
      else if member.colon = key then .between member.value (others.head?.map member.comma)
      else if EndsWith key member.value then .value
      else
        match others with
        | [] => .nowhere
        | next :: _ =>
            if member.comma next = key then .between next.name (some next.colon) else placeOf key others

/-- A string of blanks and one colon. -/
def IsColon (items : List StringItem) : Prop := (rawText items).filter (· ≠ 32) = [58]

instance (items : List StringItem) : Decidable (IsColon items) := inferInstanceAs (Decidable (_ = _))

/-- A text that is read in place of the value does no harm: it is the value, or no value is there that fits,
    and the text does not fit either. -/
def ParameterObject.Harmless (object : ParameterObject) (key : PlainKey) (outSize : Nat) (read : List UInt8) :
    Prop :=
  object.value key = some read ∨ (object.wanted key outSize = none ∧ outSize ≤ read.length)

/-- The place of the key does no harm. At its own name, the value has no escapes but those of quotes,
    backslashes and slashes, or it is too long. Behind another name its value without the backslashes is
    harmless, and behind a string of a colon that was taken for one, what separates it from the next string.
    Elsewhere nothing is read, and no value is there that fits. -/
def ParameterObject.ReadsRight (object : ParameterObject) (key : PlainKey) (outSize : Nat) : Prop :=
  match placeOf key.bytes object.members with
  | .nowhere => object.wanted key outSize = none
  | .value => object.wanted key outSize = none
  | .name member =>
      if rawText member.name = key.bytes then
        (∀ item ∈ member.value, item.Literal) ∨ outSize ≤ (decodeItems member.value).length
      else
        object.Harmless key outSize (spelledText member.value)
  | .between opened behind =>
      if IsColon opened then
        match behind with
        | some separator => object.Harmless key outSize separator
        | none => object.wanted key outSize = none
      else
        object.wanted key outSize = none

end SysdvrWebos
