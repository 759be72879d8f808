/-
Module: SysdvrWebos.Proofs.BeaconParser
Layer: Proofs
Purpose: `parse_beacon` accepts exactly the beacons, and the announced address has no part in the record.
  Each call of strtok_r skips the separators at its cursor and takes the token behind them; `parse_port`
  takes a token that strtol consumes to the end.
Trusted boundary: none (fully proved)
Main exports: strtok_of_parts, strtok_some, parsePort_eq_some_iff, parseBeacon_of_text, text_of_parseBeacon,
  beacon_parser_is_exact
Open obligations: none
-/
import SysdvrWebos.Lib.Spans
import SysdvrWebos.Proofs.DescriptorParser
import SysdvrWebos.Spec.BeaconGrammar

namespace SysdvrWebos

/-! ### Tokens -/

section

variable {lead behind text bytes cursor : List UInt8}

/-- A call of `strtok_r` on separators, a token, and a rest that is empty or begins with a separator. -/
theorem strtok_of_parts (separators : ∀ byte ∈ lead, isBeaconSeparator byte = true)
    (token : BeaconToken) (ends : ∀ byte ∈ behind.head?, isBeaconSeparator byte = true) :
    strtok (lead ++ (token.bytes ++ behind)) = (some token.bytes, behind.drop 1) := by
  have skipped : Spans isBeaconSeparator lead (token.bytes ++ behind) := by
    refine ⟨separators, fun byte first => ?_⟩
    cases bytes : token.bytes with
    | nil => exact absurd bytes token.some_
    | cons head rest =>
        rw [bytes] at first
        cases first
        exact token.free byte (bytes ▸ List.mem_cons_self)
  have taken : Spans (!isBeaconSeparator ·) token.bytes behind := by
    refine ⟨fun byte member => ?_, fun byte first => ?_⟩
    · simp [token.free byte member]
    · simp [ends byte first]
  rw [strtok, skipped.dropWhile_eq]
  split
  · next nothing => exact absurd (List.append_eq_nil_iff.mp nothing).1 token.some_
  · rw [taken.takeWhile_eq, taken.dropWhile_eq]

/-- What a text is that hands out the given token. -/
theorem strtok_some (called : strtok text = (some bytes, cursor)) :
    ∃ (lead : List UInt8) (token : BeaconToken) (behind : List UInt8),
      text = lead ++ (token.bytes ++ behind) ∧ (∀ byte ∈ lead, isBeaconSeparator byte = true) ∧
        (∀ byte ∈ behind.head?, isBeaconSeparator byte = true) ∧
        bytes = token.bytes ∧ cursor = behind.drop 1 := by
  have skipped := Spans.of_list isBeaconSeparator text
  have whole := List.takeWhile_append_dropWhile (p := isBeaconSeparator) (l := text)
  unfold strtok at called
  cases start : text.dropWhile isBeaconSeparator with
  | nil =>
      rw [start] at called
      cases called
  | cons head rest =>
      rw [start] at called skipped whole
      have taken := Spans.of_list (!isBeaconSeparator ·) (head :: rest)
      have parts := List.takeWhile_append_dropWhile (p := (!isBeaconSeparator ·)) (l := head :: rest)
      have first : isBeaconSeparator head = false := skipped.stops head rfl
      obtain ⟨token, behind⟩ := Prod.mk.inj called
      refine ⟨text.takeWhile isBeaconSeparator, ⟨(head :: rest).takeWhile (!isBeaconSeparator ·), ?_, ?_⟩,
        (head :: rest).dropWhile (!isBeaconSeparator ·), ?_, skipped.inside, ?_,
        (Option.some.inj token).symm, behind.symm⟩
      · simp [first]
      · intro byte member
        simpa using taken.inside byte member
      · rw [parts, whole]
      · intro byte stop
        simpa using taken.stops byte stop

end

/-! ### Ports -/

theorem digitsValue_eq (digits : List UInt8) :
    digitsValue digits = Nat.ofDigits 10 (digits.map fun digit => digit.toNat - 48).reverse := by
  rw [Nat.ofDigits_eq_foldr, List.foldr_reverse, digitsValue, List.foldl_map]
  congr 1
  funext value digit
  simp only [Nat.cast_id]
  ring

theorem isSpace_of_isDigit {byte : UInt8} (digit : isDigit byte = true) : isSpace byte = false := by
  simp only [isDigit, Bool.and_eq_true, decide_eq_true_eq, UInt8.le_iff_toNat_le] at digit
  simp only [isSpace, Bool.or_eq_false_iff, Bool.and_eq_false_iff, decide_eq_false_iff_not,
    UInt8.le_iff_toNat_le, ← UInt8.toNat_inj]
  have bounds : (48 : UInt8).toNat = 48 ∧ (32 : UInt8).toNat = 32 ∧ (9 : UInt8).toNat = 9 ∧
      (13 : UInt8).toNat = 13 := by decide
  omega

/-- The sign `strtol` finds ahead of the digits, and what it reads behind it. -/
def signSplit (number : List UInt8) : Bool × List UInt8 :=
  match number with
  | 45 :: digits => (true, digits)
  | 43 :: digits => (false, digits)
  | digits => (false, digits)

/-- The port of a number of which the sign has been read. -/
def portOf (negative : Bool) (number : List UInt8) : Option UInt16 :=
  if number.takeWhile isDigit = [] ∨ number.dropWhile isDigit ≠ [] ∨ negative ∨
      digitsValue (number.takeWhile isDigit) = 0 ∨ digitsValue (number.takeWhile isDigit) > 65535 then
    none
  else
    some (UInt16.ofNat (digitsValue (number.takeWhile isDigit)))

theorem parsePort_eq (text : List UInt8) :
    parsePort text
      = portOf (signSplit (text.dropWhile isSpace)).1 (signSplit (text.dropWhile isSpace)).2 := rfl

/-- The sign and the digits behind it. -/
theorem signSplit_text (sign : Sign) {digits : List UInt8} (first : ∀ byte ∈ digits.head?, isDigit byte) :
    signSplit (sign.text ++ digits) = (decide (sign = .minus), digits) := by
  cases sign with
  | plus => rfl
  | minus => rfl
  | none =>
      change signSplit digits = (false, digits)
      unfold signSplit
      split
      · cases first 45 rfl
      · cases first 43 rfl
      · rfl

theorem text_of_signSplit (number : List UInt8) :
    ∃ sign : Sign, number = sign.text ++ (signSplit number).2 ∧
      ((signSplit number).1 = false → sign ≠ .minus) := by
  unfold signSplit
  split
  · exact ⟨.minus, rfl, nofun⟩
  · exact ⟨.plus, rfl, fun _ => nofun⟩
  · exact ⟨.none, rfl, fun _ => nofun⟩

/-- A port is a number that is all digits and in the range. -/
theorem portOf_eq_some_iff {negative : Bool} {number : List UInt8} {port : UInt16} :
    portOf negative number = some port ↔
      negative = false ∧ number ≠ [] ∧ (∀ byte ∈ number, isDigit byte = true) ∧
        1 ≤ port.toNat ∧ digitsValue number = port.toNat := by
  have parts := List.takeWhile_append_dropWhile (p := isDigit) (l := number)
  have range : UInt16.size = 65536 := rfl
  have bound := port.toNat_lt
  unfold portOf
  constructor
  · intro parsed
    split at parsed
    · cases parsed
    · next accepted =>
        simp only [not_or, not_not] at accepted
        rcases accepted with ⟨some_, ends, unsigned, positive, small⟩
        rw [ends, List.append_nil] at parts
        rw [parts] at some_ positive small parsed
        cases parsed
        have exact_ : (UInt16.ofNat (digitsValue number)).toNat = digitsValue number :=
          UInt16.toNat_ofNat_of_lt' (by omega)
        rw [exact_]
        exact ⟨by simpa using unsigned, some_, List.takeWhile_eq_self_iff.mp parts, by omega, rfl⟩
  · rintro ⟨rfl, some_, digits, positive, value⟩
    have ahead : number.takeWhile isDigit = number := List.takeWhile_eq_self_iff.mpr digits
    have behind : number.dropWhile isDigit = [] := List.dropWhile_eq_nil_iff.mpr digits
    rw [ahead, behind, value, UInt16.ofNat_toNat]
    apply if_neg
    simp only [some_, ne_eq, not_true_eq_false, Bool.false_eq_true, false_or]
    omega

/-- `parse_port` takes what strtol consumes with a value in the range, and the value is the port. -/
theorem parsePort_eq_some_iff {text : List UInt8} {port : UInt16} :
    parsePort text = some port ↔ StrtolConsumes text port.toNat ∧ 1 ≤ port.toNat := by
  rw [parsePort_eq, portOf_eq_some_iff]
  constructor
  · rintro ⟨unsigned, some_, digits, positive, value⟩
    have whole := List.takeWhile_append_dropWhile (p := isSpace) (l := text)
    rcases text_of_signSplit (text.dropWhile isSpace) with ⟨sign, number, same⟩
    refine ⟨⟨_, sign, _, ?_, (Spans.of_list isSpace text).inside, some_, digits, ?_⟩, positive⟩
    · rw [← number, whole]
    · rw [← digitsValue_eq, value]
      cases sign with
      | none => rfl
      | plus => rfl
      | minus => exact absurd rfl (same unsigned)
  · rintro ⟨⟨blanks, sign, digits, rfl, allBlank, some_, allDigits, value⟩, positive⟩
    have first : ∀ byte ∈ digits.head?, isDigit byte = true := fun byte head =>
      allDigits byte (List.mem_of_mem_head? head)
    have skipped : Spans isSpace blanks (sign.text ++ digits) := by
      refine ⟨allBlank, fun byte head => ?_⟩
      cases sign with
      | none => exact isSpace_of_isDigit (first byte head)
      | plus =>
          cases head
          decide
      | minus =>
          cases head
          decide
    rw [← digitsValue_eq] at value
    rw [skipped.dropWhile_eq, signSplit_text sign first]
    cases sign with
    | none =>
        have same : (port.toNat : Int) = digitsValue digits := value
        exact ⟨rfl, some_, allDigits, positive, by exact_mod_cast same.symm⟩
    | plus =>
        have same : (port.toNat : Int) = digitsValue digits := value
        exact ⟨rfl, some_, allDigits, positive, by exact_mod_cast same.symm⟩
    | minus =>
        have same : (port.toNat : Int) = -(digitsValue digits : Int) := value
        omega

/-! ### Beacons -/

variable {message : CString} {remote : Ipv4Address}

theorem beaconMagic_literal :
    (CString.literal "SFTAP1").bytes = [0x53, 0x46, 0x54, 0x41, 0x50, 0x31] := by decide

theorem free_of_all {bytes : List UInt8} (all : bytes.all (!isBeaconSeparator ·) = true) :
    ∀ byte ∈ bytes, isBeaconSeparator byte = false := by
  intro byte member
  simpa using List.all_eq_true.mp all byte member

/-- The magic as a token. -/
def magicToken : BeaconToken where
  bytes := [0x53, 0x46, 0x54, 0x41, 0x50, 0x31]
  some_ := by decide
  free := free_of_all rfl

namespace BeaconGap

theorem head_separator (gap : BeaconGap) (behind : List UInt8) :
    ∀ byte ∈ (gap.bytes ++ behind).head?, isBeaconSeparator byte = true := by
  intro byte first
  cases bytes : gap.bytes with
  | nil => exact absurd bytes gap.some_
  | cons head rest =>
      rw [bytes] at first
      cases first
      exact gap.separators byte (bytes ▸ List.mem_cons_self)

theorem drop_one (gap : BeaconGap) (behind : List UInt8) :
    (gap.bytes ++ behind).drop 1 = gap.bytes.drop 1 ++ behind :=
  List.drop_append_of_le_length (List.length_pos_of_ne_nil gap.some_)

theorem drop_separators (gap : BeaconGap) : ∀ byte ∈ gap.bytes.drop 1, isBeaconSeparator byte = true :=
  fun byte member => gap.separators byte (List.mem_of_mem_drop member)

end BeaconGap

/-- The three calls of `strtok_r` on a beacon. -/
theorem strtok_text (b : Beacon) :
    ∃ afterMagic afterAddress,
      strtok b.text = (some magicToken.bytes, afterMagic) ∧
        strtok afterMagic = (some b.address.bytes, afterAddress) ∧
        strtok afterAddress = (some b.portToken.bytes, b.tail.drop 1) := by
  have ends : ∀ byte ∈ b.tail.head?, isBeaconSeparator byte = true := by
    unfold Beacon.tail
    intro byte first
    cases behind : b.behind with
    | none =>
        rw [behind] at first
        cases first
    | some rest =>
        rw [behind] at first
        cases first
        exact b.behind_separator rest behind
  have address := strtok_of_parts b.gap.drop_separators b.address
    (b.secondGap.head_separator (b.portToken.bytes ++ b.tail))
  have port := strtok_of_parts b.secondGap.drop_separators b.portToken ends
  rw [← b.gap.drop_one] at address
  rw [← b.secondGap.drop_one] at port
  exact ⟨_, _, strtok_of_parts b.lead_separators magicToken (b.gap.head_separator _), address, port⟩

/-- The record `parse_beacon` makes of a beacon. -/
def beaconDevice (remote : Ipv4Address) (port : Nat) (tail : List UInt8) : SftDevice :=
  ⟨.print 64 (inetNtop remote), UInt16.ofNat port, beaconLabel (tail.drop 1)⟩

/-- Each beacon is accepted. -/
theorem parseBeacon_of_text (b : Beacon) (short : message.bytes.length ≤ 255)
    (same : message.bytes = b.text) :
    parseBeacon message remote = some (beaconDevice remote b.port b.tail) := by
  rcases strtok_text b with ⟨afterMagic, afterAddress, magic, address, port⟩
  have range : UInt16.size = 65536 := rfl
  have least := b.port_range.1
  have most := b.port_range.2
  have value : (UInt16.ofNat b.port).toNat = b.port := UInt16.toNat_ofNat_of_lt' (by omega)
  have parsed : parsePort b.portToken.bytes = some (UInt16.ofNat b.port) := by
    apply parsePort_eq_some_iff.mpr
    rw [value]
    exact ⟨b.port_consumed, least⟩
  unfold parseBeacon
  rw [List.take_of_length_le short, same]
  simp only [magic, address, port, beaconMagic_literal, magicToken, if_true, parsed, beaconDevice]

/-- A token behind another one stands behind a gap. -/
theorem gap_of_behind {behind lead rest : List UInt8} {token : BeaconToken}
    (ends : ∀ byte ∈ behind.head?, isBeaconSeparator byte = true)
    (separators : ∀ byte ∈ lead, isBeaconSeparator byte = true)
    (next : behind.drop 1 = lead ++ (token.bytes ++ rest)) :
    ∃ gap : BeaconGap, behind = gap.bytes ++ (token.bytes ++ rest) := by
  cases behind with
  | nil =>
      have none_ := (List.append_eq_nil_iff.mp next.symm).2
      exact absurd (List.append_eq_nil_iff.mp none_).1 token.some_
  | cons separator after =>
      refine ⟨⟨separator :: lead, by simp, ?_⟩, by rw [List.cons_append]; exact congrArg _ next⟩
      intro byte member
      rcases List.mem_cons.mp member with rfl | inLead
      · exact ends byte rfl
      · exact separators byte inLead

/-- What is accepted is a beacon. -/
theorem text_of_parseBeacon {device : SftDevice} (short : message.bytes.length ≤ 255)
    (accepted : parseBeacon message remote = some device) : ∃ b : Beacon, message.bytes = b.text := by
  unfold parseBeacon at accepted
  rw [List.take_of_length_le short] at accepted
  cases first : strtok message.bytes with
  | mk magic afterMagic =>
  cases second : strtok afterMagic with
  | mk address afterAddress =>
  cases third : strtok afterAddress with
  | mk portText afterPort =>
  simp only [first, second, third] at accepted
  split at accepted
  · next magic address portText =>
      split at accepted
      · next isMagic =>
          split at accepted
          · next port parsed =>
              rcases parsePort_eq_some_iff.mp parsed with ⟨consumed, positive⟩
              rcases strtok_some first with ⟨lead, magicTok, behindMagic, text, leadOk, endsMagic, same,
                rfl⟩
              rcases strtok_some second with ⟨lead₂, addressTok, behindAddress, next₂, leadOk₂, endsAddress,
                rfl, rfl⟩
              rcases strtok_some third with ⟨lead₃, portTok, behindPort, next₃, leadOk₃, endsPort, rfl,
                rfl⟩
              rcases gap_of_behind endsMagic leadOk₂ next₂ with ⟨gap, rfl⟩
              rcases gap_of_behind endsAddress leadOk₃ next₃ with ⟨secondGap, rfl⟩
              rw [beaconMagic_literal] at isMagic
              have bound := port.toNat_lt
              let b : Beacon := {
                lead := lead
                lead_separators := leadOk
                gap := gap
                address := addressTok
                secondGap := secondGap
                portToken := portTok
                port := port.toNat
                port_consumed := consumed
                port_range := ⟨positive, by omega⟩
                behind := behindPort.head?.map fun separator => (separator, behindPort.tail)
                behind_separator := by
                  cases behindPort with
                  | nil =>
                      intro _ here
                      cases here
                  | cons separator rest =>
                      intro _ here
                      cases here
                      exact endsPort separator rfl }
              refine ⟨b, ?_⟩
              have tail : b.tail = behindPort := by cases behindPort <;> rfl
              rw [text, ← same, isMagic, Beacon.text, tail]
          · cases accepted
      · cases accepted
  · cases accepted

/-- The label as the source makes it, of a text without NULs behind the port. -/
theorem beaconLabel_bytes {rest : List UInt8} (nulFree : ∀ byte ∈ rest, byte ≠ 0) :
    (beaconLabel rest).bytes =
      let label := ((rest.dropWhile fun byte => byte = 32 || byte = 9).take 95).rdropWhile fun byte =>
        byte = 13 || byte = 10
      if label = [] then (CString.literal "Switch Frame Tap").bytes else label := by
  have default_ : (CText.print 96 defaultLabel).bytes = (CString.literal "Switch Frame Tap").bytes := by
    decide
  have untrimmed : (trimLineEnd (.print 96 defaultLabel)).bytes
      = (CString.literal "Switch Frame Tap").bytes := by decide
  have some_ : (CString.literal "Switch Frame Tap").bytes ≠ [] := by decide
  have whole : (CString.ofBytes (rest.dropWhile fun byte => byte = 32 || byte = 9)).bytes
      = rest.dropWhile fun byte => byte = 32 || byte = 9 := by
    apply List.takeWhile_eq_self_iff.mpr
    intro byte member
    exact decide_eq_true (nulFree byte ((List.dropWhile_suffix _).subset member))
  unfold beaconLabel
  generalize (rest.dropWhile fun byte => byte = 32 || byte = 9) = name at *
  dsimp only
  by_cases empty : name = []
  · subst empty
    simp only [if_true, untrimmed, some_, if_false, List.take_nil, List.rdropWhile_nil]
  · rw [if_neg empty]
    have trimmed : (trimLineEnd (.print 96 (.ofBytes name))).bytes
        = (name.take 95).rdropWhile fun byte => byte = 13 || byte = 10 := by
      change (CText.print 96 (.ofBytes name)).bytes.rdropWhile _ = _
      rw [CText.print_bytes, whole]
    rw [trimmed]
    split
    · exact default_
    · exact trimmed

/-- The record has the parts of the beacon, as far as they fit. -/
theorem describes_beaconDevice (b : Beacon) (same : message.bytes = b.text) :
    b.Describes remote (beaconDevice remote b.port b.tail) := by
  have range : UInt16.size = 65536 := rfl
  have most := b.port_range.2
  refine ⟨print_inetNtop remote, UInt16.toNat_ofNat_of_lt' (by omega), ?_⟩
  apply beaconLabel_bytes
  rintro byte member rfl
  apply message.nul_free
  rw [same]
  simp [Beacon.text, List.mem_of_mem_drop member]

/-- For messages of up to 255 bytes: the parser accepts exactly the beacons, it fills in the record with
    the parts of the beacon, and another second token makes no difference. -/
theorem beacon_parser_is_exact (message : CString) (remote : Ipv4Address)
    (short : message.bytes.length ≤ 255) :
    ((parseBeacon message remote).isSome = true ↔ ∃ b : Beacon, message.bytes = b.text) ∧
    (∀ b : Beacon, message.bytes = b.text →
      ∃ device, parseBeacon message remote = some device ∧ b.Describes remote device) ∧
    ∀ (b : Beacon) (address : BeaconToken) (other : CString), message.bytes = b.text →
      other.bytes = (b.withAddress address).text → other.bytes.length ≤ 255 →
      parseBeacon other remote = parseBeacon message remote := by
  refine ⟨⟨fun accepted => ?_, fun ⟨b, same⟩ => ?_⟩, fun b same => ?_, ?_⟩
  · rcases Option.isSome_iff_exists.mp accepted with ⟨device, parsed⟩
    exact text_of_parseBeacon short parsed
  · rw [parseBeacon_of_text b short same]
    rfl
  · exact ⟨_, parseBeacon_of_text b short same, describes_beaconDevice b same⟩
  · intro b address other same otherSame otherShort
    rw [parseBeacon_of_text b short same, parseBeacon_of_text _ otherShort otherSame]
    rfl

/-- A beacon that announces port +009952 behind two blanks, and a label with a line end. -/
def labelledBeacon : Beacon where
  lead := []
  lead_separators := nofun
  gap := ⟨[32], by decide, List.all_eq_true.mp rfl⟩
  address := ⟨(CString.literal "10.0.0.2").bytes, by decide, free_of_all (by decide)⟩
  secondGap := ⟨[32, 32], by decide, List.all_eq_true.mp rfl⟩
  portToken := ⟨(CString.literal "+009952").bytes, by decide, free_of_all (by decide)⟩
  port := 9952
  port_consumed := ⟨[], .plus, (CString.literal "009952").bytes, by decide, nofun, by decide,
    List.all_eq_true.mp (by decide), by decide⟩
  port_range := by decide
  behind := some (32, (CString.literal " Switch\r\n").bytes)
  behind_separator := fun _ here => Option.some.inj here ▸ rfl

theorem labelledBeacon_is_accepted :
    ∃ device, parseBeacon (CString.literal "SFTAP1 10.0.0.2  +009952  Switch\r\n") ⟨192, 168, 0, 7⟩
        = some device ∧
      labelledBeacon.Describes ⟨192, 168, 0, 7⟩ device :=
  (beacon_parser_is_exact (CString.literal "SFTAP1 10.0.0.2  +009952  Switch\r\n") ⟨192, 168, 0, 7⟩
    (by decide)).2.1 labelledBeacon (by decide)

end SysdvrWebos
