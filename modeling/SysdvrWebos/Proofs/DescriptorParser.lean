/-
Module: SysdvrWebos.Proofs.DescriptorParser
Layer: Proofs
Purpose: `parse_descriptor` accepts exactly the descriptors. A field ends at the first pipe; the cursor is
  gone behind a field that no pipe follows, so a text with too few pipes runs out of fields, and what
  follows the third field is the remainder with its pipes.
Trusted boundary: none (fully proved)
Main exports: takeField_separated, takeField_last, takeField_some, parseDescriptor_of_text,
  text_of_parseDescriptor, descriptor_parser_is_exact
Open obligations: none
-/
import SysdvrWebos.Lib.Spans
import SysdvrWebos.Spec.DescriptorGrammar

namespace SysdvrWebos

/-! ### The sender's address -/

theorem decimalText_octet (octet : UInt8) : (decimalText octet.toNat).length ≤ 3 := by
  have every : ∀ n < 256, (decimalText n).length ≤ 3 := by decide +kernel
  exact every _ octet.toNat_lt

/-- The text of an address fits into the host field. -/
theorem print_inetNtop (remote : Ipv4Address) :
    (CText.print 64 (inetNtop remote)).bytes = (inetNtop remote).bytes := by
  have a := decimalText_octet remote.a
  have b := decimalText_octet remote.b
  have c := decimalText_octet remote.c
  have d := decimalText_octet remote.d
  have short : (inetNtop remote).bytes.length ≤ 15 := by
    apply Nat.le_trans (List.takeWhile_prefix _).length_le
    simp only [List.map_cons, List.map_nil, List.intercalate_cons_cons]
    simp
    omega
  rw [CText.print_bytes, List.take_of_length_le]
  exact Nat.le_trans short (by decide)

/-! ### Fields -/

section

variable {field rest text : List UInt8} {cursor : Option (List UInt8)}

/-- A byte of a field passes the test of the scan for the pipe. -/
theorem passes_of_free (free : fieldSeparator ∉ field) :
    ∀ byte ∈ field, decide (byte ≠ fieldSeparator) = true :=
  fun _ member => decide_eq_true fun same => free (same ▸ member)

/-- A field ends at the first pipe, and it may be empty. -/
theorem takeField_separated (free : fieldSeparator ∉ field) :
    takeField (some (field ++ fieldSeparator :: rest)) = (some field, some rest) := by
  have spans : Spans (fun byte => decide (byte ≠ fieldSeparator)) field (fieldSeparator :: rest) :=
    .to_cons (passes_of_free free) (by simp)
  have behind := spans.dropWhile_eq
  have ahead := spans.takeWhile_eq
  cases whole : field ++ fieldSeparator :: rest with
  | nil => exact absurd whole (by simp)
  | cons byte bytes =>
      rw [whole] at behind ahead
      simp only [takeField, behind, ahead]

/-- A text without pipes is one field, and the cursor is gone behind it. -/
theorem takeField_last (free : fieldSeparator ∉ field) (some_ : field ≠ []) :
    takeField (some field) = (some field, none) := by
  have nothing := (Spans.to_end (passes_of_free free)).dropWhile_eq
  rw [List.append_nil] at nothing
  cases field with
  | nil => exact absurd rfl some_
  | cons byte bytes => simp only [takeField, nothing]

/-- What a text is that begins with the given field: the field and a pipe, or the field alone. -/
theorem takeField_some (taken : takeField (some text) = (some field, cursor)) :
    fieldSeparator ∉ field ∧
      ((∃ rest, cursor = some rest ∧ text = field ++ fieldSeparator :: rest) ∨
        cursor = none ∧ text = field) := by
  have spans := Spans.of_list (fun byte => decide (byte ≠ fieldSeparator)) text
  have parts := List.takeWhile_append_dropWhile (p := (· ≠ fieldSeparator)) (l := text)
  have free : fieldSeparator ∉ text.takeWhile (· ≠ fieldSeparator) := fun member =>
    of_decide_eq_true (spans.inside _ member) rfl
  cases text with
  | nil => cases taken
  | cons byte bytes =>
      simp only [takeField] at taken
      split at taken
      · next nothing =>
          cases taken
          rw [nothing, List.append_nil] at parts
          rw [parts] at free
          exact ⟨free, Or.inr ⟨rfl, rfl⟩⟩
      · next separator rest found =>
          cases taken
          have first : separator = fieldSeparator := by
            have stops := spans.stops separator (by rw [found]; rfl)
            simpa using stops
          rw [found, first] at parts
          exact ⟨free, Or.inl ⟨rest, rfl, parts.symm⟩⟩

end

/-! ### The parser -/

theorem supportedProtocol_iff (field : List UInt8) :
    supportedProtocol field = true ↔ ∃ version : ProtocolVersion, field = version.field := by
  have first : (CString.literal "02").bytes = ProtocolVersion.v02.field := by decide
  have second : (CString.literal "03").bytes = ProtocolVersion.v03.field := by decide
  simp only [supportedProtocol, Bool.or_eq_true, decide_eq_true_eq, first, second]
  constructor
  · rintro (same | same)
    · exact ⟨.v02, same⟩
    · exact ⟨.v03, same⟩
  · rintro ⟨version, same⟩
    cases version with
    | v02 => exact Or.inl same
    | v03 => exact Or.inr same

/-- The magic of a descriptor. -/
theorem magic_literal :
    (CString.literal "SysDVR").bytes = [0x53, 0x79, 0x73, 0x44, 0x56, 0x52] := by decide

/-- The buffer of the parser holds the text of the datagram. -/
theorem descriptorText_eq (data : List UInt8) :
    (data.take (discoveryBufferSize - 1)).takeWhile (· ≠ 0) = descriptorText data := by
  rw [descriptorText, List.take_takeWhile]
  rfl

variable {data : List UInt8} {remote : Ipv4Address}

/-- The third field and the cursor behind it, for the protocol and the tail of a descriptor. -/
theorem takeField_protocol (d : Descriptor) :
    takeField (some (d.protocol.field ++ d.tail)) = (some d.protocol.field, d.remainder) := by
  have free : fieldSeparator ∉ d.protocol.field := by
    cases d.protocol <;> decide
  have some_ : d.protocol.field ≠ [] := by
    cases d.protocol <;> decide
  unfold Descriptor.tail
  cases d.remainder with
  | none =>
      rw [List.append_nil]
      exact takeField_last free some_
  | some rest => exact takeField_separated free

/-- Each descriptor is accepted. -/
theorem parseDescriptor_of_text (d : Descriptor) (same : descriptorText data = d.text) :
    parseDescriptor data remote
      = some (describedDevice remote d.version d.protocol.field (d.remainder.filter (· ≠ []))) := by
  have received : data ≠ [] := by
    rintro rfl
    cases same
  have magicFree : fieldSeparator ∉ ([0x53, 0x79, 0x73, 0x44, 0x56, 0x52] : List UInt8) := by decide
  have supported := (supportedProtocol_iff d.protocol.field).mpr ⟨d.protocol, rfl⟩
  unfold parseDescriptor
  rw [if_neg received, descriptorText_eq, same, Descriptor.text]
  simp only [takeField_separated magicFree, takeField_separated d.version_free, takeField_protocol,
    magic_literal, supported, Bool.and_true, decide_true, if_true]

/-- A field is only had from a cursor that is there. -/
theorem cursor_of_takeField {cursor behind : Option (List UInt8)} {field : List UInt8}
    (taken : takeField cursor = (some field, behind)) : ∃ text, cursor = some text := by
  cases cursor with
  | none => cases taken
  | some text => exact ⟨text, rfl⟩

/-- What is accepted is a descriptor. -/
theorem text_of_parseDescriptor {device : SysdvrDevice}
    (accepted : parseDescriptor data remote = some device) :
    ∃ d : Descriptor, descriptorText data = d.text := by
  unfold parseDescriptor at accepted
  split at accepted
  · cases accepted
  rw [descriptorText_eq] at accepted
  cases first : takeField (some (descriptorText data)) with
  | mk magic behindMagic =>
  cases second : takeField behindMagic with
  | mk version behindVersion =>
  cases third : takeField behindVersion with
  | mk protocol behindProtocol =>
  simp only [first, second, third] at accepted
  split at accepted
  · next magic version protocol =>
      split at accepted
      · next checks =>
          rw [Bool.and_eq_true, decide_eq_true_eq, magic_literal] at checks
          rcases checks with ⟨rfl, supported⟩
          rcases (supportedProtocol_iff protocol).mp supported with ⟨which, rfl⟩
          rcases cursor_of_takeField second with ⟨fromVersion, rfl⟩
          rcases cursor_of_takeField third with ⟨fromProtocol, rfl⟩
          rcases takeField_some first with ⟨_, ⟨_, same, text⟩ | ⟨gone, _⟩⟩
          · cases same
            rcases takeField_some second with ⟨free, ⟨_, same, versionText⟩ | ⟨gone, _⟩⟩
            · cases same
              refine ⟨⟨version, free, which, behindProtocol⟩, ?_⟩
              rw [text, versionText, Descriptor.text, Descriptor.tail]
              rcases takeField_some third with ⟨_, ⟨rest, rfl, protocolText⟩ | ⟨rfl, protocolText⟩⟩
              · rw [protocolText]
              · rw [protocolText, List.append_nil]
            · cases gone
          · cases gone
      · cases accepted
  · cases accepted

/-- The record has the parts of the descriptor, as far as they fit. -/
theorem describes_describedDevice (d : Descriptor) (same : descriptorText data = d.text) :
    d.Describes remote
      (describedDevice remote d.version d.protocol.field (d.remainder.filter (· ≠ []))) := by
  have nulFree : ∀ byte ∈ d.text, byte ≠ 0 := by
    intro byte member
    rw [← same] at member
    simpa using List.mem_takeWhile_imp (List.mem_of_mem_take member)
  have version : (CString.ofBytes d.version).bytes = d.version := by
    apply List.takeWhile_eq_self_iff.mpr
    intro byte member
    apply decide_eq_true
    apply nulFree
    simp [Descriptor.text, member]
  have protocol : (CString.ofBytes d.protocol.field).bytes = d.protocol.field := by
    cases d.protocol <;> decide
  refine ⟨rfl, print_inetNtop remote, ?_, ?_, ?_⟩
  · simp only [describedDevice, CText.print_bytes, version]
  · simp only [describedDevice, CText.print_bytes, protocol]
  · simp only [describedDevice]
    cases rest : d.remainder with
    | none => rfl
    | some bytes =>
        have whole : (CString.ofBytes bytes).bytes = bytes := by
          apply List.takeWhile_eq_self_iff.mpr
          intro byte member
          apply decide_eq_true
          apply nulFree
          simp [Descriptor.text, Descriptor.tail, rest, member]
        by_cases empty : bytes = []
        · subst empty
          rfl
        · have kept : (some bytes).filter (fun text => decide (text ≠ [])) = some bytes := by
            simp [Option.filter, empty]
          rw [kept]
          simp only [CText.print_bytes, whole, Option.getD_some]

/-- The parser accepts a datagram exactly if its text is a descriptor; it then fills in the record with
    the parts of the descriptor, and otherwise it leaves the record alone. -/
theorem descriptor_parser_is_exact (data : List UInt8) (remote : Ipv4Address) (out : SysdvrDevice) :
    ((parseDescriptorInto data remote out).1 = true ↔ ∃ d : Descriptor, descriptorText data = d.text) ∧
    (∀ d : Descriptor, descriptorText data = d.text →
      d.Describes remote (parseDescriptorInto data remote out).2) ∧
    ((parseDescriptorInto data remote out).1 = false →
      (parseDescriptorInto data remote out).2 = out) := by
  cases parsed : parseDescriptor data remote with
  | none =>
      simp only [parseDescriptorInto, parsed]
      have rejected : ∀ d : Descriptor, descriptorText data ≠ d.text := by
        intro d same
        rw [parseDescriptor_of_text d same] at parsed
        cases parsed
      refine ⟨?_, fun d same => absurd same (rejected d), fun _ => trivial⟩
      simp [rejected]
  | some device =>
      simp only [parseDescriptorInto, parsed]
      refine ⟨?_, fun d same => ?_, nofun⟩
      · simp only [true_iff]
        exact text_of_parseDescriptor parsed
      · rw [parseDescriptor_of_text d same] at parsed
        cases parsed
        exact describes_describedDevice d same

/-- An empty version, and a remainder with pipes in it. -/
def emptyVersion : Descriptor where
  version := []
  version_free := List.not_mem_nil
  protocol := .v02
  remainder := some (CString.literal "a||b").bytes

theorem emptyVersion_is_accepted :
    emptyVersion.Describes ⟨192, 168, 0, 7⟩
      (parseDescriptorInto (CString.literal "SysDVR||02|a||b").bytes ⟨192, 168, 0, 7⟩ .zero).2 :=
  (descriptor_parser_is_exact _ _ .zero).2.1 emptyVersion (by decide)

end SysdvrWebos
