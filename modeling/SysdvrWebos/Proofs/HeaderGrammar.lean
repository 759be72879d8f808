/-
Module: SysdvrWebos.Proofs.HeaderGrammar
Layer: Proofs
Purpose: The header checks of the code accept exactly the SFTR v2 grammar, the three packet classifiers
  are disjoint and exhaustive on what is accepted, and the INPUT bit of the wire is ignored.
Trusted boundary: none (fully proved)
Main exports: sftParseHeader_fields, sftValidateHeader_eq_zero_iff, sftr_header_acceptance
Open obligations: none
-/
import Mathlib.Tactic.IntervalCases
import SysdvrWebos.Core.SftProtocol
import SysdvrWebos.Spec.SftrGrammar

namespace SysdvrWebos

/-! ### Parsing -/

theorem take_drop_two {raw : List UInt8} {offset : Nat} (room : offset + 2 ≤ raw.length) :
    (raw.drop offset).take 2 = [raw.getD offset 0, raw.getD (offset + 1) 0] := by
  have first : offset < raw.length := by omega
  have second : offset + 1 < raw.length := by omega
  rw [List.drop_eq_getElem_cons first, List.drop_eq_getElem_cons second,
    List.getD_eq_getElem raw 0 first, List.getD_eq_getElem raw 0 second]
  rfl

theorem take_drop_four {raw : List UInt8} {offset : Nat} (room : offset + 4 ≤ raw.length) :
    (raw.drop offset).take 4
      = [raw.getD offset 0, raw.getD (offset + 1) 0, raw.getD (offset + 2) 0,
          raw.getD (offset + 3) 0] := by
  rw [show (4 : Nat) = 2 + 2 from rfl, List.take_add, List.drop_drop,
    take_drop_two (by omega), take_drop_two (by omega)]
  rfl

theorem le16At_toNat {raw : List UInt8} {offset : Nat} (room : offset + 2 ≤ raw.length) :
    (le16At raw offset).toNat = wireField raw offset 2 := by
  rw [le16At, LittleEndian.le16_toNat, wireField, take_drop_two room]

theorem le32At_toNat {raw : List UInt8} {offset : Nat} (room : offset + 4 ≤ raw.length) :
    (le32At raw offset).toNat = wireField raw offset 4 := by
  rw [le32At, LittleEndian.le32_toNat, wireField, take_drop_four room]

/-- Every field of the parsed header is the little-endian field of the wire; `flags` lacks INPUT. -/
theorem sftParseHeader_fields {raw : List UInt8} (long : raw.length = 32) :
    (sftParseHeader raw).magic.toNat = wireField raw 0 4 ∧
    (sftParseHeader raw).version.toNat = wireField raw 4 2 ∧
    (sftParseHeader raw).flags.toNat = packetFlags raw ∧
    (sftParseHeader raw).rawFlags.toNat = wireField raw 6 2 ∧
    (sftParseHeader raw).width.toNat = wireField raw 8 4 ∧
    (sftParseHeader raw).height.toNat = wireField raw 12 4 ∧
    (sftParseHeader raw).consoleAgeUs.toNat = wireField raw 16 4 ∧
    (sftParseHeader raw).length.toNat = wireField raw 20 4 ∧
    (sftParseHeader raw).blockHeightLog2.toNat = wireField raw 24 4 ∧
    (sftParseHeader raw).sequence.toNat = wireField raw 28 4 := by
  have mask : (~~~sftFlagInput.toUInt16).toNat = 0xFF7F := by decide
  refine ⟨le32At_toNat (by omega), le16At_toNat (by omega), ?_, le16At_toNat (by omega),
    le32At_toNat (by omega), le32At_toNat (by omega), le32At_toNat (by omega),
    le32At_toNat (by omega), le32At_toNat (by omega), le32At_toNat (by omega)⟩
  simp only [sftParseHeader, UInt16.toNat_and, mask, packetFlags]
  rw [le16At_toNat (by omega)]

/-! ### Flags -/

/-- `flags & ~(all known bits)` is not zero. -/
def unknownFlags (flags : UInt16) : Bool :=
  flags.toUInt32 &&& ~~~(sftFlagVideo ||| sftFlagKey ||| sftFlagAudio ||| sftFlagStatus |||
    sftFlagCrop ||| sftFlagCropMid) ≠ 0

/-- VIDEO with any of KEY, CROP and CROP_MID. -/
def videoFlags : List UInt16 := [0x02, 0x06, 0x22, 0x26, 0x42, 0x46, 0x62, 0x66]

/-- The class of a packet by its flags alone. -/
def flagClass (flags : UInt16) : Option PacketClass :=
  if flags = 0x18 then
    some .status
  else if flags = 0x08 then
    some .audio
  else if flags ∈ videoFlags then
    some .video
  else
    none

theorem lt_of_not_unknownFlags {flags : UInt16} (known : unknownFlags flags = false) :
    flags.toNat < 128 := by
  have masked : flags.toNat &&& 0xFFFFFF81 = 0 := by
    simpa [unknownFlags, sftFlagVideo, sftFlagKey, sftFlagAudio, sftFlagStatus, sftFlagCrop,
      sftFlagCropMid, ← UInt32.toNat_inj] using known
  by_contra large
  obtain ⟨bit, high, set⟩ := Nat.exists_ge_and_testBit_of_ge_two_pow
    (show 2 ^ 7 ≤ flags.toNat by omega)
  have low : bit < 16 := by
    by_contra beyond
    have width : flags.toNat < 2 ^ bit :=
      lt_of_lt_of_le flags.toNat_lt (Nat.pow_le_pow_right (by omega) (by omega))
    rw [Nat.testBit_lt_two_pow width] at set
    contradiction
  have clear : (flags.toNat &&& 0xFFFFFF81).testBit bit = false := by rw [masked, Nat.zero_testBit]
  rw [Nat.testBit_and, set] at clear
  interval_cases bit <;> exact absurd clear (by decide)

theorem exists_fin_of_known {flags : UInt16} (known : unknownFlags flags = false) :
    ∃ k : Fin 128, flags = UInt16.ofNat k :=
  ⟨⟨flags.toNat, lt_of_not_unknownFlags known⟩, UInt16.ofNat_toNat.symm⟩

/-- The accepting flags contain no unknown bit. -/
theorem not_unknownFlags_of_flagClass {flags : UInt16} {cls : PacketClass}
    (accepted : flagClass flags = some cls) : unknownFlags flags = false := by
  have table : (0x18 :: 0x08 :: videoFlags).all (fun f => !unknownFlags f) = true := by decide
  have listed : flags ∈ 0x18 :: 0x08 :: videoFlags := by
    unfold flagClass at accepted
    grind
  simpa using List.all_eq_true.mp table flags listed

/-! The tests of `sft_validate_header` on the flags, branch by branch, pick exactly the flag class. -/

theorem flagClass_of_status {flags : UInt16} (known : unknownFlags flags = false)
    (status : flags.toUInt32 &&& sftFlagStatus ≠ 0) :
    flagClass flags
      = if flags.toUInt32 = sftFlagAudio ||| sftFlagStatus then some .status else none := by
  obtain ⟨k, rfl⟩ := exists_fin_of_known known
  clear known
  revert k
  decide +kernel

theorem flagClass_of_audio {flags : UInt16} (known : unknownFlags flags = false)
    (status : flags.toUInt32 &&& sftFlagStatus = 0) (audio : flags.toUInt32 &&& sftFlagAudio ≠ 0) :
    flagClass flags = if flags.toUInt32 = sftFlagAudio then some .audio else none := by
  obtain ⟨k, rfl⟩ := exists_fin_of_known known
  clear known
  revert k
  decide +kernel

theorem flagClass_of_video {flags : UInt16} (known : unknownFlags flags = false)
    (other : flags.toUInt32 &&& (sftFlagAudio ||| sftFlagStatus) = 0) :
    flagClass flags
      = if flags.toUInt32 &&& sftFlagVideo ≠ 0 ∧
          flags.toUInt32 &&& ~~~(sftFlagVideo ||| sftFlagKey ||| sftFlagCrop ||| sftFlagCropMid) = 0
        then some .video else none := by
  obtain ⟨k, rfl⟩ := exists_fin_of_known known
  clear known
  revert k
  decide +kernel

/-! ### Validation -/

/-- The bounds on the fields of a packet of the given class. -/
def FieldsFit (h : SftPacketHeader) : PacketClass → Prop
  | .status => 8 ≤ h.length ∧ h.length ≤ sftMaxStatus
  | .audio =>
      h.width = 48000 ∧ h.height = 2 ∧ h.length ≠ 0 ∧ h.length ≤ sftMaxAudio ∧ h.length % 4 = 0
  | .video =>
      16 ≤ h.width ∧ h.width ≤ 1920 ∧ 16 ≤ h.height ∧ h.height ≤ 1088 ∧
      h.width &&& 1 = 0 ∧ h.height &&& 1 = 0 ∧ h.length ≠ 0 ∧ h.length ≤ sftMaxVideo

theorem sftValidateHeader_eq_zero_iff (h : SftPacketHeader) :
    sftValidateHeader h = 0 ↔
      h.magic = sftMagic ∧ h.version = sftProtocolVersion ∧
        ∃ cls, flagClass h.flags = some cls ∧ FieldsFit h cls := by
  unfold sftValidateHeader
  by_cases matching : h.magic = sftMagic ∧ h.version = sftProtocolVersion
  case neg => simp_all [or_iff_not_imp_left]
  obtain ⟨magic, version⟩ := matching
  rw [if_neg (by simp [magic, version])]
  simp only [magic, version, true_and]
  by_cases known : unknownFlags h.flags = false
  case neg =>
    have unknown : h.hasFlag (~~~(sftFlagVideo ||| sftFlagKey ||| sftFlagAudio ||| sftFlagStatus |||
        sftFlagCrop ||| sftFlagCropMid)) = true := by
      simpa [SftPacketHeader.hasFlag, unknownFlags] using known
    rw [if_pos unknown]
    constructor
    · intro rejected
      contradiction
    · rintro ⟨cls, accepted, -⟩
      exact absurd (not_unknownFlags_of_flagClass accepted) known
  have noUnknown : ¬ h.hasFlag (~~~(sftFlagVideo ||| sftFlagKey ||| sftFlagAudio ||| sftFlagStatus |||
      sftFlagCrop ||| sftFlagCropMid)) = true := by
    simpa [SftPacketHeader.hasFlag, unknownFlags] using known
  rw [if_neg noUnknown]
  -- the three classifiers are tried in the order of the source
  by_cases status : h.flags.toUInt32 &&& sftFlagStatus = 0
  case neg =>
    rw [if_pos (by simpa [sftPacketIsStatus, SftPacketHeader.hasFlag] using status),
      flagClass_of_status known status]
    by_cases flags : h.flags.toUInt32 = sftFlagAudio ||| sftFlagStatus
    · simp [flags, FieldsFit]
    · simp [flags]
  rw [if_neg (by simpa [sftPacketIsStatus, SftPacketHeader.hasFlag] using status)]
  by_cases audio : h.flags.toUInt32 &&& sftFlagAudio = 0
  case neg =>
    rw [if_pos (by simpa [sftPacketIsAudio, SftPacketHeader.hasFlag, status] using audio),
      flagClass_of_audio known status audio]
    by_cases flags : h.flags.toUInt32 = sftFlagAudio
    · simp [flags, FieldsFit]
    · simp [flags]
  have other : h.flags.toUInt32 &&& (sftFlagAudio ||| sftFlagStatus) = 0 := by
    have distributed : h.flags.toUInt32 &&& (sftFlagAudio ||| sftFlagStatus)
        = h.flags.toUInt32 &&& sftFlagAudio ||| h.flags.toUInt32 &&& sftFlagStatus :=
      UInt32.toBitVec_inj.mp BitVec.and_or_distrib_left
    rw [distributed, status, audio]
    rfl
  rw [if_neg (by simpa [sftPacketIsAudio, SftPacketHeader.hasFlag, status] using audio),
    flagClass_of_video known other]
  by_cases video : h.flags.toUInt32 &&& sftFlagVideo = 0
  · simp [sftPacketIsVideo, SftPacketHeader.hasFlag, video]
  · rw [if_pos (by simpa [sftPacketIsVideo, SftPacketHeader.hasFlag, other] using video)]
    by_cases allowed : h.flags.toUInt32 &&&
        ~~~(sftFlagVideo ||| sftFlagKey ||| sftFlagCrop ||| sftFlagCropMid) = 0
    · simp [SftPacketHeader.hasFlag, video, allowed, FieldsFit]
    · simp [SftPacketHeader.hasFlag, allowed]

/-! ### The grammar -/

theorem mem_videoFlags_iff {flags : UInt16} :
    flags ∈ videoFlags ↔ ∃ key crop cropMid : Bool,
      flags.toNat = 0x02 + 0x04 * key.toNat + 0x20 * crop.toNat + 0x40 * cropMid.toNat := by
  simp only [videoFlags, ← UInt16.toNat_inj, Bool.exists_bool, List.mem_cons, List.not_mem_nil]
  simp
  omega

theorem flagClass_eq_some_iff {flags : UInt16} {cls : PacketClass} :
    flagClass flags = some cls ↔
      match cls with
      | .status => flags = 0x18
      | .audio => flags = 0x08
      | .video => flags ∈ videoFlags := by
  have table : videoFlags.all (fun f => f ≠ 0x18 && f ≠ 0x08) = true := by decide
  have disjoint : ∀ f ∈ videoFlags, f ≠ 0x18 ∧ f ≠ 0x08 := by
    intro f video
    simpa using List.all_eq_true.mp table f video
  cases cls <;> grind [flagClass]

theorem and_one_eq_zero_iff (word : UInt32) : word &&& 1 = 0 ↔ Even word.toNat := by
  rw [← UInt32.toNat_inj, UInt32.toNat_and, Nat.even_iff]
  exact Nat.and_one_is_mod word.toNat ▸ Iff.rfl

/-- On a class that the flags select, the field bounds are those of the packet form. -/
theorem packetForm_iff (h : SftPacketHeader) (cls : PacketClass) :
    PacketForm h.flags.toNat h.width.toNat h.height.toNat h.length.toNat cls ↔
      flagClass h.flags = some cls ∧ FieldsFit h cls := by
  rw [flagClass_eq_some_iff]
  cases cls with
  | status =>
      simp only [PacketForm, FieldsFit, ← UInt16.toNat_inj, UInt32.le_iff_toNat_le]
      exact Iff.rfl
  | audio =>
      simp only [PacketForm, FieldsFit, ← UInt16.toNat_inj, ← UInt32.toNat_inj, ne_eq,
        UInt32.le_iff_toNat_le, UInt32.toNat_mod, UInt32.toNat_ofNat, UInt16.toNat_ofNat, Nat.reducePow, Nat.reduceMod,
        sftMaxAudio]
      omega
  | video =>
      simp only [PacketForm, FieldsFit, mem_videoFlags_iff, and_one_eq_zero_iff]
      simp only [UInt32.le_iff_toNat_le, ← UInt32.toNat_inj, ne_eq, UInt32.toNat_ofNat]
      constructor
      · rintro ⟨flags, evenWidth, minWidth, maxWidth, evenHeight, minHeight, maxHeight, minLength,
          maxLength⟩
        exact ⟨flags, minWidth, maxWidth, minHeight, maxHeight, evenWidth, evenHeight, by omega,
          maxLength⟩
      · rintro ⟨flags, minWidth, maxWidth, minHeight, maxHeight, evenWidth, evenHeight, notEmpty,
          maxLength⟩
        exact ⟨flags, evenWidth, minWidth, maxWidth, evenHeight, minHeight, maxHeight, by omega,
          maxLength⟩

/-- Acceptance of the parsed header is membership in the grammar. -/
theorem sftValidateHeader_parse_iff {raw : List UInt8} (long : raw.length = 32) :
    sftValidateHeader (sftParseHeader raw) = 0 ↔ ∃ cls, HeaderOf raw cls := by
  obtain ⟨magic, version, flags, -, width, height, -, length, -, -⟩ := sftParseHeader_fields long
  rw [sftValidateHeader_eq_zero_iff, ← UInt32.toNat_inj, ← UInt16.toNat_inj, magic, version]
  simp only [← packetForm_iff, flags, width, height, length, HeaderOf, exists_and_left]
  exact Iff.rfl

/-- On an accepted header the flags select the class whose form it has. -/
theorem headerOf_iff_flagClass {raw : List UInt8} (long : raw.length = 32)
    (accepted : sftValidateHeader (sftParseHeader raw) = 0) (cls : PacketClass) :
    HeaderOf raw cls ↔ flagClass (sftParseHeader raw).flags = some cls := by
  obtain ⟨magic, version, flags, -, width, height, -, length, -, -⟩ := sftParseHeader_fields long
  obtain ⟨magicOk, versionOk, found, isFound, fits⟩ :=
    (sftValidateHeader_eq_zero_iff _).mp accepted
  rw [HeaderOf, ← magic, ← version, ← flags, ← width, ← height, ← length, packetForm_iff, magicOk,
    versionOk]
  constructor
  · exact fun form => form.2.2.1
  · intro isClass
    obtain rfl : found = cls := Option.some.inj (isFound.symm.trans isClass)
    exact ⟨rfl, rfl, isClass, fits⟩

/-- The classifiers of the code, by class. -/
def classifier : PacketClass → SftPacketHeader → Bool
  | .video => sftPacketIsVideo
  | .audio => sftPacketIsAudio
  | .status => sftPacketIsStatus

theorem classifier_iff_of_flagClass {h : SftPacketHeader} {cls : PacketClass}
    (flags : flagClass h.flags = some cls) (other : PacketClass) :
    classifier other h = true ↔ other = cls := by
  obtain ⟨k, value⟩ := exists_fin_of_known (not_unknownFlags_of_flagClass flags)
  cases other <;>
    simp only [classifier, sftPacketIsVideo, sftPacketIsAudio, sftPacketIsStatus,
      SftPacketHeader.hasFlag, value] at flags ⊢ <;>
    clear value <;> revert k <;> cases cls <;> decide +kernel

theorem length_le_of_fieldsFit {h : SftPacketHeader} {cls : PacketClass} (fits : FieldsFit h cls) :
    h.length.toNat ≤ sftMaxPayload := by
  have audio : sftMaxAudio.toNat ≤ sftMaxPayload := by decide
  have status : sftMaxStatus.toNat ≤ sftMaxPayload := by decide
  cases cls with
  | video => exact UInt32.le_iff_toNat_le.mp fits.2.2.2.2.2.2.2
  | audio => exact (UInt32.le_iff_toNat_le.mp fits.2.2.2.1).trans audio
  | status => exact (UInt32.le_iff_toNat_le.mp fits.2).trans status

/-- Every accepted header has a class, the classifiers agree on it, and its payload fits. -/
theorem accepted_class {h : SftPacketHeader} (accepted : sftValidateHeader h = 0) :
    ∃ cls, flagClass h.flags = some cls ∧ (∀ other, classifier other h = true ↔ other = cls) ∧
      FieldsFit h cls ∧ h.length.toNat ≤ sftMaxPayload := by
  obtain ⟨-, -, cls, flags, fits⟩ := (sftValidateHeader_eq_zero_iff h).mp accepted
  exact ⟨cls, flags, classifier_iff_of_flagClass flags, fits, length_le_of_fieldsFit fits⟩

/-! ### The INPUT bit -/

theorem getD_toggleInput (raw : RawHeader) (i : Nat) :
    (toggleInput raw).val.getD i 0 = if i = 6 then raw.val.getD 6 0 ^^^ 0x80 else raw.val.getD i 0 := by
  have long : 6 < raw.val.length := by rw [raw.property]; decide
  by_cases here : i = 6
  · subst here
    simp [toggleInput, List.getD_eq_getElem?_getD, long]
  · simp [toggleInput, List.getD_eq_getElem?_getD, here, Ne.symm here]

theorem masked_toggle (b c : UInt8) :
    LittleEndian.le16 (b ^^^ 0x80) c &&& ~~~sftFlagInput.toUInt16
      = LittleEndian.le16 b c &&& ~~~sftFlagInput.toUInt16 := by
  have table : ∀ k : Fin 256, (UInt8.ofNat k ^^^ 0x80).toUInt16 &&& ~~~sftFlagInput.toUInt16
      = (UInt8.ofNat k).toUInt16 &&& ~~~sftFlagInput.toUInt16 := by decide +kernel
  have low := table ⟨b.toNat, b.toNat_lt⟩
  rw [UInt8.ofNat_toNat] at low
  have distributed (x y z : UInt16) : (x ||| y) &&& z = x &&& z ||| y &&& z :=
    UInt16.toBitVec_inj.mp BitVec.and_or_distrib_right
  rw [LittleEndian.le16, LittleEndian.le16, distributed, distributed, low]

/-- Inverting INPUT on the wire leaves every parsed field but `rawFlags` as it was. -/
theorem sftParseHeader_toggleInput (raw : RawHeader) :
    sftParseHeader raw.val
      = { sftParseHeader (toggleInput raw).val with
          rawFlags := (sftParseHeader raw.val).rawFlags } := by
  simp only [sftParseHeader, le16At, le32At, getD_toggleInput, Nat.reduceAdd, Nat.reduceEqDiff,
    reduceIte, masked_toggle]

/-- For every 32 bytes: the header is accepted exactly when it begins a packet of some class; then one
    classifier holds, it is the one of that class, and the payload fits the buffers of the callers.
    Inverting INPUT on the wire changes nothing but `rawFlags`. -/
theorem sftr_header_acceptance (raw : RawHeader) :
    (sftValidateHeader (sftParseHeader raw.val) = 0 ↔ ∃ cls, HeaderOf raw.val cls) ∧
    (sftValidateHeader (sftParseHeader raw.val) = 0 →
      (∃! cls, classifier cls (sftParseHeader raw.val) = true) ∧
      (∀ cls, classifier cls (sftParseHeader raw.val) = true ↔ HeaderOf raw.val cls) ∧
      (sftParseHeader raw.val).length.toNat ≤ sftMaxPayload) ∧
    (sftParseHeader raw.val
        = { sftParseHeader (toggleInput raw).val with
            rawFlags := (sftParseHeader raw.val).rawFlags } ∧
      sftValidateHeader (sftParseHeader (toggleInput raw).val)
        = sftValidateHeader (sftParseHeader raw.val) ∧
      ∀ cls, classifier cls (sftParseHeader (toggleInput raw).val)
        = classifier cls (sftParseHeader raw.val)) := by
  refine ⟨sftValidateHeader_parse_iff raw.property, fun accepted => ?_,
    sftParseHeader_toggleInput raw, ?_, fun cls => ?_⟩
  · obtain ⟨cls, flags, agree, -, fits⟩ := accepted_class accepted
    refine ⟨⟨cls, (agree cls).mpr rfl, fun other holds => (agree other).mp holds⟩, fun other => ?_,
      fits⟩
    rw [agree other, headerOf_iff_flagClass raw.property accepted, flags]
    exact ⟨fun same => same ▸ rfl, fun same => (Option.some.inj same).symm⟩
  · rw [sftParseHeader_toggleInput raw]
    rfl
  · rw [sftParseHeader_toggleInput raw]
    cases cls <;> rfl

/-- A 1280x720 key frame of five bytes is accepted and has exactly one class. -/
theorem keyFrame_header_has_one_class :
    ∃! cls, classifier cls (sftParseHeader
      [0x53, 0x46, 0x54, 0x52, 2, 0, 0x86, 0, 0x00, 0x05, 0, 0, 0xD0, 0x02, 0, 0, 1, 2, 0, 0,
        5, 0, 0, 0, 4, 0, 0, 0, 9, 0, 0, 0]) = true :=
  ((sftr_header_acceptance
    ⟨[0x53, 0x46, 0x54, 0x52, 2, 0, 0x86, 0, 0x00, 0x05, 0, 0, 0xD0, 0x02, 0, 0, 1, 2, 0, 0,
      5, 0, 0, 0, 4, 0, 0, 0, 9, 0, 0, 0], rfl⟩).2.1 (by decide)).1

end SysdvrWebos
