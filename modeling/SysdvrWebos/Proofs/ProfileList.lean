/-
Module: SysdvrWebos.Proofs.ProfileList
Layer: Proofs
Purpose: The saved TVs of the log collector are a most recently used list as long as the file stays within
  the size that is read back. What `save_profile` writes has a size that is known beforehand, and
  `load_profiles` gets back from it the same TVs with their names tidied up once more; tidying up a second
  time takes at most a blank at the end, and a third time nothing.
Trusted boundary: none (fully proved)
Main exports: ipv4_idempotent, loadProfiles_saveProfile, recent_tvs_iff_saves_fit,
  long_name_empties_the_list
Open obligations: none
-/
import SysdvrWebos.Lib.Runs
import SysdvrWebos.Spec.RecentTvs

namespace SysdvrWebos

/-! ### Addresses -/

theorem parseOctet_toDigits {n : Nat} (small : n ≤ 255) : parseOctet (Nat.toDigits 10 n) = some n := by
  have digits : (Nat.toDigits 10 n).all Char.isDigit = true := by
    apply List.all_eq_true.mpr
    intro c member
    exact Nat.isDigit_of_mem_toDigits (by decide) (by decide) member
  have short : (Nat.toDigits 10 n).length ≤ 3 := (Nat.length_toDigits_le_iff (by decide) (by decide)).mpr (by omega)
  have leading : ¬ (Nat.toDigits 10 n ≠ ['0'] ∧ (Nat.toDigits 10 n).head? = some '0') := by
    intro ⟨notZero, head⟩
    rcases Nat.eq_zero_or_pos n with zero | positive
    · exact notZero (by rw [zero]; rfl)
    · exact Json.toDigits_head positive head
  have value : Nat.ofDigitChars 10 (Nat.toDigits 10 n) 0 = n :=
    Nat.ofDigitChars_toDigits (by decide) (by decide)
  have passes : ¬ (Nat.toDigits 10 n = [] ∨ ¬ (Nat.toDigits 10 n).all Char.isDigit ∨
      (Nat.toDigits 10 n).length > 3 ∨
      (Nat.toDigits 10 n ≠ ['0'] ∧ (Nat.toDigits 10 n).head? = some '0')) := by
    rintro (nothing | other | long | zero)
    · exact Nat.toDigits_ne_nil nothing
    · exact other digits
    · exact Nat.not_lt.mpr short long
    · exact leading zero
  rw [parseOctet, if_neg passes, value]
  exact if_neg (Nat.not_lt.mpr small)

theorem parseOctet_le {text : PyText} {n : Nat} (parsed : parseOctet text = some n) : n ≤ 255 := by
  unfold parseOctet at parsed
  split at parsed
  · cases parsed
  · dsimp only at parsed
    split at parsed
    · cases parsed
    · next small =>
        cases parsed
        exact Nat.not_lt.mp small

theorem mapM_parseOctet {texts : List PyText} {octets : List Nat}
    (parsed : texts.mapM parseOctet = some octets) :
    octets.length = texts.length ∧ ∀ octet ∈ octets, octet ≤ 255 := by
  induction texts generalizing octets with
  | nil =>
      cases parsed
      exact ⟨rfl, nofun⟩
  | cons text texts ih =>
      rw [List.mapM_cons, Option.bind_eq_bind, Option.bind_eq_some_iff] at parsed
      rcases parsed with ⟨octet, first, parsed⟩
      rw [Option.bind_eq_bind, Option.bind_eq_some_iff] at parsed
      rcases parsed with ⟨others, rest, parsed⟩
      cases parsed
      rcases ih rest with ⟨length, small⟩
      exact ⟨congrArg (· + 1) length, List.forall_mem_cons.mpr ⟨parseOctet_le first, small⟩⟩

/-- The octets of an address that is parsed. -/
theorem parseIpv4_octets {text : PyText} {octets : List Nat} (parsed : parseIpv4 text = some octets) :
    octets.length = 4 ∧ ∀ octet ∈ octets, octet ≤ 255 := by
  unfold parseIpv4 at parsed
  dsimp only at parsed
  split at parsed
  · cases parsed
  · next four =>
      rcases mapM_parseOctet parsed with ⟨length, small⟩
      exact ⟨length.trans (not_not.mp four), small⟩

theorem mapM_toDigits {octets : List Nat} (small : ∀ octet ∈ octets, octet ≤ 255) :
    (octets.map (Nat.toDigits 10)).mapM parseOctet = some octets := by
  induction octets with
  | nil => rfl
  | cons octet octets ih =>
      rcases List.forall_mem_cons.mp small with ⟨first, others⟩
      rw [List.map_cons, List.mapM_cons, parseOctet_toDigits first, ih others]
      rfl

theorem parseIpv4_ipv4Text {octets : List Nat} (four : octets.length = 4) (small : ∀ octet ∈ octets, octet ≤ 255) :
    parseIpv4 (ipv4Text octets) = some octets := by
  have parts : (ipv4Text octets).splitOn '.' = octets.map (Nat.toDigits 10) := by
    apply List.splitOn_intercalate
    · intro digits member dot
      rcases List.mem_map.mp member with ⟨octet, _, rfl⟩
      cases Nat.isDigit_of_mem_toDigits (by decide) (by decide) dot
    · intro none_
      rw [List.map_eq_nil_iff.mp none_] at four
      cases four
  rw [parseIpv4, parts, List.length_map, if_neg (not_not.mpr four), mapM_toDigits small]

/-- An address has digits and dots only. -/
theorem visible_ipv4Text (octets : List Nat) : ∀ c ∈ ipv4Text octets, PyText.isSpace c = false := by
  induction octets with
  | nil => nofun
  | cons octet octets ih =>
      have digits : ∀ c ∈ Nat.toDigits 10 octet, PyText.isSpace c = false := fun c member =>
        PyText.isSpace_of_isDigit (Nat.isDigit_of_mem_toDigits (by decide) (by decide) member)
      cases octets with
      | nil => simpa [ipv4Text] using digits
      | cons second octets =>
          have text : ipv4Text (octet :: second :: octets) =
              Nat.toDigits 10 octet ++ ['.'] ++ ipv4Text (second :: octets) :=
            List.intercalate_cons_cons
          rw [text]
          intro c member
          rcases List.mem_append.mp member with front | back
          · rcases List.mem_append.mp front with digit | dot
            · exact digits c digit
            · rw [List.mem_singleton.mp dot]
              rfl
          · exact ih c back

theorem strip_ipv4Text (octets : List Nat) : PyText.strip (ipv4Text octets) = ipv4Text octets :=
  PyText.strip_of_visible (visible_ipv4Text octets)

/-- The text of a normal address is accepted as it is. -/
theorem ipv4_ipv4Text {octets : List Nat} (four : octets.length = 4) (small : ∀ octet ∈ octets, octet ≤ 255)
    (normal : ¬ (isMulticast octets ∨ isUnspecified octets)) :
    ipv4 (ipv4Text octets) = some (ipv4Text octets) := by
  rw [ipv4, strip_ipv4Text, parseIpv4_ipv4Text four small, Option.bind_eq_bind, Option.bind_some,
    if_neg normal]

/-- What `ipv4` gives back, it accepts as it is. -/
theorem ipv4_idempotent {value ip : PyText} (accepted : ipv4 value = some ip) : ipv4 ip = some ip := by
  unfold ipv4 at accepted
  cases parsed : parseIpv4 (PyText.strip value) with
  | none => simp [parsed] at accepted
  | some octets =>
      rw [parsed, Option.bind_eq_bind, Option.bind_some] at accepted
      split at accepted
      · cases accepted
      · next normal =>
          cases accepted
          rcases parseIpv4_octets parsed with ⟨four, small⟩
          exact ipv4_ipv4Text four small normal

/-! ### Names -/

theorem orDefault_of_ne {name : PyText} (some_ : name ≠ []) : orDefault name = name := if_neg some_

theorem orDefault_ne (name : PyText) : orDefault name ≠ [] := by
  unfold orDefault
  split
  · decide
  · assumption

theorem tidied_ne (name : PyText) : tidied name ≠ [] := orDefault_ne _

theorem tidied_orDefault (name : PyText) : tidied (orDefault name) = tidied name := by
  unfold orDefault
  split
  · next none_ =>
      rw [none_]
      decide
  · rfl

/-- Tidying up a name a second time only takes a blank off its end. -/
theorem tidied_tidied (given : PyText) :
    tidied (tidied given) = PyText.joinWords (PyText.split (tidied given)) ∧
      (tidied (tidied given) = tidied given ∨ tidied (tidied given) ++ [' '] = tidied given) := by
  by_cases nothing : (PyText.joinWords (PyText.split given)).take 100 = []
  · have unnamed : tidied given = defaultName := if_pos nothing
    rw [unnamed]
    decide
  · have named : tidied given = (PyText.joinWords (PyText.split given)).take 100 := orDefault_of_ne nothing
    have short : (tidied given).length ≤ 100 := by
      rw [named]
      exact List.length_take_le ..
    rcases PyText.tidy_take given 100 with same | ⟨some_, same⟩
    · rw [← named] at same
      have again : tidied (tidied given) = tidied given := by
        rw [tidied, same, List.take_of_length_le short, orDefault_of_ne (tidied_ne given)]
      exact ⟨again.trans same.symm, .inl again⟩
    · rw [← named] at same some_
      have shorter : (PyText.joinWords (PyText.split (tidied given))).length ≤ 100 := by
        have length := congrArg List.length same
        rw [List.length_append] at length
        omega
      have again : tidied (tidied given) = PyText.joinWords (PyText.split (tidied given)) := by
        rw [tidied, List.take_of_length_le shorter, orDefault_of_ne some_]
      exact ⟨again, .inr (by rw [again, same])⟩

theorem tidied_tidied_tidied (given : PyText) : tidied (tidied (tidied given)) = tidied (tidied given) := by
  rw [(tidied_tidied given).1, tidied, PyText.tidy_tidy, ← tidied, (tidied_tidied given).1]

/-- What may be stored for a name: the tidied name, or what is left when it is tidied up again. -/
def StoredAs (name stored : PyText) : Prop :=
  ∃ given, name = tidied given ∧ (stored = name ∨ stored = tidied name)

theorem storedAs_tidied (given : PyText) : StoredAs (tidied given) (tidied given) := ⟨given, rfl, .inl rfl⟩

theorem StoredAs.again {name stored : PyText} (storedAs : StoredAs name stored) :
    StoredAs name (tidied stored) := by
  rcases storedAs with ⟨given, rfl, rfl | rfl⟩
  · exact ⟨given, rfl, .inr rfl⟩
  · exact ⟨given, rfl, .inr (tidied_tidied_tidied given)⟩

theorem StoredAs.blank {name stored : PyText} (storedAs : StoredAs name stored) :
    stored = name ∨ stored ++ [' '] = name := by
  rcases storedAs with ⟨given, rfl, rfl | rfl⟩
  · exact .inl rfl
  · exact (tidied_tidied given).2

/-! ### Reading back what was written -/

section

variable (repr : Json → PyText)

/-- A saved TV after it was loaded again. -/
def Profile.reread (profile : Profile) : Profile := { profile with name := tidied profile.name }

theorem readProfile_toJson {profile : Profile} (accepted : ipv4 profile.ip = some profile.ip) :
    readProfile repr profile.toJson = some profile.reread := by
  have ip : Json.get? [("ip".toList, .str profile.ip), ("name".toList, .str profile.name)] "ip".toList =
      some (.str profile.ip) := rfl
  have name : Json.get? [("ip".toList, .str profile.ip), ("name".toList, .str profile.name)] "name".toList =
      some (.str profile.name) := rfl
  rw [Profile.toJson, readProfile, ip, name]
  simp only [Option.getD_some, pyStr, accepted]
  rfl

theorem readProfile_wellFormed {item : Json} {profile : Profile} (isRead : readProfile repr item = some profile) :
    ipv4 profile.ip = some profile.ip ∧ profile.name ≠ [] := by
  cases item with
  | obj members =>
      rw [readProfile, Option.bind_eq_bind, Option.bind_eq_some_iff] at isRead
      rcases isRead with ⟨address, accepted, isRead⟩
      cases isRead
      exact ⟨ipv4_idempotent accepted, orDefault_ne _⟩
  | _ => cases isRead

/-- A loaded TV has an address that `ipv4` accepts, and a name. -/
theorem loadProfiles_wellFormed (files : Files PyText PyText) :
    ∀ profile ∈ (loadProfiles repr files).1, ipv4 profile.ip = some profile.ip ∧ profile.name ≠ [] := by
  have each : ∀ (items : List Json), ∀ profile ∈ items.filterMap (readProfile repr),
      ipv4 profile.ip = some profile.ip ∧ profile.name ≠ [] := by
    intro items profile member
    rcases List.mem_filterMap.mp member with ⟨item, _, isRead⟩
    exact readProfile_wellFormed repr isRead
  unfold loadProfiles
  repeat' split
  all_goals first | exact each _ | exact nofun

theorem loadProfiles_payload {files : Files PyText PyText} {ip : PyText} {profiles : List Profile}
    (there : files.read profilesFile = some (Json.dumps (payload ip profiles) ++ "\n".toList))
    (fits : PyText.utf8Size (Json.dumps (payload ip profiles) ++ "\n".toList) ≤ maxProfileBytes)
    (accepted : ∀ profile ∈ profiles, ipv4 profile.ip = some profile.ip) :
    loadProfiles repr files = (profiles.map Profile.reread, ip) := by
  have read : Json.loads (Json.dumps (payload ip profiles) ++ "\n".toList) = some (payload ip profiles) :=
    Json.loads_dumps _ (List.all_eq_true.mp rfl)
  have version : Json.get? [("version".toList, .int 1), ("last_used".toList, .str ip),
      ("tvs".toList, .arr (profiles.map Profile.toJson))] "version".toList = some (.int 1) := rfl
  have tvs : Json.get? [("version".toList, .int 1), ("last_used".toList, .str ip),
      ("tvs".toList, .arr (profiles.map Profile.toJson))] "tvs".toList =
      some (.arr (profiles.map Profile.toJson)) := rfl
  have lastUsed : Json.get? [("version".toList, .int 1), ("last_used".toList, .str ip),
      ("tvs".toList, .arr (profiles.map Profile.toJson))] "last_used".toList = some (.str ip) := rfl
  have readAll : (profiles.map Profile.toJson).filterMap (readProfile repr) = profiles.map Profile.reread := by
    rw [List.filterMap_map, ← List.filterMap_eq_map]
    exact List.filterMap_congr fun profile member => readProfile_toJson repr (accepted profile member)
  rw [loadProfiles, there]
  simp only [if_neg (Nat.not_lt.mpr fits), read]
  simp only [payload, version, tvs, lastUsed, Option.map_some, Option.getD_some, equalsOne, iterate, readAll, pyStr]
  rfl

theorem length_toJson (profile : Profile) :
    6 + (Json.dump 2 profile.toJson).length = profileBytes profile := by
  simp only [Profile.toJson, Json.dump, Json.dumpMembers, Json.newline, List.length_append, List.length_cons,
    List.length_replicate, List.length_nil, Json.length_quoted, profileBytes]
  have ip : Json.escapedLength "ip".toList = 2 := by decide
  have name : Json.escapedLength "name".toList = 4 := by decide
  omega

theorem length_dumpItems (profiles : List Profile) :
    (Json.dumpItems 2 (profiles.map Profile.toJson)).length = (profiles.map profileBytes).sum := by
  induction profiles with
  | nil => rfl
  | cons profile profiles ih =>
      have one := length_toJson profile
      simp only [List.map_cons, Json.dumpItems, List.length_append, List.length_cons, ih, List.sum_cons,
        Json.newline, List.length_replicate]
      omega

theorem utf8Size_payload (ip : PyText) (first : Profile) (others : List Profile) :
    PyText.utf8Size (Json.dumps (payload ip (first :: others)) ++ "\n".toList) =
      53 + Json.escapedLength ip + profileBytes first + (others.map profileBytes).sum := by
  have ascii : Json.Ascii (Json.dumps (payload ip (first :: others)) ++ "\n".toList) :=
    Json.ascii_append.mpr ⟨Json.ascii_dump _ 0, by simp⟩
  have one := length_toJson first
  have more := length_dumpItems others
  rw [ascii.utf8Size, Json.dumps, payload, List.map_cons]
  simp only [Json.dump, Json.dumpMembers, Json.newline, List.length_append, List.length_cons,
    List.length_replicate, List.length_nil, Json.length_quoted, more, Nat.reduceAdd]
  have version : Json.escapedLength "version".toList = 7 := by decide
  have lastUsed : Json.escapedLength "last_used".toList = 9 := by decide
  have tvs : Json.escapedLength "tvs".toList = 3 := by decide
  have digit : (Json.decimal 1).length = 1 := rfl
  have lineEnd : "\n".toList.length = 1 := rfl
  omega

/-! ### One save -/

/-- The TVs that a save writes, when some are known. -/
def written (known : List Profile) (save : TvSave) : List Profile :=
  { ip := save.ip, name := nameToWrite known save } ::
    (known.filter fun entry => entry.ip ≠ save.ip).take (maxProfiles - 1)

/-- The step of a run of saves. -/
def saveStep (files : Files PyText PyText) (save : TvSave) : Option (Files PyText PyText) :=
  some (saveProfile repr save.ip save.name files)

theorem TvSave.ipv4_ip (save : TvSave) : ipv4 save.ip = some save.ip := by
  rcases save.accepted with ⟨value, accepted⟩
  exact ipv4_idempotent accepted

theorem orDefault_keepName {known : List Profile}
    (wellFormed : ∀ profile ∈ known, ipv4 profile.ip = some profile.ip ∧ profile.name ≠ []) (save : TvSave) :
    orDefault (keepName (known.find? fun entry => entry.ip = save.ip) save.name) = nameToWrite known save := by
  unfold nameToWrite keepName
  by_cases manual : save.name = manualEntry
  · rw [if_pos manual]
    split
    · next old found =>
        rw [found, if_pos manual]
        exact orDefault_of_ne (wellFormed old (List.mem_of_find?_eq_some found)).2
    · next found =>
        rw [found, manual]
        rfl
  · rw [if_neg manual]
    split
    · rw [if_neg manual]
    · rfl

theorem read_saveProfile (files : Files PyText PyText) (save : TvSave) :
    (saveProfile repr save.ip save.name files).read profilesFile =
      some (Json.dumps (payload save.ip (written (loadProfiles repr files).1 save)) ++ "\n".toList) := by
  have places : profilesFile ≠ profilesTemp := by decide
  have name := orDefault_keepName (loadProfiles_wellFormed repr files) save
  rw [saveProfile, Files.read_unlink_of_ne _ places, Files.read_rename_target _ (Files.read_write_self ..), name]
  rfl

/-- A save that fits is loaded again, with the names tidied up. -/
theorem loadProfiles_saveProfile {files : Files PyText PyText} {save : TvSave}
    (fits : SaveFits repr files save) :
    loadProfiles repr (saveProfile repr save.ip save.name files) =
      ((written (loadProfiles repr files).1 save).map Profile.reread, save.ip) := by
  refine loadProfiles_payload repr (read_saveProfile repr files save) ?_ ?_
  · rw [written, utf8Size_payload]
    exact fits
  · intro profile member
    rcases List.mem_cons.mp member with rfl | other
    · exact save.ipv4_ip
    · exact (loadProfiles_wellFormed repr files profile (List.mem_of_mem_filter (List.mem_of_mem_take other))).1

/-- After one that does not, nothing is. -/
theorem loadProfiles_oversize {files : Files PyText PyText} {save : TvSave}
    (tooLarge : ¬ SaveFits repr files save) :
    loadProfiles repr (saveProfile repr save.ip save.name files) = ([], []) := by
  have above : PyText.utf8Size (Json.dumps (payload save.ip (written (loadProfiles repr files).1 save)) ++
      "\n".toList) > maxProfileBytes := by
    rw [written, utf8Size_payload]
    exact Nat.not_le.mp tooLarge
  rw [loadProfiles, read_saveProfile]
  simp only [if_pos above]

/-! ### Runs of saves -/

theorem nameOf_append (saves : List TvSave) (save : TvSave) (ip : PyText) :
    nameOf (saves ++ [save]) ip =
      if save.ip ≠ ip then nameOf saves ip
      else if save.name = manualEntry ∧ ip ∈ recentAddresses saves then nameOf saves ip
      else some (tidied save.name) := by
  rw [nameOf, List.reverse_append, List.reverse_singleton, List.singleton_append, nameAfter,
    List.reverse_reverse, nameOf]

theorem recentAddresses_append (saves : List TvSave) (save : TvSave) :
    recentAddresses (saves ++ [save]) =
      save.ip :: ((recentAddresses saves).filter (· ≠ save.ip)).take (maxProfiles - 1) := by
  have touched := Recency.take_touch (Recency.nodup_recent (saves.map TvSave.ip)) save.ip (maxProfiles - 1)
  rw [recentAddresses, List.map_append, List.map_singleton, Recency.recent_append_singleton]
  exact touched.symm

/-- What is stored after some saves. -/
structure StoredAfter (saves : List TvSave) (files : Files PyText PyText) : Prop where
  addresses : (loadProfiles repr files).1.map Profile.ip = recentAddresses saves
  lastUsed : ∀ save ∈ saves.getLast?, (loadProfiles repr files).2 = save.ip
  names : ∀ profile ∈ (loadProfiles repr files).1, ∃ name, nameOf saves profile.ip = some name ∧
    StoredAs name profile.name

variable {repr}

theorem StoredAfter.recentTvs {saves : List TvSave} {files : Files PyText PyText}
    (stored : StoredAfter repr saves files) : RecentTvs saves (loadProfiles repr files) where
  addresses := stored.addresses
  lastUsed := stored.lastUsed
  names := by
    intro profile member
    rcases stored.names profile member with ⟨name, known, storedAs⟩
    exact ⟨name, known, storedAs.blank⟩

theorem storedAfter_empty : StoredAfter repr [] Files.empty where
  addresses := rfl
  lastUsed := nofun
  names := nofun

/-- The name that a save writes, once it is loaded again, stands for the name of its address. -/
theorem StoredAfter.nameToWrite {saves : List TvSave} {files : Files PyText PyText}
    (stored : StoredAfter repr saves files) (save : TvSave) :
    ∃ name, nameOf (saves ++ [save]) save.ip = some name ∧
      StoredAs name (tidied (nameToWrite (loadProfiles repr files).1 save)) := by
  rw [nameOf_append, if_neg (not_not.mpr rfl)]
  unfold SysdvrWebos.nameToWrite
  by_cases manual : save.name = manualEntry
  · cases found : (loadProfiles repr files).1.find? fun entry => entry.ip = save.ip with
    | none =>
        have absent : save.ip ∉ recentAddresses saves := by
          rw [← stored.addresses]
          intro member
          rcases List.mem_map.mp member with ⟨profile, known, same⟩
          exact List.find?_eq_none.mp found profile known (decide_eq_true same)
        rw [if_neg fun both => absent both.2, if_pos manual, manual]
        exact ⟨_, rfl, storedAs_tidied manualEntry⟩
    | some old =>
        have known := List.mem_of_find?_eq_some found
        have same : old.ip = save.ip := by simpa using List.find?_some found
        have present : save.ip ∈ recentAddresses saves := by
          rw [← stored.addresses, ← same]
          exact List.mem_map_of_mem known
        rcases stored.names old known with ⟨name, named, storedAs⟩
        rw [if_pos ⟨manual, present⟩, if_pos manual, ← same]
        exact ⟨name, named, storedAs.again⟩
  · rw [if_neg fun both => manual both.1, if_neg manual, tidied_orDefault]
    exact ⟨_, rfl, storedAs_tidied save.name⟩

/-- One save that fits. -/
theorem StoredAfter.save {saves : List TvSave} {files : Files PyText PyText} {save : TvSave}
    (stored : StoredAfter repr saves files) (fits : SaveFits repr files save) :
    StoredAfter repr (saves ++ [save]) (saveProfile repr save.ip save.name files) := by
  have loaded := loadProfiles_saveProfile repr fits
  refine ⟨?_, ?_, ?_⟩
  · rw [loaded, recentAddresses_append, ← stored.addresses]
    rw [written, List.map_cons, List.map_cons, List.map_map, List.map_take, List.filter_map]
    rfl
  · intro last isLast
    rw [loaded]
    rw [List.getLast?_concat] at isLast
    cases isLast
    rfl
  · rw [loaded]
    intro profile member
    rcases List.mem_map.mp member with ⟨before, isWritten, rfl⟩
    rcases List.mem_cons.mp isWritten with rfl | other
    · exact stored.nameToWrite save
    · rcases List.mem_filter.mp (List.mem_of_mem_take other) with ⟨known, distinct⟩
      rcases stored.names before known with ⟨name, named, storedAs⟩
      have distinct : save.ip ≠ before.ip := fun same => of_decide_eq_true distinct same.symm
      exact ⟨name, by rw [Profile.reread, nameOf_append, if_pos distinct, named], storedAs.again⟩

/-- After a save that does not fit, the list is not what it should be. -/
theorem not_recentTvs_oversize (saves : List TvSave) {files : Files PyText PyText} {save : TvSave}
    (tooLarge : ¬ SaveFits repr files save) :
    ¬ RecentTvs (saves ++ [save]) (loadProfiles repr (saveProfile repr save.ip save.name files)) := by
  intro recent
  have addresses := recent.addresses
  rw [loadProfiles_oversize repr tooLarge, recentAddresses_append] at addresses
  cases addresses

theorem recentTvs_run_iff {saves before : List TvSave} {files : Files PyText PyText}
    (stored : StoredAfter repr before files) :
    (∀ run last, run <+: saves → Runs.exec (saveStep repr) files run = some last →
      RecentTvs (before ++ run) (loadProfiles repr last)) ↔
      Runs.AllSteps (saveStep repr) (SaveFits repr) files saves := by
  induction saves generalizing before files with
  | nil =>
      refine ⟨fun _ => trivial, fun _ run last isPrefix ran => ?_⟩
      cases List.prefix_nil.mp isPrefix
      cases ran
      rw [List.append_nil]
      exact stored.recentTvs
  | cons save saves ih =>
      constructor
      · intro recent
        have fits : SaveFits repr files save := by
          by_contra tooLarge
          exact not_recentTvs_oversize before tooLarge (recent [save] _ (by simp) rfl)
        refine ⟨fits, ?_⟩
        intro next stepped
        cases stepped
        apply (ih (stored.save fits)).mp
        intro run last isPrefix ran
        rw [List.append_assoc]
        exact recent (save :: run) last (List.cons_prefix_cons.mpr ⟨rfl, isPrefix⟩) ran
      · intro ⟨fits, later⟩ run last isPrefix ran
        cases run with
        | nil =>
            cases ran
            rw [List.append_nil]
            exact stored.recentTvs
        | cons first run =>
            rcases List.cons_prefix_cons.mp isPrefix with ⟨rfl, inside⟩
            have recent := (ih (stored.save fits)).mpr (later _ rfl) run last inside ran
            rw [List.append_assoc] at recent
            exact recent

end

/-- From no profile file on, the saved TVs are the most recently used list after each save if and only if
    each save stays within the size that is read back. -/
theorem recent_tvs_iff_saves_fit (repr : Json → PyText) (saves : List TvSave) :
    (∀ run last, run <+: saves → Runs.exec (saveStep repr) Files.empty run = some last →
      RecentTvs run (loadProfiles repr last)) ↔
      Runs.AllSteps (saveStep repr) (SaveFits repr) Files.empty saves :=
  recentTvs_run_iff storedAfter_empty

/-- A TV that announces a name of so many letters. -/
def longNamed (letters : Nat) : TvSave where
  ip := ipv4Text [192, 168, 0, 5]
  name := List.replicate letters 'a'
  accepted := ⟨_, ipv4_ipv4Text rfl (by decide) (by decide)⟩

theorem longNamed_tooLarge {letters : Nat} (many : 65536 ≤ letters) :
    ¬ SaveFits (fun _ => []) Files.empty (longNamed letters) := by
  intro fits
  have length : (longNamed letters).name.length = letters := List.length_replicate
  have escaped : Json.escapedLength (longNamed letters).name = letters := by
    rw [longNamed, Json.escapedLength, List.map_replicate, List.sum_replicate_nat]
    exact Nat.mul_one letters
  have named : (longNamed letters).name ≠ [] := by
    intro nothing
    rw [nothing, List.length_nil] at length
    omega
  have notManual : (longNamed letters).name ≠ manualEntry := by
    intro same
    rw [same] at length
    have short : manualEntry.length = 15 := rfl
    omega
  have whole : nameToWrite [] (longNamed letters) = (longNamed letters).name := by
    rw [nameToWrite, if_neg notManual, orDefault_of_ne named]
  have known : (loadProfiles (fun _ => []) Files.empty).1 = [] := rfl
  unfold SaveFits at fits
  rw [known] at fits
  simp only [whole, profileBytes, escaped, maxProfileBytes] at fits
  omega

/-- Once a name of 65,536 letters is saved, no TV is stored any more. -/
theorem long_name_empties_the_list :
    (loadProfiles (fun _ => []) (saveProfile (fun _ => []) (longNamed 65536).ip (longNamed 65536).name
      Files.empty)).1 = [] ∧
      ¬ RecentTvs [longNamed 65536] (loadProfiles (fun _ => [])
        (saveProfile (fun _ => []) (longNamed 65536).ip (longNamed 65536).name Files.empty)) := by
  have tooLarge := longNamed_tooLarge (Nat.le_refl 65536)
  have nothing := loadProfiles_oversize (fun _ => []) tooLarge
  exact ⟨congrArg Prod.fst nothing, not_recentTvs_oversize [] tooLarge⟩

end SysdvrWebos
