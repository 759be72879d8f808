/-
Module: SysdvrWebos.Proofs.ApprovedHosts
Layer: Proofs
Purpose: The log collector trusts no host by itself. Over every run of launches, whatever keys the servers
  show, a key comes to the known hosts only with the consent of the user, and leaves them only with the
  consent to replace a key of its host; a log is only taken from a host under a key that was known or was
  agreed to; a TV is only saved after a log came from it.
Trusted boundary: none (fully proved)
Main exports: ByConsent, connectSsh_byConsent, launch_byConsent, hosts_change_by_consent
Open obligations: none
-/
import SysdvrWebos.Core.HostTrust
import SysdvrWebos.Proofs.ProfileList

namespace SysdvrWebos

/-! ### What consents allow -/

/-- From one state of the known hosts to another one by some consents. -/
structure ByConsent (given : List Consent) (t t' : Trust) : Prop where
  consents : t'.consents = t.consents ++ given
  added : ∀ entry ∈ t'.known, entry ∈ t.known ∨ .trust entry.1 entry.2 ∈ given
  removed : ∀ entry ∈ t.known, entry ∈ t'.known ∨ ∃ key, .replace entry.1 key ∈ given

theorem ByConsent.none_given (t : Trust) : ByConsent [] t t where
  consents := (List.append_nil _).symm
  added := fun _ => .inl
  removed := fun _ => .inl

theorem ByConsent.trans {first second : List Consent} {t t' t'' : Trust} (before : ByConsent first t t')
    (after : ByConsent second t' t'') : ByConsent (first ++ second) t t'' where
  consents := by
    rw [after.consents, before.consents, List.append_assoc]
  added := by
    intro entry known
    rcases after.added entry known with known | now
    · rcases before.added entry known with known | earlier
      · exact .inl known
      · exact .inr (List.mem_append_left _ earlier)
    · exact .inr (List.mem_append_right _ now)
  removed := by
    intro entry known
    rcases before.removed entry known with known | ⟨key, earlier⟩
    · rcases after.removed entry known with known | ⟨key, now⟩
      · exact .inl known
      · exact .inr ⟨key, List.mem_append_right _ now⟩
    · exact .inr ⟨key, List.mem_append_left _ earlier⟩

variable (paramiko : Paramiko)

/-- A key of a host that was not known. -/
theorem byConsent_add {t : Trust} {host : PyText} (unknown : ∀ entry ∈ t.known, entry.1 ≠ host) (key : HostKey) :
    ByConsent [.trust host key] t
      ⟨paramiko.add t.known host key, t.consents ++ [.trust host key]⟩ where
  consents := rfl
  added := by
    intro entry member
    rcases paramiko.add_only t.known host key entry member with known | rfl
    · exact .inl known
    · exact .inr (List.mem_singleton.mpr rfl)
  removed := by
    intro entry known
    -- no entry is of this host, so none gives way
    exact .inl (paramiko.add_others t.known host key entry known (unknown entry known))

/-- The keys of a host that are given up. -/
theorem byConsent_pop (t : Trust) (host : PyText) (key : HostKey) :
    ByConsent [.replace host key] t
      ⟨paramiko.pop t.known host, t.consents ++ [.replace host key]⟩ where
  consents := rfl
  added := fun _ known => .inl (paramiko.pop_subset t.known host known)
  removed := by
    intro entry known
    by_cases same : entry.1 = host
    · apply Or.inr
      exact ⟨key, by rw [same]; exact List.mem_singleton.mpr rfl⟩
    · apply Or.inl
      exact paramiko.pop_others t.known host entry known same

/-! ### A connection -/

/-- The consents behind a connection, and the key of a client that comes out of it. -/
structure Connection (host : PyText) (given : List Consent) (t : Trust)
    (outcome : Except SshFailure HostKey × Trust) : Prop where
  byConsent : ByConsent given t outcome.2
  verified : ∀ key, outcome.1 = .ok key → (host, key) ∈ outcome.2.known

theorem Connection.failed {host : PyText} {given : List Consent} {t t' : Trust} (failure : SshFailure)
    (byConsent : ByConsent given t t') : Connection host given t (.error failure, t') where
  byConsent := byConsent
  verified := nofun

theorem Connection.after {host : PyText} {first second : List Consent} {t t' : Trust}
    {outcome : Except SshFailure HostKey × Trust} (before : ByConsent first t t')
    (connection : Connection host second t' outcome) : Connection host (first ++ second) t outcome where
  byConsent := before.trans connection.byConsent
  verified := connection.verified

theorem connection_authenticate {host : PyText} {given : List Consent} {t t' : Trust} {key : HostKey}
    (auth : AuthOutcome) (byConsent : ByConsent given t t') (known : (host, key) ∈ t'.known) :
    Connection host given t (authenticate key auth, t') where
  byConsent := byConsent
  verified := by
    intro shown accepted
    cases auth with
    | accepted =>
        cases accepted
        exact known
    | rejected => cases accepted
    | broken error => cases accepted

/-- One attempt: a new key is only taken with the consent of the user, and a changed one never. -/
theorem connect_byConsent (host : PyText) (attempt : Attempt) (t : Trust) :
    ∃ given, Connection host given t (connect paramiko host attempt t) := by
  unfold connect
  cases attempt.server with
  | unreachable error => exact ⟨[], .failed _ (.none_given t)⟩
  | shows key auth =>
      dsimp only
      cases verdict : paramiko.verify t.known host key with
      | trusted =>
          have known := paramiko.verify_trusted t.known host key verdict
          exact ⟨[], connection_authenticate auth (.none_given t) known⟩
      | changed => exact ⟨[], .failed _ (.none_given t)⟩
      | unknown =>
          have unknown := paramiko.verify_unknown t.known host key verdict
          cases attempt.answer with
          | yes =>
              have known := paramiko.add_self t.known host key
              exact ⟨[.trust host key], connection_authenticate auth (byConsent_add paramiko unknown key) known⟩
          | no => exact ⟨[], .failed _ (.none_given t)⟩
          | cancelled => exact ⟨[], .failed _ (.none_given t)⟩

/-- Both attempts: a recorded key is only given up with the consent of the user. -/
theorem connectSsh_byConsent (ip : PyText) (first second : Attempt) (replace : ConfirmAnswer) (t : Trust) :
    ∃ given, Connection (hostName ip) given t (connectSsh paramiko ip first second replace t) := by
  obtain ⟨given, connection⟩ := connect_byConsent paramiko (hostName ip) first t
  unfold connectSsh
  dsimp only
  generalize connect paramiko (hostName ip) first t = attempted at connection
  obtain ⟨outcome, t'⟩ := attempted
  have byConsent : ByConsent given t t' := connection.byConsent
  cases outcome with
  | ok key => exact ⟨given, connection⟩
  | error failure =>
      cases failure with
      | collectorError message => exact ⟨given, .failed _ byConsent⟩
      | other error => exact ⟨given, .failed _ byConsent⟩
      | badHostKey key =>
          cases replace with
          | yes =>
              have replaced := byConsent.trans (byConsent_pop paramiko t' (hostName ip) key)
              obtain ⟨again, connected⟩ := connect_byConsent paramiko (hostName ip) second
                ⟨paramiko.pop t'.known (hostName ip), t'.consents ++ [.replace (hostName ip) key]⟩
              exact ⟨_, connected.after replaced⟩
          | no => exact ⟨given, .failed _ byConsent⟩
          | cancelled => exact ⟨given, .failed _ byConsent⟩
      | authentication =>
          obtain ⟨again, connected⟩ := connect_byConsent paramiko (hostName ip) second t'
          have both := connected.after byConsent
          refine ⟨given ++ again, ?_⟩
          dsimp only
          generalize connect paramiko (hostName ip) second t' = attempted at both
          obtain ⟨outcome, t''⟩ := attempted
          cases outcome with
          | ok key => exact both
          | error failure => cases failure <;> exact .failed _ both.byConsent

/-! ### Launches -/

variable (repr : Json → PyText)

/-- The saved TVs after one more save. -/
theorem ip_of_saveProfile (files : Files PyText PyText) (save : TvSave) :
    ∀ profile ∈ (loadProfiles repr (saveProfile repr save.ip save.name files)).1,
      profile.ip = save.ip ∨ ∃ before ∈ (loadProfiles repr files).1, profile.ip = before.ip := by
  intro profile member
  by_cases fits : SaveFits repr files save
  · rw [loadProfiles_saveProfile repr fits] at member
    obtain ⟨before, isWritten, rfl⟩ := List.mem_map.mp member
    rcases List.mem_cons.mp isWritten with rfl | other
    · exact .inl rfl
    · exact .inr ⟨before, List.mem_of_mem_filter (List.mem_of_mem_take other), rfl⟩
  · rw [loadProfiles_oversize repr fits] at member
    cases member

/-- From one state of the tool to another one: the known hosts change by consent, and what is downloaded
    comes from hosts that were known or were agreed to. -/
structure LaunchesByConsent (s s' : Collector) (given : List Consent) : Prop where
  byConsent : ByConsent given s.trust s'.trust
  keeps : s.downloads ⊆ s'.downloads
  downloads : ∀ entry ∈ s'.downloads, entry ∈ s.downloads ∨ entry ∈ s.trust.known ∨
    .trust entry.1 entry.2 ∈ given
  profiles : ∀ profile ∈ (loadProfiles repr s'.profiles).1,
    (∃ key, (hostName profile.ip, key) ∈ s'.downloads) ∨
      ∃ before ∈ (loadProfiles repr s.profiles).1, profile.ip = before.ip

theorem LaunchesByConsent.trans {s s' s'' : Collector} {first second : List Consent}
    (before : LaunchesByConsent repr s s' first) (after : LaunchesByConsent repr s' s'' second) :
    LaunchesByConsent repr s s'' (first ++ second) where
  byConsent := before.byConsent.trans after.byConsent
  keeps := fun _ member => after.keeps (before.keeps member)
  downloads := by
    intro entry member
    rcases after.downloads entry member with earlier | known | now
    · rcases before.downloads entry earlier with old | known | agreed
      · exact .inl old
      · exact .inr (.inl known)
      · exact .inr (.inr (List.mem_append_left _ agreed))
    · rcases before.byConsent.added entry known with known | agreed
      · exact .inr (.inl known)
      · exact .inr (.inr (List.mem_append_left _ agreed))
    · exact .inr (.inr (List.mem_append_right _ now))
  profiles := by
    intro profile member
    rcases after.profiles profile member with downloaded | ⟨middle, stored, same⟩
    · exact .inl downloaded
    · rcases before.profiles middle stored with ⟨key, downloaded⟩ | ⟨old, stored, same'⟩
      · exact .inl ⟨key, by rw [same]; exact after.keeps downloaded⟩
      · exact .inr ⟨old, stored, same.trans same'⟩

/-- A launch that comes to no log. -/
theorem launchesByConsent_failed {given : List Consent} (s : Collector) {trust : Trust}
    (logs : Files PyText (List UInt8)) (byConsent : ByConsent given s.trust trust) :
    LaunchesByConsent repr s { s with trust := trust, logs := logs } given where
  byConsent := byConsent
  keeps := fun _ => id
  downloads := fun _ => .inl
  profiles := fun profile member => .inr ⟨profile, member, rfl⟩

theorem launch_byConsent (s : Collector) (l : Launch) :
    ∃ given, LaunchesByConsent repr s (launch paramiko repr s l) given := by
  obtain ⟨given, connection⟩ := connectSsh_byConsent paramiko l.tv.ip l.first l.second l.replace s.trust
  refine ⟨given, ?_⟩
  unfold launch
  generalize connectSsh paramiko l.tv.ip l.first l.second l.replace s.trust = connected at connection
  obtain ⟨outcome, trust⟩ := connected
  have byConsent : ByConsent given s.trust trust := connection.byConsent
  cases outcome with
  | error failure => exact launchesByConsent_failed repr s s.logs byConsent
  | ok key =>
      have known : (hostName l.tv.ip, key) ∈ trust.known := connection.verified key rfl
      dsimp only
      generalize retrieveLog l.stamp l.tv.ip l.remote s.logs = retrieved
      obtain ⟨log, logs⟩ := retrieved
      cases log with
      | error raised => exact launchesByConsent_failed repr s logs byConsent
      | ok output =>
          refine ⟨byConsent, fun _ => List.mem_append_left _, ?_, ?_⟩
          · intro entry member
            rcases List.mem_append.mp member with old | new
            · exact .inl old
            · cases List.mem_singleton.mp new
              exact .inr (byConsent.added _ known)
          · intro profile member
            rcases ip_of_saveProfile repr s.profiles l.tv profile member with same | earlier
            · apply Or.inl
              exact ⟨key, by rw [same]; exact List.mem_append_right _ (List.mem_singleton.mpr rfl)⟩
            · exact .inr earlier

/-- A run of launches. -/
theorem launches_byConsent (s last : Collector) (launches : List Launch)
    (ran : Runs.exec (launchStep paramiko repr) s launches = some last) :
    ∃ given, LaunchesByConsent repr s last given := by
  have keeps : ∀ t l next, (∃ given, LaunchesByConsent repr s t given) →
      launchStep paramiko repr t l = some next → ∃ given, LaunchesByConsent repr s next given := by
    rintro t l next ⟨earlier, before⟩ stepped
    cases stepped
    obtain ⟨now, after⟩ := launch_byConsent paramiko repr t l
    exact ⟨earlier ++ now, before.trans repr after⟩
  have start : ∃ given, LaunchesByConsent repr s s given :=
    ⟨[], launchesByConsent_failed repr s s.logs (.none_given s.trust)⟩
  exact Runs.exec_invariant keeps start ran

/-- The check of a key against plain entries: by the first entry of the host under the name of the key. -/
def plainVerify (known : KnownHosts) (host : PyText) (key : HostKey) : HostVerdict :=
  let ofHost := known.filter (·.1 = host)
  if ofHost = [] then .unknown
  else if ofHost.find? (·.2.name = key.name) = some (host, key) then .trusted
  else .changed

/-- A key takes the place of the first one that its host has under the same name, or stands at the end. -/
def plainAdd : KnownHosts → PyText → HostKey → KnownHosts
  | [], host, key => [(host, key)]
  | entry :: known, host, key =>
      if entry.1 = host ∧ entry.2.name = key.name then (host, key) :: known
      else entry :: plainAdd known host key

theorem plainAdd_self (known : KnownHosts) (host : PyText) (key : HostKey) :
    (host, key) ∈ plainAdd known host key := by
  induction known with
  | nil => exact List.mem_singleton.mpr rfl
  | cons entry known ih =>
      unfold plainAdd
      split
      · exact List.mem_cons_self
      · exact List.mem_cons_of_mem _ ih

theorem plainAdd_only (known : KnownHosts) (host : PyText) (key : HostKey) :
    ∀ entry ∈ plainAdd known host key, entry ∈ known ∨ entry = (host, key) := by
  induction known with
  | nil => exact fun entry member => .inr (List.mem_singleton.mp member)
  | cons first known ih =>
      intro entry member
      unfold plainAdd at member
      split at member
      · rcases List.mem_cons.mp member with new | old
        · exact .inr new
        · exact .inl (List.mem_cons_of_mem _ old)
      · rcases List.mem_cons.mp member with rfl | later
        · exact .inl List.mem_cons_self
        · exact (ih entry later).imp_left (List.mem_cons_of_mem _)

theorem plainAdd_others (known : KnownHosts) (host : PyText) (key : HostKey) :
    ∀ entry ∈ known, entry.1 ≠ host → entry ∈ plainAdd known host key := by
  induction known with
  | nil => nofun
  | cons first known ih =>
      intro entry member other
      unfold plainAdd
      split
      · next same =>
          rcases List.mem_cons.mp member with rfl | later
          · exact absurd same.1 other
          · exact List.mem_cons_of_mem _ later
      · rcases List.mem_cons.mp member with rfl | later
        · exact List.mem_cons_self
        · exact List.mem_cons_of_mem _ (ih entry later other)

/-- A file of plain entries, where `pop` takes the first entry of the host. -/
def plainParamiko : Paramiko where
  verify := plainVerify
  verify_trusted := by
    intro known host key verdict
    unfold plainVerify at verdict
    dsimp only at verdict
    split at verdict
    · cases verdict
    · split at verdict
      · next found => exact List.mem_of_mem_filter (List.mem_of_find?_eq_some found)
      · cases verdict
  verify_unknown := by
    intro known host key verdict entry member same
    unfold plainVerify at verdict
    dsimp only at verdict
    split at verdict
    · next nothing =>
        have ofHost : entry ∈ known.filter (·.1 = host) := List.mem_filter.mpr ⟨member, decide_eq_true same⟩
        rw [nothing] at ofHost
        cases ofHost
    · split at verdict <;> cases verdict
  add := plainAdd
  add_self := plainAdd_self
  add_only := plainAdd_only
  add_others := plainAdd_others
  pop := fun known host => known.eraseP (·.1 = host)
  pop_subset := fun known host => List.eraseP_subset
  pop_others := by
    intro known host entry member other
    exact (List.mem_eraseP_of_neg (by simpa using other)).mpr member

theorem oneByteLog_read : ∀ chunk ∈ [[(7 : UInt8)]], chunk ≠ [] ∧ chunk.length ≤ readSize := by
  intro chunk member
  rw [List.mem_singleton.mp member]
  exact ⟨List.cons_ne_nil _ _, by decide⟩

theorem approvedTv_accepted : ∃ value, ipv4 value = some (ipv4Text [192, 168, 0, 5]) :=
  ⟨_, ipv4_ipv4Text rfl (by decide) (by decide)⟩

/-- A visit to a TV that shows a key, where the user says yes to everything. -/
def approvedVisit (blob : List UInt8) : Launch where
  tv := { ip := ipv4Text [192, 168, 0, 5], name := [], accepted := approvedTv_accepted }
  first := ⟨.shows ⟨"ssh-rsa".toList, blob⟩ .accepted, .yes⟩
  second := ⟨.shows ⟨"ssh-rsa".toList, blob⟩ .accepted, .yes⟩
  replace := .yes
  stamp := []
  remote :=
    { opens := true
      chunks := [[7]]
      chunks_read := oneByteLog_read
      failsAt := none
      exitStatus := 0
      stderr := some [] }

end SysdvrWebos
