/-
Module: SysdvrWebos.Core.HostTrust
Layer: Core
Purpose: A launch of the log collector from the connection on (tools/log-collector/get_sysdvr_log.py,
  connect_ssh and main): the check of the host key with its two questions, the second attempt, the download,
  and the saved TV. A server may show any key at any attempt. `consents` and `downloads` are ghosts.
Trusted boundary: a fingerprint stands for its key; writing the known hosts succeeds; what stands before the
  connection (the choice of the TV, the dependencies, the private key) touches none of this state
Main exports: HostKey, KnownHosts, Paramiko, Consent, Trust, SshFailure, missingHostKey, connect, connectSsh,
  Launch, Collector, launchStep
Open obligations: none
-/
import SysdvrWebos.Core.LogCollector
import SysdvrWebos.Spec.RecentTvs

namespace SysdvrWebos

/-- A host key: `get_name` and the bytes. -/
structure HostKey where
  name : PyText
  blob : List UInt8
deriving Repr, DecidableEq

/-- The entries of `KNOWN_HOSTS`. -/
abbrev KnownHosts := List (PyText × HostKey)

/-- What the client makes of the key a server shows: it is recorded, the server is not known, or it is known
    under another key. -/
inductive HostVerdict where
  | trusted
  | unknown
  | changed
deriving Repr, DecidableEq

/-- What the tool relies on in paramiko: the verdict of `SSHClient.connect`, `HostKeys.add` and
    `HostKeys.pop`. -/
structure Paramiko where
  verify : KnownHosts → PyText → HostKey → HostVerdict
  verify_trusted : ∀ known host key, verify known host key = .trusted → (host, key) ∈ known
  verify_unknown : ∀ known host key, verify known host key = .unknown → ∀ entry ∈ known, entry.1 ≠ host
  add : KnownHosts → PyText → HostKey → KnownHosts
  add_self : ∀ known host key, (host, key) ∈ add known host key
  add_only : ∀ known host key, ∀ entry ∈ add known host key, entry ∈ known ∨ entry = (host, key)
  add_others : ∀ known host key, ∀ entry ∈ known, entry.1 ≠ host → entry ∈ add known host key
  pop : KnownHosts → PyText → KnownHosts
  pop_subset : ∀ known host, pop known host ⊆ known
  pop_others : ∀ known host, ∀ entry ∈ known, entry.1 ≠ host → entry ∈ pop known host

/-- The answer to a question; `cancelled` is an interrupt. -/
inductive ConfirmAnswer where
  | yes
  | no
  | cancelled
deriving Repr, DecidableEq

/-- A question that the user has said yes to: to trust a new key, or to give up the recorded one. -/
inductive Consent where
  | trust (host : PyText) (key : HostKey)
  | replace (host : PyText) (key : HostKey)
deriving Repr, DecidableEq

/-- The known hosts, and what the user has agreed to so far. -/
structure Trust where
  known : KnownHosts
  consents : List Consent
deriving Repr, DecidableEq

/-- An exception out of a connection: a `CollectorError`, a `BadHostKeyException`, an
    `AuthenticationException`, or another one that `connect_ssh` handles. -/
inductive SshFailure where
  | collectorError (message : PyText)
  | badHostKey (key : HostKey)
  | authentication
  | other (error : PyText)
deriving Repr, DecidableEq

/-- What comes of the authentication behind the check of the key. -/
inductive AuthOutcome where
  | accepted
  | rejected
  | broken (error : PyText)
deriving Repr, DecidableEq

/-- The server at one attempt: out of reach, or with the key that it shows. -/
inductive Server where
  | unreachable (error : PyText)
  | shows (key : HostKey) (auth : AuthOutcome)
deriving Repr, DecidableEq

/-- One attempt: the server, and the answer if the user is asked to trust its key. -/
structure Attempt where
  server : Server
  answer : ConfirmAnswer
deriving Repr, DecidableEq

/-- The name of a host in the known hosts. -/
def hostName (ip : PyText) : PyText := "[".toList ++ ip ++ "]:9922".toList

def cancelledError : SshFailure := .collectorError "Operation cancelled.".toList

variable (paramiko : Paramiko)

/-- `TrustFirstUse.missing_host_key`. -/
def missingHostKey (host : PyText) (key : HostKey) (answer : ConfirmAnswer) (t : Trust) :
    Except SshFailure Unit × Trust :=
  match answer with
  | .yes => (.ok (), ⟨paramiko.add t.known host key, t.consents ++ [.trust host key]⟩)
  | .no => (.error (.collectorError "Host key not approved.".toList), t)
  | .cancelled => (.error cancelledError, t)

/-- The authentication; the client is known by the key of its server. -/
def authenticate (key : HostKey) : AuthOutcome → Except SshFailure HostKey
  | .accepted => .ok key
  | .rejected => .error .authentication
  | .broken error => .error (.other error)

/-- `connect` inside `connect_ssh`. -/
def connect (host : PyText) (attempt : Attempt) (t : Trust) : Except SshFailure HostKey × Trust :=
  match attempt.server with
  | .unreachable error => (.error (.other error), t)
  | .shows key auth =>
      match paramiko.verify t.known host key with
      | .trusted => (authenticate key auth, t)
      | .changed => (.error (.badHostKey key), t)
      | .unknown =>
          match missingHostKey paramiko host key attempt.answer t with
          | (.error failure, t) => (.error failure, t)
          | (.ok (), t) => (authenticate key auth, t)

/-- `connect_ssh`, with the answer to the question whether to replace a key. -/
def connectSsh (ip : PyText) (first second : Attempt) (replace : ConfirmAnswer) (t : Trust) :
    Except SshFailure HostKey × Trust :=
  let host := hostName ip
  match connect paramiko host first t with
  | (.ok key, t) => (.ok key, t)
  | (.error (.badHostKey key), t) =>
      match replace with
      | .yes => connect paramiko host second ⟨paramiko.pop t.known host, t.consents ++ [.replace host key]⟩
      | .no => (.error (.collectorError "Changed host key rejected.".toList), t)
      | .cancelled => (.error cancelledError, t)
  | (.error .authentication, t) =>
      match connect paramiko host second t with
      | (.error .authentication, t) =>
          (.error (.collectorError ("TV rejected SSH authentication. ".toList ++
            "Check the Developer Mode passphrase.".toList)), t)
      | (result, t) => (result, t)
  | (.error (.other error), t) =>
      (.error (.collectorError ("SSH connection failed for ".toList ++ ip ++ ":9922: ".toList ++ error)), t)
  | (.error (.collectorError message), t) => (.error (.collectorError message), t)

/-- What a launch meets: the chosen TV, the attempts and the answer in `connect_ssh`, the time stamp, and the
    remote command. -/
structure Launch where
  tv : TvSave
  first : Attempt
  second : Attempt
  replace : ConfirmAnswer
  stamp : PyText
  remote : RemoteLog

/-- The state that outlives a launch, and the hosts that logs have come from. -/
structure Collector where
  trust : Trust
  logs : Files PyText (List UInt8)
  profiles : Files PyText PyText
  downloads : List (PyText × HostKey)

/-- Before the first launch. -/
def collectorStart : Collector where
  trust := ⟨[], []⟩
  logs := Files.empty
  profiles := Files.empty
  downloads := []

/-- `main` from `connect_ssh` on. -/
def launch (repr : Json → PyText) (s : Collector) (l : Launch) : Collector :=
  match connectSsh paramiko l.tv.ip l.first l.second l.replace s.trust with
  | (.error _, trust) => { s with trust := trust }
  | (.ok key, trust) =>
      match retrieveLog l.stamp l.tv.ip l.remote s.logs with
      | (.error _, logs) => { s with trust := trust, logs := logs }
      | (.ok _, logs) =>
          { trust := trust
            logs := logs
            profiles := saveProfile repr l.tv.ip l.tv.name s.profiles
            downloads := s.downloads ++ [(hostName l.tv.ip, key)] }

/-- One launch after the other. -/
def launchStep (repr : Json → PyText) (s : Collector) (l : Launch) : Option Collector :=
  some (launch paramiko repr s l)

end SysdvrWebos
