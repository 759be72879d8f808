/-
Module: SysdvrWebos.Proofs.ConnectAttempts
Layer: Proofs
Purpose: What sysdvr_tcp_connect_timeout leaves behind. It returns a descriptor for the first address that a
  connection can be made to, with the flags the descriptor was made with; every other descriptor it has made
  is closed, those of the rest of the app are untouched, and its waits keep to the timeout.
Trusted boundary: none (fully proved)
Main exports: connectFailure, connectOneTimeout_spec, connectLoop_spec, tcp_connect_keeps_one_descriptor
Open obligations: none
-/
import SysdvrWebos.Core.TcpConnect

namespace SysdvrWebos

/-! ### One address -/

/-- Why the connection is not made, behind the two calls that prepare it. -/
def attemptFailure (a : ConnectAnswers) : Option Errno :=
  match a.connect with
  | none => none
  | some e =>
      if !e.isPending then
        some e
      else
        match a.select with
        | .timedOut => some .timedOut
        | .failed e' _ => some e'
        | .ready _ =>
            match a.soError with
            | .unreadable e' => some e'
            | .error e' => some e'
            | .none => none

/-- Why an address does not give a connection, as `errno` tells it; `none` if it does. Putting the flags back
    may fail and then takes the place of the reason. -/
def connectFailure (a : ConnectAnswers) : Option Errno :=
  match a.getFlags, a.setFlags with
  | some e, _ => some e
  | none, some e => some e
  | none, none =>
      match attemptFailure a with
      | none => a.restoreFlags
      | some e => some (a.restoreFlags.getD e)

/-- What an attempt on the descriptor `fd`, made with `flags`, comes to. -/
structure Attempted (k : Kernel) (fd timeoutMs : Nat) (flags : UInt32) (failure : Option Errno)
    (result : Bool × Kernel) : Prop where
  returns : result.1 = failure.isNone
  table : ∃ d, result.2.table = Function.update k.table fd (some d) ∧ (failure = none → d = ⟨flags, true⟩)
  errno : failure ≠ none → result.2.errno = failure
  waited : result.2.waitedMs ≤ k.waitedMs + timeoutMs

/-- A kernel that differs in this descriptor, in `errno` and in the time. -/
structure Underway (k : Kernel) (fd : Nat) (connected : Bool) (now : Kernel) : Prop where
  table : ∃ flags, now.table = Function.update k.table fd (some ⟨flags, connected⟩)

theorem giveUpConnect_attempted {k now : Kernel} {fd timeoutMs : Nat} {flags : UInt32}
    {a : ConnectAnswers} (underway : Underway k fd false now)
    (waited : now.waitedMs ≤ k.waitedMs + timeoutMs) (e : Errno) :
    Attempted k fd timeoutMs flags (some (a.restoreFlags.getD e)) (giveUpConnect now fd flags a e) := by
  rcases underway.table with ⟨had, table⟩
  unfold giveUpConnect
  cases restore : a.restoreFlags with
  | some e' => exact ⟨rfl, ⟨_, table, nofun⟩, fun _ => rfl, waited⟩
  | none =>
      refine ⟨rfl, ⟨⟨flags, false⟩, ?_, nofun⟩, fun _ => rfl, waited⟩
      simp only [Kernel.setFlags, Kernel.fail, table, Handles.adjust_update]

theorem finishConnect_attempted {k now : Kernel} {fd timeoutMs : Nat} {flags : UInt32}
    {a : ConnectAnswers} (underway : Underway k fd false now)
    (waited : now.waitedMs ≤ k.waitedMs + timeoutMs) :
    Attempted k fd timeoutMs flags a.restoreFlags (finishConnect now fd flags a) := by
  rcases underway.table with ⟨had, table⟩
  unfold finishConnect
  cases restore : a.restoreFlags with
  | some e =>
      refine ⟨rfl, ⟨⟨had, true⟩, ?_, nofun⟩, fun _ => rfl, waited⟩
      simp only [Kernel.setFlags, Kernel.fail, Kernel.establish, table, Handles.adjust_update]
  | none =>
      refine ⟨rfl, ⟨⟨flags, true⟩, ?_, fun _ => rfl⟩, fun failed => absurd rfl failed, waited⟩
      simp only [Kernel.setFlags, Kernel.establish, table, Handles.adjust_update]

/-- An attempt succeeds exactly where nothing fails, and then the descriptor has its flags back. -/
theorem connectOneTimeout_spec {k : Kernel} {fd : Nat} {flags : UInt32}
    (opened : k.table fd = some ⟨flags, false⟩) (timeoutMs : Nat) (a : ConnectAnswers) :
    Attempted k fd timeoutMs flags (connectFailure a) (connectOneTimeout k fd timeoutMs a) := by
  have same : k.table = Function.update k.table fd (some ⟨flags, false⟩) := by
    rw [← opened, Function.update_eq_self]
  have flagsOf : k.flagsOf fd = flags := by rw [Kernel.flagsOf, opened]; rfl
  unfold connectOneTimeout connectFailure
  cases getFlags : a.getFlags with
  | some e => exact ⟨rfl, ⟨_, same, nofun⟩, fun _ => rfl, Nat.le_add_right _ _⟩
  | none =>
      dsimp only
      rw [flagsOf]
      cases setFlags : a.setFlags with
      | some e => exact ⟨rfl, ⟨_, same, nofun⟩, fun _ => rfl, Nat.le_add_right _ _⟩
      | none =>
          dsimp only [Kernel.setFlags]
          have underway : ∀ errno waited, Underway k fd false
              ⟨Handles.adjust k.table fd fun d => { d with flags := flags ||| oNonblock }, errno, waited⟩ :=
            fun _ _ => ⟨⟨flags ||| oNonblock, by rw [same, Handles.adjust_update, Function.update_idem]⟩⟩
          unfold attemptFailure
          cases connect : a.connect with
          | none => exact finishConnect_attempted (underway _ _) (Nat.le_add_right _ _)
          | some e =>
              dsimp only
              by_cases refused : (!e.isPending) = true
              · rw [if_pos refused, if_pos refused]
                exact giveUpConnect_attempted (underway _ _) (Nat.le_add_right _ _) e
              · rw [if_neg refused, if_neg refused]
                cases select : a.select with
                | timedOut => exact giveUpConnect_attempted (underway _ _) (Nat.le_refl _) _
                | failed e' afterMs =>
                    exact giveUpConnect_attempted (underway _ _)
                      (Nat.add_le_add_left (Nat.min_le_right _ _) _) _
                | ready afterMs =>
                    cases soError : a.soError with
                    | unreadable e' =>
                        exact giveUpConnect_attempted (underway _ _)
                          (Nat.add_le_add_left (Nat.min_le_right _ _) _) _
                    | error e' =>
                        exact giveUpConnect_attempted (underway _ _)
                          (Nat.add_le_add_left (Nat.min_le_right _ _) _) _
                    | none =>
                        exact finishConnect_attempted (underway _ _)
                          (Nat.add_le_add_left (Nat.min_le_right _ _) _)

/-! ### All addresses -/

namespace AddressAnswers

/-- The descriptor that is left open for an address, with the flags it was made with. -/
def connection (a : AddressAnswers) : Option (Nat × UInt32) :=
  match a.socket with
  | .error _ => none
  | .ok made => if connectFailure a.connect = none then some made else none

/-- Why the attempt at an address fails, if one is made. -/
def attemptError (a : AddressAnswers) : Option Errno :=
  match a.socket with
  | .error _ => none
  | .ok _ => connectFailure a.connect

/-- Why no descriptor is made for an address. -/
def socketError (a : AddressAnswers) : Option Errno :=
  match a.socket with
  | .error e => some e
  | .ok _ => none

end AddressAnswers

/-- The first address that gives a connection. -/
def firstConnection (addresses : List AddressAnswers) : Option (Nat × UInt32) :=
  addresses.findSome? AddressAnswers.connection

/-- The latest error of one kind, or what there was before. -/
def latestError (error : AddressAnswers → Option Errno) (addresses : List AddressAnswers)
    (before : Option Errno) : Option Errno :=
  addresses.foldl (fun last a => (error a).or last) before

/-- An error that is noted stays noted until a later one takes its place. -/
theorem latestError_ne_none {error : AddressAnswers → Option Errno} {addresses : List AddressAnswers} :
    ∀ e, latestError error addresses (some e) ≠ none := by
  induction addresses with
  | nil => exact fun e => nofun
  | cons a addresses ih =>
      intro e
      unfold latestError at ih ⊢
      rw [List.foldl_cons]
      cases error a with
      | none => exact ih e
      | some later => exact ih later

/-- The kernel hands out descriptors that are not in use. -/
def HandsOutFree (table : Handles.Table SocketDescriptor) (addresses : List AddressAnswers) : Prop :=
  ∀ a ∈ addresses, ∀ fd flags, a.socket = .ok (fd, flags) → table fd = none

/-- What the loop leaves behind. -/
structure LoopLeaves (timeoutMs : Nat) (addresses : List AddressAnswers) (k : Kernel)
    (lastErrno : Option Errno) (fd : Option Nat) (lastErrno' : Option Errno) (k' : Kernel) : Prop where
  fd : fd = (firstConnection addresses).map Prod.fst
  connected : ∀ made, firstConnection addresses = some made →
    k'.table = Function.update k.table made.1 (some ⟨made.2, true⟩)
  none : firstConnection addresses = none → k'.table = k.table ∧
    lastErrno' = latestError AddressAnswers.attemptError addresses lastErrno ∧
    (lastErrno' = none → k'.errno = latestError AddressAnswers.socketError addresses k.errno)
  waited : k'.waitedMs ≤ k.waitedMs + addresses.length * timeoutMs

section Loop

variable (timeoutMs : Nat) {a : AddressAnswers} (addresses : List AddressAnswers) {k : Kernel}
  (lastErrno : Option Errno) {fd : Nat} {flags : UInt32}

theorem connectLoop_refused {e : Errno} (refused : a.socket = .error e) :
    connectLoop timeoutMs (a :: addresses) k lastErrno
      = connectLoop timeoutMs addresses (k.fail e) lastErrno := by
  rw [connectLoop, refused]

/-- An address whose descriptor is in use is none that the kernel brings. -/
theorem connectLoop_inUse (made : a.socket = .ok (fd, flags)) (inUse : k.table fd ≠ none) :
    connectLoop timeoutMs (a :: addresses) k lastErrno = none := by
  have taken : (k.table fd).isNone = false := by
    rw [← Bool.not_eq_true, Option.isNone_iff_eq_none]
    exact inUse
  rw [connectLoop, made]
  simp [Kernel.socket, Handles.acquire, taken]

/-- The kernel with a new socket. -/
theorem socket_of_free (free : k.table fd = none) (flags : UInt32) :
    k.socket fd flags = some { k with table := Function.update k.table fd (some ⟨flags, false⟩) } := by
  rw [Kernel.socket, Handles.acquire_of_free free]
  rfl

/-- An address that gives a connection ends the loop. -/
theorem connectLoop_connects (made : a.socket = .ok (fd, flags)) (free : k.table fd = none)
    (connects : connectFailure a.connect = none) :
    ∃ k', connectLoop timeoutMs (a :: addresses) k lastErrno = some (some fd, lastErrno, k') ∧
      k'.table = Function.update k.table fd (some ⟨flags, true⟩) ∧
      k'.waitedMs ≤ k.waitedMs + timeoutMs := by
  have spec := connectOneTimeout_spec
    (k := { k with table := Function.update k.table fd (some ⟨flags, false⟩) })
    (Function.update_self fd _ k.table) timeoutMs a.connect
  rw [connectLoop, made]
  simp only [socket_of_free free, Option.bind_some]
  generalize connectOneTimeout _ fd timeoutMs a.connect = outcome at spec ⊢
  rcases outcome with ⟨success, tried⟩
  rcases spec.table with ⟨d, table, whole⟩
  have returned : success = true := spec.returns.trans (by rw [connects]; rfl)
  subst returned
  refine ⟨tried, rfl, ?_, spec.waited⟩
  rw [whole connects] at table
  exact table.trans (Function.update_idem ..)

/-- Behind an address that gives none, the descriptors are as they were. -/
theorem connectLoop_fails {e : Errno} (made : a.socket = .ok (fd, flags)) (free : k.table fd = none)
    (fails : connectFailure a.connect = some e) :
    ∃ closed : Kernel, connectLoop timeoutMs (a :: addresses) k lastErrno
        = connectLoop timeoutMs addresses closed (some e) ∧
      closed.table = k.table ∧ closed.waitedMs ≤ k.waitedMs + timeoutMs := by
  have spec := connectOneTimeout_spec
    (k := { k with table := Function.update k.table fd (some ⟨flags, false⟩) })
    (Function.update_self fd _ k.table) timeoutMs a.connect
  rw [connectLoop, made]
  simp only [socket_of_free free, Option.bind_some]
  generalize connectOneTimeout _ fd timeoutMs a.connect = outcome at spec ⊢
  rcases outcome with ⟨success, tried⟩
  rcases spec.table with ⟨d, table, _⟩
  have returned : success = false := spec.returns.trans (by rw [fails]; rfl)
  have errno : tried.errno = some e := (spec.errno (by rw [fails]; nofun)).trans fails
  subst returned
  have close : tried.close fd = some { tried with table := k.table } := by
    rw [Kernel.close, table, Function.update_idem, Handles.release_update free]
    rfl
  refine ⟨{ tried with table := k.table }, ?_, rfl, spec.waited⟩
  simp only [close, Option.bind_some, errno]

end Loop

theorem firstConnection_cons (a : AddressAnswers) (addresses : List AddressAnswers) :
    firstConnection (a :: addresses) = a.connection.or (firstConnection addresses) := by
  rw [firstConnection, List.findSome?_cons]
  cases a.connection <;> rfl

/-- Whatever the kernel answers, the loop returns the first connection and leaves at most its descriptor. -/
theorem connectLoop_holds {timeoutMs : Nat} {addresses : List AddressAnswers} :
    ∀ {k k' : Kernel} {lastErrno lastErrno' : Option Errno} {fd : Option Nat},
      connectLoop timeoutMs addresses k lastErrno = some (fd, lastErrno', k') →
      fd = (firstConnection addresses).map Prod.fst ∧
      (fd = none → k'.table = k.table) ∧
      (∀ made, fd = some made → k.table made = none ∧
        ∃ flags, k'.table = Function.update k.table made (some ⟨flags, true⟩)) := by
  induction addresses with
  | nil =>
      intro k k' lastErrno lastErrno' fd loop
      cases loop
      exact ⟨rfl, fun _ => rfl, nofun⟩
  | cons a addresses ih =>
      intro k k' lastErrno lastErrno' fd loop
      have first := firstConnection_cons a addresses
      cases made : a.socket with
      | error e =>
          rw [connectLoop_refused _ _ _ made] at loop
          rw [show a.connection = none by rw [AddressAnswers.connection, made], Option.none_or] at first
          rw [first]
          exact ih (k := k.fail e) loop
      | ok descriptor =>
          rcases descriptor with ⟨opened, flags⟩
          by_cases free : k.table opened = none
          · cases failure : connectFailure a.connect with
            | none =>
                rcases connectLoop_connects timeoutMs addresses lastErrno made free failure with
                  ⟨last, returns, table, _⟩
                have here : a.connection = some (opened, flags) := by
                  rw [AddressAnswers.connection, made]
                  exact if_pos failure
                rw [here, Option.some_or] at first
                rw [returns] at loop
                cases loop
                refine ⟨by rw [first]; rfl, nofun, fun other same => ?_⟩
                cases same
                exact ⟨free, flags, table⟩
            | some e =>
                rcases connectLoop_fails timeoutMs addresses lastErrno made free failure with
                  ⟨closed, goesOn, table, _⟩
                have nothing : a.connection = none := by
                  rw [AddressAnswers.connection, made]
                  exact if_neg (by rw [failure]; nofun)
                rw [nothing, Option.none_or] at first
                rw [goesOn] at loop
                have rest := ih loop
                rw [table] at rest
                rw [first]
                exact rest
          · rw [connectLoop_inUse _ _ _ made free] at loop
            cases loop

theorem connectLoop_spec {timeoutMs : Nat} {addresses : List AddressAnswers} :
    ∀ {k : Kernel} {lastErrno : Option Errno}, HandsOutFree k.table addresses →
      ∃ fd lastErrno' k', connectLoop timeoutMs addresses k lastErrno = some (fd, lastErrno', k') ∧
        LoopLeaves timeoutMs addresses k lastErrno fd lastErrno' k' := by
  induction addresses with
  | nil =>
      intro k lastErrno _
      exact ⟨none, lastErrno, k, rfl, rfl, nofun, fun _ => ⟨rfl, rfl, fun _ => rfl⟩, Nat.le_add_right _ _⟩
  | cons a addresses ih =>
      intro k lastErrno free
      have later : HandsOutFree k.table addresses := fun b member => free b (List.mem_cons_of_mem a member)
      have count : (addresses.length + 1) * timeoutMs = addresses.length * timeoutMs + timeoutMs :=
        Nat.succ_mul _ _
      have first := firstConnection_cons a addresses
      cases made : a.socket with
      | error e =>
          rcases @ih (k.fail e) lastErrno later with ⟨fd, lastErrno', k', loop, leaves⟩
          rw [show a.connection = none by rw [AddressAnswers.connection, made], Option.none_or] at first
          refine ⟨fd, lastErrno', k', (connectLoop_refused _ _ _ made).trans loop, first ▸ leaves.fd,
            first ▸ leaves.connected, fun nothing => ?_, ?_⟩
          · rcases leaves.none (first ▸ nothing) with ⟨table, last, errno⟩
            refine ⟨table, ?_, fun unset => ?_⟩
            · rw [last, latestError, latestError, List.foldl_cons, AddressAnswers.attemptError, made,
                Option.none_or]
            · rw [errno unset, latestError, latestError, List.foldl_cons, AddressAnswers.socketError, made]
              rfl
          · have waited : k'.waitedMs ≤ k.waitedMs + addresses.length * timeoutMs := leaves.waited
            rw [List.length_cons, count]
            omega
      | ok descriptor =>
          rcases descriptor with ⟨fd, flags⟩
          have unused : k.table fd = none := free a List.mem_cons_self fd flags made
          cases failure : connectFailure a.connect with
          | none =>
              rcases connectLoop_connects timeoutMs addresses lastErrno made unused failure with
                ⟨k', loop, table, waited⟩
              have here : a.connection = some (fd, flags) := by
                rw [AddressAnswers.connection, made]
                exact if_pos failure
              rw [here, Option.some_or] at first
              refine ⟨some fd, lastErrno, k', loop, by rw [first]; rfl, fun other same => ?_, ?_, ?_⟩
              · rw [first] at same
                cases same
                exact table
              · rw [first]
                nofun
              · rw [List.length_cons, count]
                omega
          | some e =>
              rcases connectLoop_fails timeoutMs addresses lastErrno made unused failure with
                ⟨closed, goesOn, table, waited⟩
              rcases @ih closed (some e) (table.symm ▸ later) with
                ⟨fd', lastErrno', k', loop, leaves⟩
              have unconnected : a.connection = none := by
                rw [AddressAnswers.connection, made]
                exact if_neg (by rw [failure]; nofun)
              rw [unconnected, Option.none_or] at first
              have after := leaves.connected
              rw [table] at after
              refine ⟨fd', lastErrno', k', goesOn.trans loop, first ▸ leaves.fd, first ▸ after,
                fun nothing => ?_, ?_⟩
              · rcases leaves.none (first ▸ nothing) with ⟨table', last, _⟩
                refine ⟨table'.trans table, ?_, fun unset => ?_⟩
                · rw [last, latestError, latestError, List.foldl_cons, AddressAnswers.attemptError, made]
                  dsimp only
                  rw [failure, Option.some_or]
                · rw [last] at unset
                  exact absurd unset (latestError_ne_none e)
              · have waited' := leaves.waited
                rw [List.length_cons, count]
                omega

/-- Connecting to a host of any number of addresses, with whatever answers the kernel gives: the result is
    the descriptor of the first address that gives a connection, with the flags it was made with, and no other
    descriptor is opened or closed by the end; without such an address all descriptors are as before, and
    `errno` tells why the last attempt failed, or the last socket where no attempt was made. The waits take
    at most the timeout for each address. -/
theorem tcp_connect_keeps_one_descriptor {k : Kernel} {addresses : List AddressAnswers}
    (free : HandsOutFree k.table addresses) (timeoutMs : Int) :
    ∃ fd k', sysdvrTcpConnectTimeout k timeoutMs (some addresses) = some (fd, k') ∧
      fd = (firstConnection addresses).map Prod.fst ∧
      (∀ made, firstConnection addresses = some made →
        k'.table = Function.update k.table made.1 (some ⟨made.2, true⟩)) ∧
      (firstConnection addresses = none → k'.table = k.table ∧
        k'.errno = (latestError AddressAnswers.attemptError addresses none).or
          (latestError AddressAnswers.socketError addresses k.errno)) ∧
      k'.waitedMs ≤ k.waitedMs + addresses.length * connectTimeout timeoutMs := by
  rcases @connectLoop_spec (connectTimeout timeoutMs) addresses k none free with
    ⟨fd, lastErrno, k', loop, leaves⟩
  unfold sysdvrTcpConnectTimeout
  simp only [loop, Option.map_some]
  cases first : firstConnection addresses with
  | some made =>
      have isFd : fd = some made.1 := by rw [leaves.fd, first]; rfl
      subst isFd
      refine ⟨_, _, rfl, rfl, fun other same => ?_, nofun, leaves.waited⟩
      cases same
      exact leaves.connected made first
  | none =>
      have isFd : fd = none := by rw [leaves.fd, first]; rfl
      subst isFd
      rcases leaves.none first with ⟨table, last, errno⟩
      cases set : lastErrno with
      | some e =>
          refine ⟨_, _, rfl, rfl, nofun, fun _ => ⟨table, ?_⟩, leaves.waited⟩
          rw [← last, set]
          rfl
      | none =>
          refine ⟨_, _, rfl, rfl, nofun, fun _ => ⟨table, ?_⟩, leaves.waited⟩
          rw [← last, set]
          exact errno set

/-- A host with two addresses: the first refuses at once, the second answers in the background. -/
def twoAddresses : List AddressAnswers :=
  [⟨.ok (5, 2), ⟨none, none, some (.other 111), .timedOut, .none, none⟩⟩,
    ⟨.ok (5, 2), ⟨none, none, some .inProgress, .ready 40, .none, none⟩⟩]

/-- The second one is left open, and it blocks. -/
theorem second_address_is_connected : ∃ k',
    sysdvrTcpConnectTimeout ⟨fun _ => none, none, 0⟩ 3000 (some twoAddresses) = some (some 5, k') ∧
      k'.table 5 = some ⟨2, true⟩ ∧ k'.waitedMs ≤ 6000 := by
  have free : HandsOutFree (fun _ => none) twoAddresses := fun _ _ _ _ _ => rfl
  rcases tcp_connect_keeps_one_descriptor (k := ⟨fun _ => none, none, 0⟩) free 3000 with
    ⟨fd, k', returns, isFd, table, _, waited⟩
  have first : firstConnection twoAddresses = some (5, 2) := by decide
  rw [first] at isFd
  subst isFd
  exact ⟨k', returns, by rw [table _ first]; rfl, waited⟩

end SysdvrWebos
