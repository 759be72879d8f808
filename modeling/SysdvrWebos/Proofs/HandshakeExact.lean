/-
Module: SysdvrWebos.Proofs.HandshakeExact
Layer: Proofs
Purpose: The SysDVR handshake speaks the grammar of Spec.HandshakeGrammar and nothing else: it succeeds
  exactly against a peer that greets and accepts, it takes exactly the peer's side of the handshake off the
  stream, and what it sends is the request, once, behind a supported hello.
Trusted boundary: none (fully proved)
Main exports: Written, sysdvrWriteAll_written, HandshakeVerdict, sysdvrHandshake_verdict,
  sysdvr_handshake_is_exact
Open obligations: none
-/
import SysdvrWebos.Core.SysdvrHandshake
import SysdvrWebos.Lib.FairSchedule
import SysdvrWebos.Proofs.SysdvrFraming
import SysdvrWebos.Spec.HandshakeGrammar

namespace SysdvrWebos

/-! ### Writing -/

/-- The `send` settles something: it takes bytes or fails. -/
def SendResult.decides : SendResult → Bool
  | .accepted _ | .zero | .failed => true
  | .interrupted => false

/-- What has gone out when a write returns: all of the buffer, or a proper part of its front. -/
inductive Written (buffer : List UInt8) (w : SysdvrWrite) : Prop where
  | complete (got : w.got = buffer.length) (sent : w.sent = buffer)
  | broken (got : w.got = -1) (part : w.sent <+: buffer) (missing : w.sent ≠ buffer)

theorem written_of_full {buffer sent : List UInt8} {total : Nat} (front : sent = buffer.take total)
    (full : ¬ total < buffer.length) (inside : total ≤ buffer.length) (sends : List SendResult) :
    Written buffer ⟨total, sent, sends⟩ := by
  have all : total = buffer.length := by omega
  exact .complete (by rw [all]) (by rw [front, all, List.take_length])

theorem written_of_broken {buffer sent : List UInt8} {total : Nat} (front : sent = buffer.take total)
    (unfinished : total < buffer.length) (sends : List SendResult) : Written buffer ⟨-1, sent, sends⟩ := by
  refine .broken rfl (front ▸ List.take_prefix total buffer) fun all => ?_
  have length := congrArg List.length (all.symm.trans front)
  rw [List.length_take] at length
  omega

/-- A write over a connection that does not interrupt forever returns, and has emitted the front of the buffer
    without a loss or a repetition. -/
theorem sysdvrWriteAll_written {buffer sent : List UInt8} {sends : List SendResult} {total : Nat}
    (enough : buffer.length - total < sends.countP SendResult.decides) (inside : total ≤ buffer.length)
    (front : sent = buffer.take total) :
    ∃ w, sysdvrWriteAll buffer sends total sent = .ok w ∧ Written buffer w := by
  induction sends generalizing sent total with
  | nil => exact absurd enough (Nat.not_lt_zero _)
  | cons answer sends ih =>
      unfold sysdvrWriteAll
      by_cases unfinished : total < buffer.length
      case neg =>
        rw [if_neg unfinished]
        exact ⟨_, rfl, written_of_full front unfinished inside _⟩
      rw [if_pos unfinished]
      cases answer with
      | failed => exact ⟨_, rfl, written_of_broken front unfinished sends⟩
      | zero => exact ⟨_, rfl, written_of_broken front unfinished sends⟩
      | interrupted =>
          rw [List.countP_cons_of_neg (by decide)] at enough
          exact ih enough inside front
      | accepted more =>
          rw [List.countP_cons_of_pos (by rfl)] at enough
          have taken : (buffer.drop total).take (more + 1) <+: buffer.drop total := List.take_prefix _ _
          have count : ((buffer.drop total).take (more + 1)).length
              = min (more + 1) (buffer.length - total) := by
            rw [List.length_take, List.length_drop]
          dsimp only
          generalize (buffer.drop total).take (more + 1) = segment at taken count ⊢
          have grown : sent ++ segment = buffer.take (total + segment.length) := by
            rw [List.take_add, front, ← List.prefix_iff_eq_take.mp taken]
          exact ih (by omega) (by omega) grown

/-! ### The messages -/

theorem protocolSupported_iff (a b : UInt8) :
    protocolSupported a b = true ↔ a = 0x30 ∧ ∃ version : ProtocolVersion, b = version.digit := by
  simp only [protocolSupported, Bool.and_eq_true, Bool.or_eq_true, decide_eq_true_eq]
  refine and_congr_right fun _ => ⟨?_, ?_⟩
  · rintro (two | three)
    · exact ⟨.v02, two⟩
    · exact ⟨.v03, three⟩
  · rintro ⟨version, rfl⟩
    cases version with
    | v02 => exact .inl rfl
    | v03 => exact .inr rfl

/-- The request the code fills in is that of the grammar. -/
theorem handshakeRequest_eq (version : ProtocolVersion) (kind : StreamKind) (audioBatching : UInt8) :
    handshakeRequest kind 0x30 version.digit audioBatching = version.request kind audioBatching := by
  cases kind with
  | video => rfl
  | audio => rfl

/-- The checks of the hello accept exactly the hello of a supported version. -/
theorem hello_checks_iff {hello : List UInt8} (long : hello.length = sysdvrHelloSize)
    (version : ProtocolVersion) :
    hello = version.hello ↔ hello.take 7 = helloTag ∧ hello.getD 9 0 = 0 ∧ hello.getD 7 0 = 0x30 ∧
      hello.getD 8 0 = version.digit := by
  constructor
  · rintro rfl
    exact ⟨rfl, rfl, rfl, rfl⟩
  · rintro ⟨tag, terminator, zero, digit⟩
    have size : sysdvrHelloSize = 10 := rfl
    have tail : hello.drop 7 = [hello.getD 7 0, hello.getD 8 0, hello.getD 9 0] := by
      rw [List.drop_eq_getElem_cons (by omega), List.drop_eq_getElem_cons (by omega),
        List.drop_eq_getElem_cons (by omega), List.drop_eq_nil_of_le (by omega)]
      simp [List.getD_eq_getElem?_getD, long, size]
    rw [← List.take_append_drop 7 hello, tag, tail, zero, digit, terminator]
    rfl

/-- The read of the response has the size the version asks for. -/
theorem responseSize_eq (version : ProtocolVersion) :
    (if version.digit ≥ 0x33 then 72 else 4) = version.responseSize := by
  cases version with
  | v02 => rfl
  | v03 => rfl

theorem takenFrom_drop {stream : List UInt8} {n : Nat} (inside : n ≤ stream.length) :
    takenFrom stream (stream.drop n) = stream.take n := by
  rw [takenFrom, List.length_drop, Nat.sub_sub_self inside]

/-- Two versions do not greet alike. -/
theorem hello_injective {first second : ProtocolVersion} {stream : List UInt8}
    (one : first.hello <+: stream) (two : second.hello <+: stream) : first = second := by
  have same : first.hello = second.hello := by
    rw [List.prefix_iff_eq_take.mp one, List.prefix_iff_eq_take.mp two]
    rfl
  cases first with
  | v02 =>
      cases second with
      | v02 => rfl
      | v03 => exact absurd same (by decide)
  | v03 =>
      cases second with
      | v02 => exact absurd same (by decide)
      | v03 => rfl

/-! ### The handshake -/

/-- How a handshake ends, by what the peer says and by how much of the request goes out. -/
inductive HandshakeVerdict (kind : StreamKind) (audioBatching : UInt8) (stream : List UInt8)
    (r : HandshakeResult) : Prop where
  | noHello (silent : ∀ version : ProtocolVersion, ¬ version.hello <+: stream) (rc : r.rc = -1)
      (heard : List UInt8) (exchanges : r.exchanges = [.received heard])
  | unsent (version : ProtocolVersion) (greets : version.hello <+: stream) (rc : r.rc = -1)
      (part : List UInt8) (front : part <+: version.request kind audioBatching)
      (missing : part ≠ version.request kind audioBatching)
      (exchanges : r.exchanges = [.received version.hello, .sent part])
  | refused (version : ProtocolVersion) (greets : version.hello <+: stream)
      (refuses : ¬ version.AcceptedBy stream) (rc : r.rc = -1) (heard : List UInt8)
      (exchanges : r.exchanges
        = [.received version.hello, .sent (version.request kind audioBatching), .received heard])
  | agreed (version : ProtocolVersion) (accepted : version.AcceptedBy stream) (rc : r.rc = 0)
      (written : r.protocolVersion = some (0x30, version.digit)) (heard : List UInt8)
      (exchanges : r.exchanges
        = [.received version.hello, .sent (version.request kind audioBatching), .received heard])
      (rest : r.stream = stream.drop version.handshakeSize)

variable {kind : StreamKind} {audioBatching : UInt8} {recvs : List RecvResult} {sends : List SendResult}
  {stream : List UInt8}

/-- Behind a supported hello: the request goes out or the write fails, and the response is complete and
    accepts or it does not. -/
theorem sysdvrNegotiate_verdict {version : ProtocolVersion} (greets : version.hello <+: stream)
    (enough : 16 < sends.countP SendResult.decides)
    (steady : Steady (stream.drop 10).length recvs) :
    ∃ r, sysdvrNegotiate kind 0x30 version.digit audioBatching version.hello recvs sends (stream.drop 10)
        = .ok r ∧ HandshakeVerdict kind audioBatching stream r := by
  have long : (version.request kind audioBatching).length = 16 := rfl
  have began : 10 ≤ stream.length := greets.length_le
  have room : version.responseSize ≤ (List.replicate 72 (0 : UInt8)).length := by
    cases version with
    | v02 => decide
    | v03 => decide
  rcases sysdvrWriteAll_written
    (show (version.request kind audioBatching).length - 0 < sends.countP SendResult.decides from enough)
    (Nat.zero_le _) (show [] = (version.request kind audioBatching).take 0 from rfl) with
    ⟨w, write, written⟩
  unfold sysdvrNegotiate
  simp only [handshakeRequest_eq, write, bind, Except.bind, responseSize_eq]
  cases written with
  | broken got part missing =>
      have failed : ¬ w.got = (sysdvrHandshakeRequestSize : Nat) := by
        rw [got]
        decide
      simp only [ne_eq, failed, not_false_eq_true, if_true, pure, Except.pure]
      exact ⟨_, rfl, .unsent version greets rfl w.sent part missing rfl⟩
  | complete got sent =>
      have done : w.got = (sysdvrHandshakeRequestSize : Nat) := got
      simp only [ne_eq, done, not_true_eq_false, if_false, sent]
      by_cases whole : version.responseSize ≤ (stream.drop 10).length
      case neg =>
        rcases sysdvrReadExact_closed steady room
          (show (stream.drop 10).length < version.responseSize - 0 by omega) with ⟨response, read, got', _⟩
        have short : ¬ response.got = (version.responseSize : Nat) := by
          rw [got']
          omega
        simp only [read, short, not_false_eq_true, if_true, pure, Except.pure]
        refine ⟨_, rfl, .refused version greets (fun accepted => ?_) rfl _ rfl⟩
        have complete := accepted.whole
        rw [ProtocolVersion.handshakeSize] at complete
        rw [List.length_drop] at whole
        omega
      case pos =>
        rcases sysdvrReadExact_fills steady (Nat.zero_le _) room
          (show version.responseSize - 0 ≤ (stream.drop 10).length by omega) with ⟨response, read, all⟩
        have word : (readLe32 response.buffer 0).toNat = wireField stream 10 4 := by
          have filled := all.filled
          rw [List.take_zero, List.nil_append, Nat.sub_zero] at filled
          have four : 0 + 4 ≤ version.responseSize := by
            cases version with
            | v02 => decide
            | v03 => decide
          have size : response.buffer.length = 72 := all.capacity
          rw [readLe32_toNat (by omega), ← wireField_take four, filled, wireField_take four]
          exact congrArg (fun bytes => LittleEndian.value (bytes.take 4)) (List.drop_drop)
        simp only [read, all.got, not_true_eq_false, if_false, pure, Except.pure]
        split
        · next other =>
            refine ⟨_, rfl, .refused version greets (fun accepted => other ?_) rfl _ rfl⟩
            exact UInt32.toNat_inj.mp (word.trans accepted.accepts)
        · next accepts =>
            rw [List.length_drop] at whole
            have accepted : version.AcceptedBy stream := by
              refine ⟨greets, ?_, ?_⟩
              · rw [ProtocolVersion.handshakeSize]
                omega
              · rw [← word, not_not.mp accepts]
                rfl
            refine ⟨_, rfl, .agreed version accepted rfl rfl _ rfl ?_⟩
            rw [ProtocolVersion.handshakeSize, ← List.drop_drop]
            exact all.remaining

/-- Over a connection that lives, a handshake returns and its verdict is that of the peer's bytes. -/
theorem sysdvrHandshake_verdict (batching : audioBatching ≤ sysdvrMaxAudioBatching)
    (enough : 16 < sends.countP SendResult.decides) (steady : Steady stream.length recvs) :
    ∃ r, sysdvrHandshake kind audioBatching recvs sends stream = .ok r ∧
      HandshakeVerdict kind audioBatching stream r := by
  have zeros : sysdvrHelloSize ≤ (List.replicate sysdvrHelloSize (0 : UInt8)).length := by simp
  have size : sysdvrHelloSize = 10 := rfl
  unfold sysdvrHandshake
  rw [if_neg (UInt8.not_lt.mpr batching)]
  by_cases whole : sysdvrHelloSize ≤ stream.length
  case neg =>
    rcases sysdvrReadExact_closed steady zeros
      (show stream.length < sysdvrHelloSize - 0 by omega) with ⟨hello, read, got, _⟩
    have short : ¬ hello.got = (sysdvrHelloSize : Nat) := by
      rw [got]
      omega
    simp only [read, bind, Except.bind, ne_eq, short, not_false_eq_true, if_true, pure, Except.pure]
    refine ⟨_, rfl, .noHello (fun version greets => whole ?_) rfl _ rfl⟩
    exact greets.length_le
  case pos =>
    rcases sysdvrReadExact_fills steady (Nat.zero_le _) zeros
      (show sysdvrHelloSize - 0 ≤ stream.length by omega) with ⟨hello, read, all⟩
    have buffer : hello.buffer = stream.take sysdvrHelloSize := by
      have filled := all.filled
      have long := all.capacity
      rw [List.length_replicate] at long
      rwa [List.take_of_length_le long.le, List.take_zero, List.nil_append, Nat.sub_zero] at filled
    have long : hello.buffer.length = sysdvrHelloSize := by
      rw [all.capacity, List.length_replicate]
    have remaining : hello.stream = stream.drop 10 := all.remaining
    have greets_iff : ∀ version : ProtocolVersion, version.hello <+: stream ↔ hello.buffer = version.hello := by
      intro version
      rw [List.prefix_iff_eq_take, buffer, eq_comm]
      rfl
    have heard : takenFrom stream hello.stream = hello.buffer := by
      rw [remaining, takenFrom_drop (by omega), buffer, size]
    simp only [read, bind, Except.bind, all.got, ne_eq, not_true_eq_false, if_false, pure, Except.pure]
    have checks := hello_checks_iff long
    split
    · next wrong =>
        refine ⟨_, rfl, .noHello (fun version greets => ?_) rfl _ rfl⟩
        rcases (checks version).mp ((greets_iff version).mp greets) with ⟨tag, terminator, _, _⟩
        exact wrong.elim (fun other => other tag) fun other => other terminator
    · next right =>
        rw [not_or, not_not, not_not] at right
        split
        · next unsupported =>
            refine ⟨_, rfl, .noHello (fun version greets => ?_) rfl _ rfl⟩
            rcases (checks version).mp ((greets_iff version).mp greets) with ⟨_, _, zero, digit⟩
            rw [(protocolSupported_iff _ _).mpr ⟨zero, version, digit⟩] at unsupported
            cases unsupported
        · next supported =>
            rcases (protocolSupported_iff _ _).mp (by simpa using supported) with ⟨zero, version, digit⟩
            have greeting := (checks version).mpr ⟨right.1, right.2, zero, digit⟩
            have steady' := all.steady
            rw [remaining] at steady'
            rw [heard, greeting, remaining]
            exact sysdvrNegotiate_verdict ((greets_iff version).mpr greeting) enough steady'

/-! ### What passes over the connection -/

/-- All bytes sent, in order. -/
def sentBytes (exchanges : List Exchange) : List UInt8 :=
  exchanges.flatMap fun
    | .sent bytes => bytes
    | .received _ => []

/-- All bytes received, in order. -/
def receivedBytes (exchanges : List Exchange) : List UInt8 :=
  exchanges.flatMap fun
    | .sent _ => []
    | .received bytes => bytes

/-- What a handshake guarantees. -/
structure HandshakeExact (kind : StreamKind) (audioBatching : UInt8) (stream : List UInt8)
    (r : HandshakeResult) : Prop where
  rc : r.rc = 0 ∨ r.rc = -1
  /-- It succeeds exactly if the peer greets and accepts and the request went out in full. -/
  succeeds_iff : r.rc = 0 ↔ ∃ version : ProtocolVersion, version.AcceptedBy stream ∧
    sentBytes r.exchanges = version.request kind audioBatching
  /-- On success the stream is at the first packet header. -/
  aligned : r.rc = 0 → ∃ version : ProtocolVersion, version.AcceptedBy stream ∧
    r.protocolVersion = some (0x30, version.digit) ∧
    (version = .v02 ∧ r.stream = stream.drop 14 ∨ version = .v03 ∧ r.stream = stream.drop 82)
  /-- Nothing is sent before a supported hello has been read in full, and what is sent then is the front of
      the request that echoes it, once. -/
  answers : ∀ before part after, r.exchanges = before ++ .sent part :: after →
    ∃ version : ProtocolVersion, version.hello <+: stream ∧ receivedBytes before = version.hello ∧
      part <+: version.request kind audioBatching ∧ sentBytes before = [] ∧ sentBytes after = []

/-- The only thing sent in such a list of exchanges is its second element. -/
theorem sent_of_split {heard request part : List UInt8} {tail before after : List Exchange}
    (quiet : ∀ exchange ∈ tail, ∃ bytes, exchange = .received bytes)
    (split : .received heard :: .sent request :: tail = before ++ .sent part :: after) :
    before = [.received heard] ∧ part = request ∧ after = tail := by
  cases before with
  | nil => cases split
  | cons first before =>
      rw [List.cons_append, List.cons.injEq] at split
      rcases split with ⟨rfl, split⟩
      cases before with
      | nil =>
          rw [List.nil_append, List.cons.injEq] at split
          rcases split with ⟨same, rfl⟩
          cases same
          exact ⟨rfl, rfl, rfl⟩
      | cons second before =>
          rw [List.cons_append, List.cons.injEq] at split
          rcases split with ⟨_, rfl⟩
          rcases quiet (.sent part) (by simp) with ⟨bytes, sent⟩
          cases sent

theorem sentBytes_quiet {tail : List Exchange}
    (quiet : ∀ exchange ∈ tail, ∃ bytes, exchange = .received bytes) : sentBytes tail = [] := by
  rw [sentBytes, List.flatMap_eq_nil_iff]
  intro exchange member
  rcases quiet exchange member with ⟨bytes, rfl⟩
  rfl

/-- A handshake that sent some front of the request behind the hello. -/
theorem answers_of_sent {version : ProtocolVersion} (greets : version.hello <+: stream)
    {r : HandshakeResult} {request : List UInt8} {tail : List Exchange}
    (front : request <+: version.request kind audioBatching)
    (quiet : ∀ exchange ∈ tail, ∃ bytes, exchange = .received bytes)
    (exchanges : r.exchanges = .received version.hello :: .sent request :: tail)
    {before after : List Exchange} {part : List UInt8}
    (split : r.exchanges = before ++ .sent part :: after) :
    ∃ version : ProtocolVersion, version.hello <+: stream ∧ receivedBytes before = version.hello ∧
      part <+: version.request kind audioBatching ∧ sentBytes before = [] ∧ sentBytes after = [] := by
  rw [exchanges] at split
  rcases sent_of_split quiet split with ⟨rfl, rfl, rfl⟩
  exact ⟨version, greets, List.append_nil _, front, rfl, sentBytes_quiet quiet⟩

theorem quiet_nil : ∀ exchange ∈ ([] : List Exchange), ∃ bytes, exchange = .received bytes :=
  fun _ member => absurd member List.not_mem_nil

theorem quiet_received (heard : List UInt8) :
    ∀ exchange ∈ [Exchange.received heard], ∃ bytes, exchange = .received bytes :=
  fun _ member => ⟨heard, List.mem_singleton.mp member⟩

/-- A failed handshake is exact if the peer did not accept or the request did not go out. -/
theorem exact_of_failed {r : HandshakeResult} (rc : r.rc = -1)
    (fails : ∀ version : ProtocolVersion, version.AcceptedBy stream →
      sentBytes r.exchanges ≠ version.request kind audioBatching)
    (answers : ∀ before part after, r.exchanges = before ++ .sent part :: after →
      ∃ version : ProtocolVersion, version.hello <+: stream ∧ receivedBytes before = version.hello ∧
        part <+: version.request kind audioBatching ∧ sentBytes before = [] ∧ sentBytes after = []) :
    HandshakeExact kind audioBatching stream r where
  rc := .inr rc
  succeeds_iff := by
    rw [rc]
    constructor
    · intro success
      cases success
    · rintro ⟨version, accepted, sent⟩
      exact absurd sent (fails version accepted)
  aligned success := by
    rw [rc] at success
    cases success
  answers := answers

theorem HandshakeVerdict.exact {r : HandshakeResult}
    (verdict : HandshakeVerdict kind audioBatching stream r) :
    HandshakeExact kind audioBatching stream r := by
  cases verdict with
  | noHello silent rc heard exchanges =>
      refine exact_of_failed rc (fun version accepted => absurd accepted.greets (silent version)) ?_
      intro before part after split
      rw [exchanges] at split
      cases before with
      | nil => cases split
      | cons first before => simp at split
  | unsent version greets rc part front missing exchanges =>
      refine exact_of_failed rc (fun other accepted => ?_) fun before part after split =>
        answers_of_sent greets front quiet_nil exchanges split
      rw [hello_injective accepted.greets greets, exchanges]
      exact fun sent => missing ((List.append_nil part).symm.trans sent)
  | refused version greets refuses rc heard exchanges =>
      refine exact_of_failed rc (fun other accepted => ?_) fun before part after split =>
        answers_of_sent greets (List.prefix_refl _) (quiet_received heard) exchanges split
      rw [hello_injective accepted.greets greets] at accepted
      exact absurd accepted refuses
  | agreed version accepted rc written heard exchanges rest =>
      refine ⟨.inl rc, ⟨fun _ => ⟨version, accepted, ?_⟩, fun _ => rc⟩,
        fun _ => ⟨version, accepted, written, ?_⟩, fun before part after split =>
        answers_of_sent accepted.greets (List.prefix_refl _) (quiet_received heard) exchanges split⟩
      · rw [exchanges]
        exact List.append_nil _
      · cases version with
        | v02 => exact .inl ⟨rfl, rest⟩
        | v03 => exact .inr ⟨rfl, rest⟩

/-- For every peer, every way its bytes are cut into `recv` results between interrupted calls, every pattern
    of partial, interrupted and failing sends, and both streams: the handshake returns, succeeds exactly if
    the request went out in full and the peer greets and accepts, and leaves the stream at the first packet.
    The request is that of the grammar, goes out once, and never before a supported hello. -/
theorem sysdvr_handshake_is_exact (kind : StreamKind) (audioBatching : UInt8)
    (batching : audioBatching ≤ sysdvrMaxAudioBatching) (stream : List UInt8)
    (recvs : Nat → RecvResult) (sends : Nat → SendResult)
    (lives : ∀ k, ¬ (recvs k).Breaks) (delivers : FairSchedule.Fair RecvResult.delivers recvs)
    (decides : FairSchedule.Fair SendResult.decides sends) :
    ∃ enough, ∀ turns, enough ≤ turns → ∃ r,
      sysdvrHandshake kind audioBatching ((List.range turns).map recvs) ((List.range turns).map sends)
        stream = .ok r ∧ HandshakeExact kind audioBatching stream r := by
  rcases FairSchedule.exists_many delivers stream.length with ⟨first, received⟩
  rcases FairSchedule.exists_many decides 16 with ⟨second, written⟩
  refine ⟨max first second, fun turns later => ?_⟩
  have steady : Steady stream.length ((List.range turns).map recvs) := by
    refine ⟨fun answer member => ?_, received turns (by omega)⟩
    rcases List.mem_map.mp member with ⟨k, _, rfl⟩
    exact lives k
  rcases sysdvrHandshake_verdict batching (written turns (by omega)) steady with ⟨r, ran, verdict⟩
  exact ⟨r, ran, verdict.exact⟩

/-- A console that speaks version 02 and accepts, with the start of a packet behind its response. -/
def acceptingPeer : List UInt8 := ProtocolVersion.v02.hello ++ [6, 0, 0, 0, 0xCC, 0xCC]

/-- Three bytes at a time in both directions, with interrupted calls in between, an audio stream is agreed
    on. -/
theorem threeByteSegments_agree :
    ∃ enough, ∀ turns, enough ≤ turns → ∃ r,
      sysdvrHandshake .audio 3
        ((List.range turns).map fun k => if k % 2 = 0 then .interrupted else .bytes 2)
        ((List.range turns).map fun k => if k % 2 = 0 then .accepted 2 else .interrupted)
        acceptingPeer = .ok r ∧ HandshakeExact .audio 3 acceptingPeer r :=
  sysdvr_handshake_is_exact .audio 3 (by decide) acceptingPeer _ _ (fun k => by split <;> decide)
    (fun k => ⟨2 * k + 1, by omega, by simp [RecvResult.delivers, Nat.add_mod]⟩)
    (fun k => ⟨2 * k, by omega, by simp [SendResult.decides]⟩)

end SysdvrWebos
