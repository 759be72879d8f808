/-
Module: SysdvrWebos.Proofs.WireToPlayer
Layer: Proofs
Purpose: From the wire to the player. However the bytes of the two sockets are cut, delayed or broken off,
  and however the threads of a live session interleave, the player is given packets the console has
  written: of each kind a prefix of them, and all of them where the worker has seen the console close.
Trusted boundary: none (fully proved)
Main exports: ReadsOff, readsOff_wire, mediaOf, player_gets_what_was_written
Open obligations: none
-/
import SysdvrWebos.Proofs.Delivery
import SysdvrWebos.Proofs.LiveRefinement
import SysdvrWebos.Proofs.SysdvrFraming

namespace SysdvrWebos

/-! ### One read, whatever the connection does -/

variable {packet : SysdvrPacket} {recvs : List RecvResult} {stream : List UInt8}

/-- A read of the socket that returns has filled its buffer with the next bytes of the stream, or it says
    that it has not; it says that it got nothing only where there was nothing. -/
inductive ReadOutcome (size total : Nat) (stream buffer : List UInt8) (r : SysdvrRead) : Prop where
  | filled (got : r.got = size) (available : size - total ≤ stream.length)
      (remaining : r.stream = stream.drop (size - total))
      (content : r.buffer.take size = buffer.take total ++ stream.take (size - total))
      (capacity : r.buffer.length = buffer.length)
  | short (got : r.got ≠ size) (nothing : r.got = 0 → total = 0 ∧ stream = [])

theorem sysdvrReadExact_outcome {size : Nat} {recvs : List RecvResult} :
    ∀ {stream buffer : List UInt8} {total : Nat} {r : SysdvrRead}, total ≤ size →
      size ≤ buffer.length → sysdvrReadExact size recvs stream buffer total = .ok r →
      ReadOutcome size total stream buffer r := by
  induction recvs with
  | nil =>
      intro stream buffer total r inside room read
      unfold sysdvrReadExact at read
      split at read
      · cases read
      · next full =>
          cases read
          have all : total = size := by omega
          subst all
          exact .filled rfl (by omega) (by simp) (by simp) rfl
  | cons answer recvs ih =>
      intro stream buffer total r inside room read
      by_cases full : total = size
      · rw [sysdvrReadExact_full full] at read
        cases read
        subst full
        exact .filled rfl (by omega) (by simp) (by simp) rfl
      have unfinished : total < size := by omega
      cases answer with
      | interrupted =>
          rw [sysdvrReadExact, if_pos unfinished] at read
          exact ih inside room read
      | wouldBlock =>
          rw [sysdvrReadExact, if_pos unfinished] at read
          cases read
          exact .short (by dsimp only; omega) (by dsimp only; omega)
      | failed =>
          rw [sysdvrReadExact, if_pos unfinished] at read
          cases read
          exact .short (by dsimp only; omega) (by dsimp only; omega)
      | bytes more =>
          by_cases atEnd : stream = []
          · have nothing : receive stream more (size - total) = [] :=
              (receive_eq_nil_iff (by omega)).mpr atEnd
            rw [sysdvrReadExact, if_pos unfinished] at read
            simp only [nothing, if_true] at read
            cases read
            refine .short (by dsimp only; omega) fun zero => ⟨?_, atEnd⟩
            dsimp only at zero
            omega
          · rcases sysdvrReadExact_segment unfinished room atEnd more recvs with
              ⟨segment, rest, after, rfl, positive, fits, capacity, front, step⟩
            rw [step] at read
            have offset : size - total = segment.length + (size - (total + segment.length)) := by omega
            cases ih fits (room.trans_eq capacity.symm) read with
            | filled got available remaining content length =>
                refine .filled got ?_ ?_ ?_ (length.trans capacity)
                · rw [List.length_append]
                  omega
                · rw [remaining, offset, ← List.drop_drop, List.drop_left]
                · rw [content, front, offset, List.take_length_add_append, List.append_assoc]
            | short got nothing =>
                refine .short got fun zero => ?_
                have empty := (nothing zero).1
                omega

theorem run_slice_take {content : List UInt8} {count : Nat} (inside : count ≤ content.length) :
    (Scan.slice 0 count : Scan UInt8 (List UInt8)).run (fun i => content.getD i 0)
      = content.take count := by
  rw [Scan.run_slice]
  apply List.ext_getElem
  · simp [inside]
  · intro i first second
    rw [List.length_take] at second
    simp [show i < content.length by omega]

/-- What a worker sees of a packet that was read. -/
theorem read_received {packet : SysdvrPacket} (inside : packet.payloadSize ≤ packet.payload.length)
    (recvs : List RecvResult) (stream : List UInt8) :
    (SysdvrReadResult.mk 1 packet recvs stream).read
      = .packet packet.header (packet.payload.take packet.payloadSize) := by
  rw [← run_slice_take inside]
  rfl

/-- The length field of a written packet is the length of its payload. -/
theorem header_dataSize (p : SysdvrWirePacket) : p.header.dataSize.toNat = p.payload.length := by
  have bound := p.fits
  have range : UInt32.size = 4294967296 := rfl
  rw [sysdvrMaxPayload] at bound
  exact UInt32.toNat_ofNat_of_lt' (by omega)

/-- The body of a packet whose header was read is read as well, or the read fails. -/
theorem sysdvrReadBody_front {p : SysdvrWirePacket} {raw rest : List UInt8} {r : SysdvrReadResult}
    (room : packet.payload.length = sysdvrMaxPayload) (decoded : sysdvrDecodeHeader raw = p.header)
    (read : sysdvrReadBody sysdvrMaxPayload packet raw recvs (p.payload ++ rest) = .ok r) :
    (r.read = .packet p.header p.payload ∧ r.stream = rest) ∨ r.read = .failed := by
  have fits := p.fits
  unfold sysdvrReadBody at read
  dsimp only at read
  rw [decoded, if_neg (by simp [SysdvrWirePacket.header]), header_dataSize, if_neg (by omega),
    if_neg (by simp [SysdvrWirePacket.header, p.noReplay])] at read
  split at read
  · cases bodyRead : sysdvrReadExact p.payload.length recvs (p.payload ++ rest) packet.payload 0 with
    | error halt =>
        rw [bodyRead] at read
        cases read
    | ok body =>
        simp only [bodyRead, bind, Except.bind, pure, Except.pure] at read
        cases sysdvrReadExact_outcome (Nat.zero_le _) (fits.trans_eq room.symm) bodyRead with
        | short got nothing =>
            rw [if_pos got] at read
            cases read
            exact Or.inr rfl
        | filled got available remaining content capacity =>
            rw [if_neg (by rw [got]; simp)] at read
            cases read
            rw [List.take_zero, List.nil_append, Nat.sub_zero, List.take_left] at content
            rw [Nat.sub_zero, List.drop_left] at remaining
            refine Or.inl ⟨?_, remaining⟩
            rw [read_received (show p.payload.length ≤ body.buffer.length by omega), content]
  · next empty =>
      cases read
      have none : p.payload = [] := List.eq_nil_of_length_eq_zero (by omega)
      rw [none, List.nil_append]
      exact Or.inl ⟨rfl, rfl⟩

/-- A packet in front of the stream is read, or the read fails. -/
theorem sysdvrReadPacket_front {p : SysdvrWirePacket} {rest : List UInt8} {r : SysdvrReadResult}
    (room : packet.payload.length = sysdvrMaxPayload)
    (read : sysdvrReadPacket sysdvrMaxPayload packet recvs (p.wire ++ rest) = .ok r) :
    (r.read = .packet p.header p.payload ∧ r.stream = rest) ∨ r.read = .failed := by
  have size : sysdvrPacketHeaderSize = 18 := rfl
  have long : (p.wire ++ rest).length = sysdvrPacketHeaderSize + p.payload.length + rest.length := by
    rw [SysdvrWirePacket.wire, List.length_append, List.length_append, p.length_head]
  have behind : (p.wire ++ rest).drop sysdvrPacketHeaderSize = p.payload ++ rest := by
    rw [SysdvrWirePacket.wire, List.append_assoc, ← p.length_head, List.drop_left]
  unfold sysdvrReadPacket at read
  cases headRead : sysdvrReadExact sysdvrPacketHeaderSize recvs (p.wire ++ rest)
      (List.replicate sysdvrPacketHeaderSize 0) 0 with
  | error halt =>
      rw [headRead] at read
      cases read
  | ok head =>
      simp only [headRead, bind, Except.bind, pure, Except.pure] at read
      cases sysdvrReadExact_outcome (Nat.zero_le _) (by simp) headRead with
      | short got nothing =>
          have begun : ¬ head.got = 0 := fun zero => by
            rw [(nothing zero).2, List.length_nil] at long
            omega
          rw [if_neg begun, if_pos got] at read
          cases read
          exact Or.inr rfl
      | filled got available remaining content capacity =>
          have begun : ¬ head.got = 0 := by
            rw [got]
            decide
          rw [if_neg begun, if_neg (by rw [got]; simp)] at read
          have raw : head.buffer = (p.wire ++ rest).take sysdvrPacketHeaderSize := by
            rw [List.length_replicate] at capacity
            rwa [List.take_of_length_le capacity.le, List.take_zero, List.nil_append,
              Nat.sub_zero] at content
          rw [Nat.sub_zero, behind] at remaining
          rw [raw, remaining] at read
          exact sysdvrReadBody_front room (sysdvrDecodeHeader_wire p rest) read

/-- Where the stream has ended or goes on with something malformed, no packet is read, and the end is
    found only where the stream has ended. -/
theorem sysdvrReadPacket_behind {r : SysdvrReadResult} (room : packet.payload.length = sysdvrMaxPayload)
    (last : stream = [] ∨ Malformed stream)
    (read : sysdvrReadPacket sysdvrMaxPayload packet recvs stream = .ok r) :
    (r.read = .closed ∧ stream = []) ∨ r.read = .failed := by
  have size : sysdvrPacketHeaderSize = 18 := rfl
  unfold sysdvrReadPacket at read
  cases headRead : sysdvrReadExact sysdvrPacketHeaderSize recvs stream
      (List.replicate sysdvrPacketHeaderSize 0) 0 with
  | error halt =>
      rw [headRead] at read
      cases read
  | ok head =>
      simp only [headRead, bind, Except.bind, pure, Except.pure] at read
      cases sysdvrReadExact_outcome (Nat.zero_le _) (by simp) headRead with
      | short got nothing =>
          by_cases zero : head.got = 0
          · rw [if_pos zero] at read
            cases read
            exact Or.inl ⟨rfl, (nothing zero).2⟩
          · rw [if_neg zero, if_pos got] at read
            cases read
            exact Or.inr rfl
      | filled got available remaining content capacity =>
          right
          have begun : ¬ head.got = 0 := by
            rw [got]
            decide
          rw [if_neg begun, if_neg (by rw [got]; simp)] at read
          have whole : sysdvrPacketHeaderSize ≤ stream.length := by omega
          have raw : head.buffer = stream.take sysdvrPacketHeaderSize := by
            rw [List.length_replicate] at capacity
            rwa [List.take_of_length_le capacity.le, List.take_zero, List.nil_append,
              Nat.sub_zero] at content
          have bad : Malformed stream := last.resolve_left fun nothing => by
            rw [nothing, List.length_nil] at whole
            omega
          rw [Nat.sub_zero] at remaining
          rw [raw, remaining] at read
          rcases sysdvrDecodeHeader_fields whole with ⟨magic, dataSize, _, metadata, _⟩
          unfold sysdvrReadBody at read
          generalize isHeader : sysdvrDecodeHeader (stream.take sysdvrPacketHeaderSize) = h at *
          dsimp only at read
          split at read
          · cases read
            rfl
          next sameMagic =>
          split at read
          · cases read
            rfl
          next small =>
          split at read
          · cases read
            rfl
          next noReplay =>
          cases bad with
          | cutHeader _ short => omega
          | wrongMagic _ other =>
              rw [← magic, not_not.mp sameMagic] at other
              exact absurd rfl other
          | oversized _ large =>
              rw [← dataSize] at large
              exact absurd (Or.inl large) small
          | replay _ bit =>
              rw [← metadata] at bit
              exact absurd bit noReplay
          | cutPayload _ short =>
              rw [← dataSize] at short
              rw [if_pos (by omega)] at read
              cases bodyRead : sysdvrReadExact h.dataSize.toNat head.recvs
                  (stream.drop sysdvrPacketHeaderSize) packet.payload 0 with
              | error halt =>
                  rw [bodyRead] at read
                  cases read
              | ok body =>
                  simp only [bodyRead, bind, Except.bind, pure, Except.pure] at read
                  cases sysdvrReadExact_outcome (Nat.zero_le _)
                      (show h.dataSize.toNat ≤ packet.payload.length by
                        rw [room]
                        exact Nat.le_of_not_lt fun large => small (Or.inl large)) bodyRead with
                  | short got _ =>
                      rw [if_pos got] at read
                      cases read
                      rfl
                  | filled _ available _ _ _ =>
                      rw [List.length_drop] at available
                      omega

/-! ### All reads of a socket -/

/-- The reads are what calls of `sysdvr_read_packet` come back with, one after the other, on a socket that
    carries the stream. Which buffer a call reads into and how the connection answers is left open. -/
inductive ReadsOff : List UInt8 → List PacketRead → Prop where
  | nothing (stream : List UInt8) : ReadsOff stream []
  | read {packet : SysdvrPacket} {recvs : List RecvResult} {stream : List UInt8}
      {r : SysdvrReadResult} {reads : List PacketRead}
      (room : packet.payload.length = sysdvrMaxPayload)
      (read : sysdvrReadPacket sysdvrMaxPayload packet recvs stream = .ok r)
      (later : ReadsOff r.stream reads) : ReadsOff stream (r.read :: reads)

/-- The end of the stream is the first thing that is not a packet, and no packet reports an error. -/
def endsClosed : List PacketRead → Bool
  | .closed :: _ => true
  | .packet header _ :: reads => header.metadata &&& sysdvrPacketError = 0 && endsClosed reads
  | _ => false

/-- A written packet as the player should get it. -/
def SysdvrWirePacket.media (p : SysdvrWirePacket) : MediaPacket := ⟨p.header, p.payload⟩

/-- The packets ahead of the first one that reports an error. -/
def untilError (packets : List SysdvrWirePacket) : List SysdvrWirePacket :=
  packets.takeWhile fun p => p.metadata &&& sysdvrPacketError = 0

/-- The packets written to a socket that are for the player: those of its kind that have content, up to
    the first one that reports an error. -/
def mediaOf (kind : StreamKind) (packets : List SysdvrWirePacket) : List MediaPacket :=
  ((untilError packets).map SysdvrWirePacket.media).filter fun packet =>
    expectedPacket kind packet.header && packet.payload.length > 0

/-- The reads of a socket find the packets written to it, in order, and the end of the stream only behind
    all of them. -/
theorem readsOff_wire {rest : List UInt8} (behind : rest = [] ∨ Malformed rest)
    {packets : List SysdvrWirePacket} :
    ∀ {reads : List PacketRead}, ReadsOff (packets.flatMap SysdvrWirePacket.wire ++ rest) reads →
      untilEnd reads <+: (untilError packets).map SysdvrWirePacket.media ∧
      (endsClosed reads = true →
        rest = [] ∧ untilEnd reads = (untilError packets).map SysdvrWirePacket.media) := by
  induction packets with
  | nil =>
      intro reads off
      rw [List.flatMap_nil, List.nil_append] at off
      cases off with
      | nothing => exact ⟨List.nil_prefix, nofun⟩
      | read room read later =>
          rcases sysdvrReadPacket_behind room behind read with ⟨closed, ended⟩ | failed
          · rw [closed]
            exact ⟨List.nil_prefix, fun _ => ⟨ended, rfl⟩⟩
          · rw [failed]
            exact ⟨List.nil_prefix, nofun⟩
  | cons p packets ih =>
      intro reads off
      rw [List.flatMap_cons, List.append_assoc] at off
      cases off with
      | nothing => exact ⟨List.nil_prefix, nofun⟩
      | read room read later =>
          rcases sysdvrReadPacket_front room read with ⟨received, remaining⟩ | failed
          · rw [remaining] at later
            rcases ih later with ⟨front, complete⟩
            have metadata : p.header.metadata = p.metadata := rfl
            rw [received]
            by_cases error : p.metadata &&& sysdvrPacketError = 0
            · have more : untilError (p :: packets) = p :: untilError packets := by
                simp [untilError, error]
              rw [more, untilEnd, metadata, if_neg (not_not.mpr error), List.map_cons]
              refine ⟨List.prefix_cons_inj _ |>.mpr front, fun ends => ?_⟩
              simp only [endsClosed, Bool.and_eq_true] at ends
              rcases complete ends.2 with ⟨ended, all⟩
              exact ⟨ended, by rw [all]; rfl⟩
            · rw [untilEnd, metadata, if_pos error]
              refine ⟨List.nil_prefix, fun ends => ?_⟩
              simp [endsClosed, metadata, error] at ends
          · rw [failed]
            exact ⟨List.nil_prefix, nofun⟩

/-- The variables of a worker ahead of its first read. -/
def blankPacket : SysdvrPacket := ⟨⟨0, 0, 0, 0, 0⟩, List.replicate sysdvrMaxPayload 0, 0⟩

/-- Over a connection that lives the reads find all that was written and then the end of the stream. -/
theorem readsOff_written (packets : List SysdvrWirePacket) :
    ReadsOff (packets.flatMap SysdvrWirePacket.wire)
      (packets.map (fun p => .packet p.header p.payload) ++ [.closed]) := by
  have room : blankPacket.payload.length = sysdvrMaxPayload := List.length_replicate
  have steady : ∀ count, Steady count (List.replicate (count + 1) (.bytes 0)) := fun count =>
    ⟨fun answer member => by rw [List.eq_of_mem_replicate member]; decide,
      by simp [List.countP_replicate, RecvResult.delivers]⟩
  induction packets with
  | nil =>
      rcases sysdvrReadPacket_verdict room
        (steady (List.length ([] : List UInt8))) with ⟨r, read, verdict⟩
      have closed : r.read = .closed := by
        have rc := verdict.rc_iff.1.mpr rfl
        simp [SysdvrReadResult.read, rc]
      have off := ReadsOff.read room read (.nothing _)
      rwa [closed] at off
  | cons p packets ih =>
      rcases sysdvrReadPacket_wire (p := p) room
        (steady (p.wire ++ packets.flatMap SysdvrWirePacket.wire).length) with
        ⟨r, read, rc, _, _, _, remaining, _⟩
      have received : r.read = .packet p.header p.payload := by
        rcases sysdvrReadPacket_front room read with ⟨received, _⟩ | failed
        · exact received
        · simp [SysdvrReadResult.read, rc] at failed
      have off := ReadsOff.read room read (remaining ▸ ih)
      rwa [received] at off

/-! ### The end a worker has found -/

/-- A worker that goes on leaves the end of the stream ahead of it, one that is told of the end has it in
    front of it. -/
theorem readData_endsClosed {kind : StreamKind} {reads : List PacketRead} :
    ∀ {result : DataResult} {rest : List PacketRead}, readData kind reads = some (result, rest) →
      (∀ packet, result = .data packet → endsClosed rest = true → endsClosed reads = true) ∧
      (result = .closed → endsClosed reads = true) := by
  induction reads with
  | nil =>
      intro result rest found
      cases found
  | cons read reads ih =>
      intro result rest found
      cases read with
      | closed =>
          cases found
          exact ⟨(fun _ other => by cases other), fun _ => rfl⟩
      | failed =>
          cases found
          exact ⟨(fun _ other => by cases other), fun other => by cases other⟩
      | packet header payload =>
          unfold readData at found
          by_cases error : header.metadata &&& sysdvrPacketError ≠ 0
          · rw [if_pos error] at found
            cases found
            exact ⟨(fun _ other => by cases other), fun other => by cases other⟩
          · rw [if_neg error] at found
            have goesOn : endsClosed reads = true →
                endsClosed (.packet header payload :: reads) = true := fun ends => by
              rw [endsClosed, ends, not_not.mp error]
              rfl
            by_cases media : (expectedPacket kind header && decide (payload.length > 0)) = true
            · rw [if_pos media] at found
              cases found
              exact ⟨fun _ _ => goesOn, fun other => by cases other⟩
            · rw [if_neg media] at found
              rcases ih found with ⟨ahead, here⟩
              exact ⟨fun packet same ends => goesOn (ahead packet same ends),
                fun closed => goesOn (here closed)⟩

/-- The worker has left its loop at the end of its stream. -/
def WorkerPc.atClose (pc : WorkerPc) : Bool := pc.leftBy fun cause => cause = .remoteClosed

/-- While a worker is in its loop the end of its stream is not behind it, and one that has left its loop
    there has found it. -/
structure StreamWorker.Follows (whole : List PacketRead) (w : StreamWorker) : Prop where
  ahead : w.pc.hasLeft = false → endsClosed w.reads = true → endsClosed whole = true
  found : w.pc.atClose = true → endsClosed whole = true

theorem WorkerMove.follows {w next : StreamWorker} {running after : Bool} {whole : List PacketRead}
    (move : WorkerMove w running next after) (follows : w.Follows whole) : next.Follows whole := by
  cases move with
  | takesFirst packet pc first => exact ⟨fun _ => follows.ahead (by rw [pc]; rfl), nofun⟩
  | startsLoop pc first => exact ⟨fun _ => follows.ahead (by rw [pc]; rfl), nofun⟩
  | goesOn pc set => exact ⟨fun _ => follows.ahead (by rw [pc]; rfl), nofun⟩
  | leaves pc cleared => exact ⟨nofun, nofun⟩
  | reads packet reads pc read =>
      refine ⟨fun _ ends => follows.ahead (by rw [pc]; rfl) ?_, nofun⟩
      exact (readData_endsClosed read).1 packet rfl ends
  | readsClose reads pc read =>
      refine ⟨nofun, fun _ => follows.ahead (by rw [pc]; rfl) ?_⟩
      exact (readData_endsClosed read).2 rfl
  | readsFailure reads pc read => exact ⟨nofun, nofun⟩
  | submits packet retries pc set => exact ⟨fun _ => follows.ahead (by rw [pc]; rfl), nofun⟩
  | submitStops packet retries pc cleared => exact ⟨nofun, nofun⟩
  | clears cause pc => exact ⟨nofun, fun closed => follows.found (by rw [pc]; exact closed)⟩

theorem FeedMove.follows {w next : StreamWorker} {answer : NdlFeedResult}
    {taken : Option AcceptedPacket} {whole : List PacketRead}
    (move : FeedMove w answer next taken) (follows : w.Follows whole) : next.Follows whole := by
  cases move with
  | accepts packet retries pc ok => exact ⟨fun _ => follows.ahead (by rw [pc]; rfl), nofun⟩
  | rejects packet retries pc rejected => exact ⟨nofun, nofun⟩
  | triesAgain packet retries pc unsettled => exact ⟨fun _ => follows.ahead (by rw [pc]; rfl), nofun⟩

theorem StreamWorker.Follows.created {whole : List PacketRead} {w : StreamWorker}
    (follows : w.Follows whole) (unstarted : w.pc = .unstarted) :
    StreamWorker.Follows whole { w with pc := .entry } :=
  ⟨fun _ => follows.ahead (by rw [unstarted]; rfl), nofun⟩

/-- The workers of a session follow their sockets. -/
structure Session.Following (whole : StreamKind → List PacketRead) (base : UInt64) (s : Session) :
    Prop where
  wired : s.Wired base
  follows : ∀ kind, (s.worker kind).Follows (whole kind)

theorem Session.Following.step {base : UInt64} {whole : StreamKind → List PacketRead} {s next : Session}
    {e : SessionEvent} (following : s.Following whole base) (step : sessionStep s e = some next) :
    next.Following whole base := by
  rcases following with ⟨wired, follows⟩
  refine ⟨wired.step step, fun kind => ?_⟩
  cases SessionMove.of_step step with
  | worker other w running move =>
      rw [Session.worker_running]
      by_cases here : kind = other
      · subst here
        rw [Session.worker_setWorker]
        exact move.follows (follows kind)
      · rw [Session.worker_setWorker_ne here]
        exact follows kind
  | feed other answer w taken move =>
      rw [Session.worker_accepted]
      by_cases here : kind = other
      · subst here
        rw [Session.worker_setWorker]
        exact move.follows (follows kind)
      · rw [Session.worker_setWorker_ne here]
        exact follows kind
  | createsVideo action main =>
      have unstarted := wired.videoUnstarted (wired.videoFresh main)
      cases kind with
      | video => exact (follows .video).created unstarted
      | audio => exact follows .audio
  | createsAudio action main =>
      have unstarted := wired.audioUnstarted (wired.audioFresh (Or.inr (Or.inr main)))
      cases kind with
      | video => exact follows .video
      | audio => exact (follows .audio).created unstarted
  | main creates action running signalStop userBack pc flows =>
      cases kind with
      | video => exact follows .video
      | audio => exact follows .audio
  | joinsVideo creates action main back =>
      cases kind with
      | video => exact follows .video
      | audio => exact follows .audio
  | joinsAudio creates action main back =>
      cases kind with
      | video => exact follows .video
      | audio => exact follows .audio
  | signal =>
      cases kind with
      | video => exact follows .video
      | audio => exact follows .audio

/-! ### The session -/

theorem primeWorker_append {allocated : Bool} {kind : StreamKind} {reads rest : List PacketRead}
    {first : MediaPacket} (more : List PacketRead)
    (primed : primeWorker allocated kind reads = .ok (some (first, rest))) :
    primeWorker allocated kind (reads ++ more) = .ok (some (first, rest ++ more)) := by
  have read := primeWorker_some primed
  unfold primeWorker at primed ⊢
  split at primed
  · cases primed
  · next has => rw [if_neg has, readData_append more read]

/-- The priming does not depend on what the sockets bring later. -/
theorem primeSession_append {allocated : StreamKind → Bool} {reads : StreamKind → List PacketRead}
    {s : Session} (more : StreamKind → List PacketRead)
    (primed : primeSession allocated reads = .ok (some s)) :
    primeSession allocated (fun kind => reads kind ++ more kind) = .ok (some (s.receiveAll more)) := by
  unfold primeSession at primed ⊢
  cases first : primeWorker (allocated .video) .video (reads .video) with
  | error halt =>
      rw [first] at primed
      cases primed
  | ok video =>
      cases video with
      | none =>
          rw [first] at primed
          cases primed
      | some video =>
          cases second : primeWorker (allocated .audio) .audio (reads .audio) with
          | error halt => simp [first, second, bind, Except.bind] at primed
          | ok audio =>
              cases audio with
              | none => simp [first, second, bind, Except.bind, pure, Except.pure] at primed
              | some audio =>
                  simp only [first, second, bind, Except.bind, pure, Except.pure, Except.ok.injEq,
                    Option.some.injEq] at primed
                  rw [primeWorker_append (more .video) first, primeWorker_append (more .audio) second]
                  simp only [bind, Except.bind, pure, Except.pure, ← primed]
                  rfl

/-- A list that begins with an element is led by it in every longer list. -/
theorem head_of_prefix {front : MediaPacket} {later whole : List MediaPacket}
    (leads : front :: later <+: whole) : ∃ others, whole = front :: others := by
  rcases leads with ⟨rest, rfl⟩
  exact ⟨later ++ rest, rfl⟩

/-- The console writes the given packets to each of its two sockets, and behind them nothing or something
    malformed. However the bytes are cut and delayed, wherever a connection breaks, and however the threads
    of the session interleave with what arrives: the player accepts, of each kind, a prefix of the packets
    that were written for it, and all of them where the worker has come to the end of its stream. All are
    stamped with their distance from the earlier of the two first ones. -/
theorem player_gets_what_was_written {allocated : StreamKind → Bool}
    {reads : StreamKind → List PacketRead} {session : Session} {events : List LiveEvent}
    {last : LiveSession} {packets : StreamKind → List SysdvrWirePacket}
    {rest : StreamKind → List UInt8} (behind : ∀ kind, rest kind = [] ∨ Malformed (rest kind))
    (off : ∀ kind, ReadsOff ((packets kind).flatMap SysdvrWirePacket.wire ++ rest kind)
      (reads kind ++ broughtBy events kind))
    (primed : primeSession allocated reads = .ok (some session))
    (run : Runs.exec liveStep (liveStart session) events = some last) :
    (∀ kind, last.session.acceptedOf kind <+: mediaOf kind (packets kind)) ∧
    (∀ kind, (last.session.worker kind).pc.atClose = true →
      rest kind = [] ∧ last.session.acceptedOf kind = mediaOf kind (packets kind)) ∧
    ∃ video videos audio audios, mediaOf .video (packets .video) = video :: videos ∧
      mediaOf .audio (packets .audio) = audio :: audios ∧
      ∀ a ∈ last.session.accepted, (a.ptsUs.toNat : Int) = distanceUs
        (min video.header.timestampUs.toNat audio.header.timestampUs.toNat) a.packet := by
  let whole := fun kind => reads kind ++ broughtBy events kind
  have primed' : primeSession allocated whole
      = .ok (some (session.receiveAll (broughtBy events))) := primeSession_append _ primed
  have run' := live_session_refines run
  rcases delivering_of_primed primed' with
    ⟨video, audio, videoLater, audioLater, first, second, start, unstarted⟩
  have began : ∀ kind, ((session.receiveAll (broughtBy events)).worker kind).Follows (whole kind) := by
    rcases primeSession_some primed' with ⟨v, a, videoRest, audioRest, readV, readA, same⟩
    rw [same]
    intro kind
    cases kind with
    | video => exact ⟨fun _ => (readData_endsClosed readV).1 v rfl, nofun⟩
    | audio => exact ⟨fun _ => (readData_endsClosed readA).1 a rfl, nofun⟩
  have delivering := Runs.exec_invariant (fun _ _ _ holds step => Session.Delivering.step holds step)
    start run'
  have follows := (Runs.exec_invariant
    (fun _ _ _ holds step => Session.Following.step holds step) ⟨start.wired, began⟩ run').follows
  have found : ∀ kind, deliverable kind (whole kind) <+: mediaOf kind (packets kind) := fun kind =>
    (readsOff_wire (behind kind) (off kind)).1.filter _
  have firstVideo := found .video
  have firstAudio := found .audio
  rw [first] at firstVideo
  rw [second] at firstAudio
  rcases head_of_prefix firstVideo with ⟨videos, isVideo⟩
  rcases head_of_prefix firstAudio with ⟨audios, isAudio⟩
  have stamped := delivering.stamped
  rw [earlierUs_toNat] at stamped
  refine ⟨fun kind => ?_, fun kind closed => ?_, video, videos, audio, audios, isVideo, isAudio, stamped⟩
  · rcases delivering.delivers kind with ⟨lost, parts, _⟩
    exact List.IsPrefix.trans ⟨_, parts⟩ (found kind)
  · rcases (readsOff_wire (behind kind) (off kind)).2 ((follows kind).found closed) with ⟨ended, all⟩
    refine ⟨ended, ?_⟩
    have everything : deliverable kind (whole kind) = mediaOf kind (packets kind) :=
      congrArg (List.filter _) all
    rw [← everything]
    refine (delivering.delivers kind).all ?_ ?_
    · cases pc : (last.session.worker kind).pc <;> simp_all [WorkerPc.atClose, WorkerPc.leftBy,
        WorkerPc.hasLeft]
    · cases pc : (last.session.worker kind).pc <;> simp_all [WorkerPc.atClose, WorkerPc.leftBy,
        WorkerPc.leftEarly, StopCause.ownEnd]

theorem video_noReplay : sysdvrPacketVideo &&& sysdvrPacketReplay = 0 := by decide

theorem audio_noReplay : sysdvrPacketAudio &&& sysdvrPacketReplay = 0 := by decide

theorem oneByte_fits (byte : UInt8) : [byte].length ≤ sysdvrMaxPayload := Nat.le_of_ble_eq_true rfl

/-- Two video packets and an audio packet of one byte each. -/
def writtenPackets : StreamKind → List SysdvrWirePacket
  | .video => [⟨1000, sysdvrPacketVideo, 0, [7], video_noReplay, oneByte_fits 7⟩,
      ⟨1033, sysdvrPacketVideo, 0, [9], video_noReplay, oneByte_fits 9⟩]
  | .audio => [⟨1012, sysdvrPacketAudio, 0, [5], audio_noReplay, oneByte_fits 5⟩]

/-- What the reads of a socket find. -/
def writtenReads (kind : StreamKind) : List PacketRead :=
  (writtenPackets kind).map (fun p => .packet p.header p.payload) ++ [.closed]

/-- The second video packet and the closes arrive while video is being played. -/
def playedToTheEnd : List LiveEvent :=
  [.thread (.main true .none), .thread (.main true .none), .thread (.main true .none),
    .thread (.worker .video), .thread (.worker .video), .thread (.feed .video .retry),
    .thread (.worker .video), .thread (.feed .video .ok), .thread (.worker .video),
    .arrives .video (.packet ⟨sysdvrPacketMagic, 1, 1033, sysdvrPacketVideo, 0⟩ [9]),
    .arrives .audio .closed, .thread (.worker .video), .thread (.worker .video),
    .thread (.feed .video .ok), .arrives .video .closed, .thread (.worker .video),
    .thread (.worker .video)]

/-- In that run both video packets are played. -/
theorem both_written_packets_played :
    ∃ last, Runs.exec liveStep (liveStart (primedSession 1000 ⟨⟨sysdvrPacketMagic, 1, 1000,
        sysdvrPacketVideo, 0⟩, [7]⟩ ⟨⟨sysdvrPacketMagic, 1, 1012, sysdvrPacketAudio, 0⟩, [5]⟩ [] []))
        playedToTheEnd = some last ∧
      last.session.acceptedOf .video = mediaOf .video (writtenPackets .video) := by
  have primed : primeSession (fun _ => true) (fun kind => (writtenReads kind).take 1)
      = .ok (some (primedSession 1000 ⟨⟨sysdvrPacketMagic, 1, 1000, sysdvrPacketVideo, 0⟩, [7]⟩
        ⟨⟨sysdvrPacketMagic, 1, 1012, sysdvrPacketAudio, 0⟩, [5]⟩ [] [])) := rfl
  have off : ∀ kind, ReadsOff ((writtenPackets kind).flatMap SysdvrWirePacket.wire ++ [])
      ((writtenReads kind).take 1 ++ broughtBy playedToTheEnd kind) := fun kind => by
    rw [List.append_nil]
    cases kind with
    | video => exact readsOff_written (writtenPackets .video)
    | audio => exact readsOff_written (writtenPackets .audio)
  have ends : (Runs.exec liveStep (liveStart (primedSession 1000 ⟨⟨sysdvrPacketMagic, 1, 1000,
        sysdvrPacketVideo, 0⟩, [7]⟩ ⟨⟨sysdvrPacketMagic, 1, 1012, sysdvrPacketAudio, 0⟩, [5]⟩ [] []))
      playedToTheEnd).map (fun last => (last.session.worker .video).pc.atClose) = some true := by
    decide
  rcases Option.map_eq_some_iff.mp ends with ⟨last, run, closed⟩
  exact ⟨last, run,
    ((player_gets_what_was_written (fun _ => Or.inl rfl) off primed run).2.1 .video closed).2⟩

end SysdvrWebos
