/-
Module: SysdvrWebos.Proofs.Delivery
Layer: Proofs
Purpose: The packets the player accepts from each socket are a prefix of what the socket has for it, once
  and in order, each at its distance from the shared time base, over every interleaving of the threads. The
  reads of a session are those of the packet reader on the socket.
Trusted boundary: none (fully proved)
Main exports: readDataPacket_reads, Delivers, Session.Delivering, sysdvr_packets_delivered_in_order
Open obligations: none
-/
import SysdvrWebos.Proofs.SessionSteps
import SysdvrWebos.Spec.SharedTimeline

namespace SysdvrWebos

/-! ### The reads of a socket -/

/-- The result of a packet read as a worker sees it. -/
def SysdvrReadResult.read (r : SysdvrReadResult) : PacketRead :=
  if r.rc = 0 then
    .closed
  else if r.rc < 0 then
    .failed
  else
    .packet r.packet.header
      ((Scan.slice 0 r.packet.payloadSize).run fun i => r.packet.payload.getD i 0)

/-- The results of up to `calls` successive packet reads on one socket. -/
def packetReads : (calls : Nat) → SysdvrPacket → List RecvResult → List UInt8 → List PacketRead
  | 0, _, _, _ => []
  | calls + 1, packet, recvs, stream =>
      match sysdvrReadPacket sysdvrMaxPayload packet recvs stream with
      | .error _ => []
      | .ok r => r.read :: packetReads calls r.packet r.recvs r.stream

/-- What `read_data_packet` handed back as a worker sees it. -/
def DataRead.result (d : DataRead) : DataResult :=
  match d.content with
  | some (.media header payload) => .data ⟨header, payload⟩
  | _ => if d.rc = 0 then .closed else .failed

/-- `read_data_packet` on a socket takes what the session model takes from the reads of that socket. -/
theorem readDataPacket_reads {kind : StreamKind} {calls : Nat} :
    ∀ {packet : SysdvrPacket} {recvs : List RecvResult} {stream : List UInt8} {d : DataRead},
      readDataPacket kind calls packet recvs stream = .ok d →
      ∃ left, readData kind (packetReads calls packet recvs stream)
        = some (d.result, packetReads left d.packet d.recvs d.stream) := by
  induction calls with
  | zero => nofun
  | succ calls ih =>
      intro packet recvs stream d received
      unfold readDataPacket at received
      cases reading : sysdvrReadPacket sysdvrMaxPayload packet recvs stream with
      | error halt => rw [reading] at received; cases received
      | ok r =>
          have head : packetReads (calls + 1) packet recvs stream
              = r.read :: packetReads calls r.packet r.recvs r.stream := by
            simp only [packetReads, reading]
          rw [head]
          simp only [reading, bind, Except.bind, pure, Except.pure] at received
          by_cases ended : r.rc ≤ 0
          · rw [if_pos ended] at received
            cases received
            refine ⟨calls, ?_⟩
            by_cases closed : r.rc = 0
            · simp [SysdvrReadResult.read, readData, DataRead.result, closed]
            · have failed : r.rc < 0 := by omega
              simp [SysdvrReadResult.read, readData, DataRead.result, closed, failed]
          · rw [if_neg ended] at received
            have size : ((Scan.slice 0 r.packet.payloadSize).run fun i =>
                r.packet.payload.getD i 0).length = r.packet.payloadSize := by
              rw [Scan.run_slice, List.length_map, List.length_range']
            have delivered : r.read = .packet r.packet.header
                ((Scan.slice 0 r.packet.payloadSize).run fun i => r.packet.payload.getD i 0) := by
              unfold SysdvrReadResult.read
              rw [if_neg (by omega), if_neg (by omega)]
            rw [delivered]
            unfold packetContent at received
            unfold readData
            by_cases error : r.packet.header.metadata &&& sysdvrPacketError ≠ 0
            · rw [if_pos error]
              rw [if_pos error, Scan.run_bind] at received
              cases received
              exact ⟨calls, rfl⟩
            · rw [if_neg error, size]
              rw [if_neg error] at received
              by_cases media : (expectedPacket kind r.packet.header
                  && decide (r.packet.payloadSize > 0)) = true
              · rw [if_pos media]
                rw [if_pos media, Scan.run_bind] at received
                cases received
                exact ⟨calls, rfl⟩
              · rw [if_neg media]
                rw [if_neg media] at received
                exact ih received

theorem deliverable_packet (kind : StreamKind) (header : SysdvrPacketHeader) (payload : List UInt8)
    (reads : List PacketRead) :
    deliverable kind (.packet header payload :: reads) =
      if header.metadata &&& sysdvrPacketError ≠ 0 then
        []
      else if (expectedPacket kind header && decide (payload.length > 0)) = true then
        ⟨header, payload⟩ :: deliverable kind reads
      else
        deliverable kind reads := by
  unfold deliverable
  rw [untilEnd]
  split
  · rfl
  · rw [List.filter_cons]

/-- What a worker takes from its socket is the next deliverable packet, or there is none left. -/
theorem readData_deliverable {kind : StreamKind} {reads : List PacketRead} :
    ∀ {result : DataResult} {rest : List PacketRead},
      readData kind reads = some (result, rest) →
      match result with
      | .data packet => deliverable kind reads = packet :: deliverable kind rest
      | _ => deliverable kind reads = [] := by
  induction reads with
  | nil => nofun
  | cons read reads ih =>
      intro result rest found
      cases read with
      | closed => cases found; rfl
      | failed => cases found; rfl
      | packet header payload =>
          unfold readData at found
          rw [deliverable_packet]
          by_cases error : header.metadata &&& sysdvrPacketError ≠ 0
          · rw [if_pos error] at found
            cases found
            rw [if_pos error]
          · rw [if_neg error] at found
            rw [if_neg error]
            by_cases media : (expectedPacket kind header && decide (payload.length > 0)) = true
            · rw [if_pos media] at found
              cases found
              rw [if_pos media]
            · rw [if_neg media] at found
              rw [if_neg media]
              exact ih found

/-! ### One worker -/

/-- The worker has come to the end of its own socket. -/
def StopCause.ownEnd : StopCause → Bool
  | .remoteClosed => true
  | .readFailed => true
  | _ => false

/-- The worker has left its loop for one of the given causes. -/
def WorkerPc.leftBy (causes : StopCause → Bool) : WorkerPc → Bool
  | .clearing cause => causes cause
  | .finished cause => causes cause
  | _ => false

/-- The worker has left its loop. -/
def WorkerPc.hasLeft (pc : WorkerPc) : Bool := pc.leftBy fun _ => true

/-- The worker has left its loop at the end of its socket. -/
def WorkerPc.atOwnEnd (pc : WorkerPc) : Bool := pc.leftBy StopCause.ownEnd

/-- The worker has left its loop ahead of the end of its socket. -/
def WorkerPc.leftEarly (pc : WorkerPc) : Bool := pc.leftBy fun cause => !cause.ownEnd

/-- The packets a worker can still submit. -/
def StreamWorker.remaining (w : StreamWorker) : List MediaPacket :=
  match w.pc with
  | .unstarted => w.first.toList ++ deliverable w.kind w.reads
  | .entry => w.first.toList ++ deliverable w.kind w.reads
  | .loopTest => deliverable w.kind w.reads
  | .reading => deliverable w.kind w.reads
  | .submitTest packet _ => packet :: deliverable w.kind w.reads
  | .feeding packet _ => packet :: deliverable w.kind w.reads
  | .clearing _ => []
  | .finished _ => []

/-- Of all packets of the socket, those accepted, those remaining and those given up follow one another;
    none is given up unless the worker has left its loop ahead of the end of the socket. -/
def Delivers (whole accepted : List MediaPacket) (w : StreamWorker) : Prop :=
  ∃ lost, accepted ++ (w.remaining ++ lost) = whole ∧
    (w.pc.leftEarly = false → lost = [])

theorem WorkerMove.delivers {w next : StreamWorker} {running after : Bool}
    (move : WorkerMove w running next after) {whole accepted : List MediaPacket}
    (delivers : Delivers whole accepted w) : Delivers whole accepted next := by
  rcases delivers with ⟨lost, parts, kept⟩
  cases move with
  | takesFirst packet pc first =>
      refine ⟨lost, ?_, fun _ => kept (by rw [pc]; rfl)⟩
      rw [← parts]
      simp [StreamWorker.remaining, pc, first]
  | startsLoop pc first =>
      refine ⟨lost, ?_, fun _ => kept (by rw [pc]; rfl)⟩
      rw [← parts]
      simp [StreamWorker.remaining, pc, first]
  | goesOn pc set =>
      refine ⟨lost, ?_, fun _ => kept (by rw [pc]; rfl)⟩
      rw [← parts]
      simp [StreamWorker.remaining, pc]
  | leaves pc cleared =>
      refine ⟨w.remaining ++ lost, ?_, nofun⟩
      rw [← parts]
      simp [StreamWorker.remaining]
  | reads packet reads pc read =>
      refine ⟨lost, ?_, fun _ => kept (by rw [pc]; rfl)⟩
      rw [← parts]
      simp [StreamWorker.remaining, pc, readData_deliverable read]
  | readsClose reads pc read =>
      refine ⟨lost, ?_, fun _ => kept (by rw [pc]; rfl)⟩
      rw [← parts]
      simp [StreamWorker.remaining, pc, readData_deliverable read]
  | readsFailure reads pc read =>
      refine ⟨lost, ?_, fun _ => kept (by rw [pc]; rfl)⟩
      rw [← parts]
      simp [StreamWorker.remaining, pc, readData_deliverable read]
  | submits packet retries pc set =>
      refine ⟨lost, ?_, fun _ => kept (by rw [pc]; rfl)⟩
      rw [← parts]
      simp [StreamWorker.remaining, pc]
  | submitStops packet retries pc cleared =>
      refine ⟨w.remaining ++ lost, ?_, nofun⟩
      rw [← parts]
      simp [StreamWorker.remaining, StreamWorker.giveUp]
  | clears cause pc =>
      refine ⟨lost, ?_, fun own => kept (by rw [pc]; exact own)⟩
      rw [← parts]
      simp [StreamWorker.remaining, pc]

theorem FeedMove.delivers {w next : StreamWorker} {answer : NdlFeedResult}
    {taken : Option AcceptedPacket} (move : FeedMove w answer next taken)
    {whole accepted : List MediaPacket} (delivers : Delivers whole accepted w) :
    Delivers whole (accepted ++ taken.toList.map AcceptedPacket.packet) next := by
  rcases delivers with ⟨lost, parts, kept⟩
  cases move with
  | accepts packet retries pc ok =>
      refine ⟨lost, ?_, fun _ => kept (by rw [pc]; rfl)⟩
      rw [← parts]
      simp [StreamWorker.remaining, pc]
  | rejects packet retries pc rejected =>
      refine ⟨w.remaining ++ lost, ?_, nofun⟩
      rw [← parts]
      simp [StreamWorker.remaining, StreamWorker.giveUp]
  | triesAgain packet retries pc unsettled =>
      refine ⟨lost, ?_, fun _ => kept (by rw [pc]; rfl)⟩
      rw [← parts]
      simp [StreamWorker.remaining, pc]

theorem FeedMove.taken {w next : StreamWorker} {answer : NdlFeedResult}
    {taken : Option AcceptedPacket} (move : FeedMove w answer next taken) :
    ∀ a ∈ taken, a.kind = w.kind ∧ a.ptsUs = w.ptsUs a.packet := by
  cases move with
  | accepts packet retries pc ok =>
      intro a member
      cases member
      exact ⟨rfl, rfl⟩
  | rejects packet retries pc rejected => nofun
  | triesAgain packet retries pc unsettled => nofun

/-- The time stamp is the distance from the base of the worker. -/
theorem ptsUs_toNat (w : StreamWorker) (packet : MediaPacket) :
    ((w.ptsUs packet).toNat : Int) = distanceUs w.timelineBaseUs.toNat packet := by
  unfold StreamWorker.ptsUs distanceUs
  split
  · next reached =>
      have bound : w.timelineBaseUs.toNat ≤ packet.header.timestampUs.toNat :=
        UInt64.le_iff_toNat_le.mp reached
      rw [UInt64.toNat_sub_of_le _ _ reached]
      omega
  · next ahead =>
      have bound : ¬ w.timelineBaseUs.toNat ≤ packet.header.timestampUs.toNat := fun le =>
        ahead (UInt64.le_iff_toNat_le.mpr le)
      have none : (0 : UInt64).toNat = 0 := rfl
      rw [none]
      omega

/-! ### The session -/

/-- The packets of one kind that the player has accepted. -/
def Session.acceptedOf (s : Session) (kind : StreamKind) : List MediaPacket :=
  (s.accepted.filter fun a => a.kind = kind).map AcceptedPacket.packet

/-- The invariant of a session: each socket is delivered in order and every accepted packet is stamped
    with its distance from the common base. -/
structure Session.Delivering (reads : StreamKind → List PacketRead) (base : UInt64) (s : Session) :
    Prop where
  wired : s.Wired base
  delivers : ∀ kind, Delivers (deliverable kind (reads kind)) (s.acceptedOf kind) (s.worker kind)
  stamped : ∀ a ∈ s.accepted, (a.ptsUs.toNat : Int) = distanceUs base.toNat a.packet

/-- The creation of a thread changes nothing that remains to be delivered. -/
theorem Delivers.created {whole accepted : List MediaPacket} {w : StreamWorker}
    (unstarted : w.pc = .unstarted) (delivers : Delivers whole accepted w) :
    Delivers whole accepted { w with pc := .entry } := by
  rcases delivers with ⟨lost, parts, kept⟩
  refine ⟨lost, ?_, fun _ => kept (by rw [unstarted]; rfl)⟩
  rw [← parts]
  simp [StreamWorker.remaining, unstarted]

theorem acceptedOf_append (s : Session) (w : StreamWorker) {kind : StreamKind}
    {taken : Option AcceptedPacket} (kinds : ∀ a ∈ taken, a.kind = kind) (other : StreamKind) :
    Session.acceptedOf { s.setWorker kind w with accepted := s.accepted ++ taken.toList } other
      = s.acceptedOf other ++ if other = kind then taken.toList.map AcceptedPacket.packet else [] := by
  unfold Session.acceptedOf
  rw [List.filter_append, List.map_append]
  congr 1
  cases taken with
  | none => simp
  | some a =>
      have same := kinds a rfl
      by_cases here : other = kind
      · simp [same, here]
      · simp [same, here, Ne.symm here]

/-- The invariant is kept by every step. -/
theorem Session.Delivering.step {reads : StreamKind → List PacketRead} {base : UInt64}
    {s next : Session} {e : SessionEvent} (delivering : s.Delivering reads base)
    (step : sessionStep s e = some next) : next.Delivering reads base := by
  have wired := delivering.wired.step step
  cases SessionMove.of_step step with
  | worker kind w running move =>
      refine ⟨wired, fun other => ?_, ?_⟩
      · have same : Session.acceptedOf { s.setWorker kind w with running := running } other
            = s.acceptedOf other := by
          cases kind with
          | video => rfl
          | audio => rfl
        rw [same, Session.worker_running]
        by_cases here : other = kind
        · subst here
          rw [Session.worker_setWorker]
          exact move.delivers (delivering.delivers other)
        · rw [Session.worker_setWorker_ne here]
          exact delivering.delivers other
      · cases kind with
        | video => exact delivering.stamped
        | audio => exact delivering.stamped
  | feed kind answer w taken move =>
      have kinds : ∀ a ∈ taken, a.kind = kind := fun a member =>
        (move.taken a member).1.trans (delivering.wired.kind kind)
      refine ⟨wired, fun other => ?_, fun a member => ?_⟩
      · rw [acceptedOf_append s w kinds other, Session.worker_accepted]
        by_cases here : other = kind
        · subst here
          rw [if_pos rfl, Session.worker_setWorker]
          exact move.delivers (delivering.delivers other)
        · rw [if_neg here, List.append_nil, Session.worker_setWorker_ne here]
          exact delivering.delivers other
      · rcases List.mem_append.mp member with old | new
        · exact delivering.stamped a old
        · rw [(move.taken a (Option.mem_toList.mp new)).2, ptsUs_toNat, delivering.wired.base kind]
  | createsVideo action main =>
      have unstarted := delivering.wired.videoUnstarted (delivering.wired.videoFresh main)
      refine ⟨wired, fun kind => ?_, delivering.stamped⟩
      cases kind with
      | video => exact (delivering.delivers .video).created unstarted
      | audio => exact delivering.delivers .audio
  | createsAudio action main =>
      have unstarted := delivering.wired.audioUnstarted
        (delivering.wired.audioFresh (Or.inr (Or.inr main)))
      refine ⟨wired, fun kind => ?_, delivering.stamped⟩
      cases kind with
      | video => exact delivering.delivers .video
      | audio => exact (delivering.delivers .audio).created unstarted
  | main creates action running signalStop userBack pc flows =>
      exact ⟨wired, delivering.delivers, delivering.stamped⟩
  | joinsVideo creates action main back => exact ⟨wired, delivering.delivers, delivering.stamped⟩
  | joinsAudio creates action main back => exact ⟨wired, delivering.delivers, delivering.stamped⟩
  | signal => exact ⟨wired, delivering.delivers, delivering.stamped⟩

theorem delivering_of_primed {allocated : StreamKind → Bool} {reads : StreamKind → List PacketRead}
    {s : Session} (primed : primeSession allocated reads = .ok (some s)) :
    ∃ video audio videoLater audioLater,
      deliverable .video (reads .video) = video :: videoLater ∧
      deliverable .audio (reads .audio) = audio :: audioLater ∧
      s.Delivering reads (earlierUs video.header.timestampUs audio.header.timestampUs) ∧
      ∀ kind, (s.worker kind).pc = .unstarted := by
  rcases primeSession_some primed with ⟨video, audio, videoRest, audioRest, first, second, rfl⟩
  have videoWhole : deliverable .video (reads .video) = video :: deliverable .video videoRest :=
    readData_deliverable first
  have audioWhole : deliverable .audio (reads .audio) = audio :: deliverable .audio audioRest :=
    readData_deliverable second
  refine ⟨video, audio, _, _, videoWhole, audioWhole,
    ⟨wired_primedSession _ _ _ _ _, fun kind => ?_, nofun⟩, fun kind => ?_⟩
  · cases kind with
    | video => exact ⟨[], by rw [videoWhole, List.append_nil]; rfl, fun _ => rfl⟩
    | audio => exact ⟨[], by rw [audioWhole, List.append_nil]; rfl, fun _ => rfl⟩
  · cases kind with
    | video => rfl
    | audio => rfl

/-! ### To the end of a socket -/

/-- While `running` is set a worker leaves its loop only at the end of its socket, -/
theorem WorkerMove.leaves_at_end {w next : StreamWorker} {running after : Bool}
    (kept : w.pc.leftEarly = false) (runs : running = true ∨ w.pc.atOwnEnd = true)
    (move : WorkerMove w running next after) : next.pc.leftEarly = false := by
  cases move with
  | takesFirst packet pc first => rfl
  | startsLoop pc first => rfl
  | goesOn pc set => rfl
  | leaves pc cleared =>
      rw [cleared, pc] at runs
      rcases runs with set | ended
      · cases set
      · cases ended
  | reads packet reads pc read => rfl
  | readsClose reads pc read => rfl
  | readsFailure reads pc read => rfl
  | submits packet retries pc set => rfl
  | submitStops packet retries pc cleared =>
      rw [cleared, pc] at runs
      rcases runs with set | ended
      · cases set
      · cases ended
  | clears cause pc =>
      rw [pc] at kept
      exact kept

/-- and a player that does not reject the packet keeps it in the loop. -/
theorem FeedMove.leaves_at_end {w next : StreamWorker} {answer : NdlFeedResult}
    {taken : Option AcceptedPacket} (accepting : w.pc.rejects answer = false)
    (move : FeedMove w answer next taken) : next.pc.leftEarly = false := by
  cases move with
  | accepts packet retries pc ok => rfl
  | rejects packet retries pc rejected =>
      simp [pc, WorkerPc.rejects, rejected] at accepting
  | triesAgain packet retries pc unsettled => rfl

/-- While `running` is set and the player rejects nothing, no step of the session makes a worker leave its
    loop but at the end of its socket. -/
theorem leaves_at_end {s next : Session} {e : SessionEvent} {kind : StreamKind}
    (kept : (s.worker kind).pc.leftEarly = false)
    (runs : s.running = true ∨ (s.worker kind).pc.atOwnEnd = true)
    (accepting : rejectsAt s e = false) (step : sessionStep s e = some next) :
    (next.worker kind).pc.leftEarly = false := by
  cases SessionMove.of_step step with
  | worker other w running move =>
      rw [Session.worker_running]
      by_cases here : kind = other
      · subst here
        rw [Session.worker_setWorker]
        exact move.leaves_at_end kept runs
      · rw [Session.worker_setWorker_ne here]
        exact kept
  | feed other answer w taken move =>
      rw [Session.worker_accepted]
      by_cases here : kind = other
      · subst here
        rw [Session.worker_setWorker]
        exact move.leaves_at_end accepting
      · rw [Session.worker_setWorker_ne here]
        exact kept
  | createsVideo action main =>
      cases kind with
      | video => rfl
      | audio => exact kept
  | createsAudio action main =>
      cases kind with
      | video => exact kept
      | audio => rfl
  | main creates action running signalStop userBack pc flows =>
      cases kind with
      | video => exact kept
      | audio => exact kept
  | joinsVideo creates action main back =>
      cases kind with
      | video => exact kept
      | audio => exact kept
  | joinsAudio creates action main back =>
      cases kind with
      | video => exact kept
      | audio => exact kept
  | signal =>
      cases kind with
      | video => exact kept
      | audio => exact kept

/-- A worker that has left its loop at the end of its socket has delivered everything. -/
theorem Delivers.all {whole accepted : List MediaPacket} {w : StreamWorker}
    (delivers : Delivers whole accepted w) (left : w.pc.hasLeft = true)
    (kept : w.pc.leftEarly = false) : accepted = whole := by
  rcases delivers with ⟨lost, parts, none⟩
  rw [none kept, List.append_nil] at parts
  have empty : w.remaining = [] := by
    unfold StreamWorker.remaining
    cases pc : w.pc <;> simp_all [WorkerPc.hasLeft, WorkerPc.leftBy]
  rw [empty, List.append_nil] at parts
  exact parts

/-- Until the given worker has come to the end of its socket, `running` stays set; and the player rejects
    nothing. -/
def RunsToEnd (kind : StreamKind) (s : Session) (events : List SessionEvent) : Prop :=
  Runs.AllSteps sessionStep (fun s e =>
    (s.running = true ∨ (s.worker kind).pc.atOwnEnd = true) ∧
      rejectsAt s e = false) s events

instance (kind : StreamKind) (s : Session) (events : List SessionEvent) :
    Decidable (RunsToEnd kind s events) := Runs.decidableAllSteps s events

theorem kept_of_runsToEnd {kind : StreamKind} {s last : Session} {events : List SessionEvent}
    (whole : RunsToEnd kind s events)
    (kept : (s.worker kind).pc.leftEarly = false)
    (run : Runs.exec sessionStep s events = some last) :
    (last.worker kind).pc.leftEarly = false := by
  have keeps : ∀ (s : Session) (e : SessionEvent) (next : Session),
      (s.worker kind).pc.leftEarly = false →
      ((s.running = true ∨ (s.worker kind).pc.atOwnEnd = true) ∧
        rejectsAt s e = false) →
      sessionStep s e = some next →
      (next.worker kind).pc.leftEarly = false :=
    fun _ _ _ kept met step => leaves_at_end kept met.1 met.2 step
  exact Runs.exec_invariant_of_allSteps keeps whole kept run

/-- For every two sockets, every pattern of answers of the player and every interleaving of the threads:
    the packets accepted of each kind are a prefix of what its socket has for the player, which begins with
    the primed packet, and all of it once the worker has left its loop if `running` was set until the end
    of its socket and nothing was rejected. Each accepted packet carries its distance from the earlier of
    the two primed time stamps, so that packets from the base on keep their distances. -/
theorem sysdvr_packets_delivered_in_order {allocated : StreamKind → Bool}
    {reads : StreamKind → List PacketRead} {s last : Session} {events : List SessionEvent}
    (primed : primeSession allocated reads = .ok (some s))
    (run : Runs.exec sessionStep s events = some last) :
    ∃ video audio videoLater audioLater,
      deliverable .video (reads .video) = video :: videoLater ∧
      deliverable .audio (reads .audio) = audio :: audioLater ∧
      (∀ kind, last.acceptedOf kind <+: deliverable kind (reads kind)) ∧
      (∀ kind, RunsToEnd kind s events →
        (last.worker kind).pc.hasLeft = true →
        last.acceptedOf kind = deliverable kind (reads kind)) ∧
      (∀ a ∈ last.accepted, (a.ptsUs.toNat : Int) = distanceUs
        (min video.header.timestampUs.toNat audio.header.timestampUs.toNat) a.packet) ∧
      ∀ a ∈ last.accepted, ∀ b ∈ last.accepted,
        min video.header.timestampUs.toNat audio.header.timestampUs.toNat
          ≤ a.packet.header.timestampUs.toNat →
        min video.header.timestampUs.toNat audio.header.timestampUs.toNat
          ≤ b.packet.header.timestampUs.toNat →
        (a.ptsUs.toNat : Int) - b.ptsUs.toNat
          = (a.packet.header.timestampUs.toNat : Int) - b.packet.header.timestampUs.toNat := by
  rcases delivering_of_primed primed with
    ⟨video, audio, videoLater, audioLater, first, second, start, unstarted⟩
  have delivering := Runs.exec_invariant (fun _ _ _ holds step => Session.Delivering.step holds step)
    start run
  have stamped := delivering.stamped
  rw [earlierUs_toNat] at stamped
  refine ⟨video, audio, videoLater, audioLater, first, second, fun kind => ?_,
    fun kind whole left => ?_, stamped, fun a inA b inB aheadA aheadB => ?_⟩
  · rcases delivering.delivers kind with ⟨lost, parts, _⟩
    exact ⟨_, parts⟩
  · apply (delivering.delivers kind).all left
    apply kept_of_runsToEnd whole _ run
    rw [unstarted kind]
    rfl
  · rw [stamped a inA, stamped b inB]
    unfold distanceUs
    omega

/-- A video socket with a packet of the other kind and an empty one among its own, and an audio socket. -/
def mixedReads : StreamKind → List PacketRead
  | .video => [.packet (smallPacket 0x01 1000).header [7], .packet (smallPacket 0x02 1010).header [8],
      .packet (smallPacket 0x01 1020).header [], .packet (smallPacket 0x01 1033).header [9], .closed]
  | .audio => [.packet (smallPacket 0x02 1012).header [5]]

/-- The workers are created, and video submits two packets, the first at the second attempt, and comes to
    the end of its socket. -/
def videoRun : List SessionEvent :=
  [.main true .none, .main true .none, .main true .none, .worker .video, .worker .video,
    .feed .video .retry, .worker .video, .feed .video .ok, .worker .video, .worker .video,
    .worker .video, .feed .video .ok, .worker .video, .worker .video]

/-- The session on these sockets. -/
def mixedSession : Session :=
  primedSession 1000 ⟨(smallPacket 0x01 1000).header, [7]⟩ ⟨(smallPacket 0x02 1012).header, [5]⟩
    ((mixedReads .video).drop 1) []

/-- In that run the player gets the two video packets with content. -/
theorem video_delivered_to_its_end :
    ∃ last, Runs.exec sessionStep mixedSession videoRun = some last ∧
      last.acceptedOf .video = deliverable .video (mixedReads .video) := by
  have primed : primeSession (fun _ => true) mixedReads = .ok (some mixedSession) := rfl
  have ends : (Runs.exec sessionStep mixedSession videoRun).map
      (fun last => (last.worker .video).pc.hasLeft) = some true := by decide
  rcases Option.map_eq_some_iff.mp ends with ⟨last, run, left⟩
  rcases sysdvr_packets_delivered_in_order primed run with ⟨_, _, _, _, _, _, _, whole, _⟩
  exact ⟨last, run, whole .video (by decide) left⟩
end SysdvrWebos
