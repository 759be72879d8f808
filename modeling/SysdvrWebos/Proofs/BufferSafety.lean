/-
Module: SysdvrWebos.Proofs.BufferSafety
Layer: Proofs
Purpose: No bytes a server sends drive an access of a payload buffer out of bounds or onto bytes of an
  earlier packet, over whole runs of both receivers. Two runs on the same input that start with different
  buffer contents are compared: neither stores out of bounds, and the contents never show.
Trusted boundary: none (fully proved)
Main exports: sftHandlePacket_within, packetContent_within, sftReadPacket_alike, sysdvrReadPacket_alike,
  sftStreamLoop_alike, receiveData_alike, server_bytes_stay_in_bounds
Open obligations: none
-/
import SysdvrWebos.Core.FrametapBackend
import SysdvrWebos.Core.SysdvrProtocol
import SysdvrWebos.Lib.Alike

namespace SysdvrWebos

/-! ### Reads stay inside the packet -/

theorem startCodeLen_within {size start : Nat} (inside : start ≤ size) :
    (startCodeLen start (size - start)).Within size := by
  unfold startCodeLen
  refine Scan.within_bind ?_ fun short => ?_
  · refine Scan.within_ite (fun room => Scan.within_readsAs ?_) fun _ => trivial
    simp only [List.length_cons, List.length_nil]
    omega
  · refine Scan.within_ite (fun _ => trivial) fun _ => ?_
    refine Scan.within_bind ?_ fun long => trivial
    refine Scan.within_ite (fun room => Scan.within_readsAs ?_) fun _ => trivial
    simp only [List.length_cons, List.length_nil]
    omega

theorem annexBScan_within {size : Nat} : ∀ turns i : Nat, (annexBScan size turns i).Within size := by
  intro turns
  induction turns with
  | zero => exact fun _ => trivial
  | succ turns ih =>
      intro i
      unfold annexBScan
      apply Scan.within_ite
      · intro room
        refine Scan.within_bind (startCodeLen_within (by omega)) fun startCode => ?_
        refine Scan.within_ite (fun _ => ih _) fun found => ?_
        refine Scan.within_bind (Scan.within_cell.mpr (by omega)) fun nal => ?_
        exact Scan.within_ite (fun _ => trivial) fun _ => ih _
      · exact fun _ => trivial

theorem sftPacketIsKey_within (h : SftPacketHeader) (size : Nat) :
    (sftPacketIsKey h size).Within size := by
  unfold sftPacketIsKey
  refine Scan.within_ite (fun _ => trivial) fun _ => ?_
  exact Scan.within_ite (fun _ => trivial) fun _ => annexBScan_within _ _

theorem logStatusPacket_within (size : Nat) : (logStatusPacket size).Within size := by
  unfold logStatusPacket
  refine Scan.within_ite (fun _ => trivial) fun long => ?_
  refine Scan.within_bind (Scan.within_cell.mpr (by omega)) fun b₀ => ?_
  refine Scan.within_bind (Scan.within_cell.mpr (by omega)) fun b₁ => ?_
  refine Scan.within_bind (Scan.within_cell.mpr (by omega)) fun b₂ => ?_
  refine Scan.within_bind (Scan.within_cell.mpr (by omega)) fun b₃ => ?_
  refine Scan.within_bind ?_ fun head => ?_
  · exact Scan.within_ite (fun _ => Scan.within_slice (by omega)) fun _ => trivial
  · refine Scan.within_bind ?_ fun detail => trivial
    exact Scan.within_ite (fun _ => Scan.within_slice (by omega)) fun _ => trivial

theorem sftAudioOffer_within (a : SftAudio) (device : SdlDevice UInt8) (size receivedUs : Nat)
    (drains : Drains) (accepts : Bool) :
    (sftAudioOffer a device size receivedUs drains accepts).Within size := by
  unfold sftAudioOffer
  refine Scan.within_ite (fun _ => trivial) fun _ => ?_
  refine Scan.within_ite (fun _ => trivial) fun _ => ?_
  refine Scan.within_bind (Scan.within_slice ?_) fun chunk => ?_
  · -- the tail begins inside the packet and ends where its whole frames end
    have shorter := trimmed_le (size - size % sftAudioBytesPerFrame)
    have whole : size - size % sftAudioBytesPerFrame ≤ size := Nat.sub_le _ _
    split <;> omega
  · exact Scan.within_ite (fun _ => trivial) fun _ => trivial

theorem handleVideo_within (w : SftThread) (h : SftPacketHeader) (size : Nat) (answers : SftAnswers) :
    (handleVideo w h size answers).Within size := by
  refine Scan.within_bind (sftPacketIsKey_within h size) fun key => ?_
  refine Scan.within_ite (fun _ => trivial) fun _ => ?_
  refine Scan.within_ite (fun _ => trivial) fun _ => ?_
  exact Scan.within_bind (Scan.within_slice (by omega)) fun data => trivial

/-- Handling a Frame Tap packet reads only bytes of that packet. -/
theorem sftHandlePacket_within (w : SftThread) (h : SftPacketHeader) (size : Nat)
    (answers : SftAnswers) : (sftHandlePacket w h size answers).Within size := by
  unfold sftHandlePacket
  apply Scan.within_ite
  · intro _
    refine Scan.within_bind (logStatusPacket_within size) fun text => ?_
    cases text with
    | none => trivial
    | some text => trivial
  · intro _
    refine Scan.within_ite (fun _ => ?_) fun _ => ?_
    · unfold handleAudio
      refine Scan.within_ite (fun _ => ?_) fun _ => trivial
      exact Scan.within_bind (sftAudioOffer_within _ _ _ _ _ _) fun result => trivial
    · exact Scan.within_ite (fun _ => handleVideo_within w h size answers) fun _ => trivial

/-- Inspecting a SysDVR packet reads only bytes of that packet. -/
theorem packetContent_within (kind : StreamKind) (h : SysdvrPacketHeader) (size : Nat) :
    (packetContent kind h size).Within size := by
  unfold packetContent
  apply Scan.within_ite
  · intro _
    refine Scan.within_bind ?_ fun report => trivial
    unfold sysdvrParseErrorPacket
    refine Scan.within_ite (fun _ => trivial) fun long => ?_
    exact Scan.within_bind (Scan.within_slice (by omega)) fun raw => trivial
  · intro _
    refine Scan.within_ite (fun _ => ?_) fun _ => trivial
    exact Scan.within_bind (Scan.within_slice (by omega)) fun data => trivial

/-! ### Frame Tap: two runs of a read -/

/-- The only way in which a read does not return. -/
def Waits (halt : Halt) : Prop := halt = .blocked

/-- Two reads in progress that differ at most in what their buffers hold behind the bytes received. -/
structure SameProgress (s₁ s₂ : ReadState) : Prop where
  stream : s₁.stream = s₂.stream
  done : s₁.done = s₂.done
  deadline : s₁.deadline = s₂.deadline
  front : s₁.buffer.take s₁.done = s₂.buffer.take s₂.done
  capacity : s₁.buffer.length = s₂.buffer.length

/-- Two turns with the same outcome. -/
inductive TurnsAlike (size : Nat) (before : Nat) : ReadTurn → ReadTurn → Prop where
  | again {s₁ s₂ : ReadState} (same : SameProgress s₁ s₂) (inside : s₁.done ≤ size)
      (capacity : s₁.buffer.length = before) : TurnsAlike size before (.again s₁) (.again s₂)
  | leave {ending : ReadEnd} {s₁ s₂ : ReadState} (same : SameProgress s₁ s₂)
      (inside : s₁.done ≤ size) (capacity : s₁.buffer.length = before)
      (incomplete : ending ≠ .complete) :
      TurnsAlike size before (.leave ending s₁) (.leave ending s₂)

theorem readTurn_alike (idleAllowed : Bool) {size : Nat} (tick : Tick) {s₁ s₂ : ReadState}
    (same : SameProgress s₁ s₂) (unfinished : s₁.done < size) (room : size ≤ s₁.buffer.length) :
    TurnsAlike size s₁.buffer.length (readTurn idleAllowed size tick s₁)
      (readTurn idleAllowed size tick s₂) := by
  rcases s₁ with ⟨stream, buffer₁, done, deadline⟩
  rcases s₂ with ⟨stream₂, buffer₂, done₂, deadline₂⟩
  rcases same with ⟨rfl, rfl, rfl, front, capacity⟩
  dsimp only at unfinished room front capacity ⊢
  have armed : ∀ buffer, ReadState.armed ⟨stream, buffer, done, deadline⟩ idleAllowed tick
      = ReadState.armed ⟨stream, buffer₁, done, deadline⟩ idleAllowed tick := fun _ => rfl
  unfold readTurn
  rw [armed buffer₂]
  generalize ReadState.armed ⟨stream, buffer₁, done, deadline⟩ idleAllowed tick = deadline'
  split
  · exact .leave ⟨rfl, rfl, rfl, front, capacity⟩ unfinished.le rfl (by decide)
  · dsimp only
    split
    · next stalled =>
        rw [if_pos (by exact stalled)]
        exact .leave ⟨rfl, rfl, rfl, front, capacity⟩ unfinished.le rfl (by decide)
    · next running =>
        rw [if_neg (by exact running)]
        cases wait : tick.wait with
        | idle => exact .again ⟨rfl, rfl, rfl, front, capacity⟩ unfinished.le rfl
        | failed => exact .leave ⟨rfl, rfl, rfl, front, capacity⟩ unfinished.le rfl (by decide)
        | ready answer =>
            cases answer with
            | interrupted => exact .again ⟨rfl, rfl, rfl, front, capacity⟩ unfinished.le rfl
            | wouldBlock => exact .again ⟨rfl, rfl, rfl, front, capacity⟩ unfinished.le rfl
            | failed =>
                exact .leave ⟨rfl, rfl, rfl, front, capacity⟩ unfinished.le rfl (by decide)
            | bytes more =>
                have count := length_receive stream more (size - done)
                dsimp only
                generalize receive stream more (size - done) = segment at *
                split
                · exact .leave ⟨rfl, rfl, rfl, front, capacity⟩ unfinished.le rfl (by decide)
                · have inside : done + segment.length ≤ size := by omega
                  have fits₁ : done + segment.length ≤ buffer₁.length := by omega
                  have fits₂ : done + segment.length ≤ buffer₂.length := by omega
                  have stored₁ := Buffer.store_of_fits fits₁
                  have stored₂ := Buffer.store_of_fits fits₂
                  rw [stored₁, stored₂]
                  refine .again ⟨rfl, rfl, rfl, ?_, ?_⟩ inside (Buffer.length_store stored₁)
                  · exact (Buffer.take_store stored₁).trans
                      ((congrArg (· ++ segment) front).trans (Buffer.take_store stored₂).symm)
                  · exact (Buffer.length_store stored₁).trans
                      (capacity.trans (Buffer.length_store stored₂).symm)

/-- Two finished reads that differ at most in what their buffers hold behind the bytes received. -/
structure ReadsAlike (size before : Nat) (r₁ r₂ : ReadExact) : Prop where
  ending : r₁.ending = r₂.ending
  ticks : r₁.ticks = r₂.ticks
  same : SameProgress r₁.state r₂.state
  inside : r₁.state.done ≤ size
  full : r₁.ending = .complete → r₁.state.done = size
  capacity : r₁.state.buffer.length = before

theorem readExactLoop_alike (idleAllowed : Bool) {size : Nat} (ticks : List Tick) :
    ∀ {s₁ s₂ : ReadState}, SameProgress s₁ s₂ → s₁.done ≤ size → size ≤ s₁.buffer.length →
      Alike Waits (ReadsAlike size s₁.buffer.length) (readExactLoop idleAllowed size ticks s₁)
        (readExactLoop idleAllowed size ticks s₂) := by
  induction ticks with
  | nil =>
      intro s₁ s₂ same inside room
      unfold readExactLoop
      refine Alike.ite (by rw [same.done]) (fun _ => .error rfl) fun finished => ?_
      exact .ok ⟨rfl, rfl, same, inside, fun _ => by dsimp only; omega, rfl⟩
  | cons tick ticks ih =>
      intro s₁ s₂ same inside room
      unfold readExactLoop
      refine Alike.ite (by rw [same.done]) (fun unfinished => ?_) fun finished =>
        .ok ⟨rfl, rfl, same, inside, fun _ => by dsimp only; omega, rfl⟩
      have alike := readTurn_alike idleAllowed tick same unfinished room
      generalize readTurn idleAllowed size tick s₁ = turn₁ at *
      generalize readTurn idleAllowed size tick s₂ = turn₂ at *
      cases alike with
      | again sameNext insideNext capacity =>
          rw [← capacity]
          exact ih sameNext insideNext (capacity ▸ room)
      | leave sameLast insideLast capacity incomplete =>
          exact .ok ⟨rfl, rfl, sameLast, insideLast, fun complete => absurd complete incomplete,
            capacity⟩

theorem ReadsAlike.got_eq {size before : Nat} {r₁ r₂ : ReadExact}
    (alike : ReadsAlike size before r₁ r₂) : r₁.got = r₂.got := by
  unfold ReadExact.got
  rw [alike.ending, alike.same.done]

/-- A read that returns the size it was asked for has received that many bytes. -/
theorem ReadsAlike.done_of_got {size before : Nat} {r₁ r₂ : ReadExact}
    (alike : ReadsAlike size before r₁ r₂) (got : r₁.got = size) : r₁.state.done = size := by
  have inside := alike.inside
  unfold ReadExact.got at got
  cases ending : r₁.ending with
  | complete => exact alike.full ending
  | closed =>
      simp only [ending] at got
      split at got <;> omega
  | stopped | stalled | selectFailed | recvFailed =>
      simp only [ending] at got
      omega

/-- The same packet was received: it fits the buffer and lies in front of whatever else the buffers
    hold. -/
structure SamePacket (capacity : Nat) (read₁ read₂ : SftRead) : Prop where
  header : read₁.header = read₂.header
  size : read₁.payloadSize = read₂.payloadSize
  fits : read₁.payloadSize ≤ capacity
  payload : read₁.payload.take read₁.payloadSize = read₂.payload.take read₂.payloadSize

/-- Two results of a Frame Tap packet read. -/
structure PacketsAlike (capacity before : Nat) (r₁ r₂ : SftReadResult) : Prop where
  rc : r₁.rc = r₂.rc
  returns : r₁.rc ≤ 0 ∨ r₁.rc = 1
  ticks : r₁.ticks = r₂.ticks
  stream : r₁.stream = r₂.stream
  room₁ : r₁.read.payload.length = before
  room₂ : r₂.read.payload.length = before
  received : r₁.rc = 1 → SamePacket capacity r₁.read r₂.read

theorem PacketsAlike.of_failure {capacity before : Nat} {rc : Int} (failure : rc ≤ 0)
    (ticks : List Tick) (stream : List UInt8) {read₁ read₂ : SftRead}
    (room₁ : read₁.payload.length = before) (room₂ : read₂.payload.length = before) :
    PacketsAlike capacity before ⟨rc, read₁, ticks, stream⟩ ⟨rc, read₂, ticks, stream⟩ :=
  ⟨rfl, Or.inl failure, rfl, rfl, room₁, room₂, fun (success : rc = 1) => by omega⟩

/-- A packet read never stores out of bounds, and what was in the buffer before does not show. -/
theorem sftReadPacket_alike {capacity : Nat} {read₁ read₂ : SftRead} (ticks : List Tick)
    (stream : List UInt8) (lengths : read₁.payload.length = read₂.payload.length)
    (room : capacity ≤ read₁.payload.length) :
    Alike Waits (PacketsAlike capacity read₁.payload.length)
      (sftReadPacket capacity read₁ ticks stream) (sftReadPacket capacity read₂ ticks stream) := by
  have head := readExactLoop_alike true ticks
    (⟨rfl, rfl, rfl, rfl, rfl⟩ : SameProgress ⟨stream, List.replicate sftHeaderSize 0, 0, 0⟩
      ⟨stream, List.replicate sftHeaderSize 0, 0, 0⟩) (Nat.zero_le sftHeaderSize) (by simp)
  refine Alike.bind (Alike.refl fun e => head.admissible_of_error) fun r₁ r₂ same => ?_
  subst same
  refine Alike.ite Iff.rfl (fun nothing => .ok ?_) fun _ => ?_
  · exact PacketsAlike.of_failure nothing _ _ rfl lengths.symm
  unfold sftReadBody
  refine Alike.ite Iff.rfl (fun _ => .ok ?_) fun _ => ?_
  · exact PacketsAlike.of_failure (by decide) _ _ rfl lengths.symm
  refine Alike.ite Iff.rfl (fun _ => .ok ?_) fun fits => ?_
  · exact PacketsAlike.of_failure (by decide) _ _ rfl lengths.symm
  have bounded : (sftParseHeader r₁.state.buffer).length.toNat ≤ capacity := Nat.le_of_not_gt fits
  have body := readExactLoop_alike false r₁.ticks
    (⟨rfl, rfl, rfl, rfl, lengths⟩ : SameProgress ⟨r₁.state.stream, read₁.payload, 0, 0⟩
      ⟨r₁.state.stream, read₂.payload, 0, 0⟩)
    (Nat.zero_le (sftParseHeader r₁.state.buffer).length.toNat) (bounded.trans room)
  refine Alike.bind body fun b₁ b₂ alike => ?_
  have room₂ : b₂.state.buffer.length = read₁.payload.length :=
    alike.same.capacity.symm.trans alike.capacity
  refine Alike.ite (by rw [alike.got_eq]) (fun _ => .ok ?_) fun whole => .ok ?_
  · rw [alike.ticks, alike.same.stream]
    exact PacketsAlike.of_failure (by decide) _ _ alike.capacity room₂
  · have done := alike.done_of_got (not_not.mp whole)
    have front := alike.same.front
    rw [← alike.same.done, done] at front
    exact ⟨rfl, Or.inr rfl, alike.ticks, alike.same.stream, alike.capacity, room₂,
      fun _ => ⟨rfl, rfl, bounded, front⟩⟩

/-! ### Frame Tap: two runs of the thread -/

/-- Equal fronts are equal cell by cell. -/
theorem getD_eq_of_take_eq {first second : List UInt8} {size : Nat}
    (front : first.take size = second.take size) :
    ∀ i, i < size → first.getD i 0 = second.getD i 0 := by
  intro i inside
  have cell := congrArg (fun l : List UInt8 => l[i]?) front
  simp only [List.getElem?_take, if_pos inside] at cell
  rw [List.getD_eq_getElem?_getD, List.getD_eq_getElem?_getD, cell]

/-- Two connections that differ at most in what their payload buffers hold. -/
structure SameConnection (c₁ c₂ : SftConnection) : Prop where
  ticks : c₁.ticks = c₂.ticks
  stream : c₁.stream = c₂.stream
  room₁ : c₁.read.payload.length = sftMaxPayload
  room₂ : c₂.read.payload.length = sftMaxPayload

/-- The same thread on such connections. -/
def SameThread (first second : SftThread × SftConnection) : Prop :=
  first.1 = second.1 ∧ SameConnection first.2 second.2

theorem sftStreamTurn_alike {c₁ c₂ : SftConnection} (same : SameConnection c₁ c₂) (w : SftThread)
    (turn : SftTurn) :
    Alike Waits SameThread (sftStreamTurn w c₁ turn) (sftStreamTurn w c₂ turn) := by
  rcases c₁ with ⟨read₁, ticks, stream⟩
  rcases c₂ with ⟨read₂, ticks₂, stream₂⟩
  rcases same with ⟨rfl, rfl, room₁, room₂⟩
  dsimp only at room₁ room₂
  unfold sftStreamTurn
  refine Alike.ite Iff.rfl (fun _ => .ok ⟨rfl, rfl, rfl, room₁, room₂⟩) fun _ => ?_
  refine Alike.bind (sftReadPacket_alike ticks stream (room₁.trans room₂.symm) room₁.ge) ?_
  intro r₁ r₂ alike
  have after : SameConnection ⟨r₁.read, r₁.ticks, r₁.stream⟩ ⟨r₂.read, r₂.ticks, r₂.stream⟩ :=
    ⟨alike.ticks, alike.stream, alike.room₁.trans room₁, alike.room₂.trans room₁⟩
  refine Alike.ite (by rw [alike.rc]) (fun _ => .ok ⟨rfl, after⟩) fun open₁ => ?_
  refine Alike.ite (by rw [alike.rc]) (fun _ => .ok ⟨rfl, after⟩) fun unfailed => .ok ⟨?_, after⟩
  have success : r₁.rc = 1 := by
    rcases alike.returns with failure | success
    · omega
    · exact success
  rcases alike.received success with ⟨header, size, -, payload⟩
  show (sftHandlePacket w r₁.read.header r₁.read.payloadSize turn.answers).run _
    = (sftHandlePacket w r₂.read.header r₂.read.payloadSize turn.answers).run _
  rw [header, size] at *
  exact Scan.run_congr (sftHandlePacket_within _ _ _ _) (getD_eq_of_take_eq payload)

theorem sftStreamLoop_alike {turns : List SftTurn} :
    ∀ {c₁ c₂ : SftConnection} {w : SftThread}, SameConnection c₁ c₂ →
      Alike Waits SameThread (sftStreamLoop turns w c₁) (sftStreamLoop turns w c₂) := by
  induction turns with
  | nil =>
      intro c₁ c₂ w same
      exact Alike.ite Iff.rfl (fun _ => .ok ⟨rfl, same⟩) fun _ => .error rfl
  | cons turn turns ih =>
      intro c₁ c₂ w same
      unfold sftStreamLoop
      refine Alike.ite Iff.rfl (fun _ => .ok ⟨rfl, same⟩) fun _ => ?_
      refine Alike.bind (sftStreamTurn_alike same w turn) ?_
      rintro ⟨w₁, next₁⟩ ⟨w₂, next₂⟩ ⟨sameThread, sameNext⟩
      dsimp only at sameThread
      rw [sameThread]
      exact ih sameNext

/-! ### SysDVR: two runs of a read -/

/-- Two results of `sysdvr_read_exact`: after a full read the bytes received are the same. -/
structure SysdvrReadsAlike (size before : Nat) (r₁ r₂ : SysdvrRead) : Prop where
  got : r₁.got = r₂.got
  recvs : r₁.recvs = r₂.recvs
  stream : r₁.stream = r₂.stream
  room₁ : r₁.buffer.length = before
  room₂ : r₂.buffer.length = before
  front : r₁.got = size → r₁.buffer.take size = r₂.buffer.take size

theorem sysdvrReadExact_alike {size : Nat} (recvs : List RecvResult) :
    ∀ (stream : List UInt8) {buffer₁ buffer₂ : List UInt8} {total : Nat}, total ≤ size →
      size ≤ buffer₁.length → buffer₂.length = buffer₁.length →
      buffer₁.take total = buffer₂.take total →
      Alike Waits (SysdvrReadsAlike size buffer₁.length)
        (sysdvrReadExact size recvs stream buffer₁ total)
        (sysdvrReadExact size recvs stream buffer₂ total) := by
  induction recvs with
  | nil =>
      intro stream buffer₁ buffer₂ total inside room lengths front
      unfold sysdvrReadExact
      refine Alike.ite Iff.rfl (fun _ => .error rfl) fun finished => .ok ?_
      have full : total = size := by omega
      exact ⟨rfl, rfl, rfl, rfl, lengths, fun _ => full ▸ front⟩
  | cons answer recvs ih =>
      intro stream buffer₁ buffer₂ total inside room lengths front
      unfold sysdvrReadExact
      refine Alike.ite Iff.rfl (fun unfinished => ?_) fun finished => .ok ?_
      · have failed : ∀ got : Int, got < size → SysdvrReadsAlike size buffer₁.length
            ⟨got, buffer₁, recvs, stream⟩ ⟨got, buffer₂, recvs, stream⟩ := fun got short =>
          ⟨rfl, rfl, rfl, rfl, lengths, fun (whole : got = size) => by omega⟩
        cases answer with
        | interrupted => exact ih stream inside room lengths front
        | wouldBlock => exact .ok (failed _ (by omega))
        | failed => exact .ok (failed _ (by omega))
        | bytes more =>
            have count := length_receive stream more (size - total)
            dsimp only
            generalize receive stream more (size - total) = segment at *
            refine Alike.ite Iff.rfl (fun _ => .ok (failed _ (by omega))) fun _ => ?_
            have fits₁ : total + segment.length ≤ buffer₁.length := by omega
            have fits₂ : total + segment.length ≤ buffer₂.length := by omega
            have stored₁ := Buffer.store_of_fits fits₁
            have stored₂ := Buffer.store_of_fits fits₂
            have capacity₁ := Buffer.length_store stored₁
            have capacity₂ := Buffer.length_store stored₂
            have frontNext := (Buffer.take_store stored₁).trans
              ((congrArg (· ++ segment) front).trans (Buffer.take_store stored₂).symm)
            rw [stored₁, stored₂]
            dsimp only
            rw [← capacity₁]
            exact ih _ (by omega) (by omega) (by omega) frontNext
      · have full : total = size := by omega
        exact ⟨rfl, rfl, rfl, rfl, lengths, fun _ => full ▸ front⟩

/-- Two results of a SysDVR packet read. -/
structure SysdvrPacketsAlike (before : Nat) (r₁ r₂ : SysdvrReadResult) : Prop where
  rc : r₁.rc = r₂.rc
  recvs : r₁.recvs = r₂.recvs
  stream : r₁.stream = r₂.stream
  room₁ : r₁.packet.payload.length = before
  room₂ : r₂.packet.payload.length = before
  received : 0 < r₁.rc → r₁.packet.header = r₂.packet.header ∧
    r₁.packet.payloadSize = r₂.packet.payloadSize ∧
    r₁.packet.payloadSize ≤ sysdvrMaxPayload ∧
    r₁.packet.payload.take r₁.packet.payloadSize = r₂.packet.payload.take r₂.packet.payloadSize

theorem SysdvrPacketsAlike.of_failure {before : Nat} {rc : Int} (failure : rc ≤ 0)
    (recvs : List RecvResult) (stream : List UInt8) {packet₁ packet₂ : SysdvrPacket}
    (room₁ : packet₁.payload.length = before) (room₂ : packet₂.payload.length = before) :
    SysdvrPacketsAlike before ⟨rc, packet₁, recvs, stream⟩ ⟨rc, packet₂, recvs, stream⟩ :=
  ⟨rfl, rfl, rfl, room₁, room₂, fun (success : 0 < rc) => by omega⟩

/-- A packet read never stores out of bounds, and what was in the buffer before does not show. -/
theorem sysdvrReadPacket_alike {capacity : Nat} {packet₁ packet₂ : SysdvrPacket}
    (recvs : List RecvResult) (stream : List UInt8)
    (lengths : packet₂.payload.length = packet₁.payload.length)
    (room : capacity ≤ packet₁.payload.length) :
    Alike Waits (SysdvrPacketsAlike packet₁.payload.length)
      (sysdvrReadPacket capacity packet₁ recvs stream)
      (sysdvrReadPacket capacity packet₂ recvs stream) := by
  have whole : sysdvrPacketHeaderSize ≤ (List.replicate sysdvrPacketHeaderSize (0 : UInt8)).length := by
    rw [List.length_replicate]
  have head := sysdvrReadExact_alike recvs stream (Nat.zero_le sysdvrPacketHeaderSize) whole rfl rfl
  refine Alike.bind (Alike.refl fun e => head.admissible_of_error) fun r₁ r₂ same => ?_
  subst same
  refine Alike.ite Iff.rfl (fun _ => .ok ?_) fun _ => ?_
  · exact SysdvrPacketsAlike.of_failure (by decide) _ _ rfl lengths
  refine Alike.ite Iff.rfl (fun _ => .ok ?_) fun _ => ?_
  · exact SysdvrPacketsAlike.of_failure (by decide) _ _ rfl lengths
  unfold sysdvrReadBody
  generalize sysdvrDecodeHeader r₁.buffer = header
  refine Alike.ite Iff.rfl (fun _ => .ok ?_) fun _ => ?_
  · exact SysdvrPacketsAlike.of_failure (by decide) _ _ rfl lengths
  refine Alike.ite Iff.rfl (fun _ => .ok ?_) fun fits => ?_
  · exact SysdvrPacketsAlike.of_failure (by decide) _ _ rfl lengths
  refine Alike.ite Iff.rfl (fun _ => .ok ?_) fun _ => ?_
  · exact SysdvrPacketsAlike.of_failure (by decide) _ _ rfl lengths
  refine Alike.ite Iff.rfl (fun _ => ?_) fun _ => .ok ?_
  · have bounded : header.dataSize.toNat ≤ packet₁.payload.length := by omega
    have body := sysdvrReadExact_alike r₁.recvs r₁.stream (Nat.zero_le header.dataSize.toNat) bounded
      lengths rfl
    refine Alike.bind body fun b₁ b₂ alike => ?_
    refine Alike.ite (by rw [alike.got]) (fun _ => .ok ?_) fun whole => .ok ?_
    · rw [alike.recvs, alike.stream]
      exact SysdvrPacketsAlike.of_failure (by decide) _ _ alike.room₁ alike.room₂
    · refine ⟨rfl, alike.recvs, alike.stream, alike.room₁, alike.room₂, fun _ => ⟨rfl, rfl, ?_, ?_⟩⟩
      · dsimp only
        omega
      · exact alike.front (not_not.mp whole)
  · exact ⟨rfl, rfl, rfl, rfl, lengths, fun _ => ⟨rfl, rfl, Nat.zero_le _, rfl⟩⟩

/-! ### SysDVR: two runs of a worker's receptions -/

/-- Two data reads with the same content. -/
structure SameData (r₁ r₂ : DataRead) : Prop where
  rc : r₁.rc = r₂.rc
  content : r₁.content = r₂.content
  recvs : r₁.recvs = r₂.recvs
  stream : r₁.stream = r₂.stream
  room₁ : r₁.packet.payload.length = sysdvrMaxPayload
  room₂ : r₂.packet.payload.length = sysdvrMaxPayload

theorem readDataPacket_alike {kind : StreamKind} {calls : Nat} :
    ∀ {packet₁ packet₂ : SysdvrPacket} {recvs : List RecvResult} {stream : List UInt8},
      packet₁.payload.length = sysdvrMaxPayload → packet₂.payload.length = sysdvrMaxPayload →
      Alike Waits SameData (readDataPacket kind calls packet₁ recvs stream)
        (readDataPacket kind calls packet₂ recvs stream) := by
  induction calls with
  | zero => exact fun _ _ => .error rfl
  | succ calls ih =>
      intro packet₁ packet₂ recvs stream room₁ room₂
      unfold readDataPacket
      refine Alike.bind (sysdvrReadPacket_alike recvs stream (room₂.trans room₁.symm) room₁.ge) ?_
      intro r₁ r₂ alike
      have capacity₁ := alike.room₁.trans room₁
      have capacity₂ := alike.room₂.trans room₁
      refine Alike.ite (by rw [alike.rc]) (fun _ => .ok ?_) fun success => ?_
      · exact ⟨alike.rc, rfl, alike.recvs, alike.stream, capacity₁, capacity₂⟩
      rcases alike.received (by omega) with ⟨header, size, -, payload⟩
      have content : (packetContent kind r₁.packet.header r₁.packet.payloadSize).run
            (fun i => r₁.packet.payload.getD i 0)
          = (packetContent kind r₂.packet.header r₂.packet.payloadSize).run
            (fun i => r₂.packet.payload.getD i 0) := by
        rw [header, size] at *
        exact Scan.run_congr (packetContent_within _ _ _) (getD_eq_of_take_eq payload)
      rw [content, ← alike.recvs, ← alike.stream]
      generalize (packetContent kind r₂.packet.header r₂.packet.payloadSize).run _ = found
      cases found with
      | error report => exact .ok ⟨rfl, rfl, rfl, rfl, capacity₁, capacity₂⟩
      | media h data => exact .ok ⟨rfl, rfl, rfl, rfl, capacity₁, capacity₂⟩
      | unexpected => exact ih capacity₁ capacity₂

theorem receiveData_alike {kind : StreamKind} {calls packets : Nat} :
    ∀ {packet₁ packet₂ : SysdvrPacket} {recvs : List RecvResult} {stream : List UInt8},
      packet₁.payload.length = sysdvrMaxPayload → packet₂.payload.length = sysdvrMaxPayload →
      Alike Waits Eq (receiveData kind calls packets packet₁ recvs stream)
        (receiveData kind calls packets packet₂ recvs stream) := by
  induction packets with
  | zero => exact fun _ _ => .ok rfl
  | succ packets ih =>
      intro packet₁ packet₂ recvs stream room₁ room₂
      unfold receiveData
      refine Alike.bind (readDataPacket_alike room₁ room₂) fun r₁ r₂ same => ?_
      refine Alike.ite (by rw [same.rc]) (fun _ => .ok ?_) fun _ => ?_
      · rw [same.rc, same.content]
      · rw [← same.recvs, ← same.stream]
        refine Alike.bind (ih same.room₁ same.room₂) fun a b equal => .ok ?_
        rw [equal, same.content]

/-- For every byte stream a server sends and every way it arrives. Frame Tap: the stream thread never
    stores outside its payload buffer, whatever the buffer held before its run is the same, and handling
    a packet touches only indices below its received size, which is at most `SFT_MAX_PAYLOAD`. SysDVR: the
    same for what a worker reads from its socket, with `SYSDVR_MAX_PAYLOAD`. -/
theorem server_bytes_stay_in_bounds :
    (∀ turns w c₁ c₂, SameConnection c₁ c₂ →
      sftStreamLoop turns w c₁ ≠ .error .outOfBounds ∧
      (sftStreamLoop turns w c₁).map Prod.fst = (sftStreamLoop turns w c₂).map Prod.fst) ∧
    (∀ read ticks stream r w answers, read.payload.length = sftMaxPayload →
      sftReadPacket sftMaxPayload read ticks stream = .ok r → r.rc = 1 →
      r.read.payloadSize ≤ sftMaxPayload ∧
      ∀ memory, ∀ i ∈ (sftHandlePacket w r.read.header r.read.payloadSize answers).touched memory,
        i < r.read.payloadSize) ∧
    (∀ kind calls packets packet₁ packet₂ recvs stream,
      packet₁.payload.length = sysdvrMaxPayload → packet₂.payload.length = sysdvrMaxPayload →
      receiveData kind calls packets packet₁ recvs stream ≠ .error .outOfBounds ∧
      receiveData kind calls packets packet₁ recvs stream
        = receiveData kind calls packets packet₂ recvs stream) ∧
    (∀ kind packet recvs stream r, packet.payload.length = sysdvrMaxPayload →
      sysdvrReadPacket sysdvrMaxPayload packet recvs stream = .ok r → r.rc = 1 →
      r.packet.payloadSize ≤ sysdvrMaxPayload ∧
      ∀ memory, ∀ i ∈ (packetContent kind r.packet.header r.packet.payloadSize).touched memory,
        i < r.packet.payloadSize) := by
  have safe : ¬ Waits .outOfBounds := by
    unfold Waits
    decide
  refine ⟨fun turns w c₁ c₂ same => ?_, fun read ticks stream r w answers room returned success => ?_,
    fun kind calls packets packet₁ packet₂ recvs stream room₁ room₂ => ?_,
    fun kind packet recvs stream r room returned success => ?_⟩
  · have alike : Alike Waits SameThread (sftStreamLoop turns w c₁) (sftStreamLoop turns w c₂) :=
      sftStreamLoop_alike same
    exact ⟨alike.ne_error safe, alike.map_eq fun _ _ related => related.1⟩
  · have alike : Alike Waits (PacketsAlike sftMaxPayload read.payload.length)
        (sftReadPacket sftMaxPayload read ticks stream)
        (sftReadPacket sftMaxPayload read ticks stream) :=
      sftReadPacket_alike ticks stream rfl room.ge
    rw [returned] at alike
    cases alike with
    | ok related =>
        exact ⟨(related.received success).fits,
          fun memory => Scan.touched_lt (sftHandlePacket_within _ _ _ _) memory⟩
  · have alike : Alike Waits Eq (receiveData kind calls packets packet₁ recvs stream)
        (receiveData kind calls packets packet₂ recvs stream) := receiveData_alike room₁ room₂
    exact ⟨alike.ne_error safe, alike.eq⟩
  · have alike : Alike Waits (SysdvrPacketsAlike packet.payload.length)
        (sysdvrReadPacket sysdvrMaxPayload packet recvs stream)
        (sysdvrReadPacket sysdvrMaxPayload packet recvs stream) :=
      sysdvrReadPacket_alike recvs stream rfl room.ge
    rw [returned] at alike
    cases alike with
    | ok related =>
        have received := related.received (by omega)
        exact ⟨received.2.2.1, fun memory => Scan.touched_lt (packetContent_within _ _ _) memory⟩

/-- A status packet announced with 4096 bytes and cut off after two. -/
def cutStatus : List UInt8 :=
  [0x53, 0x46, 0x54, 0x52, 2, 0, 0x18, 0, 0, 0, 0, 0, 0, 0, 0, 0, 0, 0, 0, 0, 0, 16, 0, 0, 0, 0, 0, 0,
    1, 0, 0, 0, 7, 7]

/-- A SysDVR error packet of four bytes. -/
def shortErrorPacket : List UInt8 :=
  [0xCC, 0xCC, 0xCC, 0xCC, 4, 0, 0, 0, 0, 0, 0, 0, 0, 0, 0, 0, 0x20, 0, 1, 2, 3, 4]

/-- A Frame Tap connection on which the cut-off status packet arrives, over a buffer filled with `old`. -/
def cutConnection (old : UInt8) : SftConnection where
  read := ⟨sftParseHeader [], List.replicate sftMaxPayload old, 0⟩
  ticks := List.replicate 3 ⟨true, 0, 0, .ready (.bytes 40), 0⟩
  stream := cutStatus

/-- The variables of a SysDVR worker over a buffer filled with `old`. -/
def workerPacket (old : UInt8) : SysdvrPacket :=
  ⟨sysdvrDecodeHeader [], List.replicate sysdvrMaxPayload old, 0⟩

/-- A turn of the packet loop in which nothing else happens. -/
def quietTurn : SftTurn :=
  ⟨true, true, ⟨5, true, true, true, [], true, 1, true, ⟨0, 0, 0, 0⟩, true⟩⟩

/-- Read into a blank buffer and into a full one, both come to the same. -/
theorem cut_packets_leave_no_trace :
    (sftStreamLoop [quietTurn] (sftThreadStart 0) (cutConnection 0)).map Prod.fst
      = (sftStreamLoop [quietTurn] (sftThreadStart 0) (cutConnection 255)).map Prod.fst ∧
    receiveData .video 1 1 (workerPacket 0) [.bytes 40, .bytes 40] shortErrorPacket
      = receiveData .video 1 1 (workerPacket 255) [.bytes 40, .bytes 40] shortErrorPacket :=
  ⟨(server_bytes_stay_in_bounds.1 [quietTurn] (sftThreadStart 0) (cutConnection 0) (cutConnection 255)
      ⟨rfl, rfl, List.length_replicate, List.length_replicate⟩).2,
    (server_bytes_stay_in_bounds.2.2.1 .video 1 1 (workerPacket 0) (workerPacket 255)
      [.bytes 40, .bytes 40] shortErrorPacket List.length_replicate List.length_replicate).2⟩

end SysdvrWebos
