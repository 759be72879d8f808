/-
Module: SysdvrWebos.Proofs.SysdvrReading
Layer: Proofs
Purpose: What `sysdvr_read_exact` comes back with. Over a connection that lives the way the peer's bytes are
  cut does not matter: the read takes exactly the bytes it asks for, or all there are before the peer
  closes. A call that meets a broken connection answers -1.
Trusted boundary: none (fully proved)
Main exports: RecvResult.Breaks, Steady, sysdvrReadExact_fills, sysdvrReadExact_closed, SpentOn,
  sysdvrReadExact_spent
Open obligations: none
-/
import SysdvrWebos.Core.SysdvrProtocol

namespace SysdvrWebos

/-! ### Schedules -/

/-- The `recv` hands over bytes, or the end of the stream. -/
def RecvResult.delivers : RecvResult → Bool
  | .bytes _ => true
  | .interrupted | .wouldBlock | .failed => false

/-- The `recv` fails or runs into its timeout. -/
def RecvResult.Breaks (answer : RecvResult) : Prop := answer = .failed ∨ answer = .wouldBlock

instance (answer : RecvResult) : Decidable answer.Breaks := inferInstanceAs (Decidable (_ ∨ _))

/-- No answer breaks the connection, and more than `bytes` of them deliver. -/
structure Steady (bytes : Nat) (recvs : List RecvResult) : Prop where
  lives : ∀ answer ∈ recvs, ¬ answer.Breaks
  enough : bytes < recvs.countP RecvResult.delivers

theorem not_steady_nil (bytes : Nat) : ¬ Steady bytes [] :=
  fun steady => absurd steady.enough (Nat.not_lt_zero bytes)

/-- Behind an interrupted `recv` the schedule is as good as before. -/
theorem Steady.tail_interrupted {bytes : Nat} {recvs : List RecvResult}
    (steady : Steady bytes (.interrupted :: recvs)) : Steady bytes recvs where
  lives answer member := steady.lives answer (List.mem_cons_of_mem _ member)
  enough := by
    have enough := steady.enough
    rwa [List.countP_cons_of_neg (by decide)] at enough

/-- Behind a delivery of `count` bytes there are enough deliveries for the rest. -/
theorem Steady.tail_bytes {bytes count more : Nat} {recvs : List RecvResult}
    (steady : Steady bytes (.bytes more :: recvs)) (positive : 0 < count) (covered : count ≤ bytes) :
    Steady (bytes - count) recvs where
  lives answer member := steady.lives answer (List.mem_cons_of_mem _ member)
  enough := by
    have enough := steady.enough
    rw [List.countP_cons_of_pos (by rfl)] at enough
    omega

/-! ### A read that fills its buffer -/

variable {size total : Nat} {recvs : List RecvResult} {stream buffer : List UInt8}

/-- What a full read leaves: it took what was missing off the stream and put it behind the bytes that were
    already there. -/
structure ReadsAll (size : Nat) (stream buffer : List UInt8) (total : Nat) (r : SysdvrRead) : Prop where
  got : r.got = size
  remaining : r.stream = stream.drop (size - total)
  filled : r.buffer.take size = buffer.take total ++ stream.take (size - total)
  capacity : r.buffer.length = buffer.length
  steady : Steady r.stream.length r.recvs

theorem sysdvrReadExact_full (full : total = size) (recvs : List RecvResult) :
    sysdvrReadExact size recvs stream buffer total = .ok ⟨total, buffer, recvs, stream⟩ := by
  have done : ¬ total < size := by omega
  unfold sysdvrReadExact
  cases recvs with
  | nil => exact if_neg done
  | cons answer recvs => exact if_neg done

/-- A `recv` that hands over a segment moves it from the stream into the buffer. -/
theorem sysdvrReadExact_segment (unfinished : total < size) (room : size ≤ buffer.length)
    (some_ : stream ≠ []) (more : Nat) (recvs : List RecvResult) :
    ∃ segment rest after, stream = segment ++ rest ∧ 0 < segment.length ∧
      total + segment.length ≤ size ∧ after.length = buffer.length ∧
      after.take (total + segment.length) = buffer.take total ++ segment ∧
      sysdvrReadExact size (.bytes more :: recvs) stream buffer total
        = sysdvrReadExact size recvs rest after (total + segment.length) := by
  have asked : 0 < size - total := by omega
  have received : receive stream more (size - total) ≠ [] :=
    fun empty => some_ ((receive_eq_nil_iff asked).mp empty)
  have count := length_receive stream more (size - total)
  have split := receive_append_drop stream more (size - total)
  have inside : total + (receive stream more (size - total)).length ≤ size := by omega
  rcases Option.isSome_iff_exists.mp (show (Buffer.store buffer total
      (receive stream more (size - total))).isSome by
    rw [Buffer.store_of_fits (by omega)]
    rfl) with ⟨after, stored⟩
  refine ⟨receive stream more (size - total), stream.drop (receive stream more (size - total)).length,
    after, split.symm, List.length_pos_of_ne_nil received, inside, Buffer.length_store stored,
    Buffer.take_store stored, ?_⟩
  rw [sysdvrReadExact, if_pos unfinished]
  simp only [if_neg received, stored]

/-- A read of no more bytes than the peer sends gets them, whatever way they are cut. -/
theorem sysdvrReadExact_fills (steady : Steady stream.length recvs) (inside : total ≤ size)
    (room : size ≤ buffer.length) (available : size - total ≤ stream.length) :
    ∃ r, sysdvrReadExact size recvs stream buffer total = .ok r ∧
      ReadsAll size stream buffer total r := by
  induction recvs generalizing stream buffer total with
  | nil => exact absurd steady (not_steady_nil _)
  | cons answer recvs ih =>
      by_cases full : total = size
      · refine ⟨_, sysdvrReadExact_full full _, by rw [full], ?_, ?_, rfl, steady⟩
        · rw [full, Nat.sub_self, List.drop_zero]
        · rw [full, Nat.sub_self, List.take_zero, List.append_nil]
      have unfinished : total < size := by omega
      cases answer with
      | wouldBlock => exact absurd (.inr rfl) (steady.lives _ List.mem_cons_self)
      | failed => exact absurd (.inl rfl) (steady.lives _ List.mem_cons_self)
      | interrupted =>
          rcases ih steady.tail_interrupted inside room available with ⟨r, read, all⟩
          refine ⟨r, ?_, all⟩
          rw [sysdvrReadExact, if_pos unfinished]
          exact read
      | bytes more =>
          have some_ : stream ≠ [] := List.ne_nil_of_length_pos (by omega)
          rcases sysdvrReadExact_segment unfinished room some_ more recvs with
            ⟨segment, rest, after, rfl, positive, fits, capacity, front, step⟩
          have lengths : (segment ++ rest).length = segment.length + rest.length := List.length_append
          have rest_steady := steady.tail_bytes positive (by omega)
          rw [lengths, Nat.add_sub_cancel_left] at rest_steady
          rcases ih rest_steady fits (show size ≤ after.length by omega) (by omega) with ⟨r, read, all⟩
          have offset : size - total = segment.length + (size - (total + segment.length)) := by omega
          refine ⟨r, step.trans read, all.got, ?_, ?_, all.capacity.trans capacity, all.steady⟩
          · rw [all.remaining, offset, ← List.drop_drop, List.drop_left]
          · rw [all.filled, front, offset, List.take_length_add_append, List.append_assoc]

/-! ### A read that meets the end of the stream -/

/-- A read of more bytes than the peer still sends gets all of them and stops where the peer closed. -/
theorem sysdvrReadExact_closed (steady : Steady stream.length recvs) (room : size ≤ buffer.length)
    (missing : stream.length < size - total) :
    ∃ r, sysdvrReadExact size recvs stream buffer total = .ok r ∧
      r.got = (total + stream.length : Nat) ∧ r.stream = [] := by
  induction recvs generalizing stream buffer total with
  | nil => exact absurd steady (not_steady_nil _)
  | cons answer recvs ih =>
      have unfinished : total < size := by omega
      cases answer with
      | wouldBlock => exact absurd (.inr rfl) (steady.lives _ List.mem_cons_self)
      | failed => exact absurd (.inl rfl) (steady.lives _ List.mem_cons_self)
      | interrupted =>
          rcases ih steady.tail_interrupted room missing with ⟨r, read, ended⟩
          refine ⟨r, ?_, ended⟩
          rw [sysdvrReadExact, if_pos unfinished]
          exact read
      | bytes more =>
          by_cases atEnd : stream = []
          · have nothing : receive stream more (size - total) = [] :=
              (receive_eq_nil_iff (by omega)).mpr atEnd
            refine ⟨⟨total, buffer, recvs, stream⟩, ?_, by rw [atEnd]; rfl, atEnd⟩
            rw [sysdvrReadExact, if_pos unfinished]
            simp only [nothing, if_true]
          · rcases sysdvrReadExact_segment unfinished room atEnd more recvs with
              ⟨segment, rest, after, rfl, positive, fits, capacity, front, step⟩
            have lengths : (segment ++ rest).length = segment.length + rest.length := List.length_append
            have rest_steady := steady.tail_bytes positive (by omega)
            rw [lengths, Nat.add_sub_cancel_left] at rest_steady
            have short : rest.length < size - (total + segment.length) := by omega
            rcases ih rest_steady (show size ≤ after.length by omega) short with ⟨r, read, got, ended⟩
            refine ⟨r, step.trans read, ?_, ended⟩
            rw [got, lengths, Nat.add_assoc]

/-! ### A read that fails -/

/-- A call that took the answers in front of `left` and came back with `rc`: if one of them broke the
    connection, the call failed. -/
def SpentOn (recvs left : List RecvResult) (rc : Int) : Prop :=
  ∃ used, recvs = used ++ left ∧ ((∃ answer ∈ used, answer.Breaks) → rc = -1)

theorem SpentOn.nothing (recvs : List RecvResult) (rc : Int) : SpentOn recvs recvs rc :=
  ⟨[], rfl, fun broken => by
    rcases broken with ⟨answer, member, _⟩
    exact absurd member List.not_mem_nil⟩

theorem SpentOn.cons {answer : RecvResult} {left : List RecvResult} {rc : Int}
    (lives : ¬ answer.Breaks) (spent : SpentOn recvs left rc) : SpentOn (answer :: recvs) left rc := by
  rcases spent with ⟨used, rfl, fails⟩
  refine ⟨answer :: used, rfl, ?_⟩
  rintro ⟨broken, member, breaks⟩
  rcases List.mem_cons.mp member with rfl | later
  · exact absurd breaks lives
  · exact fails ⟨broken, later, breaks⟩

/-- One answer that is the last of a call. -/
theorem SpentOn.last {answer : RecvResult} {rc : Int} (fails : answer.Breaks → rc = -1) :
    SpentOn (answer :: recvs) recvs rc := by
  refine ⟨[answer], rfl, ?_⟩
  rintro ⟨broken, member, breaks⟩
  rw [List.mem_singleton] at member
  exact fails (member ▸ breaks)

/-- Two calls one after the other, of which the second fails if it must and the first is judged by it. -/
theorem SpentOn.trans {middle left : List RecvResult} {first second rc : Int}
    (early : SpentOn recvs middle first) (late : SpentOn middle left second)
    (early_fails : first = -1 → rc = -1) (late_fails : second = -1 → rc = -1) :
    SpentOn recvs left rc := by
  rcases early with ⟨used, rfl, fails⟩
  rcases late with ⟨used', rfl, fails'⟩
  refine ⟨used ++ used', (List.append_assoc _ _ _).symm, ?_⟩
  rintro ⟨broken, member, breaks⟩
  rcases List.mem_append.mp member with here | there
  · exact early_fails (fails ⟨broken, here, breaks⟩)
  · exact late_fails (fails' ⟨broken, there, breaks⟩)

theorem SpentOn.imp {left : List RecvResult} {first rc : Int} (spent : SpentOn recvs left first)
    (fails : first = -1 → rc = -1) : SpentOn recvs left rc := by
  rcases spent with ⟨used, taken, broken⟩
  exact ⟨used, taken, fun breaks => fails (broken breaks)⟩

theorem sysdvrReadExact_spent {r : SysdvrRead}
    (read : sysdvrReadExact size recvs stream buffer total = .ok r) : SpentOn recvs r.recvs r.got := by
  induction recvs generalizing stream buffer total with
  | nil =>
      unfold sysdvrReadExact at read
      split at read
      · cases read
      · cases read
        exact .nothing _ _
  | cons answer recvs ih =>
      unfold sysdvrReadExact at read
      split at read
      · cases answer with
        | interrupted => exact (ih read).cons (by decide)
        | wouldBlock =>
            cases read
            exact .last fun _ => rfl
        | failed =>
            cases read
            exact .last fun _ => rfl
        | bytes more =>
            have lives : ¬ (RecvResult.bytes more).Breaks := by simp [RecvResult.Breaks]
            dsimp only at read
            split at read
            · cases read
              exact .last fun breaks => absurd breaks lives
            · split at read
              · cases read
              · exact (ih read).cons lives
      · cases read
        exact .nothing _ _

end SysdvrWebos
