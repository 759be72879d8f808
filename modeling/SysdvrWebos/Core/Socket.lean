/-
Module: SysdvrWebos.Core.Socket
Layer: Core
Purpose: The receiving side of a stream socket. The peer's bytes are a list that ends where the peer
  closes; how they are cut into `recv` results is decided outside, one answer for every call. The halts
  are the two ways in which a read does not come back: it waits for an answer the schedule does not
  hold, or it stores outside its buffer.
Trusted boundary: none
Main exports: RecvResult, receive, Halt
Open obligations: none
-/
import SysdvrWebos.Lib.Buffer

namespace SysdvrWebos

/-- What one `recv` comes back with. `bytes more` finds `more + 1` bytes in the socket buffer, or the end
    of the stream if the peer has nothing left to send. -/
inductive RecvResult where
  | bytes (more : Nat)
  | interrupted
  | wouldBlock
  | failed
deriving Repr, DecidableEq

/-- The bytes `recv` copies when `room` are asked for and `more + 1` have arrived. -/
def receive (stream : List UInt8) (more room : Nat) : List UInt8 := stream.take (min (more + 1) room)

/-- Why a read does not return. -/
inductive Halt where
  | blocked
  | outOfBounds
deriving Repr, DecidableEq

theorem length_receive (stream : List UInt8) (more room : Nat) :
    (receive stream more room).length = min (min (more + 1) room) stream.length :=
  List.length_take

/-- A `recv` that asks for something gets nothing only from a peer that closed. -/
theorem receive_eq_nil_iff {stream : List UInt8} {more room : Nat} (asked : 0 < room) :
    receive stream more room = [] ↔ stream = [] := by
  rw [receive, List.take_eq_nil_iff]
  constructor
  · rintro (none | empty)
    · omega
    · exact empty
  · exact Or.inr

theorem receive_append_drop (stream : List UInt8) (more room : Nat) :
    receive stream more room ++ stream.drop (receive stream more room).length = stream :=
  List.prefix_iff_eq_append.mp (List.take_prefix _ _)

end SysdvrWebos
