/-
Module: SysdvrWebos.Spec.DecoderInstances
Layer: Spec
Purpose: What the player sees of a stream: the decoder instances it is asked to open, each with the frames
  it accepts, read off the calls on the vendor interface. Nothing here refers to how a client decides
  which frames to hand over.
Trusted boundary: none
Main exports: FedFrame, Decoder, Decoder.WellFed, recordCall, recordCalls, framesOf, NdlCall.taken,
  NdlCall.playsOnly
Open obligations: none
-/
import SysdvrWebos.Core.NdlMedia
import SysdvrWebos.Core.SftProtocol

namespace SysdvrWebos

/-- A frame that a decoder has accepted: the packet it came in, the bytes that were played, and when. -/
structure FedFrame where
  header : SftPacketHeader
  key : Bool
  data : List UInt8
  ptsUs : UInt64
deriving DecidableEq

/-- A decoder instance: the dimensions it was loaded with and the frames it has accepted. -/
structure Decoder where
  width : UInt32
  height : UInt32
  frames : List FedFrame
deriving DecidableEq

/-- The instance begins with a key frame at time zero, all its frames have the dimensions it was loaded
    with, and time never goes back. -/
def Decoder.WellFed (d : Decoder) : Prop :=
  (∃ first rest, d.frames = first :: rest ∧ first.key = true ∧ first.ptsUs = 0) ∧
  (∀ f ∈ d.frames, f.header.width = d.width ∧ f.header.height = d.height) ∧
  d.frames.Pairwise fun f g => f.ptsUs ≤ g.ptsUs

/-- What one call means for the instances, the latest of which comes first. A frame that is accepted
    although nothing was ever loaded counts as an instance without dimensions. -/
def recordCall (header : SftPacketHeader) (key : Bool) (decoders : List Decoder) :
    NdlCall → List Decoder
  | .load width height _ true => ⟨width, height, []⟩ :: decoders
  | .play _ data ptsUs true =>
      match decoders with
      | [] => [⟨0, 0, [⟨header, key, data, ptsUs⟩]⟩]
      | d :: earlier => { d with frames := d.frames ++ [⟨header, key, data, ptsUs⟩] } :: earlier
  | _ => decoders

/-- The calls made for one packet, in order. -/
def recordCalls (header : SftPacketHeader) (key : Bool) (decoders : List Decoder)
    (calls : List NdlCall) : List Decoder :=
  calls.foldl (recordCall header key) decoders

/-- All frames that were accepted, in order. -/
def framesOf (decoders : List Decoder) : List FedFrame := decoders.reverse.flatMap Decoder.frames

/-- What the player accepts with a call: whether as audio, and the bytes. -/
def NdlCall.taken : NdlCall → Option (Bool × List UInt8)
  | .play audio data _ true => some (audio, data)
  | _ => none

/-- The call hands over nothing but the video frame `data`. -/
def NdlCall.playsOnly (data : List UInt8) : NdlCall → Bool
  | .play audio sent _ _ => !audio && sent == data
  | _ => true

end SysdvrWebos
