/-
Module: SysdvrWebos.Core.NdlMedia
Layer: Core
Purpose: The wrapper around the DirectMedia player (src/ndl_media.c). The player itself is vendor code:
  it is seen as the list of the calls made on it, each with the answer it gave. The timing counters of the
  wrapper only go into log lines and are left out.
Trusted boundary: the vendor player answers every call with success or failure and changes nothing else
Main exports: NdlCall, NdlMedia, ndlMediaCreate, ndlMediaOpenInternal, feedLocked, ndlMediaDestroy
Open obligations: none
-/
import Mathlib.Data.List.Basic

namespace SysdvrWebos

/-- A call of the vendor interface with its arguments and its answer. -/
inductive NdlCall where
  | init (succeeds : Bool)
  | setAppState
  | load (width height : UInt32) (withAudio succeeds : Bool)
  | setArea
  | play (audio : Bool) (data : List UInt8) (ptsUs : UInt64) (succeeds : Bool)
  | unload
  | quit
deriving Repr, DecidableEq

/-- `ndl_media`. -/
structure NdlMedia where
  initialized : Bool
  loaded : Bool
deriving Repr, DecidableEq

/-- `ndl_feed_result`. -/
inductive NdlFeedResult where
  | ok
  | retry
  | error
deriving Repr, DecidableEq

/-- `ndl_media_create`: whether memory and mutex are had, and the answer of `NDL_DirectMediaInit`. -/
def ndlMediaCreate (allocated initSucceeds : Bool) (calls : List NdlCall) :
    Option NdlMedia × List NdlCall :=
  if !allocated then
    (none, calls)
  else if !initSucceeds then
    (none, calls ++ [.init false])
  else
    (some ⟨true, false⟩, calls ++ [.init true, .setAppState])

/-- `ndl_media_open_internal`: the return value, the player and the calls. A failed `SetArea` is only
    logged. -/
def ndlMediaOpenInternal (p : NdlMedia) (width height : UInt32) (withAudio loadSucceeds : Bool)
    (calls : List NdlCall) : Bool × NdlMedia × List NdlCall :=
  if !p.initialized then
    (false, p, calls)
  else if !loadSucceeds then
    (false, p, calls ++ [.load width height withAudio false])
  else
    (true, { p with loaded := true }, calls ++ [.load width height withAudio true, .setArea])

/-- `ndl_media_open_video_only`. -/
def ndlMediaOpenVideoOnly (p : NdlMedia) (width height : UInt32) (loadSucceeds : Bool)
    (calls : List NdlCall) : Bool × NdlMedia × List NdlCall :=
  ndlMediaOpenInternal p width height false loadSucceeds calls

/-- `feed_locked`. -/
def feedLocked (p : NdlMedia) (data : List UInt8) (ptsUs : UInt64) (audio playSucceeds : Bool)
    (calls : List NdlCall) : NdlFeedResult × List NdlCall :=
  if !p.loaded || data.isEmpty then
    (.error, calls)
  else
    (if playSucceeds then .ok else .retry, calls ++ [.play audio data ptsUs playSucceeds])

/-- `ndl_media_feed_video`. -/
def ndlMediaFeedVideo (p : NdlMedia) (data : List UInt8) (ptsUs : UInt64) (playSucceeds : Bool)
    (calls : List NdlCall) : NdlFeedResult × List NdlCall :=
  feedLocked p data ptsUs false playSucceeds calls

/-- `ndl_media_destroy`. -/
def ndlMediaDestroy (p : NdlMedia) (calls : List NdlCall) : List NdlCall :=
  let calls := if p.loaded then calls ++ [.unload] else calls
  if p.initialized then calls ++ [.quit] else calls

end SysdvrWebos
