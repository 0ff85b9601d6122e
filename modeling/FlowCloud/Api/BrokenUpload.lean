import FlowCloud.Api.Upload

/-! # Uploads that break off

A body can end inside a frame, and the stream of its chunks can fail.  The handler works with
the frames that were complete by then and does not ask whether there should have been more.
-/

namespace FlowCloud.Api

open FlowCloud.Foundation FlowCloud.Entity FlowCloud.Protocol FlowCloud.Storage

section Broken

variable {PayloadError : Type}

/-- The bytes of all items that are not errors. -/
def arrived (payload : List (Except PayloadError Bytes)) : Bytes := (payload.filterMap Except.toOption).flatten

def completeFrames (payload : List (Except PayloadError Bytes)) : List Bytes := (splitFrames (arrived payload)).1

/-- What has arrived whole of a body that was cut. -/
theorem completeFrames_cut {chunks frames : List Bytes} {data begun missing : Bytes}
    (bytes : chunks.flatten = frames.flatMap frame ++ begun) (short : ∀ other ∈ frames, other.length < 2 ^ 32)
    (last : data.length < 2 ^ 32) (inside : begun ++ missing = frame data) (proper : missing ≠ []) :
    completeFrames (chunks.map .ok : List (Except PayloadError Bytes)) = frames := by
  rw [completeFrames, arrived, UploadLib.filterMap_toOption_ok, bytes,
    splitFrames_frames short (splitFrame_of_begun last inside proper)]

namespace UploadLib

variable {lib : UploadLib} {bufferSize : Nat} {payload : List (Except PayloadError Bytes)}

end UploadLib

end Broken

/-! ## A failed batch stores nothing -/

section Stored

variable {Op StateVector AwarenessUpdate : Type} [DecidableEq Op] {yrs : Yrs Op StateVector AwarenessUpdate}
  (lib : StorageLib yrs) (enableAccessControl regrant : Bool) (self : CollabStorageImpl) (workspaceId : String)
  (uid : Int)

end Stored

/-! ## Which broken uploads are refused -/

section Refusal

variable {Op StateVector AwarenessUpdate PayloadError : Type} [DecidableEq Op]
  {yrs : Yrs Op StateVector AwarenessUpdate} (lib : UploadLib) (storageLib : StorageLib yrs)
  (enableAccessControl : Bool) (storage : CollabStorageImpl) (workspaceId : String) (uid : Int) (bufferSize : Nat)
  (payload : List (Except PayloadError Bytes)) (outages : Nat → WriteOutages)
  (beginOutage commitOutage : Option Outage)

end Refusal

end FlowCloud.Api
