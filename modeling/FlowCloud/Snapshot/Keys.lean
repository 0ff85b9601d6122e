import FlowCloud.Foundation.SharedStore
import FlowCloud.Snapshot.Drain
import FlowCloud.Storage.Grants

/-! # The Redis keys of both caches

The cache of collabs and the cache of pending snapshots are given the same Redis.  One stores
an object under its id, the other puts a prefix in front of it, and an object id that passes
the validators may begin with that prefix.
-/

namespace FlowCloud.Snapshot

open FlowCloud.Foundation FlowCloud.Entity FlowCloud.Storage

structure DeleteCollabParams where
  objectId : String
  workspaceId : String
  deriving DecidableEq, Repr

def DeleteCollabParams.validate (params : DeleteCollabParams) : Except AppError Unit :=
  validated (validateNotEmptyStr "object_id" params.objectId ++
    validateNotEmptyStr "workspace_id" params.workspaceId)

/-- What the clients of both caches are connected to. -/
abbrev Redis := String → Option Bytes

/-! ## Calls of the caches -/

def setBytesInRedis (redis : Redis) (objectId : String) (bytes : Bytes) (writable : Bool) : Redis :=
  if writable then Function.update redis objectId (some bytes) else redis

def removeEncodeCollab (redis : Redis) (objectId : String) (reachable : Bool) : Redis :=
  if reachable then Function.update redis objectId none else redis

theorem insertEncodeCollabBytes_memCache (storage : CollabStorageImpl) (params : CollabParams) (writable : Bool) :
    (storage.insertEncodeCollabBytes params writable).cache.memCache =
      setBytesInRedis storage.cache.memCache params.objectId params.encodedCollabV1 writable := by
  cases writable <;> rfl

/-- A call of either cache that changes its entries; one that expires is one that is removed. -/
inductive CacheCall where
  | insertEncodeCollabBytes (params : CollabParams) (writable : Bool)
  | removeEncodeCollab (params : DeleteCollabParams) (reachable : Bool)
  | insertSnapshot (params : InsertSnapshotParams) (failure : Option AppError)
  | removeSnapshot (params : InsertSnapshotParams) (failure : Option AppError)

namespace CacheCall

def step (redis : Redis) : CacheCall → Redis
  | insertEncodeCollabBytes params writable =>
    setBytesInRedis redis params.objectId params.encodedCollabV1 writable
  | removeEncodeCollab params reachable => Snapshot.removeEncodeCollab redis params.objectId reachable
  | insertSnapshot params failure =>
    SnapshotCache.insert redis (snapshotKey params.objectId) params.encodedCollabV1 failure
  | removeSnapshot params failure => SnapshotCache.remove redis (snapshotKey params.objectId) failure

/-- The parameters pass their validator, and the object of a collab call is one of the ids. -/
def Admitted (ids : Set String) : CacheCall → Prop
  | insertEncodeCollabBytes params _ => params.validate = .ok () ∧ params.objectId ∈ ids
  | removeEncodeCollab params _ => params.validate = .ok () ∧ params.objectId ∈ ids
  | insertSnapshot params _ => params.validate = .ok ()
  | removeSnapshot params _ => params.validate = .ok ()

end CacheCall

/-! ## Entries by their owners -/

/-- The entry of an object in one of the caches. -/
inductive CacheEntry where
  | collab (objectId : String)
  | snapshot (objectId : String)
  deriving DecidableEq, Repr

def CacheEntry.key : CacheEntry → String
  | collab objectId => objectId
  | snapshot objectId => snapshotKey objectId

def entries (ids : Set String) : Set CacheEntry
  | .collab objectId => objectId ∈ ids
  | .snapshot objectId => objectId ≠ ""

/-- What a call writes, and of which entry. -/
def CacheCall.writes : CacheCall → List (CacheEntry × Option Bytes)
  | insertEncodeCollabBytes params writable =>
    if writable then [(.collab params.objectId, some params.encodedCollabV1)] else []
  | removeEncodeCollab params reachable => if reachable then [(.collab params.objectId, none)] else []
  | insertSnapshot params failure =>
    if failure.isSome then [] else [(.snapshot params.objectId, some params.encodedCollabV1)]
  | removeSnapshot params failure => if failure.isSome then [] else [(.snapshot params.objectId, none)]

theorem CacheCall.step_eq (redis : Redis) (call : CacheCall) :
    call.step redis = run (writeUnder CacheEntry.key) redis call.writes := by
  cases call with
  | insertEncodeCollabBytes params writable => cases writable <;> rfl
  | removeEncodeCollab params reachable => cases reachable <;> rfl
  | insertSnapshot params failure => cases failure <;> rfl
  | removeSnapshot params failure => cases failure <;> rfl

theorem CacheCall.run_step_eq (redis : Redis) (calls : List CacheCall) :
    run CacheCall.step redis calls = run (writeUnder CacheEntry.key) redis (calls.flatMap CacheCall.writes) := by
  induction calls generalizing redis with
  | nil => rfl
  | cons call calls ih => rw [run_cons, ih, CacheCall.step_eq, List.flatMap_cons, run_append]

theorem CacheCall.Admitted.writes {ids : Set String} {call : CacheCall} (admitted : call.Admitted ids) :
    ∀ write ∈ call.writes, write.1 ∈ entries ids := by
  cases call with
  | insertEncodeCollabBytes params writable =>
    cases writable with
    | false => exact List.forall_mem_nil _
    | true => exact List.forall_mem_singleton.mpr admitted.2
  | removeEncodeCollab params reachable =>
    cases reachable with
    | false => exact List.forall_mem_nil _
    | true => exact List.forall_mem_singleton.mpr admitted.2
  | insertSnapshot params failure =>
    cases failure with
    | some failure => exact List.forall_mem_nil _
    | none => exact List.forall_mem_singleton.mpr (InsertSnapshotParams.validate_eq_ok.mp admitted).1
  | removeSnapshot params failure =>
    cases failure with
    | some failure => exact List.forall_mem_nil _
    | none => exact List.forall_mem_singleton.mpr (InsertSnapshotParams.validate_eq_ok.mp admitted).1

/-! ## Ids that are keys of snapshots -/

/-- The prefix of the snapshot keys, and at least one character behind it. -/
def Reserved (objectId : String) : Prop :=
  (snapshotKey "").toList <+: objectId.toList ∧ objectId ≠ snapshotKey ""

theorem reserved_iff (objectId : String) : Reserved objectId ↔ ∃ other ≠ "", objectId = snapshotKey other := by
  have split : ∀ other, (snapshotKey other).toList = (snapshotKey "").toList ++ other.toList := by
    intro other
    simp [snapshotKey]
  constructor
  · intro reserved
    obtain ⟨behind, whole⟩ := reserved.1
    have same : objectId = snapshotKey (String.ofList behind) := by
      rw [← String.toList_inj, split, String.toList_ofList, whole]
    refine ⟨String.ofList behind, ?_, same⟩
    intro none
    rw [none] at same
    exact reserved.2 same
  · intro taken
    obtain ⟨other, present, rfl⟩ := taken
    refine ⟨?_, fun same => present (snapshotKey_injective same)⟩
    rw [split other]
    exact List.prefix_append _ _

theorem key_injOn {ids : Set String} (free : ∀ objectId ∈ ids, ¬ Reserved objectId) :
    Set.InjOn CacheEntry.key (entries ids) := by
  have apart : ∀ objectId ∈ ids, ∀ other ≠ "", objectId ≠ snapshotKey other :=
    fun objectId among other present same => free objectId among ((reserved_iff objectId).mpr ⟨other, present, same⟩)
  intro first member second otherMember same
  cases first with
  | collab objectId =>
    cases second with
    | collab other => exact congrArg CacheEntry.collab same
    | snapshot other => exact absurd same (apart objectId member other otherMember)
  | snapshot objectId =>
    cases second with
    | collab other => exact absurd same.symm (apart other otherMember objectId member)
    | snapshot other => exact congrArg CacheEntry.snapshot (snapshotKey_injective same)

/-- No collab is stored under a snapshot's key, and each entry is what the calls of its own cache have left. -/
structure KeepsApart (ids : Set String) : Prop where
  keys : ∀ objectId ∈ ids, ∀ params : InsertSnapshotParams, params.validate = .ok () →
    objectId ≠ snapshotKey params.objectId
  own : ∀ calls : List CacheCall, (∀ call ∈ calls, call.Admitted ids) → ∀ entry ∈ entries ids,
    run CacheCall.step (fun _ => none) calls entry.key =
      run (writeUnder id) (fun _ => none) (calls.flatMap CacheCall.writes) entry

/-- The caches keep their entries apart exactly if no collab has a reserved id. -/
theorem keepsApart_iff (ids : Set String) : KeepsApart ids ↔ ∀ objectId ∈ ids, ¬ Reserved objectId := by
  constructor
  · intro apart objectId among reserved
    obtain ⟨other, present, same⟩ := (reserved_iff objectId).mp reserved
    have named : "workspace" ≠ "" := by decide
    have valid : InsertSnapshotParams.validate ⟨other, [0], "workspace"⟩ = .ok () := by
      rw [InsertSnapshotParams.validate_eq_ok]
      exact ⟨present, List.cons_ne_nil _ _, named⟩
    exact apart.keys objectId among _ valid same
  · intro free
    constructor
    · intro objectId among params valid same
      have present := (InsertSnapshotParams.validate_eq_ok.mp valid).1
      exact free objectId among ((reserved_iff objectId).mpr ⟨params.objectId, present, same⟩)
    · intro calls admitted
      rw [CacheCall.run_step_eq]
      apply run_writeUnder_agrees (key_injOn free)
      · exact fun _ _ => rfl
      · intro write among
        obtain ⟨call, listed, written⟩ := List.mem_flatMap.mp among
        exact (admitted call listed).writes write written

/-! ## A collab under a snapshot's key -/

/-- The object ids of the collabs whose parameters are valid. -/
def validIds : Set String :=
  fun objectId => ∃ params : CollabParams, params.validate = .ok () ∧ params.objectId = objectId

def takenParams : CollabParams := ⟨"full_snapshot:doc", [1], .document, false⟩

def docSnapshot : InsertSnapshotParams := ⟨"doc", [7], "workspace"⟩

/-- The pending snapshot of the one is read as the other, and goes when the other is removed. -/
theorem snapshot_key_taken :
    docSnapshot.validate = .ok () ∧ takenParams.objectId ∈ validIds ∧
      takenParams.objectId = snapshotKey docSnapshot.objectId ∧
      run CacheCall.step (fun _ => none) [.insertSnapshot docSnapshot none] takenParams.objectId = some [7] ∧
      run CacheCall.step (fun _ => none)
        [.insertSnapshot docSnapshot none, .removeEncodeCollab ⟨takenParams.objectId, "workspace"⟩ true]
        (snapshotKey docSnapshot.objectId) = none ∧
      ¬ KeepsApart validIds := by
  have valid : docSnapshot.validate = .ok () := rfl
  have among : takenParams.objectId ∈ validIds := ⟨takenParams, rfl, rfl⟩
  have same : takenParams.objectId = snapshotKey docSnapshot.objectId := by decide
  refine ⟨valid, among, same, ?_, ?_, ?_⟩
  · rfl
  · rfl
  · intro apart
    exact apart.keys _ among docSnapshot valid same

end FlowCloud.Snapshot
