import FlowCloud.Server.StoragePlugin

/-! # Snapshots

A snapshot to be written waits in a queue, and its bytes in a cache under the id of its
object.  Snapshots that were written are rows of `af_collab_snapshot` and have ids of their
own.  A read for a snapshot id asks the cache first, which knows no such ids.
-/

namespace FlowCloud.Snapshot

open FlowCloud.Foundation FlowCloud.Entity FlowCloud.Storage FlowCloud.Server

structure AFSnapshotRow where
  sid : Int
  oid : String
  blob : Bytes
  workspaceId : Uuid
  deleted : Bool
  createdAt : Int
  deriving DecidableEq, Repr

structure AfCollabSnapshot where
  rows : List AFSnapshotRow
  /-- `sid` is the primary key. -/
  distinct : (rows.map AFSnapshotRow.sid).Nodup

structure InsertSnapshotParams where
  objectId : String
  encodedCollabV1 : Bytes
  workspaceId : String
  deriving DecidableEq, Repr

structure PendingItem where
  workspaceId : String
  objectId : String
  seq : Int
  deriving DecidableEq, Repr

structure PendingQueue where
  idGen : Int
  queue : List PendingItem
  deriving DecidableEq, Repr

def PendingQueue.new : PendingQueue := ⟨0, []⟩

/-- The counter wraps like an `i64`. -/
def PendingQueue.generateItem (self : PendingQueue) (workspaceId objectId : String) : PendingItem × PendingQueue :=
  (⟨workspaceId, objectId, self.idGen⟩, { self with idGen := Int.bmod (self.idGen + 1) (2 ^ 64) })

def PendingQueue.pushItem (self : PendingQueue) (item : PendingItem) : PendingQueue :=
  { self with queue := item :: self.queue }

/-- The Redis entries of the snapshots that wait. -/
abbrev SnapshotCache := String → Option Bytes

def SnapshotCache.tryGet (self : SnapshotCache) (key : String) (failure : Option AppError) :
    Except AppError (Option Bytes) :=
  match failure with
  | some failure => .error failure
  | none => .ok (self key)

def SnapshotCache.insert (self : SnapshotCache) (key : String) (value : Bytes) (failure : Option AppError) :
    SnapshotCache :=
  if failure.isSome then self else Function.update self key (some value)

structure SnapshotControl where
  cache : SnapshotCache
  queue : PendingQueue
  table : AfCollabSnapshot

def snapshotKey (objectId : String) : String := "full_snapshot" ++ ":" ++ objectId

namespace SnapshotControl

variable (self : SnapshotControl)

/-- `SnapshotCommand::InsertSnapshot`: the item is queued also if its bytes cannot be cached. -/
def insertSnapshot (params : InsertSnapshotParams) (failure : Option AppError) : SnapshotControl :=
  let (item, queue) := self.queue.generateItem params.workspaceId params.objectId
  let cache := self.cache.insert (snapshotKey item.objectId) params.encodedCollabV1 failure
  { self with queue := queue.pushItem item, cache }

/-! ## Reads -/

def selectSnapshot (snapshotId : Int) (outage : Option Outage) : Except SqlxError (Option AFSnapshotRow) :=
  match outage with
  | some outage => .error outage.toSqlx
  | none => .ok (self.table.rows.find? fun row => row.sid = snapshotId ∧ row.deleted = false)

def getCollabSnapshot (snapshotId : Int) (outage : Option Outage) : Except AppError SnapshotData :=
  match self.selectSnapshot snapshotId outage with
  | .error error => .error (.ofSqlx error)
  | .ok none => .error (.recordNotFound ("Can't find the snapshot with id:" ++ toString snapshotId))
  | .ok (some row) => .ok ⟨row.oid, row.blob, row.workspaceId.text⟩

def getSnapshot (workspaceId objectId : String) (snapshotId : Int) (cacheFailure : Option AppError)
    (outage : Option Outage) : Except AppError SnapshotData :=
  -- a cache that cannot be asked has nothing
  match (self.cache.tryGet (snapshotKey objectId) cacheFailure).toOption.join with
  | none => self.getCollabSnapshot snapshotId outage
  | some encodedCollabV1 => .ok ⟨objectId, encodedCollabV1, workspaceId⟩

/-! ## The snapshot that was asked for -/

/-- The row with this id, which is not deleted, belongs to the object. -/
def Holds (objectId : String) (snapshotId : Int) (row : AFSnapshotRow) : Prop :=
  row ∈ self.table.rows ∧ row.sid = snapshotId ∧ row.deleted = false ∧ row.oid = objectId

/-- A result has the bytes of the object's row with this id, and there is one if there is such
    a row and the table can be asked. -/
structure ReturnsSnapshot (control : SnapshotControl) (objectId : String) (snapshotId : Int)
    (outage : Option Outage) (result : Except AppError SnapshotData) : Prop where
  bytes : ∀ data, result = .ok data →
    ∃ row, control.Holds objectId snapshotId row ∧ data.encodedCollabV1 = row.blob
  found : outage = none → ∀ row, control.Holds objectId snapshotId row → ∃ data, result = .ok data

/-- What waits in the cache for the object is the row that is asked for, or nothing waits there and
    the id is not that of another object's row. -/
def Unambiguous (objectId : String) (snapshotId : Int) (cacheFailure : Option AppError)
    (outage : Option Outage) : Prop :=
  match (self.cache.tryGet (snapshotKey objectId) cacheFailure).toOption.join with
  | some waiting => ∃ row, self.Holds objectId snapshotId row ∧ row.blob = waiting
  | none => outage = none → ∀ row ∈ self.table.rows, row.sid = snapshotId → row.deleted = false → row.oid = objectId

variable {self} {snapshotId : Int} {row : AFSnapshotRow}

theorem selectSnapshot_eq_some :
    self.selectSnapshot snapshotId none = .ok (some row) ↔
      row ∈ self.table.rows ∧ row.sid = snapshotId ∧ row.deleted = false := by
  rw [selectSnapshot, Except.ok.injEq]
  constructor
  · intro found
    have named := List.find?_some found
    simp only [decide_eq_true_eq] at named
    exact ⟨List.mem_of_find?_eq_some found, named⟩
  · rintro ⟨member, named⟩
    -- the primary key leaves no other row
    cases found : self.table.rows.find? fun row => row.sid = snapshotId ∧ row.deleted = false with
    | none =>
      rw [List.find?_eq_none] at found
      exact absurd (decide_eq_true named) (found row member)
    | some other =>
      have otherNamed := List.find?_some found
      simp only [decide_eq_true_eq] at otherNamed
      have same : other.sid = row.sid := otherNamed.1.trans named.1.symm
      rw [List.inj_on_of_nodup_map self.table.distinct (List.mem_of_find?_eq_some found) member same]

theorem getCollabSnapshot_eq_ok {outage : Option Outage} {data : SnapshotData} :
    self.getCollabSnapshot snapshotId outage = .ok data ↔
      outage = none ∧ ∃ row ∈ self.table.rows, row.sid = snapshotId ∧ row.deleted = false ∧
        data = ⟨row.oid, row.blob, row.workspaceId.text⟩ := by
  rw [getCollabSnapshot]
  cases outage with
  | some outage => simp [selectSnapshot]
  | none =>
    constructor
    · intro read
      split at read
      · cases read
      · cases read
      · rename_i row selected
        cases read
        obtain ⟨member, named, live⟩ := selectSnapshot_eq_some.mp selected
        exact ⟨rfl, row, member, named, live, rfl⟩
    · rintro ⟨_, row, member, named, live, rfl⟩
      rw [selectSnapshot_eq_some.mpr ⟨member, named, live⟩]

/-- A read returns the snapshot that was asked for exactly if nothing else waits in the cache for
    the object and, where nothing waits, the id is not another object's. -/
theorem getSnapshot_returns_iff (self : SnapshotControl) (workspaceId objectId : String) (snapshotId : Int)
    (cacheFailure : Option AppError) (outage : Option Outage) :
    self.ReturnsSnapshot objectId snapshotId outage
        (self.getSnapshot workspaceId objectId snapshotId cacheFailure outage) ↔
      self.Unambiguous objectId snapshotId cacheFailure outage := by
  rw [getSnapshot, Unambiguous]
  cases (self.cache.tryGet (snapshotKey objectId) cacheFailure).toOption.join with
  | some waiting =>
    constructor
    · intro returns
      obtain ⟨row, holds, same⟩ := returns.bytes _ rfl
      exact ⟨row, holds, same.symm⟩
    · rintro ⟨row, holds, rfl⟩
      refine ⟨?_, fun _ _ _ => ⟨_, rfl⟩⟩
      rintro data ⟨⟩
      exact ⟨row, holds, rfl⟩
  | none =>
    simp only
    constructor
    · intro returns answered row member named live
      subst answered
      -- the row is what the read returns
      obtain ⟨other, holds, _⟩ := returns.bytes _
        (getCollabSnapshot_eq_ok.mpr ⟨rfl, row, member, named, live, rfl⟩)
      have same : row = other :=
        List.inj_on_of_nodup_map self.table.distinct member holds.1 (named.trans holds.2.1.symm)
      rw [same]
      exact holds.2.2.2
    · intro own
      constructor
      · intro data read
        obtain ⟨answered, row, member, named, live, rfl⟩ := getCollabSnapshot_eq_ok.mp read
        exact ⟨row, ⟨member, named, live, own answered row member named live⟩, rfl⟩
      · rintro answered row ⟨member, named, live, _⟩
        exact ⟨_, getCollabSnapshot_eq_ok.mpr ⟨answered, row, member, named, live, rfl⟩⟩

end SnapshotControl

/-- Snapshot 7 of the document is stored, and the next one has been queued. -/
def nextQueued : SnapshotControl :=
  let stored : AFSnapshotRow :=
    ⟨7, "doc", typedCollabs.encode ⟨[0], [0, 0]⟩, 0x5b7cbb2f4a5c4f3c9a0e1d2c3b4a5f60, false, 0⟩
  let control : SnapshotControl := ⟨fun _ => none, .new, ⟨[stored], List.nodup_singleton _⟩⟩
  control.insertSnapshot ⟨"doc", storedDocument.blob, "5b7cbb2f-4a5c-4f3c-9a0e-1d2c3b4a5f60"⟩ none

/-- The request for snapshot 7 gets the bytes that wait. -/
theorem getSnapshot_returns_queued :
    ¬ ∀ (self : SnapshotControl) (workspaceId objectId : String) (snapshotId : Int)
        (cacheFailure : Option AppError) (outage : Option Outage),
      self.ReturnsSnapshot objectId snapshotId outage
        (self.getSnapshot workspaceId objectId snapshotId cacheFailure outage) := by
  intro returns
  obtain ⟨row, holds, same⟩ :=
    (returns nextQueued "5b7cbb2f-4a5c-4f3c-9a0e-1d2c3b4a5f60" "doc" 7 none none).bytes
      ⟨"doc", storedDocument.blob, "5b7cbb2f-4a5c-4f3c-9a0e-1d2c3b4a5f60"⟩ (by decide +kernel)
  obtain rfl := List.mem_singleton.mp holds.1
  revert same
  decide +kernel

end FlowCloud.Snapshot
