import FlowCloud.Foundation.Newest
import FlowCloud.Foundation.PriorityQueue
import FlowCloud.Foundation.Runs
import FlowCloud.Snapshot.Control

/-! # Writing the queued snapshots

Once in a while the runner takes the first item of the queue and writes the bytes that are in
the cache for its object.  All items of an object share one cache entry, which holds the
bytes that were queued last, so a write that succeeds has written these, and one that fails
leaves the entry and the item behind.
-/

namespace FlowCloud.Snapshot

open FlowCloud.Foundation FlowCloud.Entity FlowCloud.Storage FlowCloud.Protocol FlowCloud.Server

variable {Op StateVector AwarenessUpdate : Type} [DecidableEq Op] {yrs : Yrs Op StateVector AwarenessUpdate}

/-- A smaller number is a higher priority. -/
def PendingItem.cmp (self other : PendingItem) : Ordering := (compare self.seq other.seq).swap

def SnapshotCache.remove (self : SnapshotCache) (key : String) (failure : Option AppError) : SnapshotCache :=
  if failure.isSome then self else Function.update self key none

structure AFSnapshotMeta where
  snapshotId : Int
  objectId : String
  createdAt : Int
  deriving DecidableEq, Repr

def collabSnapshotLimit : Nat := 30

/-! ## The table -/

namespace AfCollabSnapshot

variable (self : AfCollabSnapshot)

def insert (row : AFSnapshotRow) (fresh : row.sid ∉ self.rows.map AFSnapshotRow.sid) : AfCollabSnapshot :=
  ⟨row :: self.rows, List.nodup_cons.mpr ⟨fresh, self.distinct⟩⟩

/-- The ids of the object's newest rows. -/
def newest (oid : String) (limit : Nat) : List Int :=
  let own := self.rows.filter fun row => row.oid = oid
  ((own.mergeSort fun first second => second.createdAt ≤ first.createdAt).take limit).map AFSnapshotRow.sid

def deleteBeyond (oid : String) (limit : Nat) : AfCollabSnapshot :=
  ⟨self.rows.filter fun row => ¬ (row.oid = oid ∧ row.sid ∉ self.newest oid limit),
    self.distinct.sublist (List.filter_sublist.map _)⟩

end AfCollabSnapshot

/-- What becomes of the transaction in the end. -/
inductive CommitOutcome where
  | committed
  | rolledBack (outage : Outage)
  /-- The database has committed, but its answer was lost. -/
  | unconfirmed (outage : Outage)

/-- What a turn of the runner meets: `sid` and `createdAt` are what the database gives to the row. -/
structure TickOutcome where
  cacheRead : Option AppError
  begins : Bool
  sid : Int
  createdAt : Int
  insertOutage : Option Outage
  deleteOutage : Option Outage
  commit : CommitOutcome
  cacheRemove : Option AppError

section Write

variable (lib : StorageLib yrs)

/-- The rows are those of the table after the call. -/
def createSnapshotAndMaintainLimit (table : AfCollabSnapshot) (workspaceId oid : String) (encodedCollabV1 : Bytes)
    (snapshotLimit : Nat) (outcome : TickOutcome) : AfCollabSnapshot × Except AppError AFSnapshotMeta :=
  match lib.uuidFromStr workspaceId with
  | .error error => (table, .error (.uuidError error))
  | .ok workspaceId =>
    match outcome.insertOutage with
    | some outage => (table, .error (.ofSqlx outage.toSqlx))
    | none =>
      let row : AFSnapshotRow := ⟨outcome.sid, oid, encodedCollabV1, workspaceId, false, outcome.createdAt⟩
      if fresh : row.sid ∉ table.rows.map AFSnapshotRow.sid then
        match outcome.deleteOutage with
        | some outage => (table, .error (.ofSqlx outage.toSqlx))
        | none =>
          let next := (table.insert row fresh).deleteBeyond oid snapshotLimit
          let failed := AppError.internal "fail to commit the transaction to insert collab snapshot"
          match outcome.commit with
          | .committed => (next, .ok ⟨row.sid, row.oid, row.createdAt⟩)
          | .rolledBack _ => (table, .error failed)
          | .unconfirmed _ => (next, .error failed)
      else (table, .error (.ofSqlx (.other "duplicate key value violates unique constraint")))

end Write

/-! ## The runner -/

structure SnapshotCommandRunner extends SnapshotControl where
  successAttempts : UInt64
  totalAttempts : UInt64

structure SnapshotMetric where
  successWriteSnapshotCount : Int64
  totalWriteSnapshotCount : Int64
  deriving DecidableEq, Repr

inductive SnapshotCommand where
  | insertSnapshot (params : InsertSnapshotParams) (cacheInsert : Option AppError)
  | tick (outcome : TickOutcome)

namespace SnapshotCommandRunner

def new (table : AfCollabSnapshot) (cache : SnapshotCache) : SnapshotCommandRunner :=
  { cache, queue := .new, table, successAttempts := 0, totalAttempts := 0 }

section Operations

variable (lib : StorageLib yrs) (self : SnapshotCommandRunner)

def pushBack (item : PendingItem) : SnapshotCommandRunner := { self with queue := self.queue.pushItem item }

def processNextBatch (outcome : TickOutcome) : Except AppError Unit × SnapshotCommandRunner :=
  match popMax PendingItem.cmp self.queue.queue with
  | none => (.ok (), self)
  | some (nextItem, rest) =>
    let self := { self with queue.queue := rest, totalAttempts := self.totalAttempts + 1 }
    let key := snapshotKey nextItem.objectId
    match self.cache.tryGet key outcome.cacheRead with
    | .error _ => (.ok (), self.pushBack nextItem)
    | .ok none => (.ok (), self)
    | .ok (some encodedCollabV1) =>
      match checkEncodedCollabData lib encodedCollabV1 with
      | .error _ => (.ok (), self)
      | .ok () =>
        if outcome.begins then
          match createSnapshotAndMaintainLimit lib self.table nextItem.workspaceId nextItem.objectId encodedCollabV1
              collabSnapshotLimit outcome with
          | (table, .ok _) =>
            (.ok (), { self with
              table
              cache := self.cache.remove key outcome.cacheRemove
              successAttempts := self.successAttempts + 1 })
          | (table, .error error) => (.error error, { self with table }.pushBack nextItem)
        else (.ok (), self.pushBack nextItem)

def metric : SnapshotMetric := ⟨self.successAttempts.toInt64, self.totalAttempts.toInt64⟩

def handleCommand : SnapshotCommand → SnapshotCommandRunner × Option SnapshotMetric
  | .insertSnapshot params cacheInsert =>
    ({ self with toSnapshotControl := self.toSnapshotControl.insertSnapshot params cacheInsert }, none)
  | .tick outcome =>
    let next := (self.processNextBatch lib outcome).2
    (next, some next.metric)

end Operations

end SnapshotCommandRunner

/-! ## What a write does to the table -/

/-- The row is new, and nothing else is new and nothing of another object is gone. -/
structure Created (table next : AfCollabSnapshot) (row : AFSnapshotRow) : Prop where
  fresh : row ∉ table.rows
  stored : (∀ other ∈ table.rows, other.createdAt < row.createdAt) → row ∈ next.rows
  only : ∀ other ∈ next.rows, other = row ∨ other ∈ table.rows
  others : ∀ other ∈ table.rows, other.oid ≠ row.oid → other ∈ next.rows

section Table

variable {table : AfCollabSnapshot} {row : AFSnapshotRow}

/-- The last row of an object is among its newest. -/
theorem mem_newest {limit : Nat} (member : row ∈ table.rows)
    (last : ∀ other ∈ table.rows, other ≠ row → other.createdAt < row.createdAt) :
    row.sid ∈ table.newest row.oid (limit + 1) := by
  have own : row ∈ table.rows.filter fun other => other.oid = row.oid := by simp [member]
  have ordered := newestOrder_mergeSort AFSnapshotRow.createdAt (table.rows.filter fun other => other.oid = row.oid)
  have alone : ((table.rows.filter fun other => other.oid = row.oid).filter fun other =>
      other.createdAt = row.createdAt) ⊆ [row] := by
    intro other tied
    obtain ⟨listed, same⟩ := List.mem_filter.mp tied
    by_contra differs
    have earlier := last other (List.mem_filter.mp listed).1 (mt List.mem_singleton.mpr differs)
    simp only [decide_eq_true_eq] at same
    omega
  have few := (((table.distinct.of_map _).filter _).filter _).subperm alone |>.length_le
  apply List.mem_map_of_mem
  apply ordered.mem_take own
  · intro other among
    by_cases same : other = row
    · rw [same]
    · exact Int.le_of_lt (last other (List.mem_filter.mp among).1 same)
  · exact Nat.le_trans few (Nat.le_add_left 1 limit)

theorem created_insert {limit : Nat} (fresh : row.sid ∉ table.rows.map AFSnapshotRow.sid) :
    Created table ((table.insert row fresh).deleteBeyond row.oid (limit + 1)) row where
  fresh member := fresh (List.mem_map_of_mem member)
  stored := by
    intro later
    have newest : row.sid ∈ (table.insert row fresh).newest row.oid (limit + 1) := by
      apply mem_newest List.mem_cons_self
      intro other member differs
      exact later other ((List.mem_cons.mp member).resolve_left differs)
    apply List.mem_filter.mpr
    exact ⟨List.mem_cons_self, decide_eq_true fun beyond => beyond.2 newest⟩
  only := by
    intro other member
    exact List.mem_cons.mp (List.mem_filter.mp member).1
  others := by
    intro other member foreign
    simp [AfCollabSnapshot.deleteBeyond, AfCollabSnapshot.insert, member, foreign]

variable {lib : StorageLib yrs} {workspaceId oid : String} {data : Bytes} {limit : Nat} {outcome : TickOutcome}

/-- The call either leaves the table alone and fails, or creates a row. -/
theorem createSnapshot_cases :
    (∃ error, createSnapshotAndMaintainLimit lib table workspaceId oid data (limit + 1) outcome =
        (table, .error error)) ∨
      ∃ row next result, createSnapshotAndMaintainLimit lib table workspaceId oid data (limit + 1) outcome =
          (next, result) ∧
        Created table next row ∧ row.oid = oid ∧ row.blob = data ∧ row.createdAt = outcome.createdAt := by
  rw [createSnapshotAndMaintainLimit]
  cases lib.uuidFromStr workspaceId with
  | error error => exact .inl ⟨_, rfl⟩
  | ok workspaceId =>
    cases outcome.insertOutage with
    | some outage => exact .inl ⟨_, rfl⟩
    | none =>
      by_cases fresh : outcome.sid ∉ table.rows.map AFSnapshotRow.sid
      · simp only [dif_pos fresh]
        cases outcome.deleteOutage with
        | some outage => exact .inl ⟨_, rfl⟩
        | none =>
          cases outcome.commit with
          | committed => exact .inr ⟨_, _, _, rfl, created_insert fresh, rfl, rfl, rfl⟩
          | rolledBack outage => exact .inl ⟨_, rfl⟩
          | unconfirmed outage => exact .inr ⟨_, _, _, rfl, created_insert fresh, rfl, rfl, rfl⟩
      · simp only [dif_neg fresh]
        exact .inl ⟨_, rfl⟩

end Table

/-! ## What a turn does -/

section Turn

variable (lib : StorageLib yrs) (createdAt : Int) (self : SnapshotCommandRunner)

/-- What may become of the queue, the cache and the table in one turn. -/
inductive Turn (next : SnapshotCommandRunner) : Prop where
  /-- Every item is still queued. -/
  | kept (queue : ∀ item, item ∈ next.queue.queue ↔ item ∈ self.queue.queue) (cache : next.cache = self.cache)
      (table : next.table = self.table)
  /-- The cache has no valid bytes for the item. -/
  | dropped (item : PendingItem) (queue : ∀ other ∈ self.queue.queue, other = item ∨ other ∈ next.queue.queue)
      (invalid : ∀ data, self.cache (snapshotKey item.objectId) = some data →
        checkEncodedCollabData lib data ≠ .ok ())
      (cache : next.cache = self.cache) (table : next.table = self.table)
  | written (item : PendingItem) (row : AFSnapshotRow)
      (queue : ∀ other ∈ self.queue.queue, other = item ∨ other ∈ next.queue.queue)
      (cached : self.cache (snapshotKey row.oid) = some row.blob) (object : item.objectId = row.oid)
      (cache : next.cache = self.cache ∨ next.cache = Function.update self.cache (snapshotKey row.oid) none)
      (created : Created self.table next.table row) (time : row.createdAt = createdAt)

variable {lib self} {outcome : TickOutcome}

theorem turn_processNextBatch : Turn lib outcome.createdAt self (self.processNextBatch lib outcome).2 := by
  rw [SnapshotCommandRunner.processNextBatch]
  cases popped : popMax PendingItem.cmp self.queue.queue with
  | none => exact .kept (fun _ => Iff.rfl) rfl rfl
  | some found =>
    obtain ⟨nextItem, rest⟩ := found
    have all := popMax_perm popped
    have pushedBack : ∀ item, item ∈ nextItem :: rest ↔ item ∈ self.queue.queue := fun item => all.mem_iff
    have remaining : ∀ item ∈ self.queue.queue, item = nextItem ∨ item ∈ rest :=
      fun item member => List.mem_cons.mp (all.mem_iff.mpr member)
    simp only [SnapshotCache.tryGet]
    cases outcome.cacheRead with
    | some failure => exact .kept pushedBack rfl rfl
    | none =>
      cases cached : self.cache (snapshotKey nextItem.objectId) with
      | none => exact .dropped nextItem remaining (by simp [cached]) rfl rfl
      | some data =>
        cases checked : checkEncodedCollabData lib data with
        | error failure =>
          simp only [checked]
          exact .dropped nextItem remaining (by simp [cached, checked]) rfl rfl
        | ok _ =>
          simp only [checked]
          cases outcome.begins with
          | false => exact .kept pushedBack rfl rfl
          | true =>
            rcases @createSnapshot_cases _ _ _ _ yrs self.table lib nextItem.workspaceId nextItem.objectId data 29
                outcome with
              ⟨error, failed⟩ | ⟨row, next, result, wrote, created, own, blob, time⟩
            · simp only [collabSnapshotLimit, failed]
              exact .kept pushedBack rfl rfl
            · subst blob
              simp only [collabSnapshotLimit, wrote]
              cases result with
              | error error =>
                exact .written nextItem row (fun item member => .inr ((pushedBack item).mpr member))
                  (own ▸ cached) own.symm (.inl rfl) created time
              | ok written =>
                refine .written nextItem row remaining (own ▸ cached) own.symm ?_ created time
                rw [SnapshotCache.remove]
                cases outcome.cacheRemove with
                | some failure => exact .inl rfl
                | none => exact .inr (by rw [own]; rfl)

end Turn

/-! ## Runs -/

/-- The runner, what was queued and what it has written, the last one first. -/
structure RunnerHistory where
  runner : SnapshotCommandRunner
  queued : List InsertSnapshotParams
  written : List AFSnapshotRow

namespace RunnerHistory

def start (table : AfCollabSnapshot) (cache : SnapshotCache) : RunnerHistory := ⟨.new table cache, [], []⟩

def step (lib : StorageLib yrs) (self : RunnerHistory) (command : SnapshotCommand) : RunnerHistory :=
  let next := (self.runner.handleCommand lib command).1
  { runner := next
    queued := match command with
      | .insertSnapshot params _ => params :: self.queued
      | .tick _ => self.queued
    written := next.table.rows.filter (· ∉ self.runner.table.rows) ++ self.written }

def latest (self : RunnerHistory) (objectId : String) : Option InsertSnapshotParams :=
  self.queued.find? fun params => params.objectId = objectId

/-- The newest row that the runner has written for the object. -/
structure NewestWritten (history : RunnerHistory) (row : AFSnapshotRow) : Prop where
  written : row ∈ history.written
  stored : row ∈ history.runner.table.rows
  newest : ∀ other ∈ history.written, other.oid = row.oid → other.createdAt ≤ row.createdAt

/-- The bytes wait in the cache, and an item of the object waits in the queue. -/
def Waits (self : RunnerHistory) (objectId : String) (data : Bytes) : Prop :=
  self.runner.cache (snapshotKey objectId) = some data ∧
    ∃ item ∈ self.runner.queue.queue, item.objectId = objectId

def Kept (self : RunnerHistory) (objectId : String) (data : Bytes) : Prop :=
  (∃ row, self.NewestWritten row ∧ row.oid = objectId ∧ row.blob = data) ∨ self.Waits objectId data

/-- The bytes of a queued snapshot are valid and get into the cache, and the rows are created one
    after the other. -/
def Admitted (lib : StorageLib yrs) (self : RunnerHistory) : SnapshotCommand → Prop
  | .insertSnapshot params cacheInsert =>
    checkEncodedCollabData lib params.encodedCollabV1 = .ok () ∧ cacheInsert = none
  | .tick outcome =>
    (∀ row ∈ self.runner.table.rows, row.createdAt < outcome.createdAt) ∧
      ∀ row ∈ self.written, row.createdAt < outcome.createdAt

/-- The cache has no other bytes for the object than those that were queued last. -/
structure Safe (lib : StorageLib yrs) (history : RunnerHistory) (objectId : String) (data : Bytes) : Prop where
  valid : checkEncodedCollabData lib data = .ok ()
  cached : ∀ other, history.runner.cache (snapshotKey objectId) = some other → other = data
  kept : history.Kept objectId data

end RunnerHistory

theorem snapshotKey_injective : Function.Injective snapshotKey := by
  intro first second same
  have chars := congrArg String.toList same
  simp only [snapshotKey, String.toList_append, List.append_assoc] at chars
  exact String.toList_inj.mp (List.append_cancel_left (List.append_cancel_left chars))

section Safe

variable {lib : StorageLib yrs} {history : RunnerHistory} {objectId : String} {data : Bytes}

theorem RunnerHistory.Waits.mono {next : RunnerHistory} (waits : history.Waits objectId data)
    (cache : next.runner.cache (snapshotKey objectId) = history.runner.cache (snapshotKey objectId))
    (queue : ∀ item ∈ history.runner.queue.queue, item.objectId = objectId → item ∈ next.runner.queue.queue) :
    next.Waits objectId data := by
  obtain ⟨cached, item, queued, own⟩ := waits
  exact ⟨cache.trans cached, item, queue item queued own, own⟩

/-- A step that writes no row of the object. -/
theorem RunnerHistory.Kept.mono {next : RunnerHistory} (kept : history.Kept objectId data)
    (stored : ∀ row ∈ history.runner.table.rows, row.oid = objectId → row ∈ next.runner.table.rows)
    (written : ∀ row, row.oid = objectId → (row ∈ next.written ↔ row ∈ history.written))
    (waits : history.Waits objectId data → next.Waits objectId data) : next.Kept objectId data := by
  cases kept with
  | inl held =>
    obtain ⟨row, newest, rfl, rfl⟩ := held
    refine .inl ⟨row, ⟨(written row rfl).mpr newest.written, stored row newest.stored rfl, ?_⟩, rfl, rfl⟩
    intro other member own
    exact newest.newest other ((written other own).mp member) own
  | inr waiting => exact .inr (waits waiting)

theorem mem_written_step {command : SnapshotCommand} {row : AFSnapshotRow} :
    row ∈ (history.step lib command).written ↔
      row ∈ (history.step lib command).runner.table.rows ∧ row ∉ history.runner.table.rows ∨ row ∈ history.written := by
  simp [RunnerHistory.step]

/-- A turn that leaves the table alone writes nothing. -/
theorem mem_written_of_table {command : SnapshotCommand} {row : AFSnapshotRow}
    (same : (history.step lib command).runner.table = history.runner.table) :
    row ∈ (history.step lib command).written ↔ row ∈ history.written := by
  rw [mem_written_step, same]
  constructor
  · rintro (⟨member, fresh⟩ | before)
    · exact absurd member fresh
    · exact before
  · exact .inr

theorem mem_written_of_created {command : SnapshotCommand} {row other : AFSnapshotRow}
    (created : Created history.runner.table (history.step lib command).runner.table row)
    (member : other ∈ (history.step lib command).written) : other = row ∨ other ∈ history.written := by
  rw [mem_written_step] at member
  cases member with
  | inl held =>
    obtain ⟨stored, fresh⟩ := held
    exact .inl ((created.only other stored).resolve_right fresh)
  | inr before => exact .inr before

variable {outcome : TickOutcome}

/-- A turn that leaves the table and the cache alone and keeps the items that are waited for. -/
theorem RunnerHistory.Safe.unwritten (safe : history.Safe lib objectId data)
    (cache : (history.step lib (.tick outcome)).runner.cache = history.runner.cache)
    (table : (history.step lib (.tick outcome)).runner.table = history.runner.table)
    (queue : history.Waits objectId data → ∀ item ∈ history.runner.queue.queue, item.objectId = objectId →
      item ∈ (history.step lib (.tick outcome)).runner.queue.queue) :
    (history.step lib (.tick outcome)).Safe lib objectId data := by
  refine ⟨safe.valid, by rw [cache]; exact safe.cached, ?_⟩
  apply safe.kept.mono
  · rw [table]
    exact fun _ member _ => member
  · exact fun _ _ => mem_written_of_table table
  · exact fun waits => waits.mono (by rw [cache]) (queue waits)

/-- The row that a turn writes for the object is its newest. -/
theorem RunnerHistory.Safe.written_own {row : AFSnapshotRow} (safe : history.Safe lib row.oid data)
    (admitted : history.Admitted lib (.tick outcome)) (cached : history.runner.cache (snapshotKey row.oid) = some row.blob)
    (cache : (history.step lib (.tick outcome)).runner.cache = history.runner.cache ∨
      (history.step lib (.tick outcome)).runner.cache = Function.update history.runner.cache (snapshotKey row.oid) none)
    (created : Created history.runner.table (history.step lib (.tick outcome)).runner.table row)
    (time : row.createdAt = outcome.createdAt) : (history.step lib (.tick outcome)).Safe lib row.oid data := by
  have newest : row.blob = data := safe.cached row.blob cached
  have stored : row ∈ (history.step lib (.tick outcome)).runner.table.rows := by
    apply created.stored
    rw [time]
    exact admitted.1
  refine ⟨safe.valid, ?_,
    .inl ⟨row, ⟨mem_written_step.mpr (.inl ⟨stored, created.fresh⟩), stored, ?_⟩, rfl, newest⟩⟩
  · intro other held
    cases cache with
    | inl same =>
      rw [same] at held
      exact safe.cached other held
    | inr removed =>
      rw [removed, Function.update_self] at held
      cases held
  · intro other member _
    cases mem_written_of_created created member with
    | inl equal =>
      obtain rfl := equal
      exact Int.le_refl _
    | inr before =>
      have earlier := admitted.2 other before
      omega

theorem RunnerHistory.Safe.written_other {row : AFSnapshotRow} (safe : history.Safe lib objectId data)
    (own : row.oid ≠ objectId)
    (cache : (history.step lib (.tick outcome)).runner.cache = history.runner.cache ∨
      (history.step lib (.tick outcome)).runner.cache = Function.update history.runner.cache (snapshotKey row.oid) none)
    (created : Created history.runner.table (history.step lib (.tick outcome)).runner.table row)
    (queue : ∀ item ∈ history.runner.queue.queue, item.objectId = objectId →
      item ∈ (history.step lib (.tick outcome)).runner.queue.queue) :
    (history.step lib (.tick outcome)).Safe lib objectId data := by
  have elsewhere : snapshotKey objectId ≠ snapshotKey row.oid := fun same => own (snapshotKey_injective same).symm
  have same : (history.step lib (.tick outcome)).runner.cache (snapshotKey objectId) =
      history.runner.cache (snapshotKey objectId) := by
    cases cache with
    | inl same => rw [same]
    | inr removed => rw [removed, Function.update_of_ne elsewhere]
  refine ⟨safe.valid, by rw [same]; exact safe.cached, ?_⟩
  apply safe.kept.mono
  · intro other member otherOwn
    apply created.others other member
    rw [otherOwn]
    exact Ne.symm own
  · intro other otherOwn
    constructor
    · intro member
      apply (mem_written_of_created created member).resolve_left
      rintro rfl
      exact own otherOwn
    · exact fun before => mem_written_step.mpr (.inr before)
  · exact fun waits => waits.mono same queue

theorem RunnerHistory.Safe.tick (safe : history.Safe lib objectId data)
    (admitted : history.Admitted lib (.tick outcome)) : (history.step lib (.tick outcome)).Safe lib objectId data := by
  have turn : Turn lib outcome.createdAt history.runner (history.step lib (.tick outcome)).runner :=
    turn_processNextBatch
  cases turn with
  | kept queue cache table => exact safe.unwritten cache table fun _ item member _ => (queue item).mpr member
  | dropped item queue invalid cache table =>
    apply safe.unwritten cache table
    intro waits other member own
    apply (queue other member).resolve_left
    -- an item whose bytes are in the cache is not dropped
    rintro rfl
    subst own
    exact invalid data waits.1 safe.valid
  | written item row queue cached object cache created time =>
    by_cases own : row.oid = objectId
    · subst own
      exact safe.written_own admitted cached cache created time
    · apply safe.written_other own cache created
      intro other member otherOwn
      apply (queue other member).resolve_left
      rintro rfl
      exact own (object.symm.trans otherOwn)

variable {params : InsertSnapshotParams}

theorem RunnerHistory.Safe.insert_other (safe : history.Safe lib objectId data) (apart : params.objectId ≠ objectId) :
    (history.step lib (.insertSnapshot params none)).Safe lib objectId data := by
  have elsewhere : snapshotKey objectId ≠ snapshotKey params.objectId :=
    fun same => apart (snapshotKey_injective same).symm
  have same : (history.step lib (.insertSnapshot params none)).runner.cache (snapshotKey objectId) =
      history.runner.cache (snapshotKey objectId) := Function.update_of_ne elsewhere _ _
  refine ⟨safe.valid, by rw [same]; exact safe.cached, ?_⟩
  apply safe.kept.mono
  · exact fun _ member _ => member
  · exact fun _ _ => mem_written_of_table rfl
  · intro waits
    exact waits.mono same fun item member _ => List.mem_cons_of_mem _ member

theorem RunnerHistory.safe_insert (checked : checkEncodedCollabData lib params.encodedCollabV1 = .ok ()) :
    (history.step lib (.insertSnapshot params none)).Safe lib params.objectId params.encodedCollabV1 := by
  have cached : (history.step lib (.insertSnapshot params none)).runner.cache (snapshotKey params.objectId) =
      some params.encodedCollabV1 := Function.update_self _ _ _
  refine ⟨checked, ?_, .inr ⟨cached, _, List.mem_cons_self, rfl⟩⟩
  intro other held
  rw [cached] at held
  exact (Option.some.inj held).symm

/-- Every object is safe for which a snapshot was queued. -/
def AllSafe (lib : StorageLib yrs) (history : RunnerHistory) : Prop :=
  ∀ objectId params, history.latest objectId = some params → history.Safe lib objectId params.encodedCollabV1

theorem AllSafe.step {command : SnapshotCommand} (safe : AllSafe lib history)
    (admitted : history.Admitted lib command) : AllSafe lib (history.step lib command) := by
  intro objectId params latest
  cases command with
  | tick outcome => exact (safe objectId params latest).tick admitted
  | insertSnapshot queued cacheInsert =>
    obtain ⟨checked, rfl⟩ := admitted
    by_cases own : queued.objectId = objectId
    · subst own
      have same : queued = params := by
        simpa [RunnerHistory.latest, RunnerHistory.step] using latest
      subst same
      exact RunnerHistory.safe_insert checked
    · have before : history.latest objectId = some params := by
        simpa [RunnerHistory.latest, RunnerHistory.step, own] using latest
      exact (safe objectId params before).insert_other own

end Safe

/-- The bytes that were queued last for an object are in its newest row, or wait in the cache with
    an item in the queue. -/
theorem newest_not_lost (lib : StorageLib yrs) (table : AfCollabSnapshot) (cache : SnapshotCache)
    {commands : List SnapshotCommand}
    (admitted : Always (RunnerHistory.step lib) (RunnerHistory.Admitted lib) (.start table cache) commands)
    (objectId : String) (params : InsertSnapshotParams)
    (latest : (run (RunnerHistory.step lib) (.start table cache) commands).latest objectId = some params) :
    (run (RunnerHistory.step lib) (.start table cache) commands).Kept objectId params.encodedCollabV1 := by
  have initial : AllSafe lib (.start table cache) := by
    intro objectId params queued
    cases queued
  have safe : AllSafe lib (run (RunnerHistory.step lib) (.start table cache) commands) :=
    admitted.invariant (fun _ _ => AllSafe.step) initial
  exact (safe objectId params latest).kept

/-- The second of two snapshots of a document is written by a turn that pops the item of the first. -/
theorem newest_not_lost_twice :
    let first : InsertSnapshotParams :=
      ⟨"doc", typedCollabs.encode ⟨[0], [0, 0]⟩, "5b7cbb2f-4a5c-4f3c-9a0e-1d2c3b4a5f60"⟩
    let second := { first with encodedCollabV1 := storedDocument.blob }
    let commands := [SnapshotCommand.insertSnapshot first none, .insertSnapshot second none,
      .tick ⟨none, true, 1, 1, none, none, .committed, none⟩]
    (run (RunnerHistory.step typedLib) (.start ⟨[], .nil⟩ fun _ => none) commands).Kept "doc"
      second.encodedCollabV1 :=
  newest_not_lost typedLib ⟨[], .nil⟩ (fun _ => none) (by
    refine ⟨⟨?_, rfl⟩, ⟨?_, rfl⟩, ⟨?_, ?_⟩, trivial⟩
    · decide +kernel
    · decide +kernel
    · exact List.forall_mem_nil _
    · exact List.forall_mem_nil _) "doc" _ (by decide +kernel)

end FlowCloud.Snapshot
