import FlowCloud.Foundation.Runs
import FlowCloud.Foundation.Transactions
import FlowCloud.Storage.BatchRead

/-! # Inserts, reads and deletes side by side

The operations on the table and the memory cache, taken apart at their await points.  Each
statement and each cache command is one step, and the steps of different operations come in
any order.  The last section puts the steps of one insert and of one read together again.
-/

namespace FlowCloud.Storage

open FlowCloud.Foundation FlowCloud.Entity FlowCloud.Protocol

abbrev Database := TransactionalStore String AfCollabRow

structure Insert where
  workspaceId : String
  uid : Int
  params : CollabParams
  deriving DecidableEq, Repr

/-- The statement or command of an insert that comes next. -/
inductive InsertStage where
  | selecting
  | storing (workspaceId : Uuid) (found : Bool)
  | caching
  deriving DecidableEq, Repr

inductive TransactionState where
  | idle
  | inserting (insert : Insert) (stage : InsertStage)
  /-- A statement failed: the caller drops the transaction. -/
  | failed (error : AppError)

inductive ReadStage where
  | selecting (attempts : Nat)
  | filling (encoded : EncodedCollab)

/-- An operation in progress. -/
inductive Task where
  | transaction (state : TransactionState)
  | read (query : QueryCollabParams) (stage : ReadStage)
  | batch (queries diskQueries : List QueryCollab) (results : QueryResults)
  /-- The cache has been cleared, and the row is to be marked. -/
  | delete (objectId : String)

inductive Answer where
  | done (result : Except AppError Unit)
  | encoded (result : Except AppError EncodedCollab)
  | results (results : QueryResults)

structure SharedStorage where
  database : Database
  memCache : CollabMemCache
  tasks : Nat → Option Task
  answers : Nat → Option Answer

section Steps

variable {Op StateVector AwarenessUpdate : Type} [DecidableEq Op] {yrs : Yrs Op StateVector AwarenessUpdate}
  (lib : StorageLib yrs)

/-! ## The parts of an insert -/

/-- `insert_or_update_collab_with_transaction` up to `insert_into_af_collab`. -/
def checkInsert (table : AfCollab) (insert : Insert) (outcomes : WriteOutcomes) : Except AppError Unit := do
  insert.params.validate
  let isCollabExistInDb ← isCollabExists table insert.params.objectId outcomes.existsOutage
  if !isCollabExistInDb then
    outcomes.updatePolicy
  checkCollabPermission insert.workspaceId insert.uid insert.params isCollabExistInDb outcomes
  (checkEncodedCollabData lib insert.params.encodedCollabV1).mapError fun err =>
    .invalidRequest ("Can not decode the data into collab:" ++ insert.params.objectId ++ ", " ++ err)

/-- `insert_into_af_collab` up to the statement that writes the row. -/
def selectExisting (table : AfCollab) (insert : Insert) (outages : InsertOutages) : Except AppError (Uuid × Bool) := do
  let workspaceId ← (lib.uuidFromStr insert.workspaceId).mapError .uuidError
  query outages.selectWorkspace .ofSqlx
  match table insert.params.objectId with
  | some existing =>
    if existing.workspaceId = workspaceId then
      return (workspaceId, true)
    else
      throw (.internal "Inserting a row with an existing object_id but different workspace_id")
  | none => return (workspaceId, false)

/-- The row after the `UPDATE` of one that was found, or the `INSERT` of one that was not. -/
def storeRow (current : Option AfCollabRow) (workspaceId : Uuid) (found : Bool) (insert : Insert)
    (outages : InsertOutages) : Except AppError (Option AfCollabRow) :=
  let ⟨_, uid, params⟩ := insert
  let partitionKey := lib.value params.collabType
  if found then do
    query outages.update fun _ =>
      .internal ("user:" ++ toString uid ++ " update af_collab:" ++ params.objectId ++ " failed")
    return current.map fun row => { row with blob := params.encodedCollabV1, partitionKey, ownerUid := uid }
  else do
    let permissionId ← outages.selectPermission.mapError fun outage => .ofSqlx outage.toSqlx
    query outages.insertMember fun _ =>
      .internal ("Insert af_collab_member failed: " ++ toString uid ++ ":" ++ params.objectId ++ ":" ++
        toString permissionId)
    -- a row that has come up since it was looked for is a duplicate key
    let duplicate := if current.isSome then some (Outage.other "duplicate key") else outages.insert
    query duplicate fun _ =>
      .internal ("Insert new af_collab failed: " ++ toString uid ++ ":" ++ params.objectId ++ ":" ++
        lib.typeName params.collabType)
    return some ⟨params.encodedCollabV1, partitionKey, uid, workspaceId, false⟩

theorem selectExisting_found {lib : StorageLib yrs} {table : AfCollab} {insert : Insert} {outages : InsertOutages}
    {workspaceId : Uuid} (selected : selectExisting lib table insert outages = .ok (workspaceId, true)) :
    (table insert.params.objectId).isSome := by
  rw [selectExisting] at selected
  obtain ⟨_, _, selected⟩ := bind_eq_ok.mp selected
  obtain ⟨_, _, selected⟩ := bind_eq_ok.mp selected
  cases found : table insert.params.objectId with
  | some existing => rfl
  | none =>
    rw [found] at selected
    cases selected

/-- A statement that finds its row, or inserts one, leaves the encoded collab in it. -/
theorem storeRow_stores {lib : StorageLib yrs} {current row : Option AfCollabRow} {workspaceId : Uuid} {found : Bool}
    {insert : Insert} {outages : InsertOutages} (seen : found = true → current.isSome)
    (stored : storeRow lib current workspaceId found insert outages = .ok row) :
    ∃ written, row = some written ∧ written.blob = insert.params.encodedCollabV1 := by
  cases found with
  | true =>
    simp only [storeRow, if_true] at stored
    obtain ⟨_, _, stored⟩ := bind_eq_ok.mp stored
    obtain ⟨existing, rfl⟩ := Option.isSome_iff_exists.mp (seen rfl)
    cases stored
    exact ⟨_, rfl, rfl⟩
  | false =>
    simp only [storeRow] at stored
    obtain ⟨_, _, stored⟩ := bind_eq_ok.mp stored
    obtain ⟨_, _, stored⟩ := bind_eq_ok.mp stored
    obtain ⟨_, _, stored⟩ := bind_eq_ok.mp stored
    cases stored
    exact ⟨_, rfl, rfl⟩

/-! ## The steps -/

namespace SharedStorage

variable (self : SharedStorage)

def setTask (task : Nat) (next : Task) : SharedStorage :=
  { self with tasks := Function.update self.tasks task (some next) }

/-- The operation ends with nobody waiting for its answer. -/
def drop (task : Nat) : SharedStorage := { self with tasks := Function.update self.tasks task none }

def finish (task : Nat) (answer : Answer) : SharedStorage :=
  { self.drop task with answers := Function.update self.answers task (some answer) }

def setTransaction (task : Nat) (next : TransactionState) : SharedStorage := self.setTask task (.transaction next)

@[simp] theorem database_setTask (task : Nat) (next : Task) : (self.setTask task next).database = self.database := rfl

@[simp] theorem memCache_setTask (task : Nat) (next : Task) : (self.setTask task next).memCache = self.memCache := rfl

@[simp] theorem tasks_setTask (task : Nat) (next : Task) : (self.setTask task next).tasks task = some next := by
  simp [setTask]

def beginTransaction (task : Nat) (outage : Option Outage) : SharedStorage :=
  match self.tasks task with
  | none =>
    match query outage fun _ => .internal "acquire transaction to upsert collab" with
    | .error error => self.finish task (.done (.error error))
    | .ok () => self.setTransaction task .idle
  | some _ => self

def check (task : Nat) (insert : Insert) (outcomes : WriteOutcomes) : SharedStorage :=
  -- whatever the awaits in here let in between, only what is answered counts
  match self.tasks task with
  | some (.transaction .idle) =>
    match checkInsert lib (self.database.view task) insert outcomes with
    | .error error => self.setTransaction task (.failed error)
    | .ok () => self.setTransaction task (.inserting insert .selecting)
  | _ => self

def select (task : Nat) (outages : InsertOutages) : SharedStorage :=
  match self.tasks task with
  | some (.transaction (.inserting insert .selecting)) =>
    match selectExisting lib (self.database.view task) insert outages with
    | .error error => self.setTransaction task (.failed error)
    | .ok (workspaceId, found) => self.setTransaction task (.inserting insert (.storing workspaceId found))
  | _ => self

/-- The statement waits while another transaction has written the row. -/
def store (task : Nat) (outages : InsertOutages) : SharedStorage :=
  match self.tasks task with
  | some (.transaction (.inserting insert (.storing workspaceId found))) =>
    let objectId := insert.params.objectId
    match storeRow lib (self.database.view task objectId) workspaceId found insert outages with
    | .error error => self.setTransaction task (.failed error)
    | .ok row =>
      if self.database.free task objectId then
        let database := match row with
          | some row => self.database.write task objectId row
          | none => self.database
        { self with database }.setTransaction task (.inserting insert .caching)
      else self
  | _ => self

/-- A cache write that fails is not reported. -/
def cache (task : Nat) (writable : Bool) : SharedStorage :=
  match self.tasks task with
  | some (.transaction (.inserting insert .caching)) =>
    let memCache := if writable then
        Function.update self.memCache insert.params.objectId (some insert.params.encodedCollabV1)
      else self.memCache
    { self with memCache }.setTransaction task .idle
  | _ => self

def commit (task : Nat) (outage : Option Outage) : SharedStorage :=
  match self.tasks task with
  | some (.transaction .idle) =>
    match query outage fun _ => .internal "fail to commit the transaction to upsert collab" with
    | .error error => self.setTransaction task (.failed error)
    | .ok () => { self with database := self.database.commit task }.finish task (.done (.ok ()))
  | _ => self

/-- The operation is given up, and a transaction rolled back: after a failure, or at any
    await point because its caller has gone. -/
def abandon (task : Nat) : SharedStorage :=
  match self.tasks task with
  | some (.transaction (.failed error)) =>
    { self with database := self.database.rollback task }.finish task (.done (.error error))
  | some (.transaction _) => { self with database := self.database.rollback task }.drop task
  | _ => self.drop task

/-- The cache is asked for a query that has passed the access check. -/
def lookup (task : Nat) (query : QueryCollabParams) (reachable : Bool) : SharedStorage :=
  match self.tasks task with
  | none =>
    match getEncodeCollab lib self.memCache reachable query.inner.objectId with
    | some encoded => self.finish task (.encoded (.ok encoded))
    | none => self.setTask task (.read query (.selecting 0))
  | some _ => self

def maxAttempts : Nat := 3

def fetch (task : Nat) (outage : Option Outage) : SharedStorage :=
  match self.tasks task with
  | some (.read query (.selecting attempts)) =>
    match selectBlobFromAfCollab lib self.database.committed query.inner.collabType query.inner.objectId outage with
    | .ok data =>
      match lib.decodeFromBytes data with
      | .error err => self.finish task (.encoded (.error (.internal ("fail to decode data to EncodedCollab: " ++ err))))
      | .ok encoded => self.setTask task (.read query (.filling encoded))
    | .error .rowNotFound =>
      self.finish task (.encoded (.error (.recordNotFound ("Can't find the row for query: " ++ lib.debugQuery query))))
    | .error .poolTimedOut =>
      if attempts < maxAttempts - 1 then self.setTask task (.read query (.selecting (attempts + 1)))
      else self.finish task (.encoded (.error (.ofSqlx .poolTimedOut)))
    | .error (.other message) => self.finish task (.encoded (.error (.ofSqlx (.other message))))
  | _ => self

def fill (task : Nat) (writable : Bool) : SharedStorage :=
  match self.tasks task with
  | some (.read query (.filling encoded)) =>
    let memCache := match lib.encodeToBytes encoded, writable with
      | .ok bytes, true => Function.update self.memCache query.inner.objectId (some bytes)
      | _, _ => self.memCache
    { self with memCache }.finish task (.encoded (.ok encoded))
  | _ => self

def batch (task : Nat) (queries : List QueryCollab) : SharedStorage :=
  match self.tasks task with
  | none => self.setTask task (.batch queries [] fun _ => none)
  | some _ => self

def batchLookup (task : Nat) (reachable : Bool) : SharedStorage :=
  match self.tasks task with
  | some (.batch (query :: queries) diskQueries results) =>
    match if reachable then self.memCache query.objectId else none with
    | some data => self.setTask task (.batch queries diskQueries (results.extend [(query.objectId, .success data)]))
    | none => self.setTask task (.batch queries (diskQueries ++ [query]) results)
  | _ => self

/-- The rows of one type are fetched, and the batch is answered when no type is left.  What
    is fetched does not go into the cache. -/
def batchSelect (task : Nat) (collabType : CollabType) (outage : Option Outage) : SharedStorage :=
  match self.tasks task with
  | some (.batch [] diskQueries results) =>
    let results := results.extend (selectCollabBlobs lib self.database.committed diskQueries outage collabType)
    match diskQueries.filter fun query => query.collabType ≠ collabType with
    | [] => self.finish task (.results results)
    | diskQueries => self.setTask task (.batch [] diskQueries results)
  | _ => self

/-- `remove_encode_collab` at the start of a delete that has passed the access check. -/
def remove (task : Nat) (objectId : String) (failure : Option String) : SharedStorage :=
  match self.tasks task with
  | none =>
    match failure with
    | some err => self.finish task (.done (.error (.internal ("Failed to remove encoded collab from redis: " ++ err))))
    | none => { self with memCache := Function.update self.memCache objectId none }.setTask task (.delete objectId)
  | some _ => self

/-- The row is marked once no transaction holds it; one that is not committed is not seen. -/
def mark (task : Nat) (outage : Option Outage) : SharedStorage :=
  match self.tasks task with
  | some (.delete objectId) =>
    match query outage .ofSqlx with
    | .error error => self.finish task (.done (.error error))
    | .ok () =>
      if (self.database.committed objectId).isSome && (self.database.uncommitted objectId).isSome then self
      else
        let committed := deleteCollab self.database.committed objectId
        { self with database := { self.database with committed } }.finish task (.done (.ok ()))
  | _ => self

/-- The cache keeps a value for three days. -/
def expire (objectId : String) : SharedStorage :=
  { self with memCache := Function.update self.memCache objectId none }

inductive Event where
  | beginTransaction (task : Nat) (outage : Option Outage)
  | check (task : Nat) (insert : Insert) (outcomes : WriteOutcomes)
  | select (task : Nat) (outages : InsertOutages)
  | store (task : Nat) (outages : InsertOutages)
  | cache (task : Nat) (writable : Bool)
  | commit (task : Nat) (outage : Option Outage)
  | abandon (task : Nat)
  | lookup (task : Nat) (query : QueryCollabParams) (reachable : Bool)
  | fetch (task : Nat) (outage : Option Outage)
  | fill (task : Nat) (writable : Bool)
  | batch (task : Nat) (queries : List QueryCollab)
  | batchLookup (task : Nat) (reachable : Bool)
  | batchSelect (task : Nat) (collabType : CollabType) (outage : Option Outage)
  | remove (task : Nat) (objectId : String) (failure : Option String)
  | mark (task : Nat) (outage : Option Outage)
  | expire (objectId : String)

def step : Event → SharedStorage
  | .beginTransaction task outage => self.beginTransaction task outage
  | .check task insert outcomes => self.check lib task insert outcomes
  | .select task outages => self.select lib task outages
  | .store task outages => self.store lib task outages
  | .cache task writable => self.cache task writable
  | .commit task outage => self.commit task outage
  | .abandon task => self.abandon task
  | .lookup task query reachable => self.lookup lib task query reachable
  | .fetch task outage => self.fetch lib task outage
  | .fill task writable => self.fill lib task writable
  | .batch task queries => self.batch task queries
  | .batchLookup task reachable => self.batchLookup task reachable
  | .batchSelect task collabType outage => self.batchSelect lib task collabType outage
  | .remove task objectId failure => self.remove task objectId failure
  | .mark task outage => self.mark task outage
  | .expire objectId => self.expire objectId

def Quiescent : Prop := ∀ task, self.tasks task = none

end SharedStorage

/-! ## An insert by itself -/

theorem insertOrUpdateCollabWithTransaction_eq (table : AfCollab) (insert : Insert) (outcomes : WriteOutcomes) :
    insertOrUpdateCollabWithTransaction lib table insert.workspaceId insert.uid insert.params outcomes = (do
      checkInsert lib table insert outcomes
      insertIntoAfCollab lib table insert.uid insert.workspaceId insert.params outcomes.insertOutages) := by
  simp only [insertOrUpdateCollabWithTransaction, checkInsert, insertCollabEncoded, bind_assoc]
  congr
  funext _
  congr
  funext isCollabExistInDb
  cases isCollabExistInDb <;> simp

theorem insertIntoAfCollab_eq (table : AfCollab) (insert : Insert) (outages : InsertOutages) :
    insertIntoAfCollab lib table insert.uid insert.workspaceId insert.params outages = (do
      let (workspaceId, found) ← selectExisting lib table insert outages
      let row ← storeRow lib (table insert.params.objectId) workspaceId found insert outages
      return Function.update table insert.params.objectId row) := by
  simp only [insertIntoAfCollab, selectExisting, bind_assoc]
  congr
  funext workspaceId
  congr
  funext _
  cases found : table insert.params.objectId with
  | some existing =>
    simp only
    split
    · simp [storeRow]
    · rfl
  | none => simp [storeRow]

/-- The steps of `insert_or_update_collab`; whatever fails is given up at the end. -/
def insertEvents (task : Nat) (insert : Insert) (outcomes : WriteOutcomes) : List SharedStorage.Event :=
  [.beginTransaction task outcomes.beginOutage, .check task insert outcomes, .select task outcomes.insertOutages,
    .store task outcomes.insertOutages, .cache task outcomes.cacheWritable, .commit task outcomes.commitOutage,
    .abandon task]

namespace SharedStorage

variable {lib} {self : SharedStorage} {task : Nat}

@[simp] theorem setTask_setTask (first second : Task) :
    (self.setTask task first).setTask task second = self.setTask task second := by
  simp [setTask]

@[simp] theorem finish_setTask (next : Task) (answer : Answer) :
    (self.setTask task next).finish task answer = self.finish task answer := by
  simp [finish, drop, setTask]

@[simp] theorem tasks_finish (answer : Answer) : (self.finish task answer).tasks task = none := by
  simp [finish, drop]

theorem drop_of_none (free : self.tasks task = none) : self.drop task = self := by
  have same : Function.update self.tasks task none = self.tasks := by
    rw [Function.update_eq_self_iff]
    exact free.symm
  rw [drop, same]

/-- The table and the cache are those of the storage, and no transaction has written. -/
def holding (self : SharedStorage) (storage : CollabCache) : SharedStorage :=
  { self with database := .settled storage.table, memCache := storage.memCache }

theorem beginTransaction_free (free : self.tasks task = none) (outage : Option Outage) :
    self.beginTransaction task outage =
      match query outage fun _ => .internal "acquire transaction to upsert collab" with
      | .error error => self.finish task (.done (.error error))
      | .ok () => self.setTransaction task .idle := by
  rw [beginTransaction, free]

theorem check_idle (insert : Insert) (outcomes : WriteOutcomes) :
    (self.setTransaction task .idle).check lib task insert outcomes =
      match checkInsert lib (self.database.view task) insert outcomes with
      | .error error => self.setTransaction task (.failed error)
      | .ok () => self.setTransaction task (.inserting insert .selecting) := by
  simp only [check, setTransaction, tasks_setTask, database_setTask, setTask_setTask]

theorem select_selecting (insert : Insert) (outages : InsertOutages) :
    (self.setTransaction task (.inserting insert .selecting)).select lib task outages =
      match selectExisting lib (self.database.view task) insert outages with
      | .error error => self.setTransaction task (.failed error)
      | .ok (workspaceId, found) => self.setTransaction task (.inserting insert (.storing workspaceId found)) := by
  simp only [select, setTransaction, tasks_setTask, database_setTask, setTask_setTask]

theorem store_error {insert : Insert} {workspaceId : Uuid} {found : Bool} {outages : InsertOutages} {error : AppError}
    (failed : storeRow lib (self.database.view task insert.params.objectId) workspaceId found insert outages =
      .error error) :
    (self.setTransaction task (.inserting insert (.storing workspaceId found))).store lib task outages =
      self.setTransaction task (.failed error) := by
  simp [store, setTransaction, failed]

theorem store_cache {insert : Insert} {workspaceId : Uuid} {found : Bool} {outages : InsertOutages} {row : AfCollabRow}
    (stored : storeRow lib (self.database.view task insert.params.objectId) workspaceId found insert outages =
      .ok (some row)) (free : self.database.free task insert.params.objectId = true) (writable : Bool) :
    ((self.setTransaction task (.inserting insert (.storing workspaceId found))).store lib task outages).cache task
        writable =
      ({ self with
        database := self.database.write task insert.params.objectId row
        memCache := if writable then
            Function.update self.memCache insert.params.objectId (some insert.params.encodedCollabV1)
          else self.memCache }).setTransaction task .idle := by
  simp [store, cache, setTransaction, setTask, stored, free]

theorem commit_idle (outage : Option Outage) :
    (self.setTransaction task .idle).commit task outage =
      match query outage fun _ => .internal "fail to commit the transaction to upsert collab" with
      | .error error => self.setTransaction task (.failed error)
      | .ok () => { self with database := self.database.commit task }.finish task (.done (.ok ())) := by
  cases outage <;> simp [commit, query, setTransaction, setTask, finish, drop]

theorem abandon_failed (error : AppError) :
    (self.setTransaction task (.failed error)).abandon task =
      { self with database := self.database.rollback task }.finish task (.done (.error error)) := by
  simp [abandon, setTransaction, setTask, finish, drop]

theorem abandon_finished (answer : Answer) : (self.finish task answer).abandon task = self.finish task answer := by
  simp [abandon, drop_of_none]

/-- A failed transaction takes no further statement. -/
theorem failed_stays (lib : StorageLib yrs) (error : AppError) :
    let failed := self.setTransaction task (.failed error)
    (∀ outages, failed.select lib task outages = failed) ∧ (∀ outages, failed.store lib task outages = failed) ∧
      (∀ writable, failed.cache task writable = failed) ∧ ∀ outage, failed.commit task outage = failed := by
  simp [select, store, cache, commit, setTransaction]

/-- An insert whose steps come one after another is `insert_or_update_collab`. -/
theorem run_insertEvents (insert : Insert) (outcomes : WriteOutcomes) (storage : CollabCache)
    (valid : insert.params.validate = .ok ()) (free : self.tasks task = none) :
    let result := insertOrUpdateCollab lib storage insert.workspaceId insert.uid insert.params outcomes
    run (step lib) (self.holding storage) (insertEvents task insert outcomes) =
      (self.holding result.2).finish task (.done result.1) := by
  have idle : (self.holding storage).tasks task = none := free
  have seen : (self.holding storage).database.view task = storage.table := rfl
  simp only [insertOrUpdateCollab, valid, insertOrUpdateCollabWithTransaction_eq, insertIntoAfCollab_eq, insertEvents,
    run_cons, run_nil, step, beginTransaction_free idle]
  -- the first statement that fails decides, and what has been begun is given up at the end
  cases query outcomes.beginOutage fun _ => AppError.internal "acquire transaction to upsert collab" with
  | error error => simp [check, select, store, cache, commit, abandon, bind, Except.bind, drop_of_none]
  | ok _ =>
    simp only [check_idle, seen]
    cases checkInsert lib storage.table insert outcomes with
    | error error =>
      simp only [failed_stays lib, abandon_failed, bind, Except.bind]
      rfl
    | ok _ =>
      simp only [select_selecting, seen]
      cases selected : selectExisting lib storage.table insert outcomes.insertOutages with
      | error error =>
        simp only [failed_stays lib, abandon_failed, bind, Except.bind]
        rfl
      | ok existing =>
        obtain ⟨workspaceId, found⟩ := existing
        simp only
        cases stored : storeRow lib (storage.table insert.params.objectId) workspaceId found insert
            outcomes.insertOutages with
        | error error =>
          have failed : storeRow lib ((self.holding storage).database.view task insert.params.objectId) workspaceId
              found insert outcomes.insertOutages = .error error := stored
          simp only [store_error failed, failed_stays lib, abandon_failed, bind, Except.bind, stored]
          rfl
        | ok row =>
          obtain ⟨row, rfl, _⟩ := storeRow_stores (fun same => selectExisting_found (same ▸ selected)) stored
          have written : storeRow lib ((self.holding storage).database.view task insert.params.objectId) workspaceId
              found insert outcomes.insertOutages = .ok (some row) := stored
          simp only [store_cache written rfl, commit_idle]
          cases query outcomes.commitOutage fun _ =>
              AppError.internal "fail to commit the transaction to upsert collab" with
          | error error =>
            have undone : ((self.holding storage).database.write task insert.params.objectId row).rollback task =
                .settled storage.table := TransactionalStore.rollback_write_settled _
            simp only [abandon_failed, undone, bind, Except.bind, stored]
            rfl
          | ok _ =>
            have done : ((self.holding storage).database.write task insert.params.objectId row).commit task =
                .settled (Function.update storage.table insert.params.objectId (some row)) :=
              TransactionalStore.commit_write_settled _
            simp only [abandon_finished, done, bind, Except.bind, stored]
            rfl

/-! ## A read by itself -/

theorem run_fetch_finished (answer : Answer) (outages : List (Option Outage)) :
    run (step lib) (self.finish task answer) (outages.map (.fetch task)) = self.finish task answer := by
  refine run_of_fixed fun event member => ?_
  obtain ⟨outage, _, rfl⟩ := List.mem_map.mp member
  simp [step, fetch]

theorem run_fetch_filling (query : QueryCollabParams) (encoded : EncodedCollab) (outages : List (Option Outage)) :
    run (step lib) (self.setTask task (.read query (.filling encoded))) (outages.map (.fetch task)) =
      self.setTask task (.read query (.filling encoded)) := by
  refine run_of_fixed fun event member => ?_
  obtain ⟨outage, _, rfl⟩ := List.mem_map.mp member
  simp [step, fetch]

/-- The attempts that are left do what the loop of `CollabDiskCache::get_collab_encoded` does. -/
theorem run_fetch (query : QueryCollabParams) (outages : List (Option Outage)) :
    ∀ attempts, attempts + outages.length = maxAttempts → outages ≠ [] →
      run (step lib) (self.setTask task (.read query (.selecting attempts))) (outages.map (.fetch task)) =
        match getFromDisk lib self.database.committed query outages with
        | .error error => self.finish task (.encoded (.error error))
        | .ok encoded => self.setTask task (.read query (.filling encoded)) := by
  induction outages with
  | nil => exact fun _ _ some => absurd rfl some
  | cons outage retries inductionHypothesis =>
    intro attempts left _
    rw [List.map_cons, run_cons, step, getFromDisk]
    simp only [fetch, tasks_setTask, database_setTask]
    cases selectBlobFromAfCollab lib self.database.committed query.inner.collabType query.inner.objectId outage with
    | ok data =>
      simp only
      cases lib.decodeFromBytes data with
      | error err => simp [run_fetch_finished, Except.mapError]
      | ok encoded => simp [run_fetch_filling, Except.mapError]
    | error error =>
      cases error with
      | rowNotFound => simp [run_fetch_finished]
      | other message => simp [run_fetch_finished]
      | poolTimedOut =>
        rw [List.length_cons] at left
        cases retries with
        | nil =>
          have last : ¬ attempts < maxAttempts - 1 := by
            simp only [List.length_nil] at left
            omega
          simp [last]
        | cons next retries =>
          have more : attempts < maxAttempts - 1 := by
            simp only [List.length_cons] at left
            omega
          simp only [if_pos more, setTask_setTask]
          exact inductionHypothesis (attempts + 1) (by omega) (List.cons_ne_nil next retries)

/-- A read whose steps come one after another is `get_collab_encoded` of the cache. -/
theorem run_read (query : QueryCollabParams) (outcomes : ReadOutcomes) (storage : CollabCache)
    (free : self.tasks task = none) :
    let result := getFromCache lib storage query outcomes
    run (step lib) (self.holding storage) (.lookup task query outcomes.cacheReachable ::
        outcomes.attempts.map (.fetch task) ++ [.fill task outcomes.cacheWritable]) =
      (self.holding result.2).finish task (.encoded result.1) := by
  have idle : (self.holding storage).tasks task = none := free
  rw [getFromCache, List.cons_append, run_cons, run_append, step, lookup, idle]
  simp only
  have cached : (self.holding storage).memCache = storage.memCache := rfl
  rw [cached]
  cases getEncodeCollab lib storage.memCache outcomes.cacheReachable query.inner.objectId with
  | some encoded =>
    rw [run_fetch_finished]
    simp [step, fill]
  | none =>
    simp only
    rw [run_fetch query outcomes.attempts 0 rfl (List.cons_ne_nil _ _)]
    have committed : (self.holding storage).database.committed = storage.table := rfl
    rw [committed]
    cases getFromDisk lib storage.table query outcomes.attempts with
    | error error => simp [step, fill]
    | ok encoded =>
      cases encodable : lib.encodeToBytes encoded <;> cases outcomes.cacheWritable <;>
        simp [step, fill, encodable, finish, drop, setTask, holding]

end SharedStorage

end Steps

end FlowCloud.Storage
