import Mathlib.Logic.Function.Basic
import FlowCloud.Foundation.Results
import FlowCloud.Protocol.Collab

/-! # Stored collabs

The table `af_collab`, the memory cache in front of it, and the reads and writes of
`CollabStorageImpl`.  What a query, the cache or the access control answers is part of the
input of an operation, so that every outcome is covered.
-/

namespace FlowCloud.Storage

open FlowCloud.Foundation FlowCloud.Entity FlowCloud.Protocol

abbrev Uuid := BitVec 128

/-- `Uuid::to_string`: hyphenated, in lower case. -/
def Uuid.text (id : Uuid) : String :=
  let digits := (List.range 32).map fun place => Nat.digitChar (id.toNat / 16 ^ (31 - place) % 16)
  String.ofList (digits.take 8 ++ '-' :: (digits.drop 8).take 4 ++ '-' :: (digits.drop 12).take 4 ++
    '-' :: (digits.drop 16).take 4 ++ '-' :: digits.drop 20)

example : Uuid.text 0x5b7cbb2f4a5c4f3c9a0e1d2c3b4a5f60 = "5b7cbb2f-4a5c-4f3c-9a0e-1d2c3b4a5f60" := by
  decide +kernel

structure EncodedCollab where
  stateVector : Bytes
  docState : Bytes
  deriving DecidableEq, Repr

variable {Op StateVector AwarenessUpdate : Type} [DecidableEq Op]

/-- What the storage uses of other libraries. -/
structure StorageLib (yrs : Yrs Op StateVector AwarenessUpdate) where
  /-- `CollabType::value`, the partition key. -/
  value : CollabType → Int
  typeName : CollabType → String
  debugQuery : QueryCollabParams → String
  uuidFromStr : String → Except String Uuid
  md5 : Bytes → Bytes
  decodeFromBytes : Bytes → Except String EncodedCollab
  encodeToBytes : EncodedCollab → Except String Bytes
  getEncodedCollabV1 : Finset Op → EncodedCollab
  newWithDocState : Bytes → Except String (Finset Op)
  checkDocumentIsValid : Finset Op → Except String Unit
  checkFolderIsValid : Finset Op → Except String Unit
  /-- The operations an encoded collab holds, also one that cannot be decoded here. -/
  updates : Bytes → Finset Op
  updates_decoded : ∀ data encoded ops, decodeFromBytes data = .ok encoded →
    yrs.decodeUpdate encoded.docState = .ok ops → updates data = ops
  /-- A document can be encoded, and its encoding gives back the document. -/
  encode_content : ∀ content, ∃ data, encodeToBytes (getEncodedCollabV1 content) = .ok data ∧ data ≠ [] ∧
    decodeFromBytes data = .ok (getEncodedCollabV1 content)
  decode_content : ∀ content, yrs.decodeUpdate (getEncodedCollabV1 content).docState = .ok content
  new_content : ∀ content, newWithDocState (getEncodedCollabV1 content).docState = .ok content

/-! ## The table -/

/-- Why a query failed that the database did not answer. -/
inductive Outage where
  | poolTimedOut
  | other (message : String)
  deriving DecidableEq, Repr

def Outage.toSqlx : Outage → SqlxError
  | .poolTimedOut => .poolTimedOut
  | .other message => .other message

structure AfCollabRow where
  blob : Bytes
  partitionKey : Int
  ownerUid : Int
  workspaceId : Uuid
  deleted : Bool
  deriving DecidableEq, Repr

abbrev AfCollab := String → Option AfCollabRow

def query (outage : Option Outage) (error : SqlxError → AppError) : Except AppError Unit :=
  match outage with
  | some outage => .error (error outage.toSqlx)
  | none => .ok ()

@[simp] theorem query_none (error : SqlxError → AppError) : query none error = .ok () := rfl

theorem query_eq_ok {outage : Option Outage} {error : SqlxError → AppError} {answer : Unit} :
    query outage error = .ok answer ↔ outage = none := by
  cases outage <;> simp [query]

structure InsertOutages where
  selectWorkspace : Option Outage
  update : Option Outage
  selectPermission : Except Outage Int
  insertMember : Option Outage
  insert : Option Outage

def InsertOutages.none : InsertOutages := ⟨.none, .none, .ok 1, .none, .none⟩

section Operations

variable {yrs : Yrs Op StateVector AwarenessUpdate} (lib : StorageLib yrs)

/-- An existing row is replaced whatever its type, if the workspace is the same. -/
def insertIntoAfCollab (table : AfCollab) (uid : Int) (workspaceId : String) (params : CollabParams)
    (outages : InsertOutages) : Except AppError AfCollab := do
  let partitionKey := lib.value params.collabType
  let workspaceId ← (lib.uuidFromStr workspaceId).mapError .uuidError
  query outages.selectWorkspace .ofSqlx
  match table params.objectId with
  | some existing =>
    if existing.workspaceId = workspaceId then
      query outages.update fun _ =>
        .internal ("user:" ++ toString uid ++ " update af_collab:" ++ params.objectId ++ " failed")
      let row := { existing with blob := params.encodedCollabV1, partitionKey, ownerUid := uid }
      return Function.update table params.objectId (some row)
    else
      throw (.internal "Inserting a row with an existing object_id but different workspace_id")
  | none =>
    let permissionId ← outages.selectPermission.mapError fun outage => .ofSqlx outage.toSqlx
    query outages.insertMember fun _ =>
      .internal ("Insert af_collab_member failed: " ++ toString uid ++ ":" ++ params.objectId ++ ":" ++
        toString permissionId)
    query outages.insert fun _ =>
      .internal ("Insert new af_collab failed: " ++ toString uid ++ ":" ++ params.objectId ++ ":" ++
        lib.typeName params.collabType)
    let row := ⟨params.encodedCollabV1, partitionKey, uid, workspaceId, false⟩
    return Function.update table params.objectId (some row)

def selectBlobFromAfCollab (table : AfCollab) (collabType : CollabType) (objectId : String)
    (outage : Option Outage) : Except SqlxError Bytes :=
  match outage with
  | some outage => .error outage.toSqlx
  | none =>
    match table objectId with
    | some row =>
      -- a row of another type is not found, although it exists
      if row.partitionKey = lib.value collabType ∧ row.deleted = false then .ok row.blob else .error .rowNotFound
    | none => .error .rowNotFound

def isCollabExists (table : AfCollab) (objectId : String) (outage : Option Outage) : Except AppError Bool := do
  query outage .ofSqlx
  return (table objectId).isSome

def deleteCollab (table : AfCollab) (objectId : String) : AfCollab :=
  Function.update table objectId ((table objectId).map fun row => { row with deleted := true })

/-! ## Reading -/

/-- The cached value of an object, whatever type it was cached for. -/
abbrev CollabMemCache := String → Option Bytes

def getEncodeCollab (memCache : CollabMemCache) (reachable : Bool) (objectId : String) : Option EncodedCollab :=
  if reachable then (memCache objectId).bind fun bytes => (lib.decodeFromBytes bytes).toOption else none

/-- `CollabDiskCache::get_collab_encoded` with the number of attempts left. -/
def getFromDisk (table : AfCollab) (params : QueryCollabParams) : List (Option Outage) → Except AppError EncodedCollab
  | [] => .error (.ofSqlx .poolTimedOut)
  | outage :: retries =>
    match selectBlobFromAfCollab lib table params.inner.collabType params.inner.objectId outage with
    | .ok data =>
      (lib.decodeFromBytes data).mapError fun err => .internal ("fail to decode data to EncodedCollab: " ++ err)
    -- only a timeout is tried again
    | .error .rowNotFound => .error (.recordNotFound ("Can't find the row for query: " ++ lib.debugQuery params))
    | .error .poolTimedOut =>
      if retries.isEmpty then .error (.ofSqlx .poolTimedOut) else getFromDisk table params retries
    | .error (.other message) => .error (.ofSqlx (.other message))

structure CollabCache where
  table : AfCollab
  memCache : CollabMemCache

/-- What a read meets: the database, the access control, the group that edits the object and
    the cache. -/
structure ReadOutcomes where
  existsOutage : Option Outage
  enforceAction : Except String Bool
  editing : Option EncodedCollab
  cacheReachable : Bool
  selectOutages : Option Outage × Option Outage × Option Outage
  cacheWritable : Bool

def ReadOutcomes.good : ReadOutcomes := ⟨none, .ok true, none, true, (none, none, none), true⟩

def ReadOutcomes.attempts (outcomes : ReadOutcomes) : List (Option Outage) :=
  [outcomes.selectOutages.1, outcomes.selectOutages.2.1, outcomes.selectOutages.2.2]

def enforceReadCollab (table : AfCollab) (objectId : String) (outcomes : ReadOutcomes) : Except AppError Bool := do
  let collabExists ← isCollabExists table objectId outcomes.existsOutage
  if !collabExists then
    throw (.recordNotFound ("Collab not exist in db. " ++ objectId))
  outcomes.enforceAction.mapError .internal

def getFromCache (storage : CollabCache) (params : QueryCollabParams) (outcomes : ReadOutcomes) :
    Except AppError EncodedCollab × CollabCache :=
  match getEncodeCollab lib storage.memCache outcomes.cacheReachable params.inner.objectId with
  | some encoded => (.ok encoded, storage)
  | none =>
    match getFromDisk lib storage.table params outcomes.attempts with
    | .error error => (.error error, storage)
    | .ok encoded =>
      -- the cache is filled in passing, and a failure to do so is not reported
      match lib.encodeToBytes encoded, outcomes.cacheWritable with
      | .ok bytes, true =>
        let memCache := Function.update storage.memCache params.inner.objectId (some bytes)
        (.ok encoded, { storage with memCache })
      | _, _ => (.ok encoded, storage)

def getCollabEncoded (storage : CollabCache) (uid : Int) (params : QueryCollabParams) (isCollabInit : Bool)
    (outcomes : ReadOutcomes) : Except AppError EncodedCollab × CollabCache :=
  match params.validate with
  | .error error => (.error error, storage)
  | .ok () =>
    match enforceReadCollab storage.table params.inner.objectId outcomes with
    | .error error => (.error error, storage)
    | .ok false =>
      (.error (.notEnoughPermissions (toString uid) ("read collab:" ++ params.inner.objectId)), storage)
    | .ok true =>
      -- while a group is opened there is none to ask
      match if isCollabInit then none else outcomes.editing with
      | some value => (.ok value, storage)
      | none => getFromCache lib storage params outcomes

/-! ## Writing -/

structure WriteOutcomes where
  beginOutage : Option Outage
  existsOutage : Option Outage
  updatePolicy : Except AppError Unit
  enforceWriteCollab : Except AppError Bool
  enforceWriteWorkspace : Except AppError Bool
  insertOutages : InsertOutages
  cacheWritable : Bool
  commitOutage : Option Outage

def WriteOutcomes.good : WriteOutcomes := ⟨none, none, .ok (), .ok true, .ok true, .none, true, none⟩

def checkCollabPermission (workspaceId : String) (uid : Int) (params : CollabParams) (isCollabExist : Bool)
    (outcomes : WriteOutcomes) : Except AppError Unit := do
  if isCollabExist then
    let canWrite ← outcomes.enforceWriteCollab
    if !canWrite then
      throw (.notEnoughPermissions (toString uid) ("update collab:" ++ params.objectId))
  else
    let canWriteWorkspace ← outcomes.enforceWriteWorkspace
    if !canWriteWorkspace then
      throw (.notEnoughPermissions (toString uid) ("write workspace:" ++ workspaceId))

def checkEncodedCollabData (data : Bytes) : Except String Unit := do
  let encoded ← lib.decodeFromBytes data
  let _ ← lib.newWithDocState encoded.docState

/-- `CollabCache::insert_collab_encoded` on the table; the cache is written after it. -/
def insertCollabEncoded (table : AfCollab) (workspaceId : String) (uid : Int) (params : CollabParams)
    (outcomes : WriteOutcomes) : Except AppError AfCollab := do
  (checkEncodedCollabData lib params.encodedCollabV1).mapError fun err =>
    .invalidRequest ("Can not decode the data into collab:" ++ params.objectId ++ ", " ++ err)
  insertIntoAfCollab lib table uid workspaceId params outcomes.insertOutages

def insertOrUpdateCollabWithTransaction (table : AfCollab) (workspaceId : String) (uid : Int)
    (params : CollabParams) (outcomes : WriteOutcomes) : Except AppError AfCollab := do
  params.validate
  let isCollabExistInDb ← isCollabExists table params.objectId outcomes.existsOutage
  -- the creator of a new collab gets full access before it is stored
  if !isCollabExistInDb then
    outcomes.updatePolicy
  checkCollabPermission workspaceId uid params isCollabExistInDb outcomes
  insertCollabEncoded lib table workspaceId uid params outcomes

/-- The cache is written before the transaction is committed. -/
def insertOrUpdateCollab (storage : CollabCache) (workspaceId : String) (uid : Int) (params : CollabParams)
    (outcomes : WriteOutcomes) : Except AppError Unit × CollabCache :=
  let inserted := do
    params.validate
    query outcomes.beginOutage fun _ => .internal "acquire transaction to upsert collab"
    insertOrUpdateCollabWithTransaction lib storage.table workspaceId uid params outcomes
  match inserted with
  | .error error => (.error error, storage)
  | .ok table =>
    let memCache := if outcomes.cacheWritable then
        Function.update storage.memCache params.objectId (some params.encodedCollabV1)
      else storage.memCache
    match query outcomes.commitOutage fun _ => .internal "fail to commit the transaction to upsert collab" with
    | .error error => (.error error, { storage with memCache })
    | .ok () => (.ok (), { table, memCache })

/-! ## What a write needs and does -/

variable {lib} {table next : AfCollab} {uid : Int} {workspaceId : String} {params : CollabParams}

/-- The table after a write of the parameters for the workspace. -/
structure Stored (lib : StorageLib yrs) (table next : AfCollab) (workspaceId : String) (params : CollabParams) :
    Prop where
  admitted : ∃ id, lib.uuidFromStr workspaceId = .ok id ∧
    ∀ existing, table params.objectId = some existing → existing.workspaceId = id
  written : ∃ row, next = Function.update table params.objectId (some row) ∧
    row.blob = params.encodedCollabV1 ∧ lib.uuidFromStr workspaceId = .ok row.workspaceId

/-- The row that `insert_into_af_collab` writes over the existing one, if there is one. -/
def insertedRow (lib : StorageLib yrs) (uid : Int) (workspaceId : Uuid) (params : CollabParams) :
    Option AfCollabRow → AfCollabRow
  | some existing =>
    { existing with blob := params.encodedCollabV1, partitionKey := lib.value params.collabType, ownerUid := uid }
  | none => ⟨params.encodedCollabV1, lib.value params.collabType, uid, workspaceId, false⟩

theorem insertIntoAfCollab_eq_ok {outages : InsertOutages} :
    insertIntoAfCollab lib table uid workspaceId params outages = .ok next ↔
      ∃ id, lib.uuidFromStr workspaceId = .ok id ∧ outages.selectWorkspace = none ∧
        ((∃ existing, table params.objectId = some existing ∧ existing.workspaceId = id ∧ outages.update = none) ∨
          table params.objectId = none ∧ (∃ permissionId, outages.selectPermission = .ok permissionId) ∧
            outages.insertMember = none ∧ outages.insert = none) ∧
        next = Function.update table params.objectId
          (some (insertedRow lib uid id params (table params.objectId))) := by
  rw [insertIntoAfCollab]
  constructor
  · intro inserted
    obtain ⟨id, parsed, inserted⟩ := bind_eq_ok.mp inserted
    obtain ⟨_, selected, inserted⟩ := bind_eq_ok.mp inserted
    refine ⟨id, mapError_eq_ok.mp parsed, query_eq_ok.mp selected, ?_⟩
    cases found : table params.objectId with
    | some existing =>
      simp only [found] at inserted
      split at inserted
      · rename_i same
        obtain ⟨_, updated, inserted⟩ := bind_eq_ok.mp inserted
        cases inserted
        exact ⟨.inl ⟨existing, rfl, same, query_eq_ok.mp updated⟩, rfl⟩
      · cases inserted
    | none =>
      simp only [found] at inserted
      obtain ⟨permissionId, permission, inserted⟩ := bind_eq_ok.mp inserted
      obtain ⟨_, member, inserted⟩ := bind_eq_ok.mp inserted
      obtain ⟨_, row, inserted⟩ := bind_eq_ok.mp inserted
      cases inserted
      exact ⟨.inr ⟨rfl, ⟨permissionId, mapError_eq_ok.mp permission⟩, query_eq_ok.mp member, query_eq_ok.mp row⟩, rfl⟩
  · rintro ⟨id, parsed, selected, answered, rfl⟩
    refine bind_eq_ok.mpr ⟨id, mapError_eq_ok.mpr parsed, bind_eq_ok.mpr ⟨(), query_eq_ok.mpr selected, ?_⟩⟩
    cases answered with
    | inl held =>
      obtain ⟨existing, found, same, updated⟩ := held
      simp only [found, if_pos same]
      exact bind_eq_ok.mpr ⟨(), query_eq_ok.mpr updated, rfl⟩
    | inr held =>
      obtain ⟨found, ⟨permissionId, permission⟩, member, row⟩ := held
      simp only [found]
      refine bind_eq_ok.mpr ⟨permissionId, mapError_eq_ok.mpr permission, ?_⟩
      exact bind_eq_ok.mpr ⟨(), query_eq_ok.mpr member, bind_eq_ok.mpr ⟨(), query_eq_ok.mpr row, rfl⟩⟩

theorem insertIntoAfCollab_cases {outages : InsertOutages}
    (inserted : insertIntoAfCollab lib table uid workspaceId params outages = .ok next) :
    ∃ id, lib.uuidFromStr workspaceId = .ok id ∧ outages.selectWorkspace = none ∧
      (∀ existing, table params.objectId = some existing → existing.workspaceId = id ∧ outages.update = none) ∧
      next = Function.update table params.objectId
        (some (insertedRow lib uid id params (table params.objectId))) := by
  obtain ⟨id, parsed, selected, answered, written⟩ := insertIntoAfCollab_eq_ok.mp inserted
  refine ⟨id, parsed, selected, fun existing found => ?_, written⟩
  cases answered with
  | inl held =>
    obtain ⟨other, here, admitted⟩ := held
    cases found.symm.trans here
    exact admitted
  | inr held =>
    obtain ⟨missing, _⟩ := held
    cases found.symm.trans missing

theorem insertIntoAfCollab_stored {outages : InsertOutages}
    (inserted : insertIntoAfCollab lib table uid workspaceId params outages = .ok next) :
    Stored lib table next workspaceId params := by
  obtain ⟨id, parsed, _, admitted, rfl⟩ := insertIntoAfCollab_cases inserted
  refine ⟨⟨id, parsed, fun existing found => (admitted existing found).1⟩, ⟨_, rfl, ?_⟩⟩
  cases found : table params.objectId with
  | some existing =>
    -- the update keeps the row's workspace, which is the one that was named
    refine ⟨rfl, ?_⟩
    rw [parsed, ← (admitted existing found).1]
    rfl
  | none => exact ⟨rfl, parsed⟩

theorem insertOrUpdateCollabWithTransaction_stored {outcomes : WriteOutcomes}
    (inserted : insertOrUpdateCollabWithTransaction lib table workspaceId uid params outcomes = .ok next) :
    params.objectId ≠ "" ∧ Stored lib table next workspaceId params := by
  rw [insertOrUpdateCollabWithTransaction] at inserted
  obtain ⟨_, valid, inserted⟩ := bind_eq_ok.mp inserted
  obtain ⟨isCollabExistInDb, _, inserted⟩ := bind_eq_ok.mp inserted
  refine ⟨(CollabParams.validate_eq_ok.mp valid).1, ?_⟩
  -- with or without the new policy, the permission is checked and the row written
  have checked : (do
      checkCollabPermission workspaceId uid params isCollabExistInDb outcomes
      insertCollabEncoded lib table workspaceId uid params outcomes) = .ok next := by
    cases isCollabExistInDb with
    | true => exact inserted
    | false =>
      obtain ⟨_, _, inserted⟩ := bind_eq_ok.mp inserted
      exact inserted
  obtain ⟨_, _, inserted⟩ := bind_eq_ok.mp checked
  obtain ⟨_, _, inserted⟩ := bind_eq_ok.mp inserted
  exact insertIntoAfCollab_stored inserted

/-- A write that succeeds stores its parameters; one that fails leaves the table alone. -/
theorem insertOrUpdateCollab_cases (lib : StorageLib yrs) (cache : CollabCache) (workspaceId : String)
    (uid : Int) (params : CollabParams)
    (outcomes : WriteOutcomes) :
    let result := insertOrUpdateCollab lib cache workspaceId uid params outcomes
    (result.1 = .ok () ∧ params.objectId ≠ "" ∧ Stored lib cache.table result.2.table workspaceId params) ∨
      (result.1 ≠ .ok () ∧ result.2.table = cache.table) := by
  simp only [insertOrUpdateCollab]
  split
  · exact .inr ⟨nofun, rfl⟩
  · rename_i table inserted
    split
    · exact .inr ⟨nofun, rfl⟩
    · obtain ⟨_, _, inserted⟩ := bind_eq_ok.mp inserted
      obtain ⟨_, _, inserted⟩ := bind_eq_ok.mp inserted
      obtain ⟨named, stored⟩ := insertOrUpdateCollabWithTransaction_stored inserted
      exact .inl ⟨rfl, named, stored⟩

/-- With nothing in its way a write over a row of its workspace succeeds. -/
theorem insertOrUpdateCollab_good {cache : CollabCache} {row : AfCollabRow} (uid : Int) (named : params.objectId ≠ "")
    (nonempty : params.encodedCollabV1 ≠ []) (checked : checkEncodedCollabData lib params.encodedCollabV1 = .ok ())
    (found : cache.table params.objectId = some row) (workspace : lib.uuidFromStr workspaceId = .ok row.workspaceId) :
    (insertOrUpdateCollab lib cache workspaceId uid params .good).1 = .ok () := by
  have valid : params.validate = .ok () := CollabParams.validate_eq_ok.mpr ⟨named, nonempty⟩
  simp [insertOrUpdateCollab, insertOrUpdateCollabWithTransaction, valid, WriteOutcomes.good, isCollabExists,
    found, checkCollabPermission, insertCollabEncoded, checked, insertIntoAfCollab, workspace, InsertOutages.none,
    Except.mapError, bind, Except.bind, pure, Except.pure, query]

theorem checkEncodedCollabData_content {content : Finset Op} {data : Bytes}
    (decoded : lib.decodeFromBytes data = .ok (lib.getEncodedCollabV1 content)) :
    checkEncodedCollabData lib data = .ok () := by
  simp [checkEncodedCollabData, decoded, lib.new_content, bind, Except.bind, pure, Except.pure]

def KeepsWorkspace (table next : AfCollab) : Prop :=
  ∀ objectId row, table objectId = some row →
    ∃ later, next objectId = some later ∧ later.workspaceId = row.workspaceId

theorem KeepsWorkspace.refl (table : AfCollab) : KeepsWorkspace table table :=
  fun _ row found => ⟨row, found, rfl⟩

theorem KeepsWorkspace.trans {first second third : AfCollab} (before : KeepsWorkspace first second)
    (after : KeepsWorkspace second third) : KeepsWorkspace first third := by
  intro objectId row found
  obtain ⟨middle, middleFound, same⟩ := before objectId row found
  obtain ⟨last, lastFound, lastSame⟩ := after objectId middle middleFound
  exact ⟨last, lastFound, lastSame.trans same⟩

theorem Stored.keepsWorkspace (stored : Stored lib table next workspaceId params) : KeepsWorkspace table next := by
  obtain ⟨⟨id, parsed, admitted⟩, row, rfl, _, rowWorkspace⟩ := stored
  intro objectId existing found
  by_cases same : objectId = params.objectId
  · subst same
    refine ⟨row, Function.update_self .., ?_⟩
    rw [admitted existing found]
    exact Except.ok.inj (rowWorkspace.symm.trans parsed)
  · exact ⟨existing, by rw [Function.update_of_ne same]; exact found, rfl⟩

theorem deleteCollab_keepsWorkspace (table : AfCollab) (deleted : String) :
    KeepsWorkspace table (deleteCollab table deleted) := by
  intro objectId row found
  by_cases same : objectId = deleted
  · subst same
    exact ⟨{ row with deleted := true }, by simp [deleteCollab, found], rfl⟩
  · exact ⟨row, by rw [deleteCollab, Function.update_of_ne same]; exact found, rfl⟩

/-! ## What a read finds -/

/-- One of the attempts is answered, after timeouts only. -/
def Selects (attempts : List (Option Outage)) : Prop :=
  ∃ timeouts later, attempts = timeouts ++ none :: later ∧ ∀ outage ∈ timeouts, outage = some .poolTimedOut

theorem selects_cons {outage : Option Outage} {retries : List (Option Outage)} :
    Selects (outage :: retries) ↔ outage = none ∨ outage = some .poolTimedOut ∧ Selects retries := by
  constructor
  · rintro ⟨timeouts, later, split, timedOut⟩
    cases timeouts with
    | nil =>
      cases split
      exact .inl rfl
    | cons head timeouts =>
      cases split
      exact .inr ⟨timedOut _ (.head _), timeouts, later, rfl, fun outage member => timedOut outage (.tail _ member)⟩
  · rintro (rfl | ⟨rfl, timeouts, later, rfl, timedOut⟩)
    · exact ⟨[], retries, rfl, List.forall_mem_nil _⟩
    · exact ⟨some .poolTimedOut :: timeouts, later, rfl, List.forall_mem_cons.mpr ⟨rfl, timedOut⟩⟩

theorem not_selects_nil : ¬ Selects [] := by
  rintro ⟨timeouts, later, split, _⟩
  cases timeouts <;> cases split

/-- A live row is read if the query names its type and one of the attempts is answered. -/
theorem getFromDisk_eq_ok {query : QueryCollabParams} {row : AfCollabRow} {encoded : EncodedCollab}
    (found : table query.inner.objectId = some row) (live : row.deleted = false) (attempts : List (Option Outage)) :
    getFromDisk lib table query attempts = .ok encoded ↔
      row.partitionKey = lib.value query.inner.collabType ∧ Selects attempts ∧
        lib.decodeFromBytes row.blob = .ok encoded := by
  -- by induction on the attempts: each one is answered, fails for good, or times out
  induction attempts with
  | nil => simp [getFromDisk, not_selects_nil]
  | cons outage retries inductionHypothesis =>
    rw [getFromDisk, selects_cons]
    cases outage with
    | none =>
      by_cases sameType : row.partitionKey = lib.value query.inner.collabType
      · simp [selectBlobFromAfCollab, found, live, sameType, mapError_eq_ok]
      · simp [selectBlobFromAfCollab, found, live, sameType]
    | some outage =>
      cases outage with
      | other message => simp [selectBlobFromAfCollab, Outage.toSqlx]
      | poolTimedOut =>
        cases retries with
        | nil => simp [selectBlobFromAfCollab, Outage.toSqlx, not_selects_nil]
        | cons next retries => simpa [selectBlobFromAfCollab, Outage.toSqlx] using inductionHypothesis

theorem getFromCache_eq_ok {cache : CollabCache} {query : QueryCollabParams} {outcomes : ReadOutcomes}
    {encoded : EncodedCollab} :
    (getFromCache lib cache query outcomes).1 = .ok encoded ↔
      getEncodeCollab lib cache.memCache outcomes.cacheReachable query.inner.objectId = some encoded ∨
      getEncodeCollab lib cache.memCache outcomes.cacheReachable query.inner.objectId = none ∧
        getFromDisk lib cache.table query outcomes.attempts = .ok encoded := by
  rw [getFromCache]
  cases getEncodeCollab lib cache.memCache outcomes.cacheReachable query.inner.objectId with
  | some cached => simp
  | none =>
    cases getFromDisk lib cache.table query outcomes.attempts with
    | error error => simp
    | ok read =>
      simp only
      split <;> simp

theorem enforceReadCollab_eq_ok {objectId : String} {row : AfCollabRow} (found : table objectId = some row)
    {outcomes : ReadOutcomes} {allowed : Bool} :
    enforceReadCollab table objectId outcomes = .ok allowed ↔
      outcomes.existsOutage = none ∧ outcomes.enforceAction = .ok allowed := by
  rw [enforceReadCollab, isCollabExists]
  cases outcomes.existsOutage with
  | some outage => simp [query, bind, Except.bind]
  | none => simp [found, mapError_eq_ok, bind, Except.bind, pure, Except.pure]

theorem getCollabEncoded_eq_ok {cache : CollabCache} {query : QueryCollabParams} {outcomes : ReadOutcomes}
    {encoded : EncodedCollab} :
    (getCollabEncoded lib cache uid query true outcomes).1 = .ok encoded ↔
      query.validate = .ok () ∧ enforceReadCollab cache.table query.inner.objectId outcomes = .ok true ∧
        (getFromCache lib cache query outcomes).1 = .ok encoded := by
  rw [getCollabEncoded]
  cases query.validate with
  | error error => simp
  | ok _ =>
    cases enforceReadCollab cache.table query.inner.objectId outcomes with
    | error error => simp
    | ok canRead => cases canRead <;> simp

theorem getCollabEncoded_table (lib : StorageLib yrs) (cache : CollabCache) (uid : Int) (query : QueryCollabParams)
    (isCollabInit : Bool) (outcomes : ReadOutcomes) :
    (getCollabEncoded lib cache uid query isCollabInit outcomes).2.table = cache.table := by
  have fromCache : (getFromCache lib cache query outcomes).2.table = cache.table := by
    rw [getFromCache]
    split
    · rfl
    split
    · rfl
    · split <;> rfl
  rw [getCollabEncoded]
  cases query.validate with
  | error error => rfl
  | ok _ =>
    cases enforceReadCollab cache.table query.inner.objectId outcomes with
    | error error => rfl
    | ok canRead =>
      cases canRead with
      | false => rfl
      | true =>
        simp only
        cases if isCollabInit then none else outcomes.editing with
        | some value => rfl
        | none => exact fromCache

end Operations

/-! ## A library that knows the real bytes of some collabs -/

def encodedWire : Wire EncodedCollab :=
  (Wire.pair Wire.buf Wire.buf).convert (fun encoded => (encoded.stateVector, encoded.docState))
    (fun parts => .ok ⟨parts.1, parts.2⟩) (fun _ => rfl)

/-- The empty collab, and the one in which client 1 has typed `a`. -/
def typedCollabs : Samples EncodedCollab where
  entries :=
    [([1, 0, 0, 0, 0, 0, 0, 0, 0, 2, 0, 0, 0, 0, 0, 0, 0, 0, 0, 0, 0, 0, 0], ⟨[0], [0, 0]⟩),
      ([3, 0, 0, 0, 0, 0, 0, 0, 1, 1, 1, 11, 0, 0, 0, 0, 0, 0, 0, 1, 1, 1, 0, 4, 1, 1, 116, 1, 97, 0, 0, 0, 0, 0],
        ⟨[1, 1, 1], [1, 1, 1, 0, 4, 1, 1, 116, 1, 97, 0]⟩)]
  mark := 255
  wire := encodedWire
  unmarked := by decide

namespace TypedLib

def decodeFromBytes (data : Bytes) : Except String EncodedCollab :=
  (typedCollabs.decode data).mapError fun failure => reprStr failure

def getEncodedCollabV1 (content : Finset (Nat × Nat)) : EncodedCollab :=
  ⟨Lib0.stateVector.write (UpdateTable.stateVector content), typedUpdates.encode content⟩

def newWithDocState (data : Bytes) : Except String (Finset (Nat × Nat)) :=
  if data.isEmpty then .ok ∅ else (typedUpdates.decode data).mapError fun failure => reprStr failure

def updates (data : Bytes) : Finset (Nat × Nat) :=
  match decodeFromBytes data with
  | .error _ => ∅
  | .ok encoded => ((typedUpdates.decode encoded.docState).toOption).getD ∅

def value : CollabType → Int
  | .document => 0
  | .database => 1
  | .workspaceDatabase => 2
  | .folder => 3
  | .databaseRow => 4
  | .userAwareness => 5

def uuidFromStr (text : String) : Except String Uuid :=
  if text = "5b7cbb2f-4a5c-4f3c-9a0e-1d2c3b4a5f60" then .ok 0x5b7cbb2f4a5c4f3c9a0e1d2c3b4a5f60
  else .error "invalid character"

theorem decodeFromBytes_encode (encoded : EncodedCollab) :
    decodeFromBytes (typedCollabs.encode encoded) = .ok encoded := by
  rw [decodeFromBytes, typedCollabs.decode_encode]
  rfl

end TypedLib

def typedLib : StorageLib (UpdateTable.yrs typedUpdates) where
  value := TypedLib.value
  typeName collabType := (reprStr collabType)
  debugQuery query := reprStr query
  uuidFromStr := TypedLib.uuidFromStr
  md5 := id
  decodeFromBytes := TypedLib.decodeFromBytes
  encodeToBytes encoded := .ok (typedCollabs.encode encoded)
  getEncodedCollabV1 := TypedLib.getEncodedCollabV1
  newWithDocState := TypedLib.newWithDocState
  checkDocumentIsValid _ := .ok ()
  checkFolderIsValid _ := .ok ()
  updates := TypedLib.updates
  updates_decoded := by
    intro data encoded ops decoded opsDecoded
    have known : typedUpdates.decode encoded.docState = .ok ops := opsDecoded
    simp [TypedLib.updates, decoded, known, Except.toOption]
  encode_content := fun content => ⟨_, rfl, typedCollabs.encode_ne_nil (by decide) _,
    TypedLib.decodeFromBytes_encode _⟩
  decode_content := typedUpdates.decode_encode
  new_content := by
    intro content
    have nonempty : typedUpdates.encode content ≠ [] := typedUpdates.encode_ne_nil (by decide) content
    simp [TypedLib.newWithDocState, TypedLib.getEncodedCollabV1, nonempty, Except.mapError]

end FlowCloud.Storage
