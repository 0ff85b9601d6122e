import FlowCloud.Casbin.Realtime
import FlowCloud.Storage.Collab

/-! # Collab writes and the policies they grant

`CollabStorageImpl` writes a collab inside a transaction.  The creator of a new collab is
given full access in the policies, which are no part of the transaction.  The two batch
handlers write a list of collabs in one transaction; one of them grants full access after
every write as well.  The last section says which failures leave a grant behind.
-/

namespace FlowCloud.Storage

open FlowCloud.Foundation FlowCloud.Entity FlowCloud.Protocol FlowCloud.Casbin

/-! ## The storage -/

/-- What the statements of a write meet. -/
structure WriteOutages where
  beginOutage : Option Outage
  existsOutage : Option Outage
  /-- The second look at the object, outside the transaction. -/
  isExistOutage : Option Outage
  insertOutages : InsertOutages
  cacheWritable : Bool
  commitOutage : Option Outage

def WriteOutages.none : WriteOutages := ⟨.none, .none, .none, .none, true, .none⟩

structure CollabStorageImpl where
  cache : CollabCache
  accessControl : AccessControl

namespace CollabStorageImpl

section Access

variable (enableAccessControl : Bool) (self : CollabStorageImpl)

def updatePolicy (uid : Int) (oid : String) (level : AFAccessLevel) : Except AppError Unit × CollabStorageImpl :=
  let updated := self.accessControl.updatePolicy enableAccessControl uid (.collab oid) (.fromAccessLevel level)
  (updated.1, { self with accessControl := updated.2 })

/-- The committed table decides whether the object exists. -/
def enforceAction (workspaceId : String) (uid : Int) (oid : String) (action : Action) (outage : Option Outage) :
    Except AppError Bool := do
  let collabExists ← isCollabExists self.cache.table oid outage
  if !collabExists then
    throw (.recordNotFound ("Collab not exist in db. " ++ oid))
  self.accessControl.enforce enableAccessControl workspaceId uid (.collab oid) (.fromAction action)

def enforceReadCollab (workspaceId : String) (uid : Int) (oid : String) (outage : Option Outage) :=
  self.enforceAction enableAccessControl workspaceId uid oid .read outage

def enforceWriteCollab (workspaceId : String) (uid : Int) (oid : String) (outage : Option Outage) :=
  self.enforceAction enableAccessControl workspaceId uid oid .write outage

def enforceWriteWorkspace (uid : Int) (workspaceId : String) : Except AppError Bool :=
  self.accessControl.enforce enableAccessControl workspaceId uid (.workspace workspaceId) (.fromRole .owner)

/-- The outcomes of a write whose permission checks this storage answers. -/
def outcomes (workspaceId : String) (uid : Int) (params : CollabParams) (outages : WriteOutages) : WriteOutcomes where
  beginOutage := outages.beginOutage
  existsOutage := outages.existsOutage
  updatePolicy := (self.updatePolicy enableAccessControl uid params.objectId .fullAccess).1
  enforceWriteCollab :=
    self.enforceWriteCollab enableAccessControl workspaceId uid params.objectId outages.isExistOutage
  enforceWriteWorkspace := self.enforceWriteWorkspace enableAccessControl uid workspaceId
  insertOutages := outages.insertOutages
  cacheWritable := outages.cacheWritable
  commitOutage := outages.commitOutage

end Access

section Writing

variable {Op StateVector AwarenessUpdate : Type} [DecidableEq Op] {yrs : Yrs Op StateVector AwarenessUpdate}
  (lib : StorageLib yrs) (enableAccessControl : Bool)

/-- The cache of a storage that fails to write it stays as it is. -/
def insertEncodeCollabBytes (self : CollabStorageImpl) (params : CollabParams) (cacheWritable : Bool) :
    CollabStorageImpl :=
  if cacheWritable then
    let memCache := Function.update self.cache.memCache params.objectId (some params.encodedCollabV1)
    { self with cache := { self.cache with memCache } }
  else self

def checkedInsert (self : CollabStorageImpl) (table : AfCollab) (workspaceId : String) (uid : Int)
    (params : CollabParams) (isCollabExistInDb : Bool) (outages : WriteOutages) : Except AppError AfCollab := do
  let outcomes := self.outcomes enableAccessControl workspaceId uid params outages
  checkCollabPermission workspaceId uid params isCollabExistInDb outcomes
  insertCollabEncoded lib table workspaceId uid params outcomes

/-- The permission check and `CollabCache::insert_collab_encoded`. -/
def checkAndInsert (self : CollabStorageImpl) (table : AfCollab) (workspaceId : String) (uid : Int)
    (params : CollabParams) (isCollabExistInDb : Bool) (outages : WriteOutages) :
    Except AppError AfCollab × CollabStorageImpl :=
  match self.checkedInsert lib enableAccessControl table workspaceId uid params isCollabExistInDb outages with
  | .error error => (.error error, self)
  | .ok table => (.ok table, self.insertEncodeCollabBytes params outages.cacheWritable)

/-- The rows of the transaction are `table`; the committed ones are those of the storage. -/
def insertOrUpdateCollabWithTransaction (self : CollabStorageImpl) (table : AfCollab) (workspaceId : String)
    (uid : Int) (params : CollabParams) (outages : WriteOutages) : Except AppError AfCollab × CollabStorageImpl :=
  match params.validate with
  | .error error => (.error error, self)
  | .ok () =>
    match isCollabExists table params.objectId outages.existsOutage with
    | .error error => (.error error, self)
    | .ok true => self.checkAndInsert lib enableAccessControl table workspaceId uid params true outages
    | .ok false =>
      -- the grant comes before the permission check and the insert
      match self.updatePolicy enableAccessControl uid params.objectId .fullAccess with
      | (.error error, self) => (.error error, self)
      | (.ok (), self) => self.checkAndInsert lib enableAccessControl table workspaceId uid params false outages

def commit (self : CollabStorageImpl) (table : AfCollab) (outage : Option Outage) :
    Except AppError Unit × CollabStorageImpl :=
  match query outage fun _ => .internal "fail to commit the transaction to upsert collab" with
  | .error error => (.error error, self)
  | .ok () => (.ok (), { self with cache := { self.cache with table } })

def insertOrUpdateCollab (self : CollabStorageImpl) (workspaceId : String) (uid : Int) (params : CollabParams)
    (outages : WriteOutages) : Except AppError Unit × CollabStorageImpl :=
  match params.validate with
  | .error error => (.error error, self)
  | .ok () =>
    match query outages.beginOutage fun _ => .internal "acquire transaction to upsert collab" with
    | .error error => (.error error, self)
    | .ok () =>
      match self.insertOrUpdateCollabWithTransaction lib enableAccessControl self.cache.table workspaceId uid
          params outages with
      | (.error error, self) => (.error error, self)
      | (.ok table, self) => self.commit table outages.commitOutage

/-- One turn of the loop of a batch handler. -/
def createCollab (regrant : Bool) (self : CollabStorageImpl) (table : AfCollab) (workspaceId : String) (uid : Int)
    (params : CollabParams) (outages : WriteOutages) : Except AppError AfCollab × CollabStorageImpl :=
  match self.insertOrUpdateCollabWithTransaction lib enableAccessControl table workspaceId uid params outages with
  | (.error error, self) => (.error error, self)
  | (.ok table, self) =>
    if regrant then
      match self.updatePolicy enableAccessControl uid params.objectId .fullAccess with
      | (.error error, self) => (.error error, self)
      | (.ok (), self) => (.ok table, self)
    else (.ok table, self)

def createCollabs (regrant : Bool) (workspaceId : String) (uid : Int) :
    CollabStorageImpl → AfCollab → List (CollabParams × WriteOutages) → Except AppError AfCollab × CollabStorageImpl
  | self, table, [] => (.ok table, self)
  | self, table, (params, outages) :: paramsList =>
    match self.createCollab lib enableAccessControl regrant table workspaceId uid params outages with
    | (.error error, self) => (.error error, self)
    | (.ok table, self) => createCollabs regrant workspaceId uid self table paramsList

/-- A batch in one transaction: any failure up to the commit rolls it back. -/
def createCollabBatch (regrant : Bool) (self : CollabStorageImpl) (workspaceId : String) (uid : Int)
    (paramsList : List (CollabParams × WriteOutages)) (beginOutage commitOutage : Option Outage) :
    Except AppError Unit × CollabStorageImpl :=
  match query beginOutage fun _ => .internal "acquire transaction to upsert collab" with
  | .error error => (.error error, self)
  | .ok () =>
    match createCollabs lib enableAccessControl regrant workspaceId uid self self.cache.table paramsList with
    | (.error error, self) => (.error error, self)
    | (.ok table, self) => self.commit table commitOutage

/-- `batch_create_collab_handler` after the parsing: it grants after every write. -/
def batchCreateCollab := createCollabBatch lib enableAccessControl true

/-- `create_collab_list_handler` after the parsing. -/
def createCollabList := createCollabBatch lib enableAccessControl false

end Writing

/-! ## What a grant changes -/

def policies (self : CollabStorageImpl) : RuleTable Rule := self.accessControl.enforcer.enforcer.policies

def fullAccess (uid : Int) (oid : String) : Rule := policyRule uid (.collab oid) (levelAction .fullAccess)

section Grant

variable (enableAccessControl : Bool) (self : CollabStorageImpl) (uid : Int) (oid : String)

theorem updatePolicy_granted :
    let updated := self.updatePolicy enableAccessControl uid oid .fullAccess
    updated.1 = .ok () ∧ updated.2.cache = self.cache ∧
      updated.2.policies = if enableAccessControl then self.policies.insert (fullAccess uid oid) else self.policies := by
  cases enableAccessControl with
  | false => exact ⟨rfl, rfl, rfl⟩
  | true =>
    refine ⟨rfl, rfl, ?_⟩
    simp [updatePolicy, AccessControl.updatePolicy, AFEnforcer.updatePolicy, validateObjAction, policies,
      Enforcer.addPolicy, fullAccess, ActionVariant.toAction, bind, Except.bind, pure, Except.pure]

theorem updatePolicy_policies_eq :
    (self.updatePolicy enableAccessControl uid oid .fullAccess).2.policies = self.policies ↔
      (enableAccessControl = true → fullAccess uid oid ∈ self.policies) := by
  rw [(updatePolicy_granted enableAccessControl self uid oid).2.2]
  cases enableAccessControl with
  | false => simp
  | true => simpa using RuleTable.insert_eq_self

theorem updatePolicy_grows {rule : Rule} (member : rule ∈ self.policies) :
    rule ∈ (self.updatePolicy enableAccessControl uid oid .fullAccess).2.policies := by
  rw [(updatePolicy_granted enableAccessControl self uid oid).2.2]
  split
  · exact RuleTable.mem_insert.mpr (.inl member)
  · exact member

/-- The grant on a collab does not change who may write the workspace. -/
theorem updatePolicy_enforceWriteWorkspace (workspaceId : String) :
    (self.updatePolicy enableAccessControl uid oid .fullAccess).2.enforceWriteWorkspace enableAccessControl uid
        workspaceId = self.enforceWriteWorkspace enableAccessControl uid workspaceId := by
  cases enableAccessControl with
  | false => rfl
  | true =>
    obtain ⟨next, updated⟩ : ∃ next, self.accessControl.enforcer.updatePolicy uid (.collab oid)
        (.fromAccessLevel .fullAccess) = .ok next := updatePolicy_of_valid rfl
    simp [updatePolicy, AccessControl.updatePolicy, updated, enforceWriteWorkspace, AccessControl.enforce,
      updatePolicy_enforcePolicy_workspace updated]

end Grant

/-! ## When a write succeeds -/

section Writes

variable {Op StateVector AwarenessUpdate : Type} [DecidableEq Op] {yrs : Yrs Op StateVector AwarenessUpdate}
  (lib : StorageLib yrs) (enableAccessControl : Bool)

/-- The data is a collab and every statement of the insert or update is answered. -/
structure Inserts (table : AfCollab) (workspaceId : String) (params : CollabParams) (outages : InsertOutages)
    (id : Uuid) : Prop where
  decoded : checkEncodedCollabData lib params.encodedCollabV1 = .ok ()
  parsed : lib.uuidFromStr workspaceId = .ok id
  selected : outages.selectWorkspace = none
  stored :
    match table params.objectId with
    | some existing => existing.workspaceId = id ∧ outages.update = none
    | none => (∃ permissionId, outages.selectPermission = .ok permissionId) ∧ outages.insertMember = none ∧
        outages.insert = none

def written (table : AfCollab) (id : Uuid) (uid : Int) (params : CollabParams) : AfCollab :=
  Function.update table params.objectId (some (match table params.objectId with
    | some existing =>
      { existing with blob := params.encodedCollabV1, partitionKey := lib.value params.collabType, ownerUid := uid }
    | none => ⟨params.encodedCollabV1, lib.value params.collabType, uid, id, false⟩))

theorem written_eq (table : AfCollab) (id : Uuid) (uid : Int) (params : CollabParams) :
    written lib table id uid params =
      Function.update table params.objectId (some (insertedRow lib uid id params (table params.objectId))) := by
  rw [written]
  cases table params.objectId <;> rfl

theorem insertCollabEncoded_eq_ok {table next : AfCollab} {workspaceId : String} {uid : Int}
    {params : CollabParams} {outcomes : WriteOutcomes} :
    insertCollabEncoded lib table workspaceId uid params outcomes = .ok next ↔
      ∃ id, Inserts lib table workspaceId params outcomes.insertOutages id ∧ next = written lib table id uid params := by
  rw [insertCollabEncoded, bind_eq_ok]
  simp only [mapError_eq_ok, insertIntoAfCollab_eq_ok, written_eq]
  constructor
  · rintro ⟨⟨⟩, decoded, id, parsed, selected, answered, rfl⟩
    refine ⟨id, ⟨decoded, parsed, selected, ?_⟩, rfl⟩
    cases answered with
    | inl held =>
      obtain ⟨existing, found, admitted⟩ := held
      rw [found]
      exact admitted
    | inr held =>
      obtain ⟨found, inserts⟩ := held
      rw [found]
      exact inserts
  · rintro ⟨id, ⟨decoded, parsed, selected, stored⟩, rfl⟩
    refine ⟨(), decoded, id, parsed, selected, ?_, rfl⟩
    cases found : table params.objectId with
    | some existing =>
      rw [found] at stored
      exact .inl ⟨existing, rfl, stored⟩
    | none =>
      rw [found] at stored
      exact .inr ⟨rfl, stored⟩

/-- The user has the right the write needs, and the insert succeeds. -/
structure Accepts (storage : CollabStorageImpl) (table : AfCollab) (workspaceId : String) (uid : Int)
    (params : CollabParams) (outages : WriteOutages) (id : Uuid) : Prop where
  valid : params.validate = .ok ()
  answered : outages.existsOutage = none
  allowed :
    (match table params.objectId with
    | some _ =>
      storage.enforceWriteCollab enableAccessControl workspaceId uid params.objectId outages.isExistOutage
    | none => storage.enforceWriteWorkspace enableAccessControl uid workspaceId) = .ok true
  inserts : Inserts lib table workspaceId params outages.insertOutages id

theorem checkCollabPermission_eq_ok {workspaceId : String} {uid : Int} {params : CollabParams} {collabExists : Bool}
    {outcomes : WriteOutcomes} : checkCollabPermission workspaceId uid params collabExists outcomes = .ok () ↔
      (if collabExists then outcomes.enforceWriteCollab else outcomes.enforceWriteWorkspace) = .ok true := by
  have guarded : ∀ (answer : Except AppError Bool) (denied : AppError),
      (answer >>= fun allowed => if !allowed then throw denied else pure ()) = .ok () ↔ answer = .ok true := by
    intro answer denied
    rcases answer with _ | _ | _ <;> simp [bind, Except.bind, throw, throwThe, MonadExceptOf.throw, pure, Except.pure]
  cases collabExists with
  | true => exact guarded outcomes.enforceWriteCollab _
  | false => exact guarded outcomes.enforceWriteWorkspace _

variable {lib enableAccessControl} {self : CollabStorageImpl} {table next : AfCollab} {workspaceId : String} {uid : Int}
  {params : CollabParams} {outages : WriteOutages}

theorem checkAndInsert_eq_ok (collabExists : Bool) :
    (self.checkAndInsert lib enableAccessControl table workspaceId uid params collabExists outages).1 = .ok next ↔
      (if collabExists then
          self.enforceWriteCollab enableAccessControl workspaceId uid params.objectId outages.isExistOutage
        else self.enforceWriteWorkspace enableAccessControl uid workspaceId) = .ok true ∧
      ∃ id, Inserts lib table workspaceId params outages.insertOutages id ∧ next = written lib table id uid params := by
  have decided : (self.checkAndInsert lib enableAccessControl table workspaceId uid params collabExists outages).1 =
      self.checkedInsert lib enableAccessControl table workspaceId uid params collabExists outages := by
    rw [checkAndInsert]
    split <;> rename_i result <;> rw [result]
  rw [decided, checkedInsert, bind_eq_ok]
  constructor
  · rintro ⟨⟨⟩, permitted, inserted⟩
    exact ⟨checkCollabPermission_eq_ok.mp permitted, (insertCollabEncoded_eq_ok lib).mp inserted⟩
  · rintro ⟨permitted, inserted⟩
    exact ⟨(), checkCollabPermission_eq_ok.mpr permitted, (insertCollabEncoded_eq_ok lib).mpr inserted⟩

/-- With or without a grant, the check and the insert are what decides. -/
theorem insertOrUpdateCollabWithTransaction_eq_ok :
    (self.insertOrUpdateCollabWithTransaction lib enableAccessControl table workspaceId uid params outages).1 =
        .ok next ↔
      ∃ id, Accepts lib enableAccessControl self table workspaceId uid params outages id ∧
        next = written lib table id uid params := by
  have split : (self.insertOrUpdateCollabWithTransaction lib enableAccessControl table workspaceId uid params
      outages).1 = .ok next ↔ params.validate = .ok () ∧ outages.existsOutage = none ∧
        (match table params.objectId with
        | some _ =>
          self.enforceWriteCollab enableAccessControl workspaceId uid params.objectId outages.isExistOutage
        | none => self.enforceWriteWorkspace enableAccessControl uid workspaceId) = .ok true ∧
        ∃ id, Inserts lib table workspaceId params outages.insertOutages id ∧
          next = written lib table id uid params := by
    rw [insertOrUpdateCollabWithTransaction, isCollabExists]
    cases params.validate with
    | error error => simp
    | ok accepted =>
      cases outages.existsOutage with
      | some outage => simp [query, bind, Except.bind]
      | none =>
        cases table params.objectId with
        | some existing => simpa [bind, Except.bind, pure, Except.pure] using checkAndInsert_eq_ok true
        | none =>
          -- the grant leaves the right on the workspace as it was
          obtain ⟨updated, _⟩ := updatePolicy_granted enableAccessControl self uid params.objectId
          have unchanged := updatePolicy_enforceWriteWorkspace enableAccessControl self uid params.objectId workspaceId
          cases grant : self.updatePolicy enableAccessControl uid params.objectId .fullAccess with
          | mk result granted =>
            rw [grant] at updated unchanged
            cases updated
            rw [← unchanged]
            simpa [bind, Except.bind, pure, Except.pure] using checkAndInsert_eq_ok false
  rw [split]
  constructor
  · rintro ⟨valid, answered, allowed, id, inserts, rfl⟩
    exact ⟨id, ⟨valid, answered, allowed, inserts⟩, rfl⟩
  · rintro ⟨id, accepts, rfl⟩
    exact ⟨accepts.valid, accepts.answered, accepts.allowed, id, accepts.inserts, rfl⟩

/-- The write makes a grant that the policies did not hold before. -/
structure GrantsNew (enableAccessControl : Bool) (storage : CollabStorageImpl) (table : AfCollab) (uid : Int)
    (params : CollabParams) (outages : WriteOutages) : Prop where
  enabled : enableAccessControl = true
  valid : params.validate = .ok ()
  answered : outages.existsOutage = none
  absent : table params.objectId = none
  fresh : fullAccess uid params.objectId ∉ storage.policies

theorem checkAndInsert_accessControl (collabExists : Bool) :
    (self.checkAndInsert lib enableAccessControl table workspaceId uid params collabExists outages).2.accessControl =
      self.accessControl := by
  rw [checkAndInsert]
  split
  · rfl
  · rw [insertEncodeCollabBytes]
    split <;> rfl

theorem checkAndInsert_policies (collabExists : Bool) :
    (self.checkAndInsert lib enableAccessControl table workspaceId uid params collabExists outages).2.policies =
      self.policies := by
  simp only [policies, checkAndInsert_accessControl]

/-- A write grants on a collab at most, so who may write a workspace stays the same. -/
theorem insertOrUpdateCollabWithTransaction_enforceWriteWorkspace (lib : StorageLib yrs) (workspace : String) :
    (self.insertOrUpdateCollabWithTransaction lib enableAccessControl table workspaceId uid params
        outages).2.enforceWriteWorkspace enableAccessControl uid workspace =
      self.enforceWriteWorkspace enableAccessControl uid workspace := by
  have granted := updatePolicy_enforceWriteWorkspace enableAccessControl self uid params.objectId workspace
  rw [insertOrUpdateCollabWithTransaction]
  split
  · rfl
  · split
    · rfl
    · simp only [enforceWriteWorkspace, checkAndInsert_accessControl]
    · split
      · rename_i error after refused
        rw [refused] at granted
        exact granted
      · rename_i after written
        rw [written] at granted
        simp only [enforceWriteWorkspace, checkAndInsert_accessControl]
        exact granted

theorem insertOrUpdateCollabWithTransaction_policies (lib : StorageLib yrs) :
    (self.insertOrUpdateCollabWithTransaction lib enableAccessControl table workspaceId uid params outages).2.policies =
          self.policies ∧
        ¬ (params.validate = .ok () ∧ outages.existsOutage = none ∧ table params.objectId = none) ∨
      (self.insertOrUpdateCollabWithTransaction lib enableAccessControl table workspaceId uid params
            outages).2.policies =
          (self.updatePolicy enableAccessControl uid params.objectId .fullAccess).2.policies ∧
        params.validate = .ok () ∧ outages.existsOutage = none ∧ table params.objectId = none := by
  rw [insertOrUpdateCollabWithTransaction, isCollabExists]
  cases params.validate with
  | error error => exact .inl ⟨rfl, by simp⟩
  | ok accepted =>
    cases outages.existsOutage with
    | some outage => exact .inl ⟨rfl, by simp⟩
    | none =>
      cases table params.objectId with
      | some existing => exact .inl ⟨checkAndInsert_policies true, by simp⟩
      | none =>
        refine .inr ⟨?_, rfl, rfl, rfl⟩
        obtain ⟨updated, _⟩ := updatePolicy_granted enableAccessControl self uid params.objectId
        cases grant : self.updatePolicy enableAccessControl uid params.objectId .fullAccess with
        | mk result granted =>
          rw [grant] at updated
          cases updated
          simpa [bind, Except.bind, pure, Except.pure] using checkAndInsert_policies false

theorem insertOrUpdateCollabWithTransaction_policies_eq (lib : StorageLib yrs) :
    (self.insertOrUpdateCollabWithTransaction lib enableAccessControl table workspaceId uid params outages).2.policies =
        self.policies ↔ ¬ GrantsNew enableAccessControl self table uid params outages := by
  cases insertOrUpdateCollabWithTransaction_policies lib with
  | inl found =>
    obtain ⟨same, unattempted⟩ := found
    refine iff_of_true same ?_
    exact fun grants => unattempted ⟨grants.valid, grants.answered, grants.absent⟩
  | inr found =>
    obtain ⟨granted, valid, answered, absent⟩ := found
    rw [granted, updatePolicy_policies_eq]
    constructor
    · exact fun held grants => grants.fresh (held grants.enabled)
    · intro quiet enabled
      by_contra fresh
      exact quiet ⟨enabled, valid, answered, absent, fresh⟩

theorem insertOrUpdateCollabWithTransaction_grows {rule : Rule} (lib : StorageLib yrs)
    (member : rule ∈ self.policies) : rule ∈
      (self.insertOrUpdateCollabWithTransaction lib enableAccessControl table workspaceId uid params
        outages).2.policies := by
  cases insertOrUpdateCollabWithTransaction_policies lib with
  | inl held =>
    obtain ⟨same, _⟩ := held
    rw [same]
    exact member
  | inr held =>
    obtain ⟨granted, _⟩ := held
    rw [granted]
    exact updatePolicy_grows _ _ _ _ member

end Writes

/-! ## Failures and rollbacks -/

section Failures

variable {Op StateVector AwarenessUpdate : Type} [DecidableEq Op] {yrs : Yrs Op StateVector AwarenessUpdate}
  (lib : StorageLib yrs) (enableAccessControl : Bool)

/-- A result that is an error comes with the policies of before. -/
def GrantsNothing {Value : Type} (self : CollabStorageImpl) (result : Except AppError Value × CollabStorageImpl) :
    Prop :=
  ∀ error, result.1 = .error error → result.2.policies = self.policies

/-- A write that makes a new grant goes through. -/
def GrantsAccepted (self : CollabStorageImpl) (table : AfCollab) (workspaceId : String) (uid : Int)
    (params : CollabParams) (outages : WriteOutages) : Prop :=
  GrantsNew enableAccessControl self table uid params outages →
    ∃ id, Accepts lib enableAccessControl self table workspaceId uid params outages id

/-- Every write of the batch goes through, and so does the commit. -/
def BatchAccepted (regrant : Bool) (workspaceId : String) (uid : Int) (commitOutage : Option Outage) :
    CollabStorageImpl → AfCollab → List (CollabParams × WriteOutages) → Prop
  | _, _, [] => commitOutage = none
  | storage, table, (params, outages) :: paramsList =>
    ∃ id, Accepts lib enableAccessControl storage table workspaceId uid params outages id ∧
      BatchAccepted regrant workspaceId uid commitOutage
        (storage.createCollab lib enableAccessControl regrant table workspaceId uid params outages).2
        (written lib table id uid params) paramsList

/-- No write of the batch, up to the first that fails, makes a new grant. -/
def BatchQuiet (regrant : Bool) (workspaceId : String) (uid : Int) :
    CollabStorageImpl → AfCollab → List (CollabParams × WriteOutages) → Prop
  | _, _, [] => True
  | storage, table, (params, outages) :: paramsList =>
    ¬ GrantsNew enableAccessControl storage table uid params outages ∧
      ∀ id, Accepts lib enableAccessControl storage table workspaceId uid params outages id →
        (regrant = true → enableAccessControl = true → fullAccess uid params.objectId ∈ storage.policies) ∧
          BatchQuiet regrant workspaceId uid
            (storage.createCollab lib enableAccessControl regrant table workspaceId uid params outages).2
            (written lib table id uid params) paramsList

variable {lib enableAccessControl} {self : CollabStorageImpl} {table next : AfCollab} {workspaceId : String} {uid : Int}
  {params : CollabParams} {outages : WriteOutages} {regrant : Bool} {beginOutage commitOutage : Option Outage}

theorem isOk_iff {Failure Value : Type} {result : Except Failure Value} :
    result.isOk = true ↔ ∃ value, result = .ok value := by
  cases result <;> simp [Except.isOk, Except.toBool]

/-- A turn ends as its write does; a write that succeeds may be followed by a grant. -/
theorem createCollab_cases (lib : StorageLib yrs) (enableAccessControl regrant : Bool) (self : CollabStorageImpl)
    (table : AfCollab) (workspaceId : String) (uid : Int) (params : CollabParams) (outages : WriteOutages) :
    let inserted :=
      self.insertOrUpdateCollabWithTransaction lib enableAccessControl table workspaceId uid params outages
    self.createCollab lib enableAccessControl regrant table workspaceId uid params outages =
      (inserted.1, if regrant && inserted.1.isOk then
          (inserted.2.updatePolicy enableAccessControl uid params.objectId .fullAccess).2
        else inserted.2) := by
  rw [createCollab]
  cases self.insertOrUpdateCollabWithTransaction lib enableAccessControl table workspaceId uid params outages with
  | mk result after =>
    have granted := (updatePolicy_granted enableAccessControl after uid params.objectId).1
    revert granted
    cases result with
    | error error => simp [Except.isOk, Except.toBool]
    | ok stored =>
      cases regrant with
      | false => simp
      | true =>
        simp only [Except.isOk, Except.toBool, Bool.and_self, if_true]
        cases after.updatePolicy enableAccessControl uid params.objectId .fullAccess with
        | mk result last =>
          rintro ⟨⟩
          rfl

theorem createCollab_eq_ok :
    (self.createCollab lib enableAccessControl regrant table workspaceId uid params outages).1 = .ok next ↔
      ∃ id, Accepts lib enableAccessControl self table workspaceId uid params outages id ∧
        next = written lib table id uid params := by
  rw [createCollab_cases, insertOrUpdateCollabWithTransaction_eq_ok]

theorem createCollab_enforceWriteWorkspace {result : Except AppError AfCollab} {after : CollabStorageImpl}
    (turned : self.createCollab lib enableAccessControl regrant table workspaceId uid params outages = (result, after))
    (workspace : String) : after.enforceWriteWorkspace enableAccessControl uid workspace =
      self.enforceWriteWorkspace enableAccessControl uid workspace := by
  rw [createCollab_cases] at turned
  cases turned
  split
  · rw [updatePolicy_enforceWriteWorkspace, insertOrUpdateCollabWithTransaction_enforceWriteWorkspace]
  · rw [insertOrUpdateCollabWithTransaction_enforceWriteWorkspace]

theorem createCollab_grows {rule : Rule} (member : rule ∈ self.policies) :
    rule ∈ (self.createCollab lib enableAccessControl regrant table workspaceId uid params outages).2.policies := by
  rw [createCollab_cases]
  simp only
  split
  · exact updatePolicy_grows _ _ _ _ (insertOrUpdateCollabWithTransaction_grows lib member)
  · exact insertOrUpdateCollabWithTransaction_grows lib member

theorem GrantsNew.granted (grants : GrantsNew enableAccessControl self table uid params outages)
    (lib : StorageLib yrs) : fullAccess uid params.objectId ∈
      (self.insertOrUpdateCollabWithTransaction lib enableAccessControl table workspaceId uid params
        outages).2.policies := by
  cases insertOrUpdateCollabWithTransaction_policies lib with
  | inl held =>
    obtain ⟨_, unattempted⟩ := held
    exact absurd ⟨grants.valid, grants.answered, grants.absent⟩ unattempted
  | inr held =>
    obtain ⟨granted, _⟩ := held
    rw [granted, (updatePolicy_granted enableAccessControl self uid params.objectId).2.2, if_pos grants.enabled]
    exact RuleTable.mem_insert.mpr (.inr rfl)

/-- What a turn may add is there after it. -/
theorem createCollab_adds (lib : StorageLib yrs)
    (adds : GrantsNew enableAccessControl self table uid params outages ∨
      regrant = true ∧ enableAccessControl = true ∧
        ∃ id, Accepts lib enableAccessControl self table workspaceId uid params outages id) :
    fullAccess uid params.objectId ∈
      (self.createCollab lib enableAccessControl regrant table workspaceId uid params outages).2.policies := by
  rw [createCollab_cases]
  cases adds with
  | inl grants =>
    simp only
    split
    · exact updatePolicy_grows _ _ _ _ (grants.granted lib)
    · exact grants.granted lib
  | inr held =>
    obtain ⟨regranting, enabled, id, accepts⟩ := held
    rw [insertOrUpdateCollabWithTransaction_eq_ok.mpr ⟨id, accepts, rfl⟩]
    simp only [regranting, Except.isOk, Except.toBool, Bool.and_self, if_true]
    rw [(updatePolicy_granted _ _ _ _).2.2, if_pos enabled]
    exact RuleTable.mem_insert.mpr (.inr rfl)

theorem createCollab_policies_eq (lib : StorageLib yrs)
    (quiet : ¬ GrantsNew enableAccessControl self table uid params outages)
    (held : ∀ id, Accepts lib enableAccessControl self table workspaceId uid params outages id →
      regrant = true → enableAccessControl = true → fullAccess uid params.objectId ∈ self.policies) :
    (self.createCollab lib enableAccessControl regrant table workspaceId uid params outages).2.policies =
      self.policies := by
  have inserted : (self.insertOrUpdateCollabWithTransaction lib enableAccessControl table workspaceId uid params
      outages).2.policies = self.policies := (insertOrUpdateCollabWithTransaction_policies_eq lib).mpr quiet
  rw [createCollab_cases]
  simp only
  split
  · rename_i again
    obtain ⟨regranting, succeeded⟩ := Bool.and_eq_true_iff.mp again
    obtain ⟨next, succeeded⟩ := isOk_iff.mp succeeded
    obtain ⟨id, accepts, _⟩ := insertOrUpdateCollabWithTransaction_eq_ok.mp succeeded
    rw [← inserted, updatePolicy_policies_eq, inserted]
    exact held id accepts regranting
  · exact inserted

theorem createCollabs_grows {rule : Rule} (paramsList : List (CollabParams × WriteOutages))
    (member : rule ∈ self.policies) :
    rule ∈ (createCollabs lib enableAccessControl regrant workspaceId uid self table paramsList).2.policies := by
  induction paramsList generalizing self table with
  | nil => exact member
  | cons first paramsList inductionHypothesis =>
    have turn : rule ∈ (self.createCollab lib enableAccessControl regrant table workspaceId uid first.1
        first.2).2.policies := createCollab_grows member
    rw [createCollabs]
    split
    · rename_i error after failed
      rw [failed] at turn
      exact turn
    · rename_i stored after succeeded
      rw [succeeded] at turn
      exact inductionHypothesis turn

/-- A turn whose write is accepted hands its storage and its rows to the next one. -/
theorem createCollabs_accepted {id : Uuid}
    (accepts : Accepts lib enableAccessControl self table workspaceId uid params outages id)
    (paramsList : List (CollabParams × WriteOutages)) :
    createCollabs lib enableAccessControl regrant workspaceId uid self table ((params, outages) :: paramsList) =
      createCollabs lib enableAccessControl regrant workspaceId uid
        (self.createCollab lib enableAccessControl regrant table workspaceId uid params outages).2
        (written lib table id uid params) paramsList := by
  have stored : (self.createCollab lib enableAccessControl regrant table workspaceId uid params outages).1 =
      .ok (written lib table id uid params) := createCollab_eq_ok.mpr ⟨id, accepts, rfl⟩
  rw [createCollabs]
  split
  · rename_i error after failed
    rw [failed] at stored
    cases stored
  · rename_i next after succeeded
    rw [succeeded] at stored ⊢
    cases stored
    rfl

theorem createCollabs_policies_eq (lib : StorageLib yrs) (paramsList : List (CollabParams × WriteOutages)) :
    (createCollabs lib enableAccessControl regrant workspaceId uid self table paramsList).2.policies = self.policies ↔
      BatchQuiet lib enableAccessControl regrant workspaceId uid self table paramsList := by
  induction paramsList generalizing self table with
  | nil => simp [createCollabs, BatchQuiet]
  | cons first paramsList inductionHypothesis =>
    obtain ⟨params, outages⟩ := first
    rw [BatchQuiet]
    constructor
    · intro same
      -- what this turn adds would be there at the end
      have added : fullAccess uid params.objectId ∈ (self.createCollab lib enableAccessControl regrant table
          workspaceId uid params outages).2.policies → fullAccess uid params.objectId ∈ self.policies := by
        intro added
        rw [← same, createCollabs]
        split
        · rename_i error after failed
          rw [failed] at added
          exact added
        · rename_i stored after succeeded
          rw [succeeded] at added
          exact createCollabs_grows paramsList added
      have quiet : ¬ GrantsNew enableAccessControl self table uid params outages :=
        fun grants => grants.fresh (added (createCollab_adds lib (.inl grants)))
      have held : ∀ id, Accepts lib enableAccessControl self table workspaceId uid params outages id →
          regrant = true → enableAccessControl = true → fullAccess uid params.objectId ∈ self.policies :=
        fun id accepts regranting enabled =>
          added (createCollab_adds lib (.inr ⟨regranting, enabled, id, accepts⟩))
      refine ⟨quiet, fun id accepts => ⟨held id accepts, ?_⟩⟩
      rw [createCollabs_accepted accepts] at same
      rw [← inductionHypothesis, same]
      exact (createCollab_policies_eq lib quiet held).symm
    · rintro ⟨quiet, later⟩
      have unchanged := createCollab_policies_eq lib quiet fun id accepts => (later id accepts).1
      by_cases accepted : ∃ id, Accepts lib enableAccessControl self table workspaceId uid params outages id
      · obtain ⟨id, accepts⟩ := accepted
        rw [createCollabs_accepted accepts]
        exact (inductionHypothesis.mpr (later id accepts).2).trans unchanged
      · -- the batch ends with this turn
        rw [createCollabs]
        split
        · rename_i error after failed
          rw [failed] at unchanged
          exact unchanged
        · rename_i stored after succeeded
          obtain ⟨id, accepts, _⟩ := createCollab_eq_ok.mp (congrArg Prod.fst succeeded)
          exact absurd ⟨id, accepts⟩ accepted

theorem createCollabs_eq_ok (lib : StorageLib yrs) (paramsList : List (CollabParams × WriteOutages)) :
    (∃ next, (createCollabs lib enableAccessControl regrant workspaceId uid self table paramsList).1 = .ok next) ∧
        commitOutage = none ↔
      BatchAccepted lib enableAccessControl regrant workspaceId uid commitOutage self table paramsList := by
  induction paramsList generalizing self table with
  | nil => simp [createCollabs, BatchAccepted]
  | cons first paramsList inductionHypothesis =>
    obtain ⟨params, outages⟩ := first
    rw [BatchAccepted]
    constructor
    · rintro ⟨⟨next, succeeded⟩, committed⟩
      have accepted : ∃ id, Accepts lib enableAccessControl self table workspaceId uid params outages id := by
        rw [createCollabs] at succeeded
        split at succeeded
        · cases succeeded
        · rename_i stored after turn
          obtain ⟨id, accepts, _⟩ := createCollab_eq_ok.mp (congrArg Prod.fst turn)
          exact ⟨id, accepts⟩
      obtain ⟨id, accepts⟩ := accepted
      rw [createCollabs_accepted accepts] at succeeded
      exact ⟨id, accepts, inductionHypothesis.mp ⟨⟨next, succeeded⟩, committed⟩⟩
    · rintro ⟨id, accepts, later⟩
      rw [createCollabs_accepted accepts]
      exact inductionHypothesis.mpr later

theorem commit_policies (outage : Option Outage) : (self.commit table outage).2.policies = self.policies := by
  rw [commit]
  split <;> rfl

theorem commit_eq_ok {outage : Option Outage} :
    (∃ value, (self.commit table outage).1 = .ok value) ↔ outage = none := by
  cases outage <;> simp [commit, query]

theorem grantsNothing_iff {Value : Type} {result : Except AppError Value × CollabStorageImpl} :
    self.GrantsNothing result ↔ (∃ value, result.1 = .ok value) ∨ result.2.policies = self.policies := by
  rw [GrantsNothing]
  cases result.1 with
  | error error => simp
  | ok value => simp

theorem insertOrUpdateCollabWithTransaction_succeeds (lib : StorageLib yrs) :
    (∃ next, (self.insertOrUpdateCollabWithTransaction lib enableAccessControl table workspaceId uid params
        outages).1 = .ok next) ↔
      ∃ id, Accepts lib enableAccessControl self table workspaceId uid params outages id := by
  constructor
  · rintro ⟨next, succeeded⟩
    obtain ⟨id, accepts, _⟩ := insertOrUpdateCollabWithTransaction_eq_ok.mp succeeded
    exact ⟨id, accepts⟩
  · rintro ⟨id, accepts⟩
    exact ⟨_, insertOrUpdateCollabWithTransaction_eq_ok.mpr ⟨id, accepts, rfl⟩⟩

theorem insertOrUpdateCollabWithTransaction_grantsNothing (lib : StorageLib yrs) :
    self.GrantsNothing (self.insertOrUpdateCollabWithTransaction lib enableAccessControl table workspaceId uid params
        outages) ↔ GrantsAccepted lib enableAccessControl self table workspaceId uid params outages := by
  rw [grantsNothing_iff, insertOrUpdateCollabWithTransaction_policies_eq,
    insertOrUpdateCollabWithTransaction_succeeds, GrantsAccepted, imp_iff_or_not]

/-- A transaction that begins ends as the write in it and the commit do. -/
theorem insertOrUpdateCollab_begun (lib : StorageLib yrs) (begun : outages.beginOutage = none) :
    let result := self.insertOrUpdateCollab lib enableAccessControl workspaceId uid params outages
    let inserted := self.insertOrUpdateCollabWithTransaction lib enableAccessControl self.cache.table workspaceId uid
      params outages
    result.2.policies = inserted.2.policies ∧
      ((∃ value, result.1 = .ok value) ↔ (∃ next, inserted.1 = .ok next) ∧ outages.commitOutage = none) := by
  rw [insertOrUpdateCollab, begun]
  cases valid : params.validate with
  | error error => simp [insertOrUpdateCollabWithTransaction, valid]
  | ok accepted =>
    simp only [query_none]
    cases self.insertOrUpdateCollabWithTransaction lib enableAccessControl self.cache.table workspaceId uid params
        outages with
    | mk result after =>
      cases result with
      | error error => simp
      | ok next => simpa using ⟨commit_policies _, commit_eq_ok⟩

theorem insertOrUpdateCollab_grantsNothing (lib : StorageLib yrs) :
    self.GrantsNothing (self.insertOrUpdateCollab lib enableAccessControl workspaceId uid params outages) ↔
      (outages.beginOutage = none → GrantsNew enableAccessControl self self.cache.table uid params outages →
        outages.commitOutage = none ∧
          ∃ id, Accepts lib enableAccessControl self self.cache.table workspaceId uid params outages id) := by
  rw [grantsNothing_iff]
  cases begun : outages.beginOutage with
  | some outage =>
    refine iff_of_true (.inr ?_) nofun
    rw [insertOrUpdateCollab, begun]
    cases params.validate <;> simp [query]
  | none =>
    obtain ⟨policies, succeeded⟩ : _ ∧ _ := insertOrUpdateCollab_begun lib begun
    rw [policies, succeeded, insertOrUpdateCollabWithTransaction_policies_eq,
      insertOrUpdateCollabWithTransaction_succeeds, and_comm, ← imp_iff_or_not]
    exact ⟨fun accepted _ => accepted, fun accepted => accepted rfl⟩

/-- A batch whose transaction begins leaves no grant when it fails exactly when it does not fail
    or, up to its first failure, makes none. -/
theorem createCollabBatch_grantsNothing (lib : StorageLib yrs) (paramsList : List (CollabParams × WriteOutages)) :
    self.GrantsNothing (self.createCollabBatch lib enableAccessControl regrant workspaceId uid paramsList
        beginOutage commitOutage) ↔
      (beginOutage = none →
        BatchAccepted lib enableAccessControl regrant workspaceId uid commitOutage self self.cache.table paramsList ∨
          BatchQuiet lib enableAccessControl regrant workspaceId uid self self.cache.table paramsList) := by
  rw [grantsNothing_iff, ← createCollabs_policies_eq, ← createCollabs_eq_ok, createCollabBatch]
  cases beginOutage with
  | some outage => simp [query]
  | none =>
    simp only [query_none, forall_const]
    cases createCollabs lib enableAccessControl regrant workspaceId uid self self.cache.table paramsList with
    | mk result after =>
      cases result with
      | error error => simp
      | ok next => simp [commit_eq_ok, commit_policies]

/-- A write that fails grants nothing exactly when every write that makes a new grant goes
    through, with its commit where it has one of its own; a batch exactly when its transaction
    does not begin, it goes through as a whole or it makes no new grant up to its first failure. -/
theorem failed_write_grants_nothing_iff (lib : StorageLib yrs) (enableAccessControl : Bool) (self : CollabStorageImpl)
    (table : AfCollab) (workspaceId : String) (uid : Int) (params : CollabParams) (outages : WriteOutages)
    (paramsList : List (CollabParams × WriteOutages)) (beginOutage commitOutage : Option Outage) :
    (self.GrantsNothing (self.insertOrUpdateCollabWithTransaction lib enableAccessControl table workspaceId uid params
        outages) ↔ GrantsAccepted lib enableAccessControl self table workspaceId uid params outages) ∧
      (self.GrantsNothing (self.insertOrUpdateCollab lib enableAccessControl workspaceId uid params outages) ↔
        (outages.beginOutage = none → GrantsNew enableAccessControl self self.cache.table uid params outages →
          outages.commitOutage = none ∧
            ∃ id, Accepts lib enableAccessControl self self.cache.table workspaceId uid params outages id)) ∧
      ∀ regrant : Bool,
        self.GrantsNothing (self.createCollabBatch lib enableAccessControl regrant workspaceId uid paramsList
            beginOutage commitOutage) ↔
          (beginOutage = none →
            BatchAccepted lib enableAccessControl regrant workspaceId uid commitOutage self self.cache.table paramsList ∨
              BatchQuiet lib enableAccessControl regrant workspaceId uid self self.cache.table paramsList) :=
  ⟨insertOrUpdateCollabWithTransaction_grantsNothing lib, insertOrUpdateCollab_grantsNothing lib,
    fun _ => createCollabBatch_grantsNothing lib paramsList⟩

/-- Nobody has any right and nothing is stored. -/
def bare : CollabStorageImpl :=
  ⟨⟨fun _ => none, fun _ => none⟩, ⟨AFEnforcer.new RuleTable.empty noEnforceGroup, [], true⟩⟩

/-- A user without a role is refused a new document and has full access on it afterwards. -/
theorem refused_creator_is_granted :
    ¬ ∀ (self : CollabStorageImpl) (table : AfCollab) (workspaceId : String) (uid : Int) (params : CollabParams)
        (outages : WriteOutages),
      self.GrantsNothing (self.insertOrUpdateCollabWithTransaction typedLib true table workspaceId uid params
        outages) := by
  intro grantsNothing
  have accepted := insertOrUpdateCollabWithTransaction_grantsNothing typedLib |>.mp
    (grantsNothing bare (fun _ => none) "w" 1 ⟨"doc", [1], .document, false⟩ .none)
  obtain ⟨id, accepts⟩ := accepted ⟨rfl, rfl, rfl, rfl, RuleTable.not_mem_empty _⟩
  have allowed : bare.enforceWriteWorkspace true 1 "w" = .ok true := accepts.allowed
  revert allowed
  decide

end Failures

/-! ## The same write with its permission checks answered in advance -/

section Answers

variable {Op StateVector AwarenessUpdate : Type} [DecidableEq Op] {yrs : Yrs Op StateVector AwarenessUpdate}

theorem checkedInsert_congr (lib : StorageLib yrs) (enableAccessControl : Bool) (self : CollabStorageImpl)
    (table : AfCollab) (workspaceId : String) (uid : Int) (params : CollabParams) (outages : WriteOutages) :
    (self.updatePolicy enableAccessControl uid params.objectId .fullAccess).2.checkedInsert lib enableAccessControl
        table workspaceId uid params false outages =
      self.checkedInsert lib enableAccessControl table workspaceId uid params false outages := by
  simp [checkedInsert, outcomes, checkCollabPermission, updatePolicy_enforceWriteWorkspace, insertCollabEncoded]

theorem insertOrUpdateCollabWithTransaction_eq (lib : StorageLib yrs) (enableAccessControl : Bool)
    (self : CollabStorageImpl) (table : AfCollab) (workspaceId : String) (uid : Int) (params : CollabParams)
    (outages : WriteOutages) :
    let inserted := Storage.insertOrUpdateCollabWithTransaction lib table workspaceId uid params
      (self.outcomes enableAccessControl workspaceId uid params outages)
    let result :=
      self.insertOrUpdateCollabWithTransaction lib enableAccessControl table workspaceId uid params outages
    result.1 = inserted ∧ result.2.cache = match inserted with
      | .error _ => self.cache
      | .ok _ => (self.insertEncodeCollabBytes params outages.cacheWritable).cache := by
  -- whichever storage answers the checks, the write ends as `checkedInsert` does
  have checked : ∀ (storage : CollabStorageImpl) (collabExists : Bool), storage.cache = self.cache →
      storage.checkedInsert lib enableAccessControl table workspaceId uid params collabExists outages =
        self.checkedInsert lib enableAccessControl table workspaceId uid params collabExists outages →
      let result := storage.checkAndInsert lib enableAccessControl table workspaceId uid params collabExists outages
      let inserted := self.checkedInsert lib enableAccessControl table workspaceId uid params collabExists outages
      result.1 = inserted ∧ result.2.cache = match inserted with
        | .error _ => self.cache
        | .ok _ => (self.insertEncodeCollabBytes params outages.cacheWritable).cache := by
    intro storage collabExists sameCache sameInsert
    rw [checkAndInsert, sameInsert]
    cases self.checkedInsert lib enableAccessControl table workspaceId uid params collabExists outages with
    | error error => exact ⟨rfl, sameCache⟩
    | ok next =>
      refine ⟨rfl, ?_⟩
      simp only [insertEncodeCollabBytes]
      split <;> simp [sameCache]
  rw [insertOrUpdateCollabWithTransaction, Storage.insertOrUpdateCollabWithTransaction]
  cases params.validate with
  | error error => simp [bind, Except.bind]
  | ok accepted =>
    have answers : (self.outcomes enableAccessControl workspaceId uid params outages).existsOutage =
        outages.existsOutage := rfl
    rw [answers]
    cases isCollabExists table params.objectId outages.existsOutage with
    | error error => simp [bind, Except.bind]
    | ok collabExists =>
      cases collabExists with
      | true => exact checked self true rfl rfl
      | false =>
        obtain ⟨updated, sameCache, _⟩ := updatePolicy_granted enableAccessControl self uid params.objectId
        have sameInsert := checkedInsert_congr lib enableAccessControl self table workspaceId uid params outages
        have granted : (self.outcomes enableAccessControl workspaceId uid params outages).updatePolicy = .ok () :=
          updated
        cases grant : self.updatePolicy enableAccessControl uid params.objectId .fullAccess with
        | mk result storage =>
          rw [grant] at updated sameCache sameInsert
          cases updated
          simp only [granted]
          exact checked storage false sameCache sameInsert

end Answers

end CollabStorageImpl

end FlowCloud.Storage
