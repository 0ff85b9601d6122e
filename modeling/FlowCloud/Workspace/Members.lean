import Mathlib.Data.List.AList
import Mathlib.Data.List.Sort
import FlowCloud.Casbin.Realtime
import FlowCloud.Storage.Collab

/-! # Members of workspaces and collabs

Membership is kept twice.  An operation on members writes rows of two tables and, beside its
transaction, rows of the policies.  Each committed row change is announced, and listeners
apply it to the policies once more.  A restarted server knows the tables only.
-/

namespace FlowCloud.Workspace

open FlowCloud.Foundation FlowCloud.Entity FlowCloud.Casbin FlowCloud.Storage

/-! ## Tables and announcements -/

/-- The key is the primary key of the table; a permission id stands for its access level. -/
structure Database where
  uidOfEmail : String → Option Int
  ownerUid : Uuid → Option Int
  collabs : AfCollab
  workspaceMembers : AList fun _ : Uuid × Int => AFRole
  collabMembers : AList fun _ : Int × String => AFAccessLevel

inductive MemberAction where
  | insert
  | update
  | delete
  deriving DecidableEq, Repr

structure WorkspaceMemberRow where
  uid : Int
  role : AFRole
  workspaceId : Uuid
  deriving DecidableEq, Repr

structure WorkspaceMemberNotification where
  old : Option WorkspaceMemberRow
  new : Option WorkspaceMemberRow
  actionType : MemberAction
  deriving DecidableEq, Repr

structure AFCollabMemberRow where
  uid : Int
  oid : String
  accessLevel : AFAccessLevel
  deriving DecidableEq, Repr

structure CollabMemberNotification where
  old : Option AFCollabMemberRow
  new : Option AFCollabMemberRow
  actionType : MemberAction
  deriving DecidableEq, Repr

/-- The rows as the transaction sees them, with the announcements of its changes so far. -/
structure Transaction where
  database : Database
  workspaceChanges : List WorkspaceMemberNotification
  collabChanges : List CollabMemberNotification

def Transaction.begin (database : Database) : Transaction := ⟨database, [], []⟩

/-! ## Statements -/

namespace Transaction

def setWorkspaceMember (txn : Transaction) (row : WorkspaceMemberRow) (old : Option AFRole) (action : MemberAction) :
    Transaction :=
  { txn with
    database := { txn.database with
      workspaceMembers := txn.database.workspaceMembers.insert (row.workspaceId, row.uid) row.role }
    workspaceChanges := txn.workspaceChanges ++
      [⟨old.map fun role => { row with role }, some row, action⟩] }

/-- `INSERT ... SELECT ... ON CONFLICT DO NOTHING`. -/
def upsertWorkspaceMemberWithTxn (txn : Transaction) (workspaceId : Uuid) (memberEmail : String) (role : AFRole) :
    Transaction :=
  match txn.database.uidOfEmail memberEmail with
  | none => txn
  | some uid =>
    -- a member keeps the role of the row that is there
    if (workspaceId, uid) ∈ txn.database.workspaceMembers then txn
    else txn.setWorkspaceMember ⟨uid, role, workspaceId⟩ none .insert

/-- `UPDATE`: whoever is no member stays one. -/
def upsertWorkspaceMember (txn : Transaction) (workspaceId : Uuid) (email : String) (role : AFRole) : Transaction :=
  match txn.database.uidOfEmail email with
  | none => txn
  | some uid =>
    match txn.database.workspaceMembers.lookup (workspaceId, uid) with
    | none => txn
    | some old => txn.setWorkspaceMember ⟨uid, role, workspaceId⟩ (some old) .update

def deleteWorkspaceMembers (txn : Transaction) (workspaceId : Uuid) (memberEmail : String) :
    Except AppError Transaction :=
  match txn.database.uidOfEmail memberEmail, txn.database.ownerUid workspaceId with
  | some uid, some owner =>
    if owner = uid then
      .error (.notEnoughPermissions memberEmail ("delete member from workspace " ++ workspaceId.text))
    else
      match txn.database.workspaceMembers.lookup (workspaceId, uid) with
      | none => .ok txn
      | some role =>
        .ok { txn with
          database := { txn.database with
            workspaceMembers := txn.database.workspaceMembers.erase (workspaceId, uid) }
          workspaceChanges := txn.workspaceChanges ++ [⟨some ⟨uid, role, workspaceId⟩, none, .delete⟩] }
  -- a comparison with NULL selects no row
  | _, _ => .ok txn

/-- `INSERT ... ON CONFLICT DO UPDATE`. -/
def upsertCollabMemberWithTxn (txn : Transaction) (uid : Int) (oid : String) (accessLevel : AFAccessLevel) :
    Transaction :=
  let old := txn.database.collabMembers.lookup (uid, oid)
  { txn with
    database := { txn.database with
      collabMembers := txn.database.collabMembers.insert (uid, oid) accessLevel }
    collabChanges := txn.collabChanges ++
      [⟨old.map fun level => ⟨uid, oid, level⟩, some ⟨uid, oid, accessLevel⟩,
        if old.isSome then .update else .insert⟩] }

def insertCollabMember := upsertCollabMemberWithTxn

def deleteCollabMember (txn : Transaction) (uid : Int) (oid : String) : Transaction :=
  match txn.database.collabMembers.lookup (uid, oid) with
  | none => txn
  | some level =>
    { txn with
      database := { txn.database with collabMembers := txn.database.collabMembers.erase (uid, oid) }
      collabChanges := txn.collabChanges ++ [⟨some ⟨uid, oid, level⟩, none, .delete⟩] }

end Transaction

/-! ## Operations -/

/-- What an operation does outside its transaction, and the commit. -/
inductive Effect where
  | updatePolicy (uid : Int) (object : ObjectType) (action : ActionVariant)
  | removePolicy (uid : Int) (object : ObjectType)
  | commit (txn : Transaction)

def insertRole (uid : Int) (workspaceId : Uuid) (role : AFRole) : List Effect :=
  [.updatePolicy uid (.workspace workspaceId.text) (.fromRole role),
    .updatePolicy uid (.collab workspaceId.text) (.fromAccessLevel (.ofRole role))]

def removeRole (uid : Int) (workspaceId : Uuid) : List Effect :=
  [.removePolicy uid (.workspace workspaceId.text), .removePolicy uid (.collab workspaceId.text)]

def Database.selectUidFromEmail (database : Database) (email : String) : Except AppError Int :=
  match database.uidOfEmail email with
  | none => .error (.ofSqlx .rowNotFound)
  | some uid => .ok uid

section Operations

variable (database : Database)

/-- One turn of the loop of `add_workspace_members`. -/
def addWorkspaceMember (workspaceId : Uuid) (state : Transaction × AList fun _ : Int => AFRole)
    (member : CreateWorkspaceMember) : Except AppError (Transaction × AList fun _ : Int => AFRole) := do
  let uid ← state.1.database.selectUidFromEmail member.email
  let txn := state.1.upsertWorkspaceMemberWithTxn workspaceId member.email member.role
  let txn := txn.upsertCollabMemberWithTxn uid workspaceId.text (.ofRole member.role)
  return (txn, state.2.insert uid member.role)

/-- A `HashMap` visits its entries in an order of its own. -/
def visited (order : List Int) (roleByUid : AList fun _ : Int => AFRole) : List (Σ _ : Int, AFRole) :=
  roleByUid.entries.insertionSort fun first second => order.idxOf first.1 ≤ order.idxOf second.1

theorem mem_visited {order : List Int} {roleByUid : AList fun _ : Int => AFRole} {entry : Σ _ : Int, AFRole} :
    entry ∈ visited order roleByUid ↔ entry ∈ roleByUid.entries :=
  (List.perm_insertionSort _ _).mem_iff

def addWorkspaceMembers (workspaceId : Uuid) (members : List CreateWorkspaceMember) (order : List Int) :
    Except AppError (List Effect) := do
  let (txn, roleByUid) ← members.foldlM (addWorkspaceMember workspaceId) (.begin database, ∅)
  return (visited order roleByUid).flatMap (fun entry => insertRole entry.1 workspaceId entry.2) ++ [.commit txn]

def removeWorkspaceMember (workspaceId : Uuid) (state : Transaction × List Effect) (email : String) :
    Except AppError (Transaction × List Effect) := do
  let txn ← state.1.deleteWorkspaceMembers workspaceId email
  match txn.database.selectUidFromEmail email with
  | .ok uid => return (txn, state.2 ++ removeRole uid workspaceId)
  | .error _ => return (txn, state.2)

def removeWorkspaceMembers (workspaceId : Uuid) (memberEmails : List String) : Except AppError (List Effect) := do
  let (txn, effects) ← memberEmails.foldlM (removeWorkspaceMember workspaceId) (.begin database, [])
  return effects ++ [.commit txn]

/-- The handler looks the user up; the update of the row is committed before the role is
    inserted. -/
def updateWorkspaceMember (workspaceId : Uuid) (changeset : WorkspaceMemberChangeset) :
    Except AppError (List Effect) :=
  match changeset.role with
  | none => .ok []
  | some role => do
    let uid ← database.selectUidFromEmail changeset.email
    let txn := (Transaction.begin database).upsertWorkspaceMember workspaceId changeset.email role
    return .commit txn :: insertRole uid workspaceId role

def createCollabMember (params : InsertCollabMemberParams) : Except AppError (List Effect) := do
  params.validate
  if !(← isCollabExists database.collabs params.objectId none) then
    throw (.recordNotFound ("Fail to insert collab member. The Collab with object_id " ++ params.objectId ++
      " does not exist"))
  if (database.collabMembers.lookup (params.uid, params.objectId)).isSome then
    throw (.recordAlreadyExists ("Collab member with uid " ++ toString params.uid ++ " and object_id " ++
      params.objectId ++ " already exists"))
  let txn := (Transaction.begin database).insertCollabMember params.uid params.objectId params.accessLevel
  return [.updatePolicy params.uid (.collab params.objectId) (.fromAccessLevel params.accessLevel), .commit txn]

def upsertCollabMember (params : UpdateCollabMemberParams) : Except AppError (List Effect) := do
  params.validate
  if !(← isCollabExists database.collabs params.objectId none) then
    throw (.recordNotFound ("Fail to upsert collab member. The Collab with object_id " ++ params.objectId ++
      " does not exist"))
  let txn := (Transaction.begin database).insertCollabMember params.uid params.objectId params.accessLevel
  return [.updatePolicy params.uid (.collab params.objectId) (.fromAccessLevel params.accessLevel), .commit txn]

def deleteCollabMember (params : CollabMemberIdentify) : Except AppError (List Effect) := do
  params.validate
  let txn := (Transaction.begin database).deleteCollabMember params.uid params.objectId
  return [.removePolicy params.uid (.collab params.objectId), .commit txn]

end Operations

inductive MemberOperation where
  | addWorkspaceMembers (workspaceId : Uuid) (members : List CreateWorkspaceMember) (order : List Int)
  | updateWorkspaceMember (workspaceId : Uuid) (changeset : WorkspaceMemberChangeset)
  | removeWorkspaceMembers (workspaceId : Uuid) (memberEmails : List String)
  | createCollabMember (params : InsertCollabMemberParams)
  | upsertCollabMember (params : UpdateCollabMemberParams)
  | deleteCollabMember (params : CollabMemberIdentify)

def MemberOperation.effects (database : Database) : MemberOperation → Except AppError (List Effect)
  | .addWorkspaceMembers workspaceId members order => Workspace.addWorkspaceMembers database workspaceId members order
  | .updateWorkspaceMember workspaceId changeset => Workspace.updateWorkspaceMember database workspaceId changeset
  | .removeWorkspaceMembers workspaceId memberEmails =>
    Workspace.removeWorkspaceMembers database workspaceId memberEmails
  | .createCollabMember params => Workspace.createCollabMember database params
  | .upsertCollabMember params => Workspace.upsertCollabMember database params
  | .deleteCollabMember params => Workspace.deleteCollabMember database params

/-! ## The running server -/

structure MemberService where
  database : Database
  accessControl : AccessControl
  /-- What is left to do of the operation under way. -/
  underWay : List Effect
  workspaceChanges : List WorkspaceMemberNotification
  collabChanges : List CollabMemberNotification

/-- `PgAdapter::load_policy` from the rows in the database. -/
def Database.policies (database : Database) : RuleTable Rule :=
  loadPolicy (database.workspaceMembers.entries.map fun row => (row.1.2, row.1.1.text, row.2))
    (database.collabMembers.entries.map fun row => (row.1.1, row.1.2, row.2))

def Database.load (database : Database) : AccessControl :=
  ⟨AFEnforcer.new database.policies noEnforceGroup, [], true⟩

def MemberService.start (database : Database) : MemberService := ⟨database, database.load, [], [], []⟩

inductive MemberEvent where
  | operation (operation : MemberOperation)
  | proceed
  | workspaceChange
  | collabChange

section Service

variable (enableAccessControl : Bool)

/-- A turn of `spawn_listen_on_workspace_member_change`. -/
def applyWorkspaceChange (self : AccessControl) (change : WorkspaceMemberNotification) : AccessControl :=
  match change.actionType with
  | .insert | .update =>
    match change.new with
    | none => self
    | some row =>
      (self.updatePolicy enableAccessControl row.uid (.workspace row.workspaceId.text) (.fromRole row.role)).2
  | .delete =>
    match change.old with
    | none => self
    | some row => (self.removePolicy enableAccessControl row.uid (.workspace row.workspaceId.text)).2

/-- A turn of `spawn_listen_on_collab_member_change`. -/
def applyCollabChange (self : AccessControl) (change : CollabMemberNotification) : AccessControl :=
  match change.actionType with
  | .insert | .update =>
    match change.new with
    | none => self
    | some row => (self.updatePolicy enableAccessControl row.uid (.collab row.oid) (.fromAccessLevel row.accessLevel)).2
  | .delete =>
    match change.old with
    | none => self
    | some row => (self.removePolicy enableAccessControl row.uid (.collab row.oid)).2

def MemberService.perform (self : MemberService) : Effect → MemberService
  | .updatePolicy uid object action =>
    { self with accessControl := (self.accessControl.updatePolicy enableAccessControl uid object action).2 }
  | .removePolicy uid object =>
    { self with accessControl := (self.accessControl.removePolicy enableAccessControl uid object).2 }
  | .commit txn =>
    { self with
      database := txn.database
      workspaceChanges := self.workspaceChanges ++ txn.workspaceChanges
      collabChanges := self.collabChanges ++ txn.collabChanges }

/-- The operations follow one another, and only those that succeed are made; the listeners
    work in between. -/
def MemberService.step (self : MemberService) : MemberEvent → MemberService
  | .operation operation =>
    match self.underWay, operation.effects self.database with
    | [], .ok effects => { self with underWay := effects }
    | _, _ => self
  | .proceed =>
    match self.underWay with
    | [] => self
    | effect :: rest => { self with underWay := rest }.perform enableAccessControl effect
  | .workspaceChange =>
    match self.workspaceChanges with
    | [] => self
    | change :: rest =>
      { self with
        accessControl := applyWorkspaceChange enableAccessControl self.accessControl change
        workspaceChanges := rest }
  | .collabChange =>
    match self.collabChanges with
    | [] => self
    | change :: rest =>
      { self with
        accessControl := applyCollabChange enableAccessControl self.accessControl change
        collabChanges := rest }

end Service

/-- No operation is under way and every announcement has been dealt with. -/
structure MemberService.Settled (service : MemberService) : Prop where
  idle : service.underWay = []
  noWorkspaceChange : service.workspaceChanges = []
  noCollabChange : service.collabChanges = []

/-- Every request is decided as after a restart. -/
def MemberService.Agrees (enableAccessControl : Bool) (self : MemberService) : Prop :=
  ∀ workspaceId uid object action,
    self.accessControl.enforce enableAccessControl workspaceId uid object action =
      self.database.load.enforce enableAccessControl workspaceId uid object action

end FlowCloud.Workspace
