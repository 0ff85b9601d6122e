import FlowCloud.Foundation.Attempts
import FlowCloud.Workspace.Agreement

/-! # Operations on members that fail

The database takes back what an operation has written when a statement or the commit fails.
The policies are not part of its transaction: a row that was granted before the failure is
still granted after it.
-/

namespace FlowCloud.Workspace

open FlowCloud.Foundation FlowCloud.Entity FlowCloud.Casbin FlowCloud.Storage

/-! ## What the database answers -/

structure AddOutages where
  selectUid : Option Outage
  upsertWorkspaceMember : Option Outage
  selectPermission : Option Outage
  upsertCollabMember : Option Outage

structure RemoveOutages where
  isOwner : Option Outage
  delete : Option Outage
  selectUid : Option Outage

structure CollabMemberOutages where
  begin : Option Outage
  collabExists : Option Outage
  memberExists : Option Outage
  selectPermission : Option Outage
  write : Option Outage
  commit : Option Outage

/-! ## The operations -/

/-- The operations change the policies as they go, and return what they commit. -/
abbrev MemberProgram := Attempt AppError AccessControl Database

open Attempt

def Transaction.commit (txn : Transaction) (outage : Option Outage) (context : String) : Except AppError Database := do
  query outage fun _ => .internal context
  return txn.database

section Operations

variable (enableAccessControl : Bool) (database : Database)

/-- One turn of the first loop of `add_workspace_members`. -/
def addMemberRows (workspaceId : Uuid) (state : Transaction × AList fun _ : Int => AFRole)
    (entry : CreateWorkspaceMember × AddOutages) : Except AppError (Transaction × AList fun _ : Int => AFRole) := do
  query entry.2.selectUid .ofSqlx
  let uid ← state.1.database.selectUidFromEmail entry.1.email
  query entry.2.upsertWorkspaceMember .ofSqlx
  let txn := state.1.upsertWorkspaceMemberWithTxn workspaceId entry.1.email entry.1.role
  query entry.2.selectPermission fun _ => .internal "Get permission id from access level fail"
  query entry.2.upsertCollabMember fun _ =>
    .internal ("failed to insert collab member: user:" ++ toString uid ++ " oid:" ++ workspaceId.text)
  return (txn.upsertCollabMemberWithTxn uid workspaceId.text (.ofRole entry.1.role), state.2.insert uid entry.1.role)

def addMembersRows (workspaceId : Uuid) (members : List (CreateWorkspaceMember × AddOutages)) (begin : Option Outage) :
    Except AppError (Transaction × AList fun _ : Int => AFRole) := do
  query begin fun _ => .internal "Begin transaction to insert workspace members"
  members.foldlM (addMemberRows workspaceId) (.begin database, ∅)

def insertRoles (workspaceId : Uuid) (roleByUid : List (Σ _ : Int, AFRole)) : Attempt AppError AccessControl Unit :=
  roleByUid.forM fun entry =>
    changed fun accessControl => accessControl.insertRole enableAccessControl entry.1 workspaceId.text entry.2

def tryAddWorkspaceMembers (workspaceId : Uuid) (members : List (CreateWorkspaceMember × AddOutages))
    (order : List Int) (begin commit : Option Outage) : MemberProgram := do
  let rows ← answered (addMembersRows database workspaceId members begin)
  insertRoles enableAccessControl workspaceId (visited order rows.2)
  answered (rows.1.commit commit "Commit transaction to insert workspace members")

/-- The row is committed by itself. -/
def tryUpdateWorkspaceMember (uid : Int) (workspaceId : Uuid) (changeset : WorkspaceMemberChangeset)
    (update : Option Outage) : MemberProgram :=
  match changeset.role with
  | none => pure database
  | some role => do
    answered (query update .ofSqlx)
    changed fun accessControl => accessControl.insertRole enableAccessControl uid workspaceId.text role
    return ((Transaction.begin database).upsertWorkspaceMember workspaceId changeset.email role).database

/-- One turn of the loop of `remove_workspace_members`. -/
def removeMember (workspaceId : Uuid) (txn : Transaction) (entry : String × RemoveOutages) :
    Attempt AppError AccessControl Transaction := do
  let txn ← answered do
    query entry.2.isOwner .ofSqlx
    let deleted ← txn.deleteWorkspaceMembers workspaceId entry.1
    query entry.2.delete .ofSqlx
    return deleted
  let selected := do
    query entry.2.selectUid .ofSqlx
    txn.database.selectUidFromEmail entry.1
  match selected with
  | .ok uid => do
    changed fun accessControl => accessControl.removeRole enableAccessControl uid workspaceId.text
    return txn
  | .error _ => return txn

def tryRemoveWorkspaceMembers (workspaceId : Uuid) (memberEmails : List (String × RemoveOutages))
    (begin commit : Option Outage) : MemberProgram := do
  answered (query begin fun _ => .internal "Begin transaction to delete workspace members")
  let txn ← memberEmails.foldlM (removeMember enableAccessControl workspaceId) (.begin database)
  answered (txn.commit commit "Commit transaction to delete workspace members")

/-- `email` is what the database says about the user. -/
def tryLeaveWorkspace (workspaceId : Uuid) (email : Except AppError String) (outages : RemoveOutages)
    (begin commit : Option Outage) : MemberProgram := do
  let email ← answered email
  tryRemoveWorkspaceMembers enableAccessControl database workspaceId [(email, outages)] begin commit

/-- `insert_collab_member` and the commit after it. -/
def insertMemberRow (txn : Transaction) (params : InsertCollabMemberParams) (outages : CollabMemberOutages) :
    Except AppError Transaction := do
  query outages.selectPermission fun _ => .internal "Get permission id from access level fail"
  query outages.write fun _ =>
    .internal ("failed to insert collab member: user:" ++ toString params.uid ++ " oid:" ++ params.objectId)
  return txn.insertCollabMember params.uid params.objectId params.accessLevel

def checkCollab (params : InsertCollabMemberParams) (outages : CollabMemberOutages) (verb : String) :
    Except AppError Unit := do
  params.validate
  query outages.begin fun _ => .internal ("acquire transaction to " ++ verb ++ " collab member")
  if !(← isCollabExists database.collabs params.objectId outages.collabExists) then
    throw (.recordNotFound ("Fail to " ++ verb ++ " collab member. The Collab with object_id " ++ params.objectId ++
      " does not exist"))

def createMemberRow (params : InsertCollabMemberParams) (outages : CollabMemberOutages) :
    Except AppError Transaction := do
  checkCollab database params outages "insert"
  query outages.memberExists .ofSqlx
  if (database.collabMembers.lookup (params.uid, params.objectId)).isSome then
    throw (.recordAlreadyExists ("Collab member with uid " ++ toString params.uid ++ " and object_id " ++
      params.objectId ++ " already exists"))
  insertMemberRow (.begin database) params outages

def updateAccessLevelPolicy (params : InsertCollabMemberParams) : Attempt AppError AccessControl Unit :=
  changed fun accessControl =>
    accessControl.updatePolicy enableAccessControl params.uid (.collab params.objectId)
      (.fromAccessLevel params.accessLevel)

def tryCreateCollabMember (params : InsertCollabMemberParams) (outages : CollabMemberOutages) : MemberProgram := do
  let txn ← answered (createMemberRow database params outages)
  updateAccessLevelPolicy enableAccessControl params
  answered (txn.commit outages.commit "fail to commit the transaction to insert collab member")

/-- The policy is updated before the row is written. -/
def tryUpsertCollabMember (params : UpdateCollabMemberParams) (outages : CollabMemberOutages) : MemberProgram := do
  answered (checkCollab database params outages "upsert")
  updateAccessLevelPolicy enableAccessControl params
  answered do
    let txn ← insertMemberRow (.begin database) params outages
    txn.commit outages.commit "fail to commit the transaction to upsert collab member"

def tryDeleteCollabMember (params : CollabMemberIdentify) (outages : CollabMemberOutages) : MemberProgram := do
  let txn ← answered do
    params.validate
    query outages.begin fun _ => .internal "acquire transaction to remove collab member"
    query outages.write .ofSqlx
    return (Transaction.begin database).deleteCollabMember params.uid params.objectId
  changed fun accessControl => accessControl.removePolicy enableAccessControl params.uid (.collab params.objectId)
  answered (txn.commit outages.commit "fail to commit the transaction to remove collab member")

end Operations

inductive MemberAttempt where
  | addWorkspaceMembers (workspaceId : Uuid) (members : List (CreateWorkspaceMember × AddOutages))
      (order : List Int) (begin commit : Option Outage)
  | updateWorkspaceMember (uid : Int) (workspaceId : Uuid) (changeset : WorkspaceMemberChangeset)
      (update : Option Outage)
  | removeWorkspaceMembers (workspaceId : Uuid) (memberEmails : List (String × RemoveOutages))
      (begin commit : Option Outage)
  | leaveWorkspace (workspaceId : Uuid) (email : Except AppError String) (outages : RemoveOutages)
      (begin commit : Option Outage)
  | createCollabMember (params : InsertCollabMemberParams) (outages : CollabMemberOutages)
  | upsertCollabMember (params : UpdateCollabMemberParams) (outages : CollabMemberOutages)
  | deleteCollabMember (params : CollabMemberIdentify) (outages : CollabMemberOutages)

def MemberAttempt.program (enableAccessControl : Bool) (database : Database) : MemberAttempt → MemberProgram
  | .addWorkspaceMembers workspaceId members order begin commit =>
    tryAddWorkspaceMembers enableAccessControl database workspaceId members order begin commit
  | .updateWorkspaceMember uid workspaceId changeset update =>
    tryUpdateWorkspaceMember enableAccessControl database uid workspaceId changeset update
  | .removeWorkspaceMembers workspaceId memberEmails begin commit =>
    tryRemoveWorkspaceMembers enableAccessControl database workspaceId memberEmails begin commit
  | .leaveWorkspace workspaceId email outages begin commit =>
    tryLeaveWorkspace enableAccessControl database workspaceId email outages begin commit
  | .createCollabMember params outages => tryCreateCollabMember enableAccessControl database params outages
  | .upsertCollabMember params outages => tryUpsertCollabMember enableAccessControl database params outages
  | .deleteCollabMember params outages => tryDeleteCollabMember enableAccessControl database params outages

/-! ## What the operations grant -/

/-- The rules that `insert_role` adds. -/
def roleRules (uid : Int) (workspaceId : Uuid) (role : AFRole) : List Rule :=
  [workspaceRule uid workspaceId role, collabRule uid workspaceId.text (.ofRole role)]

/-- The change succeeds and adds the rules to the policies. -/
def Grants (change : Attempt AppError AccessControl Unit) (rules : List Rule) : Prop :=
  ∀ accessControl, ∃ next, change accessControl = (.ok (), next) ∧
    policies next = (policies accessControl).insertAll rules

theorem grants_nil : Grants (pure ()) [] := fun accessControl => ⟨accessControl, rfl, rfl⟩

theorem Grants.bind {first second : Attempt AppError AccessControl Unit} {firstRules secondRules : List Rule}
    (left : Grants first firstRules) (right : Grants second secondRules) :
    Grants (first >>= fun _ => second) (firstRules ++ secondRules) := by
  intro accessControl
  obtain ⟨middle, ranFirst, addedFirst⟩ := left accessControl
  obtain ⟨last, ranSecond, addedSecond⟩ := right middle
  refine ⟨last, (bind_of_ok ranFirst).trans ranSecond, ?_⟩
  rw [addedSecond, addedFirst, RuleTable.insertAll_append]

theorem grants_forM {Item : Type} {change : Item → Attempt AppError AccessControl Unit} {rules : Item → List Rule}
    (each : ∀ item, Grants (change item) (rules item)) (items : List Item) :
    Grants (items.forM change) (items.flatMap rules) := by
  induction items with
  | nil => exact grants_nil
  | cons item items inductionHypothesis =>
    rw [List.flatMap_cons]
    show Grants (change item >>= fun _ => items.forM change) _
    exact (each item).bind inductionHypothesis

theorem updatePolicy_grants {uid : Int} {object : ObjectType} {action : ActionVariant}
    (valid : validateObjAction object action = .ok ()) (accessControl : AccessControl) :
    ∃ next, accessControl.updatePolicy true uid object action = (.ok (), next) ∧
      policies next = (policies accessControl).insert (policyRule uid object action.toAction) := by
  have updated : accessControl.enforcer.updatePolicy uid object action = .ok { accessControl.enforcer with
      enforcer := accessControl.enforcer.enforcer.addPolicy (policyRule uid object action.toAction) } := by
    rw [AFEnforcer.updatePolicy, valid]
    rfl
  simp only [AccessControl.updatePolicy, if_pos, updated]
  refine ⟨_, rfl, ?_⟩
  simp only [policies, AccessControl.send_enforcer]
  rfl

theorem grants_updateAccessLevelPolicy (params : InsertCollabMemberParams) :
    Grants (updateAccessLevelPolicy true params) [collabRule params.uid params.objectId params.accessLevel] := by
  intro accessControl
  exact @updatePolicy_grants params.uid (.collab params.objectId) (.fromAccessLevel params.accessLevel) rfl
    accessControl

theorem grants_insertRole (uid : Int) (workspaceId : Uuid) (role : AFRole) :
    Grants (changed fun accessControl => accessControl.insertRole true uid workspaceId.text role)
      (roleRules uid workspaceId role) := by
  intro accessControl
  obtain ⟨middle, updated, addedFirst⟩ := @updatePolicy_grants uid (.workspace workspaceId.text)
    (.fromRole role) rfl accessControl
  obtain ⟨last, updatedAgain, addedSecond⟩ := @updatePolicy_grants uid (.collab workspaceId.text)
    (.fromAccessLevel (.ofRole role)) rfl middle
  refine ⟨last, ?_, ?_⟩
  · show accessControl.insertRole true uid workspaceId.text role = _
    rw [AccessControl.insertRole, updated]
    exact updatedAgain
  · rw [addedSecond, addedFirst]
    rfl

theorem grants_insertRoles (workspaceId : Uuid) (roleByUid : List (Σ _ : Int, AFRole)) :
    Grants (insertRoles true workspaceId roleByUid)
      (roleByUid.flatMap fun entry => roleRules entry.1 workspaceId entry.2) := by
  rw [insertRoles]
  apply grants_forM
  exact fun entry => grants_insertRole entry.1 workspaceId entry.2

/-! ## What leaves the policies alone -/

theorem leaves_disabled_insertRole (uid : Int) (workspaceId : Uuid) (role : AFRole) :
    Leaves policies (changed fun accessControl => accessControl.insertRole false uid workspaceId.text role) :=
  fun _ => rfl

theorem leaves_removePolicy (enableAccessControl : Bool) (uid : Int) (object : ObjectType) :
    Leaves policies (changed fun accessControl => accessControl.removePolicy enableAccessControl uid object) := by
  intro accessControl
  cases enableAccessControl with
  | false => rfl
  | true => exact congrArg (fun enforcer => enforcer.enforcer.policies) (removePolicy_enforcer _ _ _)

theorem leaves_removeRole (enableAccessControl : Bool) (uid : Int) (workspaceId : Uuid) :
    Leaves policies
      (changed fun accessControl => accessControl.removeRole enableAccessControl uid workspaceId.text) := by
  intro accessControl
  have first := leaves_removePolicy enableAccessControl uid (.workspace workspaceId.text) accessControl
  show policies (accessControl.removeRole enableAccessControl uid workspaceId.text).2 = _
  rw [AccessControl.removeRole]
  split
  · rename_i next removed
    have second := leaves_removePolicy enableAccessControl uid (.collab workspaceId.text) next
    simp only [changed, removed] at first
    exact second.trans first
  · exact first

theorem leaves_removeMember (enableAccessControl : Bool) (workspaceId : Uuid) (txn : Transaction)
    (entry : String × RemoveOutages) : Leaves policies (removeMember enableAccessControl workspaceId txn entry) := by
  apply (leaves_answered _).bind
  intro txn
  dsimp only
  split
  · exact (leaves_removeRole _ _ _).bind fun _ => leaves_pure _
  · exact leaves_pure _

theorem leaves_removeWorkspaceMembers (enableAccessControl : Bool) (database : Database) (workspaceId : Uuid)
    (memberEmails : List (String × RemoveOutages)) (begin commit : Option Outage) :
    Leaves policies (tryRemoveWorkspaceMembers enableAccessControl database workspaceId memberEmails begin commit) := by
  apply (leaves_answered _).bind
  intro _
  apply (leaves_foldlM (leaves_removeMember enableAccessControl workspaceId) _ _).bind
  exact fun _ => leaves_answered _

/-! ## How far an addition gets -/

structure AddOutages.Answered (outages : AddOutages) : Prop where
  selectUid : outages.selectUid = none
  upsertWorkspaceMember : outages.upsertWorkspaceMember = none
  selectPermission : outages.selectPermission = none
  upsertCollabMember : outages.upsertCollabMember = none

/-- Every statement before the commit is answered, and every email is known. -/
def AddsRows (database : Database) (members : List (CreateWorkspaceMember × AddOutages)) (begin : Option Outage) :
    Prop :=
  begin = none ∧ ∀ entry ∈ members, entry.2.Answered ∧ (database.uidOfEmail entry.1.email).isSome

/-- The role that the list gives to the user, the last one if there are several. -/
def roleOf (database : Database) (members : List (CreateWorkspaceMember × AddOutages)) (uid : Int) : Option AFRole :=
  (members.reverse.find? fun entry => database.uidOfEmail entry.1.email = some uid).map fun entry => entry.1.role

section Rows

variable {database : Database} {workspaceId : Uuid} {members : List (CreateWorkspaceMember × AddOutages)}
  {entry : CreateWorkspaceMember × AddOutages} {state next : Transaction × AList fun _ : Int => AFRole}

theorem selectUidFromEmail_eq_ok {email : String} {uid : Int} :
    database.selectUidFromEmail email = .ok uid ↔ database.uidOfEmail email = some uid := by
  rw [Database.selectUidFromEmail]
  cases database.uidOfEmail email <;> simp

theorem addMemberRows_eq_ok : addMemberRows workspaceId state entry = .ok next ↔
    entry.2.Answered ∧ ∃ uid, state.1.database.uidOfEmail entry.1.email = some uid ∧
      next = ((state.1.upsertWorkspaceMemberWithTxn workspaceId entry.1.email entry.1.role).upsertCollabMemberWithTxn
        uid workspaceId.text (.ofRole entry.1.role), state.2.insert uid entry.1.role) := by
  simp only [addMemberRows, bind_eq_ok, query_eq_ok, selectUidFromEmail_eq_ok]
  constructor
  · rintro ⟨_, select, uid, known, _, member, _, permission, _, collab, last⟩
    cases last
    exact ⟨⟨select, member, permission, collab⟩, uid, known, rfl⟩
  · rintro ⟨⟨select, member, permission, collab⟩, uid, known, rfl⟩
    exact ⟨(), select, uid, known, (), member, (), permission, (), collab, rfl⟩

theorem upsertWorkspaceMember_users (txn : Transaction) (workspaceId : Uuid) (email : String) (role : AFRole) :
    (txn.upsertWorkspaceMemberWithTxn workspaceId email role).database.uidOfEmail = txn.database.uidOfEmail := by
  rw [Transaction.upsertWorkspaceMemberWithTxn]
  split
  · rfl
  · split <;> rfl

/-- The users stay, and the map gets the entry's role. -/
theorem addMemberRows_next (added : addMemberRows workspaceId state entry = .ok next)
    (users : state.1.database.uidOfEmail = database.uidOfEmail) :
    next.1.database.uidOfEmail = database.uidOfEmail ∧ ∀ uid, next.2.lookup uid =
      if database.uidOfEmail entry.1.email = some uid then some entry.1.role else state.2.lookup uid := by
  obtain ⟨_, uid, known, rfl⟩ := addMemberRows_eq_ok.mp added
  rw [users] at known
  refine ⟨(upsertWorkspaceMember_users _ _ _ _).trans users, fun other => ?_⟩
  rw [known]
  by_cases same : uid = other
  · subst same
    rw [AList.lookup_insert, if_pos rfl]
  · rw [AList.lookup_insert_ne (Ne.symm same), if_neg (fun equal => same (Option.some.inj equal))]

theorem foldlM_addMemberRows (ended : members.foldlM (addMemberRows workspaceId) state = .ok next)
    (users : state.1.database.uidOfEmail = database.uidOfEmail) :
    (∀ entry ∈ members, entry.2.Answered ∧ (database.uidOfEmail entry.1.email).isSome) ∧
      ∀ uid, next.2.lookup uid = (roleOf database members uid).or (state.2.lookup uid) := by
  induction members generalizing state with
  | nil =>
    cases ended
    exact ⟨List.forall_mem_nil _, fun _ => rfl⟩
  | cons entry members inductionHypothesis =>
    rw [List.foldlM_cons] at ended
    obtain ⟨middle, added, ended⟩ := bind_eq_ok.mp ended
    obtain ⟨answered, uid, known, _⟩ := addMemberRows_eq_ok.mp added
    obtain ⟨usersAfter, lookups⟩ := addMemberRows_next added users
    obtain ⟨rest, last⟩ := inductionHypothesis ended usersAfter
    rw [users] at known
    refine ⟨List.forall_mem_cons.mpr ⟨⟨answered, by rw [known]; rfl⟩, rest⟩, fun other => ?_⟩
    rw [last, lookups, roleOf, roleOf, List.reverse_cons, List.find?_append]
    cases members.reverse.find? fun entry => database.uidOfEmail entry.1.email = some other with
    | some later => simp
    | none => by_cases same : database.uidOfEmail entry.1.email = some other <;> simp [same]

theorem foldlM_addMemberRows_of_answered
    (answered : ∀ entry ∈ members, entry.2.Answered ∧ (database.uidOfEmail entry.1.email).isSome)
    (users : state.1.database.uidOfEmail = database.uidOfEmail) :
    ∃ next, members.foldlM (addMemberRows workspaceId) state = .ok next := by
  induction members generalizing state with
  | nil => exact ⟨state, rfl⟩
  | cons entry members inductionHypothesis =>
    rw [List.forall_mem_cons] at answered
    obtain ⟨uid, known⟩ := Option.isSome_iff_exists.mp answered.1.2
    have added : ∃ next, addMemberRows workspaceId state entry = .ok next :=
      ⟨_, addMemberRows_eq_ok.mpr ⟨answered.1.1, uid, by rw [users, known], rfl⟩⟩
    obtain ⟨middle, added⟩ := added
    obtain ⟨next, ended⟩ := inductionHypothesis answered.2 (addMemberRows_next added users).1
    refine ⟨next, ?_⟩
    rw [List.foldlM_cons]
    exact bind_eq_ok.mpr ⟨_, added, ended⟩

theorem addMembersRows_eq_ok {begin : Option Outage} :
    (∃ rows, addMembersRows database workspaceId members begin = .ok rows) ↔ AddsRows database members begin := by
  simp only [addMembersRows, bind_eq_ok, query_eq_ok]
  constructor
  · rintro ⟨rows, _, begun, ended⟩
    exact ⟨begun, (foldlM_addMemberRows ended rfl).1⟩
  · rintro ⟨begun, answered⟩
    have users : (Transaction.begin database).database.uidOfEmail = database.uidOfEmail := rfl
    obtain ⟨rows, ended⟩ := @foldlM_addMemberRows_of_answered database workspaceId members (.begin database, ∅)
      answered users
    exact ⟨rows, (), begun, ended⟩

theorem addMembersRows_roles {begin : Option Outage}
    (added : addMembersRows database workspaceId members begin = .ok next)
    (uid : Int) : next.2.lookup uid = roleOf database members uid := by
  simp only [addMembersRows, bind_eq_ok] at added
  obtain ⟨_, _, ended⟩ := added
  have users : (Transaction.begin database).database.uidOfEmail = database.uidOfEmail := rfl
  rw [(foldlM_addMemberRows ended users).2 uid]
  simp

end Rows

/-! ## How far the operations on collab members get -/

/-- The request is valid, and the collab is there. -/
def CollabChecked (database : Database) (params : InsertCollabMemberParams) (outages : CollabMemberOutages) : Prop :=
  params.validate = .ok () ∧ outages.begin = none ∧ outages.collabExists = none ∧
    (database.collabs params.objectId).isSome

/-- There is no such member yet, and the row can be written. -/
def CreatesRow (database : Database) (params : InsertCollabMemberParams) (outages : CollabMemberOutages) : Prop :=
  CollabChecked database params outages ∧ outages.memberExists = none ∧
    database.collabMembers.lookup (params.uid, params.objectId) = none ∧
    outages.selectPermission = none ∧ outages.write = none

section CollabRows

variable {database : Database} {params : InsertCollabMemberParams} {outages : CollabMemberOutages}

theorem checkCollab_eq_ok {verb : String} :
    checkCollab database params outages verb = .ok () ↔ CollabChecked database params outages := by
  simp only [checkCollab, isCollabExists, bind_eq_ok, query_eq_ok, CollabChecked]
  constructor
  · rintro ⟨_, valid, _, begun, exists_, ⟨_, asked, found⟩, present⟩
    cases found
    refine ⟨valid, begun, asked, ?_⟩
    have notAbsent := (throw_or_eq_ok.mp present).1
    rw [Option.isSome_iff_ne_none]
    simpa using notAbsent
  · rintro ⟨valid, begun, asked, present⟩
    refine ⟨(), valid, (), begun, true, ⟨(), asked, ?_⟩, rfl⟩
    rw [present]
    rfl

theorem insertMemberRow_eq_ok {txn : Transaction} :
    (∃ next, insertMemberRow txn params outages = .ok next) ↔
      outages.selectPermission = none ∧ outages.write = none := by
  simp only [insertMemberRow, bind_eq_ok, query_eq_ok]
  constructor
  · rintro ⟨_, _, permission, _, written, _⟩
    exact ⟨permission, written⟩
  · rintro ⟨permission, written⟩
    exact ⟨_, (), permission, (), written, rfl⟩

theorem createMemberRow_eq_ok :
    (∃ txn, createMemberRow database params outages = .ok txn) ↔ CreatesRow database params outages := by
  simp only [createMemberRow, bind_eq_ok, query_eq_ok, CreatesRow]
  constructor
  · rintro ⟨txn, _, checked, _, asked, written⟩
    split at written
    · cases written
    · rename_i absent
      obtain ⟨permission, row⟩ := insertMemberRow_eq_ok.mp ⟨txn, written⟩
      exact ⟨checkCollab_eq_ok.mp checked, asked, by simpa using absent, permission, row⟩
  · rintro ⟨checked, asked, absent, permission, row⟩
    obtain ⟨txn, written⟩ := insertMemberRow_eq_ok.mpr ⟨permission, row⟩
    refine ⟨txn, (), checkCollab_eq_ok.mpr checked, (), asked, ?_⟩
    rw [absent]
    exact written

theorem commit_eq_ok {txn : Transaction} {outage : Option Outage} {context : String} :
    (∃ committed, txn.commit outage context = .ok committed) ↔ outage = none := by
  simp only [Transaction.commit, bind_eq_ok, query_eq_ok]
  constructor
  · rintro ⟨_, _, committed, _⟩
    exact committed
  · intro committed
    exact ⟨_, (), committed, rfl⟩

end CollabRows

/-! ## Which failures keep the policies -/

section Harmless

variable {database : Database} {accessControl : AccessControl}

/-- A change between two answers stays if the second one is a failure. -/
theorem keepsOnFailure_grant {First : Type} {before : Except AppError First}
    {change : First → Attempt AppError AccessControl Unit} {rules : First → List Rule}
    {after : First → Except AppError Database} (grants : ∀ value, Grants (change value) (rules value)) :
    KeepsOnFailure policies (answered before >>= fun value => change value >>= fun _ => answered (after value))
        accessControl ↔
      ∀ value, before = .ok value → (∃ last, after value = .ok last) ∨
        ∀ rule ∈ rules value, rule ∈ policies accessControl := by
  rw [keepsOnFailure_answered_bind]
  refine forall_congr' fun value => imp_congr_right fun _ => ?_
  obtain ⟨next, made, added⟩ := grants value accessControl
  rw [keepsOnFailure_change made, added, RuleTable.insertAll_eq_self]

end Harmless

/-- A failure finds the policies as they were: what the operation grants before it can fail is a
    policy already, or nothing fails any more. -/
def MemberAttempt.Harmless (enableAccessControl : Bool) (database : Database) (accessControl : AccessControl) :
    MemberAttempt → Prop
  | .addWorkspaceMembers workspaceId members _ begin commit =>
    enableAccessControl = false ∨ commit = none ∨ ¬ AddsRows database members begin ∨
      ∀ uid role, roleOf database members uid = some role →
        ∀ rule ∈ roleRules uid workspaceId role, rule ∈ policies accessControl
  | .createCollabMember params outages =>
    enableAccessControl = false ∨ outages.commit = none ∨ ¬ CreatesRow database params outages ∨
      collabRule params.uid params.objectId params.accessLevel ∈ policies accessControl
  | .upsertCollabMember params outages =>
    enableAccessControl = false ∨
      (outages.selectPermission = none ∧ outages.write = none ∧ outages.commit = none) ∨
      ¬ CollabChecked database params outages ∨
      collabRule params.uid params.objectId params.accessLevel ∈ policies accessControl
  | .updateWorkspaceMember _ _ _ _ | .removeWorkspaceMembers _ _ _ _ | .leaveWorkspace _ _ _ _ _
  | .deleteCollabMember _ _ => True

section Theorem

variable {database : Database} {accessControl : AccessControl}

theorem tryAddWorkspaceMembers_keeps_iff {workspaceId : Uuid} {members : List (CreateWorkspaceMember × AddOutages)}
    {order : List Int} {begin commit : Option Outage} :
    KeepsOnFailure policies (tryAddWorkspaceMembers true database workspaceId members order begin commit)
        accessControl ↔
      commit = none ∨ ¬ AddsRows database members begin ∨
        ∀ uid role, roleOf database members uid = some role →
          ∀ rule ∈ roleRules uid workspaceId role, rule ∈ policies accessControl := by
  have grants : ∀ rows : Transaction × AList fun _ : Int => AFRole,
      Grants (insertRoles true workspaceId (visited order rows.2))
        ((visited order rows.2).flatMap fun entry => roleRules entry.1 workspaceId entry.2) :=
    fun rows => grants_insertRoles workspaceId (visited order rows.2)
  refine (keepsOnFailure_grant grants).trans ?_
  simp only [commit_eq_ok]
  -- the map has the last role of each user
  have granted : ∀ rows, addMembersRows database workspaceId members begin = .ok rows →
      ((∀ rule ∈ (visited order rows.2).flatMap fun entry => roleRules entry.1 workspaceId entry.2,
          rule ∈ policies accessControl) ↔
        ∀ uid role, roleOf database members uid = some role →
          ∀ rule ∈ roleRules uid workspaceId role, rule ∈ policies accessControl) := by
    intro rows added
    have roles := addMembersRows_roles added
    constructor
    · intro present uid role given rule member
      rw [← roles uid] at given
      exact present rule
        (List.mem_flatMap.mpr ⟨⟨uid, role⟩, mem_visited.mpr (AList.mem_lookup_iff.mp given), member⟩)
    · intro present rule member
      obtain ⟨⟨uid, role⟩, entry, member⟩ := List.mem_flatMap.mp member
      exact present uid role ((roles uid).symm.trans (AList.mem_lookup_iff.mpr (mem_visited.mp entry))) rule member
  constructor
  · intro keeps
    by_cases adds : AddsRows database members begin
    · obtain ⟨rows, added⟩ := addMembersRows_eq_ok.mpr adds
      exact (keeps rows added).imp_right fun present => .inr ((granted rows added).mp present)
    · exact .inr (.inl adds)
  · rintro (committed | refused | present) rows added
    · exact .inl committed
    · exact absurd (addMembersRows_eq_ok.mp ⟨rows, added⟩) refused
    · exact .inr ((granted rows added).mpr present)

theorem tryCreateCollabMember_keeps_iff {params : InsertCollabMemberParams} {outages : CollabMemberOutages} :
    KeepsOnFailure policies (tryCreateCollabMember true database params outages) accessControl ↔
      outages.commit = none ∨ ¬ CreatesRow database params outages ∨
        collabRule params.uid params.objectId params.accessLevel ∈ policies accessControl := by
  have grants : ∀ _ : Transaction, Grants (updateAccessLevelPolicy true params)
      [collabRule params.uid params.objectId params.accessLevel] :=
    fun _ => grants_updateAccessLevelPolicy params
  refine (keepsOnFailure_grant grants).trans ?_
  simp only [commit_eq_ok, List.forall_mem_singleton]
  constructor
  · intro keeps
    by_cases creates : CreatesRow database params outages
    · obtain ⟨txn, written⟩ := createMemberRow_eq_ok.mpr creates
      exact (keeps txn written).imp_right .inr
    · exact .inr (.inl creates)
  · rintro (committed | refused | present) txn written
    · exact .inl committed
    · exact absurd (createMemberRow_eq_ok.mp ⟨txn, written⟩) refused
    · exact .inr present

theorem tryUpsertCollabMember_keeps_iff {params : UpdateCollabMemberParams} {outages : CollabMemberOutages} :
    KeepsOnFailure policies (tryUpsertCollabMember true database params outages) accessControl ↔
      (outages.selectPermission = none ∧ outages.write = none ∧ outages.commit = none) ∨
        ¬ CollabChecked database params outages ∨
        collabRule params.uid params.objectId params.accessLevel ∈ policies accessControl := by
  have grants : ∀ _ : Unit, Grants (updateAccessLevelPolicy true params)
      [collabRule params.uid params.objectId params.accessLevel] :=
    fun _ => grants_updateAccessLevelPolicy params
  refine (keepsOnFailure_grant grants).trans ?_
  have finishes : (∃ last, (do
        let txn ← insertMemberRow (.begin database) params outages
        txn.commit outages.commit "fail to commit the transaction to upsert collab member") = .ok last) ↔
      outages.selectPermission = none ∧ outages.write = none ∧ outages.commit = none := by
    simp only [bind_eq_ok]
    constructor
    · rintro ⟨last, txn, written, committed⟩
      obtain ⟨permission, row⟩ := insertMemberRow_eq_ok.mp ⟨txn, written⟩
      exact ⟨permission, row, commit_eq_ok.mp ⟨last, committed⟩⟩
    · rintro ⟨permission, row, committed⟩
      obtain ⟨txn, written⟩ := insertMemberRow_eq_ok.mpr ⟨permission, row⟩
      obtain ⟨last, done⟩ := commit_eq_ok.mpr committed
      exact ⟨last, txn, written, done⟩
  simp only [finishes, List.forall_mem_singleton]
  constructor
  · intro keeps
    by_cases checked : CollabChecked database params outages
    · exact (keeps () (checkCollab_eq_ok.mpr checked)).imp_right .inr
    · exact .inr (.inl checked)
  · rintro (committed | refused | present) ⟨⟩ checked
    · exact .inl committed
    · exact absurd (checkCollab_eq_ok.mp checked) refused
    · exact .inr present

theorem tryUpdateWorkspaceMember_keeps (uid : Int) (workspaceId : Uuid) (changeset : WorkspaceMemberChangeset)
    (update : Option Outage) :
    KeepsOnFailure policies (tryUpdateWorkspaceMember true database uid workspaceId changeset update)
      accessControl := by
  rw [tryUpdateWorkspaceMember]
  split
  · exact (leaves_pure _).keepsOnFailure _
  · rename_i role given
    rw [keepsOnFailure_answered_bind]
    intro _ _
    obtain ⟨next, made, _⟩ := grants_insertRole uid workspaceId role accessControl
    have lastAnswer : ∀ _ : Unit, ∃ last, (.ok ((Transaction.begin database).upsertWorkspaceMember workspaceId
        changeset.email role).database : Except AppError Database) = .ok last := fun _ => ⟨_, rfl⟩
    exact (keepsOnFailure_change made).mpr (.inl (lastAnswer ()))

theorem leaves_tryDeleteCollabMember (enableAccessControl : Bool) (params : CollabMemberIdentify)
    (outages : CollabMemberOutages) :
    Leaves policies (tryDeleteCollabMember enableAccessControl database params outages) := by
  apply (leaves_answered _).bind
  intro _
  apply (leaves_removePolicy enableAccessControl params.uid (.collab params.objectId)).bind
  exact fun _ => leaves_answered _

/-- Without access control there is nothing to grant. -/
theorem leaves_disabled (attempt : MemberAttempt) : Leaves policies (attempt.program false database) := by
  cases attempt with
  | addWorkspaceMembers workspaceId members order begin commit =>
    apply (leaves_answered _).bind
    intro rows
    apply (leaves_forM (fun entry => leaves_disabled_insertRole entry.1 workspaceId entry.2)
      (visited order rows.2)).bind
    exact fun _ => leaves_answered _
  | updateWorkspaceMember uid workspaceId changeset update =>
    show Leaves policies (tryUpdateWorkspaceMember false database uid workspaceId changeset update)
    rw [tryUpdateWorkspaceMember]
    split
    · exact leaves_pure _
    · apply (leaves_answered _).bind
      intro _
      exact (leaves_disabled_insertRole uid workspaceId _).bind fun _ => leaves_pure _
  | removeWorkspaceMembers workspaceId memberEmails begin commit =>
    exact leaves_removeWorkspaceMembers false database workspaceId memberEmails begin commit
  | leaveWorkspace workspaceId email outages begin commit =>
    apply (leaves_answered _).bind
    exact fun email => leaves_removeWorkspaceMembers false database workspaceId [(email, outages)] begin commit
  | createCollabMember params outages =>
    apply (leaves_answered _).bind
    intro txn
    apply Leaves.bind (fun _ => rfl)
    exact fun _ => leaves_answered _
  | upsertCollabMember params outages =>
    apply (leaves_answered _).bind
    intro _
    apply Leaves.bind (fun _ => rfl)
    exact fun _ => leaves_answered _
  | deleteCollabMember params outages => exact leaves_tryDeleteCollabMember false params outages

end Theorem

/-- A failed operation leaves the policies as they were exactly if nothing new was granted before
    the failure. -/
theorem failed_operation_keeps_policies_iff (enableAccessControl : Bool) (database : Database)
    (accessControl : AccessControl) (attempt : MemberAttempt) :
    KeepsOnFailure policies (attempt.program enableAccessControl database) accessControl ↔
      attempt.Harmless enableAccessControl database accessControl := by
  cases enableAccessControl with
  | false =>
    refine iff_of_true ((leaves_disabled attempt).keepsOnFailure accessControl) ?_
    cases attempt <;> simp [MemberAttempt.Harmless]
  | true =>
    cases attempt with
    | addWorkspaceMembers workspaceId members order begin commit =>
      refine tryAddWorkspaceMembers_keeps_iff.trans ?_
      simp [MemberAttempt.Harmless]
    | updateWorkspaceMember uid workspaceId changeset update =>
      exact iff_of_true (tryUpdateWorkspaceMember_keeps uid workspaceId changeset update) trivial
    | removeWorkspaceMembers workspaceId memberEmails begin commit =>
      refine iff_of_true ?_ trivial
      exact (leaves_removeWorkspaceMembers true database workspaceId memberEmails begin commit).keepsOnFailure _
    | leaveWorkspace workspaceId email outages begin commit =>
      refine iff_of_true (Leaves.keepsOnFailure ?_ _) trivial
      apply (leaves_answered _).bind
      exact fun email => leaves_removeWorkspaceMembers true database workspaceId [(email, outages)] begin commit
    | createCollabMember params outages =>
      refine tryCreateCollabMember_keeps_iff.trans ?_
      simp [MemberAttempt.Harmless]
    | upsertCollabMember params outages =>
      refine tryUpsertCollabMember_keeps_iff.trans ?_
      simp [MemberAttempt.Harmless]
    | deleteCollabMember params outages =>
      exact iff_of_true ((leaves_tryDeleteCollabMember true params outages).keepsOnFailure _) trivial

/-- The row of the new member of the collab cannot be written. -/
def rowUnwritten : CollabMemberOutages := ⟨none, none, none, none, some .poolTimedOut, none⟩

/-- The access is granted before that. -/
theorem upsert_failure_grants :
    ¬ ∀ (enableAccessControl : Bool) (database : Database) (accessControl : AccessControl) (attempt : MemberAttempt),
      KeepsOnFailure policies (attempt.program enableAccessControl database) accessControl := by
  intro keeps
  have kept := keeps true (oneCollab ∅) (oneCollab ∅).load
    (.upsertCollabMember ⟨1, "w", "doc", .fullAccess⟩ rowUnwritten)
  have checked : CollabChecked (oneCollab ∅) ⟨1, "w", "doc", .fullAccess⟩ rowUnwritten := by
    refine ⟨?_, rfl, rfl, rfl⟩
    decide +kernel
  rcases tryUpsertCollabMember_keeps_iff.mp kept with written | refused | present
  · cases written.2.1
  · exact refused checked
  · have stored : collabRule 1 "doc" .fullAccess ∈ (oneCollab ∅).policies := present
    simp [Database.mem_policies, oneCollab] at stored

end FlowCloud.Workspace
