import FlowCloud.Foundation.Apart
import FlowCloud.Foundation.Runs
import FlowCloud.Storage.Collab

/-! # Signing up

Whoever signs in for the first time gets a row in the user table, a workspace and the role of
its owner.  Any number of calls verify tokens at the same time, also of one user.  Each runs
a transaction under an advisory lock whose key is half of the user's id.
-/

namespace FlowCloud.Account

open FlowCloud.Foundation FlowCloud.Entity FlowCloud.Storage

/-! ## Rows -/

structure AfUser where
  uid : Int
  uuid : Uuid
  email : String
  name : String
  deriving DecidableEq, Repr

/-- What the statement of `create_user` inserts. -/
structure NewUser where
  user : AfUser
  workspaceId : Uuid
  deriving DecidableEq, Repr

/-- The committed rows; a workspace with its owner, and the collab members with full access. -/
structure AccountTables where
  users : List AfUser
  workspaces : List (Uuid × Int)
  collabMembers : List (Int × String)

def AccountTables.insert (self : AccountTables) (new : NewUser) : AccountTables where
  users := self.users ++ [new.user]
  workspaces := self.workspaces ++ [(new.workspaceId, new.user.uid)]
  collabMembers := self.collabMembers ++ [(new.user.uid, new.workspaceId.text)]

def AccountTables.isUserExist (self : AccountTables) (userUuid : Uuid) : Bool :=
  self.users.any (·.uuid = userUuid)

/-- An object of user metadata, with the values that are texts. -/
abbrev UserMetadata := List (String × Option String)

/-- The first key that is there decides, also when its value is no text. -/
def nameFromUserMetadata (value : UserMetadata) : String :=
  (((value.lookup "name").or (value.lookup "full_name")).or (value.lookup "nickname")).join.getD ""

/-! ## Calls -/

/-- Where a call of `verify_token` is. -/
inductive SignUpStage where
  | started
  /-- The transaction waits for its lock. -/
  | waiting
  | locked
  /-- No user with the id was found. -/
  | absent
  | created (new : NewUser)
  /-- The owner's role is inserted. -/
  | granted (new : NewUser)
  /-- Only the commit is missing; a known user has inserted nothing. -/
  | ready (new : Option NewUser)
  | done (answer : Except AppError Bool)

structure SignUp where
  userUuid : Uuid
  email : String
  name : String
  stage : SignUpStage

def SignUp.lockKey (self : SignUp) : BitVec 64 := self.userUuid.setWidth 64

@[simp] def SignUpStage.holdsLock : SignUpStage → Bool
  | .started | .waiting | .done _ => false
  | .locked | .absent | .created _ | .granted _ | .ready _ => true

/-- The row that the transaction has inserted and not committed. -/
@[simp] def SignUpStage.inserted : SignUpStage → Option NewUser
  | .created new | .granted new => some new
  | .ready new => new
  | .started | .waiting | .locked | .absent | .done _ => none

/-- The user the call is about to create. -/
def SignUp.newUser (self : SignUp) (newUid : Int) (workspaceId : Uuid) : NewUser where
  user := ⟨newUid, self.userUuid, self.email, if self.name.isEmpty then self.email else self.name⟩
  workspaceId := workspaceId

inductive CommitOutcome where
  | committed
  /-- It was carried out, and the answer is an error. -/
  | unanswered (error : AppError)
  | failed (error : AppError)

/-! ## The server -/

structure Accounts where
  tables : AccountTables
  /-- The owners' roles that were inserted into the policies. -/
  roles : List (Int × Uuid)
  calls : List SignUp
  userCache : Uuid → Option Int
  /-- What `get_user_uid` has answered. -/
  answers : List (Uuid × Except AppError Int)

inductive AccountEvent where
  /-- The token belongs to the user. -/
  | call (userUuid : Uuid) (email : String) (userMetadata : UserMetadata)
  | begin (index : Nat)
  | lock (index : Nat)
  | check (index : Nat)
  /-- The generator and the database give the new ids. -/
  | create (index : Nat) (newUid : Int) (workspaceId : Uuid)
  | insertRole (index : Nat)
  | initializeWorkspace (index : Nat)
  | commit (index : Nat) (outcome : CommitOutcome)
  /-- A statement fails or the call is given up, and the transaction is rolled back. -/
  | fail (index : Nat) (error : AppError)
  | getUserUid (uuid : Uuid) (outage : Option Outage)

namespace Accounts

/-- A server that has loaded the first rows of the table into its cache. -/
def new (tables : AccountTables) (loaded : Nat) : Accounts where
  tables := tables
  roles := []
  calls := []
  userCache uuid := ((tables.users.take loaded).find? (·.uuid = uuid)).map (·.uid)
  answers := []

variable (self : Accounts)

def setStage (index : Nat) (call : SignUp) (stage : SignUpStage) : Accounts :=
  { self with calls := self.calls.set index { call with stage } }

/-- No other transaction has the lock with the call's key. -/
def lockFree (call : SignUp) : Bool :=
  self.calls.all fun other => !(other.stage.holdsLock && other.lockKey = call.lockKey)

/-- No other transaction has inserted the email and may still roll back. -/
def emailSettled (email : String) : Bool :=
  self.calls.all fun other => other.stage.inserted.all fun new => new.user.email ≠ email

/-- The next step of a call that is at a stage. -/
def advance (index : Nat) (call : SignUp) : AccountEvent → Accounts
  | .begin _ =>
    match call.stage with
    | .started => self.setStage index call .waiting
    | _ => self
  | .lock _ =>
    match call.stage with
    | .waiting => if self.lockFree call then self.setStage index call .locked else self
    | _ => self
  | .check _ =>
    match call.stage with
    | .locked =>
      if self.tables.isUserExist call.userUuid then self.setStage index call (.ready none)
      else self.setStage index call .absent
    | _ => self
  | .create _ newUid workspaceId =>
    match call.stage with
    | .absent =>
      -- with the email taken nothing is inserted, and `fetch_one` finds no row
      if self.tables.users.any (·.email = call.email) then
        self.setStage index call (.done (.error (.ofSqlx .rowNotFound)))
      else if self.emailSettled call.email then
        self.setStage index call (.created (call.newUser newUid workspaceId))
      else self
    | _ => self
  | .insertRole _ =>
    match call.stage with
    | .created new =>
      { self.setStage index call (.granted new) with roles := self.roles ++ [(new.user.uid, new.workspaceId)] }
    | _ => self
  | .initializeWorkspace _ =>
    match call.stage with
    | .granted new => self.setStage index call (.ready (some new))
    | _ => self
  | .commit _ outcome =>
    match call.stage with
    | .ready new =>
      let tables := new.elim self.tables self.tables.insert
      match outcome with
      | .committed => { self.setStage index call (.done (.ok new.isSome)) with tables }
      | .unanswered error => { self.setStage index call (.done (.error error)) with tables }
      | .failed error => self.setStage index call (.done (.error error))
    | _ => self
  | .fail _ error =>
    match call.stage with
    | .done _ => self
    | _ => self.setStage index call (.done (.error error))
  | .call _ _ _ | .getUserUid _ _ => self

/-- `UserCache::get_user_uid`. -/
def getUserUid (uuid : Uuid) (outage : Option Outage) : Accounts :=
  match self.userCache uuid with
  | some uid => { self with answers := self.answers ++ [(uuid, .ok uid)] }
  | none =>
    match query outage .ofSqlx, self.tables.users.find? (·.uuid = uuid) with
    | .error error, _ => { self with answers := self.answers ++ [(uuid, .error error)] }
    | .ok (), none => { self with answers := self.answers ++ [(uuid, .error (.ofSqlx .rowNotFound))] }
    | .ok (), some user =>
      { self with
        userCache := Function.update self.userCache uuid (some user.uid)
        answers := self.answers ++ [(uuid, .ok user.uid)] }

def step (event : AccountEvent) : Accounts :=
  match event with
  | .call userUuid email userMetadata =>
    { self with calls := self.calls ++ [⟨userUuid, email, nameFromUserMetadata userMetadata, .started⟩] }
  | .getUserUid uuid outage => self.getUserUid uuid outage
  | .begin index | .lock index | .check index | .create index _ _ | .insertRole index | .initializeWorkspace index
  | .commit index _ | .fail index _ =>
    match self.calls[index]? with
    | none => self
    | some call => self.advance index call event

end Accounts

end FlowCloud.Account
