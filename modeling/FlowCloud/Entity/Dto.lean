import Mathlib.Data.List.Basic

/-! # Shared entities: errors, roles, access levels and request parameters -/

namespace FlowCloud.Entity

abbrev Bytes := List UInt8

/-- One entry for each field that failed its check: the field's path and the message. -/
abbrev ValidationErrors := List (String × String)

inductive SqlxError where
  | rowNotFound
  | poolTimedOut
  | other (message : String)
  deriving DecidableEq, Repr

def SqlxError.toString : SqlxError → String
  | .rowNotFound => "no rows returned by a query that expected to return at least one row"
  | .poolTimedOut => "pool timed out while waiting for an open connection"
  | .other message => message

inductive AppError where
  | internal (message : String)
  | recordNotFound (message : String)
  | recordAlreadyExists (message : String)
  | invalidRequest (message : String)
  | notEnoughPermissions (user action : String)
  | uuidError (message : String)
  | sqlxError (message : String)
  | validatorError (errors : ValidationErrors)
  deriving DecidableEq, Repr

def AppError.ofSqlx : SqlxError → AppError
  | .rowNotFound => .recordNotFound ("Record not exist in db. " ++ SqlxError.rowNotFound.toString ++ ")")
  | error => .sqlxError error.toString

/-! ## Roles and access levels -/

inductive AFRole where
  | owner
  | member
  | guest
  deriving DecidableEq, Repr

inductive AFAccessLevel where
  | readOnly
  | readAndComment
  | readAndWrite
  | fullAccess
  deriving DecidableEq, Repr

def AFAccessLevel.canWrite : AFAccessLevel → Bool
  | .readOnly | .readAndComment => false
  | .readAndWrite | .fullAccess => true

def AFAccessLevel.canDelete : AFAccessLevel → Bool
  | .readOnly | .readAndComment | .readAndWrite => false
  | .fullAccess => true

def AFAccessLevel.ofRole : AFRole → AFAccessLevel
  | .owner => .fullAccess
  | .member => .readAndWrite
  | .guest => .readOnly

/-! ## Collab parameters -/

inductive CollabType where
  | document
  | database
  | workspaceDatabase
  | folder
  | databaseRow
  | userAwareness
  deriving DecidableEq, Repr

def validateNotEmptyStr (field value : String) : ValidationErrors :=
  if value.isEmpty then [(field, "should not be empty string")] else []

def validateNotEmptyPayload (field : String) (payload : Bytes) : ValidationErrors :=
  if payload.isEmpty then [(field, "should not be empty payload")] else []

/-- `validate()` of the derived validators: all field errors together. -/
def validated : ValidationErrors → Except AppError Unit
  | [] => .ok ()
  | errors => .error (.validatorError errors)

@[simp] theorem validated_nil : validated [] = .ok () := rfl

theorem validated_eq_ok {errors : ValidationErrors} : validated errors = .ok () ↔ errors = [] := by
  cases errors <;> simp [validated]

structure CollabParams where
  objectId : String
  encodedCollabV1 : Bytes
  collabType : CollabType
  overrideIfExist : Bool
  deriving DecidableEq, Repr

def CollabParams.validate (params : CollabParams) : Except AppError Unit :=
  validated (validateNotEmptyStr "object_id" params.objectId ++
    validateNotEmptyPayload "encoded_collab_v1" params.encodedCollabV1)

structure QueryCollab where
  objectId : String
  collabType : CollabType
  deriving DecidableEq, Repr

def QueryCollab.validate (query : QueryCollab) : ValidationErrors := validateNotEmptyStr "object_id" query.objectId

structure QueryCollabParams where
  workspaceId : String
  inner : QueryCollab
  deriving DecidableEq, Repr

def QueryCollabParams.new (objectId : String) (collabType : CollabType) (workspaceId : String) :
    QueryCollabParams :=
  ⟨workspaceId, objectId, collabType⟩

def QueryCollabParams.validate (params : QueryCollabParams) : Except AppError Unit :=
  validated (validateNotEmptyStr "workspace_id" params.workspaceId ++
    validateNotEmptyStr "inner.object_id" params.inner.objectId)

/-! ## Member parameters -/

structure CreateWorkspaceMember where
  email : String
  role : AFRole
  deriving DecidableEq, Repr

structure WorkspaceMemberChangeset where
  email : String
  role : Option AFRole
  deriving DecidableEq, Repr

structure InsertCollabMemberParams where
  uid : Int
  workspaceId : String
  objectId : String
  accessLevel : AFAccessLevel
  deriving DecidableEq, Repr

abbrev UpdateCollabMemberParams := InsertCollabMemberParams

def InsertCollabMemberParams.validate (params : InsertCollabMemberParams) : Except AppError Unit :=
  validated (validateNotEmptyStr "workspace_id" params.workspaceId ++
    validateNotEmptyStr "object_id" params.objectId)

structure CollabMemberIdentify where
  uid : Int
  workspaceId : String
  objectId : String
  deriving DecidableEq, Repr

def CollabMemberIdentify.validate (params : CollabMemberIdentify) : Except AppError Unit :=
  validated (validateNotEmptyStr "workspace_id" params.workspaceId ++
    validateNotEmptyStr "object_id" params.objectId)

theorem CollabParams.validate_eq_ok {params : CollabParams} :
    params.validate = .ok () ↔ params.objectId ≠ "" ∧ params.encodedCollabV1 ≠ [] := by
  simp [CollabParams.validate, validated_eq_ok, validateNotEmptyStr, validateNotEmptyPayload]

theorem QueryCollabParams.validate_eq_ok {params : QueryCollabParams} :
    params.validate = .ok () ↔ params.workspaceId ≠ "" ∧ params.inner.objectId ≠ "" := by
  simp [QueryCollabParams.validate, validated_eq_ok, validateNotEmptyStr]

end FlowCloud.Entity
