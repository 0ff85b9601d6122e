import FlowCloud.Api.Authorised

/-! # Which handlers are reached unchecked

The middleware looks at the object of a path inside the branch that has a workspace id, and a
workspace id is there when the segment parses.  The handlers of a collab take the segment as a
text or leave it alone, so their extractors refuse nothing on its account.  Those of the
snapshots decode the object once more: what they read is then not what was asked about.
-/

namespace FlowCloud.Api

open FlowCloud.Foundation FlowCloud.Entity FlowCloud.Protocol FlowCloud.Casbin FlowCloud.Storage

/-- The extractors of a handler whose path names a collab: both segments are texts, and the
    payload has the handler's type. -/
def Handler.extracts : Handler → Payload → Bool
  -- the bytes of a new collab are parsed by the handler itself
  | .createCollab, _ => true
  | .getCollab, .queryCollabParams _ => true
  | .updateCollab, .createCollabParams _ _ => true
  | .deleteCollab, .deleteCollabParams _ _ => true
  | .getCollabSnapshot, .querySnapshotParams _ => true
  | .createCollabSnapshot, .collabType _ => true
  | .getAllCollabSnapshotList, _ => true
  | .addCollabMember, .insertCollabMemberParams _ => true
  | .getCollabMember, .collabMemberIdentify _ => true
  | .updateCollabMember, .insertCollabMemberParams _ => true
  | .removeCollabMember, .collabMemberIdentify _ => true
  | .getCollabMemberList, .queryCollabMembers _ _ => true
  | _, _ => false

/-- The object of the path as the handler reads it. -/
def Handler.pathObject (decode : String → String) (objectId : String) : Handler → String
  | .getCollabSnapshot | .createCollabSnapshot | .getAllCollabSnapshotList => decode objectId
  -- these take no segment of the path
  | _ => objectId

section Server

variable {Op StateVector AwarenessUpdate : Type} [DecidableEq Op] {yrs : Yrs Op StateVector AwarenessUpdate}

section Access

variable (lib : StorageLib yrs) (storage : CollabStorageImpl) (uid : Int) (request : Request)

/-- The middleware lets the request through and the extractors take it. -/
def HandlerRuns (handler : Handler) : Prop :=
  (accessControlMiddleware lib storage uid request).isOk = true ∧ handler.extracts request.payload = true

/-- The service for collabs was asked about the object for the user and allowed it. -/
def CollabAllowed (objectId : String) : Prop :=
  ∃ checks, accessControlMiddleware lib storage uid request = .ok checks ∧
    ∃ check ∈ checks, check.object = .collab objectId ∧ check.run storage uid = .ok true

end Access

variable {lib : StorageLib yrs} {storage : CollabStorageImpl} {uid : Int} {request : Request}
  {handler : Handler} {captured : Captured} {objectId : String}

theorem ne_createWorkspace_of_named (handled : request.handler = some (handler, captured))
    (named : captured.lookup COLLAB_OBJECT_ID_PATH = some objectId) : handler ≠ .createWorkspace := by
  intro same
  have names := (Request.routed handled).object.mp (by simp [named])
  rw [same] at names
  cases names

/-- A request passes the middleware when the user is permitted to what its path names. -/
theorem handlerRuns_iff (handled : request.handler = some (handler, captured))
    (named : captured.lookup COLLAB_OBJECT_ID_PATH = some objectId) :
    HandlerRuns lib storage uid request handler ↔
      PathPermitted lib storage uid request handler captured ∧ handler.extracts request.payload = true := by
  have passes (checks : List Check) : accessControlMiddleware lib storage uid request = .ok checks ↔ _ :=
    accessControlMiddleware_eq_ok handled (ne_createWorkspace_of_named handled named)
  simp only [HandlerRuns, CollabStorageImpl.isOk_iff, passes, exists_and_left, exists_eq, and_true]

/-- The middleware has asked about the object of the path, with a workspace id that parses, and
    about no other one. -/
theorem collabAllowed_iff (handled : request.handler = some (handler, captured))
    (named : captured.lookup COLLAB_OBJECT_ID_PATH = some objectId) (other : handler ≠ .createCollab)
    (permitted : PathPermitted lib storage uid request handler captured) (object : String) :
    CollabAllowed lib storage uid request object ↔
      (pathWorkspaceId lib captured).isSome = true ∧ object = objectId := by
  have checked : checkedCollab handler captured = some objectId := by rw [checkedCollab, if_neg other, named]
  have passed : accessControlMiddleware lib storage uid request = .ok (pathChecks lib request handler captured) :=
    (accessControlMiddleware_eq_ok handled (ne_createWorkspace_of_named handled named)).mpr ⟨permitted, rfl⟩
  rw [CollabAllowed, passed]
  cases parsed : pathWorkspaceId lib captured with
  | none => simp [pathChecks, parsed]
  | some workspaceId =>
    have workspacePasses := WorkspaceMiddlewareAccessControl.check_passes request workspaceId.text
    have collabPasses := CollabMiddlewareAccessControl.check_passes request workspaceId.text objectId
    have allowed := ((permitted workspaceId parsed).2 objectId checked).2
    simp [pathChecks, parsed, checked, workspacePasses.object, collabPasses.object, allowed, eq_comm]

/-- A handler of a collab runs only after the service for collabs has allowed the object that
    the handler reads, exactly when the workspace segment parses and the object is read as it
    was asked about; otherwise the extractors or the middleware have to refuse the request. -/
theorem handler_runs_allowed_iff (lib : StorageLib yrs) (decode : String → String) (storage : CollabStorageImpl)
    (uid : Int) (request : Request) (handler : Handler) (captured : Captured) (objectId : String)
    (handled : request.handler = some (handler, captured))
    (named : captured.lookup COLLAB_OBJECT_ID_PATH = some objectId) (other : handler ≠ .createCollab) :
    (HandlerRuns lib storage uid request handler →
        CollabAllowed lib storage uid request (handler.pathObject decode objectId)) ↔
      (PathPermitted lib storage uid request handler captured → handler.extracts request.payload = true →
        (pathWorkspaceId lib captured).isSome = true ∧ handler.pathObject decode objectId = objectId) := by
  rw [handlerRuns_iff handled named, and_imp]
  refine forall_congr' fun permitted => ?_
  rw [collabAllowed_iff handled named other permitted]

end Server

/-- Somebody lists the snapshots of a collab of others. -/
def snapshotsOfTheirs (workspaceId : String) : Request where
  method := .get
  path := ["api", "workspace", workspaceId, "theirs", "snapshot", "list"]
  payload := .other

theorem snapshots_allowed_in_workspace :
    (pathWorkspaceId typedLib [(WORKSPACE_ID_PATH, "5b7cbb2f-4a5c-4f3c-9a0e-1d2c3b4a5f60")]).isSome = true ∧
      (HandlerRuns typedLib memberOfMine 2 (snapshotsOfTheirs "5b7cbb2f-4a5c-4f3c-9a0e-1d2c3b4a5f60")
          .getAllCollabSnapshotList →
        CollabAllowed typedLib memberOfMine 2 (snapshotsOfTheirs "5b7cbb2f-4a5c-4f3c-9a0e-1d2c3b4a5f60") "theirs") :=
  ⟨by decide +kernel,
    (handler_runs_allowed_iff typedLib id memberOfMine 2 (snapshotsOfTheirs "5b7cbb2f-4a5c-4f3c-9a0e-1d2c3b4a5f60")
      .getAllCollabSnapshotList
      [(WORKSPACE_ID_PATH, "5b7cbb2f-4a5c-4f3c-9a0e-1d2c3b4a5f60"), (COLLAB_OBJECT_ID_PATH, "theirs")] "theirs"
      (by rfl) rfl (by decide)).mpr fun _ _ => ⟨by decide +kernel, rfl⟩⟩

/-- The workspace segment is no id: the list is given to a user without any policy. -/
theorem snapshots_given_unchecked :
    ¬ ∀ (storage : CollabStorageImpl) (uid : Int) (request : Request) (handler : Handler) (captured : Captured)
        (objectId : String), request.handler = some (handler, captured) →
      captured.lookup COLLAB_OBJECT_ID_PATH = some objectId → handler ≠ .createCollab →
      HandlerRuns typedLib storage uid request handler → CollabAllowed typedLib storage uid request objectId := by
  intro allows
  have passed : accessControlMiddleware typedLib memberOfMine 2 (snapshotsOfTheirs "any") = .ok [] := by
    decide +kernel
  obtain ⟨checks, same, check, member, _⟩ :=
    allows memberOfMine 2 (snapshotsOfTheirs "any") .getAllCollabSnapshotList
      [(WORKSPACE_ID_PATH, "any"), (COLLAB_OBJECT_ID_PATH, "theirs")] "theirs" (by rfl) rfl (by decide)
      ⟨by rw [passed]; rfl, rfl⟩
  rw [passed] at same
  cases same
  cases member

end FlowCloud.Api
