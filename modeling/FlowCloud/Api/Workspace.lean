import FlowCloud.Storage.BatchRead

/-! # The workspace API

The routes of `workspace_scope`, the access control in front of them and the handlers.  The
middleware knows the ids in the path only; a handler may take others from the payload, and its
extractors decode the segments of the path once more.  What a request does is recorded as a
trace of the checks that allowed it and of the workspaces and collabs that it reads and writes.
-/

namespace FlowCloud.Api

open FlowCloud.Foundation FlowCloud.Entity FlowCloud.Protocol FlowCloud.Casbin FlowCloud.Storage

/-! ## Routes -/

inductive Method where
  | get
  | post
  | put
  | patch
  | delete
  deriving DecidableEq, Repr

def Method.text : Method → String
  | .get => "GET"
  | .post => "POST"
  | .put => "PUT"
  | .patch => "PATCH"
  | .delete => "DELETE"

/-- `Action::from(&Method)`. -/
def Method.action : Method → Action
  | .post | .put => .write
  | .delete => .delete
  | .get | .patch => .read

inductive Segment where
  | literal (text : String)
  | param (name : String)
  deriving DecidableEq, Repr

abbrev ResourceDef := List Segment

abbrev Captured := List (String × String)

/-- The parameters of a path that matches; a parameter is never empty. -/
def ResourceDef.capture : ResourceDef → List String → Option Captured
  | [], [] => some []
  | .literal text :: rest, segment :: path => if segment = text then capture rest path else none
  | .param name :: rest, segment :: path =>
    if segment.isEmpty then none else (capture rest path).map fun captured => (name, segment) :: captured
  | _, _ => none

def WORKSPACE_ID_PATH : String := "workspace_id"
def COLLAB_OBJECT_ID_PATH : String := "object_id"

def WORKSPACE_PATTERN : ResourceDef := [.literal "api", .literal "workspace"]

def WORKSPACE_MEMBER_PATTERN : ResourceDef :=
  [.literal "api", .literal "workspace", .param WORKSPACE_ID_PATH, .literal "member"]

def WORKSPACE_INVITE_PATTERN : ResourceDef :=
  [.literal "api", .literal "workspace", .param WORKSPACE_ID_PATH, .literal "invite"]

def COLLAB_PATTERN : ResourceDef :=
  [.literal "api", .literal "workspace", .param WORKSPACE_ID_PATH, .literal "collab", .param COLLAB_OBJECT_ID_PATH]

inductive Handler where
  | listWorkspace
  | createWorkspace
  | patchWorkspace
  | postWorkspaceInvite
  | getWorkspaceInvite
  | postAcceptWorkspaceInvite
  | deleteWorkspace
  | openWorkspace
  | leaveWorkspace
  | getWorkspaceMembers
  | createWorkspaceMembers
  | updateWorkspaceMember
  | removeWorkspaceMember
  | createCollab
  | getCollab
  | updateCollab
  | deleteCollab
  | batchCreateCollab
  | createCollabList
  | getWorkspaceUsage
  | getCollabSnapshot
  | createCollabSnapshot
  | getAllCollabSnapshotList
  | addCollabMember
  | getCollabMember
  | updateCollabMember
  | removeCollabMember
  | getCollabMemberList
  | batchGetCollab
  deriving DecidableEq, Repr

structure Resource where
  pattern : ResourceDef
  routes : List (Method × Handler)

/-- `web::resource` in the scope `/api/workspace`. -/
def resource (path : ResourceDef) (routes : List (Method × Handler)) : Resource where
  pattern := .literal "api" :: .literal "workspace" :: path
  routes := routes

/-- `workspace_scope`. -/
def workspaceScope : List Resource :=
  let workspace := Segment.param WORKSPACE_ID_PATH
  let object := Segment.param COLLAB_OBJECT_ID_PATH
  [resource [.literal "list"] [(.get, .listWorkspace)],
    resource [] [(.get, .listWorkspace), (.post, .createWorkspace), (.patch, .patchWorkspace)],
    resource [workspace, .literal "invite"] [(.post, .postWorkspaceInvite)],
    resource [.literal "invite"] [(.get, .getWorkspaceInvite)],
    resource [.literal "accept-invite", .param "invite_id"] [(.post, .postAcceptWorkspaceInvite)],
    resource [workspace] [(.delete, .deleteWorkspace)],
    resource [workspace, .literal "open"] [(.put, .openWorkspace)],
    resource [workspace, .literal "leave"] [(.post, .leaveWorkspace)],
    resource [workspace, .literal "member"] [(.get, .getWorkspaceMembers), (.post, .createWorkspaceMembers),
      (.put, .updateWorkspaceMember), (.delete, .removeWorkspaceMember)],
    resource [workspace, .literal "collab", object] [(.post, .createCollab), (.get, .getCollab),
      (.put, .updateCollab), (.delete, .deleteCollab)],
    resource [workspace, .literal "batch", .literal "collab"] [(.post, .batchCreateCollab)],
    resource [workspace, .literal "collabs"] [(.post, .createCollabList)],
    resource [workspace, .literal "usage"] [(.get, .getWorkspaceUsage)],
    resource [workspace, object, .literal "snapshot"] [(.get, .getCollabSnapshot), (.post, .createCollabSnapshot)],
    resource [workspace, object, .literal "snapshot", .literal "list"] [(.get, .getAllCollabSnapshotList)],
    resource [workspace, .literal "collab", object, .literal "member"] [(.post, .addCollabMember),
      (.get, .getCollabMember), (.put, .updateCollabMember), (.delete, .removeCollabMember)],
    resource [workspace, .literal "collab", object, .literal "member", .literal "list"]
      [(.get, .getCollabMemberList)],
    resource [workspace, .literal "collab_list"] [(.get, .batchGetCollab)]]

/-- The first resource whose pattern matches. -/
def matchResource (path : List String) : Option Resource :=
  workspaceScope.find? fun resource => (resource.pattern.capture path).isSome

/-! ## Requests -/

/-- The payload as the handler's type. -/
inductive Payload where
  | patchWorkspaceParam (workspaceId : Uuid)
  | createCollabParams (workspaceId : String) (params : CollabParams)
  | collabParamsList (paramsList : List CollabParams)
  | batchCreateCollabParams (workspaceId : String) (paramsList : List CollabParams)
  | queryCollabParams (params : QueryCollabParams)
  | deleteCollabParams (workspaceId objectId : String)
  | querySnapshotParams (snapshotId : Int)
  | collabType (collabType : CollabType)
  | insertCollabMemberParams (params : InsertCollabMemberParams)
  | collabMemberIdentify (params : CollabMemberIdentify)
  | queryCollabMembers (workspaceId objectId : String)
  | batchQueryCollabParams (queries : List QueryCollab)
  /-- Anything else: no ids, or nothing that the handler can parse. -/
  | other

structure Request where
  method : Method
  path : List String
  payload : Payload

def Request.url (self : Request) : String := "/" ++ "/".intercalate self.path

def Request.handler (self : Request) : Option (Handler × Captured) :=
  match matchResource self.path with
  | none => none
  | some resource =>
    match resource.pattern.capture self.path, resource.routes.find? fun route => route.1 = self.method with
    | some captured, some route => some (route.2, captured)
    | _, _ => none

/-! ## Checks and traces -/

structure Check where
  workspaceId : String
  object : ObjectType
  action : ActionVariant
  deriving DecidableEq

inductive Subject where
  | workspace (workspaceId : String)
  | collab (objectId : String)
  /-- A collab that is about to be created in the workspace. -/
  | newCollab (workspaceId objectId : String)
  deriving DecidableEq, Repr

/-- A role or a level includes the actions that it is grouped with. -/
def includesAction (granted : ActionVariant) (action : Action) : Bool :=
  match granted with
  | .fromAction granted => granted.ge action
  | .fromRole _ | .fromAccessLevel _ => (granted.toAction, action.toAction) ∈ groupPolicies

/-- `enforce_write_workspace`. -/
def ownerCheck (workspaceId : String) : Check := ⟨workspaceId, .workspace workspaceId, .fromRole .owner⟩

/-- The check was about the subject and about no less than the action; a new collab needs the
    owner of its workspace. -/
def Check.Covers (self : Check) (action : Action) : Subject → Prop
  | .workspace workspaceId => self.object = .workspace workspaceId ∧ includesAction self.action action = true
  | .collab objectId => self.object = .collab objectId ∧ includesAction self.action action = true
  | .newCollab workspaceId _ => self = ownerCheck workspaceId

inductive TraceEntry where
  | allowed (check : Check)
  | acts (action : Action) (subject : Subject)
  deriving DecidableEq

section Server

variable {Op StateVector AwarenessUpdate : Type} [DecidableEq Op] {yrs : Yrs Op StateVector AwarenessUpdate}
  (lib : StorageLib yrs) (decode : String → String) (storage : CollabStorageImpl) (uid : Int)

def Check.run (self : Check) : Except AppError Bool :=
  storage.accessControl.enforce true self.workspaceId uid self.object self.action

/-! ## The middleware -/

def pathWorkspaceId (captured : Captured) : Option Uuid :=
  (captured.lookup WORKSPACE_ID_PATH).bind fun id => (lib.uuidFromStr id).toOption

namespace WorkspaceMiddlewareAccessControl

def skipResources : List (Method × ResourceDef) := [(.post, WORKSPACE_PATTERN)]

/-- Only the owner can manage the members and invite users. -/
def requireRoleRules : List (ResourceDef × List (Method × AFRole)) :=
  [(WORKSPACE_MEMBER_PATTERN, [(.post, .owner), (.delete, .owner), (.put, .owner), (.get, .owner)]),
    (WORKSPACE_INVITE_PATTERN, [(.post, .owner)])]

def shouldSkip (request : Request) : Bool :=
  skipResources.any fun resource => resource.1 = request.method && (resource.2.capture request.path).isSome

def requireRole (request : Request) : Option AFRole :=
  requireRoleRules.findSome? fun rule =>
    if (rule.1.capture request.path).isSome then rule.2.lookup request.method else none

/-- A role where the rules name one, else the action of the method. -/
def check (request : Request) (workspaceId : String) : Check where
  workspaceId := workspaceId
  object := .workspace workspaceId
  action := match requireRole request with
    | some role => .fromRole role
    | none => .fromAction request.method.action

/-- The check that allowed the request, unless it is skipped. -/
def checkResourcePermission (request : Request) (workspaceId : String) : Except AppError (List Check) :=
  if shouldSkip request then .ok []
  else
    match (check request workspaceId).run storage uid with
    | .error error => .error error
    | .ok true => .ok [check request workspaceId]
    | .ok false =>
      .error (.notEnoughPermissions (toString uid) ("access workspace:" ++ workspaceId ++ " with given url:" ++
        request.url ++ ", method: " ++ request.method.text))

end WorkspaceMiddlewareAccessControl

namespace CollabMiddlewareAccessControl

def skipResources : List (Method × ResourceDef) := [(.post, COLLAB_PATTERN)]

/-- Only a user with full access can delete the collab. -/
def requireAccessLevels : List (ResourceDef × List (Method × AFAccessLevel)) :=
  [(COLLAB_PATTERN, [(.delete, .fullAccess)])]

def shouldSkip (request : Request) : Bool :=
  skipResources.any fun resource => resource.1 = request.method && (resource.2.capture request.path).isSome

def requireAccessLevel (request : Request) : Option AFAccessLevel :=
  requireAccessLevels.findSome? fun rule =>
    if (rule.1.capture request.path).isSome then rule.2.lookup request.method else none

def check (request : Request) (workspaceId oid : String) : Check where
  workspaceId := workspaceId
  object := .collab oid
  action := match requireAccessLevel request with
    | some level => .fromAccessLevel level
    | none => .fromAction request.method.action

def checkResourcePermission (request : Request) (workspaceId oid : String) : Except AppError (List Check) :=
  if shouldSkip request then .ok []
  else
    match isCollabExists storage.cache.table oid none with
    | .error error => .error error
    | .ok false => .error (.recordNotFound ("Collab not exist in db. " ++ oid))
    | .ok true =>
      match (check request workspaceId oid).run storage uid with
      | .error error => .error error
      | .ok true => .ok [check request workspaceId oid]
      | .ok false =>
        .error (.notEnoughPermissions (toString uid) ("access collab:" ++ oid ++ " with url:" ++ request.url ++
          ", method:" ++ request.method.text))

end CollabMiddlewareAccessControl

/-- `AccessControlMiddleware::call`: the checks that the request has passed.  Without a
    workspace id that parses there is none, whatever object the path names. -/
def accessControlMiddleware (request : Request) : Except AppError (List Check) :=
  match (matchResource request.path).bind fun resource => resource.pattern.capture request.path with
  | none => .ok []
  | some captured =>
    match pathWorkspaceId lib captured with
    | none => .ok []
    | some workspaceId => do
      let workspaceChecks ← WorkspaceMiddlewareAccessControl.checkResourcePermission storage uid request workspaceId.text
      match captured.lookup COLLAB_OBJECT_ID_PATH with
      | none => return workspaceChecks
      | some oid =>
        let collabChecks ←
          CollabMiddlewareAccessControl.checkResourcePermission storage uid request workspaceId.text oid
        return workspaceChecks ++ collabChecks

/-! ## The handlers -/

/-- `web::Path<Uuid>`: the segment is decoded once more, and refused when that is no id. -/
def extractedWorkspaceId (captured : Captured) : Option Uuid :=
  (captured.lookup WORKSPACE_ID_PATH).bind fun id => (lib.uuidFromStr (decode id)).toOption

def onWorkspace (captured : Captured) (action : Action) : List TraceEntry :=
  match extractedWorkspaceId lib decode captured with
  | none => []
  | some workspaceId => [.acts action (.workspace workspaceId.text)]

def readCollab (params : QueryCollabParams) : List TraceEntry :=
  match params.validate with
  | .error _ => []
  | .ok () =>
    if storage.enforceReadCollab true params.workspaceId uid params.inner.objectId none = .ok true then
      [.allowed ⟨params.workspaceId, .collab params.inner.objectId, .fromAction .read⟩,
        .acts .read (.collab params.inner.objectId)]
    else []

def writtenSubject (table : AfCollab) (workspaceId objectId : String) : Subject :=
  if (table objectId).isSome then .collab objectId else .newCollab workspaceId objectId

/-- `insert_or_update_collab_with_transaction`. -/
def writeCollab (table : AfCollab) (workspaceId : String) (params : CollabParams) : List TraceEntry :=
  match params.validate with
  | .error _ => []
  | .ok () =>
    if (table params.objectId).isSome then
      if storage.enforceWriteCollab true workspaceId uid params.objectId none = .ok true then
        [.allowed ⟨workspaceId, .collab params.objectId, .fromAction .write⟩, .acts .write (.collab params.objectId)]
      else []
    else
      -- the policy of the creator is written before anybody is asked, and stays after a refusal
      .acts .write (.newCollab workspaceId params.objectId) ::
        if storage.enforceWriteWorkspace true uid workspaceId = .ok true then
          [.allowed (ownerCheck workspaceId), .acts .write (.newCollab workspaceId params.objectId)]
        else []

/-- The loop of a batch handler; the first write that fails ends it. -/
def writeCollabs (regrant : Bool) (workspaceId : String) :
    CollabStorageImpl → AfCollab → List CollabParams → List TraceEntry
  | _, _, [] => []
  | storage, table, params :: paramsList =>
    writeCollab storage uid table workspaceId params ++
      match storage.createCollab lib true regrant table workspaceId uid params .none with
      | (.error _, _) => []
      | (.ok next, storage) =>
        -- the policy that is written once more after the write
        (if regrant then [.acts .write (writtenSubject table workspaceId params.objectId)] else []) ++
          writeCollabs regrant workspaceId storage next paramsList

def removeCollab (workspaceId objectId : String) : List TraceEntry :=
  if validateNotEmptyStr "object_id" objectId ++ validateNotEmptyStr "workspace_id" workspaceId = [] then
    let check : Check := ⟨workspaceId, .collab objectId, .fromAccessLevel .fullAccess⟩
    if check.run storage uid = .ok true then [.allowed check, .acts .delete (.collab objectId)] else []
  else []

/-- The operations on collab members check nothing but the form of their parameters. -/
def onCollabMembers (errors : Except AppError Unit) (action : Action) (objectId : String) : List TraceEntry :=
  match errors with
  | .error _ => []
  | .ok () => [.acts action (.collab objectId)]

/-- What a handler checks, reads and writes; a statement that fails ends it earlier. -/
def handlerTrace (captured : Captured) (handler : Handler) (payload : Payload) : List TraceEntry :=
  match handler with
  -- these take no workspace or object id from the request
  | .listWorkspace | .createWorkspace | .getWorkspaceInvite | .postAcceptWorkspaceInvite => []
  | .patchWorkspace =>
    match payload with
    | .patchWorkspaceParam workspaceId => [.acts .write (.workspace workspaceId.text)]
    | _ => []
  | .postWorkspaceInvite | .openWorkspace | .leaveWorkspace | .createWorkspaceMembers | .updateWorkspaceMember =>
    onWorkspace lib decode captured .write
  | .getWorkspaceMembers | .getWorkspaceUsage => onWorkspace lib decode captured .read
  | .deleteWorkspace | .removeWorkspaceMember => onWorkspace lib decode captured .delete
  | .createCollab | .updateCollab =>
    match payload with
    | .createCollabParams workspaceId params => writeCollab storage uid storage.cache.table workspaceId params
    | _ => []
  | .getCollab =>
    match payload with
    | .queryCollabParams params => readCollab storage uid params
    | _ => []
  | .deleteCollab =>
    match payload with
    | .deleteCollabParams workspaceId objectId => removeCollab storage uid workspaceId objectId
    | _ => []
  | .batchCreateCollab =>
    match extractedWorkspaceId lib decode captured, payload with
    | some workspaceId, .collabParamsList paramsList =>
      if paramsList.all fun params => params.validate = .ok () then
        writeCollabs lib uid true workspaceId.text storage storage.cache.table paramsList
      else []
    | _, _ => []
  | .createCollabList =>
    match payload with
    | .batchCreateCollabParams workspaceId paramsList =>
      if workspaceId.isEmpty then []
      else writeCollabs lib uid false workspaceId storage storage.cache.table paramsList
    | _ => []
  | .getCollabSnapshot =>
    match captured.lookup COLLAB_OBJECT_ID_PATH, payload with
    | some objectId, .querySnapshotParams _ => [.acts .read (.collab (decode objectId))]
    | _, _ => []
  | .createCollabSnapshot =>
    match captured.lookup WORKSPACE_ID_PATH, captured.lookup COLLAB_OBJECT_ID_PATH, payload with
    | some workspaceId, some objectId, .collabType collabType =>
      let read := readCollab storage uid (.new (decode objectId) collabType (decode workspaceId))
      -- the snapshot is written when the workspace id parses
      if read.isEmpty || (extractedWorkspaceId lib decode captured).isNone then read
      else read ++ [.acts .write (.collab (decode objectId))]
    | _, _, _ => []
  | .getAllCollabSnapshotList =>
    match captured.lookup COLLAB_OBJECT_ID_PATH with
    | some objectId => [.acts .read (.collab (decode objectId))]
    | none => []
  | .addCollabMember =>
    match payload with
    | .insertCollabMemberParams params => onCollabMembers params.validate .write params.objectId
    | _ => []
  | .getCollabMember =>
    match payload with
    | .collabMemberIdentify params => onCollabMembers params.validate .read params.objectId
    | _ => []
  | .updateCollabMember =>
    match payload with
    | .insertCollabMemberParams params => onCollabMembers params.validate .write params.objectId
    | _ => []
  | .removeCollabMember =>
    match payload with
    | .collabMemberIdentify params => onCollabMembers params.validate .delete params.objectId
    | _ => []
  | .getCollabMemberList =>
    match payload with
    | .queryCollabMembers workspaceId objectId =>
      onCollabMembers (validated (validateNotEmptyStr "workspace_id" workspaceId ++
        validateNotEmptyStr "object_id" objectId)) .read objectId
    | _ => []
  | .batchGetCollab =>
    match payload with
    | .batchQueryCollabParams queries =>
      (queries.filter fun query => query.validate.isEmpty).map fun query => .acts .read (.collab query.objectId)
    | _ => []

/-- A request behind the middleware. -/
def handle (request : Request) : List TraceEntry :=
  match accessControlMiddleware lib storage uid request with
  | .error _ => []
  | .ok checks =>
    checks.map .allowed ++
      match request.handler with
      | none => []
      | some (handler, captured) => handlerTrace lib decode storage uid captured handler request.payload

end Server

/-- Whatever is read or written was allowed by a check of this request. -/
def Authorised (trace : List TraceEntry) : Prop :=
  ∀ action subject, .acts action subject ∈ trace → ∃ check, .allowed check ∈ trace ∧ check.Covers action subject

end FlowCloud.Api
