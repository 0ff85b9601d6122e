import FlowCloud.Api.Workspace

/-! # What the middleware checks

The routes fix which parameters a path has, so a request that reaches a handler was checked on
the workspace of its path and, unless it creates a collab, on the collab that the path names.
-/

namespace FlowCloud.Api

open FlowCloud.Foundation FlowCloud.Entity FlowCloud.Protocol FlowCloud.Casbin FlowCloud.Storage

/-! ## Routing -/

theorem ResourceDef.isSome_lookup_capture {name : String} :
    ∀ {pattern : ResourceDef} {path : List String} {captured : Captured},
      pattern.capture path = some captured →
        ((captured.lookup name).isSome = true ↔ Segment.param name ∈ pattern)
  | [], [], captured, matched => by
    cases matched
    simp
  | [], _ :: _, _, matched => nomatch matched
  | .literal text :: rest, [], _, matched => nomatch matched
  | .literal text :: rest, segment :: path, captured, matched => by
    simp only [capture] at matched
    split at matched
    · simpa using isSome_lookup_capture matched
    · cases matched
  | .param other :: rest, [], _, matched => nomatch matched
  | .param other :: rest, segment :: path, captured, matched => by
    simp only [capture] at matched
    split at matched
    · cases matched
    · obtain ⟨tail, captures, rfl⟩ := Option.map_eq_some_iff.mp matched
      have tailLookup : (tail.lookup name).isSome = true ↔ .param name ∈ rest := isSome_lookup_capture captures
      cases eq_or_ne name other with
      | inl same =>
        obtain rfl := same
        simp
      | inr different =>
        have differs : (name == other) = false := beq_false_of_ne different
        simp [List.lookup_cons, differs, tailLookup, different]

/-- The method that a handler is routed by. -/
def Handler.method : Handler → Method
  | .listWorkspace | .getWorkspaceInvite | .getWorkspaceMembers | .getCollab | .getWorkspaceUsage => .get
  | .getCollabSnapshot | .getAllCollabSnapshotList | .getCollabMember | .getCollabMemberList | .batchGetCollab => .get
  | .createWorkspace | .postWorkspaceInvite | .postAcceptWorkspaceInvite | .leaveWorkspace => .post
  | .createWorkspaceMembers | .createCollab | .batchCreateCollab | .createCollabList => .post
  | .createCollabSnapshot | .addCollabMember => .post
  | .openWorkspace | .updateWorkspaceMember | .updateCollab | .updateCollabMember => .put
  | .patchWorkspace => .patch
  | .deleteWorkspace | .removeWorkspaceMember | .deleteCollab | .removeCollabMember => .delete

/-- The handlers whose path names a collab. -/
def Handler.namesCollab : Handler → Bool
  | .createCollab | .getCollab | .updateCollab | .deleteCollab => true
  | .getCollabSnapshot | .createCollabSnapshot | .getAllCollabSnapshotList => true
  | .addCollabMember | .getCollabMember | .updateCollabMember | .removeCollabMember | .getCollabMemberList => true
  | _ => false

theorem workspaceScope_routes : ∀ resource ∈ workspaceScope, ∀ route ∈ resource.routes,
    route.1 = route.2.method ∧ (.param COLLAB_OBJECT_ID_PATH ∈ resource.pattern ↔ route.2.namesCollab = true) ∧
      (.param WORKSPACE_ID_PATH ∈ resource.pattern → route.2 ≠ .patchWorkspace) ∧
      (route.2 = .createCollab → resource.pattern = COLLAB_PATTERN) := by
  decide

structure Routed (request : Request) (handler : Handler) (captured : Captured) : Prop where
  middleware : ((matchResource request.path).bind fun resource => resource.pattern.capture request.path) = some captured
  method : request.method = handler.method
  object : (captured.lookup COLLAB_OBJECT_ID_PATH).isSome = true ↔ handler.namesCollab = true
  workspace : (captured.lookup WORKSPACE_ID_PATH).isSome = true → handler ≠ .patchWorkspace
  creates : handler = .createCollab → (COLLAB_PATTERN.capture request.path).isSome = true

theorem Request.routed {request : Request} {handler : Handler} {captured : Captured}
    (handled : request.handler = some (handler, captured)) : Routed request handler captured := by
  unfold Request.handler at handled
  cases found : matchResource request.path with
  | none => simp [found] at handled
  | some resource =>
    simp only [found] at handled
    split at handled
    case h_2 => cases handled
    case h_1 captured' route captures routes =>
      cases handled
      have mem := List.mem_of_find?_eq_some found
      have method : route.1 = request.method := by simpa using List.find?_some routes
      obtain ⟨routedBy, object, workspace, creates⟩ :=
        workspaceScope_routes resource mem route (List.mem_of_find?_eq_some routes)
      exact {
        middleware := by simp [found, captures]
        method := method.symm.trans routedBy
        object := (ResourceDef.isSome_lookup_capture captures).trans object
        workspace := fun named => workspace ((ResourceDef.isSome_lookup_capture captures).mp named)
        creates := fun same => by rw [← creates same, captures, Option.isSome_some] }

/-! ## The checks of the middleware -/

section Server

variable {Op StateVector AwarenessUpdate : Type} [DecidableEq Op] {yrs : Yrs Op StateVector AwarenessUpdate}
  {lib : StorageLib yrs} {storage : CollabStorageImpl} {uid : Int} {request : Request}
  {handler : Handler} {captured : Captured} {checks : List Check}

theorem capture_workspacePattern {path : List String} {captured : Captured}
    (matched : WORKSPACE_PATTERN.capture path = some captured) : path = ["api", "workspace"] := by
  rcases path with _ | ⟨first, _ | ⟨second, _ | ⟨third, path⟩⟩⟩ <;>
    simp_all [WORKSPACE_PATTERN, ResourceDef.capture]

theorem capture_collabPattern {path : List String} {captured : Captured}
    (matched : COLLAB_PATTERN.capture path = some captured) :
    ∃ workspaceId objectId, workspaceId.isEmpty = false ∧ objectId.isEmpty = false ∧
      path = ["api", "workspace", workspaceId, "collab", objectId] := by
  rcases path with _ | ⟨first, _ | ⟨second, _ | ⟨third, _ | ⟨fourth, _ | ⟨fifth, _ | ⟨sixth, path⟩⟩⟩⟩⟩⟩ <;>
    simp_all [COLLAB_PATTERN, ResourceDef.capture]

/-- Only the creation of a workspace is let through by the check of workspaces. -/
theorem createWorkspace_of_shouldSkip (handled : request.handler = some (handler, captured))
    (skips : WorkspaceMiddlewareAccessControl.shouldSkip request = true) : handler = .createWorkspace := by
  obtain ⟨method, path, payload⟩ := request
  simp only [WorkspaceMiddlewareAccessControl.shouldSkip, WorkspaceMiddlewareAccessControl.skipResources,
    List.any_cons, List.any_nil, Bool.or_false, Bool.and_eq_true, decide_eq_true_eq, Option.isSome_iff_exists] at skips
  obtain ⟨rfl, matched, captures⟩ := skips
  cases capture_workspacePattern captures
  have created : Request.handler ⟨.post, ["api", "workspace"], payload⟩ = some (.createWorkspace, []) := by rfl
  cases handled.symm.trans created
  rfl

theorem createCollab_of_shouldSkip (handled : request.handler = some (handler, captured))
    (skips : CollabMiddlewareAccessControl.shouldSkip request = true) : handler = .createCollab := by
  obtain ⟨method, path, payload⟩ := request
  simp only [CollabMiddlewareAccessControl.shouldSkip, CollabMiddlewareAccessControl.skipResources,
    List.any_cons, List.any_nil, Bool.or_false, Bool.and_eq_true, decide_eq_true_eq, Option.isSome_iff_exists] at skips
  obtain ⟨rfl, matched, captures⟩ := skips
  obtain ⟨workspaceId, objectId, someWorkspace, someObject, rfl⟩ := capture_collabPattern captures
  have created : Request.handler ⟨.post, ["api", "workspace", workspaceId, "collab", objectId], payload⟩ =
      some (.createCollab, [(WORKSPACE_ID_PATH, workspaceId), (COLLAB_OBJECT_ID_PATH, objectId)]) := by
    simp [Request.handler, matchResource, workspaceScope, resource, ResourceDef.capture, someWorkspace, someObject]
  cases handled.symm.trans created
  rfl

theorem WorkspaceMiddlewareAccessControl.requireRole_eq_owner {role : AFRole}
    (required : requireRole request = some role) : role = .owner := by
  obtain ⟨rule, rules, found⟩ := List.exists_of_findSome?_eq_some required
  split at found
  · have owners : ∀ rule ∈ requireRoleRules, ∀ entry ∈ rule.2, entry.2 = .owner := by decide
    obtain ⟨before, after, entries, _⟩ := List.lookup_eq_some_iff.mp found
    exact owners rule rules (request.method, role) (entries ▸ List.mem_append_cons_self)
  · cases found

theorem CollabMiddlewareAccessControl.requireAccessLevel_eq_fullAccess {level : AFAccessLevel}
    (required : requireAccessLevel request = some level) : level = .fullAccess := by
  obtain ⟨rule, rules, found⟩ := List.exists_of_findSome?_eq_some required
  split at found
  · have levels : ∀ rule ∈ requireAccessLevels, ∀ entry ∈ rule.2, entry.2 = .fullAccess := by decide
    obtain ⟨before, after, entries, _⟩ := List.lookup_eq_some_iff.mp found
    exact levels rule rules (request.method, level) (entries ▸ List.mem_append_cons_self)
  · cases found

theorem includesAction_owner (action : Action) : includesAction (.fromRole .owner) action = true := by
  cases action <;> decide

theorem includesAction_fullAccess (action : Action) : includesAction (.fromAccessLevel .fullAccess) action = true := by
  cases action <;> decide

theorem includesAction_fromAction (action : Action) : includesAction (.fromAction action) action = true := by
  cases action <;> decide

/-- The middleware has passed the object with no less than the request's method asks for. -/
structure Check.Passes (check : Check) (request : Request) (object : ObjectType) : Prop where
  object : check.object = object
  action : includesAction check.action request.method.action = true

theorem WorkspaceMiddlewareAccessControl.check_passes (request : Request) (workspaceId : String) :
    (check request workspaceId).Passes request (.workspace workspaceId) := by
  refine ⟨rfl, ?_⟩
  simp only [check]
  cases required : requireRole request with
  | none => exact includesAction_fromAction _
  | some role =>
    cases requireRole_eq_owner required
    exact includesAction_owner _

theorem CollabMiddlewareAccessControl.check_passes (request : Request) (workspaceId oid : String) :
    (check request workspaceId oid).Passes request (.collab oid) := by
  refine ⟨rfl, ?_⟩
  simp only [check]
  cases required : requireAccessLevel request with
  | none => exact includesAction_fromAction _
  | some level =>
    cases requireAccessLevel_eq_fullAccess required
    exact includesAction_fullAccess _

theorem WorkspaceMiddlewareAccessControl.checkResourcePermission_eq_ok {workspaceId : String}
    (handled : request.handler = some (handler, captured)) (other : handler ≠ .createWorkspace) :
    checkResourcePermission storage uid request workspaceId = .ok checks ↔
      (check request workspaceId).run storage uid = .ok true ∧ checks = [check request workspaceId] := by
  have checked : shouldSkip request = false :=
    Bool.eq_false_iff.mpr fun skips => other (createWorkspace_of_shouldSkip handled skips)
  simp only [checkResourcePermission, checked, Bool.false_eq_true, if_false]
  cases (check request workspaceId).run storage uid with
  | error error => simp
  | ok allowed => cases allowed <;> simp [eq_comm]

theorem CollabMiddlewareAccessControl.checkResourcePermission_eq_ok {workspaceId oid : String}
    (handled : request.handler = some (handler, captured)) (other : handler ≠ .createCollab) :
    checkResourcePermission storage uid request workspaceId oid = .ok checks ↔
      isCollabExists storage.cache.table oid none = .ok true ∧
        (check request workspaceId oid).run storage uid = .ok true ∧ checks = [check request workspaceId oid] := by
  have checked : shouldSkip request = false :=
    Bool.eq_false_iff.mpr fun skips => other (createCollab_of_shouldSkip handled skips)
  simp only [checkResourcePermission, checked, Bool.false_eq_true, if_false]
  cases isCollabExists storage.cache.table oid none with
  | error error => simp
  | ok found =>
    cases found with
    | false => simp
    | true =>
      cases (check request workspaceId oid).run storage uid with
      | error error => simp
      | ok allowed => cases allowed <;> simp [eq_comm]

theorem CollabMiddlewareAccessControl.shouldSkip_createCollab
    (handled : request.handler = some (.createCollab, captured)) : shouldSkip request = true := by
  have routed := Request.routed handled
  simp [shouldSkip, skipResources, routed.method, Handler.method, routed.creates rfl]

/-- The object that the middleware asks about: what is about to be created is not there yet. -/
def checkedCollab (handler : Handler) (captured : Captured) : Option String :=
  if handler = .createCollab then none else captured.lookup COLLAB_OBJECT_ID_PATH

variable (lib storage uid) in
/-- The user may do to the ids of the path what the request's method asks for, and the collab
    that it names is stored. -/
def PathPermitted (request : Request) (handler : Handler) (captured : Captured) : Prop :=
  ∀ workspaceId, pathWorkspaceId lib captured = some workspaceId →
    (WorkspaceMiddlewareAccessControl.check request workspaceId.text).run storage uid = .ok true ∧
      ∀ oid, checkedCollab handler captured = some oid →
        isCollabExists storage.cache.table oid none = .ok true ∧
          (CollabMiddlewareAccessControl.check request workspaceId.text oid).run storage uid = .ok true

variable (lib) in
/-- What the middleware checks of a request that creates no workspace. -/
def pathChecks (request : Request) (handler : Handler) (captured : Captured) : List Check :=
  match pathWorkspaceId lib captured, checkedCollab handler captured with
  | none, _ => []
  | some workspaceId, none => [WorkspaceMiddlewareAccessControl.check request workspaceId.text]
  | some workspaceId, some oid => [WorkspaceMiddlewareAccessControl.check request workspaceId.text,
      CollabMiddlewareAccessControl.check request workspaceId.text oid]

theorem accessControlMiddleware_eq_ok (handled : request.handler = some (handler, captured))
    (noWorkspace : handler ≠ .createWorkspace) :
    accessControlMiddleware lib storage uid request = .ok checks ↔
      PathPermitted lib storage uid request handler captured ∧ checks = pathChecks lib request handler captured := by
  simp only [accessControlMiddleware, (Request.routed handled).middleware, PathPermitted, pathChecks]
  cases pathWorkspaceId lib captured with
  | none => simp [eq_comm]
  | some workspaceId =>
    simp only [bind_eq_ok, WorkspaceMiddlewareAccessControl.checkResourcePermission_eq_ok handled noWorkspace]
    by_cases creates : handler = .createCollab
    · -- the path names the new collab, and the check of collabs lets it through
      obtain rfl := creates
      have skips := CollabMiddlewareAccessControl.shouldSkip_createCollab handled
      cases captured.lookup COLLAB_OBJECT_ID_PATH with
      | none => simp [checkedCollab, pure, Except.pure, eq_comm]
      | some oid =>
        simp [CollabMiddlewareAccessControl.checkResourcePermission, skips, checkedCollab, bind, Except.bind, pure,
          Except.pure, eq_comm]
    · simp only [checkedCollab, creates, if_false]
      cases captured.lookup COLLAB_OBJECT_ID_PATH with
      | none => simp [pure, Except.pure, eq_comm]
      | some oid =>
        simp only [bind_eq_ok, CollabMiddlewareAccessControl.checkResourcePermission_eq_ok handled creates]
        simp [pure, Except.pure, eq_comm, and_assoc]

/-- What was checked was allowed. -/
theorem PathPermitted.run_pathChecks (permitted : PathPermitted lib storage uid request handler captured)
    {check : Check} (checked : check ∈ pathChecks lib request handler captured) : check.run storage uid = .ok true := by
  rw [pathChecks] at checked
  split at checked
  · cases checked
  · case h_2 parsed _ =>
    rw [List.mem_singleton.mp checked]
    exact (permitted _ parsed).1
  · case h_3 parsed named =>
    cases List.mem_cons.mp checked with
    | inl first =>
      rw [first]
      exact (permitted _ parsed).1
    | inr second =>
      rw [List.mem_singleton.mp second]
      exact ((permitted _ parsed).2 _ named).2

theorem exists_covers_workspace_iff (handled : request.handler = some (handler, captured)) (workspaceId : String) :
    (∃ check ∈ pathChecks lib request handler captured,
        check.Covers handler.method.action (.workspace workspaceId)) ↔
      ∃ checked, pathWorkspaceId lib captured = some checked ∧ checked.text = workspaceId := by
  rw [← (Request.routed handled).method, pathChecks]
  cases pathWorkspaceId lib captured with
  | none => simp
  | some checked =>
    have workspacePasses := WorkspaceMiddlewareAccessControl.check_passes request checked.text
    cases checkedCollab handler captured with
    | none => simp [Check.Covers, workspacePasses.object, workspacePasses.action]
    | some oid =>
      have collabPasses := CollabMiddlewareAccessControl.check_passes request checked.text oid
      simp [Check.Covers, workspacePasses.object, workspacePasses.action, collabPasses.object]

/-- The path names the collab, in a workspace id that parses. -/
def NamesCollab (lib : StorageLib yrs) (captured : Captured) (objectId : String) : Prop :=
  (pathWorkspaceId lib captured).isSome = true ∧ captured.lookup COLLAB_OBJECT_ID_PATH = some objectId

theorem exists_covers_collab_iff (handled : request.handler = some (handler, captured))
    (other : handler ≠ .createCollab) (objectId : String) :
    (∃ check ∈ pathChecks lib request handler captured, check.Covers handler.method.action (.collab objectId)) ↔
      NamesCollab lib captured objectId := by
  rw [← (Request.routed handled).method, pathChecks, NamesCollab, checkedCollab, if_neg other]
  cases pathWorkspaceId lib captured with
  | none => simp
  | some workspaceId =>
    have workspacePasses := WorkspaceMiddlewareAccessControl.check_passes request workspaceId.text
    cases captured.lookup COLLAB_OBJECT_ID_PATH with
    | none => simp [Check.Covers, workspacePasses.object]
    | some oid =>
      have collabPasses := CollabMiddlewareAccessControl.check_passes request workspaceId.text oid
      simp [Check.Covers, workspacePasses.object, collabPasses.object, collabPasses.action]

end Server

end FlowCloud.Api
