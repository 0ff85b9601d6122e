import FlowCloud.Api.Middleware

/-! # What was authorised is what is acted on

The middleware checks the ids in the path as the router has left them; the extractors of a
handler decode them once more.  The handlers that read or delete a collab check the ids of the
payload on their way to the data; those that create one grant before they check.  The handlers
of collab members, of a workspace's settings and of a batch read check nothing: they are only
right when the payload says what the path says.
-/

namespace FlowCloud.Api

open FlowCloud.Foundation FlowCloud.Entity FlowCloud.Protocol FlowCloud.Casbin FlowCloud.Storage
open CollabStorageImpl (Accepts written createCollab_eq_ok createCollab_enforceWriteWorkspace)

section Server

variable {Op StateVector AwarenessUpdate : Type} [DecidableEq Op] {yrs : Yrs Op StateVector AwarenessUpdate}
  {lib : StorageLib yrs} {decode : String → String} {storage : CollabStorageImpl} {uid : Int} {request : Request}
  {handler : Handler} {captured : Captured} {checks : List Check}

/-! ## The traces of the handlers -/

theorem Authorised.append {first second : List TraceEntry} (firstAuthorised : Authorised first)
    (secondAuthorised : Authorised second) : Authorised (first ++ second) := by
  intro action subject acts
  cases List.mem_append.mp acts with
  | inl acts =>
    obtain ⟨check, checked, covers⟩ := firstAuthorised action subject acts
    exact ⟨check, List.mem_append_left second checked, covers⟩
  | inr acts =>
    obtain ⟨check, checked, covers⟩ := secondAuthorised action subject acts
    exact ⟨check, List.mem_append_right first checked, covers⟩

/-- More of a trace that is authorised in itself, put in anywhere. -/
theorem Authorised.interpose {first middle last : List TraceEntry} (outer : Authorised (first ++ last))
    (inner : Authorised middle) : Authorised (first ++ (middle ++ last)) := by
  intro action subject acts
  have sameEntries (entry : TraceEntry) : entry ∈ middle ++ (first ++ last) ↔ entry ∈ first ++ (middle ++ last) := by
    simp only [List.mem_append]
    tauto
  obtain ⟨check, checked, covers⟩ := inner.append outer action subject ((sameEntries _).mpr acts)
  exact ⟨check, (sameEntries _).mp checked, covers⟩

theorem authorised_checks (checks : List Check) : Authorised (checks.map .allowed) := by
  intro action subject acts
  simp at acts

/-- Acts behind the checks of the middleware and no others. -/
theorem authorised_acts_iff {acts : List (Action × Subject)} :
    Authorised (checks.map .allowed ++ acts.map fun act => .acts act.1 act.2) ↔
      ∀ act ∈ acts, ∃ check ∈ checks, check.Covers act.1 act.2 := by
  constructor
  · intro authorised act mem
    obtain ⟨check, checked, covers⟩ :=
      authorised act.1 act.2 (List.mem_append_right _ (List.mem_map.mpr ⟨act, mem, rfl⟩))
    exact ⟨check, by simpa using checked, covers⟩
  · intro covered action subject mem
    have mem : (action, subject) ∈ acts := by simpa using mem
    obtain ⟨check, checked, covers⟩ := covered (action, subject) mem
    exact ⟨check, by simpa using checked, covers⟩

theorem authorised_acts_singleton {action : Action} {subject : Subject} :
    Authorised (checks.map .allowed ++ [.acts action subject]) ↔ ∃ check ∈ checks, check.Covers action subject := by
  have single : Authorised (checks.map .allowed ++ [(action, subject)].map fun act => .acts act.1 act.2) ↔ _ :=
    authorised_acts_iff
  simpa using single

/-- A check right before the act that it is for. -/
theorem authorised_pair {check : Check} {action : Action} {subject : Subject} (covers : check.Covers action subject) :
    Authorised [.allowed check, .acts action subject] := by
  intro action' subject' acts
  simp only [List.mem_cons, reduceCtorEq, TraceEntry.acts.injEq, List.not_mem_nil, or_false, false_or] at acts
  obtain ⟨rfl, rfl⟩ := acts
  exact ⟨check, List.mem_cons_self, covers⟩

theorem authorised_nil : Authorised [] := by
  intro action subject acts
  cases acts

variable (lib storage uid) in
theorem authorised_readCollab (params : QueryCollabParams) : Authorised (readCollab storage uid params) := by
  unfold readCollab
  split
  · exact authorised_nil
  · split
    · exact authorised_pair ⟨rfl, includesAction_fromAction .read⟩
    · exact authorised_nil

variable (storage uid) in
theorem authorised_removeCollab (workspaceId objectId : String) :
    Authorised (removeCollab storage uid workspaceId objectId) := by
  unfold removeCollab
  split
  · dsimp only
    split
    · exact authorised_pair ⟨rfl, includesAction_fullAccess .delete⟩
    · exact authorised_nil
  · exact authorised_nil

/-! ## Writes

The acts of a write are on stored collabs, which the write itself asks about, or on new ones,
where only the owner of the workspace is allowed.
-/

/-- The owner's check is in the trace of a write that acts on a new collab exactly for an owner. -/
structure WriteTrace (owner : Prop) (workspaceId : String) (trace : List TraceEntry) : Prop where
  covered : ∀ action subject, .acts action subject ∈ trace →
    (∃ objectId, subject = .newCollab workspaceId objectId) ∨
      ∃ check, .allowed check ∈ trace ∧ check.Covers action subject
  asked : owner → ∀ action objectId, .acts action (.newCollab workspaceId objectId) ∈ trace →
    .allowed (ownerCheck workspaceId) ∈ trace
  allowed : .allowed (ownerCheck workspaceId) ∈ trace → owner

theorem WriteTrace.nil (owner : Prop) (workspaceId : String) : WriteTrace owner workspaceId [] where
  covered := nofun
  asked := nofun
  allowed := nofun

theorem WriteTrace.append {owner : Prop} {workspaceId : String} {first second : List TraceEntry}
    (firstWrites : WriteTrace owner workspaceId first) (secondWrites : WriteTrace owner workspaceId second) :
    WriteTrace owner workspaceId (first ++ second) where
  covered action subject acts := by
    cases List.mem_append.mp acts with
    | inl acts =>
      refine (firstWrites.covered action subject acts).imp_right ?_
      intro ⟨check, checked, covers⟩
      exact ⟨check, List.mem_append_left second checked, covers⟩
    | inr acts =>
      refine (secondWrites.covered action subject acts).imp_right ?_
      intro ⟨check, checked, covers⟩
      exact ⟨check, List.mem_append_right first checked, covers⟩
  asked owns action objectId acts := by
    cases List.mem_append.mp acts with
    | inl acts => exact List.mem_append_left second (firstWrites.asked owns action objectId acts)
    | inr acts => exact List.mem_append_right first (secondWrites.asked owns action objectId acts)
  allowed checked := by
    cases List.mem_append.mp checked with
    | inl checked => exact firstWrites.allowed checked
    | inr checked => exact secondWrites.allowed checked

/-- Behind checks whose owner's check, if there is one, was allowed. -/
theorem WriteTrace.authorised_iff {owner : Prop} {workspaceId : String} {trace : List TraceEntry}
    (writes : WriteTrace owner workspaceId trace) (owned : ownerCheck workspaceId ∈ checks → owner) :
    Authorised (checks.map .allowed ++ trace) ↔
      owner ∨ ∀ action objectId, .acts action (.newCollab workspaceId objectId) ∉ trace := by
  constructor
  · intro authorised
    by_cases owns : owner
    · exact .inl owns
    · refine .inr fun action objectId acts => owns ?_
      obtain ⟨check, checked, covers⟩ := authorised action _ (List.mem_append_right _ acts)
      cases covers
      cases List.mem_append.mp checked with
      | inl checked => exact owned (by simpa using checked)
      | inr checked => exact writes.allowed checked
  · intro condition
    refine (authorised_checks checks).append fun action subject acts => ?_
    cases writes.covered action subject acts with
    | inr covered => exact covered
    | inl new =>
      obtain ⟨objectId, rfl⟩ := new
      cases condition with
      | inl owns => exact ⟨ownerCheck workspaceId, writes.asked owns action objectId acts, rfl⟩
      | inr nothingNew => exact absurd acts (nothingNew action objectId)

section Write

variable {table : AfCollab} {workspaceId : String} {params : CollabParams}

theorem writeCollab_stored (valid : params.validate = .ok ()) (stored : (table params.objectId).isSome = true) :
    writeCollab storage uid table workspaceId params =
      if storage.enforceWriteCollab true workspaceId uid params.objectId none = .ok true then
        [.allowed ⟨workspaceId, .collab params.objectId, .fromAction .write⟩, .acts .write (.collab params.objectId)]
      else [] := by
  rw [writeCollab, valid]
  exact if_pos stored

theorem writeCollab_new (valid : params.validate = .ok ()) (new : (table params.objectId).isSome = false) :
    writeCollab storage uid table workspaceId params =
      .acts .write (.newCollab workspaceId params.objectId) ::
        if storage.enforceWriteWorkspace true uid workspaceId = .ok true then
          [.allowed (ownerCheck workspaceId), .acts .write (.newCollab workspaceId params.objectId)]
        else [] := by
  rw [writeCollab, valid]
  exact if_neg (by simp [new])

theorem writeCollab_invalid {error : AppError} (invalid : params.validate = .error error) :
    writeCollab storage uid table workspaceId params = [] := by
  rw [writeCollab, invalid]

/-- The grant after a write adds nothing that the write has not asked for. -/
theorem writeTrace_regrant {id : Uuid}
    (accepts : Accepts lib true storage table workspaceId uid params .none id) (regrant : Bool) :
    WriteTrace (storage.enforceWriteWorkspace true uid workspaceId = .ok true) workspaceId
      (writeCollab storage uid table workspaceId params ++
        if regrant then [.acts .write (writtenSubject table workspaceId params.objectId)] else []) := by
  have permitted := accepts.allowed
  cases found : table params.objectId with
  | some existing =>
    simp only [found] at permitted
    have permitted : storage.enforceWriteCollab true workspaceId uid params.objectId none = .ok true := permitted
    have stored : (table params.objectId).isSome = true := by simp [found]
    rw [writeCollab_stored accepts.valid stored, if_pos permitted, writtenSubject, if_pos stored]
    refine { covered := fun action subject acts => .inr ?_, asked := ?_, allowed := ?_ }
    · refine ⟨⟨workspaceId, .collab params.objectId, .fromAction .write⟩, by simp, ?_⟩
      obtain ⟨rfl, rfl⟩ : action = .write ∧ subject = .collab params.objectId := by
        cases regrant <;> simpa using acts
      exact ⟨rfl, includesAction_fromAction .write⟩
    · intro _ action objectId acts
      cases regrant <;> simp at acts
    · intro checked
      cases regrant <;> simp [ownerCheck] at checked
  | none =>
    simp only [found] at permitted
    have new : (table params.objectId).isSome = false := by simp [found]
    have subject : writtenSubject table workspaceId params.objectId = .newCollab workspaceId params.objectId := by
      simp [writtenSubject, found]
    rw [writeCollab_new accepts.valid new, if_pos permitted, subject]
    refine { covered := fun action subject acts => .inl ?_, asked := ?_, allowed := fun _ => permitted }
    · refine ⟨params.objectId, ?_⟩
      cases regrant <;> simp at acts <;> exact acts.2
    · intro _ action objectId acts
      simp

theorem writeTrace_writeCollab (storage : CollabStorageImpl) (uid : Int) (table : AfCollab) (workspaceId : String)
    (params : CollabParams) : WriteTrace (storage.enforceWriteWorkspace true uid workspaceId = .ok true) workspaceId
      (writeCollab storage uid table workspaceId params) := by
  cases valid : params.validate with
  | error error =>
    rw [writeCollab_invalid valid]
    exact .nil _ _
  | ok accepted =>
    cases found : (table params.objectId).isSome with
    | true =>
      rw [writeCollab_stored valid found]
      split
      · have covers : Check.Covers ⟨workspaceId, .collab params.objectId, .fromAction .write⟩ .write
            (.collab params.objectId) := ⟨rfl, includesAction_fromAction .write⟩
        exact {
          covered := fun action subject acts => .inr (authorised_pair covers action subject acts)
          asked := by simp
          allowed := by simp [ownerCheck] }
      · exact .nil _ _
    | false =>
      rw [writeCollab_new valid found]
      split
      · case isTrue owns =>
        exact {
          covered := fun action subject acts => .inl ⟨params.objectId, And.right (by simpa using acts)⟩
          asked := by simp
          allowed := fun _ => owns }
      · case isFalse refused =>
        exact {
          covered := fun action subject acts => .inl ⟨params.objectId, And.right (by simpa using acts)⟩
          asked := fun owns => absurd owns refused
          allowed := by simp }

/-- A write acts on a new collab when nothing is stored under the id. -/
theorem newCollab_not_mem_writeCollab_iff :
    (∀ action objectId, .acts action (.newCollab workspaceId objectId) ∉
        writeCollab storage uid table workspaceId params) ↔
      (params.validate = .ok () → (table params.objectId).isSome = true) := by
  cases valid : params.validate with
  | error error => simp [writeCollab_invalid valid]
  | ok accepted =>
    cases found : (table params.objectId).isSome with
    | true =>
      rw [writeCollab_stored valid found]
      split <;> simp
    | false =>
      rw [writeCollab_new valid found]
      refine iff_of_false (fun nothing => ?_) (fun stored => nomatch stored rfl)
      exact nothing .write params.objectId List.mem_cons_self

end Write

variable (lib uid) in
/-- Every collab of the list, up to the first that is refused, is there before its write. -/
def NothingNew (regrant : Bool) (workspaceId : String) : CollabStorageImpl → AfCollab → List CollabParams → Prop
  | _, _, [] => True
  | storage, table, params :: paramsList =>
    (params.validate = .ok () → (table params.objectId).isSome = true) ∧
      ∀ id, Accepts lib true storage table workspaceId uid params .none id →
        NothingNew regrant workspaceId
          (storage.createCollab lib true regrant table workspaceId uid params .none).2
          (written lib table id uid params) paramsList

variable (lib uid) in
theorem writeTrace_writeCollabs (regrant : Bool) (workspaceId : String) (paramsList : List CollabParams)
    (storage : CollabStorageImpl) (table : AfCollab) :
    WriteTrace (storage.enforceWriteWorkspace true uid workspaceId = .ok true) workspaceId
      (writeCollabs lib uid regrant workspaceId storage table paramsList) := by
  induction paramsList generalizing storage table with
  | nil => exact .nil _ _
  | cons params paramsList inductionHypothesis =>
    rw [writeCollabs]
    split
    · simpa using writeTrace_writeCollab storage uid table workspaceId params
    · case h_2 next after accepted =>
      obtain ⟨id, accepts, _⟩ := createCollab_eq_ok.mp (congrArg Prod.fst accepted)
      rw [← List.append_assoc]
      refine (writeTrace_regrant accepts regrant).append ?_
      rw [← createCollab_enforceWriteWorkspace accepted workspaceId]
      exact inductionHypothesis after next

variable (lib uid) in
theorem nothingNew_iff (regrant : Bool) (workspaceId : String) (paramsList : List CollabParams)
    (storage : CollabStorageImpl) (table : AfCollab) :
    (∀ action objectId, .acts action (.newCollab workspaceId objectId) ∉
        writeCollabs lib uid regrant workspaceId storage table paramsList) ↔
      NothingNew lib uid regrant workspaceId storage table paramsList := by
  induction paramsList generalizing storage table with
  | nil => simp [writeCollabs, NothingNew]
  | cons params paramsList inductionHypothesis =>
    have turn : (∀ action objectId, .acts action (.newCollab workspaceId objectId) ∉
        writeCollab storage uid table workspaceId params) ↔ _ := newCollab_not_mem_writeCollab_iff
    rw [writeCollabs, NothingNew, ← turn]
    split
    · case h_1 error after refused =>
      have rejected (id : Uuid) : ¬Accepts lib true storage table workspaceId uid params .none id := by
        intro accepts
        have accepted : (storage.createCollab lib true regrant table workspaceId uid params .none).1 = .ok _ :=
          createCollab_eq_ok.mpr ⟨id, accepts, rfl⟩
        rw [refused] at accepted
        cases accepted
      simp [rejected]
    · case h_2 next after accepted =>
      obtain ⟨id, accepts, same⟩ := createCollab_eq_ok.mp (congrArg Prod.fst accepted)
      have rest : (∀ id, Accepts lib true storage table workspaceId uid params .none id →
          NothingNew lib uid regrant workspaceId
            (storage.createCollab lib true regrant table workspaceId uid params .none).2
            (written lib table id uid params) paramsList) ↔
          NothingNew lib uid regrant workspaceId after next paramsList := by
        rw [accepted]
        constructor
        · intro nothing
          rw [same]
          exact nothing id accepts
        · intro nothing other otherAccepts
          have again : (storage.createCollab lib true regrant table workspaceId uid params .none).1 = .ok _ :=
            createCollab_eq_ok.mpr ⟨other, otherAccepts, rfl⟩
          rw [accepted] at again
          cases again
          exact nothing
      rw [rest, ← inductionHypothesis after next]
      constructor
      · intro nothing
        refine ⟨fun action objectId acts => ?_, fun action objectId acts => ?_⟩
        · exact nothing action objectId (List.mem_append_left _ acts)
        · exact nothing action objectId (List.mem_append_right _ (List.mem_append_right _ acts))
      · intro ⟨nothingHere, nothingLater⟩ action objectId acts
        have stored : (table params.objectId).isSome = true := turn.mp nothingHere accepts.valid
        simp only [List.mem_append] at acts
        obtain here | again | later := acts
        · exact nothingHere action objectId here
        · -- the policy that is written once more is on the stored collab
          cases regrant <;> simp [writtenSubject, stored] at again
        · exact nothingLater action objectId later

/-! ## Requests -/

section Fits

variable (lib) (decode) (storage) (uid)

/-- The id that the extractor reads is the one that the middleware has read. -/
def WorkspaceFits (captured : Captured) : Prop :=
  ∀ id, extractedWorkspaceId lib decode captured = some id →
    ∃ checked, pathWorkspaceId lib captured = some checked ∧ checked.text = id.text

/-- The user owns the workspace, or the list creates nothing before it is refused. -/
def WritesFit (regrant : Bool) (workspaceId : String) (paramsList : List CollabParams) : Prop :=
  storage.enforceWriteWorkspace true uid workspaceId = .ok true ∨
    NothingNew lib uid regrant workspaceId storage storage.cache.table paramsList

def ReadsCollab (params : QueryCollabParams) : Prop :=
  params.validate = .ok () ∧
    storage.enforceReadCollab true params.workspaceId uid params.inner.objectId none = .ok true

/-- A snapshot is written of a collab that was read, under a workspace id that parses. -/
def SnapshotFits (captured : Captured) (collabType : CollabType) : Prop :=
  ∀ workspaceId, captured.lookup WORKSPACE_ID_PATH = some workspaceId →
    ∀ objectId, captured.lookup COLLAB_OBJECT_ID_PATH = some objectId →
    ReadsCollab storage uid (.new (decode objectId) collabType (decode workspaceId)) →
    (extractedWorkspaceId lib decode captured).isSome = true → NamesCollab lib captured (decode objectId)

/-- A handler that checks nothing acts on a collab that the path names. -/
def ActsOnNamed (captured : Captured) (errors : Except AppError Unit) (objectId : String) : Prop :=
  errors = .ok () → NamesCollab lib captured objectId

/-- The ids that the handler acts on without a check of its own are those that the middleware
    has checked, and whoever creates a collab owns the workspace. -/
def PayloadFits (captured : Captured) (handler : Handler) (payload : Payload) : Prop :=
  match handler, payload with
  | .patchWorkspace, .patchWorkspaceParam _ => False
  | .postWorkspaceInvite, _ | .openWorkspace, _ | .leaveWorkspace, _ | .createWorkspaceMembers, _
  | .updateWorkspaceMember, _ | .getWorkspaceMembers, _ | .getWorkspaceUsage, _ | .deleteWorkspace, _
  | .removeWorkspaceMember, _ => WorkspaceFits lib decode captured
  | .createCollab, .createCollabParams workspaceId params | .updateCollab, .createCollabParams workspaceId params =>
    WritesFit lib storage uid false workspaceId [params]
  | .batchCreateCollab, .collabParamsList paramsList =>
    (∀ params ∈ paramsList, params.validate = .ok ()) →
      ∀ id, extractedWorkspaceId lib decode captured = some id → WritesFit lib storage uid true id.text paramsList
  | .createCollabList, .batchCreateCollabParams workspaceId paramsList =>
    workspaceId.isEmpty = false → WritesFit lib storage uid false workspaceId paramsList
  | .getCollabSnapshot, .querySnapshotParams _ | .getAllCollabSnapshotList, _ =>
    ∀ objectId, captured.lookup COLLAB_OBJECT_ID_PATH = some objectId → NamesCollab lib captured (decode objectId)
  | .createCollabSnapshot, .collabType collabType => SnapshotFits lib decode storage uid captured collabType
  | .addCollabMember, .insertCollabMemberParams params | .updateCollabMember, .insertCollabMemberParams params =>
    ActsOnNamed lib captured params.validate params.objectId
  | .getCollabMember, .collabMemberIdentify params | .removeCollabMember, .collabMemberIdentify params =>
    ActsOnNamed lib captured params.validate params.objectId
  | .getCollabMemberList, .queryCollabMembers workspaceId objectId =>
    ActsOnNamed lib captured (validated (validateNotEmptyStr "workspace_id" workspaceId ++
      validateNotEmptyStr "object_id" objectId)) objectId
  | .batchGetCollab, .batchQueryCollabParams queries => ∀ query ∈ queries, query.validate ≠ []
  | _, _ => True

end Fits

theorem authorised_onWorkspace_iff (handled : request.handler = some (handler, captured)) :
    Authorised ((pathChecks lib request handler captured).map .allowed ++
        onWorkspace lib decode captured handler.method.action) ↔ WorkspaceFits lib decode captured := by
  unfold onWorkspace WorkspaceFits
  cases extractedWorkspaceId lib decode captured with
  | none => simp [authorised_checks]
  | some id => simpa using authorised_acts_singleton.trans (exists_covers_workspace_iff handled id.text)

theorem authorised_onCollabMembers_iff (handled : request.handler = some (handler, captured))
    (other : handler ≠ .createCollab) (errors : Except AppError Unit) (objectId : String) :
    Authorised ((pathChecks lib request handler captured).map .allowed ++
        onCollabMembers errors handler.method.action objectId) ↔ ActsOnNamed lib captured errors objectId := by
  unfold onCollabMembers ActsOnNamed
  cases errors with
  | error error => simp [authorised_checks]
  | ok _ =>
    simpa using authorised_acts_singleton.trans (exists_covers_collab_iff handled other objectId)

/-- The handlers that read snapshots: the path always names a collab. -/
theorem authorised_pathCollab_iff (handled : request.handler = some (handler, captured))
    (other : handler ≠ .createCollab) {objectId : String}
    (named : captured.lookup COLLAB_OBJECT_ID_PATH = some objectId) :
    Authorised ((pathChecks lib request handler captured).map .allowed ++
        [.acts handler.method.action (.collab (decode objectId))]) ↔
      ∀ objectId, captured.lookup COLLAB_OBJECT_ID_PATH = some objectId →
        NamesCollab lib captured (decode objectId) := by
  rw [authorised_acts_singleton, exists_covers_collab_iff handled other]
  simp [named]

/-- The path of a workspace's settings names no workspace. -/
theorem not_authorised_patchWorkspace (handled : request.handler = some (.patchWorkspace, captured))
    (workspaceId : Uuid) :
    ¬Authorised ((pathChecks lib request .patchWorkspace captured).map .allowed ++
      [.acts .write (.workspace workspaceId.text)]) := by
  have unparsed : pathWorkspaceId lib captured = none := by
    cases named : captured.lookup WORKSPACE_ID_PATH with
    | none => simp [pathWorkspaceId, named]
    | some id => exact absurd rfl ((Request.routed handled).workspace (by simp [named]))
  have unchecked : pathChecks lib request .patchWorkspace captured = [] := by simp [pathChecks, unparsed]
  rw [authorised_acts_singleton, unchecked]
  simp

theorem authorised_batchGet_iff (handled : request.handler = some (.batchGetCollab, captured))
    (queries : List QueryCollab) :
    Authorised ((pathChecks lib request .batchGetCollab captured).map .allowed ++
        (queries.filter fun query => query.validate.isEmpty).map fun query => .acts .read (.collab query.objectId)) ↔
      ∀ query ∈ queries, query.validate ≠ [] := by
  have unnamed : captured.lookup COLLAB_OBJECT_ID_PATH = none := by
    have named : ¬(captured.lookup COLLAB_OBJECT_ID_PATH).isSome = true := fun named =>
      nomatch (Request.routed handled).object.mp named
    exact Option.not_isSome_iff_eq_none.mp named
  have uncovered (objectId : String) :
      ¬∃ check ∈ pathChecks lib request .batchGetCollab captured, check.Covers .read (.collab objectId) := by
    intro covered
    have names := (exists_covers_collab_iff handled (by decide) objectId).mp covered
    cases unnamed.symm.trans names.2
  have acts : Authorised ((pathChecks lib request .batchGetCollab captured).map .allowed ++
      ((queries.filter fun query => query.validate.isEmpty).map
        fun query => (Action.read, Subject.collab query.objectId)).map fun act => .acts act.1 act.2) ↔ _ :=
    authorised_acts_iff
  rw [List.map_map] at acts
  refine acts.trans ⟨fun covered query mem valid => ?_, fun invalid act mem => ?_⟩
  · exact uncovered query.objectId (covered _ (List.mem_map.mpr ⟨query, by simp [mem, valid], rfl⟩))
  · obtain ⟨query, valid, rfl⟩ := List.mem_map.mp mem
    rw [List.mem_filter, List.isEmpty_iff] at valid
    exact absurd valid.2 (invalid query valid.1)

theorem readCollab_eq (storage : CollabStorageImpl) (uid : Int) (params : QueryCollabParams) :
    ReadsCollab storage uid params ∧ readCollab storage uid params =
        [.allowed ⟨params.workspaceId, .collab params.inner.objectId, .fromAction .read⟩,
          .acts .read (.collab params.inner.objectId)] ∨
      ¬ReadsCollab storage uid params ∧ readCollab storage uid params = [] := by
  unfold readCollab ReadsCollab
  cases params.validate with
  | error error => simp
  | ok valid =>
    by_cases permitted : storage.enforceReadCollab true params.workspaceId uid params.inner.objectId none = .ok true
    · simp [permitted]
    · simp [permitted]

theorem authorised_createCollabSnapshot_iff (handled : request.handler = some (.createCollabSnapshot, captured))
    (params : QueryCollabParams) :
    Authorised ((pathChecks lib request .createCollabSnapshot captured).map .allowed ++
        if (readCollab storage uid params).isEmpty || (extractedWorkspaceId lib decode captured).isNone then
          readCollab storage uid params
        else readCollab storage uid params ++ [.acts .write (.collab params.inner.objectId)]) ↔
      (ReadsCollab storage uid params → (extractedWorkspaceId lib decode captured).isSome = true →
        NamesCollab lib captured params.inner.objectId) := by
  have readAuthorised := authorised_readCollab storage uid params
  cases readCollab_eq storage uid params with
  | inr unread =>
    obtain ⟨refused, nothing⟩ := unread
    rw [nothing]
    simp [refused, authorised_checks]
  | inl done =>
    obtain ⟨reads, read⟩ := done
    rw [read] at readAuthorised ⊢
    cases extractedWorkspaceId lib decode captured with
    | none => exact iff_of_true ((authorised_checks _).append readAuthorised) (fun _ parsed => nomatch parsed)
    | some id =>
      have named : (∃ check ∈ pathChecks lib request .createCollabSnapshot captured,
          check.Covers .write (.collab params.inner.objectId)) ↔ NamesCollab lib captured params.inner.objectId :=
        exists_covers_collab_iff handled (by decide) params.inner.objectId
      simp only [List.isEmpty_cons, Option.isNone_some, Bool.or_self, Bool.false_eq_true, if_false, reads,
        Option.isSome_some, forall_const]
      constructor
      · intro authorised
        obtain ⟨check, checked, covers⟩ := authorised .write (.collab params.inner.objectId) (by simp)
        simp only [List.mem_append, List.mem_map, TraceEntry.allowed.injEq, exists_eq_right, List.mem_cons,
          reduceCtorEq, or_false, List.not_mem_nil] at checked
        cases checked with
        | inl checked => exact named.mp ⟨check, checked, covers⟩
        | inr isRead =>
          -- the right to read does not include the write
          rw [isRead] at covers
          have included : includesAction (.fromAction .read) .write = true := covers.2
          exact absurd included (by decide)
      · intro names
        exact Authorised.interpose (authorised_acts_singleton.mpr (named.mpr names)) readAuthorised

/-- Behind a middleware that lets the request through. -/
theorem authorised_writeCollabs_iff (permitted : PathPermitted lib storage uid request handler captured)
    (regrant : Bool) (workspaceId : String) (paramsList : List CollabParams) :
    Authorised ((pathChecks lib request handler captured).map .allowed ++
        writeCollabs lib uid regrant workspaceId storage storage.cache.table paramsList) ↔
      WritesFit lib storage uid regrant workspaceId paramsList := by
  rw [WritesFit, ← nothingNew_iff]
  exact (writeTrace_writeCollabs lib uid regrant workspaceId paramsList storage storage.cache.table).authorised_iff
    permitted.run_pathChecks

theorem writeCollabs_singleton (workspaceId : String) (storage : CollabStorageImpl) (table : AfCollab)
    (params : CollabParams) : writeCollabs lib uid false workspaceId storage table [params] =
      writeCollab storage uid table workspaceId params := by
  simp only [writeCollabs]
  split <;> simp

theorem authorised_writeCollab_iff (permitted : PathPermitted lib storage uid request handler captured)
    (workspaceId : String) (params : CollabParams) :
    Authorised ((pathChecks lib request handler captured).map .allowed ++
        writeCollab storage uid storage.cache.table workspaceId params) ↔
      WritesFit lib storage uid false workspaceId [params] := by
  rw [← authorised_writeCollabs_iff permitted, writeCollabs_singleton]

theorem authorised_handlerTrace_iff (handled : request.handler = some (handler, captured))
    (permitted : PathPermitted lib storage uid request handler captured) :
    Authorised ((pathChecks lib request handler captured).map .allowed ++
        handlerTrace lib decode storage uid captured handler request.payload) ↔
      PayloadFits lib decode storage uid captured handler request.payload := by
  obtain ⟨method, path, payload⟩ := request
  have pathNames := (Request.routed handled).object
  have onlyChecks := (authorised_checks (pathChecks lib ⟨method, path, payload⟩ handler captured)).append authorised_nil
  cases handler with
  | createWorkspace | listWorkspace | getWorkspaceInvite | postAcceptWorkspaceInvite =>
    exact iff_true_intro onlyChecks
  | patchWorkspace =>
    cases payload with
    | patchWorkspaceParam workspaceId =>
      exact iff_false_intro (not_authorised_patchWorkspace handled workspaceId)
    | _ => exact iff_true_intro onlyChecks
  | postWorkspaceInvite | deleteWorkspace | openWorkspace | leaveWorkspace | getWorkspaceUsage =>
    exact authorised_onWorkspace_iff handled
  | getWorkspaceMembers | createWorkspaceMembers | updateWorkspaceMember | removeWorkspaceMember =>
    exact authorised_onWorkspace_iff handled
  | createCollab | updateCollab =>
    cases payload with
    | createCollabParams workspaceId params => exact authorised_writeCollab_iff permitted workspaceId params
    | _ => exact iff_true_intro onlyChecks
  -- these handlers of a collab ask the access control themselves
  | getCollab =>
    cases payload with
    | queryCollabParams params =>
      exact iff_true_intro ((authorised_checks _).append (authorised_readCollab storage uid params))
    | _ => exact iff_true_intro onlyChecks
  | deleteCollab =>
    cases payload with
    | deleteCollabParams workspaceId objectId =>
      exact iff_true_intro ((authorised_checks _).append (authorised_removeCollab storage uid workspaceId objectId))
    | _ => exact iff_true_intro onlyChecks
  | batchCreateCollab =>
    cases payload with
    | collabParamsList paramsList =>
      simp only [handlerTrace, PayloadFits]
      cases extractedWorkspaceId lib decode captured with
      | none => simp [authorised_checks]
      | some id =>
        simp only [List.all_eq_true, decide_eq_true_eq, Option.some.injEq, forall_eq']
        by_cases valid : ∀ params ∈ paramsList, params.validate = .ok ()
        · rw [if_pos valid, forall_prop_of_true valid]
          exact authorised_writeCollabs_iff permitted true id.text paramsList
        · rw [if_neg valid, forall_prop_of_false valid]
          exact iff_true_intro onlyChecks
    | _ =>
      simp only [handlerTrace]
      cases extractedWorkspaceId lib decode captured <;> exact iff_true_intro onlyChecks
  | createCollabList =>
    cases payload with
    | batchCreateCollabParams workspaceId paramsList =>
      simp only [handlerTrace, PayloadFits]
      cases workspaceId.isEmpty with
      | true => simp [authorised_checks]
      | false => simpa using authorised_writeCollabs_iff permitted false workspaceId paramsList
    | _ => exact iff_true_intro onlyChecks
  -- a snapshot is about the collab of the path
  | getCollabSnapshot =>
    obtain ⟨objectId, named⟩ := Option.isSome_iff_exists.mp (pathNames.mpr rfl)
    cases payload with
    | querySnapshotParams snapshotId =>
      simp only [handlerTrace, named]
      exact authorised_pathCollab_iff handled (by decide) named
    | _ =>
      simp only [handlerTrace, named]
      exact iff_true_intro onlyChecks
  | createCollabSnapshot =>
    obtain ⟨objectId, named⟩ := Option.isSome_iff_exists.mp (pathNames.mpr rfl)
    cases inWorkspace : captured.lookup WORKSPACE_ID_PATH with
    | none =>
      simp only [handlerTrace, inWorkspace]
      refine iff_of_true onlyChecks ?_
      cases payload with
      | collabType collabType => exact fun _ elsewhere => nomatch inWorkspace.symm.trans elsewhere
      | _ => trivial
    | some workspaceId =>
      cases payload with
      | collabType collabType =>
        simp only [handlerTrace, PayloadFits, SnapshotFits, inWorkspace, named, Option.some.injEq, forall_eq']
        exact authorised_createCollabSnapshot_iff handled (.new (decode objectId) collabType (decode workspaceId))
      | _ =>
        simp only [handlerTrace, inWorkspace, named]
        exact iff_true_intro onlyChecks
  | getAllCollabSnapshotList =>
    obtain ⟨objectId, named⟩ := Option.isSome_iff_exists.mp (pathNames.mpr rfl)
    simp only [handlerTrace, named]
    exact authorised_pathCollab_iff handled (by decide) named
  | addCollabMember | updateCollabMember =>
    cases payload with
    | insertCollabMemberParams params => exact authorised_onCollabMembers_iff handled (by decide) _ _
    | _ => exact iff_true_intro onlyChecks
  | getCollabMember | removeCollabMember =>
    cases payload with
    | collabMemberIdentify params => exact authorised_onCollabMembers_iff handled (by decide) _ _
    | _ => exact iff_true_intro onlyChecks
  | getCollabMemberList =>
    cases payload with
    | queryCollabMembers workspaceId objectId => exact authorised_onCollabMembers_iff handled (by decide) _ _
    | _ => exact iff_true_intro onlyChecks
  | batchGetCollab =>
    cases payload with
    | batchQueryCollabParams queries => exact authorised_batchGet_iff handled queries
    | _ => exact iff_true_intro onlyChecks

/-- Whatever a request reads or writes was allowed exactly when its payload fits its path, as
    far as the user is permitted to what the path names. -/
theorem handle_authorised_iff (lib : StorageLib yrs) (decode : String → String) (storage : CollabStorageImpl)
    (uid : Int) (request : Request) :
    Authorised (handle lib decode storage uid request) ↔
      ∀ handler captured, request.handler = some (handler, captured) →
        PathPermitted lib storage uid request handler captured →
          PayloadFits lib decode storage uid captured handler request.payload := by
  unfold handle
  cases handled : request.handler with
  | none =>
    refine iff_of_true ?_ nofun
    split
    · exact authorised_nil
    · exact (authorised_checks _).append authorised_nil
  | some routed =>
    obtain ⟨handler, captured⟩ := routed
    have here : (∀ other otherCaptured, some (handler, captured) = some (other, otherCaptured) →
        PathPermitted lib storage uid request other otherCaptured →
          PayloadFits lib decode storage uid otherCaptured other request.payload) ↔
          (PathPermitted lib storage uid request handler captured →
            PayloadFits lib decode storage uid captured handler request.payload) :=
      ⟨fun fits => fits handler captured rfl, fun fits _ _ same => by cases same; exact fits⟩
    rw [here]
    by_cases creates : handler = .createWorkspace
    · obtain rfl := creates
      refine iff_of_true ?_ fun _ => trivial
      split
      · exact authorised_nil
      · exact (authorised_checks _).append authorised_nil
    · by_cases permitted : PathPermitted lib storage uid request handler captured
      · rw [(accessControlMiddleware_eq_ok handled creates).mpr ⟨permitted, rfl⟩]
        rw [forall_prop_of_true permitted]
        exact authorised_handlerTrace_iff handled permitted
      · refine iff_of_true ?_ fun permits => absurd permits permitted
        split
        · exact authorised_nil
        · case h_2 passed =>
          exact absurd ((accessControlMiddleware_eq_ok handled creates).mp passed).1 permitted

end Server

/-- A member of a workspace with full access on one of its two collabs. -/
def memberOfMine : CollabStorageImpl where
  cache := ⟨fun objectId => if objectId = "mine" ∨ objectId = "theirs" then some ⟨[1], 0, 2, 0, false⟩ else none,
    fun _ => none⟩
  accessControl := ⟨AFEnforcer.new (RuleTable.empty.insertAll
    [#v["1", "workspace::5b7cbb2f-4a5c-4f3c-9a0e-1d2c3b4a5f60", "2"], #v["1", "collab::mine", "50"]])
    noEnforceGroup, [], true⟩

/-- The path names the user's own collab, the payload the other one. -/
def addMemberOfTheirs : Request where
  method := .post
  path := ["api", "workspace", "5b7cbb2f-4a5c-4f3c-9a0e-1d2c3b4a5f60", "collab", "mine", "member"]
  payload := .insertCollabMemberParams ⟨1, "workspace", "theirs", .fullAccess⟩

theorem member_of_other_collab_unauthorised :
    ¬ ∀ (storage : CollabStorageImpl) (uid : Int) (request : Request),
      Authorised (handle typedLib id storage uid request) := by
  intro authorised
  have trace : handle typedLib id memberOfMine 1 addMemberOfTheirs =
      [.allowed ⟨"5b7cbb2f-4a5c-4f3c-9a0e-1d2c3b4a5f60", .workspace "5b7cbb2f-4a5c-4f3c-9a0e-1d2c3b4a5f60",
          .fromAction .write⟩,
        .allowed ⟨"5b7cbb2f-4a5c-4f3c-9a0e-1d2c3b4a5f60", .collab "mine", .fromAction .write⟩,
        .acts .write (.collab "theirs")] := by decide +kernel
  obtain ⟨check, checked, covers⟩ :=
    authorised memberOfMine 1 addMemberOfTheirs .write (.collab "theirs") (by simp [trace])
  rw [trace] at checked
  rcases checked with _ | ⟨_, _ | ⟨_, _ | ⟨_, ⟨⟩⟩⟩⟩
  · exact absurd covers.1 (by decide)
  · exact absurd covers.1 (by decide)

end FlowCloud.Api
