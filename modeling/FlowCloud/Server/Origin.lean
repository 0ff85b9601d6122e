import FlowCloud.Server.StoragePlugin
import FlowCloud.Storage.BatchRead

/-! # The user a group's storage calls are made for

The first init sync of an object with a client's origin opens its group; one with another
origin fails its own command only.  The plugin of the group reads the document, writes it back
and is granted full access on a new object, each time for the user id that stands in the origin
of that message.  The last section compares runs of one authenticated connection that differ in
the origins of its messages only.
-/

namespace FlowCloud.Server

open FlowCloud.Foundation FlowCloud.Entity FlowCloud.Protocol FlowCloud.Casbin FlowCloud.Storage

/-! ## Calls of the storage -/

inductive StorageCall where
  | getCollabEncoded (uid : Int) (params : QueryCollabParams)
  | insertOrUpdateCollab (uid : Int) (workspaceId : String) (params : CollabParams)
  | updatePolicy (uid : Int) (oid : String) (level : AFAccessLevel)
  | getCollabSnapshotList (workspaceId objectId : String)
  | shouldCreateSnapshot (objectId : String)
  | queueSnapshot (snapshot : SnapshotData)

/-- The user the call is made for; the calls about snapshots name none. -/
def StorageCall.uid : StorageCall → Option Int
  | .getCollabEncoded uid _ => some uid
  | .insertOrUpdateCollab uid _ _ => some uid
  | .updatePolicy uid _ _ => some uid
  | .getCollabSnapshotList _ _ | .shouldCreateSnapshot _ | .queueSnapshot _ => none

/-! ## An open group -/

/-- What the load of a new group meets. -/
structure Load where
  read : ReadOutcomes
  answers : SnapshotAnswers
  shouldCreateSnapshot : Bool
  insert : WriteOutages

/-- The document of a group, the access checks of the server and the calls made so far. -/
structure OpenGroup (Op : Type) where
  document : LiveDocument Op
  access : RealtimeCollabAccessControlImpl
  calls : List StorageCall

/-- The rest of the server: it changes the document, the stored collabs and the policies. -/
abbrev Surroundings (Op : Type) :=
  Finset Op × CollabCache × RealtimeCollabAccessControlImpl →
    Finset Op × CollabCache × RealtimeCollabAccessControlImpl

inductive OpenGroupEvent (Op AwarenessUpdate : Type) where
  /-- A command of the connection for the object begins with an init sync. -/
  | initSync (message : InitSync) (load : Load)
  /-- Messages of the connection reach the group. -/
  | messages (collabMessages : List ClientCollabMessage) (awareness : AwarenessUpdate)
      (environment : Nat → Nat → Moment)
  | flush
  | store (index : Nat) (outages : WriteOutages)
  | others (surroundings : Surroundings Op)

section Group

variable {Op StateVector AwarenessUpdate : Type} [DecidableEq Op] {yrs : Yrs Op StateVector AwarenessUpdate}
  (lib : StorageLib yrs) (enableAccessControl : Bool)

namespace OpenGroup

def storage (self : OpenGroup Op) : CollabStorageImpl := ⟨self.document.cache, self.access.accessControl⟩

def withStorage (self : OpenGroup Op) (storage : CollabStorageImpl) : OpenGroup Op :=
  { self with
    document := { self.document with cache := storage.cache }
    access := { self.access with accessControl := storage.accessControl } }

def log (self : OpenGroup Op) (calls : List StorageCall) : OpenGroup Op := { self with calls := self.calls ++ calls }

/-- The write gets as far as the grant for a new object. -/
def reachesGrant (storage : CollabStorageImpl) (params : CollabParams) (outages : WriteOutages) : Bool :=
  params.validate = .ok () && outages.beginOutage.isNone && outages.existsOutage.isNone &&
    (storage.cache.table params.objectId).isNone

def writeCalls (self : OpenGroup Op) (params : CollabParams) (outages : WriteOutages) : List StorageCall :=
  let plugin := self.document.plugin
  .insertOrUpdateCollab plugin.uid plugin.workspaceId params ::
    if reachesGrant self.storage params outages then [.updatePolicy plugin.uid params.objectId .fullAccess] else []

/-- A write of the plugin, with the policies that answer its checks. -/
def store (self : OpenGroup Op) (params : CollabParams) (outages : WriteOutages) : OpenGroup Op :=
  let plugin := self.document.plugin
  let outcomes := self.storage.outcomes enableAccessControl plugin.workspaceId plugin.uid params outages
  let result :=
    self.storage.insertOrUpdateCollab lib enableAccessControl plugin.workspaceId plugin.uid params outages
  { document := self.document.store lib params outcomes
    access := { self.access with accessControl := result.2.accessControl }
    calls := self.calls ++ self.writeCalls params outages }

def insertNewCollab (self : OpenGroup Op) (outages : WriteOutages) : OpenGroup Op :=
  match lib.encodeToBytes (lib.getEncodedCollabV1 self.document.content) with
  | .ok encodedCollabV1 => self.store lib enableAccessControl (self.document.params encodedCollabV1) outages
  | .error _ => self

/-- A snapshot is queued of what could be loaded; otherwise the latest one is looked for. -/
def restoreCalls (self : OpenGroup Op) (encoded : EncodedCollab) (load : Load) : List StorageCall :=
  let objectId := self.document.objectId
  let workspaceId := self.document.plugin.workspaceId
  match initCollab yrs self.document.content encoded with
  | .error _ => [.getCollabSnapshotList workspaceId objectId]
  | .ok _ =>
    .shouldCreateSnapshot objectId ::
      match load.shouldCreateSnapshot, lib.encodeToBytes encoded with
      | true, .ok encodedCollabV1 => [.queueSnapshot ⟨objectId, encodedCollabV1, workspaceId⟩]
      | _, _ => []

/-- `CollabStoragePlugin::init`. -/
def init (self : OpenGroup Op) (load : Load) : OpenGroup Op :=
  let plugin := self.document.plugin
  let params := QueryCollabParams.new self.document.objectId plugin.collabType plugin.workspaceId
  let called := self.log [.getCollabEncoded plugin.uid params]
  match self.storage.getCollabEncoded lib enableAccessControl plugin.uid params true load.read with
  | (.ok encoded, storage) =>
    let loaded := called.withStorage storage
    { loaded.log (loaded.restoreCalls lib encoded load) with
      document := loaded.document.restore lib encoded load.answers }
  | (.error (.recordNotFound _), storage) =>
    (called.withStorage storage).insertNewCollab lib enableAccessControl load.insert
  | (.error _, storage) => called.withStorage storage

variable (yrs) in
/-- The messages pass the access checks of the connection's user and are handled one after
    the other; the awareness has no part in what is stored. -/
def receive (uid : Int) (self : OpenGroup Op) (collabMessages : List ClientCollabMessage)
    (awareness : AwarenessUpdate) (environment : Nat → Nat → Moment) : OpenGroup Op :=
  let objectId := self.document.objectId
  let workspaceId := self.document.plugin.workspaceId
  let write := self.access.canWriteCollab enableAccessControl workspaceId uid objectId
  let read := write.2.canReadCollab enableAccessControl workspaceId uid objectId
  let accepted := (accessControl workspaceId uid objectId ⟨fun _ _ _ => write.1, fun _ _ _ => read.1⟩ collabMessages).1
  let handled := handleClientCollabMessages yrs environment objectId accepted ⟨self.document.content, awareness, []⟩
  { self with document := { self.document with content := handled.collab.content }, access := read.2 }

def step (uid : Int) (self : OpenGroup Op) : OpenGroupEvent Op AwarenessUpdate → OpenGroup Op
  -- the connection subscribes to the group again, which asks nothing of the storage
  | .initSync _ _ => self
  | .messages collabMessages awareness environment =>
    self.receive yrs enableAccessControl uid collabMessages awareness environment
  | .flush => { self with document := self.document.flush lib }
  | .store index outages =>
    match self.document.pending[index]? with
    | none => self
    | some params =>
      { self with document := { self.document with pending := self.document.pending.eraseIdx index } }.store lib
        enableAccessControl params outages
  | .others surroundings =>
    let changed := surroundings (self.document.content, self.document.cache, self.access)
    { self with
      document := { self.document with content := changed.1, cache := changed.2.1 }
      access := changed.2.2 }

end OpenGroup

/-! ## Runs of a connection -/

/-- The object of the connection's commands, without a group or with the one that an init sync
    has opened. -/
inductive ObjectState (Op : Type) where
  | closed (cache : CollabCache) (access : RealtimeCollabAccessControlImpl)
  | opened (group : OpenGroup Op)

def ObjectState.calls : ObjectState Op → List StorageCall
  | .closed _ _ => []
  | .opened group => group.calls

/-- The plugin is made for the user id that the message claims. -/
def newGroup (message : InitSync) (claimed : Int) (cache : CollabCache) (access : RealtimeCollabAccessControlImpl) :
    OpenGroup Op where
  document :=
    { plugin := .new claimed message.workspaceId message.collabType
      objectId := message.objectId
      content := ∅
      cache
      pending := []
      written := [] }
  access
  calls := []

/-- The user id that `GroupCommandRunner::create_group` finds in the message; an init sync about
    another object opens no group of this one. -/
def claimedUid (objectId : String) (message : InitSync) : Option Int :=
  if message.objectId = objectId then message.origin.clientUserId else none

def ObjectState.step (objectId : String) (uid : Int) :
    ObjectState Op → OpenGroupEvent Op AwarenessUpdate → ObjectState Op
  | .opened group, event => .opened (group.step lib enableAccessControl uid event)
  | .closed cache access, .initSync message load =>
    match claimedUid objectId message with
    | some claimed => .opened ((newGroup message claimed cache access).init lib enableAccessControl load)
    -- the command fails with `ExpectInitSync`
    | none => .closed cache access
  | .closed cache access, .others surroundings =>
    let changed := surroundings (∅, cache, access)
    .closed changed.2.1 changed.2.2
  | state, _ => state

structure ConnectionRun (Op AwarenessUpdate : Type) where
  objectId : String
  cache : CollabCache
  access : RealtimeCollabAccessControlImpl
  events : List (OpenGroupEvent Op AwarenessUpdate)

namespace ConnectionRun

/-- The object after so many steps. -/
def state (uid : Int) (self : ConnectionRun Op AwarenessUpdate) (steps : Nat) : ObjectState Op :=
  run (ObjectState.step lib enableAccessControl self.objectId uid) (.closed self.cache self.access)
    (self.events.take steps)

/-- The calls made so far for the group of the object. -/
def calls (uid : Int) (self : ConnectionRun Op AwarenessUpdate) (steps : Nat) : List StorageCall :=
  (self.state lib enableAccessControl uid steps).calls

end ConnectionRun

/-! ## The message that opens the group -/

def OpenGroupEvent.claim (objectId : String) : OpenGroupEvent Op AwarenessUpdate → Option Int
  | .initSync message _ => claimedUid objectId message
  | _ => none

/-- The first init sync of the object with a client's origin, by its place, and the user id that
    it claims. -/
def firstClaim (objectId : String) : List (OpenGroupEvent Op AwarenessUpdate) → Option (Nat × Int)
  | [] => none
  | event :: events =>
    match event.claim objectId with
    | some claimed => some (0, claimed)
    | none => (firstClaim objectId events).map fun later => (later.1 + 1, later.2)

def ConnectionRun.opening (self : ConnectionRun Op AwarenessUpdate) : Option (Nat × Int) :=
  firstClaim self.objectId self.events

/-! ## Runs without origins -/

def withoutOrigin : ClientCollabMessage → ClientCollabMessage
  | .clientInitSync data => .clientInitSync { data with origin := .empty }
  | .clientUpdateSync data => .clientUpdateSync { data with origin := .empty }
  | .serverInitSync data => .serverInitSync { data with origin := .empty }
  | .clientAwarenessSync data => .clientAwarenessSync { data with origin := .empty }

def OpenGroupEvent.withoutOrigins : OpenGroupEvent Op AwarenessUpdate → OpenGroupEvent Op AwarenessUpdate
  | .initSync message load => .initSync { message with origin := .empty } load
  | .messages collabMessages awareness environment =>
    .messages (collabMessages.map withoutOrigin) awareness environment
  | .flush => .flush
  | .store index outages => .store index outages
  | .others surroundings => .others surroundings

def ConnectionRun.withoutOrigins (self : ConnectionRun Op AwarenessUpdate) : ConnectionRun Op AwarenessUpdate :=
  { self with events := self.events.map OpenGroupEvent.withoutOrigins }

/-- At every moment the two runs have made the same calls, each in the name of the authenticated
    user. -/
structure ActsAsUser (uid : Int) (first second : ConnectionRun Op AwarenessUpdate) : Prop where
  same : ∀ steps, first.calls lib enableAccessControl uid steps = second.calls lib enableAccessControl uid steps
  own : ∀ steps, ∀ call ∈ first.calls lib enableAccessControl uid steps, ∀ named, call.uid = some named → named = uid

end Group

/-! ## Only the first origin counts -/

section Erase

variable {Op StateVector AwarenessUpdate : Type} [DecidableEq Op] {yrs : Yrs Op StateVector AwarenessUpdate}

@[simp] theorem withoutOrigin_payload (message : ClientCollabMessage) :
    (withoutOrigin message).payload = message.payload := by
  cases message <;> rfl

@[simp] theorem withoutOrigin_isClientInitSync (message : ClientCollabMessage) :
    (withoutOrigin message).isClientInitSync = message.isClientInitSync := by
  cases message <;> rfl

theorem accessControl_withoutOrigin (workspaceId : String) (uid : Int) (objectId : String)
    (access : RealtimeAccessControl) (messages : List ClientCollabMessage) :
    (accessControl workspaceId uid objectId access (messages.map withoutOrigin)).1 =
      (accessControl workspaceId uid objectId access messages).1.map withoutOrigin := by
  simp [accessControl, List.partition_eq_filter_filter, List.filter_map, Function.comp_def]

def SameContent (first second : Handling Op AwarenessUpdate) : Prop :=
  first.collab.content = second.collab.content

/-- The content depends on the payload only. -/
theorem handleClientCollabMessage_content (environment : Nat → Moment) (objectId : String)
    {first second : ClientCollabMessage} (payload : first.payload = second.payload)
    {collab other : Collab Op AwarenessUpdate} (content : collab.content = other.content) :
    (handleClientCollabMessage yrs environment objectId first collab).collab.content =
      (handleClientCollabMessage yrs environment objectId second other).collab.content := by
  rw [handleClientCollabMessage, handleClientCollabMessage, payload]
  have start : SameContent (⟨collab, []⟩ : Handling Op AwarenessUpdate) ⟨other, []⟩ := content
  refine run_related SameContent ?_ start _
  intro left right message same
  rw [SameContent, handleMessage_content, handleMessage_content, same]

theorem handleClientCollabMessages_withoutOrigin (environment : Nat → Nat → Moment) (objectId : String)
    (messages : List ClientCollabMessage) (collab : Collab Op AwarenessUpdate) :
    (handleClientCollabMessages yrs environment objectId (messages.map withoutOrigin) collab).collab.content =
      (handleClientCollabMessages yrs environment objectId messages collab).collab.content := by
  rw [handleClientCollabMessages, handleClientCollabMessages, List.zipIdx_map, run_map]
  refine run_related SameContent ?_ rfl _
  intro left right message same
  exact handleClientCollabMessage_content _ objectId (withoutOrigin_payload _) same

theorem step_withoutOrigins (lib : StorageLib yrs) (enableAccessControl : Bool) (uid : Int) (group : OpenGroup Op)
    (event : OpenGroupEvent Op AwarenessUpdate) :
    group.step lib enableAccessControl uid event.withoutOrigins = group.step lib enableAccessControl uid event := by
  cases event with
  | initSync message load => rfl
  | messages collabMessages awareness environment =>
    simp [OpenGroupEvent.withoutOrigins, OpenGroup.step, OpenGroup.receive, accessControl_withoutOrigin,
      handleClientCollabMessages_withoutOrigin]
  | flush => rfl
  | store index outages => rfl
  | others surroundings => rfl

theorem withoutOrigins_inj {events others : List (OpenGroupEvent Op AwarenessUpdate)}
    (same : events.map OpenGroupEvent.withoutOrigins = others.map OpenGroupEvent.withoutOrigins)
    (lib : StorageLib yrs) (enableAccessControl : Bool) (uid : Int) (group : OpenGroup Op) :
    run (OpenGroup.step lib enableAccessControl uid) group events =
      run (OpenGroup.step lib enableAccessControl uid) group others := by
  have erased : ∀ events : List (OpenGroupEvent Op AwarenessUpdate),
      run (OpenGroup.step lib enableAccessControl uid) group (events.map OpenGroupEvent.withoutOrigins) =
        run (OpenGroup.step lib enableAccessControl uid) group events := by
    intro events
    rw [run_map]
    congr
    funext group event
    exact step_withoutOrigins lib enableAccessControl uid group event
  rw [← erased events, same, erased others]

end Erase

/-! ## Every call carries the claimed user id -/

section Named

/-- The plugin and all calls so far carry the user id. -/
structure Named {Op : Type} (claimed : Int) (group : OpenGroup Op) : Prop where
  plugin : group.document.plugin.uid = claimed
  calls : ∀ call ∈ group.calls, ∀ named, call.uid = some named → named = claimed

def Called {Op : Type} (call : StorageCall) (group : OpenGroup Op) : Prop := call ∈ group.calls

theorem Named.log {Op : Type} {claimed : Int} {group : OpenGroup Op} (named : Named claimed group)
    {calls : List StorageCall} (more : ∀ call ∈ calls, ∀ other, call.uid = some other → other = claimed) :
    Named claimed (group.log calls) where
  plugin := named.plugin
  calls := fun call member => (List.mem_append.mp member).elim (named.calls call) (more call)

theorem Named.withStorage {Op : Type} {claimed : Int} {group : OpenGroup Op} (named : Named claimed group)
    (storage : CollabStorageImpl) : Named claimed (group.withStorage storage) := ⟨named.plugin, named.calls⟩

variable {Op StateVector AwarenessUpdate : Type} [DecidableEq Op] {yrs : Yrs Op StateVector AwarenessUpdate}
  {lib : StorageLib yrs} {enableAccessControl : Bool} {uid claimed : Int} {group : OpenGroup Op}

theorem Named.store (named : Named claimed group) (params : CollabParams) (outages : WriteOutages) :
    Named claimed (group.store lib enableAccessControl params outages) where
  plugin := by
    obtain ⟨cache, written, stored, _⟩ := store_frame lib group.document params
      (group.storage.outcomes enableAccessControl group.document.plugin.workspaceId group.document.plugin.uid params
        outages)
    rw [OpenGroup.store, stored]
    exact named.plugin
  calls := by
    have own : ∀ call ∈ group.writeCalls params outages, ∀ other, call.uid = some other → other = claimed := by
      rw [OpenGroup.writeCalls, named.plugin]
      split <;> simp [StorageCall.uid]
    exact (named.log own).calls

theorem restore_plugin (lib : StorageLib yrs) (document : LiveDocument Op) (encoded : EncodedCollab)
    (answers : SnapshotAnswers) : (document.restore lib encoded answers).plugin = document.plugin := by
  rw [LiveDocument.restore]
  split
  · rfl
  · split
    · rfl
    · split <;> rfl

theorem restoreCalls_uid (lib : StorageLib yrs) (group : OpenGroup Op) (encoded : EncodedCollab) (load : Load) :
    ∀ call ∈ group.restoreCalls lib encoded load, call.uid = none := by
  rw [OpenGroup.restoreCalls]
  split
  · simp [StorageCall.uid]
  · split <;> simp [StorageCall.uid]

theorem Named.init (named : Named claimed group) (load : Load) :
    Named claimed (group.init lib enableAccessControl load) := by
  have called : Named claimed (group.log [.getCollabEncoded group.document.plugin.uid
      (.new group.document.objectId group.document.plugin.collabType group.document.plugin.workspaceId)]) :=
    named.log (by simp [StorageCall.uid, named.plugin])
  rw [OpenGroup.init]
  simp only
  split
  · -- what was loaded is taken in without asking for any user
    rename_i encoded storage read
    have loaded := called.withStorage storage
    refine ⟨(restore_plugin lib _ encoded load.answers ▸ loaded.plugin :), (loaded.log ?_).calls⟩
    intro call member other carries
    rw [restoreCalls_uid lib _ encoded load call member] at carries
    cases carries
  · rename_i storage read
    rw [OpenGroup.insertNewCollab]
    split
    · exact (called.withStorage storage).store _ _
    · exact called.withStorage storage
  · exact called.withStorage _

theorem Named.step (named : Named claimed group) (event : OpenGroupEvent Op AwarenessUpdate) :
    Named claimed (group.step lib enableAccessControl uid event) := by
  cases event with
  | initSync message load => exact named
  | messages collabMessages awareness environment => exact ⟨named.plugin, named.calls⟩
  | flush =>
    refine ⟨?_, named.calls⟩
    change (group.document.flush lib).plugin.uid = claimed
    rw [LiveDocument.flush]
    split
    · exact named.plugin
    · simp only
      split <;> exact named.plugin
  | store index outages =>
    rw [OpenGroup.step]
    split
    · exact named
    · have taken : Named claimed { group with
          document := { group.document with pending := group.document.pending.eraseIdx index } } :=
        ⟨named.plugin, named.calls⟩
      exact taken.store _ _
  | others surroundings => exact ⟨named.plugin, named.calls⟩

theorem Named.run (named : Named claimed group) (events : List (OpenGroupEvent Op AwarenessUpdate)) :
    Named claimed (run (OpenGroup.step lib enableAccessControl uid) group events) :=
  run_invariant (fun _ event named => named.step event) named events

/-- A write changes the policies only by the grant that it calls for. -/
theorem store_policies (lib : StorageLib yrs) (enableAccessControl : Bool) (group : OpenGroup Op)
    (params : CollabParams) (outages : WriteOutages) :
    (group.store lib enableAccessControl params outages).storage.policies = group.storage.policies ∨
      .updatePolicy group.document.plugin.uid params.objectId .fullAccess ∈ group.writeCalls params outages ∧
        (group.store lib enableAccessControl params outages).storage.policies =
          group.storage.policies.insert
            (CollabStorageImpl.fullAccess group.document.plugin.uid params.objectId) := by
  change (group.storage.insertOrUpdateCollab lib enableAccessControl _ _ params outages).2.policies = _ ∨
    _ ∧ (group.storage.insertOrUpdateCollab lib enableAccessControl _ _ params outages).2.policies = _
  cases begun : outages.beginOutage with
  | some outage =>
    refine .inl ?_
    rw [CollabStorageImpl.insertOrUpdateCollab, begun]
    cases params.validate <;> rfl
  | none =>
    rw [(CollabStorageImpl.insertOrUpdateCollab_begun lib begun).1]
    rcases CollabStorageImpl.insertOrUpdateCollabWithTransaction_policies lib with
      ⟨same, _⟩ | ⟨granted, valid, answered, absent⟩
    · exact .inl same
    · rw [granted, (CollabStorageImpl.updatePolicy_granted _ _ _ _).2.2]
      cases enableAccessControl with
      | false => exact .inl rfl
      | true =>
        refine .inr ⟨?_, rfl⟩
        simp [OpenGroup.writeCalls, OpenGroup.reachesGrant, valid, begun, answered, absent]

variable {call : StorageCall}

/-- The load begins with the read of the document. -/
theorem init_reads (lib : StorageLib yrs) (enableAccessControl : Bool) (group : OpenGroup Op) (load : Load) :
    Called (.getCollabEncoded group.document.plugin.uid (.new group.document.objectId group.document.plugin.collabType
      group.document.plugin.workspaceId)) (group.init lib enableAccessControl load) := by
  rw [OpenGroup.init]
  simp only
  split
  · simp [Called, OpenGroup.log, OpenGroup.withStorage]
  · rw [OpenGroup.insertNewCollab]
    split <;> simp [Called, OpenGroup.log, OpenGroup.withStorage, OpenGroup.store]
  · simp [Called, OpenGroup.log, OpenGroup.withStorage]

theorem Called.step (called : Called call group) (event : OpenGroupEvent Op AwarenessUpdate) :
    Called call (group.step lib enableAccessControl uid event) := by
  cases event with
  | initSync message load => exact called
  | messages collabMessages awareness environment => exact called
  | flush => exact called
  | store index outages =>
    rw [OpenGroup.step]
    split
    · exact called
    · exact List.mem_append_left _ called
  | others surroundings => exact called

theorem Called.run (called : Called call group) (events : List (OpenGroupEvent Op AwarenessUpdate)) :
    Called call (run (OpenGroup.step lib enableAccessControl uid) group events) :=
  run_invariant (fun _ event called => called.step event) called events

end Named

/-! ## The authority of the claimed origin -/

section Opening

variable {Op AwarenessUpdate : Type} {objectId : String} {events : List (OpenGroupEvent Op AwarenessUpdate)}

theorem firstClaim_cons_of_claim {event : OpenGroupEvent Op AwarenessUpdate} {claimed : Int}
    (claims : event.claim objectId = some claimed) : firstClaim objectId (event :: events) = some (0, claimed) := by
  rw [firstClaim, claims]

theorem firstClaim_cons_of_no_claim {event : OpenGroupEvent Op AwarenessUpdate} (claims : event.claim objectId = none) :
    firstClaim objectId (event :: events) = (firstClaim objectId events).map fun later => (later.1 + 1, later.2) := by
  rw [firstClaim, claims]

/-- Whether a run has opened the group by then is a matter of the place of the message. -/
theorem firstClaim_take (objectId : String) (events : List (OpenGroupEvent Op AwarenessUpdate)) (steps : Nat) :
    firstClaim objectId (events.take steps) = (firstClaim objectId events).filter fun opened => opened.1 < steps := by
  induction events generalizing steps with
  | nil => simp [firstClaim]
  | cons event events inductionHypothesis =>
    cases steps with
    | zero => cases found : firstClaim objectId (event :: events) <;> simp [firstClaim]
    | succ steps =>
      rw [List.take_succ_cons]
      cases claims : event.claim objectId with
      | some claimed => simp [firstClaim_cons_of_claim claims, Option.filter]
      | none =>
        rw [firstClaim_cons_of_no_claim claims, firstClaim_cons_of_no_claim claims, inductionHypothesis]
        cases firstClaim objectId events with
        | none => rfl
        | some later =>
          by_cases early : later.1 < steps <;> simp [Option.filter, early]

end Opening

section Authority

variable {Op StateVector AwarenessUpdate : Type} [DecidableEq Op] {yrs : Yrs Op StateVector AwarenessUpdate}

variable {objectId : String} {events others : List (OpenGroupEvent Op AwarenessUpdate)} {cache : CollabCache}
  {access : RealtimeCollabAccessControlImpl}

/-- The steps of an open group are those of the group. -/
theorem run_opened (lib : StorageLib yrs) (enableAccessControl : Bool) (objectId : String) (uid : Int)
    (group : OpenGroup Op) (events : List (OpenGroupEvent Op AwarenessUpdate)) :
    run (ObjectState.step lib enableAccessControl objectId uid) (.opened group) events =
      .opened (run (OpenGroup.step lib enableAccessControl uid) group events) := by
  induction events generalizing group with
  | nil => rfl
  | cons event events inductionHypothesis => exact inductionHypothesis _

/-- A message that claims a user id opens the group for it. -/
theorem step_of_claim (lib : StorageLib yrs) (enableAccessControl : Bool) (uid : Int)
    {event : OpenGroupEvent Op AwarenessUpdate} {claimed : Int} (claims : event.claim objectId = some claimed) :
    ∃ message load, event = .initSync message load ∧
      ObjectState.step lib enableAccessControl objectId uid (.closed cache access) event =
        .opened ((newGroup message claimed cache access).init lib enableAccessControl load) := by
  cases event with
  | initSync message load =>
    refine ⟨message, load, rfl, ?_⟩
    rw [OpenGroupEvent.claim] at claims
    rw [ObjectState.step, claims]
  | messages | flush | store | others => cases claims

/-- Without a claim the object stays without a group, whatever origin the message has. -/
theorem step_of_no_claim (lib : StorageLib yrs) (enableAccessControl : Bool) (uid : Int)
    {event other : OpenGroupEvent Op AwarenessUpdate} (claims : event.claim objectId = none)
    (otherClaims : other.claim objectId = none) (same : event.withoutOrigins = other.withoutOrigins) :
    ∃ nextCache nextAccess,
      ObjectState.step lib enableAccessControl objectId uid (.closed cache access) event = .closed nextCache nextAccess ∧
      ObjectState.step lib enableAccessControl objectId uid (.closed cache access) other = .closed nextCache nextAccess := by
  cases event with
  | initSync message load =>
    cases other with
    | initSync otherMessage otherLoad =>
      rw [OpenGroupEvent.claim] at claims otherClaims
      exact ⟨cache, access, by rw [ObjectState.step, claims], by rw [ObjectState.step, otherClaims]⟩
    | messages | flush | store | others => cases same
  | others surroundings =>
    cases other with
    | others otherSurroundings =>
      cases same
      exact ⟨_, _, rfl, rfl⟩
    | initSync | messages | flush | store => cases same
  | messages | flush | store =>
    cases other with
    | messages | flush | store => exact ⟨cache, access, rfl, rfl⟩
    | initSync | others => cases same

theorem calls_of_unopened (lib : StorageLib yrs) (enableAccessControl : Bool) (uid : Int)
    (unopened : firstClaim objectId events = none) :
    (run (ObjectState.step lib enableAccessControl objectId uid) (.closed cache access) events).calls = [] := by
  induction events generalizing cache access with
  | nil => rfl
  | cons event events inductionHypothesis =>
    cases claims : event.claim objectId with
    | some claimed =>
      rw [firstClaim_cons_of_claim claims] at unopened
      cases unopened
    | none =>
      rw [firstClaim_cons_of_no_claim claims, Option.map_eq_none_iff] at unopened
      obtain ⟨_, _, stays, _⟩ := step_of_no_claim lib enableAccessControl uid claims claims rfl
      rw [run_cons, stays]
      exact inductionHypothesis unopened

/-- An open group calls the storage for the claimed user id only, and it does. -/
theorem calls_of_opened (lib : StorageLib yrs) (enableAccessControl : Bool) (uid : Int) {steps : Nat} {claimed : Int}
    (opened : firstClaim objectId events = some (steps, claimed)) :
    ∃ group, run (ObjectState.step lib enableAccessControl objectId uid) (.closed cache access) events = .opened group ∧
      Named claimed group ∧ ∃ call ∈ group.calls, call.uid = some claimed := by
  induction events generalizing cache access steps with
  | nil => cases opened
  | cons event events inductionHypothesis =>
    cases claims : event.claim objectId with
    | some other =>
      rw [firstClaim_cons_of_claim claims] at opened
      cases opened
      obtain ⟨message, load, _, begun⟩ := step_of_claim lib enableAccessControl uid claims
      have new : Named claimed (newGroup message claimed cache access : OpenGroup Op) := ⟨rfl, List.forall_mem_nil _⟩
      have reads := init_reads lib enableAccessControl (newGroup message claimed cache access) load
      rw [run_cons, begun, run_opened]
      exact ⟨_, rfl, (new.init load).run events, _, reads.run events, rfl⟩
    | none =>
      rw [firstClaim_cons_of_no_claim claims] at opened
      obtain ⟨⟨later, other⟩, found, same⟩ := Option.map_eq_some_iff.mp opened
      cases same
      obtain ⟨_, _, stays, _⟩ := step_of_no_claim lib enableAccessControl uid claims claims rfl
      rw [run_cons, stays]
      exact inductionHypothesis found

/-- Where the same message opens the group for the same user id, no other origin has any part in
    what becomes of it. -/
theorem run_eq_of_firstClaim (lib : StorageLib yrs) (enableAccessControl : Bool) (uid : Int)
    (same : events.map OpenGroupEvent.withoutOrigins = others.map OpenGroupEvent.withoutOrigins)
    (openings : firstClaim objectId events = firstClaim objectId others) :
    run (ObjectState.step lib enableAccessControl objectId uid) (.closed cache access) events =
      run (ObjectState.step lib enableAccessControl objectId uid) (.closed cache access) others := by
  induction events generalizing others cache access with
  | nil =>
    cases others with
    | nil => rfl
    | cons => cases same
  | cons event events inductionHypothesis =>
    cases others with
    | nil => cases same
    | cons other others =>
      rw [List.map_cons, List.map_cons, List.cons.injEq] at same
      cases claims : event.claim objectId with
      | some claimed =>
        rw [firstClaim_cons_of_claim claims] at openings
        cases otherClaims : other.claim objectId with
        | none =>
          rw [firstClaim_cons_of_no_claim otherClaims] at openings
          obtain ⟨later, _, later_eq⟩ := Option.map_eq_some_iff.mp openings.symm
          cases later_eq
        | some otherClaimed =>
          rw [firstClaim_cons_of_claim otherClaims] at openings
          cases openings
          obtain ⟨message, load, rfl, begun⟩ := step_of_claim lib enableAccessControl uid claims
          obtain ⟨otherMessage, otherLoad, rfl, otherBegun⟩ := step_of_claim lib enableAccessControl uid otherClaims
          simp only [OpenGroupEvent.withoutOrigins, OpenGroupEvent.initSync.injEq] at same
          obtain ⟨⟨message_eq, rfl⟩, rest⟩ := same
          have made : (newGroup message claimed cache access : OpenGroup Op) =
              newGroup otherMessage claimed cache access := by
            rw [InitSync.mk.injEq] at message_eq
            simp only [newGroup, message_eq]
          rw [run_cons, run_cons, begun, otherBegun, run_opened, run_opened, made]
          exact congrArg _ (withoutOrigins_inj rest lib enableAccessControl uid _)
      | none =>
        cases otherClaims : other.claim objectId with
        | some otherClaimed =>
          rw [firstClaim_cons_of_claim otherClaims, firstClaim_cons_of_no_claim claims] at openings
          obtain ⟨later, _, later_eq⟩ := Option.map_eq_some_iff.mp openings
          cases later_eq
        | none =>
          rw [firstClaim_cons_of_no_claim claims, firstClaim_cons_of_no_claim otherClaims] at openings
          obtain ⟨_, _, stays, otherStays⟩ := step_of_no_claim lib enableAccessControl uid claims otherClaims same.1
          rw [run_cons, run_cons, stays, otherStays]
          refine inductionHypothesis same.2 (Option.map_injective ?_ openings)
          rintro ⟨left, leftClaim⟩ ⟨right, rightClaim⟩ equal
          simpa using equal

/-! ## Runs that differ in the origins -/

/-- Until the group is opened nothing is called, and from then on all calls are for the claimed
    user id. -/
theorem ConnectionRun.calls_cases (lib : StorageLib yrs) (enableAccessControl : Bool) (uid : Int)
    (connection : ConnectionRun Op AwarenessUpdate) (steps : Nat) :
    connection.calls lib enableAccessControl uid steps = [] ∧ (∀ opened ∈ connection.opening, steps ≤ opened.1) ∨
    ∃ opened ∈ connection.opening, opened.1 < steps ∧
      (∀ call ∈ connection.calls lib enableAccessControl uid steps, ∀ named, call.uid = some named → named = opened.2) ∧
      ∃ call ∈ connection.calls lib enableAccessControl uid steps, call.uid = some opened.2 := by
  have taken := firstClaim_take connection.objectId connection.events steps
  rw [ConnectionRun.calls, ConnectionRun.state, ConnectionRun.opening]
  cases found : firstClaim connection.objectId (connection.events.take steps) with
  | none =>
    refine .inl ⟨calls_of_unopened lib enableAccessControl uid found, fun opened there => ?_⟩
    rw [found, Option.mem_def.mp there] at taken
    simpa [Option.filter] using taken.symm
  | some opened =>
    obtain ⟨group, ends, named, reads⟩ := calls_of_opened lib enableAccessControl uid found
    obtain ⟨there, early⟩ := Option.filter_eq_some_iff.mp (taken.symm.trans found)
    rw [ends]
    exact .inr ⟨opened, there, of_decide_eq_true early, named.calls, reads⟩

theorem ActsAsUser.opened {lib : StorageLib yrs} {enableAccessControl : Bool} {uid : Int}
    {first second : ConnectionRun Op AwarenessUpdate} (acts : ActsAsUser lib enableAccessControl uid first second)
    {opened : Nat × Int} (there : opened ∈ first.opening) : opened.2 = uid ∧ opened ∈ second.opening := by
  rcases first.calls_cases lib enableAccessControl uid (opened.1 + 1) with ⟨_, later⟩ | ⟨_, same, _, _, call, member, named⟩
  · have := later opened there
    omega
  obtain rfl := Option.mem_unique there same
  have own := acts.own _ call member opened.2 named
  refine ⟨own, ?_⟩
  rw [acts.same] at member
  rcases second.calls_cases lib enableAccessControl uid (opened.1 + 1) with
    ⟨nothing, _⟩ | ⟨other, otherThere, early, others, _⟩
  · rw [nothing] at member
    cases member
  have claims : opened.2 = other.2 := others call member opened.2 named
  -- had the second run opened the group earlier, it would have made a call before the first one
  rcases second.calls_cases lib enableAccessControl uid opened.1 with ⟨_, later⟩ | ⟨_, _, _, _, before, made, _⟩
  · have place : opened.1 = other.1 := by
      have := later other otherThere
      omega
    rwa [Prod.ext place claims]
  · rw [← acts.same] at made
    rcases first.calls_cases lib enableAccessControl uid opened.1 with ⟨nothing, _⟩ | ⟨again, againThere, earlier, _⟩
    · rw [nothing] at made
      cases made
    · obtain rfl := Option.mem_unique there againThere
      omega

/-- Two runs that differ in the origins only act alike and as the authenticated user exactly when
    in both the same init sync is the first one with a client's origin and claims his user id, or
    neither has one with a client's origin. -/
theorem actsAsUser_iff (lib : StorageLib yrs) (enableAccessControl : Bool) (uid : Int)
    (first second : ConnectionRun Op AwarenessUpdate) (onlyOrigins : first.withoutOrigins = second.withoutOrigins) :
    ActsAsUser lib enableAccessControl uid first second ↔
      first.opening = second.opening ∧ ∀ opened ∈ first.opening, opened.2 = uid := by
  constructor
  · intro acts
    refine ⟨?_, fun opened there => (acts.opened there).1⟩
    have back : ActsAsUser lib enableAccessControl uid second first :=
      ⟨fun steps => (acts.same steps).symm, fun steps => acts.same steps ▸ acts.own steps⟩
    exact Option.ext fun opened => ⟨fun there => (acts.opened there).2, fun there => (back.opened there).2⟩
  · rintro ⟨openings, own⟩
    obtain ⟨objectId, cache, access, events⟩ := first
    obtain ⟨_, _, _, others⟩ := second
    simp only [ConnectionRun.withoutOrigins, ConnectionRun.mk.injEq] at onlyOrigins
    obtain ⟨rfl, rfl, rfl, erased⟩ := onlyOrigins
    constructor
    · intro steps
      have erased : (events.take steps).map OpenGroupEvent.withoutOrigins =
          (others.take steps).map OpenGroupEvent.withoutOrigins := by rw [List.map_take, List.map_take, erased]
      have openings : firstClaim objectId (events.take steps) = firstClaim objectId (others.take steps) := by
        rw [firstClaim_take, firstClaim_take]
        exact congrArg _ openings
      exact congrArg ObjectState.calls (run_eq_of_firstClaim lib enableAccessControl uid erased openings)
    · intro steps call member named carries
      rcases ConnectionRun.calls_cases lib enableAccessControl uid ⟨objectId, cache, access, events⟩ steps with
        ⟨nothing, _⟩ | ⟨opened, there, _, named_eq, _⟩
      · rw [nothing] at member
        cases member
      · exact (named_eq call member named carries).trans (own opened there)

/-- Nothing is stored, nobody has any right, and the user of the connection opens a document with
    his second init sync; the first one is refused. -/
def openedFrom (origin : CollabOrigin) : ConnectionRun (Nat × Nat) Lib0.AwarenessUpdate where
  objectId := "doc"
  cache := CollabStorageImpl.bare.cache
  access := ⟨CollabStorageImpl.bare.accessControl, fun _ => none⟩
  events :=
    [.initSync ⟨.empty, "doc", .document, "w", 0, []⟩ ⟨.good, .none, false, .none⟩,
      .initSync ⟨origin, "doc", .document, "w", 1, []⟩ ⟨.good, .none, false, .none⟩, .flush]

theorem actsAsUser_other_device :
    ActsAsUser typedLib true 1 (openedFrom (.client 1 "laptop")) (openedFrom (.client 1 "phone")) :=
  (actsAsUser_iff typedLib true 1 (openedFrom (.client 1 "laptop")) (openedFrom (.client 1 "phone")) rfl).mpr
    ⟨by decide, by decide⟩

/-- User 1 claims to be user 2, and the document is read for user 2. -/
theorem claimed_origin_acts :
    ¬ ∀ (uid : Int) (first second : ConnectionRun (Nat × Nat) Lib0.AwarenessUpdate),
      first.withoutOrigins = second.withoutOrigins → ActsAsUser typedLib true uid first second := by
  intro acts
  have opened : (1, 2) ∈ (openedFrom (.client 2 "phone")).opening := by decide
  have own := ((acts 1 (openedFrom (.client 2 "phone")) (openedFrom (.client 1 "laptop")) rfl).opened opened).1
  exact absurd own (by decide)

end Authority

end FlowCloud.Server
