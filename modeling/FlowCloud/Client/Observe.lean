import FlowCloud.Client.SinkKeeps

/-! # Receiving server messages

`ObserveCollab` takes the server's messages of one object in turn.  A broadcast with a
number too far ahead starts an init sync; a response that the sink accepts is run against
the local collab, and what the protocol answers goes back into the sink.
-/

namespace FlowCloud.Client

open FlowCloud.Foundation FlowCloud.Entity FlowCloud.Protocol

inductive SyncError where
  | ySync (source : Error)
  | decodingError (source : ReadError)
  | cannotApplyUpdate (objectId : String)
  | missingBroadcast (message : String)
  deriving DecidableEq, Repr

structure SyncObject where
  objectId : String
  workspaceId : String
  collabType : CollabType
  deriving DecidableEq, Repr

/-! ## Broadcast numbers -/

abbrev NUMBER_OF_UPDATE_TRIGGER_INIT_SYNC : UInt32 := 1

/-- Compare with the number stored last, and store the new one.  The sum is one of 32 bits. -/
def validateBroadcast (object : SyncObject) (broadcastSync : BroadcastSync) (broadcastSeqNum : UInt32) :
    Except SyncError Unit × UInt32 :=
  let prevSeqNum := broadcastSeqNum
  if broadcastSync.seqNum > prevSeqNum + NUMBER_OF_UPDATE_TRIGGER_INIT_SYNC then
    (.error (.missingBroadcast (object.objectId ++ " missing updates len: " ++
      toString (broadcastSync.seqNum - prevSeqNum) ++ ", start init sync")), broadcastSync.seqNum)
  else (.ok (), broadcastSync.seqNum)

/-! ## The debounce of init syncs -/

/-- Times are in milliseconds. -/
abbrev Instant := Nat

/-- An hour before now, where the clock goes back that far. -/
def LastSyncTime.new (now : Instant) : Instant := if 3600000 ≤ now then now - 3600000 else now

/-- Whether the last sync is long enough ago, and the last sync afterwards. -/
def LastSyncTime.shouldSync (lastSync : Instant) (debounceDuration : Nat) (now : Instant) : Bool × Instant :=
  if now - lastSync > debounceDuration then (true, now) else (false, lastSync)

def debounceDuration (debugAssertions : Bool) : Nat := if debugAssertions then 2000 else 10000

/-! ## The state and what is around it -/

variable {Op StateVector AwarenessUpdate : Type} [DecidableEq Op]

/-- What `process_message` works on: the local collab, the sink and the two values that the
    task keeps between messages. -/
structure ObserveCollab (Op AwarenessUpdate : Type) where
  collab : Collab Op AwarenessUpdate
  sink : CollabSink
  broadcastSeqNum : UInt32
  lastSync : Instant

/-- What the rest of the client leaves to an init sync. -/
structure SyncMoment where
  now : Instant
  debugAssertions : Bool
  lockFree : Bool
  transactions : Transactions
  awareness : Except String Unit
  queueFree : Bool
  flyingFree : Bool

def SyncMoment.idle (now : Instant) : SyncMoment := ⟨now, false, true, .free, .ok (), true, true⟩

/-- What it leaves to one protocol message of a payload. -/
structure PayloadMoment where
  transactions : Transactions
  mergeLocksFree : Bool

def PayloadMoment.idle : PayloadMoment := ⟨.free, true⟩

/-- What it leaves to a server message. -/
structure Surroundings where
  sync : SyncMoment
  payloadLockFree : Bool
  payload : Nat → PayloadMoment

def Surroundings.idle (now : Instant) : Surroundings := ⟨.idle now, true, fun _ => .idle⟩

section Observe

variable (yrs : Yrs Op StateVector AwarenessUpdate) (config : SinkConfig)

/-! ## Init syncs -/

def docInitState (moment : SyncMoment) (collab : Collab Op AwarenessUpdate) : Option Bytes :=
  match CollabSyncProtocol.start yrs moment.transactions moment.awareness collab with
  | .error _ => none
  | .ok payload => if payload.isEmpty then none else some payload

/-- `_init_sync`; the sink fills the id in. -/
def initSync (moment : SyncMoment) (origin : CollabOrigin) (object : SyncObject) (collab : Collab Op AwarenessUpdate)
    (sink : CollabSink) : CollabSink :=
  match docInitState yrs moment collab with
  | some payload =>
    sink.queueInitSync
      (.clientInitSync ⟨origin, object.objectId, object.collabType, object.workspaceId, sink.msgIdCounter, payload⟩)
      moment.queueFree moment.flyingFree
  | none => sink

def CollabSink.canQueueInitSync (self : CollabSink) : Bool :=
  match popMax QueueItem.cmp self.messageQueue with
  | some (item, _) => !item.inner.isClientInitSync
  | none => true

def tryInitSync (moment : SyncMoment) (origin : CollabOrigin) (object : SyncObject)
    (self : ObserveCollab Op AwarenessUpdate) : ObserveCollab Op AwarenessUpdate :=
  if self.sink.canQueueInitSync then
    let (due, lastSync) :=
      LastSyncTime.shouldSync self.lastSync (debounceDuration moment.debugAssertions) moment.now
    -- the time is stored before the lock is tried
    let self := { self with lastSync }
    if due && moment.lockFree then { self with sink := initSync yrs moment origin object self.collab self.sink }
    else self
  else self

/-! ## Payloads -/

/-- What the client sends for an answer of the protocol. -/
def replyMessage (origin : CollabOrigin) (objectId : String) (msgId : MsgId) (isServerSyncStep1 : Bool)
    (payload : Bytes) : ClientCollabMessage :=
  if isServerSyncStep1 then .serverInitSync ⟨origin, objectId, msgId, payload⟩
  else .clientUpdateSync ⟨origin, objectId, msgId, payload⟩

def isSyncStep1 : Message StateVector AwarenessUpdate → Bool
  | .sync (.syncStep1 _) => true
  | _ => false

/-- `queue_msg` with the merge that ends it. -/
def CollabSink.queueMsgMerged (self : CollabSink) (msg : ClientCollabMessage) (mergeLocksFree : Bool) : CollabSink :=
  (self.queueMsg msg).merge yrs config mergeLocksFree

/-- The handler's result for one protocol message, and the state with the answer queued. -/
def processInner (origin : CollabOrigin) (objectId : String) (self : ObserveCollab Op AwarenessUpdate)
    (msg : Message StateVector AwarenessUpdate × PayloadMoment) :
    Except SyncError Unit × ObserveCollab Op AwarenessUpdate :=
  match handleCollabMessage yrs msg.2.transactions origin (ClientSyncProtocol yrs) self.collab msg.1 with
  | (.error err, collab) => (.error (.ySync err), { self with collab })
  | (.ok none, collab) => (.ok (), { self with collab })
  | (.ok (some payload), collab) =>
    let reply := replyMessage origin objectId self.sink.msgIdCounter (isSyncStep1 msg.1) payload
    (.ok (), { self with collab, sink := self.sink.queueMsgMerged yrs config reply msg.2.mergeLocksFree })

/-- The loop over the protocol messages; the first error ends it. -/
def processInners (origin : CollabOrigin) (objectId : String) :
    List (Message StateVector AwarenessUpdate × PayloadMoment) → ObserveCollab Op AwarenessUpdate →
      Except SyncError Unit × ObserveCollab Op AwarenessUpdate
  | [], self => (.ok (), self)
  | msg :: msgs, self =>
    match processInner yrs config origin objectId self msg with
    | (.error err, self) => (.error err, self)
    | (.ok (), self) => processInners origin objectId msgs self

def payloadMessages (moments : Nat → PayloadMoment) (payload : Bytes) :
    List (Message StateVector AwarenessUpdate × PayloadMoment) :=
  (MessageReader.read yrs.codec payload).messages.zipIdx.map fun message => (message.1, moments message.2)

def processPayload (surroundings : Surroundings) (origin : CollabOrigin) (payload : Bytes) (objectId : String)
    (self : ObserveCollab Op AwarenessUpdate) : Except SyncError Unit × ObserveCollab Op AwarenessUpdate :=
  if surroundings.payloadLockFree then
    match processInners yrs config origin objectId (payloadMessages yrs surroundings.payload payload) self with
    | (.error err, self) => (.error err, self)
    | (.ok (), self) =>
      match (MessageReader.read yrs.codec payload).failure with
      | some failure => (.error (.decodingError failure), self)
      | none => (.ok (), self)
  -- a collab in use is passed over
  else (.ok (), self)

/-! ## Messages -/

def refusesUpdate : ServerCollabMessage → Bool
  | .clientAck ack => ack.code == .cannotApplyUpdate
  | _ => false

def noticeBroadcast (moment : SyncMoment) (origin : CollabOrigin) (object : SyncObject)
    (msg : ServerCollabMessage) (self : ObserveCollab Op AwarenessUpdate) : ObserveCollab Op AwarenessUpdate :=
  match msg with
  | .serverBroadcast data =>
    match validateBroadcast object data self.broadcastSeqNum with
    | (.error _, broadcastSeqNum) =>
      tryInitSync yrs moment origin object { self with broadcastSeqNum }
    | (.ok (), broadcastSeqNum) => { self with broadcastSeqNum }
  | _ => self

/-- `process_message` up to the payload: whether the sink accepts the message. -/
def acceptMessage (moment : SyncMoment) (origin : CollabOrigin) (object : SyncObject)
    (msg : ServerCollabMessage) (self : ObserveCollab Op AwarenessUpdate) :
    Except SyncError Bool × ObserveCollab Op AwarenessUpdate :=
  if refusesUpdate msg then (.error (.cannotApplyUpdate object.objectId), self)
  else
    let self := noticeBroadcast yrs moment origin object msg self
    let (isValid, sink) := self.sink.validateResponse msg
    (.ok isValid, { self with sink })

def processMessage (surroundings : Surroundings) (origin : CollabOrigin) (object : SyncObject)
    (msg : ServerCollabMessage) (self : ObserveCollab Op AwarenessUpdate) :
    Except SyncError Unit × ObserveCollab Op AwarenessUpdate :=
  match acceptMessage yrs surroundings.sync origin object msg self with
  | (.error err, self) => (.error err, self)
  | (.ok isValid, self) =>
    if isValid && !msg.payload.isEmpty then
      processPayload yrs config surroundings msg.origin msg.payload object.objectId self
    else (.ok (), self)

end Observe

end FlowCloud.Client
