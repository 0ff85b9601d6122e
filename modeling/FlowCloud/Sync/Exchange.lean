import FlowCloud.Client.Gaps
import FlowCloud.Server.Acks

/-! # One client and the server document

The client with its local collab and its sink, the server's collab of the same object, and
what is under way between the two.  A copy that was handed to the transport can arrive at
the server at any later time and more than once, and so can an ack at the client.
-/

namespace FlowCloud.Sync

open FlowCloud.Foundation FlowCloud.Entity FlowCloud.Protocol FlowCloud.Client FlowCloud.Server

variable {Op StateVector AwarenessUpdate : Type} [DecidableEq Op]

structure Exchange (Op AwarenessUpdate : Type) where
  client : ObserveCollab Op AwarenessUpdate
  /-- The accepted message whose payload is still to be processed. -/
  processing : Option ServerCollabMessage
  /-- An update that cannot be applied ends the client's receiving. -/
  stopped : Bool
  transmitted : List ClientCollabMessage
  server : Collab Op AwarenessUpdate
  acks : List CollabAck

/-- A client that has sent nothing yet. -/
def Exchange.new (client server : Collab Op AwarenessUpdate) (pause : Bool) (now : Instant) :
    Exchange Op AwarenessUpdate where
  client := ⟨client, .new pause, 0, LastSyncTime.new now⟩
  processing := none
  stopped := false
  transmitted := []
  server := server
  acks := []

inductive ExchangeEvent (Op AwarenessUpdate : Type) where
  /-- A local change of the document, which the plugin queues. -/
  | edit (update : Bytes)
  | editAwareness (update : AwarenessUpdate)
  /-- The merge that ends a `queue_msg`. -/
  | merge (locksFree : Bool)
  /-- An init sync of the plugin, when it is set up or connected again. -/
  | initSync (moment : SyncMoment)
  /-- The heap may hold its items in another order. -/
  | relayout (layout : List QueueItem)
  | processNextMsg (locksFree : Bool)
  | sendFinished (success : Bool)
  | tick
  | setPause (pause : Bool)
  /-- The server handles a copy that reached it. -/
  | handle (copy : ClientCollabMessage) (environment : Nat → Moment)
  /-- Another writer changes the server's document. -/
  | change (update : Finset Op)
  | receiveAck (ack : CollabAck)
  | receiveBroadcast (origin : CollabOrigin) (update : Bytes) (seqNum : UInt32) (moment : SyncMoment)
  | receiveAwareness (update : AwarenessUpdate)
  /-- The payload of the accepted message is run against the local collab. -/
  | process (surroundings : Surroundings)

section Step

variable (yrs : Yrs Op StateVector AwarenessUpdate) (config : SinkConfig) (origin : CollabOrigin) (object : SyncObject)

/-! ## Local changes -/

def Exchange.withSink (self : Exchange Op AwarenessUpdate) (sink : CollabSink) : Exchange Op AwarenessUpdate :=
  { self with client := { self.client with sink } }

/-- `SyncPlugin::receive_local_state`: the update message of a local change. -/
def receiveLocalState (msgId : MsgId) (update : Bytes) : ClientCollabMessage :=
  .clientUpdateSync ⟨origin, object.objectId, msgId, updatePayload yrs update⟩

/-- `SyncPlugin::receive_local_update`: the one of a local change of the awareness. -/
def receiveLocalUpdate (msgId : MsgId) (update : AwarenessUpdate) : ClientCollabMessage :=
  let msg : Message StateVector AwarenessUpdate := .awareness update
  .clientUpdateSync ⟨origin, object.objectId, msgId, msg.encode yrs.codec⟩

/-- The document takes in the change, and the update is queued with it. -/
def Exchange.edit (self : Exchange Op AwarenessUpdate) (update : Bytes) : Exchange Op AwarenessUpdate :=
  let collab := { self.client.collab with content := self.client.collab.content ∪ updateOps yrs update }
  let msg := receiveLocalState yrs origin object self.client.sink.msgIdCounter update
  { self with client := { self.client with collab, sink := self.client.sink.queueMsg msg } }

/-! ## Server messages -/

def broadcastMessage (sender : CollabOrigin) (update : Bytes) (seqNum : UInt32) : ServerCollabMessage :=
  .serverBroadcast ⟨sender, object.objectId, updatePayload yrs update, seqNum⟩

def awarenessMessage (update : AwarenessUpdate) : ServerCollabMessage :=
  let msg : Message StateVector AwarenessUpdate := .awareness update
  .awarenessSync ⟨object.objectId, msg.encode yrs.codec, .server⟩

/-- The client takes the next message when it is done with the one before. -/
def Exchange.receive (self : Exchange Op AwarenessUpdate) (moment : SyncMoment) (msg : ServerCollabMessage) :
    Exchange Op AwarenessUpdate :=
  if self.stopped || self.processing.isSome then self
  else
    match acceptMessage yrs moment origin object msg self.client with
    | (.error _, client) => { self with client, stopped := true }
    | (.ok isValid, client) =>
      { self with client, processing := if isValid && !msg.payload.isEmpty then some msg else none }

/-- One step; a copy that was never sent and an ack that was never given do not arrive. -/
def Exchange.step (self : Exchange Op AwarenessUpdate) :
    ExchangeEvent Op AwarenessUpdate → Exchange Op AwarenessUpdate
  | .edit update => self.edit yrs origin object update
  | .editAwareness update =>
    self.withSink
      (self.client.sink.queueMsg (receiveLocalUpdate yrs origin object self.client.sink.msgIdCounter update))
  | .merge locksFree => self.withSink (self.client.sink.merge yrs config locksFree)
  | .initSync moment => self.withSink (Client.initSync yrs moment origin object self.client.collab self.client.sink)
  | .relayout layout =>
    -- the order inside a binary heap is not part of what the sink promises
    if layout.isPerm self.client.sink.messageQueue then
      self.withSink { self.client.sink with messageQueue := layout }
    else self
  | .processNextMsg locksFree =>
    let (messages, sink) := self.client.sink.processNextMsg locksFree
    { self.withSink sink with transmitted := self.transmitted ++ messages }
  | .sendFinished success => self.withSink (self.client.sink.sendFinished success)
  | .tick => self.withSink self.client.sink.tick
  | .setPause pause => self.withSink (self.client.sink.setPause pause)
  | .handle copy environment =>
    if copy ∈ self.transmitted then
      let handled := handleClientCollabMessage yrs environment object.objectId copy self.server
      { self with server := handled.collab, acks := self.acks ++ handled.resps }
    else self
  | .change update => { self with server := { self.server with content := self.server.content ∪ update } }
  | .receiveAck ack => if ack ∈ self.acks then self.receive yrs origin object (.idle 0) (.clientAck ack) else self
  | .receiveBroadcast sender update seqNum moment =>
    self.receive yrs origin object moment (broadcastMessage yrs object sender update seqNum)
  | .receiveAwareness update => self.receive yrs origin object (.idle 0) (awarenessMessage yrs object update)
  | .process surroundings =>
    match self.processing with
    | none => self
    | some msg =>
      -- what goes wrong with a payload is logged, and the next message is taken
      let (_, client) :=
        processPayload yrs config surroundings msg.origin msg.payload object.objectId self.client
      { self with client, processing := none }

end Step

end FlowCloud.Sync
