import FlowCloud.Foundation.BroadcastChannel
import FlowCloud.Sync.Arrivals
import FlowCloud.Sync.Forwarding

/-! # The clients of one object

Any number of clients share the collab of one group.  Each has its own exchange with it, and
the group broadcasts every change of its document; for each subscription a task passes on
what comes from other origins.
-/

namespace FlowCloud.Sync

open FlowCloud.Foundation FlowCloud.Entity FlowCloud.Protocol FlowCloud.Client FlowCloud.Server

variable {Op StateVector AwarenessUpdate : Type} [DecidableEq Op]

/-! ## A client's place in the group -/

/-- The forwarding task of a subscription. -/
structure SinkTask where
  subscriberOrigin : CollabOrigin
  receiver : ReceivingLoop
  deriving DecidableEq

/-- What the task passes on in its next turn, and the task afterwards. -/
def SinkTask.turn (sender : BroadcastChannel CollabMessage) (self : SinkTask) : Option CollabMessage × SinkTask :=
  let (message, receiver) := self.receiver.turn sender
  -- what has the subscriber's own origin is passed over
  (message.filter fun message => message.origin ≠ self.subscriberOrigin, { self with receiver })

structure Seat (Op AwarenessUpdate : Type) where
  connected : Bool
  client : ObserveCollab Op AwarenessUpdate
  processing : Option ServerCollabMessage
  stopped : Bool
  transmitted : List ClientCollabMessage
  acks : List CollabAck
  subscription : Option SinkTask
  /-- The tasks that were told to stop and have not seen it yet. -/
  stopping : List SinkTask
  /-- What the tasks have passed on and the client has not received. -/
  stream : List CollabMessage

structure Room (Member Op AwarenessUpdate : Type) where
  server : Collab Op AwarenessUpdate
  broadcast : CollabBroadcast
  sender : BroadcastChannel CollabMessage
  seats : Member → Seat Op AwarenessUpdate

namespace Seat

/-- A client that has not opened the object yet. -/
def new (client : Collab Op AwarenessUpdate) (pause : Bool) (now : Instant) : Seat Op AwarenessUpdate where
  connected := false
  client := ⟨client, .new pause, 0, LastSyncTime.new now⟩
  processing := none
  stopped := false
  transmitted := []
  acks := []
  subscription := none
  stopping := []
  stream := []

variable (self : Seat Op AwarenessUpdate)

/-- The client and the document it shares. -/
def exchange (server : Collab Op AwarenessUpdate) : Exchange Op AwarenessUpdate where
  client := self.client
  processing := self.processing
  stopped := self.stopped
  transmitted := self.transmitted
  server := server
  acks := self.acks

def withExchange (exchange : Exchange Op AwarenessUpdate) : Seat Op AwarenessUpdate :=
  { self with
    client := exchange.client
    processing := exchange.processing
    stopped := exchange.stopped
    transmitted := exchange.transmitted
    acks := exchange.acks }

/-- `AllGroup::remove_user`: the task is told to stop. -/
def removeUser : Seat Op AwarenessUpdate :=
  { self with subscription := none, stopping := self.stopping ++ self.subscription.toList }

/-- `SubscribeGroup::run`: the origin of the subscription is the one of the message. -/
def subscribe (sender : BroadcastChannel CollabMessage) (message : ClientCollabMessage) : Seat Op AwarenessUpdate :=
  { self with subscription := some ⟨message.origin, ⟨sender.subscribe, true⟩⟩ }

/-- `GroupCommandRunner::handle_collab_message` in an existing group: an init sync subscribes
    anew, and any other message subscribes a user who is not yet. -/
def command (sender : BroadcastChannel CollabMessage) (firstMessage : ClientCollabMessage) :
    Seat Op AwarenessUpdate :=
  let seat := if firstMessage.isClientInitSync then self.removeUser else self
  if seat.subscription.isSome then seat else seat.subscribe sender firstMessage

/-- The connection is lost with all that is under way on it. -/
def disconnect : Seat Op AwarenessUpdate :=
  { self with connected := false, acks := [], subscription := none, stopping := [], stream := [] }

end Seat

/-! ## The steps -/

inductive RoomEvent (Member Op AwarenessUpdate : Type) where
  /-- A step that the client takes by itself. -/
  | own (member : Member) (event : ExchangeEvent Op AwarenessUpdate)
  /-- The client is connected and its plugin queues an init sync. -/
  | connect (member : Member) (moment : SyncMoment)
  | disconnect (member : Member)
  /-- The group's command runner takes a list that starts with the message. -/
  | command (member : Member) (firstMessage : ClientCollabMessage)
  /-- The stream task of the subscription handles a copy. -/
  | handle (member : Member) (copy : ClientCollabMessage) (environment : Nat → Moment)
  /-- The awareness of the group's collab changes. -/
  | awareness (update : AwarenessUpdate)
  | forward (member : Member)
  | forwardStopping (member : Member) (index : Nat)
  /-- The client takes the next message of its stream. -/
  | deliver (member : Member) (moment : SyncMoment)

section Step

variable {Member : Type} [DecidableEq Member]
variable (yrs : Yrs Op StateVector AwarenessUpdate) (eventUpdate : Finset Op → Bytes) (config : SinkConfig)
variable (object : SyncObject) (origins : Member → CollabOrigin)

/-- The observer of the document hears of each transaction with what it added. -/
def announce : List (CollabOrigin × Finset Op) → Finset Op → CollabBroadcast × BroadcastChannel CollabMessage →
    CollabBroadcast × BroadcastChannel CollabMessage
  | [], _, group => group
  | (origin, update) :: later, content, (broadcast, sender) =>
    let payload := genUpdateMessage yrs.codec (eventUpdate (update \ content))
    let (data, broadcast) := broadcast.observeUpdate object.objectId origin payload
    announce later (content ∪ update) (broadcast, sender.send (.serverBroadcast data))

namespace Room

def new (server : Collab Op AwarenessUpdate) (capacity : Nat) (clients : Member → Collab Op AwarenessUpdate)
    (pause : Bool) (now : Instant) : Room Member Op AwarenessUpdate where
  server := server
  broadcast := .new
  sender := ⟨capacity, []⟩
  seats member := .new (clients member) pause now

variable (self : Room Member Op AwarenessUpdate)

def put (member : Member) (seat : Seat Op AwarenessUpdate) : Room Member Op AwarenessUpdate :=
  { self with seats := Function.update self.seats member seat }

def exchange (member : Member) : Exchange Op AwarenessUpdate := (self.seats member).exchange self.server

def handle (member : Member) (copy : ClientCollabMessage) (environment : Nat → Moment) :
    Room Member Op AwarenessUpdate :=
  let seat := self.seats member
  let handled := handleClientCollabMessage yrs environment object.objectId copy self.server
  let changes := handled.collab.observed.drop self.server.observed.length
  let (broadcast, sender) := announce yrs eventUpdate object changes self.server.content (self.broadcast, self.sender)
  { server := handled.collab
    broadcast
    sender
    seats := Function.update self.seats member { seat with acks := seat.acks ++ handled.resps } }

def step : RoomEvent Member Op AwarenessUpdate → Room Member Op AwarenessUpdate
  | .own member event =>
    if isLocal event then
      self.put member
        ((self.seats member).withExchange ((self.exchange member).step yrs config (origins member) object event))
    else self
  | .connect member moment =>
    let seat := self.seats member
    let sink := initSync yrs moment (origins member) object seat.client.collab seat.client.sink
    self.put member { seat with connected := true, client := { seat.client with sink } }
  | .disconnect member => self.put member (self.seats member).disconnect
  | .command member firstMessage =>
    let seat := self.seats member
    if seat.connected ∧ firstMessage ∈ seat.transmitted then self.put member (seat.command self.sender firstMessage)
    else self
  | .handle member copy environment =>
    let seat := self.seats member
    if seat.subscription.isSome ∧ copy ∈ seat.transmitted then
      self.handle yrs eventUpdate object member copy environment
    else self
  | .awareness update =>
    let msg : Message StateVector AwarenessUpdate := .awareness update
    { self with sender := self.sender.send (.awarenessSync (.new object.objectId (msg.encode yrs.codec))) }
  | .forward member =>
    let seat := self.seats member
    match seat.subscription with
    | none => self
    | some task =>
      let (message, task) := task.turn self.sender
      self.put member { seat with subscription := some task, stream := seat.stream ++ message.toList }
  | .forwardStopping member index =>
    let seat := self.seats member
    match seat.stopping[index]? with
    | none => self
    | some task =>
      let (message, task) := task.turn self.sender
      self.put member { seat with stopping := seat.stopping.set index task, stream := seat.stream ++ message.toList }
  | .deliver member moment =>
    let seat := self.seats member
    match seat.stream with
    | [] => self
    | message :: stream =>
      if seat.stopped || seat.processing.isSome then self
      else
        match ServerCollabMessage.tryFrom message with
        -- what is no message of the server is logged
        | .error _ => self.put member { seat with stream }
        | .ok msg =>
          let exchange := (self.exchange member).receive yrs (origins member) object moment msg
          self.put member { seat.withExchange exchange with stream }

/-! ## What is claimed -/

/-- The client has nothing to send or to process, and nothing is on its way to it. -/
def Quiet (member : Member) : Prop :=
  (self.seats member).connected = true ∧ (self.exchange member).AtRest ∧ (self.seats member).stream = [] ∧
    ∀ task ∈ (self.seats member).subscription, self.sender.unread task.receiver.next = []

instance (member : Member) : Decidable (self.Quiet member) :=
  inferInstanceAs (Decidable (_ = true ∧ (_ ∧ _) ∧ _ ∧ ∀ task ∈ _, _))

end Room

end Step

end FlowCloud.Sync
