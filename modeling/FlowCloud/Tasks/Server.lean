import FlowCloud.Foundation.Runs
import FlowCloud.Server.GroupCommand

/-! # The tasks of the realtime server

The handlers of `RealtimeServer`, the group command runners and the periodic sweep are
futures over shared maps.  A step of one of them runs from one await that really suspends to
the next, so between two steps any other one may run.  What suspends is: stopping a
subscription, waiting for room in a command channel and loading the document of a new group.
The stop of a subscription is two sends into channels with room, so it suspends only where the
budget of the polled task is used up, as by a user who leaves more than sixty-four objects.
-/

namespace FlowCloud.Tasks

open FlowCloud.Foundation FlowCloud.Entity FlowCloud.Server

/-! ## Data -/

structure UserDevice where
  uid : Int
  deviceId : String
  deriving DecidableEq, Repr

def UserDevice.from {User : Type} [RealtimeUser User] (user : User) : UserDevice :=
  ⟨RealtimeUser.uid user, RealtimeUser.deviceId user⟩

structure Group (User : Type) where
  /-- Groups are numbered as they are created. -/
  number : Nat
  subscribers : List User
  userByUserDevice : String → Option User

inductive GroupCommand (User : Type) where
  | handleClientCollabMessage (user : User) (objectId : String) (collabMessages : List ClientCollabMessage)
  | encodeCollab (objectId : String)

/-- The last thing a handler does, when the user is out of the groups. -/
inductive After (User : Type) where
  | insertStream (user : User) (session : Nat)
  | removeStream (user : User) (session : Nat)

def After.user {User : Type} : After User → User
  | .insertStream user _ | .removeStream user _ => user

/-- A handler that waits. -/
inductive Future (User : Type) where
  /-- `remove_user`: the subscription of the user in a group stops. -/
  | removing (user : User) (objectId : String) (remaining : List Editing) (after : After User)
  /-- The clone of a sender waits for room in the channel. -/
  | sending (runner : Nat) (command : GroupCommand User)

/-- Where a runner waits.  Of the messages in progress the first one decides everything. -/
inductive RunnerState (User : Type) where
  | idle
  /-- The old subscription of an init sync stops. -/
  | unsubscribing (user : User) (objectId : String) (first : ClientCollabMessage)
  /-- The document of a new group is loaded. -/
  | creating (user : User) (first : ClientCollabMessage)
  /-- The subscription of the last user of the device stops, the group is in the runner's
      hands and the client stream of the user is locked. -/
  | subscribing (user : User) (first : ClientCollabMessage) (group : Nat)
  | encoding

structure Runner (User : Type) where
  objectId : String
  queue : List (GroupCommand User)
  state : RunnerState User

/-- The maps and the tasks.  Session ids are random, so no two connections share one: they are
    numbered, and a client stream is known by the session of its connection. -/
structure Server (User : Type) where
  userByDevice : UserDevice → Option User
  sessionIdByUser : User → Option Nat
  /-- A user without an entry is one with an empty set. -/
  editingCollabByUser : User → List Editing
  clientStreamByUser : User → Option Nat
  groupByObjectId : String → Option (Group User)
  groupSenderByObjectId : String → Option Nat
  runners : List (Runner User)
  futures : Nat → Option (Future User)
  /-- How many sessions, futures and groups there have been. -/
  sessions : Nat
  started : Nat
  created : Nat

def Server.new {User : Type} : Server User where
  userByDevice := fun _ => none
  sessionIdByUser := fun _ => none
  editingCollabByUser := fun _ => []
  clientStreamByUser := fun _ => none
  groupByObjectId := fun _ => none
  groupSenderByObjectId := fun _ => none
  runners := []
  futures := fun _ => none
  sessions := 0
  started := 0
  created := 0

/-- A set or a map is visited in any order. -/
def visit {Item : Type} [DecidableEq Item] (order items : List Item) : List Item :=
  if order.isPerm items then order else items

theorem mem_visit {Item : Type} [DecidableEq Item] {order items : List Item} {item : Item} :
    item ∈ visit order items ↔ item ∈ items := by
  unfold visit
  split
  · next same => exact (List.isPerm_iff.mp same).mem_iff
  · rfl

/-- A message that is handled or a task that is polled.  What `received` and `elapsed` say is
    up to the clients and the clock. -/
inductive Event (User : Type) where
  | connect (user : User) (order : List Editing)
  | disconnect (user : User) (session : Nat) (order : List Editing)
  /-- One object of a `ClientMessage` or `ClientStreamMessage`. -/
  | message (user : User) (objectId : String) (collabMessages : List ClientCollabMessage)
  | getEncodeCollab (objectId : String)
  | poll (future : Nat)
  /-- `received`: the client stream that messages are passed on to has a receiver. -/
  | runner (number : Nat) (received : Bool)
  /-- `elapsed`: the groups that have not been modified for longer than their timeout. -/
  | tick (order : List String) (elapsed : String → Bool)

section Server

variable {User : Type} [DecidableEq User] [RealtimeUser User]

/-! ## The maps -/

def Group.new (number : Nat) : Group User := ⟨number, [], fun _ => none⟩

def Group.containsUser (self : Group User) (user : User) : Bool := user ∈ self.subscribers

def Group.removeUser (self : Group User) (user : User) : Group User :=
  { self with subscribers := self.subscribers.filter (· ≠ user) }

/-- The last user of the device is still subscribed. -/
def Group.displaces (self : Group User) (user : User) : Bool :=
  match self.userByUserDevice (userDevice user) with
  | some oldUser => self.containsUser oldUser
  | none => false

/-- `CollabGroup::subscribe` before the old subscription stops. -/
def Group.freeDevice (self : Group User) (user : User) : Group User :=
  match self.userByUserDevice (userDevice user) with
  | some oldUser =>
    { self.removeUser oldUser with
      userByUserDevice := Function.update self.userByUserDevice (userDevice user) none }
  | none => self

/-- `CollabGroup::subscribe` after the old subscription has stopped. -/
def Group.insertUser (self : Group User) (user : User) : Group User :=
  { self with
    subscribers := self.subscribers.insert user
    userByUserDevice := Function.update self.userByUserDevice (userDevice user) (some user) }

namespace Server

variable (self : Server User)

def setFuture (number : Nat) (future : Option (Future User)) : Server User :=
  { self with futures := Function.update self.futures number future }

def start (future : Future User) : Server User :=
  { self.setFuture self.started (some future) with started := self.started + 1 }

def setRunner (number : Nat) (runner : Runner User) : Server User :=
  { self with runners := self.runners.set number runner }

def setState (number : Nat) (state : RunnerState User) : Server User :=
  { self with runners := self.runners.modify number fun runner => { runner with state } }

def setStream (user : User) (stream : Option Nat) : Server User :=
  { self with clientStreamByUser := Function.update self.clientStreamByUser user stream }

def setEditing (user : User) (editing : List Editing) : Server User :=
  { self with editingCollabByUser := Function.update self.editingCollabByUser user editing }

def setGroup (objectId : String) (group : Option (Group User)) : Server User :=
  { self with groupByObjectId := Function.update self.groupByObjectId objectId group }

def modifyGroup (objectId : String) (change : Group User → Group User) : Server User :=
  self.setGroup objectId ((self.groupByObjectId objectId).map change)

def containsGroup (objectId : String) : Bool := (self.groupByObjectId objectId).isSome

def containsUser (objectId : String) (user : User) : Bool :=
  match self.groupByObjectId objectId with
  | some group => group.containsUser user
  | none => false

/-! ## Connecting and disconnecting -/

/-- The loop of `remove_user` up to the next subscription that has to stop: the object of its
    group and the records that are left. -/
def leave (user : User) : List Editing → Server User × Option (String × List Editing)
  | [] => (self, none)
  | editing :: remaining =>
    if self.containsUser editing.objectId user then
      (self.modifyGroup editing.objectId fun group => group.removeUser user, some (editing.objectId, remaining))
    else leave user remaining

def conclude : After User → Server User
  | .insertStream user session => self.setStream user (some session)
  | .removeStream user _ => self.setStream user none

/-- `remove_user` and what comes after it, as far as the future gets. -/
def removeUser (future : Nat) (user : User) (editings : List Editing) (after : After User) : Server User :=
  match self.leave user editings with
  | (server, some (objectId, remaining)) => server.setFuture future (some (.removing user objectId remaining after))
  | (server, none) => (server.conclude after).setFuture future none

/-- `remove_user` begins: the records of the user are taken out of the map. -/
def takeEditing (user : User) : Server User := { self.setEditing user [] with started := self.started + 1 }

def beginRemoveUser (user : User) (order : List Editing) (after : After User) : Server User :=
  (self.takeEditing user).removeUser self.started user (visit order (self.editingCollabByUser user)) after

def register (user : User) : Server User :=
  { self with
    sessions := self.sessions + 1
    sessionIdByUser := Function.update self.sessionIdByUser user (some self.sessions)
    userByDevice := Function.update self.userByDevice (.from user) (some user) }

/-- `Handler<Connect<U>>::handle`. -/
def connect (user : User) (order : List Editing) : Server User :=
  match self.userByDevice (.from user) with
  | none => (self.register user).setStream user (some self.sessions)
  | some oldUser =>
    ((self.register user).setStream oldUser none).beginRemoveUser oldUser order (.insertStream user self.sessions)

/-- `Handler<Disconnect<U>>::handle`: a user who has connected again has another session. -/
def disconnect (user : User) (session : Nat) (order : List Editing) : Server User :=
  match self.sessionIdByUser user with
  | none => self.beginRemoveUser user order (.removeStream user session)
  | some current =>
    if current = session then self.beginRemoveUser user order (.removeStream user session) else self

/-! ## Messages -/

/-- `RealtimeServer::process_client_collab_message`: a runner is spawned where the object has
    no sender. -/
def processClientCollabMessage (user : User) (objectId : String) (collabMessages : List ClientCollabMessage) :
    Server User :=
  let command := GroupCommand.handleClientCollabMessage user objectId collabMessages
  match self.groupSenderByObjectId objectId with
  | some sender => self.start (.sending sender command)
  | none =>
    let sender := self.runners.length
    let server : Server User := { self with
      runners := self.runners ++ [⟨objectId, [], .idle⟩]
      groupSenderByObjectId := Function.update self.groupSenderByObjectId objectId (some sender) }
    server.start (.sending sender command)

def getEncodeCollab (objectId : String) : Server User :=
  match self.groupSenderByObjectId objectId with
  | some sender => self.start (.sending sender (.encodeCollab objectId))
  | none => self

def channelCapacity : Nat := 1000

def send (future number : Nat) (command : GroupCommand User) : Server User :=
  match self.runners[number]? with
  | none => self
  | some runner =>
    if runner.queue.length < channelCapacity then
      (self.setRunner number { runner with queue := runner.queue ++ [command] }).setFuture future none
    else self

def pollFuture (number : Nat) : Server User :=
  match self.futures number with
  | none => self
  | some (.removing user _ remaining after) => self.removeUser number user remaining after
  | some (.sending runner command) => self.send number runner command

/-! ## Group command runners -/

/-- `broadcast_client_collab_message`: a client stream without a receiver is removed. -/
def broadcast (user : User) (received : Bool) : Server User :=
  if received then self else self.setStream user none

/-- The last thing a runner does with the messages of a user. -/
def finish (number : Nat) (user : User) (received : Bool) : Server User :=
  (self.broadcast user received).setState number .idle

/-- `GroupCommandRunner::create_group`, after the document is loaded. -/
def createGroup (objectId : String) : Server User :=
  { self.setGroup objectId (some (.new self.created)) with created := self.created + 1 }

/-- The end of `CollabGroup::subscribe`; a group that is not in the map any more is forgotten. -/
def insertSubscriber (objectId : String) (number : Nat) (user : User) : Server User :=
  self.modifyGroup objectId fun group => if group.number = number then group.insertUser user else group

/-- The user edits the object, and the device of the user has no subscription. -/
def beginSubscribe (user : User) (first : ClientCollabMessage) : Server User :=
  (self.setEditing user ((self.editingCollabByUser user).insert ⟨first.objectId, first.origin⟩)).modifyGroup
    first.objectId fun group => group.freeDevice user

/-- `SubscribeGroup::run` and the messages after it. -/
def subscribeGroup (number : Nat) (user : User) (first : ClientCollabMessage) (received : Bool) : Server User :=
  match self.clientStreamByUser user, self.groupByObjectId first.objectId with
  | some _, some group =>
    if group.containsUser user then self.finish number user received
    else if group.displaces user then
      (self.beginSubscribe user first).setState number (.subscribing user first group.number)
    else
      ((self.beginSubscribe user first).insertSubscriber first.objectId group.number user).finish number user received
  | _, _ => self.finish number user received

/-- The group exists and an old subscription of an init sync is gone. -/
def resubscribe (number : Nat) (user : User) (objectId : String) (first : ClientCollabMessage) (received : Bool) :
    Server User :=
  if self.containsUser objectId user then self.finish number user received
  else self.subscribeGroup number user first received

def createsGroup : ClientCollabMessage → Bool
  | .clientInitSync data => data.origin.clientUserId.isSome
  | _ => false

/-- `GroupCommandRunner::handle_collab_message` up to its first await. -/
def handleCollabMessage (number : Nat) (user : User) (objectId : String) (messages : List ClientCollabMessage)
    (received : Bool) : Server User :=
  match messages with
  | [] => self
  | first :: _ =>
    if (self.clientStreamByUser user).isNone then self
    else if self.containsGroup objectId then
      if first.isClientInitSync && self.containsUser objectId user then
        (self.modifyGroup objectId fun group => group.removeUser user).setState number
          (.unsubscribing user objectId first)
      else self.resubscribe number user objectId first received
    else if createsGroup first then self.setState number (.creating user first)
    else self

def handleCommand (number : Nat) (command : GroupCommand User) (received : Bool) : Server User :=
  match command with
  | .handleClientCollabMessage user objectId messages =>
    self.handleCollabMessage number user objectId messages received
  | .encodeCollab _ => self.setState number .encoding

/-- A step of a runner: an idle one takes the next command. -/
def runRunner (number : Nat) (received : Bool) : Server User :=
  match self.runners[number]? with
  | none => self
  | some runner =>
    match runner.state with
    | .idle =>
      match runner.queue with
      | [] => self
      | command :: queue => (self.setRunner number { runner with queue }).handleCommand number command received
    | .encoding => self.setState number .idle
    | .unsubscribing user objectId first => self.resubscribe number user objectId first received
    | .creating user first => (self.createGroup first.objectId).subscribeGroup number user first received
    | .subscribing user first group =>
      (self.insertSubscriber first.objectId group user).finish number user received

/-! ## The sweep -/

def isInactive (elapsed : String → Bool) (objectId : String) : Bool :=
  match self.groupByObjectId objectId with
  | some group => elapsed objectId && group.subscribers.isEmpty
  | none => false

/-- The loop over the groups ends when more than five are collected. -/
def inactiveGroupIds (order : List String) (elapsed : String → Bool) : List String :=
  (order.dedup.filter (self.isInactive elapsed)).take 6

/-- The senders of the collected objects are removed when their groups are. -/
def removeSenders (collected : List String) : Server User :=
  { self with groupSenderByObjectId := fun objectId =>
      if objectId ∈ collected then none else self.groupSenderByObjectId objectId }

/-- `AllGroup::remove_group`, where the group has no subscription to stop. -/
def removeGroup (objectId : String) : Server User := self.setGroup objectId none

def removeGroups (collected : List String) : Server User := collected.foldl removeGroup self

/-- `AllGroup::tick` and the removal of the senders.  Nothing here suspends: a group that is
    collected has nothing to stop, and the lock of its document is free. -/
def tick (order : List String) (elapsed : String → Bool) : Server User :=
  (self.removeGroups (self.inactiveGroupIds order elapsed)).removeSenders (self.inactiveGroupIds order elapsed)

def step : Event User → Server User
  | .connect user order => self.connect user order
  | .disconnect user session order => self.disconnect user session order
  | .message user objectId collabMessages => self.processClientCollabMessage user objectId collabMessages
  | .getEncodeCollab objectId => self.getEncodeCollab objectId
  | .poll future => self.pollFuture future
  | .runner number received => self.runRunner number received
  | .tick order elapsed => self.tick order elapsed

/-! ## Locks

The guard of a map's entry is held over an await in four places.  Whoever needs the entry
meanwhile has to wait, which on one thread is for ever.  Two of them are below.  The other two
wait for room in a runner's channel, and only the insertions of a `Connect` and of a new sender
and the removal of senders would have to wait for them: the stream handler has the user of the
device by `user_by_device.get`, and the task for `GetEncodeCollab` has the sender by
`group_sender_by_object_id.get`.
-/

/-- `SubscribeGroup::run` has the client stream by `get_mut`. -/
def streamLocked (user : User) : Bool := self.runners.any fun runner =>
  match runner.state with
  | .subscribing other _ _ => other = user
  | _ => false

/-- `AllGroup::remove_user` has the group by `get`: nobody can insert or remove it. -/
def groupLocked (objectId : String) : Bool :=
  (self.runners.any fun runner =>
    match runner.state with
    | .unsubscribing _ other _ => other = objectId
    | _ => false) ||
  (List.range self.started).any fun number =>
    match self.futures number with
    | some (.removing _ other _ _) => other = objectId
    | _ => false

/-- The entries that the step takes for sure are not locked. -/
def mayRun : Event User → Bool
  | .connect user _ => !self.streamLocked ((self.userByDevice (.from user)).getD user)
  | .poll number =>
    match self.futures number with
    | some (.removing user _ remaining after) =>
      (self.leave user remaining).2.isSome || !self.streamLocked after.user
    | _ => true
  | .runner number _ =>
    match self.runners[number]? with
    | some ⟨_, .handleClientCollabMessage user _ (_ :: _) :: _, .idle⟩ => !self.streamLocked user
    | some ⟨_, _, .unsubscribing user _ _⟩ => !self.streamLocked user
    | some ⟨_, _, .creating user first⟩ => !self.streamLocked user && !self.groupLocked first.objectId
    | _ => true
  | .tick order elapsed => (self.inactiveGroupIds order elapsed).all fun objectId => !self.groupLocked objectId
  | _ => true

end Server

end Server

/-! ## Sample messages -/

/-- An init sync of a user of the device `"device"`. -/
def initSync (uid : Int) (objectId : String) : ClientCollabMessage :=
  .clientInitSync ⟨.client uid "device", objectId, .document, "workspace", 1, []⟩

/-- A user opens an object that has no group: the message reaches the runner, the document is
    loaded and the user is subscribed. -/
def opens (uid : Int) (objectId : String) (future runner : Nat) : List (Event (Int × String)) :=
  [.message (uid, "device") objectId [initSync uid objectId], .poll future, .runner runner true, .runner runner true]

end FlowCloud.Tasks
