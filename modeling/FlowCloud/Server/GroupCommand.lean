import FlowCloud.Server.Group

/-! # Running the commands of a group

A runner is selected by an object id `k` and handles a list of messages for it: it creates
the group or subscribes the user, then sends the list into the user's client stream.  The
key and the object ids inside the messages come from the client independently; the last
section says when they keep to one group.
-/

namespace FlowCloud.Server

open FlowCloud.Entity

/-! ## Client streams -/

/-- The receiving end a subscription has of a client stream. -/
structure Channel where
  /-- The object whose messages the channel lets through. -/
  objectId : String
  workspaceId : String
  /-- The object and the document of the group behind the channel. -/
  groupObjectId : String
  collab : Nat
  subscription : Nat
  reading : Bool
  deriving DecidableEq, Repr

/-- The connection of a user: the receivers of its `stream_tx`. -/
structure CollabClientStream where
  channels : List Channel
  deriving DecidableEq, Repr

structure Delivery where
  objectId : String
  collab : Nat
  messages : List ClientCollabMessage
  deriving DecidableEq, Repr

structure Editing where
  objectId : String
  origin : CollabOrigin
  deriving DecidableEq, Repr

section Streams

/-- What a channel lets through of the messages for `objectId`. -/
def Channel.accepted (self : Channel) (access : RealtimeAccessControl) (uid : Int) (objectId : String)
    (messages : List ClientCollabMessage) : List ClientCollabMessage :=
  if self.objectId = objectId then (accessControl self.workspaceId uid self.objectId access messages).1 else []

/-- The group behind a channel takes messages for its own object only. -/
def Channel.deliver (self : Channel) (access : RealtimeAccessControl) (uid : Int) (objectId : String)
    (messages : List ClientCollabMessage) : Option Delivery :=
  let accepted := self.accepted access uid objectId messages
  if accepted.isEmpty || !self.reading || self.groupObjectId ≠ objectId then none
  else some ⟨self.groupObjectId, self.collab, accepted⟩

def Channel.ofSubscription (self : Channel) (sub : Option Subscription) : Bool :=
  sub.map Subscription.number = some self.subscription

def Channel.ofGroup {User : Type} (self : Channel) (group : Option (CollabGroup User)) : Bool :=
  group.map CollabGroup.collab = some self.collab

/-- Some channels are read no more.  They stay in the stream: a send that nobody receives
    does not end the task behind a channel. -/
def CollabClientStream.stop (self : CollabClientStream) (stops : Channel → Bool) : CollabClientStream :=
  ⟨self.channels.map fun channel => { channel with reading := channel.reading && !stops channel }⟩

end Streams

/-! ## The server -/

structure RealtimeServer (User : Type) where
  groups : AllGroup User
  clientStreamByUser : User → Option CollabClientStream
  editCollabByUser : User → List Editing
  subscriptions : Nat

section Server

variable {User : Type} [DecidableEq User] [RealtimeUser User]

def RealtimeServer.stop (self : RealtimeServer User) (stops : Channel → Bool) : RealtimeServer User :=
  { self with clientStreamByUser := fun user => (self.clientStreamByUser user).map fun stream => stream.stop stops }

def RealtimeServer.removeUser (self : RealtimeServer User) (objectId : String) (user : User) : RealtimeServer User :=
  let removed := self.groups.removeUser objectId user
  { self with groups := removed.1 }.stop fun channel => channel.ofSubscription removed.2

/-- `SubscribeGroup::run`: the object id and the origin are those of the message. -/
def RealtimeServer.subscribeGroup (self : RealtimeServer User) (user : User) (collabMessage : ClientCollabMessage) :
    RealtimeServer User :=
  let objectId := collabMessage.objectId
  match self.clientStreamByUser user, self.groups.getGroup objectId with
  | some clientStream, some collabGroup =>
    -- an existing subscription keeps its channel: nothing is sent twice
    if collabGroup.containsUser user then self
    else
      let sub : Subscription := ⟨collabMessage.origin, self.subscriptions⟩
      let channel : Channel :=
        ⟨objectId, collabGroup.workspaceId, collabGroup.objectId, collabGroup.collab, sub.number, true⟩
      let subscribed := self.groups.subscribe objectId user sub
      let stops := fun channel : Channel => channel.ofSubscription subscribed.2
      -- the last user of the device loses its subscription before the new channel starts
      let editing := (self.editCollabByUser user).insert ⟨objectId, collabMessage.origin⟩
      { groups := subscribed.1
        clientStreamByUser :=
          Function.update (self.stop stops).clientStreamByUser user
            (some ⟨(clientStream.stop stops).channels ++ [channel]⟩)
        editCollabByUser := Function.update self.editCollabByUser user editing
        subscriptions := self.subscriptions + 1 }
  | _, _ => self

/-- `GroupCommandRunner::create_group`: the group is created under the object id of the
    message.  A group it takes the place of is dropped with its subscriptions. -/
def RealtimeServer.createGroup (self : RealtimeServer User) (collabMessage : ClientCollabMessage) :
    Except RealtimeError (RealtimeServer User) :=
  match collabMessage with
  | .clientInitSync data =>
    match data.origin.clientUserId with
    | some _ =>
      let groups := self.groups.createGroup data.workspaceId collabMessage.objectId data.collabType
      let replaced := self.groups.getGroup collabMessage.objectId
      .ok ({ self with groups }.stop fun channel => channel.ofGroup replaced)
    | none => .error (.expectInitSync "The client user id is empty")
  | _ => .error (.expectInitSync collabMessage.display)

/-- `broadcast_client_collab_message`: the messages go to every channel of the user's
    stream; a stream without channels is dropped. -/
def RealtimeServer.broadcastClientCollabMessage (self : RealtimeServer User) (access : RealtimeAccessControl)
    (user : User) (objectId : String) (messages : List ClientCollabMessage) :
    RealtimeServer User × List Delivery :=
  match self.clientStreamByUser user with
  | none => (self, [])
  | some stream =>
    let uid := RealtimeUser.uid user
    -- the send fails when the stream has no channel, and the stream is removed
    if stream.channels.isEmpty then
      ({ self with clientStreamByUser := Function.update self.clientStreamByUser user none }, [])
    else (self, stream.channels.filterMap fun channel => channel.deliver access uid objectId messages)

/-- `GroupCommandRunner::handle_collab_message` for the entry `(objectId, messages)`. -/
def RealtimeServer.handleCollabMessage (self : RealtimeServer User) (access : RealtimeAccessControl) (user : User)
    (objectId : String) (messages : List ClientCollabMessage) :
    Except RealtimeError Unit × RealtimeServer User × List Delivery :=
  match messages with
  | [] => (.ok (), self, [])
  | firstMessage :: _ =>
    -- check the client is connected with the websocket server
    if (self.clientStreamByUser user).isNone then (.ok (), self, [])
    else if self.groups.containsGroup objectId then
      -- a second init sync on the same object starts the subscription again
      let server := if firstMessage.isClientInitSync then self.removeUser objectId user else self
      let server := if server.groups.containsUser objectId user then server
        else server.subscribeGroup user firstMessage
      (.ok (), server.broadcastClientCollabMessage access user objectId messages)
    else if firstMessage.isClientInitSync then
      match self.createGroup firstMessage with
      | .error failure => (.error failure, self, [])
      | .ok created =>
        let server := created.subscribeGroup user firstMessage
        (.ok (), server.broadcastClientCollabMessage access user objectId messages)
    -- only an init sync can open a group; anything else is logged and dropped
    else (.ok (), self, [])

/-! ## What the steps do to the groups -/

theorem Channel.deliver_objectId {channel : Channel} {access : RealtimeAccessControl} {uid : Int}
    {objectId : String} {messages : List ClientCollabMessage} {delivery : Delivery}
    (delivered : channel.deliver access uid objectId messages = some delivery) : delivery.objectId = objectId := by
  rw [Channel.deliver] at delivered
  split at delivered
  · cases delivered
  · rename_i passes
    cases delivered
    simp at passes
    exact passes.2

theorem RealtimeServer.broadcast_groups (self : RealtimeServer User) (access : RealtimeAccessControl) (user : User)
    (objectId : String) (messages : List ClientCollabMessage) :
    (self.broadcastClientCollabMessage access user objectId messages).1.groups = self.groups := by
  rw [RealtimeServer.broadcastClientCollabMessage]
  split
  · rfl
  · simp only
    split <;> rfl

theorem RealtimeServer.broadcast_delivered {self : RealtimeServer User} {access : RealtimeAccessControl}
    {user : User} {objectId : String} {messages : List ClientCollabMessage} {delivery : Delivery}
    (delivered : delivery ∈ (self.broadcastClientCollabMessage access user objectId messages).2) :
    delivery.objectId = objectId := by
  rw [RealtimeServer.broadcastClientCollabMessage] at delivered
  split at delivered
  · cases delivered
  simp only at delivered
  split at delivered
  · cases delivered
  · obtain ⟨channel, _, passed⟩ := List.mem_filterMap.mp delivered
    exact Channel.deliver_objectId passed

theorem RealtimeServer.subscribeGroup_other (self : RealtimeServer User) (user : User)
    (message : ClientCollabMessage) {other : String} (different : other ≠ message.objectId) :
    (self.subscribeGroup user message).groups.getGroup other = self.groups.getGroup other := by
  rw [RealtimeServer.subscribeGroup]
  split
  · split
    · rfl
    · exact self.groups.subscribe_other user _ different
  · rfl

theorem RealtimeServer.subscribeGroup_collab {self : RealtimeServer User} {user : User}
    {message : ClientCollabMessage}
    {group : CollabGroup User} (found : self.groups.getGroup message.objectId = some group) :
    ∃ changed, (self.subscribeGroup user message).groups.getGroup message.objectId = some changed ∧
      changed.collab = group.collab := by
  rw [RealtimeServer.subscribeGroup, found]
  split
  · rename_i stream collabGroup _ same
    obtain rfl := Option.some.inj same
    split
    · exact ⟨group, found, rfl⟩
    · exact ⟨_, AllGroup.subscribe_found found _ _, group.subscribe_collab _ _⟩
  · exact ⟨group, found, rfl⟩

/-- It leaves even that group alone when the user is not connected, when there is no such
    group, and when the user is a subscriber already. -/
theorem RealtimeServer.subscribeGroup_unchanged_iff (self : RealtimeServer User) (user : User)
    (message : ClientCollabMessage) (connected : (self.clientStreamByUser user).isSome = true) :
    (self.subscribeGroup user message).groups.getGroup message.objectId = self.groups.getGroup message.objectId ↔
      self.groups.containsGroup message.objectId = false ∨
        self.groups.containsUser message.objectId user = true := by
  obtain ⟨stream, found⟩ := Option.isSome_iff_exists.mp connected
  rw [RealtimeServer.subscribeGroup, AllGroup.containsGroup, AllGroup.containsUser, found]
  cases present : self.groups.getGroup message.objectId with
  | none => simp [present]
  | some group =>
    cases contained : group.containsUser user with
    | true => simp [contained, present]
    | false =>
      simp only [contained, Bool.false_eq_true, if_false, Option.isSome_some, reduceCtorEq, or_false, iff_false]
      rw [AllGroup.subscribe_found present]
      intro same
      have subscribed := group.containsUser_subscribe user ⟨message.origin, self.subscriptions⟩
      rw [Option.some.inj same, contained] at subscribed
      cases subscribed

/-! ## Keeping to one group -/

/-- Handling an entry for `objectId` created, replaced, subscribed to or removed a
    subscriber from no other group, and delivered messages to no other group. -/
structure KeepsToGroup (objectId : String) (before after : RealtimeServer User) (deliveries : List Delivery) :
    Prop where
  others : ∀ other, other ≠ objectId → after.groups.getGroup other = before.groups.getGroup other
  delivered : ∀ delivery ∈ deliveries, delivery.objectId = objectId

/-- The branches that act on the first message's own object are not taken for another one:
    the user is not connected, or the group of the key exists and either the user stays
    subscribed to it or has nothing to subscribe to elsewhere, or there is no group of the
    key and none is created. -/
def RealtimeServer.StaysWithKey (self : RealtimeServer User) (user : User) (objectId : String) :
    List ClientCollabMessage → Prop
  | [] => True
  | firstMessage :: _ =>
    firstMessage.objectId = objectId ∨ (self.clientStreamByUser user).isNone = true ∨
      if self.groups.containsGroup objectId then
        (self.groups.containsUser objectId user = true ∧ firstMessage.isClientInitSync = false) ∨
          self.groups.containsGroup firstMessage.objectId = false ∨
          self.groups.containsUser firstMessage.objectId user = true
      else firstMessage.isClientInitSync = false ∨ firstMessage.origin.clientUserId = none

omit [RealtimeUser User] in
theorem RealtimeServer.removeUser_connected (self : RealtimeServer User) (objectId : String) (user : User) :
    ((self.removeUser objectId user).clientStreamByUser user).isSome = (self.clientStreamByUser user).isSome := by
  simp [RealtimeServer.removeUser, RealtimeServer.stop]

omit [RealtimeUser User] in
theorem RealtimeServer.removeUser_other (self : RealtimeServer User) {objectId other : String} (user : User)
    (different : other ≠ objectId) :
    (self.removeUser objectId user).groups.getGroup other = self.groups.getGroup other :=
  self.groups.removeUser_other user different

/-- Broadcasting at the end neither changes a group nor delivers elsewhere, so only the
    groups before it matter. -/
theorem keepsToGroup_broadcast {before server : RealtimeServer User} (access : RealtimeAccessControl) (user : User)
    (objectId : String) (messages : List ClientCollabMessage) :
    KeepsToGroup objectId before (server.broadcastClientCollabMessage access user objectId messages).1
        (server.broadcastClientCollabMessage access user objectId messages).2 ↔
      ∀ other, other ≠ objectId → server.groups.getGroup other = before.groups.getGroup other := by
  constructor
  · intro keeps other different
    rw [← keeps.others other different, RealtimeServer.broadcast_groups]
  · refine fun others => ⟨fun other different => ?_, fun _ delivered => RealtimeServer.broadcast_delivered delivered⟩
    rw [RealtimeServer.broadcast_groups, others other different]

/-- Subscribing to another object's group keeps to the key's group exactly when it changes
    nothing. -/
theorem subscribeGroup_keeps_iff {before server : RealtimeServer User} {user : User} {objectId : String}
    {message : ClientCollabMessage}
    (same : ∀ other, other ≠ objectId → server.groups.getGroup other = before.groups.getGroup other)
    (connected : (server.clientStreamByUser user).isSome = true) (foreign : message.objectId ≠ objectId) :
    (∀ other, other ≠ objectId →
        (server.subscribeGroup user message).groups.getGroup other = before.groups.getGroup other) ↔
      before.groups.containsGroup message.objectId = false ∨
        before.groups.containsUser message.objectId user = true := by
  have unchanged := server.subscribeGroup_unchanged_iff user message connected
  rw [AllGroup.containsGroup, AllGroup.containsUser, same _ foreign] at unchanged
  rw [AllGroup.containsGroup, AllGroup.containsUser, ← unchanged]
  constructor
  · exact fun keeps => keeps _ foreign
  · intro here other different
    by_cases own : other = message.objectId
    · rw [own, here]
    · rw [server.subscribeGroup_other user message own, same other different]

/-- A new group keeps to the key's group only when it is the key's. -/
theorem createGroup_keeps_iff {server created : RealtimeServer User} {user : User} {objectId : String}
    {message : ClientCollabMessage} (success : server.createGroup message = .ok created) :
    (∀ other, other ≠ objectId →
        (created.subscribeGroup user message).groups.getGroup other = server.groups.getGroup other) ↔
      message.objectId = objectId := by
  obtain ⟨workspaceId, collabType, groups⟩ : ∃ workspaceId collabType,
      created.groups = server.groups.createGroup workspaceId message.objectId collabType := by
    cases message with
    | clientUpdateSync | serverInitSync | clientAwarenessSync => cases success
    | clientInitSync data =>
      cases sender : data.origin.clientUserId with
      | none => simp [RealtimeServer.createGroup, sender] at success
      | some uid =>
        simp only [RealtimeServer.createGroup, sender, Except.ok.injEq] at success
        subst success
        exact ⟨_, _, rfl⟩
  constructor
  · intro keeps
    -- otherwise the group of the message's object holds the new document
    by_contra foreign
    have found : created.groups.getGroup message.objectId =
        some (.new workspaceId message.objectId collabType server.groups.created) := by
      rw [groups, AllGroup.createGroup_found]
    have subscribed : ∃ group, (created.subscribeGroup user message).groups.getGroup message.objectId = some group ∧
        group.collab = server.groups.created := RealtimeServer.subscribeGroup_collab found
    obtain ⟨group, present, fresh⟩ := subscribed
    rw [keeps _ foreign] at present
    -- a group of before would have an older document
    have old := server.groups.known _ group present
    rw [fresh] at old
    exact absurd old (Nat.lt_irrefl _)
  · rintro rfl other different
    rw [RealtimeServer.subscribeGroup_other _ _ _ different, groups, AllGroup.createGroup_other _ _ _ different]

omit [DecidableEq User] [RealtimeUser User] in
/-- An init sync creates a group just when its origin is a client. -/
theorem createGroup_initSync (server : RealtimeServer User) {message : ClientCollabMessage}
    (initSync : message.isClientInitSync = true) :
    (∃ created, server.createGroup message = .ok created ∧ message.origin.clientUserId ≠ none) ∨
      (∃ failure, server.createGroup message = .error failure ∧ message.origin.clientUserId = none) := by
  cases message with
  | clientUpdateSync | serverInitSync | clientAwarenessSync => cases initSync
  | clientInitSync data =>
    rw [RealtimeServer.createGroup, ClientCollabMessage.origin]
    cases sender : data.origin.clientUserId with
    | none => exact .inr ⟨_, rfl, rfl⟩
    | some uid => exact .inl ⟨_, rfl, Option.some_ne_none uid⟩

theorem existingGroup_keeps_iff {server : RealtimeServer User} (user : User) (objectId : String)
    (first : ClientCollabMessage) (connected : (server.clientStreamByUser user).isSome = true) :
    let cleared := if first.isClientInitSync then server.removeUser objectId user else server
    let subscribed := if cleared.groups.containsUser objectId user then cleared else cleared.subscribeGroup user first
    (∀ other, other ≠ objectId → subscribed.groups.getGroup other = server.groups.getGroup other) ↔
      first.objectId = objectId ∨
        (server.groups.containsUser objectId user = true ∧ first.isClientInitSync = false) ∨
        server.groups.containsGroup first.objectId = false ∨
        server.groups.containsUser first.objectId user = true := by
  intro cleared subscribed
  -- clearing an old subscription of the key touches the key's group only
  have same : ∀ other, other ≠ objectId → cleared.groups.getGroup other = server.groups.getGroup other := by
    intro other different
    change (if first.isClientInitSync then server.removeUser objectId user else server).groups.getGroup other = _
    split
    · exact server.removeUser_other user different
    · rfl
  have stillConnected : (cleared.clientStreamByUser user).isSome = true := by
    change
      ((if first.isClientInitSync then server.removeUser objectId user else server).clientStreamByUser user).isSome = _
    split
    · rw [RealtimeServer.removeUser_connected, connected]
    · exact connected
  -- so the user needs to subscribe again unless he stays subscribed
  have contained : cleared.groups.containsUser objectId user = true ↔
      server.groups.containsUser objectId user = true ∧ first.isClientInitSync = false := by
    change
      (if first.isClientInitSync then server.removeUser objectId user else server).groups.containsUser _ _ = _ ↔ _
    cases first.isClientInitSync with
    | false => simp
    | true =>
      have removed : (server.removeUser objectId user).groups.containsUser objectId user = false :=
        server.groups.removeUser_containsUser objectId user
      simp [removed]
  by_cases own : first.objectId = objectId
  · refine iff_of_true (fun other different => ?_) (.inl own)
    change
      (if cleared.groups.containsUser objectId user then cleared else cleared.subscribeGroup user first).groups.getGroup
      other = _
    split
    · exact same other different
    · rw [cleared.subscribeGroup_other user first (own ▸ different), same other different]
  · by_cases here : cleared.groups.containsUser objectId user = true
    · have unchanged : subscribed = cleared := if_pos here
      rw [unchanged]
      exact iff_of_true same (.inr (.inl (contained.mp here)))
    · have subscribes : subscribed = cleared.subscribeGroup user first := if_neg here
      rw [subscribes, subscribeGroup_keeps_iff same stillConnected own]
      rw [contained] at here
      simp only [own, here, false_or]

/-- An entry keeps to its group exactly when the object id of its first message is the key
    or the code takes no branch that acts on that id. -/
theorem handleCollabMessage_keeps_iff (server : RealtimeServer User) (access : RealtimeAccessControl) (user : User)
    (objectId : String) (messages : List ClientCollabMessage) :
    KeepsToGroup objectId server (server.handleCollabMessage access user objectId messages).2.1
        (server.handleCollabMessage access user objectId messages).2.2 ↔
      server.StaysWithKey user objectId messages := by
  -- the branches that stop early change and deliver nothing
  have idle : KeepsToGroup objectId server server [] := ⟨fun _ _ => rfl, fun _ none => by cases none⟩
  cases messages with
  | nil => exact iff_of_true idle trivial
  | cons first rest =>
    rw [RealtimeServer.StaysWithKey, RealtimeServer.handleCollabMessage]
    cases connection : server.clientStreamByUser user with
    | none => simpa using idle
    | some stream =>
      have connected : (server.clientStreamByUser user).isSome = true := by rw [connection, Option.isSome_some]
      simp only [Option.isNone_some, Bool.false_eq_true, if_false, false_or]
      cases existing : server.groups.containsGroup objectId with
      | true =>
        simp only [if_true]
        rw [keepsToGroup_broadcast]
        exact existingGroup_keeps_iff user objectId first connected
      | false =>
        simp only [Bool.false_eq_true, if_false]
        cases initSync : first.isClientInitSync with
        | false => simpa using idle
        | true =>
          simp only [if_true, reduceCtorEq, false_or]
          cases createGroup_initSync server initSync with
          | inl held =>
            obtain ⟨created, success, sender⟩ := held
            simp only [success]
            rw [keepsToGroup_broadcast, createGroup_keeps_iff success]
            simp only [sender, or_false]
          | inr held =>
            obtain ⟨failure, failed, anonymous⟩ := held
            simp only [failed]
            exact iff_of_true idle (.inr anonymous)

end Server

instance : RealtimeUser (Int × String) where
  uid := Prod.fst
  deviceId := Prod.snd

def connectedServer : RealtimeServer (Int × String) where
  groups := ⟨fun _ => none, 0, fun _ _ absent => by cases absent⟩
  clientStreamByUser := fun _ => some ⟨[]⟩
  editCollabByUser := fun _ => []
  subscriptions := 0

/-- Under the key `a` an init sync about `b` creates the group of `b`. -/
theorem handleCollabMessage_creates_foreign_group :
    ¬ ∀ (server : RealtimeServer (Int × String)) (access : RealtimeAccessControl) (user : Int × String)
        (objectId : String) (messages : List ClientCollabMessage),
      KeepsToGroup objectId server (server.handleCollabMessage access user objectId messages).2.1
        (server.handleCollabMessage access user objectId messages).2.2 := by
  intro keeps
  have untouched := (keeps connectedServer readerAccess (1, "phone") "a"
    [.clientInitSync ⟨.client 1 "phone", "b", .document, "w", 0, []⟩]).others "b" (by decide)
  exact absurd (congrArg Option.isSome untouched) (by decide)

end FlowCloud.Server
