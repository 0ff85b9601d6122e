import FlowCloud.Sync.Room

/-! # Clients that are done agree

When a client has nothing to send or to process and nothing is on its way to it, its document
is the one of the group.  What it takes is that nothing is dropped: no merge loses an update,
no forwarding task lags, and a subscription is not renewed over broadcasts that the client
has not been sent.
-/

namespace FlowCloud.Sync

open FlowCloud.Foundation FlowCloud.Entity FlowCloud.Protocol FlowCloud.Client FlowCloud.Server

variable {Op StateVector AwarenessUpdate : Type} [DecidableEq Op]

/-! ## What the observer hears -/

/-- The content after the changes of a list. -/
def withChanges (changes : List (CollabOrigin × Finset Op)) (content : Finset Op) : Finset Op :=
  changes.foldl (fun content change => content ∪ change.2) content

theorem subset_withChanges (changes : List (CollabOrigin × Finset Op)) (content : Finset Op) :
    content ⊆ withChanges changes content := by
  induction changes generalizing content with
  | nil => exact Finset.Subset.refl _
  | cons change changes inductionHypothesis =>
    exact Finset.Subset.trans Finset.subset_union_left (inductionHypothesis (content ∪ change.2))

/-- The changes that a collab went through, each from the origin and with the given operations
    at most. -/
structure Observes (origin : CollabOrigin) (ops : Finset Op) (before after : Collab Op AwarenessUpdate)
    (changes : List (CollabOrigin × Finset Op)) : Prop where
  observed : after.observed = before.observed ++ changes
  content : after.content = withChanges changes before.content
  own : ∀ change ∈ changes, change.1 = origin
  within : ∀ change ∈ changes, change.2 ⊆ ops

section Observed

variable {yrs : Yrs Op StateVector AwarenessUpdate} {origin : CollabOrigin} {ops : Finset Op}
variable {collab : Collab Op AwarenessUpdate}

omit [DecidableEq Op] in
theorem Observes.none [DecidableEq Op] {after : Collab Op AwarenessUpdate} (content : after.content = collab.content)
    (observed : after.observed = collab.observed) : Observes origin ops collab after [] where
  observed := by rw [observed, List.append_nil]
  content := content
  own := List.forall_mem_nil _
  within := List.forall_mem_nil _

theorem Observes.append {middle after : Collab Op AwarenessUpdate} {first second : List (CollabOrigin × Finset Op)}
    (before : Observes origin ops collab middle first) (later : Observes origin ops middle after second) :
    Observes origin ops collab after (first ++ second) where
  observed := by rw [later.observed, before.observed, List.append_assoc]
  content := by rw [later.content, before.content, withChanges, withChanges, withChanges, List.foldl_append]
  own := List.forall_mem_append.mpr ⟨before.own, later.own⟩
  within := List.forall_mem_append.mpr ⟨before.within, later.within⟩

theorem handleSyncStep2_observes (transactions : Transactions) {update : Finset Op} (within : update ⊆ ops) :
    ∃ changes, Observes origin ops collab (handleSyncStep2 yrs transactions origin collab update).2 changes := by
  rw [handleSyncStep2]
  cases transactions.write with
  | error message => exact ⟨[], .none rfl rfl⟩
  | ok opened =>
    cases applied : yrs.tryApplyUpdate collab.content update with
    | error message => exact ⟨[], .none rfl rfl⟩
    | ok content =>
      cases Decidable.em (content = collab.content) with
      | inl same => exact ⟨[], .none same (if_pos same)⟩
      | inr changed =>
        refine ⟨[(origin, update)], if_neg changed, ?_, List.forall_mem_singleton.mpr rfl,
          List.forall_mem_singleton.mpr within⟩
        exact yrs.apply_union _ _ _ applied

theorem handleCollabMessage_observes (transactions : Transactions)
    (protocol : CollabSyncProtocol Op StateVector AwarenessUpdate) {msg : Message StateVector AwarenessUpdate}
    (within : ∀ data, msg.carriedUpdate = some data → updateOps yrs data ⊆ ops) :
    ∃ changes, Observes origin ops collab (handleCollabMessage yrs transactions origin protocol collab msg).2
      changes := by
  have decoded {data : Bytes} {update : Finset Op} (carried : msg.carriedUpdate = some data)
      (decodes : yrs.decodeUpdate data = .ok update) : update ⊆ ops := by
    have inside := within data carried
    rwa [updateOps, decodes] at inside
  cases msg with
  | auth reason => exact ⟨[], .none rfl rfl⟩
  | custom msg => exact ⟨[], .none rfl rfl⟩
  | awareness update =>
    rw [handleCollabMessage, handleAwarenessUpdate]
    cases yrs.applyAwareness collab.awareness update <;> exact ⟨[], .none rfl rfl⟩
  | sync msg =>
    cases msg with
    | syncStep1 stateVector => exact ⟨[], .none rfl rfl⟩
    | syncStep2 data | update data =>
      rw [handleCollabMessage]
      cases decodes : yrs.decodeUpdate data with
      | error failure => exact ⟨[], .none rfl rfl⟩
      | ok update => exact handleSyncStep2_observes transactions (decoded rfl decodes)

variable (yrs) in
/-- The changes that handling a copy makes are those that it carries. -/
theorem handle_observes (environment : Nat → Moment) (objectId : String) (copy : ClientCollabMessage)
    (server : Collab Op AwarenessUpdate) :
    ∃ changes, Observes copy.origin (carriedOps yrs (MessageReader.read yrs.codec copy.payload).messages) server
      (handleClientCollabMessage yrs environment objectId copy server).collab changes := by
  let carried := carriedOps yrs (MessageReader.read yrs.codec copy.payload).messages
  have within : Always (handleMessage yrs objectId copy)
      (fun _ msg => ∀ data, msg.1.carriedUpdate = some data → updateOps yrs data ⊆ carried) ⟨server, []⟩
      ((MessageReader.read yrs.codec copy.payload).messages.zipIdx.map
        fun message => (message.1, environment message.2)) := by
    refine .of_forall fun msg member data carries => ?_
    obtain ⟨indexed, inside, rfl⟩ := List.mem_map.mp member
    exact updateOps_subset_carriedOps yrs (List.fst_mem_of_mem_zipIdx inside) carries
  have preserved : ∀ (state : Handling Op AwarenessUpdate) (msg : Message StateVector AwarenessUpdate × Moment),
      (∃ changes, Observes copy.origin carried server state.collab changes) →
        (∀ data, msg.1.carriedUpdate = some data → updateOps yrs data ⊆ carried) →
          ∃ changes, Observes copy.origin carried server (handleMessage yrs objectId copy state msg).collab
            changes := by
    rintro state msg ⟨changes, before⟩ inside
    rw [handleMessage_collab]
    split
    · obtain ⟨added, later⟩ := handleCollabMessage_observes msg.2.transactions (ServerSyncProtocol yrs) inside
      exact ⟨changes ++ added, before.append later⟩
    · exact ⟨changes, before⟩
  exact within.invariant preserved ⟨[], .none rfl rfl⟩

end Observed

/-! ## Broadcasts -/

section Broadcasts

variable (yrs : Yrs Op StateVector AwarenessUpdate)

def Brings (message : CollabMessage) (op : Op) : Prop :=
  ∃ msg, ServerCollabMessage.tryFrom message = .ok msg ∧
    op ∈ carriedOps yrs (MessageReader.read yrs.codec msg.payload).messages

/-- A message for every subscriber, which brings what the document has. -/
def IsBroadcast (content : Finset Op) (message : CollabMessage) : Prop :=
  ∃ msg, ServerCollabMessage.tryFrom message = .ok msg ∧ msg.msgId = none ∧ ∀ origin, Fit yrs origin content msg

/-- What the observer sends for a list of changes. -/
structure Announces (changes : List (CollabOrigin × Finset Op)) (before after : Finset Op)
    (messages : List CollabMessage) : Prop where
  broadcasts : ∀ message ∈ messages, IsBroadcast yrs after message
  covers : ∀ op ∈ after, op ∈ before ∨ ∃ message ∈ messages, Brings yrs message op
  caused : ∀ message ∈ messages, ∃ change ∈ changes, message.origin = change.1 ∧
    ∀ op, Brings yrs message op → op ∈ change.2

variable {yrs}

theorem IsBroadcast.mono {content later : Finset Op} {message : CollabMessage}
    (broadcast : IsBroadcast yrs content message) (grows : content ⊆ later) : IsBroadcast yrs later message := by
  obtain ⟨msg, sent, unnumbered, fit⟩ := broadcast
  exact ⟨msg, sent, unnumbered, fun origin => (fit origin).mono grows⟩

/-- The broadcasts of the changes bring everything that is new. -/
theorem announce_announces {eventUpdate : Finset Op → Bytes}
    (written : ∀ ops, yrs.decodeUpdate (eventUpdate ops) = .ok ops) (object : SyncObject)
    (changes : List (CollabOrigin × Finset Op)) (content : Finset Op)
    (group : CollabBroadcast × BroadcastChannel CollabMessage) :
    ∃ messages, (announce yrs eventUpdate object changes content group).2 =
        { group.2 with sent := group.2.sent ++ messages } ∧
      Announces yrs changes content (withChanges changes content) messages := by
  induction changes generalizing content group with
  | nil =>
    refine ⟨[], by rw [List.append_nil]; rfl, List.forall_mem_nil _, fun op has => .inl has, List.forall_mem_nil _⟩
  | cons change changes inductionHypothesis =>
    obtain ⟨origin, update⟩ := change
    obtain ⟨broadcast, sender⟩ := group
    let payload := genUpdateMessage yrs.codec (eventUpdate (update \ content))
    let data := (broadcast.observeUpdate object.objectId origin payload).1
    obtain ⟨messages, sent, announces⟩ := inductionHypothesis (content ∪ update)
      ((broadcast.observeUpdate object.objectId origin payload).2, sender.send (.serverBroadcast data))
    have grows : update \ content ⊆ withChanges changes (content ∪ update) :=
      Finset.Subset.trans (Finset.Subset.trans Finset.sdiff_subset Finset.subset_union_right)
        (subset_withChanges changes (content ∪ update))
    have encoded : data.payload = updatePayload yrs (eventUpdate (update \ content)) := genUpdateMessage_eq _ _
    have carried : carriedOps yrs (MessageReader.read yrs.codec data.payload).messages = update \ content := by
      rw [encoded, carriedOps_updatePayload, updateOps, written]
    have first : IsBroadcast yrs (withChanges changes (content ∪ update)) (.serverBroadcast data) :=
      ⟨.serverBroadcast data, rfl, rfl, fun _ => fit_update encoded (written _) grows⟩
    refine ⟨.serverBroadcast data :: messages, ?_, List.forall_mem_cons.mpr ⟨first, announces.broadcasts⟩, ?_, ?_⟩
    · rw [announce, sent, BroadcastChannel.send, List.append_assoc]
      rfl
    · intro op has
      rcases announces.covers op has with before | ⟨message, member, carries⟩
      · cases Decidable.em (op ∈ content) with
        | inl old => exact .inl old
        | inr new =>
          refine .inr ⟨.serverBroadcast data, .head _, .serverBroadcast data, rfl, ?_⟩
          rw [ServerCollabMessage.payload, carried]
          exact Finset.mem_sdiff.mpr ⟨(Finset.mem_union.mp before).resolve_left new, new⟩
      · exact .inr ⟨message, .tail _ member, carries⟩
    · refine List.forall_mem_cons.mpr ⟨⟨(origin, update), .head _, rfl, ?_⟩, ?_⟩
      · rintro op ⟨msg, same, member⟩
        cases same
        rw [ServerCollabMessage.payload, carried] at member
        exact (Finset.mem_sdiff.mp member).1
      · intro message member
        obtain ⟨change, inside, caused⟩ := announces.caused message member
        exact ⟨change, .tail _ inside, caused⟩

end Broadcasts

/-! ## One client -/

section Linked

variable (yrs : Yrs Op StateVector AwarenessUpdate)

/-- The operation comes to the client, from the stream or from its subscription at last. -/
def Reaches (origin : CollabOrigin) (server : Collab Op AwarenessUpdate) (sender : BroadcastChannel CollabMessage)
    (seat : Seat Op AwarenessUpdate) (op : Op) : Prop :=
  Arrives yrs (seat.exchange server) op ∨ (∃ message ∈ seat.stream, Brings yrs message op) ∨
    ∃ task ∈ seat.subscription, ∃ message ∈ sender.unread task.receiver.next,
      message.origin ≠ origin ∧ Brings yrs message op

/-- A subscription of the client that has missed nothing of the channel yet. -/
structure SinkTask.Live (origin : CollabOrigin) (sender : BroadcastChannel CollabMessage) (task : SinkTask) : Prop where
  own : task.subscriberOrigin = origin
  running : task.receiver.running = true
  joined : task.receiver.next ≤ sender.sent.length

def HasInitSync (sink : CollabSink) : Prop := ∃ item ∈ sink.messageQueue, item.inner.isClientInitSync = true

/-- A client of the group, while it is connected: what it has is sent and what the group has
    comes. -/
structure Linked (origin : CollabOrigin) (server : Collab Op AwarenessUpdate) (sender : BroadcastChannel CollabMessage)
    (seat : Seat Op AwarenessUpdate) : Prop where
  honest : Honest yrs origin (seat.exchange server)
  sends : seat.connected = true → ∀ op ∈ seat.client.collab.content, Sends yrs (seat.exchange server) op
  reaches : seat.connected = true → ∀ op ∈ server.content, Reaches yrs origin server sender seat op
  subscribed : ∀ task ∈ seat.subscription, task.Live origin sender
  /-- Before a client is subscribed its init sync has not been answered. -/
  unsubscribed : seat.subscription = none → seat.acks = [] ∧ (seat.connected = true → HasInitSync seat.client.sink)
  stream : seat.stream ⊆ sender.sent
  /-- The client's own changes are in its document already. -/
  echoes : ∀ message ∈ sender.sent, message.origin = origin →
    ∀ op, Brings yrs message op → op ∈ seat.client.collab.content

variable {yrs} {origin : CollabOrigin} {server after : Collab Op AwarenessUpdate}
variable {sender : BroadcastChannel CollabMessage} {seat next : Seat Op AwarenessUpdate} {op : Op}

/-- An init sync that was not answered brings everything. -/
theorem awaits_of_unacked {system : Exchange Op AwarenessUpdate} (queued : ∃ item ∈ system.client.sink.messageQueue,
    item.inner.isClientInitSync = true ∧ ∀ ack ∈ system.acks, ack.source.msgId ≠ item.msgId) (op : Op) :
    Awaits yrs system op := by
  obtain ⟨item, member, init, unacked⟩ := queued
  exact ⟨item, member, init, fun ack given same => absurd same (unacked ack given)⟩

def extended (sender : BroadcastChannel CollabMessage) (messages : List CollabMessage) : BroadcastChannel CollabMessage :=
  { sender with sent := sender.sent ++ messages }

theorem unread_extended {position : Nat} (joined : position ≤ sender.sent.length) (messages : List CollabMessage) :
    (extended sender messages).unread position = sender.unread position ++ messages :=
  List.drop_append_of_le_length joined

theorem SinkTask.Live.extended {task : SinkTask} (live : task.Live origin sender) (messages : List CollabMessage) :
    task.Live origin (extended sender messages) := by
  refine ⟨live.own, live.running, Nat.le_trans live.joined ?_⟩
  simp [Sync.extended]

/-- The client has taken a step of its own, and the group has sent broadcasts of all that is
    new in its document. -/
theorem Linked.advance (linked : Linked yrs origin server sender seat)
    (advances : Advances yrs origin (seat.exchange server) (next.exchange after))
    (connected : next.connected = seat.connected) (subscription : next.subscription = seat.subscription)
    (acks : seat.subscription = none → next.acks = seat.acks) (stream : next.stream ⊆ seat.stream)
    (received : ∀ message ∈ seat.stream, message ∈ next.stream ∨
      ∀ op, Brings yrs message op → Arrives yrs (next.exchange after) op)
    {messages : List CollabMessage}
    (covers : ∀ op ∈ after.content, op ∈ server.content ∨ ∃ message ∈ messages, Brings yrs message op)
    (echoes : ∀ message ∈ messages, message.origin = origin →
      ∀ op, Brings yrs message op → op ∈ seat.client.collab.content) :
    Linked yrs origin after (extended sender messages) next where
  honest := advances.honest
  sends isConnected := advances.sends (linked.sends (connected ▸ isConnected))
  reaches := by
    intro isConnected op has
    rw [connected] at isConnected
    rcases covers op has with before | ⟨message, member, carries⟩
    · rcases linked.reaches isConnected op before with arrives | ⟨message, member, carries⟩ | unread
      · exact .inl (advances.arrives op before arrives)
      · cases received message member with
        | inl stays => exact .inr (.inl ⟨message, stays, carries⟩)
        | inr arrives => exact .inl (arrives op carries)
      · obtain ⟨task, live, message, member, foreign, carries⟩ := unread
        refine .inr (.inr ⟨task, subscription ▸ live, message, ?_, foreign, carries⟩)
        rw [unread_extended (linked.subscribed task live).joined]
        exact List.mem_append_left _ member
    · cases subscribed : seat.subscription with
      | none =>
        -- the init sync of a client without a subscription was not answered
        obtain ⟨none, queued⟩ := linked.unsubscribed subscribed
        obtain ⟨item, inside, init⟩ := advances.opened none (queued isConnected)
        refine .inl (.inr (.inr (awaits_of_unacked ⟨item, inside, init, ?_⟩ op)))
        intro ack given
        have empty : next.acks = [] := (acks subscribed).trans none
        rw [Seat.exchange, empty] at given
        cases given
      | some task =>
        cases Decidable.em (message.origin = origin) with
        | inl own => exact .inl (.inl (advances.keeps (echoes message member own op carries)))
        | inr foreign =>
          refine .inr (.inr ⟨task, subscription.trans subscribed, message, ?_, foreign, carries⟩)
          rw [unread_extended (linked.subscribed task subscribed).joined]
          exact List.mem_append_right _ member
  subscribed := by
    rw [subscription]
    exact fun task live => (linked.subscribed task live).extended messages
  unsubscribed := by
    rw [subscription, connected]
    intro unsubscribed
    obtain ⟨none, queued⟩ := linked.unsubscribed unsubscribed
    exact ⟨(acks unsubscribed).trans none, fun isConnected => advances.opened none (queued isConnected)⟩
  stream := by
    intro message member
    exact List.mem_append_left _ (linked.stream (stream member))
  echoes := by
    intro message member own op carries
    cases List.mem_append.mp member with
    | inl before => exact advances.keeps (linked.echoes message before own op carries)
    | inr sent => exact advances.keeps (echoes message sent own op carries)

/-! ## Connections and subscriptions -/

theorem Linked.disconnect (linked : Linked yrs origin server sender seat) :
    Linked yrs origin server sender seat.disconnect where
  honest := ⟨linked.honest.sink, List.forall_mem_nil _, linked.honest.processing⟩
  sends := by rintro ⟨⟩
  reaches := by rintro ⟨⟩
  subscribed := by rintro task ⟨⟩
  unsubscribed _ := ⟨rfl, by rintro ⟨⟩⟩
  stream := List.nil_subset _
  echoes := linked.echoes

/-- With an init sync in its queue the client sends and awaits everything. -/
theorem Linked.connect (linked : Linked yrs origin server sender seat) {moment : SyncMoment} {object : SyncObject}
    (started : (docInitState yrs moment seat.client.collab).isSome = true)
    (onward : seat.client.sink.msgIdCounter ≤
      (initSync yrs moment origin object seat.client.collab seat.client.sink).msgIdCounter) :
    Linked yrs origin server sender { seat with
      connected := true
      client := { seat.client with sink := initSync yrs moment origin object seat.client.collab seat.client.sink } } := by
  obtain ⟨payload, start⟩ := Option.isSome_iff_exists.mp started
  obtain ⟨item, member, init, new⟩ : ∃ item ∈
      (initSync yrs moment origin object seat.client.collab seat.client.sink).messageQueue,
        item.inner.isClientInitSync = true ∧ item.msgId = seat.client.sink.msgIdCounter := by
    rw [initSync, start]
    exact ⟨_, .head _, rfl, rfl⟩
  let opened : Seat Op AwarenessUpdate := { seat with
    connected := true
    client := { seat.client with sink := initSync yrs moment origin object seat.client.collab seat.client.sink } }
  have change : SinkChange (seat.exchange server) (opened.exchange server) :=
    ⟨rfl, rfl, rfl, rfl, List.Subset.refl _⟩
  have advances : Advances yrs origin (seat.exchange server) (opened.exchange server) :=
    .initSync linked.honest change rfl rfl onward
  have unacked (ack : CollabAck) (given : ack ∈ seat.acks) : ack.source.msgId ≠ item.msgId := by
    rw [new]
    exact Nat.ne_of_lt (linked.honest.unacked given)
  constructor
  · exact advances.honest
  · exact fun _ op _ => .inr (.inl ⟨item, member, .inl init⟩)
  · exact fun _ op _ => .inl (.inr (.inr (awaits_of_unacked ⟨item, member, init, unacked⟩ op)))
  · exact linked.subscribed
  · exact fun unsubscribed => ⟨(linked.unsubscribed unsubscribed).1, fun _ => ⟨item, member, init⟩⟩
  · exact linked.stream
  · exact linked.echoes

/-- No broadcast waits for the subscription that ends, or the client's init sync is still to
    be answered. -/
def NothingDropped (sender : BroadcastChannel CollabMessage) (seat : Seat Op AwarenessUpdate) : Prop :=
  ∀ task ∈ seat.subscription, sender.unread task.receiver.next = [] ∨
    ∃ item ∈ seat.client.sink.messageQueue, item.inner.isClientInitSync = true ∧
      ∀ ack ∈ seat.acks, ack.source.msgId ≠ item.msgId

instance (sender : BroadcastChannel CollabMessage) (seat : Seat Op AwarenessUpdate) :
    Decidable (NothingDropped sender seat) :=
  inferInstanceAs (Decidable (∀ task ∈ _, _ ∨ _))

theorem Linked.removeUser (linked : Linked yrs origin server sender seat) (dropped : NothingDropped sender seat)
    (isConnected : seat.connected = true) (op : Op) (has : op ∈ server.content) :
    Arrives yrs (seat.exchange server) op ∨ ∃ message ∈ seat.stream, Brings yrs message op := by
  rcases linked.reaches isConnected op has with arrives | passed | ⟨task, live, message, waiting, _⟩
  · exact .inl arrives
  · exact .inr passed
  · cases dropped task live with
    | inl nothing =>
      rw [nothing] at waiting
      cases waiting
    | inr unacked => exact .inl (.inr (.inr (awaits_of_unacked unacked op)))

theorem Linked.subscribe (linked : Linked yrs origin server sender seat) (stopping : List SinkTask)
    (reaches : seat.connected = true → ∀ op ∈ server.content,
      Arrives yrs (seat.exchange server) op ∨ ∃ message ∈ seat.stream, Brings yrs message op) :
    Linked yrs origin server sender
      { seat with stopping, subscription := some ⟨origin, ⟨sender.subscribe, true⟩⟩ } where
  honest := linked.honest
  sends := linked.sends
  reaches isConnected op has := (reaches isConnected op has).imp_right .inl
  subscribed := by
    rintro task ⟨⟩
    exact ⟨rfl, rfl, Nat.le_refl _⟩
  unsubscribed := by rintro ⟨⟩
  stream := linked.stream
  echoes := linked.echoes

theorem Linked.command (linked : Linked yrs origin server sender seat) {message : ClientCollabMessage}
    (own : message.origin = origin) (dropped : message.isClientInitSync = true → NothingDropped sender seat) :
    Linked yrs origin server sender (seat.command sender message) := by
  rw [Seat.command]
  cases init : message.isClientInitSync with
  | true =>
    simp only [if_true, Seat.removeUser, Option.isSome_none, Bool.false_eq_true, if_false, Seat.subscribe, own]
    exact linked.subscribe _ (linked.removeUser (dropped init))
  | false =>
    simp only [Bool.false_eq_true, if_false]
    split
    · exact linked
    · rename_i unsubscribed
      have nobody : seat.subscription = none := by simpa using unsubscribed
      rw [Seat.subscribe, own]
      refine linked.subscribe seat.stopping fun isConnected op has => ?_
      rcases linked.reaches isConnected op has with arrives | passed | ⟨task, live, _⟩
      · exact .inl arrives
      · exact .inr passed
      · rw [nobody] at live
        cases live

/-! ## Forwarding -/

/-- A task passes on a message of the channel or none. -/
theorem SinkTask.turn_sent (sender : BroadcastChannel CollabMessage) (task : SinkTask) {message : CollabMessage}
    (passed : message ∈ (task.turn sender).1) : message ∈ sender.sent := by
  rw [SinkTask.turn] at passed
  rcases task.receiver.turn_cases sender with stays | ⟨_, lagged⟩ | ⟨value, later, _, waiting, took⟩
  · rw [stays] at passed
    cases passed
  · rw [lagged] at passed
    cases passed
  · rw [took] at passed
    simp only [Option.mem_def] at passed
    obtain ⟨same, _⟩ := Option.filter_eq_some_iff.mp passed
    obtain rfl := Option.some.inj same
    have first : value ∈ sender.unread task.receiver.next := by
      rw [waiting]
      exact .head _
    exact List.drop_subset _ _ first

/-- A live task that keeps up takes the first broadcast it has not read, if there is one. -/
theorem SinkTask.Live.turn {task : SinkTask} (live : task.Live origin sender) (keepsUp : KeepsUp sender task.receiver) :
    (task.turn sender).2.Live origin sender ∧
      ∀ message ∈ sender.unread task.receiver.next, message.origin ≠ origin →
        message ∈ (task.turn sender).1 ∨ message ∈ sender.unread (task.turn sender).2.receiver.next := by
  rw [SinkTask.turn]
  rcases task.receiver.turn_cases sender with stays | ⟨behind, _⟩ | ⟨value, later, _, waiting, took⟩
  · rw [stays]
    exact ⟨live, fun message member _ => .inr member⟩
  · exact absurd (keepsUp live.running) (Nat.not_le.mpr behind)
  · rw [took]
    refine ⟨⟨live.own, live.running, BroadcastChannel.lt_of_waiting waiting⟩, ?_⟩
    intro message member foreign
    rw [waiting] at member
    simp only [BroadcastChannel.unread_succ waiting]
    rcases List.mem_cons.mp member with rfl | later
    · left
      simpa [live.own] using foreign
    · exact .inr later

theorem Linked.forward (linked : Linked yrs origin server sender seat) {task : SinkTask}
    (subscribed : seat.subscription = some task) (keepsUp : KeepsUp sender task.receiver) :
    Linked yrs origin server sender { seat with
      subscription := some (task.turn sender).2
      stream := seat.stream ++ (task.turn sender).1.toList } := by
  obtain ⟨live, taken⟩ := (linked.subscribed task subscribed).turn keepsUp
  constructor
  · exact linked.honest
  · exact linked.sends
  · intro isConnected op has
    rcases linked.reaches isConnected op has with arrives | ⟨message, member, carries⟩ | unread
    · exact .inl arrives
    · exact .inr (.inl ⟨message, List.mem_append_left _ member, carries⟩)
    · obtain ⟨same, holds, message, member, foreign, carries⟩ := unread
      obtain rfl := Option.some.inj (subscribed.symm.trans holds)
      cases taken message member foreign with
      | inl passed => exact .inr (.inl ⟨message, List.mem_append_right _ (Option.mem_toList.mpr passed), carries⟩)
      | inr waits => exact .inr (.inr ⟨_, rfl, message, waits, foreign, carries⟩)
  · rintro other ⟨⟩
    exact live
  · rintro ⟨⟩
  · intro message member
    cases List.mem_append.mp member with
    | inl before => exact linked.stream before
    | inr passed => exact task.turn_sent sender (Option.mem_toList.mp passed)
  · exact linked.echoes

/-- What an old task still passes on has been sent as well. -/
theorem Linked.forwardStopping (linked : Linked yrs origin server sender seat) (stopping : List SinkTask)
    {passed : Option CollabMessage} (sent : ∀ message ∈ passed, message ∈ sender.sent) :
    Linked yrs origin server sender { seat with stopping, stream := seat.stream ++ passed.toList } where
  honest := linked.honest
  sends := linked.sends
  reaches isConnected op has := by
    rcases linked.reaches isConnected op has with arrives | ⟨message, member, carries⟩ | unread
    · exact .inl arrives
    · exact .inr (.inl ⟨message, List.mem_append_left _ member, carries⟩)
    · exact .inr (.inr unread)
  subscribed := linked.subscribed
  unsubscribed := linked.unsubscribed
  stream := by
    intro message member
    cases List.mem_append.mp member with
    | inl before => exact linked.stream before
    | inr late => exact sent message (Option.mem_toList.mp late)
  echoes := linked.echoes

end Linked

/-! ## Every step -/

section Run

variable {Member : Type} [DecidableEq Member]
variable (yrs : Yrs Op StateVector AwarenessUpdate) (eventUpdate : Finset Op → Bytes) (config : SinkConfig)
variable (object : SyncObject) (origins : Member → CollabOrigin)

/-- Every lock and every transaction is free. -/
def Calm : RoomEvent Member Op AwarenessUpdate → Prop
  | .own _ event => Undisturbed event
  | .handle _ _ environment => ∀ index, environment index = .idle
  | .connect _ _ | .disconnect _ | .command _ _ | .awareness _ | .forward _ | .forwardStopping _ _ | .deliver _ _ =>
    True

/-- The step loses nothing that was sent or typed, and no id is given twice. -/
def DropsNothing (self : Room Member Op AwarenessUpdate) : RoomEvent Member Op AwarenessUpdate → Prop
  | .own member event =>
    FreshIds yrs config (origins member) object (self.exchange member) event ∧
      MergesOnlyFresh yrs (self.exchange member) event
  | .connect member moment =>
    let client := (self.seats member).client
    (docInitState yrs moment client.collab).isSome = true ∧
      client.sink.msgIdCounter ≤ (initSync yrs moment (origins member) object client.collab client.sink).msgIdCounter
  | .command member firstMessage =>
    firstMessage.isClientInitSync = true → NothingDropped self.sender (self.seats member)
  | .forward member => ∀ task ∈ (self.seats member).subscription, KeepsUp self.sender task.receiver
  | .deliver member moment =>
    (self.seats member).client.sink.msgIdCounter ≤
      ((self.step yrs eventUpdate config object origins (.deliver member moment)).seats member).client.sink.msgIdCounter
  | .disconnect _ | .handle _ _ _ | .awareness _ | .forwardStopping _ _ => True

instance (self : Room Member Op AwarenessUpdate) : (event : RoomEvent Member Op AwarenessUpdate) →
    Decidable (DropsNothing yrs eventUpdate config object origins self event)
  | .own _ _ | .connect _ _ => inferInstanceAs (Decidable (_ ∧ _))
  | .command _ _ => inferInstanceAs (Decidable (_ → _))
  | .forward _ => inferInstanceAs (Decidable (∀ task ∈ _, _))
  | .deliver _ _ => inferInstanceAs (Decidable (_ ≤ _))
  | .disconnect _ | .handle _ _ _ | .awareness _ | .forwardStopping _ _ => .isTrue trivial

structure Room.AllLinked (room : Room Member Op AwarenessUpdate) : Prop where
  clients : ∀ member, Linked yrs (origins member) room.server room.sender (room.seats member)
  broadcasts : ∀ message ∈ room.sender.sent, IsBroadcast yrs room.server.content message

variable {yrs eventUpdate config object origins} {self : Room Member Op AwarenessUpdate}

omit [DecidableEq Member] in
theorem Room.new_allLinked (server : Collab Op AwarenessUpdate) (capacity : Nat)
    (clients : Member → Collab Op AwarenessUpdate) (pause : Bool) (now : Instant) :
    (Room.new server capacity clients pause now).AllLinked yrs origins where
  clients member :=
    { honest := by
        refine ⟨⟨.empty (List.forall_mem_nil _), List.forall_mem_nil _, List.forall_mem_nil _⟩,
          List.forall_mem_nil _, ?_⟩
        rintro msg ⟨⟩
      sends := by rintro ⟨⟩
      reaches := by rintro ⟨⟩
      subscribed := by rintro task ⟨⟩
      unsubscribed := fun _ => ⟨rfl, by rintro ⟨⟩⟩
      stream := List.nil_subset _
      echoes := List.forall_mem_nil _ }
  broadcasts := List.forall_mem_nil _

theorem Room.AllLinked.put (linked : self.AllLinked yrs origins) {member : Member} {seat : Seat Op AwarenessUpdate}
    (client : Linked yrs (origins member) self.server self.sender seat) : (self.put member seat).AllLinked yrs origins where
  clients other := by
    simp only [Room.put]
    cases Decidable.em (other = member) with
    | inl same =>
      subst same
      rwa [Function.update_self]
    | inr differs =>
      rw [Function.update_of_ne differs]
      exact linked.clients other
  broadcasts := linked.broadcasts

/-- A client's own step changes neither the server nor the channel. -/
theorem Room.AllLinked.putExchange (linked : self.AllLinked yrs origins) {member : Member}
    {exchange : Exchange Op AwarenessUpdate} (advances : Advances yrs (origins member) (self.exchange member) exchange)
    (server : exchange.server = self.server) (acks : exchange.acks = (self.seats member).acks)
    {stream : List CollabMessage} (shorter : stream ⊆ (self.seats member).stream)
    (received : ∀ message ∈ (self.seats member).stream, message ∈ stream ∨
      ∀ op, Brings yrs message op → Arrives yrs exchange op) :
    (self.put member { (self.seats member).withExchange exchange with stream }).AllLinked yrs origins := by
  let next : Seat Op AwarenessUpdate := { (self.seats member).withExchange exchange with stream }
  have same : next.exchange self.server = exchange := by
    rw [← server]
    rfl
  rw [← same] at advances received
  have advanced : Linked yrs (origins member) self.server (extended self.sender []) next :=
    (linked.clients member).advance advances rfl rfl (fun _ => acks) shorter received (fun op has => .inl has)
      (List.forall_mem_nil _)
  have unchanged : extended self.sender [] = self.sender := by
    simp [extended]
  rw [unchanged] at advanced
  exact linked.put advanced

/-- What the group does with a copy: it makes the changes that the copy carries and broadcasts
    each of them. -/
theorem Room.handle_eq (written : ∀ ops, yrs.decodeUpdate (eventUpdate ops) = .ok ops) (member : Member)
    (copy : ClientCollabMessage) (environment : Nat → Moment) :
    ∃ changes messages broadcast,
      Observes copy.origin (carriedOps yrs (MessageReader.read yrs.codec copy.payload).messages) self.server
        (handleClientCollabMessage yrs environment object.objectId copy self.server).collab changes ∧
      Announces yrs changes self.server.content
        (handleClientCollabMessage yrs environment object.objectId copy self.server).collab.content messages ∧
      self.handle yrs eventUpdate object member copy environment =
        { server := (handleClientCollabMessage yrs environment object.objectId copy self.server).collab
          broadcast
          sender := extended self.sender messages
          seats := Function.update self.seats member { self.seats member with
            acks := (self.seats member).acks ++
              (handleClientCollabMessage yrs environment object.objectId copy self.server).resps } } := by
  obtain ⟨changes, observes⟩ := handle_observes yrs environment object.objectId copy self.server
  have added : (handleClientCollabMessage yrs environment object.objectId copy self.server).collab.observed.drop
      self.server.observed.length = changes := by
    rw [observes.observed, List.drop_left]
  obtain ⟨messages, sender, announces⟩ := announce_announces written object changes self.server.content
    (self.broadcast, self.sender)
  rw [← observes.content] at announces
  have group : announce yrs eventUpdate object changes self.server.content (self.broadcast, self.sender) =
      ((announce yrs eventUpdate object changes self.server.content (self.broadcast, self.sender)).1,
        extended self.sender messages) := Prod.ext rfl sender
  exact ⟨changes, messages, _, observes, announces, by rw [Room.handle, added, group]⟩

/-- The group handles a copy of a subscribed client, and all others hear of what is new. -/
theorem Room.AllLinked.handle (linked : self.AllLinked yrs origins) (sets : ExactSets yrs)
    (written : ∀ ops, yrs.decodeUpdate (eventUpdate ops) = .ok ops) (apart : Function.Injective origins)
    {member : Member} (subscribed : (self.seats member).subscription.isSome = true) {copy : ClientCollabMessage}
    (sent : copy ∈ (self.seats member).transmitted) {environment : Nat → Moment}
    (idle : ∀ index, environment index = .idle) :
    (self.handle yrs eventUpdate object member copy environment).AllLinked yrs origins := by
  have grows := handleClientCollabMessage_grows yrs environment object.objectId copy self.server
  have proper := (linked.clients member).honest.sink.sent copy sent
  obtain ⟨changes, messages, broadcast, observes, announces, result⟩ :=
    self.handle_eq written member copy environment
  -- what is broadcast is in the document of the client that sent it
  have caused : ∀ message ∈ messages, message.origin = origins member ∧
      ∀ op, Brings yrs message op → op ∈ (self.seats member).client.collab.content := by
    intro message announced
    obtain ⟨change, inside, origin, carries⟩ := announces.caused message announced
    refine ⟨origin.trans ((observes.own change inside).trans proper.own), fun op carried => ?_⟩
    exact proper.within (observes.within change inside (carries op carried))
  rw [result]
  constructor
  · intro other
    simp only
    cases Decidable.em (other = member) with
    | inl same =>
      subst same
      rw [Function.update_self]
      let handled := handleClientCollabMessage yrs environment object.objectId copy self.server
      let next := { self.seats other with acks := (self.seats other).acks ++ handled.resps }
      have advances : Advances yrs (origins other) ((self.seats other).exchange self.server)
          (next.exchange handled.collab) :=
        .handle (linked.clients other).honest sets object.objectId sent idle
      refine (linked.clients other).advance advances rfl rfl ?_ (List.Subset.refl _) (fun message waits => .inl waits)
        announces.covers fun message announced _ => (caused message announced).2
      intro unsubscribed
      rw [unsubscribed] at subscribed
      cases subscribed
    | inr differs =>
      rw [Function.update_of_ne differs]
      refine (linked.clients other).advance (.of_server (linked.clients other).honest _ grows) rfl rfl (fun _ => rfl)
        (List.Subset.refl _) (fun message waits => .inl waits) announces.covers ?_
      intro message announced own
      exact absurd (apart (own.symm.trans (caused message announced).1)) differs
  · intro message inside
    cases List.mem_append.mp inside with
    | inl before => exact (linked.broadcasts message before).mono grows
    | inr announced => exact announces.broadcasts message announced

theorem Room.AllLinked.awareness (linked : self.AllLinked yrs origins) (update : AwarenessUpdate) :
    (self.step yrs eventUpdate config object origins (.awareness update)).AllLinked yrs origins := by
  let msg : Message StateVector AwarenessUpdate := .awareness update
  let data := AwarenessSync.new object.objectId (msg.encode yrs.codec)
  have brings : carriedOps yrs (MessageReader.read yrs.codec (msg.encode yrs.codec)).messages = ∅ := by
    rw [read_single]
    rfl
  have nothing : ∀ op, ¬ Brings yrs (.awarenessSync data) op := by
    rintro op ⟨_, same, carried⟩
    cases same
    exact absurd (brings ▸ carried) (Finset.notMem_empty op)
  have broadcast : IsBroadcast yrs self.server.content (.awarenessSync data) :=
    ⟨.awarenessSync data, rfl, rfl, fun _ => fit_awareness rfl⟩
  constructor
  · intro member
    exact (linked.clients member).advance (.refl (linked.clients member).honest) rfl rfl (fun _ => rfl)
      (List.Subset.refl _) (fun message waits => .inl waits) (fun op has => .inl has)
      (List.forall_mem_singleton.mpr fun _ op carries => absurd carries (nothing op))
  · exact List.forall_mem_append.mpr ⟨linked.broadcasts, List.forall_mem_singleton.mpr broadcast⟩

theorem Room.AllLinked.deliver (linked : self.AllLinked yrs origins) {member : Member} {moment : SyncMoment}
    (onward : (self.seats member).client.sink.msgIdCounter ≤
      ((self.step yrs eventUpdate config object origins (.deliver member moment)).seats member).client.sink.msgIdCounter) :
    (self.step yrs eventUpdate config object origins (.deliver member moment)).AllLinked yrs origins := by
  have own := linked.clients member
  simp only [Room.step] at onward ⊢
  cases waiting : (self.seats member).stream with
  | nil => exact linked
  | cons message stream =>
    rw [waiting] at onward
    simp only at onward ⊢
    split
    · exact linked
    · rename_i ready
      rw [if_neg ready] at onward
      have sent : message ∈ self.sender.sent := own.stream (by rw [waiting]; exact .head _)
      obtain ⟨msg, taken, unnumbered, fit⟩ := linked.broadcasts message sent
      rw [taken] at onward
      simp only [Room.put, Function.update_self] at onward
      rw [taken]
      have shared := (self.exchange member).receive_shared yrs (origins member) object moment msg
      have advances := Advances.receive_unnumbered object own.honest moment unnumbered (fit (origins member)) onward
      refine linked.putExchange advances shared.1 shared.2 ?_ ?_
      · rw [waiting]
        exact List.subset_cons_self _ _
      · rw [waiting]
        intro passed member
        rcases List.mem_cons.mp member with rfl | later
        · right
          rintro op ⟨_, same, carried⟩
          obtain rfl := Except.ok.inj (taken.symm.trans same)
          exact arrives_receive object unnumbered ready carried
        · exact .inl later

theorem Room.AllLinked.step (linked : self.AllLinked yrs origins) (sets : ExactSets yrs)
    (written : ∀ ops, yrs.decodeUpdate (eventUpdate ops) = .ok ops) (apart : Function.Injective origins)
    {event : RoomEvent Member Op AwarenessUpdate} (calm : Calm event)
    (dropsNothing : DropsNothing yrs eventUpdate config object origins self event) :
    (self.step yrs eventUpdate config object origins event).AllLinked yrs origins := by
  cases event with
  | own member event =>
    simp only [Room.step]
    split
    · rename_i isOwn
      have own := linked.clients member
      have shared := (self.exchange member).step_shared yrs (origins member) object config isOwn
      have advances := Advances.step_local object own.honest sets config isOwn calm dropsNothing.1 dropsNothing.2
      exact linked.putExchange advances shared.1 shared.2 (List.Subset.refl _) fun message waits => .inl waits
    · exact linked
  | connect member moment => exact linked.put ((linked.clients member).connect dropsNothing.1 dropsNothing.2)
  | disconnect member => exact linked.put (linked.clients member).disconnect
  | command member firstMessage =>
    simp only [Room.step]
    split
    · rename_i taken
      have own := (linked.clients member).honest.sink.sent firstMessage taken.2
      exact linked.put ((linked.clients member).command own.own dropsNothing)
    · exact linked
  | handle member copy environment =>
    simp only [Room.step]
    split
    · rename_i taken
      exact linked.handle sets written apart taken.1 taken.2 calm
    · exact linked
  | awareness update => exact linked.awareness update
  | forward member =>
    simp only [Room.step]
    split
    · exact linked
    · rename_i task subscribed
      exact linked.put ((linked.clients member).forward subscribed (dropsNothing task subscribed))
  | forwardStopping member index =>
    simp only [Room.step]
    split
    · exact linked
    · rename_i task _
      exact linked.put ((linked.clients member).forwardStopping _ fun message passed => task.turn_sent self.sender passed)
  | deliver member moment => exact linked.deliver dropsNothing

/-! ## Clients that are done -/

omit [DecidableEq Member] in
theorem Room.AllLinked.quiet (linked : self.AllLinked yrs origins) {member : Member} (quiet : self.Quiet member) :
    (self.seats member).client.collab.content = self.server.content := by
  obtain ⟨connected, ⟨idle, empty⟩, received, read⟩ := quiet
  have own := linked.clients member
  have unqueued : (self.seats member).client.sink.messageQueue = [] := empty
  have unprocessed : (self.seats member).processing = none := idle
  apply Finset.Subset.antisymm
  · intro op here
    rcases own.sends connected op here with has | ⟨item, queued, _⟩ | ⟨msg, processes, _⟩
    · exact has
    · rw [Seat.exchange, unqueued] at queued
      cases queued
    · rw [Seat.exchange, unprocessed] at processes
      cases processes
  · intro op has
    rcases own.reaches connected op has with
      (here | ⟨msg, processes, _⟩ | ⟨item, queued, _⟩) | ⟨message, waits, _⟩ | ⟨task, live, message, unread, _⟩
    · exact here
    · rw [Seat.exchange, unprocessed] at processes
      cases processes
    · rw [Seat.exchange, unqueued] at queued
      cases queued
    · rw [received] at waits
      cases waits
    · rw [read task live] at unread
      cases unread

/-- In every run that drops nothing, whatever the clients and the group began with and however
    their steps and messages are interleaved, each client that is done has the document of
    the group. -/
theorem quiet_clients_agree (yrs : Yrs Op StateVector AwarenessUpdate) (sets : ExactSets yrs)
    (eventUpdate : Finset Op → Bytes) (written : ∀ ops, yrs.decodeUpdate (eventUpdate ops) = .ok ops)
    (config : SinkConfig) (object : SyncObject) (origins : Member → CollabOrigin) (apart : Function.Injective origins)
    (server : Collab Op AwarenessUpdate) (capacity : Nat) (clients : Member → Collab Op AwarenessUpdate) (pause : Bool)
    (now : Instant) (events : List (RoomEvent Member Op AwarenessUpdate)) (calm : ∀ event ∈ events, Calm event)
    (dropsNothing : Always (Room.step yrs eventUpdate config object origins)
      (DropsNothing yrs eventUpdate config object origins) (.new server capacity clients pause now) events)
    (member : Member)
    (quiet : (run (Room.step yrs eventUpdate config object origins) (.new server capacity clients pause now)
      events).Quiet member) :
    let room := run (Room.step yrs eventUpdate config object origins) (.new server capacity clients pause now) events
    (room.seats member).client.collab.content = room.server.content := by
  have admitted := (Always.of_forall calm).and dropsNothing
  have preserved : ∀ (room : Room Member Op AwarenessUpdate) event, room.AllLinked yrs origins →
      Calm event ∧ DropsNothing yrs eventUpdate config object origins room event →
        (room.step yrs eventUpdate config object origins event).AllLinked yrs origins :=
    fun room event linked conditions => linked.step sets written apart conditions.1 conditions.2
  exact (admitted.invariant preserved (Room.new_allLinked server capacity clients pause now)).quiet quiet

end Run

/-! ## Two clients -/

def twoOrigins : Bool → CollabOrigin
  | false => .client 1 "device"
  | true => .client 2 "phone"

def openingOf (member : Bool) : ClientCollabMessage :=
  .clientInitSync ⟨twoOrigins member, "object", .document, "w", 0, openingPayload (setYrs typedUpdates) ∅ []⟩

def answerOf (member : Bool) : ClientCollabMessage :=
  .serverInitSync ⟨twoOrigins member, "object", 1, [0, 1, 2, 0, 0]⟩

/-- A client opens the object, and both sides find that they miss nothing. -/
def openedBy (member : Bool) : List (RoomEvent Bool (Nat × Nat) Lib0.AwarenessUpdate) :=
  [.connect member (.idle 0), .own member (.processNextMsg true), .own member (.sendFinished true),
    .command member (openingOf member), .handle member (openingOf member) fun _ => .idle,
    .own member (.receiveAck ((CollabAck.new (twoOrigins member) "object" 0).withPayload
      (answerPayload (setYrs typedUpdates) [0, 0] ∅))),
    .own member (.process (.idle 0)), .own member (.processNextMsg true), .own member (.sendFinished true),
    .handle member (answerOf member) fun _ => .idle, .own member (.receiveAck (.new (twoOrigins member) "object" 1))]

/-- Client 1 types `a`, which client 2 receives. -/
def typedTogether : List (RoomEvent Bool (Nat × Nat) Lib0.AwarenessUpdate) :=
  openedBy false ++ openedBy true ++ [.own false (.edit [1, 1, 1, 0, 4, 1, 1, 116, 1, 97, 0]), .own false (.merge true),
    .own false (.processNextMsg true), .own false (.sendFinished true), .handle false (typeA.setMsgId 2) fun _ => .idle,
    .own false (.receiveAck (.new (.client 1 "device") "object" 2)), .forward false, .forward true,
    .deliver true (.idle 0), .own true (.process (.idle 0))]

theorem typedTogether_agrees :
    let room := run (Room.step (setYrs typedUpdates) typedUpdates.encode .default sharedObject twoOrigins)
      (.new ⟨∅, [], []⟩ 16 (fun _ => ⟨∅, [], []⟩) false 0) typedTogether
    (room.seats true).client.collab.content = room.server.content :=
  quiet_clients_agree (setYrs typedUpdates) (setYrs_exact typedUpdates) typedUpdates.encode typedUpdates.decode_encode
    .default sharedObject twoOrigins (by decide) ⟨∅, [], []⟩ 16 (fun _ => ⟨∅, [], []⟩) false 0 typedTogether
    (by simp [typedTogether, openedBy, Calm, Undisturbed, Surroundings.idle]) (by decide +kernel) true
    (by decide +kernel)

end FlowCloud.Sync
