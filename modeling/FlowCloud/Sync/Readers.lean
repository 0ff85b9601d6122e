import FlowCloud.Sync.Convergence

/-! # What a reader types stays with the reader

The group hears of a client only through the copies that the access check of the client's
stream lets through.  For a client that may not write these are its init syncs, and the
sink's init syncs carry no update.  So the documents hold what was there at the beginning and
what writers have typed, and a reader's own document holds what the reader has typed besides.
-/

namespace FlowCloud.Sync

open FlowCloud.Foundation FlowCloud.Entity FlowCloud.Protocol FlowCloud.Client FlowCloud.Server

variable {Op StateVector AwarenessUpdate : Type} [DecidableEq Op]

/-! ## The sink -/

/-- The sink's init syncs carry no update, and nothing that is queued or was sent goes beyond
    the given operations. -/
structure SinkWithin (yrs : Yrs Op StateVector AwarenessUpdate) (sink : CollabSink)
    (transmitted : List ClientCollabMessage) (ops : Finset Op) : Prop where
  opens : ∀ item ∈ sink.messageQueue, Opens yrs item.inner
  opened : ∀ copy ∈ transmitted, Opens yrs copy
  within : ∀ item ∈ sink.messageQueue, carriedOps yrs (item.messages yrs) ⊆ ops
  sent : ∀ copy ∈ transmitted, carriedOps yrs (MessageReader.read yrs.codec copy.payload).messages ⊆ ops

section Sink

variable {yrs : Yrs Op StateVector AwarenessUpdate} {sink other : CollabSink}
variable {transmitted : List ClientCollabMessage} {ops : Finset Op}

theorem SinkWithin.of_subset (within : SinkWithin yrs sink transmitted ops)
    (subset : other.messageQueue ⊆ sink.messageQueue) : SinkWithin yrs other transmitted ops :=
  ⟨fun item member => within.opens item (subset member), within.opened,
    fun item member => within.within item (subset member), within.sent⟩

theorem SinkWithin.push (within : SinkWithin yrs sink transmitted ops) {msg : ClientCollabMessage}
    (opens : Opens yrs msg) (carries : carriedOps yrs (MessageReader.read yrs.codec msg.payload).messages ⊆ ops) :
    SinkWithin yrs (sink.pushMsg msg) transmitted ops where
  opens := by
    refine List.forall_mem_cons.mpr ⟨?_, within.opens⟩
    rw [Opens, isClientInitSync_setMsgId, payload_setMsgId]
    exact opens
  opened := within.opened
  within := by
    refine List.forall_mem_cons.mpr ⟨?_, within.within⟩
    rw [QueueItem.messages, payload_setMsgId]
    exact carries
  sent := within.sent

theorem SinkWithin.clear (within : SinkWithin yrs sink transmitted ops) (queueFree flyingFree : Bool) :
    SinkWithin yrs (sink.clear queueFree flyingFree) transmitted ops := by
  refine within.of_subset ?_
  cases queueFree with
  | true => exact List.nil_subset _
  | false => exact List.Subset.refl _

theorem SinkWithin.merge (within : SinkWithin yrs sink transmitted ops) (config : SinkConfig) (locksFree : Bool) :
    SinkWithin yrs (sink.merge yrs config locksFree) transmitted ops where
  opens item member := by
    intro init
    exact within.opens item (mem_of_mem_merge yrs sink.flyingMessages config (syncRank_of_initSync init) member) init
  opened := within.opened
  within := merge_within yrs sink.flyingMessages config within.within
  sent := within.sent

theorem SinkWithin.processNextMsg (within : SinkWithin yrs sink transmitted ops) (locksFree : Bool) :
    SinkWithin yrs (sink.processNextMsg locksFree).2 (transmitted ++ (sink.processNextMsg locksFree).1) ops := by
  have kept := within.of_subset (sink.processNextMsg_perm locksFree).subset
  refine ⟨kept.opens, List.forall_mem_append.mpr ⟨within.opened, ?_⟩, kept.within,
    List.forall_mem_append.mpr ⟨within.sent, ?_⟩⟩
  · intro message handed
    obtain ⟨item, member, rfl⟩ := CollabSink.processNextMsg_subset handed
    exact within.opens item member
  · intro message handed
    obtain ⟨item, member, rfl⟩ := CollabSink.processNextMsg_subset handed
    exact within.within item member

theorem SinkWithin.validateResponse (within : SinkWithin yrs sink transmitted ops)
    (serverMessage : ServerCollabMessage) :
    SinkWithin yrs (sink.validateResponse serverMessage).2 transmitted ops := by
  cases sink.validateResponse_cases serverMessage with
  | inl same => exact within.of_subset same.subset
  | inr held =>
    obtain ⟨item, _, removed⟩ := held
    exact within.of_subset fun other member => removed.subset (.tail _ member)

theorem SinkWithin.initSync (within : SinkWithin yrs sink transmitted ops) (moment : SyncMoment)
    (origin : CollabOrigin) (object : SyncObject) (collab : Collab Op AwarenessUpdate) :
    SinkWithin yrs (Client.initSync yrs moment origin object collab sink) transmitted ops := by
  rw [Client.initSync]
  cases started : docInitState yrs moment collab with
  | none => exact within
  | some payload =>
    obtain rfl := docInitState_eq started
    refine (within.clear moment.queueFree moment.flyingFree).push (fun _ => ⟨_, _, rfl⟩) ?_
    rw [ClientCollabMessage.payload, carriedOps_openingPayload]
    exact Finset.empty_subset _

end Sink

/-! ## A client and what it takes -/

section Client

variable {yrs : Yrs Op StateVector AwarenessUpdate} {transmitted : List ClientCollabMessage}
variable {ops : Finset Op} {self : ObserveCollab Op AwarenessUpdate}

/-- The client's document and what it sends. -/
structure ClientWithin (yrs : Yrs Op StateVector AwarenessUpdate) (client : ObserveCollab Op AwarenessUpdate)
    (transmitted : List ClientCollabMessage) (ops : Finset Op) : Prop where
  content : client.collab.content ⊆ ops
  sink : SinkWithin yrs client.sink transmitted ops

theorem brings_subset {msg : Message StateVector AwarenessUpdate} {content : Finset Op}
    (carried : ∀ data, msg.carriedUpdate = some data → updateOps yrs data ⊆ ops) : msg.brings yrs content ⊆ ops := by
  rw [Message.brings]
  cases carries : msg.carriedUpdate with
  | none => exact Finset.empty_subset _
  | some data =>
    have bound := carried data carries
    simp only [Yrs.brings]
    rw [updateOps] at bound
    cases decoded : yrs.decodeUpdate data with
    | error failure => exact Finset.empty_subset _
    | ok update =>
      rw [decoded] at bound
      simp only
      split
      · exact Finset.empty_subset _
      · exact bound

variable (config : SinkConfig) (origin : CollabOrigin) (objectId : String)

theorem processInner_within (sets : ExactSets yrs) (within : ClientWithin yrs self transmitted ops)
    {msg : Message StateVector AwarenessUpdate × PayloadMoment}
    (carried : ∀ data, msg.1.carriedUpdate = some data → updateOps yrs data ⊆ ops) :
    ClientWithin yrs (processInner yrs config origin objectId self msg).2 transmitted ops := by
  have content := handleCollabMessage_content yrs msg.2.transactions origin (ClientSyncProtocol yrs) self.collab msg.1
  have bound : (handleCollabMessage yrs msg.2.transactions origin (ClientSyncProtocol yrs) self.collab msg.1).2.content ⊆
      ops := by
    rw [content]
    split
    · exact Finset.union_subset within.content (brings_subset carried)
    · exact within.content
  rw [processInner]
  split
  · rename_i handled
    rw [handled] at bound
    exact ⟨bound, within.sink⟩
  · rename_i handled
    rw [handled] at bound
    exact ⟨bound, within.sink⟩
  · rename_i payload collab handled
    rw [handled] at bound
    -- an answer is a part of the document
    obtain ⟨stateVector, question, answer⟩ := handleCollabMessage_answer yrs (congrArg Prod.fst handled)
    refine ⟨bound, SinkWithin.merge (within.sink.push (opens_replyMessage _ _ _ _ _) ?_) config _⟩
    rw [payload_replyMessage, client_answer answer, carriedOps_syncStep2]
    exact Finset.Subset.trans (sets.updateOps_subset _ _) within.content

theorem processInners_within (sets : ExactSets yrs) {msgs : List (Message StateVector AwarenessUpdate × PayloadMoment)}
    (within : ClientWithin yrs self transmitted ops)
    (carried : ∀ msg ∈ msgs, ∀ data, msg.1.carriedUpdate = some data → updateOps yrs data ⊆ ops) :
    ClientWithin yrs (processInners yrs config origin objectId msgs self).2 transmitted ops := by
  induction msgs generalizing self with
  | nil => exact within
  | cons msg msgs inductionHypothesis =>
    rw [List.forall_mem_cons] at carried
    have first := processInner_within config origin objectId sets within carried.1
    rw [processInners]
    split
    · rename_i processed
      rwa [processed] at first
    · rename_i processed
      rw [processed] at first
      exact inductionHypothesis first carried.2

theorem processPayload_within (sets : ExactSets yrs) (within : ClientWithin yrs self transmitted ops)
    (surroundings : Surroundings) {payload : Bytes}
    (carried : carriedOps yrs (MessageReader.read yrs.codec payload).messages ⊆ ops) :
    ClientWithin yrs (processPayload yrs config surroundings origin payload objectId self).2 transmitted ops := by
  rw [processPayload_snd]
  split
  · refine processInners_within config origin objectId sets within fun msg member data carries => ?_
    obtain ⟨indexed, inside, rfl⟩ := List.mem_map.mp member
    exact Finset.Subset.trans (updateOps_subset_carriedOps yrs (List.fst_mem_of_mem_zipIdx inside) carries) carried
  · exact within

theorem acceptMessage_within (moment : SyncMoment) (object : SyncObject) (msg : ServerCollabMessage)
    (within : ClientWithin yrs self transmitted ops) :
    ClientWithin yrs (acceptMessage yrs moment origin object msg self).2 transmitted ops := by
  rw [acceptMessage]
  split
  · exact within
  · obtain ⟨collab, same | synced⟩ := noticeBroadcast_sink yrs moment origin object msg self
    · refine ⟨?_, SinkWithin.validateResponse ?_ msg⟩
      · rw [collab]
        exact within.content
      · rw [same]
        exact within.sink
    · refine ⟨?_, SinkWithin.validateResponse ?_ msg⟩
      · rw [collab]
        exact within.content
      · rw [synced]
        exact within.sink.initSync moment origin object self.collab

end Client

/-! ## The group's answers -/

section Handler

variable {yrs : Yrs Op StateVector AwarenessUpdate} {ops : Finset Op}

/-- The document and every ack are within the operations. -/
def HandlingWithin (yrs : Yrs Op StateVector AwarenessUpdate) (ops : Finset Op) (state : Handling Op AwarenessUpdate) :
    Prop :=
  state.collab.content ⊆ ops ∧
    ∀ ack ∈ state.resps, carriedOps yrs (MessageReader.read yrs.codec ack.payload).messages ⊆ ops

theorem carriedOps_nil : carriedOps yrs (MessageReader.read yrs.codec []).messages = ∅ := by
  rw [MessageReader.read_nil]
  rfl

theorem carriedOps_server_answer (sets : ExactSets yrs) (content : Finset Op) (stateVector : StateVector) :
    carriedOps yrs (MessageReader.read yrs.codec
      (answerPayload yrs (yrs.encodeStateAsUpdate content stateVector) content)).messages ⊆ content := by
  rw [answerPayload, read_pair]
  exact Finset.union_subset (sets.updateOps_subset content stateVector) (Finset.empty_subset _)

theorem handleMessage_within (sets : ExactSets yrs) (objectId : String) (copy : ClientCollabMessage)
    {state : Handling Op AwarenessUpdate} {msg : Message StateVector AwarenessUpdate × Moment}
    (within : HandlingWithin yrs ops state)
    (carried : ∀ data, msg.1.carriedUpdate = some data → updateOps yrs data ⊆ ops) :
    HandlingWithin yrs ops (handleMessage yrs objectId copy state msg) := by
  obtain ⟨document, acks⟩ := within
  have silent : carriedOps yrs (MessageReader.read yrs.codec []).messages ⊆ ops := by
    rw [carriedOps_nil]
    exact Finset.empty_subset _
  constructor
  · rw [handleMessage_content]
    split
    · exact Finset.union_subset document (brings_subset carried)
    · exact document
  · rw [handleMessage]
    split
    · split
      · rename_i payload collab handled
        simp only
        split
        · refine List.forall_mem_append.mpr ⟨acks, List.forall_mem_singleton.mpr ?_⟩
          cases payload with
          | none => exact silent
          | some answer =>
            obtain ⟨stateVector, _, given⟩ := handleCollabMessage_answer yrs (congrArg Prod.fst handled)
            cases given
            exact Finset.Subset.trans (carriedOps_server_answer sets _ _) document
        · exact acks
      · exact List.forall_mem_append.mpr ⟨acks, List.forall_mem_singleton.mpr silent⟩
    · exact acks

/-- A copy that carries nothing beyond the operations brings nothing else into the document,
    and nothing else comes back. -/
theorem handle_within (sets : ExactSets yrs) (environment : Nat → Moment) (objectId : String)
    {copy : ClientCollabMessage} {server : Collab Op AwarenessUpdate} (document : server.content ⊆ ops)
    (carried : carriedOps yrs (MessageReader.read yrs.codec copy.payload).messages ⊆ ops) :
    HandlingWithin yrs ops (handleClientCollabMessage yrs environment objectId copy server) := by
  have each : Always (handleMessage yrs objectId copy)
      (fun _ msg => ∀ data, msg.1.carriedUpdate = some data → updateOps yrs data ⊆ ops) ⟨server, []⟩
      ((MessageReader.read yrs.codec copy.payload).messages.zipIdx.map
        fun message => (message.1, environment message.2)) := by
    refine .of_forall fun msg member data carries => ?_
    obtain ⟨indexed, inside, rfl⟩ := List.mem_map.mp member
    exact Finset.Subset.trans (updateOps_subset_carriedOps yrs (List.fst_mem_of_mem_zipIdx inside) carries) carried
  have initial : HandlingWithin yrs ops ⟨server, []⟩ := ⟨document, List.forall_mem_nil _⟩
  exact each.invariant (fun state msg within carries => handleMessage_within sets objectId copy within carries) initial

end Handler

/-! ## The room -/

section Room

variable {Member : Type} [DecidableEq Member]

/-- Of a copy that comes to the group the access check decides with the rights of the time. -/
def Room.guardedStep (yrs : Yrs Op StateVector AwarenessUpdate) (eventUpdate : Finset Op → Bytes)
    (config : SinkConfig) (object : SyncObject) (origins : Member → CollabOrigin) (workspaceId : String)
    (uids : Member → Int) (self : Room Member Op AwarenessUpdate) :
    RealtimeAccessControl × RoomEvent Member Op AwarenessUpdate → Room Member Op AwarenessUpdate
  | (access, .handle member copy environment) =>
    if copy ∈ (accessControl workspaceId (uids member) object.objectId access [copy]).1 then
      self.step yrs eventUpdate config object origins (.handle member copy environment)
    else self
  | (_, event) => self.step yrs eventUpdate config object origins event

/-- A client whose document and messages are within its own operations and the shared ones,
    and to whom only shared ones are sent. -/
structure SeatWithin (yrs : Yrs Op StateVector AwarenessUpdate) (ops own : Finset Op)
    (seat : Seat Op AwarenessUpdate) : Prop where
  client : ClientWithin yrs seat.client seat.transmitted (ops ∪ own)
  processing : ∀ msg, seat.processing = some msg →
    carriedOps yrs (MessageReader.read yrs.codec msg.payload).messages ⊆ ops
  acks : ∀ ack ∈ seat.acks, carriedOps yrs (MessageReader.read yrs.codec ack.payload).messages ⊆ ops
  stream : ∀ message ∈ seat.stream, ∀ op, Brings yrs message op → op ∈ ops

structure Room.Within (yrs : Yrs Op StateVector AwarenessUpdate) (ops : Finset Op) (own : Member → Finset Op)
    (room : Room Member Op AwarenessUpdate) : Prop where
  server : room.server.content ⊆ ops
  broadcasts : ∀ message ∈ room.sender.sent, ∀ op, Brings yrs message op → op ∈ ops
  seats : ∀ member, SeatWithin yrs ops (own member) (room.seats member)

variable {yrs : Yrs Op StateVector AwarenessUpdate} {eventUpdate : Finset Op → Bytes} {config : SinkConfig}
variable {object : SyncObject} {origins : Member → CollabOrigin} {self : Room Member Op AwarenessUpdate}
variable {ops : Finset Op} {own : Member → Finset Op} {seat : Seat Op AwarenessUpdate} {typed : Finset Op}

omit [DecidableEq Member] in
theorem Room.new_within (server : Collab Op AwarenessUpdate) (capacity : Nat)
    (clients : Member → Collab Op AwarenessUpdate) (pause : Bool) (now : Instant) (begins : server.content ⊆ ops)
    (documents : ∀ member, (clients member).content ⊆ own member) :
    (Room.new server capacity clients pause now).Within yrs ops own where
  server := begins
  broadcasts := List.forall_mem_nil _
  seats member :=
    { client :=
        { content := Finset.Subset.trans (documents member) Finset.subset_union_right
          sink := ⟨List.forall_mem_nil _, List.forall_mem_nil _, List.forall_mem_nil _, List.forall_mem_nil _⟩ }
      processing := by rintro msg ⟨⟩
      acks := List.forall_mem_nil _
      stream := List.forall_mem_nil _ }

theorem Room.Within.put (within : self.Within yrs ops own) {member : Member}
    (put : SeatWithin yrs ops (own member) seat) : (self.put member seat).Within yrs ops own where
  server := within.server
  broadcasts := within.broadcasts
  seats other := by
    simp only [Room.put]
    cases Decidable.em (other = member) with
    | inl same =>
      subst same
      rwa [Function.update_self]
    | inr differs =>
      rw [Function.update_of_ne differs]
      exact within.seats other

theorem SeatWithin.withSink (within : SeatWithin yrs ops typed seat) {sink : CollabSink}
    (bound : SinkWithin yrs sink seat.transmitted (ops ∪ typed)) (server : Collab Op AwarenessUpdate) :
    SeatWithin yrs ops typed (seat.withExchange ((seat.exchange server).withSink sink)) :=
  ⟨⟨within.client.content, bound⟩, within.processing, within.acks, within.stream⟩

theorem SeatWithin.receive (within : SeatWithin yrs ops typed seat) (server : Collab Op AwarenessUpdate)
    (origin : CollabOrigin) (object : SyncObject) (moment : SyncMoment) {msg : ServerCollabMessage}
    (carried : carriedOps yrs (MessageReader.read yrs.codec msg.payload).messages ⊆ ops) :
    SeatWithin yrs ops typed (seat.withExchange ((seat.exchange server).receive yrs origin object moment msg)) := by
  rw [Exchange.receive]
  split
  · exact within
  · have accepted := acceptMessage_within origin moment object msg within.client
    split
    · rename_i client accepts
      have next : (acceptMessage yrs moment origin object msg seat.client).2 = client := congrArg Prod.snd accepts
      rw [next] at accepted
      exact ⟨accepted, within.processing, within.acks, within.stream⟩
    · rename_i isValid client accepts
      have next : (acceptMessage yrs moment origin object msg seat.client).2 = client := congrArg Prod.snd accepts
      rw [next] at accepted
      refine ⟨accepted, ?_, within.acks, within.stream⟩
      intro taken processes
      simp only [Seat.withExchange] at processes
      split at processes
      · cases processes
        exact carried
      · cases processes

/-- A client's own step. -/
theorem SeatWithin.step_local (within : SeatWithin yrs ops typed seat) (sets : ExactSets yrs) (config : SinkConfig)
    (server : Collab Op AwarenessUpdate) (origin : CollabOrigin) (object : SyncObject)
    {event : ExchangeEvent Op AwarenessUpdate} (isOwn : isLocal event = true)
    (edits : ∀ update, event = .edit update → updateOps yrs update ⊆ typed) :
    SeatWithin yrs ops typed (seat.withExchange ((seat.exchange server).step yrs config origin object event)) := by
  cases event with
  | handle | change | receiveBroadcast | receiveAwareness => cases isOwn
  | edit update =>
    have inside : updateOps yrs update ⊆ ops ∪ typed := Finset.Subset.trans (edits update rfl) Finset.subset_union_right
    refine ⟨⟨Finset.union_subset within.client.content inside, ?_⟩, within.processing, within.acks, within.stream⟩
    refine within.client.sink.push ?_ ?_
    · rintro ⟨⟩
    · rw [receiveLocalState, ClientCollabMessage.payload, carriedOps_updatePayload]
      exact inside
  | editAwareness update =>
    refine within.withSink (within.client.sink.push ?_ ?_) server
    · rintro ⟨⟩
    · rw [receiveLocalUpdate, ClientCollabMessage.payload, read_single]
      exact Finset.empty_subset _
  | merge locksFree => exact within.withSink (within.client.sink.merge config locksFree) server
  | initSync moment => exact within.withSink (within.client.sink.initSync moment origin object _) server
  | relayout layout =>
    simp only [Exchange.step]
    split
    · rename_i permuted
      exact within.withSink (within.client.sink.of_subset (List.isPerm_iff.mp permuted).subset) server
    · exact within
  | processNextMsg locksFree =>
    exact ⟨⟨within.client.content, within.client.sink.processNextMsg locksFree⟩, within.processing, within.acks,
      within.stream⟩
  | sendFinished success =>
    refine within.withSink (within.client.sink.of_subset ?_) server
    rw [CollabSink.sendFinished_messageQueue]
    exact List.Subset.refl _
  | tick =>
    have ticked : SinkWithin yrs seat.client.sink.tick seat.transmitted (ops ∪ typed) :=
      within.client.sink.of_subset (List.Subset.refl _)
    exact within.withSink ticked server
  | setPause pause =>
    have paused : SinkWithin yrs (seat.client.sink.setPause pause) seat.transmitted (ops ∪ typed) :=
      within.client.sink.of_subset (List.Subset.refl _)
    exact within.withSink paused server
  | receiveAck ack =>
    simp only [Exchange.step]
    split
    · rename_i given
      exact within.receive server origin object _ (within.acks ack given)
    · exact within
  | process surroundings =>
    simp only [Exchange.step]
    split
    · exact within
    · rename_i msg processing
      have carried := Finset.Subset.trans (within.processing msg processing)
        (Finset.subset_union_left : ops ⊆ ops ∪ typed)
      have kept := processPayload_within config msg.origin object.objectId sets within.client surroundings carried
      exact ⟨kept, by rintro _ ⟨⟩, within.acks, within.stream⟩

theorem SeatWithin.extend (within : SeatWithin yrs ops typed seat) {messages : List CollabMessage}
    (broadcasts : ∀ message ∈ messages, ∀ op, Brings yrs message op → op ∈ ops) (subscription : Option SinkTask)
    (stopping : List SinkTask) :
    SeatWithin yrs ops typed { seat with subscription, stopping, stream := seat.stream ++ messages } :=
  ⟨within.client, within.processing, within.acks, List.forall_mem_append.mpr ⟨within.stream, broadcasts⟩⟩

/-- The runner changes nothing but the subscription. -/
theorem SeatWithin.command (within : SeatWithin yrs ops typed seat) (sender : BroadcastChannel CollabMessage)
    (firstMessage : ClientCollabMessage) : SeatWithin yrs ops typed (seat.command sender firstMessage) := by
  have removed : SeatWithin yrs ops typed seat.removeUser := ⟨within.client, within.processing, within.acks, within.stream⟩
  have subscribed {seat : Seat Op AwarenessUpdate} (within : SeatWithin yrs ops typed seat) :
      SeatWithin yrs ops typed (if seat.subscription.isSome then seat else seat.subscribe sender firstMessage) := by
    split
    · exact within
    · exact ⟨within.client, within.processing, within.acks, within.stream⟩
  rw [Seat.command]
  split
  · exact subscribed removed
  · exact subscribed within

/-- What an admitted copy carries is shared already: a writer's operations all are, and an init
    sync carries none. -/
theorem carried_of_admitted {workspaceId objectId : String} {uid : Int} {access : RealtimeAccessControl}
    {copy : ClientCollabMessage} (admitted : copy ∈ (accessControl workspaceId uid objectId access [copy]).1)
    (opens : Opens yrs copy) (carried : carriedOps yrs (MessageReader.read yrs.codec copy.payload).messages ⊆ ops ∪ typed)
    (shared : unwrapOrFalse (access.canWriteCollab workspaceId uid objectId) = true → typed ⊆ ops) :
    carriedOps yrs (MessageReader.read yrs.codec copy.payload).messages ⊆ ops := by
  cases writes : unwrapOrFalse (access.canWriteCollab workspaceId uid objectId) with
  | true => exact Finset.Subset.trans carried (Finset.union_subset (Finset.Subset.refl _) (shared writes))
  | false =>
    have init : copy.isClientInitSync = true := by
      simp only [accessControl, writes, Bool.or_false, List.partition_eq_filter_filter] at admitted
      exact (Bool.and_eq_true_iff.mp (List.mem_filter.mp admitted).2).1
    obtain ⟨known, presence, payload⟩ := opens init
    rw [payload, carriedOps_openingPayload]
    exact Finset.empty_subset _

theorem Room.Within.handle (within : self.Within yrs ops own) (sets : ExactSets yrs)
    (written : ∀ ops, yrs.decodeUpdate (eventUpdate ops) = .ok ops) (member : Member) {copy : ClientCollabMessage}
    (environment : Nat → Moment)
    (carried : carriedOps yrs (MessageReader.read yrs.codec copy.payload).messages ⊆ ops) :
    (self.handle yrs eventUpdate object member copy environment).Within yrs ops own := by
  have handled := handle_within sets environment object.objectId within.server carried
  obtain ⟨changes, messages, broadcast, observes, announces, result⟩ := self.handle_eq written member copy environment
  rw [result]
  refine ⟨handled.1, List.forall_mem_append.mpr ⟨within.broadcasts, ?_⟩, fun other => ?_⟩
  · intro message announced op brings
    obtain ⟨change, inside, _, covered⟩ := announces.caused message announced
    exact carried (observes.within change inside (covered op brings))
  · have seat := within.seats other
    simp only
    cases Decidable.em (other = member) with
    | inl same =>
      subst same
      rw [Function.update_self]
      exact ⟨seat.client, seat.processing, List.forall_mem_append.mpr ⟨seat.acks, handled.2⟩, seat.stream⟩
    | inr differs =>
      rw [Function.update_of_ne differs]
      exact seat

theorem Room.Within.step (within : self.Within yrs ops own) (sets : ExactSets yrs)
    (written : ∀ ops, yrs.decodeUpdate (eventUpdate ops) = .ok ops) {event : RoomEvent Member Op AwarenessUpdate}
    (edits : ∀ member update, event = .own member (.edit update) → updateOps yrs update ⊆ own member)
    (handles : ∀ member copy environment, event = .handle member copy environment →
      copy ∈ (self.seats member).transmitted →
        carriedOps yrs (MessageReader.read yrs.codec copy.payload).messages ⊆ ops) :
    (self.step yrs eventUpdate config object origins event).Within yrs ops own := by
  cases event with
  | handle member copy environment =>
    simp only [Room.step]
    split
    · rename_i taken
      exact within.handle sets written member environment (handles member copy environment rfl taken.2)
    · exact within
  | own member event =>
    simp only [Room.step]
    split
    · rename_i isOwn
      exact within.put ((within.seats member).step_local sets config self.server (origins member) object isOwn
        fun update same => edits member update (congrArg _ same))
    · exact within
  | connect member moment =>
    have seat := within.seats member
    exact within.put ⟨⟨seat.client.content, seat.client.sink.initSync moment _ object _⟩, seat.processing, seat.acks,
      seat.stream⟩
  | disconnect member =>
    have seat := within.seats member
    exact within.put ⟨seat.client, seat.processing, List.forall_mem_nil _, List.forall_mem_nil _⟩
  | command member firstMessage =>
    simp only [Room.step]
    split
    · exact within.put ((within.seats member).command self.sender firstMessage)
    · exact within
  | awareness update =>
    refine ⟨within.server, List.forall_mem_append.mpr ⟨within.broadcasts, List.forall_mem_singleton.mpr ?_⟩,
      within.seats⟩
    rintro op ⟨_, same, carried⟩
    cases same
    rw [ServerCollabMessage.payload, AwarenessSync.new, read_single] at carried
    exact absurd carried (Finset.notMem_empty op)
  | forward member =>
    simp only [Room.step]
    split
    · exact within
    · rename_i task _
      refine within.put ((within.seats member).extend ?_ _ _)
      intro message passed
      exact within.broadcasts message (task.turn_sent self.sender (Option.mem_toList.mp passed))
  | forwardStopping member index =>
    simp only [Room.step]
    split
    · exact within
    · rename_i task _
      refine within.put ((within.seats member).extend ?_ _ _)
      intro message passed
      exact within.broadcasts message (task.turn_sent self.sender (Option.mem_toList.mp passed))
  | deliver member moment =>
    have seat := within.seats member
    simp only [Room.step]
    split
    · exact within
    · rename_i message stream waiting
      have later : ∀ message ∈ stream, ∀ op, Brings yrs message op → op ∈ ops :=
        fun other member => seat.stream other (by rw [waiting]; exact .tail _ member)
      split
      · exact within
      · split
        · exact within.put ⟨seat.client, seat.processing, seat.acks, later⟩
        · rename_i msg taken
          have carried : carriedOps yrs (MessageReader.read yrs.codec msg.payload).messages ⊆ ops :=
            fun op member => seat.stream message (by rw [waiting]; exact .head _) op ⟨msg, taken, member⟩
          have received := seat.receive self.server (origins member) object moment carried
          exact within.put ⟨received.client, received.processing, received.acks, later⟩

/-- A step of the guarded room, when the writers' operations are shared ones. -/
theorem Room.Within.guardedStep (within : self.Within yrs ops own) (sets : ExactSets yrs)
    (written : ∀ ops, yrs.decodeUpdate (eventUpdate ops) = .ok ops) {workspaceId : String} {uids : Member → Int}
    {event : RealtimeAccessControl × RoomEvent Member Op AwarenessUpdate}
    (edits : ∀ member update, event.2 = .own member (.edit update) → updateOps yrs update ⊆ own member)
    (writers : ∀ member,
      unwrapOrFalse (event.1.canWriteCollab workspaceId (uids member) object.objectId) = true → own member ⊆ ops) :
    (self.guardedStep yrs eventUpdate config object origins workspaceId uids event).Within yrs ops own := by
  obtain ⟨access, event⟩ := event
  cases event with
  | handle member copy environment =>
    simp only [Room.guardedStep]
    split
    · rename_i admitted
      refine within.step sets written edits ?_
      rintro _ _ _ same sent
      cases same
      have sink := (within.seats member).client.sink
      exact carried_of_admitted admitted (sink.opened copy sent) (sink.sent copy sent) (writers member)
    · exact within
  | own | connect | disconnect | command | awareness | forward | forwardStopping | deliver =>
    simp only [Room.guardedStep]
    exact within.step sets written edits (by rintro _ _ _ ⟨⟩)

/-- In every run, whatever is lost, delayed or locked in it: when `own` bounds what each client
    begins with and types, and `ops` what the group begins with and the clients with write
    permission have of their own, the group's document stays within `ops` and each client's
    within `ops` and its own. -/
theorem readers_keep_to_themselves (yrs : Yrs Op StateVector AwarenessUpdate) (sets : ExactSets yrs)
    (eventUpdate : Finset Op → Bytes) (written : ∀ ops, yrs.decodeUpdate (eventUpdate ops) = .ok ops)
    (config : SinkConfig) (object : SyncObject) (origins : Member → CollabOrigin) (workspaceId : String)
    (uids : Member → Int) (server : Collab Op AwarenessUpdate) (capacity : Nat)
    (clients : Member → Collab Op AwarenessUpdate) (pause : Bool) (now : Instant)
    (events : List (RealtimeAccessControl × RoomEvent Member Op AwarenessUpdate)) (ops : Finset Op)
    (own : Member → Finset Op) (begins : server.content ⊆ ops) (documents : ∀ member, (clients member).content ⊆ own member)
    (edits : ∀ access member update, (access, .own member (.edit update)) ∈ events → updateOps yrs update ⊆ own member)
    (writers : ∀ event ∈ events, ∀ member,
      unwrapOrFalse (event.1.canWriteCollab workspaceId (uids member) object.objectId) = true → own member ⊆ ops) :
    let room := run (Room.guardedStep yrs eventUpdate config object origins workspaceId uids)
      (.new server capacity clients pause now) events
    room.server.content ⊆ ops ∧ ∀ member, (room.seats member).client.collab.content ⊆ ops ∪ own member := by
  let step := Room.guardedStep yrs eventUpdate config object origins workspaceId uids
  have admitted : Always step (fun _ event => event ∈ events) (.new server capacity clients pause now) events :=
    .of_forall fun event member => member
  have preserved : ∀ (room : Room Member Op AwarenessUpdate) event, room.Within yrs ops own → event ∈ events →
      (step room event).Within yrs ops own := by
    intro room event within inside
    refine within.guardedStep sets written ?_ (writers event inside)
    intro member update same
    exact edits event.1 member update (same ▸ inside)
  have final := admitted.invariant preserved (Room.new_within server capacity clients pause now begins documents)
  exact ⟨final.server, fun member => (final.seats member).client.content⟩

end Room

/-! ## A writer and a reader -/

def firstWrites : RealtimeAccessControl where
  canReadCollab _ _ _ := .ok true
  canWriteCollab _ uid _ := .ok (uid == 1)

/-- Client 1 types `a` and client 2, who may only read, types `b`. -/
def typedByBoth : List (RoomEvent Bool (Nat × Nat) Lib0.AwarenessUpdate) :=
  typedTogether ++ [.own true (.edit [1, 1, 1, 1, 132, 1, 0, 1, 98, 0]), .own true (.merge true),
    .own true (.processNextMsg true), .handle true (typeB.setMsgId 2) fun _ => .idle]

def typedBy : Bool → Finset (Nat × Nat)
  | false => {(1, 0)}
  | true => {(1, 1)}

theorem typedByBoth_kept :
    let room := run (Room.guardedStep (setYrs typedUpdates) typedUpdates.encode .default sharedObject twoOrigins "w"
      fun member => if member then 2 else 1) (.new ⟨∅, [], []⟩ 16 (fun _ => ⟨∅, [], []⟩) false 0)
      (typedByBoth.map (firstWrites, ·))
    room.server.content ⊆ typedBy false ∧
      ∀ member, (room.seats member).client.collab.content ⊆ typedBy false ∪ typedBy member := by
  refine readers_keep_to_themselves (setYrs typedUpdates) (setYrs_exact typedUpdates) typedUpdates.encode
    typedUpdates.decode_encode .default sharedObject twoOrigins "w" _ ⟨∅, [], []⟩ 16 (fun _ => ⟨∅, [], []⟩) false 0
    (typedByBoth.map (firstWrites, ·)) (typedBy false) typedBy (by decide) (by decide) ?_ ?_
  · intro access member update inside
    simp [typedByBoth, typedTogether, openedBy] at inside
    rcases inside with ⟨_, rfl, rfl⟩ | ⟨_, rfl, rfl⟩ <;> decide
  · intro event inside
    obtain ⟨_, _, rfl⟩ := List.mem_map.mp inside
    dsimp only
    decide

end FlowCloud.Sync
