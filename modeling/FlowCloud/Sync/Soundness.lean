import FlowCloud.Sync.ExactSets

/-! # What the sink's syncs stand for

Along an exchange the syncs in the queue are the messages that their copies say, what the
queue carries is in the client's document, and every ack was given for a copy.  The one
thing asked of the run is that the id counter does not start over.
-/

namespace FlowCloud.Sync

open FlowCloud.Foundation FlowCloud.Entity FlowCloud.Protocol FlowCloud.Client FlowCloud.Server

variable {Op StateVector AwarenessUpdate : Type} [DecidableEq Op]

/-! ## The sink -/

structure SinkSound (yrs : Yrs Op StateVector AwarenessUpdate) (sink : CollabSink)
    (transmitted : List ClientCollabMessage) (content : Finset Op) : Prop where
  posted : Posted (0 < ·.syncRank) sink.messageQueue transmitted sink.msgIdCounter
  opens : ∀ item ∈ sink.messageQueue, Opens yrs item.inner
  opened : ∀ copy ∈ transmitted, Opens yrs copy
  within : ∀ item ∈ sink.messageQueue, carriedOps yrs (item.messages yrs) ⊆ content

section Sink

variable {yrs : Yrs Op StateVector AwarenessUpdate} {sink : CollabSink} {transmitted : List ClientCollabMessage}
variable {content : Finset Op}

/-- What the next id follows from: a step that does not set the counter back. -/
theorem room_of_le {counter : Nat} (onward : counter ≤ (counter + 1) % 2 ^ 64) : counter + 1 < 2 ^ 64 := by
  omega

theorem SinkSound.mono (sound : SinkSound yrs sink transmitted content) {later : Finset Op}
    (grows : content ⊆ later) : SinkSound yrs sink transmitted later :=
  { sound with within := fun item member => Finset.Subset.trans (sound.within item member) grows }

/-- A sink with the same items in any order. -/
theorem SinkSound.of_perm (sound : SinkSound yrs sink transmitted content) {other : CollabSink}
    (permuted : other.messageQueue.Perm sink.messageQueue) (counter : other.msgIdCounter = sink.msgIdCounter) :
    SinkSound yrs other transmitted content where
  posted := by
    rw [counter]
    exact sound.posted.of_perm permuted
  opens item member := sound.opens item (permuted.subset member)
  opened := sound.opened
  within item member := sound.within item (permuted.subset member)

/-- A sink that has lost one of the items. -/
theorem SinkSound.of_removed (sound : SinkSound yrs sink transmitted content) {other : CollabSink} {item : QueueItem}
    (removed : (item :: other.messageQueue).Perm sink.messageQueue)
    (counter : other.msgIdCounter = sink.msgIdCounter) : SinkSound yrs other transmitted content where
  posted := by
    rw [counter]
    exact (sound.posted.of_perm removed).tail
  opens item member := sound.opens item (removed.subset (.tail _ member))
  opened := sound.opened
  within item member := sound.within item (removed.subset (.tail _ member))

/-- What cannot be locked stays. -/
theorem SinkSound.clear (sound : SinkSound yrs sink transmitted content) (queueFree flyingFree : Bool) :
    SinkSound yrs (sink.clear queueFree flyingFree) transmitted content := by
  cases queueFree with
  | true => exact ⟨.empty sound.posted.sentId, List.forall_mem_nil _, sound.opened, List.forall_mem_nil _⟩
  | false => exact ⟨sound.posted, sound.opens, sound.opened, sound.within⟩

theorem payload_setMsgId (message : ClientCollabMessage) (msgId : MsgId) :
    (message.setMsgId msgId).payload = message.payload := by
  cases message <;> rfl

theorem isClientInitSync_setMsgId (message : ClientCollabMessage) (msgId : MsgId) :
    (message.setMsgId msgId).isClientInitSync = message.isClientInitSync := by
  cases message <;> rfl

theorem SinkSound.push (sound : SinkSound yrs sink transmitted content) {msg : ClientCollabMessage}
    (opens : Opens yrs msg)
    (within : carriedOps yrs (MessageReader.read yrs.codec msg.payload).messages ⊆ content)
    (room : sink.msgIdCounter + 1 < 2 ^ 64) : SinkSound yrs (sink.pushMsg msg) transmitted content where
  posted := by
    simp only [CollabSink.pushMsg, Nat.mod_eq_of_lt room]
    exact sound.posted.push msg
  opens := by
    refine List.forall_mem_cons.mpr ⟨?_, sound.opens⟩
    rw [Opens, isClientInitSync_setMsgId, payload_setMsgId]
    exact opens
  opened := sound.opened
  within := by
    refine List.forall_mem_cons.mpr ⟨?_, sound.within⟩
    rw [QueueItem.messages, payload_setMsgId]
    exact within

theorem SinkSound.merge (config : SinkConfig) (sound : SinkSound yrs sink transmitted content) (locksFree : Bool) :
    SinkSound yrs (sink.merge yrs config locksFree) transmitted content where
  posted := merge_posted_syncs yrs sink.flyingMessages config sound.posted
  opens item member := by
    intro init
    exact sound.opens item (mem_of_mem_merge yrs sink.flyingMessages config (syncRank_of_initSync init) member) init
  opened := sound.opened
  within := merge_within yrs sink.flyingMessages config sound.within

theorem SinkSound.queueMsgMerged (config : SinkConfig) (sound : SinkSound yrs sink transmitted content)
    {msg : ClientCollabMessage} (opens : Opens yrs msg)
    (within : carriedOps yrs (MessageReader.read yrs.codec msg.payload).messages ⊆ content)
    (room : sink.msgIdCounter + 1 < 2 ^ 64) (locksFree : Bool) :
    SinkSound yrs (sink.queueMsgMerged yrs config msg locksFree) transmitted content :=
  (sound.push opens within room).merge config locksFree

theorem SinkSound.processNextMsg (sound : SinkSound yrs sink transmitted content) (locksFree : Bool) :
    SinkSound yrs (sink.processNextMsg locksFree).2 (transmitted ++ (sink.processNextMsg locksFree).1) content := by
  have kept := sound.of_perm (sink.processNextMsg_perm locksFree) (sink.processNextMsg_msgIdCounter locksFree)
  have queued : ∀ message ∈ (sink.processNextMsg locksFree).1,
      ∃ item ∈ (sink.processNextMsg locksFree).2.messageQueue, item.inner = message := by
    intro message handed
    obtain ⟨item, member, inner⟩ := CollabSink.processNextMsg_subset handed
    exact ⟨item, (sink.processNextMsg_perm locksFree).symm.subset member, inner⟩
  refine ⟨kept.posted.transmit queued, kept.opens, ?_, kept.within⟩
  refine List.forall_mem_append.mpr ⟨sound.opened, ?_⟩
  intro message handed
  obtain ⟨item, member, rfl⟩ := queued message handed
  exact kept.opens item member

theorem SinkSound.validateResponse (sound : SinkSound yrs sink transmitted content)
    (serverMessage : ServerCollabMessage) :
    SinkSound yrs (sink.validateResponse serverMessage).2 transmitted content := by
  cases sink.validateResponse_cases serverMessage with
  | inl same => exact sound.of_perm same (sink.validateResponse_msgIdCounter serverMessage)
  | inr held =>
    obtain ⟨item, _, removed⟩ := held
    exact sound.of_removed removed (sink.validateResponse_msgIdCounter serverMessage)

end Sink

/-! ## The client -/

section Client

variable {yrs : Yrs Op StateVector AwarenessUpdate} {transmitted : List ClientCollabMessage}

theorem docInitState_eq {moment : SyncMoment} {collab : Collab Op AwarenessUpdate} {payload : Bytes}
    (started : docInitState yrs moment collab = some payload) :
    payload = openingPayload yrs collab.content collab.awareness := by
  rw [docInitState] at started
  cases opened : CollabSyncProtocol.start yrs moment.transactions moment.awareness collab with
  | error err => rw [opened] at started; cases started
  | ok start =>
    rw [opened] at started
    simp only at started
    split at started
    · cases started
    · obtain rfl := Option.some.inj started
      simp only [CollabSyncProtocol.start] at opened
      cases read : moment.transactions.read with
      | error message => rw [read] at opened; cases opened
      | ok done =>
        cases encoded : moment.awareness with
        | error message => rw [read, encoded] at opened; cases opened
        | ok done =>
          rw [read, encoded] at opened
          exact (Except.ok.inj opened).symm

theorem carriedOps_openingPayload (known : Finset Op) (presence : AwarenessUpdate) :
    carriedOps yrs (MessageReader.read yrs.codec (openingPayload yrs known presence)).messages = ∅ := by
  rw [openingPayload, read_pair]
  rfl

theorem initSync_sound (origin : CollabOrigin) (object : SyncObject) {self : ObserveCollab Op AwarenessUpdate}
    {moment : SyncMoment} (sound : SinkSound yrs self.sink transmitted self.collab.content)
    (onward : self.sink.msgIdCounter ≤ (initSync yrs moment origin object self.collab self.sink).msgIdCounter) :
    SinkSound yrs (initSync yrs moment origin object self.collab self.sink) transmitted self.collab.content := by
  rw [initSync] at onward ⊢
  cases started : docInitState yrs moment self.collab with
  | none => exact sound
  | some payload =>
    rw [started] at onward
    obtain rfl := docInitState_eq started
    simp only [CollabSink.queueInitSync] at onward ⊢
    refine (sound.clear moment.queueFree moment.flyingFree).push ?_ ?_ (room_of_le onward)
    · exact fun _ => ⟨_, _, rfl⟩
    · rw [ClientCollabMessage.payload, carriedOps_openingPayload]
      exact Finset.empty_subset _

/-- The client answers a question with a part of its document. -/
theorem client_answer {transactions : Transactions} {collab : Collab Op AwarenessUpdate} {stateVector : StateVector}
    {payload : Bytes}
    (answer : (ClientSyncProtocol yrs).handleSyncStep1 transactions collab stateVector = .ok (some payload)) :
    payload = (Message.sync (.syncStep2 (yrs.encodeStateAsUpdate collab.content stateVector)) :
      Message StateVector AwarenessUpdate).encode yrs.codec := by
  simp only [ClientSyncProtocol] at answer
  cases opened : transactions.read with
  | error message => rw [opened] at answer; cases answer
  | ok done =>
    rw [opened] at answer
    exact (Option.some.inj (Except.ok.inj answer)).symm

theorem opens_replyMessage (origin : CollabOrigin) (objectId : String) (msgId : MsgId) (asked : Bool)
    (payload : Bytes) : Opens yrs (replyMessage origin objectId msgId asked payload) := by
  cases asked <;> rintro ⟨⟩

theorem payload_replyMessage (origin : CollabOrigin) (objectId : String) (msgId : MsgId) (asked : Bool)
    (payload : Bytes) : (replyMessage origin objectId msgId asked payload).payload = payload := by
  cases asked <;> rfl

theorem carriedOps_syncStep2 (update : Bytes) :
    carriedOps yrs (MessageReader.read yrs.codec
      ((Message.sync (.syncStep2 update) : Message StateVector AwarenessUpdate).encode yrs.codec)).messages =
      updateOps yrs update := by
  rw [read_single]
  exact Finset.union_empty _

theorem ExactSets.updateOps_subset (sets : ExactSets yrs) (content : Finset Op) (stateVector : StateVector) :
    updateOps yrs (yrs.encodeStateAsUpdate content stateVector) ⊆ content := by
  rw [updateOps]
  cases decoded : yrs.decodeUpdate (yrs.encodeStateAsUpdate content stateVector) with
  | error failure => exact Finset.empty_subset _
  | ok update => exact sets.within _ _ _ decoded

section Payload

variable (yrs) (config : SinkConfig) (origin : CollabOrigin) (objectId : String)

theorem processInner_grows (self : ObserveCollab Op AwarenessUpdate)
    (msg : Message StateVector AwarenessUpdate × PayloadMoment) :
    self.collab.content ⊆ (processInner yrs config origin objectId self msg).2.collab.content := by
  have content := handleCollabMessage_content yrs msg.2.transactions origin (ClientSyncProtocol yrs) self.collab msg.1
  have grows : self.collab.content ⊆
      (handleCollabMessage yrs msg.2.transactions origin (ClientSyncProtocol yrs) self.collab msg.1).2.content := by
    rw [content]
    split
    · exact Finset.subset_union_left
    · exact Finset.Subset.refl _
  rw [processInner]
  split
  all_goals
    rename_i handled
    rw [handled] at grows
    exact grows

theorem processInners_grows (self : ObserveCollab Op AwarenessUpdate)
    (msgs : List (Message StateVector AwarenessUpdate × PayloadMoment)) :
    self.collab.content ⊆ (processInners yrs config origin objectId msgs self).2.collab.content := by
  induction msgs generalizing self with
  | nil => exact Finset.Subset.refl _
  | cons msg msgs inductionHypothesis =>
    have grows := processInner_grows yrs config origin objectId self msg
    rw [processInners]
    split
    · rename_i processed
      rwa [processed] at grows
    · rename_i processed
      rw [processed] at grows
      exact Finset.Subset.trans grows (inductionHypothesis _)

theorem processPayload_grows (surroundings : Surroundings) (payload : Bytes)
    (self : ObserveCollab Op AwarenessUpdate) :
    self.collab.content ⊆
      (processPayload yrs config surroundings origin payload objectId self).2.collab.content := by
  rw [processPayload_snd]
  split
  · exact processInners_grows yrs config origin objectId self _
  · exact Finset.Subset.refl _

/-- Only a question takes an id. -/
theorem processInner_msgIdCounter {msg : Message StateVector AwarenessUpdate × PayloadMoment}
    (silent : isSyncStep1 msg.1 = false) (self : ObserveCollab Op AwarenessUpdate) :
    (processInner yrs config origin objectId self msg).2.sink.msgIdCounter = self.sink.msgIdCounter := by
  rw [processInner]
  split
  · rfl
  · rfl
  · rename_i handled
    have asks := isSyncStep1_of_answer yrs (congrArg Prod.fst handled)
    rw [silent] at asks
    cases asks

theorem processInners_msgIdCounter {msgs : List (Message StateVector AwarenessUpdate × PayloadMoment)}
    (silent : ∀ msg ∈ msgs, isSyncStep1 msg.1 = false) (self : ObserveCollab Op AwarenessUpdate) :
    (processInners yrs config origin objectId msgs self).2.sink.msgIdCounter = self.sink.msgIdCounter := by
  induction msgs generalizing self with
  | nil => rfl
  | cons msg msgs inductionHypothesis =>
    rw [List.forall_mem_cons] at silent
    have same := processInner_msgIdCounter yrs config origin objectId silent.1 self
    rw [processInners]
    split
    · rename_i processed
      rwa [processed] at same
    · rename_i processed
      rw [processed] at same
      rw [inductionHypothesis silent.2, same]

variable {yrs}

theorem processInner_sound (sets : ExactSets yrs) {self : ObserveCollab Op AwarenessUpdate}
    (sound : SinkSound yrs self.sink transmitted self.collab.content)
    (msg : Message StateVector AwarenessUpdate × PayloadMoment)
    (onward : self.sink.msgIdCounter ≤ (processInner yrs config origin objectId self msg).2.sink.msgIdCounter) :
    SinkSound yrs (processInner yrs config origin objectId self msg).2.sink transmitted
      (processInner yrs config origin objectId self msg).2.collab.content := by
  have grown := sound.mono (processInner_grows yrs config origin objectId self msg)
  rw [processInner] at onward grown ⊢
  split
  · rename_i handled
    rw [handled] at grown
    exact grown
  · rename_i handled
    rw [handled] at grown
    exact grown
  · rename_i payload collab handled
    rw [handled] at grown onward
    -- the answer is part of the document
    obtain ⟨stateVector, question, answer⟩ := handleCollabMessage_answer yrs (congrArg Prod.fst handled)
    have part : carriedOps yrs (MessageReader.read yrs.codec payload).messages ⊆ self.collab.content := by
      rw [client_answer answer, carriedOps_syncStep2]
      exact sets.updateOps_subset _ _
    have grows := processInner_grows yrs config origin objectId self msg
    rw [processInner, handled] at grows
    refine grown.queueMsgMerged config (opens_replyMessage _ _ _ _ _) ?_ (room_of_le onward) _
    rw [payload_replyMessage]
    exact Finset.Subset.trans part grows

/-- A payload with at most one question takes at most one id. -/
theorem processInners_sound (sets : ExactSets yrs)
    {msgs : List (Message StateVector AwarenessUpdate × PayloadMoment)}
    (once : msgs.countP (fun msg => isSyncStep1 msg.1) ≤ 1) {self : ObserveCollab Op AwarenessUpdate}
    (sound : SinkSound yrs self.sink transmitted self.collab.content)
    (onward : self.sink.msgIdCounter ≤ (processInners yrs config origin objectId msgs self).2.sink.msgIdCounter) :
    SinkSound yrs (processInners yrs config origin objectId msgs self).2.sink transmitted
      (processInners yrs config origin objectId msgs self).2.collab.content := by
  induction msgs generalizing self with
  | nil => exact sound
  | cons msg msgs inductionHypothesis =>
    rw [List.countP_cons] at once
    rw [processInners] at onward ⊢
    cases processed : processInner yrs config origin objectId self msg with
    | mk result next =>
      have stepped : (processInner yrs config origin objectId self msg).2 = next := congrArg Prod.snd processed
      have sounds := processInner_sound config origin objectId sets sound msg
      rw [stepped] at sounds
      rw [processed] at onward
      cases result with
      | error err => exact sounds onward
      | ok done =>
        simp only at onward ⊢
        cases asks : isSyncStep1 msg.1 with
        | true =>
          -- the question was this one, and the rest takes no id
          have none : msgs.countP (fun msg => isSyncStep1 msg.1) = 0 := by
            rw [asks] at once
            exact Nat.le_zero.mp (Nat.le_of_succ_le_succ once)
          have silent : ∀ msg ∈ msgs, isSyncStep1 msg.1 = false := by simpa using List.countP_eq_zero.mp none
          rw [processInners_msgIdCounter yrs config origin objectId silent] at onward
          refine inductionHypothesis (none.trans_le Nat.one_pos.le) (sounds onward) ?_
          rw [processInners_msgIdCounter yrs config origin objectId silent]
        | false =>
          have same := processInner_msgIdCounter yrs config origin objectId asks self
          rw [stepped] at same
          rw [← same] at onward
          refine inductionHypothesis ?_ (sounds same.ge) onward
          rw [asks] at once
          simpa using once

theorem countP_payloadMessages (moments : Nat → PayloadMoment) (payload : Bytes) :
    (payloadMessages yrs moments payload).countP (fun msg => isSyncStep1 msg.1) = questions yrs payload := by
  rw [payloadMessages, List.countP_map, questions]
  have messages : (MessageReader.read yrs.codec payload).messages.zipIdx.map Prod.fst =
      (MessageReader.read yrs.codec payload).messages := List.zipIdx_map_fst _ _
  conv_rhs => rw [← messages, List.countP_map]
  rfl

theorem processPayload_sound (sets : ExactSets yrs) {surroundings : Surroundings} {payload : Bytes}
    (once : questions yrs payload ≤ 1) {self : ObserveCollab Op AwarenessUpdate}
    (sound : SinkSound yrs self.sink transmitted self.collab.content)
    (onward : self.sink.msgIdCounter ≤
      (processPayload yrs config surroundings origin payload objectId self).2.sink.msgIdCounter) :
    SinkSound yrs (processPayload yrs config surroundings origin payload objectId self).2.sink transmitted
      (processPayload yrs config surroundings origin payload objectId self).2.collab.content := by
  rw [processPayload_snd] at onward ⊢
  split
  · rename_i lockFree
    rw [if_pos lockFree] at onward
    rw [← countP_payloadMessages surroundings.payload] at once
    exact processInners_sound config origin objectId sets once sound onward
  · exact sound

end Payload

/-! ## Server messages -/

variable (yrs) in
theorem noticeBroadcast_sink (moment : SyncMoment) (origin : CollabOrigin) (object : SyncObject)
    (msg : ServerCollabMessage) (self : ObserveCollab Op AwarenessUpdate) :
    (noticeBroadcast yrs moment origin object msg self).collab = self.collab ∧
      ((noticeBroadcast yrs moment origin object msg self).sink = self.sink ∨
        (noticeBroadcast yrs moment origin object msg self).sink =
          initSync yrs moment origin object self.collab self.sink) := by
  cases msg with
  | clientAck | serverInitSync | awarenessSync => exact ⟨rfl, .inl rfl⟩
  | serverBroadcast data =>
    rw [noticeBroadcast]
    split
    · rw [tryInitSync]
      split
      · simp only
        split
        · exact ⟨rfl, .inr rfl⟩
        · exact ⟨rfl, .inl rfl⟩
      · exact ⟨rfl, .inl rfl⟩
    · exact ⟨rfl, .inl rfl⟩

theorem acceptMessage_sound (moment : SyncMoment) (origin : CollabOrigin) (object : SyncObject)
    (msg : ServerCollabMessage) {self : ObserveCollab Op AwarenessUpdate}
    (sound : SinkSound yrs self.sink transmitted self.collab.content)
    (onward : self.sink.msgIdCounter ≤ (acceptMessage yrs moment origin object msg self).2.sink.msgIdCounter) :
    SinkSound yrs (acceptMessage yrs moment origin object msg self).2.sink transmitted
      (acceptMessage yrs moment origin object msg self).2.collab.content := by
  rw [acceptMessage] at onward ⊢
  split
  · exact sound
  · rename_i accepts
    rw [if_neg accepts] at onward
    simp only [CollabSink.validateResponse_msgIdCounter] at onward ⊢
    refine SinkSound.validateResponse ?_ msg
    obtain ⟨collab, same | synced⟩ := noticeBroadcast_sink yrs moment origin object msg self
    · rw [collab, same]
      exact sound
    · rw [synced] at onward
      rw [collab, synced]
      exact initSync_sound origin object sound onward

end Client

/-! ## The exchange -/

structure Exchange.Sound (yrs : Yrs Op StateVector AwarenessUpdate) (system : Exchange Op AwarenessUpdate) :
    Prop where
  sink : SinkSound yrs system.client.sink system.transmitted system.client.collab.content
  answered : ∀ ack ∈ system.acks, ∃ copy ∈ system.transmitted, copy.msgId = ack.source.msgId ∧
    Answers yrs copy ack system.server.content
  asks : ∀ ack ∈ system.acks, questions yrs ack.payload ≤ 1
  processes : ∀ msg, system.processing = some msg → questions yrs msg.payload ≤ 1

section Exchange

variable {yrs : Yrs Op StateVector AwarenessUpdate} {self : Exchange Op AwarenessUpdate}

theorem Exchange.new_sound (client server : Collab Op AwarenessUpdate) (pause : Bool) (now : Instant) :
    (Exchange.new client server pause now).Sound yrs where
  sink :=
    { posted := .empty (List.forall_mem_nil _)
      opens := List.forall_mem_nil _
      opened := List.forall_mem_nil _
      within := List.forall_mem_nil _ }
  answered := List.forall_mem_nil _
  asks := List.forall_mem_nil _
  processes := by rintro msg ⟨⟩

theorem Exchange.Sound.withSink (sound : self.Sound yrs) {sink : CollabSink}
    (kept : SinkSound yrs sink self.transmitted self.client.collab.content) : (self.withSink sink).Sound yrs :=
  ⟨kept, sound.answered, sound.asks, sound.processes⟩

theorem Exchange.Sound.receive (origin : CollabOrigin) (object : SyncObject) (sound : self.Sound yrs)
    {moment : SyncMoment} {msg : ServerCollabMessage} (once : questions yrs msg.payload ≤ 1)
    (onward : self.client.sink.msgIdCounter ≤ (self.receive yrs origin object moment msg).client.sink.msgIdCounter) :
    (self.receive yrs origin object moment msg).Sound yrs := by
  rw [Exchange.receive] at onward ⊢
  split
  · exact sound
  · rename_i ready
    rw [if_neg ready] at onward
    have accepted := acceptMessage_sound moment origin object msg sound.sink
    cases accepts : acceptMessage yrs moment origin object msg self.client with
    | mk result client =>
      rw [accepts] at onward accepted
      cases result with
      | error err => exact ⟨accepted onward, sound.answered, sound.asks, sound.processes⟩
      | ok isValid =>
        refine ⟨accepted onward, sound.answered, sound.asks, ?_⟩
        intro taken processes
        simp only at processes
        split at processes
        · cases processes
          exact once
        · cases processes

/-! ## Steps -/

/-- The server and the client's receiving find every lock and every transaction free. -/
def Undisturbed : ExchangeEvent Op AwarenessUpdate → Prop
  | .handle _ environment => ∀ index, environment index = .idle
  | .process surroundings => surroundings.payloadLockFree = true ∧ ∀ index, surroundings.payload index = .idle
  | _ => True

/-- The id counter does not start over. -/
def FreshIds (yrs : Yrs Op StateVector AwarenessUpdate) (config : SinkConfig) (origin : CollabOrigin)
    (object : SyncObject) (self : Exchange Op AwarenessUpdate) (event : ExchangeEvent Op AwarenessUpdate) : Prop :=
  self.client.sink.msgIdCounter ≤ (self.step yrs config origin object event).client.sink.msgIdCounter

instance (yrs : Yrs Op StateVector AwarenessUpdate) (config : SinkConfig) (origin : CollabOrigin)
    (object : SyncObject) (self : Exchange Op AwarenessUpdate) (event : ExchangeEvent Op AwarenessUpdate) :
    Decidable (FreshIds yrs config origin object self event) :=
  inferInstanceAs (Decidable (_ ≤ _))

theorem questions_broadcastMessage (object : SyncObject) (sender : CollabOrigin) (update : Bytes) (seqNum : UInt32) :
    questions yrs (broadcastMessage yrs object sender update seqNum).payload = 0 := by
  have silent : isSyncStep1 (.sync (.update update) : Message StateVector AwarenessUpdate) = false := rfl
  exact questions_encode yrs silent

theorem questions_awarenessMessage (object : SyncObject) (update : AwarenessUpdate) :
    questions yrs (awarenessMessage yrs object update).payload = 0 := by
  have silent : isSyncStep1 (.awareness update : Message StateVector AwarenessUpdate) = false := rfl
  exact questions_encode yrs silent

theorem carriedOps_updatePayload (update : Bytes) :
    carriedOps yrs (MessageReader.read yrs.codec (updatePayload yrs update)).messages = updateOps yrs update := by
  rw [read_updatePayload]
  exact Finset.union_empty _

theorem Exchange.Sound.edit (origin : CollabOrigin) (object : SyncObject) (sound : self.Sound yrs) (update : Bytes)
    (onward : self.client.sink.msgIdCounter ≤ (self.edit yrs origin object update).client.sink.msgIdCounter) :
    (self.edit yrs origin object update).Sound yrs := by
  have grown : SinkSound yrs self.client.sink _ (self.client.collab.content ∪ updateOps yrs update) :=
    sound.sink.mono Finset.subset_union_left
  refine ⟨grown.push ?_ ?_ (room_of_le onward), sound.answered, sound.asks, sound.processes⟩
  · rintro ⟨⟩
  · rw [receiveLocalState, ClientCollabMessage.payload, carriedOps_updatePayload]
    exact Finset.subset_union_right

theorem Exchange.Sound.handle (sets : ExactSets yrs) (objectId : String) (sound : self.Sound yrs)
    {copy : ClientCollabMessage} (sent : copy ∈ self.transmitted) {environment : Nat → Moment}
    (idle : ∀ index, environment index = .idle) :
    ({ self with
        server := (handleClientCollabMessage yrs environment objectId copy self.server).collab
        acks := self.acks ++ (handleClientCollabMessage yrs environment objectId copy self.server).resps } :
      Exchange Op AwarenessUpdate).Sound yrs := by
  have grows := handleClientCollabMessage_grows yrs environment objectId copy self.server
  refine ⟨sound.sink, ?_, ?_, sound.processes⟩
  · refine List.forall_mem_append.mpr ⟨?_, ?_⟩
    · intro ack given
      obtain ⟨source, transmitted, own, answers⟩ := sound.answered ack given
      exact ⟨source, transmitted, own, answers.mono yrs grows⟩
    · intro ack given
      exact ⟨copy, sent, (handle_ids environment objectId copy self.server ack given).symm,
        handle_answers sets idle objectId (sound.sink.opened copy sent) self.server ack given⟩
  · exact List.forall_mem_append.mpr ⟨sound.asks, handle_asks environment objectId copy self.server⟩

theorem Exchange.Sound.step (sets : ExactSets yrs) (config : SinkConfig) (origin : CollabOrigin) (object : SyncObject)
    (sound : self.Sound yrs) {event : ExchangeEvent Op AwarenessUpdate} (undisturbed : Undisturbed event)
    (fresh : FreshIds yrs config origin object self event) : (self.step yrs config origin object event).Sound yrs := by
  rw [FreshIds] at fresh
  cases event with
  | edit update => exact sound.edit origin object update fresh
  | editAwareness update =>
    refine sound.withSink (sound.sink.push ?_ ?_ (room_of_le fresh))
    · rintro ⟨⟩
    · rw [receiveLocalUpdate, ClientCollabMessage.payload, read_single]
      exact Finset.empty_subset _
  | merge locksFree => exact sound.withSink (sound.sink.merge config locksFree)
  | initSync moment => exact sound.withSink (initSync_sound origin object sound.sink fresh)
  | relayout layout =>
    simp only [Exchange.step]
    split
    · rename_i permuted
      exact sound.withSink (sound.sink.of_perm (List.isPerm_iff.mp permuted) rfl)
    · exact sound
  | processNextMsg locksFree =>
    refine ⟨sound.sink.processNextMsg locksFree, ?_, sound.asks, sound.processes⟩
    intro ack given
    obtain ⟨copy, transmitted, answers⟩ := sound.answered ack given
    exact ⟨copy, List.mem_append_left _ transmitted, answers⟩
  | sendFinished success =>
    refine sound.withSink (sound.sink.of_perm ?_ ?_)
    · rw [CollabSink.sendFinished_messageQueue]
    · rw [CollabSink.sendFinished_msgIdCounter]
  | tick => exact sound.withSink (sound.sink.of_perm (.refl _) rfl)
  | setPause pause => exact sound.withSink (sound.sink.of_perm (.refl _) rfl)
  | handle copy environment =>
    simp only [Exchange.step]
    split
    · rename_i sent
      exact sound.handle sets object.objectId sent undisturbed
    · exact sound
  | change update =>
    refine ⟨sound.sink, ?_, sound.asks, sound.processes⟩
    intro ack given
    obtain ⟨copy, transmitted, own, answers⟩ := sound.answered ack given
    exact ⟨copy, transmitted, own, answers.mono yrs Finset.subset_union_left⟩
  | receiveAck ack =>
    simp only [Exchange.step] at fresh ⊢
    split
    · rename_i given
      rw [if_pos given] at fresh
      exact sound.receive origin object (sound.asks ack given) fresh
    · exact sound
  | receiveBroadcast sender update seqNum moment =>
    exact sound.receive origin object ((questions_broadcastMessage object sender update seqNum).trans_le Nat.one_pos.le)
      fresh
  | receiveAwareness update =>
    exact sound.receive origin object ((questions_awarenessMessage object update).trans_le Nat.one_pos.le) fresh
  | process surroundings =>
    simp only [Exchange.step] at fresh ⊢
    cases processing : self.processing with
    | none => exact sound
    | some msg =>
      rw [processing] at fresh
      have kept := processPayload_sound config msg.origin object.objectId sets (sound.processes msg processing)
        sound.sink fresh
      exact ⟨kept, sound.answered, sound.asks, by rintro _ ⟨⟩⟩

end Exchange

end FlowCloud.Sync
