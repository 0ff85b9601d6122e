import FlowCloud.Sync.Soundness

/-! # Init syncs cover what they clear

An init sync throws the queued edits away.  What they brought is in the client's document,
and the exchange that the init sync opens carries it: as long as the init sync is queued, the
edits will be part of the client's answer; then the server's question is being processed;
then the answer itself is queued; then the server has them.
-/

namespace FlowCloud.Sync

open FlowCloud.Foundation FlowCloud.Entity FlowCloud.Protocol FlowCloud.Client FlowCloud.Server

variable {Op StateVector AwarenessUpdate : Type} [DecidableEq Op]

/-! ## On the way to the server -/

section OnTheWay

variable (yrs : Yrs Op StateVector AwarenessUpdate)

/-- An init sync brings every operation in the end, any other sync those it carries. -/
def Conveys (item : QueueItem) (op : Op) : Prop :=
  item.inner.isClientInitSync = true ∨ 0 < item.syncRank ∧ op ∈ carriedOps yrs (item.messages yrs)

/-- The server's answer to an init sync, which asks for what some of its document misses. -/
def Asks (msg : ServerCollabMessage) (content : Finset Op) : Prop :=
  ∃ update ops known, yrs.decodeUpdate update = .ok ops ∧ known ⊆ content ∧
    msg.payload = answerPayload yrs update known

def OnTheWay (system : Exchange Op AwarenessUpdate) (op : Op) : Prop :=
  op ∈ system.server.content ∨ (∃ item ∈ system.client.sink.messageQueue, Conveys yrs item op) ∨
    ∃ msg, system.processing = some msg ∧ Asks yrs msg system.server.content

/-- The client has the operation, and it is on its way. -/
structure Covered (system : Exchange Op AwarenessUpdate) (op : Op) : Prop where
  own : op ∈ system.client.collab.content
  onTheWay : OnTheWay yrs system op

end OnTheWay

section Steps

variable {yrs : Yrs Op StateVector AwarenessUpdate} {self next : Exchange Op AwarenessUpdate} {op : Op}

theorem Conveys.ranked {item : QueueItem} (conveys : Conveys yrs item op) : 0 < item.syncRank :=
  conveys.elim syncRank_of_initSync And.left

theorem Asks.mono {msg : ServerCollabMessage} {content later : Finset Op} (asks : Asks yrs msg content)
    (grows : content ⊆ later) : Asks yrs msg later := by
  obtain ⟨update, ops, known, decoded, within, payload⟩ := asks
  exact ⟨update, ops, known, decoded, Finset.Subset.trans within grows, payload⟩

/-- A step that keeps the syncs and what is processed. -/
theorem OnTheWay.of_kept (onTheWay : OnTheWay yrs self op)
    (server : self.server.content ⊆ next.server.content)
    (queue : ∀ item ∈ self.client.sink.messageQueue, 0 < item.syncRank → item ∈ next.client.sink.messageQueue)
    (processing : next.processing = self.processing) : OnTheWay yrs next op := by
  rcases onTheWay with has | ⟨item, member, conveys⟩ | ⟨msg, processes, asks⟩
  · exact .inl (server has)
  · exact .inr (.inl ⟨item, queue item member conveys.ranked, conveys⟩)
  · exact .inr (.inr ⟨msg, processing.trans processes, asks.mono server⟩)

theorem Covered.withSink (covered : Covered yrs self op) {sink : CollabSink}
    (kept : ∀ item ∈ self.client.sink.messageQueue, 0 < item.syncRank → item ∈ sink.messageQueue) :
    Covered yrs (self.withSink sink) op :=
  ⟨covered.own, covered.onTheWay.of_kept (Finset.Subset.refl _) kept rfl⟩

/-! ## Init syncs -/

theorem initSync_queued {moment : SyncMoment} {collab : Collab Op AwarenessUpdate}
    (started : (docInitState yrs moment collab).isSome = true) (origin : CollabOrigin) (object : SyncObject)
    (sink : CollabSink) :
    ∃ item ∈ (initSync yrs moment origin object collab sink).messageQueue, item.inner.isClientInitSync = true := by
  obtain ⟨payload, start⟩ := Option.isSome_iff_exists.mp started
  rw [initSync, start]
  exact ⟨_, .head _, rfl⟩

variable (yrs) in
/-- An init sync keeps the sink as it is or covers everything. -/
theorem initSync_cases (moment : SyncMoment) (origin : CollabOrigin) (object : SyncObject)
    (collab : Collab Op AwarenessUpdate) (sink : CollabSink) :
    initSync yrs moment origin object collab sink = sink ∨
      ∃ item ∈ (initSync yrs moment origin object collab sink).messageQueue,
        item.inner.isClientInitSync = true := by
  cases started : docInitState yrs moment collab with
  | none => exact .inl (by rw [initSync, started])
  | some payload => exact .inr (initSync_queued (by rw [started]; rfl) origin object sink)

theorem Covered.initSync (covered : Covered yrs self op) (moment : SyncMoment) (origin : CollabOrigin)
    (object : SyncObject) :
    Covered yrs (self.withSink (Client.initSync yrs moment origin object self.client.collab self.client.sink)) op := by
  rcases initSync_cases yrs moment origin object self.client.collab self.client.sink with
    same | ⟨item, member, init⟩
  · exact covered.withSink fun item member _ => by rwa [same]
  · exact ⟨covered.own, .inr (.inl ⟨item, member, .inl init⟩)⟩

/-! ## Server messages -/

omit [DecidableEq Op] in
theorem processing_of_ready (ready : ¬ (self.stopped || self.processing.isSome) = true) : self.processing = none := by
  rw [Bool.or_eq_true, not_or, Bool.not_eq_true, Bool.not_eq_true, Option.isSome_eq_false_iff,
    Option.isNone_iff_eq_none] at ready
  exact ready.2

/-- While nothing is processed, what is on its way is at the server or queued. -/
theorem OnTheWay.idle (onTheWay : OnTheWay yrs self op) (idle : self.processing = none) :
    op ∈ self.server.content ∨ ∃ item ∈ self.client.sink.messageQueue, Conveys yrs item op := by
  rcases onTheWay with has | queued | ⟨msg, processes, _⟩
  · exact .inl has
  · exact .inr queued
  · rw [idle] at processes
    cases processes

/-- A broadcast or awareness takes nothing out of the queue, but for an init sync. -/
theorem Covered.receive_unnumbered (covered : Covered yrs self op) (origin : CollabOrigin) (object : SyncObject)
    (moment : SyncMoment) {msg : ServerCollabMessage} (unnumbered : msg.msgId = none) :
    Covered yrs (self.receive yrs origin object moment msg) op := by
  rw [Exchange.receive]
  split
  · exact covered
  · rename_i ready
    have lets : refusesUpdate msg = false := by
      cases msg with
      | clientAck | serverInitSync => cases unnumbered
      | awarenessSync | serverBroadcast => rfl
    have accepts : acceptMessage yrs moment origin object msg self.client =
        (.ok true, noticeBroadcast yrs moment origin object msg self.client) := by
      simp only [acceptMessage, lets, Bool.false_eq_true, if_false, CollabSink.validateResponse, unnumbered]
    rw [accepts]
    obtain ⟨collab, sink⟩ := noticeBroadcast_sink yrs moment origin object msg self.client
    refine ⟨?_, ?_⟩
    · simp only [collab]
      exact covered.own
    cases covered.onTheWay.idle (processing_of_ready ready) with
    | inl has => exact .inl has
    | inr held =>
      obtain ⟨item, member, conveys⟩ := held
      refine .inr (.inl ?_)
      simp only
      cases sink with
      | inl same =>
        rw [same]
        exact ⟨item, member, conveys⟩
      | inr synced =>
        rw [synced]
        rcases initSync_cases yrs moment origin object self.client.collab self.client.sink with
          same | ⟨item, member, init⟩
        · rw [same]
          exact ⟨item, member, conveys⟩
        · exact ⟨item, member, .inl init⟩

/-- The ack with an item's id was given for the item as it is. -/
theorem Exchange.Sound.acknowledges (sound : self.Sound yrs) {ack : CollabAck} (given : ack ∈ self.acks)
    {item : QueueItem} (member : item ∈ self.client.sink.messageQueue) (conveys : Conveys yrs item op)
    (own : ack.source.msgId = item.msgId) :
    op ∈ self.server.content ∨ Asks yrs (.clientAck ack) self.server.content := by
  obtain ⟨copy, sent, source, carried, opened⟩ := sound.answered ack given
  obtain rfl := sound.sink.posted.unchanged copy sent item member conveys.ranked (source.trans own)
  cases conveys with
  | inl init => exact .inr (opened init)
  | inr held =>
    obtain ⟨_, inside⟩ := held
    exact .inl (carried inside)

theorem Asks.payload_ne_nil {msg : ServerCollabMessage} {content : Finset Op} (asks : Asks yrs msg content) :
    msg.payload.isEmpty = false := by
  obtain ⟨update, ops, known, _, _, payload⟩ := asks
  rw [payload, List.isEmpty_eq_false_iff]
  exact answerPayload_ne_nil yrs update known

/-- An ack that takes out an item leaves what the item brings at the server or in process. -/
theorem Covered.receive_ack (covered : Covered yrs self op) (sound : self.Sound yrs) (origin : CollabOrigin)
    (object : SyncObject) {ack : CollabAck} (given : ack ∈ self.acks) (moment : SyncMoment) :
    Covered yrs (self.receive yrs origin object moment (.clientAck ack)) op := by
  rw [Exchange.receive]
  split
  · exact covered
  rename_i ready
  have idle := processing_of_ready ready
  cases refuses : refusesUpdate (.clientAck ack) with
  | true =>
    have accepts : acceptMessage yrs moment origin object (.clientAck ack) self.client =
        (.error (.cannotApplyUpdate object.objectId), self.client) := by
      rw [acceptMessage, if_pos refuses]
    rw [accepts]
    exact ⟨covered.own, covered.onTheWay.of_kept (Finset.Subset.refl _) (fun _ member _ => member) rfl⟩
  | false =>
    have accepts : acceptMessage yrs moment origin object (.clientAck ack) self.client =
        (.ok (self.client.sink.validateResponse (.clientAck ack)).1,
          { self.client with sink := (self.client.sink.validateResponse (.clientAck ack)).2 }) := by
      simp only [acceptMessage, refuses, Bool.false_eq_true, if_false, noticeBroadcast]
    rw [accepts]
    refine ⟨covered.own, ?_⟩
    rcases covered.onTheWay.idle idle with has | ⟨item, member, conveys⟩
    · exact .inl has
    cases valid : (self.client.sink.validateResponse (.clientAck ack)).1 with
    | false =>
      have kept := (CollabSink.validateResponse_refused _ valid).symm.subset member
      exact .inr (.inl ⟨item, kept, conveys⟩)
    | true =>
      cases self.client.sink.validateResponse_cases (.clientAck ack) with
      | inl same => exact .inr (.inl ⟨item, same.symm.subset member, conveys⟩)
      | inr held =>
        obtain ⟨removed, own, left⟩ := held
        rcases List.mem_cons.mp (left.symm.subset member) with rfl | stays
        · -- the item itself was answered
          cases sound.acknowledges given member conveys (Option.some.inj own) with
          | inl has => exact .inl has
          | inr asks =>
            refine .inr (.inr ⟨.clientAck ack, ?_, asks⟩)
            simp only [asks.payload_ne_nil, Bool.not_false, Bool.and_self, if_true]
        · exact .inr (.inl ⟨item, stays, conveys⟩)

/-! ## The answer -/

theorem payloadMessages_answer {moments : Nat → PayloadMoment} (idle : ∀ index, moments index = .idle)
    (update : Bytes) (known : Finset Op) :
    payloadMessages yrs moments (answerPayload yrs update known) =
      [(.sync (.syncStep2 update), .idle), (.sync (.syncStep1 (yrs.stateVector known)), .idle)] := by
  rw [payloadMessages, answerPayload, read_pair]
  simp [idle]

section Answer

variable (config : SinkConfig) (origin : CollabOrigin) (objectId : String) (client : ObserveCollab Op AwarenessUpdate)

/-- The server's update comes into the document. -/
theorem processInner_update (sets : ExactSets yrs) {update : Bytes} {ops : Finset Op}
    (decoded : yrs.decodeUpdate update = .ok ops) :
    ∃ collab : Collab Op AwarenessUpdate, client.collab.content ⊆ collab.content ∧
      processInner yrs config origin objectId client (.sync (.syncStep2 update), .idle) =
        (.ok (), { client with collab }) := by
  have grows := processInner_grows yrs config origin objectId client (.sync (.syncStep2 update), .idle)
  have processed : ∃ collab : Collab Op AwarenessUpdate,
      processInner yrs config origin objectId client (.sync (.syncStep2 update), .idle) =
        (.ok (), { client with collab }) := by
    rw [processInner]
    simp only [handleCollabMessage, decoded, handleSyncStep2, PayloadMoment.idle, Transactions.free, sets.applies]
    exact ⟨_, rfl⟩
  obtain ⟨collab, processed⟩ := processed
  rw [processed] at grows
  exact ⟨collab, grows, processed⟩

/-- The server's question is answered with what it leaves open. -/
theorem processInner_question (sets : ExactSets yrs) (known : Finset Op) :
    ∃ sink : CollabSink, processInner yrs config origin objectId client
        (.sync (.syncStep1 (yrs.stateVector known)), .idle) = (.ok (), { client with sink }) ∧
      ∃ item ∈ sink.messageQueue, 0 < item.syncRank ∧
        carriedOps yrs (item.messages yrs) = client.collab.content \ known := by
  have ranked : ∀ payload, 0 < syncRank (replyMessage origin objectId client.sink.msgIdCounter true payload) :=
    fun _ => Nat.one_pos
  rw [processInner]
  refine ⟨_, rfl, _, mem_queueMsgMerged yrs config (ranked _) _, Nat.one_pos, ?_⟩
  rw [QueueItem.messages, payload_setMsgId, payload_replyMessage, carriedOps_syncStep2, updateOps, sets.missing]

theorem processInners_answer (sets : ExactSets yrs) {update : Bytes} {ops known : Finset Op}
    (decoded : yrs.decodeUpdate update = .ok ops) (own : op ∈ client.collab.content) (missing : op ∉ known) :
    ∃ item ∈ (processInners yrs config origin objectId
        [(.sync (.syncStep2 update), .idle), (.sync (.syncStep1 (yrs.stateVector known)), .idle)]
        client).2.sink.messageQueue, Conveys yrs item op := by
  obtain ⟨collab, grows, updated⟩ := processInner_update config origin objectId client sets decoded
  obtain ⟨sink, answered, item, member, ranked, carried⟩ :=
    processInner_question config origin objectId { client with collab } sets known
  simp only [processInners, updated, answered]
  refine ⟨item, member, .inr ⟨ranked, ?_⟩⟩
  rw [carried]
  exact Finset.mem_sdiff.mpr ⟨grows own, missing⟩

end Answer

/-- What the client answers may be at the server already. -/
theorem Covered.process (covered : Covered yrs self op) (sets : ExactSets yrs) (config : SinkConfig)
    (objectId : String) {msg : ServerCollabMessage} (processes : self.processing = some msg)
    {surroundings : Surroundings} (lockFree : surroundings.payloadLockFree = true)
    (idle : ∀ index, surroundings.payload index = .idle) :
    Covered yrs { self with
      client := (processPayload yrs config surroundings msg.origin msg.payload objectId self.client).2
      processing := none } op := by
  refine ⟨processPayload_grows yrs config msg.origin objectId surroundings msg.payload self.client covered.own, ?_⟩
  rw [processPayload_snd, if_pos lockFree]
  rcases covered.onTheWay with has | ⟨item, member, conveys⟩ | ⟨taken, same, update, ops, known, decoded, within, payload⟩
  · exact .inl has
  · exact .inr (.inl ⟨item,
      processInners_keeps yrs config msg.origin objectId conveys.ranked member _, conveys⟩)
  · obtain rfl : taken = msg := Option.some.inj (same.symm.trans processes)
    cases Decidable.em (op ∈ known) with
    | inl asked => exact .inl (within asked)
    | inr missing =>
      refine .inr (.inl ?_)
      rw [payload, payloadMessages_answer idle]
      exact processInners_answer config taken.origin objectId self.client sets decoded covered.own missing

/-! ## Every step -/

theorem Covered.step (covered : Covered yrs self op) (sets : ExactSets yrs) (sound : self.Sound yrs)
    (config : SinkConfig) (origin : CollabOrigin) (object : SyncObject) {event : ExchangeEvent Op AwarenessUpdate}
    (undisturbed : Undisturbed event) : Covered yrs (self.step yrs config origin object event) op := by
  cases event with
  | edit update =>
    refine ⟨Finset.mem_union_left _ covered.own, ?_⟩
    exact covered.onTheWay.of_kept (Finset.Subset.refl _) (fun _ member _ => .tail _ member) rfl
  | editAwareness update => exact covered.withSink fun _ member _ => .tail _ member
  | merge locksFree =>
    exact covered.withSink fun _ member ranked => merge_keeps yrs _ config ranked member locksFree
  | initSync moment => exact covered.initSync moment origin object
  | relayout layout =>
    simp only [Exchange.step]
    split
    · rename_i permuted
      exact covered.withSink fun _ member _ => (List.isPerm_iff.mp permuted).symm.subset member
    · exact covered
  | processNextMsg locksFree =>
    have kept := self.client.sink.processNextMsg_perm locksFree
    refine ⟨covered.own, ?_⟩
    exact covered.onTheWay.of_kept (Finset.Subset.refl _) (fun _ member _ => kept.symm.subset member) rfl
  | sendFinished success =>
    refine covered.withSink fun _ member _ => ?_
    rwa [CollabSink.sendFinished_messageQueue]
  | tick => exact covered.withSink fun _ member _ => member
  | setPause pause => exact covered.withSink fun _ member _ => member
  | handle copy environment =>
    simp only [Exchange.step]
    split
    · have grows := handleClientCollabMessage_grows yrs environment object.objectId copy self.server
      exact ⟨covered.own, covered.onTheWay.of_kept grows (fun _ member _ => member) rfl⟩
    · exact covered
  | change update =>
    exact ⟨covered.own, covered.onTheWay.of_kept Finset.subset_union_left (fun _ member _ => member) rfl⟩
  | receiveAck ack =>
    simp only [Exchange.step]
    split
    · rename_i given
      exact covered.receive_ack sound origin object given _
    · exact covered
  | receiveBroadcast sender update seqNum moment =>
    have unnumbered : (broadcastMessage yrs object sender update seqNum).msgId = none := rfl
    exact covered.receive_unnumbered origin object moment unnumbered
  | receiveAwareness update =>
    have unnumbered : (awarenessMessage yrs object update).msgId = none := rfl
    exact covered.receive_unnumbered origin object _ unnumbered
  | process surroundings =>
    simp only [Exchange.step]
    cases processing : self.processing with
    | none => exact covered
    | some msg => exact covered.process sets config object.objectId processing undisturbed.1 undisturbed.2

end Steps

/-! ## What an init sync clears -/

section Cleared

variable (yrs : Yrs Op StateVector AwarenessUpdate) (config : SinkConfig) (origin : CollabOrigin) (object : SyncObject)

/-- The event runs `queue_init_sync`: for the plugin, or for a gap in the broadcasts. -/
def RunsInitSync (self : Exchange Op AwarenessUpdate) : ExchangeEvent Op AwarenessUpdate → Prop
  | .initSync moment => (docInitState yrs moment self.client.collab).isSome = true
  | .receiveBroadcast sender update seqNum moment =>
    self.stopped = false ∧ self.processing = none ∧
      ReportsGap object ⟨sender, object.objectId, updatePayload yrs update, seqNum⟩ self.client.broadcastSeqNum ∧
      QueuesInitSync yrs moment self.client
  | _ => False

instance (self : Exchange Op AwarenessUpdate) :
    (event : ExchangeEvent Op AwarenessUpdate) → Decidable (RunsInitSync yrs object self event)
  | .initSync moment => inferInstanceAs (Decidable ((docInitState yrs moment self.client.collab).isSome = true))
  | .receiveBroadcast sender update seqNum moment =>
    inferInstanceAs (Decidable (self.stopped = false ∧ self.processing = none ∧
      ReportsGap object ⟨sender, object.objectId, updatePayload yrs update, seqNum⟩ self.client.broadcastSeqNum ∧
      QueuesInitSync yrs moment self.client))
  | .edit _ | .editAwareness _ | .merge _ | .relayout _ | .processNextMsg _ | .sendFinished _ | .tick | .setPause _
  | .handle _ _ | .change _ | .receiveAck _ | .receiveAwareness _ | .process _ => .isFalse id

/-- No server message is being processed and nothing is queued. -/
def Exchange.AtRest (self : Exchange Op AwarenessUpdate) : Prop :=
  self.processing = none ∧ self.client.sink.messageQueue = []

/-- When a run that goes on after an init sync is at rest, the server has the updates of
    every item that was queued before it. -/
def InitSyncCovers (start : Exchange Op AwarenessUpdate) (before : List (ExchangeEvent Op AwarenessUpdate))
    (event : ExchangeEvent Op AwarenessUpdate) (later : List (ExchangeEvent Op AwarenessUpdate)) : Prop :=
  RunsInitSync yrs object (run (Exchange.step yrs config origin object) start before) event →
    (run (Exchange.step yrs config origin object) start (before ++ event :: later)).AtRest →
      ∀ item ∈ (run (Exchange.step yrs config origin object) start before).client.sink.messageQueue,
        carriedOps yrs (item.messages yrs) ⊆
          (run (Exchange.step yrs config origin object) start (before ++ event :: later)).server.content

variable {yrs object} {self : Exchange Op AwarenessUpdate} {op : Op}

/-- After an init sync everything that the client has is covered. -/
theorem covered_of_runs (own : op ∈ self.client.collab.content) {event : ExchangeEvent Op AwarenessUpdate}
    (runs : RunsInitSync yrs object self event) : Covered yrs (self.step yrs config origin object event) op := by
  cases event with
  | initSync moment =>
    obtain ⟨item, member, init⟩ := initSync_queued runs origin object self.client.sink
    exact ⟨own, .inr (.inl ⟨item, member, .inl init⟩)⟩
  | receiveBroadcast sender update seqNum moment =>
    obtain ⟨running, idle, gap, queues⟩ := runs
    have stored : QueuesInitSync yrs moment { self.client with broadcastSeqNum := seqNum } := queues
    obtain ⟨item, member, init, _⟩ := tryInitSync_queues yrs origin object stored
    rw [← noticeBroadcast_gap yrs origin object moment gap] at member
    -- the sink lets a broadcast through as it is
    have accepts : acceptMessage yrs moment origin object (broadcastMessage yrs object sender update seqNum)
        self.client = (.ok true,
          noticeBroadcast yrs moment origin object (broadcastMessage yrs object sender update seqNum)
            self.client) := by
      simp only [acceptMessage, broadcastMessage, refusesUpdate, Bool.false_eq_true, if_false,
        CollabSink.validateResponse, ServerCollabMessage.msgId]
    have collab := (noticeBroadcast_sink yrs moment origin object
      (broadcastMessage yrs object sender update seqNum) self.client).1
    simp only [Exchange.step, Exchange.receive, running, idle, Option.isSome_none, Bool.or_self, Bool.false_eq_true,
      if_false, accepts]
    refine ⟨?_, .inr (.inl ⟨item, member, .inl init⟩)⟩
    simp only [collab]
    exact own
  | edit | editAwareness | merge | relayout | processNextMsg | sendFinished | tick | setPause | handle | change
  | receiveAck | receiveAwareness | process => cases runs

theorem Covered.atRest (covered : Covered yrs self op) (rest : self.AtRest) : op ∈ self.server.content := by
  obtain ⟨idle, empty⟩ := rest
  cases covered.onTheWay.idle idle with
  | inl has => exact has
  | inr held =>
    obtain ⟨item, member, _⟩ := held
    rw [empty] at member
    cases member

variable (yrs object) in
/-- A step on which no lock attempt fails and the id counter does not start over. -/
def Admitted (self : Exchange Op AwarenessUpdate) (event : ExchangeEvent Op AwarenessUpdate) : Prop :=
  Undisturbed event ∧ FreshIds yrs config origin object self event

theorem Covered.run (sets : ExactSets yrs) {later : List (ExchangeEvent Op AwarenessUpdate)} (sound : self.Sound yrs)
    (covered : Covered yrs self op)
    (admitted : Always (Exchange.step yrs config origin object) (Admitted yrs config origin object) self later) :
    Covered yrs (run (Exchange.step yrs config origin object) self later) op := by
  have preserved : ∀ (state : Exchange Op AwarenessUpdate) event, state.Sound yrs ∧ Covered yrs state op →
      Admitted yrs config origin object state event →
        (state.step yrs config origin object event).Sound yrs ∧
          Covered yrs (state.step yrs config origin object event) op := by
    rintro state event ⟨sound, covered⟩ ⟨undisturbed, fresh⟩
    exact ⟨sound.step sets config origin object undisturbed fresh,
      covered.step sets sound config origin object undisturbed⟩
  exact (admitted.invariant preserved ⟨sound, covered⟩).2

theorem Exchange.Sound.run (sets : ExactSets yrs) {events : List (ExchangeEvent Op AwarenessUpdate)}
    (sound : self.Sound yrs)
    (admitted : Always (Exchange.step yrs config origin object) (Admitted yrs config origin object) self events) :
    (run (Exchange.step yrs config origin object) self events).Sound yrs := by
  have preserved : ∀ (state : Exchange Op AwarenessUpdate) event, state.Sound yrs →
      Admitted yrs config origin object state event → (state.step yrs config origin object event).Sound yrs :=
    fun state event sound admitted => sound.step sets config origin object admitted.1 admitted.2
  exact admitted.invariant preserved sound

end Cleared

/-- In every run in which no lock attempt fails, the server applies what it receives and the
    id counter does not start over, the server has what an init sync cleared whenever
    nothing is processed and nothing queued afterwards. -/
theorem initSync_covers (yrs : Yrs Op StateVector AwarenessUpdate) (sets : ExactSets yrs) (config : SinkConfig)
    (origin : CollabOrigin) (object : SyncObject) (client server : Collab Op AwarenessUpdate) (pause : Bool)
    (now : Instant) (before : List (ExchangeEvent Op AwarenessUpdate)) (event : ExchangeEvent Op AwarenessUpdate)
    (later : List (ExchangeEvent Op AwarenessUpdate))
    (undisturbed : ∀ taken ∈ before ++ event :: later, Undisturbed taken)
    (fresh : Always (Exchange.step yrs config origin object) (FreshIds yrs config origin object)
      (.new client server pause now) (before ++ event :: later)) :
    InitSyncCovers yrs config origin object (.new client server pause now) before event later := by
  intro runs rest item member op carried
  have calm : Always (Exchange.step yrs config origin object) (fun _ event => Undisturbed event)
      (.new client server pause now) (before ++ event :: later) := .of_forall undisturbed
  have admitted : Always (Exchange.step yrs config origin object) (Admitted yrs config origin object)
      (.new client server pause now) (before ++ event :: later) := calm.and fresh
  obtain ⟨first, cleared, second⟩ := always_append.mp admitted
  have sound := (Exchange.new_sound client server pause now).run config origin sets first
  have covered := covered_of_runs config origin (sound.sink.within item member carried) runs
  have reached := covered.run config origin sets (sound.step sets config origin object cleared.1 cleared.2) second
  rw [run_append, run_cons] at rest ⊢
  exact reached.atRest rest

/-- Client 1 types `a`, which waits in the queue. -/
def typedA : List (ExchangeEvent (Nat × Nat) Lib0.AwarenessUpdate) :=
  [.edit [1, 1, 1, 0, 4, 1, 1, 116, 1, 97, 0], .merge true]

/-- The init sync that clears `a`, and the client's answer to the server's question. -/
def openingMessage : ClientCollabMessage :=
  .clientInitSync ⟨.client 1 "device", "object", .document, "w", 1, openingPayload (setYrs typedUpdates) {(1, 0)} []⟩

def answerMessage : ClientCollabMessage :=
  .serverInitSync ⟨.client 1 "device", "object", 2, [0, 1, 11, 1, 1, 1, 0, 4, 1, 1, 116, 1, 97, 0]⟩

def openedExchange : List (ExchangeEvent (Nat × Nat) Lib0.AwarenessUpdate) :=
  [.processNextMsg true, .sendFinished true, .handle openingMessage fun _ => .idle,
    .receiveAck ((CollabAck.new (.client 1 "device") "object" 1).withPayload
      (answerPayload (setYrs typedUpdates) [0, 0] ∅)),
    .process (.idle 0), .processNextMsg true, .sendFinished true, .handle answerMessage fun _ => .idle,
    .receiveAck (.new (.client 1 "device") "object" 2)]

theorem initSync_covers_typed :
    carriedOps (setYrs typedUpdates) (QueueItem.messages (setYrs typedUpdates) ⟨typeA, 0⟩) ⊆
      (run (Exchange.step (setYrs typedUpdates) .default (.client 1 "device") sharedObject)
        (.new ⟨∅, [], []⟩ ⟨∅, [], []⟩ false 0) (typedA ++ .initSync (.idle 0) :: openedExchange)).server.content :=
  initSync_covers (setYrs typedUpdates) (setYrs_exact typedUpdates) .default (.client 1 "device") sharedObject
    ⟨∅, [], []⟩ ⟨∅, [], []⟩ false 0 typedA (.initSync (.idle 0)) openedExchange
    (by simp [typedA, openedExchange, Undisturbed, Surroundings.idle]) (by decide) (by decide)
    ⟨by decide, by decide⟩ ⟨typeA, 0⟩ (by decide)

/-! ## An id that is used again -/

/-- The sink after an init sync under the given id. -/
def clearedFor (payload : Bytes) (msgId : MsgId) (sink : CollabSink) : CollabSink :=
  { sink with
    messageQueue :=
      [⟨.clientInitSync ⟨.client 1 "device", "object", .document, "w", msgId, payload⟩, msgId⟩]
    flyingMessages := ∅
    msgIdCounter := msgId + 1
    state := .syncing }

theorem step_initSync {payload : Bytes} {self : Exchange (Nat × Nat) Lib0.AwarenessUpdate}
    (started : docInitState (setYrs typedUpdates) (.idle 0) self.client.collab = some payload)
    (room : self.client.sink.msgIdCounter + 1 < 2 ^ 64) :
    self.step (setYrs typedUpdates) .default (.client 1 "device") sharedObject (.initSync (.idle 0)) =
      self.withSink (clearedFor payload self.client.sink.msgIdCounter self.client.sink) := by
  rw [Exchange.step, initSync, started]
  simp only [SyncMoment.idle, CollabSink.queueInitSync, CollabSink.pushMsg, CollabSink.clear, if_true,
    Nat.mod_eq_of_lt room]
  rfl

/-- Any number of init syncs leaves the last of them. -/
theorem run_initSyncs {payload : Bytes} (count : Nat) {self : Exchange (Nat × Nat) Lib0.AwarenessUpdate}
    (started : docInitState (setYrs typedUpdates) (.idle 0) self.client.collab = some payload)
    (room : self.client.sink.msgIdCounter + count + 1 < 2 ^ 64) :
    run (Exchange.step (setYrs typedUpdates) .default (.client 1 "device") sharedObject) self
        (List.replicate (count + 1) (.initSync (.idle 0))) =
      self.withSink (clearedFor payload (self.client.sink.msgIdCounter + count) self.client.sink) := by
  induction count generalizing self with
  | zero => rw [List.replicate_succ, run_cons, step_initSync started room, List.replicate_zero, run_nil, Nat.add_zero]
  | succ count inductionHypothesis =>
    have first : self.client.sink.msgIdCounter + 1 < 2 ^ 64 := by omega
    let next := self.withSink (clearedFor payload self.client.sink.msgIdCounter self.client.sink)
    have counter : next.client.sink.msgIdCounter = self.client.sink.msgIdCounter + 1 := rfl
    have later : next.client.sink.msgIdCounter + count + 1 < 2 ^ 64 := by omega
    have same : next.client.sink.msgIdCounter + count = self.client.sink.msgIdCounter + (count + 1) := by omega
    have rest := @inductionHypothesis next started later
    rw [same] at rest
    rw [List.replicate_succ, run_cons, step_initSync started first, rest]
    rfl

/-- The edit `a` is sent and acknowledged, but its ack stays under way until every other id
    is used up; the edit `b` takes the last one. -/
def acknowledgedA : List (ExchangeEvent (Nat × Nat) Lib0.AwarenessUpdate) :=
  [.edit [1, 1, 1, 0, 4, 1, 1, 116, 1, 97, 0], .merge true, .processNextMsg true, .sendFinished true,
    .handle typeA fun _ => .idle]

def usedUp (count : Nat) : List (ExchangeEvent (Nat × Nat) Lib0.AwarenessUpdate) :=
  acknowledgedA ++ List.replicate (count + 1) (.initSync (.idle 0)) ++ [.edit [1, 1, 1, 1, 132, 1, 0, 1, 98, 0]]

/-- The init sync that clears `b` has the id of `a`, and the ack of `a` takes it out. -/
def lateAcks : List (ExchangeEvent (Nat × Nat) Lib0.AwarenessUpdate) :=
  [.processNextMsg true, .sendFinished true, .receiveAck (.new (.client 1 "device") "object" 0)]

theorem undisturbed_usedUp (count : Nat) :
    ∀ taken ∈ usedUp count ++ .initSync (.idle 0) :: lateAcks, Undisturbed taken := by
  rw [usedUp]
  refine List.forall_mem_append.mpr ⟨List.forall_mem_append.mpr ⟨List.forall_mem_append.mpr ⟨?_, ?_⟩, ?_⟩, ?_⟩
  · simp [acknowledgedA, Undisturbed]
  · intro taken member
    rw [List.eq_of_mem_replicate member]
    trivial
  · simp [Undisturbed]
  · simp [lateAcks, Undisturbed]

/-- The exchange with `a` acknowledged, `b` typed, and the init sync under the given id. -/
def overtaken (msgId : MsgId) : Exchange (Nat × Nat) Lib0.AwarenessUpdate :=
  let acknowledged := run (Exchange.step (setYrs typedUpdates) .default (.client 1 "device") sharedObject)
    (.new ⟨∅, [], []⟩ ⟨∅, [], []⟩ false 0) acknowledgedA
  let cleared := clearedFor (openingPayload (setYrs typedUpdates) {(1, 0)} []) msgId acknowledged.client.sink
  (acknowledged.withSink cleared).edit (setYrs typedUpdates) (.client 1 "device") sharedObject
    [1, 1, 1, 1, 132, 1, 0, 1, 98, 0]

theorem run_usedUp {count : Nat} (room : 1 + count + 1 < 2 ^ 64) :
    run (Exchange.step (setYrs typedUpdates) .default (.client 1 "device") sharedObject)
      (.new ⟨∅, [], []⟩ ⟨∅, [], []⟩ false 0) (usedUp count) = overtaken (1 + count) := by
  have started : docInitState (setYrs typedUpdates) (.idle 0)
      (run (Exchange.step (setYrs typedUpdates) .default (.client 1 "device") sharedObject)
        (.new ⟨∅, [], []⟩ ⟨∅, [], []⟩ false 0) acknowledgedA).client.collab =
      some (openingPayload (setYrs typedUpdates) {(1, 0)} []) := by decide
  have counter : (run (Exchange.step (setYrs typedUpdates) .default (.client 1 "device") sharedObject)
      (.new ⟨∅, [], []⟩ ⟨∅, [], []⟩ false 0) acknowledgedA).client.sink.msgIdCounter = 1 := by decide
  rw [← counter] at room
  rw [usedUp, run_append, run_append, run_initSyncs count started room, counter]
  rfl

theorem initSync_overtaken :
    ¬ ∀ (before : List (ExchangeEvent (Nat × Nat) Lib0.AwarenessUpdate))
        (event : ExchangeEvent (Nat × Nat) Lib0.AwarenessUpdate)
        (later : List (ExchangeEvent (Nat × Nat) Lib0.AwarenessUpdate)),
        (∀ taken ∈ before ++ event :: later, Undisturbed taken) →
          InitSyncCovers (setYrs typedUpdates) .default (.client 1 "device") sharedObject
            (.new ⟨∅, [], []⟩ ⟨∅, [], []⟩ false 0) before event later := by
  intro covers
  have covered := covers (usedUp (2 ^ 64 - 3)) (.initSync (.idle 0)) lateAcks (undisturbed_usedUp _)
  rw [InitSyncCovers, run_append, run_usedUp (by decide)] at covered
  have missing := covered (by decide) ⟨by decide, by decide⟩ ⟨typeB.setMsgId (2 ^ 64 - 1), 2 ^ 64 - 1⟩ (by decide)
  revert missing
  decide

end FlowCloud.Sync
