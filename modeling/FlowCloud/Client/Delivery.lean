import FlowCloud.Client.Observe

/-! # What an accepted message leaves behind

Acceptance takes the pending item out of the queue before the payload is looked at.  The
result says when a call that reports no error has run the whole payload.
-/

namespace FlowCloud.Client

open FlowCloud.Foundation FlowCloud.Entity FlowCloud.Protocol

variable {Op StateVector AwarenessUpdate : Type} [DecidableEq Op]

section Delivery

variable (yrs : Yrs Op StateVector AwarenessUpdate) (config : SinkConfig)

/-- The local state after one protocol message. -/
def innerStep (origin : CollabOrigin) (objectId : String) (self : ObserveCollab Op AwarenessUpdate)
    (msg : Message StateVector AwarenessUpdate × PayloadMoment) : ObserveCollab Op AwarenessUpdate :=
  (processInner yrs config origin objectId self msg).2

/-- The protocol's answer, where there is one, is an item of the queue. -/
def AnswerQueued (queue : List QueueItem) (reply : Bytes → ClientCollabMessage) : Except Error (Option Bytes) → Prop
  | .error _ => False
  | .ok none => True
  | .ok (some payload) => ∃ item ∈ queue, item.inner = reply payload

instance (queue : List QueueItem) (reply : Bytes → ClientCollabMessage) : DecidablePred (AnswerQueued queue reply)
  | .error _ => .isFalse id
  | .ok none => .isTrue trivial
  | .ok (some payload) => inferInstanceAs (Decidable (∃ item ∈ queue, item.inner = reply payload))

/-- The message was handled without error, and what it asks for is queued after it. -/
def Answered (origin : CollabOrigin) (objectId : String) (self : ObserveCollab Op AwarenessUpdate)
    (msg : Message StateVector AwarenessUpdate × PayloadMoment) : Prop :=
  AnswerQueued (innerStep yrs config origin objectId self msg).sink.messageQueue
    (replyMessage origin objectId self.sink.msgIdCounter (isSyncStep1 msg.1))
    (handleCollabMessage yrs msg.2.transactions origin (ClientSyncProtocol yrs) self.collab msg.1).1

instance (origin : CollabOrigin) (objectId : String) (self : ObserveCollab Op AwarenessUpdate)
    (msg : Message StateVector AwarenessUpdate × PayloadMoment) :
    Decidable (Answered yrs config origin objectId self msg) :=
  inferInstanceAs (Decidable (AnswerQueued _ _ _))

/-- The collab was to be had, the message was handled, and the answer is queued. -/
def Delivered (surroundings : Surroundings) (origin : CollabOrigin) (objectId : String)
    (self : ObserveCollab Op AwarenessUpdate) (msg : Message StateVector AwarenessUpdate × PayloadMoment) : Prop :=
  surroundings.payloadLockFree = true ∧ Answered yrs config origin objectId self msg

instance (surroundings : Surroundings) (origin : CollabOrigin) (objectId : String)
    (self : ObserveCollab Op AwarenessUpdate) (msg : Message StateVector AwarenessUpdate × PayloadMoment) :
    Decidable (Delivered yrs config surroundings origin objectId self msg) :=
  inferInstanceAs (Decidable (_ ∧ _))

/-- From the state that accepted the message: the whole payload is decoded and each message
    of it delivered, and what the call leaves is the state after all of them. -/
def DeliveredInFull (surroundings : Surroundings) (origin : CollabOrigin) (object : SyncObject)
    (msg : ServerCollabMessage) (self : ObserveCollab Op AwarenessUpdate) : Prop :=
  let accepted := (acceptMessage yrs surroundings.sync origin object msg self).2
  let messages := payloadMessages yrs surroundings.payload msg.payload
  MessageReader.unread yrs.codec msg.payload = [] ∧
    Always (innerStep yrs config msg.origin object.objectId)
      (Delivered yrs config surroundings msg.origin object.objectId) accepted messages ∧
    (processMessage yrs config surroundings origin object msg self).2 =
      run (innerStep yrs config msg.origin object.objectId) accepted messages

/-! ## Answers -/

/-- Only a question is answered, and by the protocol of the side that handles it. -/
theorem handleCollabMessage_answer {transactions : Transactions} {origin : CollabOrigin}
    {protocol : CollabSyncProtocol Op StateVector AwarenessUpdate} {collab : Collab Op AwarenessUpdate}
    {msg : Message StateVector AwarenessUpdate} {payload : Bytes}
    (answer : (handleCollabMessage yrs transactions origin protocol collab msg).1 = .ok (some payload)) :
    ∃ stateVector, msg = .sync (.syncStep1 stateVector) ∧
      protocol.handleSyncStep1 transactions collab stateVector = .ok (some payload) := by
  -- applying an update answers nothing
  have silent : ∀ update, (handleSyncStep2 yrs transactions origin collab update).1 ≠ .ok (some payload) := by
    intro update
    rw [handleSyncStep2]
    cases transactions.write with
    | error message => rintro ⟨⟩
    | ok opened => cases yrs.tryApplyUpdate collab.content update <;> rintro ⟨⟩
  cases msg with
  | auth reason => cases reason <;> cases answer
  | awareness update =>
    rw [handleCollabMessage, handleAwarenessUpdate] at answer
    cases applied : yrs.applyAwareness collab.awareness update <;> rw [applied] at answer <;> cases answer
  | custom msg => cases answer
  | sync msg =>
    cases msg with
    | syncStep1 stateVector => exact ⟨stateVector, rfl, answer⟩
    | syncStep2 data | update data =>
      rw [handleCollabMessage] at answer
      cases decoded : yrs.decodeUpdate data with
      | error failure => rw [decoded] at answer; cases answer
      | ok update =>
        rw [decoded] at answer
        exact absurd answer (silent update)

theorem isSyncStep1_of_answer {transactions : Transactions} {origin : CollabOrigin}
    {collab : Collab Op AwarenessUpdate} {msg : Message StateVector AwarenessUpdate} {payload : Bytes}
    (answer : (handleCollabMessage yrs transactions origin (ClientSyncProtocol yrs) collab msg).1 =
      .ok (some payload)) : isSyncStep1 msg = true := by
  obtain ⟨stateVector, rfl, _⟩ := handleCollabMessage_answer yrs answer
  rfl

theorem mem_queueMsgMerged {sink : CollabSink} {msg : ClientCollabMessage} (ranked : 0 < syncRank msg)
    (mergeLocksFree : Bool) :
    ⟨msg.setMsgId sink.msgIdCounter, sink.msgIdCounter⟩ ∈
      (sink.queueMsgMerged yrs config msg mergeLocksFree).messageQueue := by
  have kept : 0 < QueueItem.syncRank ⟨msg.setMsgId sink.msgIdCounter, sink.msgIdCounter⟩ := by
    cases msg <;> exact ranked
  exact merge_keeps yrs _ config kept (.head _) mergeLocksFree

theorem answered_of_ok {origin : CollabOrigin} {objectId : String} {self : ObserveCollab Op AwarenessUpdate}
    {msg : Message StateVector AwarenessUpdate × PayloadMoment}
    (success : (processInner yrs config origin objectId self msg).1 = .ok ()) :
    Answered yrs config origin objectId self msg := by
  rw [processInner] at success
  rw [Answered, innerStep, processInner]
  cases handled : handleCollabMessage yrs msg.2.transactions origin (ClientSyncProtocol yrs) self.collab msg.1 with
  | mk result collab =>
    cases result with
    | error err => rw [handled] at success; cases success
    | ok reply =>
      cases reply with
      | none => trivial
      | some payload =>
        have question : isSyncStep1 msg.1 = true := isSyncStep1_of_answer yrs (by rw [handled])
        have ranked : ∀ msgId, 0 < syncRank (replyMessage origin objectId msgId (isSyncStep1 msg.1) payload) := by
          intro msgId
          rw [question]
          exact Nat.one_pos
        refine ⟨_, mem_queueMsgMerged yrs config (ranked _) msg.2.mergeLocksFree, ?_⟩
        rw [question]
        rfl

theorem processInners_ok {origin : CollabOrigin} {objectId : String}
    {msgs : List (Message StateVector AwarenessUpdate × PayloadMoment)} {self : ObserveCollab Op AwarenessUpdate}
    (success : (processInners yrs config origin objectId msgs self).1 = .ok ()) :
    Always (innerStep yrs config origin objectId) (Answered yrs config origin objectId) self msgs ∧
      (processInners yrs config origin objectId msgs self).2 =
        run (innerStep yrs config origin objectId) self msgs := by
  induction msgs generalizing self with
  | nil => exact ⟨trivial, rfl⟩
  | cons msg msgs inductionHypothesis =>
    rw [processInners] at success ⊢
    cases processed : processInner yrs config origin objectId self msg with
    | mk result next =>
      cases result with
      | error err => rw [processed] at success; cases success
      | ok done =>
        rw [processed] at success
        obtain ⟨answered, reached⟩ := inductionHypothesis success
        have stepped : innerStep yrs config origin objectId self msg = next := by rw [innerStep, processed]
        refine ⟨⟨answered_of_ok yrs config (by rw [processed]), ?_⟩, ?_⟩
        · rw [stepped]
          exact answered
        · rw [run_cons, stepped]
          exact reached

/-! ## When nothing is left out -/

theorem messages_ne_nil {payload : Bytes} (carries : payload ≠ [])
    (whole : MessageReader.unread yrs.codec payload = []) (moments : Nat → PayloadMoment) :
    payloadMessages yrs moments payload ≠ [] := by
  rw [MessageReader.unread, MessageReader.unreadFrom] at whole
  rw [payloadMessages, MessageReader.read_unfold]
  cases next : MessageReader.next yrs.codec payload with
  | none => rw [next] at whole; exact absurd whole carries
  | some outcome =>
    cases outcome with
    | error failure => rw [next] at whole; exact absurd whole carries
    | ok decoded => simp

theorem processPayload_snd (surroundings : Surroundings) (origin : CollabOrigin) (payload : Bytes) (objectId : String)
    (self : ObserveCollab Op AwarenessUpdate) :
    (processPayload yrs config surroundings origin payload objectId self).2 =
      if surroundings.payloadLockFree then
        (processInners yrs config origin objectId (payloadMessages yrs surroundings.payload payload) self).2
      else self := by
  rw [processPayload]
  split
  · cases processed : processInners yrs config origin objectId (payloadMessages yrs surroundings.payload payload)
        self with
    | mk result next =>
      cases result with
      | error err => rfl
      | ok done => cases (MessageReader.read yrs.codec payload).failure <;> rfl
  · rfl

theorem processPayload_ok {surroundings : Surroundings} {origin : CollabOrigin} {payload : Bytes} {objectId : String}
    {self : ObserveCollab Op AwarenessUpdate} (lockFree : surroundings.payloadLockFree = true)
    (success : (processPayload yrs config surroundings origin payload objectId self).1 = .ok ()) :
    (processInners yrs config origin objectId (payloadMessages yrs surroundings.payload payload) self).1 = .ok () ∧
      (processPayload yrs config surroundings origin payload objectId self).2 =
        (processInners yrs config origin objectId (payloadMessages yrs surroundings.payload payload) self).2 := by
  refine ⟨?_, by rw [processPayload_snd, if_pos lockFree]⟩
  rw [processPayload, if_pos lockFree] at success
  cases processed : processInners yrs config origin objectId (payloadMessages yrs surroundings.payload payload)
      self with
  | mk result next =>
    cases result with
    | error err => rw [processed] at success; cases success
    | ok done => rfl

end Delivery

/-- Of an accepted message for which the call reports no error, everything was decoded,
    applied and answered exactly when the local collab was free and the reader got to the
    payload's end. -/
theorem accepted_delivered_iff (yrs : Yrs Op StateVector AwarenessUpdate) (config : SinkConfig)
    (surroundings : Surroundings) (origin : CollabOrigin) (object : SyncObject) (msg : ServerCollabMessage)
    (self : ObserveCollab Op AwarenessUpdate) (carries : msg.payload ≠ [])
    (accepted : (acceptMessage yrs surroundings.sync origin object msg self).1 = .ok true)
    (success : (processMessage yrs config surroundings origin object msg self).1 = .ok ()) :
    DeliveredInFull yrs config surroundings origin object msg self ↔
      surroundings.payloadLockFree = true ∧ MessageReader.unread yrs.codec msg.payload = [] := by
  constructor
  · rintro ⟨whole, delivered, _⟩
    refine ⟨?_, whole⟩
    -- there is a first message, and it got the collab
    have some := messages_ne_nil yrs carries whole surroundings.payload
    cases messages : payloadMessages yrs surroundings.payload msg.payload with
    | nil => exact absurd messages some
    | cons first later =>
      rw [messages] at delivered
      exact delivered.1.1
  · rintro ⟨lockFree, whole⟩
    have called : processMessage yrs config surroundings origin object msg self =
        processPayload yrs config surroundings msg.origin msg.payload object.objectId
          (acceptMessage yrs surroundings.sync origin object msg self).2 := by
      rw [processMessage]
      cases valid : acceptMessage yrs surroundings.sync origin object msg self with
      | mk result next =>
        rw [valid] at accepted
        cases accepted
        simp [carries]
    rw [called] at success
    obtain ⟨inner, reached⟩ := processPayload_ok yrs config lockFree success
    obtain ⟨answered, final⟩ := processInners_ok yrs config inner
    have delivered := (Always.of_forall fun _ _ => lockFree).and answered
    exact ⟨whole, delivered, by rw [called, reached, final]⟩

/-- Client 1 has sent its init sync. -/
def initSyncSent : ObserveCollab (Nat × Nat) Lib0.AwarenessUpdate where
  collab := ⟨{(1, 0)}, [], []⟩
  sink :=
    { messageQueue := [⟨.clientInitSync ⟨.client 1 "device", "object", .document, "w", 0, [0, 0, 1, 0]⟩, 0⟩]
      flyingMessages := {0}
      msgIdCounter := 1
      pause := false
      state := .syncing
      sending := none }
  broadcastSeqNum := 0
  lastSync := 0

/-- The answer of an empty document: an update with nothing in it, and the question for what
    the client has. -/
def initSyncAck : ServerCollabMessage :=
  .clientAck ((CollabAck.new (.client 1 "device") "object" 0).withPayload ([0, 1, 2, 0, 0] ++ [0, 0, 1, 0]))

def sharedObject : SyncObject := ⟨"object", "w", .document⟩

theorem initSyncAck_delivered :
    DeliveredInFull (UpdateTable.yrs typedUpdates) .default (.idle 0) (.client 1 "device") sharedObject initSyncAck
      initSyncSent :=
  (accepted_delivered_iff (UpdateTable.yrs typedUpdates) .default (.idle 0) (.client 1 "device") sharedObject
    initSyncAck initSyncSent (by decide) (by decide) (by decide)).mpr (by decide)

/-- The collab is in use when the ack comes: the init sync is gone and the question stays
    without an answer. -/
theorem initSyncAck_passedOver :
    ¬ ∀ (surroundings : Surroundings) (msg : ServerCollabMessage)
        (self : ObserveCollab (Nat × Nat) Lib0.AwarenessUpdate), msg.payload ≠ [] →
        (acceptMessage (UpdateTable.yrs typedUpdates) surroundings.sync (.client 1 "device") sharedObject msg self).1 =
          .ok true →
        (processMessage (UpdateTable.yrs typedUpdates) .default surroundings (.client 1 "device") sharedObject msg
          self).1 = .ok () →
        DeliveredInFull (UpdateTable.yrs typedUpdates) .default surroundings (.client 1 "device") sharedObject msg
          self := by
  intro delivered
  have inFull := delivered { Surroundings.idle 0 with payloadLockFree := false } initSyncAck initSyncSent
    (by decide) (by decide) (by decide)
  have lockTaken := inFull.2.1
  revert lockTaken
  decide

end FlowCloud.Client
