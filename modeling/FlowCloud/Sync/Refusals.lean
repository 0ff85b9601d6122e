import FlowCloud.Sync.Exchange

/-! # Refused updates

The server answers what it could not apply with a code of its own, and the client looks at
the id of an ack only.  So what a refusal leaves in the queue depends on whether the client
still waits for an answer to the message.
-/

namespace FlowCloud.Sync

open FlowCloud.Foundation FlowCloud.Entity FlowCloud.Protocol FlowCloud.Client FlowCloud.Server

variable {Op StateVector AwarenessUpdate : Type} [DecidableEq Op]

/-! ## Refusals -/

/-- The codes for what may succeed at another time. -/
def isRefusal (ack : CollabAck) : Bool := ack.code == .retry || ack.code == .internal

/-- The message of this id has been answered, and never but with a refusal. -/
def OnlyRefused (acks : List CollabAck) (msgId : MsgId) : Prop :=
  (∃ ack ∈ acks, ack.source.msgId = msgId) ∧ ∀ ack ∈ acks, ack.source.msgId = msgId → isRefusal ack = true

instance (acks : List CollabAck) (msgId : MsgId) : Decidable (OnlyRefused acks msgId) :=
  inferInstanceAs (Decidable (_ ∧ _))

/-- The client takes messages, and the one of this id is sent and first in the queue. -/
def Awaited (sink : CollabSink) (msgId : MsgId) : Prop :=
  msgId ∈ sink.flyingMessages ∧ (popMax QueueItem.cmp sink.messageQueue).map (fun found => found.1.msgId) = some msgId

instance (sink : CollabSink) (msgId : MsgId) : Decidable (Awaited sink msgId) := inferInstanceAs (Decidable (_ ∧ _))

/-- A refusal arrives when the client does not wait for it. -/
def RefusalsUnawaited (self : Exchange Op AwarenessUpdate) : ExchangeEvent Op AwarenessUpdate → Prop
  | .receiveAck ack =>
    isRefusal ack = true → self.stopped = false → self.processing = none →
      ¬ Awaited self.client.sink ack.source.msgId
  | _ => True

instance (self : Exchange Op AwarenessUpdate) :
    (event : ExchangeEvent Op AwarenessUpdate) → Decidable (RefusalsUnawaited self event)
  | .receiveAck ack =>
    inferInstanceAs (Decidable (isRefusal ack = true → self.stopped = false → self.processing = none →
      ¬ Awaited self.client.sink ack.source.msgId))
  | .edit _ | .editAwareness _ | .merge _ | .initSync _ | .relayout _ | .processNextMsg _ | .sendFinished _ | .tick
  | .setPause _ | .handle _ _ | .change _ | .receiveBroadcast _ _ _ _ | .receiveAwareness _ | .process _ =>
    .isTrue trivial

/-! ## What a refusal should leave -/

/-- As the first of the queue the item is handed to the sender again after the next tick. -/
def SendsAgain (sink : CollabSink) (item : QueueItem) : Prop :=
  ∀ rest, popMax QueueItem.cmp sink.messageQueue = some (item, rest) →
    item.inner ∈ (({ sink with pause := false, sending := none } : CollabSink).tick.processNextMsg true).1

section Kept

variable (yrs : Yrs Op StateVector AwarenessUpdate) (config : SinkConfig) (origin : CollabOrigin) (object : SyncObject)

/-- The payload has the encoded update. -/
def Carries (payload data : Bytes) : Prop :=
  ∃ msg ∈ (MessageReader.read yrs.codec payload).messages, msg.carriedUpdate = some data

instance (payload data : Bytes) : Decidable (Carries yrs payload data) :=
  inferInstanceAs (Decidable (∃ msg ∈ _, _))

/-- The update is none that the document has in full. -/
def Unapplied (content : Finset Op) (data : Bytes) : Prop :=
  ∀ update, yrs.decodeUpdate data = .ok update → ¬ update ⊆ content

/-- When an ack is received, an update that the server has not applied and only refused stays
    in the queue and is sent again. -/
def KeepsRefused (self : Exchange Op AwarenessUpdate) (event : ExchangeEvent Op AwarenessUpdate) : Prop :=
  ∀ ack, event = .receiveAck ack → ∀ item ∈ self.client.sink.messageQueue, OnlyRefused self.acks item.msgId →
    ∀ data, Carries yrs item.inner.payload data → Unapplied yrs self.server.content data →
      item ∈ (self.step yrs config origin object event).client.sink.messageQueue ∧
        SendsAgain (self.step yrs config origin object event).client.sink item

end Kept

/-! ## Sending again -/

/-- Where nothing flies, a batch begins with the first item. -/
theorem first_mem_getNextBatchItem {sink : CollabSink} (landed : sink.flyingMessages = ∅) {rest : List QueueItem}
    {item : QueueItem} (first : popMax QueueItem.cmp sink.messageQueue = some (item, rest)) :
    item ∈ sink.getNextBatchItem.1 := by
  obtain ⟨behind, popped, batch⟩ := sink.getNextBatchItem_popped
  cases items : sink.getNextBatchItem.1 with
  | nil =>
    -- nothing stops a batch of nothing but an empty queue
    rw [items] at popped batch
    rcases batch.stops with rfl | full | ⟨last, found, _⟩ | ⟨head, _, flying⟩
    · have nothing := popped.perm.symm.eq_nil
      rw [nothing] at first
      cases first
    · cases full
    · cases found
    · rw [landed] at flying
      exact absurd flying (Finset.notMem_empty _)
  | cons top others =>
    rw [items] at popped
    obtain ⟨_, found⟩ := popped.top
    cases first.symm.trans found
    exact .head _

theorem sendsAgain (sink : CollabSink) (item : QueueItem) : SendsAgain sink item := by
  intro rest first
  have batched : item ∈ ({ sink with pause := false, sending := none } : CollabSink).tick.getNextBatchItem.1 :=
    first_mem_getNextBatchItem rfl first
  rw [CollabSink.processNextMsg]
  revert batched
  cases ({ sink with pause := false, sending := none } : CollabSink).tick.getNextBatchItem with
  | mk items sent =>
    intro batched
    cases items with
    | nil => cases batched
    | cons top others => exact List.mem_map_of_mem batched

/-! ## Acks -/

theorem validateResponse_of_not_awaited {sink : CollabSink} {ack : CollabAck}
    (unawaited : ¬ Awaited sink ack.source.msgId) :
    (sink.validateResponse (.clientAck ack)).2.messageQueue.Perm sink.messageQueue := by
  simp only [CollabSink.validateResponse, ServerCollabMessage.msgId]
  split
  · exact .refl _
  · rename_i flying
    rw [not_not] at flying
    cases popped : popMax QueueItem.cmp sink.messageQueue with
    | none => exact .refl _
    | some found =>
      obtain ⟨current, rest⟩ := found
      have other : current.msgId ≠ ack.source.msgId := by
        intro same
        exact unawaited ⟨flying, by rw [popped, Option.map_some, same]⟩
      simp only [if_pos other]
      exact popMax_perm popped

section Kept

variable (yrs : Yrs Op StateVector AwarenessUpdate) (config : SinkConfig) (origin : CollabOrigin) (object : SyncObject)

/-- Receiving an ack changes the queue as the response to it does, or not at all. -/
theorem receive_ack_queue (self : Exchange Op AwarenessUpdate) (ack : CollabAck) :
    (self.receive yrs origin object (.idle 0) (.clientAck ack)).client.sink.messageQueue =
        self.client.sink.messageQueue ∨
      self.stopped = false ∧ self.processing = none ∧
        (self.receive yrs origin object (.idle 0) (.clientAck ack)).client.sink.messageQueue =
          (self.client.sink.validateResponse (.clientAck ack)).2.messageQueue := by
  rw [Exchange.receive]
  split
  · exact .inl rfl
  · rename_i ready
    rw [Bool.or_eq_true, not_or, Bool.not_eq_true, Bool.not_eq_true, Option.isSome_eq_false_iff,
      Option.isNone_iff_eq_none] at ready
    cases refuses : refusesUpdate (.clientAck ack) with
    | true =>
      left
      simp only [acceptMessage, refuses, if_true]
    | false =>
      refine .inr ⟨ready.1, ready.2, ?_⟩
      simp only [acceptMessage, refuses, Bool.false_eq_true, if_false, noticeBroadcast]

theorem keepsRefused_of_unawaited {self : Exchange Op AwarenessUpdate} {event : ExchangeEvent Op AwarenessUpdate}
    (unawaited : RefusalsUnawaited self event) : KeepsRefused yrs config origin object self event := by
  rintro ack rfl item member refused data _ _
  refine ⟨?_, sendsAgain _ item⟩
  simp only [Exchange.step]
  split
  · rename_i given
    rcases receive_ack_queue yrs origin object self ack with same | ⟨running, idle, response⟩
    · rwa [same]
    rw [response]
    cases self.client.sink.validateResponse_cases (.clientAck ack) with
    | inl kept => exact kept.symm.subset member
    | inr held =>
      obtain ⟨removed, ownId, left⟩ := held
      rcases List.mem_cons.mp (left.symm.subset member) with rfl | stays
      · -- the ack answers the item itself, so it is a refusal that nobody waits for
        have answers : ack.source.msgId = item.msgId := Option.some.inj ownId
        have ignored := unawaited (refused.2 ack given answers) running idle
        exact (validateResponse_of_not_awaited ignored).symm.subset member
      · exact stays
  · exact member

end Kept

/-- In every run in which no refusal arrives while the client waits for an answer to that
    message, what the server only refused stays queued and is sent again. -/
theorem refused_stays_queued (yrs : Yrs Op StateVector AwarenessUpdate) (config : SinkConfig) (origin : CollabOrigin)
    (object : SyncObject) (start : Exchange Op AwarenessUpdate) (events : List (ExchangeEvent Op AwarenessUpdate))
    (unawaited : Always (Exchange.step yrs config origin object) RefusalsUnawaited start events) :
    Always (Exchange.step yrs config origin object) (KeepsRefused yrs config origin object) start events :=
  unawaited.imp fun _ _ refused => keepsRefused_of_unawaited yrs config origin object refused

/-! ## A refusal that is awaited -/

/-- Client 1 types `a`, and the server has no write transaction for it. -/
def refusedEdit : List (ExchangeEvent (Nat × Nat) Lib0.AwarenessUpdate) :=
  [.edit [1, 1, 1, 0, 4, 1, 1, 116, 1, 97, 0], .merge true, .processNextMsg true, .sendFinished true,
    .handle typeA fun _ => ⟨true, ⟨.ok (), .error "in use"⟩⟩]

def retryAck : CollabAck := (CollabAck.new (.client 1 "device") "object" 0).withCode .retry

theorem refused_after_tick :
    Always (Exchange.step (UpdateTable.yrs typedUpdates) .default (.client 1 "device") sharedObject)
      (KeepsRefused (UpdateTable.yrs typedUpdates) .default (.client 1 "device") sharedObject)
      (.new ⟨∅, [], []⟩ ⟨∅, [], []⟩ false 0) (refusedEdit ++ [.tick, .receiveAck retryAck]) :=
  refused_stays_queued (UpdateTable.yrs typedUpdates) .default (.client 1 "device") sharedObject _ _ (by decide)

/-- The refusal comes before the tick and takes the edit out of the queue. -/
theorem refused_is_dropped :
    ¬ ∀ events : List (ExchangeEvent (Nat × Nat) Lib0.AwarenessUpdate),
        Always (Exchange.step (UpdateTable.yrs typedUpdates) .default (.client 1 "device") sharedObject)
          (KeepsRefused (UpdateTable.yrs typedUpdates) .default (.client 1 "device") sharedObject)
          (.new ⟨∅, [], []⟩ ⟨∅, [], []⟩ false 0) events := by
  intro keeps
  have always := keeps (refusedEdit ++ [.receiveAck retryAck])
  have kept := (always.after retryAck rfl ⟨typeA, 0⟩ (by decide) (by decide) [1, 1, 1, 0, 4, 1, 1, 116, 1, 97, 0]
    (by decide) ?_).1
  · revert kept
    decide
  · intro update decoded within
    have typed : (UpdateTable.yrs typedUpdates).decodeUpdate [1, 1, 1, 0, 4, 1, 1, 116, 1, 97, 0] = .ok {(1, 0)} := by
      decide
    rw [typed] at decoded
    cases decoded
    revert within
    decide

end FlowCloud.Sync
