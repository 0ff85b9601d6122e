import FlowCloud.Client.Delivery

/-! # Detected gaps

A broadcast that is too far ahead means that others were missed.  The new number is stored
before anything is done about it, so the gap is remembered by an init sync or not at all.
-/

namespace FlowCloud.Client

open FlowCloud.Foundation FlowCloud.Entity FlowCloud.Protocol

variable {Op StateVector AwarenessUpdate : Type} [DecidableEq Op]

/-! ## Runs -/

inductive ObserveEvent (Op AwarenessUpdate : Type) where
  /-- `newer` are the ids of the queued init syncs that are newer than what was missed right
      before the message. -/
  | message (surroundings : Surroundings) (msg : ServerCollabMessage) (newer : Finset MsgId)
  /-- What the rest of the client does to the collab and the sink between two messages. -/
  | elsewhere (collab : Collab Op AwarenessUpdate) (sink : CollabSink)

section Gaps

variable (yrs : Yrs Op StateVector AwarenessUpdate) (config : SinkConfig) (origin : CollabOrigin) (object : SyncObject)

def ObserveCollab.step (self : ObserveCollab Op AwarenessUpdate) :
    ObserveEvent Op AwarenessUpdate → ObserveCollab Op AwarenessUpdate
  | .message surroundings msg _ => (processMessage yrs config surroundings origin object msg self).2
  | .elsewhere collab sink => { self with collab, sink }

/-- `validate_broadcast` reports that broadcasts are missing before this one. -/
def ReportsGap (data : BroadcastSync) (broadcastSeqNum : UInt32) : Prop :=
  ∃ message, (validateBroadcast object data broadcastSeqNum).1 = .error (.missingBroadcast message)

theorem reportsGap_iff (data : BroadcastSync) (broadcastSeqNum : UInt32) :
    ReportsGap object data broadcastSeqNum ↔
      data.seqNum > broadcastSeqNum + NUMBER_OF_UPDATE_TRIGGER_INIT_SYNC := by
  rw [ReportsGap, validateBroadcast]
  split
  · rename_i ahead
    exact iff_of_true ⟨_, rfl⟩ ahead
  · rename_i near
    exact iff_of_false (by rintro ⟨_, ⟨⟩⟩) near

instance (data : BroadcastSync) (broadcastSeqNum : UInt32) : Decidable (ReportsGap object data broadcastSeqNum) :=
  decidable_of_iff _ (reportsGap_iff object data broadcastSeqNum).symm

/-- The three guards let the init sync through, and it has a payload. -/
def QueuesInitSync (moment : SyncMoment) (self : ObserveCollab Op AwarenessUpdate) : Prop :=
  self.sink.canQueueInitSync = true ∧
    (LastSyncTime.shouldSync self.lastSync (debounceDuration moment.debugAssertions) moment.now).1 = true ∧
    moment.lockFree = true ∧ (docInitState yrs moment self.collab).isSome = true

instance (moment : SyncMoment) (self : ObserveCollab Op AwarenessUpdate) :
    Decidable (QueuesInitSync yrs moment self) :=
  inferInstanceAs (Decidable (_ ∧ _))

/-- An init sync that waited in the queue already. -/
def WaitingInitSync (newer : Finset MsgId) (queue : List QueueItem) (item : QueueItem) : Prop :=
  item ∈ queue ∧ item.inner.isClientInitSync = true ∧ item.msgId ∈ newer

/-- After the event an init sync newer than the gap is queued, or the number that follows in
    the group would be reported as well. -/
def GapPending (self : ObserveCollab Op AwarenessUpdate) (event : ObserveEvent Op AwarenessUpdate) : Prop :=
  ∀ surroundings data newer, event = .message surroundings (.serverBroadcast data) newer →
    ReportsGap object data self.broadcastSeqNum →
      (∃ item ∈ (self.step yrs config origin object event).sink.messageQueue,
        item.inner.isClientInitSync = true ∧
          (QueuesInitSync yrs surroundings.sync self ∧ item.msgId = self.sink.msgIdCounter ∨
            WaitingInitSync newer self.sink.messageQueue item)) ∨
      ∀ next : BroadcastSync, next.seqNum = data.seqNum + 1 →
        ReportsGap object next (self.step yrs config origin object event).broadcastSeqNum

/-- When a gap is reported, the guards let an init sync through or one that is new enough
    waits in the queue. -/
def GapHandled (self : ObserveCollab Op AwarenessUpdate) (event : ObserveEvent Op AwarenessUpdate) : Prop :=
  ∀ surroundings data newer, event = .message surroundings (.serverBroadcast data) newer →
    ReportsGap object data self.broadcastSeqNum →
      QueuesInitSync yrs surroundings.sync self ∨ ∃ item, WaitingInitSync newer self.sink.messageQueue item

/-! ## One message -/

theorem validateBroadcast_stores (data : BroadcastSync) (broadcastSeqNum : UInt32) :
    (validateBroadcast object data broadcastSeqNum).2 = data.seqNum := by
  rw [validateBroadcast]
  split <;> rfl

theorem tryInitSync_broadcastSeqNum (moment : SyncMoment) (self : ObserveCollab Op AwarenessUpdate) :
    (tryInitSync yrs moment origin object self).broadcastSeqNum = self.broadcastSeqNum := by
  rw [tryInitSync]
  split
  · simp only
    split <;> rfl
  · rfl

theorem noticeBroadcast_broadcastSeqNum (moment : SyncMoment) (data : BroadcastSync)
    (self : ObserveCollab Op AwarenessUpdate) :
    (noticeBroadcast yrs moment origin object (.serverBroadcast data) self).broadcastSeqNum = data.seqNum := by
  rw [noticeBroadcast, ← validateBroadcast_stores object data self.broadcastSeqNum]
  rcases validateBroadcast object data self.broadcastSeqNum with ⟨result, broadcastSeqNum⟩
  cases result with
  | error err => exact tryInitSync_broadcastSeqNum yrs origin object moment _
  | ok done => rfl

theorem noticeBroadcast_gap (moment : SyncMoment) {data : BroadcastSync}
    {self : ObserveCollab Op AwarenessUpdate} (gap : ReportsGap object data self.broadcastSeqNum) :
    noticeBroadcast yrs moment origin object (.serverBroadcast data) self =
      tryInitSync yrs moment origin object { self with broadcastSeqNum := data.seqNum } := by
  have ahead := (reportsGap_iff object data self.broadcastSeqNum).mp gap
  rw [noticeBroadcast, validateBroadcast, if_pos ahead]

/-- The init sync that the guards let through is queued under the next id. -/
theorem tryInitSync_queues {moment : SyncMoment} {self : ObserveCollab Op AwarenessUpdate}
    (queues : QueuesInitSync yrs moment self) :
    ∃ item ∈ (tryInitSync yrs moment origin object self).sink.messageQueue,
      item.inner.isClientInitSync = true ∧ item.msgId = self.sink.msgIdCounter := by
  obtain ⟨ready, due, lockFree, started⟩ := queues
  obtain ⟨payload, start⟩ := Option.isSome_iff_exists.mp started
  rw [tryInitSync, if_pos ready]
  simp only [due, lockFree, Bool.and_self, if_true, initSync, start, CollabSink.queueInitSync]
  exact ⟨_, .head _, rfl, rfl⟩

theorem tryInitSync_waits {moment : SyncMoment} {self : ObserveCollab Op AwarenessUpdate}
    (waits : ¬ QueuesInitSync yrs moment self) :
    (tryInitSync yrs moment origin object self).sink = self.sink := by
  rw [tryInitSync]
  split
  · rename_i ready
    simp only
    split
    · rename_i passed
      obtain ⟨due, lockFree⟩ := Bool.and_eq_true_iff.mp passed
      -- with all guards passed it is the payload that is missing
      have unstarted : docInitState yrs moment self.collab = none := by
        cases start : docInitState yrs moment self.collab with
        | none => rfl
        | some payload => exact absurd ⟨ready, due, lockFree, by rw [start]; rfl⟩ waits
      simp only [initSync, unstarted]
    · rfl
  · rfl

section Payload

variable (objectId : String) {item : QueueItem} {self : ObserveCollab Op AwarenessUpdate}

theorem processInner_keeps (ranked : 0 < item.syncRank) (member : item ∈ self.sink.messageQueue)
    (msg : Message StateVector AwarenessUpdate × PayloadMoment) :
    item ∈ (processInner yrs config origin objectId self msg).2.sink.messageQueue := by
  rw [processInner]
  split
  · exact member
  · exact member
  · exact merge_keeps yrs _ config ranked (.tail _ member) _

theorem processInner_broadcastSeqNum (self : ObserveCollab Op AwarenessUpdate)
    (msg : Message StateVector AwarenessUpdate × PayloadMoment) :
    (processInner yrs config origin objectId self msg).2.broadcastSeqNum = self.broadcastSeqNum := by
  rw [processInner]
  split <;> rfl

theorem processInners_keeps (ranked : 0 < item.syncRank) (member : item ∈ self.sink.messageQueue)
    (msgs : List (Message StateVector AwarenessUpdate × PayloadMoment)) :
    item ∈ (processInners yrs config origin objectId msgs self).2.sink.messageQueue := by
  induction msgs generalizing self with
  | nil => exact member
  | cons msg msgs inductionHypothesis =>
    have kept := processInner_keeps yrs config origin objectId ranked member msg
    rw [processInners]
    split
    · rename_i processed
      rwa [processed] at kept
    · rename_i processed
      rw [processed] at kept
      exact inductionHypothesis kept

theorem processInners_broadcastSeqNum (self : ObserveCollab Op AwarenessUpdate)
    (msgs : List (Message StateVector AwarenessUpdate × PayloadMoment)) :
    (processInners yrs config origin objectId msgs self).2.broadcastSeqNum = self.broadcastSeqNum := by
  induction msgs generalizing self with
  | nil => rfl
  | cons msg msgs inductionHypothesis =>
    have same := processInner_broadcastSeqNum yrs config origin objectId self msg
    rw [processInners]
    split
    · rename_i processed
      rwa [processed] at same
    · rename_i processed
      rw [processed] at same
      rw [inductionHypothesis, same]

end Payload

section Broadcast

variable {surroundings : Surroundings} {data : BroadcastSync} {self : ObserveCollab Op AwarenessUpdate}

/-- The sink accepts every broadcast, so the payload alone follows the notice. -/
theorem processMessage_broadcast :
    processMessage yrs config surroundings origin object (.serverBroadcast data) self =
      if data.payload.isEmpty then (.ok (), noticeBroadcast yrs surroundings.sync origin object (.serverBroadcast data) self)
      else processPayload yrs config surroundings data.origin data.payload object.objectId
        (noticeBroadcast yrs surroundings.sync origin object (.serverBroadcast data) self) := by
  simp only [processMessage, acceptMessage, refusesUpdate, Bool.false_eq_true, if_false,
    CollabSink.validateResponse, ServerCollabMessage.msgId, ServerCollabMessage.payload,
    ServerCollabMessage.origin, Bool.true_and]
  cases data.payload.isEmpty <;> rfl

theorem processMessage_broadcast_keeps {item : QueueItem} (ranked : 0 < item.syncRank)
    (member : item ∈
      (noticeBroadcast yrs surroundings.sync origin object (.serverBroadcast data) self).sink.messageQueue) :
    item ∈ (processMessage yrs config surroundings origin object (.serverBroadcast data)
      self).2.sink.messageQueue := by
  rw [processMessage_broadcast]
  split
  · exact member
  rw [processPayload_snd]
  split
  · exact processInners_keeps yrs config data.origin object.objectId ranked member _
  · exact member

theorem processMessage_broadcast_stores :
    (processMessage yrs config surroundings origin object (.serverBroadcast data) self).2.broadcastSeqNum =
      data.seqNum := by
  have noticed := noticeBroadcast_broadcastSeqNum yrs origin object surroundings.sync data self
  rw [processMessage_broadcast]
  split
  · exact noticed
  rw [processPayload_snd]
  split
  · rw [processInners_broadcastSeqNum, noticed]
  · exact noticed

end Broadcast

theorem syncRank_of_initSync {item : QueueItem} (init : item.inner.isClientInitSync = true) : 0 < item.syncRank := by
  obtain ⟨inner, msgId⟩ := item
  cases inner with
  | clientInitSync => exact Nat.two_pos
  | clientUpdateSync | serverInitSync | clientAwarenessSync => cases init

/-- The number that follows the stored one is never ahead of it. -/
theorem not_reportsGap_next (data : BroadcastSync) :
    ¬ ∀ next : BroadcastSync, next.seqNum = data.seqNum + 1 → ReportsGap object next data.seqNum := by
  intro reports
  have ahead := (reportsGap_iff object _ _).mp (reports { data with seqNum := data.seqNum + 1 } rfl)
  exact UInt32.lt_irrefl _ ahead

theorem gapPending_iff (self : ObserveCollab Op AwarenessUpdate) (event : ObserveEvent Op AwarenessUpdate) :
    GapPending yrs config origin object self event ↔ GapHandled yrs object self event := by
  constructor
  · rintro pending surroundings data newer rfl gap
    rcases pending surroundings data newer rfl gap with ⟨item, _, _, ⟨queued, _⟩ | waited⟩ | reports
    · exact .inl queued
    · exact .inr ⟨item, waited⟩
    · simp only [ObserveCollab.step, processMessage_broadcast_stores] at reports
      exact absurd reports (not_reportsGap_next object data)
  · rintro handled surroundings data newer rfl gap
    left
    simp only [ObserveCollab.step]
    have noticed := noticeBroadcast_gap yrs origin object surroundings.sync gap
    cases Decidable.em (QueuesInitSync yrs surroundings.sync self) with
    | inl queues =>
      have stored : QueuesInitSync yrs surroundings.sync { self with broadcastSeqNum := data.seqNum } := queues
      obtain ⟨item, member, init, fresh⟩ := tryInitSync_queues yrs origin object stored
      rw [← noticed] at member
      exact ⟨item, processMessage_broadcast_keeps yrs config origin object (syncRank_of_initSync init) member, init,
        .inl ⟨queues, fresh⟩⟩
    | inr waits =>
      -- the guards leave the queue as it was
      obtain ⟨item, waiting⟩ := (handled surroundings data newer rfl gap).resolve_left waits
      have stored : ¬ QueuesInitSync yrs surroundings.sync { self with broadcastSeqNum := data.seqNum } := waits
      have member := waiting.1
      have same := tryInitSync_waits yrs origin object stored
      rw [← noticed] at same
      change item ∈ ({ self with broadcastSeqNum := data.seqNum } : ObserveCollab Op AwarenessUpdate).sink.messageQueue
        at member
      rw [← same] at member
      exact ⟨item, processMessage_broadcast_keeps yrs config origin object (syncRank_of_initSync waiting.2.1) member,
        waiting.2.1, .inr waiting⟩

end Gaps

/-- In every run each reported gap stays pending exactly when, at each report, the guards let
    an init sync through or one newer than the gap waits in the queue already. -/
theorem gaps_pending_iff (yrs : Yrs Op StateVector AwarenessUpdate) (config : SinkConfig) (origin : CollabOrigin)
    (object : SyncObject) (start : ObserveCollab Op AwarenessUpdate)
    (events : List (ObserveEvent Op AwarenessUpdate)) :
    Always (ObserveCollab.step yrs config origin object) (GapPending yrs config origin object) start events ↔
      Always (ObserveCollab.step yrs config origin object) (GapHandled yrs object) start events :=
  always_congr fun self event => gapPending_iff yrs config origin object self event

/-- Client 1 at rest, with nothing sent or received. -/
def atRest : ObserveCollab (Nat × Nat) Lib0.AwarenessUpdate := ⟨⟨∅, [], []⟩, .new false, 0, 0⟩

def secondBroadcast : BroadcastSync := ⟨.client 2 "phone", "object", [0, 2, 10, 1, 1, 1, 1, 132, 1, 0, 1, 98, 0], 2⟩

/-- The first broadcast is lost, and the collab is in use when the second one comes. -/
theorem gap_forgotten :
    ¬ ∀ (start : ObserveCollab (Nat × Nat) Lib0.AwarenessUpdate)
        (events : List (ObserveEvent (Nat × Nat) Lib0.AwarenessUpdate)),
        Always (ObserveCollab.step (UpdateTable.yrs typedUpdates) .default (.client 1 "device") sharedObject)
          (GapPending (UpdateTable.yrs typedUpdates) .default (.client 1 "device") sharedObject) start events := by
  intro pending
  let busy : Surroundings := { Surroundings.idle 3600000 with sync := { SyncMoment.idle 3600000 with lockFree := false } }
  have always := pending atRest [.message busy (.serverBroadcast secondBroadcast) ∅]
  have handled := (gapPending_iff _ _ _ _ _ _).mp always.1
  cases handled busy secondBroadcast ∅ rfl (by decide) with
  | inl queues =>
    revert queues
    decide
  | inr held =>
    obtain ⟨item, _, _, newer⟩ := held
    cases newer

end FlowCloud.Client
