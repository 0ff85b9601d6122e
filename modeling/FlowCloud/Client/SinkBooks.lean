import FlowCloud.Client.SinkKeeps

/-! # The ids in the sink

The operations of the sink, each run to its end with its locks free.  The ids in the queue
are used once, stay below the counter and include the flying ones, and so no id is
acknowledged twice.
-/

namespace FlowCloud.Client

open FlowCloud.Foundation FlowCloud.Entity FlowCloud.Protocol

inductive SinkOperation where
  | queueMsg (msg : ClientCollabMessage)
  | queueInitSync (msg : ClientCollabMessage)
  | clear
  | processNextMsg (success : Bool)
  | tick
  | setPause (pause : Bool)
  | validateResponse (serverMessage : ServerCollabMessage)
  /-- The heap may hold its items in another order. -/
  | relayout (layout : List QueueItem)
  deriving DecidableEq, Repr

def SinkOperation.queues : SinkOperation → Bool
  | .queueMsg _ => true
  | .queueInitSync _ => true
  | _ => false

def CollabSink.relayout (self : CollabSink) (layout : List QueueItem) : CollabSink :=
  if layout.isPerm self.messageQueue then { self with messageQueue := layout } else self

section

variable {Op StateVector AwarenessUpdate : Type} [DecidableEq Op]
variable (yrs : Yrs Op StateVector AwarenessUpdate) (config : SinkConfig)

def CollabSink.operate (self : CollabSink) : SinkOperation → CollabSink
  | .queueMsg msg => (self.queueMsg msg).merge yrs config true
  | .queueInitSync msg => self.queueInitSync msg true true
  | .clear => self.clear true true
  | .processNextMsg success => (self.processNextMsg true).2.sendFinished success
  | .tick => self.tick
  | .setPause pause => self.setPause pause
  | .validateResponse serverMessage => (self.validateResponse serverMessage).2
  | .relayout layout => self.relayout layout

end

/-- The id that the operation accepts the ack of. -/
def CollabSink.acceptedId (self : CollabSink) : SinkOperation → Option MsgId
  | .validateResponse serverMessage =>
    if (self.validateResponse serverMessage).1 then serverMessage.msgId else none
  | _ => none

/-! ## The invariant -/

/-- Ids are used once and below the counter, and what is flying is queued. -/
structure CollabSink.Booked (sink : CollabSink) : Prop where
  ownId : ∀ item ∈ sink.messageQueue, item.inner.msgId = item.msgId
  distinct : (sink.messageQueue.map QueueItem.msgId).Nodup
  usedId : ∀ item ∈ sink.messageQueue, item.msgId < sink.msgIdCounter
  flyingQueued : ∀ msgId ∈ sink.flyingMessages, ∃ item ∈ sink.messageQueue, item.msgId = msgId

namespace CollabSink.Booked

variable {self : CollabSink}

theorem posted (booked : self.Booked) : Posted (fun _ => False) self.messageQueue [] self.msgIdCounter where
  ownId := booked.ownId
  usedId := booked.usedId
  distinct := booked.distinct
  sentId := List.forall_mem_nil _
  unchanged := List.forall_mem_nil _

theorem of_posted (posted : Posted (fun _ => False) self.messageQueue [] self.msgIdCounter)
    (flyingQueued : ∀ msgId ∈ self.flyingMessages, ∃ item ∈ self.messageQueue, item.msgId = msgId) : self.Booked :=
  ⟨posted.ownId, posted.distinct, posted.usedId, flyingQueued⟩

theorem new (pause : Bool) : (CollabSink.new pause).Booked :=
  of_posted (.empty (List.forall_mem_nil _)) fun _ flying => absurd flying (Finset.notMem_empty _)

/-- Fewer flying ids, and the same items in any layout. -/
theorem weaken {next : CollabSink} (booked : self.Booked) (queue : next.messageQueue.Perm self.messageQueue)
    (counter : next.msgIdCounter = self.msgIdCounter) (flying : next.flyingMessages ⊆ self.flyingMessages) :
    next.Booked := by
  refine of_posted ?_ ?_
  · rw [counter]
    exact booked.posted.of_perm queue
  · intro msgId member
    obtain ⟨item, inside, same⟩ := booked.flyingQueued msgId (flying member)
    exact ⟨item, queue.symm.subset inside, same⟩

theorem pushMsg (booked : self.Booked) (msg : ClientCollabMessage) (room : self.msgIdCounter + 1 < 2 ^ 64) :
    (self.pushMsg msg).Booked := by
  refine of_posted ?_ ?_
  · simp only [CollabSink.pushMsg, Nat.mod_eq_of_lt room]
    exact booked.posted.push msg
  · intro msgId flying
    obtain ⟨item, inside, same⟩ := booked.flyingQueued msgId flying
    exact ⟨item, .tail _ inside, same⟩

theorem clear (booked : self.Booked) {queueFree flyingFree : Bool}
    (together : queueFree = true → flyingFree = true ∨ self.flyingMessages = ∅) :
    (self.clear queueFree flyingFree).Booked := by
  cases queueFree with
  | true =>
    refine of_posted (.empty (List.forall_mem_nil _)) ?_
    intro msgId flying
    cases together rfl with
    | inl same =>
      obtain rfl := same
      exact absurd flying (Finset.notMem_empty _)
    | inr none =>
      simp only [CollabSink.clear, none, ite_self] at flying
      exact absurd flying (Finset.notMem_empty _)
  | false =>
    refine booked.weaken (.refl _) rfl ?_
    cases flyingFree with
    | true => exact Finset.empty_subset _
    | false => exact Finset.Subset.refl _

theorem relayout (booked : self.Booked) (layout : List QueueItem) : (self.relayout layout).Booked := by
  rw [CollabSink.relayout]
  split
  · rename_i permuted
    exact booked.weaken (List.isPerm_iff.mp permuted) rfl (Finset.Subset.refl _)
  · exact booked

theorem tick (booked : self.Booked) : self.tick.Booked := booked.weaken (.refl _) rfl (Finset.empty_subset _)

theorem setPause (booked : self.Booked) (pause : Bool) : (self.setPause pause).Booked :=
  booked.weaken (.refl _) rfl (Finset.Subset.refl _)

theorem sendFinished (booked : self.Booked) (success : Bool) : (self.sendFinished success).Booked := by
  refine booked.weaken (by rw [sendFinished_messageQueue]) (self.sendFinished_msgIdCounter success) ?_
  rw [CollabSink.sendFinished]
  cases self.sending with
  | none => exact Finset.Subset.refl _
  | some ids =>
    cases success with
    | true => exact Finset.Subset.refl _
    | false => exact Finset.sdiff_subset

theorem processNextMsg (booked : self.Booked) (locksFree : Bool) : (self.processNextMsg locksFree).2.Booked := by
  refine of_posted ?_ ?_
  · rw [processNextMsg_msgIdCounter]
    exact booked.posted.of_perm (self.processNextMsg_perm locksFree)
  · intro msgId flying
    have queued : ∃ item ∈ self.messageQueue, item.msgId = msgId := by
      cases self.processNextMsg_cases locksFree with
      | inl held =>
        obtain ⟨_, same, _⟩ := held
        exact booked.flyingQueued msgId (same ▸ flying)
      | inr held =>
        obtain ⟨_, _, _, _, same⟩ := held
        rw [same, Finset.mem_union] at flying
        cases flying with
        | inl before => exact booked.flyingQueued msgId before
        | inr taken =>
          obtain ⟨item, inside, rfl⟩ := List.mem_map.mp (List.mem_toFinset.mp taken)
          exact ⟨item, self.getNextBatchItem_subset inside, rfl⟩
    obtain ⟨item, inside, same⟩ := queued
    exact ⟨item, (self.processNextMsg_perm locksFree).symm.subset inside, same⟩

theorem validateResponse (booked : self.Booked) (serverMessage : ServerCollabMessage) :
    (self.validateResponse serverMessage).2.Booked := by
  have counter := self.validateResponse_msgIdCounter serverMessage
  rcases self.validateResponse_outcome serverMessage with ⟨_, same⟩ | ⟨_, queue, flying⟩ |
    ⟨item, rest, _, _, popped, _, queue, flying⟩
  · rw [same]
    exact booked
  · exact booked.weaken queue counter flying.subset
  · refine of_posted ?_ ?_
    · rw [queue, counter]
      exact (booked.posted.of_perm (popMax_perm popped)).tail
    · intro msgId member
      rw [flying, Finset.mem_erase] at member
      obtain ⟨other, inside, rfl⟩ := booked.flyingQueued msgId member.2
      rw [queue]
      -- the item that is gone had another id
      cases List.mem_cons.mp ((popMax_perm popped).symm.subset inside) with
      | inl equal =>
        obtain rfl := equal
        exact absurd rfl member.1
      | inr kept => exact ⟨other, kept, rfl⟩

variable {Op StateVector AwarenessUpdate : Type} [DecidableEq Op]
variable (yrs : Yrs Op StateVector AwarenessUpdate) (config : SinkConfig)

theorem merge (booked : self.Booked) (locksFree : Bool) : (self.merge yrs config locksFree).Booked := by
  refine of_posted (booked.posted.merge yrs config fun _ _ never => never.elim) ?_
  intro msgId flying
  obtain ⟨item, inside, rfl⟩ := booked.flyingQueued msgId flying
  exact ⟨item, merge_keeps_flying yrs self.flyingMessages config flying inside locksFree, rfl⟩

end CollabSink.Booked

/-! ## Every run -/

/-- The counter does not start over. -/
def CollabSink.Room (self : CollabSink) (operation : SinkOperation) : Prop :=
  operation.queues = true → self.msgIdCounter + 1 < 2 ^ 64

/-- The id was given out, and no item has it any more. -/
def CollabSink.Spent (self : CollabSink) (msgId : MsgId) : Prop :=
  msgId < self.msgIdCounter ∧ ∀ item ∈ self.messageQueue, item.msgId ≠ msgId

section

variable {Op StateVector AwarenessUpdate : Type} [DecidableEq Op]
variable (yrs : Yrs Op StateVector AwarenessUpdate) (config : SinkConfig) {self : CollabSink}

theorem CollabSink.Booked.operate (booked : self.Booked) {operation : SinkOperation} (room : self.Room operation) :
    (self.operate yrs config operation).Booked := by
  cases operation with
  | queueMsg msg => exact (booked.pushMsg msg (room rfl)).merge yrs config true
  | queueInitSync msg => exact (booked.clear fun _ => .inl rfl).pushMsg msg (room rfl)
  | clear => exact booked.clear fun _ => .inl rfl
  | processNextMsg success => exact (booked.processNextMsg true).sendFinished success
  | tick => exact booked.tick
  | setPause pause => exact booked.setPause pause
  | validateResponse serverMessage => exact booked.validateResponse serverMessage
  | relayout layout => exact booked.relayout layout

theorem relayout_messageQueue_subset (self : CollabSink) (layout : List QueueItem) :
    (self.relayout layout).messageQueue ⊆ self.messageQueue := by
  rw [CollabSink.relayout]
  split
  · rename_i permuted
    exact (List.isPerm_iff.mp permuted).subset
  · exact List.Subset.refl _

theorem relayout_msgIdCounter (self : CollabSink) (layout : List QueueItem) :
    (self.relayout layout).msgIdCounter = self.msgIdCounter := by
  rw [CollabSink.relayout]
  split <;> rfl

theorem operate_msgIdCounter {operation : SinkOperation} (room : self.Room operation) :
    (self.operate yrs config operation).msgIdCounter =
      if operation.queues = true then self.msgIdCounter + 1 else self.msgIdCounter := by
  cases operation with
  | queueMsg msg => exact Nat.mod_eq_of_lt (room rfl)
  | queueInitSync msg => exact Nat.mod_eq_of_lt (room rfl)
  | clear | tick | setPause pause => rfl
  | processNextMsg success => simp [CollabSink.operate, SinkOperation.queues]
  | validateResponse serverMessage => simp [CollabSink.operate, SinkOperation.queues]
  | relayout layout => exact relayout_msgIdCounter self layout

/-- An item of the merged queue has the id of an item of the queue before. -/
theorem merge_msgId {flyingMessages : Finset MsgId} {queue : List QueueItem} {locksFree : Bool} {item : QueueItem}
    (member : item ∈ Client.merge yrs flyingMessages config locksFree queue) :
    ∃ before ∈ queue, before.msgId = item.msgId := by
  obtain ⟨group, rfl, result, members⟩ := mem_merge yrs flyingMessages config member
  exact ⟨group.first, members (.head _), result.sameId.symm⟩

/-- An item after an operation has the id of an item before it, or the next one. -/
theorem operate_msgId {operation : SinkOperation} {item : QueueItem}
    (member : item ∈ (self.operate yrs config operation).messageQueue) :
    item.msgId = self.msgIdCounter ∨ ∃ before ∈ self.messageQueue, before.msgId = item.msgId := by
  cases operation with
  | queueMsg msg =>
    obtain ⟨before, inside, same⟩ := merge_msgId yrs config member
    cases List.mem_cons.mp inside with
    | inl equal =>
      obtain rfl := equal
      exact .inl same.symm
    | inr queued => exact .inr ⟨before, queued, same⟩
  | queueInitSync msg =>
    obtain rfl := List.mem_singleton.mp member
    exact .inl rfl
  | clear => cases member
  | processNextMsg success =>
    simp only [CollabSink.operate, CollabSink.sendFinished_messageQueue] at member
    exact .inr ⟨item, (self.processNextMsg_perm true).subset member, rfl⟩
  | tick => exact .inr ⟨item, member, rfl⟩
  | setPause pause => exact .inr ⟨item, member, rfl⟩
  | validateResponse serverMessage =>
    cases self.validateResponse_cases serverMessage with
    | inl same => exact .inr ⟨item, same.subset member, rfl⟩
    | inr held =>
      obtain ⟨removed, _, split⟩ := held
      exact .inr ⟨item, split.subset (.tail _ member), rfl⟩
  | relayout layout => exact .inr ⟨item, relayout_messageQueue_subset self layout member, rfl⟩

theorem CollabSink.Spent.operate {msgId : MsgId} (spent : self.Spent msgId) {operation : SinkOperation}
    (room : self.Room operation) : (self.operate yrs config operation).Spent msgId := by
  obtain ⟨used, gone⟩ := spent
  constructor
  · rw [operate_msgIdCounter yrs config room]
    split
    · exact Nat.lt_succ_of_lt used
    · exact used
  · intro item member same
    cases operate_msgId yrs config member with
    | inl fresh =>
      rw [← same, fresh] at used
      exact Nat.lt_irrefl _ used
    | inr held =>
      obtain ⟨before, inside, sameBefore⟩ := held
      exact gone before inside (sameBefore.trans same)

/-- The item that an accepted ack takes out is in the queue before it and not afterwards. -/
theorem CollabSink.Booked.spends (booked : self.Booked) {operation : SinkOperation} {msgId : MsgId}
    (accepted : self.acceptedId operation = some msgId) :
    ¬ self.Spent msgId ∧ (self.operate yrs config operation).Spent msgId := by
  cases operation with
  | validateResponse serverMessage =>
    simp only [CollabSink.acceptedId] at accepted
    rcases self.validateResponse_outcome serverMessage with ⟨noId, _⟩ | ⟨refused, _⟩ |
      ⟨item, rest, named, _, popped, valid, queue, _⟩
    · rw [noId, ite_self] at accepted
      cases accepted
    · rw [refused] at accepted
      cases accepted
    · rw [valid, named] at accepted
      cases accepted
      have split := popMax_perm popped
      have inside : item ∈ self.messageQueue := split.subset (.head _)
      refine ⟨fun spent => spent.2 item inside rfl, ?_, ?_⟩
      · rw [CollabSink.operate, CollabSink.validateResponse_msgIdCounter]
        exact booked.usedId item inside
      · simp only [CollabSink.operate, queue]
        have distinct := (split.map QueueItem.msgId).nodup_iff.mpr booked.distinct
        intro other member same
        exact (List.nodup_cons.mp distinct).1 (same ▸ List.mem_map_of_mem member)
  | queueMsg | queueInitSync | clear | processNextMsg | tick | setPause | relayout => cases accepted

/-- With fewer than 2^64 queued messages the counter never starts over. -/
theorem always_room (operations : List SinkOperation)
    (few : self.msgIdCounter + operations.countP SinkOperation.queues < 2 ^ 64) :
    Always (CollabSink.operate yrs config) CollabSink.Room self operations := by
  induction operations generalizing self with
  | nil => trivial
  | cons operation operations inductionHypothesis =>
    have room : self.Room operation := by
      intro queues
      rw [List.countP_cons_of_pos queues] at few
      omega
    refine ⟨room, inductionHypothesis ?_⟩
    rw [operate_msgIdCounter yrs config room]
    rw [List.countP_cons] at few
    split
    · rename_i queues
      rw [if_pos queues] at few
      omega
    · rename_i other
      rw [if_neg other] at few
      exact few

/-- After any operations the books are right, and no id was accepted twice on the way. -/
theorem sink_booked (pause : Bool) (operations : List SinkOperation)
    (few : operations.countP SinkOperation.queues < 2 ^ 64) :
    (run (CollabSink.operate yrs config) (.new pause) operations).Booked ∧
      (observed (CollabSink.operate yrs config) CollabSink.acceptedId (.new pause) operations).Nodup := by
  have room : Always (CollabSink.operate yrs config) CollabSink.Room (.new pause) operations :=
    always_room yrs config operations (by simpa [CollabSink.new] using few)
  have preserved (self : CollabSink) (operation : SinkOperation) (booked : self.Booked)
      (room : self.Room operation) : (self.operate yrs config operation).Booked := booked.operate yrs config room
  refine ⟨Always.invariant preserved (.new pause) room, ?_⟩
  have once := Always.observed_nodup CollabSink.Spent preserved
    (fun _ _ _ booked _ accepted => booked.spends yrs config accepted)
    (fun _ _ _ _ room spent => spent.operate yrs config room) (.new pause) room
  exact once.1

end

/-- Both edits are acknowledged while they fly, and the first ack comes again. -/
theorem sink_booked_typing :
    (run (CollabSink.operate (UpdateTable.yrs typedUpdates) .default) (.new false)
      [.queueMsg typeA, .processNextMsg true, .queueMsg typeB, .validateResponse (ackOf 0),
        .validateResponse (ackOf 0), .processNextMsg true, .validateResponse (ackOf 1)]).Booked ∧
      (observed (CollabSink.operate (UpdateTable.yrs typedUpdates) .default) CollabSink.acceptedId (.new false)
        [.queueMsg typeA, .processNextMsg true, .queueMsg typeB, .validateResponse (ackOf 0),
          .validateResponse (ackOf 0), .processNextMsg true, .validateResponse (ackOf 1)]).Nodup :=
  sink_booked (UpdateTable.yrs typedUpdates) .default false _ (by decide)

end FlowCloud.Client
