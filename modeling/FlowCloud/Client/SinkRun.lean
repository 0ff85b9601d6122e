import FlowCloud.Foundation.Runs
import FlowCloud.Client.Sink

/-! # Runs of the client sink

The sink together with what the transport has taken from it and what the server has
acknowledged.  A send that fails has given the transport nothing.  Acks are never used up: one
that was given can arrive at any later time and any number of times.
-/

namespace FlowCloud.Client

open FlowCloud.Foundation FlowCloud.Entity FlowCloud.Protocol

structure SinkSystem where
  sink : CollabSink
  /-- The batch that the sender holds and the transport has not taken. -/
  handed : List ClientCollabMessage
  transmitted : List ClientCollabMessage
  acknowledged : List ClientCollabMessage

def SinkSystem.new (pause : Bool) : SinkSystem := ⟨.new pause, [], [], []⟩

inductive SinkEvent where
  | queueMsg (msg : ClientCollabMessage)
  /-- The merge that ends a `queue_msg`. -/
  | merge (locksFree : Bool)
  | queueInitSync (msg : ClientCollabMessage) (queueFree flyingFree : Bool)
  /-- The heap may hold its items in another order. -/
  | relayout (layout : List QueueItem)
  | processNextMsg (locksFree : Bool)
  /-- The transport takes the batch, which may be before the send returns. -/
  | transmit
  | sendFinished (success : Bool)
  | tick
  | setPause (pause : Bool)
  /-- The server acknowledges a copy it received. -/
  | acknowledge (copy : ClientCollabMessage)
  | validateResponse (serverMessage : ServerCollabMessage)
  deriving DecidableEq, Repr

def SinkSystem.answered (self : SinkSystem) (serverMessage : ServerCollabMessage) : Bool :=
  match serverMessage.msgId with
  | none => true
  | some msgId => self.acknowledged.any fun copy => copy.msgId == msgId

variable {Op StateVector AwarenessUpdate : Type} [DecidableEq Op]
variable (yrs : Yrs Op StateVector AwarenessUpdate) (config : SinkConfig)

def SinkSystem.transmit (self : SinkSystem) : SinkSystem :=
  { self with transmitted := self.transmitted ++ self.handed, handed := [] }

/-- One step; the failure of a send that the transport has taken, an acknowledgement of a copy
    that was never sent and a response nobody gave do not happen. -/
def SinkSystem.step (self : SinkSystem) : SinkEvent → SinkSystem
  | .queueMsg msg => { self with sink := self.sink.queueMsg msg }
  | .merge locksFree => { self with sink := self.sink.merge yrs config locksFree }
  | .queueInitSync msg queueFree flyingFree =>
    { self with sink := self.sink.queueInitSync msg queueFree flyingFree }
  | .relayout layout =>
    -- the order inside a binary heap is not part of what the sink promises
    if layout.isPerm self.sink.messageQueue then
      { self with sink := { self.sink with messageQueue := layout } }
    else self
  | .processNextMsg locksFree =>
    let (messages, sink) := self.sink.processNextMsg locksFree
    { self with sink, handed := self.handed ++ messages }
  | .transmit => self.transmit
  | .sendFinished true => { self.transmit with sink := self.sink.sendFinished true }
  | .sendFinished false =>
    if self.handed.isEmpty then self else { self with sink := self.sink.sendFinished false, handed := [] }
  | .tick => { self with sink := self.sink.tick }
  | .setPause pause => { self with sink := self.sink.setPause pause }
  | .acknowledge copy =>
    if copy ∈ self.transmitted then { self with acknowledged := self.acknowledged ++ [copy] } else self
  | .validateResponse serverMessage =>
    if self.answered serverMessage then { self with sink := (self.sink.validateResponse serverMessage).2 }
    else self

/-! ## What an ack may remove -/

/-- The payload contains every update in the payload of the message. -/
def ContainsUpdates (copy message : ClientCollabMessage) : Prop :=
  ∀ msg ∈ (MessageReader.read yrs.codec message.payload).messages, msg.carriedUpdate.isSome = true →
    ContainedIn yrs msg (MessageReader.read yrs.codec copy.payload).messages

/-- An item that a response takes out of the queue was acknowledged with all its updates. -/
def RemovesSeen (state : SinkSystem) (event : SinkEvent) : Prop :=
  ∀ serverMessage, event = .validateResponse serverMessage →
    ∀ item, (item :: (state.step yrs config event).sink.messageQueue).Perm state.sink.messageQueue →
      ∃ copy ∈ state.acknowledged, copy.msgId = item.msgId ∧ ContainsUpdates yrs copy item.inner

/-- No merge changes an item of which the sender holds a copy or has sent one, and the id
    counter does not start over. -/
def GrowsUnsentOnly (state : SinkSystem) : SinkEvent → Prop
  | .merge locksFree =>
    ∀ group ∈ mergeGroups yrs state.sink.flyingMessages config locksFree state.sink.messageQueue,
      group.Merges yrs → ∀ copy ∈ state.transmitted ++ state.handed, copy.msgId ≠ group.first.msgId
  | .queueMsg _ => state.sink.msgIdCounter + 1 < 2 ^ 64
  | .queueInitSync _ _ _ => state.sink.msgIdCounter + 1 < 2 ^ 64
  | _ => True

instance (state : SinkSystem) : (event : SinkEvent) → Decidable (GrowsUnsentOnly yrs config state event)
  | .merge locksFree =>
    inferInstanceAs (Decidable (∀ group ∈ mergeGroups yrs state.sink.flyingMessages config locksFree
      state.sink.messageQueue, group.Merges yrs →
        ∀ copy ∈ state.transmitted ++ state.handed, copy.msgId ≠ group.first.msgId))
  | .queueMsg _ | .queueInitSync _ _ _ => inferInstanceAs (Decidable (state.sink.msgIdCounter + 1 < 2 ^ 64))
  | .relayout _ | .processNextMsg _ | .transmit | .sendFinished _ | .tick | .setPause _ | .acknowledge _
  | .validateResponse _ => .isTrue trivial

/-! ## The invariant -/

/-- What ties the queue to the copies of its messages: ids are used once, and a kept item is
    still what its copies say. -/
structure Posted (kept : QueueItem → Prop) (queue : List QueueItem) (transmitted : List ClientCollabMessage)
    (nextId : MsgId) : Prop where
  ownId : ∀ item ∈ queue, item.inner.msgId = item.msgId
  usedId : ∀ item ∈ queue, item.msgId < nextId
  distinct : (queue.map QueueItem.msgId).Nodup
  sentId : ∀ copy ∈ transmitted, copy.msgId < nextId
  unchanged : ∀ copy ∈ transmitted, ∀ item ∈ queue, kept item → copy.msgId = item.msgId → copy = item.inner

/-- The same with every item kept. -/
structure Tracked (queue : List QueueItem) (transmitted : List ClientCollabMessage) (nextId : MsgId) : Prop where
  ownId : ∀ item ∈ queue, item.inner.msgId = item.msgId
  usedId : ∀ item ∈ queue, item.msgId < nextId
  distinct : (queue.map QueueItem.msgId).Nodup
  sentId : ∀ copy ∈ transmitted, copy.msgId < nextId
  unchanged : ∀ copy ∈ transmitted, ∀ item ∈ queue, copy.msgId = item.msgId → copy = item.inner

structure SinkSystem.Consistent (system : SinkSystem) : Prop where
  tracked : Tracked system.sink.messageQueue (system.transmitted ++ system.handed) system.sink.msgIdCounter
  received : system.acknowledged ⊆ system.transmitted

@[simp] theorem msgId_setMsgId (message : ClientCollabMessage) (msgId : MsgId) :
    (message.setMsgId msgId).msgId = msgId := by
  cases message <;> rfl

theorem sublist_flatMap_members (groups : List MergeGroup) :
    (groups.map MergeGroup.first).Sublist (groups.flatMap MergeGroup.members) := by
  induction groups with
  | nil => exact .slnil
  | cons group groups inductionHypothesis =>
    rw [List.map_cons, List.flatMap_cons, MergeGroup.members, List.cons_append]
    exact (inductionHypothesis.trans (List.sublist_append_right _ _)).cons_cons _

theorem msgId_withUpdate (message : ClientCollabMessage) (data : Bytes) :
    (message.withUpdate yrs data).msgId = message.msgId := by
  cases message <;> rfl

/-- A merged item has the id of the first one it was made of, inside as well. -/
theorem MergeGroup.Result.ownId {group : MergeGroup} (result : group.Result yrs)
    (own : group.first.inner.msgId = group.first.msgId) : group.item.inner.msgId = group.item.msgId := by
  rw [result.sameId, ← own]
  by_cases merges : group.Merges yrs
  · obtain ⟨data, inner, _⟩ := result.merged merges
    rw [inner, msgId_withUpdate]
  · rw [result.unmerged merges]

section Posted

variable {kept : QueueItem → Prop} {queue layout : List QueueItem} {transmitted : List ClientCollabMessage}
variable {nextId : MsgId}

theorem Posted.of_perm (posted : Posted kept queue transmitted nextId) (permuted : layout.Perm queue) :
    Posted kept layout transmitted nextId where
  ownId item member := posted.ownId item (permuted.subset member)
  usedId item member := posted.usedId item (permuted.subset member)
  distinct := (permuted.map _).nodup_iff.mpr posted.distinct
  sentId := posted.sentId
  unchanged copy sent item member := posted.unchanged copy sent item (permuted.subset member)

theorem Posted.tail {item : QueueItem} (posted : Posted kept (item :: queue) transmitted nextId) :
    Posted kept queue transmitted nextId where
  ownId other member := posted.ownId other (.tail _ member)
  usedId other member := posted.usedId other (.tail _ member)
  distinct := (List.nodup_cons.mp posted.distinct).2
  sentId := posted.sentId
  unchanged copy sent other member := posted.unchanged copy sent other (.tail _ member)

theorem Posted.of_subset (posted : Posted kept queue transmitted nextId) {fewer : List ClientCollabMessage}
    (subset : fewer ⊆ transmitted) : Posted kept queue fewer nextId where
  ownId := posted.ownId
  usedId := posted.usedId
  distinct := posted.distinct
  sentId copy sent := posted.sentId copy (subset sent)
  unchanged copy sent := posted.unchanged copy (subset sent)

theorem Posted.empty (sentId : ∀ copy ∈ transmitted, copy.msgId < nextId) : Posted kept [] transmitted nextId where
  ownId := List.forall_mem_nil _
  usedId := List.forall_mem_nil _
  distinct := .nil
  sentId := sentId
  unchanged := fun _ _ => List.forall_mem_nil _

theorem Posted.push (posted : Posted kept queue transmitted nextId) (msg : ClientCollabMessage) :
    Posted kept (⟨msg.setMsgId nextId, nextId⟩ :: queue) transmitted (nextId + 1) where
  ownId := List.forall_mem_cons.mpr ⟨msgId_setMsgId msg nextId, posted.ownId⟩
  usedId := List.forall_mem_cons.mpr
    ⟨Nat.lt_succ_self nextId, fun item member => Nat.lt_succ_of_lt (posted.usedId item member)⟩
  distinct := by
    refine List.nodup_cons.mpr ⟨?_, posted.distinct⟩
    intro used
    obtain ⟨item, member, same⟩ := List.mem_map.mp used
    have below := posted.usedId item member
    rw [same] at below
    exact Nat.lt_irrefl nextId below
  sentId copy sent := Nat.lt_succ_of_lt (posted.sentId copy sent)
  unchanged copy sent := by
    refine List.forall_mem_cons.mpr ⟨?_, posted.unchanged copy sent⟩
    -- no copy has the fresh id
    intro _ same
    have below := posted.sentId copy sent
    rw [same] at below
    exact absurd below (Nat.lt_irrefl nextId)

theorem Posted.transmit {messages : List ClientCollabMessage} (posted : Posted kept queue transmitted nextId)
    (queued : ∀ message ∈ messages, ∃ item ∈ queue, item.inner = message) :
    Posted kept queue (transmitted ++ messages) nextId where
  ownId := posted.ownId
  usedId := posted.usedId
  distinct := posted.distinct
  sentId := by
    intro copy member
    cases List.mem_append.mp member with
    | inl before => exact posted.sentId copy before
    | inr handed =>
      obtain ⟨item, inside, rfl⟩ := queued copy handed
      rw [posted.ownId item inside]
      exact posted.usedId item inside
  unchanged := by
    intro copy member item inside keeps same
    cases List.mem_append.mp member with
    | inl before => exact posted.unchanged copy before item inside keeps same
    | inr handed =>
      obtain ⟨source, sourceInside, rfl⟩ := queued copy handed
      rw [posted.ownId source sourceInside] at same
      -- two queued items with one id are the same item
      rw [List.inj_on_of_nodup_map posted.distinct sourceInside inside same]

/-- A merge that grows no kept item with a copy under way. -/
theorem Posted.merge {flyingMessages : Finset MsgId} {locksFree : Bool}
    (posted : Posted kept queue transmitted nextId)
    (unsent : ∀ group ∈ mergeGroups yrs flyingMessages config locksFree queue, kept group.item →
      group.Merges yrs → ∀ copy ∈ transmitted, copy.msgId ≠ group.first.msgId) :
    Posted kept (Client.merge yrs flyingMessages config locksFree queue) transmitted nextId := by
  -- each merged item answers for the first item of its group, and these are distinct
  have members := mergeGroups_members yrs flyingMessages config locksFree queue
  have firsts := sublist_flatMap_members (mergeGroups yrs flyingMessages config locksFree queue)
  have result : ∀ group ∈ mergeGroups yrs flyingMessages config locksFree queue, group.Result yrs :=
    mergeGroups_result yrs
  have queued : ∀ group ∈ mergeGroups yrs flyingMessages config locksFree queue, group.first ∈ queue := by
    intro group member
    exact members.subset (firsts.subset (List.mem_map_of_mem member))
  rw [← mergeGroups_items]
  constructor
  · intro item member
    obtain ⟨group, inside, rfl⟩ := List.mem_map.mp member
    exact (result group inside).ownId yrs (posted.ownId _ (queued group inside))
  · intro item member
    obtain ⟨group, inside, rfl⟩ := List.mem_map.mp member
    rw [(result group inside).sameId]
    exact posted.usedId _ (queued group inside)
  · have ids : ((mergeGroups yrs flyingMessages config locksFree queue).map MergeGroup.item).map QueueItem.msgId =
        ((mergeGroups yrs flyingMessages config locksFree queue).map MergeGroup.first).map QueueItem.msgId := by
      rw [List.map_map, List.map_map]
      exact List.map_congr_left fun group inside => (result group inside).sameId
    rw [ids]
    exact ((members.map _).nodup_iff.mpr posted.distinct).sublist (firsts.map _)
  · exact posted.sentId
  · intro copy sent item member keeps same
    obtain ⟨group, inside, rfl⟩ := List.mem_map.mp member
    rw [(result group inside).sameId] at same
    -- an item with a copy under way was not grown, so it is still that copy
    have untouched : ¬ group.Merges yrs := fun merges => unsent group inside keeps merges copy sent same
    have first : group.item = group.first :=
      congrArg₂ QueueItem.mk ((result group inside).unmerged untouched) (result group inside).sameId
    rw [first] at keeps ⊢
    exact posted.unchanged copy sent _ (queued group inside) keeps same

end Posted

section Tracked

variable {queue layout : List QueueItem} {transmitted : List ClientCollabMessage} {nextId : MsgId}

theorem tracked_iff_posted :
    Tracked queue transmitted nextId ↔ Posted (fun _ => True) queue transmitted nextId := by
  constructor
  · rintro ⟨ownId, usedId, distinct, sentId, unchanged⟩
    exact ⟨ownId, usedId, distinct, sentId, fun copy sent item member _ => unchanged copy sent item member⟩
  · rintro ⟨ownId, usedId, distinct, sentId, unchanged⟩
    exact ⟨ownId, usedId, distinct, sentId, fun copy sent item member => unchanged copy sent item member trivial⟩

theorem Tracked.of_perm (tracked : Tracked queue transmitted nextId) (permuted : layout.Perm queue) :
    Tracked layout transmitted nextId :=
  tracked_iff_posted.mpr ((tracked_iff_posted.mp tracked).of_perm permuted)

theorem Tracked.tail {item : QueueItem} (tracked : Tracked (item :: queue) transmitted nextId) :
    Tracked queue transmitted nextId :=
  tracked_iff_posted.mpr (tracked_iff_posted.mp tracked).tail

theorem Tracked.of_subset (tracked : Tracked queue transmitted nextId) {fewer : List ClientCollabMessage}
    (subset : fewer ⊆ transmitted) : Tracked queue fewer nextId :=
  tracked_iff_posted.mpr ((tracked_iff_posted.mp tracked).of_subset subset)

theorem Tracked.empty (sentId : ∀ copy ∈ transmitted, copy.msgId < nextId) : Tracked [] transmitted nextId :=
  tracked_iff_posted.mpr (.empty sentId)

theorem SinkSystem.new_consistent (pause : Bool) : (SinkSystem.new pause).Consistent where
  tracked := .empty (List.forall_mem_nil _)
  received := List.nil_subset _

theorem Tracked.push (tracked : Tracked queue transmitted nextId) (msg : ClientCollabMessage) :
    Tracked (⟨msg.setMsgId nextId, nextId⟩ :: queue) transmitted (nextId + 1) :=
  tracked_iff_posted.mpr ((tracked_iff_posted.mp tracked).push msg)

theorem Tracked.transmit {messages : List ClientCollabMessage} (tracked : Tracked queue transmitted nextId)
    (queued : ∀ message ∈ messages, ∃ item ∈ queue, item.inner = message) :
    Tracked queue (transmitted ++ messages) nextId :=
  tracked_iff_posted.mpr ((tracked_iff_posted.mp tracked).transmit queued)

/-- A merge that grows unsent items only. -/
theorem Tracked.merge {flyingMessages : Finset MsgId} {locksFree : Bool}
    (tracked : Tracked queue transmitted nextId)
    (unsent : ∀ group ∈ mergeGroups yrs flyingMessages config locksFree queue,
      group.Merges yrs → ∀ copy ∈ transmitted, copy.msgId ≠ group.first.msgId) :
    Tracked (Client.merge yrs flyingMessages config locksFree queue) transmitted nextId :=
  tracked_iff_posted.mpr ((tracked_iff_posted.mp tracked).merge yrs config fun group member _ => unsent group member)

end Tracked

/-! ## Every run -/

theorem not_cons_perm {item : QueueItem} {queue layout : List QueueItem} (permuted : layout.Perm queue) :
    ¬ (item :: layout).Perm queue := by
  intro longer
  have lengths := (longer.trans permuted.symm).length_eq
  rw [List.length_cons] at lengths
  omega

theorem clear_tracked {self : CollabSink} {transmitted : List ClientCollabMessage} (queueFree flyingFree : Bool)
    (tracked : Tracked self.messageQueue transmitted self.msgIdCounter) :
    Tracked (self.clear queueFree flyingFree).messageQueue transmitted self.msgIdCounter := by
  cases queueFree with
  | true => exact .empty tracked.sentId
  | false => exact tracked

theorem pushMsg_tracked {self : CollabSink} {transmitted : List ClientCollabMessage} (msg : ClientCollabMessage)
    (tracked : Tracked self.messageQueue transmitted self.msgIdCounter) (room : self.msgIdCounter + 1 < 2 ^ 64) :
    Tracked (self.pushMsg msg).messageQueue transmitted (self.pushMsg msg).msgIdCounter := by
  simp only [CollabSink.pushMsg, Nat.mod_eq_of_lt room]
  exact tracked.push msg

theorem SinkSystem.Consistent.transmit {state : SinkSystem} (consistent : state.Consistent) :
    state.transmit.Consistent where
  tracked := by simpa [SinkSystem.transmit] using consistent.tracked
  received := List.subset_append_of_subset_left _ consistent.received

theorem SinkSystem.Consistent.step {state : SinkSystem} {event : SinkEvent} (consistent : state.Consistent)
    (admitted : GrowsUnsentOnly yrs config state event) : (state.step yrs config event).Consistent := by
  obtain ⟨tracked, received⟩ := consistent
  cases event with
  | queueMsg msg => exact ⟨pushMsg_tracked msg tracked admitted, received⟩
  | merge locksFree => exact ⟨tracked.merge yrs config admitted, received⟩
  | queueInitSync msg queueFree flyingFree =>
    exact ⟨pushMsg_tracked msg (clear_tracked queueFree flyingFree tracked) admitted, received⟩
  | relayout layout =>
    simp only [SinkSystem.step]
    split
    · rename_i permuted
      exact ⟨tracked.of_perm (List.isPerm_iff.mp permuted), received⟩
    · exact ⟨tracked, received⟩
  | processNextMsg locksFree =>
    refine ⟨?_, received⟩
    have kept := tracked.of_perm (state.sink.processNextMsg_perm locksFree)
    rw [← state.sink.processNextMsg_msgIdCounter locksFree] at kept
    simp only [SinkSystem.step, ← List.append_assoc]
    refine kept.transmit fun message handed => ?_
    obtain ⟨item, member, inner⟩ := CollabSink.processNextMsg_subset handed
    exact ⟨item, (state.sink.processNextMsg_perm locksFree).symm.subset member, inner⟩
  | transmit => exact SinkSystem.Consistent.transmit ⟨tracked, received⟩
  | sendFinished success =>
    cases success with
    | true =>
      obtain ⟨sent, arrived⟩ := SinkSystem.Consistent.transmit ⟨tracked, received⟩
      simp only [SinkSystem.step]
      exact ⟨by simpa [SinkSystem.transmit] using sent, arrived⟩
    | false =>
      simp only [SinkSystem.step]
      split
      · exact ⟨tracked, received⟩
      · -- what failed is no copy any more
        have fewer := tracked.of_subset (List.subset_append_left state.transmitted state.handed)
        exact ⟨by simpa using fewer, received⟩
  | tick => exact ⟨tracked, received⟩
  | setPause pause => exact ⟨tracked, received⟩
  | acknowledge copy =>
    simp only [SinkSystem.step]
    split
    · rename_i sent
      exact ⟨tracked, List.append_subset.mpr ⟨received, List.cons_subset.mpr ⟨sent, List.nil_subset _⟩⟩⟩
    · exact ⟨tracked, received⟩
  | validateResponse serverMessage =>
    simp only [SinkSystem.step]
    split
    · refine ⟨?_, received⟩
      simp only [CollabSink.validateResponse_msgIdCounter]
      cases state.sink.validateResponse_cases serverMessage with
      | inl same => exact tracked.of_perm same
      | inr held =>
        obtain ⟨item, _, removed⟩ := held
        exact (tracked.of_perm removed).tail
    · exact ⟨tracked, received⟩

/-- In a consistent state a response removes only what was acknowledged as it is now. -/
theorem SinkSystem.Consistent.removesSeen {state : SinkSystem} (consistent : state.Consistent) (event : SinkEvent) :
    RemovesSeen yrs config state event := by
  rintro serverMessage rfl item left
  simp only [SinkSystem.step] at left
  split at left
  · rename_i answered
    cases state.sink.validateResponse_cases serverMessage with
    | inl same => exact absurd left (not_cons_perm same)
    | inr held =>
      obtain ⟨current, ownId, removed⟩ := held
      -- the item that left is the one the response removed
      obtain rfl : item = current := by
        have cancelled : [item].Perm [current] :=
          (List.perm_append_right_iff _).mp (left.trans removed.symm)
        exact List.singleton_perm_singleton.mp cancelled
      rw [SinkSystem.answered, ownId] at answered
      -- the acknowledged copy has the id of the item, so it is the item's message
      obtain ⟨copy, acknowledged, sameId⟩ := List.any_eq_true.mp answered
      have same : copy.msgId = item.msgId := beq_iff_eq.mp sameId
      have member : item ∈ state.sink.messageQueue := left.subset (.head _)
      have unchanged : copy = item.inner :=
        consistent.tracked.unchanged copy (List.mem_append_left _ (consistent.received acknowledged)) item member same
      refine ⟨copy, acknowledged, same, ?_⟩
      intro msg carried _
      rw [unchanged]
      exact .inl carried
  · exact absurd left (not_cons_perm (.refl _))

/-- In every run of the sink in which no merge grows an item that is being sent or was sent
    before, each item that an ack removes was acknowledged with all updates it has by then. -/
theorem ack_removes_seen (pause : Bool) (events : List SinkEvent)
    (admitted : Always (SinkSystem.step yrs config) (GrowsUnsentOnly yrs config) (.new pause) events) :
    Always (SinkSystem.step yrs config) (RemovesSeen yrs config) (.new pause) events := by
  have preserved : ∀ state event, SinkSystem.Consistent state → GrowsUnsentOnly yrs config state event →
      (state.step yrs config event).Consistent :=
    fun state event consistent admitted => consistent.step yrs config admitted
  have implied : ∀ state event, SinkSystem.Consistent state → GrowsUnsentOnly yrs config state event →
      RemovesSeen yrs config state event :=
    fun state event consistent _ => consistent.removesSeen yrs config event
  exact admitted.imp_of_invariant preserved implied (SinkSystem.new_consistent pause)

/-! ## A late ack -/

/-- Client 1 types `a` and then `b`; the messages get the ids 0 and 1. -/
def typeA : ClientCollabMessage :=
  .clientUpdateSync ⟨.client 1 "device", "object", 0, [0, 2, 11, 1, 1, 1, 0, 4, 1, 1, 116, 1, 97, 0]⟩

def typeB : ClientCollabMessage :=
  .clientUpdateSync ⟨.client 1 "device", "object", 1, [0, 2, 10, 1, 1, 1, 1, 132, 1, 0, 1, 98, 0]⟩

def ackOf (msgId : MsgId) : ServerCollabMessage := .clientAck (.new .server "object" msgId)

theorem ack_removes_first_edit :
    Always (SinkSystem.step (UpdateTable.yrs typedUpdates) .default)
      (RemovesSeen (UpdateTable.yrs typedUpdates) .default) (.new false)
      [.queueMsg typeA, .merge true, .processNextMsg true, .sendFinished true, .acknowledge typeA,
        .validateResponse (ackOf 0)] :=
  ack_removes_seen (UpdateTable.yrs typedUpdates) .default false _
    ⟨by decide, by decide, by decide, by decide, by decide, by decide, trivial⟩

/-- The first edit is sent, and the tick makes it look unsent before its ack is there: the
    second edit is merged into it.  The ack of the first copy then takes out both. -/
def lateAck : List SinkEvent :=
  [.queueMsg typeA, .merge true, .processNextMsg true, .sendFinished true, .tick, .queueMsg typeB, .merge true,
    .processNextMsg true, .sendFinished true, .acknowledge typeA]

def bothEdits : Bytes := [1, 2, 1, 0, 4, 1, 1, 116, 1, 97, 132, 1, 0, 1, 98, 0]

theorem late_ack_removes_unseen :
    ¬ Always (SinkSystem.step (UpdateTable.yrs typedUpdates) .default)
      (RemovesSeen (UpdateTable.yrs typedUpdates) .default) (.new false)
      (lateAck ++ [.validateResponse (ackOf 0)]) := by
  intro seen
  let merged : QueueItem := ⟨typeA.withUpdate (UpdateTable.yrs typedUpdates) bothEdits, 0⟩
  have left : (merged :: ((run (SinkSystem.step (UpdateTable.yrs typedUpdates) .default) (.new false) lateAck).step
      (UpdateTable.yrs typedUpdates) .default (.validateResponse (ackOf 0))).sink.messageQueue).Perm
      (run (SinkSystem.step (UpdateTable.yrs typedUpdates) .default) (.new false) lateAck).sink.messageQueue :=
    List.isPerm_iff.mp (by decide)
  obtain ⟨copy, acknowledged, _, contains⟩ := seen.after (ackOf 0) rfl merged left
  have acks : (run (SinkSystem.step (UpdateTable.yrs typedUpdates) .default) (.new false) lateAck).acknowledged =
    [typeA] := by decide
  rw [acks, List.mem_singleton] at acknowledged
  subst acknowledged
  -- the acknowledged copy has the first edit only
  cases contains (.sync (.update bothEdits)) (by decide) rfl with
  | inl same =>
    revert same
    decide
  | inr held =>
    obtain ⟨data, update, carried, decoded, within⟩ := held
    cases carried
    have typed : (UpdateTable.yrs typedUpdates).decodeUpdate bothEdits = .ok {(1, 0), (1, 1)} := by decide
    rw [typed] at decoded
    cases decoded
    revert within
    decide

end FlowCloud.Client
