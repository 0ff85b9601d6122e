import FlowCloud.Client.SinkOrder
import FlowCloud.Sync.Coverage

/-! # What a client still owes the server

Every operation of a client's document is at the server, or in a queued message, or an
answer to the server's question will bring it.  For the messages that can be merged this
holds as long as no merge drops an update or grows a message that is under way.
-/

namespace FlowCloud.Sync

open FlowCloud.Foundation FlowCloud.Entity FlowCloud.Protocol FlowCloud.Client FlowCloud.Server

variable {Op StateVector AwarenessUpdate : Type} [DecidableEq Op]

/-! ## What a merge joins -/

section Joins

variable (yrs : Yrs Op StateVector AwarenessUpdate) {flyingMessages : Finset MsgId} {config : SinkConfig}

/-- What the merge looks at before it folds the item into the first one. -/
structure Joins (flyingMessages : Finset MsgId) (first item : QueueItem) : Prop where
  mergeable : first.inner.mergeable = true
  firstWaits : first.msgId ∉ flyingMessages
  itemWaits : item.msgId ∉ flyingMessages
  behind : (QueueItem.cmp item first).isLE = true

theorem mergeable_of_result {group : MergeGroup} (result : group.Result yrs) :
    group.item.inner.mergeable = group.first.inner.mergeable := by
  cases Decidable.em (group.Merges yrs) with
  | inl merges =>
    obtain ⟨data, inner, _⟩ := result.merged merges
    rw [inner]
    cases group.first.inner <;> rfl
  | inr untouched => rw [result.unmerged untouched]

theorem absorb_joins {group : MergeGroup} {next merged : QueueItem} (result : group.Result yrs)
    (absorbed : absorb yrs flyingMessages config group.item next = some merged)
    (behind : (QueueItem.cmp next group.first).isLE = true) : Joins flyingMessages group.first next := by
  rw [absorb] at absorbed
  split at absorbed
  · cases absorbed
  rename_i itemWaits
  split at absorbed
  · rename_i admitted
    obtain ⟨firstWaits, _, mergeable⟩ := admitted
    rw [result.sameId] at firstWaits
    rw [mergeable_of_result yrs result] at mergeable
    exact ⟨mergeable, firstWaits, itemWaits, behind⟩
  · cases absorbed

/-- The groups made so far, whose first items come before all that is still to be drained. -/
structure JoinedGroups (flyingMessages : Finset MsgId) (groups : List MergeGroup) (queue : List QueueItem) : Prop where
  results : ∀ group ∈ groups, group.Result yrs
  joins : ∀ group ∈ groups, ∀ item ∈ group.absorbed, Joins flyingMessages group.first item
  before : ∀ group ∈ groups, ∀ next ∈ queue, (QueueItem.cmp next group.first).isLE = true

variable {yrs}

theorem JoinedGroups.next {groups : List MergeGroup} {next : QueueItem} {queue : List QueueItem}
    (joined : JoinedGroups yrs flyingMessages groups (next :: queue))
    (sorted : ∀ later ∈ queue, (QueueItem.cmp later next).isLE = true) :
    JoinedGroups yrs flyingMessages (groupNext yrs flyingMessages config groups next) queue := by
  have results : ∀ group ∈ groupNext yrs flyingMessages config groups next, group.Result yrs :=
    groupNext_result yrs joined.results next
  have single : ∀ item ∈ (MergeGroup.single next).absorbed, Joins flyingMessages next item := List.forall_mem_nil _
  have before : ∀ group ∈ groups, ∀ later ∈ queue, (QueueItem.cmp later group.first).isLE = true :=
    fun group member later inside => joined.before group member later (.tail _ inside)
  refine ⟨results, ?_, ?_⟩
  · cases groups with
    | nil => exact List.forall_mem_singleton.mpr single
    | cons group earlier =>
      have kept := List.forall_mem_cons.mp joined.joins
      rw [groupNext]
      cases absorbed : absorb yrs flyingMessages config group.item next with
      | none => exact List.forall_mem_cons.mpr ⟨single, joined.joins⟩
      | some merged =>
        have behind := joined.before group (.head _) next (.head _)
        have taken := absorb_joins yrs (joined.results group (.head _)) absorbed behind
        refine List.forall_mem_cons.mpr ⟨List.forall_mem_append.mpr ⟨kept.1, ?_⟩, kept.2⟩
        exact List.forall_mem_singleton.mpr taken
  · cases groups with
    | nil => exact List.forall_mem_singleton.mpr sorted
    | cons group earlier =>
      rw [groupNext]
      cases absorb yrs flyingMessages config group.item next with
      | none => exact List.forall_mem_cons.mpr ⟨sorted, before⟩
      | some merged => exact List.forall_mem_cons.mpr (List.forall_mem_cons.mp before)

theorem JoinedGroups.fold {queue : List QueueItem} {groups : List MergeGroup}
    (joined : JoinedGroups yrs flyingMessages groups queue)
    (sorted : queue.Pairwise fun first second => (QueueItem.cmp second first).isLE = true) :
    JoinedGroups yrs flyingMessages (queue.foldl (groupNext yrs flyingMessages config) groups) [] := by
  induction queue generalizing groups with
  | nil => exact joined
  | cons next queue inductionHypothesis =>
    obtain ⟨first, sorted⟩ := List.pairwise_cons.mp sorted
    exact inductionHypothesis (joined.next first) sorted

theorem mergeGroups_joins {locksFree : Bool} {queue : List QueueItem} :
    ∀ group ∈ mergeGroups yrs flyingMessages config locksFree queue, ∀ item ∈ group.absorbed,
      Joins flyingMessages group.first item := by
  rw [mergeGroups]
  split
  · intro group member
    obtain ⟨item, _, rfl⟩ := List.mem_map.mp member
    exact List.forall_mem_nil _
  · have start : JoinedGroups yrs flyingMessages [] (drain QueueItem.cmp queue) :=
      ⟨List.forall_mem_nil _, List.forall_mem_nil _, List.forall_mem_nil _⟩
    have joined : JoinedGroups yrs flyingMessages
        ((drain QueueItem.cmp queue).foldl (groupNext yrs flyingMessages config) []) [] :=
      start.fold (drain_popped queue).descends
    intro group member
    exact joined.joins group (List.mem_reverse.mp member)

/-- Neither message is an init sync or an answer, and the one that is folded into the other
    has the later id. -/
theorem Joins.order {first item : QueueItem} (joins : Joins flyingMessages first item) :
    first.syncRank = 0 ∧ item.syncRank = 0 ∧ first.inner.msgId ≤ item.inner.msgId := by
  obtain ⟨mergeable, _, _, behind⟩ := joins
  rw [QueueItem.cmp] at behind
  simp only [QueueItem.syncRank]
  cases firstKind : first.inner with
  | clientInitSync | serverInitSync | clientAwarenessSync => rw [firstKind] at mergeable; cases mergeable
  | clientUpdateSync data =>
    rw [firstKind] at behind
    cases itemKind : item.inner with
    | clientInitSync | serverInitSync => rw [itemKind] at behind; cases behind
    | clientUpdateSync other | clientAwarenessSync other =>
      rw [itemKind] at behind
      refine ⟨rfl, rfl, ?_⟩
      simpa [ClientCollabMessage.cmp, Nat.isGE_compare] using behind

end Joins

/-! ## The messages of a client -/

section Proper

variable (yrs : Yrs Op StateVector AwarenessUpdate)

/-- A message of a client that has the origin and the document. -/
structure Proper (origin : CollabOrigin) (content : Finset Op) (message : ClientCollabMessage) : Prop where
  own : message.origin = origin
  within : carriedOps yrs (MessageReader.read yrs.codec message.payload).messages ⊆ content
  opens : message.isClientInitSync = true → ∃ known presence, known ⊆ content ∧
    message.payload = openingPayload yrs known presence
  silent : message.isClientInitSync = false → questions yrs message.payload = 0
  /-- Any other sync carries nothing but the update it starts with. -/
  starts : syncRank message = 0 → ∀ op ∈ carriedOps yrs (MessageReader.read yrs.codec message.payload).messages,
    ∃ data, message.startingUpdate yrs = some data ∧ op ∈ updateOps yrs data

variable {yrs} {origin : CollabOrigin} {content : Finset Op} {message : ClientCollabMessage}

theorem Proper.mono (proper : Proper yrs origin content message) {later : Finset Op} (grows : content ⊆ later) :
    Proper yrs origin later message where
  own := proper.own
  within := Finset.Subset.trans proper.within grows
  opens init := by
    obtain ⟨known, presence, within, payload⟩ := proper.opens init
    exact ⟨known, presence, Finset.Subset.trans within grows, payload⟩
  silent := proper.silent
  starts := proper.starts

theorem Proper.setMsgId (proper : Proper yrs origin content message) (msgId : MsgId) :
    Proper yrs origin content (message.setMsgId msgId) := by
  obtain ⟨own, within, opens, silent, starts⟩ := proper
  cases message <;> exact ⟨own, within, opens, silent, starts⟩

/-- A message with one update. -/
theorem proper_update {sync : UpdateSync} {data : Bytes} (own : sync.origin = origin)
    (payload : sync.payload = updatePayload yrs data) (within : updateOps yrs data ⊆ content) :
    Proper yrs origin content (.clientUpdateSync sync) := by
  have carried : carriedOps yrs (MessageReader.read yrs.codec sync.payload).messages = updateOps yrs data := by
    rw [payload, carriedOps_updatePayload]
  refine ⟨own, carried.trans_subset within, by rintro ⟨⟩, fun _ => ?_, ?_⟩
  · have silent : isSyncStep1 (.sync (.update data) : Message StateVector AwarenessUpdate) = false := rfl
    rw [ClientCollabMessage.payload, payload]
    exact questions_encode yrs silent
  · intro _ op member
    rw [ClientCollabMessage.payload, carried] at member
    refine ⟨data, ?_, member⟩
    rw [ClientCollabMessage.startingUpdate, payload, firstUpdate_updatePayload]

/-- A change of the awareness brings no operation. -/
theorem proper_awareness {sync : UpdateSync} {update : AwarenessUpdate} (own : sync.origin = origin)
    (payload : sync.payload = (Message.awareness update : Message StateVector AwarenessUpdate).encode yrs.codec) :
    Proper yrs origin content (.clientUpdateSync sync) := by
  have carried : carriedOps yrs (MessageReader.read yrs.codec sync.payload).messages = ∅ := by
    rw [payload, read_single]
    rfl
  refine ⟨own, carried.trans_subset (Finset.empty_subset _), by rintro ⟨⟩, fun _ => ?_, ?_⟩
  · have silent : isSyncStep1 (.awareness update : Message StateVector AwarenessUpdate) = false := rfl
    rw [ClientCollabMessage.payload, payload]
    exact questions_encode yrs silent
  · intro _ op member
    rw [ClientCollabMessage.payload, carried] at member
    exact absurd member (Finset.notMem_empty op)

theorem proper_init {sync : InitSync} {known : Finset Op} {presence : AwarenessUpdate} (own : sync.origin = origin)
    (within : known ⊆ content) (payload : sync.payload = openingPayload yrs known presence) :
    Proper yrs origin content (.clientInitSync sync) := by
  refine ⟨own, ?_, fun _ => ⟨known, presence, within, payload⟩, by rintro ⟨⟩, by rintro ⟨⟩⟩
  rw [ClientCollabMessage.payload, payload, carriedOps_openingPayload]
  exact Finset.empty_subset _

/-- The answer to a question of the server. -/
theorem proper_answer {sync : ServerInit} {update : Bytes} (own : sync.origin = origin)
    (payload : sync.payload =
      (Message.sync (.syncStep2 update) : Message StateVector AwarenessUpdate).encode yrs.codec)
    (within : updateOps yrs update ⊆ content) : Proper yrs origin content (.serverInitSync sync) := by
  refine ⟨own, ?_, by rintro ⟨⟩, fun _ => ?_, by rintro ⟨⟩⟩
  · rw [ClientCollabMessage.payload, payload, carriedOps_syncStep2]
    exact within
  · have silent : isSyncStep1 (.sync (.syncStep2 update) : Message StateVector AwarenessUpdate) = false := rfl
    rw [ClientCollabMessage.payload, payload]
    exact questions_encode yrs silent

/-- The merged message carries one update with operations of the document. -/
theorem Proper.withUpdate (proper : Proper yrs origin content message)
    (starts : (message.startingUpdate yrs).isSome = true) {data : Bytes} (within : updateOps yrs data ⊆ content) :
    Proper yrs origin content (message.withUpdate yrs data) := by
  cases message with
  | clientInitSync | serverInitSync | clientAwarenessSync => cases starts
  | clientUpdateSync sync => exact proper_update proper.own rfl within

end Proper

/-! ## Merges that lose nothing -/

section Merges

variable (yrs : Yrs Op StateVector AwarenessUpdate)

/-- An update that waits behind another unsent message waits behind an update of which no
    copy is under way. -/
def MergesFresh (sink : CollabSink) (transmitted : List ClientCollabMessage) : Prop :=
  ∀ first ∈ sink.messageQueue, ∀ next ∈ sink.messageQueue, first.msgId < next.msgId →
    first.msgId ∉ sink.flyingMessages → next.msgId ∉ sink.flyingMessages → first.inner.mergeable = true →
      (next.inner.startingUpdate yrs).isSome = true →
        (first.inner.startingUpdate yrs).isSome = true ∧ ∀ copy ∈ transmitted, copy.msgId ≠ first.msgId

instance (sink : CollabSink) (transmitted : List ClientCollabMessage) : Decidable (MergesFresh yrs sink transmitted) :=
  inferInstanceAs (Decidable (∀ first ∈ _, ∀ next ∈ _, _))

variable {yrs} {sink : CollabSink} {transmitted : List ClientCollabMessage}

theorem MergeGroup.first_queued {locksFree : Bool} {flyingMessages : Finset MsgId} {config : SinkConfig}
    {queue : List QueueItem} {group : MergeGroup}
    (member : group ∈ mergeGroups yrs flyingMessages config locksFree queue) : group.members ⊆ queue := by
  intro item inside
  exact (mergeGroups_members yrs flyingMessages config locksFree queue).subset
    (List.mem_flatMap.mpr ⟨group, member, inside⟩)

/-- A message that an update is folded into is an update, and no copy of it is under way. -/
theorem MergesFresh.absorbs (fresh : MergesFresh yrs sink transmitted)
    (posted : Posted (fun _ => True) sink.messageQueue transmitted sink.msgIdCounter) {config : SinkConfig}
    {locksFree : Bool} {group : MergeGroup}
    (member : group ∈ mergeGroups yrs sink.flyingMessages config locksFree sink.messageQueue) {item : QueueItem}
    (absorbed : item ∈ group.absorbed) (starts : (item.inner.startingUpdate yrs).isSome = true) :
    (group.first.inner.startingUpdate yrs).isSome = true ∧ ∀ copy ∈ transmitted, copy.msgId ≠ group.first.msgId := by
  have queued := MergeGroup.first_queued member
  have firstQueued : group.first ∈ sink.messageQueue := queued (.head _)
  have itemQueued : item ∈ sink.messageQueue := queued (.tail _ absorbed)
  have joins := mergeGroups_joins group member item absorbed
  have behind := joins.order.2.2
  rw [posted.ownId _ firstQueued, posted.ownId _ itemQueued] at behind
  -- the ids of the queue are distinct, so the later one is greater
  have apart : group.first.msgId ≠ item.msgId := by
    intro same
    have ids := ((mergeGroups_members yrs sink.flyingMessages config locksFree sink.messageQueue).map
      QueueItem.msgId).nodup_iff.mpr posted.distinct
    obtain ⟨earlier, later, split⟩ := List.append_of_mem member
    rw [split, List.flatMap_append, List.flatMap_cons, MergeGroup.members, List.map_append, List.cons_append,
      List.map_cons] at ids
    have once := (List.nodup_cons.mp (List.nodup_append.mp ids).2.1).1
    rw [same] at once
    exact once (List.mem_map_of_mem (List.mem_append_left _ absorbed))
  exact fresh group.first firstQueued item itemQueued (Nat.lt_of_le_of_ne behind apart) joins.firstWaits
    joins.itemWaits joins.mergeable starts

theorem MergesFresh.posted (fresh : MergesFresh yrs sink transmitted)
    (posted : Posted (fun _ => True) sink.messageQueue transmitted sink.msgIdCounter) (config : SinkConfig)
    (locksFree : Bool) :
    Posted (fun _ => True) (sink.merge yrs config locksFree).messageQueue transmitted sink.msgIdCounter := by
  refine posted.merge yrs config ?_
  rintro group member _ ⟨_, item, absorbed, starts⟩
  exact (fresh.absorbs posted member absorbed starts).2

theorem mem_updateOps_startingOps {items : List QueueItem} {item : QueueItem} {data : Bytes} {op : Op}
    (member : item ∈ items) (starts : item.inner.startingUpdate yrs = some data) (carried : op ∈ updateOps yrs data) :
    op ∈ startingOps yrs items := by
  obtain ⟨before, after, rfl⟩ := List.append_of_mem member
  rw [startingOps, collectOps_append, collectOps, starts]
  exact Finset.mem_union_right _ (Finset.mem_union_left _ carried)

/-- After the merge a queued message still carries each operation. -/
theorem MergesFresh.carries (fresh : MergesFresh yrs sink transmitted)
    (posted : Posted (fun _ => True) sink.messageQueue transmitted sink.msgIdCounter) {origin : CollabOrigin}
    {content : Finset Op} (proper : ∀ item ∈ sink.messageQueue, Proper yrs origin content item.inner)
    (config : SinkConfig) (locksFree : Bool) {item : QueueItem} (member : item ∈ sink.messageQueue) {op : Op}
    (carried : op ∈ carriedOps yrs (item.messages yrs)) :
    ∃ kept ∈ (sink.merge yrs config locksFree).messageQueue, op ∈ carriedOps yrs (kept.messages yrs) := by
  have groups := mergeGroups_members yrs sink.flyingMessages config locksFree sink.messageQueue
  obtain ⟨group, inside, part⟩ := List.mem_flatMap.mp (groups.symm.subset member)
  have result : group.Result yrs := mergeGroups_result yrs group inside
  have kept : group.item ∈ (sink.merge yrs config locksFree).messageQueue := by
    rw [CollabSink.merge, ← mergeGroups_items]
    exact List.mem_map_of_mem inside
  refine ⟨group.item, kept, ?_⟩
  have firstQueued : group.first ∈ sink.messageQueue := MergeGroup.first_queued inside (.head _)
  have merged (merges : group.Merges yrs) (unranked : item.syncRank = 0) :
      op ∈ carriedOps yrs (group.item.messages yrs) := by
    obtain ⟨written, inner, decoded⟩ := result.merged merges
    obtain ⟨data, starts, inUpdate⟩ := (proper item member).starts unranked op carried
    rw [QueueItem.messages, inner, payload_withUpdate yrs merges.1, carriedOps_updatePayload, updateOps, decoded]
    exact mem_updateOps_startingOps part starts inUpdate
  rcases List.mem_cons.mp part with rfl | absorbed
  · cases Decidable.em (group.Merges yrs) with
    | inl merges =>
      obtain ⟨other, absorbed, _⟩ := merges.2
      exact merged merges (mergeGroups_joins group inside other absorbed).order.1
    | inr untouched =>
      rw [QueueItem.messages, result.unmerged untouched]
      exact carried
  · -- what brings an operation is folded into an update
    have unranked := (mergeGroups_joins group inside item absorbed).order.2.1
    obtain ⟨data, starts, _⟩ := (proper item member).starts unranked op carried
    have isUpdate : (item.inner.startingUpdate yrs).isSome = true := by rw [starts]; rfl
    have first := (fresh.absorbs posted inside absorbed isUpdate).1
    exact merged ⟨first, item, absorbed, isUpdate⟩ unranked

end Merges

/-! ## The sink -/

structure ProperSink (yrs : Yrs Op StateVector AwarenessUpdate) (origin : CollabOrigin) (sink : CollabSink)
    (transmitted : List ClientCollabMessage) (content : Finset Op) : Prop where
  posted : Posted (fun _ => True) sink.messageQueue transmitted sink.msgIdCounter
  queued : ∀ item ∈ sink.messageQueue, Proper yrs origin content item.inner
  sent : ∀ copy ∈ transmitted, Proper yrs origin content copy

section Sink

variable {yrs : Yrs Op StateVector AwarenessUpdate} {origin : CollabOrigin} {sink : CollabSink}
variable {transmitted : List ClientCollabMessage} {content : Finset Op}

theorem ProperSink.mono (proper : ProperSink yrs origin sink transmitted content) {later : Finset Op}
    (grows : content ⊆ later) : ProperSink yrs origin sink transmitted later where
  posted := proper.posted
  queued item member := (proper.queued item member).mono grows
  sent copy member := (proper.sent copy member).mono grows

theorem ProperSink.of_perm (proper : ProperSink yrs origin sink transmitted content) {other : CollabSink}
    (permuted : other.messageQueue.Perm sink.messageQueue) (counter : other.msgIdCounter = sink.msgIdCounter) :
    ProperSink yrs origin other transmitted content where
  posted := by
    rw [counter]
    exact proper.posted.of_perm permuted
  queued item member := proper.queued item (permuted.subset member)
  sent := proper.sent

theorem ProperSink.of_removed (proper : ProperSink yrs origin sink transmitted content) {other : CollabSink}
    {item : QueueItem} (removed : (item :: other.messageQueue).Perm sink.messageQueue)
    (counter : other.msgIdCounter = sink.msgIdCounter) : ProperSink yrs origin other transmitted content where
  posted := by
    rw [counter]
    exact (proper.posted.of_perm removed).tail
  queued other member := proper.queued other (removed.subset (.tail _ member))
  sent := proper.sent

theorem ProperSink.clear (proper : ProperSink yrs origin sink transmitted content) (queueFree flyingFree : Bool) :
    ProperSink yrs origin (sink.clear queueFree flyingFree) transmitted content := by
  cases queueFree with
  | true => exact ⟨.empty proper.posted.sentId, List.forall_mem_nil _, proper.sent⟩
  | false => exact ⟨proper.posted, proper.queued, proper.sent⟩

theorem ProperSink.push (proper : ProperSink yrs origin sink transmitted content) {msg : ClientCollabMessage}
    (own : Proper yrs origin content msg) (room : sink.msgIdCounter + 1 < 2 ^ 64) :
    ProperSink yrs origin (sink.pushMsg msg) transmitted content where
  posted := by
    simp only [CollabSink.pushMsg, Nat.mod_eq_of_lt room]
    exact proper.posted.push msg
  queued := List.forall_mem_cons.mpr ⟨own.setMsgId _, proper.queued⟩
  sent := proper.sent

theorem ProperSink.merge (proper : ProperSink yrs origin sink transmitted content)
    (fresh : MergesFresh yrs sink transmitted) (config : SinkConfig) (locksFree : Bool) :
    ProperSink yrs origin (sink.merge yrs config locksFree) transmitted content where
  posted := fresh.posted proper.posted config locksFree
  queued item member := by
    obtain ⟨group, rfl, result, members⟩ := mem_merge yrs sink.flyingMessages config member
    have first := proper.queued group.first (members (.head _))
    cases Decidable.em (group.Merges yrs) with
    | inl merges =>
      obtain ⟨data, inner, decoded⟩ := result.merged merges
      have within : startingOps yrs group.members ⊆ content :=
        startingOps_subset yrs fun part inside => (proper.queued part (members inside)).within
      rw [inner]
      refine first.withUpdate merges.1 ?_
      rwa [updateOps, decoded]
    | inr untouched =>
      rw [result.unmerged untouched]
      exact first
  sent := proper.sent

theorem ProperSink.processNextMsg (proper : ProperSink yrs origin sink transmitted content) (locksFree : Bool) :
    ProperSink yrs origin (sink.processNextMsg locksFree).2 (transmitted ++ (sink.processNextMsg locksFree).1)
      content := by
  have kept := proper.of_perm (sink.processNextMsg_perm locksFree) (sink.processNextMsg_msgIdCounter locksFree)
  have queued : ∀ message ∈ (sink.processNextMsg locksFree).1,
      ∃ item ∈ (sink.processNextMsg locksFree).2.messageQueue, item.inner = message := by
    intro message handed
    obtain ⟨item, member, inner⟩ := CollabSink.processNextMsg_subset handed
    exact ⟨item, (sink.processNextMsg_perm locksFree).symm.subset member, inner⟩
  refine ⟨kept.posted.transmit queued, kept.queued, List.forall_mem_append.mpr ⟨proper.sent, ?_⟩⟩
  intro message handed
  obtain ⟨item, member, rfl⟩ := queued message handed
  exact kept.queued item member

theorem ProperSink.validateResponse (proper : ProperSink yrs origin sink transmitted content)
    (serverMessage : ServerCollabMessage) :
    ProperSink yrs origin (sink.validateResponse serverMessage).2 transmitted content := by
  have counter := sink.validateResponse_msgIdCounter serverMessage
  cases sink.validateResponse_cases serverMessage with
  | inl same => exact proper.of_perm same counter
  | inr held =>
    obtain ⟨item, _, removed⟩ := held
    exact proper.of_removed removed counter

/-- Neither joining what was queued nor joined by it, an answer leaves the merge as it is. -/
theorem MergesFresh.push (fresh : MergesFresh yrs sink transmitted) {msg : ClientCollabMessage}
    (ranked : 0 < syncRank msg) : MergesFresh yrs (sink.pushMsg msg) transmitted := by
  have notUpdate : ((msg.setMsgId sink.msgIdCounter).startingUpdate yrs).isSome = false := by
    cases msg with
    | clientInitSync | serverInitSync | clientAwarenessSync => rfl
    | clientUpdateSync => exact absurd ranked (Nat.lt_irrefl 0)
  have notMergeable : (msg.setMsgId sink.msgIdCounter).mergeable = false := by
    cases msg with
    | clientInitSync | serverInitSync | clientAwarenessSync => rfl
    | clientUpdateSync => exact absurd ranked (Nat.lt_irrefl 0)
  intro first firstQueued next nextQueued behind firstWaits nextWaits mergeable starts
  rcases List.mem_cons.mp firstQueued with rfl | firstQueued
  · rw [notMergeable] at mergeable
    cases mergeable
  rcases List.mem_cons.mp nextQueued with rfl | nextQueued
  · rw [notUpdate] at starts
    cases starts
  exact fresh first firstQueued next nextQueued behind firstWaits nextWaits mergeable starts

end Sink

/-! ## Messages to the client -/

section Fit

variable (yrs : Yrs Op StateVector AwarenessUpdate)

/-- Handling the message cannot fail when the library takes every update in. -/
inductive Benign : Message StateVector AwarenessUpdate → Prop where
  | question (stateVector : StateVector) : Benign (.sync (.syncStep1 stateVector))
  | answer {data : Bytes} {update : Finset Op} (decoded : yrs.decodeUpdate data = .ok update) :
    Benign (.sync (.syncStep2 data))
  | update {data : Bytes} {update : Finset Op} (decoded : yrs.decodeUpdate data = .ok update) :
    Benign (.sync (.update data))
  | awareness (update : AwarenessUpdate) : Benign (.awareness update)

/-- What the server sends to a client of the origin: the document of the server has what it
    brings, and it asks the client at most once, if at all. -/
structure Fit (origin : CollabOrigin) (content : Finset Op) (msg : ServerCollabMessage) : Prop where
  within : carriedOps yrs (MessageReader.read yrs.codec msg.payload).messages ⊆ content
  benign : ∀ message ∈ (MessageReader.read yrs.codec msg.payload).messages, Benign yrs message
  once : questions yrs msg.payload ≤ 1
  asker : 0 < questions yrs msg.payload → msg.origin = origin

variable {yrs} {origin : CollabOrigin} {content : Finset Op} {msg : ServerCollabMessage}

theorem Fit.mono (fit : Fit yrs origin content msg) {later : Finset Op} (grows : content ⊆ later) :
    Fit yrs origin later msg :=
  ⟨Finset.Subset.trans fit.within grows, fit.benign, fit.once, fit.asker⟩

theorem fit_empty (payload : msg.payload = []) : Fit yrs origin content msg := by
  have messages : (MessageReader.read yrs.codec msg.payload).messages = [] := by
    rw [payload, MessageReader.read_nil]
  constructor
  · rw [messages]
    exact Finset.empty_subset _
  · rw [messages]
    exact List.forall_mem_nil _
  · simp [payload]
  · simp [payload]

theorem carriedOps_answerPayload {update : Bytes} {ops : Finset Op} (decoded : yrs.decodeUpdate update = .ok ops)
    (known : Finset Op) :
    carriedOps yrs (MessageReader.read yrs.codec (answerPayload yrs update known)).messages = ops := by
  rw [answerPayload, read_pair]
  simp [carriedOps, collectOps, Message.carriedUpdate, updateOps, decoded]

theorem fit_answer {update : Bytes} {ops known : Finset Op} (own : msg.origin = origin)
    (payload : msg.payload = answerPayload yrs update known) (decoded : yrs.decodeUpdate update = .ok ops)
    (within : ops ⊆ content) : Fit yrs origin content msg := by
  constructor
  · rw [payload, carriedOps_answerPayload decoded]
    exact within
  · rw [payload, answerPayload, read_pair]
    exact List.forall_mem_cons.mpr ⟨.answer decoded, List.forall_mem_singleton.mpr (.question _)⟩
  · rw [payload, questions_answerPayload]
  · exact fun _ => own

theorem fit_update {data : Bytes} {update : Finset Op} (payload : msg.payload = updatePayload yrs data)
    (decoded : yrs.decodeUpdate data = .ok update) (within : update ⊆ content) : Fit yrs origin content msg := by
  have silent : questions yrs msg.payload = 0 := by
    have notQuestion : isSyncStep1 (.sync (.update data) : Message StateVector AwarenessUpdate) = false := rfl
    rw [payload]
    exact questions_encode yrs notQuestion
  constructor
  · rw [payload, carriedOps_updatePayload, updateOps, decoded]
    exact within
  · rw [payload, read_updatePayload]
    exact List.forall_mem_singleton.mpr (.update decoded)
  · omega
  · omega

theorem fit_awareness {update : AwarenessUpdate}
    (payload : msg.payload = (Message.awareness update : Message StateVector AwarenessUpdate).encode yrs.codec) :
    Fit yrs origin content msg := by
  have silent : questions yrs msg.payload = 0 := by
    have notQuestion : isSyncStep1 (.awareness update : Message StateVector AwarenessUpdate) = false := rfl
    rw [payload]
    exact questions_encode yrs notQuestion
  constructor
  · rw [payload, read_single]
    exact Finset.empty_subset _
  · rw [payload, read_single]
    exact List.forall_mem_singleton.mpr (.awareness update)
  · omega
  · omega

end Fit

/-! ## Processing a message -/

section Process

variable {yrs : Yrs Op StateVector AwarenessUpdate} (config : SinkConfig) (sender : CollabOrigin) (objectId : String)

/-- Only a question changes the sink. -/
theorem processInner_sink {msg : Message StateVector AwarenessUpdate × PayloadMoment}
    (silent : isSyncStep1 msg.1 = false) (self : ObserveCollab Op AwarenessUpdate) :
    (processInner yrs config sender objectId self msg).2.sink = self.sink := by
  rw [processInner]
  split
  · rfl
  · rfl
  · rename_i handled
    have asks := isSyncStep1_of_answer yrs (congrArg Prod.fst handled)
    rw [silent] at asks
    cases asks

theorem processInners_sink {msgs : List (Message StateVector AwarenessUpdate × PayloadMoment)}
    (silent : ∀ msg ∈ msgs, isSyncStep1 msg.1 = false) (self : ObserveCollab Op AwarenessUpdate) :
    (processInners yrs config sender objectId msgs self).2.sink = self.sink := by
  induction msgs generalizing self with
  | nil => rfl
  | cons msg msgs inductionHypothesis =>
    rw [List.forall_mem_cons] at silent
    have same : (processInner yrs config sender objectId self msg).2.sink = self.sink :=
      processInner_sink config sender objectId silent.1 self
    rw [processInners]
    split
    · rename_i processed
      rwa [processed] at same
    · rename_i processed
      rw [processed] at same
      rw [inductionHypothesis silent.2, same]

/-- A benign message is handled, and its update comes into the document. -/
theorem processInner_benign (sets : ExactSets yrs) (self : ObserveCollab Op AwarenessUpdate)
    {msg : Message StateVector AwarenessUpdate} (benign : Benign yrs msg) :
    (processInner yrs config sender objectId self (msg, .idle)).1 = .ok () ∧
      (processInner yrs config sender objectId self (msg, .idle)).2.collab.content =
        self.collab.content ∪ carriedOps yrs [msg] := by
  rw [processInner]
  cases benign with
  | question stateVector =>
    have nothing : carriedOps yrs [(.sync (.syncStep1 stateVector) : Message StateVector AwarenessUpdate)] = ∅ := rfl
    simp [handleCollabMessage, ClientSyncProtocol, PayloadMoment.idle, Transactions.free, nothing]
  | answer decoded | update decoded =>
    simp [handleCollabMessage, handleUpdate, handleSyncStep2, decoded, PayloadMoment.idle, Transactions.free,
      sets.applies, carriedOps, collectOps, Message.carriedUpdate, updateOps]
  | awareness update =>
    have nothing : carriedOps yrs [(.awareness update : Message StateVector AwarenessUpdate)] = ∅ := rfl
    obtain ⟨next, applied⟩ := sets.presence self.collab.awareness update
    simp [handleCollabMessage, handleAwarenessUpdate, applied, nothing]

theorem processInners_benign (sets : ExactSets yrs)
    {msgs : List (Message StateVector AwarenessUpdate × PayloadMoment)}
    (benign : ∀ msg ∈ msgs, Benign yrs msg.1 ∧ msg.2 = .idle) (self : ObserveCollab Op AwarenessUpdate) :
    (processInners yrs config sender objectId msgs self).2.collab.content =
      self.collab.content ∪ carriedOps yrs (msgs.map Prod.fst) := by
  induction msgs generalizing self with
  | nil => exact (Finset.union_empty _).symm
  | cons msg msgs inductionHypothesis =>
    obtain ⟨message, moment⟩ := msg
    obtain ⟨⟨first, rfl⟩, later⟩ := List.forall_mem_cons.mp benign
    obtain ⟨done, content⟩ := processInner_benign config sender objectId sets self first
    have split : carriedOps yrs (message :: msgs.map Prod.fst) =
        carriedOps yrs [message] ∪ carriedOps yrs (msgs.map Prod.fst) :=
      collectOps_append yrs Message.carriedUpdate [message] (msgs.map Prod.fst)
    rw [processInners]
    cases processed : processInner yrs config sender objectId self (message, .idle) with
    | mk result next =>
      rw [processed] at done content
      simp only at done content
      subst done
      simp only [inductionHypothesis later, content, List.map_cons, split, Finset.union_assoc]

end Process

/-! ## What is queued -/

section Held

variable (yrs : Yrs Op StateVector AwarenessUpdate)

/-- A queued message brings the operation: an init sync in the end, any other by itself. -/
def Held (sink : CollabSink) (op : Op) : Prop :=
  ∃ item ∈ sink.messageQueue, item.inner.isClientInitSync = true ∨ op ∈ carriedOps yrs (item.messages yrs)

variable {yrs} {origin : CollabOrigin} {sink : CollabSink} {transmitted : List ClientCollabMessage}
variable {content : Finset Op} {op : Op}

theorem Held.of_subset (held : Held yrs sink op) {other : CollabSink}
    (kept : sink.messageQueue ⊆ other.messageQueue) : Held yrs other op := by
  obtain ⟨item, member, brings⟩ := held
  exact ⟨item, kept member, brings⟩

theorem Held.merge (held : Held yrs sink op) (proper : ProperSink yrs origin sink transmitted content)
    (fresh : MergesFresh yrs sink transmitted) (config : SinkConfig) (locksFree : Bool) :
    Held yrs (sink.merge yrs config locksFree) op := by
  obtain ⟨item, member, brings⟩ := held
  cases brings with
  | inl init =>
    exact ⟨item, merge_keeps yrs _ config (syncRank_of_initSync init) member locksFree, .inl init⟩
  | inr carried =>
    obtain ⟨kept, inside, stays⟩ := fresh.carries proper.posted proper.queued config locksFree member carried
    exact ⟨kept, inside, .inr stays⟩

theorem Held.of_conveys {item : QueueItem} (member : item ∈ sink.messageQueue) (conveys : Conveys yrs item op) :
    Held yrs sink op :=
  ⟨item, member, conveys.imp_right And.right⟩

variable (config : SinkConfig) (objectId : String)

/-- Handling one message keeps the sink proper and what it holds. -/
theorem processInner_holds (sets : ExactSets yrs) {self : ObserveCollab Op AwarenessUpdate}
    (proper : ProperSink yrs origin self.sink transmitted self.collab.content)
    (fresh : MergesFresh yrs self.sink transmitted) (sender : CollabOrigin)
    (msg : Message StateVector AwarenessUpdate × PayloadMoment) (own : isSyncStep1 msg.1 = true → sender = origin)
    (onward : self.sink.msgIdCounter ≤ (processInner yrs config sender objectId self msg).2.sink.msgIdCounter) :
    ProperSink yrs origin (processInner yrs config sender objectId self msg).2.sink transmitted
        (processInner yrs config sender objectId self msg).2.collab.content ∧
      ∀ op, Held yrs self.sink op → Held yrs (processInner yrs config sender objectId self msg).2.sink op := by
  have grows := processInner_grows yrs config sender objectId self msg
  cases asks : isSyncStep1 msg.1 with
  | false =>
    rw [processInner_sink config sender objectId asks]
    exact ⟨proper.mono grows, fun _ held => held⟩
  | true =>
    obtain rfl := own asks
    rw [processInner] at onward grows ⊢
    split
    · rename_i handled
      rw [handled] at grows
      exact ⟨proper.mono grows, fun _ held => held⟩
    · rename_i handled
      rw [handled] at grows
      exact ⟨proper.mono grows, fun _ held => held⟩
    · rename_i payload collab handled
      rw [handled] at onward grows
      simp only at onward grows
      -- the answer is a part of the document
      obtain ⟨stateVector, _, answer⟩ := handleCollabMessage_answer yrs (congrArg Prod.fst handled)
      have part := Finset.Subset.trans (sets.updateOps_subset self.collab.content stateVector) grows
      have reply : Proper yrs sender collab.content
          (replyMessage sender objectId self.sink.msgIdCounter (isSyncStep1 msg.1) payload) := by
        rw [asks]
        exact proper_answer rfl (client_answer answer) part
      have ranked : 0 < syncRank (replyMessage sender objectId self.sink.msgIdCounter (isSyncStep1 msg.1) payload) := by
        rw [asks]
        exact Nat.one_pos
      have pushed := (proper.mono grows).push reply (room_of_le onward)
      have still := fresh.push ranked
      refine ⟨pushed.merge still config _, fun op held => ?_⟩
      exact (held.of_subset (List.subset_cons_self _ _)).merge pushed still config _

theorem processInners_holds (sets : ExactSets yrs)
    {msgs : List (Message StateVector AwarenessUpdate × PayloadMoment)}
    (once : msgs.countP (fun msg => isSyncStep1 msg.1) ≤ 1) {sender : CollabOrigin}
    (own : 0 < msgs.countP (fun msg => isSyncStep1 msg.1) → sender = origin)
    {self : ObserveCollab Op AwarenessUpdate}
    (proper : ProperSink yrs origin self.sink transmitted self.collab.content)
    (fresh : MergesFresh yrs self.sink transmitted)
    (onward : self.sink.msgIdCounter ≤ (processInners yrs config sender objectId msgs self).2.sink.msgIdCounter) :
    ProperSink yrs origin (processInners yrs config sender objectId msgs self).2.sink transmitted
        (processInners yrs config sender objectId msgs self).2.collab.content ∧
      ∀ op, Held yrs self.sink op → Held yrs (processInners yrs config sender objectId msgs self).2.sink op := by
  induction msgs generalizing self with
  | nil => exact ⟨proper, fun _ held => held⟩
  | cons msg msgs inductionHypothesis =>
    rw [List.countP_cons] at once own
    have first := processInner_holds config objectId sets proper fresh sender msg
    have grows := processInner_grows yrs config sender objectId self msg
    rw [processInners] at onward ⊢
    cases asks : isSyncStep1 msg.1 with
    | true =>
      -- the question was this one, and the rest leaves the sink alone
      rw [if_pos asks] at once own
      have silent : ∀ msg ∈ msgs, isSyncStep1 msg.1 = false := by
        have none : msgs.countP (fun msg => isSyncStep1 msg.1) = 0 := by omega
        simpa using List.countP_eq_zero.mp none
      replace first := first fun _ => own (Nat.succ_pos _)
      cases processed : processInner yrs config sender objectId self msg with
      | mk result next =>
        rw [processed] at first onward
        cases result with
        | error err => exact first onward
        | ok done =>
          simp only at first onward ⊢
          rw [processInners_sink config sender objectId silent] at onward ⊢
          obtain ⟨kept, holds⟩ := first onward
          exact ⟨kept.mono (processInners_grows yrs config sender objectId next msgs), holds⟩
    | false =>
      rw [if_neg (by simp [asks])] at once own
      have same : (processInner yrs config sender objectId self msg).2.sink = self.sink :=
        processInner_sink config sender objectId asks self
      cases processed : processInner yrs config sender objectId self msg with
      | mk result next =>
        rw [processed] at same grows onward
        simp only at same grows
        have kept : ProperSink yrs origin next.sink transmitted next.collab.content := by
          rw [same]
          exact proper.mono grows
        cases result with
        | error err =>
          simp only [same]
          exact ⟨proper.mono grows, fun _ held => held⟩
        | ok done =>
          simp only at onward ⊢
          rw [← same] at fresh onward ⊢
          exact inductionHypothesis once own kept fresh onward

end Held

end FlowCloud.Sync
