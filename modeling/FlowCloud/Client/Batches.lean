import FlowCloud.Client.Aggregate
import FlowCloud.Client.SinkOrder
import FlowCloud.Entity.RealtimeMessage

/-! # Batches

Both queues of a client are popped in batches: a sink keeps the messages of its batch until
they are acknowledged, the queue of the websocket gives its batch away by object.
-/

namespace FlowCloud.Client

open FlowCloud.Foundation FlowCloud.Entity

/-! ## The batch of a sink -/

/-- The batch is the front of the queue in some order of priority.  All items stay queued, and
    those of the batch fly from now on. -/
theorem CollabSink.getNextBatchItem_spec (self : CollabSink) :
    self.getNextBatchItem.2.messageQueue.Perm self.messageQueue ∧
      self.getNextBatchItem.2.flyingMessages =
        self.flyingMessages ∪ (self.getNextBatchItem.1.map QueueItem.msgId).toFinset ∧
      ∃ behind, (self.getNextBatchItem.1 ++ behind).Perm self.messageQueue ∧
        ((self.getNextBatchItem.1 ++ behind).Pairwise fun first second =>
          (QueueItem.cmp second first).isLE = true) ∧
        IsBatch self.flyingMessages self.getNextBatchItem.1 behind := by
  obtain ⟨behind, popped, batch⟩ := self.getNextBatchItem_popped
  have permuted := popped.perm
  rw [List.append_nil] at permuted
  exact ⟨self.getNextBatchItem_perm, rfl, behind, permuted, popped.descends, batch⟩

/-! ## The batch of the websocket -/

/-- `entry(object_id).or_insert(vec![]).push(msg)` -/
def pushMessage (messagesMap : MessageByObjectId) (msg : ClientCollabMessage) : MessageByObjectId :=
  messagesMap.insert msg.objectId (messagesMap.messages msg.objectId ++ [msg])

/-- The messages of all objects. -/
def allMessages (messagesMap : MessageByObjectId) : List ClientCollabMessage := messagesMap.entries.flatMap Sigma.snd

theorem pushMessage_messages (messagesMap : MessageByObjectId) (msg : ClientCollabMessage) (objectId : String) :
    (pushMessage messagesMap msg).messages objectId =
      messagesMap.messages objectId ++ [msg].filter fun message => message.objectId == objectId := by
  by_cases own : msg.objectId = objectId
  · subst own
    simp [pushMessage, MessageByObjectId.messages]
  · have other : objectId ≠ msg.objectId := fun same => own same.symm
    simp [pushMessage, MessageByObjectId.messages, AList.lookup_insert_ne other, own]

/-- Every object has its messages, in their order. -/
theorem foldl_pushMessage_messages (batch : List ClientCollabMessage) (messagesMap : MessageByObjectId)
    (objectId : String) :
    (batch.foldl pushMessage messagesMap).messages objectId =
      messagesMap.messages objectId ++ batch.filter fun message => message.objectId == objectId := by
  induction batch generalizing messagesMap with
  | nil => simp
  | cons msg batch inductionHypothesis =>
    rw [List.foldl_cons, inductionHypothesis, pushMessage_messages, List.append_assoc, ← List.filter_append]
    rfl

theorem pushMessage_perm (messagesMap : MessageByObjectId) (msg : ClientCollabMessage) :
    (allMessages (pushMessage messagesMap msg)).Perm (allMessages messagesMap ++ [msg]) := by
  by_cases present : msg.objectId ∈ messagesMap
  · obtain ⟨messages, before, after, _, entries, erased⟩ := List.exists_of_kerase present
    have found : messagesMap.messages msg.objectId = messages := by
      have member : ⟨msg.objectId, messages⟩ ∈ messagesMap.entries := by simp [entries]
      rw [MessageByObjectId.messages, Option.mem_def.mp (AList.mem_lookup_iff.mpr member)]
      rfl
    rw [allMessages, pushMessage, AList.entries_insert, erased, found, allMessages, entries]
    simp only [List.flatMap_cons, List.flatMap_append, List.append_assoc]
    refine List.perm_iff_count.mpr fun message => ?_
    simp only [List.count_append]
    omega
  · have absent : messagesMap.messages msg.objectId = [] := by
      rw [MessageByObjectId.messages, AList.lookup_eq_none.mpr present]
      rfl
    rw [allMessages, pushMessage, AList.entries_insert_of_notMem present, absent]
    exact List.perm_append_comm

/-- No message is lost or added. -/
theorem foldl_pushMessage_perm (batch : List ClientCollabMessage) (messagesMap : MessageByObjectId) :
    (allMessages (batch.foldl pushMessage messagesMap)).Perm (allMessages messagesMap ++ batch) := by
  induction batch generalizing messagesMap with
  | nil => simp
  | cons msg batch inductionHypothesis =>
    refine (inductionHypothesis (pushMessage messagesMap msg)).trans ?_
    have pushed := (pushMessage_perm messagesMap msg).append_right batch
    rwa [List.append_assoc] at pushed

/-- Nothing comes before an init sync but another one. -/
theorem isClientInitSync_of_isLE {message first : ClientCollabMessage} (below : (message.cmp first).isLE = true)
    (isInit : message.isClientInitSync = true) : first.isClientInitSync = true := by
  cases message with
  | clientInitSync data => cases first <;> first | rfl | cases below
  | clientUpdateSync data => cases isInit
  | serverInitSync data => cases isInit
  | clientAwarenessSync data => cases isInit

/-- The messages of the map are the front of the queue in some order of priority, and each object
    has its own in this order. -/
structure IsGrouped (queue left : List ClientCollabMessage) (messagesMap : MessageByObjectId) : Prop where
  kept : (allMessages messagesMap ++ left).Perm queue
  front : ∃ batch behind, (allMessages messagesMap).Perm batch ∧ (batch ++ behind).Perm queue ∧
    ((batch ++ behind).Pairwise fun first second => (second.cmp first).isLE = true) ∧ (queue ≠ [] → batch ≠ [])
  own : ∀ objectId, ∀ message ∈ messagesMap.messages objectId, message.objectId = objectId
  descends : ∀ objectId, (messagesMap.messages objectId).Pairwise fun first second => (second.cmp first).isLE = true
  initFirst : ∀ objectId, ∀ message ∈ messagesMap.messages objectId, message.isClientInitSync = true →
    ∃ first later, messagesMap.messages objectId = first :: later ∧ first.isClientInitSync = true

namespace AggregateMessageQueue

variable (self : AggregateMessageQueue)

/-- `next_batch_message` with its map. -/
def nextBatchMap (maximumInitSync : Nat) : MessageByObjectId × AggregateMessageQueue :=
  let (messagesMap, queue) := go self.queue.length 0 0 ∅ self.queue
  (messagesMap, { self with queue })
where
  go : Nat → Nat → Nat → MessageByObjectId → List ClientCollabMessage → MessageByObjectId × List ClientCollabMessage
    | 0, _, _, messagesMap, queue => (messagesMap, queue)
    | fuel + 1, size, initSyncCount, messagesMap, queue =>
      match popMax ClientCollabMessage.cmp queue with
      | none => (messagesMap, queue)
      | some (msg, rest) =>
        let size := size + msg.payloadSize
        let initSyncCount := if msg.isClientInitSync then initSyncCount + 1 else initSyncCount
        let messagesMap := pushMessage messagesMap msg
        if maximumInitSync < initSyncCount then (messagesMap, rest)
        else if self.maximumPayloadSize < size then (messagesMap, rest)
        else go fuel size initSyncCount messagesMap rest

/-- The map is made of the messages of the batch, one after the other. -/
theorem nextBatchMap_eq (maximumInitSync : Nat) :
    self.nextBatchMap maximumInitSync =
      ((self.nextBatchMessage maximumInitSync).1.foldl pushMessage ∅, (self.nextBatchMessage maximumInitSync).2) := by
  have same : ∀ fuel size initSyncCount messagesMap queue,
      nextBatchMap.go self maximumInitSync fuel size initSyncCount messagesMap queue =
        ((nextBatchMessage.go self maximumInitSync fuel size initSyncCount queue).1.foldl pushMessage messagesMap,
          (nextBatchMessage.go self maximumInitSync fuel size initSyncCount queue).2) := by
    intro fuel
    induction fuel with
    | zero => exact fun _ _ _ _ => rfl
    | succ fuel inductionHypothesis =>
      intro size initSyncCount messagesMap queue
      rw [nextBatchMap.go, nextBatchMessage.go]
      cases popMax ClientCollabMessage.cmp queue with
      | none => rfl
      | some found =>
        obtain ⟨msg, rest⟩ := found
        simp only [inductionHypothesis]
        generalize (if msg.isClientInitSync = true then initSyncCount + 1 else initSyncCount) = initSyncs
        by_cases many : maximumInitSync < initSyncs
        · simp [many]
        · by_cases large : self.maximumPayloadSize < size + msg.payloadSize
          · simp [many, large]
          · simp [many, large]
  rw [nextBatchMap, nextBatchMessage, same]

theorem nextBatchMessage_go_cases (maximumInitSync fuel size initSyncCount : Nat)
    {queue rest : List ClientCollabMessage} {msg : ClientCollabMessage}
    (found : popMax ClientCollabMessage.cmp queue = some (msg, rest)) :
    nextBatchMessage.go self maximumInitSync (fuel + 1) size initSyncCount queue = ([msg], rest) ∨
      ∃ newSize newCount, nextBatchMessage.go self maximumInitSync (fuel + 1) size initSyncCount queue =
        (msg :: (nextBatchMessage.go self maximumInitSync fuel newSize newCount rest).1,
          (nextBatchMessage.go self maximumInitSync fuel newSize newCount rest).2) := by
  rw [nextBatchMessage.go, found]
  simp only
  generalize (if msg.isClientInitSync = true then initSyncCount + 1 else initSyncCount) = newCount
  split
  · exact .inl rfl
  · exact .inr ⟨_, newCount, rfl⟩

theorem nextBatchMessage_popped (maximumInitSync : Nat) :
    Popped ClientCollabMessage.cmp self.queue (self.nextBatchMessage maximumInitSync).1
      (self.nextBatchMessage maximumInitSync).2.queue := by
  have popped : ∀ fuel size initSyncCount queue,
      Popped ClientCollabMessage.cmp queue (nextBatchMessage.go self maximumInitSync fuel size initSyncCount queue).1
        (nextBatchMessage.go self maximumInitSync fuel size initSyncCount queue).2 := by
    intro fuel
    induction fuel with
    | zero => exact fun _ _ queue => .stop queue
    | succ fuel inductionHypothesis =>
      intro size initSyncCount queue
      cases found : popMax ClientCollabMessage.cmp queue with
      | none =>
        rw [nextBatchMessage.go, found]
        exact .stop queue
      | some top =>
        obtain ⟨msg, rest⟩ := top
        rcases self.nextBatchMessage_go_cases maximumInitSync fuel size initSyncCount found with
          ended | ⟨newSize, newCount, goesOn⟩
        · rw [ended]
          exact .pop found (.stop rest)
        · rw [goesOn]
          exact .pop found (inductionHypothesis newSize newCount rest)
  exact popped _ _ _ _

/-- A batch takes at least the first message. -/
theorem nextBatchMessage_nonempty (maximumInitSync : Nat) (queued : self.queue ≠ []) :
    (self.nextBatchMessage maximumInitSync).1 ≠ [] := by
  cases found : popMax ClientCollabMessage.cmp self.queue with
  | none => exact absurd (popMax_eq_none.mp found) queued
  | some top =>
    obtain ⟨msg, rest⟩ := top
    have lengths := popMax_length found
    rw [nextBatchMessage, ← lengths]
    cases self.nextBatchMessage_go_cases maximumInitSync rest.length 0 0 found with
    | inl ended => simp [ended]
    | inr held =>
      obtain ⟨_, _, goesOn⟩ := held
      simp [goesOn]

theorem nextBatchMap_grouped (maximumInitSync : Nat) :
    IsGrouped self.queue (self.nextBatchMap maximumInitSync).2.queue (self.nextBatchMap maximumInitSync).1 := by
  have popped := self.nextBatchMessage_popped maximumInitSync
  have nonempty := self.nextBatchMessage_nonempty maximumInitSync
  rw [nextBatchMap_eq]
  generalize self.nextBatchMessage maximumInitSync = result at popped nonempty
  obtain ⟨batch, left⟩ := result
  have grouped : (allMessages (batch.foldl pushMessage ∅)).Perm batch := foldl_pushMessage_perm batch ∅
  have messages (objectId : String) : (batch.foldl pushMessage ∅).messages objectId =
      batch.filter fun message => message.objectId == objectId := foldl_pushMessage_messages batch ∅ objectId
  have ordered := popped.append (drain_popped left.queue)
  have permuted := ordered.perm
  rw [List.append_nil] at permuted
  have descends (objectId : String) : ((batch.foldl pushMessage ∅).messages objectId).Pairwise
      fun first second => (second.cmp first).isLE = true := by
    rw [messages]
    exact popped.descends.filter _
  refine ⟨(grouped.append_right left.queue).trans popped.perm,
    ⟨batch, _, grouped, permuted, ordered.descends, nonempty⟩, fun objectId message member => ?_, descends,
    fun objectId message member isInit => ?_⟩
  · rw [messages] at member
    simpa using (List.mem_filter.mp member).2
  · have sorted := descends objectId
    cases list : (batch.foldl pushMessage ∅).messages objectId with
    | nil =>
      rw [list] at member
      cases member
    | cons first later =>
      rw [list] at member sorted
      refine ⟨first, later, rfl, ?_⟩
      cases List.mem_cons.mp member with
      | inl same => exact same ▸ isInit
      | inr behind => exact isClientInitSync_of_isLE ((List.pairwise_cons.mp sorted).1 message behind) isInit

end AggregateMessageQueue

end FlowCloud.Client
