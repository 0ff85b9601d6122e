import FlowCloud.Client.SinkMerge

/-! # The client sink

`CollabSink` keeps the messages of one object that the server has not acknowledged.  Sending
leaves a message in the queue and marks its id as flying; an ack with the id of the first
item takes the item out.
-/

namespace FlowCloud.Client

open FlowCloud.Foundation FlowCloud.Entity FlowCloud.Protocol

inductive SinkState where
  | init
  | syncing
  | finished
  | pause
  deriving DecidableEq, Repr

structure CollabSink where
  messageQueue : List QueueItem
  flyingMessages : Finset MsgId
  msgIdCounter : Nat
  pause : Bool
  state : SinkState
  /-- The ids of the batch that the sender is busy with. -/
  sending : Option (List MsgId)

def CollabSink.new (pause : Bool) : CollabSink := ⟨[], ∅, 0, pause, .init, none⟩

namespace CollabSink

/-- Put a message into the queue under the next id.  The constructors that the callers pass
    fill the id into the message. -/
def pushMsg (self : CollabSink) (msg : ClientCollabMessage) : CollabSink :=
  { self with
    messageQueue := ⟨msg.setMsgId self.msgIdCounter, self.msgIdCounter⟩ :: self.messageQueue
    msgIdCounter := (self.msgIdCounter + 1) % 2 ^ 64
    state := .syncing }

/-- `queue_msg` up to its merge, which takes the locks anew. -/
def queueMsg (self : CollabSink) (msg : ClientCollabMessage) : CollabSink := self.pushMsg msg

/-- What cannot be locked is not cleared. -/
def clear (self : CollabSink) (queueFree flyingFree : Bool) : CollabSink :=
  { self with
    messageQueue := if queueFree then [] else self.messageQueue
    flyingMessages := if flyingFree then ∅ else self.flyingMessages }

def queueInitSync (self : CollabSink) (msg : ClientCollabMessage) (queueFree flyingFree : Bool) : CollabSink :=
  (self.clear queueFree flyingFree).pushMsg msg

/-- The 8-second tick: every message may be sent again. -/
def tick (self : CollabSink) : CollabSink := { self with flyingMessages := ∅ }

def setPause (self : CollabSink) (pause : Bool) : CollabSink :=
  { self with pause, state := if pause then .pause else self.state }

def finishIfEmpty (self : CollabSink) : CollabSink :=
  { self with state := if self.messageQueue.isEmpty then .finished else self.state }

/-- Whether the message is valid, and the sink without the item it acknowledges. -/
def validateResponse (self : CollabSink) (serverMessage : ServerCollabMessage) : Bool × CollabSink :=
  -- a broadcast has no id and is always let through
  match serverMessage.msgId with
  | none => (true, self)
  | some incomeMessageId =>
    -- an ack that nothing waits for is ignored
    if incomeMessageId ∉ self.flyingMessages then (false, self)
    else
      match popMax QueueItem.cmp self.messageQueue with
      | none => (false, self.finishIfEmpty)
      | some (currentItem, rest) =>
        -- only the first item can be acknowledged, and it is put back otherwise
        if currentItem.msgId ≠ incomeMessageId then
          (false, finishIfEmpty { self with messageQueue := currentItem :: rest })
        else
          (true, finishIfEmpty
            { self with messageQueue := rest, flyingMessages := self.flyingMessages.erase incomeMessageId })

end CollabSink

/-! ## Sending -/

/-- The loop of `get_next_batch_item`: the batch, what was popped, and what was not. -/
def takeBatch (flyingMessages : Finset MsgId) :
    Nat → List QueueItem → List QueueItem → List QueueItem → List QueueItem × List QueueItem × List QueueItem
  | 0, queue, items, requeueItems => (items, requeueItems, queue)
  | fuel + 1, queue, items, requeueItems =>
    match popMax QueueItem.cmp queue with
    | none => (items, requeueItems, queue)
    | some (item, rest) =>
      if items.length > 20 then (items, requeueItems ++ [item], rest)
      -- sent already: the items behind it wait
      else if item.msgId ∈ flyingMessages then (items, requeueItems ++ [item], rest)
      else if item.inner.isClientInitSync then (items ++ [item], requeueItems ++ [item], rest)
      else takeBatch flyingMessages fuel rest (items ++ [item]) (requeueItems ++ [item])

/-- The batch, and the sink that keeps its items and marks them as flying. -/
def CollabSink.getNextBatchItem (self : CollabSink) : List QueueItem × CollabSink :=
  let (items, requeueItems, rest) :=
    takeBatch self.flyingMessages self.messageQueue.length self.messageQueue [] []
  (items, { self with
    messageQueue := rest ++ requeueItems
    flyingMessages := self.flyingMessages ∪ (items.map QueueItem.msgId).toFinset })

def CollabSink.retain (self : CollabSink) (messageIds : List MsgId) : CollabSink :=
  { self with flyingMessages := self.flyingMessages \ messageIds.toFinset }

/-- `process_next_msg` up to the await: the messages handed to the sender, and the sink.
    While the sender is busy with another batch nothing is handed to it. -/
def CollabSink.processNextMsg (self : CollabSink) (locksFree : Bool) :
    List ClientCollabMessage × CollabSink :=
  if self.pause || !locksFree then ([], self)
  else
    match self.getNextBatchItem with
    | ([], sink) => ([], sink)
    | (items, sink) =>
      let messageIds := items.map QueueItem.msgId
      match self.sending with
      -- the sender is taken: the ids of the batch stop flying again
      | some _ => ([], sink.retain messageIds)
      | none => (items.map QueueItem.inner, { sink with sending := some messageIds })

def CollabSink.sendFinished (self : CollabSink) (success : Bool) : CollabSink :=
  match self.sending with
  | none => self
  | some messageIds =>
    let sink := if success then self else self.retain messageIds
    { sink with sending := none }

def CollabSink.merge {Op StateVector AwarenessUpdate : Type} [DecidableEq Op]
    (yrs : Yrs Op StateVector AwarenessUpdate) (config : SinkConfig) (self : CollabSink) (locksFree : Bool) :
    CollabSink :=
  { self with messageQueue := Client.merge yrs self.flyingMessages config locksFree self.messageQueue }

/-! ## What each operation does to the queue -/

/-- What is put back and what was not popped are the queue and what was put back before. -/
theorem takeBatch_perm (flyingMessages : Finset MsgId) (fuel : Nat) (queue items requeueItems : List QueueItem) :
    let result := takeBatch flyingMessages fuel queue items requeueItems
    (result.2.2 ++ result.2.1).Perm (queue ++ requeueItems) := by
  -- by induction on the fuel, which bounds the items still to be popped
  induction fuel generalizing queue items requeueItems with
  | zero => exact .refl _
  | succ fuel inductionHypothesis =>
    rw [takeBatch]
    cases popped : popMax QueueItem.cmp queue with
    | none => exact .refl _
    | some found =>
      obtain ⟨item, rest⟩ := found
      -- the popped item moves to the end of what is put back
      have moved : (rest ++ (requeueItems ++ [item])).Perm (queue ++ requeueItems) := by
        rw [← List.append_assoc]
        refine (List.perm_append_singleton item (rest ++ requeueItems)).trans ?_
        exact (popMax_perm popped).append_right requeueItems
      simp only
      split
      · exact moved
      split
      · exact moved
      split
      · exact moved
      exact (inductionHypothesis rest (items ++ [item]) (requeueItems ++ [item])).trans moved

/-- A batch that a sink may take while these ids are flying, and what stays behind it. -/
structure IsBatch (flyingMessages : Finset MsgId) (batch behind : List QueueItem) : Prop where
  unsent : ∀ item ∈ batch, item.msgId ∉ flyingMessages
  short : batch.length ≤ 21
  /-- Nothing comes after an init sync. -/
  initLast : batch.Pairwise fun item _ => item.inner.isClientInitSync = false
  stops : behind = [] ∨ batch.length = 21 ∨ (∃ item ∈ batch.getLast?, item.inner.isClientInitSync = true) ∨
    ∃ item ∈ behind.head?, item.msgId ∈ flyingMessages

/-- The loop that has taken `items` may end with the batch: it goes on popping the queue. -/
def TakesOn (flyingMessages : Finset MsgId) (queue items batch : List QueueItem) : Prop :=
  ∃ taken behind, batch = items ++ taken ∧ Popped QueueItem.cmp queue (taken ++ behind) [] ∧
    (∀ item ∈ taken, item.msgId ∉ flyingMessages) ∧ (items ++ taken).length ≤ 21 ∧
    (taken.Pairwise fun item _ => item.inner.isClientInitSync = false) ∧
    (behind = [] ∨ (items ++ taken).length = 21 ∨ (∃ item ∈ taken.getLast?, item.inner.isClientInitSync = true) ∨
      ∃ item ∈ behind.head?, item.msgId ∈ flyingMessages)

section TakesOn

variable {flyingMessages : Finset MsgId} {queue rest items batch : List QueueItem} {item : QueueItem}

theorem TakesOn.stop {behind : List QueueItem} (all : Popped QueueItem.cmp queue behind []) (short : items.length ≤ 21)
    (stops : behind = [] ∨ items.length = 21 ∨ ∃ item ∈ behind.head?, item.msgId ∈ flyingMessages) :
    TakesOn flyingMessages queue items items := by
  refine ⟨[], behind, (List.append_nil items).symm, all, List.forall_mem_nil _, ?_, .nil, ?_⟩
  · rwa [List.append_nil]
  · rw [List.append_nil]
    exact stops.imp_right (Or.imp_right .inr)

theorem TakesOn.last (popped : popMax QueueItem.cmp queue = some (item, rest)) (notFlying : item.msgId ∉ flyingMessages)
    (isInit : item.inner.isClientInitSync = true) (short : (items ++ [item]).length ≤ 21) :
    TakesOn flyingMessages queue items (items ++ [item]) :=
  ⟨[item], drain QueueItem.cmp rest, rfl, .pop popped (drain_popped rest), List.forall_mem_singleton.mpr notFlying,
    short, List.pairwise_singleton _ _, .inr (.inr (.inl ⟨item, rfl, isInit⟩))⟩

theorem TakesOn.more (popped : popMax QueueItem.cmp queue = some (item, rest)) (notFlying : item.msgId ∉ flyingMessages)
    (notInit : item.inner.isClientInitSync = false) (later : TakesOn flyingMessages rest (items ++ [item]) batch) :
    TakesOn flyingMessages queue items batch := by
  obtain ⟨taken, behind, same, poppedLater, unsent, short, initLast, stops⟩ := later
  have moved : items ++ [item] ++ taken = items ++ item :: taken := by simp
  rw [moved] at same short stops
  refine ⟨item :: taken, behind, same, .pop popped poppedLater, List.forall_mem_cons.mpr ⟨notFlying, unsent⟩, short,
    .cons (fun _ _ => notInit) initLast, ?_⟩
  refine stops.imp_right (Or.imp_right (Or.imp_left ?_))
  rintro ⟨last, found, isInit⟩
  exact ⟨last, by simp [List.getLast?_cons, Option.mem_def.mp found], isInit⟩

theorem takeBatch_takesOn {fuel : Nat} (requeueItems : List QueueItem) (enough : queue.length ≤ fuel)
    (short : items.length ≤ 21) :
    TakesOn flyingMessages queue items (takeBatch flyingMessages fuel queue items requeueItems).1 := by
  induction fuel generalizing queue items requeueItems with
  | zero =>
    obtain rfl := List.length_eq_zero_iff.mp (Nat.le_zero.mp enough)
    exact .stop (.stop []) short (.inl rfl)
  | succ fuel inductionHypothesis =>
    rw [takeBatch]
    cases popped : popMax QueueItem.cmp queue with
    | none =>
      obtain rfl := popMax_eq_none.mp popped
      exact .stop (.stop []) short (.inl rfl)
    | some found =>
      obtain ⟨item, rest⟩ := found
      have within : rest.length ≤ fuel := by
        have lengths := popMax_length popped
        omega
      -- a popped item that is not taken is the first one left behind
      have all : Popped QueueItem.cmp queue (item :: drain QueueItem.cmp rest) [] := .pop popped (drain_popped rest)
      simp only
      split
      · next full => exact .stop all short (.inr (.inl (by omega)))
      · next room =>
        have shorter : (items ++ [item]).length ≤ 21 := by
          rw [List.length_append, List.length_singleton]
          omega
        split
        · next flying => exact .stop all short (.inr (.inr ⟨item, rfl, flying⟩))
        · next notFlying =>
          split
          · next isInit => exact .last popped notFlying isInit shorter
          · next notInit =>
            exact .more popped notFlying (eq_false_of_ne_true notInit)
              (inductionHypothesis (requeueItems ++ [item]) within shorter)

end TakesOn

namespace CollabSink

variable (self : CollabSink)

theorem getNextBatchItem_perm : self.getNextBatchItem.2.messageQueue.Perm self.messageQueue := by
  have permuted := takeBatch_perm self.flyingMessages self.messageQueue.length self.messageQueue [] []
  rwa [List.append_nil] at permuted

/-- The batch is what comes out of the queue first. -/
theorem getNextBatchItem_popped :
    ∃ behind, Popped QueueItem.cmp self.messageQueue (self.getNextBatchItem.1 ++ behind) [] ∧
      IsBatch self.flyingMessages self.getNextBatchItem.1 behind := by
  have empty : ([] : List QueueItem).length ≤ 21 := Nat.zero_le 21
  obtain ⟨taken, behind, batch, popped, unsent, short, initLast, stops⟩ : TakesOn self.flyingMessages
      self.messageQueue [] _ := takeBatch_takesOn [] (Nat.le_refl self.messageQueue.length) empty
  have same : self.getNextBatchItem.1 = taken := batch
  rw [same]
  exact ⟨behind, popped, unsent, short, initLast, stops⟩

theorem getNextBatchItem_subset : self.getNextBatchItem.1 ⊆ self.messageQueue := by
  obtain ⟨behind, popped, _⟩ := self.getNextBatchItem_popped
  intro item member
  exact popped.perm.subset (List.mem_append_left _ (List.mem_append_left _ member))

theorem processNextMsg_perm (locksFree : Bool) :
    (self.processNextMsg locksFree).2.messageQueue.Perm self.messageQueue := by
  rw [processNextMsg]
  split
  · exact .refl _
  have batch := self.getNextBatchItem_perm
  split
  · rename_i taken
    rw [taken] at batch
    exact batch
  · rename_i taken
    rw [taken] at batch
    cases self.sending <;> exact batch

theorem processNextMsg_subset {self : CollabSink} {locksFree : Bool} {message : ClientCollabMessage}
    (handed : message ∈ (self.processNextMsg locksFree).1) :
    ∃ item ∈ self.messageQueue, item.inner = message := by
  rw [processNextMsg] at handed
  split at handed
  · cases handed
  have batch := self.getNextBatchItem_subset
  split at handed
  · cases handed
  · rename_i taken
    rw [taken] at batch
    cases busy : self.sending with
    | some ids =>
      rw [busy] at handed
      cases handed
    | none =>
      rw [busy] at handed
      obtain ⟨item, member, rfl⟩ := List.mem_map.mp handed
      exact ⟨item, batch member, rfl⟩

/-- Either nothing is handed to the sender and the flying ids stay, or the batch is. -/
theorem processNextMsg_cases (locksFree : Bool) :
    let result := self.processNextMsg locksFree
    let items := self.getNextBatchItem.1
    (result.1 = [] ∧ result.2.flyingMessages = self.flyingMessages ∧ result.2.sending = self.sending) ∨
      (items ≠ [] ∧ result.1 = items.map QueueItem.inner ∧ self.sending = none ∧
        result.2.sending = some (items.map QueueItem.msgId) ∧
        result.2.flyingMessages = self.flyingMessages ∪ (items.map QueueItem.msgId).toFinset) := by
  obtain ⟨_, _, ⟨unsent, _, _, _⟩⟩ := self.getNextBatchItem_popped
  have flying : self.getNextBatchItem.2.flyingMessages =
      self.flyingMessages ∪ (self.getNextBatchItem.1.map QueueItem.msgId).toFinset := rfl
  have sending : self.getNextBatchItem.2.sending = self.sending := rfl
  simp only [processNextMsg]
  split
  · exact .inl ⟨rfl, rfl, rfl⟩
  split
  · rename_i taken
    rw [taken] at flying sending
    exact .inl ⟨rfl, by simpa using flying, sending⟩
  · rename_i items sink nonempty taken
    have batch : items = self.getNextBatchItem.1 := by rw [taken]
    simp only [taken] at flying sending
    cases busy : self.sending with
    | some ids =>
      refine .inl ⟨rfl, ?_, sending.trans busy⟩
      -- the ids that are taken back were not flying before
      have apart : Disjoint self.flyingMessages (items.map QueueItem.msgId).toFinset := by
        rw [Finset.disjoint_right]
        intro msgId member
        obtain ⟨item, inside, rfl⟩ := List.mem_map.mp (List.mem_toFinset.mp member)
        exact unsent item (batch ▸ inside)
      simp only [retain, flying]
      exact Finset.union_sdiff_cancel_right apart
    | none =>
      refine .inr ⟨?_, by rw [batch], rfl, by rw [batch], by rw [← batch]; exact flying⟩
      rw [← batch]
      rintro rfl
      exact nonempty rfl

/-- Taking a batch touches the queue and what is flying only. -/
theorem processNextMsg_eq (locksFree : Bool) :
    ∃ messageQueue flyingMessages sending,
      (self.processNextMsg locksFree).2 = { self with messageQueue, flyingMessages, sending } := by
  have batch : ∃ messageQueue flyingMessages, self.getNextBatchItem.2 =
      { self with messageQueue, flyingMessages } := ⟨_, _, rfl⟩
  obtain ⟨messageQueue, flyingMessages, batch⟩ := batch
  rw [processNextMsg]
  split
  · exact ⟨_, _, _, rfl⟩
  split
  · rename_i taken
    rw [taken] at batch
    exact ⟨messageQueue, flyingMessages, self.sending, batch⟩
  · rename_i items sink nonempty taken
    rw [taken] at batch
    obtain rfl := batch
    cases self.sending <;> exact ⟨_, _, _, rfl⟩

theorem sendFinished_eq (success : Bool) :
    ∃ flyingMessages sending, self.sendFinished success = { self with flyingMessages, sending } := by
  rw [sendFinished]
  cases busy : self.sending with
  | none => exact ⟨self.flyingMessages, self.sending, rfl⟩
  | some messageIds => cases success <;> exact ⟨_, _, rfl⟩

theorem validateResponse_eq (serverMessage : ServerCollabMessage) :
    ∃ messageQueue flyingMessages state,
      (self.validateResponse serverMessage).2 = { self with messageQueue, flyingMessages, state } := by
  rw [validateResponse]
  cases serverMessage.msgId with
  | none => exact ⟨_, _, _, rfl⟩
  | some incomeMessageId =>
    simp only
    split
    · exact ⟨_, _, _, rfl⟩
    cases popMax QueueItem.cmp self.messageQueue with
    | none => exact ⟨_, _, _, rfl⟩
    | some found =>
      simp only
      split <;> exact ⟨_, _, _, rfl⟩

@[simp] theorem processNextMsg_msgIdCounter (locksFree : Bool) :
    (self.processNextMsg locksFree).2.msgIdCounter = self.msgIdCounter := by
  obtain ⟨_, _, _, same⟩ := self.processNextMsg_eq locksFree
  rw [same]

@[simp] theorem sendFinished_messageQueue (success : Bool) :
    (self.sendFinished success).messageQueue = self.messageQueue := by
  obtain ⟨_, _, same⟩ := self.sendFinished_eq success
  rw [same]

@[simp] theorem sendFinished_msgIdCounter (success : Bool) :
    (self.sendFinished success).msgIdCounter = self.msgIdCounter := by
  obtain ⟨_, _, same⟩ := self.sendFinished_eq success
  rw [same]

/-- A broadcast is let through, an ack is refused, or it takes the first item out. -/
theorem validateResponse_outcome (serverMessage : ServerCollabMessage) :
    let result := self.validateResponse serverMessage
    (serverMessage.msgId = none ∧ result = (true, self)) ∨
      (result.1 = false ∧ result.2.messageQueue.Perm self.messageQueue ∧
        result.2.flyingMessages = self.flyingMessages) ∨
      ∃ item rest, serverMessage.msgId = some item.msgId ∧ item.msgId ∈ self.flyingMessages ∧
        popMax QueueItem.cmp self.messageQueue = some (item, rest) ∧ result.1 = true ∧
        result.2.messageQueue = rest ∧ result.2.flyingMessages = self.flyingMessages.erase item.msgId := by
  simp only [validateResponse]
  cases serverMessage.msgId with
  | none => exact .inl ⟨rfl, rfl⟩
  | some incomeMessageId =>
    right
    simp only
    split
    · exact .inl ⟨rfl, .refl _, rfl⟩
    rename_i flying
    rw [Decidable.not_not] at flying
    cases popped : popMax QueueItem.cmp self.messageQueue with
    | none => exact .inl ⟨rfl, .refl _, rfl⟩
    | some found =>
      obtain ⟨currentItem, rest⟩ := found
      simp only
      split
      · exact .inl ⟨rfl, popMax_perm popped, rfl⟩
      · rename_i same
        rw [Decidable.not_not] at same
        subst same
        exact .inr ⟨currentItem, rest, rfl, flying, rfl, rfl, rfl, rfl⟩

/-- A response takes at most one item out of the queue, the one with the id it answers. -/
theorem validateResponse_cases (serverMessage : ServerCollabMessage) :
    (self.validateResponse serverMessage).2.messageQueue.Perm self.messageQueue ∨
      ∃ item, serverMessage.msgId = some item.msgId ∧
        (item :: (self.validateResponse serverMessage).2.messageQueue).Perm self.messageQueue := by
  rcases self.validateResponse_outcome serverMessage with ⟨_, same⟩ | ⟨_, queue, _⟩ |
    ⟨item, rest, named, _, popped, _, queue, _⟩
  · left
    rw [same]
  · exact .inl queue
  · right
    refine ⟨item, named, ?_⟩
    rw [queue]
    exact popMax_perm popped

theorem validateResponse_refused {serverMessage : ServerCollabMessage}
    (refused : (self.validateResponse serverMessage).1 = false) :
    (self.validateResponse serverMessage).2.messageQueue.Perm self.messageQueue := by
  rcases self.validateResponse_outcome serverMessage with ⟨_, same⟩ | ⟨_, queue, _⟩ | ⟨_, _, _, _, _, accepted, _⟩
  · rw [same]
  · exact queue
  · rw [accepted] at refused
    cases refused

theorem validateResponse_sending (serverMessage : ServerCollabMessage) :
    (self.validateResponse serverMessage).2.sending = self.sending := by
  obtain ⟨_, _, _, same⟩ := self.validateResponse_eq serverMessage
  rw [same]

@[simp] theorem validateResponse_msgIdCounter (serverMessage : ServerCollabMessage) :
    (self.validateResponse serverMessage).2.msgIdCounter = self.msgIdCounter := by
  obtain ⟨_, _, _, same⟩ := self.validateResponse_eq serverMessage
  rw [same]

end CollabSink

end FlowCloud.Client
