import FlowCloud.Client.SinkBooks

/-! # Acks in sending order

The sink together with the order in which the flying messages were handed to the sender.  An
ack is accepted for the first item of the queue only, so the flying items must stay in front
of the others and in the order in which they were sent.
-/

namespace FlowCloud.Client

open FlowCloud.Foundation FlowCloud.Entity FlowCloud.Protocol

structure SinkFlight where
  sink : CollabSink
  /-- The ids that were handed to the sender and are flying, the earliest first. -/
  sent : List MsgId

def SinkFlight.new (pause : Bool) : SinkFlight := ⟨.new pause, []⟩

section

variable {Op StateVector AwarenessUpdate : Type} [DecidableEq Op]
variable (yrs : Yrs Op StateVector AwarenessUpdate) (config : SinkConfig)

/-- The messages handed to the sender, and the sink. -/
def CollabSink.step (self : CollabSink) : SinkEvent → List ClientCollabMessage × CollabSink
  | .queueMsg msg => ([], self.queueMsg msg)
  | .merge locksFree => ([], self.merge yrs config locksFree)
  | .queueInitSync msg queueFree flyingFree => ([], self.queueInitSync msg queueFree flyingFree)
  | .relayout layout => ([], self.relayout layout)
  | .processNextMsg locksFree => self.processNextMsg locksFree
  | .sendFinished success => ([], self.sendFinished success)
  | .tick => ([], self.tick)
  | .setPause pause => ([], self.setPause pause)
  | .transmit | .acknowledge _ => ([], self)
  | .validateResponse serverMessage => ([], (self.validateResponse serverMessage).2)

def SinkFlight.step (self : SinkFlight) (event : SinkEvent) : SinkFlight :=
  let (messages, sink) := self.sink.step yrs config event
  let sent := self.sent ++ messages.map ClientCollabMessage.msgId
  { sink, sent := sent.filter (· ∈ sink.flyingMessages) }

end

/-- The ack of the flying message that was sent first is accepted. -/
def SinkFlight.AcceptsNext (self : SinkFlight) : Prop :=
  ∀ msgId later, self.sent = msgId :: later → ∀ serverMessage : ServerCollabMessage,
    serverMessage.msgId = some msgId → (self.sink.validateResponse serverMessage).1 = true

/-- The new message ties with no item of the queue and comes before no flying one. -/
def CollabSink.Behind (self : CollabSink) (msg : ClientCollabMessage) : Prop :=
  ∀ item ∈ self.messageQueue,
    let order := QueueItem.cmp item ⟨msg.setMsgId self.msgIdCounter, self.msgIdCounter⟩
    order = .gt ∨ order = .lt ∧ item.msgId ∉ self.flyingMessages

instance (self : CollabSink) (msg : ClientCollabMessage) : Decidable (self.Behind msg) :=
  inferInstanceAs (Decidable (∀ item ∈ self.messageQueue, _ ∨ _))

/-- What is queued comes behind the flying messages, an init sync does not empty the queue under
    them, and the id counter does not start over. -/
def KeepsOrder (state : SinkFlight) : SinkEvent → Prop
  | .queueMsg msg => state.sink.msgIdCounter + 1 < 2 ^ 64 ∧ state.sink.Behind msg
  | .queueInitSync msg queueFree flyingFree =>
    state.sink.msgIdCounter + 1 < 2 ^ 64 ∧ (state.sink.clear queueFree flyingFree).Behind msg ∧
      (queueFree = true → flyingFree = true ∨ state.sink.flyingMessages = ∅)
  | _ => True

/-! ## The order of the queue -/

instance : Std.TransCmp ClientCollabMessage.cmp where
  eq_swap := by
    intro left right
    cases left <;> cases right <;> simp [ClientCollabMessage.cmp, Nat.compare_swap]
  isLE_trans := by
    intro first second third below above
    cases first <;> cases second <;> cases third <;> simp_all [ClientCollabMessage.cmp, Nat.isGE_compare]
    all_goals omega

instance : Std.TransCmp QueueItem.cmp where
  eq_swap := by
    intro left right
    have swapped : left.inner.cmp right.inner = (right.inner.cmp left.inner).swap := Std.OrientedCmp.eq_swap
    exact swapped
  isLE_trans := by
    intro first second third below above
    have through : (first.inner.cmp third.inner).isLE = true := Std.TransCmp.isLE_trans below above
    exact through

/-- No two items tie. -/
def Untied (queue : List QueueItem) : Prop := queue.Pairwise fun left right => QueueItem.cmp left right ≠ .eq

theorem Untied.of_perm {queue layout : List QueueItem} (untied : Untied queue) (permuted : layout.Perm queue) :
    Untied layout :=
  untied.perm permuted.symm fun apart tied => apart (Std.OrientedCmp.eq_symm tied)

theorem Untied.popMax_gt {queue rest : List QueueItem} {item : QueueItem} (untied : Untied queue)
    (popped : popMax QueueItem.cmp queue = some (item, rest)) : ∀ other ∈ rest, QueueItem.cmp item other = .gt := by
  intro other member
  have apart := (List.pairwise_cons.mp (untied.of_perm (popMax_perm popped))).1 other member
  have below := popMax_isLE popped other member
  cases order : QueueItem.cmp item other with
  | gt => rfl
  | eq => exact absurd order apart
  | lt =>
    rw [Std.OrientedCmp.gt_of_lt order] at below
    cases below

/-- What comes out of the queue goes down in priority. -/
theorem Untied.popped_gt {queue items left : List QueueItem} (popped : Popped QueueItem.cmp queue items left)
    (untied : Untied queue) : items.Pairwise fun first second => QueueItem.cmp first second = .gt := by
  induction popped with
  | stop queue => exact .nil
  | @pop queue rest items left top popped later inductionHypothesis =>
    refine .cons (fun item member => ?_) (inductionHypothesis ?_)
    · exact untied.popMax_gt popped item (later.perm.subset (List.mem_append_left left member))
    · exact (List.pairwise_cons.mp (untied.of_perm (popMax_perm popped))).2

/-- The messages of a group and of the item it became are ordered alike. -/
theorem cmp_withUpdate {Op StateVector AwarenessUpdate : Type} [DecidableEq Op]
    (yrs : Yrs Op StateVector AwarenessUpdate) (message other : ClientCollabMessage) (data : Bytes) :
    (message.withUpdate yrs data).cmp other = message.cmp other := by
  cases message <;> cases other <;> rfl

theorem MergeGroup.Result.cmp {Op StateVector AwarenessUpdate : Type} [DecidableEq Op]
    {yrs : Yrs Op StateVector AwarenessUpdate} {left right : MergeGroup} (leftResult : left.Result yrs)
    (rightResult : right.Result yrs) : QueueItem.cmp left.item right.item = QueueItem.cmp left.first right.first := by
  have like {group : MergeGroup} (result : group.Result yrs) (other : ClientCollabMessage) :
      group.item.inner.cmp other = group.first.inner.cmp other := by
    by_cases merges : group.Merges yrs
    · obtain ⟨data, inner, _⟩ := result.merged merges
      rw [inner, cmp_withUpdate]
    · rw [result.unmerged merges]
  have swapped (one other : ClientCollabMessage) : one.cmp other = (other.cmp one).swap := Std.OrientedCmp.eq_swap
  rw [QueueItem.cmp, QueueItem.cmp, like leftResult, swapped, like rightResult]
  exact (swapped _ _).symm

/-! ## The invariant -/

structure SinkFlight.InOrder (state : SinkFlight) : Prop where
  booked : state.sink.Booked
  untied : Untied state.sink.messageQueue
  flying : ∀ msgId, msgId ∈ state.sink.flyingMessages ↔ msgId ∈ state.sent
  inFront : ∀ item ∈ state.sink.messageQueue, item.msgId ∈ state.sink.flyingMessages →
    ∀ other ∈ state.sink.messageQueue, other.msgId ∉ state.sink.flyingMessages → QueueItem.cmp item other = .gt
  ordered : state.sent.Pairwise fun earlier later => ∀ item ∈ state.sink.messageQueue,
    ∀ other ∈ state.sink.messageQueue, item.msgId = earlier → other.msgId = later → QueueItem.cmp item other = .gt
  /-- What flies belongs to the batch that the sender is busy with, if it is. -/
  sending : ∀ msgIds, state.sink.sending = some msgIds → ∀ msgId ∈ state.sent, msgId ∈ msgIds

namespace SinkFlight.InOrder

variable {state : SinkFlight}

theorem new (pause : Bool) : (SinkFlight.new pause).InOrder where
  booked := .new pause
  untied := .nil
  flying := fun _ => iff_of_false (Finset.notMem_empty _) (List.not_mem_nil)
  inFront := List.forall_mem_nil _
  ordered := .nil
  sending := fun _ none => by cases none

theorem sameItem (inOrder : state.InOrder) {item other : QueueItem} (member : item ∈ state.sink.messageQueue)
    (otherMember : other ∈ state.sink.messageQueue) (same : item.msgId = other.msgId) : item = other :=
  List.inj_on_of_nodup_map inOrder.booked.distinct member otherMember same

/-- The message that was sent first is the first item of the queue. -/
theorem popMax_sent (inOrder : state.InOrder) {msgId : MsgId} {later : List MsgId}
    (sent : state.sent = msgId :: later) :
    ∃ item rest, item.msgId = msgId ∧ msgId ∈ state.sink.flyingMessages ∧
      popMax QueueItem.cmp state.sink.messageQueue = some (item, rest) := by
  have flying : msgId ∈ state.sink.flyingMessages := (inOrder.flying msgId).mpr (sent ▸ .head _)
  obtain ⟨item, queued, rfl⟩ := inOrder.booked.flyingQueued msgId flying
  have split : (item :: state.sink.messageQueue.erase item).Perm state.sink.messageQueue :=
    (List.perm_cons_erase queued).symm
  have ordered := inOrder.ordered
  rw [sent, List.pairwise_cons] at ordered
  have first : ∀ other ∈ state.sink.messageQueue.erase item, QueueItem.cmp item other = .gt := by
    intro other member
    have otherQueued := List.mem_of_mem_erase member
    by_cases otherFlying : other.msgId ∈ state.sink.flyingMessages
    · have otherSent := (inOrder.flying _).mp otherFlying
      rw [sent] at otherSent
      cases List.mem_cons.mp otherSent with
      | inl same =>
        -- the erased list has no other item with this id
        have distinct := (split.map QueueItem.msgId).nodup_iff.mpr inOrder.booked.distinct
        exact absurd (same ▸ List.mem_map_of_mem member) (List.nodup_cons.mp distinct).1
      | inr behind => exact ordered.1 _ behind item queued other otherQueued rfl rfl
    · exact inOrder.inFront item queued flying other otherQueued otherFlying
  obtain ⟨rest, popped⟩ := popMax_of_first split first
  exact ⟨item, rest, rfl, flying, popped⟩

theorem acceptsNext (inOrder : state.InOrder) : state.AcceptsNext := by
  intro msgId later sent serverMessage named
  obtain ⟨item, rest, rfl, flying, popped⟩ := inOrder.popMax_sent sent
  simp [CollabSink.validateResponse, named, flying, popped]

/-- The same items or fewer in any layout: all flying ones of them still fly, or none does. -/
theorem weaken {sink : CollabSink} (inOrder : state.InOrder) (booked : sink.Booked)
    (queue : sink.messageQueue.Subperm state.sink.messageQueue)
    (flying : sink.flyingMessages ⊆ state.sink.flyingMessages)
    (landed : sink.flyingMessages = ∅ ∨
      ∀ item ∈ sink.messageQueue, item.msgId ∈ state.sink.flyingMessages → item.msgId ∈ sink.flyingMessages)
    (sending : sink.flyingMessages = ∅ ∨ sink.sending = none ∨ sink.sending = state.sink.sending) :
    InOrder ⟨sink, state.sent.filter (· ∈ sink.flyingMessages)⟩ := by
  have kept := queue.subset
  refine ⟨booked, ?_, ?_, ?_, ?_, ?_⟩
  · obtain ⟨layout, permuted, part⟩ := queue
    exact Untied.of_perm (inOrder.untied.sublist part) permuted.symm
  · intro msgId
    simp only [List.mem_filter, decide_eq_true_eq]
    exact ⟨fun now => ⟨(inOrder.flying msgId).mp (flying now), now⟩, fun both => both.2⟩
  · intro item member itemFlying other otherMember notFlying
    refine inOrder.inFront item (kept member) (flying itemFlying) other (kept otherMember) ?_
    cases landed with
    | inl none =>
      rw [none] at itemFlying
      exact absurd itemFlying (Finset.notMem_empty _)
    | inr landed => exact fun before => notFlying (landed other otherMember before)
  · refine (inOrder.ordered.sublist List.filter_sublist).imp ?_
    intro earlier later apart item member other otherMember
    exact apart item (kept member) other (kept otherMember)
  · intro msgIds busy msgId member
    simp only [List.mem_filter, decide_eq_true_eq] at member
    rcases sending with none | idle | same
    · rw [none] at member
      exact absurd member.2 (Finset.notMem_empty _)
    · rw [idle] at busy
      cases busy
    · exact inOrder.sending msgIds (same ▸ busy) msgId member.1

theorem pushMsg (inOrder : state.InOrder) {msg : ClientCollabMessage} (room : state.sink.msgIdCounter + 1 < 2 ^ 64)
    (behind : state.sink.Behind msg) : InOrder ⟨state.sink.pushMsg msg, state.sent⟩ := by
  -- the new id is not flying
  have notFlying : state.sink.msgIdCounter ∉ state.sink.flyingMessages := by
    intro flying
    obtain ⟨item, queued, same⟩ := inOrder.booked.flyingQueued _ flying
    exact absurd (inOrder.booked.usedId item queued) (same ▸ Nat.lt_irrefl _)
  refine ⟨inOrder.booked.pushMsg msg room, ?_, inOrder.flying, ?_, ?_, inOrder.sending⟩
  · refine List.pairwise_cons.mpr ⟨?_, inOrder.untied⟩
    intro item member tied
    have order := behind item member
    rw [Std.OrientedCmp.eq_symm tied] at order
    cases order with
    | inl greater => cases greater
    | inr held =>
      obtain ⟨less, _⟩ := held
      cases less
  · intro item member flying other otherMember otherNotFlying
    cases List.mem_cons.mp member with
    | inl equal =>
      obtain rfl := equal
      exact absurd flying notFlying
    | inr queued =>
      rcases List.mem_cons.mp otherMember with rfl | otherQueued
      · exact (behind item queued).resolve_right fun outranked => outranked.2 flying
      · exact inOrder.inFront item queued flying other otherQueued otherNotFlying
  · refine inOrder.ordered.imp_of_mem ?_
    intro earlier later earlierSent laterSent apart item member other otherMember named otherNamed
    cases List.mem_cons.mp member with
    | inl equal =>
      obtain rfl := equal
      subst named
      exact absurd ((inOrder.flying _).mpr earlierSent) notFlying
    | inr queued =>
      rcases List.mem_cons.mp otherMember with rfl | otherQueued
      · subst otherNamed
        exact absurd ((inOrder.flying _).mpr laterSent) notFlying
      · exact apart item queued other otherQueued named otherNamed

/-- The batch would be empty behind a flying item. -/
theorem landed_of_batch (inOrder : state.InOrder) (nonempty : state.sink.getNextBatchItem.1 ≠ []) :
    state.sent = [] ∧ state.sink.flyingMessages = ∅ := by
  cases sent : state.sent with
  | nil =>
    refine ⟨rfl, Finset.eq_empty_of_forall_notMem fun msgId flying => ?_⟩
    have before := (inOrder.flying msgId).mp flying
    rw [sent] at before
    cases before
  | cons msgId later =>
    obtain ⟨item, rest, rfl, itemFlying, popped⟩ := inOrder.popMax_sent sent
    obtain ⟨behind, batched, batch⟩ := state.sink.getNextBatchItem_popped
    cases items : state.sink.getNextBatchItem.1 with
    | nil => exact absurd items nonempty
    | cons first others =>
      -- the batch would begin with the flying item
      rw [items] at batched batch
      obtain ⟨_, top⟩ := batched.top
      cases popped.symm.trans top
      exact absurd itemFlying (batch.unsent item (.head _))

/-- A batch is handed over only while nothing is flying, and it goes down in priority. -/
theorem processNextMsg (inOrder : state.InOrder) (locksFree : Bool) :
    let result := state.sink.processNextMsg locksFree
    InOrder ⟨result.2, (state.sent ++ result.1.map ClientCollabMessage.msgId).filter
      (· ∈ result.2.flyingMessages)⟩ := by
  have booked := inOrder.booked.processNextMsg locksFree
  have queue := state.sink.processNextMsg_perm locksFree
  rcases state.sink.processNextMsg_cases locksFree with ⟨nothing, flying, sending⟩ |
    ⟨nonempty, handed, _, sending, flying⟩
  · simp only [nothing, List.map_nil, List.append_nil]
    exact inOrder.weaken booked queue.subperm flying.subset (.inr fun item _ before => flying ▸ before)
      (.inr (.inr sending))
  obtain ⟨landed, noneFlying⟩ := inOrder.landed_of_batch nonempty
  obtain ⟨behind, batched, _⟩ := state.sink.getNextBatchItem_popped
  obtain ⟨descends, _, above⟩ := List.pairwise_append.mp (inOrder.untied.popped_gt batched)
  have covers : ∀ item ∈ state.sink.getNextBatchItem.1, ∀ other ∈ state.sink.messageQueue,
      other ∈ state.sink.getNextBatchItem.1 ∨ QueueItem.cmp item other = .gt := by
    intro item inside other member
    have permuted := batched.perm
    rw [List.append_nil] at permuted
    exact (List.mem_append.mp (permuted.symm.subset member)).imp_right (above item inside other)
  have taken := state.sink.getNextBatchItem_subset
  have ids : (state.sink.processNextMsg locksFree).1.map ClientCollabMessage.msgId =
      state.sink.getNextBatchItem.1.map QueueItem.msgId := by
    rw [handed, List.map_map]
    exact List.map_congr_left fun item member => inOrder.booked.ownId item (taken member)
  rw [noneFlying, Finset.empty_union] at flying
  have flyingIff : ∀ msgId, msgId ∈ (state.sink.processNextMsg locksFree).2.flyingMessages ↔
      msgId ∈ state.sink.getNextBatchItem.1.map QueueItem.msgId := by
    intro msgId
    rw [flying, List.mem_toFinset]
  simp only [landed, List.nil_append, ids]
  have all : (state.sink.getNextBatchItem.1.map QueueItem.msgId).filter
      (· ∈ (state.sink.processNextMsg locksFree).2.flyingMessages) =
      state.sink.getNextBatchItem.1.map QueueItem.msgId :=
    List.filter_eq_self.mpr fun msgId member => decide_eq_true ((flyingIff msgId).mpr member)
  rw [all]
  -- an item of the queue with a flying id is in the batch
  have inBatch : ∀ item ∈ state.sink.messageQueue, item.msgId ∈ state.sink.getNextBatchItem.1.map QueueItem.msgId →
      item ∈ state.sink.getNextBatchItem.1 := by
    intro item member named
    obtain ⟨other, otherTaken, same⟩ := List.mem_map.mp named
    rw [← inOrder.sameItem (taken otherTaken) member same]
    exact otherTaken
  refine ⟨booked, inOrder.untied.of_perm queue, flyingIff, ?_, ?_, ?_⟩
  · intro item member itemFlying other otherMember otherLanded
    have itemTaken := inBatch item (queue.subset member) ((flyingIff _).mp itemFlying)
    refine (covers item itemTaken other (queue.subset otherMember)).resolve_left fun otherTaken => ?_
    exact otherLanded ((flyingIff _).mpr (List.mem_map_of_mem otherTaken))
  · refine List.pairwise_map.mpr (descends.imp_of_mem ?_)
    intro first second firstTaken secondTaken apart item member other otherMember named otherNamed
    rw [inOrder.sameItem (queue.subset member) (taken firstTaken) named,
      inOrder.sameItem (queue.subset otherMember) (taken secondTaken) otherNamed]
    exact apart
  · intro msgIds busy msgId member
    rw [sending] at busy
    cases busy
    exact member

variable {Op StateVector AwarenessUpdate : Type} [DecidableEq Op]
variable (yrs : Yrs Op StateVector AwarenessUpdate) (config : SinkConfig)

/-- A merged item takes the place of the first item of its group. -/
theorem merge (inOrder : state.InOrder) (locksFree : Bool) :
    InOrder ⟨state.sink.merge yrs config locksFree, state.sent⟩ := by
  refine ⟨inOrder.booked.merge yrs config locksFree, ?_, inOrder.flying, ?_, ?_, inOrder.sending⟩
  · have firsts : Untied ((mergeGroups yrs state.sink.flyingMessages config locksFree
        state.sink.messageQueue).map MergeGroup.first) :=
      (inOrder.untied.of_perm (mergeGroups_members yrs _ config locksFree _)).sublist (sublist_flatMap_members _)
    rw [CollabSink.merge, ← mergeGroups_items]
    refine List.pairwise_map.mpr ((List.pairwise_map.mp firsts).imp_of_mem ?_)
    intro left right leftMember rightMember apart
    rw [(mergeGroups_result yrs left leftMember).cmp (mergeGroups_result yrs right rightMember)]
    exact apart
  · intro item member flying other otherMember notFlying
    obtain ⟨left, rfl, leftResult, leftQueued⟩ := mem_merge yrs _ config member
    obtain ⟨right, rfl, rightResult, rightQueued⟩ := mem_merge yrs _ config otherMember
    rw [leftResult.cmp rightResult]
    rw [leftResult.sameId] at flying
    rw [rightResult.sameId] at notFlying
    exact inOrder.inFront left.first (leftQueued (.head _)) flying right.first (rightQueued (.head _)) notFlying
  · refine inOrder.ordered.imp ?_
    intro earlier later apart item member other otherMember named otherNamed
    obtain ⟨left, rfl, leftResult, leftQueued⟩ := mem_merge yrs _ config member
    obtain ⟨right, rfl, rightResult, rightQueued⟩ := mem_merge yrs _ config otherMember
    rw [leftResult.cmp rightResult]
    exact apart left.first (leftQueued (.head _)) right.first (rightQueued (.head _))
      (leftResult.sameId.symm.trans named) (rightResult.sameId.symm.trans otherNamed)

theorem filter_sent (inOrder : state.InOrder) :
    state.sent.filter (· ∈ state.sink.flyingMessages) = state.sent :=
  List.filter_eq_self.mpr fun msgId member => decide_eq_true ((inOrder.flying msgId).mpr member)

theorem clear (inOrder : state.InOrder) {queueFree flyingFree : Bool}
    (together : queueFree = true → flyingFree = true ∨ state.sink.flyingMessages = ∅) :
    InOrder ⟨state.sink.clear queueFree flyingFree,
      state.sent.filter (· ∈ (state.sink.clear queueFree flyingFree).flyingMessages)⟩ := by
  have booked := inOrder.booked.clear together
  have queue : (state.sink.clear queueFree flyingFree).messageQueue.Subperm state.sink.messageQueue := by
    cases queueFree with
    | true => exact List.nil_subperm
    | false => exact List.Subperm.refl _
  cases flyingFree with
  | true => exact inOrder.weaken booked queue (Finset.empty_subset _) (.inl rfl) (.inl rfl)
  | false =>
    exact inOrder.weaken booked queue (Finset.Subset.refl _) (.inr fun _ _ before => before) (.inr (.inr rfl))

theorem sendFinished (inOrder : state.InOrder) (success : Bool) :
    InOrder ⟨state.sink.sendFinished success,
      state.sent.filter (· ∈ (state.sink.sendFinished success).flyingMessages)⟩ := by
  have booked := inOrder.booked.sendFinished success
  have queue : (state.sink.sendFinished success).messageQueue.Subperm state.sink.messageQueue := by
    rw [CollabSink.sendFinished_messageQueue]
  cases busy : state.sink.sending with
  | none =>
    have same : state.sink.sendFinished success = state.sink := by rw [CollabSink.sendFinished, busy]
    rw [same, inOrder.filter_sent]
    exact inOrder
  | some msgIds =>
    cases success with
    | true =>
      have flying : (state.sink.sendFinished true).flyingMessages = state.sink.flyingMessages := by
        simp [CollabSink.sendFinished, busy]
      exact inOrder.weaken booked queue flying.subset (.inr fun _ _ before => flying ▸ before)
        (.inr (.inl (by simp [CollabSink.sendFinished, busy])))
    | false =>
      -- all that flies was in the batch that failed
      have flying : (state.sink.sendFinished false).flyingMessages = ∅ := by
        simp only [CollabSink.sendFinished, busy, Bool.false_eq_true, if_false, CollabSink.retain]
        refine Finset.sdiff_eq_empty_iff_subset.mpr fun msgId before => ?_
        exact List.mem_toFinset.mpr (inOrder.sending msgIds busy msgId ((inOrder.flying msgId).mp before))
      exact inOrder.weaken booked queue (flying ▸ Finset.empty_subset _) (.inl flying) (.inl flying)

theorem validateResponse (inOrder : state.InOrder) (serverMessage : ServerCollabMessage) :
    InOrder ⟨(state.sink.validateResponse serverMessage).2,
      state.sent.filter (· ∈ (state.sink.validateResponse serverMessage).2.flyingMessages)⟩ := by
  have booked := inOrder.booked.validateResponse serverMessage
  have sending := state.sink.validateResponse_sending serverMessage
  rcases state.sink.validateResponse_outcome serverMessage with ⟨_, same⟩ | ⟨_, queue, flying⟩ |
    ⟨item, rest, _, _, popped, _, queue, flying⟩
  · rw [same, inOrder.filter_sent]
    exact inOrder
  · exact inOrder.weaken booked queue.subperm flying.subset (.inr fun _ _ before => flying ▸ before)
      (.inr (.inr sending))
  · have split := popMax_perm popped
    refine inOrder.weaken booked ?_ (flying ▸ Finset.erase_subset _ _) (.inr ?_) (.inr (.inr sending))
    · rw [queue]
      exact (List.sublist_cons_self item rest).subperm.trans split.subperm
    · intro other member before
      rw [queue] at member
      have distinct := (split.map QueueItem.msgId).nodup_iff.mpr inOrder.booked.distinct
      have apart : other.msgId ≠ item.msgId := by
        intro same
        exact (List.nodup_cons.mp distinct).1 (same ▸ List.mem_map_of_mem member)
      rw [flying]
      exact Finset.mem_erase.mpr ⟨apart, before⟩

theorem relayout (inOrder : state.InOrder) (layout : List QueueItem) :
    InOrder ⟨state.sink.relayout layout,
      state.sent.filter (· ∈ (state.sink.relayout layout).flyingMessages)⟩ := by
  have booked := inOrder.booked.relayout layout
  rw [CollabSink.relayout] at booked ⊢
  split
  · rename_i permuted
    rw [if_pos permuted] at booked
    exact inOrder.weaken booked (List.isPerm_iff.mp permuted).subperm (Finset.Subset.refl _)
      (.inr fun _ _ before => before) (.inr (.inr rfl))
  · rw [inOrder.filter_sent]
    exact inOrder

theorem step (inOrder : state.InOrder) {event : SinkEvent} (keeps : KeepsOrder state event) :
    (state.step yrs config event).InOrder := by
  -- all events but one hand nothing to the sender
  have silent {event : SinkEvent} {sink : CollabSink} (nothing : state.sink.step yrs config event = ([], sink))
      (after : InOrder ⟨sink, state.sent.filter (· ∈ sink.flyingMessages)⟩) :
      (state.step yrs config event).InOrder := by
    rw [SinkFlight.step, nothing]
    simp only [List.map_nil, List.append_nil]
    exact after
  have unchanged {sink : CollabSink} (after : InOrder ⟨sink, state.sent⟩) :
      InOrder ⟨sink, state.sent.filter (· ∈ sink.flyingMessages)⟩ := by
    have same := after.filter_sent
    rw [← same] at after
    exact after
  cases event with
  | queueMsg msg => exact silent rfl (unchanged (inOrder.pushMsg keeps.1 keeps.2))
  | merge locksFree => exact silent rfl (unchanged (inOrder.merge yrs config locksFree))
  | queueInitSync msg queueFree flyingFree =>
    exact silent rfl ((inOrder.clear keeps.2.2).pushMsg keeps.1 keeps.2.1)
  | relayout layout => exact silent rfl (inOrder.relayout layout)
  | processNextMsg locksFree => exact inOrder.processNextMsg locksFree
  | sendFinished success => exact silent rfl (inOrder.sendFinished success)
  | tick =>
    exact silent rfl
      (inOrder.weaken inOrder.booked.tick (List.Subperm.refl _) (Finset.empty_subset _) (.inl rfl) (.inl rfl))
  | setPause pause =>
    exact silent rfl
      (inOrder.weaken (inOrder.booked.setPause pause) (List.Subperm.refl _) (Finset.Subset.refl _)
        (.inr fun _ _ before => before) (.inr (.inr rfl)))
  | transmit | acknowledge =>
    exact silent rfl
      (inOrder.weaken inOrder.booked (List.Subperm.refl _) (Finset.Subset.refl _)
        (.inr fun _ _ before => before) (.inr (.inr rfl)))
  | validateResponse serverMessage => exact silent rfl (inOrder.validateResponse serverMessage)

end SinkFlight.InOrder

section

variable {Op StateVector AwarenessUpdate : Type} [DecidableEq Op]
variable (yrs : Yrs Op StateVector AwarenessUpdate) (config : SinkConfig)

/-- In every run in which what is queued comes behind the flying messages, the acks that come
    in sending order are accepted. -/
theorem acks_accepted_in_order (pause : Bool) (events : List SinkEvent)
    (keeps : Always (SinkFlight.step yrs config) KeepsOrder (.new pause) events) :
    (run (SinkFlight.step yrs config) (.new pause) events).AcceptsNext := by
  have preserved (state : SinkFlight) (event : SinkEvent) (inOrder : state.InOrder)
      (keeps : KeepsOrder state event) : (state.step yrs config event).InOrder := inOrder.step yrs config keeps
  exact (Always.invariant preserved (.new pause) keeps).acceptsNext

end

theorem acks_accepted_in_order_typing :
    (run (SinkFlight.step (UpdateTable.yrs typedUpdates) .default) (.new false)
      [.queueMsg typeA, .processNextMsg true, .queueMsg typeB, .merge true]).AcceptsNext :=
  acks_accepted_in_order (UpdateTable.yrs typedUpdates) .default false _
    ⟨⟨by decide, by decide⟩, trivial, ⟨by decide, by decide⟩, trivial, trivial⟩

/-- While the edit `a` is flying, the reply to the first sync step of the server is queued. -/
def replyBehindEdit : List SinkEvent :=
  [.queueMsg typeA, .merge true, .processNextMsg true, .sendFinished true,
    .queueMsg (.serverInitSync ⟨.client 1 "device", "object", 1, [0, 1, 11, 1, 1, 1, 0, 4, 1, 1, 116, 1, 97, 0]⟩),
    .merge true]

/-- The reply is the first item now, and the ack of the edit is refused. -/
theorem reply_blocks_ack :
    ¬ ∀ events, (run (SinkFlight.step (UpdateTable.yrs typedUpdates) .default) (.new false) events).AcceptsNext := by
  intro accepts
  have sent : (run (SinkFlight.step (UpdateTable.yrs typedUpdates) .default) (.new false) replyBehindEdit).sent =
    [0] := by decide
  have accepted := accepts replyBehindEdit 0 [] sent (ackOf 0) rfl
  revert accepted
  decide

end FlowCloud.Client
