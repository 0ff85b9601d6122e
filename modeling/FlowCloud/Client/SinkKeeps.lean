import FlowCloud.Client.SinkRun

/-! # What the sink keeps

Init syncs and server inits come out of the queue before everything else and are never
folded into another message.  So each operation of the sink keeps them, but for a clear and
for the response that takes an item out.
-/

namespace FlowCloud.Client

open FlowCloud.Foundation FlowCloud.Entity FlowCloud.Protocol

/-! ## Ranks -/

/-- Init syncs first, then server inits, then the rest. -/
def syncRank : ClientCollabMessage → Nat
  | .clientInitSync _ => 2
  | .serverInitSync _ => 1
  | _ => 0

def QueueItem.syncRank (item : QueueItem) : Nat := Client.syncRank item.inner

theorem cmp_syncRank : RanksBy QueueItem.cmp QueueItem.syncRank where
  above := by
    rintro ⟨left, _⟩ ⟨right, _⟩ greater
    cases left <;> cases right <;>
      simp_all [QueueItem.cmp, ClientCollabMessage.cmp, QueueItem.syncRank, syncRank]
  notAbove := by
    rintro ⟨left, _⟩ ⟨right, _⟩ notGreater
    cases left <;> cases right <;>
      simp_all [QueueItem.cmp, ClientCollabMessage.cmp, QueueItem.syncRank, syncRank]

theorem not_mergeable_of_rank {item : QueueItem} (ranked : 0 < item.syncRank) : item.inner.mergeable = false := by
  obtain ⟨inner, msgId⟩ := item
  cases inner with
  | clientInitSync | serverInitSync => rfl
  | clientUpdateSync | clientAwarenessSync => exact absurd ranked (Nat.lt_irrefl 0)

/-! ## The merge -/

section Merge

variable {Op StateVector AwarenessUpdate : Type} [DecidableEq Op]
variable (yrs : Yrs Op StateVector AwarenessUpdate) (flyingMessages : Finset MsgId) (config : SinkConfig)

theorem absorb_eq_none {last : QueueItem} (kind : last.inner.mergeable = false) (next : QueueItem) :
    absorb yrs flyingMessages config last next = none := by
  rw [absorb]
  split
  · rfl
  · rw [if_neg]
    rintro ⟨_, _, mergeable⟩
    rw [kind] at mergeable
    cases mergeable

theorem absorb_eq_none_of_flying {last next : QueueItem}
    (flying : last.msgId ∈ flyingMessages ∨ next.msgId ∈ flyingMessages) :
    absorb yrs flyingMessages config last next = none := by
  rw [absorb]
  split
  · rfl
  · rename_i notFlying
    rw [if_neg]
    rintro ⟨lastNotFlying, _⟩
    exact flying.elim lastNotFlying notFlying

theorem mergeNext_keeps {item : QueueItem} (kept : ∀ next, absorb yrs flyingMessages config item next = none)
    {items : List QueueItem} (member : item ∈ items) (next : QueueItem) :
    item ∈ mergeNext yrs flyingMessages config items next := by
  cases items with
  | nil => cases member
  | cons last earlier =>
    rw [mergeNext]
    cases List.mem_cons.mp member with
    | inl same =>
      obtain rfl := same
      rw [kept]
      exact .tail _ (.head _)
    | inr before =>
      cases absorb yrs flyingMessages config last next with
      | none => exact .tail _ member
      | some merged => exact .tail _ before

theorem foldl_mergeNext_keeps {item : QueueItem} (kept : ∀ next, absorb yrs flyingMessages config item next = none)
    {items : List QueueItem} (member : item ∈ items) (queue : List QueueItem) :
    item ∈ queue.foldl (mergeNext yrs flyingMessages config) items := by
  induction queue generalizing items with
  | nil => exact member
  | cons next queue inductionHypothesis =>
    exact inductionHypothesis (mergeNext_keeps yrs flyingMessages config kept member next)

theorem mergeNext_pushes {items : List QueueItem} (kinds : ∀ item ∈ items, item.inner.mergeable = false)
    (next : QueueItem) : mergeNext yrs flyingMessages config items next = next :: items := by
  cases items with
  | nil => rfl
  | cons last earlier =>
    rw [mergeNext, absorb_eq_none yrs flyingMessages config (kinds last (.head _))]

/-- As long as the queue goes down in rank, the syncs are over before the first merge. -/
theorem foldl_mergeNext_takes {item : QueueItem} (ranked : 0 < item.syncRank) {queue items : List QueueItem}
    (sorted : queue.Pairwise fun earlier later => later.syncRank ≤ earlier.syncRank)
    (kinds : ∀ item ∈ items, item.inner.mergeable = false) (member : item ∈ queue) :
    item ∈ queue.foldl (mergeNext yrs flyingMessages config) items := by
  induction queue generalizing items with
  | nil => cases member
  | cons next queue inductionHypothesis =>
    rw [List.foldl_cons, mergeNext_pushes yrs flyingMessages config kinds]
    obtain ⟨above, sorted⟩ := List.pairwise_cons.mp sorted
    cases List.mem_cons.mp member with
    | inl same =>
      obtain rfl := same
      exact foldl_mergeNext_keeps yrs flyingMessages config
        (absorb_eq_none yrs flyingMessages config (not_mergeable_of_rank ranked)) (.head _) queue
    | inr later =>
      -- what comes before a sync is a sync
      have nextKind := not_mergeable_of_rank (Nat.lt_of_lt_of_le ranked (above item later))
      exact inductionHypothesis sorted (List.forall_mem_cons.mpr ⟨nextKind, kinds⟩) later

theorem merge_keeps {item : QueueItem} (ranked : 0 < item.syncRank) {queue : List QueueItem} (member : item ∈ queue)
    (locksFree : Bool) : item ∈ merge yrs flyingMessages config locksFree queue := by
  rw [merge]
  split
  · exact member
  · rw [List.mem_reverse]
    refine foldl_mergeNext_takes yrs flyingMessages config ranked (cmp_syncRank.drain_pairwise queue)
      (List.forall_mem_nil _) ?_
    exact (drain_perm queue).symm.subset member

theorem merge_keeps_flying {item : QueueItem} (flying : item.msgId ∈ flyingMessages) {queue : List QueueItem}
    (member : item ∈ queue) (locksFree : Bool) : item ∈ merge yrs flyingMessages config locksFree queue := by
  have folded : ∀ (queue items : List QueueItem), item ∈ queue →
      item ∈ queue.foldl (mergeNext yrs flyingMessages config) items := by
    intro queue
    induction queue with
    | nil =>
      intro items member
      cases member
    | cons next queue inductionHypothesis =>
      intro items member
      rw [List.foldl_cons]
      cases List.mem_cons.mp member with
      | inl same =>
        obtain rfl := same
        -- it is pushed, and nothing is folded into it afterwards
        have pushed : item ∈ mergeNext yrs flyingMessages config items item := by
          cases items with
          | nil => exact .head _
          | cons last earlier =>
            rw [mergeNext, absorb_eq_none_of_flying yrs flyingMessages config (.inr flying)]
            exact .head _
        exact foldl_mergeNext_keeps yrs flyingMessages config
          (fun _ => absorb_eq_none_of_flying yrs flyingMessages config (.inl flying)) pushed queue
      | inr later => exact inductionHypothesis _ later
  rw [merge]
  split
  · exact member
  · rw [List.mem_reverse]
    exact folded _ [] ((drain_perm queue).symm.subset member)

/-- An item of the merged queue answers for items of the queue before. -/
theorem mem_merge {item : QueueItem} {queue : List QueueItem} {locksFree : Bool}
    (member : item ∈ merge yrs flyingMessages config locksFree queue) :
    ∃ group : MergeGroup, group.item = item ∧ group.Result yrs ∧ group.members ⊆ queue := by
  rw [← mergeGroups_items] at member
  obtain ⟨group, inside, rfl⟩ := List.mem_map.mp member
  refine ⟨group, rfl, mergeGroups_result yrs group inside, ?_⟩
  intro part partMember
  exact (mergeGroups_members yrs flyingMessages config locksFree queue).subset
    (List.mem_flatMap.mpr ⟨group, inside, partMember⟩)

theorem syncRank_of_merges {group : MergeGroup} (result : group.Result yrs) (merges : group.Merges yrs) :
    group.item.syncRank = 0 := by
  obtain ⟨data, inner, _⟩ := result.merged merges
  have starts := merges.1
  rw [QueueItem.syncRank, inner]
  cases kind : group.first.inner with
  | clientUpdateSync sync => rfl
  | clientInitSync | serverInitSync | clientAwarenessSync => rw [kind] at starts; cases starts

theorem mem_of_mem_merge {item : QueueItem} (ranked : 0 < item.syncRank) {queue : List QueueItem} {locksFree : Bool}
    (member : item ∈ merge yrs flyingMessages config locksFree queue) : item ∈ queue := by
  obtain ⟨group, rfl, result, members⟩ := mem_merge yrs flyingMessages config member
  have untouched : ¬ group.Merges yrs := by
    intro merges
    rw [syncRank_of_merges yrs result merges] at ranked
    exact Nat.lt_irrefl 0 ranked
  have first : group.item = group.first := congrArg₂ QueueItem.mk (result.unmerged untouched) result.sameId
  rw [first]
  exact members (.head _)

theorem merge_posted_syncs {queue : List QueueItem} {transmitted : List ClientCollabMessage} {nextId : MsgId}
    {locksFree : Bool} (posted : Posted (0 < ·.syncRank) queue transmitted nextId) :
    Posted (0 < ·.syncRank) (merge yrs flyingMessages config locksFree queue) transmitted nextId := by
  refine posted.merge yrs config ?_
  intro group inside ranked merges
  rw [syncRank_of_merges yrs (mergeGroups_result yrs group inside) merges] at ranked
  exact absurd ranked (Nat.lt_irrefl 0)

/-! ## What the merged queue carries -/

theorem updateOps_subset_carriedOps {messages : List (Message StateVector AwarenessUpdate)}
    {msg : Message StateVector AwarenessUpdate} {data : Bytes} (member : msg ∈ messages)
    (carried : msg.carriedUpdate = some data) : updateOps yrs data ⊆ carriedOps yrs messages := by
  induction messages with
  | nil => cases member
  | cons head messages inductionHypothesis =>
    rw [carriedOps, collectOps]
    cases List.mem_cons.mp member with
    | inl same =>
      obtain rfl := same
      rw [carried]
      exact Finset.subset_union_left
    | inr later =>
      cases head.carriedUpdate with
      | none => exact inductionHypothesis later
      | some other => exact Finset.Subset.trans (inductionHypothesis later) Finset.subset_union_right

theorem updateOps_of_startingUpdate {item : QueueItem} {data : Bytes}
    (starts : item.inner.startingUpdate yrs = some data) :
    updateOps yrs data ⊆ carriedOps yrs (item.messages yrs) := by
  obtain ⟨inner, msgId⟩ := item
  cases inner with
  | clientInitSync | serverInitSync | clientAwarenessSync => cases starts
  | clientUpdateSync sync =>
    rw [ClientCollabMessage.startingUpdate, firstUpdate] at starts
    split at starts
    · rename_i first
      cases starts
      rw [asUpdate] at first
      split at first
      · rename_i msg rest next
        cases first
        have member : .sync (.update data) ∈ QueueItem.messages yrs ⟨.clientUpdateSync sync, msgId⟩ := by
          rw [QueueItem.messages, ClientCollabMessage.payload, MessageReader.read_unfold, next]
          exact .head _
        exact updateOps_subset_carriedOps yrs member rfl
      · cases first
    · cases starts

theorem startingOps_subset {items : List QueueItem} {ops : Finset Op}
    (within : ∀ item ∈ items, carriedOps yrs (item.messages yrs) ⊆ ops) : startingOps yrs items ⊆ ops := by
  induction items with
  | nil => exact Finset.empty_subset _
  | cons item items inductionHypothesis =>
    rw [List.forall_mem_cons] at within
    rw [startingOps, collectOps]
    cases starts : item.inner.startingUpdate yrs with
    | none => exact inductionHypothesis within.2
    | some data =>
      have first := Finset.Subset.trans (updateOps_of_startingUpdate yrs starts) within.1
      exact Finset.union_subset first (inductionHypothesis within.2)

theorem merge_within {queue : List QueueItem} {ops : Finset Op} {locksFree : Bool}
    (within : ∀ item ∈ queue, carriedOps yrs (item.messages yrs) ⊆ ops) :
    ∀ item ∈ merge yrs flyingMessages config locksFree queue, carriedOps yrs (item.messages yrs) ⊆ ops := by
  intro item member
  obtain ⟨group, rfl, result, members⟩ := mem_merge yrs flyingMessages config member
  cases Decidable.em (group.Merges yrs) with
  | inl merges =>
    obtain ⟨data, inner, decoded⟩ := result.merged merges
    -- one update with what the items of the group start with
    have carried : carriedOps yrs (group.item.messages yrs) = startingOps yrs group.members := by
      rw [QueueItem.messages, inner, payload_withUpdate yrs merges.1, read_updatePayload]
      simp [carriedOps, collectOps, Message.carriedUpdate, updateOps, decoded]
    rw [carried]
    exact startingOps_subset yrs fun part inside => within part (members inside)
  | inr untouched =>
    rw [QueueItem.messages, result.unmerged untouched]
    exact within group.first (members (.head _))

end Merge

end FlowCloud.Client
