import FlowCloud.Foundation.PriorityQueue
import FlowCloud.Entity.Merge

/-! # Merging the queue of the client sink

`CollabSink::merge` drains the queue and folds each item into the one before it where the
flying set, the size and the kind of that one allow it.  The model also keeps which items
were folded together, so that what became of each can be stated; the last section says for
which groups of items nothing is lost.
-/

namespace FlowCloud.Client

open FlowCloud.Foundation FlowCloud.Entity FlowCloud.Protocol

/-! ## The queue -/

structure QueueItem where
  inner : ClientCollabMessage
  msgId : MsgId
  deriving DecidableEq, Repr

def QueueItem.cmp (left right : QueueItem) : Ordering := left.inner.cmp right.inner

structure SinkConfig where
  maximumPayloadSize : Nat
  disableMergeMessage : Bool
  deriving DecidableEq, Repr

def SinkConfig.default : SinkConfig := ⟨1024 * 10, false⟩

variable {Op StateVector AwarenessUpdate : Type} [DecidableEq Op]

section Merge

variable (yrs : Yrs Op StateVector AwarenessUpdate) (flyingMessages : Finset MsgId) (config : SinkConfig)

def QueueItem.merge (self other : QueueItem) : Except ReadError (Bool × QueueItem) := do
  -- whether anything was merged is returned, and no caller asks
  let merged ← self.inner.merge yrs other.inner config.maximumPayloadSize
  return (merged.1, { self with inner := merged.2 })

/-- The last item after it took in the next one; none if the next one is kept on its own.
    A merge that succeeds without merging counts as well, since only `is_ok` is asked. -/
def absorb (last next : QueueItem) : Option QueueItem :=
  if next.msgId ∈ flyingMessages then none
  else if last.msgId ∉ flyingMessages ∧ last.inner.payloadSize < config.maximumPayloadSize ∧
      last.inner.mergeable = true then
    match last.merge yrs config next with
    | .ok (_, merged) => some merged
    -- only a failed merge keeps the next item
    | .error _ => none
  else none

/-- One turn of the loop; `items` has the last item first. -/
def mergeNext (items : List QueueItem) (next : QueueItem) : List QueueItem :=
  match items with
  | [] => [next]
  | last :: earlier =>
    match absorb yrs flyingMessages config last next with
    | some merged => merged :: earlier
    | none => next :: last :: earlier

/-- `CollabSink::merge`: the queue afterwards.  It does nothing when merging is switched off
    or one of its locks is taken. -/
def merge (locksFree : Bool) (queue : List QueueItem) : List QueueItem :=
  if config.disableMergeMessage || !locksFree then queue
  else ((drain QueueItem.cmp queue).foldl (mergeNext yrs flyingMessages config) []).reverse

/-! ## Which items were folded together -/

/-- An item of the merged queue with the items it was made of. -/
structure MergeGroup where
  item : QueueItem
  first : QueueItem
  absorbed : List QueueItem

def MergeGroup.single (item : QueueItem) : MergeGroup := ⟨item, item, []⟩

def MergeGroup.members (group : MergeGroup) : List QueueItem := group.first :: group.absorbed

def groupNext (groups : List MergeGroup) (next : QueueItem) : List MergeGroup :=
  match groups with
  | [] => [.single next]
  | group :: earlier =>
    match absorb yrs flyingMessages config group.item next with
    | some merged => ⟨merged, group.first, group.absorbed ++ [next]⟩ :: earlier
    | none => .single next :: group :: earlier

def mergeGroups (locksFree : Bool) (queue : List QueueItem) : List MergeGroup :=
  if config.disableMergeMessage || !locksFree then queue.map .single
  else ((drain QueueItem.cmp queue).foldl (groupNext yrs flyingMessages config) []).reverse

theorem groupNext_items (groups : List MergeGroup) (next : QueueItem) :
    (groupNext yrs flyingMessages config groups next).map MergeGroup.item =
      mergeNext yrs flyingMessages config (groups.map MergeGroup.item) next := by
  cases groups with
  | nil => rfl
  | cons group earlier =>
    simp only [groupNext, mergeNext, List.map_cons]
    cases absorb yrs flyingMessages config group.item next <;> simp [MergeGroup.single]

theorem foldl_groupNext_items (items : List QueueItem) (groups : List MergeGroup) :
    (items.foldl (groupNext yrs flyingMessages config) groups).map MergeGroup.item =
      items.foldl (mergeNext yrs flyingMessages config) (groups.map MergeGroup.item) := by
  induction items generalizing groups with
  | nil => rfl
  | cons next items inductionHypothesis =>
    rw [List.foldl_cons, List.foldl_cons, inductionHypothesis, groupNext_items]

theorem mergeGroups_items (locksFree : Bool) (queue : List QueueItem) :
    (mergeGroups yrs flyingMessages config locksFree queue).map MergeGroup.item =
      merge yrs flyingMessages config locksFree queue := by
  rw [mergeGroups, merge]
  split
  · simp [MergeGroup.single, Function.comp_def]
  · rw [List.map_reverse, foldl_groupNext_items]
    rfl

theorem groupNext_members (groups : List MergeGroup) (next : QueueItem) :
    ((groupNext yrs flyingMessages config groups next).flatMap MergeGroup.members).Perm
      (next :: groups.flatMap MergeGroup.members) := by
  cases groups with
  | nil => simp [groupNext, MergeGroup.single, MergeGroup.members]
  | cons group earlier =>
    rw [groupNext]
    cases absorb yrs flyingMessages config group.item next with
    | none => simp [MergeGroup.single, MergeGroup.members]
    | some merged =>
      simp only [List.flatMap_cons, MergeGroup.members, List.cons_append, List.append_assoc, List.nil_append]
      have moved : (group.absorbed ++ next :: earlier.flatMap MergeGroup.members).Perm
          (next :: (group.absorbed ++ earlier.flatMap MergeGroup.members)) := List.perm_middle
      exact (moved.cons group.first).trans (.swap next group.first _)

theorem mergeGroups_members (locksFree : Bool) (queue : List QueueItem) :
    ((mergeGroups yrs flyingMessages config locksFree queue).flatMap MergeGroup.members).Perm queue := by
  -- by induction on the drained items, for any groups made so far
  have folded : ∀ (items : List QueueItem) (groups : List MergeGroup),
      ((items.foldl (groupNext yrs flyingMessages config) groups).flatMap MergeGroup.members).Perm
        (items ++ groups.flatMap MergeGroup.members) := by
    intro items
    induction items with
    | nil => exact fun groups => .refl _
    | cons next items inductionHypothesis =>
      intro groups
      rw [List.foldl_cons, List.cons_append]
      refine (inductionHypothesis _).trans ?_
      exact ((groupNext_members yrs flyingMessages config groups next).append_left items).trans List.perm_middle
  rw [mergeGroups]
  split
  · simp [List.flatMap_map, MergeGroup.single, MergeGroup.members]
  · refine ((List.reverse_perm _).flatMap_right _).trans ?_
    refine (folded _ []).trans ?_
    rw [List.flatMap_nil, List.append_nil]
    exact drain_perm queue

end Merge

/-! ## What a payload contains -/

section Contents

variable (yrs : Yrs Op StateVector AwarenessUpdate)

/-- The operations of an encoded update, none if it cannot be decoded. -/
def updateOps (data : Bytes) : Finset Op :=
  match yrs.decodeUpdate data with
  | .ok ops => ops
  | .error _ => ∅

def collectOps {Item : Type} (update : Item → Option Bytes) : List Item → Finset Op
  | [] => ∅
  | item :: later =>
    match update item with
    | some data => updateOps yrs data ∪ collectOps update later
    | none => collectOps update later

theorem collectOps_append {Item : Type} (update : Item → Option Bytes) (first second : List Item) :
    collectOps yrs update (first ++ second) = collectOps yrs update first ∪ collectOps yrs update second := by
  induction first with
  | nil => simp [collectOps]
  | cons item later inductionHypothesis =>
    simp only [List.cons_append, collectOps, inductionHypothesis]
    cases update item <;> simp

theorem collectOps_eq_empty {Item : Type} {update : Item → Option Bytes} {items : List Item}
    (none : ∀ item ∈ items, update item = none) : collectOps yrs update items = ∅ := by
  induction items with
  | nil => rfl
  | cons item later inductionHypothesis =>
    rw [List.forall_mem_cons] at none
    simp only [collectOps, none.1]
    exact inductionHypothesis none.2

def carriedOps (messages : List (Message StateVector AwarenessUpdate)) : Finset Op :=
  collectOps yrs Message.carriedUpdate messages

/-- The message carries an update with no operation outside the given ones. -/
def CarriesWithin (msg : Message StateVector AwarenessUpdate) (ops : Finset Op) : Prop :=
  ∃ data update, msg.carriedUpdate = some data ∧ yrs.decodeUpdate data = .ok update ∧ update ⊆ ops

/-- The message is one of the others, or an update their updates cover. -/
def ContainedIn (msg : Message StateVector AwarenessUpdate) (others : List (Message StateVector AwarenessUpdate)) :
    Prop :=
  msg ∈ others ∨ CarriesWithin yrs msg (carriedOps yrs others)

def QueueItem.messages (self : QueueItem) : List (Message StateVector AwarenessUpdate) :=
  (MessageReader.read yrs.codec self.inner.payload).messages

/-- The item is in the target as it was, or all its messages are. -/
def KeptIn (item target : QueueItem) : Prop :=
  (target.msgId = item.msgId ∧ target.inner.payload = item.inner.payload) ∨
    ∀ msg ∈ item.messages yrs, ContainedIn yrs msg (target.messages yrs)

/-- After the merge every item of the queue is kept in the item it was merged into. -/
def NothingLost (flyingMessages : Finset MsgId) (config : SinkConfig) (locksFree : Bool) (queue : List QueueItem) :
    Prop :=
  ∀ group ∈ mergeGroups yrs flyingMessages config locksFree queue, ∀ item ∈ group.members,
    KeptIn yrs item group.item

theorem keptIn_iff {item target : QueueItem} :
    KeptIn yrs item target ↔ ∀ msg ∈ item.messages yrs, ContainedIn yrs msg (target.messages yrs) := by
  refine ⟨?_, .inr⟩
  rintro (⟨_, samePayload⟩ | contained)
  · intro msg member
    rw [QueueItem.messages, ← samePayload] at member
    exact .inl member
  · exact contained

/-! ## What a group is merged into -/

/-- The operations of the updates that the items start with. -/
def startingOps (items : List QueueItem) : Finset Op :=
  collectOps yrs (fun item => item.inner.startingUpdate yrs) items

/-- Some absorbed item was really merged: it and the first item start with an update. -/
def MergeGroup.Merges (group : MergeGroup) : Prop :=
  (group.first.inner.startingUpdate yrs).isSome = true ∧
    ∃ item ∈ group.absorbed, (item.inner.startingUpdate yrs).isSome = true

instance (group : MergeGroup) : Decidable (group.Merges yrs) :=
  inferInstanceAs (Decidable (_ ∧ ∃ item ∈ group.absorbed, (item.inner.startingUpdate yrs).isSome = true))

/-- Nothing is lost in the group: where items are merged, all messages are updates within
    the ones the items start with; where none is, the first item has all messages already. -/
def MergeGroup.Lossless (group : MergeGroup) : Prop :=
  (group.Merges yrs → ∀ item ∈ group.members, ∀ msg ∈ item.messages yrs,
    CarriesWithin yrs msg (startingOps yrs group.members)) ∧
  (¬ group.Merges yrs → ∀ item ∈ group.absorbed, ∀ msg ∈ item.messages yrs,
    ContainedIn yrs msg (group.first.messages yrs))

/-- What the loop makes of a group: one update with the operations its items start with, or
    the first item as it was. -/
structure MergeGroup.Result (group : MergeGroup) : Prop where
  sameId : group.item.msgId = group.first.msgId
  merged : group.Merges yrs → ∃ data, group.item.inner = group.first.inner.withUpdate yrs data ∧
    yrs.decodeUpdate data = .ok (startingOps yrs group.members)
  unmerged : ¬ group.Merges yrs → group.item.inner = group.first.inner

theorem MergeGroup.single_result (item : QueueItem) : (MergeGroup.single item).Result yrs where
  sameId := rfl
  merged := by
    rintro ⟨_, _, member, _⟩
    cases member
  unmerged := fun _ => rfl

theorem startingUpdate_withUpdate {message : ClientCollabMessage}
    (starts : (message.startingUpdate yrs).isSome = true) (data : Bytes) :
    (message.withUpdate yrs data).startingUpdate yrs = some data := by
  cases message with
  | clientInitSync | serverInitSync | clientAwarenessSync => cases starts
  | clientUpdateSync sync => exact firstUpdate_updatePayload yrs data

theorem payload_withUpdate {message : ClientCollabMessage}
    (starts : (message.startingUpdate yrs).isSome = true) (data : Bytes) :
    (message.withUpdate yrs data).payload = updatePayload yrs data := by
  cases message with
  | clientInitSync | serverInitSync | clientAwarenessSync => cases starts
  | clientUpdateSync sync => rfl

theorem withUpdate_withUpdate (message : ClientCollabMessage) (first second : Bytes) :
    (message.withUpdate yrs first).withUpdate yrs second = message.withUpdate yrs second := by
  cases message <;> rfl

theorem absorb_cases {flyingMessages : Finset MsgId} {config : SinkConfig} {last next merged : QueueItem}
    (absorbed : absorb yrs flyingMessages config last next = some merged) :
    merged.msgId = last.msgId ∧
      match last.inner.startingUpdate yrs, next.inner.startingUpdate yrs with
      | some left, some right => ∃ update, yrs.mergeUpdates left right = .ok update ∧
          merged.inner = last.inner.withUpdate yrs update
      | _, _ => merged.inner = last.inner := by
  rw [absorb] at absorbed
  split at absorbed
  · cases absorbed
  split at absorbed
  · rename_i admitted
    have small : last.inner.payloadSize ≤ config.maximumPayloadSize := Nat.le_of_lt admitted.2.1
    rw [QueueItem.merge, ClientCollabMessage.merge_eq yrs next.inner small] at absorbed
    cases left : last.inner.startingUpdate yrs with
    | none =>
      simp only [left, bind, Except.bind, pure, Except.pure, Option.some.injEq] at absorbed
      subst absorbed
      exact ⟨rfl, rfl⟩
    | some leftData =>
      cases right : next.inner.startingUpdate yrs with
      | none =>
        simp only [left, right, bind, Except.bind, pure, Except.pure, Option.some.injEq] at absorbed
        subst absorbed
        exact ⟨rfl, rfl⟩
      | some rightData =>
        cases result : yrs.mergeUpdates leftData rightData with
        | error failure => simp [left, right, result, Except.map, bind, Except.bind] at absorbed
        | ok update =>
          simp only [left, right, result, Except.map, bind, Except.bind, pure, Except.pure,
            Option.some.injEq] at absorbed
          subst absorbed
          exact ⟨rfl, update, result, rfl⟩
  · cases absorbed

/-- When the first item starts with an update, so does what the group was made into, with the
    operations of all items so far. -/
theorem MergeGroup.Result.starting {group : MergeGroup} (result : group.Result yrs)
    (starts : (group.first.inner.startingUpdate yrs).isSome = true) :
    ∃ left, group.item.inner.startingUpdate yrs = some left ∧
      updateOps yrs left = startingOps yrs group.members ∧
      ∀ update, group.item.inner.withUpdate yrs update = group.first.inner.withUpdate yrs update := by
  by_cases merges : group.Merges yrs
  · obtain ⟨data, inner, decoded⟩ := result.merged merges
    refine ⟨data, ?_, ?_, ?_⟩
    · rw [inner]
      exact startingUpdate_withUpdate yrs starts data
    · rw [updateOps, decoded]
    · intro update
      rw [inner, withUpdate_withUpdate]
  · obtain ⟨left, first⟩ := Option.isSome_iff_exists.mp starts
    have others : ∀ item ∈ group.absorbed, item.inner.startingUpdate yrs = none := by
      intro item member
      by_contra some
      exact merges ⟨starts, item, member, Option.isSome_iff_ne_none.mpr some⟩
    refine ⟨left, ?_, ?_, ?_⟩
    · rw [result.unmerged merges, first]
    · -- the absorbed items add nothing
      simp [startingOps, MergeGroup.members, collectOps, first, collectOps_eq_empty yrs others]
    · intro update
      rw [result.unmerged merges]

theorem startingOps_absorbed (group : MergeGroup) (next merged : QueueItem) :
    startingOps yrs (MergeGroup.mk merged group.first (group.absorbed ++ [next])).members =
      startingOps yrs group.members ∪ startingOps yrs [next] :=
  collectOps_append yrs _ group.members [next]

/-- The group merges from now on if the new item is its first real partner. -/
theorem merges_absorbed (group : MergeGroup) (next merged : QueueItem) :
    (MergeGroup.mk merged group.first (group.absorbed ++ [next])).Merges yrs ↔
      group.Merges yrs ∨ ((group.first.inner.startingUpdate yrs).isSome = true ∧
        (next.inner.startingUpdate yrs).isSome = true) := by
  simp only [MergeGroup.Merges, List.mem_append, List.mem_singleton, or_and_right, exists_or,
    exists_eq_left, and_or_left]

/-- An item that makes the group neither merge nor change is dropped. -/
theorem MergeGroup.Result.dropped {group : MergeGroup} {next merged : QueueItem} (result : group.Result yrs)
    (sameId : merged.msgId = group.item.msgId) (unchanged : merged.inner = group.item.inner)
    (alone : (group.first.inner.startingUpdate yrs).isSome = true → next.inner.startingUpdate yrs = none) :
    (⟨merged, group.first, group.absorbed ++ [next]⟩ : MergeGroup).Result yrs := by
  have same : (MergeGroup.mk merged group.first (group.absorbed ++ [next])).Merges yrs ↔ group.Merges yrs := by
    rw [merges_absorbed]
    constructor
    · intro merges
      cases merges with
      | inl before => exact before
      | inr both =>
        rw [alone both.1] at both
        cases both.2
    · exact .inl
  constructor
  · exact sameId.trans result.sameId
  · intro now
    have before := same.mp now
    have nothing : startingOps yrs [next] = ∅ := by simp [startingOps, collectOps, alone before.1]
    rw [startingOps_absorbed, nothing, Finset.union_empty, unchanged]
    exact result.merged before
  · intro never
    rw [unchanged]
    exact result.unmerged (fun before => never (same.mpr before))

/-- Absorbing one more item keeps the account of the group right. -/
theorem MergeGroup.absorb_result {flyingMessages : Finset MsgId} {config : SinkConfig} {group : MergeGroup}
    {next merged : QueueItem} (result : group.Result yrs)
    (absorbed : absorb yrs flyingMessages config group.item next = some merged) :
    (⟨merged, group.first, group.absorbed ++ [next]⟩ : MergeGroup).Result yrs := by
  obtain ⟨sameId, inner⟩ := absorb_cases yrs absorbed
  cases right : next.inner.startingUpdate yrs with
  | none =>
    -- an item that does not start with an update is dropped
    apply result.dropped yrs sameId _ (fun _ => right)
    rw [right] at inner
    cases left : group.item.inner.startingUpdate yrs <;> simpa [left] using inner
  | some rightData =>
    cases first : group.first.inner.startingUpdate yrs with
    | none =>
      -- a first item without an update never takes anything in
      have never : ¬ group.Merges yrs := by
        intro merges
        rw [MergeGroup.Merges, first] at merges
        cases merges.1
      apply result.dropped yrs sameId _ (fun starts => by rw [first] at starts; cases starts)
      rw [result.unmerged never, first] at inner
      rw [result.unmerged never]
      exact inner
    | some firstData =>
      -- both start with an update: the merged one has the operations of both
      obtain ⟨left, itemStarts, leftOps, rebuilt⟩ := result.starting yrs (by rw [first]; rfl)
      rw [itemStarts, right] at inner
      obtain ⟨update, success, inner⟩ := inner
      obtain ⟨ops, nextOps, decodedLeft, decodedRight, decoded⟩ := yrs.merge_union _ _ _ success
      constructor
      · exact sameId.trans result.sameId
      · intro _
        refine ⟨update, ?_, ?_⟩
        · rw [inner, rebuilt]
        · rw [startingOps_absorbed, decoded, ← leftOps]
          simp [startingOps, collectOps, right, updateOps, decodedLeft, decodedRight]
      · intro never
        exact absurd ((merges_absorbed yrs group next merged).mpr (.inr (by simp [first, right]))) never

theorem groupNext_result {flyingMessages : Finset MsgId} {config : SinkConfig} {groups : List MergeGroup}
    (results : ∀ group ∈ groups, group.Result yrs) (next : QueueItem) :
    ∀ group ∈ groupNext yrs flyingMessages config groups next, group.Result yrs := by
  cases groups with
  | nil =>
    intro group member
    obtain rfl := List.mem_singleton.mp member
    exact MergeGroup.single_result yrs next
  | cons last earlier =>
    rw [List.forall_mem_cons] at results
    rw [groupNext]
    cases absorbed : absorb yrs flyingMessages config last.item next with
    | none => exact List.forall_mem_cons.mpr ⟨MergeGroup.single_result yrs next, List.forall_mem_cons.mpr results⟩
    | some merged => exact List.forall_mem_cons.mpr ⟨MergeGroup.absorb_result yrs results.1 absorbed, results.2⟩

theorem mergeGroups_result {flyingMessages : Finset MsgId} {config : SinkConfig} {locksFree : Bool}
    {queue : List QueueItem} :
    ∀ group ∈ mergeGroups yrs flyingMessages config locksFree queue, group.Result yrs := by
  -- the same induction, now with the account of each group
  have folded : ∀ (items : List QueueItem) (groups : List MergeGroup), (∀ group ∈ groups, group.Result yrs) →
      ∀ group ∈ items.foldl (groupNext yrs flyingMessages config) groups, group.Result yrs := by
    intro items
    induction items with
    | nil => exact fun groups results => results
    | cons next items inductionHypothesis =>
      intro groups results
      exact inductionHypothesis _ (groupNext_result yrs results next)
  intro group member
  rw [mergeGroups] at member
  split at member
  · obtain ⟨item, _, rfl⟩ := List.mem_map.mp member
    exact MergeGroup.single_result yrs item
  · exact folded _ [] (fun _ none => nomatch none) group (List.mem_reverse.mp member)

theorem containedIn_update_iff {msg : Message StateVector AwarenessUpdate} {data : Bytes} {ops : Finset Op}
    (decoded : yrs.decodeUpdate data = .ok ops) :
    ContainedIn yrs msg [.sync (.update data)] ↔ CarriesWithin yrs msg ops := by
  have carried : carriedOps yrs [(.sync (.update data) : Message StateVector AwarenessUpdate)] = ops := by
    simp [carriedOps, collectOps, Message.carriedUpdate, updateOps, decoded]
  rw [ContainedIn, carried, List.mem_singleton]
  refine ⟨?_, .inr⟩
  rintro (rfl | within)
  · exact ⟨data, ops, rfl, decoded, Finset.Subset.refl ops⟩
  · exact within

theorem MergeGroup.Result.kept_iff {group : MergeGroup} (result : group.Result yrs) :
    (∀ item ∈ group.members, KeptIn yrs item group.item) ↔ group.Lossless yrs := by
  by_cases merges : group.Merges yrs
  · obtain ⟨data, inner, decoded⟩ := result.merged merges
    -- the group is one update message, so being kept is being covered by it
    have messages : group.item.messages yrs = [.sync (.update data)] := by
      rw [QueueItem.messages, inner, payload_withUpdate yrs merges.1, read_updatePayload]
    simp only [keptIn_iff, messages, containedIn_update_iff yrs decoded]
    exact ⟨fun kept => ⟨fun _ => kept, fun never => absurd merges never⟩, fun lossless => lossless.1 merges⟩
  · have same : group.item.messages yrs = group.first.messages yrs := by
      rw [QueueItem.messages, result.unmerged merges]
      rfl
    -- nothing was merged: what is left of the group is its first item
    simp only [keptIn_iff, same]
    constructor
    · intro kept
      exact ⟨fun now => absurd now merges, fun _ item member => kept item (List.mem_cons_of_mem _ member)⟩
    · intro lossless item member
      cases List.mem_cons.mp member with
      | inl equal =>
        obtain rfl := equal
        exact fun msg here => .inl here
      | inr absorbed => exact lossless.2 merges item absorbed

/-- No update is lost by a merge if and only if every group of items it folds together is
    lossless: all their messages are updates within the ones that the items start with, or,
    where no two of them start with an update, messages the first item has already. -/
theorem nothingLost_iff (flyingMessages : Finset MsgId) (config : SinkConfig) (locksFree : Bool)
    (queue : List QueueItem) :
    NothingLost yrs flyingMessages config locksFree queue ↔
      ∀ group ∈ mergeGroups yrs flyingMessages config locksFree queue, group.Lossless yrs := by
  have each : ∀ group ∈ mergeGroups yrs flyingMessages config locksFree queue,
      (∀ item ∈ group.members, KeptIn yrs item group.item) ↔ group.Lossless yrs :=
    fun group member => (mergeGroups_result yrs group member).kept_iff yrs
  constructor
  · intro kept group member
    exact (each group member).mp (kept group member)
  · intro lossless group member
    exact (each group member).mpr (lossless group member)

end Contents

/-- Client 1 moves its cursor and types `a`. -/
def cursorThenEdit : List QueueItem :=
  [⟨.clientUpdateSync ⟨.client 1 "device", "object", 0, [1, 6, 1, 1, 1, 2, 123, 125]⟩, 0⟩,
    ⟨.clientUpdateSync ⟨.client 1 "device", "object", 1, [0, 2, 11, 1, 1, 1, 0, 4, 1, 1, 116, 1, 97, 0]⟩, 1⟩]

/-- The update is merged into the cursor message, which is not an update: the merge leaves
    the cursor message alone in the queue, and the edit is in no payload. -/
theorem merge_drops_edit_after_cursor :
    merge (UpdateTable.yrs typedUpdates) ∅ .default true cursorThenEdit = cursorThenEdit.take 1 ∧
      ¬ NothingLost (UpdateTable.yrs typedUpdates) ∅ .default true cursorThenEdit := by
  have groups : mergeGroups (UpdateTable.yrs typedUpdates) ∅ .default true cursorThenEdit =
      [⟨cursorThenEdit[0], cursorThenEdit[0], [cursorThenEdit[1]]⟩] := by rfl
  refine ⟨by decide, ?_⟩
  intro kept
  rw [NothingLost, groups] at kept
  -- the lost item is the edit
  have edit := kept _ (List.mem_singleton.mpr rfl) cursorThenEdit[1] (.tail _ (.head _))
  rw [keptIn_iff] at edit
  have contained := edit (.sync (.update [1, 1, 1, 0, 4, 1, 1, 116, 1, 97, 0])) (by decide)
  cases contained with
  | inl same =>
    revert same
    decide
  | inr held =>
    obtain ⟨data, update, carried, decoded, within⟩ := held
    cases carried
    have typed : (UpdateTable.yrs typedUpdates).decodeUpdate [1, 1, 1, 0, 4, 1, 1, 116, 1, 97, 0] =
      .ok {(1, 0)} := by decide
    rw [typed] at decoded
    cases decoded
    revert within
    decide

end FlowCloud.Client
