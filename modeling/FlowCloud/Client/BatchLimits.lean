import Mathlib.Algebra.GroupWithZero.Nat
import FlowCloud.Client.Batches

/-! # The limits of a batch

The queue of the websocket has two limits for a batch, on its init syncs and on the size of
its payloads.  Both are looked at when a message has already been taken.
-/

namespace FlowCloud.Client

open FlowCloud.Foundation FlowCloud.Entity

def totalSize (messages : List ClientCollabMessage) : Nat := (messages.map ClientCollabMessage.payloadSize).sum

def initSyncs (messages : List ClientCollabMessage) : Nat := messages.countP ClientCollabMessage.isClientInitSync

/-- Neither limit is overrun. -/
structure Fits (maximumInitSync maximumPayloadSize : Nat) (messages : List ClientCollabMessage) : Prop where
  initSyncs : initSyncs messages ≤ maximumInitSync
  size : totalSize messages ≤ maximumPayloadSize

/-- A message that is larger than a whole batch may be is sent alone. -/
structure WithinLimits (maximumInitSync maximumPayloadSize : Nat) (messages : List ClientCollabMessage) : Prop where
  initSyncs : initSyncs messages ≤ maximumInitSync
  size : totalSize messages ≤ maximumPayloadSize ∨
    ∃ message, messages = [message] ∧ maximumPayloadSize < message.payloadSize

section Sums

variable {first second : List ClientCollabMessage} {maximumInitSync maximumPayloadSize : Nat}

@[simp] theorem totalSize_append : totalSize (first ++ second) = totalSize first + totalSize second := by
  simp [totalSize]

@[simp] theorem initSyncs_append : initSyncs (first ++ second) = initSyncs first + initSyncs second :=
  List.countP_append

@[simp] theorem totalSize_singleton (message : ClientCollabMessage) : totalSize [message] = message.payloadSize := by
  simp [totalSize]

@[simp] theorem initSyncs_singleton (message : ClientCollabMessage) :
    initSyncs [message] = if message.isClientInitSync then 1 else 0 := by
  simp [initSyncs, List.countP_cons]

theorem totalSize_perm (same : first.Perm second) : totalSize first = totalSize second :=
  (same.map _).sum_eq

theorem initSyncs_perm (same : first.Perm second) : initSyncs first = initSyncs second := same.countP_eq _

theorem Fits.front (fits : Fits maximumInitSync maximumPayloadSize (first ++ second)) :
    Fits maximumInitSync maximumPayloadSize first := by
  have syncs := fits.initSyncs
  have size := fits.size
  rw [initSyncs_append] at syncs
  rw [totalSize_append] at size
  exact ⟨by omega, by omega⟩

theorem Fits.perm (fits : Fits maximumInitSync maximumPayloadSize first) (same : first.Perm second) :
    Fits maximumInitSync maximumPayloadSize second :=
  ⟨initSyncs_perm same ▸ fits.initSyncs, totalSize_perm same ▸ fits.size⟩

/-- The order of the messages does not matter. -/
theorem WithinLimits.perm (within : WithinLimits maximumInitSync maximumPayloadSize first) (same : first.Perm second) :
    WithinLimits maximumInitSync maximumPayloadSize second := by
  refine ⟨initSyncs_perm same ▸ within.initSyncs, ?_⟩
  cases within.size with
  | inl small => exact .inl (totalSize_perm same ▸ small)
  | inr held =>
    obtain ⟨message, rfl, large⟩ := held
    exact .inr ⟨message, List.singleton_perm.mp same |>.symm, large⟩

end Sums

namespace AggregateMessageQueue

variable (self : AggregateMessageQueue) (maximumInitSync : Nat)

/-- A batch ends with the queue, or with the message that overruns a limit. -/
inductive Ends (taken batch left : List ClientCollabMessage) : Prop where
  | exhausted (empty : left = []) (fits : Fits maximumInitSync self.maximumPayloadSize (taken ++ batch))
  | overrun (front : List ClientCollabMessage) (last : ClientCollabMessage) (batch_eq : batch = front ++ [last])
      (fits : Fits maximumInitSync self.maximumPayloadSize (taken ++ front))
      (exceeds : ¬ Fits maximumInitSync self.maximumPayloadSize (taken ++ batch))

theorem nextBatchMessage_go_ends {fuel : Nat} {queue taken : List ClientCollabMessage} (enough : queue.length ≤ fuel)
    (fits : Fits maximumInitSync self.maximumPayloadSize taken) :
    self.Ends maximumInitSync taken
      (nextBatchMessage.go self maximumInitSync fuel (totalSize taken) (initSyncs taken) queue).1
      (nextBatchMessage.go self maximumInitSync fuel (totalSize taken) (initSyncs taken) queue).2 := by
  induction fuel generalizing queue taken with
  | zero =>
    apply Ends.exhausted
    · exact List.length_eq_zero_iff.mp (Nat.le_zero.mp enough)
    · rwa [nextBatchMessage.go, List.append_nil]
  | succ fuel inductionHypothesis =>
    rw [nextBatchMessage.go]
    cases popped : popMax ClientCollabMessage.cmp queue with
    | none =>
      apply Ends.exhausted
      · exact popMax_eq_none.mp popped
      · rwa [List.append_nil]
    | some found =>
      obtain ⟨msg, rest⟩ := found
      have size : totalSize taken + msg.payloadSize = totalSize (taken ++ [msg]) := by simp
      have count : (if msg.isClientInitSync then initSyncs taken + 1 else initSyncs taken) =
          initSyncs (taken ++ [msg]) := by
        by_cases isInit : msg.isClientInitSync = true
        · simp [isInit]
        · simp [isInit]
      simp only [size, count]
      by_cases exceeds :
          maximumInitSync < initSyncs (taken ++ [msg]) ∨ self.maximumPayloadSize < totalSize (taken ++ [msg])
      · rw [if_pos exceeds]
        apply Ends.overrun [] msg rfl
        · rwa [List.append_nil]
        · intro fits
          have syncs : initSyncs (taken ++ [msg]) ≤ maximumInitSync := fits.initSyncs
          have small : totalSize (taken ++ [msg]) ≤ self.maximumPayloadSize := fits.size
          omega
      · rw [if_neg exceeds]
        have fitsNext : Fits maximumInitSync self.maximumPayloadSize (taken ++ [msg]) := ⟨by omega, by omega⟩
        have length := popMax_length popped
        have ends := @inductionHypothesis rest (taken ++ [msg]) (by omega) fitsNext
        generalize nextBatchMessage.go self maximumInitSync fuel (totalSize (taken ++ [msg]))
          (initSyncs (taken ++ [msg])) rest = result at ends
        obtain ⟨batch, left⟩ := result
        cases ends with
        | exhausted empty fits => exact .exhausted empty (by rwa [List.append_assoc] at fits)
        | overrun front last batch_eq fits exceeds =>
          rw [List.append_assoc] at fits exceeds
          exact .overrun (msg :: front) last (congrArg (msg :: ·) batch_eq) fits exceeds

theorem nextBatchMessage_ends :
    self.Ends maximumInitSync [] (self.nextBatchMessage maximumInitSync).1
      (self.nextBatchMessage maximumInitSync).2.queue :=
  self.nextBatchMessage_go_ends maximumInitSync (Nat.le_refl _) ⟨Nat.zero_le _, Nat.zero_le _⟩

/-- The queue has room for all of its messages in one batch, or begins with one that is larger than
    a batch. -/
def Accommodated : Prop :=
  Fits maximumInitSync self.maximumPayloadSize self.queue ∨
    ∃ message rest, popMax ClientCollabMessage.cmp self.queue = some (message, rest) ∧
      self.maximumPayloadSize < message.payloadSize ∧ (message.isClientInitSync = true → 1 ≤ maximumInitSync)

variable {self} {maximumInitSync}

theorem withinLimits_of_fits {messages : List ClientCollabMessage}
    (fits : Fits maximumInitSync self.maximumPayloadSize messages) :
    WithinLimits maximumInitSync self.maximumPayloadSize messages := ⟨fits.initSyncs, .inl fits.size⟩

/-- A batch that overran a limit is within the limits only as a single message. -/
theorem overrun_withinLimits_iff {front : List ClientCollabMessage} {last : ClientCollabMessage}
    (fits : Fits maximumInitSync self.maximumPayloadSize front)
    (exceeds : ¬ Fits maximumInitSync self.maximumPayloadSize (front ++ [last])) :
    WithinLimits maximumInitSync self.maximumPayloadSize (front ++ [last]) ↔
      front = [] ∧ self.maximumPayloadSize < last.payloadSize ∧
        (last.isClientInitSync = true → 1 ≤ maximumInitSync) := by
  constructor
  · rintro ⟨syncs, small | ⟨message, single, large⟩⟩
    · exact absurd ⟨syncs, small⟩ exceeds
    · obtain ⟨rfl, same⟩ := List.append_eq_singleton_iff.mp single |>.resolve_right (by simp)
      obtain rfl := List.singleton_inj.mp same
      refine ⟨rfl, large, ?_⟩
      intro isInit
      simpa [isInit] using syncs
  · rintro ⟨rfl, large, syncs⟩
    refine ⟨?_, .inr ⟨last, rfl, large⟩⟩
    by_cases isInit : last.isClientInitSync = true
    · simpa [isInit] using syncs isInit
    · simp [isInit]

theorem nextBatchMessage_withinLimits_iff :
    WithinLimits maximumInitSync self.maximumPayloadSize (self.nextBatchMessage maximumInitSync).1 ↔
      self.Accommodated maximumInitSync := by
  have popped := self.nextBatchMessage_popped maximumInitSync
  have ends := self.nextBatchMessage_ends maximumInitSync
  rw [Accommodated]
  generalize self.nextBatchMessage maximumInitSync = result at popped ends
  obtain ⟨batch, left⟩ := result
  cases ends with
  | exhausted empty fits =>
    have all := popped.perm
    rw [empty, List.append_nil] at all
    exact iff_of_true (withinLimits_of_fits fits) (.inl (fits.perm all))
  | overrun front last batch_eq fits exceeds =>
    simp only at batch_eq popped
    subst batch_eq
    rw [List.nil_append] at fits exceeds
    rw [overrun_withinLimits_iff fits exceeds]
    constructor
    · rintro ⟨rfl, large, syncs⟩
      obtain ⟨rest, top⟩ := popped.top
      exact .inr ⟨last, rest, top, large, syncs⟩
    · rintro (whole | ⟨message, rest, top, large, syncs⟩)
      · exact absurd (whole.perm popped.perm.symm).front exceeds
      · cases front with
        | nil =>
          obtain ⟨_, first⟩ := popped.top
          rw [top] at first
          cases first
          exact ⟨rfl, large, syncs⟩
        | cons first front =>
          obtain ⟨_, firstTop⟩ := popped.top
          rw [top] at firstTop
          cases firstTop
          -- the first message alone would not have let another one follow
          have small := fits.size
          simp only [totalSize, List.map_cons, List.sum_cons] at small
          omega

end AggregateMessageQueue

/-- A batch respects its limits exactly if they leave room for the whole queue or its first message
    is larger than a batch by itself. -/
theorem next_batch_within_limits_iff (self : AggregateMessageQueue) (maximumInitSync : Nat) :
    WithinLimits maximumInitSync self.maximumPayloadSize (allMessages (self.nextBatchMap maximumInitSync).1) ↔
      self.Accommodated maximumInitSync := by
  have grouped : (allMessages (self.nextBatchMap maximumInitSync).1).Perm
      (self.nextBatchMessage maximumInitSync).1 := by
    rw [AggregateMessageQueue.nextBatchMap_eq]
    exact foldl_pushMessage_perm _ ∅
  rw [← AggregateMessageQueue.nextBatchMessage_withinLimits_iff]
  exact ⟨fun within => within.perm grouped, fun within => within.perm grouped.symm⟩

/-- Two init syncs, of which a batch may hold one. -/
theorem next_batch_overruns :
    ¬ ∀ (self : AggregateMessageQueue) (maximumInitSync : Nat),
      WithinLimits maximumInitSync self.maximumPayloadSize (allMessages (self.nextBatchMap maximumInitSync).1) := by
  intro within
  let initSync (msgId : MsgId) : ClientCollabMessage :=
    .clientInitSync ⟨.client 1 "device", "doc", .document, "workspace", msgId, [0]⟩
  have syncs := (within ⟨20480, [initSync 1, initSync 2]⟩ 1).initSyncs
  revert syncs
  decide

end FlowCloud.Client
