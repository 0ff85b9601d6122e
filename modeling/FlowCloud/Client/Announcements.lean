import FlowCloud.Client.SinkOrder

/-! # The announced state

The tasks that queue messages look at the announced state, announce, clear and push in separate
steps; the other operations of the sink come in between.  The last announced state is the `state`
of the sink.
-/

namespace FlowCloud.Client

open FlowCloud.Foundation FlowCloud.Entity FlowCloud.Protocol

def SinkState.isSyncing (self : SinkState) : Bool := self = .syncing

/-- What a call does next. -/
inductive QueuePhase where
  | announces
  | clearsQueue
  | clearsFlying
  | pushes
  | merges
  deriving DecidableEq, Repr

/-- A `queue_msg`, or a `queue_init_sync`, that has looked at the announced state. -/
structure QueueCall where
  msg : ClientCollabMessage
  isInitSync : Bool
  phase : QueuePhase

/-- What follows the announcement. -/
def QueueCall.afterAnnounce (self : QueueCall) : QueueCall :=
  { self with phase := if self.isInitSync then .clearsQueue else .pushes }

/-- The sink and the calls in progress. -/
structure SharedSink where
  sink : CollabSink
  calls : Nat → Option QueueCall

namespace SharedSink

inductive Event where
  | queueMsg (task : Nat) (msg : ClientCollabMessage)
  | queueInitSync (task : Nat) (msg : ClientCollabMessage)
  | proceed (task : Nat) (queueFree flyingFree : Bool)
  /-- The plugin is reset. -/
  | clear (queueFree flyingFree : Bool)
  | processNextMsg (locksFree : Bool)
  | sendFinished (success : Bool)
  | tick
  | setPause (pause : Bool)
  | validateResponse (serverMessage : ServerCollabMessage)
  /-- The heap may hold its items in another order. -/
  | relayout (layout : List QueueItem)

def new (pause : Bool) : SharedSink := ⟨.new pause, fun _ => none⟩

def setCall (self : SharedSink) (task : Nat) (call : Option QueueCall) : SharedSink :=
  { self with calls := Function.update self.calls task call }

/-- The look at the state, of a task that is not in a call yet. -/
def begin (self : SharedSink) (task : Nat) (msg : ClientCollabMessage) (isInitSync : Bool) : SharedSink :=
  let call : QueueCall := ⟨msg, isInitSync, .announces⟩
  if self.calls task |>.isSome then self
  else if self.sink.state.isSyncing then self.setCall task (some call.afterAnnounce)
  else self.setCall task (some call)

section

variable {Op StateVector AwarenessUpdate : Type} [DecidableEq Op]
variable (yrs : Yrs Op StateVector AwarenessUpdate) (config : SinkConfig)

/-- The next step of the call. -/
def proceed (self : SharedSink) (task : Nat) (call : QueueCall) (queueFree flyingFree : Bool) : SharedSink :=
  match call.phase with
  | .announces => { self with sink := { self.sink with state := .syncing } }.setCall task (some call.afterAnnounce)
  | .clearsQueue =>
    { self with sink := self.sink.clear queueFree false }.setCall task (some { call with phase := .clearsFlying })
  | .clearsFlying =>
    { self with sink := self.sink.clear false flyingFree }.setCall task (some { call with phase := .pushes })
  | .pushes =>
    -- the push announces nothing
    { self with sink := { self.sink.pushMsg call.msg with state := self.sink.state } }.setCall task
      (if call.isInitSync then none else some { call with phase := .merges })
  | .merges => { self with sink := self.sink.merge yrs config (queueFree && flyingFree) }.setCall task none

def step (self : SharedSink) : Event → SharedSink
  | .queueMsg task msg => self.begin task msg false
  | .queueInitSync task msg => self.begin task msg true
  | .proceed task queueFree flyingFree =>
    match self.calls task with
    | some call => self.proceed yrs config task call queueFree flyingFree
    | none => self
  | .clear queueFree flyingFree => { self with sink := self.sink.clear queueFree flyingFree }
  | .processNextMsg locksFree => { self with sink := (self.sink.processNextMsg locksFree).2 }
  | .sendFinished success => { self with sink := self.sink.sendFinished success }
  | .tick => { self with sink := self.sink.tick }
  | .setPause pause => { self with sink := self.sink.setPause pause }
  | .validateResponse serverMessage => { self with sink := (self.sink.validateResponse serverMessage).2 }
  | .relayout layout => { self with sink := self.sink.relayout layout }

/-! A call that nothing comes between is the operation of the sink. -/

section

variable (self : SharedSink) {task : Nat} (idle : self.calls task = none) (msg : ClientCollabMessage)
  (queueFree flyingFree : Bool)

/-- The call once `Syncing` is announced. -/
def announced (self : SharedSink) (task : Nat) (msg : ClientCollabMessage) (isInitSync : Bool) : SharedSink :=
  { self with sink := { self.sink with state := .syncing } }.setCall task
    (some (QueueCall.mk msg isInitSync .announces).afterAnnounce)

include idle

theorem begin_announced (isInitSync : Bool) :
    ∃ steps, run (step yrs config) (self.begin task msg isInitSync)
      (List.replicate steps (.proceed task queueFree flyingFree)) = self.announced task msg isInitSync := by
  by_cases syncing : self.sink.state = .syncing
  · -- there is nothing to announce
    have kept : ({ self.sink with state := .syncing } : CollabSink) = self.sink := by rw [← syncing]
    exact ⟨0, by simp [begin, announced, SinkState.isSyncing, syncing, idle, kept]⟩
  · refine ⟨1, ?_⟩
    simp [begin, announced, step, proceed, setCall, SinkState.isSyncing, syncing, idle]

theorem queueMsg_alone :
    ∃ steps, run (step yrs config) (self.step yrs config (.queueMsg task msg))
      (List.replicate steps (.proceed task queueFree flyingFree)) =
      { self with sink := (self.sink.queueMsg msg).merge yrs config (queueFree && flyingFree) } := by
  obtain ⟨steps, reached⟩ := self.begin_announced yrs config idle msg queueFree flyingFree false
  have same : Function.update self.calls task none = self.calls := by rw [← idle, Function.update_eq_self]
  refine ⟨steps + 2, ?_⟩
  rw [List.replicate_add, run_append, step, reached]
  simp [announced, QueueCall.afterAnnounce, step, proceed, setCall, CollabSink.queueMsg, CollabSink.pushMsg, same]

theorem queueInitSync_alone :
    ∃ steps, run (step yrs config) (self.step yrs config (.queueInitSync task msg))
      (List.replicate steps (.proceed task queueFree flyingFree)) =
      { self with sink := self.sink.queueInitSync msg queueFree flyingFree } := by
  obtain ⟨steps, reached⟩ := self.begin_announced yrs config idle msg queueFree flyingFree true
  have same : Function.update self.calls task none = self.calls := by rw [← idle, Function.update_eq_self]
  refine ⟨steps + 3, ?_⟩
  rw [List.replicate_add, run_append, step, reached]
  simp [announced, QueueCall.afterAnnounce, step, proceed, setCall, CollabSink.queueInitSync, CollabSink.clear,
    CollabSink.pushMsg, same]

end

end

end SharedSink

/-! ## What is announced -/

/-- The ack that ends the queue: of its only item, or of a message that was cleared from it. -/
def CollabSink.isLastAck (self : CollabSink) (serverMessage : ServerCollabMessage) : Bool :=
  match serverMessage.msgId with
  | none => false
  | some msgId => decide (msgId ∈ self.flyingMessages) &&
    (self.messageQueue.isEmpty || self.messageQueue.map QueueItem.msgId == [msgId])

/-- Whether a message has been pushed while `Finished` was the last announced state, and nothing
    has been announced and the queue not been emptied since. -/
def SharedSink.pushedLateAfter (self : SharedSink) (pushedLate : Bool) : SharedSink.Event → Bool
  | .proceed task queueFree _ =>
    match self.calls task with
    | none => pushedLate
    | some call =>
      match call.phase with
      | .announces => false
      | .clearsQueue => pushedLate && !queueFree
      | .pushes => pushedLate || self.sink.state = .finished
      | .clearsFlying | .merges => pushedLate
  | .clear queueFree _ => pushedLate && !queueFree
  | .setPause pause => pushedLate && !pause
  | .validateResponse serverMessage => pushedLate && !self.sink.isLastAck serverMessage
  | .queueMsg _ _ | .queueInitSync _ _ | .processNextMsg _ | .sendFinished _ | .tick | .relayout _ => pushedLate

structure AnnouncementHistory where
  shared : SharedSink
  pushedLate : Bool

def AnnouncementHistory.new (pause : Bool) : AnnouncementHistory := ⟨.new pause, false⟩

section

variable {Op StateVector AwarenessUpdate : Type} [DecidableEq Op]
variable (yrs : Yrs Op StateVector AwarenessUpdate) (config : SinkConfig)

def AnnouncementHistory.step (self : AnnouncementHistory) (event : SharedSink.Event) : AnnouncementHistory :=
  ⟨self.shared.step yrs config event, self.shared.pushedLateAfter self.pushedLate event⟩

end

/-- If `Finished` is the last announced state, nothing is pending. -/
def CollabSink.FinishedIsTrue (self : CollabSink) : Prop := self.state = .finished → self.messageQueue = []

instance (self : CollabSink) : Decidable self.FinishedIsTrue :=
  inferInstanceAs (Decidable (self.state = .finished → self.messageQueue = []))

/-! ## What each operation does to the announced state and to the end of the queue -/

namespace CollabSink

variable (self : CollabSink)

theorem processNextMsg_state (locksFree : Bool) : (self.processNextMsg locksFree).2.state = self.state := by
  obtain ⟨_, _, _, same⟩ := self.processNextMsg_eq locksFree
  rw [same]

theorem sendFinished_state (success : Bool) : (self.sendFinished success).state = self.state := by
  obtain ⟨_, _, same⟩ := self.sendFinished_eq success
  rw [same]

theorem relayout_state (layout : List QueueItem) : (self.relayout layout).state = self.state := by
  rw [relayout]
  split <;> rfl

theorem relayout_perm (layout : List QueueItem) : (self.relayout layout).messageQueue.Perm self.messageQueue := by
  rw [relayout]
  by_cases permuted : layout.isPerm self.messageQueue = true
  · rw [if_pos permuted]
    exact List.isPerm_iff.mp permuted
  · rw [if_neg permuted]

theorem merge_eq_nil_iff {Op StateVector AwarenessUpdate : Type} [DecidableEq Op]
    (yrs : Yrs Op StateVector AwarenessUpdate) (config : SinkConfig) (locksFree : Bool) :
    (self.merge yrs config locksFree).messageQueue = [] ↔ self.messageQueue = [] := by
  have items := mergeGroups_items yrs self.flyingMessages config locksFree self.messageQueue
  have members := mergeGroups_members yrs self.flyingMessages config locksFree self.messageQueue
  rw [merge, ← items, List.map_eq_nil_iff]
  constructor
  · intro none
    rw [none] at members
    exact members.nil_eq.symm
  · intro none
    rw [none] at members ⊢
    -- a group has at least its first member
    cases groups : mergeGroups yrs self.flyingMessages config locksFree [] with
    | nil => rfl
    | cons group others =>
      rw [groups] at members
      simp [MergeGroup.members] at members

/-- The last ack empties the queue and announces it; any other response does neither. -/
theorem validateResponse_isLastAck (serverMessage : ServerCollabMessage) :
    let result := (self.validateResponse serverMessage).2
    if self.isLastAck serverMessage = true then result.messageQueue = [] ∧ result.state = .finished
    else result.state = self.state ∧ (result.messageQueue = [] ↔ self.messageQueue = []) := by
  rw [validateResponse, isLastAck]
  cases serverMessage.msgId with
  | none => simp
  | some incomeMessageId =>
    by_cases flying : incomeMessageId ∈ self.flyingMessages
    · cases popped : popMax QueueItem.cmp self.messageQueue with
      | none =>
        have empty := popMax_eq_none.mp popped
        simp [flying, empty, finishIfEmpty]
      | some found =>
        obtain ⟨currentItem, rest⟩ := found
        have split := popMax_perm popped
        have nonempty : self.messageQueue ≠ [] := by
          intro empty
          rw [empty] at split
          cases split.eq_nil
        -- the ids of the queue are the popped one and those that stay
        have only : self.messageQueue.map QueueItem.msgId = [incomeMessageId] ↔
            currentItem.msgId = incomeMessageId ∧ rest = [] := by
          have ids := split.map QueueItem.msgId
          constructor
          · intro single
            rw [single] at ids
            have same := List.perm_singleton.mp ids
            simpa using same
          · rintro ⟨rfl, rfl⟩
            exact List.singleton_perm.mp ids |>.symm
        by_cases same : currentItem.msgId = incomeMessageId
        · cases rest with
          | nil =>
            have last := only.mpr ⟨same, rfl⟩
            simp [flying, same, last, finishIfEmpty]
          | cons next rest =>
            have more : self.messageQueue.map QueueItem.msgId ≠ [incomeMessageId] := by simp [only]
            simp [flying, same, more, nonempty, finishIfEmpty]
        · have other : self.messageQueue.map QueueItem.msgId ≠ [incomeMessageId] := by simp [only, same]
          simp [flying, same, other, nonempty, finishIfEmpty]
    · simp [flying]

end CollabSink

/-! ## What a late push leaves behind -/

/-- A push has been late exactly if `Finished` is announced over a message that is queued. -/
def Reported (sink : CollabSink) (pushedLate : Bool) : Prop :=
  pushedLate = true ↔ sink.state = .finished ∧ sink.messageQueue ≠ []

namespace Reported

variable {sink : CollabSink} {pushedLate : Bool}

/-- The step announces nothing, and the queue is empty afterwards if it was. -/
theorem of_same {next : CollabSink} (reported : Reported sink pushedLate) (state : next.state = sink.state)
    (queue : next.messageQueue = [] ↔ sink.messageQueue = []) : Reported next pushedLate := by
  rw [Reported, state, Ne, queue]
  exact reported

theorem of_perm {next : CollabSink} (reported : Reported sink pushedLate) (state : next.state = sink.state)
    (queue : next.messageQueue.Perm sink.messageQueue) : Reported next pushedLate := by
  apply reported.of_same state
  constructor
  · intro none
    rw [none] at queue
    exact queue.nil_eq.symm
  · intro none
    rw [none] at queue
    exact queue.eq_nil

theorem of_empty (empty : sink.messageQueue = []) : Reported sink false := by simp [Reported, empty]

theorem of_unfinished (unfinished : sink.state ≠ .finished) : Reported sink false := by simp [Reported, unfinished]

theorem push (reported : Reported sink pushedLate) (msg : ClientCollabMessage) :
    Reported { sink.pushMsg msg with state := sink.state } (pushedLate || sink.state = .finished) := by
  simp only [Reported, CollabSink.pushMsg, Bool.or_eq_true, decide_eq_true_eq, ne_eq, List.cons_ne_nil,
    not_false_eq_true, and_true, or_iff_right_iff_imp]
  intro late
  exact (reported.mp late).1

theorem clear (reported : Reported sink pushedLate) (queueFree flyingFree : Bool) :
    Reported (sink.clear queueFree flyingFree) (pushedLate && !queueFree) := by
  cases queueFree with
  | true =>
    rw [Bool.not_true, Bool.and_false]
    exact of_empty rfl
  | false =>
    rw [Bool.not_false, Bool.and_true]
    exact reported

theorem setPause (reported : Reported sink pushedLate) (pause : Bool) :
    Reported (sink.setPause pause) (pushedLate && !pause) := by
  cases pause with
  | true =>
    rw [Bool.not_true, Bool.and_false]
    apply of_unfinished
    simp [CollabSink.setPause]
  | false =>
    rw [Bool.not_false, Bool.and_true]
    exact reported

theorem validateResponse (reported : Reported sink pushedLate) (serverMessage : ServerCollabMessage) :
    Reported (sink.validateResponse serverMessage).2 (pushedLate && !sink.isLastAck serverMessage) := by
  have outcome := sink.validateResponse_isLastAck serverMessage
  cases last : sink.isLastAck serverMessage with
  | true =>
    rw [last] at outcome
    rw [Bool.not_true, Bool.and_false]
    exact of_empty outcome.1
  | false =>
    rw [last] at outcome
    rw [Bool.not_false, Bool.and_true]
    exact reported.of_same outcome.1 outcome.2

variable {Op StateVector AwarenessUpdate : Type} [DecidableEq Op]
variable (yrs : Yrs Op StateVector AwarenessUpdate) (config : SinkConfig)

theorem proceed {shared : SharedSink} (reported : Reported shared.sink pushedLate) {task : Nat} {call : QueueCall}
    (runs : shared.calls task = some call) (queueFree flyingFree : Bool) :
    Reported (shared.proceed yrs config task call queueFree flyingFree).sink
      (shared.pushedLateAfter pushedLate (.proceed task queueFree flyingFree)) := by
  simp only [SharedSink.pushedLateAfter, SharedSink.proceed, runs]
  cases call.phase with
  | announces =>
    apply of_unfinished
    simp [SharedSink.setCall]
  | clearsQueue => exact reported.clear queueFree false
  | clearsFlying => exact reported.of_same rfl Iff.rfl
  | pushes => exact reported.push call.msg
  | merges => exact reported.of_same rfl (shared.sink.merge_eq_nil_iff yrs config (queueFree && flyingFree))

theorem begin {shared : SharedSink} (reported : Reported shared.sink pushedLate) (task : Nat)
    (msg : ClientCollabMessage) (isInitSync : Bool) :
    Reported (shared.begin task msg isInitSync).sink pushedLate := by
  have kept : (shared.begin task msg isInitSync).sink = shared.sink := by
    rw [SharedSink.begin]
    split
    · rfl
    split <;> rfl
  rw [kept]
  exact reported

theorem step {history : AnnouncementHistory} (reported : Reported history.shared.sink history.pushedLate)
    (event : SharedSink.Event) :
    Reported (history.step yrs config event).shared.sink (history.step yrs config event).pushedLate := by
  rw [AnnouncementHistory.step]
  cases event with
  | queueMsg task msg => exact reported.begin task msg false
  | queueInitSync task msg => exact reported.begin task msg true
  | proceed task queueFree flyingFree =>
    rw [SharedSink.step]
    cases runs : history.shared.calls task with
    | none =>
      rw [SharedSink.pushedLateAfter, runs]
      exact reported
    | some call => exact reported.proceed yrs config runs queueFree flyingFree
  | clear queueFree flyingFree => exact reported.clear queueFree flyingFree
  | processNextMsg locksFree =>
    exact reported.of_perm (history.shared.sink.processNextMsg_state locksFree)
      (history.shared.sink.processNextMsg_perm locksFree)
  | sendFinished success =>
    apply reported.of_same (history.shared.sink.sendFinished_state success)
    rw [CollabSink.sendFinished_messageQueue]
  | tick => exact reported.of_same rfl Iff.rfl
  | setPause pause => exact reported.setPause pause
  | validateResponse serverMessage => exact reported.validateResponse serverMessage
  | relayout layout =>
    exact reported.of_perm (history.shared.sink.relayout_state layout) (history.shared.sink.relayout_perm layout)

end Reported

section

variable {Op StateVector AwarenessUpdate : Type} [DecidableEq Op]
variable (yrs : Yrs Op StateVector AwarenessUpdate) (config : SinkConfig)

/-- In every state, `Finished` is true of the queue unless a push has been late. -/
theorem finished_is_true_iff (pause : Bool) (events : List SharedSink.Event) :
    (run (AnnouncementHistory.step yrs config) (.new pause) events).shared.sink.FinishedIsTrue ↔
      (run (AnnouncementHistory.step yrs config) (.new pause) events).pushedLate = false := by
  have reported : Reported (run (AnnouncementHistory.step yrs config) (.new pause) events).shared.sink
      (run (AnnouncementHistory.step yrs config) (.new pause) events).pushedLate :=
    @run_invariant _ _ (AnnouncementHistory.step yrs config)
      (fun history => Reported history.shared.sink history.pushedLate)
      (fun _ event reported => reported.step yrs config event) _ (Reported.of_empty rfl) events
  rw [Reported] at reported
  rw [← Bool.not_eq_true, reported, CollabSink.FinishedIsTrue]
  tauto

end

/-- The ack of the first edit comes between the look of the second call and its push. -/
def ackBeforePush : List SharedSink.Event :=
  [.queueMsg 0 typeA, .proceed 0 true true, .proceed 0 true true, .proceed 0 true true, .processNextMsg true,
    .sendFinished true, .queueMsg 1 typeB, .validateResponse (ackOf 0), .proceed 1 true true, .proceed 1 true true]

/-- Both calls have returned, and the second edit is still queued. -/
theorem ackBeforePush_finished :
    ¬ ∀ (pause : Bool) (events : List SharedSink.Event),
      let shared := run (SharedSink.step (UpdateTable.yrs typedUpdates) .default) (.new pause) events
      (∀ task, shared.calls task = none) → shared.sink.FinishedIsTrue := by
  intro announced
  have idle : ∀ task, (run (SharedSink.step (UpdateTable.yrs typedUpdates) .default) (.new false)
      ackBeforePush).calls task = none := by
    intro task
    cases task with
    | zero => rfl
    | succ task => cases task <;> rfl
  have pending := announced false ackBeforePush idle
  revert pending
  decide

end FlowCloud.Client
