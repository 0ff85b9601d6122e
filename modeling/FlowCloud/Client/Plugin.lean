import FlowCloud.Client.Aggregate
import FlowCloud.Client.Observe
import FlowCloud.Client.SinkOrder

/-! # The sync plugin

The plugin's task follows the states of the connection.  It pauses the sink when the connection is
lost, and when there is one again it resumes the sink and queues an init sync, if it gets hold of
the collab.
-/

namespace FlowCloud.Client

open FlowCloud.Foundation FlowCloud.Entity FlowCloud.Protocol

/-- How many states `ConnectStateNotify` keeps for a receiver that is behind: tokio rounds the
    100 of the source up to a power of two. -/
def connectStateCapacity : Nat := 128

structure SyncPlugin where
  wsConnectState : BroadcastChannel ConnectState
  task : ReceivingLoop
  sink : CollabSink
  /-- The plugin is not dropped, so its queue is there. -/
  alive : Bool

variable {Op StateVector AwarenessUpdate : Type} [DecidableEq Op]

def SinkEvent.pauses : SinkEvent → Bool
  | .setPause _ => true
  | _ => false

namespace SyncPlugin

inductive Event (Op AwarenessUpdate : Type) where
  | deliver (state : ConnectState)
  /-- The task takes the next state; the collab may be gone. -/
  | turn (moment : SyncMoment) (collab : Option (Collab Op AwarenessUpdate))
  /-- Another task uses the sink. -/
  | sink (event : SinkEvent)
  | reset (queueFree flyingFree : Bool)
  | drop

def new (pause : Bool) : SyncPlugin := ⟨⟨connectStateCapacity, []⟩, ⟨0, true⟩, .new pause, true⟩

/-- Without the plugin there is no sink to change. -/
def withSink (self : SyncPlugin) (sink : CollabSink) : SyncPlugin := if self.alive then { self with sink } else self

/-- The task ends. -/
def leave (self : SyncPlugin) : SyncPlugin := { self with task := { self.task with running := false } }

section

variable (yrs : Yrs Op StateVector AwarenessUpdate) (origin : CollabOrigin) (object : SyncObject)

/-- The body of the task's loop. -/
def handle (self : SyncPlugin) (moment : SyncMoment) (collab : Option (Collab Op AwarenessUpdate)) :
    ConnectState → SyncPlugin
  | .connected =>
    match collab with
    | some localCollab =>
      if self.alive then
        -- a collab that is in use is passed over
        if moment.lockFree then
          { self with sink := initSync yrs moment origin object localCollab (self.sink.setPause false) }
        else self
      else self.leave
    | none => self.leave
  | .unauthorized | .lost => if self.alive then { self with sink := self.sink.setPause true } else self.leave
  | .pingTimeout | .connecting => self

def turn (self : SyncPlugin) (moment : SyncMoment) (collab : Option (Collab Op AwarenessUpdate)) : SyncPlugin :=
  match self.task.turn self.wsConnectState with
  | (some state, task) => handle yrs origin object { self with task } moment collab state
  | (none, task) => { self with task }

variable (config : SinkConfig)

/-- One step; only the task pauses the sink. -/
def step (self : SyncPlugin) : Event Op AwarenessUpdate → SyncPlugin
  | .deliver state => { self with wsConnectState := self.wsConnectState.send state }
  | .turn moment collab => self.turn yrs origin object moment collab
  | .sink event => if event.pauses then self else self.withSink (self.sink.step yrs config event).2
  | .reset queueFree flyingFree => self.withSink (self.sink.clear queueFree flyingFree)
  | .drop => { self with alive := false }

end

end SyncPlugin

/-! ## What has happened since the last state -/

/-- The state that the task has taken last, and what it found then. -/
structure TakenState where
  state : ConnectState
  wasPaused : Bool
  /-- The collab was there and its lock free. -/
  lockFree : Bool
  /-- The opening message of an exchange could be made. -/
  opens : Bool

/-- The message that the step has put into the queue. -/
def CollabSink.pushed (before after : CollabSink) : Option ClientCollabMessage :=
  if after.msgIdCounter = before.msgIdCounter then none else after.messageQueue.head?.map QueueItem.inner

structure PluginHistory where
  plugin : SyncPlugin
  taken : Option TakenState
  /-- What has been queued since the task took the state, and what of it the task has not queued. -/
  queued : List ClientCollabMessage
  othersQueued : List ClientCollabMessage

namespace PluginHistory

def new (pause : Bool) : PluginHistory := ⟨.new pause, none, [], []⟩

variable (yrs : Yrs Op StateVector AwarenessUpdate) (origin : CollabOrigin) (object : SyncObject)
variable (config : SinkConfig)

def step (self : PluginHistory) (event : SyncPlugin.Event Op AwarenessUpdate) : PluginHistory :=
  let plugin := self.plugin.step yrs origin object config event
  let pushed := (self.plugin.sink.pushed plugin.sink).toList
  let kept : PluginHistory :=
    { self with plugin, queued := self.queued ++ pushed, othersQueued := self.othersQueued ++ pushed }
  match event with
  | .turn moment collab =>
    match (self.plugin.task.turn self.plugin.wsConnectState).1 with
    | some state =>
      ⟨plugin, some ⟨state, self.plugin.sink.pause, collab.isSome && moment.lockFree,
        collab.any fun collab => (docInitState yrs moment collab).isSome⟩, pushed, []⟩
    | none => kept
  | .deliver _ | .sink _ | .reset _ _ | .drop => kept

end PluginHistory

/-- The task has taken all states, and the last one was `Connected`. -/
def SyncPlugin.IsConnected (self : SyncPlugin) : Prop :=
  self.alive = true ∧ self.wsConnectState.unread self.task.next = [] ∧
    self.wsConnectState.sent.getLast? = some .connected

instance (self : SyncPlugin) : Decidable self.IsConnected :=
  inferInstanceAs (Decidable (_ ∧ _ ∧ _))

/-- A connected plugin is not paused, and an init sync has been queued since. -/
def PluginHistory.Resumed (self : PluginHistory) : Prop :=
  self.plugin.IsConnected →
    self.plugin.sink.pause = false ∧ self.queued.any ClientCollabMessage.isClientInitSync = true

instance (self : PluginHistory) : Decidable self.Resumed := inferInstanceAs (Decidable (_ → _ ∧ _))

/-- The collab could be locked and opened when the task took the state.  Otherwise the sink was not
    paused before, and another task has queued an init sync. -/
def PluginHistory.FoundCollab (self : PluginHistory) : Prop :=
  self.plugin.IsConnected → ∃ taken, self.taken = some taken ∧ (taken.lockFree = true ∨ taken.wasPaused = false) ∧
    (taken.lockFree = true ∧ taken.opens = true ∨
      self.othersQueued.any ClientCollabMessage.isClientInitSync = true)

/-! ## What leaves the sink running -/

namespace CollabSink

variable (self : CollabSink)

/-- Only a pause or a resume changes whether the sink is paused. -/
theorem step_pause (yrs : Yrs Op StateVector AwarenessUpdate) (config : SinkConfig) {event : SinkEvent}
    (other : event.pauses = false) : (self.step yrs config event).2.pause = self.pause := by
  cases event with
  | queueMsg | merge | queueInitSync | transmit | tick | acknowledge => rfl
  | relayout layout =>
    rw [step, relayout]
    split <;> rfl
  | processNextMsg locksFree =>
    obtain ⟨_, _, _, same⟩ := self.processNextMsg_eq locksFree
    rw [step, same]
  | sendFinished success =>
    obtain ⟨_, _, same⟩ := self.sendFinished_eq success
    rw [step, same]
  | setPause pause => cases other
  | validateResponse serverMessage =>
    obtain ⟨_, _, _, same⟩ := self.validateResponse_eq serverMessage
    rw [step, same]

theorem pushed_same {after : CollabSink} (same : after.msgIdCounter = self.msgIdCounter) :
    self.pushed after = none := by rw [pushed, if_pos same]

theorem pushed_pushMsg {sink : CollabSink} (same : sink.msgIdCounter = self.msgIdCounter) (msg : ClientCollabMessage) :
    self.pushed (sink.pushMsg msg) = some (msg.setMsgId sink.msgIdCounter) := by
  have moved : (sink.pushMsg msg).msgIdCounter ≠ self.msgIdCounter := by
    simp only [pushMsg, same]
    omega
  rw [pushed, if_neg moved]
  rfl

end CollabSink

section InitSync

variable (yrs : Yrs Op StateVector AwarenessUpdate) (moment : SyncMoment) (origin : CollabOrigin) (object : SyncObject)
variable (collab : Collab Op AwarenessUpdate) (sink : CollabSink)

theorem initSync_pause : (initSync yrs moment origin object collab sink).pause = sink.pause := by
  rw [initSync]
  cases docInitState yrs moment collab <;> rfl

/-- An init sync is queued if there is something to open the exchange with. -/
theorem pushed_initSync (pause : Bool) :
    (sink.pushed (initSync yrs moment origin object collab (sink.setPause pause))).toList.any
      ClientCollabMessage.isClientInitSync = (docInitState yrs moment collab).isSome := by
  rw [initSync]
  cases docInitState yrs moment collab with
  | none => simp [CollabSink.pushed, CollabSink.setPause]
  | some payload =>
    have same : ((sink.setPause pause).clear moment.queueFree moment.flyingFree).msgIdCounter = sink.msgIdCounter := rfl
    simp only [CollabSink.queueInitSync]
    rw [sink.pushed_pushMsg same]
    rfl

end InitSync

namespace SyncPlugin

variable (yrs : Yrs Op StateVector AwarenessUpdate) (origin : CollabOrigin) (object : SyncObject) (self : SyncPlugin)
variable (moment : SyncMoment) (collab : Option (Collab Op AwarenessUpdate))

theorem handle_follows (state : ConnectState) :
    (handle yrs origin object self moment collab state).wsConnectState = self.wsConnectState ∧
      (handle yrs origin object self moment collab state).task.next = self.task.next ∧
      (handle yrs origin object self moment collab state).alive = self.alive := by
  cases state with
  | pingTimeout | connecting => exact ⟨rfl, rfl, rfl⟩
  | unauthorized | lost =>
    rw [handle]
    split <;> exact ⟨rfl, rfl, rfl⟩
  | connected =>
    cases collab with
    | none => exact ⟨rfl, rfl, rfl⟩
    | some localCollab =>
      simp only [handle]
      split
      · split <;> exact ⟨rfl, rfl, rfl⟩
      · exact ⟨rfl, rfl, rfl⟩

/-- Whether the sink is paused after `Connected`, and whether an init sync has been queued. -/
theorem handle_connected {self : SyncPlugin} (alive : self.alive = true) (task : ReceivingLoop) :
    let plugin := handle yrs origin object { self with task } moment collab .connected
    let lockFree := collab.isSome && moment.lockFree
    plugin.sink.pause = (self.sink.pause && !lockFree) ∧
      (self.sink.pushed plugin.sink).toList.any ClientCollabMessage.isClientInitSync =
        (lockFree && collab.any fun collab => (docInitState yrs moment collab).isSome) := by
  cases collab with
  | none => simp [handle, leave, CollabSink.pushed_same]
  | some localCollab =>
    simp only [handle, alive, if_true]
    by_cases free : moment.lockFree = true
    · have running : (self.sink.setPause false).pause = false := rfl
      simp [free, initSync_pause, pushed_initSync, running]
    · simp [free, CollabSink.pushed_same]

end SyncPlugin

/-! ## The invariant -/

/-- The task stays behind what is delivered, and the last state it has taken decides. -/
structure PluginHistory.Recorded (history : PluginHistory) : Prop where
  capacity : 0 < history.plugin.wsConnectState.capacity
  position : history.plugin.task.next ≤ history.plugin.wsConnectState.sent.length
  last : history.plugin.wsConnectState.unread history.plugin.task.next = [] →
    history.taken.map TakenState.state = history.plugin.wsConnectState.sent.getLast?
  connected : history.plugin.alive = true → ∀ taken, history.taken = some taken → taken.state = .connected →
    history.plugin.sink.pause = (taken.wasPaused && !taken.lockFree) ∧
      history.queued.any ClientCollabMessage.isClientInitSync =
        (taken.lockFree && taken.opens || history.othersQueued.any ClientCollabMessage.isClientInitSync)

namespace PluginHistory.Recorded

variable {history : PluginHistory}

theorem new (pause : Bool) : (PluginHistory.new pause).Recorded where
  capacity := Nat.succ_pos 127
  position := Nat.le_refl 0
  last := fun _ => rfl
  connected := fun _ _ none => by cases none

theorem unchanged (recorded : history.Recorded) : PluginHistory.Recorded { history with
    queued := history.queued ++ [], othersQueued := history.othersQueued ++ [] } := by
  rw [List.append_nil, List.append_nil]
  exact recorded

/-- What another task queues is queued, and it does not pause the sink. -/
theorem withSink (recorded : history.Recorded) {sink : CollabSink} (pause : sink.pause = history.plugin.sink.pause) :
    PluginHistory.Recorded { history with
      plugin := history.plugin.withSink sink
      queued := history.queued ++ (history.plugin.sink.pushed (history.plugin.withSink sink).sink).toList
      othersQueued := history.othersQueued ++
        (history.plugin.sink.pushed (history.plugin.withSink sink).sink).toList } := by
  rw [SyncPlugin.withSink]
  by_cases alive : history.plugin.alive = true
  · rw [if_pos alive]
    refine ⟨recorded.capacity, recorded.position, recorded.last, ?_⟩
    intro alive taken took connected
    obtain ⟨runs, queued⟩ := recorded.connected alive taken took connected
    refine ⟨pause.trans runs, ?_⟩
    simp only [List.any_append, queued, Bool.or_assoc]
  · rw [if_neg alive, history.plugin.sink.pushed_same rfl]
    exact recorded.unchanged

theorem deliver (recorded : history.Recorded) (state : ConnectState) :
    PluginHistory.Recorded { history with
      plugin := { history.plugin with wsConnectState := history.plugin.wsConnectState.send state } } := by
  refine ⟨recorded.capacity, ?_, ?_, recorded.connected⟩
  · have before := recorded.position
    simp only [BroadcastChannel.send, List.length_append]
    omega
  · intro none
    rw [BroadcastChannel.unread_send _ recorded.position] at none
    simp at none

/-- A task that lagged is still behind. -/
theorem lag (recorded : history.Recorded)
    (behind : history.plugin.wsConnectState.capacity <
      (history.plugin.wsConnectState.unread history.plugin.task.next).length) :
    PluginHistory.Recorded { history with
      plugin := { history.plugin with
        task := ⟨history.plugin.wsConnectState.sent.length - history.plugin.wsConnectState.capacity, false⟩ } } := by
  refine ⟨recorded.capacity, Nat.sub_le _ _, ?_, recorded.connected⟩
  intro none
  have room := recorded.capacity
  simp only [BroadcastChannel.unread, List.length_drop, List.drop_eq_nil_iff] at behind none
  omega

theorem resumed_iff_found (recorded : history.Recorded) : history.Resumed ↔ history.FoundCollab := by
  rw [PluginHistory.Resumed, PluginHistory.FoundCollab]
  apply imp_congr_right
  intro ⟨alive, processed, last⟩
  have state := recorded.last processed
  rw [last, Option.map_eq_some_iff] at state
  obtain ⟨taken, took, connected⟩ := state
  obtain ⟨pause, queued⟩ := recorded.connected alive taken took connected
  rw [pause, queued, took]
  simp only [Bool.and_eq_false_iff, Bool.not_eq_false', Bool.or_eq_true, Bool.and_eq_true, Option.some.injEq,
    exists_eq_left', or_comm]

variable {yrs : Yrs Op StateVector AwarenessUpdate} (origin : CollabOrigin) (object : SyncObject)

/-- The task takes the next state, and what it finds decides from now on. -/
theorem take (recorded : history.Recorded) (moment : SyncMoment) (collab : Option (Collab Op AwarenessUpdate))
    {state : ConnectState} {later : List ConnectState}
    (waiting : history.plugin.wsConnectState.unread history.plugin.task.next = state :: later) :
    let task : ReceivingLoop := { history.plugin.task with next := history.plugin.task.next + 1 }
    let plugin := SyncPlugin.handle yrs origin object { history.plugin with task } moment collab state
    PluginHistory.Recorded ⟨plugin,
      some ⟨state, history.plugin.sink.pause, collab.isSome && moment.lockFree,
        collab.any fun collab => (docInitState yrs moment collab).isSome⟩,
      (history.plugin.sink.pushed plugin.sink).toList, []⟩ := by
  intro task plugin
  have follows : plugin.wsConnectState = history.plugin.wsConnectState ∧
      plugin.task.next = history.plugin.task.next + 1 ∧ plugin.alive = history.plugin.alive :=
    SyncPlugin.handle_follows yrs origin object _ moment collab state
  obtain ⟨channel, next, alive⟩ := follows
  refine ⟨?_, ?_, ?_, ?_⟩
  · rw [channel]
    exact recorded.capacity
  · rw [channel, next]
    exact BroadcastChannel.lt_of_waiting waiting
  · intro none
    rw [channel, next, BroadcastChannel.unread_succ waiting] at none
    rw [none] at waiting
    rw [channel, BroadcastChannel.getLast?_of_waiting waiting]
    rfl
  · intro runs taken took connected
    obtain rfl := Option.some.inj took
    obtain rfl : state = .connected := connected
    rw [alive] at runs
    rw [List.any_nil, Bool.or_false]
    exact SyncPlugin.handle_connected yrs origin object moment collab runs _

theorem drop (recorded : history.Recorded) :
    PluginHistory.Recorded { history with plugin := { history.plugin with alive := false } } := by
  refine ⟨recorded.capacity, recorded.position, recorded.last, ?_⟩
  intro alive
  cases alive

variable (yrs) (config : SinkConfig)

theorem turn (recorded : history.Recorded) (moment : SyncMoment) (collab : Option (Collab Op AwarenessUpdate)) :
    (history.step yrs origin object config (.turn moment collab)).Recorded := by
  have silent : history.plugin.sink.pushed history.plugin.sink = none := history.plugin.sink.pushed_same rfl
  simp only [PluginHistory.step, SyncPlugin.step, SyncPlugin.turn]
  rcases history.plugin.task.turn_cases history.plugin.wsConnectState with stays | ⟨behind, lagged⟩ |
    ⟨state, later, _, waiting, took⟩
  · rw [stays]
    simp only [silent, Option.toList_none]
    exact recorded.unchanged
  · rw [lagged]
    simp only [silent, Option.toList_none]
    exact (recorded.lag behind).unchanged
  · rw [took]
    exact recorded.take origin object moment collab waiting

theorem step (recorded : history.Recorded) (event : SyncPlugin.Event Op AwarenessUpdate) :
    (history.step yrs origin object config event).Recorded := by
  have silent : history.plugin.sink.pushed history.plugin.sink = none := history.plugin.sink.pushed_same rfl
  cases event with
  | turn moment collab => exact recorded.turn yrs origin object config moment collab
  | deliver state =>
    simp only [PluginHistory.step, SyncPlugin.step, silent, Option.toList_none]
    exact (recorded.deliver state).unchanged
  | drop =>
    simp only [PluginHistory.step, SyncPlugin.step, silent, Option.toList_none]
    exact recorded.drop.unchanged
  | reset queueFree flyingFree => exact recorded.withSink rfl
  | sink event =>
    simp only [PluginHistory.step, SyncPlugin.step]
    cases pauses : event.pauses with
    | true =>
      simp only [if_true, silent, Option.toList_none]
      exact recorded.unchanged
    | false => exact recorded.withSink (history.plugin.sink.step_pause yrs config pauses)

end PluginHistory.Recorded

section

variable (yrs : Yrs Op StateVector AwarenessUpdate) (origin : CollabOrigin) (object : SyncObject) (config : SinkConfig)

/-- In every state, a connected plugin has resumed exactly if its task found the collab, or the sink
    was running anyway and another task has queued an init sync. -/
theorem resumed_iff (pause : Bool) (events : List (SyncPlugin.Event Op AwarenessUpdate)) :
    (run (PluginHistory.step yrs origin object config) (.new pause) events).Resumed ↔
      (run (PluginHistory.step yrs origin object config) (.new pause) events).FoundCollab := by
  have recorded : (run (PluginHistory.step yrs origin object config) (.new pause) events).Recorded :=
    run_invariant (fun _ event recorded => recorded.step yrs origin object config event) (.new pause) events
  exact recorded.resumed_iff_found

end

/-- The connection is lost and there again while the collab is in use. -/
def reconnectedInUse : List (SyncPlugin.Event (Nat × Nat) Lib0.AwarenessUpdate) :=
  let inUse : SyncMoment := { SyncMoment.idle 0 with lockFree := false }
  [.deliver .lost, .turn (.idle 0) (some ⟨∅, [], []⟩), .deliver .connecting, .deliver .connected,
    .turn (.idle 0) (some ⟨∅, [], []⟩), .turn inUse (some ⟨∅, [], []⟩)]

/-- The sink stays paused, and nothing is queued. -/
theorem reconnectedInUse_paused :
    ¬ ∀ (pause : Bool) (events : List (SyncPlugin.Event (Nat × Nat) Lib0.AwarenessUpdate)),
      (run (PluginHistory.step (UpdateTable.yrs typedUpdates) (.client 1 "device") ⟨"object", "w", .document⟩ .default)
        (.new pause) events).Resumed := by
  intro resumed
  have connected := resumed false reconnectedInUse
  revert connected
  decide

end FlowCloud.Client
