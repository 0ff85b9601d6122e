import FlowCloud.Foundation.BroadcastChannel
import FlowCloud.Foundation.PriorityQueue
import FlowCloud.Foundation.Runs
import FlowCloud.Foundation.Threads
import FlowCloud.Entity.CollabMsg

/-! # From the sinks to the websocket

All sinks of a client send into one broadcast channel.  A connection spawns a task that
takes the lists from the channel and pushes their messages onto the queue from which a timer
makes batches for the websocket.  The channel and the queue belong to the client and outlive
every connection, and so does the task: nothing but a lag ends it.
-/

namespace FlowCloud.Client

open FlowCloud.Foundation FlowCloud.Entity

/-! ## The queue -/

structure AggregateMessageQueue where
  maximumPayloadSize : Nat
  queue : List ClientCollabMessage
  deriving DecidableEq, Repr

namespace AggregateMessageQueue

def new (maximumPayloadSize : Nat) : AggregateMessageQueue := ⟨maximumPayloadSize, []⟩

variable (self : AggregateMessageQueue)

def push (msg : List ClientCollabMessage) : AggregateMessageQueue := { self with queue := self.queue ++ msg }

def clear : AggregateMessageQueue := { self with queue := [] }

/-- The messages of the next batch in the order in which they are popped, and the queue that
    stays. -/
def nextBatchMessage (maximumInitSync : Nat) : List ClientCollabMessage × AggregateMessageQueue :=
  let (batch, queue) := go self.queue.length 0 0 self.queue
  (batch, { self with queue })
where
  go : Nat → Nat → Nat → List ClientCollabMessage → List ClientCollabMessage × List ClientCollabMessage
    | 0, _, _, queue => ([], queue)
    | fuel + 1, size, initSyncCount, queue =>
      match popMax ClientCollabMessage.cmp queue with
      | none => ([], queue)
      | some (msg, rest) =>
        let size := size + msg.payloadSize
        let initSyncCount := if msg.isClientInitSync then initSyncCount + 1 else initSyncCount
        if maximumInitSync < initSyncCount ∨ self.maximumPayloadSize < size then ([msg], rest)
        else
          let (batch, queue) := go fuel size initSyncCount rest
          (msg :: batch, queue)

end AggregateMessageQueue

/-! ## The client -/

inductive ConnectState where
  | pingTimeout
  | connecting
  | connected
  | unauthorized
  | lost
  deriving DecidableEq, Repr

def ConnectState.isConnecting : ConnectState → Bool
  | connecting => true
  | _ => false

def ConnectState.isConnected : ConnectState → Bool
  | connected => true
  | _ => false

inductive WSError where
  | tungsteniteError (text : String)
  | lostConnection (text : String)
  | close (text : String)
  | authError (text : String)
  | http (text : String)
  | internal (text : String)
  deriving DecidableEq, Repr

/-- A list of messages with its position on the channel. -/
abbrev SentMessages : Type := Nat × List ClientCollabMessage

structure WSClient where
  state : ConnectState
  rtMsgSender : BroadcastChannel (List ClientCollabMessage)
  aggregateQueue : AggregateMessageQueue
  /-- The calls of `connect` that wait for their connection. -/
  connecting : Nat
  /-- The calls of `connect` that have announced it and not come to their last step. -/
  starting : Nat
  /-- The tasks of `spawn_aggregate_message`. -/
  aggregating : List ReceivingLoop
  /-- What was sent while connected. -/
  sentConnected : List SentMessages
  /-- What the tasks have pushed. -/
  pushed : List SentMessages

inductive WSClientEvent where
  | connect
  /-- `retry_connect` returns to one of the calls of `connect`. -/
  | connectResult (result : Except WSError Unit)
  | spawnAggregateMessage
  | disconnect
  /-- The ping task or the sending task sets the state. -/
  | setState (state : ConnectState)
  | send (messages : List ClientCollabMessage)
  | aggregate (index : Nat)
  | tick

namespace WSClient

/-- `MAXIMUM_BATCH_MESSAGE_SIZE` -/
abbrev maximumBatchMessageSize : Nat := 20480

def new (bufferCapacity : Nat) : WSClient :=
  ⟨.lost, ⟨bufferCapacity, []⟩, .new maximumBatchMessageSize, 0, 0, [], [], []⟩

variable (self : WSClient)

/-- `clean` stops the loop that sends to the websocket, but no aggregation. -/
def clean : WSClient := { self with aggregateQueue := self.aggregateQueue.clear }

def connect : WSClient :=
  if self.state.isConnecting then self
  else { self.clean with state := .connecting, connecting := self.connecting + 1 }

def connectResult (result : Except WSError Unit) : WSClient :=
  match self.connecting with
  | 0 => self
  | connecting + 1 =>
    match result with
    | .error (.authError _) => { self with connecting, state := .unauthorized }
    | .error _ => { self with connecting, state := .lost }
    | .ok () => { self with connecting, state := .connected, starting := self.starting + 1 }

def spawnAggregateMessage : WSClient :=
  match self.starting with
  | 0 => self
  | starting + 1 =>
    { self with starting, aggregating := self.aggregating ++ [⟨self.rtMsgSender.subscribe, true⟩] }

def disconnect : WSClient := { self.clean with state := .lost }

def send (messages : List ClientCollabMessage) : WSClient :=
  { self with
    rtMsgSender := self.rtMsgSender.send messages
    sentConnected :=
      if self.state.isConnected then self.sentConnected ++ [(self.rtMsgSender.sent.length, messages)]
      else self.sentConnected }

/-- One round of a task's loop. -/
def aggregate (index : Nat) : WSClient :=
  match self.aggregating[index]? with
  | none => self
  | some task =>
    match task.turn self.rtMsgSender with
    | (none, later) => { self with aggregating := self.aggregating.set index later }
    | (some messages, later) =>
      { self with
        aggregating := self.aggregating.set index later
        aggregateQueue := self.aggregateQueue.push messages
        pushed := self.pushed ++ [(task.next, messages)] }

/-- The timer of `set_sender`. -/
def tick : WSClient := { self with aggregateQueue := (self.aggregateQueue.nextBatchMessage 10).2 }

def step : WSClientEvent → WSClient
  | .connect => self.connect
  | .connectResult result => self.connectResult result
  | .spawnAggregateMessage => self.spawnAggregateMessage
  | .disconnect => self.disconnect
  | .setState state => { self with state }
  | .send messages => self.send messages
  | .aggregate index => self.aggregate index
  | .tick => self.tick

/-- What was sent while connected was pushed at most once, and exactly once when no task has
    it still before it. -/
def EntersOnce : Prop :=
  ∀ message ∈ self.sentConnected, self.pushed.count message ≤ 1 ∧
    ((∀ task ∈ self.aggregating, task.running = true → message.1 < task.next) → self.pushed.count message = 1)

instance : Decidable self.EntersOnce := inferInstanceAs (Decidable (∀ _ ∈ _, _))

/-- The task reads its messages on, or has none of those that were sent while connected. -/
def Reads (task : ReceivingLoop) : Prop :=
  KeepsUp self.rtMsgSender task ∨ ∀ message ∈ self.sentConnected, message.1 < task.next

instance (task : ReceivingLoop) : Decidable (self.Reads task) := inferInstanceAs (Decidable (_ ∨ _))

/-- One task is running whenever something is sent while connected, and no task is told that
    it lagged before it has read all of that. -/
def OneReader : WSClientEvent → Prop
  | .send _ => self.state.isConnected = true → self.aggregating.countP ReceivingLoop.running = 1
  | .aggregate index => ∀ task ∈ self.aggregating[index]?, self.Reads task
  | _ => True

instance : DecidablePred self.OneReader
  | .send _ => inferInstanceAs (Decidable (_ → _))
  | .aggregate _ => inferInstanceAs (Decidable (∀ _ ∈ _, _))
  | .connect | .connectResult _ | .spawnAggregateMessage | .disconnect | .setState _ | .tick => .isTrue trivial

/-! ## Accounts -/

/-- The task has still to come to a position. -/
def awaits (position : Nat) (task : ReceivingLoop) : Bool := task.running && decide (task.next ≤ position)

/-- What was sent while connected is pushed or awaited by one task. -/
structure Accounted (client : WSClient) : Prop where
  recorded : ∀ message ∈ client.sentConnected, client.rtMsgSender.sent[message.1]? = some message.2
  positions : ∀ task ∈ client.aggregating, task.next ≤ client.rtMsgSender.sent.length
  earlier : ∀ message ∈ client.pushed, message.1 < client.rtMsgSender.sent.length
  once : ∀ message ∈ client.sentConnected,
    client.pushed.count message + client.aggregating.countP (awaits message.1) = 1

variable {self}

theorem accounted_new (bufferCapacity : Nat) : (new bufferCapacity).Accounted where
  recorded := List.forall_mem_nil _
  positions := List.forall_mem_nil _
  earlier := List.forall_mem_nil _
  once := List.forall_mem_nil _

theorem Accounted.lt (accounted : self.Accounted) {message : SentMessages} (sent : message ∈ self.sentConnected) :
    message.1 < self.rtMsgSender.sent.length :=
  (List.getElem?_eq_some_iff.mp (accounted.recorded message sent)).1

/-- A new task starts behind everything that was sent. -/
theorem Accounted.spawnAggregateMessage (accounted : self.Accounted) : self.spawnAggregateMessage.Accounted := by
  rw [WSClient.spawnAggregateMessage]
  cases self.starting with
  | zero => exact accounted
  | succ starting =>
    refine ⟨accounted.recorded, ?_, accounted.earlier, ?_⟩
    · intro task member
      cases List.mem_append.mp member with
      | inl old => exact accounted.positions task old
      | inr new =>
        rw [List.mem_singleton.mp new]
        exact Nat.le_refl _
    · intro message sent
      have behind : awaits message.1 ⟨self.rtMsgSender.subscribe, true⟩ = false :=
        decide_eq_false (Nat.not_le.mpr (accounted.lt sent))
      rw [List.countP_append, List.countP_singleton, behind]
      exact accounted.once message sent

theorem Accounted.send (accounted : self.Accounted) {messages : List ClientCollabMessage}
    (oneReader : self.state.isConnected = true → self.aggregating.countP ReceivingLoop.running = 1) :
    (self.send messages).Accounted := by
  have longer : ∀ {position}, position ≤ self.rtMsgSender.sent.length →
      position ≤ (self.rtMsgSender.send messages).sent.length :=
    fun before => Nat.le_trans before (by simp [BroadcastChannel.send])
  have kept : ∀ message ∈ self.sentConnected,
      (self.rtMsgSender.send messages).sent[message.1]? = some message.2 := by
    intro message sent
    rw [← accounted.recorded message sent]
    exact List.getElem?_append_left (accounted.lt sent)
  have positions : ∀ task ∈ self.aggregating, task.next ≤ (self.rtMsgSender.send messages).sent.length :=
    fun task member => longer (accounted.positions task member)
  have earlier : ∀ message ∈ self.pushed, message.1 < (self.rtMsgSender.send messages).sent.length :=
    fun message member => longer (accounted.earlier message member)
  rw [WSClient.send]
  cases connected : self.state.isConnected with
  | false => exact ⟨kept, positions, earlier, accounted.once⟩
  | true =>
    refine ⟨?_, positions, earlier, ?_⟩
    · refine List.forall_mem_append.mpr ⟨kept, List.forall_mem_singleton.mpr ?_⟩
      exact List.getElem?_concat_length
    · refine List.forall_mem_append.mpr ⟨accounted.once, List.forall_mem_singleton.mpr ?_⟩
      have unpushed : (self.rtMsgSender.sent.length, messages) ∉ self.pushed :=
        fun pushed => Nat.lt_irrefl _ (accounted.earlier _ pushed)
      -- every task that runs comes to the new message
      have awaiting : self.aggregating.countP (awaits self.rtMsgSender.sent.length)
          = self.aggregating.countP ReceivingLoop.running := by
        refine List.countP_congr fun task member => ?_
        simp [awaits, accounted.positions task member]
      rw [List.count_eq_zero_of_not_mem unpushed, awaiting, oneReader connected]

/-- A task that moves past nothing that was sent while connected. -/
theorem Accounted.replace (accounted : self.Accounted) {index : Nat} {task later : ReceivingLoop}
    (found : self.aggregating[index]? = some task) (within : later.next ≤ self.rtMsgSender.sent.length)
    (same : ∀ message ∈ self.sentConnected, awaits message.1 task = awaits message.1 later) :
    Accounted { self with aggregating := self.aggregating.set index later } := by
  refine ⟨accounted.recorded, forall_mem_set accounted.positions index within, accounted.earlier, ?_⟩
  intro message sent
  have moved := countP_set_add (awaits message.1) found later
  rw [same message sent] at moved
  rw [Nat.add_right_cancel moved]
  exact accounted.once message sent

/-- A task that pushes what it takes. -/
theorem Accounted.push (accounted : self.Accounted) {index : Nat} {task : ReceivingLoop}
    (found : self.aggregating[index]? = some task) (running : task.running = true)
    {messages : List ClientCollabMessage} {later : List (List ClientCollabMessage)}
    (waiting : self.rtMsgSender.unread task.next = messages :: later) :
    Accounted { self with
      aggregating := self.aggregating.set index { task with next := task.next + 1 }
      aggregateQueue := self.aggregateQueue.push messages
      pushed := self.pushed ++ [(task.next, messages)] } := by
  have within := BroadcastChannel.lt_of_waiting waiting
  refine ⟨accounted.recorded, forall_mem_set accounted.positions index within,
    List.forall_mem_append.mpr ⟨accounted.earlier, List.forall_mem_singleton.mpr within⟩, fun message sent => ?_⟩
  have moved := countP_set_add (awaits message.1) found { task with next := task.next + 1 }
  rw [List.count_append, Nat.add_right_comm, List.count_singleton]
  by_cases here : message.1 = task.next
  · -- it was the message that the task takes
    have taken : (task.next, messages) = message := by
      have recorded := accounted.recorded message sent
      rw [here, BroadcastChannel.getElem?_of_waiting waiting] at recorded
      exact Prod.ext here.symm (Option.some.inj recorded)
    have before : awaits message.1 task = true := by simp [awaits, running, here]
    have after : awaits message.1 { task with next := task.next + 1 } = false := by simp [awaits, here]
    rw [before, after] at moved
    rw [if_pos (beq_iff_eq.mpr taken), Nat.add_assoc]
    exact (congrArg _ moved).trans (accounted.once message sent)
  · have other : ¬(task.next, messages) = message := fun taken => here (congrArg Prod.fst taken).symm
    have same : awaits message.1 { task with next := task.next + 1 } = awaits message.1 task :=
      congrArg (task.running && ·)
        (decide_eq_decide.mpr ⟨Nat.le_of_succ_le, fun before => Nat.lt_of_le_of_ne before (Ne.symm here)⟩)
    rw [same] at moved
    rw [if_neg (mt beq_iff_eq.mp other), Nat.add_right_cancel moved]
    exact accounted.once message sent

theorem Accounted.aggregate (accounted : self.Accounted) {index : Nat}
    (reads : ∀ task ∈ self.aggregating[index]?, self.Reads task) : (self.aggregate index).Accounted := by
  rw [WSClient.aggregate]
  cases found : self.aggregating[index]? with
  | none => exact accounted
  | some task =>
    rcases task.turn_cases self.rtMsgSender with stays | ⟨behind, lagged⟩ | ⟨messages, later, running, waiting, took⟩
    · simp only [stays]
      exact accounted.replace found (accounted.positions task (List.mem_of_getElem? found)) fun _ _ => rfl
    · simp only [lagged]
      refine accounted.replace found (Nat.sub_le _ _) fun message sent => ?_
      rw [awaits, awaits, Bool.false_and]
      cases running : task.running with
      | false => rfl
      | true =>
        cases reads task found with
        | inl keepsUp => exact absurd (keepsUp running) (Nat.not_le.mpr behind)
        | inr read => simpa using read message sent
    · simp only [took]
      exact accounted.push found running waiting

theorem Accounted.step (accounted : self.Accounted) {event : WSClientEvent} (oneReader : self.OneReader event) :
    (self.step event).Accounted := by
  cases event with
  | connect =>
    rw [WSClient.step, WSClient.connect]
    split
    · exact accounted
    · exact ⟨accounted.recorded, accounted.positions, accounted.earlier, accounted.once⟩
  | connectResult result =>
    rw [WSClient.step, WSClient.connectResult]
    split
    · exact accounted
    · split <;> exact ⟨accounted.recorded, accounted.positions, accounted.earlier, accounted.once⟩
  | spawnAggregateMessage => exact accounted.spawnAggregateMessage
  | send messages => exact accounted.send oneReader
  | aggregate index => exact accounted.aggregate oneReader
  | disconnect | setState _ | tick =>
    exact ⟨accounted.recorded, accounted.positions, accounted.earlier, accounted.once⟩

theorem Accounted.entersOnce (accounted : self.Accounted) : self.EntersOnce := by
  intro message sent
  have once := accounted.once message sent
  refine ⟨once ▸ Nat.le_add_right _ _, fun read => ?_⟩
  have awaited : self.aggregating.countP (awaits message.1) = 0 := by
    refine List.countP_eq_zero.mpr fun task member => ?_
    rw [awaits, Bool.and_eq_true, decide_eq_true_eq]
    rintro ⟨running, before⟩
    exact absurd (read task member running) (Nat.not_lt.mpr before)
  rwa [awaited] at once

/-- A task that keeps up reads everything that is there. -/
theorem aggregate_reads_on {client : WSClient} {index : Nat} {task : ReceivingLoop}
    (found : client.aggregating[index]? = some task) (running : task.running = true)
    (keepsUp : KeepsUp client.rtMsgSender task) :
    (run step client
        (.replicate (client.rtMsgSender.unread task.next).length (.aggregate index))).aggregating[index]? =
      some { task with next := task.next + (client.rtMsgSender.unread task.next).length } := by
  have near := keepsUp running
  clear keepsUp
  -- by induction on what the task has still to read
  induction unread : client.rtMsgSender.unread task.next generalizing client task with
  | nil => exact found
  | cons messages later inductionHypothesis =>
    rw [unread] at near
    rcases task.turn_cases client.rtMsgSender with stays | ⟨behind, _⟩ | ⟨value, rest, _, waiting, took⟩
    · rw [ReceivingLoop.turn, if_pos running, BroadcastChannel.recv, unread, if_neg (Nat.not_lt.mpr near)] at stays
      cases stays
    · rw [unread] at behind
      exact absurd near (Nat.not_le.mpr behind)
    · obtain ⟨rfl, rfl⟩ := List.cons.inj (unread.symm.trans waiting)
      have taken : client.step (.aggregate index) =
          { client with
            aggregating := client.aggregating.set index { task with next := task.next + 1 }
            aggregateQueue := client.aggregateQueue.push messages
            pushed := client.pushed ++ [(task.next, messages)] } := by
        rw [step, aggregate, found]
        simp only [took]
      have moved : (client.step (.aggregate index)).aggregating[index]? =
          some { task with next := task.next + 1 } := by
        rw [taken]
        exact List.getElem?_set_self (List.getElem?_eq_some_iff.mp found).1
      have rest := BroadcastChannel.unread_succ waiting
      have channel : (client.step (.aggregate index)).rtMsgSender = client.rtMsgSender := by rw [taken]
      rw [List.length_cons, List.replicate_succ, run_cons, ← Nat.add_assoc, Nat.add_right_comm]
      refine inductionHypothesis moved running ?_ ?_
      · rw [channel, rest]
        exact Nat.le_of_succ_le near
      · rw [channel, rest]

end WSClient

/-- Each message that is sent while connected is pushed onto the queue exactly once, as long
    as exactly one task reads the channel. -/
theorem messages_enter_once (bufferCapacity : Nat) {events : List WSClientEvent}
    (oneReader : Always WSClient.step WSClient.OneReader (.new bufferCapacity) events) :
    (run WSClient.step (.new bufferCapacity) events).EntersOnce :=
  (oneReader.invariant (fun _ _ accounted admitted => accounted.step admitted)
    (WSClient.accounted_new bufferCapacity)).entersOnce

/-- An update that the user makes on an object. -/
def typedUpdate : ClientCollabMessage := .clientUpdateSync ⟨.client 1 "device", "object", 0, [0, 2, 2, 0, 0]⟩

theorem messages_enter_once_connected :
    (run WSClient.step (.new 2048)
      [.connect, .connectResult (.ok ()), .spawnAggregateMessage, .send [typedUpdate], .aggregate 0]).EntersOnce :=
  messages_enter_once 2048 (by decide)

/-- After a reconnect the task of the first connection reads on beside the new one. -/
theorem entered_twice :
    ¬ (run WSClient.step (.new 2048)
      [.connect, .connectResult (.ok ()), .spawnAggregateMessage, .disconnect,
        .connect, .connectResult (.ok ()), .spawnAggregateMessage,
        .send [typedUpdate], .aggregate 0, .aggregate 1]).EntersOnce := by
  decide

end FlowCloud.Client
