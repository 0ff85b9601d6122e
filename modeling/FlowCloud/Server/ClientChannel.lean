import FlowCloud.Foundation.BroadcastChannel
import FlowCloud.Foundation.Runs
import FlowCloud.Entity.RealtimeMessage
import FlowCloud.Server.GroupBroadcast

/-! # From the client stream to the group

The runners send all lists of a user into one broadcast channel.  For each subscription a
task takes the lists of its object, filters them and passes them through a bounded channel
to the group's reader, which handles one message after the other.  When the subscription is
started again there is a new task and a new reader, and the old ones may still be at work.
-/

namespace FlowCloud.Server

open FlowCloud.Foundation FlowCloud.Entity

/-! ## One subscription -/

/-- The task of `client_channel` and the reader of `CollabBroadcast::subscribe`. -/
structure ClientChannel where
  streamRx : ReceivingLoop
  /-- The list that the task is sending. -/
  sending : Option (List ClientCollabMessage)
  /-- The lists on their way to the reader. -/
  rx : List (List ClientCollabMessage)
  /-- What the reader has still to handle of the list it took. -/
  collabMessages : List ClientCollabMessage
  stopSignal : Bool
  reading : Bool
  deriving DecidableEq, Repr

def ClientChannel.new (position : Nat) : ClientChannel := ⟨⟨position, true⟩, none, [], [], false, true⟩

/-- The capacity of the channel from the task to the reader. -/
abbrev clientChannelCapacity : Nat := 100

inductive ChannelTurn where
  /-- The task asks for the next packet, and the access checks decide as given. -/
  | receive (access : RealtimeAccessControl)
  | send
  | take
  | handle
  /-- The reader sees the stop signal. -/
  | stop

section Turns

variable (workspaceId : String) (uid : Int) (objectId : String)

/-- The loop over the packet's map has something to send for the own object at most. -/
def filterMessages (access : RealtimeAccessControl) (realtimeMsg : RealtimeMessage) :
    Option (List ClientCollabMessage) :=
  match realtimeMsg.tryIntoMessageByObjectId with
  | .error _ => none
  | .ok messagesByOid =>
    match messagesByOid.lookup objectId with
    | none => none
    | some originalMessages =>
      let validMessages := (accessControl workspaceId uid objectId access originalMessages).1
      if validMessages.isEmpty then none else some validMessages

def ClientChannel.receive (streamTx : BroadcastChannel RealtimeMessage) (access : RealtimeAccessControl)
    (self : ClientChannel) : ClientChannel :=
  if self.sending.isSome then self
  else
    let (realtimeMsg, streamRx) := self.streamRx.turn streamTx
    { self with streamRx, sending := realtimeMsg.bind (filterMessages workspaceId uid objectId access) }

def ClientChannel.send (self : ClientChannel) : ClientChannel :=
  match self.sending with
  | none => self
  | some validMessages =>
    -- without a reader the list is lost, and the task goes on to the next packet
    if !self.reading then { self with sending := none }
    else if self.rx.length < clientChannelCapacity then
      { self with sending := none, rx := self.rx ++ [validMessages] }
    else self

def ClientChannel.take (self : ClientChannel) : ClientChannel :=
  if self.reading && self.collabMessages.isEmpty then
    match self.rx with
    | collabMessages :: rx => { self with rx, collabMessages }
    -- the channel is closed when the task has ended
    | [] => if self.streamRx.running || self.sending.isSome then self else { self with reading := false }
  else self

/-- The next message is handed to `handle_client_collab_message`. -/
def ClientChannel.handle (self : ClientChannel) : Option ClientCollabMessage × ClientChannel :=
  match self.collabMessages with
  | [] => (none, self)
  | collabMessage :: collabMessages => (some collabMessage, { self with collabMessages })

/-- The stop signal is looked at between two lists. -/
def ClientChannel.stop (self : ClientChannel) : ClientChannel :=
  if self.stopSignal && self.collabMessages.isEmpty then { self with reading := false, rx := [] } else self

def ClientChannel.turn (streamTx : BroadcastChannel RealtimeMessage) (self : ClientChannel) :
    ChannelTurn → Option ClientCollabMessage × ClientChannel
  | .receive access => (none, self.receive workspaceId uid objectId streamTx access)
  | .send => (none, self.send)
  | .take => (none, self.take)
  | .handle => self.handle
  | .stop => (none, self.stop)

end Turns

/-! ## The messages of one object -/

/-- The client stream of a user, with his subscriptions to one object's group. -/
structure ObjectStream where
  streamTx : BroadcastChannel RealtimeMessage
  live : ClientChannel
  /-- The subscriptions that were removed, the last one first. -/
  stopped : List ClientChannel
  /-- What the runner forwarded for the object. -/
  forwarded : List ClientCollabMessage
  handled : List ClientCollabMessage

/-- A user who has just been subscribed. -/
def ObjectStream.subscribe (streamTx : BroadcastChannel RealtimeMessage) : ObjectStream where
  streamTx := streamTx
  live := .new streamTx.subscribe
  stopped := []
  forwarded := []
  handled := []

inductive ObjectStreamEvent where
  /-- A runner handles a list under an object id. -/
  | forward (objectId : String) (messages : List ClientCollabMessage)
  | live (turn : ChannelTurn)
  | stopped (index : Nat) (turn : ChannelTurn)
  /-- The user leaves the group. -/
  | removeUser

def ObjectStream.removeUser (self : ObjectStream) : ObjectStream :=
  { self with live := { self.live with stopSignal := true } }

def clientCollabV2 (objectId : String) (messages : List ClientCollabMessage) : RealtimeMessage :=
  .clientCollabV2 ((∅ : MessageByObjectId).insert objectId messages)

section Step

variable (workspaceId : String) (uid : Int) (objectId : String)

/-- What `handle_collab_message` does about the subscription before it forwards a list: an
    init sync removes the user, and a user who is no subscriber becomes one. -/
def ObjectStream.resubscribe (firstMessage : ClientCollabMessage) (self : ObjectStream) : ObjectStream :=
  let self := if firstMessage.isClientInitSync then self.removeUser else self
  if self.live.stopSignal && firstMessage.objectId == objectId then
    { self with live := .new self.streamTx.subscribe, stopped := self.live :: self.stopped }
  else self

def ObjectStream.forward (key : String) (messages : List ClientCollabMessage) (self : ObjectStream) : ObjectStream :=
  match messages with
  | [] => self
  | firstMessage :: _ =>
    let self := if key = objectId then self.resubscribe objectId firstMessage else self
    { self with
      streamTx := self.streamTx.send (clientCollabV2 key messages)
      forwarded := if key = objectId then self.forwarded ++ messages else self.forwarded }

def ObjectStream.step (self : ObjectStream) : ObjectStreamEvent → ObjectStream
  | .forward key messages => self.forward objectId key messages
  | .live turn =>
    let (message, live) := self.live.turn workspaceId uid objectId self.streamTx turn
    { self with live, handled := self.handled ++ message.toList }
  | .stopped index turn =>
    match self.stopped[index]? with
    | none => self
    | some channel =>
      let (message, channel) := channel.turn workspaceId uid objectId self.streamTx turn
      { self with stopped := self.stopped.set index channel, handled := self.handled ++ message.toList }
  | .removeUser => self.removeUser

/-! ## What is claimed -/

/-- Nothing is left to do on the way. -/
def ClientChannel.Settled (streamTx : BroadcastChannel RealtimeMessage) (self : ClientChannel) : Prop :=
  (self.streamRx.running = true → streamTx.unread self.streamRx.next = []) ∧ self.sending = none ∧
    (self.reading = true → self.rx = [] ∧ self.collabMessages = [])

/-- What was handled is what was forwarded, in order and once, up to what is still on its
    way. -/
def ObjectStream.HandlesOnce (self : ObjectStream) : Prop :=
  self.handled <+: self.forwarded ∧ (self.live.Settled self.streamTx → self.handled = self.forwarded)

/-- After the step the user is a subscriber and has write permission. -/
def StaysWriter (self : ObjectStream) (event : ObjectStreamEvent) : Prop :=
  (self.step workspaceId uid objectId event).live.stopSignal = false ∧
    ∀ access, event = .live (.receive access) → access.canWriteCollab workspaceId uid objectId = .ok true

/-- The task is never told that it lagged; a subscription is started again when nothing is
    on its way; and a reader that was told to stop takes no other list. -/
def PassesOn (self : ObjectStream) : ObjectStreamEvent → Prop
  | .forward key (firstMessage :: _) =>
    key = objectId → firstMessage.isClientInitSync = true → self.live.Settled self.streamTx
  | .live (.receive _) => KeepsUp self.streamTx self.live.streamRx
  | .stopped index .take => ∀ channel, self.stopped[index]? = some channel → channel.reading = true → channel.rx = []
  | _ => True

end Step

/-! ## The invariant of one subscription -/

section Channel

variable {workspaceId : String} {uid : Int} {objectId : String} {streamTx : BroadcastChannel RealtimeMessage}

def packetMessages (objectId : String) (realtimeMsg : RealtimeMessage) : List ClientCollabMessage :=
  match realtimeMsg.tryIntoMessageByObjectId with
  | .ok messagesByOid => messagesByOid.messages objectId
  | .error _ => []

def packetsMessages (objectId : String) (packets : List RealtimeMessage) : List ClientCollabMessage :=
  packets.flatMap (packetMessages objectId)

@[simp] theorem packetsMessages_nil : packetsMessages objectId [] = [] := rfl

@[simp] theorem packetsMessages_singleton (packet : RealtimeMessage) :
    packetsMessages objectId [packet] = packetMessages objectId packet := List.flatMap_singleton _ _

theorem packetsMessages_append (first second : List RealtimeMessage) :
    packetsMessages objectId (first ++ second) = packetsMessages objectId first ++ packetsMessages objectId second :=
  List.flatMap_append

theorem packetMessages_clientCollabV2 (key : String) (messages : List ClientCollabMessage) :
    packetMessages objectId (clientCollabV2 key messages) = if key = objectId then messages else [] := by
  simp only [packetMessages, clientCollabV2, RealtimeMessage.tryIntoMessageByObjectId, MessageByObjectId.messages]
  split
  · rename_i same
    subst same
    rw [AList.lookup_insert]
    rfl
  · rename_i other
    rw [AList.lookup_insert_ne (Ne.symm other)]
    rfl

/-- A writer's messages all pass the filter. -/
theorem filterMessages_writer {access : RealtimeAccessControl}
    (canWrite : access.canWriteCollab workspaceId uid objectId = .ok true) (realtimeMsg : RealtimeMessage) :
    (filterMessages workspaceId uid objectId access realtimeMsg).getD [] = packetMessages objectId realtimeMsg := by
  have valid : ∀ messages, (accessControl workspaceId uid objectId access messages).1 = messages := by
    intro messages
    simp [accessControl, canWrite, unwrapOrFalse]
  rw [filterMessages, packetMessages]
  cases realtimeMsg.tryIntoMessageByObjectId with
  | error failure => rfl
  | ok messagesByOid =>
    simp only [MessageByObjectId.messages]
    cases messagesByOid.lookup objectId with
    | none => rfl
    | some originalMessages =>
      simp only [valid]
      cases originalMessages <;> rfl

/-- What has been taken from the stream and not been handled. -/
def ClientChannel.waiting (self : ClientChannel) : List ClientCollabMessage :=
  self.collabMessages ++ self.rx.flatten ++ self.sending.getD []

/-- Both ends of a live subscription work, and what it has taken since it joined is what was
    handled and then what waits. -/
structure Passing (objectId : String) (streamTx : BroadcastChannel RealtimeMessage) (joined : Nat)
    (channel : ClientChannel) (handled : List ClientCollabMessage) : Prop where
  follows : ∃ taken, Follows streamTx joined channel.streamRx taken ∧
    packetsMessages objectId taken = handled ++ channel.waiting
  running : channel.streamRx.running = true
  reading : channel.reading = true

variable {joined : Nat} {channel : ClientChannel} {handled : List ClientCollabMessage}

theorem passing_new (streamTx : BroadcastChannel RealtimeMessage) :
    Passing objectId streamTx streamTx.subscribe (.new streamTx.subscribe) [] where
  follows := ⟨[], follows_subscribe streamTx, rfl⟩
  running := rfl
  reading := rfl

theorem Passing.send_packet (passing : Passing objectId streamTx joined channel handled)
    (packet : RealtimeMessage) : Passing objectId (streamTx.send packet) joined channel handled := by
  obtain ⟨⟨taken, follows, ordered⟩, running, reading⟩ := passing
  exact ⟨⟨taken, follows.send packet, ordered⟩, running, reading⟩

theorem Passing.receive (passing : Passing objectId streamTx joined channel handled) {access : RealtimeAccessControl}
    (canWrite : access.canWriteCollab workspaceId uid objectId = .ok true)
    (keepsUp : KeepsUp streamTx channel.streamRx) :
    Passing objectId streamTx joined (channel.receive workspaceId uid objectId streamTx access) handled := by
  obtain ⟨⟨taken, follows, ordered⟩, running, reading⟩ := passing
  rw [ClientChannel.receive]
  split
  · exact ⟨⟨taken, follows, ordered⟩, running, reading⟩
  · rename_i free
    rw [Bool.not_eq_true, Option.isSome_eq_false_iff, Option.isNone_iff_eq_none] at free
    refine ⟨⟨_, follows.turn, ?_⟩, keepsUp.turn_running running, reading⟩
    rw [packetsMessages_append, ordered, List.append_assoc]
    simp only [ClientChannel.waiting, free, Option.getD_none, List.append_nil]
    cases (channel.streamRx.turn streamTx).1 with
    | none => rfl
    | some realtimeMsg =>
      rw [Option.bind_some, filterMessages_writer canWrite, Option.toList_some, packetsMessages_singleton]

theorem Passing.send (passing : Passing objectId streamTx joined channel handled) :
    Passing objectId streamTx joined channel.send handled := by
  obtain ⟨⟨taken, follows, ordered⟩, running, reading⟩ := passing
  rw [ClientChannel.send]
  split
  · exact ⟨⟨taken, follows, ordered⟩, running, reading⟩
  · rename_i validMessages sending
    rw [reading]
    simp only [Bool.not_true, Bool.false_eq_true, if_false]
    split
    · refine ⟨⟨taken, follows, ?_⟩, running, rfl⟩
      rw [ordered, ClientChannel.waiting, ClientChannel.waiting, sending]
      simp
    · exact ⟨⟨taken, follows, ordered⟩, running, reading⟩

theorem Passing.take (passing : Passing objectId streamTx joined channel handled) :
    Passing objectId streamTx joined channel.take handled := by
  obtain ⟨⟨taken, follows, ordered⟩, running, reading⟩ := passing
  rw [ClientChannel.take]
  split
  · rename_i ready
    have done : channel.collabMessages = [] := List.isEmpty_iff.mp (Bool.and_eq_true_iff.mp ready).2
    split
    · rename_i collabMessages rx waiting
      refine ⟨⟨taken, follows, ?_⟩, running, reading⟩
      rw [ordered, ClientChannel.waiting, ClientChannel.waiting, waiting, done, List.flatten_cons, List.nil_append]
    · rw [running, Bool.true_or, if_pos rfl]
      exact ⟨⟨taken, follows, ordered⟩, running, reading⟩
  · exact ⟨⟨taken, follows, ordered⟩, running, reading⟩

theorem Passing.handle (passing : Passing objectId streamTx joined channel handled) :
    Passing objectId streamTx joined channel.handle.2 (handled ++ channel.handle.1.toList) := by
  obtain ⟨⟨taken, follows, ordered⟩, running, reading⟩ := passing
  rw [ClientChannel.handle]
  split
  · rw [Option.toList_none, List.append_nil]
    exact ⟨⟨taken, follows, ordered⟩, running, reading⟩
  · rename_i collabMessage collabMessages waiting
    refine ⟨⟨taken, follows, ?_⟩, running, reading⟩
    rw [ordered, ClientChannel.waiting, ClientChannel.waiting, waiting]
    simp

theorem Passing.stop (passing : Passing objectId streamTx joined channel handled)
    (subscribed : channel.stopSignal = false) : Passing objectId streamTx joined channel.stop handled := by
  rw [ClientChannel.stop, subscribed]
  exact passing

/-- Every turn of a live subscription. -/
theorem Passing.turn (passing : Passing objectId streamTx joined channel handled)
    (subscribed : channel.stopSignal = false) {turn : ChannelTurn}
    (keepsUp : ∀ access, turn = .receive access → KeepsUp streamTx channel.streamRx)
    (canWrite : ∀ access, turn = .receive access → access.canWriteCollab workspaceId uid objectId = .ok true) :
    Passing objectId streamTx joined (channel.turn workspaceId uid objectId streamTx turn).2
      (handled ++ (channel.turn workspaceId uid objectId streamTx turn).1.toList) := by
  cases turn with
  | receive access =>
    rw [ClientChannel.turn, Option.toList_none, List.append_nil]
    exact passing.receive (canWrite access rfl) (keepsUp access rfl)
  | send =>
    rw [ClientChannel.turn, Option.toList_none, List.append_nil]
    exact passing.send
  | take =>
    rw [ClientChannel.turn, Option.toList_none, List.append_nil]
    exact passing.take
  | handle => exact passing.handle
  | stop =>
    rw [ClientChannel.turn, Option.toList_none, List.append_nil]
    exact passing.stop subscribed

/-- A reader that has nothing of a list left and takes none hands nothing over. -/
theorem turn_quiet (workspaceId : String) (uid : Int) (objectId : String)
    (streamTx : BroadcastChannel RealtimeMessage) (quiet : channel.collabMessages = []) {turn : ChannelTurn}
    (empty : turn = .take → channel.reading = true → channel.rx = []) :
    (channel.turn workspaceId uid objectId streamTx turn).1 = none ∧
      (channel.turn workspaceId uid objectId streamTx turn).2.collabMessages = [] := by
  cases turn with
  | receive access =>
    refine ⟨rfl, ?_⟩
    rw [ClientChannel.turn, ClientChannel.receive]
    split <;> exact quiet
  | send =>
    refine ⟨rfl, ?_⟩
    rw [ClientChannel.turn, ClientChannel.send]
    split
    · exact quiet
    split
    · exact quiet
    split <;> exact quiet
  | take =>
    refine ⟨rfl, ?_⟩
    rw [ClientChannel.turn, ClientChannel.take]
    split
    · rename_i ready
      rw [empty rfl (Bool.and_eq_true_iff.mp ready).1]
      simp only
      split <;> exact quiet
    · exact quiet
  | handle =>
    rw [ClientChannel.turn, ClientChannel.handle, quiet]
    exact ⟨rfl, quiet⟩
  | stop =>
    refine ⟨rfl, ?_⟩
    rw [ClientChannel.turn, ClientChannel.stop]
    split <;> exact quiet

end Channel

/-! ## The invariant of the stream -/

/-- What was handled before the live subscription joined is all that was forwarded before,
    and the others have nothing left to hand over. -/
structure ObjectStream.InOrder (objectId : String) (system : ObjectStream) : Prop where
  passing : ∃ joined earlier handled, Passing objectId system.streamTx joined system.live handled ∧
    system.handled = earlier ++ handled ∧
    system.forwarded = earlier ++ packetsMessages objectId (system.streamTx.unread joined)
  subscribed : system.live.stopSignal = false
  quiet : ∀ channel ∈ system.stopped, channel.collabMessages = []

section Stream

variable {workspaceId : String} {uid : Int} {objectId : String} {self : ObjectStream}

theorem ObjectStream.subscribe_inOrder (streamTx : BroadcastChannel RealtimeMessage) :
    (ObjectStream.subscribe streamTx).InOrder objectId where
  passing := by
    refine ⟨streamTx.subscribe, [], [], passing_new streamTx, rfl, ?_⟩
    simp only [ObjectStream.subscribe, BroadcastChannel.unread_subscribe]
    rfl
  subscribed := rfl
  quiet := List.forall_mem_nil _

/-- What was forwarded is what was handled, then what waits, then what is unread. -/
theorem ObjectStream.InOrder.forwarded_eq (inOrder : self.InOrder objectId) :
    self.forwarded = self.handled ++ (self.live.waiting ++
      packetsMessages objectId (self.streamTx.unread self.live.streamRx.next)) := by
  obtain ⟨joined, earlier, handled, passing, handledEq, forwarded⟩ := inOrder.passing
  obtain ⟨⟨taken, follows, ordered⟩, running, _⟩ := passing
  rw [forwarded, handledEq, ← follows.complete running, packetsMessages_append, ordered]
  simp only [List.append_assoc]

theorem ObjectStream.InOrder.handled_of_settled (inOrder : self.InOrder objectId)
    (settled : self.live.Settled self.streamTx) : self.handled = self.forwarded := by
  obtain ⟨unread, sending, reader⟩ := settled
  obtain ⟨_, _, _, passing, _, _⟩ := inOrder.passing
  obtain ⟨rx, collabMessages⟩ := reader passing.reading
  rw [inOrder.forwarded_eq, ClientChannel.waiting, unread passing.running, sending, rx, collabMessages]
  simp

theorem ObjectStream.InOrder.handlesOnce (inOrder : self.InOrder objectId) : self.HandlesOnce := by
  refine ⟨?_, inOrder.handled_of_settled⟩
  rw [inOrder.forwarded_eq]
  exact List.prefix_append _ _

/-- A list is forwarded to the live subscription. -/
theorem ObjectStream.InOrder.send (inOrder : self.InOrder objectId) (key : String)
    (messages : List ClientCollabMessage) :
    ({ self with
        streamTx := self.streamTx.send (clientCollabV2 key messages)
        forwarded := if key = objectId then self.forwarded ++ messages else self.forwarded } :
      ObjectStream).InOrder objectId := by
  obtain ⟨⟨joined, earlier, handled, passing, handledEq, forwarded⟩, subscribed, quiet⟩ := inOrder
  obtain ⟨taken, follows, ordered⟩ := passing.follows
  refine ⟨⟨joined, earlier, handled, passing.send_packet _, handledEq, ?_⟩, subscribed, quiet⟩
  simp only [self.streamTx.unread_send follows.since, packetsMessages_append]
  rw [packetsMessages_singleton, packetMessages_clientCollabV2]
  split
  · rw [forwarded, List.append_assoc]
  · rw [forwarded, List.append_nil]

/-- A subscription that is started again when nothing is on its way. -/
theorem ObjectStream.InOrder.restart (inOrder : self.InOrder objectId) (settled : self.live.Settled self.streamTx) :
    ({ self with
        live := .new self.streamTx.subscribe
        stopped := { self.live with stopSignal := true } :: self.stopped } : ObjectStream).InOrder objectId := by
  have handled := inOrder.handled_of_settled settled
  obtain ⟨_, _, _, passing, _, _⟩ := inOrder.passing
  refine ⟨⟨self.streamTx.subscribe, self.forwarded, [], passing_new self.streamTx, ?_, ?_⟩, rfl, ?_⟩
  · rw [List.append_nil, handled]
  · rw [BroadcastChannel.unread_subscribe, packetsMessages_nil, List.append_nil]
  · exact List.forall_mem_cons.mpr ⟨(settled.2.2 passing.reading).2, inOrder.quiet⟩

theorem ObjectStream.InOrder.resubscribe (inOrder : self.InOrder objectId) {firstMessage : ClientCollabMessage}
    (settled : firstMessage.isClientInitSync = true → self.live.Settled self.streamTx)
    (subscribed : (self.resubscribe objectId firstMessage).live.stopSignal = false) :
    (self.resubscribe objectId firstMessage).InOrder objectId := by
  rw [ObjectStream.resubscribe] at subscribed ⊢
  cases init : firstMessage.isClientInitSync with
  | false =>
    simp only [Bool.false_eq_true, if_false, inOrder.subscribed, Bool.false_and]
    exact inOrder
  | true =>
    rw [init] at subscribed
    simp only [if_true, ObjectStream.removeUser, Bool.true_and] at subscribed ⊢
    split
    · exact inOrder.restart (settled init)
    · -- the user has left the group
      rename_i elsewhere
      rw [if_neg elsewhere] at subscribed
      cases subscribed

theorem ObjectStream.InOrder.forward (inOrder : self.InOrder objectId) {key : String}
    {messages : List ClientCollabMessage} (passesOn : PassesOn objectId self (.forward key messages))
    (subscribed : (self.forward objectId key messages).live.stopSignal = false) :
    (self.forward objectId key messages).InOrder objectId := by
  cases messages with
  | nil => exact inOrder
  | cons firstMessage rest =>
    rw [ObjectStream.forward] at subscribed ⊢
    refine ObjectStream.InOrder.send ?_ key (firstMessage :: rest)
    split
    · rename_i same
      simp only [if_pos same] at subscribed
      exact inOrder.resubscribe (passesOn same) subscribed
    · exact inOrder

theorem ObjectStream.InOrder.live (inOrder : self.InOrder objectId) {turn : ChannelTurn}
    (keepsUp : ∀ access, turn = .receive access → KeepsUp self.streamTx self.live.streamRx)
    (canWrite : ∀ access, turn = .receive access → access.canWriteCollab workspaceId uid objectId = .ok true)
    (subscribed : (self.live.turn workspaceId uid objectId self.streamTx turn).2.stopSignal = false) :
    (self.step workspaceId uid objectId (.live turn)).InOrder objectId := by
  obtain ⟨⟨joined, earlier, handled, passing, handledEq, forwarded⟩, before, quiet⟩ := inOrder
  refine ⟨⟨joined, earlier, _, passing.turn before keepsUp canWrite, ?_, forwarded⟩, subscribed, quiet⟩
  simp only [ObjectStream.step, handledEq, List.append_assoc]

theorem ObjectStream.InOrder.stopped (inOrder : self.InOrder objectId) {index : Nat} {turn : ChannelTurn}
    (passesOn : PassesOn objectId self (.stopped index turn)) :
    (self.step workspaceId uid objectId (.stopped index turn)).InOrder objectId := by
  simp only [ObjectStream.step]
  split
  · exact inOrder
  · rename_i channel found
    have empty : turn = .take → channel.reading = true → channel.rx = [] := by
      rintro rfl
      exact passesOn channel found
    obtain ⟨passing, subscribed, quiet⟩ := inOrder
    obtain ⟨nothing, still⟩ := turn_quiet workspaceId uid objectId self.streamTx
      (quiet channel (List.mem_of_getElem? found)) empty
    simp only [nothing, Option.toList_none, List.append_nil]
    refine ⟨passing, subscribed, ?_⟩
    intro other member
    cases List.mem_or_eq_of_mem_set member with
    | inl before => exact quiet other before
    | inr same =>
      obtain rfl := same
      exact still

theorem ObjectStream.InOrder.step (inOrder : self.InOrder objectId) {event : ObjectStreamEvent}
    (writes : StaysWriter workspaceId uid objectId self event) (passesOn : PassesOn objectId self event) :
    (self.step workspaceId uid objectId event).InOrder objectId := by
  obtain ⟨subscribed, canWrite⟩ := writes
  cases event with
  | forward key messages => exact inOrder.forward passesOn subscribed
  | live turn =>
    refine inOrder.live ?_ ?_ subscribed
    · rintro access rfl
      exact passesOn
    · rintro access rfl
      exact canWrite access rfl
  | stopped index turn => exact inOrder.stopped passesOn
  | removeUser => cases subscribed

end Stream

/-- In every run in which the task of the live subscription is never told that it lagged, a
    subscription is started again only when nothing is on its way, and no reader that was
    told to stop takes another list: as long as the user stays subscribed and may write,
    every message forwarded for the object is handled once and in order. -/
theorem messages_handled_once (workspaceId : String) (uid : Int) (objectId : String)
    (streamTx : BroadcastChannel RealtimeMessage) (events : List ObjectStreamEvent)
    (writes : Always (ObjectStream.step workspaceId uid objectId) (StaysWriter workspaceId uid objectId)
      (.subscribe streamTx) events)
    (passesOn : Always (ObjectStream.step workspaceId uid objectId) (PassesOn objectId) (.subscribe streamTx)
      events) :
    (run (ObjectStream.step workspaceId uid objectId) (.subscribe streamTx) events).HandlesOnce := by
  have preserved : ∀ (state : ObjectStream) event, state.InOrder objectId →
      StaysWriter workspaceId uid objectId state event ∧ PassesOn objectId state event →
        (state.step workspaceId uid objectId event).InOrder objectId :=
    fun state event inOrder admitted => inOrder.step admitted.1 admitted.2
  exact ((writes.and passesOn).invariant preserved (ObjectStream.subscribe_inOrder streamTx)).handlesOnce

/-! ## A task that lags -/

def writerAccess : RealtimeAccessControl where
  canReadCollab _ _ _ := .ok true
  canWriteCollab _ _ _ := .ok true

/-- Client 1 types `a`. -/
def editMessage : ClientCollabMessage :=
  .clientUpdateSync ⟨.client 1 "device", "object", 0, [0, 2, 11, 1, 1, 1, 0, 4, 1, 1, 116, 1, 97, 0]⟩

/-- The stream of a new connection: it is asked to keep a thousand packets, and keeps 1024. -/
def newStream : BroadcastChannel RealtimeMessage := ⟨1024, []⟩

theorem edit_handled_once :
    (run (ObjectStream.step "w" 1 "object") (.subscribe newStream)
      [.forward "object" [editMessage], .live (.receive writerAccess), .live .send, .live .take,
        .live .handle]).HandlesOnce := by
  refine messages_handled_once "w" 1 "object" newStream _ ?_ ?_
  · refine ⟨⟨rfl, ?_⟩, ⟨rfl, ?_⟩, ⟨rfl, ?_⟩, ⟨rfl, ?_⟩, ⟨rfl, ?_⟩, trivial⟩
    all_goals
      rintro access ⟨⟩
      try rfl
  · refine ⟨?_, ?_, trivial, trivial, trivial, trivial⟩
    · rintro _ ⟨⟩
    · exact fun _ => by decide

/-- A run of forwarded edits leaves them all in the stream. -/
theorem run_forwards (count : Nat) :
    run (ObjectStream.step "w" 1 "object") (.subscribe newStream)
        (List.replicate count (.forward "object" [editMessage])) =
      { streamTx := ⟨1024, List.replicate count (clientCollabV2 "object" [editMessage])⟩
        live := .new 0
        stopped := []
        forwarded := List.replicate count editMessage
        handled := [] } := by
  induction count with
  | zero => rfl
  | succ count inductionHypothesis =>
    rw [List.replicate_succ', run_append, inductionHypothesis, List.replicate_succ', List.replicate_succ']
    rfl

theorem staysWriter_forwards (count : Nat) {start : ObjectStream} (subscribed : start.live.stopSignal = false) :
    Always (ObjectStream.step "w" 1 "object") (StaysWriter "w" 1 "object") start
      (List.replicate count (.forward "object" [editMessage])) := by
  induction count generalizing start with
  | zero => trivial
  | succ count inductionHypothesis =>
    have same : (start.step "w" 1 "object" (.forward "object" [editMessage])).live.stopSignal = false := by
      simp [ObjectStream.step, ObjectStream.forward, ObjectStream.resubscribe, editMessage,
        ClientCollabMessage.isClientInitSync, subscribed]
    refine ⟨⟨same, ?_⟩, inductionHypothesis same⟩
    rintro access ⟨⟩

/-- The task that has the whole burst before it ends without taking anything. -/
theorem receive_burst (burst : List RealtimeMessage) (lags : 1024 < burst.length) :
    (ClientChannel.new 0).receive "w" 1 "object" ⟨1024, burst⟩ writerAccess =
      { ClientChannel.new 0 with streamRx := ⟨burst.length - 1024, false⟩ } := by
  have turned : (ClientChannel.new 0).streamRx.turn (⟨1024, burst⟩ : BroadcastChannel RealtimeMessage) =
      (none, ⟨burst.length - 1024, false⟩) := by
    simp [ReceivingLoop.turn, ClientChannel.new, BroadcastChannel.recv, BroadcastChannel.unread, lags]
  rw [ClientChannel.receive, turned]
  rfl

/-- More packets than the stream keeps are forwarded before the task gets its turn. -/
def burst (count : Nat) : List ObjectStreamEvent :=
  List.replicate count (.forward "object" [editMessage]) ++ [.live (.receive writerAccess)]

theorem staysWriter_burst (count : Nat) :
    Always (ObjectStream.step "w" 1 "object") (StaysWriter "w" 1 "object") (.subscribe newStream) (burst count) := by
  refine always_append.mpr ⟨staysWriter_forwards count rfl, ?_, trivial⟩
  rw [run_forwards]
  refine ⟨rfl, ?_⟩
  rintro access ⟨⟩
  rfl

theorem burst_lost {count : Nat} (lags : 1024 < count) :
    ¬ (run (ObjectStream.step "w" 1 "object") (.subscribe newStream) (burst count)).HandlesOnce := by
  have behind : 1024 < (List.replicate count (clientCollabV2 "object" [editMessage])).length := by
    rwa [List.length_replicate]
  rw [burst, run_append, run_forwards, run_cons, run_nil]
  simp only [ObjectStream.step, ClientChannel.turn, receive_burst _ behind]
  rintro ⟨_, settles⟩
  have lost := settles ⟨by rintro ⟨⟩, rfl, fun _ => ⟨rfl, rfl⟩⟩
  have some : List.replicate count editMessage ≠ [] := by
    rw [ne_eq, List.replicate_eq_nil_iff]
    exact Nat.ne_zero_of_lt lags
  exact some lost.symm

theorem burst_not_handled :
    ¬ ∀ events : List ObjectStreamEvent,
        Always (ObjectStream.step "w" 1 "object") (StaysWriter "w" 1 "object") (.subscribe newStream) events →
          (run (ObjectStream.step "w" 1 "object") (.subscribe newStream) events).HandlesOnce := by
  intro handlesOnce
  have lags : 1024 < 1025 := by decide
  exact burst_lost lags (handlesOnce (burst 1025) (staysWriter_burst 1025))

end FlowCloud.Server
