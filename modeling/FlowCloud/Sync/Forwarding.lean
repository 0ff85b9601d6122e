import FlowCloud.Foundation.BroadcastChannel
import FlowCloud.Sync.Numbers

/-! # Forwarding to a subscriber

The observers of a group's document and awareness send into one broadcast channel, and for
each subscription a task passes on what comes from other origins.  The task ends when the
channel reports that it lagged, and the group goes on without it.
-/

namespace FlowCloud.Sync

open FlowCloud.Foundation FlowCloud.Entity FlowCloud.Client

/-! ## The task -/

/-- A group's broadcasts and the forwarding task of one subscription. -/
structure Forwarding where
  objectId : String
  broadcast : CollabBroadcast
  sender : BroadcastChannel CollabMessage
  /-- Where in the channel the subscription began. -/
  joined : Nat
  receiver : ReceivingLoop
  stopSignal : Bool
  sink : List CollabMessage

/-- `CollabBroadcast::subscribe`, in a group that may have sent broadcasts before. -/
def Forwarding.subscribe (objectId : String) (broadcast : CollabBroadcast) (sender : BroadcastChannel CollabMessage) :
    Forwarding where
  objectId := objectId
  broadcast := broadcast
  sender := sender
  joined := sender.subscribe
  receiver := ⟨sender.subscribe, true⟩
  stopSignal := false
  sink := []

inductive ForwardingEvent where
  /-- A change of the document. -/
  | update (origin : CollabOrigin) (payload : Bytes)
  /-- A change of the awareness. -/
  | awareness (payload : Bytes)
  /-- The task asks the channel for the next broadcast. -/
  | receive
  /-- `Subscription::stop` sends the stop signal, or the subscription is dropped. -/
  | stop
  /-- The task sees the stop signal. -/
  | stopped
  deriving DecidableEq, Repr

variable (subscriberOrigin : CollabOrigin)

/-- The loop's body: what has the subscriber's own origin is passed over. -/
def Forwarding.forward (self : Forwarding) : Option CollabMessage → Forwarding
  | none => self
  | some message =>
    if message.origin = subscriberOrigin then self else { self with sink := self.sink ++ [message] }

def Forwarding.step (self : Forwarding) : ForwardingEvent → Forwarding
  | .update origin payload =>
    let (data, broadcast) := self.broadcast.observeUpdate self.objectId origin payload
    { self with broadcast, sender := self.sender.send (.serverBroadcast data) }
  | .awareness payload =>
    { self with sender := self.sender.send (.awarenessSync (.new self.objectId payload)) }
  | .receive =>
    let (message, receiver) := self.receiver.turn self.sender
    { self with receiver }.forward subscriberOrigin message
  | .stop => { self with stopSignal := true }
  | .stopped => if self.stopSignal then { self with receiver := { self.receiver with running := false } } else self

/-! ## What the sink is owed -/

/-- The broadcasts of other origins since the subscription began. -/
def Forwarding.foreign (self : Forwarding) : List CollabMessage :=
  (self.sender.unread self.joined).filter fun message => message.origin ≠ subscriberOrigin

/-- The task has nothing to do: it has read everything, or it is over. -/
def Forwarding.CaughtUp (self : Forwarding) : Prop :=
  self.receiver.running = true → self.sender.unread self.receiver.next = []

instance (self : Forwarding) : Decidable self.CaughtUp := inferInstanceAs (Decidable (_ → _))

/-- Of a subscription that was not stopped, the sink was passed broadcasts of other origins
    only, once and in order, and all of them when the task has caught up. -/
def Forwarding.MissesNothing (self : Forwarding) : Prop :=
  self.stopSignal = false →
    self.sink <+: self.foreign subscriberOrigin ∧ (self.CaughtUp → self.sink = self.foreign subscriberOrigin)

/-- When the task asks the channel, no more broadcasts wait than the channel keeps. -/
def TaskKeepsUp (self : Forwarding) (event : ForwardingEvent) : Prop :=
  event = .receive → KeepsUp self.sender self.receiver

instance (self : Forwarding) (event : ForwardingEvent) : Decidable (TaskKeepsUp self event) :=
  inferInstanceAs (Decidable (_ → _))

/-! ## The invariant -/

/-- What the task has taken, of which the sink was passed what comes from other origins. -/
structure Forwarding.Faithful (system : Forwarding) : Prop where
  follows : ∃ taken, Follows system.sender system.joined system.receiver taken ∧
    system.sink = taken.filter fun message => message.origin ≠ subscriberOrigin
  goesOn : system.stopSignal = false → system.receiver.running = true

variable {subscriberOrigin} {self : Forwarding}

theorem Forwarding.subscribe_faithful (objectId : String) (broadcast : CollabBroadcast)
    (sender : BroadcastChannel CollabMessage) :
    (Forwarding.subscribe objectId broadcast sender).Faithful subscriberOrigin where
  follows := ⟨[], follows_subscribe sender, rfl⟩
  goesOn _ := rfl

theorem Forwarding.forward_eq (self : Forwarding) (message : Option CollabMessage) :
    self.forward subscriberOrigin message =
      { self with sink := self.sink ++ message.toList.filter fun message => message.origin ≠ subscriberOrigin } := by
  cases message with
  | none => simp [Forwarding.forward]
  | some message =>
    rw [Forwarding.forward]
    split
    · rename_i own
      simp [own]
    · rename_i foreign
      simp [foreign]

theorem Forwarding.Faithful.step (faithful : self.Faithful subscriberOrigin) {event : ForwardingEvent}
    (keepsUp : TaskKeepsUp self event) : (self.step subscriberOrigin event).Faithful subscriberOrigin := by
  obtain ⟨⟨taken, follows, sink⟩, goesOn⟩ := faithful
  cases event with
  | update origin payload => exact ⟨⟨taken, follows.send _, sink⟩, goesOn⟩
  | awareness payload => exact ⟨⟨taken, follows.send _, sink⟩, goesOn⟩
  | receive =>
    simp only [Forwarding.step, Forwarding.forward_eq]
    refine ⟨⟨_, follows.turn, ?_⟩, fun unsignalled => (keepsUp rfl).turn_running (goesOn unsignalled)⟩
    rw [List.filter_append, sink]
  | stop => exact ⟨⟨taken, follows, sink⟩, by rintro ⟨⟩⟩
  | stopped =>
    simp only [Forwarding.step]
    split
    · rename_i signalled
      have ended : Follows self.sender self.joined { self.receiver with running := false } taken :=
        ⟨follows.since, follows.position, follows.inOrder, by rintro ⟨⟩⟩
      refine ⟨⟨taken, ended, sink⟩, fun unsignalled => ?_⟩
      rw [signalled] at unsignalled
      cases unsignalled
    · exact ⟨⟨taken, follows, sink⟩, goesOn⟩

theorem Forwarding.Faithful.missesNothing (faithful : self.Faithful subscriberOrigin) :
    self.MissesNothing subscriberOrigin := by
  obtain ⟨⟨taken, follows, sink⟩, goesOn⟩ := faithful
  intro unsignalled
  rw [sink, Forwarding.foreign]
  refine ⟨follows.inOrder.filter _, ?_⟩
  intro caughtUp
  have running := goesOn unsignalled
  have complete := follows.complete running
  rw [caughtUp running, List.append_nil] at complete
  rw [complete]

/-- In every run in which the task never has more broadcasts before it than the channel
    keeps, the subscription misses none. -/
theorem broadcasts_forwarded (subscriberOrigin : CollabOrigin) (objectId : String) (broadcast : CollabBroadcast)
    (sender : BroadcastChannel CollabMessage) (events : List ForwardingEvent)
    (keepsUp : Always (Forwarding.step subscriberOrigin) TaskKeepsUp (.subscribe objectId broadcast sender) events) :
    (run (Forwarding.step subscriberOrigin) (.subscribe objectId broadcast sender) events).MissesNothing
      subscriberOrigin := by
  have preserved : ∀ (state : Forwarding) event, state.Faithful subscriberOrigin → TaskKeepsUp state event →
      (state.step subscriberOrigin event).Faithful subscriberOrigin :=
    fun state event faithful keepsUp => faithful.step keepsUp
  exact (keepsUp.invariant preserved (Forwarding.subscribe_faithful objectId broadcast sender)).missesNothing

/-! ## A task that lags -/

/-- The channel of a new group: it is asked to keep ten broadcasts, and keeps sixteen. -/
def newSender : BroadcastChannel CollabMessage := ⟨16, []⟩

/-- Client 2 types, and the task for client 1 passes it on. -/
theorem update_forwarded :
    (run (Forwarding.step (.client 1 "device")) (.subscribe "object" .new newSender)
      [.update (.client 2 "phone") [1], .receive]).MissesNothing (.client 1 "device") :=
  broadcasts_forwarded (.client 1 "device") "object" .new newSender _ (by decide)

/-- Seventeen updates come before the task gets its turn. -/
theorem burst_not_forwarded :
    ¬ ∀ events : List ForwardingEvent,
        (run (Forwarding.step (.client 1 "device")) (.subscribe "object" .new newSender) events).MissesNothing
          (.client 1 "device") := by
  intro missesNothing
  have complete := (missesNothing (List.replicate 17 (.update (.client 2 "phone") [1]) ++ [.receive]) (by decide)).2
    (by decide)
  revert complete
  decide

end FlowCloud.Sync
