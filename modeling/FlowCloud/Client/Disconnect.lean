import FlowCloud.Client.Aggregate

/-! # After a disconnect

A connection has two tasks that outlive the call that made it: one receives from the server and
passes pongs on, the other one sends pings and announces `Connected` with each pong.
`disconnect` asks the ping task to stop and announces `Lost`, but it waits for neither task.
-/

namespace FlowCloud.Client

open FlowCloud.Foundation FlowCloud.Entity

/-! ## The tasks of a connection -/

structure ConnectStateNotify where
  state : ConnectState
  /-- What the subscribers were told. -/
  sent : List ConnectState
  deriving DecidableEq, Repr

def ConnectStateNotify.new : ConnectStateNotify := ⟨.lost, []⟩

/-- Only a change is announced. -/
def ConnectStateNotify.setState (self : ConnectStateNotify) (state : ConnectState) : ConnectStateNotify :=
  if self.state = state then self else ⟨state, self.sent ++ [state]⟩

@[simp] theorem ConnectStateNotify.state_setState (self : ConnectStateNotify) (state : ConnectState) :
    (self.setState state).state = state := by
  rw [setState]
  split
  · assumption
  · rfl

inductive PingTask where
  | selecting
  /-- A pong is taken and not announced yet. -/
  | pongTaken
  | stopped
  deriving DecidableEq, Repr

structure ServerFixIntervalPing where
  pongs : Nat
  stops : Nat
  pingCount : Nat
  task : PingTask
  deriving DecidableEq, Repr

namespace ServerFixIntervalPing

def pongCapacity : Nat := 1

def stopCapacity : Nat := 1000

def new : ServerFixIntervalPing := ⟨0, 0, 0, .selecting⟩

/-- The task has ended, or a stop is sent to it. -/
def Stops (self : ServerFixIntervalPing) : Prop := self.task = .stopped ∨ 0 < self.stops

instance (self : ServerFixIntervalPing) : Decidable self.Stops := inferInstanceAs (Decidable (_ ∨ _))

end ServerFixIntervalPing

structure WSConnection where
  ping : ServerFixIntervalPing
  /-- The task that receives from the server is running. -/
  receiving : Bool
  deriving DecidableEq, Repr

/-! ## The client -/

/-- Where a call of `connect` or `disconnect` is. -/
inductive ConnectionCall where
  | connectCleans
  | connectStarts
  | connectWaits
  /-- `Connected` is announced, the tasks are not spawned. -/
  | connectPings
  | disconnectCleans
  | disconnectEnds
  | returned
  deriving DecidableEq, Repr

def ConnectionCall.connects : ConnectionCall → Bool
  | connectCleans | connectStarts | connectWaits | connectPings => true
  | disconnectCleans | disconnectEnds | returned => false

/-- What of `WSClient` decides on its connection state. -/
structure PingingClient where
  stateNotify : ConnectStateNotify
  /-- All connections there have been. -/
  connections : List WSConnection
  /-- The ping of the client; an older one is dropped. -/
  ping : Option Nat
  calls : List ConnectionCall
  /-- A call of `disconnect` has returned, and `connect` was not called since. -/
  disconnected : Bool
  deriving DecidableEq, Repr

inductive ConnectionEvent where
  | connect
  | disconnect
  /-- A call goes on; `retry_connect` returns with the result. -/
  | advance (call : Nat) (result : Except WSError Unit)
  | pongReceived (connection : Nat)
  | receivingEnds (connection : Nat)
  /-- `delivered`: the ping channel has a receiver. -/
  | tick (connection : Nat) (delivered : Bool)
  | takePong (connection : Nat)
  | announcePong (connection : Nat)
  | takeStop (connection : Nat)
  /-- The sending task meets an error. -/
  | sendFails (error : WSError)

namespace PingingClient

def new : PingingClient := ⟨.new, [], none, [], false⟩

variable (self : PingingClient)

def setState (state : ConnectState) : PingingClient := { self with stateNotify := self.stateNotify.setState state }

def modifyPing (connection : Nat) (change : ServerFixIntervalPing → ServerFixIntervalPing) : PingingClient :=
  { self with connections := self.connections.modify connection fun found => { found with ping := change found.ping } }

def setCall (call : Nat) (later : ConnectionCall) : PingingClient := { self with calls := self.calls.set call later }

/-- `clean`: the stop of the ping, or none while its channel is full. -/
def clean : Option PingingClient :=
  match self.ping with
  | none => some self
  | some current =>
    match self.connections[current]? with
    | none => some self
    | some connection =>
      match connection.ping.task with
      | .stopped => some self
      | .selecting | .pongTaken =>
        if connection.ping.stops < ServerFixIntervalPing.stopCapacity then
          some (self.modifyPing current fun ping => { ping with stops := ping.stops + 1 })
        else none

/-- `start_ping` and `spawn_recv_server_message`. -/
def startPing : PingingClient :=
  { self with connections := self.connections ++ [⟨.new, true⟩], ping := some self.connections.length }

def connect : PingingClient :=
  let called := { self with disconnected := false }
  if self.stateNotify.state.isConnecting then called else { called with calls := self.calls ++ [.connectCleans] }

def disconnect : PingingClient := { self with calls := self.calls ++ [.disconnectCleans] }

def connectResult (call : Nat) : Except WSError Unit → PingingClient
  | .error (.authError _) => (self.setState .unauthorized).setCall call .returned
  | .error _ => (self.setState .lost).setCall call .returned
  | .ok () => (self.setState .connected).setCall call .connectPings

def advance (call : Nat) (result : Except WSError Unit) : PingingClient :=
  match self.calls[call]? with
  | some .connectCleans =>
    match self.clean with
    | some cleaned => cleaned.setCall call .connectStarts
    | none => self
  | some .connectStarts => (self.setState .connecting).setCall call .connectWaits
  | some .connectWaits => self.connectResult call result
  | some .connectPings => self.startPing.setCall call .returned
  | some .disconnectCleans =>
    match self.clean with
    | some cleaned => cleaned.setCall call .disconnectEnds
    | none => self
  | some .disconnectEnds => { (self.setState .lost).setCall call .returned with disconnected := true }
  | some .returned | none => self

/-- The receiving task passes a pong on and ends when nobody takes it. -/
def pongReceived (connection : Nat) : PingingClient :=
  { self with connections := self.connections.modify connection fun found =>
      if found.receiving then
        match found.ping.task with
        | .stopped => { found with receiving := false }
        | .selecting | .pongTaken =>
          if found.ping.pongs < ServerFixIntervalPing.pongCapacity then
            { found with ping := { found.ping with pongs := found.ping.pongs + 1 } }
          else found
      else found }

def receivingEnds (connection : Nat) : PingingClient :=
  { self with connections := self.connections.modify connection fun found => { found with receiving := false } }

def tick (maximumPingCount connection : Nat) (delivered : Bool) : PingingClient :=
  match self.connections[connection]? with
  | none => self
  | some found =>
    if found.ping.task ≠ .selecting then self
    else if !delivered then
      (self.setState .pingTimeout).modifyPing connection fun ping => { ping with task := .stopped }
    -- the count belongs to the ping of the client
    else if self.ping ≠ some connection then self
    else if maximumPingCount ≤ found.ping.pingCount then self.setState .pingTimeout
    else self.modifyPing connection fun ping => { ping with pingCount := ping.pingCount + 1 }

def takePong (connection : Nat) : PingingClient :=
  match self.connections[connection]? with
  | none => self
  | some found =>
    if found.ping.task ≠ .selecting ∨ found.ping.pongs = 0 then self
    else self.modifyPing connection fun ping =>
      { ping with pongs := ping.pongs - 1, task := if self.ping = some connection then .pongTaken else .selecting }

def announcePong (connection : Nat) : PingingClient :=
  match self.connections[connection]? with
  | none => self
  | some found =>
    if found.ping.task = .pongTaken then
      (self.setState .connected).modifyPing connection fun ping => { ping with pingCount := 0, task := .selecting }
    else self

/-- The stop channel holds a message or is closed. -/
def stopWaits (connection : Nat) (found : WSConnection) : Bool :=
  decide (0 < found.ping.stops) || self.ping != some connection

def takeStop (connection : Nat) : PingingClient :=
  match self.connections[connection]? with
  | none => self
  | some found =>
    if found.ping.task = .selecting ∧ self.stopWaits connection found = true then
      self.modifyPing connection fun ping => { ping with task := .stopped }
    else self

def sendFails : WSError → PingingClient
  | .lostConnection _ => self.setState .lost
  | .authError _ => self.setState .unauthorized
  | _ => self

def step (maximumPingCount : Nat) (self : PingingClient) : ConnectionEvent → PingingClient
  | .connect => self.connect
  | .disconnect => self.disconnect
  | .advance call result => self.advance call result
  | .pongReceived connection => self.pongReceived connection
  | .receivingEnds connection => self.receivingEnds connection
  | .tick connection delivered => self.tick maximumPingCount connection delivered
  | .takePong connection => self.takePong connection
  | .announcePong connection => self.announcePong connection
  | .takeStop connection => self.takeStop connection
  | .sendFails error => self.sendFails error

/-- A disconnect is final until `connect` is called. -/
def Final : Prop := self.disconnected = true → self.stateNotify.state ≠ .connected

instance : Decidable self.Final := inferInstanceAs (Decidable (_ → _))

def PingStopped : Prop :=
  ∀ current ∈ self.ping, ∀ found ∈ self.connections[current]?, found.ping.Stops

instance : Decidable self.PingStopped := inferInstanceAs (Decidable (∀ _ ∈ _, ∀ _ ∈ _, _))

/-- When a call of `disconnect` returns, no connection is being made and the ping task is asked to
    stop; and a disconnected client has no ping task that announces a pong instead of stopping. -/
def StopsFirst : ConnectionEvent → Prop
  | .advance call _ => self.calls[call]? = some .disconnectEnds →
    (∀ other ∈ self.calls, other.connects = false) ∧ self.PingStopped
  | .announcePong connection => self.disconnected = true →
    ∀ found ∈ self.connections[connection]?, self.stopWaits connection found = false
  | _ => True

instance : DecidablePred self.StopsFirst
  | .advance _ _ => inferInstanceAs (Decidable (_ → _ ∧ _))
  | .announcePong _ => inferInstanceAs (Decidable (_ → _))
  | .connect | .disconnect | .pongReceived _ | .receivingEnds _ | .tick _ _ | .takePong _ | .takeStop _
  | .sendFails _ => .isTrue trivial

/-! ## What holds of a disconnected client -/

structure Settled (client : PingingClient) : Prop where
  calls : ∀ call ∈ client.calls, call.connects = false
  ping : client.PingStopped
  state : client.stateNotify.state ≠ .connected

variable {self}

theorem PingStopped.modify {connection : Nat} {change : WSConnection → WSConnection} (stopped : self.PingStopped)
    (keeps : ∀ found, self.connections[connection]? = some found → found.ping.Stops → (change found).ping.Stops) :
    PingStopped { self with connections := self.connections.modify connection change } := by
  intro current known later found
  rw [Option.mem_def, List.getElem?_modify] at found
  obtain ⟨before, present, rfl⟩ := Option.map_eq_some_iff.mp found
  have stops := stopped current known before present
  split
  · rename_i same
    exact keeps before (same ▸ present) stops
  · exact stops

theorem Settled.setState (settled : self.Settled) {state : ConnectState} (other : state ≠ .connected) :
    (self.setState state).Settled := by
  refine ⟨settled.calls, settled.ping, ?_⟩
  show (self.stateNotify.setState state).state ≠ .connected
  rw [ConnectStateNotify.state_setState]
  exact other

theorem Settled.modify {connection : Nat} {change : WSConnection → WSConnection} (settled : self.Settled)
    (keeps : ∀ found, self.connections[connection]? = some found → found.ping.Stops → (change found).ping.Stops) :
    Settled { self with connections := self.connections.modify connection change } :=
  ⟨settled.calls, settled.ping.modify keeps, settled.state⟩

theorem Settled.setCall (settled : self.Settled) (call : Nat) {later : ConnectionCall}
    (other : later.connects = false) : (self.setCall call later).Settled :=
  ⟨forall_mem_set settled.calls call other, settled.ping, settled.state⟩

/-- Either there is no task to stop, or its channel has room for a stop. -/
theorem clean_cases {cleaned : PingingClient} (cleans : self.clean = some cleaned) :
    cleaned = self ∨
      ∃ current, cleaned = self.modifyPing current fun ping => { ping with stops := ping.stops + 1 } := by
  rw [PingingClient.clean] at cleans
  split at cleans
  · exact .inl (Option.some.inj cleans).symm
  · split at cleans
    · exact .inl (Option.some.inj cleans).symm
    · split at cleans
      · exact .inl (Option.some.inj cleans).symm
      all_goals
        split at cleans
        · exact .inr ⟨_, (Option.some.inj cleans).symm⟩
        · cases cleans

theorem Settled.clean {cleaned : PingingClient} (settled : self.Settled) (cleans : self.clean = some cleaned) :
    cleaned.Settled := by
  cases clean_cases cleans with
  | inl same =>
    obtain rfl := same
    exact settled
  | inr held =>
    obtain ⟨current, rfl⟩ := held
    exact settled.modify fun _ _ _ => .inr (Nat.succ_pos _)

theorem clean_disconnected {cleaned : PingingClient} (cleans : self.clean = some cleaned) :
    cleaned.disconnected = self.disconnected := by
  cases clean_cases cleans with
  | inl same =>
    obtain rfl := same
    rfl
  | inr held =>
    obtain ⟨current, rfl⟩ := held
    rfl

theorem Settled.pongReceived (settled : self.Settled) (connection : Nat) : (self.pongReceived connection).Settled := by
  refine settled.modify fun found _ stops => ?_
  split
  · split
    · exact stops
    all_goals
      split
      · exact stops
      · exact stops
  · exact stops

theorem Settled.tick (settled : self.Settled) (maximumPingCount connection : Nat) (delivered : Bool) :
    (self.tick maximumPingCount connection delivered).Settled := by
  have timeout : (self.setState .pingTimeout).Settled := settled.setState (by simp)
  rw [PingingClient.tick]
  split
  · exact settled
  split
  · exact settled
  split
  · exact timeout.modify fun _ _ _ => .inl rfl
  split
  · exact settled
  split
  · exact timeout
  · exact settled.modify fun _ _ stops => stops

theorem Settled.takePong (settled : self.Settled) (connection : Nat) : (self.takePong connection).Settled := by
  rw [PingingClient.takePong]
  split
  · exact settled
  · rename_i found present
    split
    · exact settled
    · rename_i selecting
      refine settled.modify fun other same stops => ?_
      cases present.symm.trans same
      -- a task that selects has not ended, so the stop is in its channel
      refine .inr (stops.resolve_left fun stopped => ?_)
      rw [stopped] at selecting
      simp at selecting

theorem Settled.takeStop (settled : self.Settled) (connection : Nat) : (self.takeStop connection).Settled := by
  rw [PingingClient.takeStop]
  split
  · exact settled
  · split
    · exact settled.modify fun _ _ _ => .inl rfl
    · exact settled

theorem Settled.sendFails (settled : self.Settled) (error : WSError) : (self.sendFails error).Settled := by
  cases error with
  | lostConnection text => exact settled.setState (by simp)
  | authError text => exact settled.setState (by simp)
  | tungsteniteError text | close text | http text | internal text => exact settled

/-- A client that stays disconnected has no task to announce a pong. -/
theorem Settled.announcePong (settled : self.Settled) {connection : Nat}
    (stopsFirst : ∀ found, self.connections[connection]? = some found → self.stopWaits connection found = false) :
    (self.announcePong connection).Settled := by
  rw [PingingClient.announcePong]
  split
  · exact settled
  · rename_i found present
    split
    · rename_i taken
      exfalso
      have waits := stopsFirst found present
      simp only [stopWaits, Bool.or_eq_false_iff, decide_eq_false_iff_not, bne_eq_false_iff_eq] at waits
      have stops := settled.ping connection waits.2 found present
      rw [ServerFixIntervalPing.Stops, taken] at stops
      simp at stops
      exact waits.1 stops
    · exact settled

/-- A call of `connect` that goes on finds the client connecting or connected. -/
theorem advance_connects {call : Nat} {current : ConnectionCall} (found : self.calls[call]? = some current)
    (connects : current.connects = true) (result : Except WSError Unit) :
    (self.advance call result).disconnected = self.disconnected := by
  rw [PingingClient.advance, found]
  cases current with
  | connectCleans =>
    cases cleans : self.clean with
    | none =>
      simp only
    | some cleaned =>
      have same : cleaned.disconnected = self.disconnected := clean_disconnected cleans
      exact same
  | connectStarts | connectPings => rfl
  | connectWaits =>
    show (self.connectResult call result).disconnected = self.disconnected
    unfold connectResult
    split <;> rfl
  | disconnectCleans | disconnectEnds | returned => cases connects

theorem settled_advance (settled : self.disconnected = true → self.Settled) {call : Nat}
    {result : Except WSError Unit} (stopsFirst : self.StopsFirst (.advance call result))
    (disconnected : (self.advance call result).disconnected = true) : (self.advance call result).Settled := by
  cases found : self.calls[call]? with
  | none =>
    rw [PingingClient.advance, found] at disconnected ⊢
    exact settled disconnected
  | some current =>
    cases connects : current.connects with
    | true =>
      rw [advance_connects found connects] at disconnected
      have none := (settled disconnected).calls current (List.mem_of_getElem? found)
      rw [connects] at none
      cases none
    | false =>
      rw [PingingClient.advance, found] at disconnected ⊢
      cases current with
      | connectCleans | connectStarts | connectWaits | connectPings => cases connects
      | returned => exact settled disconnected
      | disconnectCleans =>
        dsimp only at disconnected ⊢
        split at disconnected
        · rename_i cleaned cleans
          have before : self.disconnected = true := (clean_disconnected cleans).symm.trans disconnected
          exact ((settled before).clean cleans).setCall call rfl
        · exact settled disconnected
      | disconnectEnds =>
        obtain ⟨calls, ping⟩ := stopsFirst found
        refine ⟨forall_mem_set calls call rfl, ping, ?_⟩
        show (self.stateNotify.setState .lost).state ≠ .connected
        simp

/-- The tasks and the failures of a send leave the calls alone. -/
theorem task_disconnected (maximumPingCount : Nat) {event : ConnectionEvent} (noCall : event ≠ .connect)
    (noAdvance : ∀ call result, event ≠ .advance call result) :
    (step maximumPingCount self event).disconnected = self.disconnected := by
  cases event with
  | connect => exact absurd rfl noCall
  | advance call result => exact absurd rfl (noAdvance call result)
  | disconnect | pongReceived connection | receivingEnds connection => rfl
  | tick connection delivered =>
    rw [PingingClient.step, PingingClient.tick]
    repeat' split
    all_goals rfl
  | takePong connection =>
    rw [PingingClient.step, PingingClient.takePong]
    repeat' split
    all_goals rfl
  | announcePong connection =>
    rw [PingingClient.step, PingingClient.announcePong]
    repeat' split
    all_goals rfl
  | takeStop connection =>
    rw [PingingClient.step, PingingClient.takeStop]
    repeat' split
    all_goals rfl
  | sendFails error =>
    rw [PingingClient.step, PingingClient.sendFails.eq_def]
    split <;> rfl

/-- One step from a client that is settled whenever it is disconnected. -/
theorem settled_step (maximumPingCount : Nat) (settled : self.disconnected = true → self.Settled)
    {event : ConnectionEvent} (stopsFirst : self.StopsFirst event)
    (disconnected : (step maximumPingCount self event).disconnected = true) :
    (step maximumPingCount self event).Settled := by
  have before (noCall : event ≠ .connect) (noAdvance : ∀ call result, event ≠ .advance call result) : self.Settled :=
    settled ((task_disconnected maximumPingCount noCall noAdvance).symm.trans disconnected)
  cases event with
  | connect =>
    rw [PingingClient.step, PingingClient.connect] at disconnected
    split at disconnected <;> cases disconnected
  | advance call result => exact settled_advance settled stopsFirst disconnected
  | disconnect =>
    obtain ⟨calls, ping, state⟩ := before (by simp) (by simp)
    exact ⟨List.forall_mem_append.mpr ⟨calls, List.forall_mem_singleton.mpr rfl⟩, ping, state⟩
  | pongReceived connection => exact (before (by simp) (by simp)).pongReceived connection
  | receivingEnds connection => exact (before (by simp) (by simp)).modify fun _ _ stops => stops
  | tick connection delivered => exact (before (by simp) (by simp)).tick maximumPingCount connection delivered
  | takePong connection => exact (before (by simp) (by simp)).takePong connection
  | announcePong connection =>
    rw [task_disconnected maximumPingCount (by simp) (by simp)] at disconnected
    exact (settled disconnected).announcePong (stopsFirst disconnected)
  | takeStop connection => exact (before (by simp) (by simp)).takeStop connection
  | sendFails error => exact (before (by simp) (by simp)).sendFails error

end PingingClient

/-- After a `disconnect` has returned, `Connected` is not announced before `connect` is called, as
    long as no other call of `connect` is then under way and every ping task that is asked to stop
    does so before it announces a pong. -/
theorem disconnect_is_final (maximumPingCount : Nat) {events : List ConnectionEvent}
    (stopsFirst : Always (PingingClient.step maximumPingCount) PingingClient.StopsFirst .new events) :
    (run (PingingClient.step maximumPingCount) .new events).Final := by
  have settled : (run (PingingClient.step maximumPingCount) .new events).disconnected = true →
      (run (PingingClient.step maximumPingCount) .new events).Settled :=
    Always.invariant
      (fun (client : PingingClient) _ (before : client.disconnected = true → client.Settled) admitted =>
        PingingClient.settled_step maximumPingCount before admitted)
      (fun disconnected => by cases disconnected) stopsFirst
  exact fun disconnected => (settled disconnected).state

/-- A client connects, and the server answers the first ping. -/
def connectedOnce : List ConnectionEvent :=
  [.connect, .advance 0 (.ok ()), .advance 0 (.ok ()), .advance 0 (.ok ()), .advance 0 (.ok ()), .tick 0 true,
    .pongReceived 0]

/-- The ping task takes the stop first. -/
theorem disconnect_is_final_stopped :
    (run (PingingClient.step 10) .new
      (connectedOnce ++ [.disconnect, .advance 1 (.ok ()), .advance 1 (.ok ()), .takeStop 0])).Final :=
  disconnect_is_final 10 (by decide)

/-- The pong waits beside the stop, and the ping task takes the pong. -/
theorem connected_after_disconnect :
    ¬ (run (PingingClient.step 10) .new (connectedOnce ++
      [.disconnect, .advance 1 (.ok ()), .advance 1 (.ok ()), .takePong 0, .announcePong 0])).Final := by
  decide

end FlowCloud.Client
