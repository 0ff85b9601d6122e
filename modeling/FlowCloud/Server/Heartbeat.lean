import FlowCloud.Server.FrameOrder

/-! # The heartbeat of a connection

A connection is given up when its last heartbeat is too old.  A ping or a pong of the client is
a heartbeat if it gets through the rate limiter, which counts all frames alike and stands in
front of everything else.
-/

namespace FlowCloud.Server

open FlowCloud.Foundation FlowCloud.Entity

inductive ProtocolError where
  | overflow
  | other (message : String)
  deriving DecidableEq, Repr

/-- `ws::Message` -/
inductive WsMessage where
  | ping
  | pong
  | text
  | binary (bytes : Bytes)
  | close
  | continuation
  | nop
  deriving DecidableEq, Repr

def WsMessage.binaryBytes : WsMessage → Option Bytes
  | binary bytes => some bytes
  | _ => none

/-- A sign of life. -/
def IsSign : Except ProtocolError WsMessage → Bool
  | .ok .ping | .ok .pong => true
  | _ => false

/-- The counters of the rate limiter are those of the client.  Times are in milliseconds. -/
structure Heartbeat where
  client : RealtimeClient
  hb : Nat
  clientTimeout : Nat
  stopped : Bool

namespace Heartbeat

def new (now clientTimeout : Nat) : Heartbeat := ⟨.new now, now, clientTimeout, false⟩

variable (self : Heartbeat)

/-- The client after the limiter has counted the frame, with the future of a binary one. -/
def counted (now : Nat) (msg : Except ProtocolError WsMessage) : RealtimeClient :=
  self.client.handle now (msg.toOption.bind WsMessage.binaryBytes)

def admits (now : Nat) (msg : Except ProtocolError WsMessage) : Bool :=
  (self.counted now msg).messageCount ≤ maxMessagesPerInterval

/-- `handle`, which reads the clock again for a heartbeat. -/
def handle (now recorded : Nat) (msg : Except ProtocolError WsMessage) : Heartbeat :=
  let counted := { self with client := self.counted now msg }
  if !self.admits now msg then counted
  else
    match msg with
    | .error .overflow => { counted with stopped := true }
    | .error (.other _) => counted
    | .ok .ping | .ok .pong => { counted with hb := recorded }
    | .ok .text | .ok (.binary _) | .ok .continuation | .ok .nop => counted
    | .ok .close => { counted with stopped := true }

def timesOut (now : Nat) : Bool := now - self.hb > self.clientTimeout

/-- The closure of `hb`, which runs once in each interval. -/
def check (now : Nat) : Heartbeat := if self.timesOut now then { self with stopped := true } else self

end Heartbeat

inductive HeartbeatEvent where
  | frame (now recorded : Nat) (msg : Except ProtocolError WsMessage)
  | check (now : Nat)

/-! ## What was heard of the client -/

/-- The connection, the last clock reading, when the signs of life arrived and which of them were
    recorded.  The beginning of the connection counts as one. -/
structure HeartbeatLog where
  heartbeat : Heartbeat
  clock : Nat
  arrived : List Nat
  recorded : List Nat

namespace HeartbeatLog

def start (now clientTimeout : Nat) : HeartbeatLog := ⟨.new now clientTimeout, now, [now], [now]⟩

variable (self : HeartbeatLog)

/-- A connection that was stopped takes nothing in any more. -/
def step : HeartbeatEvent → HeartbeatLog
  | .frame now recorded msg =>
    if self.heartbeat.stopped then self
    else
      { heartbeat := self.heartbeat.handle now recorded msg
        clock := recorded
        arrived := if IsSign msg then now :: self.arrived else self.arrived
        recorded := if IsSign msg && self.heartbeat.admits now msg then recorded :: self.recorded else self.recorded }
  | .check now =>
    if self.heartbeat.stopped then self
    else { self with heartbeat := self.heartbeat.check now, clock := now }

/-- The clock does not go back. -/
def Timed : HeartbeatEvent → Prop
  | .frame now recorded _ => self.clock ≤ now ∧ now ≤ recorded
  | .check now => self.clock ≤ now

/-- A check finds one of these times in its period. -/
def Within (times : List Nat) : HeartbeatEvent → Prop
  | .frame _ _ _ => True
  | .check now => self.heartbeat.stopped = false → ∃ time ∈ times, now - time ≤ self.heartbeat.clientTimeout

/-- The client has given a sign of life in the period before a check. -/
def Responsive : HeartbeatEvent → Prop := self.Within self.arrived

/-- The limiter has let one through in this period. -/
def Heard : HeartbeatEvent → Prop := self.Within self.recorded

/-- A check does not stop the connection. -/
def Kept : HeartbeatEvent → Prop
  | .frame _ _ _ => True
  | .check now => self.heartbeat.stopped = false → self.heartbeat.timesOut now = false

instance : DecidablePred self.Timed
  | .frame now recorded _ => inferInstanceAs (Decidable (self.clock ≤ now ∧ now ≤ recorded))
  | .check now => inferInstanceAs (Decidable (self.clock ≤ now))

instance (times : List Nat) : DecidablePred (self.Within times)
  | .frame _ _ _ => .isTrue trivial
  | .check now => inferInstanceAs (Decidable (self.heartbeat.stopped = false →
      ∃ time ∈ times, now - time ≤ self.heartbeat.clientTimeout))

instance : DecidablePred self.Responsive := inferInstanceAs (DecidablePred (self.Within self.arrived))

instance : DecidablePred self.Heard := inferInstanceAs (DecidablePred (self.Within self.recorded))

instance : DecidablePred self.Kept
  | .frame _ _ _ => .isTrue trivial
  | .check now => inferInstanceAs (Decidable (self.heartbeat.stopped = false → self.heartbeat.timesOut now = false))

/-- Every sign of life gets through the limiter. -/
def Calm : HeartbeatEvent → Prop
  | .frame now _ msg => self.heartbeat.stopped = false → IsSign msg = true → self.heartbeat.admits now msg = true
  | .check _ => True

end HeartbeatLog

/-! ## The last heartbeat -/

section Last

variable {self : Heartbeat} {now recorded : Nat} {msg : Except ProtocolError WsMessage}

theorem Heartbeat.handle_hb :
    (self.handle now recorded msg).hb = if IsSign msg && self.admits now msg then recorded else self.hb := by
  rw [handle.eq_def]
  cases self.admits now msg with
  | false => simp
  | true =>
    rcases msg with (_ | _) | (_ | _ | _ | _ | _ | _ | _)
    all_goals rfl

theorem Heartbeat.check_hb : (self.check now).hb = self.hb := by
  rw [check]
  split
  · rfl
  · rfl

/-- The heartbeat is the last sign of life that was recorded. -/
structure HeartbeatLog.Sound (log : HeartbeatLog) : Prop where
  present : log.heartbeat.hb ∈ log.recorded
  last : ∀ time ∈ log.recorded, time ≤ log.heartbeat.hb
  past : log.heartbeat.hb ≤ log.clock

variable {log : HeartbeatLog} {event : HeartbeatEvent}

theorem HeartbeatLog.Sound.start (created clientTimeout : Nat) : (HeartbeatLog.start created clientTimeout).Sound :=
  ⟨List.mem_cons_self, List.forall_mem_singleton.mpr (Nat.le_refl _), Nat.le_refl _⟩

theorem HeartbeatLog.Sound.step (sound : log.Sound) (timed : log.Timed event) : (log.step event).Sound := by
  cases event with
  | check now =>
    rw [HeartbeatLog.step]
    split
    · exact sound
    · refine ⟨?_, ?_, ?_⟩
      · rw [Heartbeat.check_hb]
        exact sound.present
      · rw [Heartbeat.check_hb]
        exact sound.last
      · rw [Heartbeat.check_hb]
        exact Nat.le_trans sound.past timed
  | frame now recorded msg =>
    obtain ⟨later, last⟩ := timed
    have past := sound.past
    rw [HeartbeatLog.step]
    split
    · exact sound
    · by_cases heard : (IsSign msg && log.heartbeat.admits now msg) = true
      · refine ⟨?_, ?_, ?_⟩
        · simp [Heartbeat.handle_hb, heard]
        · simp only [Heartbeat.handle_hb, heard, ↓reduceIte, List.forall_mem_cons, Nat.le_refl, true_and]
          intro time member
          have before := sound.last time member
          omega
        · simp [Heartbeat.handle_hb, heard]
      · refine ⟨?_, ?_, ?_⟩
        · simpa [Heartbeat.handle_hb, heard] using sound.present
        · simpa [Heartbeat.handle_hb, heard] using sound.last
        · simp only [Heartbeat.handle_hb, heard, Bool.false_eq_true, ↓reduceIte]
          omega

theorem HeartbeatLog.Sound.kept_iff (sound : log.Sound) : log.Kept event ↔ log.Heard event := by
  cases event with
  | frame now recorded msg => exact Iff.rfl
  | check now =>
    apply imp_congr_right
    intro _
    rw [Heartbeat.timesOut, decide_eq_false_iff_not, Nat.not_lt]
    constructor
    · intro recent
      exact ⟨_, sound.present, recent⟩
    · rintro ⟨time, member, recent⟩
      have last := sound.last time member
      omega

/-- Where the limiter lets every sign of life through, the heartbeat is as late as the last that arrived. -/
structure HeartbeatLog.Complete (log : HeartbeatLog) : Prop extends HeartbeatLog.Sound log where
  recent : ∀ time ∈ log.arrived, time ≤ log.heartbeat.hb

theorem HeartbeatLog.Complete.step (complete : log.Complete) (timed : log.Timed event) (calm : log.Calm event) :
    (log.step event).Complete := by
  refine ⟨complete.toSound.step timed, ?_⟩
  cases event with
  | check now =>
    rw [HeartbeatLog.step]
    split
    · exact complete.recent
    · rw [Heartbeat.check_hb]
      exact complete.recent
  | frame now recorded msg =>
    obtain ⟨later, last⟩ := timed
    have past := complete.past
    rw [HeartbeatLog.step]
    split
    · exact complete.recent
    · rename_i running
      have before : ∀ time ∈ log.arrived, time ≤ recorded := by
        intro time member
        have recent := complete.recent time member
        omega
      by_cases sign : IsSign msg = true
      · have admitted := calm (by simpa using running) sign
        simp only [Heartbeat.handle_hb, sign, admitted, Bool.and_self, ↓reduceIte, List.forall_mem_cons]
        exact ⟨last, before⟩
      · simpa [Heartbeat.handle_hb, sign] using complete.recent

/-- A responsive client whose signs of life the limiter lets through stays connected. -/
theorem responsive_kept {created clientTimeout : Nat} {events : List HeartbeatEvent}
    (timed : Always HeartbeatLog.step HeartbeatLog.Timed (.start created clientTimeout) events)
    (responsive : Always HeartbeatLog.step HeartbeatLog.Responsive (.start created clientTimeout) events)
    (calm : Always HeartbeatLog.step HeartbeatLog.Calm (.start created clientTimeout) events) :
    Always HeartbeatLog.step HeartbeatLog.Kept (.start created clientTimeout) events := by
  have initial : (HeartbeatLog.start created clientTimeout).Complete :=
    ⟨.start created clientTimeout, List.forall_mem_singleton.mpr (Nat.le_refl _)⟩
  apply ((timed.and calm).and responsive).imp_of_invariant (fun _ _ complete admitted =>
    HeartbeatLog.Complete.step complete admitted.1.1 admitted.1.2) _ initial
  intro log event complete admitted
  cases event with
  | frame now recorded msg => trivial
  | check now =>
    intro running
    obtain ⟨time, member, recent⟩ := admitted.2 running
    have late := complete.recent time member
    rw [Heartbeat.timesOut, decide_eq_false_iff_not]
    omega

end Last

/-- The heartbeat check never stops the connection exactly if each time it runs the limiter has let
    a ping or pong of the client through in the last period. -/
theorem heartbeat_kept_iff (created clientTimeout : Nat) (events : List HeartbeatEvent)
    (timed : Always HeartbeatLog.step HeartbeatLog.Timed (.start created clientTimeout) events) :
    Always HeartbeatLog.step HeartbeatLog.Kept (.start created clientTimeout) events ↔
      Always HeartbeatLog.step HeartbeatLog.Heard (.start created clientTimeout) events := by
  have preserved : ∀ condition : HeartbeatLog → HeartbeatEvent → Prop, ∀ log event, log.Sound →
      log.Timed event ∧ condition log event → (log.step event).Sound :=
    fun _ _ _ sound admitted => sound.step admitted.1
  have initial := HeartbeatLog.Sound.start created clientTimeout
  constructor
  · intro kept
    exact (timed.and kept).imp_of_invariant (preserved _) (fun _ _ sound both => sound.kept_iff.mp both.2) initial
  · intro heard
    exact (timed.and heard).imp_of_invariant (preserved _) (fun _ _ sound both => sound.kept_iff.mpr both.2) initial

/-! ## A busy client -/

/-- As many binary frames as the limiter lets through in a second, and then an answer to the ping
    of the server. -/
def busySecond (now : Nat) : List HeartbeatEvent :=
  List.replicate maxMessagesPerInterval (.frame now now (.ok (.binary []))) ++
    [.frame (now + 300) (now + 300) (.ok .pong)]

/-- One pong in front of the binary frames is enough. -/
theorem heartbeat_kept_once :
    Always HeartbeatLog.step HeartbeatLog.Kept (.start 0 2000)
      (.frame 500 500 (.ok .pong) :: busySecond 600 ++ [.check 2400]) :=
  (heartbeat_kept_iff 0 2000 (.frame 500 500 (.ok .pong) :: busySecond 600 ++ [.check 2400]) (by decide +kernel)).mpr
    (by decide +kernel)

/-- With a pong in every second and a period of two seconds, the connection is stopped. -/
theorem heartbeat_stops_busy :
    ¬ ∀ (created clientTimeout : Nat) (events : List HeartbeatEvent),
      Always HeartbeatLog.step HeartbeatLog.Timed (.start created clientTimeout) events →
      Always HeartbeatLog.step HeartbeatLog.Responsive (.start created clientTimeout) events →
      Always HeartbeatLog.step HeartbeatLog.Kept (.start created clientTimeout) events := by
  intro keeps
  have kept := keeps 0 2000 (busySecond 0 ++ busySecond 1001 ++ busySecond 2002 ++ [.check 2400]) (by decide +kernel)
    (by decide +kernel)
  revert kept
  decide +kernel

end FlowCloud.Server
