import Mathlib.Data.List.Basic

/-! # Broadcast channels

A sender appends values, and every receiver reads all of them at its own pace.  The channel
keeps its last `capacity` values only: a receiver that is further behind is told how many
values it missed and goes on with the oldest one that is kept.
-/

namespace FlowCloud.Foundation

structure BroadcastChannel (Value : Type) where
  capacity : Nat
  sent : List Value

/-- What a receiver is told. -/
inductive Received (Value : Type) where
  | value (value : Value)
  | lagged (missed : Nat)
  | empty
  deriving DecidableEq, Repr

namespace BroadcastChannel

variable {Value : Type} (self : BroadcastChannel Value)

def send (value : Value) : BroadcastChannel Value := { self with sent := self.sent ++ [value] }

/-- The position of a new receiver, who sees what is sent from now on. -/
def subscribe : Nat := self.sent.length

def unread (next : Nat) : List Value := self.sent.drop next

/-- What the receiver at a position is told, and its position afterwards. -/
def recv (next : Nat) : Received Value × Nat :=
  let behind := (self.unread next).length
  if self.capacity < behind then (.lagged (behind - self.capacity), self.sent.length - self.capacity)
  else
    match self.unread next with
    | [] => (.empty, next)
    | value :: _ => (.value value, next + 1)

@[simp] theorem unread_subscribe : self.unread self.subscribe = [] := List.drop_length

theorem unread_send {next : Nat} (joined : next ≤ self.sent.length) (value : Value) :
    (self.send value).unread next = self.unread next ++ [value] := List.drop_append_of_le_length joined

variable {self}

theorem unread_succ {next : Nat} {value : Value} {later : List Value} (waiting : self.unread next = value :: later) :
    self.unread (next + 1) = later := by
  rw [unread, ← List.drop_drop, ← unread, waiting]
  rfl

theorem lt_of_waiting {next : Nat} {value : Value} {later : List Value} (waiting : self.unread next = value :: later) :
    next < self.sent.length := by
  refine Nat.lt_of_not_le fun beyond => ?_
  rw [unread, List.drop_of_length_le beyond] at waiting
  cases waiting

/-- The only unread value is the one sent last. -/
theorem getLast?_of_waiting {next : Nat} {value : Value} (waiting : self.unread next = [value]) :
    self.sent.getLast? = some value := by
  rw [← List.take_append_drop next self.sent, ← unread, waiting, List.getLast?_concat]

theorem getElem?_of_waiting {next : Nat} {value : Value} {later : List Value}
    (waiting : self.unread next = value :: later) : self.sent[next]? = some value := by
  rw [← List.head?_drop, ← unread, waiting]
  rfl

end BroadcastChannel

/-! ## Loops over a channel -/

/-- A task that takes value after value and ends when it is told that it lagged. -/
structure ReceivingLoop where
  next : Nat
  running : Bool
  deriving DecidableEq, Repr

section Loop

variable {Value : Type}

def ReceivingLoop.turn (channel : BroadcastChannel Value) (self : ReceivingLoop) : Option Value × ReceivingLoop :=
  if self.running then
    match channel.recv self.next with
    | (.value value, next) => (some value, { self with next })
    | (.lagged _, next) => (none, ⟨next, false⟩)
    | (.empty, _) => (none, self)
  else (none, self)

/-- A loop stays where it is, ends at a lag, or takes the first unread value. -/
theorem ReceivingLoop.turn_cases (channel : BroadcastChannel Value) (self : ReceivingLoop) :
    self.turn channel = (none, self) ∨
      channel.capacity < (channel.unread self.next).length ∧
        self.turn channel = (none, ⟨channel.sent.length - channel.capacity, false⟩) ∨
      ∃ value later, self.running = true ∧ channel.unread self.next = value :: later ∧
        self.turn channel = (some value, { self with next := self.next + 1 }) := by
  rw [ReceivingLoop.turn]
  cases running : self.running with
  | false => exact .inl rfl
  | true =>
    rw [if_pos rfl, BroadcastChannel.recv]
    cases Nat.lt_or_ge channel.capacity (channel.unread self.next).length with
    | inl behind => exact .inr (.inl ⟨behind, by simp only [if_pos behind]⟩)
    | inr near =>
      simp only [if_neg (Nat.not_lt.mpr near)]
      cases waiting : channel.unread self.next with
      | nil => exact .inl rfl
      | cons value later => exact .inr (.inr ⟨value, later, trivial, rfl, rfl⟩)

/-- The loop is not told that it lagged. -/
def KeepsUp (channel : BroadcastChannel Value) (loop : ReceivingLoop) : Prop :=
  loop.running = true → (channel.unread loop.next).length ≤ channel.capacity

instance (channel : BroadcastChannel Value) (loop : ReceivingLoop) : Decidable (KeepsUp channel loop) :=
  inferInstanceAs (Decidable (_ → _))

/-- What a loop has taken since it joined: the values from there on in their order, and as
    long as it runs nothing but the unread ones is missing. -/
structure Follows (channel : BroadcastChannel Value) (joined : Nat) (loop : ReceivingLoop) (taken : List Value) :
    Prop where
  since : joined ≤ channel.sent.length
  position : loop.next ≤ channel.sent.length
  inOrder : taken <+: channel.unread joined
  complete : loop.running = true → taken ++ channel.unread loop.next = channel.unread joined

variable {channel : BroadcastChannel Value} {joined : Nat} {loop : ReceivingLoop} {taken : List Value}

theorem follows_subscribe (channel : BroadcastChannel Value) :
    Follows channel channel.subscribe ⟨channel.subscribe, true⟩ [] where
  since := Nat.le_refl _
  position := Nat.le_refl _
  inOrder := List.nil_prefix
  complete _ := rfl

theorem Follows.send (follows : Follows channel joined loop taken) (value : Value) :
    Follows (channel.send value) joined loop taken := by
  have longer : channel.sent.length ≤ (channel.send value).sent.length := by simp [BroadcastChannel.send]
  refine ⟨Nat.le_trans follows.since longer, Nat.le_trans follows.position longer, ?_, ?_⟩
  · rw [channel.unread_send follows.since]
    exact follows.inOrder.trans (List.prefix_append _ _)
  · intro running
    rw [channel.unread_send follows.since, channel.unread_send follows.position, ← List.append_assoc,
      follows.complete running]

theorem Follows.turn (follows : Follows channel joined loop taken) :
    Follows channel joined (loop.turn channel).2 (taken ++ (loop.turn channel).1.toList) := by
  rcases loop.turn_cases channel with stays | ⟨_, lagged⟩ | ⟨value, later, running, waiting, took⟩
  · rw [stays, Option.toList_none, List.append_nil]
    exact follows
  · rw [lagged, Option.toList_none, List.append_nil]
    exact ⟨follows.since, Nat.sub_le _ _, follows.inOrder, by rintro ⟨⟩⟩
  · have complete := follows.complete running
    rw [waiting] at complete
    rw [took, Option.toList_some]
    refine ⟨follows.since, BroadcastChannel.lt_of_waiting waiting, ?_, fun _ => ?_⟩
    · rw [← complete]
      exact ⟨later, by rw [List.append_assoc, List.singleton_append]⟩
    · rw [BroadcastChannel.unread_succ waiting, List.append_assoc, List.singleton_append, complete]

/-- A loop that ends keeps what it has taken. -/
theorem Follows.ends (follows : Follows channel joined loop taken) {next : Nat} (position : next ≤ channel.sent.length) :
    Follows channel joined ⟨next, false⟩ taken :=
  ⟨follows.since, position, follows.inOrder, by simp⟩

/-- A loop that keeps up goes on. -/
theorem KeepsUp.turn_running (keepsUp : KeepsUp channel loop) (running : loop.running = true) :
    (loop.turn channel).2.running = true := by
  rcases loop.turn_cases channel with stays | ⟨behind, _⟩ | ⟨value, later, _, _, took⟩
  · rw [stays]
    exact running
  · exact absurd (keepsUp running) (Nat.not_le.mpr behind)
  · rw [took]
    exact running

end Loop

end FlowCloud.Foundation
