import FlowCloud.Client.Gaps

/-! # Broadcast numbers

Every update of the group's document gets the next number of the group, the updates of the
subscriber too, which he is not sent.  The subscriber keeps the last number he received and
compares the next one with it.  Delivery is in order, so a broadcast counts as received or as
lost from the moment it is sent.
-/

namespace FlowCloud.Sync

open FlowCloud.Foundation FlowCloud.Entity FlowCloud.Client

/-! ## The two counters -/

/-- `CollabBroadcast`, of which the numbers need the counter only. -/
structure CollabBroadcast where
  broadcastSeqNumCounter : UInt32
  deriving DecidableEq, Repr

def CollabBroadcast.new : CollabBroadcast := ⟨0⟩

/-- The observer of `observe_collab_changes`: the broadcast of one update, and the counter
    after it.  Both sums are of 32 bits. -/
def CollabBroadcast.observeUpdate (self : CollabBroadcast) (objectId : String) (origin : CollabOrigin)
    (payload : Bytes) : BroadcastSync × CollabBroadcast :=
  let value := self.broadcastSeqNumCounter
  (⟨origin, objectId, payload, value + 1⟩, ⟨value + 1⟩)

/-- The group, the number its subscriber keeps, and what became of the group's numbers since
    he received the one he keeps. -/
structure BroadcastSystem where
  group : CollabBroadcast
  broadcastSeqNum : UInt32
  /-- A broadcast of another origin was lost. -/
  lost : Bool
  /-- The numbers started over. -/
  restarted : Bool
  /-- The numbers that were given to updates he did not receive. -/
  passed : Nat

/-- A new subscriber of a group that has given out some numbers. -/
def BroadcastSystem.joined (broadcastSeqNumCounter : UInt32) : BroadcastSystem :=
  ⟨⟨broadcastSeqNumCounter⟩, 0, false, false, broadcastSeqNumCounter.toNat⟩

inductive BroadcastEvent where
  | update (origin : CollabOrigin) (payload : Bytes) (delivered : Bool)
  /-- The group is dropped and created again. -/
  | recreate
  deriving DecidableEq, Repr

variable (object : SyncObject) (subscriberOrigin : CollabOrigin)

/-- The number of the next update. -/
def BroadcastSystem.nextSeqNum (self : BroadcastSystem) : UInt32 := self.group.broadcastSeqNumCounter + 1

def BroadcastSystem.step (self : BroadcastSystem) : BroadcastEvent → BroadcastSystem
  | .update origin payload delivered =>
    let (data, group) := self.group.observeUpdate object.objectId origin payload
    if origin ≠ subscriberOrigin ∧ delivered = true then
      { group
        broadcastSeqNum := (validateBroadcast object data self.broadcastSeqNum).2
        lost := false
        restarted := false
        passed := 0 }
    else
      -- his own updates are not echoed, and so they are never lost
      { self with
        group
        lost := self.lost || origin ≠ subscriberOrigin
        restarted := self.restarted || data.seqNum == 0
        passed := self.passed + 1 }
  | .recreate => { self with group := .new, restarted := true }

/-! ## What is claimed of the next broadcast -/

/-- With a broadcast lost the next one is reported, and the sum does not overflow. -/
def GapNoticed (self : BroadcastSystem) (event : BroadcastEvent) : Prop :=
  ∀ origin payload, event = .update origin payload true → origin ≠ subscriberOrigin →
    let data := (self.group.observeUpdate object.objectId origin payload).1
    (self.lost = true → ReportsGap object data self.broadcastSeqNum) ∧ self.broadcastSeqNum.toNat + 1 < 2 ^ 32

/-- With no broadcast lost the next one is not reported. -/
def NoFalseGap (self : BroadcastSystem) (event : BroadcastEvent) : Prop :=
  ∀ origin payload, event = .update origin payload true → origin ≠ subscriberOrigin → self.lost = false →
    ¬ ReportsGap object (self.group.observeUpdate object.objectId origin payload).1 self.broadcastSeqNum

/-- The numbers started over since the last broadcast, or do with the next one. -/
def BroadcastSystem.StartsOver (self : BroadcastSystem) : Prop := self.restarted = true ∨ self.nextSeqNum = 0

instance (self : BroadcastSystem) : Decidable self.StartsOver := inferInstanceAs (Decidable (_ ∨ _))

/-- The number kept is not the last of 32 bits; and where one was lost and the numbers started
    over, the next number is already past the one that would follow. -/
def NumbersTell (self : BroadcastSystem) (event : BroadcastEvent) : Prop :=
  ∀ origin payload, event = .update origin payload true → origin ≠ subscriberOrigin →
    self.broadcastSeqNum.toNat + 1 < 2 ^ 32 ∧
      (self.lost = true → self.StartsOver → self.broadcastSeqNum.toNat + 1 < self.nextSeqNum.toNat)

/-- No number went to an update of the subscriber or to one before he joined; and where the
    numbers started over, the next number is not past the one that would follow. -/
def NothingPassed (self : BroadcastSystem) (event : BroadcastEvent) : Prop :=
  ∀ origin payload, event = .update origin payload true → origin ≠ subscriberOrigin → self.lost = false →
    if self.StartsOver then self.nextSeqNum ≤ self.broadcastSeqNum + 1 else self.passed = 0

/-! ## The invariant -/

/-- As long as the numbers go on, the group is ahead by the numbers passed. -/
structure BroadcastSystem.InStep (system : BroadcastSystem) : Prop where
  ahead : system.restarted = false →
    system.group.broadcastSeqNumCounter.toNat = system.broadcastSeqNum.toNat + system.passed
  lostPassed : system.lost = true → 0 < system.passed

theorem joined_inStep (broadcastSeqNumCounter : UInt32) : (BroadcastSystem.joined broadcastSeqNumCounter).InStep where
  ahead _ := (Nat.zero_add _).symm
  lostPassed := by rintro ⟨⟩

theorem toNat_add_one {number : UInt32} (goesOn : number + 1 ≠ 0) : (number + 1).toNat = number.toNat + 1 := by
  have bound := number.toNat_lt
  rw [UInt32.toNat_add, UInt32.toNat_one]
  refine Nat.mod_eq_of_lt (Nat.lt_of_le_of_ne bound ?_)
  intro last
  exact goesOn (UInt32.toNat_inj.mp (by rw [UInt32.toNat_add, UInt32.toNat_one, last]; rfl))

theorem BroadcastSystem.InStep.step {self : BroadcastSystem} (inStep : self.InStep) (event : BroadcastEvent) :
    (self.step object subscriberOrigin event).InStep := by
  cases event with
  | recreate => exact ⟨fun goesOn => (Bool.noConfusion goesOn), inStep.lostPassed⟩
  | update origin payload delivered =>
    simp only [BroadcastSystem.step, CollabBroadcast.observeUpdate]
    split
    · -- the subscriber now keeps the number of the counter
      refine ⟨fun _ => ?_, by rintro ⟨⟩⟩
      simp only [validateBroadcast_stores, Nat.add_zero]
    · refine ⟨?_, fun _ => Nat.succ_pos _⟩
      simp only [Bool.or_eq_false_iff, beq_eq_false_iff_ne]
      rintro ⟨before, goesOn⟩
      rw [toNat_add_one goesOn, inStep.ahead before]
      rfl

/-! ## When the numbers tell -/

variable {object subscriberOrigin}

theorem reportsGap_next_iff {self : BroadcastSystem} {origin : CollabOrigin} {payload : Bytes}
    (room : self.broadcastSeqNum.toNat + 1 < 2 ^ 32) :
    ReportsGap object (self.group.observeUpdate object.objectId origin payload).1 self.broadcastSeqNum ↔
      self.broadcastSeqNum.toNat + 1 < self.nextSeqNum.toNat := by
  have sum : (self.broadcastSeqNum + 1).toNat = self.broadcastSeqNum.toNat + 1 := by
    rw [UInt32.toNat_add, UInt32.toNat_one, Nat.mod_eq_of_lt room]
  rw [reportsGap_iff, gt_iff_lt, UInt32.lt_iff_toNat_lt, sum]
  rfl

/-- The numbers go on: the next one is the kept one, the passed ones and one more. -/
theorem BroadcastSystem.InStep.nextSeqNum {self : BroadcastSystem} (inStep : self.InStep)
    (goesOn : ¬ self.StartsOver) : self.nextSeqNum.toNat = self.broadcastSeqNum.toNat + self.passed + 1 := by
  rw [BroadcastSystem.StartsOver, not_or, Bool.not_eq_true] at goesOn
  rw [BroadcastSystem.nextSeqNum, toNat_add_one goesOn.2, inStep.ahead goesOn.1]

theorem gapNoticed_iff {self : BroadcastSystem} (inStep : self.InStep) (event : BroadcastEvent) :
    GapNoticed object subscriberOrigin self event ↔ NumbersTell subscriberOrigin self event := by
  constructor
  · intro noticed origin payload same foreign
    obtain ⟨reported, room⟩ := noticed origin payload same foreign
    exact ⟨room, fun lost _ => (reportsGap_next_iff room).mp (reported lost)⟩
  · intro tell origin payload same foreign
    obtain ⟨room, startedOver⟩ := tell origin payload same foreign
    refine ⟨fun lost => (reportsGap_next_iff room).mpr ?_, room⟩
    cases Decidable.em self.StartsOver with
    | inl startsOver => exact startedOver lost startsOver
    | inr goesOn =>
      -- the lost broadcast has a number in between
      have between := inStep.lostPassed lost
      rw [inStep.nextSeqNum goesOn]
      omega

theorem noFalseGap_iff {self : BroadcastSystem} (inStep : self.InStep) (event : BroadcastEvent) :
    NoFalseGap object subscriberOrigin self event ↔ NothingPassed subscriberOrigin self event := by
  have same : ∀ origin payload,
      ¬ ReportsGap object (self.group.observeUpdate object.objectId origin payload).1 self.broadcastSeqNum ↔
        if self.StartsOver then self.nextSeqNum ≤ self.broadcastSeqNum + 1 else self.passed = 0 := by
    intro origin payload
    split
    · rw [reportsGap_iff, gt_iff_lt, UInt32.not_lt]
      rfl
    · rename_i goesOn
      have next := inStep.nextSeqNum goesOn
      have bound := self.nextSeqNum.toNat_lt
      rw [reportsGap_next_iff (by omega), next]
      omega
  constructor
  · intro quiet origin payload sent foreign kept
    exact (same origin payload).mp (quiet origin payload sent foreign kept)
  · intro nothing origin payload sent foreign kept
    exact (same origin payload).mpr (nothing origin payload sent foreign kept)

/-! ## Every run -/

/-- In every run a lost broadcast is noticed at the next one, without an overflow, exactly when
    the number kept is never the last of 32 bits and numbers that started over are past it. -/
theorem gap_noticed_iff (object : SyncObject) (subscriberOrigin : CollabOrigin) (broadcastSeqNumCounter : UInt32)
    (events : List BroadcastEvent) :
    Always (BroadcastSystem.step object subscriberOrigin) (GapNoticed object subscriberOrigin)
        (.joined broadcastSeqNumCounter) events ↔
      Always (BroadcastSystem.step object subscriberOrigin) (NumbersTell subscriberOrigin)
        (.joined broadcastSeqNumCounter) events :=
  always_congr_of_invariant
    (fun (system : BroadcastSystem) event (inStep : system.InStep) => inStep.step object subscriberOrigin event)
    (fun (system : BroadcastSystem) event (inStep : system.InStep) => gapNoticed_iff inStep event)
    (joined_inStep broadcastSeqNumCounter) events

/-- In every run a broadcast with nothing lost before it passes without a report exactly when
    no number went to an update that the subscriber is not sent. -/
theorem no_false_gap_iff (object : SyncObject) (subscriberOrigin : CollabOrigin) (broadcastSeqNumCounter : UInt32)
    (events : List BroadcastEvent) :
    Always (BroadcastSystem.step object subscriberOrigin) (NoFalseGap object subscriberOrigin)
        (.joined broadcastSeqNumCounter) events ↔
      Always (BroadcastSystem.step object subscriberOrigin) (NothingPassed subscriberOrigin)
        (.joined broadcastSeqNumCounter) events :=
  always_congr_of_invariant
    (fun (system : BroadcastSystem) event (inStep : system.InStep) => inStep.step object subscriberOrigin event)
    (fun (system : BroadcastSystem) event (inStep : system.InStep) => noFalseGap_iff inStep event)
    (joined_inStep broadcastSeqNumCounter) events

/-- Another writer's update, received or lost. -/
def foreignUpdate (delivered : Bool) : BroadcastEvent := .update (.client 2 "phone") [] delivered

/-- Two broadcasts are received, the group is created again, and of its broadcasts the first is
    lost. -/
theorem gap_unnoticed_after_recreate :
    ¬ ∀ (broadcastSeqNumCounter : UInt32) (events : List BroadcastEvent),
        Always (BroadcastSystem.step sharedObject (.client 1 "device")) (GapNoticed sharedObject (.client 1 "device"))
          (.joined broadcastSeqNumCounter) events := by
  intro noticed
  have always := noticed 0 ([foreignUpdate true, foreignUpdate true, .recreate, foreignUpdate false] ++
    [foreignUpdate true])
  have reported := (always.after (.client 2 "phone") [] rfl (by decide)).1 (by decide)
  revert reported
  decide

/-- The subscriber makes an update himself before the first one of another writer. -/
theorem false_gap_after_own :
    ¬ ∀ (broadcastSeqNumCounter : UInt32) (events : List BroadcastEvent),
        Always (BroadcastSystem.step sharedObject (.client 1 "device")) (NoFalseGap sharedObject (.client 1 "device"))
          (.joined broadcastSeqNumCounter) events := by
  intro quiet
  have always := quiet 0 ([.update (.client 1 "device") [] true] ++ [foreignUpdate true])
  have unreported := always.after (.client 2 "phone") [] rfl (by decide) (by decide)
  revert unreported
  decide

end FlowCloud.Sync
