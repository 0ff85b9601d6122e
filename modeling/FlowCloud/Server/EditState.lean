import FlowCloud.Foundation.Counters
import FlowCloud.Foundation.Runs

/-! # When a document is due to be flushed

`CollabEditState` counts the edits of a document with a counter that wraps, and notes the
count and the time of the last tick.  `EditLog` is what it stands for: how many edits there
were before and since the last tick, and when that was.
-/

namespace FlowCloud.Server

open FlowCloud.Foundation

/-- Times are in seconds. -/
structure CollabEditState where
  editCount : UInt32
  prevEditCount : UInt32
  prevFlushTimestamp : Int
  didLoadCollab : Bool
  deriving DecidableEq, Repr

inductive EditEvent where
  | incrementEditCount
  | setDidLoad
  | tick (now : Int)

namespace CollabEditState

def new (now : Int) : CollabEditState := ⟨0, 0, now, false⟩

variable (self : CollabEditState)

def setDidLoad : CollabEditState := { self with didLoadCollab := true }

def incrementEditCount : CollabEditState := { self with editCount := self.editCount + 1 }

def tick (now : Int) : CollabEditState :=
  { self with prevEditCount := self.editCount, prevFlushTimestamp := now }

/-- The clock is read only when the count is not above what it was at the last tick. -/
def shouldFlush (now : Int) (maxEditCount : UInt32) (maxInterval : Int) : Bool :=
  if self.editCount > self.prevEditCount then self.editCount - self.prevEditCount ≥ maxEditCount
  else if now > self.prevFlushTimestamp ∧ self.editCount ≠ self.prevEditCount then
    now - self.prevFlushTimestamp ≥ maxInterval
  else false

def step : EditEvent → CollabEditState
  | .incrementEditCount => self.incrementEditCount
  | .setDidLoad => self.setDidLoad
  | .tick now => self.tick now

/-- `CollabStoragePlugin::receive_update`, which reads the clock once to ask and once to tick. -/
def receiveUpdate (asked ticked : Int) : CollabEditState :=
  let counted := self.incrementEditCount
  if !counted.didLoadCollab then counted
  else if counted.shouldFlush asked 100 (3 * 60) then counted.tick ticked
  else counted

/-- Whatever an update finds, it is an edit with or without a tick after it. -/
theorem receiveUpdate_eq_run (asked ticked : Int) :
    self.receiveUpdate asked ticked = run step self [.incrementEditCount] ∨
      self.receiveUpdate asked ticked = run step self [.incrementEditCount, .tick ticked] := by
  rw [receiveUpdate]
  by_cases loaded : !self.incrementEditCount.didLoadCollab
  · exact Or.inl (if_pos loaded)
  · rw [if_neg loaded]
    by_cases flush : self.incrementEditCount.shouldFlush asked 100 (3 * 60) = true
    · exact Or.inr (if_pos flush)
    · exact Or.inl (if_neg flush)

end CollabEditState

/-! ## What is due -/

structure EditLog where
  before : Nat
  edits : Nat
  tickedAt : Int

namespace EditLog

def new (now : Int) : EditLog := ⟨0, 0, now⟩

variable (self : EditLog)

def step : EditEvent → EditLog
  | .incrementEditCount => { self with edits := self.edits + 1 }
  | .setDidLoad => self
  | .tick now => ⟨self.before + self.edits, 0, now⟩

/-- Enough edits since the last tick, or one of them and enough time. -/
def Due (now : Int) (maxEditCount : UInt32) (maxInterval : Int) : Prop :=
  maxEditCount.toNat ≤ self.edits ∨ 0 < self.edits ∧ maxInterval ≤ now - self.tickedAt

/-- Neither of the two limits is reached. -/
def Early (now : Int) (maxEditCount : UInt32) (maxInterval : Int) : Prop :=
  self.edits < maxEditCount.toNat ∧ now - self.tickedAt < maxInterval

/-- Where the counter stands at the last tick, and how far it is from there up to its range. -/
def counter : Nat := self.before % UInt32.size

def shown : Nat := self.edits % UInt32.size

/-- What has to hold for the answer of `should_flush` to be the one that is due. -/
def Answered (now : Int) (maxEditCount : UInt32) (maxInterval : Int) : Prop :=
  if self.edits = 0 then 0 < maxEditCount.toNat
  -- a whole number of rounds cannot be told from no edit
  else if self.shown = 0 then False
  -- a counter that has grown is all that is looked at
  else if self.counter + self.shown < UInt32.size then
    maxEditCount.toNat ≤ self.shown ∨ self.Early now maxEditCount maxInterval
  -- one that has started again leaves the decision to the clock
  else (0 < now - self.tickedAt ∧ maxInterval ≤ now - self.tickedAt) ∨ self.Early now maxEditCount maxInterval

end EditLog

/-! ## The state and the log -/

/-- The state is what the log makes of it. -/
structure CollabEditState.Tracks (state : CollabEditState) (log : EditLog) : Prop where
  counted : CountedSince state.prevEditCount state.editCount log.edits
  before : state.prevEditCount.toNat = log.counter
  ticked : state.prevFlushTimestamp = log.tickedAt

namespace CollabEditState.Tracks

theorem new (now : Int) : (CollabEditState.new now).Tracks (.new now) := ⟨.zero 0, rfl, rfl⟩

theorem step {state : CollabEditState} {log : EditLog} (event : EditEvent) (tracks : state.Tracks log) :
    (state.step event).Tracks (log.step event) := by
  obtain ⟨counted, before, ticked⟩ := tracks
  cases event with
  | incrementEditCount => exact ⟨counted.increment, before, ticked⟩
  | setDidLoad => exact ⟨counted, before, ticked⟩
  | tick now =>
    refine ⟨.zero state.editCount, ?_, rfl⟩
    show state.editCount.toNat = (log.before + log.edits) % UInt32.size
    rw [counted, before, EditLog.counter, Nat.mod_add_mod]

theorem run (created : Int) (events : List EditEvent) :
    (run CollabEditState.step (.new created) events).Tracks (run EditLog.step (.new created) events) :=
  run_related CollabEditState.Tracks (fun _ _ event tracks => tracks.step event) (.new created) events

variable {state : CollabEditState} {log : EditLog} {now : Int} {maxEditCount : UInt32} {maxInterval : Int}

/-- The three branches of `should_flush`, told from the log. -/
theorem shouldFlush_iff (tracks : state.Tracks log) :
    state.shouldFlush now maxEditCount maxInterval = true ↔
      log.shown ≠ 0 ∧
        if log.counter + log.shown < UInt32.size then maxEditCount.toNat ≤ log.shown
        else 0 < now - log.tickedAt ∧ maxInterval ≤ now - log.tickedAt := by
  have grown := tracks.counted.lt_iff
  have same := tracks.counted.eq_iff
  have difference := tracks.counted.toNat_sub
  rw [tracks.before] at grown
  rw [shouldFlush, tracks.ticked]
  by_cases above : state.prevEditCount < state.editCount
  · obtain ⟨shown, inRange⟩ := grown.mp above
    simp only [gt_iff_lt, above, ↓reduceIte, ge_iff_le, decide_eq_true_eq, UInt32.le_iff_toNat_le, difference]
    simp [EditLog.shown, shown, inRange]
  · simp only [gt_iff_lt, above, ↓reduceIte]
    by_cases level : state.editCount = state.prevEditCount
    · simp [EditLog.shown, level, same.mp level]
    · have shown : log.shown ≠ 0 := fun none => level (same.mpr none)
      have passed : ¬ log.counter + log.shown < UInt32.size := fun inRange => above (grown.mpr ⟨shown, inRange⟩)
      simp only [level, shown, passed, ne_eq, not_false_eq_true, and_true, true_and, ↓reduceIte]
      by_cases later : log.tickedAt < now
      · simp [later]
      · simp [later]

end CollabEditState.Tracks

namespace EditLog

variable (log : EditLog)

theorem shown_of_lt {log : EditLog} (below : log.edits < UInt32.size) : log.shown = log.edits := Nat.mod_eq_of_lt below

theorem shown_le : log.shown ≤ log.edits := Nat.mod_le _ _

/-- An answer by the count that is shown is the one that is due. -/
theorem answered_iff (now : Int) (maxEditCount : UInt32) (maxInterval : Int) :
    ((log.shown ≠ 0 ∧
        if log.counter + log.shown < UInt32.size then maxEditCount.toNat ≤ log.shown
        else 0 < now - log.tickedAt ∧ maxInterval ≤ now - log.tickedAt) ↔
      log.Due now maxEditCount maxInterval) ↔ log.Answered now maxEditCount maxInterval := by
  have limit : maxEditCount.toNat < UInt32.size := maxEditCount.toNat_lt
  have most := log.shown_le
  rw [Due, Answered, Early]
  by_cases none : log.edits = 0
  · have shown : log.shown = 0 := by omega
    simp only [none, shown, ne_eq, not_true_eq_false, false_and, ↓reduceIte, false_iff]
    omega
  · by_cases rounds : log.shown = 0
    · -- a whole round is more than any limit
      have full : ¬ log.edits < UInt32.size := fun below => none ((shown_of_lt below).symm.trans rounds)
      simp only [none, rounds, ne_eq, not_true_eq_false, false_and, ↓reduceIte, false_iff, iff_false]
      omega
    · by_cases inRange : log.counter + log.shown < UInt32.size
      · simp only [none, rounds, inRange, ne_eq, not_false_eq_true, true_and, ↓reduceIte]
        omega
      · simp only [none, rounds, inRange, ne_eq, not_false_eq_true, true_and, ↓reduceIte]
        omega

end EditLog

/-- `should_flush` answers what is due exactly when the branch it takes looks at the limit
    that decides. -/
theorem shouldFlush_iff_due_iff (created : Int) (events : List EditEvent) (now : Int) (maxEditCount : UInt32)
    (maxInterval : Int) :
    ((run CollabEditState.step (.new created) events).shouldFlush now maxEditCount maxInterval = true ↔
      (run EditLog.step (.new created) events).Due now maxEditCount maxInterval) ↔
      (run EditLog.step (.new created) events).Answered now maxEditCount maxInterval := by
  rw [(CollabEditState.Tracks.run created events).shouldFlush_iff]
  exact (run EditLog.step (.new created) events).answered_iff now maxEditCount maxInterval

/-- One edit is never written on account of the time, however long ago the last tick was. -/
theorem shouldFlush_ignores_time :
    ¬ ∀ created events now maxEditCount maxInterval,
      ((run CollabEditState.step (.new created) events).shouldFlush now maxEditCount maxInterval = true ↔
        (run EditLog.step (.new created) events).Due now maxEditCount maxInterval) := by
  intro due
  have flushed := (due 0 [.incrementEditCount] 180 100 180).mpr (Or.inr (by decide))
  exact absurd flushed (by decide)

end FlowCloud.Server
