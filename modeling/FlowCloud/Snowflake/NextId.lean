import Mathlib.Algebra.Group.Nat.Defs
import Mathlib.Data.List.Basic

/-! # Snowflake ids

An id is a time in milliseconds, the number of the node and a sequence number that starts
anew with each millisecond.  A generator that runs out of sequence numbers waits until the
clock shows another millisecond.
-/

namespace FlowCloud

structure Snowflake where
  nodeId : UInt64
  sequence : UInt64
  lastTimestamp : UInt64
  deriving DecidableEq, Repr

namespace Snowflake

def epoch : UInt64 := 1637806706000

def nodeIdBits : UInt64 := 10

def sequenceBits : UInt64 := 12

def nodeIdShift : UInt64 := sequenceBits

def timestampShift : UInt64 := nodeIdBits + sequenceBits

def sequenceMask : UInt64 := ((1 : UInt64) <<< sequenceBits) - 1

def new (nodeId : UInt64) : Snowflake := ⟨nodeId, 0, 0⟩

/-- What a call does with the readings of the clock that are to come. -/
inductive NextId where
  /-- `panic!("Clock moved backwards!")` -/
  | panicked
  /-- The call waits for another reading. -/
  | waiting
  | returned (id : Int64) (generator : Snowflake) (clock : List UInt64)

variable (self : Snowflake)

/-- The readings behind the first one that differs from the last timestamp. -/
def waitNextMillis : List UInt64 → Option (List UInt64)
  | [] => none
  | timestamp :: clock => if timestamp = self.lastTimestamp then waitNextMillis clock else some clock

/-- The end of a call: the timestamp is the one that was read first. -/
def issue (timestamp : UInt64) (clock : List UInt64) : NextId :=
  let id := (timestamp - epoch) <<< timestampShift ||| self.nodeId <<< nodeIdShift ||| self.sequence
  .returned id.toInt64 { self with lastTimestamp := timestamp } clock

def nextId : List UInt64 → NextId
  | [] => .waiting
  | timestamp :: clock =>
    if timestamp < self.lastTimestamp then .panicked
    else if timestamp = self.lastTimestamp then
      let sequence : UInt64 := (self.sequence + 1) &&& sequenceMask
      let counted : Snowflake := { self with sequence }
      if sequence = 0 then
        match counted.waitNextMillis clock with
        | none => .waiting
        | some clock => counted.issue timestamp clock
      else counted.issue timestamp clock
    else Snowflake.issue { self with sequence := 0 } timestamp clock

/-- The ids of at most so many calls. -/
def idsOfCalls : Nat → Snowflake → List UInt64 → List Int64
  | 0, _, _ => []
  | calls + 1, self, clock =>
    match self.nextId clock with
    | .returned id self clock => id :: idsOfCalls calls self clock
    | .panicked | .waiting => []

/-- The ids that the calls have returned when the clock has been read so often; each call reads it
    at least once. -/
def ids (clock : List UInt64) : List Int64 := idsOfCalls clock.length self clock

/-! ## Ids as numbers -/

/-- A reading of the clock for which there are ids. -/
def InRange (timestamp : UInt64) : Prop := epoch ≤ timestamp ∧ timestamp.toNat < epoch.toNat + 2 ^ 41

instance : DecidablePred InRange := fun _ => inferInstanceAs (Decidable (_ ∧ _))

def idNumber (nodeId : UInt64) (timestamp sequence : Nat) : Nat :=
  (timestamp - epoch.toNat) * 2 ^ 22 + nodeId.toNat * 2 ^ 12 + sequence

theorem or_eq_add {high low : Nat} (bits : Nat) (fits : low < 2 ^ bits) :
    high <<< bits ||| low = high * 2 ^ bits + low := by
  rw [← Nat.shiftLeft_add_eq_or_of_lt fits, Nat.shiftLeft_eq]

theorem id_toNat {nodeId timestamp sequence : UInt64} (node : nodeId.toNat < 2 ^ 10) (range : InRange timestamp)
    (counted : sequence.toNat < 2 ^ 12) :
    ((timestamp - epoch) <<< timestampShift ||| nodeId <<< nodeIdShift ||| sequence).toNat =
      idNumber nodeId timestamp.toNat sequence.toNat := by
  have after : epoch.toNat ≤ timestamp.toNat := range.1
  have elapsed : (timestamp - epoch).toNat = timestamp.toNat - epoch.toNat := UInt64.toNat_sub_of_le _ _ range.1
  have short : timestamp.toNat - epoch.toNat < 2 ^ 41 := by
    have := range.2
    omega
  have timePart : ((timestamp - epoch) <<< timestampShift).toNat = (timestamp.toNat - epoch.toNat) <<< 22 := by
    rw [UInt64.toNat_shiftLeft, elapsed]
    show (timestamp.toNat - epoch.toNat) <<< 22 % 2 ^ 64 = _
    rw [Nat.shiftLeft_eq]
    omega
  have nodePart : (nodeId <<< nodeIdShift).toNat = nodeId.toNat <<< 12 := by
    rw [UInt64.toNat_shiftLeft]
    show nodeId.toNat <<< 12 % 2 ^ 64 = _
    rw [Nat.shiftLeft_eq]
    omega
  have above : (timestamp.toNat - epoch.toNat) <<< 22 ||| nodeId.toNat <<< 12 =
      ((timestamp.toNat - epoch.toNat) * 2 ^ 10 + nodeId.toNat) <<< 12 := by
    rw [or_eq_add 22 (by rw [Nat.shiftLeft_eq]; omega), Nat.shiftLeft_eq, Nat.shiftLeft_eq]
    omega
  rw [UInt64.toNat_or, UInt64.toNat_or, timePart, nodePart, above, or_eq_add 12 counted, idNumber]
  omega

theorem toInt_toInt64 {value : UInt64} (fits : value.toNat < 2 ^ 63) : value.toInt64.toInt = value.toNat := by
  show value.toBitVec.toInt = value.toBitVec.toNat
  exact BitVec.toInt_eq_toNat_of_lt (by show 2 * value.toNat < 2 ^ 64; omega)

/-! ## The last id -/

/-- The id that the generator returned last. -/
def lastId (self : Snowflake) : Int64 :=
  ((self.lastTimestamp - epoch) <<< timestampShift ||| self.nodeId <<< nodeIdShift ||| self.sequence).toInt64

/-- The generator of a node that has returned an id. -/
structure Started (generator : Snowflake) : Prop where
  node : generator.nodeId.toNat < 2 ^ 10
  range : InRange generator.lastTimestamp
  counted : generator.sequence.toNat < 2 ^ 12

variable {self}

theorem Started.lastId_toInt (started : Started self) :
    self.lastId.toInt = idNumber self.nodeId self.lastTimestamp.toNat self.sequence.toNat := by
  have number := id_toNat started.node started.range started.counted
  have after := started.range.2
  have node := started.node
  have counted := started.counted
  rw [lastId, toInt_toInt64, number]
  rw [number, idNumber]
  omega

theorem Started.lastId_lt_iff (started : Started self) {other : Snowflake} (otherStarted : Started other) :
    self.lastId < other.lastId ↔ idNumber self.nodeId self.lastTimestamp.toNat self.sequence.toNat <
      idNumber other.nodeId other.lastTimestamp.toNat other.sequence.toNat := by
  rw [Int64.lt_iff_toInt_lt, started.lastId_toInt, otherStarted.lastId_toInt]
  exact Int.ofNat_lt

/-- The next number of the same millisecond gives a greater id. -/
theorem Started.next (started : Started self) (room : self.sequence.toNat + 1 < 2 ^ 12) :
    Started { self with sequence := self.sequence + 1 } ∧
      self.lastId < lastId { self with sequence := self.sequence + 1 } := by
  have nextSequence : (self.sequence + 1).toNat = self.sequence.toNat + 1 := by
    have one : (1 : UInt64).toNat = 1 := by decide
    rw [UInt64.toNat_add, one]
    omega
  have next : Started { self with sequence := self.sequence + 1 } :=
    ⟨started.node, started.range, by rw [nextSequence]; exact room⟩
  refine ⟨next, ?_⟩
  rw [started.lastId_lt_iff next]
  simp only [idNumber, nextSequence]
  omega

/-- And so does a later millisecond. -/
theorem Started.later (started : Started self) {timestamp : UInt64} (range : InRange timestamp)
    (later : self.lastTimestamp < timestamp) :
    Started ⟨self.nodeId, 0, timestamp⟩ ∧ self.lastId < lastId ⟨self.nodeId, 0, timestamp⟩ := by
  have next : Started ⟨self.nodeId, 0, timestamp⟩ := ⟨started.node, range, by show 0 < 2 ^ 12; decide⟩
  refine ⟨next, ?_⟩
  have node := started.node
  have counted := started.counted
  have began : epoch.toNat ≤ self.lastTimestamp.toNat := started.range.1
  rw [UInt64.lt_iff_toNat_lt] at later
  rw [started.lastId_lt_iff next]
  simp only [idNumber, UInt64.toNat_zero]
  omega

/-- The first id of a millisecond comes after no other one of it. -/
theorem Started.not_lt_first (started : Started self) : ¬ self.lastId < lastId { self with sequence := 0 } := by
  have first : Started { self with sequence := 0 } := ⟨started.node, started.range, by show 0 < 2 ^ 12; decide⟩
  rw [started.lastId_lt_iff first]
  simp only [idNumber, UInt64.toNat_zero]
  omega

theorem pairwise_cons_of_lt {first second : Int64} {rest : List Int64} (less : first < second) :
    (first :: second :: rest).Pairwise (· < ·) ↔ (second :: rest).Pairwise (· < ·) := by
  constructor
  · exact fun ordered => (List.pairwise_cons.mp ordered).2
  · intro ordered
    refine List.pairwise_cons.mpr ⟨?_, ordered⟩
    intro id member
    cases List.mem_cons.mp member with
    | inl same =>
      obtain rfl := same
      exact less
    | inr later => exact Int64.lt_trans less ((List.pairwise_cons.mp ordered).1 id later)

/-! ## One call -/

theorem nextId_later {timestamp : UInt64} (later : self.lastTimestamp < timestamp) (clock : List UInt64) :
    self.nextId (timestamp :: clock) =
      .returned (lastId ⟨self.nodeId, 0, timestamp⟩) ⟨self.nodeId, 0, timestamp⟩ clock := by
  have notBefore : ¬ timestamp < self.lastTimestamp := by
    rw [UInt64.lt_iff_toNat_lt] at later ⊢
    omega
  have differs : timestamp ≠ self.lastTimestamp := by
    rintro rfl
    exact notBefore later
  rw [nextId, if_neg notBefore, if_neg differs]
  rfl

theorem counted_toNat (sequence : UInt64) :
    ((sequence + 1) &&& sequenceMask).toNat = (sequence.toNat + 1) % 2 ^ 12 := by
  have mask : sequenceMask.toNat = 2 ^ 12 - 1 := by decide
  have one : (1 : UInt64).toNat = 1 := by decide
  rw [UInt64.toNat_and, mask, Nat.and_two_pow_sub_one_eq_mod, UInt64.toNat_add, one]
  omega

/-- There is another sequence number for the millisecond. -/
theorem nextId_same (room : self.sequence.toNat + 1 < 2 ^ 12) (clock : List UInt64) :
    self.nextId (self.lastTimestamp :: clock) =
      .returned (lastId { self with sequence := self.sequence + 1 }) { self with sequence := self.sequence + 1 }
        clock := by
  have counted := counted_toNat self.sequence
  have one : (1 : UInt64).toNat = 1 := by decide
  have kept : (self.sequence + 1) &&& sequenceMask = self.sequence + 1 := by
    rw [← UInt64.toNat_inj, counted, UInt64.toNat_add, one]
    omega
  have nonzero : self.sequence + 1 ≠ 0 := by
    rw [Ne, ← UInt64.toNat_inj, UInt64.toNat_add, one]
    show ¬ _ = 0
    omega
  rw [nextId, if_neg (UInt64.lt_irrefl _), if_pos rfl]
  simp only [kept, if_neg nonzero]
  rfl

/-- The sequence numbers are used up: the call waits, and returns the first id of the millisecond
    again. -/
theorem nextId_full (full : self.sequence.toNat + 1 = 2 ^ 12) (clock : List UInt64) :
    self.nextId (self.lastTimestamp :: clock) =
      match self.waitNextMillis clock with
      | none => .waiting
      | some clock => .returned (lastId { self with sequence := 0 }) { self with sequence := 0 } clock := by
  have counted := counted_toNat self.sequence
  have wrapped : (self.sequence + 1) &&& sequenceMask = 0 := by
    rw [← UInt64.toNat_inj, counted, full]
    rfl
  have waits : ∀ clock, waitNextMillis { self with sequence := 0 } clock = self.waitNextMillis clock := by
    intro clock
    induction clock with
    | nil => rfl
    | cons timestamp clock inductionHypothesis => simp only [waitNextMillis, inductionHypothesis]
  rw [nextId, if_neg (UInt64.lt_irrefl _), if_pos rfl]
  simp only [wrapped, if_true, waits]
  rfl

theorem waitNextMillis_eq_none {clock : List UInt64} :
    self.waitNextMillis clock = none ↔ ∀ timestamp ∈ clock, timestamp = self.lastTimestamp := by
  induction clock with
  | nil => simp [waitNextMillis]
  | cons timestamp clock inductionHypothesis =>
    by_cases same : timestamp = self.lastTimestamp
    · simp [waitNextMillis, same, inductionHypothesis]
    · simp [waitNextMillis, same]

/-! ## All calls -/

/-- No time but the last one is read more often than there are sequence numbers. -/
def EnoughNumbers (clock : List UInt64) : Prop :=
  ∀ timestamp ∈ clock, ∀ later ∈ clock, timestamp < later → clock.count timestamp ≤ 2 ^ 12

/-- The same when some numbers of the generator's last millisecond are used up. -/
def EnoughLeft (generator : Snowflake) (clock : List UInt64) : Prop :=
  ∀ timestamp ∈ clock, ∀ later ∈ clock, timestamp < later →
    clock.count timestamp + (if timestamp = generator.lastTimestamp then generator.sequence.toNat + 1 else 0) ≤ 2 ^ 12

theorem mem_later {timestamp first later : UInt64} {clock : List UInt64} (after : first ≤ timestamp)
    (member : later ∈ first :: clock) (less : timestamp < later) : later ∈ clock := by
  cases List.mem_cons.mp member with
  | inl same =>
    obtain rfl := same
    rw [UInt64.le_iff_toNat_le] at after
    rw [UInt64.lt_iff_toNat_lt] at less
    omega
  | inr other => exact other

theorem enoughLeft_later {timestamp : UInt64} (later : self.lastTimestamp < timestamp) {clock : List UInt64}
    (sorted : ∀ other ∈ clock, timestamp ≤ other) :
    self.EnoughLeft (timestamp :: clock) ↔ EnoughLeft ⟨self.nodeId, 0, timestamp⟩ clock := by
  have fresh : ∀ other ∈ timestamp :: clock, other ≠ self.lastTimestamp := by
    intro other member
    have after : timestamp ≤ other := by
      cases List.mem_cons.mp member with
      | inl same =>
        obtain rfl := same
        exact UInt64.le_refl _
      | inr within => exact sorted other within
    rintro rfl
    rw [UInt64.le_iff_toNat_le] at after
    rw [UInt64.lt_iff_toNat_lt] at later
    omega
  constructor
  · intro enough other member next nextMember less
    have bound := enough other (List.mem_cons_of_mem _ member) next (List.mem_cons_of_mem _ nextMember) less
    rw [if_neg (fresh other (List.mem_cons_of_mem _ member)), List.count_cons] at bound
    by_cases same : other = timestamp
    · subst same
      simpa using bound
    · have differs : ¬ timestamp = other := fun equal => same equal.symm
      simpa [same, differs] using bound
  · intro enough other member next nextMember less
    rw [if_neg (fresh other member), List.count_cons]
    by_cases same : other = timestamp
    · subst same
      by_cases again : other ∈ clock
      · have bound := enough other again next (mem_later (UInt64.le_refl _) nextMember less) less
        simpa using bound
      · simp [List.count_eq_zero_of_not_mem again]
    · have differs : ¬ timestamp = other := fun equal => same equal.symm
      have within := (List.mem_cons.mp member).resolve_left same
      have bound := enough other within next (mem_later (sorted other within) nextMember less) less
      simpa [same, differs] using bound

theorem enoughLeft_same (room : self.sequence.toNat + 1 < 2 ^ 12) {clock : List UInt64}
    (sorted : ∀ other ∈ clock, self.lastTimestamp ≤ other) :
    self.EnoughLeft (self.lastTimestamp :: clock) ↔
      EnoughLeft { self with sequence := self.sequence + 1 } clock := by
  have next : (self.sequence + 1).toNat = self.sequence.toNat + 1 := by
    have one : (1 : UInt64).toNat = 1 := by decide
    rw [UInt64.toNat_add, one]
    omega
  constructor
  · intro enough other member later laterMember less
    have bound := enough other (List.mem_cons_of_mem _ member) later (List.mem_cons_of_mem _ laterMember) less
    rw [List.count_cons] at bound
    by_cases same : other = self.lastTimestamp
    · simp only [same, if_true, beq_self_eq_true] at bound ⊢
      omega
    · have differs : ¬ self.lastTimestamp = other := fun equal => same equal.symm
      simpa [same, differs] using bound
  · intro enough other member later laterMember less
    rw [List.count_cons]
    by_cases same : other = self.lastTimestamp
    · subst same
      by_cases again : self.lastTimestamp ∈ clock
      · have bound := enough _ again later (mem_later (UInt64.le_refl _) laterMember less) less
        simp only [if_true, beq_self_eq_true] at bound ⊢
        omega
      · simp only [List.count_eq_zero_of_not_mem again, if_true, beq_self_eq_true]
        omega
    · have differs : ¬ self.lastTimestamp = other := fun equal => same equal.symm
      have within := (List.mem_cons.mp member).resolve_left same
      have bound := enough other within later (mem_later (sorted other within) laterMember less) less
      simpa [same, differs] using bound

theorem enoughLeft_full (full : self.sequence.toNat + 1 = 2 ^ 12) {clock : List UInt64}
    (sorted : ∀ other ∈ clock, self.lastTimestamp ≤ other) :
    self.EnoughLeft (self.lastTimestamp :: clock) ↔ self.waitNextMillis clock = none := by
  rw [waitNextMillis_eq_none]
  constructor
  · intro enough later member
    by_contra differs
    have less : self.lastTimestamp < later := UInt64.lt_of_le_of_ne (sorted later member) (Ne.symm differs)
    have bound := enough self.lastTimestamp (List.mem_cons_self) later (List.mem_cons_of_mem _ member) less
    simp only [List.count_cons_self, if_true] at bound
    omega
  · intro all other member later laterMember less
    have same : ∀ timestamp ∈ self.lastTimestamp :: clock, timestamp = self.lastTimestamp := by
      intro timestamp within
      cases List.mem_cons.mp within with
      | inl equal => exact equal
      | inr behind => exact all timestamp behind
    rw [same other member, same later laterMember] at less
    exact absurd less (UInt64.lt_irrefl _)

/-- From a generator that has returned an id, the ids increase as long as the numbers are enough. -/
theorem idsOfCalls_increase_iff {clock : List UInt64} (started : Started self)
    (sorted : (self.lastTimestamp :: clock).Pairwise (· ≤ ·)) (range : ∀ timestamp ∈ clock, InRange timestamp)
    {calls : Nat} (enough : clock.length ≤ calls) :
    (self.lastId :: idsOfCalls calls self clock).Pairwise (· < ·) ↔ self.EnoughLeft clock := by
  induction clock generalizing self calls with
  | nil =>
    have none : idsOfCalls calls self [] = [] := by
      cases calls with
      | zero => rfl
      | succ calls => rfl
    simp [none, EnoughLeft]
  | cons timestamp clock inductionHypothesis =>
    obtain ⟨calls, rfl⟩ : ∃ fewer, calls = fewer + 1 := ⟨calls - 1, by simp at enough; omega⟩
    have fewer : clock.length ≤ calls := by simp at enough; omega
    rw [List.pairwise_cons] at sorted
    rw [List.forall_mem_cons] at range
    have after : self.lastTimestamp ≤ timestamp := sorted.1 timestamp List.mem_cons_self
    have behind : ∀ other ∈ clock, timestamp ≤ other := (List.pairwise_cons.mp sorted.2).1
    by_cases same : timestamp = self.lastTimestamp
    · subst same
      by_cases room : self.sequence.toNat + 1 < 2 ^ 12
      · obtain ⟨next, less⟩ := started.next room
        rw [idsOfCalls, nextId_same room, enoughLeft_same room behind]
        simp only
        rw [pairwise_cons_of_lt less]
        exact inductionHypothesis next sorted.2 range.2 fewer
      · have full : self.sequence.toNat + 1 = 2 ^ 12 := by
          have := started.counted
          omega
        rw [idsOfCalls, nextId_full full, enoughLeft_full full behind]
        cases waited : self.waitNextMillis clock with
        | none => simp
        | some rest => simp [started.not_lt_first]
    · have later : self.lastTimestamp < timestamp := UInt64.lt_of_le_of_ne after (Ne.symm same)
      obtain ⟨next, less⟩ := started.later range.1 later
      rw [idsOfCalls, nextId_later later, enoughLeft_later later behind]
      simp only
      rw [pairwise_cons_of_lt less]
      exact inductionHypothesis next sorted.2 range.2 fewer

/-- The clock never shows the time that a new generator starts with. -/
theorem enoughLeft_new {nodeId : UInt64} {clock : List UInt64} (range : ∀ timestamp ∈ clock, InRange timestamp) :
    (new nodeId).EnoughLeft clock ↔ EnoughNumbers clock := by
  have fresh : ∀ timestamp ∈ clock, timestamp ≠ (new nodeId).lastTimestamp := by
    rintro timestamp member rfl
    exact absurd (range _ member).1 (by simp only [new]; decide)
  constructor
  · intro enough timestamp member later laterMember less
    simpa [fresh timestamp member] using enough timestamp member later laterMember less
  · intro enough timestamp member later laterMember less
    simpa [fresh timestamp member] using enough timestamp member later laterMember less

theorem ids_increase_iff_enoughLeft {nodeId : UInt64} (node : nodeId.toNat < 2 ^ 10) {clock : List UInt64}
    (sorted : clock.Pairwise (· ≤ ·)) (range : ∀ timestamp ∈ clock, InRange timestamp) :
    ((new nodeId).ids clock).Pairwise (· < ·) ↔ (new nodeId).EnoughLeft clock := by
  cases clock with
  | nil => simp [ids, idsOfCalls, EnoughLeft]
  | cons timestamp clock =>
    rw [List.forall_mem_cons] at range
    have later : (new nodeId).lastTimestamp < timestamp := by
      have began : epoch.toNat ≤ timestamp.toNat := range.1.1
      have positive : 0 < epoch.toNat := by decide
      rw [UInt64.lt_iff_toNat_lt]
      show 0 < timestamp.toNat
      omega
    have behind : ∀ other ∈ clock, timestamp ≤ other := (List.pairwise_cons.mp sorted).1
    have started : Started ⟨nodeId, 0, timestamp⟩ := ⟨node, range.1, by show 0 < 2 ^ 12; decide⟩
    rw [enoughLeft_later later behind, ids, List.length_cons, idsOfCalls, nextId_later later]
    exact idsOfCalls_increase_iff started sorted range.2 (Nat.le_refl _)

end Snowflake

/-- The ids increase exactly if no millisecond but the last one is read more than 4096 times. -/
theorem ids_increase_iff {nodeId : UInt64} (node : nodeId.toNat < 2 ^ 10) {clock : List UInt64}
    (sorted : clock.Pairwise (· ≤ ·)) (range : ∀ timestamp ∈ clock, Snowflake.InRange timestamp) :
    ((Snowflake.new nodeId).ids clock).Pairwise (· < ·) ↔ Snowflake.EnoughNumbers clock := by
  rw [Snowflake.ids_increase_iff_enoughLeft node sorted range, Snowflake.enoughLeft_new range]

theorem ids_increase_two : ((Snowflake.new 1).ids [1710000000000, 1710000000000]).Pairwise (· < ·) := by
  have same : ∀ timestamp ∈ [1710000000000, 1710000000000], timestamp = (1710000000000 : UInt64) := by simp
  refine (ids_increase_iff (by decide) (by decide) ?_).mpr ?_
  · intro timestamp member
    rw [same timestamp member]
    decide
  · intro timestamp member later laterMember less
    rw [same timestamp member, same later laterMember] at less
    exact absurd less (UInt64.lt_irrefl _)

/-- A millisecond in which one id too many is asked for, and the next one. -/
def busyClock : List UInt64 := List.replicate 4097 1710000000000 ++ [1710000000001]

theorem mem_busyClock {timestamp : UInt64} (member : timestamp ∈ busyClock) :
    timestamp = 1710000000000 ∨ timestamp = 1710000000001 := by
  cases List.mem_append.mp member with
  | inl repeated => exact .inl (List.eq_of_mem_replicate repeated)
  | inr last => exact .inr (List.mem_singleton.mp last)

theorem busyClock_sorted : busyClock.Pairwise (· ≤ ·) := by
  refine List.pairwise_append.mpr
    ⟨List.pairwise_replicate.mpr (.inr (UInt64.le_refl _)), List.pairwise_singleton _ _, ?_⟩
  intro timestamp repeated other last
  rw [List.eq_of_mem_replicate repeated, List.mem_singleton.mp last]
  decide

/-- The call that finds no number left returns the first id of the millisecond again. -/
theorem id_repeated :
    ¬ ∀ (nodeId : UInt64) (clock : List UInt64), nodeId.toNat < 2 ^ 10 → clock.Pairwise (· ≤ ·) →
      (∀ timestamp ∈ clock, Snowflake.InRange timestamp) → ((Snowflake.new nodeId).ids clock).Pairwise (· < ·) := by
  intro increase
  have range : ∀ timestamp ∈ busyClock, Snowflake.InRange timestamp := by
    intro timestamp member
    cases mem_busyClock member with
    | inl same =>
      obtain rfl := same
      decide
    | inr same =>
      obtain rfl := same
      decide
  have increased := increase 1 busyClock (by decide) busyClock_sorted range
  rw [Snowflake.ids_increase_iff_enoughLeft (by decide) busyClock_sorted range,
    Snowflake.enoughLeft_new range] at increased
  have first : 1710000000000 ∈ busyClock := List.mem_append_left _ (List.mem_replicate.mpr ⟨by decide, rfl⟩)
  have last : 1710000000001 ∈ busyClock := List.mem_append_right _ (List.mem_singleton.mpr rfl)
  have bound := increased 1710000000000 first 1710000000001 last (by decide)
  rw [busyClock, List.count_append, List.count_replicate_self] at bound
  omega

end FlowCloud
