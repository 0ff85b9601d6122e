import FlowCloud.Snowflake.NextId

/-! # The three fields of a snowflake id

Within the bounds of the fields an id is one number written with three digits, the time first
and the sequence number last.  So ids compare as their fields do, and ids of different nodes
differ whatever the nodes' clocks show.
-/

namespace FlowCloud

namespace Snowflake

/-- What an id is packed from, each within the bits that it has. -/
@[ext]
structure Fields where
  timestamp : UInt64
  nodeId : UInt64
  sequence : UInt64
  range : InRange timestamp
  node : nodeId.toNat < 2 ^ 10
  counted : sequence.toNat < 2 ^ 12

namespace Fields

def pack (fields : Fields) : Int64 :=
  ((fields.timestamp - epoch) <<< timestampShift ||| fields.nodeId <<< nodeIdShift ||| fields.sequence).toInt64

/-- The lexicographic order of the time, the node and the sequence number. -/
def Before (first second : Fields) : Prop :=
  first.timestamp < second.timestamp ∨ first.timestamp = second.timestamp ∧
    (first.nodeId < second.nodeId ∨ first.nodeId = second.nodeId ∧ first.sequence < second.sequence)

variable (fields : Fields)

/-- The generator that has returned this id last. -/
def generator : Snowflake := ⟨fields.nodeId, fields.sequence, fields.timestamp⟩

theorem started : Started fields.generator := ⟨fields.node, fields.range, fields.counted⟩

theorem pack_toInt :
    fields.pack.toInt = idNumber fields.nodeId fields.timestamp.toNat fields.sequence.toNat :=
  fields.started.lastId_toInt

theorem pack_nonneg : 0 ≤ fields.pack := by
  rw [Int64.le_iff_toInt_le, pack_toInt]
  exact Int.natCast_nonneg _

theorem pack_lt_iff (first second : Fields) : first.pack < second.pack ↔ first.Before second := by
  have order := first.started.lastId_lt_iff second.started
  have firstAfter : epoch.toNat ≤ first.timestamp.toNat := first.range.1
  have secondAfter : epoch.toNat ≤ second.timestamp.toNat := second.range.1
  have firstNode := first.node
  have secondNode := second.node
  have firstCounted := first.counted
  have secondCounted := second.counted
  rw [Before, UInt64.lt_iff_toNat_lt, UInt64.lt_iff_toNat_lt, UInt64.lt_iff_toNat_lt, ← UInt64.toNat_inj,
    ← UInt64.toNat_inj]
  refine order.trans ?_
  simp only [idNumber, generator]
  omega

theorem eq_of_not_before {first second : Fields} (forth : ¬ first.Before second) (back : ¬ second.Before first) :
    first = second := by
  simp only [Before, UInt64.lt_iff_toNat_lt, ← UInt64.toNat_inj] at forth back
  apply Fields.ext
  · apply UInt64.toNat_inj.mp
    omega
  · apply UInt64.toNat_inj.mp
    omega
  · apply UInt64.toNat_inj.mp
    omega

theorem pack_injective : Function.Injective pack := by
  intro first second same
  apply eq_of_not_before
  · rw [← pack_lt_iff, same]
    exact Int64.lt_irrefl
  · rw [← pack_lt_iff, same]
    exact Int64.lt_irrefl

end Fields

/-! ## The ids of several generators -/

/-- The ids of calls that each read the clock for themselves; a call that panics returns none. -/
def idsOfRun (generator : Snowflake) : List (List UInt64) → List Int64
  | [] => []
  | clock :: calls =>
    match generator.nextId clock with
    | .returned id next _ => id :: idsOfRun next calls
    | .panicked => idsOfRun generator calls
    | .waiting => []

variable {generator : Snowflake}

theorem issue_returned {counted next : Snowflake} {timestamp : UInt64} {id : Int64} {clock rest : List UInt64}
    (issued : counted.issue timestamp clock = .returned id next rest) (short : counted.sequence.toNat < 2 ^ 12) :
    ∃ sequence : UInt64, sequence.toNat < 2 ^ 12 ∧ next.nodeId = counted.nodeId ∧
      id = lastId ⟨counted.nodeId, sequence, timestamp⟩ := by
  obtain ⟨rfl, rfl, -⟩ := NextId.returned.inj issued
  exact ⟨counted.sequence, short, rfl, rfl⟩

/-- An id that is returned is packed from the first reading, the generator's node and the number counted for it. -/
theorem nextId_returned {clock rest : List UInt64} {id : Int64} {next : Snowflake}
    (returned : generator.nextId clock = .returned id next rest) :
    ∃ timestamp ∈ clock, ∃ sequence : UInt64, sequence.toNat < 2 ^ 12 ∧ next.nodeId = generator.nodeId ∧
      id = lastId ⟨generator.nodeId, sequence, timestamp⟩ := by
  cases clock with
  | nil => cases returned
  | cons timestamp clock =>
    refine ⟨timestamp, List.mem_cons_self, ?_⟩
    have first : (0 : UInt64).toNat < 2 ^ 12 := by decide
    -- whatever the sequence was before, the mask leaves twelve bits of it
    have masked : ((generator.sequence + 1) &&& sequenceMask).toNat < 2 ^ 12 := by
      rw [counted_toNat]
      exact Nat.mod_lt _ (Nat.two_pow_pos 12)
    rw [nextId] at returned
    by_cases backwards : timestamp < generator.lastTimestamp
    · rw [if_pos backwards] at returned
      cases returned
    · rw [if_neg backwards] at returned
      by_cases same : timestamp = generator.lastTimestamp
      · simp only [if_pos same] at returned
        split at returned
        · -- the numbers are used up, and the id is issued with the reading made before the wait
          split at returned
          · cases returned
          · have issued := issue_returned returned masked
            exact issued
        · have issued := issue_returned returned masked
          exact issued
      · rw [if_neg same] at returned
        have issued := issue_returned returned first
        exact issued

/-- Every id of a run is packed from fields of the generator's node. -/
theorem idsOfRun_packed (calls : List (List UInt64)) (node : generator.nodeId.toNat < 2 ^ 10)
    (range : ∀ clock ∈ calls, ∀ timestamp ∈ clock, InRange timestamp) {id : Int64}
    (issued : id ∈ idsOfRun generator calls) :
    ∃ fields : Fields, fields.pack = id ∧ fields.nodeId = generator.nodeId := by
  induction calls generalizing generator with
  | nil => cases issued
  | cons clock calls ih =>
    obtain ⟨inRange, rangeOfCalls⟩ := List.forall_mem_cons.mp range
    rw [idsOfRun] at issued
    split at issued
    · rename_i first next rest returned
      obtain ⟨timestamp, read, sequence, counted, same, packed⟩ := nextId_returned returned
      cases List.mem_cons.mp issued with
      | inl own =>
        refine ⟨⟨timestamp, generator.nodeId, sequence, inRange timestamp read, node, counted⟩, ?_, rfl⟩
        rw [own, packed]
        rfl
      | inr later =>
        rw [← same] at node ⊢
        exact ih node rangeOfCalls later
    · -- a call that panics leaves the generator as it was
      exact ih node rangeOfCalls issued
    · cases issued

/-- Packed ids are not negative, are told apart by their fields and compare as they do, and
    generators of different nodes share no id. -/
theorem ids_packed :
    (∀ fields : Fields, 0 ≤ fields.pack) ∧ Function.Injective Fields.pack ∧
      (∀ first second : Fields, first.pack < second.pack ↔ first.Before second) ∧
      ∀ (generator other : Snowflake) (calls otherCalls : List (List UInt64)),
        generator.nodeId.toNat < 2 ^ 10 → other.nodeId.toNat < 2 ^ 10 → generator.nodeId ≠ other.nodeId →
        (∀ clock ∈ calls ++ otherCalls, ∀ timestamp ∈ clock, InRange timestamp) →
        ∀ id ∈ idsOfRun generator calls, id ∉ idsOfRun other otherCalls := by
  refine ⟨Fields.pack_nonneg, Fields.pack_injective, Fields.pack_lt_iff, ?_⟩
  intro generator other calls otherCalls node otherNode differ range id issued again
  obtain ⟨inRange, otherRange⟩ := List.forall_mem_append.mp range
  obtain ⟨fields, packed, own⟩ := idsOfRun_packed calls node inRange issued
  obtain ⟨otherFields, otherPacked, otherOwn⟩ := idsOfRun_packed otherCalls otherNode otherRange again
  have same : fields = otherFields := Fields.pack_injective (packed.trans otherPacked.symm)
  apply differ
  rw [← own, ← otherOwn, same]

/-- Two nodes whose clocks show the same two readings. -/
theorem ids_packed_two_nodes :
    idsOfRun (.new 1) [[1637806706000], [1637806706001]] = [4096, 4198400] ∧
      ∀ id ∈ idsOfRun (.new 1) [[1637806706000], [1637806706001]],
        id ∉ idsOfRun (.new 2) [[1637806706001], [1637806706000]] := by
  have first : InRange 1637806706000 := by decide
  have second : InRange 1637806706001 := by decide
  constructor
  · decide
  · apply ids_packed.2.2.2 (.new 1) (.new 2) _ _ (by decide) (by decide) (by decide)
    simp [first, second]

end Snowflake

end FlowCloud
