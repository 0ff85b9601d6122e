import Mathlib.Algebra.Group.Nat.Defs

/-! # Counters that wrap

An atomic counter of 32 bits starts again from zero.  What it shows is told from what it
showed earlier only up to a multiple of its range.
-/

namespace FlowCloud.Foundation

/-- A counter that showed `previous` shows `current` after `count` increments. -/
def CountedSince (previous current : UInt32) (count : Nat) : Prop :=
  current.toNat = (previous.toNat + count) % UInt32.size

namespace CountedSince

variable {previous current : UInt32} {count : Nat}

theorem zero (previous : UInt32) : CountedSince previous previous 0 :=
  (Nat.mod_eq_of_lt previous.toNat_lt).symm

theorem increment (counted : CountedSince previous current count) :
    CountedSince previous (current + 1) (count + 1) := by
  simp only [CountedSince, UInt32.size, UInt32.toNat_add, UInt32.toNat_one] at *
  omega

/-- The difference is the number of increments, up to the range. -/
theorem toNat_sub (counted : CountedSince previous current count) :
    (current - previous).toNat = count % UInt32.size := by
  have bound := previous.toNat_lt
  simp only [CountedSince, UInt32.size, UInt32.toNat_sub] at *
  omega

theorem eq_iff (counted : CountedSince previous current count) :
    current = previous ↔ count % UInt32.size = 0 := by
  have bound := previous.toNat_lt
  rw [← UInt32.toNat_inj]
  simp only [CountedSince, UInt32.size] at *
  omega

/-- It is seen to have grown unless it has passed the end of its range. -/
theorem lt_iff (counted : CountedSince previous current count) :
    previous < current ↔
      count % UInt32.size ≠ 0 ∧ previous.toNat + count % UInt32.size < UInt32.size := by
  have bound := previous.toNat_lt
  rw [UInt32.lt_iff_toNat_lt]
  simp only [CountedSince, UInt32.size] at *
  omega

end CountedSince

end FlowCloud.Foundation
