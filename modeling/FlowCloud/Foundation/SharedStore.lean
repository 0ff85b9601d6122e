import Mathlib.Data.Set.Function
import FlowCloud.Foundation.Runs

/-! # Names that share a store

Values are kept under names, and every name has a key of one common store.  Where no two names
have one key, the store shows under each name what was written under that name, as if every
name had a store for itself.
-/

namespace FlowCloud.Foundation

variable {Name Key Value : Type} [DecidableEq Key]

/-- The value of a name is set or deleted, under the key of the name. -/
def writeUnder (key : Name → Key) (store : Key → Option Value) (write : Name × Option Value) : Key → Option Value :=
  Function.update store (key write.1) write.2

@[simp] theorem writeUnder_same (key : Name → Key) (store : Key → Option Value) (write : Name × Option Value) :
    writeUnder key store write (key write.1) = write.2 := Function.update_self _ _ _

theorem writeUnder_other {key : Name → Key} {store : Key → Option Value} {write : Name × Option Value} {other : Key}
    (differs : other ≠ key write.1) : writeUnder key store write other = store other :=
  Function.update_of_ne differs _ _

variable [DecidableEq Name]

variable {key : Name → Key} {names : Set Name}

/-- A write under a name reaches the key of no other. -/
theorem writeUnder_agrees (apart : Set.InjOn key names) {store : Key → Option Value} {own : Name → Option Value}
    (agrees : ∀ name ∈ names, store (key name) = own name) {write : Name × Option Value} (named : write.1 ∈ names) :
    ∀ name ∈ names, writeUnder key store write (key name) = writeUnder id own write name := by
  intro name member
  by_cases same : name = write.1
  · rw [same, writeUnder_same]
    exact (writeUnder_same id own write).symm
  · have differs : key name ≠ key write.1 := fun equal => same (apart member named equal)
    rw [writeUnder_other differs, agrees name member]
    exact (writeUnder_other same).symm

/-- Whatever is written under the names, each of them is read as if the others were not there. -/
theorem run_writeUnder_agrees (apart : Set.InjOn key names) {store : Key → Option Value} {own : Name → Option Value}
    (agrees : ∀ name ∈ names, store (key name) = own name) {writes : List (Name × Option Value)}
    (named : ∀ write ∈ writes, write.1 ∈ names) :
    ∀ name ∈ names, run (writeUnder key) store writes (key name) = run (writeUnder id) own writes name := by
  induction writes generalizing store own with
  | nil => exact agrees
  | cons write writes inductionHypothesis =>
    obtain ⟨first, later⟩ := List.forall_mem_cons.mp named
    exact inductionHypothesis (writeUnder_agrees apart agrees first) later

end FlowCloud.Foundation
