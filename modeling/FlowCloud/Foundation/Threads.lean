import Mathlib.Data.List.Basic
import Mathlib.Data.List.Forall2

/-! # Threads that take turns

The states of the threads of a component are a list.  A step replaces the state of one of
them: what held of the others holds on, and a count changes by that one.
-/

namespace FlowCloud.Foundation

variable {Thread : Type} {threads : List Thread} {index : Nat} {old new : Thread}

theorem mem_set_of_turn (turn : threads[index]? = some old) (new : Thread) : new ∈ threads.set index new :=
  List.mem_set (List.getElem?_eq_some_iff.mp turn).1 new

theorem mem_set_of_other (turn : threads[index]? = some old) (new : Thread) {other : Thread}
    (member : other ∈ threads) (differs : other ≠ old) : other ∈ threads.set index new := by
  obtain ⟨position, found⟩ := List.mem_iff_getElem?.mp member
  have elsewhere : index ≠ position := by
    rintro rfl
    exact differs (Option.some.inj (found.symm.trans turn))
  refine List.mem_iff_getElem?.mpr ⟨position, ?_⟩
  rw [List.getElem?_set_ne elsewhere]
  exact found

theorem forall_mem_set {Holds : Thread → Prop} (each : ∀ thread ∈ threads, Holds thread) (index : Nat)
    (moved : Holds new) : ∀ thread ∈ threads.set index new, Holds thread := by
  intro thread member
  cases List.mem_or_eq_of_mem_set member with
  | inl before => exact each thread before
  | inr same =>
    obtain rfl := same
    exact moved

/-- A property that the step does not take away is kept by some thread. -/
theorem exists_mem_set {Holds : Thread → Prop} (among : ∃ thread ∈ threads, Holds thread)
    (turn : threads[index]? = some old) (kept : Holds old → Holds new) :
    ∃ thread ∈ threads.set index new, Holds thread := by
  obtain ⟨thread, member, holds⟩ := among
  by_cases same : thread = old
  · subst same
    exact ⟨new, mem_set_of_turn turn new, kept holds⟩
  · exact ⟨thread, mem_set_of_other turn new member same, holds⟩

theorem countP_set_add (holds : Thread → Bool) (turn : threads[index]? = some old) (new : Thread) :
    (threads.set index new).countP holds + (holds old).toNat = threads.countP holds + (holds new).toNat := by
  obtain ⟨bound, rfl⟩ := List.getElem?_eq_some_iff.mp turn
  rw [List.countP_set bound]
  cases holdsOld : holds threads[index] with
  | false => cases holds new <;> rfl
  | true =>
    have counted : 0 < threads.countP holds := List.countP_pos_iff.mpr ⟨_, List.getElem_mem bound, holdsOld⟩
    cases holds new <;> simp <;> omega

/-! ## Two lists in step -/

section InStep

variable {Other : Type} {Related : Thread → Other → Prop} {others : List Other}

theorem inStep_getElem? (inStep : List.Forall₂ Related threads others) (index : Nat) :
    Option.Rel Related threads[index]? others[index]? := by
  induction inStep generalizing index with
  | nil => exact .none
  | cons related _ inductionHypothesis =>
    cases index with
    | zero => simpa using Option.Rel.some related
    | succ index => simpa using inductionHypothesis index

theorem inStep_set (inStep : List.Forall₂ Related threads others) (index : Nat) {other : Other}
    (related : Related new other) : List.Forall₂ Related (threads.set index new) (others.set index other) := by
  induction inStep generalizing index with
  | nil => exact .nil
  | cons head tail inductionHypothesis =>
    cases index with
    | zero => exact .cons related tail
    | succ index => exact .cons head (inductionHypothesis index)

end InStep

end FlowCloud.Foundation
