import Mathlib.Tactic.Common

/-! # Programs that fail halfway

A program may change a state that no transaction protects, and fail afterwards: what it has
changed until then stays.  The rules say of such a program whether a view of the state is
the same after every failure.
-/

namespace FlowCloud.Foundation

def Attempt (Failure State Result : Type) : Type := State → Except Failure Result × State

variable {Failure State View Item First Second Third : Type}

instance : Monad (Attempt Failure State) where
  pure value := fun state => (.ok value, state)
  bind program next := fun state =>
    match program state with
    | (.ok value, later) => next value later
    | (.error failure, later) => (.error failure, later)

namespace Attempt

/-- A step that has its answer from elsewhere. -/
def answered (answer : Except Failure First) : Attempt Failure State First := fun state => (answer, state)

/-- A step that changes the state. -/
def changed (change : State → Except Failure First × State) : Attempt Failure State First := change

section Outcomes

variable {program : Attempt Failure State First} {next : First → Attempt Failure State Second} {state later : State}

theorem bind_of_ok {value : First} (done : program state = (.ok value, later)) :
    (program >>= next) state = next value later := by
  show (match program state with
    | (.ok value, later) => next value later
    | (.error failure, later) => (.error failure, later)) = next value later
  rw [done]

theorem bind_of_error {failure : Failure} (failed : program state = (.error failure, later)) :
    (program >>= next) state = (.error failure, later) := by
  show (match program state with
    | (.ok value, later) => next value later
    | (.error failure, later) => (.error failure, later)) = (.error failure, later)
  rw [failed]

end Outcomes

/-! ## Views that failures keep -/

/-- After a failure the view is what it was before. -/
def KeepsOnFailure (view : State → View) (program : Attempt Failure State First) (state : State) : Prop :=
  ∀ failure later, program state = (.error failure, later) → view later = view state

/-- The view is the same after every outcome. -/
def Leaves (view : State → View) (program : Attempt Failure State First) : Prop :=
  ∀ state, view (program state).2 = view state

variable {view : State → View} {program : Attempt Failure State First} {next : First → Attempt Failure State Second}
  {state : State}

theorem Leaves.keepsOnFailure (leaves : Leaves view program) (state : State) : KeepsOnFailure view program state := by
  intro failure later failed
  have same := leaves state
  rw [failed] at same
  exact same

theorem leaves_pure (value : First) : Leaves view (pure value : Attempt Failure State First) := fun _ => rfl

theorem leaves_answered (answer : Except Failure First) :
    Leaves view (answered answer : Attempt Failure State First) := fun _ => rfl

theorem Leaves.bind (first : Leaves view program) (rest : ∀ value, Leaves view (next value)) :
    Leaves view (program >>= next) := by
  intro state
  have same := first state
  cases ran : program state with
  | mk result later =>
    rw [ran] at same
    cases result with
    | error failure =>
      rw [bind_of_error ran]
      exact same
    | ok value =>
      rw [bind_of_ok ran, rest value later]
      exact same

theorem leaves_foldlM {turn : Second → Item → Attempt Failure State Second}
    (turns : ∀ value item, Leaves view (turn value item)) (items : List Item) (start : Second) :
    Leaves view (items.foldlM turn start) := by
  induction items generalizing start with
  | nil => exact leaves_pure start
  | cons item items inductionHypothesis =>
    rw [List.foldlM_cons]
    exact (turns start item).bind inductionHypothesis

theorem leaves_forM {turn : Item → Attempt Failure State Unit} (turns : ∀ item, Leaves view (turn item))
    (items : List Item) : Leaves view (items.forM turn) := by
  induction items with
  | nil => exact leaves_pure ()
  | cons item items inductionHypothesis => exact (turns item).bind fun _ => inductionHypothesis

/-- Only what comes after an answer can change the view. -/
theorem keepsOnFailure_answered_bind {answer : Except Failure First} :
    KeepsOnFailure view (answered answer >>= next) state ↔
      ∀ value, answer = .ok value → KeepsOnFailure view (next value) state := by
  cases answer with
  | error failure =>
    constructor
    · rintro _ value ⟨⟩
    · intro _ other later failed
      rw [bind_of_error (rfl : answered (.error failure) state = (.error failure, state))] at failed
      cases failed
      rfl
  | ok value =>
    have same : (answered (.ok value) >>= next) state = next value state := bind_of_ok rfl
    constructor
    · rintro keeps _ ⟨⟩ failure later failed
      exact keeps failure later (same.trans failed)
    · intro keeps failure later failed
      exact keeps value rfl failure later (same.symm.trans failed)

/-- A change that is made before the last answer stays if the answer is a failure. -/
theorem keepsOnFailure_change {change : Attempt Failure State First} {answer : First → Except Failure Second}
    {value : First} {later : State} (made : change state = (.ok value, later)) :
    KeepsOnFailure view (change >>= fun value => answered (answer value)) state ↔
      (∃ last, answer value = .ok last) ∨ view later = view state := by
  have outcome : (change >>= fun value => answered (answer value)) state = (answer value, later) := bind_of_ok made
  constructor
  · intro keeps
    cases answered : answer value with
    | ok last => exact .inl ⟨last, rfl⟩
    | error failure =>
      rw [answered] at outcome
      exact .inr (keeps failure later outcome)
  · rintro (⟨last, done⟩ | same) failure after failed
    · rw [outcome, done] at failed
      cases failed
    · rw [outcome] at failed
      rw [← (Prod.mk.inj failed).2]
      exact same

end Attempt

end FlowCloud.Foundation
