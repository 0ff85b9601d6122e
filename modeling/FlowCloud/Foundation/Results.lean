import Mathlib.Logic.Basic

/-! # Results that may be errors -/

namespace FlowCloud.Foundation

variable {Failure Other Value Result : Type}

theorem bind_eq_ok {first : Except Failure Value} {rest : Value → Except Failure Result} {result : Result} :
    first >>= rest = .ok result ↔ ∃ value, first = .ok value ∧ rest value = .ok result := by
  cases first with
  | error error => simp [bind, Except.bind]
  | ok value => simp [bind, Except.bind]

theorem mapError_eq_ok {first : Except Other Value} {wrap : Other → Failure} {value : Value} :
    first.mapError wrap = .ok value ↔ first = .ok value := by
  cases first with
  | error error => exact iff_of_false (fun done => by cases done) fun done => by cases done
  | ok other =>
    constructor
    · intro done
      rw [Except.ok.inj done]
    · intro done
      rw [Except.ok.inj done]
      rfl

theorem throw_or_eq_ok {Failure Value : Type} {refused : Prop} [Decidable refused] {failure : Failure}
    {next : Except Failure Value} {value : Value} :
    (if refused then throw failure else next) = .ok value ↔ ¬ refused ∧ next = .ok value := by
  split
  · rename_i holds
    exact iff_of_false (fun done => by cases done) fun done => done.1 holds
  · rename_i fails
    exact (and_iff_right fails).symm

/-- What a loop takes that goes on while the next item is there and no error. -/
def untilError : List (Except Failure Value) → List Value
  | .ok value :: items => value :: untilError items
  | .error _ :: _ | [] => []

theorem untilError_append (values : List Value) (items : List (Except Failure Value)) :
    untilError (values.map .ok ++ items) = values ++ untilError items := by
  induction values with
  | nil => rfl
  | cons value values inductionHypothesis => exact congrArg (value :: ·) inductionHypothesis

/-- A stream without errors is taken to its end. -/
theorem mem_untilError_of_ok_mem {items : List (Except Failure Value)} (unbroken : ∀ failure, .error failure ∉ items)
    {value : Value} (sent : .ok value ∈ items) : value ∈ untilError items := by
  induction items with
  | nil => cases sent
  | cons item items inductionHypothesis =>
    cases item with
    | error failure => exact absurd List.mem_cons_self (unbroken failure)
    | ok first =>
      have later : ∀ failure, .error failure ∉ items := fun failure member =>
        unbroken failure (List.mem_cons_of_mem _ member)
      cases sent with
      | head => exact List.mem_cons_self
      | tail _ sent => exact List.mem_cons_of_mem _ (inductionHypothesis later sent)

end FlowCloud.Foundation
