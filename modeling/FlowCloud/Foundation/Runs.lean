import Mathlib.Data.List.Basic
import Mathlib.Order.Defs.PartialOrder

/-! # Runs of a step function

A component takes one step for each event it receives.  `run` is the state after a list of
events, `Always` says that every step of the run satisfies a condition on the state before
it and its event.  The rules carry an invariant along a run and use it to turn one
condition on the steps into another.
-/

namespace FlowCloud.Foundation

variable {State Event : Type}

def run (step : State → Event → State) (start : State) (events : List Event) : State :=
  events.foldl step start

@[simp] theorem run_nil (step : State → Event → State) (start : State) : run step start [] = start := rfl

@[simp] theorem run_cons (step : State → Event → State) (start : State) (event : Event) (events : List Event) :
    run step start (event :: events) = run step (step start event) events := rfl

theorem run_append (step : State → Event → State) (start : State) (first later : List Event) :
    run step start (first ++ later) = run step (run step start first) later := List.foldl_append

theorem run_concat (step : State → Event → State) (start : State) (events : List Event) (event : Event) :
    run step start (events ++ [event]) = step (run step start events) event :=
  run_append step start events [event]

/-- A state that none of the events changes. -/
theorem run_of_fixed {step : State → Event → State} {start : State} {events : List Event}
    (fixed : ∀ event ∈ events, step start event = start) : run step start events = start := by
  induction events with
  | nil => rfl
  | cons event events inductionHypothesis =>
    rw [List.forall_mem_cons] at fixed
    rw [run_cons, fixed.1]
    exact inductionHypothesis fixed.2

/-- Every event of the run is taken in a state where the condition holds. -/
def Always (step : State → Event → State) (condition : State → Event → Prop) : State → List Event → Prop
  | _, [] => True
  | state, event :: events => condition state event ∧ Always step condition (step state event) events

@[simp] theorem always_nil {step : State → Event → State} {condition : State → Event → Prop} {start : State} :
    Always step condition start [] := trivial

@[simp] theorem always_cons {step : State → Event → State} {condition : State → Event → Prop} {start : State}
    {event : Event} {events : List Event} :
    Always step condition start (event :: events) ↔
      condition start event ∧ Always step condition (step start event) events := Iff.rfl

theorem always_append {step : State → Event → State} {condition : State → Event → Prop} {start : State}
    {first later : List Event} :
    Always step condition start (first ++ later) ↔
      Always step condition start first ∧ Always step condition (run step start first) later := by
  induction first generalizing start with
  | nil => simp
  | cons event first inductionHypothesis => simp [inductionHypothesis, and_assoc]

theorem Always.and {step : State → Event → State} {first second : State → Event → Prop} {start : State}
    {events : List Event} (left : Always step first start events) (right : Always step second start events) :
    Always step (fun state event => first state event ∧ second state event) start events := by
  induction events generalizing start with
  | nil => trivial
  | cons event events inductionHypothesis =>
    exact ⟨⟨left.1, right.1⟩, inductionHypothesis left.2 right.2⟩

theorem Always.imp {step : State → Event → State} {first second : State → Event → Prop} {start : State}
    {events : List Event} (always : Always step first start events)
    (implied : ∀ state event, first state event → second state event) : Always step second start events := by
  induction events generalizing start with
  | nil => trivial
  | cons event events inductionHypothesis => exact ⟨implied start event always.1, inductionHypothesis always.2⟩

/-- Conditions that agree in every state agree along every run. -/
theorem always_congr {step : State → Event → State} {first second : State → Event → Prop}
    (agree : ∀ state event, first state event ↔ second state event) {start : State} {events : List Event} :
    Always step first start events ↔ Always step second start events :=
  ⟨fun always => always.imp fun state event => (agree state event).mp,
    fun always => always.imp fun state event => (agree state event).mpr⟩

/-- A condition on the events alone. -/
theorem Always.of_forall {step : State → Event → State} {admitted : Event → Prop} {start : State}
    {events : List Event} (each : ∀ event ∈ events, admitted event) :
    Always step (fun _ event => admitted event) start events := by
  induction events generalizing start with
  | nil => trivial
  | cons event events inductionHypothesis =>
    rw [List.forall_mem_cons] at each
    exact ⟨each.1, inductionHypothesis each.2⟩

instance Always.decidable {step : State → Event → State} {condition : State → Event → Prop}
    [∀ state event, Decidable (condition state event)] :
    ∀ (start : State) (events : List Event), Decidable (Always step condition start events)
  | _, [] => .isTrue trivial
  | start, event :: events =>
    have : Decidable (Always step condition (step start event) events) := decidable (step start event) events
    inferInstanceAs (Decidable (condition start event ∧ Always step condition (step start event) events))

/-- The condition holds of the event that follows any part of the run. -/
theorem Always.after {step : State → Event → State} {condition : State → Event → Prop} {start : State}
    {first later : List Event} {event : Event} (always : Always step condition start (first ++ event :: later)) :
    condition (run step start first) event :=
  (always_append.mp always).2.1

theorem always_iff {step : State → Event → State} {condition : State → Event → Prop} {start : State}
    {events : List Event} :
    Always step condition start events ↔
      ∀ first event later, events = first ++ event :: later → condition (run step start first) event := by
  constructor
  · rintro always first event later rfl
    exact always.after
  · intro each
    induction events generalizing start with
    | nil => trivial
    | cons event events inductionHypothesis =>
      refine ⟨each [] event events rfl, inductionHypothesis ?_⟩
      rintro first other later rfl
      exact each (event :: first) other later rfl

theorem run_map {Label : Type} (step : State → Event → State) (start : State) (label : Label → Event)
    (labels : List Label) :
    run step start (labels.map label) = run (fun state => step state ∘ label) start labels := List.foldl_map

/-- Two components that stay related step by step stay related along a run. -/
theorem run_related {Other : Type} {step : State → Event → State} {other : Other → Event → Other}
    (Related : State → Other → Prop)
    (related : ∀ first second event, Related first second → Related (step first event) (other second event))
    {first : State} {second : Other} (initial : Related first second) (events : List Event) :
    Related (run step first events) (run other second events) := by
  induction events generalizing first second with
  | nil => exact initial
  | cons event events inductionHypothesis => exact inductionHypothesis (related first second event initial)

section Invariant

variable {step : State → Event → State} {Invariant : State → Prop}

/-- An invariant that every step preserves holds at the end of every run. -/
theorem run_invariant (preserved : ∀ state event, Invariant state → Invariant (step state event)) {start : State}
    (initial : Invariant start) (events : List Event) : Invariant (run step start events) := by
  induction events generalizing start with
  | nil => exact initial
  | cons event events inductionHypothesis => exact inductionHypothesis (preserved start event initial)

/-- An invariant that admitted steps preserve holds at the end of an admitted run. -/
theorem Always.invariant {condition : State → Event → Prop}
    (preserved : ∀ state event, Invariant state → condition state event → Invariant (step state event))
    {start : State} {events : List Event} (initial : Invariant start)
    (admitted : Always step condition start events) : Invariant (run step start events) := by
  induction events generalizing start with
  | nil => exact initial
  | cons event events inductionHypothesis =>
    exact inductionHypothesis (preserved start event initial admitted.1) admitted.2

/-- Under an invariant an admitted run satisfies what the invariant implies of its steps. -/
theorem Always.imp_of_invariant {condition conclusion : State → Event → Prop}
    (preserved : ∀ state event, Invariant state → condition state event → Invariant (step state event))
    (implied : ∀ state event, Invariant state → condition state event → conclusion state event)
    {start : State} {events : List Event} (initial : Invariant start)
    (admitted : Always step condition start events) : Always step conclusion start events := by
  induction events generalizing start with
  | nil => trivial
  | cons event events inductionHypothesis =>
    exact ⟨implied start event initial admitted.1,
      inductionHypothesis (preserved start event initial admitted.1) admitted.2⟩

/-- Conditions that agree under an unconditional invariant agree along every run. -/
theorem always_congr_of_invariant {first second : State → Event → Prop}
    (preserved : ∀ state event, Invariant state → Invariant (step state event))
    (agree : ∀ state event, Invariant state → (first state event ↔ second state event))
    {start : State} (initial : Invariant start) (events : List Event) :
    Always step first start events ↔ Always step second start events := by
  induction events generalizing start with
  | nil => exact Iff.rfl
  | cons event events inductionHypothesis =>
    exact and_congr (agree start event initial) (inductionHypothesis (preserved start event initial))

end Invariant

/-! ## Outputs -/

section Observed

variable {Output : Type}

/-- What the steps of the run put out, in order. -/
def observed (step : State → Event → State) (output : State → Event → Option Output) : State → List Event → List Output
  | _, [] => []
  | state, event :: events => (output state event).toList ++ observed step output (step state event) events

/-- An output that is never possible again once it was put out is put out at most once. -/
theorem Always.observed_nodup {step : State → Event → State} {output : State → Event → Option Output}
    {condition : State → Event → Prop} {Invariant : State → Prop} (Spent : State → Output → Prop)
    (preserved : ∀ state event, Invariant state → condition state event → Invariant (step state event))
    (spends : ∀ state event value, Invariant state → condition state event → output state event = some value →
      ¬ Spent state value ∧ Spent (step state event) value)
    (keeps : ∀ state event value, Invariant state → condition state event → Spent state value →
      Spent (step state event) value)
    {start : State} {events : List Event} (initial : Invariant start)
    (admitted : Always step condition start events) :
    (observed step output start events).Nodup ∧ ∀ value ∈ observed step output start events, ¬ Spent start value := by
  induction events generalizing start with
  | nil => exact ⟨.nil, List.forall_mem_nil _⟩
  | cons event events inductionHypothesis =>
    obtain ⟨nodup, unspent⟩ := inductionHypothesis (preserved start event initial admitted.1) admitted.2
    have later : ∀ value ∈ observed step output (step start event) events, ¬ Spent start value :=
      fun value member spent => unspent value member (keeps start event value initial admitted.1 spent)
    rw [observed]
    cases put : output start event with
    | none => exact ⟨nodup, later⟩
    | some value =>
      obtain ⟨notBefore, afterwards⟩ := spends start event value initial admitted.1 put
      refine ⟨List.nodup_cons.mpr ⟨fun again => unspent value again afterwards, nodup⟩, ?_⟩
      exact List.forall_mem_cons.mpr ⟨notBefore, later⟩

end Observed

/-! ## Growing views -/

section View

variable {Value : Type} [PartialOrder Value] {step : State → Event → State} {view : State → Value}

theorem run_view_le (grows : ∀ state event, view state ≤ view (step state event)) (start : State)
    (events : List Event) : view start ≤ view (run step start events) := by
  induction events generalizing start with
  | nil => exact le_refl _
  | cons event events inductionHypothesis =>
    exact le_trans (grows start event) (inductionHypothesis (step start event))

/-- When steps only ever add to what is seen of the state, a run leaves the view as it was
    exactly when no event has anything to add to it. -/
theorem run_view_eq_iff {Quiet : Value → Event → Prop} (grows : ∀ state event, view state ≤ view (step state event))
    (quiet : ∀ state event, view (step state event) = view state ↔ Quiet (view state) event)
    (start : State) (events : List Event) :
    view (run step start events) = view start ↔ ∀ event ∈ events, Quiet (view start) event := by
  induction events generalizing start with
  | nil => simp
  | cons event events inductionHypothesis =>
    rw [run_cons, List.forall_mem_cons, ← quiet start event]
    constructor
    · intro same
      -- the view only grows, so a run that ends where it began never left
      have first : view (step start event) = view start :=
        le_antisymm (same ▸ run_view_le grows (step start event) events) (grows start event)
      refine ⟨first, ?_⟩
      rw [← first]
      exact (inductionHypothesis (step start event)).mp (same.trans first.symm)
    · rintro ⟨first, later⟩
      rw [← first] at later
      exact ((inductionHypothesis (step start event)).mpr later).trans first

end View

end FlowCloud.Foundation
