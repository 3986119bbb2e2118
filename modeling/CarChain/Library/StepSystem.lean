/-! Partial step functions, their guarded runs, and the invariant rule.

A system is a function that performs one action or reports that it is not enabled. Guards
are kept apart from the step function, so that one system can be studied under several
assumptions about its environment.
-/

namespace StepSystem

variable {State Action : Type}

/-- The states reached from `initial` by enabled actions that all meet the guard. -/
inductive Reaches (step : State → Action → Option State) (guard : State → Action → Prop)
    (initial : State) : State → Prop
  | start : Reaches step guard initial initial
  | next {state after : State} {action : Action} (before : Reaches step guard initial state)
    (permitted : guard state action) (taken : step state action = some after)
    : Reaches step guard initial after

/-- `replay` performs the actions in order; it fails at the first one that is not enabled
or that the guard forbids.
-/
def replay (step : State → Action → Option State) (guard : State → Action → Prop)
    [∀ state action, Decidable (guard state action)]
    : State → List Action → Option State
  | state, [] => some state
  | state, action :: rest =>
      if guard state action then
        (step state action).bind (fun after => replay step guard after rest)
      else
        none

section

variable {step : State → Action → Option State} {guard : State → Action → Prop}
  {initial : State}

/-- A property that holds initially and survives each permitted action holds of every
reached state, by induction on the run.
-/
theorem Reaches.invariant {holds : State → Prop} (first : holds initial)
    (preserved
      : ∀ state action after,
          holds state → guard state action → step state action = some after → holds after)
    {state : State} (h : Reaches step guard initial state)
    : holds state := by
  induction h with
  | start => exact first
  | next _ permitted taken ih => exact preserved _ _ _ ih permitted taken

/-- An invariant may be used to exchange the guard of a run, by induction on it. -/
theorem Reaches.exchange {holds : State → Prop} {other : State → Action → Prop}
    (first : holds initial)
    (preserved
      : ∀ state action after,
          holds state → guard state action → step state action = some after → holds after)
    (permits
      : ∀ state action after,
          holds state
          → guard state action
          → step state action = some after
          → other state action)
    {state : State} (h : Reaches step guard initial state)
    : Reaches step other initial state := by
  induction h with
  | start => exact .start
  | next before permitted taken ih =>
      exact .next ih (permits _ _ _ (before.invariant first preserved) permitted taken) taken

/-- Runs compose, by induction on the second one. -/
theorem Reaches.trans {middle state : State} (hl : Reaches step guard initial middle)
    (hr : Reaches step guard middle state)
    : Reaches step guard initial state := by
  induction hr with
  | start => exact hl
  | next _ permitted taken ih => exact .next ih permitted taken

/-- A successful replay is a guarded run, by induction on the action list. -/
theorem reaches_of_replay [∀ state action, Decidable (guard state action)]
    (actions : List Action) {state : State}
    (h : replay step guard initial actions = some state)
    : Reaches step guard initial state := by
  induction actions generalizing initial with
  | nil => exact Option.some.inj h ▸ .start
  | cons action rest ih =>
      by_cases permitted : guard initial action
      · rw [replay, if_pos permitted] at h
        obtain ⟨after, taken, later⟩ := Option.bind_eq_some_iff.mp h
        exact (Reaches.next .start permitted taken).trans (ih later)
      · rw [replay, if_neg permitted] at h
        exact absurd h (by simp)

end

end StepSystem
