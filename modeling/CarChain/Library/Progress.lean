import CarChain.Library.StepSystem
import Mathlib.Algebra.BigOperators.Group.Finset.Basic
import Mathlib.Data.Finset.Max

/-! Progress of step systems: runs with their actions, what such a run can spend, and threads
that wait for one another's locks.
-/

namespace StepSystem

section

variable {State Action : Type}

/-- The actions lead from one state to another, each enabled and permitted when it is taken. -/
inductive Runs (step : State → Action → Option State) (guard : State → Action → Prop)
    : State → List Action → State → Prop
  | nil (state : State) : Runs step guard state [] state
  | cons {state between after : State} {action : Action} {rest : List Action}
    (permitted : guard state action) (taken : step state action = some between)
    (later : Runs step guard between rest after)
    : Runs step guard state (action :: rest) after

variable {step : State → Action → Option State} {guard : State → Action → Prop}
  {initial state : State} {actions : List Action}

/-- A run reaches its last state, by induction on it. -/
theorem Runs.reaches (run : Runs step guard initial actions state)
    : Reaches step guard initial state := by
  induction run with
  | nil => exact .start
  | cons permitted taken _ ih => exact (Reaches.next .start permitted taken).trans ih

/-- A successful replay is a run of its actions, by induction on them. -/
theorem runs_of_replay [∀ state action, Decidable (guard state action)]
    (h : replay step guard initial actions = some state)
    : Runs step guard initial actions state := by
  induction actions generalizing initial with
  | nil => exact Option.some.inj h ▸ .nil initial
  | cons action rest ih =>
      by_cases permitted : guard initial action
      · rw [replay, if_pos permitted] at h
        obtain ⟨between, taken, later⟩ := Option.bind_eq_some_iff.mp h
        exact .cons permitted taken (ih later)
      · rw [replay, if_neg permitted] at h
        exact absurd h (by simp)

/-- A guard may be exchanged for one that permits each of the actions anywhere, by induction on the
run.
-/
theorem Runs.exchange {other : State → Action → Prop}
    (permits : ∀ action ∈ actions, ∀ state, other state action)
    (run : Runs step guard initial actions state)
    : Runs step other initial actions state := by
  induction run with
  | nil => exact .nil _
  | cons permitted taken _ ih =>
      exact .cons (permits _ List.mem_cons_self _) taken
        (ih (fun action member => permits action (List.mem_cons_of_mem _ member)))

/-- Where each action that is paid for takes one from a measure, and some add at most a fixed
amount to it, a run pays for no more than was there and was added; by induction on the run.
-/
theorem Runs.spends {holds : State → Prop} {measure : State → Nat} {paid adds : Action → Bool}
    {amount : Nat} (first : holds initial)
    (preserved
      : ∀ state action after,
          holds state → guard state action → step state action = some after → holds after)
    (pays
      : ∀ state action after,
          holds state
          → guard state action
          → step state action = some after
          → measure after + (if paid action then 1 else 0)
            ≤ measure state + (if adds action then amount else 0))
    (run : Runs step guard initial actions state)
    : measure state + actions.countP paid ≤ measure initial + amount * actions.countP adds := by
  induction run with
  | nil => simp
  | @cons state between after action rest permitted taken later ih =>
      have here := pays _ _ _ first permitted taken
      have beyond := ih (preserved _ _ _ first permitted taken)
      rw [List.countP_cons, List.countP_cons, Nat.mul_add]
      split at here <;> split at here <;> simp_all <;> omega

end

/-- Parties that stand beside one another spend together what one of them spends. -/
theorem sum_spends {Party State : Type} [Fintype Party] [DecidableEq Party]
    {measure : State → Nat} {states : Party → State} {party : Party} {after : State}
    {paid added : Nat} (spends : measure after + paid ≤ measure (states party) + added)
    : ∑ other, measure (Function.update states party after other) + paid
      ≤ ∑ other, measure (states other) + added := by
  have others
      : ∑ other ∈ Finset.univ.erase party, measure (Function.update states party after other)
        = ∑ other ∈ Finset.univ.erase party, measure (states other) :=
    Finset.sum_congr rfl (fun other apart => by
      rw [Function.update_of_ne (Finset.ne_of_mem_erase apart)])
  rw [← Finset.add_sum_erase _ _ (Finset.mem_univ party), others, Function.update_self,
    ← Finset.add_sum_erase _ (fun other => measure (states other)) (Finset.mem_univ party)]
  omega

/-- Threads that each wait for a lock above all those they hold are not all blocked: one that
waits for the highest waits for a lock that none of them holds.
-/
theorem exists_unblocked {Thread Lock : Type} [LinearOrder Lock] {threads : List Thread}
    {wanted : Thread → Lock} {held : Thread → Lock → Prop} (nonempty : threads ≠ [])
    (ordered : ∀ thread ∈ threads, ∀ lock, held thread lock → lock < wanted thread)
    : ∃ thread ∈ threads, ∀ other ∈ threads, ¬held other (wanted thread) := by
  classical
  obtain ⟨thread, member, highest⟩ :=
    threads.toFinset.exists_max_image wanted (List.toFinset_nonempty_iff threads |>.mpr nonempty)
  refine ⟨thread, List.mem_toFinset.mp member, fun other there holding => ?_⟩
  have above := ordered other there _ holding
  exact absurd (highest other (List.mem_toFinset.mpr there)) (not_le.mpr above)

end StepSystem
