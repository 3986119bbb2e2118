import CarChain.Library.CRuntime

/-! Two computations that allocate in lockstep.

They ask for memory at the same points, so that one script of answers drives both, and either
both fault in the same way or both return, with values that are related.
-/

namespace CRuntime

variable {α β γ δ : Type}

/-- What two results of a run have in common. -/
def SameOutcome (rel : α → β → Prop)
    : Except Fault (α × List Bool) → Except Fault (β × List Bool) → Prop
  | .ok (low, rest), .ok (high, rest') => rel low high ∧ rest = rest'
  | .error fault, .error fault' => fault = fault'
  | _, _ => False

/-- Either both runs faulted, or both returned. -/
theorem sameOutcome_cases {rel : α → β → Prop} {low : Except Fault (α × List Bool)}
    {high : Except Fault (β × List Bool)} (h : SameOutcome rel low high)
    : (∃ fault, low = .error fault ∧ high = .error fault)
      ∨ ∃ left right rest, low = .ok (left, rest) ∧ high = .ok (right, rest) ∧ rel left right := by
  match low, high, h with
  | .error fault, .error _, rfl => exact .inl ⟨fault, rfl, rfl⟩
  | .ok (left, rest), .ok (right, _), ⟨related, rfl⟩ =>
      exact .inr ⟨left, right, rest, rfl, rfl, related⟩

/-- Under every script both computations fault alike, or return related values and leave the same
answers.
-/
def Lockstep (rel : α → β → Prop) (low : Mem α) (high : Mem β) : Prop :=
  ∀ script, SameOutcome rel (low.run script) (high.run script)

section

variable {rel : α → β → Prop} {low : Mem α} {high : Mem β}

theorem Lockstep.pure {left : α} {right : β} (related : rel left right)
    : Lockstep rel (Pure.pure left) (Pure.pure right) :=
  fun _ => ⟨related, rfl⟩

/-- A computation is in lockstep with itself. -/
theorem Lockstep.refl (action : Mem α) : Lockstep Eq action action := by
  intro script
  cases action.run script with
  | error fault => rfl
  | ok result => exact ⟨rfl, rfl⟩

/-- Sequences are in lockstep when their parts are, the second ones after related values. -/
theorem Lockstep.bind {rest : γ → δ → Prop} {nextLow : α → Mem γ} {nextHigh : β → Mem δ}
    (first : Lockstep rel low high)
    (second : ∀ left right, rel left right → Lockstep rest (nextLow left) (nextHigh right))
    : Lockstep rest (low >>= nextLow) (high >>= nextHigh) := by
  intro script
  rw [StateT.run_bind, StateT.run_bind]
  rcases sameOutcome_cases (first script) with
    ⟨fault, ranLow, ranHigh⟩ | ⟨left, right, between, ranLow, ranHigh, related⟩
  · rw [ranLow, ranHigh]
    rfl
  · rw [ranLow, ranHigh]
    exact second left right related between

/-- Sequences with the same first part. -/
theorem Lockstep.bind_same {rest : γ → δ → Prop} {nextLow : α → Mem γ} {nextHigh : α → Mem δ}
    (action : Mem α) (second : ∀ value, Lockstep rest (nextLow value) (nextHigh value))
    : Lockstep rest (action >>= nextLow) (action >>= nextHigh) :=
  (Lockstep.refl action).bind (fun value _ same => same ▸ second value)

end

end CRuntime
