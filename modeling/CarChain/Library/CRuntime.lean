import Mathlib.Data.List.Basic

/-! A small C runtime: allocations answered by a script, and the faults of pointer code.

A computation reads the outcome of each `malloc` from a script of answers and may end in a
fault. Past the end of the script every allocation succeeds, so the empty script is a run
without allocation failure and every finite pattern of failures is some script.
-/

namespace CRuntime

/-- What goes wrong in a C program instead of a return. -/
inductive Fault where
  | nullDereference
  | outOfBounds
  | loopBound
  deriving DecidableEq, Repr

/-- A computation that allocates from a script of answers and may fault. -/
abbrev Mem := StateT (List Bool) (Except Fault)

section

variable {α β : Type}

/-- Whether the next allocation returns memory. -/
def malloc : Mem Bool
  | [] => .ok (true, [])
  | answer :: rest => .ok (answer, rest)

@[simp]
theorem run_malloc_nil : malloc.run [] = .ok (true, []) := rfl

@[simp]
theorem ok_bind (value : α) (next : α → Except Fault β) : (Except.ok value >>= next) = next value :=
  rfl

@[simp]
theorem error_bind (fault : Fault) (next : α → Except Fault β)
    : ((Except.error fault : Except Fault α) >>= next) = .error fault :=
  rfl

@[simp]
theorem throw_eq_error (fault : Fault) : (throw fault : Except Fault α) = .error fault := rfl

@[simp]
theorem pure_eq_ok (value : α) : (pure value : Except Fault α) = .ok value := rfl

/-- A part that does not allocate and returns is its value. -/
@[simp]
theorem liftM_ok (value : α) : (liftM (Except.ok value : Except Fault α) : Mem α) = pure value :=
  rfl

/-- A sequence that returns is a first part that returns and a second one that returns. -/
theorem run_bind_eq_ok {action : Mem α} {next : α → Mem β} {script after : List Bool} {value : β}
    : (action >>= next).run script = .ok (value, after)
      ↔ ∃ middle between,
          action.run script = .ok (middle, between)
          ∧ (next middle).run between = .ok (value, after) := by
  rw [StateT.run_bind]
  cases h : action.run script with
  | error fault => simp
  | ok result =>
      obtain ⟨middle, between⟩ := result
      simp

/-- A first part that returns hands its value and what is left of the script on. -/
theorem run_bind_of_ok {action : Mem α} {next : α → Mem β} {script between : List Bool} {value : α}
    (h : action.run script = .ok (value, between))
    : (action >>= next).run script = (next value).run between := by
  rw [StateT.run_bind, h]
  rfl

-----------------------------------------------------------------------------------------
-- Postconditions
-----------------------------------------------------------------------------------------

/-- Whatever the script, a value that is returned satisfies the postcondition. -/
def Returns (action : Mem α) (post : α → Prop) : Prop :=
  ∀ script value rest, action.run script = .ok (value, rest) → post value

theorem returns_pure {value : α} {post : α → Prop} (h : post value)
    : Returns (pure value) post := by
  intro script result rest ran
  cases ran
  exact h

/-- A sequence satisfies what its second part satisfies after every value of the first. -/
theorem returns_bind {action : Mem α} {next : α → Mem β} {mid : α → Prop} {post : β → Prop}
    (first : Returns action mid) (second : ∀ value, mid value → Returns (next value) post)
    : Returns (action >>= next) post := by
  intro script value rest ran
  obtain ⟨middle, between, ranFirst, ranSecond⟩ := run_bind_eq_ok.mp ran
  exact second middle (first _ _ _ ranFirst) _ _ _ ranSecond

/-- A first part about which nothing is needed. -/
theorem returns_bind_any {action : Mem α} {next : α → Mem β} {post : β → Prop}
    (second : ∀ value, Returns (next value) post)
    : Returns (action >>= next) post :=
  returns_bind (fun _ _ _ _ => trivial) (fun value (_ : True) => second value)

-----------------------------------------------------------------------------------------
-- Several allocations in a row
-----------------------------------------------------------------------------------------

/-- `grants count script` says that the next `count` allocations all succeed. -/
def grants : Nat → List Bool → Bool
  | 0, _ => true
  | _ + 1, [] => true
  | count + 1, answer :: rest => answer && grants count rest

@[simp]
theorem grants_zero (script : List Bool) : grants 0 script = true := rfl

@[simp]
theorem grants_nil (count : Nat) : grants count [] = true := by
  cases count <;> rfl

@[simp]
theorem grants_succ_cons (count : Nat) (answer : Bool) (rest : List Bool)
    : grants (count + 1) (answer :: rest) = (answer && grants count rest) :=
  rfl

/-- Granting two groups of allocations is granting the first, then the second. -/
theorem grants_add (first second : Nat) (script : List Bool)
    : grants (first + second) script
      = (grants first script && grants second (script.drop first)) := by
  induction first generalizing script with
  | zero => simp
  | succ first ih =>
      rw [Nat.add_right_comm]
      cases script with
      | nil => simp
      | cons answer rest => simp [ih, Bool.and_assoc]

/-- One allocation takes one answer. -/
theorem run_malloc (script : List Bool)
    : malloc.run script = .ok (grants 1 script, script.drop 1) := by
  rcases script with _ | ⟨_ | _, rest⟩ <;> rfl

-----------------------------------------------------------------------------------------
-- NULL-terminated arrays of pointers
-----------------------------------------------------------------------------------------

/-- The cells of a NULL-terminated array that holds these items. -/
def nullTerminated (items : List α) : List (Option α) := items.map some ++ [none]

/-- The index of the first NULL; reading past the last cell faults. -/
def countToNull : List (Option α) → Mem Nat
  | [] => throw .outOfBounds
  | none :: _ => pure 0
  | some _ :: rest => do return (← countToNull rest) + 1

/-- Counting a terminated array finds its length, by induction on the items. -/
@[simp]
theorem countToNull_nullTerminated (items : List α)
    : countToNull (nullTerminated items) = pure items.length := by
  induction items with
  | nil => rfl
  | cons item rest ih =>
      have step : countToNull (nullTerminated (item :: rest))
          = (do return (← countToNull (nullTerminated rest)) + 1) := rfl
      rw [step, ih]
      rfl

/-- The cells before the terminator are the items. -/
@[simp]
theorem take_nullTerminated (items : List α)
    : (nullTerminated items).take items.length = items.map some := by
  simp [nullTerminated]

-----------------------------------------------------------------------------------------
-- Arrays built cell by cell
-----------------------------------------------------------------------------------------

/-- The cells made from the items in order; the first item that yields NULL ends the loop,
and what was made is freed.
-/
def fillAll (make : α → Mem (Option β)) : List α → Mem (Option (List β))
  | [] => pure (some [])
  | item :: rest => do
      match ← make item with
      | none => return none
      | some cell =>
          match ← fillAll make rest with
          | none => return none
          | some cells => return some (cell :: cells)

/-- Mapping the items first is composing, by induction on them. -/
theorem fillAll_map {γ : Type} (make : β → Mem (Option γ)) (f : α → β) (items : List α)
    : fillAll make (items.map f) = fillAll (make ∘ f) items := by
  induction items with
  | nil => rfl
  | cons item rest ih => simp [fillAll, ih]

/-- A loop over cells whose rounds all return their value without a fault returns all of them,
by induction on what the cells were made from.
-/
theorem run_mapM_map {γ : Type} {make : β → Mem γ} {cell : α → β} {value : α → γ}
    (each : ∀ item, (make (cell item)).run [] = .ok (value item, [])) (items : List α)
    : ((items.map cell).mapM make).run [] = .ok (items.map value, []) := by
  induction items with
  | nil => rfl
  | cons item rest ih =>
      rw [List.map_cons, List.mapM_cons, run_bind_of_ok (each item), run_bind_of_ok ih]
      rfl

/-- Each item becomes its value with `count` allocations, and NULL without one of them. -/
structure Allocates (make : α → Mem (Option β)) (value : α → β) (count : Nat) : Prop where
  granted
    : ∀ item {script},
        grants count script = true
        → (make item).run script = .ok (some (value item), script.drop count)
  refused
    : ∀ item {script},
        grants count script = false → ∃ rest, (make item).run script = .ok (none, rest)

section

variable {make : α → Mem (Option β)} {value : α → β} {count : Nat}

/-- The array is complete if the allocations of all cells are granted, by induction on the
items.
-/
theorem Allocates.run_fillAll (cell : Allocates make value count) (items : List α)
    {script : List Bool} (granted : grants (count * items.length) script = true)
    : (fillAll make items).run script
      = .ok (some (items.map value), script.drop (count * items.length)) := by
  induction items generalizing script with
  | nil => simp [fillAll]
  | cons item rest ih =>
      rw [List.length_cons, Nat.mul_add, Nat.mul_one, Nat.add_comm, grants_add,
        Bool.and_eq_true] at granted
      rw [fillAll, StateT.run_bind, cell.granted item granted.1]
      simp [ih granted.2, Nat.mul_add, Nat.add_comm]

/-- A refused allocation somewhere in the loop makes the whole array NULL. -/
theorem Allocates.run_fillAll_refused (cell : Allocates make value count) (items : List α)
    {script : List Bool} (refused : grants (count * items.length) script = false)
    : ∃ rest, (fillAll make items).run script = .ok (none, rest) := by
  induction items generalizing script with
  | nil => simp at refused
  | cons item rest ih =>
      rw [List.length_cons, Nat.mul_add, Nat.mul_one, Nat.add_comm, grants_add] at refused
      cases first : grants count script with
      | false =>
          obtain ⟨left, stopped⟩ := cell.refused item first
          exact ⟨left, by rw [fillAll, StateT.run_bind, stopped]; rfl⟩
      | true =>
          have later : grants (count * rest.length) (script.drop count) = false := by
            simpa [first] using refused
          obtain ⟨left, stopped⟩ := ih later
          refine ⟨left, ?_⟩
          rw [fillAll, StateT.run_bind, cell.granted item first]
          simp [stopped]

end

end

end CRuntime
