import CarChain.Membership.UpdateThread

/-! What becomes of the update thread (`zk_server.c`).

While the chain stays as it is the thread comes to rest, and then what it has stored is current.
-/

namespace CarChain

open CStandard StepSystem

namespace ThreadState

variable {own : CString} {state after : ThreadState}

-----------------------------------------------------------------------------------------
-- The update thread comes to rest
-----------------------------------------------------------------------------------------

/-- The steps of the update thread. -/
def isUpdaterStep : ThreadAction → Bool
  | .testActive | .lockAndTest | .update _ | .updateFails | .locate | .updateDone => true
  | _ => false

/-- The steps that start the update thread or wake it up without a change of the chain. -/
def rouses : ThreadAction → Bool
  | .createThread _ | .wakeUpdater | .sessionConnected _ | .disconnect => true
  | _ => false

def isChange : ThreadAction → Bool
  | .change _ => true
  | _ => false

/-- The membership of the chain stays as it is. -/
def Quiet (_ : ThreadState) (action : ThreadAction) : Prop := isChange action = false

instance (state : ThreadState) (action : ThreadAction) : Decidable (Quiet state action) :=
  inferInstanceAs (Decidable (_ = false))

/-- The steps that are left of a call, which has or has not found its server. -/
def callLeft : Option CallPhase → Bool → Nat
  | none, _ => 0
  | some .entered, _ => 4
  | some .watched, _ => 3
  | some (.read _ _), false => 2
  | some (.read _ _), true => 1

/-- The steps that are left to the update thread before its next sleep or its end, with the
updates that it already has to make.
-/
def stepsLeft (state : ThreadState) : Nat :=
  (
    match state.updater with
    | .absent | .asleep | .ended => 0
    | .locking => 1
    | .testing => 2
    | .updating => 3 + callLeft state.watch.thread state.located
  )
  + 8 * state.watch.fired
  + (if state.watch.updatePending then 7 else 0)

/-- Every step of a call is one of those that were left. -/
theorem callLeft_step {watch watch' : WatchState} {action : WatchAction} {caller : Caller}
    {located : Bool} (call : action.isCallOf caller)
    (publishes : action = .swap caller → located = true)
    (taken : watch.step own action = some watch')
    : callLeft (watch'.call caller) false + 1 = callLeft (watch.call caller) located := by
  have action_cases
      : action = .watch caller ∨ action = .read caller ∨ action = .swap caller := by
    simpa [WatchAction.isCallOf] using call
  rcases action_cases with rfl | rfl | rfl <;>
    simp only [WatchState.step] at taken <;>
    split at taken <;>
    rename_i phase <;>
    cases taken <;>
    cases caller <;>
    simp_all [WatchState.withCall, WatchState.call, callLeft]

/-- A step of the update thread takes one from what is left. -/
theorem stepsLeft_step {action : ThreadAction} (quiet : Quiet state action)
    (advances : Advances own state action after)
    : stepsLeft after + (if isUpdaterStep action then 1 else 0)
      ≤ stepsLeft state + (if rouses action then 2 else 0) := by
  cases advances with
  | change => cases quiet
  | checkConnected | wakeMain | timeOut | cleanup | sessionExpired => exact Nat.le_refl _
  | threadRefused connected => simp [stepsLeft, isUpdaterStep, rouses]
  | threadCreated connected =>
      simp [stepsLeft, isUpdaterStep, rouses]
      omega
  | startUp action watch serving call stepped =>
      obtain ⟨pending, fired, thread, -⟩ := WatchState.call_keeps call stepped
      simp [stepsLeft, isUpdaterStep, rouses, pending, fired, thread]
  | disconnect serving =>
      by_cases asleep : state.updater = .asleep <;>
        simp [stepsLeft, isUpdaterStep, rouses, asleep]
      omega
  | sessionConnected woken after handle signalled =>
      rcases signal_eq_some signalled with ⟨asleep, rfl⟩ | ⟨asleep, rfl⟩ | ⟨-, -, rfl⟩
      · simp [stepsLeft, isUpdaterStep, rouses]
      · simp only at asleep
        simp [stepsLeft, isUpdaterStep, rouses, asleep]
        omega
      · simp [stepsLeft, isUpdaterStep, rouses]
  | childEvent woken watch after handle stepped signalled =>
      obtain ⟨positive, rfl⟩ := WatchState.deliver_eq_some stepped
      rcases signal_eq_some signalled with ⟨asleep, rfl⟩ | ⟨asleep, rfl⟩ | ⟨-, -, rfl⟩
      · simp [stepsLeft, isUpdaterStep, rouses]
        omega
      · simp only at asleep
        simp [stepsLeft, isUpdaterStep, rouses, asleep]
        omega
      · simp [stepsLeft, isUpdaterStep, rouses]
        omega
  | testActive testing =>
      cases active : state.active <;>
        simp only [stepsLeft, isUpdaterStep, rouses, testing, if_true, Bool.false_eq_true,
          if_false] <;>
        omega
  | fallAsleep locking | endThread locking =>
      simp only [stepsLeft, isUpdaterStep, rouses, locking, if_true, Bool.false_eq_true, if_false]
      omega
  | takeUpdate watch locking stepped =>
      obtain ⟨-, pending, rfl⟩ := WatchState.take_eq_some stepped
      simp [stepsLeft, isUpdaterStep, rouses, locking, pending, callLeft]
      omega
  | wakeUpdater asleep =>
      simp [stepsLeft, isUpdaterStep, rouses, asleep]
      omega
  | update action watch updating call handle stepped =>
      obtain ⟨pending, fired, -⟩ := WatchState.call_keeps call stepped
      have less : callLeft watch.thread false + 1 = callLeft state.watch.thread state.located :=
        callLeft_step call (fun same => by rwa [if_pos same] at handle) stepped
      simp [stepsLeft, isUpdaterStep, rouses, updating, pending, fired]
      omega
  | updateFails updating asking =>
      rcases asking with entered | watched
      · simp only [stepsLeft, isUpdaterStep, rouses, updating, entered, callLeft, if_true,
          Bool.false_eq_true, if_false]
        omega
      · simp only [stepsLeft, isUpdaterStep, rouses, updating, watched, callLeft, if_true,
          Bool.false_eq_true, if_false]
        omega
  | found updating located read | notFound updating located read =>
      cases phase : state.watch.thread with
      | none => simp [phase] at read
      | some phase' =>
          cases phase' with
          | entered | watched => simp [phase, CallPhase.isRead] at read
          | read children seen =>
              simp only [stepsLeft, isUpdaterStep, rouses, updating, located, phase, callLeft,
                if_true, Bool.false_eq_true, if_false]
              omega
  | updateDone updating finished =>
      simp only [stepsLeft, isUpdaterStep, rouses, updating, finished, callLeft, if_true,
        Bool.false_eq_true, if_false]
      omega

/-- While the membership stays as it is the update thread makes no more steps than the updates
that are due ask for, and two for each time that something else wakes it: it never spins.
-/
theorem updater_steps_bounded {actions : List ThreadAction}
    (run : Runs (step own) Quiet state actions after)
    : actions.countP isUpdaterStep ≤ stepsLeft state + 2 * actions.countP rouses := by
  have spent
      : stepsLeft after + actions.countP isUpdaterStep
        ≤ stepsLeft state + 2 * actions.countP rouses :=
    run.spends (show (fun _ : ThreadState => True) state from trivial)
      (fun _ _ _ _ _ _ => trivial)
      (fun _ _ _ _ quiet taken => stepsLeft_step quiet (advances_of_step taken))
  omega

/-- Eight steps follow the event of the second server that joins. -/
theorem updater_steps_bounded_join
    : ∃ state : ThreadState,
        ∃ actions : List ThreadAction,
          actions.countP isUpdaterStep = 8
          ∧ actions.countP isUpdaterStep ≤ stepsLeft state + 2 * actions.countP rouses := by
  have run
      : Runs (step (.literal "node0")) Quiet
          {
            initial [.literal "node0", .literal "node1"] with
            watch.fired := 1
            main := .serving
            updater := .asleep
          }
          [
            .childEvent .updater, .lockAndTest, .update (.watch .thread), .update (.read .thread),
            .locate, .update (.swap .thread), .updateDone, .testActive, .lockAndTest
          ]
          _ :=
    runs_of_replay rfl
  exact ⟨_, _, by decide, updater_steps_bounded run⟩

-----------------------------------------------------------------------------------------
-- What is stored when it rests
-----------------------------------------------------------------------------------------

/-- ZooKeeper answers while the handle is open, and the start-up call publishes in time. -/
def Undisturbed (state : ThreadState) (action : ThreadAction) : Prop :=
  (action = .updateFails → ¬state.HandleOpen)
  ∧ (action = .startUp (.swap .main) → state.watch.StartUpInTime (.swap .main))

instance (state : ThreadState) (action : ThreadAction) : Decidable (Undisturbed state action) :=
  inferInstanceAs (Decidable ((_ → _) ∧ (_ → _)))

/-- The watches keep their invariant for as long as the handle is open. -/
def Follows (own : CString) (state : ThreadState) : Prop :=
  state.HandleOpen → WatchState.Inv own state.watch

/-- A signal changes neither the watches nor whether the handle is open. -/
theorem follows_signal {woken : Sleeper} (h : state.signal woken = some after)
    : after.watch = state.watch ∧ (after.HandleOpen → state.HandleOpen) := by
  rcases signal_eq_some h with ⟨asleep, rfl⟩ | ⟨-, rfl⟩ | ⟨-, -, rfl⟩
  · exact ⟨rfl, fun _ => by simp [HandleOpen, asleep]⟩
  · exact ⟨rfl, id⟩
  · exact ⟨rfl, id⟩

/-- Only the swap of the start-up call has to be in time. -/
theorem startUpInTime_of_ne {watch : WatchState} {action : WatchAction}
    (other : action ≠ .swap .main)
    : watch.StartUpInTime action :=
  fun same => absurd same other

/-- Every undisturbed step keeps it. -/
theorem follows_step {action : ThreadAction} (follows : Follows own state)
    (undisturbed : Undisturbed state action) (advances : Advances own state action after)
    : Follows own after := by
  intro handle
  cases advances with
  | checkConnected phase | wakeMain phase | timeOut phase | threadCreated phase
  | threadRefused phase | disconnect phase | cleanup phase | sessionExpired phase
  | testActive phase | wakeUpdater phase | found phase | updateDone phase =>
      exact follows (by simp_all [HandleOpen])
  | startUp action watch serving call stepped =>
      refine WatchState.inv_step (follows handle) (fun same => ?_) stepped
      subst same
      exact undisturbed.2 rfl rfl
  | sessionConnected woken after before signalled =>
      rw [(follows_signal signalled).1]
      exact follows before
  | childEvent woken watch after before stepped signalled =>
      rw [(follows_signal signalled).1]
      exact WatchState.inv_deliver (follows before) stepped
  | change children watch stepped => exact WatchState.inv_change (follows handle) stepped
  | fallAsleep | endThread => exact follows handle
  | takeUpdate watch locking stepped => exact WatchState.inv_take (follows handle) stepped
  | update action watch updating call opened stepped =>
      have other : action ≠ .swap .main := by
        rintro rfl
        cases call
      exact WatchState.inv_step (follows handle) (startUpInTime_of_ne other) stepped
  | updateFails updating asking => exact absurd handle (undisturbed.1 rfl)
  | notFound updating located read closed => exact absurd closed handle.2

/-- An update that has found its server can publish what it read. -/
theorem publishes (own : CString) {children : List CString} {seen : Nat}
    (updating : state.updater = .updating) (located : state.located = true)
    (read : state.watch.thread = some (.read children seen))
    : ∃ after, step own state (.update (.swap .thread)) = some after := by
  refine Option.isSome_iff_exists.mp ?_
  simp [step, updating, located, withWatch, WatchState.step, WatchState.call, read,
    WatchAction.isCallOf]

/-- An update that has something left to do can do it. -/
theorem updating_continues (own : CString) (updating : state.updater = .updating)
    : ∃ action after, isUpdaterStep action ∧ step own state action = some after := by
  cases phase : state.watch.thread with
  | none => exact ⟨.updateDone, _, rfl, by simp only [step, updating, phase]; rfl⟩
  | some phase' =>
      cases phase' with
      | entered => exact ⟨.updateFails, _, rfl, by simp [step, updating, phase]; rfl⟩
      | watched => exact ⟨.updateFails, _, rfl, by simp [step, updating, phase]; rfl⟩
      | read children seen =>
          cases located : state.located with
          | false =>
              have looks : (step own state .locate).isSome := by
                simp only [step, updating, located, phase]
                split_ifs <;> simp_all [CallPhase.isRead]
              obtain ⟨after, taken⟩ := Option.isSome_iff_exists.mp looks
              exact ⟨_, after, rfl, taken⟩
          | true =>
              obtain ⟨after, taken⟩ := publishes own updating located phase
              exact ⟨_, after, rfl, taken⟩

/-- A thread that holds the mutex goes to sleep, to its end, or to an update. -/
theorem locking_continues (own : CString) (locking : state.updater = .locking)
    (idle : state.watch.thread = none)
    : ∃ after, step own state .lockAndTest = some after := by
  cases active : state.active with
  | false => exact ⟨_, by simp [step, locking, active]; rfl⟩
  | true =>
      cases pending : state.watch.updatePending with
      | false => exact ⟨_, by simp [step, locking, active, pending]; rfl⟩
      | true =>
          exact ⟨_, by simp [step, locking, active, pending, withWatch, WatchState.step, idle]; rfl⟩

/-- An update thread that can take no step does not exist yet, has ended, or sleeps with nothing
left to take up; what is stored then is current.
-/
theorem rests_current (safe : Safe state) (follows : Follows own state)
    (rests : ∀ action, isUpdaterStep action → step own state action = none)
    : state.updater = .absent
      ∨ state.updater = .ended ∧ state.active = false
      ∨ state.updater = .asleep
        ∧ state.watch.updatePending = false
        ∧ (
          state.watch.main = none
          → state.watch.fired = 0
          → state.watch.stored = placeOf (nodePath own) state.watch.members
        ) := by
  have idle : state.updater ≠ .updating → state.watch.thread = none := by
    intro elsewhere
    by_contra running
    exact elsewhere (safe.idle running)
  cases phase : state.updater with
  | absent => exact .inl rfl
  | testing =>
      have stuck := rests .testActive rfl
      simp [step, phase] at stuck
  | locking =>
      obtain ⟨after, taken⟩ := locking_continues own phase (idle (by simp [phase]))
      rw [rests .lockAndTest rfl] at taken
      cases taken
  | updating =>
      obtain ⟨action, after, isOwn, taken⟩ := updating_continues own phase
      rw [rests action isOwn] at taken
      cases taken
  | ended => exact .inr (.inl ⟨rfl, safe.ended phase⟩)
  | asleep =>
      obtain ⟨quiet, serving⟩ := safe.updaterSleeps phase
      refine .inr (.inr ⟨rfl, quiet, fun startedUp delivered => ?_⟩)
      have inv := follows (by simp [HandleOpen, serving])
      rcases inv.current startedUp with now | (fired | pending) | running
      · exact (inv.stored _ now).2 rfl
      · exact absurd delivered (Nat.ne_of_gt fired)
      · exact absurd pending (by simp [quiet])
      · exact absurd (idle (by simp [phase])) running

theorem follows_of_reaches {children : List CString}
    (reached : Reaches (step own) Undisturbed (initial children) state)
    : Follows own state :=
  reached.invariant (fun _ => WatchState.inv_initial own children)
    (fun _ _ _ before undisturbed taken => follows_step before undisturbed (advances_of_step taken))

/-- In every interleaving in which ZooKeeper answers, the update thread comes to rest only where
it does not exist yet, where the session or the server has ended, or in its sleep with nothing
left to take up; the place stored then is that among the current members.
-/
theorem updater_rests {children : List CString}
    (reached : Reaches (step own) Undisturbed (initial children) state)
    (rests : ∀ action, isUpdaterStep action → step own state action = none)
    : state.updater = .absent
      ∨ state.updater = .ended ∧ state.active = false
      ∨ state.updater = .asleep
        ∧ state.watch.updatePending = false
        ∧ (
          state.watch.main = none
          → state.watch.fired = 0
          → state.watch.stored = placeOf (nodePath own) state.watch.members
        ) :=
  rests_current (safe_of_reaches reached) (follows_of_reaches reached) rests

/-- A thread that sleeps has no step of its own. -/
theorem asleep_rests (asleep : state.updater = .asleep)
    : ∀ action, isUpdaterStep action → step own state action = none := by
  intro action updaters
  cases action <;> simp_all [isUpdaterStep, step]

theorem updater_rests_join
    : ∃ state : ThreadState,
        state.watch.members.length = 2
        ∧ (
          state.updater = .absent
          ∨ state.updater = .ended ∧ state.active = false
          ∨ state.updater = .asleep
            ∧ state.watch.updatePending = false
            ∧ (
              state.watch.main = none
              → state.watch.fired = 0
              → state.watch.stored = placeOf (nodePath (.literal "node0")) state.watch.members
            )
        ) := by
  have reached
      : Reaches (step (.literal "node0")) Undisturbed (initial [.literal "node0"]) _ :=
    reaches_of_replay
      (updateOfJoin
        ++ [.locate, .update (.swap .thread), .updateDone, .testActive, .lockAndTest]) rfl
  exact ⟨_, rfl, updater_rests reached (asleep_rests rfl)⟩

end ThreadState

end CarChain
