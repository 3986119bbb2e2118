import CarChain.Library.Progress
import CarChain.Membership.WatchLoop

/-! The threads behind `zk_mutex` and `connected_cond` (`zk_server.c`).

`zk_connect` waits on the condition for the session and `zk_update_thread` waits on it for
changes of the chain; `connection_watcher` and `chain_watcher` signal it, and `zk_disconnect`
broadcasts. A step is one section under the mutex or one step outside it. What the update thread
does between two sections, and what ZooKeeper knows of it, is the state of `WatchState`.
-/

namespace CarChain

open CStandard StepSystem

/-- Where `main` stands: in `wait_for_connection`, behind it, behind `zk_connect`, behind the
broadcast of `zk_disconnect`, or behind `cleanup_zk_state`. A `zk_connect` that fails has cleaned
up itself.
-/
inductive MainPhase where
  | checking
  | asleep
  | failed
  | connected
  | serving
  | stopped
  | closed
  deriving DecidableEq

/-- Where `zk_update_thread` stands: before its loop condition, before it takes the mutex, in
`pthread_cond_wait`, or in `zk_update_chain_internal`.
-/
inductive UpdateThreadPhase where
  | absent
  | testing
  | locking
  | asleep
  | updating
  | ended
  deriving DecidableEq

/-- The threads that sleep on `connected_cond`. -/
inductive Sleeper where
  | main
  | updater
  deriving DecidableEq

/-- The threads with the flags that they share; `update_pending` is a field of the watches. That
the session has expired is remembered, and that an update of the thread has found its server
among the children that it read.
-/
structure ThreadState where
  watch : WatchState
  connected : Bool
  active : Bool
  expired : Bool
  main : MainPhase
  updater : UpdateThreadPhase
  located : Bool
  deriving DecidableEq

inductive ThreadAction where
  | checkConnected
  | wakeMain
  | timeOut
  | createThread (created : Bool)
  | startUp (action : WatchAction)
  | disconnect
  | cleanup
  | sessionConnected (woken : Sleeper)
  | sessionExpired
  | childEvent (woken : Sleeper)
  | change (children : List CString)
  | testActive
  | lockAndTest
  | wakeUpdater
  | update (action : WatchAction)
  | updateFails
  | locate
  | updateDone
  deriving DecidableEq

/-- The call has read the children and not published them. -/
def CallPhase.isRead : CallPhase → Bool
  | .read _ _ => true
  | _ => false

theorem read_of_any {phase : Option CallPhase} (read : phase.any CallPhase.isRead = true)
    : ∃ children seen, phase = some (.read children seen) := by
  match phase with
  | some (.read children seen) => exact ⟨children, seen, rfl⟩

/-- The steps of a call of `zk_update_chain_internal`. -/
def WatchAction.isCallOf (action : WatchAction) (caller : Caller) : Bool :=
  action = .watch caller ∨ action = .read caller ∨ action = .swap caller

namespace WatchState

variable {own : CString} {state after : WatchState} {action : WatchAction}

/-- A call leaves the flag, the children and the other call alone. -/
theorem call_keeps {caller : Caller} (call : action.isCallOf caller)
    (taken : step own state action = some after)
    : after.updatePending = state.updatePending
      ∧ after.fired = state.fired
      ∧ (caller = .main → after.thread = state.thread)
      ∧ (caller = .thread → after.main = state.main)
      ∧ after.members = state.members := by
  have action_cases : action = .watch caller ∨ action = .read caller ∨ action = .swap caller := by
    simpa [WatchAction.isCallOf] using call
  rcases action_cases with rfl | rfl | rfl <;>
    simp only [step] at taken <;>
    split at taken <;>
    cases taken <;>
    cases caller <;>
    simp [withCall]

theorem change_keeps {children : List CString}
    (taken : step own state (.change children) = some after)
    : after.updatePending = state.updatePending ∧ after.thread = state.thread := by
  simp only [step, Option.ite_none_right_eq_some, Option.some.injEq] at taken
  obtain ⟨-, rfl⟩ := taken
  exact ⟨rfl, rfl⟩

theorem deliver_eq_some (taken : step own state .deliver = some after)
    : 0 < state.fired
      ∧ after = { state with fired := state.fired - 1, updatePending := true } := by
  simp only [step, Option.ite_none_right_eq_some, Option.some.injEq] at taken
  exact ⟨taken.1, taken.2.symm⟩

theorem take_eq_some (taken : step own state .take = some after)
    : state.thread = none
      ∧ state.updatePending = true
      ∧ after = { state with updatePending := false, thread := some .entered } := by
  simp only [step, Option.ite_none_right_eq_some, Option.some.injEq] at taken
  exact ⟨taken.1.1, taken.1.2, taken.2.symm⟩

end WatchState

namespace ThreadState

/-- `zk_connect` before it waits, with the children that the server finds itself among. -/
def initial (children : List CString) : ThreadState where
  watch := .initial children
  connected := false
  active := true
  expired := false
  main := .checking
  updater := .absent
  located := false

/-- The handle is open, so that watchers may run. -/
def HandleOpen (state : ThreadState) : Prop := state.main ≠ .failed ∧ state.main ≠ .closed

instance : DecidablePred HandleOpen :=
  fun state => inferInstanceAs (Decidable (state.main ≠ .failed ∧ state.main ≠ .closed))

/-- `pthread_cond_signal` wakes one of the threads that sleep, and none if no thread does. -/
def signal (state : ThreadState) : Sleeper → Option ThreadState
  | .main =>
      if state.main = .asleep then some { state with main := .checking }
      else if state.updater = .asleep then none
      else some state
  | .updater =>
      if state.updater = .asleep then some { state with updater := .locking }
      else if state.main = .asleep then none
      else some state

/-- A step of the watches that this server is part of. -/
def withWatch (own : CString) (state : ThreadState) (action : WatchAction) : Option ThreadState :=
  (state.watch.step own action).map (fun watch => { state with watch })

/-- One step. The section of the update thread that finds nothing to do ends in its sleep; one
that is woken, also for no reason, takes the mutex again and tests once more. An update that
asks ZooKeeper may fail, and always does once the handle has been closed. Between reading the
children and publishing them it looks for its server there, by `node_path`; `cleanup_zk_state`
has set that to NULL, and an update that looks behind it returns without publishing.
-/
def step (own : CString) (state : ThreadState) : ThreadAction → Option ThreadState
  | .checkConnected =>
      if state.main = .checking then
        some { state with main := if state.connected then .connected else .asleep }
      else
        none
  | .wakeMain => if state.main = .asleep then some { state with main := .checking } else none
  | .timeOut => if state.main = .asleep then some { state with main := .failed } else none
  | .createThread created =>
      if state.main = .connected then
        if created then some { state with main := .serving, updater := .testing }
        else some { state with main := .failed }
      else
        none
  | .startUp action =>
      if state.main = .serving ∧ action.isCallOf .main then state.withWatch own action else none
  | .disconnect =>
      if state.main = .serving then
        some
          {
            state with
            active := false
            main := .stopped
            updater := if state.updater = .asleep then .locking else state.updater
          }
      else
        none
  | .cleanup => if state.main = .stopped then some { state with main := .closed } else none
  | .sessionConnected woken =>
      if state.HandleOpen then { state with connected := true }.signal woken else none
  | .sessionExpired =>
      if state.HandleOpen then
        some { state with connected := false, active := false, expired := true }
      else
        none
  | .childEvent woken =>
      if state.HandleOpen then
        (state.withWatch own .deliver).bind (fun pending => pending.signal woken)
      else
        none
  | .change children => state.withWatch own (.change children)
  | .testActive =>
      if state.updater = .testing then
        some { state with updater := if state.active then .locking else .ended }
      else
        none
  | .lockAndTest =>
      if state.updater = .locking then
        if !state.watch.updatePending && state.active then
          some { state with updater := .asleep }
        else if !state.active then
          some { state with updater := .ended }
        else
          (state.withWatch own .take).map (fun taken => { taken with updater := .updating })
      else
        none
  | .wakeUpdater =>
      if state.updater = .asleep then some { state with updater := .locking } else none
  | .update action =>
      if state.updater = .updating
        ∧ action.isCallOf .thread
        ∧ (if action = .swap .thread then state.located = true else state.HandleOpen) then
        (state.withWatch own action).map (fun moved => { moved with located := false })
      else
        none
  | .updateFails =>
      if state.updater = .updating
        ∧ (state.watch.thread = some .entered ∨ state.watch.thread = some .watched) then
        some { state with watch := { state.watch with thread := none } }
      else
        none
  | .locate =>
      if state.updater = .updating
        ∧ state.located = false
        ∧ state.watch.thread.any CallPhase.isRead = true then
        if state.main = .closed then
          some { state with watch := { state.watch with thread := none } }
        else
          some { state with located := true }
      else
        none
  | .updateDone =>
      if state.updater = .updating ∧ state.watch.thread = none then
        some { state with updater := .testing }
      else
        none

-----------------------------------------------------------------------------------------
-- What a step can do
-----------------------------------------------------------------------------------------

variable {own : CString} {state after : ThreadState}

theorem withWatch_eq_some {action : WatchAction} (h : state.withWatch own action = some after)
    : ∃ watch, state.watch.step own action = some watch ∧ after = { state with watch } := by
  obtain ⟨watch, stepped, rfl⟩ := Option.map_eq_some_iff.mp h
  exact ⟨watch, stepped, rfl⟩

/-- A signal wakes a thread that sleeps, if one does. -/
theorem signal_eq_some {woken : Sleeper} (h : state.signal woken = some after)
    : state.main = .asleep ∧ after = { state with main := .checking }
      ∨ state.updater = .asleep ∧ after = { state with updater := .locking }
      ∨ state.main ≠ .asleep ∧ state.updater ≠ .asleep ∧ after = state := by
  cases woken with
  | main =>
      simp only [signal] at h
      split at h
      · rename_i sleeps
        exact .inl ⟨sleeps, (Option.some.inj h).symm⟩
      · rename_i awake
        split at h
        · cases h
        · rename_i other
          exact .inr (.inr ⟨awake, other, (Option.some.inj h).symm⟩)
  | updater =>
      simp only [signal] at h
      split at h
      · rename_i sleeps
        exact .inr (.inl ⟨sleeps, (Option.some.inj h).symm⟩)
      · rename_i awake
        split at h
        · cases h
        · rename_i other
          exact .inr (.inr ⟨other, awake, (Option.some.inj h).symm⟩)

/-- The steps with the states that they lead to. -/
inductive Advances (own : CString) (state : ThreadState) : ThreadAction → ThreadState → Prop
  | checkConnected (checking : state.main = .checking)
    : Advances own state .checkConnected
        { state with main := if state.connected then .connected else .asleep }
  | wakeMain (asleep : state.main = .asleep)
    : Advances own state .wakeMain { state with main := .checking }
  | timeOut (asleep : state.main = .asleep)
    : Advances own state .timeOut { state with main := .failed }
  | threadCreated (connected : state.main = .connected)
    : Advances own state (.createThread true) { state with main := .serving, updater := .testing }
  | threadRefused (connected : state.main = .connected)
    : Advances own state (.createThread false) { state with main := .failed }
  | startUp (action : WatchAction) (watch : WatchState) (serving : state.main = .serving)
    (call : action.isCallOf .main) (stepped : state.watch.step own action = some watch)
    : Advances own state (.startUp action) { state with watch }
  | disconnect (serving : state.main = .serving)
    : Advances own state .disconnect
        {
          state with
          active := false
          main := .stopped
          updater := if state.updater = .asleep then .locking else state.updater
        }
  | cleanup (stopping : state.main = .stopped)
    : Advances own state .cleanup { state with main := .closed }
  | sessionConnected (woken : Sleeper) (after : ThreadState) (handle : state.HandleOpen)
    (signalled : { state with connected := true }.signal woken = some after)
    : Advances own state (.sessionConnected woken) after
  | sessionExpired (handle : state.HandleOpen)
    : Advances own state .sessionExpired
        { state with connected := false, active := false, expired := true }
  | childEvent (woken : Sleeper) (watch : WatchState) (after : ThreadState)
    (handle : state.HandleOpen) (stepped : state.watch.step own .deliver = some watch)
    (signalled : { state with watch }.signal woken = some after)
    : Advances own state (.childEvent woken) after
  | change (children : List CString) (watch : WatchState)
    (stepped : state.watch.step own (.change children) = some watch)
    : Advances own state (.change children) { state with watch }
  | testActive (testing : state.updater = .testing)
    : Advances own state .testActive
        { state with updater := if state.active then .locking else .ended }
  | fallAsleep (locking : state.updater = .locking) (quiet : state.watch.updatePending = false)
    (active : state.active = true)
    : Advances own state .lockAndTest { state with updater := .asleep }
  | endThread (locking : state.updater = .locking) (inactive : state.active = false)
    : Advances own state .lockAndTest { state with updater := .ended }
  | takeUpdate (watch : WatchState) (locking : state.updater = .locking)
    (stepped : state.watch.step own .take = some watch)
    : Advances own state .lockAndTest { state with watch, updater := .updating }
  | wakeUpdater (asleep : state.updater = .asleep)
    : Advances own state .wakeUpdater { state with updater := .locking }
  | update (action : WatchAction) (watch : WatchState) (updating : state.updater = .updating)
    (call : action.isCallOf .thread)
    (handle : if action = .swap .thread then state.located = true else state.HandleOpen)
    (stepped : state.watch.step own action = some watch)
    : Advances own state (.update action) { state with watch, located := false }
  | updateFails (updating : state.updater = .updating)
    (asking : state.watch.thread = some .entered ∨ state.watch.thread = some .watched)
    : Advances own state .updateFails { state with watch := { state.watch with thread := none } }
  | found (updating : state.updater = .updating) (located : state.located = false)
    (read : state.watch.thread.any CallPhase.isRead = true) (opened : state.main ≠ .closed)
    : Advances own state .locate { state with located := true }
  | notFound (updating : state.updater = .updating) (located : state.located = false)
    (read : state.watch.thread.any CallPhase.isRead = true) (closed : state.main = .closed)
    : Advances own state .locate { state with watch := { state.watch with thread := none } }
  | updateDone (updating : state.updater = .updating) (finished : state.watch.thread = none)
    : Advances own state .updateDone { state with updater := .testing }

theorem advances_of_step {action : ThreadAction} (taken : step own state action = some after)
    : Advances own state action after := by
  cases action with
  | checkConnected =>
      simp only [step, Option.ite_none_right_eq_some, Option.some.injEq] at taken
      obtain ⟨checking, rfl⟩ := taken
      exact .checkConnected checking
  | wakeMain =>
      simp only [step, Option.ite_none_right_eq_some, Option.some.injEq] at taken
      obtain ⟨asleep, rfl⟩ := taken
      exact .wakeMain asleep
  | timeOut =>
      simp only [step, Option.ite_none_right_eq_some, Option.some.injEq] at taken
      obtain ⟨asleep, rfl⟩ := taken
      exact .timeOut asleep
  | createThread created =>
      simp only [step, Option.ite_none_right_eq_some] at taken
      obtain ⟨connected, taken⟩ := taken
      cases created with
      | true =>
          cases taken
          exact .threadCreated connected
      | false =>
          cases taken
          exact .threadRefused connected
  | startUp action =>
      simp only [step, Option.ite_none_right_eq_some] at taken
      obtain ⟨⟨serving, call⟩, taken⟩ := taken
      obtain ⟨watch, stepped, rfl⟩ := withWatch_eq_some taken
      exact .startUp action watch serving call stepped
  | disconnect =>
      simp only [step, Option.ite_none_right_eq_some, Option.some.injEq] at taken
      obtain ⟨serving, rfl⟩ := taken
      exact .disconnect serving
  | cleanup =>
      simp only [step, Option.ite_none_right_eq_some, Option.some.injEq] at taken
      obtain ⟨stopping, rfl⟩ := taken
      exact .cleanup stopping
  | sessionConnected woken =>
      simp only [step, Option.ite_none_right_eq_some] at taken
      obtain ⟨handle, signalled⟩ := taken
      exact .sessionConnected woken after handle signalled
  | sessionExpired =>
      simp only [step, Option.ite_none_right_eq_some, Option.some.injEq] at taken
      obtain ⟨handle, rfl⟩ := taken
      exact .sessionExpired handle
  | childEvent woken =>
      simp only [step, Option.ite_none_right_eq_some] at taken
      obtain ⟨handle, taken⟩ := taken
      obtain ⟨pending, delivered, signalled⟩ := Option.bind_eq_some_iff.mp taken
      obtain ⟨watch, stepped, rfl⟩ := withWatch_eq_some delivered
      exact .childEvent woken watch after handle stepped signalled
  | change children =>
      obtain ⟨watch, stepped, rfl⟩ := withWatch_eq_some taken
      exact .change children watch stepped
  | testActive =>
      simp only [step, Option.ite_none_right_eq_some, Option.some.injEq] at taken
      obtain ⟨testing, rfl⟩ := taken
      exact .testActive testing
  | lockAndTest =>
      simp only [step, Option.ite_none_right_eq_some] at taken
      obtain ⟨locking, taken⟩ := taken
      split at taken
      · rename_i waits
        cases taken
        simp only [Bool.and_eq_true, Bool.not_eq_true'] at waits
        exact .fallAsleep locking waits.1 waits.2
      · split at taken
        · rename_i inactive
          cases taken
          exact .endThread locking (by simpa using inactive)
        · obtain ⟨between, took, rfl⟩ := Option.map_eq_some_iff.mp taken
          obtain ⟨watch, stepped, rfl⟩ := withWatch_eq_some took
          exact .takeUpdate watch locking stepped
  | wakeUpdater =>
      simp only [step, Option.ite_none_right_eq_some, Option.some.injEq] at taken
      obtain ⟨asleep, rfl⟩ := taken
      exact .wakeUpdater asleep
  | update action =>
      simp only [step, Option.ite_none_right_eq_some] at taken
      obtain ⟨⟨updating, call, handle⟩, taken⟩ := taken
      obtain ⟨moved, moves, rfl⟩ := Option.map_eq_some_iff.mp taken
      obtain ⟨watch, stepped, rfl⟩ := withWatch_eq_some moves
      exact .update action watch updating call handle stepped
  | updateFails =>
      simp only [step, Option.ite_none_right_eq_some, Option.some.injEq] at taken
      obtain ⟨⟨updating, asking⟩, rfl⟩ := taken
      exact .updateFails updating asking
  | locate =>
      simp only [step, Option.ite_none_right_eq_some] at taken
      obtain ⟨⟨updating, located, read⟩, taken⟩ := taken
      split at taken
      · rename_i closed
        cases taken
        exact .notFound updating located read closed
      · rename_i opened
        cases taken
        exact .found updating located read opened
  | updateDone =>
      simp only [step, Option.ite_none_right_eq_some, Option.some.injEq] at taken
      obtain ⟨⟨updating, finished⟩, rfl⟩ := taken
      exact .updateDone updating finished

-----------------------------------------------------------------------------------------
-- Who sleeps
-----------------------------------------------------------------------------------------

/-- `main` has not got behind `zk_connect`. -/
def Connecting (state : ThreadState) : Prop :=
  state.main = .checking
  ∨ state.main = .asleep
  ∨ state.main = .failed
  ∨ state.main = .connected

/-- What holds of every reachable state. The two threads that sleep on the condition are never
there at once, and each sleeps only while it waits for something.
-/
structure Safe (state : ThreadState) : Prop where
  idle : state.watch.thread ≠ none → state.updater = .updating
  located : state.located = true → state.watch.thread.any CallPhase.isRead = true
  created : state.updater = .absent ↔ state.Connecting
  mainSleeps : state.main = .asleep → state.connected = false
  updaterSleeps
    : state.updater = .asleep → state.watch.updatePending = false ∧ state.main = .serving
  ended : state.updater = .ended → state.active = false
  inactive : state.active = false → state.main = .stopped ∨ state.main = .closed ∨ state.expired
  stopped : state.main = .stopped ∨ state.main = .closed → state.active = false

theorem safe_initial (children : List CString) : Safe (initial children) := by
  constructor <;> simp [initial, WatchState.initial, Connecting]

/-- Every step keeps it. -/
theorem safe_step {action : ThreadAction} (safe : Safe state)
    (advances : Advances own state action after)
    : Safe after := by
  obtain ⟨idle, located, created, mainSleeps, updaterSleeps, ended, inactive, stopped⟩ := safe
  cases advances with
  | checkConnected checking =>
      constructor <;> simp_all [Connecting]
      all_goals (split <;> simp_all)
  | wakeMain | timeOut | threadCreated | threadRefused | cleanup | sessionExpired =>
      constructor <;> simp_all [Connecting]
  | startUp action watch serving call stepped =>
      obtain ⟨pending, -, thread, -⟩ := WatchState.call_keeps call stepped
      constructor <;> simp_all [Connecting]
  | disconnect serving => constructor <;> simp_all [Connecting] <;> split <;> simp_all
  | sessionConnected woken after handle signalled =>
      rcases signal_eq_some signalled with ⟨asleep, rfl⟩ | ⟨asleep, rfl⟩ | ⟨main, updater, rfl⟩ <;>
        constructor <;> simp_all [Connecting]
  | childEvent woken watch after handle stepped signalled =>
      obtain ⟨-, rfl⟩ := WatchState.deliver_eq_some stepped
      rcases signal_eq_some signalled with ⟨asleep, rfl⟩ | ⟨asleep, rfl⟩ | ⟨main, updater, rfl⟩ <;>
        constructor <;> simp_all [Connecting]
  | change children watch stepped =>
      obtain ⟨pending, thread⟩ := WatchState.change_keeps stepped
      constructor <;> simp_all [Connecting]
  | testActive testing => constructor <;> simp_all [Connecting] <;> split <;> simp_all
  | fallAsleep locking quiet active =>
      have serves : state.main = .serving := by
        have there : ¬state.Connecting := fun connecting => by
          rw [created.mpr connecting] at locking
          cases locking
        cases phase : state.main <;> simp_all [Connecting]
      constructor <;> simp_all [Connecting]
  | endThread | wakeUpdater | found | notFound | updateDone =>
      constructor <;> simp_all [Connecting]
  | updateFails updating asking =>
      rcases asking with entered | watched <;>
        constructor <;> simp_all [Connecting, CallPhase.isRead]
  | takeUpdate watch locking stepped =>
      obtain ⟨-, -, rfl⟩ := WatchState.take_eq_some stepped
      constructor <;> simp_all [Connecting]
  | update action watch updating call handle stepped =>
      obtain ⟨pending, -, -⟩ := WatchState.call_keeps call stepped
      constructor <;> simp_all [Connecting]

theorem safe_of_reaches {children : List CString} {guard : ThreadState → ThreadAction → Prop}
    (reached : Reaches (step own) guard (initial children) state)
    : Safe state :=
  reached.invariant (safe_initial children)
    (fun _ _ _ before _ taken => safe_step before (advances_of_step taken))

/-- In every interleaving at most one of the two threads sleeps, so that a signal wakes the one it
is meant for; `main` never sleeps once the session is connected, and the update thread never
with a change that it has been told of. Only a session that expires leaves it asleep for good.
-/
theorem sleepers_wait {children : List CString}
    (reached : Reaches (step own) (fun _ _ => True) (initial children) state)
    : ¬(state.main = .asleep ∧ state.updater = .asleep)
      ∧ (state.main = .asleep → state.connected = false)
      ∧ (
        state.updater = .asleep
        → state.watch.updatePending = false ∧ (state.active = true ∨ state.expired = true)
      ) := by
  have safe := safe_of_reaches reached
  refine ⟨fun ⟨main, updater⟩ => ?_, safe.mainSleeps, fun asleep => ?_⟩
  · have absent := safe.created.mpr (.inr (.inl main))
    rw [updater] at absent
    cases absent
  · obtain ⟨quiet, serving⟩ := safe.updaterSleeps asleep
    refine ⟨quiet, ?_⟩
    cases active : state.active with
    | true => exact .inl rfl
    | false =>
        rcases safe.inactive active with stopped | closed | expired
        · rw [serving] at stopped
          cases stopped
        · rw [serving] at closed
          cases closed
        · exact .inr expired

/-- The first of two servers starts while the second one joins: it has read the children again
and is about to publish them.
-/
def updateOfJoin : List ThreadAction :=
  [
    .checkConnected, .sessionConnected .main, .checkConnected, .createThread true,
    .startUp (.watch .main), .testActive, .lockAndTest,
    .startUp (.read .main), .startUp (.swap .main),
    .change [.literal "node0", .literal "node1"],
    .childEvent .updater, .lockAndTest, .update (.watch .thread), .update (.read .thread)
  ]

theorem sleepers_wait_join
    : ∃ state : ThreadState,
        state.updater = .asleep
        ∧ state.watch.updatePending = false
        ∧ (state.active = true ∨ state.expired = true) := by
  have reached
      : Reaches (step (.literal "node0")) (fun _ _ => True) (initial [.literal "node0"]) _ :=
    reaches_of_replay
      (updateOfJoin
        ++ [.locate, .update (.swap .thread), .updateDone, .testActive, .lockAndTest]) rfl
  exact ⟨_, rfl, (sleepers_wait reached).2.2 rfl⟩

end ThreadState

end CarChain
