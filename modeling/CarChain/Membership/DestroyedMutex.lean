import CarChain.Membership.UpdateProgress

/-! The mutex that `zk_disconnect` destroys while the update thread runs on (`zk_server.c`). -/

namespace CarChain

open CStandard StepSystem

namespace ThreadState

variable {own : CString} {state after : ThreadState}

/-- The update thread can lock the mutex next. -/
def LocksNext (own : CString) (state : ThreadState) : Prop :=
  ∃ action after,
    (action = .lockAndTest ∨ action = .update (.swap .thread))
    ∧ step own state action = some after

/-- Behind its last use of the mutex, the update thread finds that it is to stop, or its update
finds that the handle has been closed or that `node_path` is NULL.
-/
structure PastMutex (state : ThreadState) : Prop where
  closed : state.main = .closed
  inactive : state.active = false
  outside : state.updater = .testing ∨ state.updater = .ended ∨ state.updater = .updating
  lost : state.located = false

theorem pastMutex_step {action : ThreadAction} (past : PastMutex state)
    (advances : Advances own state action after)
    : PastMutex after := by
  obtain ⟨closed, inactive, outside, lost⟩ := past
  have shut : ¬state.HandleOpen := fun handle => handle.2 closed
  cases advances with
  | checkConnected phase | wakeMain phase | timeOut phase | threadCreated phase
  | threadRefused phase | startUp _ _ phase | disconnect phase | cleanup phase =>
      simp [closed] at phase
  | sessionConnected _ _ handle | sessionExpired handle | childEvent _ _ _ handle =>
      exact absurd handle shut
  | change children watch stepped => exact ⟨closed, inactive, outside, lost⟩
  | testActive testing => exact ⟨closed, inactive, .inr (.inl (by simp [inactive])), lost⟩
  | fallAsleep phase | endThread phase | takeUpdate _ phase | wakeUpdater phase =>
      simp [phase] at outside
  | update action watch updating call handle stepped => exact ⟨closed, inactive, outside, rfl⟩
  | updateFails updating asking => exact ⟨closed, inactive, outside, lost⟩
  | found updating located read opened => exact absurd closed opened
  | notFound updating located read => exact ⟨closed, inactive, outside, lost⟩
  | updateDone updating finished => exact ⟨closed, inactive, .inl rfl, lost⟩

/-- Behind its last use it never locks the mutex. -/
theorem not_locksNext_of_pastMutex (past : PastMutex state) : ¬LocksNext own state := by
  rintro ⟨action, after, rfl | rfl, taken⟩
  · simp only [step, Option.ite_none_right_eq_some] at taken
    have outside := past.outside
    simp [taken.1] at outside
  · simp only [step, Option.ite_none_right_eq_some] at taken
    have located := taken.1.2.2
    simp [past.lost] at located

/-- `zk_disconnect` waits a moment and then destroys the mutex, whatever the update thread does.
The thread can lock the destroyed mutex if and only if it stands before its section, or in an
update that has found its server among the children and not published them.
-/
theorem destroyedMutex_locked_iff {children : List CString}
    (reached : Reaches (step own) (fun _ _ => True) (initial children) state)
    (cleaned : step own state .cleanup = some after)
    : (∃ later, Reaches (step own) (fun _ _ => True) after later ∧ LocksNext own later)
      ↔ state.updater = .locking ∨ state.updater = .updating ∧ state.located = true := by
  have safe := safe_of_reaches reached
  simp only [step, Option.ite_none_right_eq_some, Option.some.injEq] at cleaned
  obtain ⟨stopped, rfl⟩ := cleaned
  have inactive := safe.stopped (.inl stopped)
  constructor
  · rintro ⟨later, ran, locks⟩
    by_contra neither
    obtain ⟨notLocking, notLocated⟩ := not_or.mp neither
    have present : state.updater ≠ .absent := fun absent => by
      have connecting := safe.created.mp absent
      simp [Connecting, stopped] at connecting
    have awake : state.updater ≠ .asleep := fun asleep => by
      have serving := (safe.updaterSleeps asleep).2
      simp [stopped] at serving
    have past : PastMutex { state with main := .closed } := by
      refine ⟨rfl, inactive, ?_, ?_⟩
      · cases phase : state.updater <;> simp_all
      · by_contra found
        have located : state.located = true := by simpa using found
        have running : state.watch.thread ≠ none := fun idle => by
          simpa [idle] using safe.located located
        exact notLocated ⟨safe.idle running, located⟩
    have stays : PastMutex later :=
      ran.invariant past
        (fun _ _ _ before _ taken => pastMutex_step before (advances_of_step taken))
    exact not_locksNext_of_pastMutex stays locks
  · rintro (locking | ⟨updating, located⟩)
    · exact ⟨_, .start, .lockAndTest, _, .inl rfl, by simp [step, locking, inactive]; rfl⟩
    · obtain ⟨children, seen, read⟩ := read_of_any (safe.located located)
      have there : ({ state with main := .closed } : ThreadState).updater = .updating := updating
      obtain ⟨after, taken⟩ := publishes own there located read
      exact ⟨_, .start, _, after, .inr rfl, taken⟩

/-- The server stops while the update of the second one's arrival is about to be published. -/
theorem destroyedMutex_locked_iff_join
    : ∃ after later : ThreadState,
        after.main = .closed
        ∧ Reaches (step (.literal "node0")) (fun _ _ => True) after later
        ∧ LocksNext (.literal "node0") later := by
  have reached
      : Reaches (step (.literal "node0")) (fun _ _ => True) (initial [.literal "node0"]) _ :=
    reaches_of_replay (updateOfJoin ++ [.locate, .disconnect]) rfl
  obtain ⟨later, ran, locks⟩ :=
    (destroyedMutex_locked_iff reached rfl).mpr (.inr ⟨rfl, rfl⟩)
  exact ⟨_, later, rfl, ran, locks⟩

end ThreadState

end CarChain
