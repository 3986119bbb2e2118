import CarChain.Library.StepSystem
import CarChain.Membership.Watches

/-! What a server stores once everything has been delivered and handled.

A call that read an old snapshot is harmless as long as a watch set before the read signals
the change. The update thread's calls come one after the other; the start-up call runs beside
them, and nothing keeps it from publishing last what it read first.
-/

namespace CarChain

open CStandard StepSystem

namespace WatchState

/-- What holds of every state reached while the start-up call publishes in time. -/
structure Inv (own : CString) (state : WatchState) : Prop where
  snapshot
    : ∀ caller children seen,
        state.call caller = some (.read children seen)
        → seen ≤ state.changes ∧ (seen = state.changes → children = state.members)
  stored
    : ∀ seen,
        state.storedAt = some seen
        → seen ≤ state.changes
          ∧ (seen = state.changes → state.stored = placeOf (nodePath own) state.members)
  guarded : state.main ≠ some .entered → state.Guarded ∨ state.thread = some .entered
  threadGuarded : ∀ phase, state.thread = some phase → phase ≠ .entered → state.Guarded
  threadStale
    : ∀ children seen,
        state.thread = some (.read children seen) → seen < state.changes → state.Signalled
  startUpStale
    : ∀ children seen,
        state.main = some (.read children seen)
        → seen < state.changes
        → state.UpdateDue ∨ state.StoredAfter seen
  current : state.main = none → state.storedAt = some state.changes ∨ state.UpdateDue

variable {own : CString} {state after : WatchState}

theorem inv_initial (own : CString) (children : List CString) : Inv own (initial children) := by
  constructor <;> simp [initial, call]
  all_goals
    intro caller _ _ h
    cases caller <;> cases h

/-- A change makes every snapshot stale, and a guarded one signals it. -/
theorem inv_change {children : List CString} (inv : Inv own state)
    (taken : step own state (.change children) = some after)
    : Inv own after := by
  simp only [step, Option.ite_none_right_eq_some, Option.some.injEq] at taken
  obtain ⟨-, changed⟩ := taken
  have fires : state.Guarded → after.Signalled := by
    subst changed
    intro h
    rcases h with armed | fired | pending
    · exact .inl (Nat.add_pos_right _ armed)
    · exact .inl (Nat.add_pos_left fired _)
    · exact .inr pending
  subst changed
  constructor
  · intro caller read seen running
    have before := (inv.snapshot caller read seen (by cases caller <;> exact running)).1
    exact ⟨by simp; omega, by simp; omega⟩
  · intro seen published
    have before := (inv.stored seen published).1
    exact ⟨by simp; omega, by simp; omega⟩
  · intro entered
    exact (inv.guarded entered).imp (fun guard => .inr (fires guard)) id
  · intro phase running entered
    exact .inr (fires (inv.threadGuarded phase running entered))
  · intro read seen running _
    exact fires (inv.threadGuarded _ running (by simp))
  · intro read seen running _
    rcases inv.guarded (by rw [running]; simp) with guard | taken
    · exact .inl (.inl (fires guard))
    · exact .inl (.inr (by simp [taken]))
  · intro done
    rcases inv.guarded (by rw [done]; simp) with guard | taken
    · exact .inr (.inl (fires guard))
    · exact .inr (.inr (by simp [taken]))

/-- Delivery and taking the flag up keep everything that is due. -/
theorem inv_deliver (inv : Inv own state) (taken : step own state .deliver = some after)
    : Inv own after := by
  simp only [step, Option.ite_none_right_eq_some, Option.some.injEq] at taken
  obtain ⟨-, rfl⟩ := taken
  exact {
    snapshot := fun caller => by
      cases caller
      · exact inv.snapshot .main
      · exact inv.snapshot .thread
    stored := inv.stored
    guarded := fun _ => .inl (.inr (.inr rfl))
    threadGuarded := fun _ _ _ => .inr (.inr rfl)
    threadStale := fun _ _ _ _ => .inr rfl
    startUpStale := fun _ _ _ _ => .inl (.inl (.inr rfl))
    current := fun _ => .inr (.inl (.inr rfl))
  }

theorem inv_take (inv : Inv own state) (taken : step own state .take = some after)
    : Inv own after := by
  simp only [step, Option.ite_none_right_eq_some, Option.some.injEq] at taken
  obtain ⟨-, rfl⟩ := taken
  exact {
    snapshot := fun caller => by
      cases caller
      · exact inv.snapshot .main
      · simp [call]
    stored := inv.stored
    guarded := fun _ => .inr rfl
    threadGuarded := fun phase running entered => absurd (Option.some.inj running).symm entered
    threadStale := fun _ _ running _ => by cases running
    startUpStale := fun _ _ _ _ => .inl (.inr (by simp))
    current := fun _ => .inr (.inr (by simp))
  }

/-- Setting a watch guards the snapshot that is read next. -/
theorem inv_watch {caller : Caller} (inv : Inv own state)
    (taken : step own state (.watch caller) = some after)
    : Inv own after := by
  simp only [step] at taken
  split at taken
  · rename_i entered
    have guard : after.Guarded := by
      cases taken
      exact .inl (Nat.succ_pos _)
    have main := inv.snapshot .main
    have thread := inv.snapshot .thread
    have stale := inv.threadStale
    have startUp := inv.startUpStale
    have current := inv.current
    cases taken
    cases caller
    · exact {
        snapshot := fun other => by cases other <;> simp_all [call, withCall]
        stored := inv.stored
        guarded := fun _ => .inl guard
        threadGuarded := fun _ _ _ => guard
        threadStale := stale
        startUpStale := fun _ _ running => by cases running
        current := fun done => by cases done
      }
    · exact {
        snapshot := fun other => by cases other <;> simp_all [call, withCall]
        stored := inv.stored
        guarded := fun _ => .inl guard
        threadGuarded := fun _ _ _ => guard
        threadStale := fun _ _ running => by cases running
        startUpStale := fun _ _ _ _ => .inl (.inr (by simp [withCall]))
        current := fun _ => .inr (.inr (by simp [withCall]))
      }
  · cases taken

/-- A snapshot is current when it is read. -/
theorem inv_read {caller : Caller} (inv : Inv own state)
    (taken : step own state (.read caller) = some after)
    : Inv own after := by
  simp only [step] at taken
  split at taken
  · rename_i watched
    have main := inv.snapshot .main
    have thread := inv.snapshot .thread
    cases taken
    cases caller
    · exact {
        snapshot := fun other => by
          cases other
          · intro _ _ h
            obtain ⟨rfl, rfl⟩ := h
            exact ⟨Nat.le_refl _, fun _ => rfl⟩
          · exact thread
        stored := inv.stored
        guarded := fun _ => inv.guarded (by rw [show state.main = _ from watched]; simp)
        threadGuarded := inv.threadGuarded
        threadStale := inv.threadStale
        startUpStale := fun _ _ running older => by
          cases running
          exact absurd older (Nat.lt_irrefl _)
        current := fun done => by cases done
      }
    · have guard := inv.threadGuarded .watched watched (by simp)
      exact {
        snapshot := fun other => by
          cases other
          · exact main
          · intro _ _ h
            obtain ⟨rfl, rfl⟩ := h
            exact ⟨Nat.le_refl _, fun _ => rfl⟩
        stored := inv.stored
        guarded := fun _ => .inl guard
        threadGuarded := fun _ _ _ => guard
        threadStale := fun _ _ running older => by
          cases running
          exact absurd older (Nat.lt_irrefl _)
        startUpStale := fun _ _ _ _ => .inl (.inr (by simp [withCall]))
        current := fun _ => .inr (.inr (by simp [withCall]))
      }
  · cases taken

/-- What the update thread publishes is current, or a change since has been signalled. -/
theorem inv_swap_thread (inv : Inv own state)
    (taken : step own state (.swap .thread) = some after)
    : Inv own after := by
  simp only [step] at taken
  split at taken
  · rename_i children seen read
    have fresh := inv.snapshot .thread children seen read
    have guard := inv.threadGuarded _ read (by simp)
    have stale := inv.threadStale children seen read
    cases taken
    exact {
      snapshot := fun other => by
        cases other
        · exact inv.snapshot .main
        · simp [call, withCall]
      stored := by
        intro _ h
        obtain ⟨rfl⟩ := h
        exact ⟨fresh.1, fun now => congrArg (placeOf (nodePath own)) (fresh.2 now)⟩
      guarded := fun _ => .inl guard
      threadGuarded := fun _ running => by cases running
      threadStale := fun _ _ running => by cases running
      startUpStale := fun startChildren startSeen running older => by
        rcases Nat.lt_or_ge seen state.changes with behind | level
        · exact .inl (.inl (stale behind))
        · exact .inr ⟨seen, rfl, Nat.lt_of_lt_of_le older level⟩
      current := fun _ => by
        rcases Nat.lt_or_ge seen state.changes with behind | level
        · exact .inr (.inl (stale behind))
        · exact .inl (congrArg some (Nat.le_antisymm fresh.1 level))
    }
  · cases taken

/-- What the start-up call publishes in time is current, or a further update is due. -/
theorem inv_swap_main (inv : Inv own state) (inTime : StartUpInTime state (.swap .main))
    (taken : step own state (.swap .main) = some after)
    : Inv own after := by
  simp only [step] at taken
  split at taken
  · rename_i children seen read
    have fresh := inv.snapshot .main children seen read
    have guard := inv.guarded (by rw [show state.main = _ from read]; simp)
    have stale := inv.startUpStale children seen read
    have notOlder := inTime rfl seen (by rw [startUpSeen, show state.main = _ from read]; rfl)
    cases taken
    exact {
      snapshot := fun other => by
        cases other
        · simp [call, withCall]
        · exact inv.snapshot .thread
      stored := by
        intro _ h
        obtain ⟨rfl⟩ := h
        exact ⟨fresh.1, fun now => congrArg (placeOf (nodePath own)) (fresh.2 now)⟩
      guarded := fun _ => guard
      threadGuarded := inv.threadGuarded
      threadStale := inv.threadStale
      startUpStale := fun _ _ running => by cases running
      current := fun _ => by
        rcases Nat.lt_or_ge seen state.changes with behind | level
        -- a stale snapshot is harmless only while the update thread will run again
        · exact .inr ((stale behind).elim id (fun after => notOlder.elim id (absurd after)))
        · exact .inl (congrArg some (Nat.le_antisymm fresh.1 level))
    }
  · cases taken

/-- A start-up call that publishes too late leaves a settled state with an old snapshot. -/
theorem settled_of_late (inv : Inv own state) (late : ¬StartUpInTime state (.swap .main))
    (taken : step own state (.swap .main) = some after)
    : after.Settled ∧ ∃ seen, after.storedAt = some seen ∧ seen < after.changes := by
  simp only [StartUpInTime, UpdateDue, Signalled, StoredAfter, Classical.not_imp, not_forall,
    not_or, not_not] at late
  obtain ⟨-, seen, own, ⟨⟨delivered, noPending⟩, idle⟩, published, storedAt, newer⟩ := late
  have recent := (inv.stored published storedAt).1
  simp only [step] at taken
  split at taken
  · rename_i children other read
    have same : other = seen := by
      simpa [startUpSeen, show state.main = _ from read] using own
    cases taken
    subst same
    exact ⟨
      ⟨Nat.eq_zero_of_not_pos delivered, Bool.eq_false_of_not_eq_true noPending, rfl, idle⟩,
      other, rfl, Nat.lt_of_lt_of_le newer recent
    ⟩
  · cases taken

/-- Every step keeps the invariant while the start-up call publishes in time. -/
theorem inv_step {action : WatchAction} (inv : Inv own state) (inTime : StartUpInTime state action)
    (taken : step own state action = some after)
    : Inv own after := by
  cases action with
  | change children => exact inv_change inv taken
  | deliver => exact inv_deliver inv taken
  | take => exact inv_take inv taken
  | watch caller => exact inv_watch inv taken
  | read caller => exact inv_read inv taken
  | swap caller =>
      cases caller with
      | main => exact inv_swap_main inv inTime taken
      | thread => exact inv_swap_thread inv taken

end WatchState

-----------------------------------------------------------------------------------------
-- Runs
-----------------------------------------------------------------------------------------

open WatchState

/-- In a settled state the stored place is that among the current members, in every run in
which the start-up call publishes in time.
-/
theorem watchState_settled_current {own : CString} {children : List CString}
    {state : WatchState} (reached : Reaches (step own) StartUpInTime (initial children) state)
    (settled : state.Settled)
    : state.stored = placeOf (nodePath own) state.members := by
  have inv : Inv own state :=
    reached.invariant (inv_initial own children)
      (fun _ _ _ before inTime taken => inv_step before inTime taken)
  rcases inv.current settled.startedUp with now | (fired | pending) | running
  · exact (inv.stored _ now).2 rfl
  · exact absurd settled.delivered (Nat.ne_of_gt fired)
  · exact absurd pending (by simp [settled.noPending])
  · exact absurd settled.idle running

/-- A second server joins while the start-up call of the first one connects. -/
theorem watchState_settled_current_join
    : ∃ state : WatchState,
        state.members.length = 2
        ∧ state.stored = placeOf (nodePath (.literal "node0")) state.members := by
  have reached
      : Reaches (step (.literal "node0")) StartUpInTime (initial [.literal "node0"]) _ :=
    reaches_of_replay [
      .watch .main, .read .main,
      .change [.literal "node0", .literal "node1"],
      .swap .main,
      .deliver, .take, .watch .thread, .read .thread, .swap .thread
    ] rfl
  exact ⟨_, rfl, watchState_settled_current reached ⟨rfl, rfl, rfl, rfl⟩⟩

/-- The start-up call of the first server overwrites what the update thread stored about a
second one, and nothing is left that would update it again.
-/
theorem watchState_stale_startUp
    : ∃ state : WatchState,
        Reaches (step (.literal "node0")) (fun _ _ => True) (initial [.literal "node0"]) state
        ∧ state.Settled
        ∧ state.stored ≠ placeOf (nodePath (.literal "node0")) state.members := by
  have reached
      : Reaches (step (.literal "node0")) (fun _ _ => True) (initial [.literal "node0"]) _ :=
    reaches_of_replay [
      .watch .main, .read .main,
      .change [.literal "node0", .literal "node1"],
      .deliver, .take, .watch .thread, .read .thread, .swap .thread,
      .swap .main
    ] rfl
  exact ⟨_, reached, ⟨rfl, rfl, rfl, rfl⟩, by decide⟩

end CarChain
