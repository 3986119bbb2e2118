import CarChain.Membership.ClientWatch

/-! A client whose callback could not read the children (`zookeeper-interactions.c`).

The call that reads them is the one that sets the watch again.
-/

namespace CarChain

open CStandard StepSystem

namespace ClientWatch

variable {state after : ClientWatch} {threads : ClientThreads} {action : ClientAction}

/-- Callbacks begin when the start is over, whether they can read the children or not. -/
def Begun (state : ClientWatch) : ClientWatchAction → Prop
  | .event _ => state.threads.main.starts = false
  | .act action => state.threads.Orderly action
  | .change _ => True

instance (state : ClientWatch) (action : ClientWatchAction) : Decidable (state.Begun action) :=
  match action with
  | .event _ => inferInstanceAs (Decidable (_ = false))
  | .act action => inferInstanceAs (Decidable (state.threads.Orderly action))
  | .change _ => inferInstanceAs (Decidable True)

/-- A step leaves as many watches and events as there were, except for a read that fails; none is
left when the session expires.
-/
theorem watches_step {action : ClientWatchAction} (taken : state.step action = some after)
    : after.armed + after.fired + (if action = .event none then 1 else 0)
        = state.armed + state.fired
      ∨ after.threads.handle = false ∧ after.armed + after.fired = 0 := by
  cases action with
  | change children =>
      cases taken
      left
      simp only [reduceCtorEq, if_false]
      omega
  | event read =>
      cases read with
      | none =>
          simp only [step, Option.ite_none_right_eq_some, Option.some.injEq] at taken
          obtain ⟨⟨fired, -⟩, rfl⟩ := taken
          left
          simp only [if_true]
          omega
      | some children =>
          simp only [step, Option.ite_none_right_eq_some] at taken
          obtain ⟨⟨fired, -⟩, taken⟩ := taken
          obtain ⟨threads, -, rfl⟩ := Option.map_eq_some_iff.mp taken
          left
          simp only [ClientWatchAction.event.injEq, reduceCtorEq, if_false]
          omega
  | act action =>
      obtain ⟨threads, stepped, -, rfl⟩ := act_eq_some taken
      cases (ClientThreads.advances_of_step stepped).2 with
      | sessionExpired => exact .inr ⟨rfl, rfl⟩
      | _ => exact .inl rfl

/-- A handle that has been closed stays closed. -/
theorem handle_of_step {action : ClientWatchAction} (closed : state.threads.handle = false)
    (taken : state.step action = some after)
    : after.threads.handle = false := by
  cases action with
  | change children =>
      cases taken
      exact closed
  | event read =>
      cases read with
      | none => simp [step, closed] at taken
      | some children =>
          simp only [step, Option.ite_none_right_eq_some] at taken
          obtain ⟨threads, stepped, rfl⟩ := Option.map_eq_some_iff.mp taken.2
          cases (ClientThreads.advances_of_step stepped).2 with
          | childEvent children idle handle => exact closed
  | act action =>
      obtain ⟨threads, stepped, -, rfl⟩ := act_eq_some taken
      cases (ClientThreads.advances_of_step stepped).2 with
      | handleClosed | sessionExpired => rfl
      | _ => exact closed

theorem handle_of_reaches {guard : ClientWatch → ClientWatchAction → Prop}
    (reached : Reaches step guard state after) (closed : state.threads.handle = false)
    : after.threads.handle = false := by
  induction reached with
  | start => exact closed
  | next _ _ taken ih => exact handle_of_step ih taken

/-- The first callback that cannot read the children uses up the only watch; by induction on the
run.
-/
theorem watches_run {actions : List ClientWatchAction}
    (run : Runs step Begun state actions after) (handle : after.threads.handle = true)
    : after.armed + after.fired + actions.count (.event none) = state.armed + state.fired := by
  induction run with
  | nil => rfl
  | cons permitted taken later ih =>
      have stepped := (watches_step taken).resolve_right (fun dropped => by
        have stays := handle_of_reaches later.reaches dropped.1
        rw [handle] at stays
        cases stays)
      rw [← stepped, ← ih handle, List.count_cons]
      simp only [beq_iff_eq]
      omega

/-- No event is left, and the only callback that can run is that of an expired session. -/
structure Unwatched (state : ClientWatch) : Prop where
  none_left : state.armed + state.fired = 0
  started : state.threads.main.starts = false
  callback
    : state.threads.callback = .idle
      ∨ ∃ side,
          state.threads.callback = .closing .expired side
          ∨ state.threads.callback = .clearing .expired side

theorem unwatched_step {action : ClientWatchAction} (h : state.Unwatched)
    (taken : state.step action = some after)
    : after.Unwatched ∧ after.threads.opened = state.threads.opened := by
  obtain ⟨none_left, started, callback⟩ := h
  have counted : after.armed + after.fired = 0 := by
    rcases watches_step taken with kept | ⟨-, dropped⟩
    · omega
    · exact dropped
  cases action with
  | change children =>
      cases taken
      exact ⟨⟨counted, started, callback⟩, rfl⟩
  | event read =>
      have fired : state.fired = 0 := by omega
      cases read <;> simp [step, fired] at taken
  | act action =>
      obtain ⟨threads, stepped, inside, rfl⟩ := act_eq_some taken
      obtain ⟨⟨stays, only⟩, opened⟩ :=
        ClientThreads.unrenewed_step ⟨started, callback⟩ inside
          (ClientThreads.advances_of_step stepped).2
      exact ⟨⟨counted, stays, only⟩, opened⟩

/-- By induction on the run. -/
theorem unwatched_reaches (h : state.Unwatched) (ran : Reaches step Begun state after)
    : after.Unwatched ∧ after.threads.opened = state.threads.opened := by
  induction ran with
  | start => exact ⟨h, rfl⟩
  | next _ _ taken ih =>
      obtain ⟨unwatched, opened⟩ := unwatched_step ih.1 taken
      exact ⟨unwatched, opened.trans ih.2⟩

/-- An orderly step of the threads that begins no callback. -/
def Inside (threads : ClientThreads) (action : ClientAction) : Prop :=
  threads.Orderly action ∧ ∀ children, action ≠ .childEvent children

/-- A run of the threads in which no callback begins is one of the client. -/
theorem reaches_of_threads (ran : Reaches ClientThreads.step Inside state.threads threads)
    : ∃ later, Reaches step Begun state later ∧ later.threads = threads := by
  induction ran with
  | start => exact ⟨state, .start, rfl⟩
  | @next between after action _ permitted taken ih =>
      obtain ⟨later, before, rfl⟩ := ih
      obtain ⟨orderly, inside⟩ := permitted
      have moves
          : later.step (.act action)
            = some
                {
                  later with
                  threads := after
                  node := later.noted action
                  armed := action.leaves later.armed
                  fired := action.leaves later.fired
                } := by
        cases action <;>
          first | exact absurd rfl (inside _) | simp only [step, taken, Option.map_some]
      have permitted : later.Begun (.act action) := orderly
      exact ⟨_, .next before permitted moves, rfl⟩

/-- A client that is told of a change closes both ends and connects again. -/
theorem connects_again (waits : threads.callback = .waiting) (ready : threads.main = .ready)
    : ∃ later,
        Reaches ClientThreads.step Inside threads later
        ∧ later.opened = threads.opened + 1 := by
  have enters
      : threads.step .enter = some { threads with callback := .closing .renewal .head } := by
    simp [ClientThreads.step, ClientThreads.advance, waits, ready, ClientPhase.ended,
      ClientPhase.locks]
  have closing (state : ClientThreads) : Inside state .close ∧ Inside state .clear :=
    ⟨⟨trivial, by simp⟩, ⟨trivial, by simp⟩⟩
  obtain ⟨first, ranFirst, mainFirst, openedFirst, behindFirst⟩ :=
    ClientThreads.closes_end Inside closing
      (show { threads with callback := .closing .renewal .head }.main.ended = false by
        simp [ready, ClientPhase.ended])
      (.inl rfl)
  have readyFirst : first.main = .ready := mainFirst.trans ready
  obtain ⟨second, ranSecond, mainSecond, openedSecond, behindSecond⟩ :=
    ClientThreads.closes_end Inside closing (by simp [readyFirst, ClientPhase.ended])
      (.inl behindFirst)
  have readySecond : second.main = .ready := mainSecond.trans readyFirst
  have redials
      : second.step (.redial .connected)
        = some
            {
              second with
              opened := second.opened + 1
              callback := .assigning .head (some (some second.opened))
            } := by
    simp [ClientThreads.step, ClientThreads.advance, behindSecond, readySecond,
      ClientPhase.ended, ClientPhase.locks, CallbackKind.behind, ClientThreads.dialled]
  have entering : Inside threads .enter := ⟨trivial, by simp⟩
  have redialling : Inside second (.redial .connected) := ⟨trivial, by simp⟩
  have closed := (Reaches.next .start entering enters).trans (ranFirst.trans ranSecond)
  refine ⟨_, closed.next redialling redials, ?_⟩
  rw [openedSecond, openedFirst]

/-- A client with a watch or an event can be told of a change. -/
theorem told_again (watched : 0 < state.fired + state.armed)
    (idle : state.threads.callback = .idle) (ready : state.threads.main = .ready)
    (handle : state.threads.handle = true)
    : ∃ later,
        Reaches step Begun state later
        ∧ later.threads = { state.threads with callback := .waiting } := by
  let changed : ClientWatch :=
    {
      state with
      members := [.literal "node0"]
      armed := 0
      fired := state.fired + state.armed
    }
  have changes : state.step (.change [.literal "node0"]) = some changed := rfl
  have begins
      : changed.threads.step (.childEvent true)
        = some { state.threads with callback := .waiting } := by
    simp [changed, ClientThreads.step, ClientThreads.advance, idle, ready, handle,
      ClientPhase.ended]
  have told : 0 < changed.fired ∧ [CString.literal "node0"].Perm changed.members :=
    ⟨watched, .refl _⟩
  have delivers
      : changed.step (.event (some [.literal "node0"]))
        = some
            {
              changed with
              threads := { state.threads with callback := .waiting }
              fired := changed.fired - 1
              armed := changed.armed + 1
              atEvent := some [.literal "node0"]
            } := by
    rw [step, if_pos told]
    exact congrArg (Option.map _) begins
  have permitted : state.Begun (.change [.literal "node0"]) := trivial
  have started : changed.threads.main.starts = false := by
    rw [show changed.threads.main = .ready from ready]
    rfl
  exact ⟨_, (Reaches.next .start permitted changes).next
    (show changed.Begun (.event _) from started) delivers, rfl⟩

/-- A client that waits for a command can open a connection again, in some run, if and only if
every callback so far could read the children: the one that could not has left no watch.
-/
theorem reconnects_iff {children : List CString} {actions : List ClientWatchAction}
    (run : Runs step Begun (initial children) actions state)
    (idle : state.threads.callback = .idle) (ready : state.threads.main = .ready)
    (handle : state.threads.handle = true)
    : (∃ later, Reaches step Begun state later ∧ state.threads.opened < later.threads.opened)
      ↔ .event none ∉ actions := by
  have counted : state.armed + state.fired + actions.count (.event none) = 1 :=
    watches_run run handle
  constructor
  · rintro ⟨later, ran, more⟩ unread
    have once := List.count_pos_iff.mpr unread
    have unwatched : state.Unwatched :=
      ⟨by omega, by rw [ready]; rfl, .inl idle⟩
    have same := (unwatched_reaches unwatched ran).2
    omega
  · intro read
    have none_unread := List.count_eq_zero.mpr read
    obtain ⟨between, before, waiting⟩ := told_again (by omega) idle ready handle
    obtain ⟨threads, ran, more⟩ :=
      connects_again (by rw [waiting]) (show between.threads.main = .ready by rw [waiting, ready])
    obtain ⟨later, after, rfl⟩ := reaches_of_threads ran
    refine ⟨later, before.trans after, ?_⟩
    rw [more, waiting]
    exact Nat.lt_succ_self _

/-- After one callback that could not read, nothing makes the client connect again. -/
theorem reconnects_iff_unread
    : ∃ state : ClientWatch,
        state.threads.main = .ready
        ∧ ¬∃ later,
            Reaches step Begun state later ∧ state.threads.opened < later.threads.opened := by
  have run
      : Runs step Begun (initial [.literal "node0"])
          ((followedJoin (.literal "node0") (.literal "node1")).take 8 ++ [.event none])
          _ :=
    runs_of_replay rfl
  exact ⟨_, rfl, fun reconnects =>
    (reconnects_iff run rfl rfl rfl).mp reconnects (by simp)⟩

end ClientWatch

end CarChain
