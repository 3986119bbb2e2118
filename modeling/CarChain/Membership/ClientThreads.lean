import Mathlib.Logic.Function.Basic
import CarChain.Library.StepSystem

/-! The threads behind the client's two connections (`zookeeper-interactions.c`, `list_client.c`).

The program's own thread connects at the start, sends commands on `rlistHead` and `rlistTail`, and
cleans up at the end. The thread of the ZooKeeper library runs `watcher`, one callback after the
other, which closes both connections and opens new ones. The semaphore is taken by some of the
code that touches the two pointers: not by the commands, nor by the callbacks that only close.

A step is one section under the semaphore or one access outside of it. Connections are numbered
in the order in which they are opened. `zookeeper_close` returns when the callback that is
running has returned.
-/

namespace CarChain

open StepSystem

/-- `rlistHead` or `rlistTail`. -/
inductive ChainEnd where
  | head
  | tail
  deriving DecidableEq

/-- How `connectToHead` or `connectToTail` goes: no address was read, and nothing is assigned;
`rlist_connect` returned NULL; or it returned a new connection.
-/
inductive DialResult where
  | unread
  | refused
  | connected
  deriving DecidableEq

/-- Where the program's own thread stands: before or inside `connectToHead` and `connectToTail`,
before it looks whether both have connected, after a start that failed, between two commands or
inside of one, or inside `cleanRlists`, in `zookeeper_close` and then before each call of
`rlist_disconnect`.
-/
inductive ClientPhase where
  | starting (side : ChainEnd)
  | assigning (side : ChainEnd) (dialled : Option (Option Nat))
  | checking
  | aborted
  | ready
  | asking (side : ChainEnd) (conn : Nat)
  | leaving (joins : Bool)
  | cleaning (side : ChainEnd)
  | gone
  deriving DecidableEq

/-- Why a callback closes the connections: other servers are to be connected to, there are none
left, or the session has expired.
-/
inductive CallbackKind where
  | renewal
  | emptied
  | expired
  deriving DecidableEq

/-- Where `watcher` stands: before its `sem_wait`, before it closes an end, before it sets that
pointer to NULL, or before or inside `connectToHead` and `connectToTail`.
-/
inductive CallbackPhase where
  | idle
  | waiting
  | closing (kind : CallbackKind) (side : ChainEnd)
  | clearing (kind : CallbackKind) (side : ChainEnd)
  | connecting (side : ChainEnd)
  | assigning (side : ChainEnd) (dialled : Option (Option Nat))
  deriving DecidableEq

/-- The two pointers with the threads; `closed` lists the calls of `rlist_disconnect`. -/
structure ClientThreads where
  stored : ChainEnd → Option Nat
  opened : Nat
  closed : List Nat
  handle : Bool
  main : ClientPhase
  callback : CallbackPhase

inductive ClientAction where
  | dial (result : DialResult)
  | assign
  | check
  | ask (side : ChainEnd)
  | finish
  | quit
  | handleClosed
  | disconnect
  | childEvent (children : Bool)
  | sessionExpired
  | enter
  | close
  | clear
  | redial (result : DialResult)
  | reassign
  deriving DecidableEq

def ClientPhase.ended : ClientPhase → Bool
  | .aborted | .gone => true
  | _ => false

/-- The program's own thread is in a section of the semaphore. -/
def ClientPhase.locks : ClientPhase → Bool
  | .assigning _ _ | .leaving _ => true
  | _ => false

/-- The callback is in a section of the semaphore. -/
def CallbackPhase.locks : CallbackPhase → Bool
  | .closing .renewal _ | .clearing .renewal _ | .assigning _ _ => true
  | _ => false

/-- What a callback does behind the part that closes an end. -/
def CallbackKind.behind : CallbackKind → ChainEnd → CallbackPhase
  | kind, .head => .closing kind .tail
  | .renewal, .tail => .connecting .head
  | _, .tail => .idle

namespace ClientThreads

/-- The start of `connectToZookeper`, with some children read. -/
def initial : ClientThreads where
  stored _ := none
  opened := 0
  closed := []
  handle := true
  main := .starting .head
  callback := .idle

/-- What there is to assign, and the connections that have been opened then. -/
def dialled (state : ClientThreads) : DialResult → Option (Option Nat) × Nat
  | .unread => (none, state.opened)
  | .refused => (some none, state.opened)
  | .connected => (some (some state.opened), state.opened + 1)

/-- The pointers after the assignment, if there is one. -/
def assigned (state : ClientThreads) (side : ChainEnd) (dialled : Option (Option Nat))
    : ChainEnd → Option Nat :=
  match dialled with
  | none => state.stored
  | some conn => Function.update state.stored side conn

/-- One step of a program that has not ended. -/
def advance (state : ClientThreads) : ClientAction → Option ClientThreads
  | .dial result =>
      match state.main with
      | .starting side =>
          if state.callback.locks then none
          else
            let (dialled, opened) := state.dialled result
            some { state with opened, main := .assigning side dialled }
      | _ => none
  | .assign =>
      match state.main with
      | .assigning .head dialled =>
          some { state with stored := state.assigned .head dialled, main := .starting .tail }
      | .assigning .tail dialled =>
          some { state with stored := state.assigned .tail dialled, main := .checking }
      | _ => none
  | .check =>
      match state.main with
      | .checking =>
          let both := (state.stored .head).isSome ∧ (state.stored .tail).isSome
          some { state with main := if both then .ready else .aborted }
      | _ => none
  | .ask side =>
      match state.main, state.stored side with
      | .ready, some conn => some { state with main := .asking side conn }
      | _, _ => none
  | .finish =>
      match state.main with
      | .asking _ _ => some { state with main := .ready }
      | _ => none
  | .quit =>
      match state.main with
      | .ready =>
          if state.callback.locks then none else some { state with main := .leaving state.handle }
      | _ => none
  | .handleClosed =>
      match state.main with
      | .leaving joins =>
          -- a handle that is NULL already makes `zookeeper_close` return at once
          if joins ∧ state.callback ≠ .idle then none
          else some { state with handle := false, main := .cleaning .head }
      | _ => none
  | .disconnect =>
      match state.main with
      | .cleaning .head =>
          some
            {
              state with
              closed := (state.stored .head).toList ++ state.closed
              main := .cleaning .tail
            }
      | .cleaning .tail =>
          some
            { state with closed := (state.stored .tail).toList ++ state.closed, main := .gone }
      | _ => none
  | .childEvent children =>
      if state.callback = .idle ∧ state.handle then
        some { state with callback := if children then .waiting else .closing .emptied .head }
      else
        none
  | .sessionExpired =>
      if state.callback = .idle ∧ state.handle then
        some { state with handle := false, callback := .closing .expired .head }
      else
        none
  | .enter =>
      if state.callback = .waiting ∧ ¬state.main.locks then
        some { state with callback := .closing .renewal .head }
      else
        none
  | .close =>
      match state.callback with
      | .closing kind side =>
          match state.stored side with
          | none => some { state with callback := kind.behind side }
          | some conn =>
              some { state with closed := conn :: state.closed, callback := .clearing kind side }
      | _ => none
  | .clear =>
      match state.callback with
      | .clearing kind side =>
          some
            {
              state with
              stored := Function.update state.stored side none
              callback := kind.behind side
            }
      | _ => none
  | .redial result =>
      match state.callback with
      | .connecting side =>
          if state.main.locks then none
          else
            let (dialled, opened) := state.dialled result
            some { state with opened, callback := .assigning side dialled }
      | _ => none
  | .reassign =>
      match state.callback with
      | .assigning .head dialled =>
          some
            { state with stored := state.assigned .head dialled, callback := .connecting .tail }
      | .assigning .tail dialled =>
          some { state with stored := state.assigned .tail dialled, callback := .idle }
      | _ => none

/-- One step; the callbacks end with the program. -/
def step (state : ClientThreads) (action : ClientAction) : Option ClientThreads :=
  if state.main.ended then none else state.advance action

-----------------------------------------------------------------------------------------
-- What a step can do
-----------------------------------------------------------------------------------------

/-- The steps with the states that they lead to. -/
inductive Advances (state : ClientThreads) : ClientAction → ClientThreads → Prop
  | dial (side : ChainEnd) (result : DialResult) (main : state.main = .starting side)
    (free : state.callback.locks = false)
    : Advances state (.dial result)
        {
          state with
          opened := (state.dialled result).2
          main := .assigning side (state.dialled result).1
        }
  | assign (side : ChainEnd) (dialled : Option (Option Nat))
    (main : state.main = .assigning side dialled)
    : Advances state .assign
        {
          state with
          stored := state.assigned side dialled
          main := if side = .head then .starting .tail else .checking
        }
  | check (both : Bool) (main : state.main = .checking)
    : Advances state .check { state with main := if both then .ready else .aborted }
  | ask (side : ChainEnd) (conn : Nat) (main : state.main = .ready)
    (stored : state.stored side = some conn)
    : Advances state (.ask side) { state with main := .asking side conn }
  | finish (side : ChainEnd) (conn : Nat) (main : state.main = .asking side conn)
    : Advances state .finish { state with main := .ready }
  | quit (main : state.main = .ready) (free : state.callback.locks = false)
    : Advances state .quit { state with main := .leaving state.handle }
  | handleClosed (joins : Bool) (main : state.main = .leaving joins)
    (joined : joins = true → state.callback = .idle)
    : Advances state .handleClosed { state with handle := false, main := .cleaning .head }
  | disconnect (side : ChainEnd) (main : state.main = .cleaning side)
    : Advances state .disconnect
        {
          state with
          closed := (state.stored side).toList ++ state.closed
          main := if side = .head then .cleaning .tail else .gone
        }
  | childEvent (children : Bool) (idle : state.callback = .idle) (handle : state.handle = true)
    : Advances state (.childEvent children)
        { state with callback := if children then .waiting else .closing .emptied .head }
  | sessionExpired (idle : state.callback = .idle) (handle : state.handle = true)
    : Advances state .sessionExpired
        { state with handle := false, callback := .closing .expired .head }
  | enter (waits : state.callback = .waiting) (free : state.main.locks = false)
    : Advances state .enter { state with callback := .closing .renewal .head }
  | skip (kind : CallbackKind) (side : ChainEnd) (closes : state.callback = .closing kind side)
    (stored : state.stored side = none)
    : Advances state .close { state with callback := kind.behind side }
  | close (kind : CallbackKind) (side : ChainEnd) (conn : Nat)
    (closes : state.callback = .closing kind side) (stored : state.stored side = some conn)
    : Advances state .close
        { state with closed := conn :: state.closed, callback := .clearing kind side }
  | clear (kind : CallbackKind) (side : ChainEnd) (clears : state.callback = .clearing kind side)
    : Advances state .clear
        {
          state with
          stored := Function.update state.stored side none
          callback := kind.behind side
        }
  | redial (side : ChainEnd) (result : DialResult) (connects : state.callback = .connecting side)
    (free : state.main.locks = false)
    : Advances state (.redial result)
        {
          state with
          opened := (state.dialled result).2
          callback := .assigning side (state.dialled result).1
        }
  | reassign (side : ChainEnd) (dialled : Option (Option Nat))
    (assigns : state.callback = .assigning side dialled)
    : Advances state .reassign
        {
          state with
          stored := state.assigned side dialled
          callback := if side = .head then .connecting .tail else .idle
        }

variable {state after : ClientThreads} {action : ClientAction}

theorem advances_of_step (taken : step state action = some after)
    : state.main.ended = false ∧ Advances state action after := by
  simp only [step, Option.ite_none_left_eq_some, Bool.not_eq_true] at taken
  obtain ⟨runs, taken⟩ := taken
  refine ⟨runs, ?_⟩
  cases action with
  | dial result =>
      simp only [advance] at taken
      split at taken
      · rename_i side main
        simp only [Option.ite_none_left_eq_some, Bool.not_eq_true, Option.some.injEq] at taken
        obtain ⟨free, rfl⟩ := taken
        exact .dial side result main free
      · cases taken
  | assign =>
      simp only [advance] at taken
      split at taken
      · rename_i dialled main
        cases taken
        exact .assign .head dialled main
      · rename_i dialled main
        cases taken
        exact .assign .tail dialled main
      · cases taken
  | check =>
      simp only [advance] at taken
      split at taken
      · rename_i main
        cases taken
        have both := Advances.check
          (decide ((state.stored .head).isSome ∧ (state.stored .tail).isSome)) main
        simpa using both
      · cases taken
  | ask side =>
      simp only [advance] at taken
      split at taken
      · rename_i conn main stored
        cases taken
        exact .ask side conn main stored
      · cases taken
  | finish =>
      simp only [advance] at taken
      split at taken
      · rename_i side conn main
        cases taken
        exact .finish side conn main
      · cases taken
  | quit =>
      simp only [advance] at taken
      split at taken
      · rename_i main
        simp only [Option.ite_none_left_eq_some, Bool.not_eq_true, Option.some.injEq] at taken
        obtain ⟨free, rfl⟩ := taken
        exact .quit main free
      · cases taken
  | handleClosed =>
      simp only [advance] at taken
      split at taken
      · rename_i joins main
        simp only [Option.ite_none_left_eq_some, Option.some.injEq] at taken
        obtain ⟨joined, rfl⟩ := taken
        exact .handleClosed joins main (fun waits => by
          by_contra running
          exact joined ⟨waits, running⟩)
      · cases taken
  | disconnect =>
      simp only [advance] at taken
      split at taken
      · rename_i main
        cases taken
        exact .disconnect .head main
      · rename_i main
        cases taken
        exact .disconnect .tail main
      · cases taken
  | childEvent children =>
      simp only [advance, Option.ite_none_right_eq_some, Option.some.injEq] at taken
      obtain ⟨⟨idle, handle⟩, rfl⟩ := taken
      exact .childEvent children idle handle
  | sessionExpired =>
      simp only [advance, Option.ite_none_right_eq_some, Option.some.injEq] at taken
      obtain ⟨⟨idle, handle⟩, rfl⟩ := taken
      exact .sessionExpired idle handle
  | enter =>
      simp only [advance, Option.ite_none_right_eq_some, Bool.not_eq_true, Option.some.injEq]
        at taken
      obtain ⟨⟨waits, free⟩, rfl⟩ := taken
      exact .enter waits free
  | close =>
      simp only [advance] at taken
      split at taken
      · rename_i kind side closes
        split at taken
        · rename_i stored
          cases taken
          exact .skip kind side closes stored
        · rename_i conn stored
          cases taken
          exact .close kind side conn closes stored
      · cases taken
  | clear =>
      simp only [advance] at taken
      split at taken
      · rename_i kind side clears
        cases taken
        exact .clear kind side clears
      · cases taken
  | redial result =>
      simp only [advance] at taken
      split at taken
      · rename_i side connects
        simp only [Option.ite_none_left_eq_some, Bool.not_eq_true, Option.some.injEq] at taken
        obtain ⟨free, rfl⟩ := taken
        exact .redial side result connects free
      · cases taken
  | reassign =>
      simp only [advance] at taken
      split at taken
      · rename_i dialled assigns
        cases taken
        exact .reassign .head dialled assigns
      · rename_i dialled assigns
        cases taken
        exact .reassign .tail dialled assigns
      · cases taken

-----------------------------------------------------------------------------------------
-- Leaving while a callback runs
-----------------------------------------------------------------------------------------

/-- The callback has a section of the semaphore ahead of it. -/
def Blocked (state : ClientThreads) : Prop :=
  state.callback = .waiting ∨ ∃ side, state.callback = .connecting side

/-- At most one thread is in a section of the semaphore. -/
def Exclusive (state : ClientThreads) : Prop :=
  state.main.locks = true → state.callback.locks = false

theorem exclusive_step (exclusive : state.Exclusive) (advances : Advances state action after)
    : after.Exclusive := by
  cases advances with
  | dial side result main free => exact fun _ => free
  | assign side dialled main => cases side <;> exact fun locks => by cases locks
  | check both main => cases both <;> exact fun locks => by cases locks
  | ask side conn main stored => exact fun locks => by cases locks
  | finish side conn main => exact fun locks => by cases locks
  | quit main free => exact fun _ => free
  | handleClosed joins main joined => exact fun locks => by cases locks
  | disconnect side main => cases side <;> exact fun locks => by cases locks
  | childEvent children idle handle => cases children <;> exact fun _ => rfl
  | sessionExpired idle handle => exact fun _ => rfl
  | enter waits free => exact fun locks => absurd locks (by simp [free])
  | skip kind side closes stored =>
      cases kind <;> cases side <;> simp_all [Exclusive, CallbackKind.behind, CallbackPhase.locks]
  | close kind side conn closes stored =>
      cases kind <;> simp_all [Exclusive, CallbackPhase.locks]
  | clear kind side clears =>
      cases kind <;> cases side <;> simp_all [Exclusive, CallbackKind.behind, CallbackPhase.locks]
  | redial side result connects free => exact fun locks => absurd locks (by simp [free])
  | reassign side dialled assigns => cases side <;> exact fun _ => rfl

/-- A thread that waits for the callback keeps the semaphore that the callback waits for. -/
theorem blocked_step (waits : state.main = .leaving true) (blocked : state.Blocked)
    (advances : Advances state action after)
    : after.main = .leaving true ∧ after.Blocked := by
  have busy : state.callback ≠ .idle := by
    rcases blocked with waiting | ⟨side, connecting⟩
    · simp [waiting]
    · simp [connecting]
  have locks : state.main.locks = true := by rw [waits]; rfl
  cases advances with
  | dial side result main free => simp [main] at waits
  | assign side dialled main => simp [main] at waits
  | check both main => simp [main] at waits
  | ask side conn main stored => simp [main] at waits
  | finish side conn main => simp [main] at waits
  | quit main free => simp [main] at waits
  | handleClosed joins main joined =>
      cases main.symm.trans waits
      exact absurd (joined rfl) busy
  | disconnect side main => simp [main] at waits
  | childEvent children idle handle => exact absurd idle busy
  | sessionExpired idle handle => exact absurd idle busy
  | enter waiting free => simp [free] at locks
  | skip kind side closes stored => simp [Blocked, closes] at blocked
  | close kind side conn closes stored => simp [Blocked, closes] at blocked
  | clear kind side clears => simp [Blocked, clears] at blocked
  | redial side result connects free => simp [free] at locks
  | reassign side dialled assigns => simp [Blocked, assigns] at blocked

theorem clear_end {kind : CallbackKind} {side : ChainEnd} (runs : state.main.ended = false)
    (clears : state.callback = .clearing kind side)
    : step state .clear
      = some
          {
            state with
            stored := Function.update state.stored side none
            callback := kind.behind side
          } := by
  simp [step, advance, runs, clears]

/-- A callback that closes an end goes on behind it, whatever the pointer is. -/
theorem closes_end {kind : CallbackKind} {side : ChainEnd}
    (guard : ClientThreads → ClientAction → Prop)
    (free : ∀ state, guard state .close ∧ guard state .clear) (runs : state.main.ended = false)
    (closes : state.callback = .closing kind side ∨ state.callback = .clearing kind side)
    : ∃ later,
        Reaches step guard state later
        ∧ later.main = state.main
        ∧ later.opened = state.opened
        ∧ later.callback = kind.behind side := by
  rcases closes with closing | clearing
  · cases stored : state.stored side with
    | none =>
        have skips : step state .close = some { state with callback := kind.behind side } := by
          simp [step, advance, runs, closing, stored]
        exact ⟨_, .next .start (free _).1 skips, rfl, rfl, rfl⟩
    | some conn =>
        have closed
            : step state .close
              = some
                  {
                    state with
                    closed := conn :: state.closed
                    callback := .clearing kind side
                  } := by
          simp [step, advance, runs, closing, stored]
        exact ⟨_, .next (.next .start (free _).1 closed) (free _).2 (clear_end runs rfl), rfl, rfl,
          rfl⟩
  · exact ⟨_, .next .start (free _).2 (clear_end runs clearing), rfl, rfl, rfl⟩

/-- A callback that only closes comes to its end. -/
theorem closes_both {kind : CallbackKind} {side : ChainEnd} (runs : state.main.ended = false)
    (only : kind ≠ .renewal)
    (closes : state.callback = .closing kind side ∨ state.callback = .clearing kind side)
    : ∃ later,
        Reaches step (fun _ _ => True) state later
        ∧ later.main = state.main
        ∧ later.callback = .idle := by
  obtain ⟨between, first, main, -, behind⟩ :=
    closes_end (fun _ _ => True) (fun _ => ⟨trivial, trivial⟩) runs closes
  cases side with
  | head =>
      obtain ⟨later, second, same, -, ends⟩ :=
        closes_end (fun _ _ => True) (fun _ => ⟨trivial, trivial⟩) (by rwa [main]) (.inl behind)
      refine ⟨later, first.trans second, same.trans main, ends.trans ?_⟩
      cases kind <;> first | rfl | exact absurd rfl only
  | tail =>
      refine ⟨between, first, main, behind.trans ?_⟩
      cases kind <;> first | rfl | exact absurd rfl only

/-- A client that leaves holds the semaphore while it waits for the callback that is running. It
gets on to its clean-up if and only if that callback has no section of the semaphore ahead;
otherwise the two wait for each other in every run.
-/
theorem leaving_finishes_iff {joins : Bool}
    (reached : Reaches step (fun _ _ => True) initial state) (leaves : state.main = .leaving joins)
    : (∃ later,
          Reaches step (fun _ _ => True) state later ∧ later.main = .cleaning .head)
      ↔ ¬(joins = true ∧ state.Blocked) := by
  have exclusive : state.Exclusive :=
    reached.invariant (fun locks => by cases locks)
      (fun _ _ _ before _ taken => exclusive_step before (advances_of_step taken).2)
  constructor
  · rintro ⟨later, ran, cleans⟩ ⟨rfl, blocked⟩
    have stays : later.main = .leaving true ∧ later.Blocked :=
      ran.invariant ⟨leaves, blocked⟩
        (fun _ _ _ before _ taken => blocked_step before.1 before.2 (advances_of_step taken).2)
    rw [stays.1] at cleans
    cases cleans
  · intro free
    have runs : state.main.ended = false := by rw [leaves]; rfl
    have unlocked : state.callback.locks = false := exclusive (by rw [leaves]; rfl)
    have cleans {later : ClientThreads} (ran : Reaches step (fun _ _ => True) state later)
        (same : later.main = state.main) (ends : joins = true → later.callback = .idle)
        : ∃ later, Reaches step (fun _ _ => True) state later ∧ later.main = .cleaning .head := by
      have closed
          : step later .handleClosed
            = some { later with handle := false, main := .cleaning .head } := by
        cases joins with
        | false => simp [step, advance, same, leaves, ClientPhase.ended]
        | true => simp [step, advance, same, leaves, ClientPhase.ended, ends rfl]
      exact ⟨_, .next ran trivial closed, rfl⟩
    have closing {kind : CallbackKind} {side : ChainEnd}
        (closes : state.callback = .closing kind side ∨ state.callback = .clearing kind side)
        : ∃ later, Reaches step (fun _ _ => True) state later ∧ later.main = .cleaning .head := by
      have only : kind ≠ .renewal := by
        rintro rfl
        rcases closes with closing | clearing
        · simp [closing, CallbackPhase.locks] at unlocked
        · simp [clearing, CallbackPhase.locks] at unlocked
      obtain ⟨later, ran, same, ends⟩ := closes_both runs only closes
      exact cleans ran same (fun _ => ends)
    cases callback : state.callback with
    | idle => exact cleans .start rfl (fun _ => callback)
    | waiting => exact cleans .start rfl (fun waits => absurd ⟨waits, .inl callback⟩ free)
    | connecting side =>
        exact cleans .start rfl (fun waits => absurd ⟨waits, .inr ⟨side, callback⟩⟩ free)
    | assigning side dialled => simp [callback, CallbackPhase.locks] at unlocked
    | closing kind side => exact closing (.inl callback)
    | clearing kind side => exact closing (.inr callback)

/-- A client that has connected, and whose callback has closed both ends to connect again. -/
def startAndRenewal : List ClientAction :=
  [
    .dial .connected, .assign, .dial .connected, .assign, .check,
    .childEvent true, .enter, .close, .clear, .close, .clear
  ]

/-- A client that leaves while the callback is about to connect again never gets on. -/
theorem leaving_finishes_iff_renewal
    : ∃ state : ClientThreads,
        state.main = .leaving true
        ∧ ¬∃ later,
            Reaches step (fun _ _ => True) state later ∧ later.main = .cleaning .head := by
  have reached : Reaches step (fun _ _ => True) initial _ :=
    reaches_of_replay (startAndRenewal ++ [.quit]) rfl
  exact ⟨_, rfl, fun finishes =>
    (leaving_finishes_iff reached rfl).mp finishes ⟨rfl, .inr ⟨.head, rfl⟩⟩⟩

end ClientThreads

end CarChain
