import CarChain.Network.Shutdown

/-! What the end of a server tears down (`list_server.c`, `network_server.c`, `log.c`).

`cleanup` closes the log, destroys the mutex of the client count and the list, and closes the
socket: once each, but for the socket, and while threads may still be on their way to a use.
-/

namespace CarChain

open StepSystem

-----------------------------------------------------------------------------------------
-- What `cleanup` finds
-----------------------------------------------------------------------------------------

/-- The step of `cleanup` that tears it down. -/
def Shared.teardown : Shared → ProcessAction
  | .log => .closeFile
  | .clients => .destroyMutex
  | .list => .listSkelDestroy

/-- `main` is behind its loop. -/
def MainStage.leaving : MainStage → Bool
  | .disconnecting | .closingLog | .clearingLog | .destroyingMutex | .closingSocket
  | .destroyingList | .exiting | .exited => true
  | _ => false

/-- The stages in which the socket is stored in `s_socket`. -/
def MainStage.stores : MainStage → Bool
  | .entering | .testing | .accepting | .admitting | .loopLeft | .disconnecting | .closingLog
  | .clearingLog | .destroyingMutex | .closingSocket => true
  | _ => false

/-- What has been torn down while the socket is still stored. -/
def MainStage.tore (stage : MainStage) (shared : Shared) : Bool :=
  match stage with
  | .clearingLog | .destroyingMutex => shared = .log
  | .closingSocket => shared ≠ .list
  | _ => false

/-- The stages in which no socket is stored, with the list that they find. -/
def MainStage.allows : Lifetime → MainStage → Bool
  | .absent, .listInit => true
  | .live, .joining | .live, .binding => true
  | .absent, .disconnecting | .live, .disconnecting => true
  | .absent, .destroyingList | .live, .destroyingList => true
  | .absent, .exiting | .gone, .exiting => true
  | .absent, .exited | .gone, .exited => true
  | _, _ => false

namespace ServerProcess

variable {state after : ServerProcess} {action : ProcessAction} {shared : Shared}

/-- A server with a socket: `cleanup` has torn down what it has come past, and all else lives. -/
structure Bound (state : ServerProcess) : Prop where
  stored : state.socketSet = true
  stage : state.main.stores = true
  logSet : state.main ≠ .destroyingMutex → state.main ≠ .closingSocket → state.logSet = true
  life : ∀ shared, state.life shared = if state.main.tore shared then .gone else .live
  opened : state.listener ≠ .absent
  unclosed : .cleanup ∉ state.closedBy

/-- A server that has no socket yet, or none any more. -/
structure Unbound (state : ServerProcess) : Prop where
  stored : state.socketSet = false
  stage : state.main.allows (state.life .list) = true
  log : state.life .log ≠ .live
  clients : state.life .clients ≠ .live
  listener : state.listener ≠ .live
  starting : state.main.leaving = false → state.listener = .absent
  unopened : state.listener = .absent → state.closedBy = [] ∧ state.globalSet = false
  closedOnce : state.listener = .gone → state.closedBy.count .cleanup = 1

/-- A reply that could not be sent has ended the process. -/
def Aborted (state : ServerProcess) : Prop := ∃ conn, state.threads conn = some .aborted

/-- What holds of every reachable state. -/
def Standing (state : ServerProcess) : Prop :=
  state.Bound ∨ state.Unbound ∨ (state.main = .exited ∧ state.Aborted)

theorem standing_initial : Standing initial :=
  .inr (.inl (by constructor <;> simp [initial, MainStage.allows, MainStage.leaving]))

/-- Nothing is torn down by an abort. -/
theorem standing_abort {conn : Nat}
    : Standing { state.withThread conn .aborted with main := .exited } :=
  .inr (.inr ⟨rfl, conn, Function.update_self ..⟩)

theorem bound_step (bound : state.Bound) (advances : Advances state action after)
    : after.Standing := by
  obtain ⟨stored, stage, logSet, life, opened, unclosed⟩ := bound
  cases advances with
  | listCreated main | listRefused main | join _ main | bound main | unbound main
  | listSkelDestroy main | exit main =>
      simp [main, MainStage.stores] at stage
  | enterLoop main | accept main | startThread _ main | leaveLoop main =>
      rw [main] at life logSet
      exact .inl ⟨stored, rfl, fun _ _ => logSet (by decide) (by decide), life, opened, unclosed⟩
  | testRunning main =>
      rw [main] at life logSet
      refine .inl ⟨stored, ?_, fun _ _ => logSet (by decide) (by decide), ?_, opened, unclosed⟩
      · dsimp only
        split_ifs <;> rfl
      · dsimp only
        split_ifs <;> exact life
  | acceptFails error main =>
      rw [main] at life logSet
      refine .inl ⟨stored, ?_, fun _ _ => logSet (by decide) (by decide), ?_, opened, unclosed⟩
      · dsimp only
        split_ifs <;> rfl
      · dsimp only
        split_ifs <;> exact life
  | zkDisconnect main =>
      rw [main] at life logSet
      refine .inl ⟨stored, ?_, fun _ _ => logSet (by decide) (by decide), ?_, opened, unclosed⟩
      · rw [stored]
        rfl
      · rw [stored]
        exact life
  | closeFile main =>
      rw [main] at life logSet
      refine .inl ⟨stored, rfl, fun _ _ => logSet (by decide) (by decide), fun shared => ?_,
        opened, unclosed⟩
      cases shared <;> simp [life, MainStage.tore]
  | clearLog main =>
      rw [main] at life
      exact .inl ⟨stored, rfl, fun destroying => absurd rfl destroying, life, opened, unclosed⟩
  | destroyMutex main =>
      rw [main] at life
      refine .inl ⟨stored, rfl, fun _ closing => absurd rfl closing, fun shared => ?_, opened,
        unclosed⟩
      cases shared <;> simp [life, MainStage.tore]
  | closeSocket main =>
      rw [main] at life
      refine .inr (.inl ⟨rfl, ?_, ?_, ?_, nofun, nofun, nofun, fun _ => ?_⟩)
      · simp [life, MainStage.tore, MainStage.allows]
      · simp [life, MainStage.tore]
      · simp [life, MainStage.tore]
      · simp [List.count_eq_zero.mpr unclosed]
  | signal | handlerLooks | handlerShuts | serve =>
      exact .inl ⟨stored, stage, logSet, life, opened, unclosed⟩
  | abort => exact standing_abort
  | handlerCloses closes =>
      refine .inl ⟨stored, stage, logSet, life, ?_, ?_⟩
      · dsimp only
        split_ifs
        · nofun
        · exact opened
      · dsimp only
        split_ifs <;> simp [unclosed]

theorem unbound_step (unbound : state.Unbound) (advances : Advances state action after)
    : after.Standing := by
  obtain ⟨stored, stage, log, clients, listener, starting, unopened, closedOnce⟩ := unbound
  cases advances with
  | enterLoop main | testRunning main | accept main | acceptFails _ main | startThread _ main
  | leaveLoop main | closeFile main | clearLog main | destroyMutex main | closeSocket main =>
      simp [main, MainStage.allows] at stage
  | listCreated main =>
      have absent := starting (by rw [main]; rfl)
      exact .inr (.inl ⟨stored, rfl, log, clients, listener, fun _ => absent, unopened, closedOnce⟩)
  | listRefused main | unbound main | exit main =>
      rw [main] at stage
      refine .inr (.inl ⟨stored, ?_, log, clients, listener, nofun, unopened, closedOnce⟩)
      cases list : state.life .list <;> simp_all [MainStage.allows]
  | join joined main =>
      have absent := starting (by rw [main]; rfl)
      rw [main] at stage
      refine .inr (.inl ⟨stored, ?_, log, clients, listener, fun _ => absent, unopened, closedOnce⟩)
      cases joined <;> cases list : state.life .list <;> simp_all [MainStage.allows]
  | bound main =>
      have absent := starting (by rw [main]; rfl)
      rw [main] at stage
      refine .inl ⟨rfl, rfl, fun _ _ => rfl, fun shared => ?_, nofun, ?_⟩
      · cases list : state.life .list <;> cases shared <;>
          simp_all [MainStage.allows, MainStage.tore]
      · simp [(unopened absent).1]
  | zkDisconnect main =>
      rw [main] at stage
      refine .inr (.inl ⟨stored, ?_, log, clients, listener, ?_, unopened, closedOnce⟩)
      · cases list : state.life .list <;> simp_all [MainStage.allows]
      · simp [stored, MainStage.leaving]
  | listSkelDestroy main =>
      rw [main] at stage
      refine .inr (.inl ⟨stored, ?_, ?_, ?_, listener, nofun, unopened, closedOnce⟩)
      · cases list : state.life .list <;> simp_all [MainStage.allows]
      · dsimp only
        split_ifs <;> simpa using log
      · dsimp only
        split_ifs <;> simpa using clients
  | signal | handlerLooks | handlerShuts | serve =>
      exact .inr (.inl ⟨stored, stage, log, clients, listener, starting, unopened, closedOnce⟩)
  | abort => exact standing_abort
  | handlerCloses closes =>
      by_cases set : state.globalSet = true
      · have opened : state.listener ≠ .absent := fun absent => by
          simp [(unopened absent).2] at set
        have gone : state.listener = .gone := by
          cases life : state.listener <;> simp_all
        simp only [if_pos set]
        refine .inr (.inl ⟨stored, stage, log, clients, nofun, fun starts => ?_, nofun,
          fun _ => ?_⟩)
        · exact absurd (starting starts) opened
        · simpa using closedOnce gone
      · simp only [if_neg set]
        exact .inr (.inl ⟨stored, stage, log, clients, listener, starting, unopened, closedOnce⟩)

/-- Every step keeps it. -/
theorem standing_step (standing : state.Standing) (taken : step state action = some after)
    : after.Standing := by
  obtain ⟨lives, advances⟩ := advances_of_step taken
  rcases standing with bound | unbound | ⟨exited, -⟩
  · exact bound_step bound advances
  · exact unbound_step unbound advances
  · exact absurd exited lives

theorem standing_of_reaches (reached : Reaches step (fun _ _ => True) initial state)
    : state.Standing :=
  reached.invariant standing_initial (fun _ _ _ before _ taken => standing_step before taken)

/-- Calls of `close` are made by handlers and by `cleanup`. -/
theorem length_eq_counts (calls : List Closer)
    : calls.length = calls.count .cleanup + calls.count .handler := by
  induction calls with
  | nil => rfl
  | cons closer rest ih =>
      cases closer with
      | cleanup => simp [ih, Nat.add_right_comm]
      | handler => simp [ih, Nat.add_assoc]

/-- Wherever the start-up has failed and whenever `SIGINT` has come, `cleanup` tears down nothing
twice, and a `main` that gets to its end has left nothing alive; but it closes the listening socket
after each handler that got to its own `close` while `listening_socket_global` was set.
-/
theorem tearsDown_once (reached : Reaches step (fun _ _ => True) initial state)
    : (
        ∀ shared after,
          step state shared.teardown = some after
          → state.life shared ≠ .gone ∧ after.life shared ≠ .live
      )
      ∧ (
        state.main = .exited
        → ¬state.Aborted
        → (∀ shared, state.life shared ≠ .live)
          ∧ state.listener ≠ .live
          ∧ (
            state.listener = .gone
            → state.closedBy.length = state.closedBy.count .handler + 1
          )
      ) := by
  have standing := standing_of_reaches reached
  refine ⟨fun shared after taken => ?_, fun exited survived => ?_⟩
  · obtain ⟨lives, advances⟩ := advances_of_step taken
    replace standing : state.Bound ∨ state.Unbound :=
      standing.imp_right (fun rest => rest.resolve_right (fun ended => lives ended.1))
    cases shared with
    | log =>
        cases advances with
        | closeFile main =>
            rcases standing with bound | unbound
            · simp [bound.life, main, MainStage.tore]
            · have stage := unbound.stage
              simp [main, MainStage.allows] at stage
    | clients =>
        cases advances with
        | destroyMutex main =>
            rcases standing with bound | unbound
            · simp [bound.life, main, MainStage.tore]
            · have stage := unbound.stage
              simp [main, MainStage.allows] at stage
    | list =>
        cases advances with
        | listSkelDestroy main =>
            rcases standing with bound | unbound
            · have stage := bound.stage
              simp [main, MainStage.stores] at stage
            · have stage := unbound.stage
              rw [main] at stage
              cases list : state.life .list <;> simp_all [MainStage.allows]
  · rcases standing with bound | unbound | ⟨-, aborted⟩
    · have stage := bound.stage
      simp [exited, MainStage.stores] at stage
    · have stage := unbound.stage
      rw [exited] at stage
      refine ⟨fun shared => ?_, unbound.listener, fun gone => ?_⟩
      · cases shared with
        | log => exact unbound.log
        | clients => exact unbound.clients
        | list => cases list : state.life .list <;> simp_all [MainStage.allows]
      · rw [length_eq_counts, unbound.closedOnce gone, Nat.add_comm]
    · exact absurd aborted survived

theorem tearsDown_once_interrupted
    : ∃ state : ServerProcess,
        state.main = .exited
        ∧ (∀ shared, state.life shared ≠ .live)
        ∧ state.closedBy.length = 2 := by
  have reached : Reaches step (fun _ _ => True) initial _ :=
    reaches_of_replay
      (startedServer
        ++ [
          .signal, .handlerLooks, .handlerShuts, .handlerCloses, .acceptFails .closed, .leaveLoop,
          .zkDisconnect, .closeFile, .clearLog, .destroyMutex, .closeSocket, .listSkelDestroy, .exit
        ])
      rfl
  obtain ⟨released, -, closes⟩ :=
    (tearsDown_once reached).2 rfl (by rintro ⟨conn, aborted⟩; cases aborted)
  exact ⟨_, rfl, released, closes rfl⟩

-----------------------------------------------------------------------------------------
-- What is torn down under a thread
-----------------------------------------------------------------------------------------

end ServerProcess

/-- The calls in which a thread uses what `main` tears down. -/
def ConnPhase.uses : Shared → ConnPhase → Bool
  | .log, .logging | .log, .endLogging => true
  | .clients, .counting | .clients, .reporting => true
  | .list, .invoking => true
  | _, _ => false

/-- The phases from which a thread can get to such a call. -/
def ConnPhase.mayUse (running : Bool) : Shared → ConnPhase → Bool
  | .log, .closing | .log, .counting | .log, .reporting | .log, .finished => false
  | .log, .aborted | .clients, .aborted | .clients, .finished => false
  | .log, _ => true
  | .clients, _ => true
  | .list, .testing | .list, .replying => running
  | .list, .receiving | .list, .received | .list, .logging | .list, .invoking => true
  | .list, _ => false

/-- The steps from the loop condition to behind the loop. -/
def ConnPhase.leave (running : Bool) : List ConnAction :=
  if running then [.test, .receive false] else [.test]

/-- The steps from there to the call. The log is reached in the loop or behind it. -/
def ConnPhase.path (running : Bool) : Shared → ConnPhase → List ConnAction
  | .log, .testing => leave running ++ [.log true]
  | .log, .receiving => [.receive false, .log true]
  | .log, .received => [.log true]
  | .log, .invoking => [.invoked, .reply true] ++ leave running ++ [.log true]
  | .log, .replying => [.reply true] ++ leave running ++ [.log true]
  | .log, .ending => [.log true]
  | .clients, .testing => leave running ++ [.log false, .close]
  | .clients, .receiving => [.receive false, .log false, .close]
  | .clients, .received =>
      [.log false, .invoked, .reply true] ++ leave running ++ [.log false, .close]
  | .clients, .logging =>
      [.written, .invoked, .reply true] ++ leave running ++ [.log false, .close]
  | .clients, .invoking => [.invoked, .reply true] ++ leave running ++ [.log false, .close]
  | .clients, .replying => [.reply true] ++ leave running ++ [.log false, .close]
  | .clients, .ending => [.log false, .close]
  | .clients, .endLogging => [.written, .close]
  | .clients, .closing => [.close]
  | .list, .testing => [.test, .receive true, .log false]
  | .list, .receiving => [.receive true, .log false]
  | .list, .received => [.log false]
  | .list, .logging => [.written]
  | .list, .replying => [.reply true, .test, .receive true, .log false]
  | _, _ => []

/-- A thread that takes some steps, one after the other. -/
def ConnPhase.run (running logSet : Bool) : List ConnAction → ConnPhase → Option ConnPhase
  | [], phase => some phase
  | action :: rest, phase => (phase.next running logSet action).bind (run running logSet rest)

/-- The path leads to a use; the log is used only while `log_fp` is set. -/
theorem ConnPhase.run_path {running logSet : Bool} {shared : Shared} {phase : ConnPhase}
    (may : phase.mayUse running shared = true) (set : shared = .log → logSet = true)
    : ∃ final,
        run running logSet (phase.path running shared) phase = some final
        ∧ final.uses shared = true := by
  cases shared with
  | log =>
      cases set rfl
      cases phase <;> cases running <;> first | exact ⟨_, rfl, rfl⟩ | cases may
  | clients =>
      cases phase <;> cases running <;> cases logSet <;> first | exact ⟨_, rfl, rfl⟩ | cases may
  | list =>
      cases phase <;> cases running <;> cases logSet <;> first | exact ⟨_, rfl, rfl⟩ | cases may

/-- No steps lead back from an abort. -/
theorem ConnPhase.run_aborted {running logSet : Bool} {path : List ConnAction}
    {final : ConnPhase} (ran : run running logSet path .aborted = some final)
    : final = .aborted := by
  cases path with
  | nil => exact (Option.some.inj ran).symm
  | cons action rest => cases action <;> cases ran

/-- Every use is behind a phase from which it can be reached. -/
theorem ConnPhase.mayUse_of_uses {running : Bool} {shared : Shared} {phase : ConnPhase}
    (used : phase.uses shared = true)
    : phase.mayUse running shared = true := by
  cases shared <;> cases phase <;> first | rfl | cases used

/-- What a thread can use behind a step it could use before. -/
theorem ConnPhase.mayUse_next {running logSet : Bool} {shared : Shared} {phase next : ConnPhase}
    {action : ConnAction} (goesOn : phase.next running logSet action = some next)
    (may : next.mayUse running shared = true)
    : phase.mayUse running shared = true := by
  -- only the calls of the phase are left
  cases action <;> cases phase <;> cases goesOn
  all_goals
    cases shared <;> first | rfl | exact may | (split_ifs at may <;> simp_all [mayUse])

/-- A process that is to stop leaves its threads no more than one that runs. -/
theorem ConnPhase.mayUse_of_stopping {running : Bool} {shared : Shared} {phase : ConnPhase}
    (may : phase.mayUse false shared = true)
    : phase.mayUse running shared = true := by
  cases running with
  | false => exact may
  | true => cases shared <;> cases phase <;> first | rfl | cases may

namespace ServerProcess

variable {state after : ServerProcess} {action : ProcessAction} {shared : Shared}

/-- A thread uses what may have been torn down. -/
def Uses (state : ServerProcess) (shared : Shared) : Prop :=
  ∃ conn phase, state.threads conn = some phase ∧ phase.uses shared = true

/-- A thread takes its steps in the process, by induction on them. -/
theorem reaches_of_run {conn : Nat} {path : List ConnAction} {phase final : ConnPhase}
    (lives : state.main ≠ .exited) (stands : state.threads conn = some phase)
    (survives : final ≠ .aborted)
    (ran : ConnPhase.run state.running state.logSet path phase = some final)
    : ∃ later, Reaches step (fun _ _ => True) state later ∧ later.threads conn = some final := by
  induction path generalizing state phase with
  | nil => exact ⟨state, .start, by rw [stands]; exact ran⟩
  | cons action rest ih =>
      obtain ⟨phase', goesOn, ran⟩ := Option.bind_eq_some_iff.mp ran
      have going : phase' ≠ .aborted := by
        rintro rfl
        exact survives (ConnPhase.run_aborted ran)
      have taken : step state (.serve conn action) = some (state.withThread conn phase') := by
        simp [step, advance, lives, stands, goesOn, going]
      obtain ⟨later, after, there⟩ :=
        @ih (state.withThread conn phase') phase' lives (Function.update_self ..) ran
      exact ⟨later, (Reaches.next .start trivial taken).trans after, there⟩

/-- `main` makes no more threads, and none that there is can get to a use. -/
structure Unused (shared : Shared) (state : ServerProcess) : Prop where
  left : state.main.leaving = true
  threads
    : ∀ conn phase,
        state.threads conn = some phase → ¬phase.mayUse state.running shared = true

/-- Every step keeps it. -/
theorem unused_step (unused : Unused shared state) (advances : Advances state action after)
    : Unused shared after := by
  obtain ⟨left, threads⟩ := unused
  cases advances with
  | listCreated main | listRefused main | join _ main | bound main | unbound main
  | enterLoop main | testRunning main | accept main | acceptFails _ main | startThread _ main
  | leaveLoop main =>
      simp [main, MainStage.leaving] at left
  | zkDisconnect main =>
      refine ⟨?_, threads⟩
      dsimp only
      split_ifs <;> rfl
  | closeFile | clearLog | destroyMutex | closeSocket | listSkelDestroy | exit =>
      exact ⟨rfl, threads⟩
  | signal =>
      exact ⟨left, fun conn phase stands may =>
        threads conn phase stands (ConnPhase.mayUse_of_stopping may)⟩
  | handlerLooks | handlerShuts | handlerCloses => exact ⟨left, threads⟩
  | serve conn action phase phase' stands goesOn =>
      refine ⟨left, fun other there standsThere may => ?_⟩
      by_cases same : other = conn
      · subst same
        cases (Function.update_self ..).symm.trans standsThere
        exact threads other phase stands (ConnPhase.mayUse_next goesOn may)
      · exact threads other there ((Function.update_of_ne same ..).symm.trans standsThere) may
  | abort conn action phase stands aborts =>
      refine ⟨rfl, fun other there standsThere may => ?_⟩
      by_cases same : other = conn
      · subst same
        cases (Function.update_self ..).symm.trans standsThere
        cases shared <;> cases may
      · exact threads other there ((Function.update_of_ne same ..).symm.trans standsThere) may

/-- What is torn down comes behind the loop, the log while `log_fp` is set. -/
theorem behind_teardown (standing : state.Standing)
    (advances : Advances state shared.teardown after)
    : after.main.leaving = true
      ∧ after.main ≠ .exited
      ∧ after.running = state.running
      ∧ after.threads = state.threads
      ∧ (shared = .log → after.logSet = true) := by
  cases shared with
  | log =>
      cases advances with
      | closeFile main =>
          refine ⟨rfl, nofun, rfl, rfl, fun _ => ?_⟩
          rcases standing with bound | unbound | ⟨exited, -⟩
          · exact bound.logSet (by simp [main]) (by simp [main])
          · have stage := unbound.stage
            simp [main, MainStage.allows] at stage
          · simp [main] at exited
  | clients =>
      cases advances with
      | destroyMutex main => exact ⟨rfl, nofun, rfl, rfl, nofun⟩
  | list =>
      cases advances with
      | listSkelDestroy main => exact ⟨rfl, nofun, rfl, rfl, nofun⟩

/-- `cleanup` waits for no connection thread. When it tears something down, some thread can use
it afterwards if and only if one stands in a phase from which it gets there: before its last entry
in the log, before its last look at the count, or past its test of `server_running`, or before one
that it will pass, on its way to `invoke`.
-/
theorem tornDown_used_iff (reached : Reaches step (fun _ _ => True) initial state)
    (taken : step state shared.teardown = some after)
    : (∃ later, Reaches step (fun _ _ => True) after later ∧ later.Uses shared)
      ↔ ∃ conn phase,
          state.threads conn = some phase ∧ phase.mayUse state.running shared = true := by
  obtain ⟨left, lives, running, threads, set⟩ :=
    behind_teardown (standing_of_reaches reached) (advances_of_step taken).2
  constructor
  · rintro ⟨later, ran, conn, phase, stands, used⟩
    by_contra none_
    have unused : Unused shared after :=
      ⟨left, fun conn phase stands may =>
        none_ ⟨conn, phase, threads ▸ stands, running ▸ may⟩⟩
    have stays : Unused shared later :=
      ran.invariant unused
        (fun _ _ _ before _ taken => unused_step before (advances_of_step taken).2)
    exact stays.threads conn phase stands (ConnPhase.mayUse_of_uses used)
  · rintro ⟨conn, phase, stands, may⟩
    obtain ⟨final, ran, used⟩ := ConnPhase.run_path (running ▸ may) set
    have survives : final ≠ .aborted := by
      rintro rfl
      cases shared <;> cases used
    obtain ⟨later, reaches, there⟩ := reaches_of_run lives (threads ▸ stands) survives ran
    exact ⟨later, reaches, conn, final, there, used⟩

/-- A client has connected and has not sent its next request when `SIGINT` comes. -/
def stoppedServer : List ProcessAction :=
  startedServer
  ++ [
    .accept, .startThread true, .serve 0 .test, .testRunning, .signal, .handlerLooks, .handlerShuts,
    .handlerCloses, .acceptFails .closed, .leaveLoop, .zkDisconnect, .closeFile, .clearLog,
    .destroyMutex, .closeSocket
  ]

/-- The request is handled when the list has been destroyed. -/
theorem tornDown_used_iff_list
    : ∃ after later : ServerProcess,
        after.life .list = .gone
        ∧ Reaches step (fun _ _ => True) after later
        ∧ later.Uses .list := by
  have reached : Reaches step (fun _ _ => True) initial _ := reaches_of_replay stoppedServer rfl
  obtain ⟨later, ran, uses⟩ :=
    (tornDown_used_iff reached (show step _ (Shared.teardown .list) = some _ from rfl)).mpr
      ⟨0, .receiving, rfl, rfl⟩
  exact ⟨_, later, rfl, ran, uses⟩

end ServerProcess

end CarChain
