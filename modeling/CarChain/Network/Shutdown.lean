import CarChain.Library.Progress

/-! A server that stops (`list_server.c`, `network_server.c`).

`SIGINT` may come at any moment and on any thread, also while a handler runs. `main` leaves its
loop, and `cleanup` tears down what the connection threads use without waiting for them; they
run on until the process ends. A thread whose reply cannot be sent ends it at once.
-/

namespace CarChain

open StepSystem

/-- Where `main` stands: in its start-up, in `network_main_loop`, or in `cleanup`, which runs at
its exit. It is at its end when the process has been aborted, too.
-/
inductive MainStage where
  | listInit
  | joining
  | binding
  | entering
  | testing
  | accepting
  | admitting
  | loopLeft
  | disconnecting
  | closingLog
  | clearingLog
  | destroyingMutex
  | closingSocket
  | destroyingList
  | exiting
  | exited
  deriving DecidableEq

/-- Where a thread of `serve_client` stands: in its loop, with the entry in the log that ends the
connection, or behind it. Behind a reply that was not sent it frees the request twice, and the
second time aborts the process.
-/
inductive ConnPhase where
  | testing
  | receiving
  | received
  | logging
  | invoking
  | replying
  | ending
  | endLogging
  | closing
  | counting
  | reporting
  | finished
  | aborted
  deriving DecidableEq

/-- How the calls of a connection thread end. -/
inductive ConnAction where
  | test
  | receive (got : Bool)
  | log (built : Bool)
  | written
  | invoked
  | reply (sent : Bool)
  | close
  | disconnected
  | counted
  deriving DecidableEq

/-- What `cleanup` tears down and connection threads use: the log with its mutex, the mutex of
the count of clients, and the list with its mutex.
-/
inductive Shared where
  | log
  | clients
  | list
  deriving DecidableEq

inductive Lifetime where
  | absent
  | live
  | gone
  deriving DecidableEq

/-- Who calls `close` for the listening socket. -/
inductive Closer where
  | handler
  | cleanup
  deriving DecidableEq

/-- Why `accept` fails: the socket is shut down or closed, a signal, or something else. -/
inductive AcceptError where
  | closed
  | interrupted
  | other
  deriving DecidableEq

/-- The process with its threads and with the handlers that are about to look at
`listening_socket_global`, to shut that socket down, and to close it.
-/
structure ServerProcess where
  main : MainStage
  running : Bool
  logSet : Bool
  globalSet : Bool
  socketSet : Bool
  listener : Lifetime
  shut : Bool
  life : Shared → Lifetime
  looking : Nat
  shutting : Nat
  closing : Nat
  closedBy : List Closer
  accepted : Nat
  threads : Nat → Option ConnPhase

inductive ProcessAction where
  | listSkelInit (created : Bool)
  | join (joined : Bool)
  | networkServerInit (bound : Bool)
  | enterLoop
  | testRunning
  | accept
  | acceptFails (error : AcceptError)
  | startThread (created : Bool)
  | leaveLoop
  | zkDisconnect
  | closeFile
  | clearLog
  | destroyMutex
  | closeSocket
  | listSkelDestroy
  | exit
  | signal
  | handlerLooks
  | handlerShuts
  | handlerCloses
  | serve (conn : Nat) (action : ConnAction)
  deriving DecidableEq

/-- A thread reads `log_fp` for its test and for the call, and the second read decides; without
memory for an entry it makes no call. `invoke` always returns 0 to it.
-/
def ConnPhase.next (running logSet : Bool) : ConnPhase → ConnAction → Option ConnPhase
  | .testing, .test => some (if running then .receiving else .ending)
  | .receiving, .receive got => some (if got then .received else .ending)
  | .received, .log built => some (if logSet && built then .logging else .invoking)
  | .logging, .written => some .invoking
  | .invoking, .invoked => some .replying
  | .replying, .reply sent => some (if sent then .testing else .aborted)
  | .ending, .log built => some (if logSet && built then .endLogging else .closing)
  | .endLogging, .written => some .closing
  | .closing, .close => some .counting
  | .counting, .disconnected => some .reporting
  | .reporting, .counted => some .finished
  | _, _ => none

namespace ServerProcess

/-- Behind `atexit(cleanup)`. -/
def initial : ServerProcess where
  main := .listInit
  running := true
  logSet := false
  globalSet := false
  socketSet := false
  listener := .absent
  shut := false
  life _ := .absent
  looking := 0
  shutting := 0
  closing := 0
  closedBy := []
  accepted := 0
  threads _ := none

def withThread (state : ServerProcess) (conn : Nat) (phase : ConnPhase) : ServerProcess :=
  { state with threads := Function.update state.threads conn (some phase) }

/-- `accept` fails for the socket's sake: it has been shut down or closed. A number that was given
out again belongs to no listening socket.
-/
def Refuses (state : ServerProcess) : Prop := state.shut = true ∨ state.listener ≠ .live

instance : DecidablePred Refuses :=
  fun state => inferInstanceAs (Decidable (state.shut = true ∨ state.listener ≠ .live))

/-- One step of a process that has not ended. What admits a connection is one step here, and so
are the calls that join the chain.
-/
def advance (state : ServerProcess) : ProcessAction → Option ServerProcess
  | .listSkelInit created =>
      if state.main = .listInit then
        if created then
          some { state with main := .joining, life := Function.update state.life .list .live }
        else some { state with main := .disconnecting }
      else
        none
  | .join joined =>
      if state.main = .joining then
        some { state with main := if joined then .binding else .disconnecting }
      else
        none
  | .networkServerInit bound =>
      if state.main = .binding then
        if bound then
          some
            {
              state with
              main := .entering
              listener := .live
              socketSet := true
              logSet := true
              life
                := Function.update (Function.update state.life .log .live) .clients .live
            }
        else some { state with main := .disconnecting }
      else
        none
  | .enterLoop =>
      if state.main = .entering then some { state with main := .testing, globalSet := true }
      else none
  | .testRunning =>
      if state.main = .testing then
        some { state with main := if state.running then .accepting else .loopLeft }
      else
        none
  | .accept =>
      if state.main = .accepting ∧ ¬state.Refuses then some { state with main := .admitting }
      else none
  | .acceptFails error =>
      if state.main = .accepting ∧ (error = .closed → state.Refuses) then
        some
          {
            state with
            main :=
              if error = .interrupted then .testing
              else if state.running then .disconnecting
              else .loopLeft
          }
      else
        none
  | .startThread created =>
      if state.main = .admitting then
        some
          {
            state with
            main := .testing
            accepted := state.accepted + 1
            threads :=
              if created then Function.update state.threads state.accepted (some .testing)
              else state.threads
          }
      else
        none
  | .leaveLoop =>
      if state.main = .loopLeft then
        some { state with main := .disconnecting, globalSet := false }
      else
        none
  | .zkDisconnect =>
      if state.main = .disconnecting then
        some { state with main := if state.socketSet then .closingLog else .destroyingList }
      else
        none
  | .closeFile =>
      if state.main = .closingLog then
        some { state with main := .clearingLog, life := Function.update state.life .log .gone }
      else
        none
  | .clearLog =>
      if state.main = .clearingLog then
        some { state with main := .destroyingMutex, logSet := false }
      else
        none
  | .destroyMutex =>
      if state.main = .destroyingMutex then
        some
          { state with main := .closingSocket, life := Function.update state.life .clients .gone }
      else
        none
  | .closeSocket =>
      if state.main = .closingSocket then
        some
          {
            state with
            main := .destroyingList
            socketSet := false
            listener := .gone
            closedBy := .cleanup :: state.closedBy
          }
      else
        none
  | .listSkelDestroy =>
      if state.main = .destroyingList then
        some
          {
            state with
            main := .exiting
            life :=
              if state.life .list = .absent then state.life
              else Function.update state.life .list .gone
          }
      else
        none
  | .exit => if state.main = .exiting then some { state with main := .exited } else none
  | .signal => some { state with running := false, looking := state.looking + 1 }
  | .handlerLooks =>
      if 0 < state.looking then
        some
          {
            state with
            looking := state.looking - 1
            shutting := if state.globalSet then state.shutting + 1 else state.shutting
          }
      else
        none
  | .handlerShuts =>
      if 0 < state.shutting then
        some
          {
            state with
            shutting := state.shutting - 1
            closing := state.closing + 1
            shut := state.shut || state.globalSet
          }
      else
        none
  | .handlerCloses =>
      if 0 < state.closing then
        some
          {
            state with
            closing := state.closing - 1
            listener := if state.globalSet then .gone else state.listener
            closedBy := if state.globalSet then .handler :: state.closedBy else state.closedBy
          }
      else
        none
  | .serve conn action =>
      match state.threads conn with
      | none => none
      | some phase =>
          (phase.next state.running state.logSet action).map (fun moved =>
            if moved = .aborted then { state.withThread conn moved with main := .exited }
            else state.withThread conn moved)

/-- One step; all threads end with the process. -/
def step (state : ServerProcess) (action : ProcessAction) : Option ServerProcess :=
  if state.main = .exited then none else state.advance action

-----------------------------------------------------------------------------------------
-- What a step can do
-----------------------------------------------------------------------------------------

/-- The steps with the states that they lead to. -/
inductive Advances (state : ServerProcess) : ProcessAction → ServerProcess → Prop
  | listCreated (main : state.main = .listInit)
    : Advances state (.listSkelInit true)
        { state with main := .joining, life := Function.update state.life .list .live }
  | listRefused (main : state.main = .listInit)
    : Advances state (.listSkelInit false) { state with main := .disconnecting }
  | join (joined : Bool) (main : state.main = .joining)
    : Advances state (.join joined)
        { state with main := if joined then .binding else .disconnecting }
  | bound (main : state.main = .binding)
    : Advances state (.networkServerInit true)
        {
          state with
          main := .entering
          listener := .live
          socketSet := true
          logSet := true
          life := Function.update (Function.update state.life .log .live) .clients .live
        }
  | unbound (main : state.main = .binding)
    : Advances state (.networkServerInit false) { state with main := .disconnecting }
  | enterLoop (main : state.main = .entering)
    : Advances state .enterLoop { state with main := .testing, globalSet := true }
  | testRunning (main : state.main = .testing)
    : Advances state .testRunning
        { state with main := if state.running then .accepting else .loopLeft }
  | accept (main : state.main = .accepting) (accepts : ¬state.Refuses)
    : Advances state .accept { state with main := .admitting }
  | acceptFails (error : AcceptError) (main : state.main = .accepting)
    (refused : error = .closed → state.Refuses)
    : Advances state (.acceptFails error)
        {
          state with
          main :=
            if error = .interrupted then .testing
            else if state.running then .disconnecting
            else .loopLeft
        }
  | startThread (created : Bool) (main : state.main = .admitting)
    : Advances state (.startThread created)
        {
          state with
          main := .testing
          accepted := state.accepted + 1
          threads :=
            if created then Function.update state.threads state.accepted (some .testing)
            else state.threads
        }
  | leaveLoop (main : state.main = .loopLeft)
    : Advances state .leaveLoop { state with main := .disconnecting, globalSet := false }
  | zkDisconnect (main : state.main = .disconnecting)
    : Advances state .zkDisconnect
        { state with main := if state.socketSet then .closingLog else .destroyingList }
  | closeFile (main : state.main = .closingLog)
    : Advances state .closeFile
        { state with main := .clearingLog, life := Function.update state.life .log .gone }
  | clearLog (main : state.main = .clearingLog)
    : Advances state .clearLog { state with main := .destroyingMutex, logSet := false }
  | destroyMutex (main : state.main = .destroyingMutex)
    : Advances state .destroyMutex
        { state with main := .closingSocket, life := Function.update state.life .clients .gone }
  | closeSocket (main : state.main = .closingSocket)
    : Advances state .closeSocket
        {
          state with
          main := .destroyingList
          socketSet := false
          listener := .gone
          closedBy := .cleanup :: state.closedBy
        }
  | listSkelDestroy (main : state.main = .destroyingList)
    : Advances state .listSkelDestroy
        {
          state with
          main := .exiting
          life :=
            if state.life .list = .absent then state.life
            else Function.update state.life .list .gone
        }
  | exit (main : state.main = .exiting) : Advances state .exit { state with main := .exited }
  | signal : Advances state .signal { state with running := false, looking := state.looking + 1 }
  | handlerLooks (looks : 0 < state.looking)
    : Advances state .handlerLooks
        {
          state with
          looking := state.looking - 1
          shutting := if state.globalSet then state.shutting + 1 else state.shutting
        }
  | handlerShuts (shuts : 0 < state.shutting)
    : Advances state .handlerShuts
        {
          state with
          shutting := state.shutting - 1
          closing := state.closing + 1
          shut := state.shut || state.globalSet
        }
  | handlerCloses (closes : 0 < state.closing)
    : Advances state .handlerCloses
        {
          state with
          closing := state.closing - 1
          listener := if state.globalSet then .gone else state.listener
          closedBy := if state.globalSet then .handler :: state.closedBy else state.closedBy
        }
  | serve (conn : Nat) (action : ConnAction) (phase phase' : ConnPhase)
    (stands : state.threads conn = some phase)
    (goesOn : phase.next state.running state.logSet action = some phase')
    (survives : phase' ≠ .aborted)
    : Advances state (.serve conn action) (state.withThread conn phase')
  | abort (conn : Nat) (action : ConnAction) (phase : ConnPhase)
    (stands : state.threads conn = some phase)
    (aborts : phase.next state.running state.logSet action = some .aborted)
    : Advances state (.serve conn action)
        { state.withThread conn .aborted with main := .exited }

variable {state after : ServerProcess} {action : ProcessAction}

theorem advances_of_step (taken : step state action = some after)
    : state.main ≠ .exited ∧ Advances state action after := by
  simp only [step, Option.ite_none_left_eq_some] at taken
  obtain ⟨runs, taken⟩ := taken
  refine ⟨runs, ?_⟩
  cases action with
  | listSkelInit created =>
      simp only [advance, Option.ite_none_right_eq_some] at taken
      obtain ⟨main, taken⟩ := taken
      cases created with
      | true =>
          cases taken
          exact .listCreated main
      | false =>
          cases taken
          exact .listRefused main
  | networkServerInit bound =>
      simp only [advance, Option.ite_none_right_eq_some] at taken
      obtain ⟨main, taken⟩ := taken
      cases bound with
      | true =>
          cases taken
          exact .bound main
      | false =>
          cases taken
          exact .unbound main
  | join | enterLoop | testRunning | startThread | leaveLoop | zkDisconnect | closeFile | clearLog
  | destroyMutex | closeSocket | listSkelDestroy | exit | handlerLooks | handlerShuts
  | handlerCloses =>
      simp only [advance, Option.ite_none_right_eq_some, Option.some.injEq] at taken
      obtain ⟨main, rfl⟩ := taken
      constructor
      exact main
  | accept =>
      simp only [advance, Option.ite_none_right_eq_some, Option.some.injEq] at taken
      obtain ⟨⟨main, accepts⟩, rfl⟩ := taken
      exact .accept main accepts
  | acceptFails error =>
      simp only [advance, Option.ite_none_right_eq_some, Option.some.injEq] at taken
      obtain ⟨⟨main, refused⟩, rfl⟩ := taken
      exact .acceptFails error main refused
  | signal =>
      cases taken
      exact .signal
  | serve conn action =>
      simp only [advance] at taken
      split at taken
      · cases taken
      · rename_i phase stands
        obtain ⟨phase', goesOn, moved⟩ := Option.map_eq_some_iff.mp taken
        split_ifs at moved with aborted
        · subst aborted moved
          exact .abort conn action phase stands goesOn
        · subst moved
          exact .serve conn action phase phase' stands goesOn aborted

-----------------------------------------------------------------------------------------
-- `main` gets to its end
-----------------------------------------------------------------------------------------

end ServerProcess

/-- The stages between the two assignments to `listening_socket_global`. -/
def MainStage.inLoop : MainStage → Bool
  | .testing | .accepting | .admitting | .loopLeft => true
  | _ => false

/-- The steps that `main` has left to make once it is to stop. -/
def MainStage.stepsLeft : MainStage → Nat
  | .listInit => 15
  | .joining => 14
  | .binding => 13
  | .entering => 12
  | .accepting => 11
  | .admitting => 10
  | .testing => 9
  | .loopLeft => 8
  | .disconnecting => 7
  | .closingLog => 6
  | .clearingLog => 5
  | .destroyingMutex => 4
  | .closingSocket => 3
  | .destroyingList => 2
  | .exiting => 1
  | .exited => 0

/-- A step of `main`. -/
def ProcessAction.isMain : ProcessAction → Bool
  | .signal | .handlerLooks | .handlerShuts | .handlerCloses | .serve _ _ => false
  | _ => true

/-- A step of `main` that waits neither for a client nor for an error that may not come. -/
def ProcessAction.isOwn : ProcessAction → Bool
  | .accept | .acceptFails .interrupted | .acceptFails .other => false
  | action => action.isMain

namespace ServerProcess

variable {state after : ServerProcess} {action : ProcessAction}

/-- A handler has cleared `server_running`. -/
def Stopping (state : ServerProcess) : Prop := state.running = false

/-- What holds of every reachable state. `main` sets the socket for the handlers before it tests
whether to run, and they clear the one before they look at the other, so that one of the two
sees what the other has done.
-/
structure Told (state : ServerProcess) : Prop where
  inLoop : state.main.inLoop = true → state.globalSet = true
  accepting
    : state.main = .accepting
      → state.Stopping
      → state.Refuses ∨ 0 < state.looking ∨ 0 < state.shutting

theorem told_initial : Told initial := by
  constructor <;> simp [initial, MainStage.inLoop]

/-- Every step keeps it. -/
theorem told_step (told : state.Told) (advances : Advances state action after) : after.Told := by
  obtain ⟨inLoop, accepting⟩ := told
  cases advances with
  | listCreated | listRefused | bound | unbound | leaveLoop | closeFile | clearLog | destroyMutex
  | closeSocket | listSkelDestroy | exit | abort =>
      exact ⟨by simp [MainStage.inLoop], by simp⟩
  | join joined => cases joined <;> exact ⟨by simp [MainStage.inLoop], by simp⟩
  | enterLoop => exact ⟨fun _ => rfl, by simp⟩
  | testRunning main =>
      have set := inLoop (by rw [main]; rfl)
      refine ⟨fun _ => set, fun accepts stopped => ?_⟩
      have halted : state.running = false := stopped
      simp [halted] at accepts
  | accept main | startThread created main =>
      have set := inLoop (by rw [main]; rfl)
      exact ⟨fun _ => set, by simp⟩
  | acceptFails error main refused =>
      have set := inLoop (by rw [main]; rfl)
      refine ⟨fun _ => set, fun accepts => ?_⟩
      split_ifs at accepts
  | zkDisconnect main => split_ifs <;> exact ⟨by simp [MainStage.inLoop], by simp⟩
  | signal => exact ⟨inLoop, fun _ _ => .inr (.inl (Nat.succ_pos _))⟩
  | handlerLooks looks =>
      refine ⟨inLoop, fun accepts stopped => ?_⟩
      have set := inLoop (by rw [show state.main = .accepting from accepts]; rfl)
      exact .inr (.inr (by simp [set]))
  | handlerShuts shuts =>
      refine ⟨inLoop, fun accepts stopped => ?_⟩
      have set := inLoop (by rw [show state.main = .accepting from accepts]; rfl)
      exact .inl (.inl (by simp [set]))
  | handlerCloses closes =>
      refine ⟨inLoop, fun accepts stopped => ?_⟩
      rcases accepting accepts stopped with (shut | gone) | handling
      · exact .inl (.inl shut)
      · exact .inl (.inr (by split_ifs <;> simp [gone]))
      · exact .inr handling
  | serve => exact ⟨inLoop, accepting⟩

/-- `server_running` is never set again. -/
theorem stopping_step (stopped : state.Stopping) (advances : Advances state action after)
    : after.Stopping := by
  cases advances <;> first | exact stopped | rfl

/-- Once it is to stop, every step of `main` brings it nearer to its end. -/
theorem stepsLeft_step (stopped : state.Stopping) (advances : Advances state action after)
    : after.main.stepsLeft + (if action.isMain then 1 else 0) ≤ state.main.stepsLeft := by
  cases advances with
  | signal | handlerLooks | handlerShuts | handlerCloses | serve => exact Nat.le_refl _
  | abort => exact Nat.zero_le _
  | join joined main => cases joined <;> simp [main, MainStage.stepsLeft, ProcessAction.isMain]
  | testRunning main =>
      have halted : state.running = false := stopped
      simp [main, halted, MainStage.stepsLeft, ProcessAction.isMain]
  | acceptFails error main =>
      have halted : state.running = false := stopped
      cases error <;> simp [main, halted, MainStage.stepsLeft, ProcessAction.isMain]
  | zkDisconnect main =>
      cases state.socketSet <;> simp [main, MainStage.stepsLeft, ProcessAction.isMain]
  | listCreated main | listRefused main | bound main | unbound main | enterLoop main | accept main
  | startThread _ main | leaveLoop main | closeFile main | clearLog main | destroyMutex main
  | closeSocket main | listSkelDestroy main | exit main =>
      simp [main, MainStage.stepsLeft, ProcessAction.isMain]

/-- `main` waits in `accept` alone. -/
theorem own_continues (lives : state.main ≠ .exited)
    (waits : state.main = .accepting → state.Refuses)
    : ∃ action, action.isOwn = true ∧ (step state action).isSome := by
  cases main : state.main with
  | exited => exact absurd main lives
  | accepting =>
      exact ⟨.acceptFails .closed, rfl, by simp [step, advance, main, waits main]⟩
  | listInit => exact ⟨.listSkelInit true, rfl, by simp [step, advance, main]⟩
  | joining => exact ⟨.join true, rfl, by simp [step, advance, main]⟩
  | binding => exact ⟨.networkServerInit true, rfl, by simp [step, advance, main]⟩
  | entering => exact ⟨.enterLoop, rfl, by simp [step, advance, main]⟩
  | testing => exact ⟨.testRunning, rfl, by simp [step, advance, main]⟩
  | admitting => exact ⟨.startThread true, rfl, by simp [step, advance, main]⟩
  | loopLeft => exact ⟨.leaveLoop, rfl, by simp [step, advance, main]⟩
  | disconnecting => exact ⟨.zkDisconnect, rfl, by simp [step, advance, main]⟩
  | closingLog => exact ⟨.closeFile, rfl, by simp [step, advance, main]⟩
  | clearingLog => exact ⟨.clearLog, rfl, by simp [step, advance, main]⟩
  | destroyingMutex => exact ⟨.destroyMutex, rfl, by simp [step, advance, main]⟩
  | closingSocket => exact ⟨.closeSocket, rfl, by simp [step, advance, main]⟩
  | destroyingList => exact ⟨.listSkelDestroy, rfl, by simp [step, advance, main]⟩
  | exiting => exact ⟨.exit, rfl, by simp [step, advance, main]⟩

/-- No shutdown is lost: from the moment on at which a handler has cleared `server_running`,
wherever `main` was then, it makes at most the steps that are left to its end, and once no handler
is about to shut the socket down it waits for nothing before it gets there. A process that is
aborted is at its end.
-/
theorem stops {actions : List ProcessAction} {later : ServerProcess}
    (reached : Reaches step (fun _ _ => True) initial state) (stopped : state.Stopping)
    (run : Runs step (fun _ _ => True) state actions later)
    : actions.countP ProcessAction.isMain + later.main.stepsLeft ≤ state.main.stepsLeft
      ∧ (
        later.looking = 0
        → later.shutting = 0
        → later.main ≠ .exited
        → ∃ action, action.isOwn = true ∧ (step later action).isSome
      ) := by
  have told : later.Told :=
    (reached.trans run.reaches).invariant told_initial
      (fun _ _ _ before _ taken => told_step before (advances_of_step taken).2)
  have preserved
      : ∀ (state : ServerProcess) action after,
          state.Stopping
          → True
          → step state action = some after
          → after.Stopping :=
    fun _ _ _ before _ taken => stopping_step before (advances_of_step taken).2
  have pays
      : ∀ (state : ServerProcess) action after,
          state.Stopping
          → True
          → step state action = some after
          → after.main.stepsLeft + (if action.isMain then 1 else 0)
            ≤ state.main.stepsLeft + (if (fun _ => false) action then 0 else 0) :=
    fun _ _ _ before _ taken => stepsLeft_step before (advances_of_step taken).2
  refine ⟨?_, fun looked shut lives => ?_⟩
  · have spent := run.spends stopped preserved pays
    omega
  · have halted : later.Stopping := run.reaches.invariant stopped preserved
    refine own_continues lives (fun accepts => ?_)
    rcases told.accepting accepts halted with refuses | looking | shutting
    · exact refuses
    · omega
    · omega

/-- A server that waits in `accept`. -/
def startedServer : List ProcessAction :=
  [.listSkelInit true, .join true, .networkServerInit true, .enterLoop, .testRunning]

theorem stops_accepting
    : ∃ later : ServerProcess,
        later.main = .accepting ∧ ∃ action, action.isOwn = true ∧ (step later action).isSome := by
  have reached : Reaches step (fun _ _ => True) initial _ :=
    reaches_of_replay (startedServer ++ [.signal]) rfl
  obtain ⟨-, continues⟩ :=
    stops reached rfl
      (runs_of_replay
        (show replay step (fun _ _ => True) _ [.handlerLooks, .handlerShuts] = some _ from rfl))
  exact ⟨_, rfl, continues rfl rfl (by decide)⟩

end ServerProcess

end CarChain
