import CarChain.Library.StepSystem
import CarChain.Model.CarList

/-! The count of active clients (`network_server.c`).

One loop accepts connections and compares the count with its limit; one thread for each
accepted connection serves it and gives its place back. A step is one section under the mutex
or one call that may fail; the log entries between them touch no count. Connections are
numbered in the order they are accepted.
-/

namespace CarChain

open StepSystem

/-- `MAX_CLIENTS`. -/
def maxClients : Int32 := 5

/-- Where `network_main_loop` stands with the connection that it accepted last. -/
inductive AcceptPhase where
  | accepting
  | checking (conn : Nat)
  | rejecting (conn : Nat)
  | greeting (conn : Nat)
  | counting (conn : Nat)
  | building (conn : Nat)
  | starting (conn : Nat)
  | undoing (conn : Nat)
  | stopped
  deriving DecidableEq

/-- Where a thread of `serve_client` stands: in its loop, behind `close`, behind
`client_disconnected`, or at its end.
-/
inductive ServePhase where
  | serving
  | closed
  | reporting
  | finished
  deriving DecidableEq

/-- The server with its threads. The calls of `client_connected` and of `client_disconnected`
are remembered by the connection they are made for, the latest first.
-/
structure SlotState where
  loop : AcceptPhase
  clientCount : Int32
  accepted : Nat
  threads : Nat → Option ServePhase
  connected : List Nat
  disconnected : List Nat

inductive SlotAction where
  | accept
  | acceptFails (again : Bool)
  | checkCount
  | sendBusy
  | sendReady (sent : Bool)
  | clientConnected
  | initParams (allocated : Bool)
  | pthreadCreate (created : Bool)
  | undo
  | serveEnds (conn : Nat)
  | clientDisconnected (conn : Nat)
  | getClientCount (conn : Nat)
  deriving DecidableEq

namespace SlotState

def initial : SlotState where
  loop := .accepting
  clientCount := 0
  accepted := 0
  threads _ := none
  connected := []
  disconnected := []

def withThread (state : SlotState) (conn : Nat) (phase : ServePhase) : SlotState :=
  { state with threads := Function.update state.threads conn (some phase) }

/-- `client_disconnected` for a connection. -/
def release (state : SlotState) (conn : Nat) : SlotState :=
  {
    state with
    clientCount := state.clientCount - 1
    disconnected := conn :: state.disconnected
  }

/-- One step. How a call ends comes with the action; an `accept` that fails is repeated or
stops the loop, and whether a rejection is sent makes no difference. A process that aborts over a
reply has no count any more and takes no further step.
-/
def step (state : SlotState) : SlotAction → Option SlotState
  | .accept =>
      match state.loop with
      | .accepting =>
          some { state with loop := .checking state.accepted, accepted := state.accepted + 1 }
      | _ => none
  | .acceptFails again =>
      match state.loop with
      | .accepting => some { state with loop := if again then .accepting else .stopped }
      | _ => none
  | .checkCount =>
      match state.loop with
      | .checking conn =>
          some
            {
              state with
              loop := if maxClients ≤ state.clientCount then .rejecting conn else .greeting conn
            }
      | _ => none
  | .sendBusy =>
      match state.loop with
      | .rejecting _ => some { state with loop := .accepting }
      | _ => none
  | .sendReady sent =>
      match state.loop with
      | .greeting conn => some { state with loop := if sent then .counting conn else .accepting }
      | _ => none
  | .clientConnected =>
      match state.loop with
      | .counting conn =>
          some
            {
              state with
              loop := .building conn
              clientCount := state.clientCount + 1
              connected := conn :: state.connected
            }
      | _ => none
  | .initParams allocated =>
      match state.loop with
      | .building conn =>
          some { state with loop := if allocated then .starting conn else .undoing conn }
      | _ => none
  | .pthreadCreate created =>
      match state.loop with
      | .starting conn =>
          if created then some { state.withThread conn .serving with loop := .accepting }
          else some { state with loop := .undoing conn }
      | _ => none
  | .undo =>
      match state.loop with
      | .undoing conn => some { state.release conn with loop := .accepting }
      | _ => none
  | .serveEnds conn =>
      match state.threads conn with
      | some .serving => some (state.withThread conn .closed)
      | _ => none
  | .clientDisconnected conn =>
      match state.threads conn with
      | some .closed => some ((state.release conn).withThread conn .reporting)
      | _ => none
  | .getClientCount conn =>
      match state.threads conn with
      | some .reporting => some (state.withThread conn .finished)
      | _ => none

-----------------------------------------------------------------------------------------
-- What a slot is
-----------------------------------------------------------------------------------------

/-- The connections whose `client_connected` has run and whose `client_disconnected` has not. -/
def openSlots (state : SlotState) : List Nat :=
  state.connected.filter (fun conn => conn ∉ state.disconnected)

end SlotState

/-- The connection that the loop has counted and not yet handed to a thread or given back. -/
def AcceptPhase.slot : AcceptPhase → Option Nat
  | .building conn => some conn
  | .starting conn => some conn
  | .undoing conn => some conn
  | _ => none

/-- The connection that the loop has accepted and not counted. -/
def AcceptPhase.waiting : AcceptPhase → Option Nat
  | .checking conn => some conn
  | .rejecting conn => some conn
  | .greeting conn => some conn
  | .counting conn => some conn
  | _ => none

/-- The loop has found the count below its limit and goes on to raise it. -/
def AcceptPhase.admitted : AcceptPhase → Bool
  | .greeting _ => true
  | .counting _ => true
  | _ => false

/-- The thread still has to call `client_disconnected`. -/
def ServePhase.occupies : ServePhase → Bool
  | .serving => true
  | .closed => true
  | .reporting => false
  | .finished => false

namespace SlotState

/-- The loop or a thread is on its way to give the place of the connection back. -/
def Occupied (state : SlotState) (conn : Nat) : Prop :=
  state.loop.slot = some conn ∨ ∃ phase, state.threads conn = some phase ∧ phase.occupies = true

/-- Places are counted exactly: no connection gives its place back twice or without having
taken one, and one that has not given it back is still on its way to.
-/
structure SlotsExact (state : SlotState) : Prop where
  count : state.clientCount.toInt = state.openSlots.length
  takenOnce : state.connected.Nodup
  givenBackOnce : state.disconnected.Nodup
  matched : ∀ conn ∈ state.disconnected, conn ∈ state.connected
  pending : ∀ conn ∈ state.openSlots, state.Occupied conn
  nonnegative : 0 ≤ state.clientCount
  within : state.clientCount ≤ maxClients

-----------------------------------------------------------------------------------------
-- The invariant
-----------------------------------------------------------------------------------------

/-- What holds of every reachable state. That the loop is the only one to raise the count makes
the limit it has compared with hold until it does.
-/
structure Inv (state : SlotState) : Prop where
  count : state.clientCount.toInt = state.openSlots.length
  takenOnce : state.connected.Nodup
  givenBackOnce : state.disconnected.Nodup
  matched : ∀ conn ∈ state.disconnected, conn ∈ state.connected
  occupied : ∀ conn, state.Occupied conn ↔ conn ∈ state.openSlots
  alone : ∀ conn, state.loop.slot = some conn → state.threads conn = none
  threaded : ∀ conn, state.threads conn ≠ none → conn ∈ state.connected
  numbered : ∀ conn ∈ state.connected, conn < state.accepted
  waiting
    : ∀ conn, state.loop.waiting = some conn → conn < state.accepted ∧ conn ∉ state.connected
  within : state.clientCount.toInt ≤ 5
  room : state.loop.admitted = true → state.clientCount.toInt < 5

section

variable {state after : SlotState} {conn : Nat}

theorem mem_openSlots
    : conn ∈ state.openSlots ↔ conn ∈ state.connected ∧ conn ∉ state.disconnected := by
  simp [openSlots]

@[simp]
theorem threads_withThread_self {phase : ServePhase}
    : (state.withThread conn phase).threads conn = some phase :=
  Function.update_self ..

theorem threads_withThread_of_ne {other : Nat} {phase : ServePhase} (h : other ≠ conn)
    : (state.withThread conn phase).threads other = state.threads other :=
  Function.update_of_ne h ..

theorem inv_initial : Inv initial := by
  constructor <;> simp [initial, openSlots, Occupied, AcceptPhase.slot, AcceptPhase.waiting,
    AcceptPhase.admitted]

/-- The loop moves on with the connection that it holds, or with none. -/
theorem inv_withLoop (inv : Inv state) {loop : AcceptPhase} (slot : loop.slot = state.loop.slot)
    (waiting
      : ∀ conn, loop.waiting = some conn → conn < state.accepted ∧ conn ∉ state.connected)
    (room : loop.admitted = true → state.clientCount.toInt < 5)
    : Inv { state with loop } where
  count := inv.count
  takenOnce := inv.takenOnce
  givenBackOnce := inv.givenBackOnce
  matched := inv.matched
  occupied conn := by
    rw [Occupied, slot]
    exact inv.occupied conn
  alone conn held := inv.alone conn (slot.symm.trans held)
  threaded := inv.threaded
  numbered := inv.numbered
  waiting := waiting
  within := inv.within
  room := room

theorem inv_accept (inv : Inv state) (taken : step state .accept = some after) : Inv after := by
  simp only [step] at taken
  split at taken
  · rename_i here
    cases taken
    have fresh : state.accepted ∉ state.connected :=
      fun member => Nat.lt_irrefl _ (inv.numbered _ member)
    have counted : Inv { state with accepted := state.accepted + 1 } := {
      inv with
      numbered := fun conn member => Nat.lt_succ_of_lt (inv.numbered conn member)
      waiting := fun conn held => by simp [here, AcceptPhase.waiting] at held
    }
    refine inv_withLoop counted (by rw [here]; rfl) (fun conn held => ?_) (fun h => by cases h)
    cases held
    exact ⟨Nat.lt_succ_self _, fresh⟩
  · cases taken

theorem inv_acceptFails {again : Bool} (inv : Inv state)
    (taken : step state (.acceptFails again) = some after)
    : Inv after := by
  simp only [step] at taken
  split at taken
  · rename_i here
    cases taken
    cases again <;>
      exact inv_withLoop inv (by rw [here]; rfl) (fun conn held => by cases held)
        (fun h => by cases h)
  · cases taken

/-- The count is compared with its limit. -/
theorem inv_checkCount (inv : Inv state) (taken : step state .checkCount = some after)
    : Inv after := by
  simp only [step] at taken
  split at taken
  · rename_i conn here
    cases taken
    have free := inv.waiting conn (by rw [here]; rfl)
    split
    · exact inv_withLoop inv (by rw [here]; rfl) (fun conn held => by cases held; exact free)
        (fun h => by cases h)
    · rename_i below
      refine inv_withLoop inv (by rw [here]; rfl) (fun conn held => by cases held; exact free) ?_
      intro _
      rw [Int32.le_iff_toInt_le] at below
      exact Int.not_le.mp below
  · cases taken

theorem inv_sendBusy (inv : Inv state) (taken : step state .sendBusy = some after)
    : Inv after := by
  simp only [step] at taken
  split at taken
  · rename_i conn here
    cases taken
    exact inv_withLoop inv (by rw [here]; rfl) (fun conn held => by cases held)
      (fun h => by cases h)
  · cases taken

theorem inv_sendReady {sent : Bool} (inv : Inv state)
    (taken : step state (.sendReady sent) = some after)
    : Inv after := by
  simp only [step] at taken
  split at taken
  · rename_i conn here
    cases taken
    have free := inv.waiting conn (by rw [here]; rfl)
    have room := inv.room (by rw [here]; rfl)
    cases sent
    · exact inv_withLoop inv (by rw [here]; rfl) (fun conn held => by cases held)
        (fun h => by cases h)
    · exact inv_withLoop inv (by rw [here]; rfl) (fun conn held => by cases held; exact free)
        (fun _ => room)
  · cases taken

theorem inv_initParams {allocated : Bool} (inv : Inv state)
    (taken : step state (.initParams allocated) = some after)
    : Inv after := by
  simp only [step] at taken
  split at taken
  · rename_i conn here
    cases taken
    cases allocated <;>
      exact inv_withLoop inv (by rw [here]; rfl) (fun conn held => by cases held)
        (fun h => by cases h)
  · cases taken

/-- A connection that is counted for the first time has an open place. -/
theorem openSlots_connect (unreturned : conn ∉ state.disconnected) (loop : AcceptPhase)
    (clientCount : Int32)
    : openSlots { state with loop, clientCount, connected := conn :: state.connected }
      = conn :: state.openSlots :=
  List.filter_cons_of_pos (by simpa using unreturned)

/-- Below its limit the count does not overflow when it is raised. -/
theorem Inv.toInt_raised (inv : Inv state) (room : state.clientCount.toInt < 5)
    : (state.clientCount + 1).toInt = (state.openSlots.length + 1 : Nat) := by
  refine toInt_add_one inv.count ?_
  have counted := inv.count
  unfold intMax
  omega

/-- The loop takes a place for a connection that has none; there was room for it. -/
theorem inv_clientConnected (inv : Inv state) (taken : step state .clientConnected = some after)
    : Inv after := by
  simp only [step] at taken
  split at taken
  · rename_i conn here
    cases taken
    obtain ⟨accepted, fresh⟩ := inv.waiting conn (by rw [here]; rfl)
    have room := inv.room (by rw [here]; rfl)
    have unreturned : conn ∉ state.disconnected := fun member => fresh (inv.matched conn member)
    have noThread : state.threads conn = none := by
      by_contra running
      exact fresh (inv.threaded conn running)
    have opened := openSlots_connect unreturned (.building conn) (state.clientCount + 1)
    have raised := inv.toInt_raised room
    exact {
      count := by rw [opened]; exact raised
      takenOnce := List.nodup_cons.mpr ⟨fresh, inv.takenOnce⟩
      givenBackOnce := inv.givenBackOnce
      matched := fun other member => List.mem_cons_of_mem _ (inv.matched other member)
      occupied := fun other => by
        rw [opened, List.mem_cons, ← inv.occupied other]
        simp only [Occupied, here, AcceptPhase.slot, Option.some.injEq, reduceCtorEq, false_or]
        exact or_congr_left eq_comm
      alone := fun other held => by cases held; exact noThread
      threaded := fun other running => List.mem_cons_of_mem _ (inv.threaded other running)
      numbered := fun other member => by
        rcases List.mem_cons.mp member with rfl | before
        · exact accepted
        · exact inv.numbered other before
      waiting := fun other held => by cases held
      within := by
        have counted := inv.count
        show (state.clientCount + 1).toInt ≤ 5
        omega
      room := fun h => by cases h
    }
  · cases taken

/-- A thread takes over the place that the loop holds. -/
theorem inv_pthreadCreate {created : Bool} (inv : Inv state)
    (taken : step state (.pthreadCreate created) = some after)
    : Inv after := by
  simp only [step] at taken
  split at taken
  · rename_i conn here
    have place : conn ∈ state.openSlots := (inv.occupied conn).mp (.inl (by rw [here]; rfl))
    cases created with
    | false =>
        cases taken
        exact inv_withLoop inv (by rw [here]; rfl) (fun other held => by cases held)
          (fun h => by cases h)
    | true =>
        cases taken
        exact {
          inv with
          occupied := fun other => by
            by_cases same : other = conn
            · subst same
              exact iff_of_true (.inr ⟨.serving, threads_withThread_self, rfl⟩) place
            · refine Iff.trans ?_ (inv.occupied other)
              simp [Occupied, here, AcceptPhase.slot, threads_withThread_of_ne same, Ne.symm same]
          alone := fun other held => by cases held
          threaded := fun other running => by
            by_cases same : other = conn
            · subst same
              exact (mem_openSlots.mp place).1
            · rw [threads_withThread_of_ne same] at running
              exact inv.threaded other running
          waiting := fun other held => by cases held
          room := fun h => by cases h
        }
  · cases taken

/-- A place that is given back is no longer open. -/
theorem openSlots_release (inv : Inv state)
    : (state.release conn).openSlots = state.openSlots.erase conn := by
  have once : state.openSlots.Nodup := inv.takenOnce.filter _
  rw [once.erase_eq_filter, openSlots, openSlots, List.filter_filter]
  refine List.filter_congr (fun other _ => ?_)
  rw [Bool.eq_iff_iff]
  simp [release]

/-- The loop or a thread gives its place back and goes on without it. -/
theorem inv_release (inv : Inv state) (place : conn ∈ state.openSlots) {loop : AcceptPhase}
    {threads : Nat → Option ServePhase}
    (occupied
      : ∀ other,
          Occupied { state.release conn with loop, threads } other
          ↔ state.Occupied other ∧ other ≠ conn)
    (alone : ∀ other, loop.slot = some other → threads other = none)
    (threaded : ∀ other, threads other ≠ none → other ∈ state.connected)
    (waiting : ∀ other, loop.waiting = some other → state.loop.waiting = some other)
    : Inv { state.release conn with loop, threads } := by
  obtain ⟨taken, unreturned⟩ := mem_openSlots.mp place
  have counted := inv.count
  have fewer := List.length_erase_of_mem place
  have positive := List.length_pos_of_mem place
  have remain : (state.release conn).openSlots = state.openSlots.erase conn :=
    openSlots_release inv
  have lowered : (state.clientCount - 1).toInt = (state.openSlots.erase conn).length := by
    refine toInt_sub_one (counted.trans ?_)
    rw [fewer]
    omega
  have before := inv.within
  exact {
    count := lowered.trans (by rw [← remain]; rfl)
    takenOnce := inv.takenOnce
    givenBackOnce := List.nodup_cons.mpr ⟨unreturned, inv.givenBackOnce⟩
    matched := fun other member => by
      rcases List.mem_cons.mp member with rfl | before
      · exact taken
      · exact inv.matched other before
    occupied := fun other => by
      refine (occupied other).trans ?_
      rw [inv.occupied other, mem_openSlots, mem_openSlots]
      simp only [release, List.mem_cons, not_or]
      exact ⟨fun h => ⟨h.1.1, h.2, h.1.2⟩, fun h => ⟨⟨h.1, h.2.2⟩, h.2.1⟩⟩
    alone := alone
    threaded := threaded
    numbered := inv.numbered
    waiting := fun other held => inv.waiting other (waiting other held)
    within := by
      show (state.clientCount - 1).toInt ≤ 5
      omega
    room := fun _ => by
      show (state.clientCount - 1).toInt < 5
      omega
  }

theorem inv_undo (inv : Inv state) (taken : step state .undo = some after) : Inv after := by
  simp only [step] at taken
  split at taken
  · rename_i conn here
    cases taken
    have held : state.loop.slot = some conn := by rw [here]; rfl
    have noThread := inv.alone conn held
    refine inv_release inv ((inv.occupied conn).mp (.inl held)) (fun other => ?_)
      (fun other held => by cases held) inv.threaded (fun other held => by cases held)
    by_cases same : other = conn
    · subst same
      simp [Occupied, AcceptPhase.slot, release, noThread]
    · simp [Occupied, AcceptPhase.slot, release, here, same, Ne.symm same]
  · cases taken

/-- A thread that does not give its place back keeps what it occupies. -/
theorem inv_withThread (inv : Inv state) {old new : ServePhase}
    (running : state.threads conn = some old) (same : new.occupies = old.occupies)
    : Inv (state.withThread conn new) := by
  have unowned : state.loop.slot ≠ some conn := by
    intro held
    exact absurd (running.symm.trans (inv.alone conn held)) (by simp)
  exact {
    inv with
    occupied := fun other => by
      refine Iff.trans ?_ (inv.occupied other)
      by_cases here : other = conn
      · subst here
        simp [Occupied, running, same]
        rfl
      · simp [Occupied, threads_withThread_of_ne here]
        rfl
    alone := fun other held => by
      have differ : other ≠ conn := fun here => unowned (here ▸ held)
      rw [threads_withThread_of_ne differ]
      exact inv.alone other held
    threaded := fun other started => by
      by_cases here : other = conn
      · subst here
        exact inv.threaded other (by simp [running])
      · rw [threads_withThread_of_ne here] at started
        exact inv.threaded other started
  }

theorem inv_serveEnds (inv : Inv state) (taken : step state (.serveEnds conn) = some after)
    : Inv after := by
  simp only [step] at taken
  split at taken
  · rename_i running
    cases taken
    exact inv_withThread inv running rfl
  · cases taken

theorem inv_getClientCount (inv : Inv state)
    (taken : step state (.getClientCount conn) = some after)
    : Inv after := by
  simp only [step] at taken
  split at taken
  · rename_i running
    cases taken
    exact inv_withThread inv running rfl
  · cases taken

/-- A thread gives its place back; the loop holds another connection, if any. -/
theorem inv_clientDisconnected (inv : Inv state)
    (taken : step state (.clientDisconnected conn) = some after)
    : Inv after := by
  simp only [step] at taken
  split at taken
  · rename_i running
    cases taken
    have unowned : state.loop.slot ≠ some conn := by
      intro held
      exact absurd (running.symm.trans (inv.alone conn held)) (by simp)
    have place := (inv.occupied conn).mp (.inr ⟨.closed, running, rfl⟩)
    show Inv {
      state.release conn with
      loop := state.loop
      threads := Function.update state.threads conn (some .reporting)
    }
    refine inv_release inv place (fun other => ?_) (fun other held => ?_) (fun other started => ?_)
      (fun other held => held)
    · by_cases here : other = conn
      · subst here
        simp [Occupied, unowned, ServePhase.occupies]
      · simp [Occupied, here]
    · have differ : other ≠ conn := fun here => unowned (here ▸ held)
      rw [Function.update_of_ne differ]
      exact inv.alone other held
    · by_cases here : other = conn
      · subst here
        exact (mem_openSlots.mp place).1
      · rw [Function.update_of_ne here] at started
        exact inv.threaded other started
  · cases taken

/-- Every step keeps the invariant. -/
theorem inv_step {action : SlotAction} (inv : Inv state) (taken : step state action = some after)
    : Inv after := by
  cases action with
  | accept => exact inv_accept inv taken
  | acceptFails again => exact inv_acceptFails inv taken
  | checkCount => exact inv_checkCount inv taken
  | sendBusy => exact inv_sendBusy inv taken
  | sendReady sent => exact inv_sendReady inv taken
  | clientConnected => exact inv_clientConnected inv taken
  | initParams allocated => exact inv_initParams inv taken
  | pthreadCreate created => exact inv_pthreadCreate inv taken
  | undo => exact inv_undo inv taken
  | serveEnds conn => exact inv_serveEnds inv taken
  | clientDisconnected conn => exact inv_clientDisconnected inv taken
  | getClientCount conn => exact inv_getClientCount inv taken

theorem Inv.exact (inv : Inv state) : SlotsExact state where
  count := inv.count
  takenOnce := inv.takenOnce
  givenBackOnce := inv.givenBackOnce
  matched := inv.matched
  pending conn place := (inv.occupied conn).mpr place
  nonnegative := by
    rw [Int32.le_iff_toInt_le, inv.count]
    exact Int.natCast_nonneg _
  within := by
    rw [Int32.le_iff_toInt_le]
    exact inv.within

/-- In every interleaving of the loop with the threads the places are counted exactly. -/
theorem slots_exact (run : Reaches step (fun _ _ => True) initial state) : SlotsExact state :=
  (run.invariant inv_initial (fun _ _ _ inv _ taken => inv_step inv taken)).exact

end

/-- The loop admits a client and starts its thread. -/
def welcome : List SlotAction :=
  [.accept, .checkCount, .sendReady true, .clientConnected, .initParams true, .pthreadCreate true]

/-- The thread of the second client cannot be created; while the loop takes that back the first
client ends. Five clients are admitted then, and the one after them is rejected.
-/
def crowded : List SlotAction :=
  welcome
    ++ [.accept, .checkCount, .sendReady true, .clientConnected, .initParams true]
    ++ [.serveEnds 0, .pthreadCreate false, .clientDisconnected 0, .undo, .getClientCount 0]
    ++ welcome ++ welcome ++ welcome ++ welcome ++ welcome
    ++ [.accept, .checkCount]

theorem replay_crowded
    : ∃ state,
        replay step (fun _ _ => True) initial crowded = some state
        ∧ state.clientCount = 5
        ∧ state.loop = .rejecting 7
        ∧ state.disconnected = [1, 0] :=
  ⟨_, rfl, rfl, rfl, rfl⟩

theorem slots_exact_crowded
    : ∃ state,
        state.clientCount = 5
        ∧ state.loop = .rejecting 7
        ∧ state.disconnected = [1, 0]
        ∧ SlotsExact state := by
  obtain ⟨state, run, count, loop, disconnected⟩ := replay_crowded
  exact ⟨state, count, loop, disconnected, slots_exact (reaches_of_replay _ run)⟩

end SlotState

end CarChain
