import Mathlib.Data.Fintype.Basic
import CarChain.Library.Ownership
import CarChain.Library.StepSystem
import CarChain.Membership.Watches
import CarChain.Model.Forward

/-! Who may still use a connection to the successor when it is closed.

A request thread in `zk_forward` reads the connection under the mutex and uses it afterwards.
A call of `zk_update_chain_internal` swaps the connection under the mutex and closes the old
one afterwards. Nothing makes the second wait for the first.

A step is one section under the mutex or one call on a connection. Connections are numbered by
the calls that open them. The mutex of the list, which lets one request at a time
into `zk_forward`, is left out; it only makes fewer runs possible.
-/

namespace CarChain

open StepSystem

/-- Where a thread in `zk_forward` stands: before it reads the connection, or between that and
the end of its exchange. A missing reply faults.
-/
inductive ForwardPhase where
  | attempt (msg : MessageT) (number : Nat)
  | holding (msg : MessageT) (number : Nat) (successor : Nat)
  | faulted

/-- Where a call of `zk_update_chain_internal` stands after it has opened its connection:
before it stores its view, or between that and the clean-up.
-/
inductive UpdatePhase where
  | connected (view : ChainView Nat)
  | published (old new : Option Nat)

/-- The connection that only the call itself will store or close. -/
def UpdatePhase.carried : UpdatePhase → Option Nat
  | .connected view => view.successor
  | .published old _ => old

/-- A server with its threads; `forward` and `update` are none outside of the two functions. -/
structure LinkState (Thread : Type) where
  view : ChainView Nat
  calls : Nat
  closed : List Nat
  forward : Thread → Option ForwardPhase
  update : Caller → Option UpdatePhase

inductive LinkAction (Thread : Type) where
  | forward (thread : Thread) (msg : MessageT)
  | read (thread : Thread)
  | exchange (thread : Thread) (reply : Option MessageT)
  | connect (caller : Caller) (nodeIndex chainSize : Int) (succeeds : Bool)
  | publish (caller : Caller)
  | cleanup (caller : Caller) (closes : Bool)

namespace LinkState

variable {Thread : Type}

/-- The state that `zk_connect` leaves. -/
def initial : LinkState Thread where
  view := ⟨none, -1, 0⟩
  calls := 0
  closed := []
  forward _ := none
  update _ := none

-----------------------------------------------------------------------------------------
-- The place of each connection
-----------------------------------------------------------------------------------------

inductive LinkPlace where
  | stored
  | update (caller : Caller)
  | closed
  deriving DecidableEq

/-- The connection is stored for `zk_forward`, in the hands of a call, or freed. -/
def At (state : LinkState Thread) : LinkPlace → Nat → Prop
  | .stored, conn => state.view.successor = some conn
  | .update caller, conn => ∃ phase, state.update caller = some phase ∧ phase.carried = some conn
  | .closed, conn => conn ∈ state.closed

/-- The connection that a thread has read and not finished its exchange on. -/
def held (state : LinkState Thread) (thread : Thread) : Option Nat :=
  match state.forward thread with
  | some (.holding _ _ conn) => some conn
  | _ => none

theorem forward_of_held {state : LinkState Thread} {thread : Thread} {conn : Nat}
    (holds : state.held thread = some conn)
    : ∃ msg number, state.forward thread = some (.holding msg number conn) := by
  unfold held at holds
  split at holds
  · rename_i msg number same forward
    cases holds
    exact ⟨msg, number, forward⟩
  · cases holds

/-- What holds of every state reached while only connections that nobody holds are freed. -/
structure Inv (state : LinkState Thread) : Prop where
  exclusive : Relator.LeftUnique state.At
  numbered : ∀ place conn, state.At place conn → conn < state.calls
  heldOpen : ∀ thread conn, state.held thread = some conn → conn ∉ state.closed

/-- An attempt that sends does so on the stored connection. -/
theorem stored_of_hop {state : LinkState Thread} {conn : Nat} (h : state.view.hop = .send conn)
    : state.At .stored conn := by
  unfold ChainView.hop at h
  split at h
  · split at h
    · cases h
    · rename_i next stored
      cases h
      exact stored
  · cases h

theorem inv_initial : Inv (initial : LinkState Thread) := by
  have nowhere : ∀ place conn, ¬(initial : LinkState Thread).At place conn := by
    rintro (_ | caller | _) conn <;> simp [initial, At]
  exact {
    exclusive := fun place _ conn here => absurd here (nowhere place conn)
    numbered := fun place conn here => absurd here (nowhere place conn)
    heldOpen := fun _ _ _ => by simp [initial]
  }

def withUpdate (state : LinkState Thread) (caller : Caller) (phase : Option UpdatePhase)
    : LinkState Thread :=
  { state with update := Function.update state.update caller phase }

/-- A call that moves on carries what its new phase does; the other calls carry the same. -/
theorem at_withUpdate {state : LinkState Thread} {caller holder : Caller}
    {call : Option UpdatePhase} {conn : Nat}
    (here : (state.withUpdate caller call).At (.update holder) conn)
    : holder = caller ∧ (∃ phase, call = some phase ∧ phase.carried = some conn)
      ∨ holder ≠ caller ∧ state.At (.update holder) conn := by
  obtain ⟨phase, running, carried⟩ := here
  by_cases same : holder = caller
  · subst same
    exact .inl ⟨rfl, phase, by simpa [withUpdate] using running, carried⟩
  · have before : state.update holder = some phase := by
      simpa [withUpdate, Function.update_of_ne same] using running
    exact .inr ⟨same, phase, before, carried⟩

/-- A call that returns without freeing anything carries nothing. -/
theorem inv_return {state : LinkState Thread} {caller : Caller} (inv : Inv state)
    : Inv (state.withUpdate caller none) := by
  have kept : ∀ place conn,
      (state.withUpdate caller none).At place conn → state.At place conn := by
    intro place conn here
    rcases place with _ | holder | _
    · exact here
    · rcases at_withUpdate here with ⟨-, phase, gone, -⟩ | ⟨-, old⟩
      · cases gone
      · exact old
    · exact here
  exact {
    exclusive := Ownership.leftUnique_of_kept inv.exclusive kept
    numbered := fun place conn here => inv.numbered place conn (kept place conn here)
    heldOpen := inv.heldOpen
  }

/-- A call that frees its connection, which nobody holds, moves it to the closed ones. -/
theorem inv_free {state : LinkState Thread} {caller : Caller} {conn : Nat} (inv : Inv state)
    (carried : state.At (.update caller) conn)
    (unheld : ∀ thread, state.held thread ≠ some conn)
    : Inv { state.withUpdate caller none with closed := conn :: state.closed } := by
  have moved : ∀ place other,
      LinkState.At { state.withUpdate caller none with closed := conn :: state.closed } place other
      → ∃ source,
          state.At source other
          ∧ Function.update id (.update caller) LinkPlace.closed source = place := by
    intro place other here
    rcases place with _ | holder | _
    · exact ⟨.stored, here, rfl⟩
    · rcases at_withUpdate here with ⟨-, phase, gone, -⟩ | ⟨differ, old⟩
      · cases gone
      · exact ⟨.update holder, old, Function.update_of_ne (by simpa using differ) ..⟩
    · rcases List.mem_cons.mp here with rfl | old
      · exact ⟨.update caller, carried, Function.update_self ..⟩
      · exact ⟨.closed, old, rfl⟩
  exact {
    exclusive := Ownership.leftUnique_of_moved _ inv.exclusive moved
    numbered := fun place other here => by
      obtain ⟨source, old, -⟩ := moved place other here
      exact inv.numbered source other old
    heldOpen := fun thread other held freed => by
      rcases List.mem_cons.mp freed with rfl | old
      · exact unheld thread held
      · exact inv.heldOpen thread other held old
  }

-----------------------------------------------------------------------------------------
-- Steps
-----------------------------------------------------------------------------------------

variable [DecidableEq Thread]

/-- Where an attempt goes on with the reply it got. -/
def afterReply (msg : MessageT) (number : Nat) : Option MessageT → Option ForwardPhase
  | none => some .faulted
  | some reply =>
      if acknowledges reply msg then none
      else if number + 1 < 2 then some (.attempt msg (number + 1))
      else none

/-- The connection that a call opens, if it is not last and the server there answers. -/
def newSuccessor (state : LinkState Thread) (nodeIndex chainSize : Int) (succeeds : Bool)
    : Option Nat :=
  if nodeIndex < chainSize - 1 ∧ succeeds then some state.calls else none

def withForward (state : LinkState Thread) (thread : Thread) (phase : Option ForwardPhase)
    : LinkState Thread :=
  { state with forward := Function.update state.forward thread phase }

/-- One step. What ZooKeeper and the other servers answer comes with the action; a clean-up
whose `close` fails frees nothing.
-/
def step (state : LinkState Thread) : LinkAction Thread → Option (LinkState Thread)
  | .forward thread msg =>
      match state.forward thread with
      | none => some (state.withForward thread (some (.attempt msg 0)))
      | some _ => none
  | .read thread =>
      match state.forward thread with
      | some (.attempt msg number) =>
          match state.view.hop with
          | .stop => some (state.withForward thread none)
          | .missing => some (state.withForward thread none)
          | .send successor =>
              some (state.withForward thread (some (.holding msg number successor)))
      | _ => none
  | .exchange thread reply =>
      match state.forward thread with
      | some (.holding msg number _) =>
          some (state.withForward thread (afterReply msg number reply))
      | _ => none
  | .connect caller nodeIndex chainSize succeeds =>
      match state.update caller with
      | none =>
          let new := state.newSuccessor nodeIndex chainSize succeeds
          some
            {
              state.withUpdate caller (some (.connected ⟨new, nodeIndex, chainSize⟩)) with
              calls := state.calls + 1
            }
      | some _ => none
  | .publish caller =>
      match state.update caller with
      | some (.connected view) =>
          some
            {
              state.withUpdate caller
                (some (.published state.view.successor view.successor)) with
              view
            }
      | _ => none
  | .cleanup caller closes =>
      match state.update caller with
      | some (.published (some old) new) =>
          if new ≠ some old ∧ closes then
            some { state.withUpdate caller none with closed := old :: state.closed }
          else
            some (state.withUpdate caller none)
      | some (.published none _) => some (state.withUpdate caller none)
      | _ => none

/-- The connection that an action sends and receives on. -/
def used (state : LinkState Thread) : LinkAction Thread → Option Nat
  | .exchange thread _ => state.held thread
  | _ => none

/-- The connection that an action closes and frees. -/
def freed (state : LinkState Thread) : LinkAction Thread → Option Nat
  | .cleanup caller true =>
      match state.update caller with
      | some (.published (some old) new) => if new ≠ some old then some old else none
      | _ => none
  | _ => none

/-- A connection is freed only while no thread is about to use it. -/
def FreesUnheld (state : LinkState Thread) (action : LinkAction Thread) : Prop :=
  ∀ conn ∈ state.freed action, ∀ thread, state.held thread ≠ some conn

instance [Fintype Thread] (state : LinkState Thread) (action : LinkAction Thread)
    : Decidable (state.FreesUnheld action) :=
  inferInstanceAs (Decidable (∀ conn ∈ state.freed action, ∀ _, _ ≠ some conn))

section

variable {state after : LinkState Thread} {thread other : Thread} {caller : Caller}
  {phase : Option ForwardPhase}

@[simp]
theorem forward_withForward_self : (state.withForward thread phase).forward thread = phase :=
  Function.update_self ..

theorem forward_withForward_of_ne (h : other ≠ thread)
    : (state.withForward thread phase).forward other = state.forward other :=
  Function.update_of_ne h ..

/-- A thread of `zk_forward` that moves on keeps the invariant if what it holds then is open. -/
theorem inv_withForward (inv : Inv state)
    (holdsOpen
      : ∀ msg number conn, phase = some (.holding msg number conn) → conn ∉ state.closed)
    : Inv (state.withForward thread phase) where
  exclusive := inv.exclusive
  numbered := inv.numbered
  heldOpen other conn holds := by
    by_cases same : other = thread
    · subst same
      obtain ⟨msg, number, holding⟩ := forward_of_held holds
      rw [forward_withForward_self] at holding
      exact holdsOpen msg number conn holding
    · rw [held, forward_withForward_of_ne same] at holds
      exact inv.heldOpen other conn holds

theorem inv_forward {msg : MessageT} (inv : Inv state)
    (taken : step state (.forward thread msg) = some after)
    : Inv after := by
  simp only [step] at taken
  split at taken
  · cases taken
    exact inv_withForward inv (by simp)
  · cases taken

/-- What is read was stored, so it is open. -/
theorem inv_read (inv : Inv state) (taken : step state (.read thread) = some after)
    : Inv after := by
  simp only [step] at taken
  split at taken
  · rename_i msg number attempts
    split at taken
    · cases taken
      exact inv_withForward inv (by simp)
    · cases taken
      exact inv_withForward inv (by simp)
    · rename_i successor hop
      cases taken
      refine inv_withForward inv ?_
      rintro _ _ _ ⟨⟩ freed
      cases inv.exclusive (stored_of_hop hop) (show state.At .closed successor from freed)
  · cases taken

/-- After its exchange a thread holds nothing. -/
theorem inv_exchange {reply : Option MessageT} (inv : Inv state)
    (taken : step state (.exchange thread reply) = some after)
    : Inv after := by
  simp only [step] at taken
  split at taken
  · rename_i msg number _ holding
    cases taken
    refine inv_withForward inv ?_
    intro _ _ conn held
    unfold afterReply at held
    split at held
    · cases held
    · split at held
      · cases held
      · split at held <;> cases held
  · cases taken

/-- The connection that a call opens was nowhere before. -/
theorem inv_connect {nodeIndex chainSize : Int} {succeeds : Bool} (inv : Inv state)
    (taken : step state (.connect caller nodeIndex chainSize succeeds) = some after)
    : Inv after := by
  simp only [step] at taken
  split at taken
  · have nowhere : ∀ place, ¬state.At place state.calls :=
      fun place here => Nat.lt_irrefl _ (inv.numbered place _ here)
    have brought : ∀ place conn,
        after.At place conn
        → state.At place conn ∨ place = .update caller ∧ conn = state.calls := by
      intro place conn here
      cases taken
      rcases place with _ | holder | _
      · exact .inl here
      · rcases at_withUpdate here with ⟨same, phase, opened, carried⟩ | ⟨-, old⟩
        · cases opened
          simp only [UpdatePhase.carried, newSuccessor, Option.ite_none_right_eq_some,
            Option.some.injEq] at carried
          exact .inr ⟨by rw [same], carried.2.symm⟩
        · exact .inl old
      · exact .inl here
    exact {
      exclusive := Ownership.leftUnique_of_new inv.exclusive nowhere brought
      numbered := fun place conn here => by
        cases taken
        rcases brought place conn here with old | ⟨-, rfl⟩
        · exact Nat.lt_succ_of_lt (inv.numbered place conn old)
        · exact Nat.lt_succ_self _
      heldOpen := by
        cases taken
        exact inv.heldOpen
    }
  · cases taken

/-- Publishing exchanges the stored connection with the one that the call carries. -/
theorem inv_publish (inv : Inv state) (taken : step state (.publish caller) = some after)
    : Inv after := by
  simp only [step] at taken
  split at taken
  · rename_i view connected
    have moved : ∀ place conn,
        after.At place conn
        → ∃ source,
            state.At source conn ∧ Equiv.swap .stored (.update caller) source = place := by
      intro place conn here
      cases taken
      rcases place with _ | holder | _
      · exact ⟨.update caller, ⟨_, connected, here⟩, Equiv.swap_apply_right ..⟩
      · rcases at_withUpdate here with ⟨same, phase, published, carried⟩ | ⟨differ, old⟩
        · cases published
          exact ⟨.stored, carried, by rw [same, Equiv.swap_apply_left]⟩
        · have elsewhere : LinkPlace.update holder ≠ .update caller := by simpa using differ
          exact ⟨.update holder, old, Equiv.swap_apply_of_ne_of_ne (by simp) elsewhere⟩
      · exact ⟨.closed, here, Equiv.swap_apply_of_ne_of_ne (by simp) (by simp)⟩
    exact {
      exclusive := Ownership.leftUnique_of_moved _ inv.exclusive moved
      numbered := fun place conn here => by
        obtain ⟨source, old, -⟩ := moved place conn here
        cases taken
        exact inv.numbered source conn old
      heldOpen := by
        cases taken
        exact inv.heldOpen
    }
  · cases taken

theorem inv_cleanup {closes : Bool} (inv : Inv state)
    (unheld : state.FreesUnheld (.cleanup caller closes))
    (taken : step state (.cleanup caller closes) = some after)
    : Inv after := by
  simp only [step] at taken
  split at taken
  · rename_i old new published
    split at taken
    · rename_i freed
      obtain ⟨differ, rfl⟩ := freed
      cases taken
      exact inv_free inv ⟨_, published, rfl⟩ (unheld old (by simp [freed, published, differ]))
    · cases taken
      exact inv_return inv
  · cases taken
    exact inv_return inv
  · cases taken

theorem inv_step {action : LinkAction Thread} (inv : Inv state)
    (unheld : state.FreesUnheld action) (taken : step state action = some after)
    : Inv after := by
  cases action with
  | forward thread msg => exact inv_forward inv taken
  | read thread => exact inv_read inv taken
  | exchange thread reply => exact inv_exchange inv taken
  | connect caller nodeIndex chainSize succeeds => exact inv_connect inv taken
  | publish caller => exact inv_publish inv taken
  | cleanup caller closes => exact inv_cleanup inv unheld taken

/-- As long as connections are freed only while no thread is about to use them, every exchange
of `zk_forward` is on an open connection, in all interleavings.
-/
theorem uses_open {action : LinkAction Thread} {conn : Nat}
    (run : Reaches step FreesUnheld initial state) (uses : state.used action = some conn)
    : conn ∉ state.closed := by
  have inv : Inv state := run.invariant inv_initial (fun _ _ _ => inv_step)
  cases action with
  | exchange thread reply => exact inv.heldOpen thread conn uses
  | _ => cases uses

/-- Freeing a connection while a thread is about to use it enables that use at once. -/
theorem used_closed {action : LinkAction Thread} {conn : Nat}
    (frees : state.freed action = some conn) (holds : state.held thread = some conn)
    (taken : step state action = some after) (reply : Option MessageT)
    : conn ∈ after.closed
      ∧ after.used (.exchange thread reply) = some conn
      ∧ ∃ later, step after (.exchange thread reply) = some later := by
  unfold freed at frees
  split at frees
  · rename_i caller
    split at frees
    · rename_i old new published
      simp only [ne_eq, Option.ite_none_right_eq_some, Option.some.injEq] at frees
      obtain ⟨differ, rfl⟩ := frees
      simp only [step, published, differ, ne_eq, not_false_eq_true, and_self, if_true,
        Option.some.injEq] at taken
      subst taken
      obtain ⟨msg, number, holding⟩ := forward_of_held holds
      refine ⟨List.mem_cons_self .., holds, ?_⟩
      exact ⟨_, by simp only [step, withUpdate, holding]; rfl⟩
    · cases frees
  · cases frees

end

/-- The start-up of the first server of two, and a request up to its exchange. -/
def requested : List (LinkAction Unit) :=
  [.connect .main 0 2 true, .publish .main, .cleanup .main true,
    .forward () (addRequest (clio 2020)), .read ()]

/-- The second server is replaced by another one. -/
def replaced : List (LinkAction Unit) :=
  [.connect .thread 0 2 true, .publish .thread, .cleanup .thread true]

/-- When the exchange ends before the replacement, the next request uses the new connection. -/
def requestedBefore : List (LinkAction Unit) :=
  requested
    ++ [.exchange () (some { addRequest (clio 2020) with opcode := Opcode.opAdd + 1 })]
    ++ replaced
    ++ [.forward () (addRequest (clio 2020)), .read ()]

theorem replay_requestedBefore
    : ∃ state,
        replay step FreesUnheld initial requestedBefore = some state
        ∧ state.used (.exchange () none) = some 1
        ∧ state.closed = [0] :=
  ⟨_, rfl, rfl, rfl⟩

theorem uses_open_replaced
    : ∃ state : LinkState Unit,
        state.used (.exchange () none) = some 1 ∧ state.closed = [0] ∧ 1 ∉ state.closed := by
  obtain ⟨state, run, uses, closed⟩ := replay_requestedBefore
  exact ⟨state, uses, closed, uses_open (reaches_of_replay _ run) uses⟩

/-- When the replacement comes before the exchange, what the request is about to use is closed. -/
theorem replay_replaced
    : ∃ state,
        replay step (fun _ _ => True) initial (requested ++ replaced) = some state
        ∧ state.used (.exchange () none) = some 0
        ∧ 0 ∈ state.closed :=
  ⟨_, rfl, rfl, by decide⟩

theorem uses_freed
    : ¬∀ (state : LinkState Unit) (action : LinkAction Unit) (conn : Nat),
        Reaches step (fun _ _ => True) initial state
        → state.used action = some conn
        → conn ∉ state.closed := by
  intro claimed
  obtain ⟨state, run, uses, closed⟩ := replay_replaced
  exact claimed state _ 0 (reaches_of_replay _ run) uses closed

end LinkState

end CarChain
