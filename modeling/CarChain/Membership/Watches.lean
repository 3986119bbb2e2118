import CarChain.Model.Topology

/-! How a server follows the membership of the chain.

Two threads run `zk_update_chain_internal`: `main` once at start-up, and the update thread
each time it finds `update_pending` set. A call sets a watch, later reads the children, and
later still publishes what it read. `chain_watcher` sets the flag when a watch is delivered.

Membership changes are counted. The count at which a snapshot was read is kept beside it,
which says how old a stored place is; the program keeps no such number.
-/

namespace CarChain

open CStandard

/-- Where a call of `zk_update_chain_internal` stands. -/
inductive CallPhase where
  | entered
  | watched
  | read (children : List CString) (seen : Nat)
  deriving DecidableEq

/-- Who runs the call: `zk_update_chain` in `main`, or `zk_update_thread`. -/
inductive Caller where
  | main
  | thread
  deriving DecidableEq

/-- The membership at ZooKeeper, the watches of this server there, and the server itself. A
thread without a call waits for the flag; `main` without one has completed its own.
-/
structure WatchState where
  members : List CString
  changes : Nat
  armed : Nat
  fired : Nat
  updatePending : Bool
  main : Option CallPhase
  thread : Option CallPhase
  stored : Place
  storedAt : Option Nat
  deriving DecidableEq

inductive WatchAction where
  | change (children : List CString)
  | deliver
  | take
  | watch (caller : Caller)
  | read (caller : Caller)
  | swap (caller : Caller)
  deriving DecidableEq

namespace WatchState

def call (state : WatchState) : Caller → Option CallPhase
  | .main => state.main
  | .thread => state.thread

def withCall (state : WatchState) (phase : Option CallPhase) : Caller → WatchState
  | .main => { state with main := phase }
  | .thread => { state with thread := phase }

/-- The registered server as `main` enters its start-up call. -/
def initial (children : List CString) : WatchState where
  members := children
  changes := 0
  armed := 0
  fired := 0
  updatePending := false
  main := some .entered
  thread := none
  stored := ⟨-1, 0, .single⟩
  storedAt := none

/-- One step. A change of the membership keeps this server registered and fires every watch;
a call stores the place of its own path among the children it read.
-/
def step (own : CString) (state : WatchState) : WatchAction → Option WatchState
  | .change children =>
      if own ∈ children then
        some
          {
            state with
            members := children
            changes := state.changes + 1
            armed := 0
            fired := state.fired + state.armed
          }
      else
        none
  | .deliver =>
      if 0 < state.fired then some { state with fired := state.fired - 1, updatePending := true }
      else none
  | .take =>
      if state.thread = none ∧ state.updatePending then
        some { state with updatePending := false, thread := some .entered }
      else
        none
  | .watch caller =>
      match state.call caller with
      | some .entered =>
          some { state.withCall (some .watched) caller with armed := state.armed + 1 }
      | _ => none
  | .read caller =>
      match state.call caller with
      | some .watched => some (state.withCall (some (.read state.members state.changes)) caller)
      | _ => none
  | .swap caller =>
      match state.call caller with
      | some (.read children seen) =>
          some
            {
              state.withCall none caller with
              stored := placeOf (nodePath own) children
              storedAt := some seen
            }
      | _ => none

/-- No fired watch is undelivered, the flag is clear and no call is in progress. -/
structure Settled (state : WatchState) : Prop where
  delivered : state.fired = 0
  noPending : state.updatePending = false
  startedUp : state.main = none
  idle : state.thread = none

/-- A watch has fired and the update thread has not taken it up yet. -/
def Signalled (state : WatchState) : Prop := 0 < state.fired ∨ state.updatePending = true

/-- The next membership change will be signalled, or one is already. -/
def Guarded (state : WatchState) : Prop := 0 < state.armed ∨ state.Signalled

/-- The update thread is running or will run again without a further membership change. -/
def UpdateDue (state : WatchState) : Prop := state.Signalled ∨ state.thread ≠ none

/-- The stored place is newer than a snapshot. -/
def StoredAfter (state : WatchState) (seen : Nat) : Prop :=
  ∃ published ∈ state.storedAt, seen < published

/-- The age of the snapshot that the start-up call is about to publish. -/
def startUpSeen (state : WatchState) : Option Nat :=
  match state.main with
  | some (.read _ seen) => some seen
  | _ => none

/-- The start-up call publishes no snapshot that is older than what the update thread has
stored by then, unless a further update is due anyway.
-/
def StartUpInTime (state : WatchState) (action : WatchAction) : Prop :=
  action = .swap .main → ∀ seen ∈ state.startUpSeen, state.UpdateDue ∨ ¬state.StoredAfter seen

instance (state : WatchState) (action : WatchAction) : Decidable (state.StartUpInTime action) :=
  inferInstanceAs
    (Decidable
      (_ = _ → ∀ seen ∈ _, ((_ ∨ _) ∨ _) ∨ ¬∃ published ∈ state.storedAt, seen < published))

end WatchState

end CarChain
