import CarChain.Replication.System

/-! How often one request is applied at one server.

`zk_forward` makes its second attempt after any reply that is no acknowledgement, also when
the next server had applied the write and only its own forwarding failed. A write is applied
at most once per server as long as no second attempt finds a successor to send it to.
-/

namespace CarChain

open StepSystem

/-- Where a view sends a message, if it sends one. -/
def ChainView.target {Conn : Type} (view : ChainView Conn) : Option Conn :=
  match view.hop with
  | .send next => some next
  | _ => none

namespace System

/-- A step of `zk_forward` does not send a request to a server that has applied it, unless
that server is itself still waiting in `zk_forward` for it.
-/
def SendsOnlyFresh (system : System) : Action → Prop
  | .forward id =>
      ∀ call ∈ system.calls[id]?, ∀ frame ∈ call.frames.head?,
        ∀ next ∈ (system.views frame.node).target,
          next ∈ call.applied → next ∈ call.frames.map Frame.node
  | _ => True

/-- The servers that applied a request are different, and the one it arrives at is none of
them, or holds a mutex that keeps it from being handled.
-/
structure AppliedOnce (call : Call) : Prop where
  nodup : call.applied.Nodup
  fresh
    : ∀ node,
        call.stage = .arriving node
        → node ∈ call.applied
        → node ∈ call.frames.map Frame.node

/-- Every request is applied at most once by every server. -/
def AllAppliedOnce (system : System) : Prop := ∀ call ∈ system.calls, AppliedOnce call

variable {system after : System}

/-- Replacing one request keeps the property when the new one has it. -/
theorem allAppliedOnce_setCall {id : Nat} {call : Call} (once : system.AllAppliedOnce)
    (new : AppliedOnce call)
    : (system.setCall id call).AllAppliedOnce := by
  intro other member
  rcases List.mem_or_eq_of_mem_set member with before | rfl
  · exact once other before
  · exact new

/-- A handled request is applied where it was not, because a frame there keeps the mutex. -/
theorem allAppliedOnce_handle {id node : Nat} {call : Call} {script : List Bool}
    (once : system.AllAppliedOnce) (member : call ∈ system.calls)
    (waiting : call.stage = .arriving node) (free : system.Free node)
    : (system.handle id call node script).AllAppliedOnce := by
  have own := once call member
  have unapplied : node ∉ call.applied := by
    intro applied
    obtain ⟨frame, inFrames, at_⟩ := List.mem_map.mp (own.fresh node waiting applied)
    exact free call member frame inFrames at_
  cases ran : (dispatch call.request (system.lists node)).run script with
  | error fault =>
      rw [handle_crashed ran]
      exact allAppliedOnce_setCall once ⟨own.nodup, fun _ stage => by cases stage⟩
  | ok result =>
      obtain ⟨⟨reply, list⟩, rest⟩ := result
      have kept : (system.setList node list).AllAppliedOnce := once
      cases must : mustForward call.request reply with
      | true =>
          rw [handle_forwarded ran must]
          refine allAppliedOnce_setCall kept ⟨?_, fun _ stage => by cases stage⟩
          exact own.nodup.append (List.nodup_singleton node) (by simpa using unapplied)
      | false =>
          rw [handle_kept ran must]
          exact allAppliedOnce_setCall kept ⟨own.nodup, fun _ stage => by cases stage⟩

/-- Reading a view keeps the property when it sends the request to a fresh server. -/
theorem appliedOnce_forward {call : Call} {frame : Frame} {rest : List Frame}
    {view : ChainView Nat} (once : AppliedOnce call)
    (fresh
      : ∀ next ∈ view.target, next ∈ call.applied → next ∈ call.frames.map Frame.node)
    : AppliedOnce (call.forward frame rest view) := by
  rw [Call.forward]
  cases hop : view.hop with
  | stop => exact ⟨once.nodup, fun _ stage => by cases stage⟩
  | missing => exact ⟨once.nodup, fun _ stage => by cases stage⟩
  | send next =>
      refine ⟨once.nodup, fun node stage => ?_⟩
      cases stage
      exact fresh next (by simp [ChainView.target, hop])

theorem appliedOnce_receive {call : Call} {frame : Frame} {rest : List Frame}
    {reply : MessageT} (once : AppliedOnce call)
    : AppliedOnce (call.receive frame rest reply) := by
  rw [Call.receive]
  split
  · exact ⟨once.nodup, fun _ stage => by cases stage⟩
  · split <;> exact ⟨once.nodup, fun _ stage => by cases stage⟩

/-- Every permitted step keeps the property. -/
theorem allAppliedOnce_step {action : Action} (once : system.AllAppliedOnce)
    (fresh : system.SendsOnlyFresh action) (taken : step system action = some after)
    : after.AllAppliedOnce := by
  cases action with
  | send entry request =>
      cases taken
      intro call member
      rcases List.mem_append.mp member with before | new
      · exact once call before
      · rw [List.mem_singleton.mp new]
        exact ⟨List.nodup_nil, fun _ _ applied => by cases applied⟩
  | lock id script =>
      obtain ⟨call, node, found, waiting, free, rfl⟩ := step_lock taken
      exact allAppliedOnce_handle once (List.mem_of_getElem? found) waiting free
  | forward id =>
      obtain ⟨call, frame, rest, found, -, frames, rfl⟩ := step_forward taken
      refine allAppliedOnce_setCall once
        (appliedOnce_forward (once call (List.mem_of_getElem? found)) ?_)
      exact fresh call found frame (by simp [frames])
  | answer id =>
      obtain ⟨call, reply, found, -, ⟨frame, rest, -, rfl⟩ | ⟨-, rfl⟩⟩ := step_answer taken
      · exact allAppliedOnce_setCall once
          (appliedOnce_receive (once call (List.mem_of_getElem? found)))
      · have own := once call (List.mem_of_getElem? found)
        exact allAppliedOnce_setCall once ⟨own.nodup, fun _ stage => by cases stage⟩
  | topology node view =>
      cases taken
      exact once

theorem allAppliedOnce_reached {lists : Nat → ListT} {views : Nat → ChainView Nat}
    (reached : Reaches step SendsOnlyFresh (initial lists views) system)
    : system.AllAppliedOnce :=
  reached.invariant (fun _ member => by cases member)
    (fun _ _ _ once fresh taken => allAppliedOnce_step once fresh taken)

/-- The record of a write grows exactly when the list at the server changes. -/
theorem handle_applied_iff {id node : Nat} {call : Call} {script : List Bool}
    (found : system.calls[id]? = some call) (write : isWrtOp call.request = true)
    : ∃ handled,
        (system.handle id call node script).calls[id]? = some handled
        ∧ (handled.applied = call.applied ++ [node]
            ∧ (system.handle id call node script).lists node ≠ system.lists node
          ∨ handled.applied = call.applied
            ∧ (system.handle id call node script).lists node = system.lists node) := by
  have bound := lt_of_getElem? found
  cases ran : (dispatch call.request (system.lists node)).run script with
  | error fault =>
      rw [handle_crashed ran]
      exact ⟨_, (setCall_getElem? bound _ id).mpr (.inl ⟨rfl, rfl⟩), .inr ⟨rfl, rfl⟩⟩
  | ok result =>
      obtain ⟨⟨reply, list⟩, rest⟩ := result
      rcases run_dispatch_write write ran with ⟨-, opcode, changed⟩ | ⟨-, error, unchanged⟩
      · rw [handle_forwarded ran (mustForward_accepted write opcode)]
        refine ⟨_, (setCall_getElem? bound _ id).mpr (.inl ⟨rfl, rfl⟩), .inl ⟨rfl, ?_⟩⟩
        intro same
        have equal : list = system.lists node := by simpa [setList] using same
        exact changed (equal ▸ .refl _)
      · rw [handle_kept ran (by simp [mustForward, error])]
        refine ⟨_, (setCall_getElem? bound _ id).mpr (.inl ⟨rfl, rfl⟩), .inr ⟨rfl, ?_⟩⟩
        simpa [setList] using unchanged

/-- A request that gets to a server a second time is applied there again, unless its handler
refuses it this time.
-/
theorem handle_applied_again {id node : Nat} {call : Call} {script : List Bool}
    (found : system.calls[id]? = some call) (before : node ∈ call.applied)
    (accepted : WriteAccepted call.request (system.lists node) script)
    : ∃ handled,
        (system.handle id call node script).calls[id]? = some handled
        ∧ ¬handled.applied.Nodup := by
  obtain ⟨write, reply, list, rest, ran, success, -⟩ := run_dispatch_accepted accepted
  rw [handle_forwarded ran (mustForward_accepted write success)]
  refine ⟨_, (setCall_getElem? (lt_of_getElem? found) _ id).mpr (.inl ⟨rfl, rfl⟩), ?_⟩
  intro once
  exact List.disjoint_of_nodup_append once before (by simp)

-----------------------------------------------------------------------------------------
-- Without second attempts
-----------------------------------------------------------------------------------------

/-- The second attempt of `zk_forward` finds no successor to send to: its server is the last one
by then, or holds no connection.
-/
def RetriesNothing (system : System) : Action → Prop
  | .forward id =>
      ∀ call ∈ system.calls[id]?, ∀ frame ∈ call.frames.head?,
        frame.attempt ≠ 0 → (system.views frame.node).target = none
  | _ => True

instance (system : System) : (action : Action) → Decidable (system.RetriesNothing action)
  | .forward id =>
      inferInstanceAs
        (Decidable
          (∀ call ∈ system.calls[id]?, ∀ frame ∈ call.frames.head?,
            frame.attempt ≠ 0 → (system.views frame.node).target = none))
  | .send _ _ => isTrue trivial
  | .lock _ _ => isTrue trivial
  | .answer _ => isTrue trivial
  | .topology _ _ => isTrue trivial

/-- A request on its way down the chain, before any server has replied to it. -/
def Descending (call : Call) : Prop :=
  match call.stage with
  | .arriving _ => True
  | .forwarding => ∀ frame ∈ call.frames.head?, frame.attempt = 0
  | _ => False

/-- On its way down a request is applied only where it is still waited for. -/
def AllWait (system : System) : Prop :=
  ∀ call ∈ system.calls, Descending call → ∀ node ∈ call.applied, node ∈ call.frames.map Frame.node

/-- Replacing one request keeps the property when the new one has it. -/
theorem allWait_setCall {id : Nat} {call : Call} (waits : system.AllWait)
    (new : Descending call → ∀ node ∈ call.applied, node ∈ call.frames.map Frame.node)
    : (system.setCall id call).AllWait := by
  intro other member
  rcases List.mem_or_eq_of_mem_set member with before | rfl
  · exact waits other before
  · exact new

/-- A handled request is waited for where it is applied. -/
theorem allWait_handle {id node : Nat} {call : Call} {script : List Bool} (waits : system.AllWait)
    (member : call ∈ system.calls) (waiting : call.stage = .arriving node)
    : (system.handle id call node script).AllWait := by
  have own := waits call member (by simp [Descending, waiting])
  cases ran : (dispatch call.request (system.lists node)).run script with
  | error fault =>
      rw [handle_crashed ran]
      exact allWait_setCall waits (fun down => down.elim)
  | ok result =>
      obtain ⟨⟨reply, list⟩, rest⟩ := result
      have kept : (system.setList node list).AllWait := waits
      cases must : mustForward call.request reply with
      | true =>
          rw [handle_forwarded ran must]
          refine allWait_setCall kept (fun _ other applied => ?_)
          rcases List.mem_append.mp applied with before | here
          · exact List.mem_cons_of_mem _ (own other before)
          · simp [Call.apply, List.mem_singleton.mp here]
      | false =>
          rw [handle_kept ran must]
          exact allWait_setCall kept (fun down => down.elim)

/-- A server that still sends makes its first attempt, so the request is on its way down. -/
theorem descending_of_sends {id : Nat} {call : Call} {frame : Frame} {next : Nat}
    (retries : system.RetriesNothing (.forward id)) (found : system.calls[id]? = some call)
    (stage : call.stage = .forwarding) (innermost : call.frames.head? = some frame)
    (sends : (system.views frame.node).target = some next)
    : Descending call := by
  simp only [Descending, stage]
  intro other head
  cases innermost.symm.trans head
  by_contra second
  have nothing := retries call found frame innermost second
  simp [sends] at nothing

theorem allWait_step {action : Action} (waits : system.AllWait)
    (retries : system.RetriesNothing action) (taken : step system action = some after)
    : after.AllWait := by
  cases action with
  | send entry request =>
      cases taken
      intro call member
      rcases List.mem_append.mp member with before | new
      · exact waits call before
      · rw [List.mem_singleton.mp new]
        exact fun _ _ applied => by cases applied
  | lock id script =>
      obtain ⟨call, node, found, waiting, -, rfl⟩ := step_lock taken
      exact allWait_handle waits (List.mem_of_getElem? found) waiting
  | forward id =>
      obtain ⟨call, frame, rest, found, stage, frames, rfl⟩ := step_forward taken
      refine allWait_setCall waits ?_
      rw [Call.forward]
      cases hop : (system.views frame.node).hop with
      | stop => exact fun down => down.elim
      | missing => exact fun down => down.elim
      | send next =>
          have down := descending_of_sends retries found stage (by simp [frames])
            (show (system.views frame.node).target = some next by simp [ChainView.target, hop])
          exact fun _ => waits call (List.mem_of_getElem? found) down
  | answer id =>
      obtain ⟨call, reply, found, -, ⟨frame, rest, -, rfl⟩ | ⟨-, rfl⟩⟩ := step_answer taken
      · refine allWait_setCall waits ?_
        rw [Call.receive]
        split
        · exact fun down => down.elim
        · split
          · intro down
            -- the frame that goes on is at its second attempt
            exact absurd (down _ rfl) (by simp)
          · exact fun down => down.elim
      · have kept : (system.setCall id { call with stage := .answered }).AllWait :=
          allWait_setCall waits (fun down => down.elim)
        exact kept
  | topology node view =>
      cases taken
      exact waits

/-- Where no second attempt sends anything, every server that is sent a request again is still
waiting for it.
-/
theorem sendsOnlyFresh_of_retriesNothing {action : Action} (waits : system.AllWait)
    (retries : system.RetriesNothing action) (taken : step system action = some after)
    : system.SendsOnlyFresh action := by
  cases action with
  | forward id =>
      obtain ⟨own, _, _, here, stage, -, -⟩ := step_forward taken
      intro call found frame innermost next sends applied
      cases here.symm.trans found
      have down := descending_of_sends retries found stage innermost sends
      exact waits own (List.mem_of_getElem? found) down next applied
  | _ => trivial

/-- Only second attempts apply a request again. In every run in which none of them finds a
successor, every server applies every request at most once, whatever the views are and however
they change.
-/
theorem applied_atMostOnce {lists : Nat → ListT} {views : Nat → ChainView Nat} {system : System}
    (reached : Reaches step RetriesNothing (initial lists views) system)
    : ∀ call ∈ system.calls, call.applied.Nodup := by
  have start : (initial lists views).AllWait := fun _ member => by cases member
  have fresh : Reaches step SendsOnlyFresh (initial lists views) system :=
    reached.exchange start
      (fun _ _ _ waits retries taken => allWait_step waits retries taken)
      (fun _ _ _ waits retries taken => sendsOnlyFresh_of_retriesNothing waits retries taken)
  exact fun call member => (allAppliedOnce_reached fresh call member).nodup

/-- The second of three servers cannot forward an addition, and the head has lost its connection
when it makes its second attempt.
-/
theorem applied_atMostOnce_three
    : ∃ system : System,
        system.events.length = 2 ∧ ∀ call ∈ system.calls, call.applied.Nodup := by
  have reached
      : Reaches step RetriesNothing
        (initial (fun _ => listCreate)
          (fun node => if node = 0 then .connected 0 3 1 else ⟨none, 1, 3⟩)) _ :=
    reaches_of_replay [
      .send 0 (addRequest (clio 2020)), .lock 0 [], .forward 0, .lock 0 [], .forward 0,
      .answer 0, .topology 0 ⟨none, 0, 3⟩, .forward 0, .answer 0
    ] rfl
  exact ⟨_, rfl, applied_atMostOnce reached⟩

/-- The second of three servers has no connection to the third one when the head's attempts
reach it: it applies the ADD twice.
-/
theorem applied_twice
    : ∃ system : System,
        Reaches step (fun _ _ => True)
          (initial (fun _ => listCreate)
            (fun node => if node = 0 then .connected 0 3 1 else ⟨none, 1, 3⟩)) system
        ∧ (system.lists 1).cars.length = 2
        ∧ ∃ call ∈ system.calls, ¬call.applied.Nodup := by
  have reached
      : Reaches step (fun _ _ => True)
        (initial (fun _ => listCreate)
          (fun node => if node = 0 then .connected 0 3 1 else ⟨none, 1, 3⟩)) _ :=
    reaches_of_replay [
      .send 0 (addRequest (clio 2020)),
      .lock 0 [], .forward 0, .lock 0 [], .forward 0, .answer 0,
      .forward 0, .lock 0 []
    ] rfl
  exact ⟨_, reached, rfl, _, List.mem_singleton.mpr rfl, by decide⟩

end System

end CarChain
