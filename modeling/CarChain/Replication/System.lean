import CarChain.Library.Linearization
import CarChain.Library.StepSystem
import CarChain.Model.HandlerSpecs
import Mathlib.Logic.Function.Basic

/-! The servers of a chain and the requests on their way through it.

A request enters at one server. Under the list mutex there its handler runs; a write that
succeeded then stays inside `zk_forward`, holding the mutex, until the next server has
replied. The servers it waits at are a stack of frames, the innermost first. Requests of
different clients interleave at these steps. Messages arrive whole: the steps leave out the
failures of the transport.
-/

namespace CarChain

open CRuntime Linearization

/-- A write between its handler and the end of its `invoke` at one server: the reply its
handler left, and the attempt of `zk_forward` it is making.
-/
structure Frame where
  node : Nat
  reply : MessageT
  attempt : Nat
  deriving DecidableEq

/-- A request waits for a list mutex, has a frame about to read its view, carries a reply back
to its innermost frame, was replied to, or took its server down.
-/
inductive Stage where
  | arriving (node : Nat)
  | forwarding
  | returning (reply : MessageT)
  | answered
  | crashed
  deriving DecidableEq

/-- A client's request. The servers at which its handler succeeded are recorded in order; the
program keeps no such record.
-/
structure Call where
  entry : Nat
  request : MessageT
  frames : List Frame
  stage : Stage
  applied : List Nat
  deriving DecidableEq

/-- The lists and the views of all servers, the requests by number, and the history. -/
structure System where
  lists : Nat → ListT
  views : Nat → ChainView Nat
  calls : List Call
  events : List (Event MessageT)

inductive Action where
  | send (entry : Nat) (request : MessageT)
  | lock (id : Nat) (script : List Bool)
  | forward (id : Nat)
  | answer (id : Nat)
  | topology (node : Nat) (view : ChainView Nat)

/-- A request as it is sent. -/
def Call.new (entry : Nat) (request : MessageT) : Call := ⟨entry, request, [], .arriving entry, []⟩

/-- The server whose mutex a request waits for. -/
def Call.waitingAt (call : Call) : Option Nat :=
  match call.stage with
  | .arriving node => some node
  | _ => none

/-- A write that succeeded at a server enters `zk_forward` there. -/
def Call.apply (call : Call) (node : Nat) (reply : MessageT) : Call :=
  {
    call with
    frames := ⟨node, reply, 0⟩ :: call.frames
    stage := .forwarding
    applied := call.applied ++ [node]
  }

/-- How `invoke` ends for a return code of `zk_forward`. -/
def Frame.finish (frame : Frame) (code : Int32) : MessageT :=
  if code ≠ 0 then frame.reply.setError else frame.reply

/-- The innermost frame reads its view: it ends, or sends the request on. -/
def Call.forward (call : Call) (frame : Frame) (rest : List Frame) (view : ChainView Nat) : Call :=
  match view.hop with
  | .stop => { call with frames := rest, stage := .returning (frame.finish 0) }
  | .missing => { call with frames := rest, stage := .returning (frame.finish (-1)) }
  | .send next => { call with stage := .arriving next }

/-- The innermost frame gets a reply from the next server: it ends, or makes its second
attempt.
-/
def Call.receive (call : Call) (frame : Frame) (rest : List Frame) (reply : MessageT) : Call :=
  if acknowledges reply call.request then
    { call with frames := rest, stage := .returning (frame.finish 0) }
  else if frame.attempt = 0 then
    { call with frames := { frame with attempt := 1 } :: rest, stage := .forwarding }
  else
    { call with frames := rest, stage := .returning (frame.finish (-1)) }

theorem Call.forward_request (call : Call) (frame : Frame) (rest : List Frame)
    (view : ChainView Nat)
    : (call.forward frame rest view).request = call.request := by
  unfold Call.forward
  split <;> rfl

theorem Call.receive_request (call : Call) (frame : Frame) (rest : List Frame) (reply : MessageT)
    : (call.receive frame rest reply).request = call.request := by
  unfold Call.receive
  split
  · rfl
  · split <;> rfl

namespace System

def initial (lists : Nat → ListT) (views : Nat → ChainView Nat) : System := ⟨lists, views, [], []⟩

/-- No request waits inside `zk_forward` at the server, nor took it down. -/
def Free (system : System) (node : Nat) : Prop :=
  ∀ call ∈ system.calls, ∀ frame ∈ call.frames, frame.node ≠ node

instance (system : System) (node : Nat) : Decidable (system.Free node) :=
  inferInstanceAs (Decidable (∀ call ∈ _, ∀ frame ∈ _, _ ≠ _))

def setCall (system : System) (id : Nat) (call : Call) : System :=
  { system with calls := system.calls.set id call }

def setList (system : System) (node : Nat) (list : ListT) : System :=
  { system with lists := Function.update system.lists node list }

def setView (system : System) (node : Nat) (view : ChainView Nat) : System :=
  { system with views := Function.update system.views node view }

/-- The critical section of `invoke` up to `zk_forward`. -/
def handle (system : System) (id : Nat) (call : Call) (node : Nat) (script : List Bool) : System :=
  match (dispatch call.request (system.lists node)).run script with
  | .error _ =>
      system.setCall id
        { call with frames := ⟨node, call.request, 0⟩ :: call.frames, stage := .crashed }
  | .ok ((reply, after), _) =>
      if mustForward call.request reply then
        (system.setList node after).setCall id (call.apply node reply)
      else
        (system.setList node after).setCall id { call with stage := .returning reply }

def step (system : System) : Action → Option System
  | .send entry request =>
      some
        {
          system with
          calls := system.calls ++ [Call.new entry request]
          events := system.events ++ [.sent system.calls.length]
        }
  | .lock id script =>
      match system.calls[id]? with
      | none => none
      | some call =>
          match call.stage with
          | .arriving node =>
              -- a request inside `zk_forward` keeps the list mutex of its server
              if system.Free node then some (system.handle id call node script) else none
          | _ => none
  | .forward id =>
      match system.calls[id]? with
      | none => none
      | some call =>
          match call.stage, call.frames with
          | .forwarding, frame :: rest =>
              some (system.setCall id (call.forward frame rest (system.views frame.node)))
          | _, _ => none
  | .answer id =>
      match system.calls[id]? with
      | none => none
      | some call =>
          match call.stage, call.frames with
          | .returning reply, frame :: rest =>
              some (system.setCall id (call.receive frame rest reply))
          | .returning reply, [] =>
              some
                {
                  system.setCall id { call with stage := .answered } with
                  events := system.events ++ [.replied id reply]
                }
          | _, _ => none
  | .topology node view => some (system.setView node view)

-----------------------------------------------------------------------------------------
-- What a step can do
-----------------------------------------------------------------------------------------

variable {system after : System} {id : Nat}

@[simp]
theorem setList_lists (system : System) (node : Nat) (list : ListT)
    : (system.setList node list).lists = Function.update system.lists node list :=
  rfl

@[simp]
theorem setCall_calls (system : System) (id : Nat) (call : Call)
    : (system.setCall id call).calls = system.calls.set id call :=
  rfl

@[simp]
theorem setCall_lists (system : System) (id : Nat) (call : Call)
    : (system.setCall id call).lists = system.lists :=
  rfl

/-- Writing a request that exists changes it and no other one. -/
theorem setCall_getElem? {call : Call} (exists_ : id < system.calls.length) (new : Call)
    (other : Nat)
    : (system.setCall id new).calls[other]? = some call
      ↔ other = id ∧ call = new ∨ other ≠ id ∧ system.calls[other]? = some call := by
  simp only [setCall, List.getElem?_set]
  by_cases same : id = other
  · subst same
    simp [exists_, eq_comm]
  · simp [same, Ne.symm same]

theorem step_lock {script : List Bool} (taken : step system (.lock id script) = some after)
    : ∃ call node,
        system.calls[id]? = some call
        ∧ call.stage = .arriving node
        ∧ system.Free node
        ∧ after = system.handle id call node script := by
  simp only [step] at taken
  split at taken
  · cases taken
  · rename_i call found
    split at taken
    · rename_i node waiting
      split at taken
      · rename_i free
        cases taken
        exact ⟨call, node, found, waiting, free, rfl⟩
      · cases taken
    · cases taken

theorem step_forward (taken : step system (.forward id) = some after)
    : ∃ call frame rest,
        system.calls[id]? = some call
        ∧ call.stage = .forwarding
        ∧ call.frames = frame :: rest
        ∧ after = system.setCall id (call.forward frame rest (system.views frame.node)) := by
  simp only [step] at taken
  split at taken
  · cases taken
  · rename_i call found
    split at taken
    · rename_i frame rest stage frames
      cases taken
      exact ⟨call, frame, rest, found, stage, frames, rfl⟩
    · cases taken

theorem step_answer (taken : step system (.answer id) = some after)
    : ∃ call reply,
        system.calls[id]? = some call
        ∧ call.stage = .returning reply
        ∧ ((∃ frame rest,
              call.frames = frame :: rest
              ∧ after = system.setCall id (call.receive frame rest reply))
            ∨ call.frames = []
              ∧ after
                = {
                    system.setCall id { call with stage := .answered } with
                    events := system.events ++ [.replied id reply]
                  }) := by
  simp only [step] at taken
  split at taken
  · cases taken
  · rename_i call found
    split at taken
    · rename_i reply frame rest stage frames
      cases taken
      exact ⟨call, reply, found, stage, .inl ⟨frame, rest, frames, rfl⟩⟩
    · rename_i reply stage frames
      cases taken
      exact ⟨call, reply, found, stage, .inr ⟨frames, rfl⟩⟩
    · cases taken

theorem lt_of_getElem? {call : Call} (found : system.calls[id]? = some call)
    : id < system.calls.length :=
  (List.getElem?_eq_some_iff.mp found).1

/-- Rewriting a request's progress keeps what was requested. -/
theorem map_request_set {calls : List Call} {call new : Call} (found : calls[id]? = some call)
    (same : new.request = call.request)
    : (calls.set id new).map Call.request = calls.map Call.request := by
  obtain ⟨bound, rfl⟩ := List.getElem?_eq_some_iff.mp found
  have within : id < (calls.map Call.request).length := by simpa using bound
  have kept := List.set_getElem_self within
  rw [List.getElem_map] at kept
  rw [List.map_set, same]
  exact kept

theorem map_request_stage {calls : List Call} {call : Call} (found : calls[id]? = some call)
    (stage : Stage)
    : (calls.set id { call with stage }).map Call.request = calls.map Call.request :=
  map_request_set found rfl

section

variable {call : Call} {node : Nat} {script rest : List Bool} {reply : MessageT} {list : ListT}

theorem handle_crashed {fault : Fault}
    (ran : (dispatch call.request (system.lists node)).run script = .error fault)
    : system.handle id call node script
      = system.setCall id
          { call with frames := ⟨node, call.request, 0⟩ :: call.frames, stage := .crashed } := by
  rw [handle, ran]

theorem handle_forwarded
    (ran : (dispatch call.request (system.lists node)).run script = .ok ((reply, list), rest))
    (must : mustForward call.request reply = true)
    : system.handle id call node script
      = (system.setList node list).setCall id (call.apply node reply) := by
  rw [handle, ran]
  exact if_pos must

theorem handle_kept
    (ran : (dispatch call.request (system.lists node)).run script = .ok ((reply, list), rest))
    (kept : mustForward call.request reply = false)
    : system.handle id call node script
      = (system.setList node list).setCall id { call with stage := .returning reply } := by
  rw [handle, ran]
  exact if_neg (by simp [kept])

end

/-- Writing back the list a server has changes nothing. -/
theorem setList_same {node : Nat} {list : ListT} (h : system.lists node = list)
    : system.setList node list = system := by
  rw [setList, ← h, Function.update_eq_self]

/-- A write takes its server down or is refused, and then touches no list, or it is applied. -/
theorem handle_write (system : System) (id node : Nat) (script : List Bool) {call : Call}
    (write : isWrtOp call.request = true)
    : (∃ new : Call,
        system.handle id call node script = system.setCall id new
        ∧ new.request = call.request
        ∧ (new.stage = .crashed
            ∨ ∃ reply, new.stage = .returning reply ∧ new.frames = call.frames))
      ∨ ∃ reply list rest,
          system.handle id call node script
            = (system.setList node list).setCall id (call.apply node reply)
          ∧ (dispatch call.request (system.lists node)).run script = .ok ((reply, list), rest)
          ∧ reply.opcode = call.request.opcode + 1 := by
  cases ran : (dispatch call.request (system.lists node)).run script with
  | error fault => exact .inl ⟨_, handle_crashed ran, rfl, .inl rfl⟩
  | ok result =>
      obtain ⟨⟨reply, list⟩, rest⟩ := result
      rcases run_dispatch_write write ran with ⟨-, success, -⟩ | ⟨-, error, same⟩
      · exact .inr ⟨reply, list, rest, handle_forwarded ran (mustForward_accepted write success),
          rfl, success⟩
      · have kept : system.handle id call node script = _ :=
          handle_kept ran (by simp [mustForward, error])
        rw [setList_same same.symm] at kept
        exact .inl ⟨_, kept, rfl, .inr ⟨reply, rfl, rfl⟩⟩

section

variable {call : Call} (node : Nat) (script : List Bool)

/-- Handling rewrites one request and at most one list. -/
theorem handle_calls (system : System) (id : Nat) (call : Call)
    : ∃ new : Call,
        (system.handle id call node script).calls = system.calls.set id new
        ∧ new.request = call.request := by
  unfold handle
  split
  · exact ⟨_, rfl, rfl⟩
  · split <;> exact ⟨_, rfl, rfl⟩

theorem handle_views (system : System) (id : Nat) (call : Call)
    : (system.handle id call node script).views = system.views := by
  unfold handle
  split
  · rfl
  · split <;> rfl

theorem handle_events (system : System) (id : Nat) (call : Call)
    : (system.handle id call node script).events = system.events := by
  unfold handle
  split
  · rfl
  · split <;> rfl

theorem handle_requests (found : system.calls[id]? = some call)
    : (system.handle id call node script).calls.map Call.request
      = system.calls.map Call.request := by
  obtain ⟨new, calls, same⟩ := system.handle_calls node script id call
  rw [calls, map_request_set found same]

theorem handle_others {other : Nat} (differ : other ≠ id)
    : (system.handle id call node script).calls[other]? = system.calls[other]? := by
  obtain ⟨new, calls, -⟩ := system.handle_calls node script id call
  rw [calls, List.getElem?_set_ne (Ne.symm differ)]

end

/-- A request keeps what it asks for, so what holds of all that are sent holds of all, by the
kinds of steps.
-/
theorem step_requests {holds : MessageT → Prop} {action : Action}
    (all : ∀ request ∈ system.calls.map Call.request, holds request)
    (sent : ∀ entry request, action = .send entry request → holds request)
    (taken : step system action = some after)
    : ∀ request ∈ after.calls.map Call.request, holds request := by
  cases action with
  | send entry request =>
      cases taken
      intro other member
      rw [List.map_append, List.mem_append] at member
      rcases member with before | new
      · exact all other before
      · cases List.mem_singleton.mp new
        exact sent entry request rfl
  | lock id script =>
      obtain ⟨call, node, found, -, -, rfl⟩ := step_lock taken
      rwa [handle_requests node script found]
  | forward id =>
      obtain ⟨call, frame, rest, found, -, -, rfl⟩ := step_forward taken
      rwa [setCall_calls, map_request_set found (call.forward_request frame rest _)]
  | answer id =>
      obtain ⟨call, reply, found, -, ⟨frame, rest, -, rfl⟩ | ⟨-, rfl⟩⟩ := step_answer taken
      · rwa [setCall_calls, map_request_set found (call.receive_request frame rest reply)]
      · rwa [setCall_calls, map_request_stage found]
  | topology node view =>
      cases taken
      exact all

end System

-----------------------------------------------------------------------------------------
-- One server's steps are its `invoke`
-----------------------------------------------------------------------------------------

/-- The steps that a request takes with its frame at one server, the replies of the next
server given: what the frame finally returns, if it is always given a reply.
-/
def Call.driveFrame (env : ForwardEnv Nat) (call : Call) (frame : Frame) : Nat → Option MessageT
  | 0 => none
  | left + 1 =>
      match (call.forward frame [] (env.view frame.attempt)).stage with
      | .returning reply => some reply
      | .arriving next =>
          match env.exchange frame.attempt next call.request with
          | none => none
          | some reply =>
              match (call.receive frame [] reply).stage, (call.receive frame [] reply).frames with
              | .returning final, _ => some final
              | .forwarding, [again] => call.driveFrame env again left
              | _, _ => none
      | _ => none

/-- From an attempt on, the frame returns what `invoke` makes of the code of `zk_forward`. -/
theorem Call.driveFrame_eq (env : ForwardEnv Nat) (call : Call) (frame : Frame) {left : Nat}
    (attempts : frame.attempt + left = 2) (some_left : 0 < left)
    : call.driveFrame env frame left
      = match zkForwardFrom env call.request frame.attempt left with
        | .ok code => some (frame.finish code)
        | .error _ => none := by
  induction left generalizing frame with
  | zero => exact absurd some_left (Nat.lt_irrefl 0)
  | succ left ih =>
      rw [driveFrame, zkForwardFrom, forward]
      cases (env.view frame.attempt).hop with
      | stop => rfl
      | missing => rfl
      | send next =>
          dsimp only
          cases env.exchange frame.attempt next call.request with
          | none => rfl
          | some reply =>
              dsimp only
              rw [receive]
              cases acknowledged : acknowledges reply call.request with
              | true => rfl
              | false =>
                  by_cases first : frame.attempt = 0
                  · rw [if_neg (by simp), if_pos first]
                    have one : left = 1 := by omega
                    subst one
                    have again := ih { frame with attempt := 1 } rfl (by simp)
                    dsimp only at again ⊢
                    rw [again, first]
                    rfl
                  · rw [if_neg (by simp), if_neg first]
                    have none_left : left = 0 := by omega
                    subst none_left
                    rfl

/-- The frame that a handled write leaves at a server returns the reply of `invoke` there. -/
theorem run_invoke_eq_driveFrame {env : ForwardEnv Nat} {call : Call} {node : Nat}
    {list after : ListT} {reply : MessageT} {script rest : List Bool}
    (handled : (dispatch call.request list).run script = .ok ((reply, after), rest))
    (forwarded : mustForward call.request reply = true)
    : (invoke env call.request list).run script
      = match call.driveFrame env ⟨node, reply, 0⟩ 2 with
        | some final => .ok ((0, final, after), rest)
        | none => .error .nullDereference := by
  rw [run_invoke_forwarded env handled forwarded,
    call.driveFrame_eq env ⟨node, reply, 0⟩ rfl Nat.two_pos, zkForward]
  by_cases answered : env.Answered call.request
  · rcases zkForward_of_answered answered with ⟨code, -⟩ | ⟨code, -⟩
    all_goals
      rw [zkForward] at code
      simp [code, Frame.finish]
  · have fault := zkForward_of_unanswered answered
    rw [zkForward] at fault
    simp [fault]

end CarChain
