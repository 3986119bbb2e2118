import CarChain.Library.Progress
import CarChain.Replication.AtMostOnce
import CarChain.Replication.WaveStates

/-! Progress of the requests on their way through a chain.

The sequence numbers that put the servers of a chain in order are never used again, so every
view sends requests on to a server with a higher number. A request waits for the list mutex of
one server while it keeps the mutexes of servers before it.
-/

namespace CarChain

open StepSystem

/-- The most steps that a request takes from its arrival at a server with this many servers from
there on: it takes the mutex, sends the request on at most twice, and returns a reply.
-/
def serveSteps : Nat → Nat
  | 0 => 0
  | servers + 1 => 4 + 2 * serveSteps servers

theorem serveSteps_mono {few many : Nat} (h : few ≤ many) : serveSteps few ≤ serveSteps many := by
  induction h with
  | refl => exact Nat.le_refl _
  | step _ ih =>
      rw [serveSteps]
      omega

/-- What a frame may still cost below its server: a whole attempt if it is at its first one. -/
def Frame.retrySteps (n : Nat) (frame : Frame) : Nat :=
  if frame.attempt = 0 then 1 + serveSteps (n - (frame.node + 1)) else 0

/-- The steps left for frames that wait for a reply, with one to take each frame's own reply
back.
-/
def waitingSteps (n : Nat) : List Frame → Nat
  | [] => 0
  | frame :: rest => frame.retrySteps n + 1 + waitingSteps n rest

/-- The steps that a request may still take in a chain of `n` servers. -/
def Call.stepsLeft (n : Nat) (call : Call) : Nat :=
  match call.stage with
  | .arriving node => serveSteps (n - node) + waitingSteps n call.frames
  | .forwarding =>
      match call.frames with
      | [] => 0
      | frame :: _ => 1 + serveSteps (n - (frame.node + 1)) + waitingSteps n call.frames
  | .returning _ => 1 + waitingSteps n call.frames
  | .answered => 0
  | .crashed => 0

/-- The servers that wait for a request, from the last one on. -/
def Call.heldAt (call : Call) : List Nat := call.frames.map Frame.node

/-- The mutexes that a request keeps lie in order below the one it waits for, within a chain of
`n` servers; it keeps none when it is answered.
-/
structure Call.InOrder (n : Nat) (call : Call) : Prop where
  descending : call.heldAt.Pairwise (fun later earlier => earlier < later)
  arriving : ∀ node, call.stage = .arriving node → node < n ∧ ∀ held ∈ call.heldAt, held < node
  forwarding : call.stage = .forwarding → call.frames ≠ []
  answered : call.stage = .answered → call.frames = []

/-- The view sends requests on to a later server of a chain of `n`, if it sends them on. -/
def SendsDown (n node : Nat) (view : ChainView Nat) : Prop :=
  ∀ next ∈ view.target, node < next ∧ next < n

instance (n node : Nat) (view : ChainView Nat) : Decidable (SendsDown n node view) :=
  inferInstanceAs (Decidable (∀ next ∈ view.target, _))

/-- A step of a request that is under way. -/
def Action.advances : Action → Bool
  | .lock _ _ => true
  | .forward _ => true
  | .answer _ => true
  | .send _ _ => false
  | .topology _ _ => false

def Action.enters : Action → Bool
  | .send _ _ => true
  | _ => false

-----------------------------------------------------------------------------------------
-- One request
-----------------------------------------------------------------------------------------

section

variable {n node : Nat} {call : Call} {frame : Frame} {rest : List Frame} {reply : MessageT}

theorem Call.inOrder_new {entry : Nat} (within : entry < n) (request : MessageT)
    : (Call.new entry request).InOrder n where
  descending := .nil
  arriving node here := by
    cases here
    exact ⟨within, fun held member => by cases member⟩
  forwarding here := by cases here
  answered here := by cases here

theorem Call.stepsLeft_new (n entry : Nat) (request : MessageT)
    : (Call.new entry request).stepsLeft n ≤ serveSteps n :=
  serveSteps_mono (Nat.sub_le ..)

/-- A server at which a request arrives has steps for it. -/
theorem serveSteps_here (within : node < n)
    : serveSteps (n - node) = 4 + 2 * serveSteps (n - (node + 1)) := by
  have more : n - node = n - (node + 1) + 1 := by omega
  rw [more, serveSteps]

/-- The mutex that a request takes is above those it keeps. -/
theorem Call.InOrder.descending_taken (h : call.InOrder n) (waiting : call.stage = .arriving node)
    : (node :: call.heldAt).Pairwise (fun later earlier => earlier < later) :=
  List.pairwise_cons.mpr ⟨(h.arriving node waiting).2, h.descending⟩

theorem Call.InOrder.apply (h : call.InOrder n) (waiting : call.stage = .arriving node)
    (reply : MessageT)
    : (call.apply node reply).InOrder n
      ∧ (call.apply node reply).stepsLeft n < call.stepsLeft n := by
  refine ⟨⟨h.descending_taken waiting, ?_, ?_, ?_⟩, ?_⟩
  · intro other here
    cases here
  · exact fun _ => by simp [Call.apply]
  · intro here
    cases here
  · have here := serveSteps_here (h.arriving node waiting).1
    simp only [stepsLeft, Call.apply, waiting, waitingSteps, Frame.retrySteps, if_true]
    omega

/-- A handler that faults takes the server down with the mutex locked. -/
theorem Call.InOrder.crash (h : call.InOrder n) (waiting : call.stage = .arriving node)
    (reply : MessageT)
    : Call.InOrder n { call with frames := ⟨node, reply, 0⟩ :: call.frames, stage := .crashed }
      ∧ Call.stepsLeft n { call with frames := ⟨node, reply, 0⟩ :: call.frames, stage := .crashed }
        < call.stepsLeft n := by
  refine ⟨⟨h.descending_taken waiting, ?_, ?_, ?_⟩, ?_⟩
  · intro other here
    cases here
  · intro here
    cases here
  · intro here
    cases here
  · have here := serveSteps_here (h.arriving node waiting).1
    simp only [stepsLeft, waiting]
    omega

/-- A request that carries a reply with some of its frames left. -/
theorem Call.InOrder.returned (h : call.InOrder n) {frames : List Frame}
    (fewer : List.Sublist frames call.frames) (reply : MessageT)
    : Call.InOrder n { call with frames, stage := .returning reply } where
  descending := h.descending.sublist (fewer.map Frame.node)
  arriving node here := by cases here
  forwarding here := by cases here
  answered here := by cases here

theorem Call.InOrder.keep (h : call.InOrder n) (waiting : call.stage = .arriving node)
    (reply : MessageT)
    : Call.InOrder n { call with stage := .returning reply }
      ∧ Call.stepsLeft n { call with stage := .returning reply } < call.stepsLeft n := by
  refine ⟨h.returned (.refl _) reply, ?_⟩
  have here := serveSteps_here (h.arriving node waiting).1
  simp only [stepsLeft, waiting]
  omega

/-- The innermost frame reads a view that sends down. -/
theorem Call.InOrder.forward (h : call.InOrder n) (stage : call.stage = .forwarding)
    (frames : call.frames = frame :: rest) {view : ChainView Nat}
    (down : SendsDown n frame.node view)
    : (call.forward frame rest view).InOrder n
      ∧ (call.forward frame rest view).stepsLeft n < call.stepsLeft n := by
  have fewer : List.Sublist rest call.frames := by simp [frames]
  have before : call.stepsLeft n
      = 1 + serveSteps (n - (frame.node + 1)) + (frame.retrySteps n + 1 + waitingSteps n rest) := by
    simp [stepsLeft, stage, frames, waitingSteps]
  rw [Call.forward, before]
  cases hop : view.hop with
  | stop =>
      refine ⟨h.returned fewer _, ?_⟩
      simp only [stepsLeft]
      omega
  | missing =>
      refine ⟨h.returned fewer _, ?_⟩
      simp only [stepsLeft]
      omega
  | send next =>
      obtain ⟨above, within⟩ := down next (by simp [ChainView.target, hop])
      have descending := h.descending
      rw [heldAt, frames, List.map_cons, List.pairwise_cons] at descending
      refine ⟨⟨h.descending, ?_, ?_, ?_⟩, ?_⟩
      · intro node here
        cases here
        refine ⟨within, fun held member => ?_⟩
        rw [heldAt, frames, List.map_cons, List.mem_cons] at member
        rcases member with rfl | earlier
        · exact above
        · exact Nat.lt_trans (descending.1 held earlier) above
      · intro here
        cases here
      · intro here
        cases here
      · have later := serveSteps_mono (show n - next ≤ n - (frame.node + 1) by omega)
        simp only [stepsLeft, frames, waitingSteps]
        omega

/-- The innermost frame gets a reply from the next server. -/
theorem Call.InOrder.receive (h : call.InOrder n) {given : MessageT}
    (stage : call.stage = .returning given) (frames : call.frames = frame :: rest)
    : (call.receive frame rest given).InOrder n
      ∧ (call.receive frame rest given).stepsLeft n < call.stepsLeft n := by
  have fewer : List.Sublist rest call.frames := by simp [frames]
  have before : call.stepsLeft n = 1 + (frame.retrySteps n + 1 + waitingSteps n rest) := by
    simp [stepsLeft, stage, frames, waitingSteps]
  rw [Call.receive, before]
  split
  · refine ⟨h.returned fewer _, ?_⟩
    simp only [stepsLeft]
    omega
  · split
    · rename_i first
      refine ⟨⟨?_, ?_, ?_, ?_⟩, ?_⟩
      · have descending := h.descending
        rwa [heldAt, frames] at descending
      · intro node here
        cases here
      · exact fun _ => by simp
      · intro here
        cases here
      · simp only [stepsLeft, waitingSteps, Frame.retrySteps, first, if_true, Nat.one_ne_zero,
          if_false]
        omega
    · refine ⟨h.returned fewer _, ?_⟩
      simp only [stepsLeft]
      omega

/-- The reply reaches the client. -/
theorem Call.InOrder.answer (h : call.InOrder n) (stage : call.stage = .returning reply)
    (frames : call.frames = [])
    : Call.InOrder n { call with stage := .answered }
      ∧ Call.stepsLeft n { call with stage := .answered } < call.stepsLeft n := by
  refine ⟨⟨h.descending, ?_, ?_, fun _ => frames⟩, ?_⟩
  · intro node here
    cases here
  · intro here
    cases here
  · simp only [stepsLeft, stage]
    omega

end

/-- The steps that these requests may still take. -/
def totalSteps (n : Nat) : List Call → Nat
  | [] => 0
  | call :: rest => call.stepsLeft n + totalSteps n rest

theorem totalSteps_concat (n : Nat) (calls : List Call) (new : Call)
    : totalSteps n (calls ++ [new]) = totalSteps n calls + new.stepsLeft n := by
  induction calls with
  | nil => simp [totalSteps]
  | cons call rest ih =>
      rw [List.cons_append, totalSteps, totalSteps, ih, Nat.add_assoc]

/-- Replacing one request exchanges its steps for those of the new one, by induction on the
requests before it.
-/
theorem totalSteps_set (n : Nat) {calls : List Call} {id : Nat} {call : Call}
    (found : calls[id]? = some call) (new : Call)
    : totalSteps n (calls.set id new) + call.stepsLeft n
      = totalSteps n calls + new.stepsLeft n := by
  induction calls generalizing id with
  | nil => simp at found
  | cons first rest ih =>
      cases id with
      | zero =>
          cases found
          simp only [List.set_cons_zero, totalSteps]
          omega
      | succ id =>
          have later := ih (by simpa using found)
          simp only [List.set_cons_succ, totalSteps]
          omega

namespace System

/-- Requests enter at servers of the chain, and its views change to ones that send down. -/
def Downward (n : Nat) (_ : System) : Action → Prop
  | .send entry _ => entry < n
  | .topology node view => SendsDown n node view
  | _ => True

instance (n : Nat) (system : System) : (action : Action) → Decidable (system.Downward n action)
  | .send entry _ => inferInstanceAs (Decidable (entry < n))
  | .topology node view => inferInstanceAs (Decidable (SendsDown n node view))
  | .lock _ _ => isTrue trivial
  | .forward _ => isTrue trivial
  | .answer _ => isTrue trivial

/-- What holds in every reachable state of such a chain. -/
structure InOrder (n : Nat) (system : System) : Prop where
  calls : ∀ call ∈ system.calls, call.InOrder n
  views : ∀ node, SendsDown n node (system.views node)

/-- The steps that all requests may still take. -/
def stepsLeft (n : Nat) (system : System) : Nat := totalSteps n system.calls

-----------------------------------------------------------------------------------------
-- All requests
-----------------------------------------------------------------------------------------

variable {n : Nat} {system after : System} {action : Action}

/-- Handling a request takes the server down, applies the request, or replies to it. -/
theorem handle_cases (system : System) (id : Nat) (call : Call) (node : Nat) (script : List Bool)
    : ∃ new : Call,
        (system.handle id call node script).calls = system.calls.set id new
        ∧ (new
              = { call with frames := ⟨node, call.request, 0⟩ :: call.frames, stage := .crashed }
            ∨ (∃ reply, new = call.apply node reply)
            ∨ ∃ reply, new = { call with stage := .returning reply }) := by
  cases ran : (dispatch call.request (system.lists node)).run script with
  | error fault => exact ⟨_, by rw [handle_crashed ran]; rfl, .inl rfl⟩
  | ok result =>
      obtain ⟨⟨reply, list⟩, rest⟩ := result
      cases must : mustForward call.request reply with
      | true => exact ⟨_, by rw [handle_forwarded ran must]; rfl, .inr (.inl ⟨reply, rfl⟩)⟩
      | false => exact ⟨_, by rw [handle_kept ran must]; rfl, .inr (.inr ⟨reply, rfl⟩)⟩

/-- A step of a request changes this request only, keeps its mutexes in order and leaves it
fewer steps.
-/
theorem InOrder.advances (h : system.InOrder n) (advances : action.advances = true)
    (taken : step system action = some after)
    : ∃ id call new,
        system.calls[id]? = some call
        ∧ after.calls = system.calls.set id new
        ∧ after.views = system.views
        ∧ new.InOrder n
        ∧ new.stepsLeft n < call.stepsLeft n := by
  cases action with
  | lock id script =>
      obtain ⟨call, node, found, waiting, -, rfl⟩ := step_lock taken
      have own := h.calls call (List.mem_of_getElem? found)
      obtain ⟨new, calls, cases_⟩ := handle_cases system id call node script
      refine ⟨id, call, new, found, calls, handle_views node script system id call, ?_⟩
      rcases cases_ with rfl | ⟨reply, rfl⟩ | ⟨reply, rfl⟩
      · exact own.crash waiting _
      · exact own.apply waiting reply
      · exact own.keep waiting reply
  | forward id =>
      obtain ⟨call, frame, rest, found, stage, frames, rfl⟩ := step_forward taken
      have own := h.calls call (List.mem_of_getElem? found)
      exact ⟨id, call, _, found, rfl, rfl, own.forward stage frames (h.views frame.node)⟩
  | answer id =>
      obtain ⟨call, reply, found, stage, ⟨frame, rest, frames, rfl⟩ | ⟨frames, rfl⟩⟩ :=
        step_answer taken
      · have own := h.calls call (List.mem_of_getElem? found)
        exact ⟨id, call, _, found, rfl, rfl, own.receive stage frames⟩
      · have own := h.calls call (List.mem_of_getElem? found)
        exact ⟨id, call, _, found, rfl, rfl, own.answer stage frames⟩
  | send entry request => cases advances
  | topology node view => cases advances

theorem inOrder_initial {lists : Nat → ListT} {views : Nat → ChainView Nat}
    (down : ∀ node, SendsDown n node (views node))
    : (initial lists views).InOrder n where
  calls call member := by cases member
  views := down

/-- Mutexes stay in order, by the kinds of steps. -/
theorem inOrder_step (h : system.InOrder n) (permitted : system.Downward n action)
    (taken : step system action = some after)
    : after.InOrder n := by
  cases advances : action.advances with
  | true =>
      obtain ⟨id, call, new, found, calls, views, ordered, -⟩ := h.advances advances taken
      refine ⟨fun other member => ?_, fun node => views ▸ h.views node⟩
      rw [calls] at member
      rcases List.mem_or_eq_of_mem_set member with before | rfl
      · exact h.calls other before
      · exact ordered
  | false =>
      cases action with
      | send entry request =>
          cases taken
          refine ⟨fun call member => ?_, h.views⟩
          rcases List.mem_append.mp member with before | new
          · exact h.calls call before
          · rw [List.mem_singleton.mp new]
            exact Call.inOrder_new permitted request
      | topology node view =>
          cases taken
          refine ⟨h.calls, fun other => ?_⟩
          by_cases same : other = node
          · subst same
            have down : SendsDown n other view := permitted
            simpa [setView] using down
          · simpa [setView, same] using h.views other
      | lock id script => cases advances
      | forward id => cases advances
      | answer id => cases advances

/-- A step pays for itself, and a new request brings the steps of a whole chain. -/
theorem stepsLeft_step (h : system.InOrder n) (taken : step system action = some after)
    : after.stepsLeft n + (if action.advances then 1 else 0)
      ≤ system.stepsLeft n + (if action.enters then serveSteps n else 0) := by
  cases advances : action.advances with
  | true =>
      obtain ⟨id, call, new, found, calls, -, -, fewer⟩ := h.advances advances taken
      have total := totalSteps_set n found new
      rw [stepsLeft, stepsLeft, calls]
      simp only [if_true]
      omega
  | false =>
      cases action with
      | send entry request =>
          cases taken
          have new := Call.stepsLeft_new n entry request
          have total := totalSteps_concat n system.calls (Call.new entry request)
          simp only [stepsLeft, Action.enters, if_true, Bool.false_eq_true, if_false]
          omega
      | topology node view =>
          cases taken
          exact Nat.le_add_right _ _
      | lock id script => cases advances
      | forward id => cases advances
      | answer id => cases advances

/-- The steps that the requests under way have taken and may still take are at most those that a
chain of `n` servers needs for each request sent, whatever the requests, the order of the
steps, the failures and the changes of the views.
-/
theorem steps_bounded {lists : Nat → ListT} {views : Nat → ChainView Nat} {actions : List Action}
    (down : ∀ node, SendsDown n node (views node))
    (run : Runs step (Downward n) (initial lists views) actions system)
    : system.stepsLeft n + actions.countP Action.advances
      ≤ serveSteps n * actions.countP Action.enters := by
  have preserved : ∀ (state : System) action after, state.InOrder n → state.Downward n action →
      step state action = some after → after.InOrder n :=
    fun _ _ _ => inOrder_step
  have pays : ∀ (state : System) action after, state.InOrder n → state.Downward n action →
      step state action = some after →
      after.stepsLeft n + (if action.advances then 1 else 0)
        ≤ state.stepsLeft n + (if action.enters then serveSteps n else 0) :=
    fun _ _ _ h _ taken => stepsLeft_step h taken
  have spent := run.spends (inOrder_initial down) preserved pays
  simpa [initial, stepsLeft, totalSteps] using spent

/-- The views of a stable chain send down. -/
theorem sendsDown_chainViews (n node : Nat) : SendsDown n node (chainViews n node) := by
  intro next sends
  by_cases inner : node + 1 < n
  · rw [ChainView.target, chainViews_hop_inner inner] at sends
    cases sends
    exact ⟨Nat.lt_succ_self node, inner⟩
  · rw [ChainView.target, chainViews_hop_last (Nat.le_of_not_lt inner)] at sends
    cases sends

/-- An addition on its way to the second of two servers, and a request behind it at the first. -/
def additionAndSize : List Action :=
  [.send 0 (addRequest (clio 2020)), .send 0 sizeRequest, .lock 0 [], .forward 0]

theorem replay_additionAndSize
    : ∃ system,
        replay step (Downward 2) (initial (fun _ => listCreate) (chainViews 2)) additionAndSize
          = some system
        ∧ (∀ call ∈ system.calls, call.stage ≠ .crashed)
        ∧ (∃ call ∈ system.calls, call.stage ≠ .answered)
        ∧ ¬system.Free 0 :=
  ⟨_, rfl, by decide, by decide, by decide⟩

theorem steps_bounded_two
    : ∃ system : System,
        ¬system.Free 0
        ∧ system.stepsLeft 2 + additionAndSize.countP Action.advances
          ≤ serveSteps 2 * additionAndSize.countP Action.enters := by
  obtain ⟨system, replayed, -, -, held⟩ := replay_additionAndSize
  exact ⟨system, held, steps_bounded (sendsDown_chainViews 2) (runs_of_replay replayed)⟩

-----------------------------------------------------------------------------------------
-- Deadlock
-----------------------------------------------------------------------------------------

/-- Some step of a request that is under way is enabled. -/
def CanAdvance (system : System) : Prop :=
  ∃ action : Action, action.advances = true ∧ (step system action).isSome = true

/-- A request that has a view to read or a reply to take can do so. -/
theorem canAdvance_of_inside {id : Nat} {call : Call} (h : system.InOrder n)
    (found : system.calls[id]? = some call)
    (inside : call.stage = .forwarding ∨ ∃ reply, call.stage = .returning reply)
    : system.CanAdvance := by
  have own := h.calls call (List.mem_of_getElem? found)
  rcases inside with stage | ⟨reply, stage⟩
  · obtain ⟨frame, rest, frames⟩ := List.exists_cons_of_ne_nil (own.forwarding stage)
    exact ⟨.forward id, rfl, by simp [step, found, stage, frames]⟩
  · refine ⟨.answer id, rfl, ?_⟩
    cases frames : call.frames <;> simp [step, found, stage, frames]

/-- A request can take a mutex that is free. -/
theorem canAdvance_of_free {id node : Nat} {call : Call} (found : system.calls[id]? = some call)
    (waiting : call.stage = .arriving node) (free : system.Free node)
    : system.CanAdvance :=
  ⟨.lock id [], rfl, by simp [step, found, waiting, free]⟩

/-- Among requests that all wait for a mutex, the one that waits for the last server can take
it: whoever kept it would wait for a later one.
-/
theorem exists_free (h : system.InOrder n) {pending : Call} (member : pending ∈ system.calls)
    (unanswered : pending.stage ≠ .answered)
    (waits : ∀ call ∈ system.calls, call.stage ≠ .answered → ∃ node, call.stage = .arriving node)
    : ∃ call ∈ system.calls, ∃ node, call.stage = .arriving node ∧ system.Free node := by
  have ordered : ∀ call ∈ system.calls.filter (fun call => call.stage ≠ .answered),
      ∀ node, node ∈ call.heldAt → node < call.waitingAt.getD 0 := by
    intro call isPending held keeps
    obtain ⟨member, unanswered⟩ := List.mem_filter.mp isPending
    obtain ⟨node, waiting⟩ := waits call member (by simpa using unanswered)
    simpa [Call.waitingAt, waiting] using ((h.calls call member).arriving node waiting).2 held keeps
  obtain ⟨call, isPending, free⟩ := exists_unblocked
    (List.ne_nil_of_mem (List.mem_filter.mpr ⟨member, by simpa using unanswered⟩)) ordered
  obtain ⟨member, unanswered⟩ := List.mem_filter.mp isPending
  obtain ⟨node, waiting⟩ := waits call member (by simpa using unanswered)
  refine ⟨call, member, node, waiting, fun other there frame keeps same => ?_⟩
  by_cases answered : other.stage = .answered
  · rw [(h.calls other there).answered answered] at keeps
    cases keeps
  · refine free other (List.mem_filter.mpr ⟨there, by simpa using answered⟩) ?_
    have here : call.waitingAt.getD 0 = frame.node := by simp [Call.waitingAt, waiting, same]
    rw [here]
    exact List.mem_map_of_mem keeps

/-- With the mutexes in order some unanswered request can take a step: one inside `zk_forward`, or
the one that waits for the last server.
-/
theorem InOrder.canAdvance (h : system.InOrder n)
    (running : ∀ call ∈ system.calls, call.stage ≠ .crashed)
    (unanswered : ∃ call ∈ system.calls, call.stage ≠ .answered)
    : system.CanAdvance := by
  obtain ⟨pending, member, waits⟩ := unanswered
  by_cases inside : ∃ call ∈ system.calls,
      call.stage = .forwarding ∨ ∃ reply, call.stage = .returning reply
  · obtain ⟨call, member, inside⟩ := inside
    obtain ⟨id, found⟩ := List.getElem?_of_mem member
    exact canAdvance_of_inside h found inside
  · obtain ⟨call, member, node, waiting, free⟩ := exists_free h member waits (by
      intro call member unanswered
      have outside := not_exists.mp inside call
      cases stage : call.stage with
      | arriving node => exact ⟨node, rfl⟩
      | forwarding => exact absurd ⟨member, .inl stage⟩ outside
      | returning reply => exact absurd ⟨member, .inr ⟨reply, stage⟩⟩ outside
      | answered => exact absurd stage unanswered
      | crashed => exact absurd stage (running call member))
    obtain ⟨id, found⟩ := List.getElem?_of_mem member
    exact canAdvance_of_free found waiting free

/-- No deadlock: as long as no server was taken down and some request is unanswered, some request
can take a step, in every order of steps and however the views change.
-/
theorem unanswered_canAdvance {lists : Nat → ListT} {views : Nat → ChainView Nat}
    (down : ∀ node, SendsDown n node (views node))
    (reached : Reaches step (Downward n) (initial lists views) system)
    (running : ∀ call ∈ system.calls, call.stage ≠ .crashed)
    (unanswered : ∃ call ∈ system.calls, call.stage ≠ .answered)
    : system.CanAdvance := by
  have h : system.InOrder n := reached.invariant (inOrder_initial down) (fun _ _ _ => inOrder_step)
  exact h.canAdvance running unanswered

theorem unanswered_canAdvance_two
    : ∃ system : System, ¬system.Free 0 ∧ system.CanAdvance := by
  obtain ⟨system, replayed, running, unanswered, held⟩ := replay_additionAndSize
  have reached := (runs_of_replay replayed).reaches
  exact ⟨system, held,
    unanswered_canAdvance (sendsDown_chainViews 2) reached running unanswered⟩

end System

end CarChain
