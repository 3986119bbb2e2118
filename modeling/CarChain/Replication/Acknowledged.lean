import CarChain.Replication.ReplicaAgreement

/-! How far a write has got when its client hears of it, and while it is under way.

The reply to a write runs back through all servers that forwarded it, and each of them hands on a
success only if the next one did. Failing handlers, failed attempts and servers that go down only
keep a success away. Servers that leave the chain are skipped by the views that follow.
-/

namespace CarChain

open CRuntime StepSystem

/-- The server behind the innermost frame, at first the one that the request enters at. -/
def nextServer (entry : Nat) : List Frame → Nat
  | [] => entry
  | frame :: _ => frame.node + 1

/-- From one server up to another one there are only servers that leave the chain. -/
def Skips (departed : Nat → Prop) (low high : Nat) : Prop :=
  ∀ node < high, low ≤ node → departed node

instance (departed : Nat → Prop) [DecidablePred departed] (low high : Nat)
    : Decidable (Skips departed low high) :=
  inferInstanceAs (Decidable (∀ node < high, low ≤ node → departed node))

/-- Between the frames there are only servers that leave the chain. -/
def Adjacent (departed : Nat → Prop) (entry : Nat) : List Frame → Prop
  | [] => True
  | frame :: rest =>
      Skips departed (nextServer entry rest) frame.node ∧ Adjacent departed entry rest

/-- A server sends requests on to the next one that stays, or to one that leaves before it; only
where no server behind stays it does not send.
-/
def Hop.Passes (n : Nat) (departed : Nat → Prop) (node : Nat) : Hop Nat → Prop
  | .stop => Skips departed (node + 1) n
  | .missing => True
  | .send next => Skips departed (node + 1) next

instance (n : Nat) (departed : Nat → Prop) [DecidablePred departed] (node : Nat)
    : (hop : Hop Nat) → Decidable (hop.Passes n departed node)
  | .stop => inferInstanceAs (Decidable (Skips departed (node + 1) n))
  | .missing => isTrue trivial
  | .send next => inferInstanceAs (Decidable (Skips departed (node + 1) next))

/-- All servers from this one on that stay have applied the request. -/
def Call.AppliedFrom (n : Nat) (departed : Nat → Prop) (call : Call) (first : Nat) : Prop :=
  ∀ node, first ≤ node → node < n → ¬departed node → node ∈ call.applied

/-- A write in a chain of `n` servers. Those that wait for it have applied it, and where its reply
is a success so have all servers behind them that stay.
-/
structure Call.Reported (n : Nat) (departed : Nat → Prop) (call : Call) : Prop where
  adjacent : Adjacent departed call.entry call.frames
  waiting : call.stage ≠ .crashed → ∀ frame ∈ call.frames, frame.node ∈ call.applied
  arriving
    : ∀ node,
        call.stage = .arriving node → Skips departed (nextServer call.entry call.frames) node
  returning
    : ∀ reply,
        call.stage = .returning reply
        → acknowledges reply call.request = true
        → call.AppliedFrom n departed (nextServer call.entry call.frames)

section

variable {n node : Nat} {departed : Nat → Prop} {call : Call} {frame : Frame}
  {rest : List Frame} {reply : MessageT}

theorem Call.reported_new (n : Nat) (departed : Nat → Prop) (entry : Nat) (request : MessageT)
    : (Call.new entry request).Reported n departed where
  adjacent := trivial
  waiting _ frame member := by cases member
  arriving node here := by
    cases here
    exact fun other below above => absurd below (Nat.not_lt.mpr above)
  returning reply here := by cases here

/-- An error acknowledges no write. -/
theorem acknowledges_eq_false {request : MessageT} (write : isWrtOp request = true)
    (error : reply.opcode = Opcode.opError)
    : acknowledges reply request = false := by
  simpa [acknowledges, error] using Ne.symm (isWrtOp_success_ne write)

theorem Call.Reported.crash (h : call.Reported n departed) (arrives : call.stage = .arriving node)
    (reply : MessageT)
    : Call.Reported n departed
        { call with frames := ⟨node, reply, 0⟩ :: call.frames, stage := .crashed } where
  adjacent := ⟨h.arriving node arrives, h.adjacent⟩
  waiting alive := absurd rfl alive
  arriving other here := by cases here
  returning reply here := by cases here

theorem Call.Reported.apply (h : call.Reported n departed) (arrives : call.stage = .arriving node)
    (reply : MessageT)
    : (call.apply node reply).Reported n departed where
  adjacent := ⟨h.arriving node arrives, h.adjacent⟩
  waiting _ frame member := by
    rcases List.mem_cons.mp member with rfl | before
    · simp [Call.apply]
    · have applied := h.waiting (by simp [arrives]) frame before
      simp [Call.apply, applied]
  arriving other here := by cases here
  returning reply here := by cases here

/-- A handler that refuses a write replies with an error. -/
theorem Call.Reported.refuse (h : call.Reported n departed) (arrives : call.stage = .arriving node)
    (write : isWrtOp call.request = true) (error : reply.opcode = Opcode.opError)
    : Call.Reported n departed { call with stage := .returning reply } where
  adjacent := h.adjacent
  waiting _ := h.waiting (by simp [arrives])
  arriving other here := by cases here
  returning other here success := by
    cases here
    rw [acknowledges_eq_false write error] at success
    cases success

/-- The innermost frame returns, with a success only if the servers behind it have the write. -/
theorem Call.Reported.pop (h : call.Reported n departed) (alive : call.stage ≠ .crashed)
    (frames : call.frames = frame :: rest)
    (success
      : acknowledges reply call.request = true → call.AppliedFrom n departed (frame.node + 1))
    : Call.Reported n departed { call with frames := rest, stage := .returning reply } := by
  have adjacent := h.adjacent
  rw [frames] at adjacent
  have applied := h.waiting alive
  rw [frames] at applied
  refine ⟨adjacent.2, fun _ other member => applied other (List.mem_cons_of_mem _ member), ?_, ?_⟩
  · intro other here
    cases here
  · intro given here acknowledged other above within stays
    cases here
    rcases Nat.lt_trichotomy other frame.node with before | rfl | beyond
    · exact absurd (adjacent.1 other before above) stays
    · exact applied frame List.mem_cons_self
    · exact success acknowledged other beyond within stays

/-- The innermost frame is that of the last server that stays, or sends on to the next one. -/
theorem Call.Reported.forward (h : call.Reported n departed) (stage : call.stage = .forwarding)
    (write : isWrtOp call.request = true) (frames : call.frames = frame :: rest)
    {view : ChainView Nat} (passes : view.hop.Passes n departed frame.node)
    : (call.forward frame rest view).Reported n departed := by
  have alive : call.stage ≠ .crashed := by simp [stage]
  rw [Call.forward]
  cases hop : view.hop with
  | stop =>
      rw [hop] at passes
      refine h.pop alive frames (fun _ node above within stays => ?_)
      exact absurd (passes node within above) stays
  | missing =>
      refine h.pop alive frames (fun success => ?_)
      rw [acknowledges_eq_false write (by simp [Frame.finish])] at success
      cases success
  | send next =>
      rw [hop] at passes
      refine ⟨h.adjacent, fun _ => h.waiting alive, ?_, ?_⟩
      · intro node here
        cases here
        rw [frames]
        exact passes
      · intro reply here
        cases here

theorem Call.Reported.receive (h : call.Reported n departed) (write : isWrtOp call.request = true)
    (stage : call.stage = .returning reply) (frames : call.frames = frame :: rest)
    : (call.receive frame rest reply).Reported n departed := by
  have alive : call.stage ≠ .crashed := by simp [stage]
  have adjacent := h.adjacent
  rw [frames] at adjacent
  have applied := h.waiting alive
  rw [frames] at applied
  rw [Call.receive]
  split
  · rename_i acknowledged
    refine h.pop alive frames (fun _ => ?_)
    have behind := h.returning reply stage acknowledged
    rwa [frames] at behind
  · split
    · refine ⟨adjacent, fun _ other member => ?_, ?_, ?_⟩
      · rcases List.mem_cons.mp member with rfl | before
        · exact applied frame List.mem_cons_self
        · exact applied other (List.mem_cons_of_mem _ before)
      · intro node here
        cases here
      · intro given here
        cases here
    · refine h.pop alive frames (fun success => ?_)
      rw [acknowledges_eq_false write (by simp [Frame.finish])] at success
      cases success

theorem Call.Reported.answer (h : call.Reported n departed) (stage : call.stage = .returning reply)
    : Call.Reported n departed { call with stage := .answered } where
  adjacent := h.adjacent
  waiting _ := h.waiting (by simp [stage])
  arriving other here := by cases here
  returning other here := by cases here

end

namespace System

/-- All views pass over servers that leave only. -/
def Shrinks (n : Nat) (departed : Nat → Prop) (_ : System) : Action → Prop
  | .topology node view => view.hop.Passes n departed node
  | _ => True

instance (n : Nat) (departed : Nat → Prop) [DecidablePred departed] (system : System)
    : (action : Action) → Decidable (system.Shrinks n departed action)
  | .topology node view => inferInstanceAs (Decidable (view.hop.Passes n departed node))
  | .send _ _ => isTrue trivial
  | .lock _ _ => isTrue trivial
  | .forward _ => isTrue trivial
  | .answer _ => isTrue trivial

/-- What holds of every state of such a chain, whatever fails: a write whose client was told of its
success has been applied by all servers that stay, from the one it entered at.
-/
structure Reporting (n : Nat) (departed : Nat → Prop) (system : System) : Prop where
  views : ∀ node, (system.views node).hop.Passes n departed node
  writes : ∀ call ∈ system.calls, isWrtOp call.request = true → call.Reported n departed
  replied
    : ∀ id reply,
        .replied id reply ∈ system.events
        → ∃ call,
            system.calls[id]? = some call
            ∧ call.stage = .answered
            ∧ (
              isWrtOp call.request = true
              → acknowledges reply call.request = true
              → call.AppliedFrom n departed call.entry
            )

variable {n id : Nat} {departed : Nat → Prop} {system after : System} {call new : Call}

theorem reporting_initial {lists : Nat → ListT} {views : Nat → ChainView Nat}
    (passes : ∀ node, (views node).hop.Passes n departed node)
    : (initial lists views).Reporting n departed where
  views := passes
  writes call member := by cases member
  replied id reply event := by cases event

/-- Replacing one request that is not answered keeps what is known of the others. -/
theorem Reporting.setCall (h : system.Reporting n departed) (found : system.calls[id]? = some call)
    (running : call.stage ≠ .answered) (same : new.request = call.request)
    (reported : isWrtOp call.request = true → new.Reported n departed)
    : (system.setCall id new).Reporting n departed := by
  refine ⟨h.views, fun other member write => ?_, fun replied reply event => ?_⟩
  · rcases List.mem_or_eq_of_mem_set member with before | rfl
    · exact h.writes other before write
    · exact reported (same ▸ write)
  · obtain ⟨answered, at_, stage, success⟩ := h.replied replied reply event
    refine ⟨answered, (setCall_getElem? (lt_of_getElem? found) new replied).mpr ?_, stage, success⟩
    refine .inr ⟨?_, at_⟩
    rintro rfl
    cases found.symm.trans at_
    exact running stage

/-- Handling a request keeps it. -/
theorem Reporting.handle (h : system.Reporting n departed) (found : system.calls[id]? = some call)
    {node : Nat} (arrives : call.stage = .arriving node) (script : List Bool)
    : (system.handle id call node script).Reporting n departed := by
  have running : call.stage ≠ .answered := by simp [arrives]
  have own := h.writes call (List.mem_of_getElem? found)
  cases ran : (dispatch call.request (system.lists node)).run script with
  | error fault =>
      rw [handle_crashed ran]
      exact h.setCall found running rfl (fun write => (own write).crash arrives _)
  | ok result =>
      obtain ⟨⟨reply, list⟩, rest⟩ := result
      have kept : (system.setList node list).Reporting n departed := ⟨h.views, h.writes, h.replied⟩
      cases must : mustForward call.request reply with
      | true =>
          rw [handle_forwarded ran must]
          exact kept.setCall found running rfl (fun write => (own write).apply arrives reply)
      | false =>
          rw [handle_kept ran must]
          refine kept.setCall found running rfl (fun write => ?_)
          rcases run_dispatch_write write ran with ⟨-, success, -⟩ | ⟨-, error, -⟩
          · rw [mustForward_accepted write success] at must
            cases must
          · exact (own write).refuse arrives write error

/-- The reply reaches the client. -/
theorem Reporting.answer (h : system.Reporting n departed) (found : system.calls[id]? = some call)
    {reply : MessageT} (stage : call.stage = .returning reply) (frames : call.frames = [])
    : Reporting n departed
        {
          system.setCall id { call with stage := .answered } with
          events := system.events ++ [.replied id reply]
        } := by
  have running : call.stage ≠ .answered := by simp [stage]
  have own := h.writes call (List.mem_of_getElem? found)
  have kept : (system.setCall id { call with stage := .answered }).Reporting n departed :=
    h.setCall found running rfl (fun write => (own write).answer stage)
  refine ⟨kept.views, kept.writes, fun replied given event => ?_⟩
  rcases List.mem_append.mp event with before | now
  · exact kept.replied replied given before
  · cases List.mem_singleton.mp now
    refine ⟨{ call with stage := .answered },
      (setCall_getElem? (lt_of_getElem? found) _ id).mpr (.inl ⟨rfl, rfl⟩), rfl, ?_⟩
    intro write success
    have everywhere := (own write).returning reply stage success
    rwa [frames] at everywhere

/-- Every step of a stable chain keeps it. -/
theorem reporting_step {action : Action} (h : system.Reporting n departed)
    (shrinks : system.Shrinks n departed action) (taken : step system action = some after)
    : after.Reporting n departed := by
  cases action with
  | send entry request =>
      cases taken
      refine ⟨h.views, fun call member write => ?_, fun id reply event => ?_⟩
      · rcases List.mem_append.mp member with before | new
        · exact h.writes call before write
        · rw [List.mem_singleton.mp new]
          exact Call.reported_new n departed entry request
      · rcases List.mem_append.mp event with before | now
        · obtain ⟨call, found, rest⟩ := h.replied id reply before
          exact ⟨call, List.getElem?_append_left (lt_of_getElem? found) ▸ found, rest⟩
        · cases List.mem_singleton.mp now
  | lock id script =>
      obtain ⟨call, node, found, arrives, -, rfl⟩ := step_lock taken
      exact h.handle found arrives script
  | forward id =>
      obtain ⟨call, frame, rest, found, stage, frames, rfl⟩ := step_forward taken
      refine h.setCall found (by simp [stage]) (call.forward_request frame rest _) ?_
      intro write
      exact (h.writes call (List.mem_of_getElem? found) write).forward stage write frames
        (h.views frame.node)
  | answer id =>
      obtain ⟨call, reply, found, stage, ⟨frame, rest, frames, rfl⟩ | ⟨frames, rfl⟩⟩ :=
        step_answer taken
      · refine h.setCall found (by simp [stage]) (call.receive_request frame rest reply) ?_
        intro write
        exact (h.writes call (List.mem_of_getElem? found) write).receive write stage frames
      · exact h.answer found stage frames
  | topology node view =>
      cases taken
      refine ⟨fun other => ?_, h.writes, h.replied⟩
      by_cases same : other = node
      · subst same
        have passes : view.hop.Passes n departed other := shrinks
        simpa [setView] using passes
      · simpa [setView, Function.update_of_ne same] using h.views other

/-- No acknowledged write is lost. In a chain that servers leave, a client is told that its write
succeeded only when every server that stays has applied it, from the one it was sent to; however
memory fails, servers go down, attempts are made again and views change, and in every interleaving
with other requests.
-/
theorem acknowledged_applied {lists : Nat → ListT} {views : Nat → ChainView Nat} {reply : MessageT}
    (passes : ∀ node, (views node).hop.Passes n departed node)
    (reached : Reaches step (Shrinks n departed) (initial lists views) system)
    (found : system.calls[id]? = some call) (write : isWrtOp call.request = true)
    (replied : .replied id reply ∈ system.events)
    (success : acknowledges reply call.request = true)
    : ∀ node, call.entry ≤ node → node < n → ¬departed node → node ∈ call.applied := by
  have h : system.Reporting n departed :=
    reached.invariant (reporting_initial passes) (fun _ _ _ => reporting_step)
  obtain ⟨answered, at_, -, everywhere⟩ := h.replied id reply replied
  cases found.symm.trans at_
  exact everywhere write success

/-- The second of three servers has no memory for a car and leaves before the head's second attempt,
which goes to the third one.
-/
theorem acknowledged_applied_departure
    : ∃ system : System,
        system.events.length = 2
        ∧ ∀ call ∈ system.calls[0]?,
            ∀ node, call.entry ≤ node → node < 3 → ¬node = 1 → node ∈ call.applied := by
  have reached
      : Reaches step (Shrinks 3 (· = 1)) (initial (fun _ => listCreate) (chainViews 3)) _ :=
    reaches_of_replay [
      .send 0 (addRequest (clio 2020)),
      .lock 0 [], .forward 0, .lock 0 [false], .answer 0,
      .topology 0 (.connected 0 2 2),
      .forward 0, .lock 0 [], .forward 0, .answer 0, .answer 0
    ] rfl
  have passes : ∀ node, (chainViews 3 node).hop.Passes 3 (· = 1) node := by
    intro node
    by_cases inner : node + 1 < 3
    · rw [chainViews_hop_inner inner]
      exact fun other below above => absurd below (Nat.not_lt.mpr above)
    · rw [chainViews_hop_last (Nat.le_of_not_lt inner)]
      exact fun other below above => absurd (Nat.lt_of_le_of_lt above below) inner
  exact ⟨_, rfl, fun call found =>
    acknowledged_applied passes reached found (by cases found; rfl)
      (List.mem_cons_of_mem _ (.head _)) (by cases found; rfl)⟩

-----------------------------------------------------------------------------------------
-- While a write is under way
-----------------------------------------------------------------------------------------

/-- At every moment of a stable chain without failures all servers have one list, or the first
ones have the effect of a single write that is under way and the others do not have it yet.
-/
theorem lists_differ_by_one_write {lists : Nat → ListT} {start : ListT} (positive : 0 < n)
    (equal : ∀ node < n, lists node = start)
    (reached : Reaches step (Steady n) (initial lists (chainViews n)) system)
    : (∀ node < n, ∀ other < n, system.lists node = system.lists other)
      ∨ ∃ call ∈ system.calls,
          isWrtOp call.request = true
          ∧ call.InsideForward
          ∧ ∃ applied old,
              0 < applied
              ∧ applied < n
              ∧ ∀ node < n,
                  system.lists node
                    = if node < applied then (serve old call.request).1 else old := by
  rcases (inv_reached positive equal reached).phase with
    ⟨done, list, quiet⟩ | ⟨done, writer, call, old, new, reply, applied, writing⟩
  · left
    intro node within other bound
    rw [quiet.same node within, quiet.same other bound]
  · rcases Nat.lt_or_ge applied n with partly | wholly
    · right
      obtain ⟨rest, handled⟩ := writing.handled
      refine ⟨call, List.mem_of_getElem? writing.found, writing.write,
        writing.wave.insideForward writing.started, applied, old, writing.started, partly, ?_⟩
      rw [serve_of_dispatch handled]
      exact writing.lists
    · left
      intro node within other bound
      rw [writing.lists node within, writing.lists other bound,
        if_pos (Nat.lt_of_lt_of_le within wholly), if_pos (Nat.lt_of_lt_of_le bound wholly)]

/-- The head of two servers has an addition that the tail has not handled yet. -/
theorem lists_differ_by_one_write_two
    : ∃ system : System,
        system.lists 0 ≠ system.lists 1
        ∧ (
          (∀ node < 2, ∀ other < 2, system.lists node = system.lists other)
          ∨ ∃ call ∈ system.calls,
              isWrtOp call.request = true
              ∧ call.InsideForward
              ∧ ∃ applied old,
                  0 < applied
                  ∧ applied < 2
                  ∧ ∀ node < 2,
                      system.lists node
                        = if node < applied then (serve old call.request).1 else old
        ) := by
  have reached : Reaches step (Steady 2) (initial (fun _ => listCreate) (chainViews 2)) _ :=
    reaches_of_replay [.send 0 (addRequest (clio 2020)), .lock 0 [], .forward 0] rfl
  exact ⟨_, by decide, lists_differ_by_one_write Nat.two_pos (fun _ _ => rfl) reached⟩

end System

end CarChain
