import CarChain.Replication.Waves

/-! Agreement of the replicas over everything the client asks for.

The request for the ordered list puts the list of the server it reaches in order, and
`is_wrt_op` does not count it as a write, so it is not forwarded. The replicas agree as long
as these requests find a list that is in order already.
-/

namespace CarChain

open CRuntime StepSystem

namespace System

variable {n : Nat} {system : System}

/-- No request is in progress: each was replied to, or took its server down. -/
def Resting (system : System) : Prop :=
  ∀ call ∈ system.calls, call.stage = .answered ∨ call.stage = .crashed

instance (system : System) : Decidable system.Resting :=
  inferInstanceAs (Decidable (∀ call ∈ _, _ ∨ _))

/-- In every run of a stable chain whose requests for the ordered list find it in order, all
servers have one list whenever no request is in progress.
-/
theorem replicas_agree {lists : Nat → ListT} {start : ListT} (positive : 0 < n)
    (equal : ∀ node < n, lists node = start)
    (reached : Reaches step (Steady n) (initial lists (chainViews n)) system)
    (resting : system.Resting)
    : ∀ node < n, ∀ other < n, system.lists node = system.lists other := by
  refine (inv_reached positive equal reached).lists_equal ?_
  intro h
  obtain ⟨call, member, -, inside⟩ := h
  rcases resting call member with ended | ended <;> simp [Call.InsideForward, ended] at inside

/-- A request for the ordered list that the head handles keeps it equal to the next server's
exactly when it was in order.
-/
theorem handle_order_agrees_iff {id : Nat} {call : Call} {reply : MessageT} {after : ListT}
    {rest : List Bool} (agree : system.lists 0 = system.lists 1)
    (order : call.request.opcode = Opcode.opGetlistbytear)
    (typed : call.request.cType = CType.ctNone)
    (ran : (dispatch call.request (system.lists 0)).run [] = .ok ((reply, after), rest))
    : (system.handle id call 0 []).lists 0 = (system.handle id call 0 []).lists 1
      ↔ (system.lists 0).InYearOrder := by
  have read : isWrtOp call.request = false := by
    simp only [isWrtOp, order]
    decide
  rw [handle_kept ran (by simp [mustForward, read])]
  rw [dispatch_getlistbyear _ order] at ran
  rcases run_handleGetlistbyear (system.lists 0) typed (grants_nil _) with ⟨fault, -⟩ | returned
  · rw [fault] at ran
    cases ran
  · rw [returned] at ran
    cases ran
    simpa [setList, ← agree] using ListT.ordered_eq_self

/-- One write through both servers, from the client and back. -/
def writeThrough (id : Nat) (request : MessageT) : List Action :=
  [
    .send 0 request, .lock id [], .forward id, .lock id [], .forward id, .answer id, .answer id
  ]

theorem replicas_agree_two
    : ∃ system : System,
        (system.lists 0).cars.length = 2
        ∧ ∀ node < 2, ∀ other < 2, system.lists node = system.lists other := by
  have reached : Reaches step (Steady 2) (initial (fun _ => listCreate) (chainViews 2)) _ :=
    reaches_of_replay (writeThrough 0 (addRequest (clio 2010))
      ++ writeThrough 1 (addRequest (clio 2020))
      ++ [.send 0 getlistbyearRequest, .lock 2 [], .answer 2]) rfl
  exact ⟨_, rfl, replicas_agree Nat.two_pos (fun _ _ => rfl) reached (by decide)⟩

/-- Two cars arrive newest first; the head puts its list in order and the tail does not. -/
theorem replicas_disagree_after_order
    : ∃ system : System,
        Reaches step (Program 2) (initial (fun _ => listCreate) (chainViews 2)) system
        ∧ system.Resting
        ∧ system.lists 0 ≠ system.lists 1
        ∧ (system.lists 0).cars.map DataT.year = [2010, 2020]
        ∧ (system.lists 1).cars.map DataT.year = [2020, 2010] := by
  have reached : Reaches step (Program 2) (initial (fun _ => listCreate) (chainViews 2)) _ :=
    reaches_of_replay (writeThrough 0 (addRequest (clio 2020))
      ++ writeThrough 1 (addRequest (clio 2010))
      ++ [.send 0 getlistbyearRequest, .lock 2 [], .answer 2]) rfl
  exact ⟨_, reached, by decide, by decide, by decide, by decide⟩

end System

end CarChain
