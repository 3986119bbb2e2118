import CarChain.Replication.System

/-! The states of a stable chain, on which a write runs down and back while reads go on.

The head's mutex admits one write at a time. While it is under way a first part of the chain
holds its effect and the rest does not; the servers that applied it form a stack of frames.
The tail's list is the one every reply speaks of, so a write takes effect when the tail
applies it, or at the head when it is refused there; a read takes effect at the tail.
-/

namespace CarChain

open CRuntime Linearization

/-- The views of a stable chain of `n` servers. -/
def chainViews (n : Nat) (node : Nat) : ChainView Nat :=
  if node + 1 < n then .connected node n (node + 1) else .last n

theorem chainViews_hop_inner {n node : Nat} (h : node + 1 < n)
    : (chainViews n node).hop = .send (node + 1) := by
  have successor : (node : Int) < (n : Int) - 1 := by omega
  simp [chainViews, h, ChainView.connected, ChainView.hop, ChainView.hasSuccessor, successor]

theorem chainViews_hop_last {n node : Nat} (h : n ≤ node + 1)
    : (chainViews n node).hop = .stop := by
  simp [chainViews, Nat.not_lt.mpr h, ChainView.last, ChainView.hop, ChainView.hasSuccessor]

/-- The client sends to the head what may change a list, and everything else to the tail. -/
def home (n : Nat) (request : MessageT) : Nat := if mayChange request then 0 else n - 1

/-- A single unreplicated server: the list after a request, and the reply unless the server
goes down with it.
-/
def serve (list : ListT) (request : MessageT) : ListT × Option MessageT :=
  match (invoke (.steady (ChainView.last 1 : ChainView Unit) (fun _ _ => none)) request list).run
      [] with
  | .ok ((_, reply, after), _) => (after, some reply)
  | .error _ => (list, none)

/-- A single server replies with what its handler leaves. -/
theorem serve_of_dispatch {request reply : MessageT} {list after : ListT} {rest : List Bool}
    (ran : (dispatch request list).run [] = .ok ((reply, after), rest))
    : serve list request = (after, some reply) := by
  unfold serve
  cases must : mustForward request reply with
  | true =>
      rw [run_invoke_forwarded _ ran must]
      rfl
  | false => rw [run_invoke_kept _ ran must]

/-- The servers that the request has been forwarded by wait for it. -/
def Call.InsideForward (call : Call) : Prop :=
  call.frames ≠ [] ∧ call.stage ≠ .answered ∧ call.stage ≠ .crashed

instance (call : Call) : Decidable call.InsideForward := inferInstanceAs (Decidable (_ ∧ _ ∧ _))

namespace System

/-- Nothing but the client program's requests, with no failures and no topology changes. -/
def Program (n : Nat) (_ : System) : Action → Prop
  | .send entry request => entry = home n request
  | .lock _ script => script = []
  | .topology _ _ => False
  | .forward _ => True
  | .answer _ => True

instance (n : Nat) (system : System) : (action : Action) → Decidable (system.Program n action)
  | .send entry request => inferInstanceAs (Decidable (entry = home n request))
  | .lock _ script => inferInstanceAs (Decidable (script = []))
  | .topology _ _ => isFalse id
  | .forward _ => isTrue trivial
  | .answer _ => isTrue trivial

/-- A request for the ordered list is handled only where the list is in order already. -/
def OrdersNothing (system : System) : Action → Prop
  | .lock id _ =>
      ∀ call ∈ system.calls[id]?,
        call.request.opcode = Opcode.opGetlistbytear
        → call.request.cType = CType.ctNone
        → ∀ node ∈ call.waitingAt, (system.lists node).InYearOrder
  | _ => True

instance (system : System) : (action : Action) → Decidable (system.OrdersNothing action)
  | .lock id _ =>
      inferInstanceAs
        (Decidable
          (∀ call ∈ system.calls[id]?,
            call.request.opcode = Opcode.opGetlistbytear
            → call.request.cType = CType.ctNone
            → ∀ node ∈ call.waitingAt, (system.lists node).InYearOrder))
  | .send _ _ => isTrue trivial
  | .topology _ _ => isTrue trivial
  | .forward _ => isTrue trivial
  | .answer _ => isTrue trivial

/-- The steps of a stable chain that leave the order of the cars alone. -/
def Steady (n : Nat) (system : System) (action : Action) : Prop :=
  system.Program n action ∧ system.OrdersNothing action

instance (n : Nat) (system : System) (action : Action) : Decidable (system.Steady n action) :=
  inferInstanceAs (Decidable (_ ∧ _))

/-- What a request that changes nothing leaves. -/
theorem dispatch_read_keeps {request reply : MessageT} {list after : ListT} {rest : List Bool}
    (read : isWrtOp request = false)
    (inOrder
      : request.opcode = Opcode.opGetlistbytear
        → request.cType = CType.ctNone
        → list.InYearOrder)
    (ran : (dispatch request list).run [] = .ok ((reply, after), rest))
    : after = list := by
  by_cases order : request.opcode = Opcode.opGetlistbytear
  · rw [dispatch_getlistbyear list order] at ran
    by_cases typed : request.cType = CType.ctNone
    · rcases run_handleGetlistbyear list typed (grants_nil _) with ⟨faulted, -⟩ | returned
      · rw [faulted] at ran
        cases ran
      · rw [returned] at ran
        cases ran
        exact ListT.ordered_eq_self.mpr (inOrder order typed)
    · rw [run_handleGetlistbyear_mistyped list [] typed] at ran
      cases ran
      rfl
  · exact dispatch_keeps list (by simp [mayChange, read, order]) _ _ _ ran

-----------------------------------------------------------------------------------------
-- The two kinds of states
-----------------------------------------------------------------------------------------

/-- A request that is not inside `zk_forward`: it waits at its home, carries its answer, was
replied to, or took its home down.
-/
inductive Idle (n : Nat) (answers : MessageT → Prop) (fresh : Prop) (call : Call) : Prop where
  | arriving (stage : call.stage = .arriving (home n call.request)) (frames : call.frames = [])
    (uncommitted : fresh)
    : Idle n answers fresh call
  | returning (reply : MessageT) (stage : call.stage = .returning reply) (frames : call.frames = [])
    (answer : answers reply)
    : Idle n answers fresh call
  | answered (stage : call.stage = .answered) (frames : call.frames = [])
    : Idle n answers fresh call
  | crashed (stage : call.stage = .crashed) (uncommitted : fresh) : Idle n answers fresh call

/-- Idleness survives further commits, by cases. -/
theorem Idle.imp {n : Nat} {answers later : MessageT → Prop} {fresh still : Prop} {call : Call}
    (h : Idle n answers fresh call) (answer : ∀ reply, answers reply → later reply)
    (keep : fresh → still)
    : Idle n later still call := by
  cases h with
  | arriving stage frames uncommitted => exact .arriving stage frames (keep uncommitted)
  | returning reply stage frames given => exact .returning reply stage frames (answer reply given)
  | answered stage frames => exact .answered stage frames
  | crashed stage uncommitted => exact .crashed stage (keep uncommitted)

/-- The frames of a write that the first `depth` servers applied and have not returned. -/
def waveFrames (reply : MessageT) : Nat → List Frame
  | 0 => []
  | depth + 1 => ⟨depth, reply, 0⟩ :: waveFrames reply depth

/-- The head is always among them. -/
theorem head_mem_waveFrames {reply : MessageT} {depth : Nat} (h : 0 < depth)
    : ⟨0, reply, 0⟩ ∈ waveFrames reply depth := by
  induction depth with
  | zero => exact absurd h (Nat.lt_irrefl 0)
  | succ depth ih =>
      rcases Nat.eq_zero_or_pos depth with rfl | deeper
      · simp [waveFrames]
      · exact List.mem_cons_of_mem _ (ih deeper)

/-- A write that the first `applied` of `n` servers have applied: its last one is about to
read its view, the next one has not handled it yet, or all have and the reply runs back.
-/
inductive Wave (n : Nat) (call : Call) (reply : MessageT) (applied : Nat) : Prop where
  | forwarding (stage : call.stage = .forwarding) (frames : call.frames = waveFrames reply applied)
    (within : applied ≤ n)
    : Wave n call reply applied
  | arriving (stage : call.stage = .arriving applied)
    (frames : call.frames = waveFrames reply applied) (within : applied < n)
    : Wave n call reply applied
  | returning (depth : Nat) (stage : call.stage = .returning reply)
    (frames : call.frames = waveFrames reply depth) (deep : 0 < depth) (all : applied = n)
    : Wave n call reply applied

/-- All requests but the busy ones are idle. -/
def OthersIdle (n : Nat) (start : ListT) (calls : List Call) (done : List Nat)
    (busy : Nat → Prop)
    : Prop :=
  ∀ id call,
    ¬busy id
    → calls[id]? = some call
    → Idle n (Answers serve start (calls.map Call.request) done id) (id ∉ done) call

/-- No write is inside `zk_forward`, and all servers have one list. -/
structure Quiet (n : Nat) (start : ListT) (system : System) (done : List Nat) (list : ListT)
    : Prop where
  same : ∀ node < n, system.lists node = list
  committed : Committed serve start (system.calls.map Call.request) system.events done list
  idle : OthersIdle n start system.calls done (fun _ => False)

/-- A write takes lists from `old` to `new`; the first `applied` servers have the new one. -/
structure Writing (n : Nat) (start : ListT) (system : System) (done : List Nat)
    (writer : Nat) (call : Call) (old new : ListT) (reply : MessageT) (applied : Nat)
    : Prop where
  found : system.calls[writer]? = some call
  write : isWrtOp call.request = true
  handled : ∃ rest, (dispatch call.request old).run [] = .ok ((reply, new), rest)
  success : reply.opcode = call.request.opcode + 1
  started : 0 < applied
  wave : Wave n call reply applied
  lists : ∀ node < n, system.lists node = if node < applied then new else old
  committed
    : Committed serve start (system.calls.map Call.request) system.events done
        (if applied = n then new else old)
  status
    : if applied = n then
        Answers serve start (system.calls.map Call.request) done writer reply
      else
        writer ∉ done
  idle : OthersIdle n start system.calls done (· = writer)

/-- A write is inside `zk_forward`, or none is. -/
def Phase (n : Nat) (start : ListT) (system : System) : Prop :=
  (∃ done list, Quiet n start system done list)
  ∨ ∃ done writer call old new reply applied,
      Writing n start system done writer call old new reply applied

/-- What holds of every state that a stable chain reaches. -/
structure Inv (n : Nat) (start : ListT) (system : System) : Prop where
  views : system.views = chainViews n
  phase : Phase n start system

section

variable {n : Nat} {start : ListT} {calls : List Call} {done : List Nat} {busy : Nat → Prop}
  {id : Nat} {call new : Call}

/-- A request behind a number is an earlier one or the one just sent. -/
theorem getElem?_concat_cases (found : (calls ++ [new])[id]? = some call)
    : calls[id]? = some call ∨ id = calls.length ∧ call = new := by
  rw [List.getElem?_append] at found
  split at found
  · exact .inl found
  · rename_i late
    obtain ⟨bound, rfl⟩ := List.getElem?_eq_some_iff.mp found
    simp only [List.length_singleton] at bound
    exact .inr ⟨by omega, by simp⟩

/-- A new request waits at its home. -/
theorem OthersIdle.send (h : OthersIdle n start calls done busy) (request : MessageT)
    (sent : ∀ id ∈ done, id < (calls.map Call.request).length)
    : OthersIdle n start (calls ++ [Call.new (home n request) request]) done busy := by
  intro id call free found
  rw [List.map_append, List.map_singleton]
  rcases getElem?_concat_cases found with before | ⟨rfl, rfl⟩
  · exact (h id call free before).imp (fun _ answer => answer.sent sent) (fun fresh => fresh)
  · refine .arriving rfl rfl (fun member => ?_)
    have bound := sent _ member
    simp at bound

/-- One request moves on, and is perhaps committed; the others stay idle. -/
theorem OthersIdle.set {still : Nat → Prop} {extra : List Nat}
    (h : OthersIdle n start calls done busy) (found : calls[id]? = some call)
    (same : new.request = call.request) (own : ∀ other ∈ extra, other = id)
    (freed : ∀ other, other ≠ id → busy other → still other)
    (moved
      : still id
        ∨ Idle n (Answers serve start (calls.map Call.request) (done ++ extra) id)
          (id ∉ done ++ extra) new)
    : OthersIdle n start (calls.set id new) (done ++ extra) still := by
  intro other otherCall free at_
  rw [map_request_set found same]
  have bound := (List.getElem?_eq_some_iff.mp found).1
  rw [List.getElem?_set] at at_
  split at at_
  · rename_i equal
    subst equal
    cases at_
    exact moved.resolve_left free
  · rename_i differ
    refine (h other otherCall (fun b => free (freed other (Ne.symm differ) b)) at_).imp
      (fun _ answer => answer.append extra) (fun fresh member => ?_)
    rcases List.mem_append.mp member with before | later
    · exact fresh before
    · exact differ (own other later).symm

/-- One request moves on without being committed. -/
theorem OthersIdle.move {still : Nat → Prop} (h : OthersIdle n start calls done busy)
    (found : calls[id]? = some call) (same : new.request = call.request)
    (freed : ∀ other, other ≠ id → busy other → still other)
    (moved
      : still id ∨ Idle n (Answers serve start (calls.map Call.request) done id) (id ∉ done) new)
    : OthersIdle n start (calls.set id new) done still := by
  have none_extra : ∀ other ∈ ([] : List Nat), other = id := fun _ member => by cases member
  rw [← List.append_nil done] at moved ⊢
  exact h.set found same none_extra freed moved

end

end System

end CarChain
