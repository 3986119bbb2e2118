import CarChain.Replication.WaveStates

/-! Steps of a stable chain that leave a write inside `zk_forward` alone.

Reads, refused writes and answers touch one request, and their effect on the history does not
depend on whether a write is under way elsewhere.
-/

namespace CarChain

open Linearization

namespace System

section

variable {start current : ListT} {calls : List Call} {events : List (Event MessageT)}
  {done : List Nat} {id : Nat} {call : Call} {reply : MessageT} {rest : List Bool}

/-- A request that is handled over the current list takes effect there and then. -/
theorem commit_handled {after : ListT}
    (h : Committed serve start (calls.map Call.request) events done current)
    (found : calls[id]? = some call) (fresh : id ∉ done)
    (ran : (dispatch call.request current).run [] = .ok ((reply, after), rest))
    : Committed serve start (calls.map Call.request) events (done ++ [id]) after
      ∧ Answers serve start (calls.map Call.request) (done ++ [id]) id reply := by
  have numbered : (calls.map Call.request)[id]? = some call.request := by
    simp [found]
  have served := serve_of_dispatch ran
  constructor
  · have committed := h.commit numbered fresh
    rwa [served] at committed
  · exact h.answers_commit numbered (congrArg Prod.snd served)

end

/-- A step that moves one idle request on and keeps all lists. -/
structure KeptStep (n : Nat) (start current : ListT) (system after : System) (done extra : List Nat)
    (busy : Nat → Prop) (id : Nat)
    : Prop where
  views : after.views = system.views
  lists : after.lists = system.lists
  others : ∀ other, other ≠ id → after.calls[other]? = system.calls[other]?
  requests : after.calls.map Call.request = system.calls.map Call.request
  committed
    : Committed serve start (after.calls.map Call.request) after.events (done ++ extra) current
  idle : OthersIdle n start after.calls (done ++ extra) busy
  own : ∀ other ∈ extra, other = id

section

variable {n : Nat} {start current : ListT} {system : System} {done : List Nat}
  {busy : Nat → Prop} {id : Nat} {call : Call}

/-- Handling an idle request that changes nothing, where its home has the current list: it
takes effect, or takes its home down.
-/
theorem keptStep_handle {node : Nat}
    (committed
      : Committed serve start (system.calls.map Call.request) system.events done current)
    (idle : OthersIdle n start system.calls done busy) (found : system.calls[id]? = some call)
    (fresh : id ∉ done) (frames : call.frames = []) (at_ : system.lists node = current)
    (unchanged
      : ∀ reply after rest,
          (dispatch call.request current).run [] = .ok ((reply, after), rest)
          → mustForward call.request reply = false ∧ after = current)
    : ∃ extra,
        KeptStep n start current system (system.handle id call node []) done extra busy id := by
  have requests := handle_requests node [] found
  have events := system.handle_events node [] id call
  cases ran : (dispatch call.request (system.lists node)).run [] with
  | error fault =>
      exact ⟨[], {
        views := system.handle_views node [] id call
        lists := by rw [handle_crashed ran]; rfl
        others := fun _ differ => handle_others node [] differ
        requests
        committed := by rwa [requests, events, List.append_nil]
        idle := by
          rw [handle_crashed ran, List.append_nil]
          exact idle.move found rfl (fun _ _ busy => busy) (.inr (.crashed rfl fresh))
        own := by simp
      }⟩
  | ok result =>
      obtain ⟨⟨reply, list⟩, rest⟩ := result
      obtain ⟨kept, same⟩ := unchanged reply list rest (at_ ▸ ran)
      obtain ⟨effect, answer⟩ := commit_handled committed found fresh (at_ ▸ ran)
      exact ⟨[id], {
        views := system.handle_views node [] id call
        lists := by
          rw [handle_kept ran kept, setList_same (at_.trans same.symm)]
          rfl
        others := fun _ differ => handle_others node [] differ
        requests
        committed := by
          rw [requests, events]
          exact same ▸ effect
        idle := by
          rw [handle_kept ran kept]
          exact idle.set found rfl (by simp) (fun _ _ busy => busy)
            (.inr (.returning reply rfl frames answer))
        own := by simp
      }⟩

/-- Replying to an idle request. -/
theorem keptStep_answer {reply : MessageT}
    (committed
      : Committed serve start (system.calls.map Call.request) system.events done current)
    (idle : OthersIdle n start system.calls done busy) (found : system.calls[id]? = some call)
    (frames : call.frames = [])
    (answer : Answers serve start (system.calls.map Call.request) done id reply)
    : KeptStep n start current system
        {
          system.setCall id { call with stage := .answered } with
          events := system.events ++ [.replied id reply]
        }
        done [] busy id where
  views := rfl
  lists := rfl
  others other differ := List.getElem?_set_ne (Ne.symm differ)
  requests := map_request_stage found .answered
  committed := by
    rw [List.append_nil]
    exact (map_request_stage found .answered).symm ▸ committed.reply answer
  idle := by
    rw [List.append_nil]
    exact idle.move found rfl (fun _ _ busy => busy) (.inr (.answered rfl frames))
  own := by simp

end

section

variable {n : Nat} {start list : ListT} {system after : System} {done extra : List Nat} {id : Nat}
  {call : Call}

theorem Quiet.kept (h : Quiet n start system done list)
    (moved : KeptStep n start list system after done extra (fun _ => False) id)
    : Quiet n start after (done ++ extra) list where
  same node within := by rw [moved.lists, h.same node within]
  committed := moved.committed
  idle := moved.idle

theorem Quiet.send (h : Quiet n start system done list) (request : MessageT)
    : Quiet n start
        {
          system with
          calls := system.calls ++ [Call.new (home n request) request]
          events := system.events ++ [.sent system.calls.length]
        }
        done list where
  same := h.same
  committed := by
    have committed := h.committed.send request
    simpa [Call.new] using committed
  idle := h.idle.send request h.committed.sent

/-- A request that waits has not taken effect, and waits at its home. -/
theorem OthersIdle.waiting {calls : List Call} {busy : Nat → Prop} {node : Nat}
    (h : OthersIdle n start calls done busy) (free : ¬busy id) (found : calls[id]? = some call)
    (waiting : call.stage = .arriving node)
    : node = home n call.request ∧ call.frames = [] ∧ id ∉ done := by
  cases h id call free found with
  | arriving stage frames fresh =>
      rw [stage] at waiting
      cases waiting
      exact ⟨rfl, frames, fresh⟩
  | returning reply stage => simp [stage] at waiting
  | answered stage => simp [stage] at waiting
  | crashed stage => simp [stage] at waiting

/-- A request that carries its answer out of `invoke` has it from the order of the commits. -/
theorem OthersIdle.returning {calls : List Call} {busy : Nat → Prop} {reply : MessageT}
    (h : OthersIdle n start calls done busy) (free : ¬busy id) (found : calls[id]? = some call)
    (returning : call.stage = .returning reply)
    : call.frames = [] ∧ Answers serve start (calls.map Call.request) done id reply := by
  cases h id call free found with
  | returning reply stage frames answer =>
      rw [stage] at returning
      cases returning
      exact ⟨frames, answer⟩
  | arriving stage => simp [stage] at returning
  | answered stage => simp [stage] at returning
  | crashed stage => simp [stage] at returning

theorem OthersIdle.not_forwarding {calls : List Call} {busy : Nat → Prop}
    (h : OthersIdle n start calls done busy) (free : ¬busy id) (found : calls[id]? = some call)
    : call.stage ≠ .forwarding := by
  cases h id call free found <;> simp [*]

end

/-- A write that the first `node` servers have applied is applied by the next one. It takes
effect if that is the last one.
-/
theorem phase_applied {n node : Nat} {start old new : ListT} {system : System} {done : List Nat}
    {busy : Nat → Prop} {id : Nat} {call : Call} {reply : MessageT} {rest : List Bool}
    (within : node < n) (found : system.calls[id]? = some call)
    (frames : call.frames = waveFrames reply node) (write : isWrtOp call.request = true)
    (ran : (dispatch call.request old).run [] = .ok ((reply, new), rest))
    (success : reply.opcode = call.request.opcode + 1)
    (lists : ∀ other < n, system.lists other = if other < node then new else old)
    (committed : Committed serve start (system.calls.map Call.request) system.events done old)
    (fresh : id ∉ done) (idle : OthersIdle n start system.calls done busy)
    (only : ∀ other, busy other → other = id)
    : Phase n start (system.handle id call node []) := by
  have here : (dispatch call.request (system.lists node)).run [] = .ok ((reply, new), rest) := by
    rw [lists node within, if_neg (Nat.lt_irrefl node), ran]
  have requests := handle_requests node [] found
  have events := system.handle_events node [] id call
  obtain ⟨effect, answer⟩ := commit_handled committed found fresh ran
  have handled
      : system.handle id call node []
        = (system.setList node new).setCall id (call.apply node reply) :=
    handle_forwarded here (mustForward_accepted write success)
  have freed : ∀ other, other ≠ id → busy other → other = id := fun other _ => only other
  rw [← requests, ← events, handled] at effect
  rw [← requests, handled] at answer
  rw [← requests, ← events, handled] at committed
  rw [handled]
  -- the write is committed by the server whose list every reply speaks of
  refine .inr ⟨if node + 1 = n then done ++ [id] else done, id, call.apply node reply, old, new,
    reply, node + 1, ?_⟩
  exact {
    found := (setCall_getElem? (lt_of_getElem? found) _ id).mpr (.inl ⟨rfl, rfl⟩)
    write
    handled := ⟨rest, ran⟩
    success
    started := Nat.succ_pos node
    wave := .forwarding rfl (by simp [Call.apply, waveFrames, frames]) within
    lists := fun other bound => by
      simp only [setCall_lists, setList, Function.update_apply, lists other bound]
      split <;> split <;> grind
    committed := by
      split
      · exact effect
      · exact committed
    status := by
      split
      · exact answer
      · exact fresh
    idle := by
      split
      · exact idle.set found rfl (by simp) freed (.inl rfl)
      · exact idle.move found rfl freed (.inl rfl)
  }

-----------------------------------------------------------------------------------------
-- Steps of a chain without a write under way
-----------------------------------------------------------------------------------------

section

variable {n : Nat} {start list : ListT} {system after : System} {done : List Nat} {id : Nat}
  {call : Call}

/-- Handling a request at its home. -/
theorem Quiet.lock {node : Nat} (h : Quiet n start system done list) (positive : 0 < n)
    (found : system.calls[id]? = some call) (waiting : call.stage = .arriving node)
    (inOrder
      : call.request.opcode = Opcode.opGetlistbytear
        → call.request.cType = CType.ctNone
        → (system.lists node).InYearOrder)
    : Phase n start (system.handle id call node []) := by
  obtain ⟨home_, frames, fresh⟩ := h.idle.waiting (fun b => b) found waiting
  have within : node < n := by
    rw [home_, home]
    split <;> omega
  have here := h.same node within
  by_cases accepted : WriteAccepted call.request list []
  · obtain ⟨write, reply, new, rest, ran, success, -⟩ := run_dispatch_accepted accepted
    have head : node = 0 := by
      rw [home_, home, if_pos (by simp [mayChange, write])]
    subst head
    exact phase_applied within found frames write ran success
      (fun other bound => by simp [h.same other bound]) h.committed fresh h.idle (fun _ b => b.elim)
  · obtain ⟨extra, moved⟩ := keptStep_handle h.committed h.idle found fresh frames here
      (fun reply after rest ran => by
        cases write : isWrtOp call.request with
        | true =>
            rcases run_dispatch_write write ran with ⟨success, -⟩ | ⟨-, error, same⟩
            · exact absurd success accepted
            · exact ⟨by simp [mustForward, error], same⟩
        | false =>
            exact ⟨by simp [mustForward, write], dispatch_read_keeps write (here ▸ inOrder) ran⟩)
    exact .inl ⟨_, list, h.kept moved⟩

end

end System

end CarChain
