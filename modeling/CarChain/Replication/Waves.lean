import CarChain.Replication.WaveSteps

/-! A stable chain: a write runs down it and back while reads go on at the tail.

One lemma for each step of the writer, and from them what every run preserves.
-/

namespace CarChain

open Linearization StepSystem

namespace System

-----------------------------------------------------------------------------------------
-- Steps of a chain with a write under way
-----------------------------------------------------------------------------------------

section

variable {n writer applied : Nat} {start old new : ListT} {system after : System}
  {done extra : List Nat} {id : Nat} {call other : Call} {reply : MessageT}

theorem Wave.le (h : Wave n call reply applied) : applied ≤ n := by
  cases h with
  | forwarding stage frames within => exact within
  | arriving stage frames within => exact Nat.le_of_lt within
  | returning depth stage frames deep all => exact all.le

/-- The write holds the mutex of the head. -/
theorem Wave.head_mem (h : Wave n call reply applied) (started : 0 < applied)
    : ⟨0, reply, 0⟩ ∈ call.frames := by
  cases h with
  | forwarding stage frames => exact frames ▸ head_mem_waveFrames started
  | arriving stage frames => exact frames ▸ head_mem_waveFrames started
  | returning depth stage frames deep => exact frames ▸ head_mem_waveFrames deep

theorem Wave.insideForward (h : Wave n call reply applied) (started : 0 < applied)
    : call.InsideForward := by
  refine ⟨List.ne_nil_of_mem (h.head_mem started), ?_⟩
  cases h <;> simp [*]

/-- What a write that waits for a mutex looks like. -/
theorem Wave.arrives {node : Nat} (h : Wave n call reply applied)
    (waiting : call.stage = .arriving node)
    : node = applied ∧ applied < n ∧ call.frames = waveFrames reply applied := by
  cases h with
  | arriving stage frames within =>
      rw [stage] at waiting
      cases waiting
      exact ⟨rfl, within, frames⟩
  | forwarding stage => simp [stage] at waiting
  | returning depth stage => simp [stage] at waiting

/-- The last server that applied a write is the one that reads its view for it. -/
theorem Wave.forwards {frame : Frame} {rest : List Frame} (h : Wave n call reply applied)
    (started : 0 < applied) (forwarding : call.stage = .forwarding)
    (frames : call.frames = frame :: rest)
    : applied ≤ n
      ∧ ∃ last, applied = last + 1 ∧ frame = ⟨last, reply, 0⟩ ∧ rest = waveFrames reply last := by
  obtain ⟨last, rfl⟩ := Nat.exists_eq_succ_of_ne_zero started.ne'
  cases h with
  | forwarding stage wave within =>
      rw [wave, waveFrames] at frames
      obtain ⟨rfl, rfl⟩ := List.cons.inj frames
      exact ⟨within, last, rfl, rfl, rfl⟩
  | arriving stage => simp [stage] at forwarding
  | returning depth stage => simp [stage] at forwarding

/-- Every server on the way back gets the reply of the write, which all have applied. -/
theorem Wave.receives {frame : Frame} {rest : List Frame} {given : MessageT}
    (h : Wave n call reply applied) (returning : call.stage = .returning given)
    (frames : call.frames = frame :: rest)
    : given = reply
      ∧ applied = n
      ∧ ∃ depth, frame = ⟨depth, reply, 0⟩ ∧ rest = waveFrames reply depth := by
  cases h with
  | returning depth stage wave deep all =>
      obtain ⟨left, rfl⟩ := Nat.exists_eq_succ_of_ne_zero deep.ne'
      rw [stage] at returning
      cases returning
      rw [wave, waveFrames] at frames
      obtain ⟨rfl, rfl⟩ := List.cons.inj frames
      exact ⟨rfl, all, left, rfl, rfl⟩
  | forwarding stage => simp [stage] at returning
  | arriving stage => simp [stage] at returning

/-- The tail has the list that is in effect. -/
theorem Writing.tail (h : Writing n start system done writer call old new reply applied)
    (positive : 0 < n)
    : system.lists (n - 1) = if applied = n then new else old := by
  have within := h.wave.le
  rw [h.lists (n - 1) (by omega)]
  by_cases all : applied = n
  · rw [if_pos (by omega), if_pos all]
  · rw [if_neg (by omega), if_neg all]

theorem Writing.kept (h : Writing n start system done writer call old new reply applied)
    (moved
      : KeptStep n start (if applied = n then new else old) system after done extra (· = writer) id)
    (differ : id ≠ writer)
    : Writing n start after (done ++ extra) writer call old new reply applied where
  found := (moved.others writer (Ne.symm differ)).trans h.found
  write := h.write
  handled := h.handled
  success := h.success
  started := h.started
  wave := h.wave
  lists node within := by rw [moved.lists, h.lists node within]
  committed := moved.committed
  status := by
    have status := h.status
    rw [moved.requests]
    split at status
    · rename_i all
      rw [if_pos all]
      exact status.append extra
    · rename_i some_left
      rw [if_neg some_left]
      intro member
      rcases List.mem_append.mp member with before | later
      · exact status before
      · exact differ (moved.own writer later).symm
  idle := moved.idle

/-- The write moves on without being handled anywhere. -/
theorem Writing.moved (h : Writing n start system done writer call old new reply applied)
    (same : other.request = call.request) (wave : Wave n other reply applied)
    : Writing n start (system.setCall writer other) done writer other old new reply applied := by
  have requests : (system.setCall writer other).calls.map Call.request
      = system.calls.map Call.request :=
    map_request_set h.found same
  exact {
    found := (setCall_getElem? (lt_of_getElem? h.found) other writer).mpr (.inl ⟨rfl, rfl⟩)
    write := same ▸ h.write
    handled := same ▸ h.handled
    success := same ▸ h.success
    started := h.started
    wave
    lists := h.lists
    committed := requests ▸ h.committed
    status := requests ▸ h.status
    idle := h.idle.move h.found same (fun _ _ b => b) (.inl rfl)
  }

/-- The reply leaves a server: the write goes on to the one before, or is over. -/
theorem Writing.returned {depth : Nat}
    (h : Writing n start system done writer call old new reply applied) (all : applied = n)
    (same : other.request = call.request) (stage : other.stage = .returning reply)
    (frames : other.frames = waveFrames reply depth)
    : Phase n start (system.setCall writer other) := by
  rcases Nat.eq_zero_or_pos depth with rfl | deep
  · have requests : (system.setCall writer other).calls.map Call.request
        = system.calls.map Call.request :=
      map_request_set h.found same
    have committed := h.committed
    have status := h.status
    rw [if_pos all] at committed status
    refine .inl ⟨done, new, fun node within => ?_, requests ▸ committed, ?_⟩
    · rw [setCall_lists, h.lists node within, if_pos (all ▸ within)]
    · exact h.idle.move h.found same (fun _ differ b => differ b)
        (.inr (.returning reply stage frames status))
  · exact .inr ⟨done, writer, other, old, new, reply, applied,
      h.moved same (.returning depth stage frames deep all)⟩

theorem Writing.send (h : Writing n start system done writer call old new reply applied)
    (request : MessageT)
    : Writing n start
        {
          system with
          calls := system.calls ++ [Call.new (home n request) request]
          events := system.events ++ [.sent system.calls.length]
        }
        done writer call old new reply applied where
  found := (List.getElem?_append_left (lt_of_getElem? h.found)).trans h.found
  write := h.write
  handled := h.handled
  success := h.success
  started := h.started
  wave := h.wave
  lists := h.lists
  committed := by simpa [Call.new] using h.committed.send request
  status := by
    have status := h.status
    rw [List.map_append, List.map_singleton]
    split at status
    · rename_i all
      rw [if_pos all]
      exact status.sent h.committed.sent
    · rename_i some_left
      rwa [if_neg some_left]
  idle := h.idle.send request h.committed.sent

/-- Handling a request: the write itself at its next server, or a read at the tail. The head
is not free for a second write.
-/
theorem Writing.lock {node : Nat}
    (h : Writing n start system done writer call old new reply applied) (positive : 0 < n)
    (found : system.calls[id]? = some other) (waiting : other.stage = .arriving node)
    (free : system.Free node)
    (inOrder
      : other.request.opcode = Opcode.opGetlistbytear
        → other.request.cType = CType.ctNone
        → (system.lists node).InYearOrder)
    : Phase n start (system.handle id other node []) := by
  by_cases own : id = writer
  · subst own
    cases h.found.symm.trans found
    obtain ⟨rfl, within, frames⟩ := h.wave.arrives waiting
    obtain ⟨rest, ran⟩ := h.handled
    have committed := h.committed
    have fresh := h.status
    rw [if_neg (Nat.ne_of_lt within)] at committed fresh
    exact phase_applied within found frames h.write ran h.success h.lists committed fresh h.idle
      (fun _ busy => busy)
  · obtain ⟨home_, frames, fresh⟩ := h.idle.waiting own found waiting
    -- the write waits at the head, so this request has its home at the tail and only reads
    have notHead : node ≠ 0 := fun head =>
      free call (List.mem_of_getElem? h.found) _ (h.wave.head_mem h.started) head.symm
    have reads : mayChange other.request = false := by
      by_contra may
      exact notHead (by rw [home_, home, if_pos (by simpa using may)])
    have tail : node = n - 1 := by rw [home_, home, if_neg (by simp [reads])]
    have here := tail ▸ h.tail positive
    have write : isWrtOp other.request = false := by
      simp only [mayChange, Bool.decide_or, Bool.decide_eq_true, Bool.or_eq_false_iff] at reads
      exact reads.1
    obtain ⟨extra, moved⟩ := keptStep_handle h.committed h.idle found fresh frames here
      (fun _ _ _ ran =>
        ⟨by simp [mustForward, write], dispatch_read_keeps write (here ▸ inOrder) ran⟩)
    exact .inr ⟨_, writer, call, old, new, reply, applied, h.kept moved own⟩

/-- Only the write reads a view: its last server sends it on, or it is the tail. -/
theorem Writing.forward {frame : Frame} {rest : List Frame}
    (h : Writing n start system done writer call old new reply applied)
    (found : system.calls[id]? = some other) (stage : other.stage = .forwarding)
    (frames : other.frames = frame :: rest)
    : Phase n start (system.setCall id (other.forward frame rest (chainViews n frame.node))) := by
  have own : id = writer := by
    by_contra differ
    exact h.idle.not_forwarding differ found stage
  subst own
  cases h.found.symm.trans found
  obtain ⟨within, last, rfl, rfl, rfl⟩ := h.wave.forwards h.started stage frames
  dsimp only
  rcases Nat.lt_or_ge (last + 1) n with inner | end_
  · rw [Call.forward, chainViews_hop_inner inner]
    exact .inr ⟨done, id, _, old, new, reply, last + 1, h.moved rfl (.arriving rfl frames inner)⟩
  · rw [Call.forward, chainViews_hop_last end_]
    exact h.returned (Nat.le_antisymm within end_) rfl rfl rfl

/-- The acknowledgement passes a server. -/
theorem Writing.receive {frame : Frame} {rest : List Frame} {given : MessageT}
    (h : Writing n start system done writer call old new reply applied)
    (found : system.calls[id]? = some other) (stage : other.stage = .returning given)
    (frames : other.frames = frame :: rest)
    : Phase n start (system.setCall id (other.receive frame rest given)) := by
  have own : id = writer := by
    by_contra differ
    simp [(h.idle.returning differ found stage).1] at frames
  subst own
  cases h.found.symm.trans found
  obtain ⟨rfl, all, depth, rfl, rfl⟩ := h.wave.receives stage frames
  rw [Call.receive, if_pos (by simp [acknowledges, h.success])]
  exact h.returned all rfl rfl rfl

end

-----------------------------------------------------------------------------------------
-- Runs
-----------------------------------------------------------------------------------------

section

variable {n : Nat} {start : ListT} {system after : System}

/-- Handing an answer out of `invoke`, whether a write is under way or not. -/
theorem Phase.answer {id : Nat} {call : Call} {reply : MessageT} (h : Phase n start system)
    (found : system.calls[id]? = some call) (returning : call.stage = .returning reply)
    (frames : call.frames = [])
    : Phase n start
        {
          system.setCall id { call with stage := .answered } with
          events := system.events ++ [.replied id reply]
        } := by
  rcases h with ⟨done, list, quiet⟩ | ⟨done, writer, busy, old, new, success, applied, writing⟩
  · have answer := (quiet.idle.returning (fun b => b) found returning).2
    exact .inl ⟨_, list, quiet.kept
      (keptStep_answer quiet.committed quiet.idle found frames answer)⟩
  · have differ : id ≠ writer := by
      intro given
      subst given
      cases writing.found.symm.trans found
      simpa [frames] using writing.wave.head_mem writing.started
    have answer := (writing.idle.returning differ found returning).2
    exact .inr ⟨_, writer, busy, old, new, success, applied, writing.kept
      (keptStep_answer writing.committed writing.idle found frames answer) differ⟩

/-- Every step of a stable chain keeps the invariant, by the kinds of steps. -/
theorem inv_step {action : Action} (positive : 0 < n) (inv : Inv n start system)
    (steady : system.Steady n action) (taken : step system action = some after)
    : Inv n start after := by
  obtain ⟨program, inOrder⟩ := steady
  cases action with
  | send entry request =>
      cases program
      cases taken
      refine ⟨inv.views, ?_⟩
      rcases inv.phase with ⟨done, list, quiet⟩ | ⟨_, _, _, _, _, _, _, writing⟩
      · exact .inl ⟨done, list, quiet.send request⟩
      · exact .inr ⟨_, _, _, _, _, _, _, writing.send request⟩
  | lock id script =>
      cases program
      obtain ⟨call, node, found, waiting, free, rfl⟩ := step_lock taken
      have inOrder := fun order typed =>
        inOrder call found order typed node (by simp [Call.waitingAt, waiting])
      refine ⟨(system.handle_views node [] id call).trans inv.views, ?_⟩
      rcases inv.phase with ⟨done, list, quiet⟩ | ⟨_, _, _, _, _, _, _, writing⟩
      · exact quiet.lock positive found waiting inOrder
      · exact writing.lock positive found waiting free inOrder
  | forward id =>
      obtain ⟨call, frame, rest, found, stage, frames, rfl⟩ := step_forward taken
      refine ⟨inv.views, ?_⟩
      rw [inv.views]
      rcases inv.phase with ⟨done, list, quiet⟩ | ⟨_, _, _, _, _, _, _, writing⟩
      · exact absurd stage (quiet.idle.not_forwarding (fun b => b) found)
      · exact writing.forward found stage frames
  | answer id =>
      obtain ⟨call, reply, found, stage, ⟨frame, rest, frames, rfl⟩ | ⟨frames, rfl⟩⟩ :=
        step_answer taken
      · refine ⟨inv.views, ?_⟩
        rcases inv.phase with ⟨done, list, quiet⟩ | ⟨_, _, _, _, _, _, _, writing⟩
        · simp [(quiet.idle.returning (fun b => b) found stage).1] at frames
        · exact writing.receive found stage frames
      · exact ⟨inv.views, inv.phase.answer found stage frames⟩
  | topology node view => exact program.elim

/-- Every state that a stable chain reaches from equal lists satisfies the invariant. -/
theorem inv_reached {lists : Nat → ListT} (positive : 0 < n)
    (equal : ∀ node < n, lists node = start)
    (reached : Reaches step (Steady n) (initial lists (chainViews n)) system)
    : Inv n start system := by
  refine reached.invariant ⟨rfl, .inl ⟨[], start, equal, Committed.start serve start, ?_⟩⟩
    (fun _ _ _ inv steady taken => inv_step positive inv steady taken)
  intro id call _ found
  cases found

/-- The history of a stable chain is that of a single server. -/
theorem Inv.linearizes (h : Inv n start system)
    : ∃ order, Linearizes serve start (system.calls.map Call.request) system.events order := by
  rcases h.phase with ⟨done, list, quiet⟩ | ⟨done, _, _, _, _, _, _, writing⟩
  · exact quiet.committed.linearizes
  · exact writing.committed.linearizes

/-- Some write is inside `zk_forward`. -/
def WriteUnderWay (system : System) : Prop :=
  ∃ call ∈ system.calls, isWrtOp call.request = true ∧ call.InsideForward

instance (system : System) : Decidable system.WriteUnderWay :=
  inferInstanceAs (Decidable (∃ call ∈ _, _ ∧ _))

/-- Without a write under way all servers have one list. -/
theorem Inv.lists_equal (h : Inv n start system) (idle : ¬system.WriteUnderWay)
    : ∀ node < n, ∀ other < n, system.lists node = system.lists other := by
  rcases h.phase with ⟨done, list, quiet⟩ | ⟨done, writer, call, _, _, reply, _, writing⟩
  · intro node within other bound
    exact (quiet.same node within).trans (quiet.same other bound).symm
  · have inside := writing.wave.insideForward writing.started
    exact absurd ⟨call, List.mem_of_getElem? writing.found, writing.write, inside⟩ idle

end

end System

end CarChain
