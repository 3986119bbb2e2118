import CarChain.Replication.JoinStates

/-! Steps of the requests while a server joins.

Without a write that ends at the old tail after its answer, requests leave every kind of
state of a join as it is, or take it to the next one.
-/

namespace CarChain

namespace Join

variable {size : Nat} {address : CString} {join after : Join}

section

variable {system : System} {list : ListT}

/-- Requests leave the views and the phases alone. -/
theorem Linked.request (h : Linked size join) (views : system.views = join.system.views)
    : Linked size { join with system } where
  answered := h.answered
  joinerView := by rw [views, h.joinerView]
  tail := by
    rw [views]
    exact h.tail
  ready := h.ready

/-- What the joiner holds depends on its own list alone. -/
theorem Holds.request (h : Holds join list) (same : system.lists 1 = join.system.lists 1)
    : Holds { join with system } list := by
  unfold Holds at h ⊢
  rw [same]
  exact h

/-- What holds of all requests and of a new version of one holds of all afterwards. -/
theorem forall_mem_set {holds : Call → Prop} {calls : List Call} {id : Nat} {new : Call}
    (all : ∀ call ∈ calls, holds call) (own : holds new)
    : ∀ call ∈ calls.set id new, holds call := by
  intro call member
  rcases List.mem_or_eq_of_mem_set member with before | rfl
  · exact all call before
  · exact own

theorem forall_mem_concat {holds : Call → Prop} {calls : List Call} {new : Call}
    (all : ∀ call ∈ calls, holds call) (own : holds new)
    : ∀ call ∈ calls ++ [new], holds call := by
  intro call member
  rcases List.mem_append.mp member with before | last
  · exact all call before
  · exact List.mem_singleton.mp last ▸ own

/-- A write between the servers stays there when only other requests change. -/
theorem Between.request {writer applied : Nat} {call : Call} {old new : ListT} {reply : MessageT}
    (h : Between size join writer call old new reply applied)
    (views : system.views = join.system.views) (lists : system.lists = join.system.lists)
    (found : system.calls[writer]? = some call)
    (others
      : ∀ id other, id ≠ writer → system.calls[id]? = some other → other.Outside)
    : Between size { join with system } writer call old new reply applied where
  linked := h.linked.request views
  found
  write := h.write
  handled := h.handled
  success := h.success
  started := h.started
  wave := h.wave
  tailList := (congrFun lists 0).trans h.tailList
  holds := h.holds.request (congrFun lists 1)
  sent := by
    rw [views]
    exact h.sent
  others

end

/-- A request that is sent waits at the old tail. -/
theorem Standing.send (h : Standing size join) (request : MessageT)
    : Standing size
        {
          join with
          system :=
            {
              join.system with
              calls := join.system.calls ++ [Call.new 0 request]
              events := join.system.events ++ [.sent join.system.calls.length]
            }
        } := by
  have own : (Call.new 0 request).Outside := .arriving rfl rfl
  rcases h with early | gaveUp | ⟨list, level⟩ | ⟨writer, call, old, new, reply, applied, between⟩
  · exact .inl ⟨early.unanswered, early.joinerList, early.joinerView, early.tailView,
      early.unpublished, early.unconnected, forall_mem_concat early.calls (.inl own)⟩
  · exact .inr (.inl ⟨gaveUp.view, gaveUp.waiting⟩)
  · exact .inr (.inr (.inl ⟨list, level.linked.request rfl, level.holds.request rfl, level.tailList,
      forall_mem_concat level.calls own⟩))
  · refine .inr (.inr (.inr ⟨writer, call, old, new, reply, applied,
      between.request rfl rfl ?_ (fun id other differ found => ?_)⟩))
    · exact (List.getElem?_append_left (System.lt_of_getElem? between.found)).trans between.found
    · rcases System.getElem?_concat_cases found with before | ⟨-, rfl⟩
      · exact between.others id other differ before
      · exact own

theorem Early.request {system : System} (h : Early size join)
    (views : system.views = join.system.views) (same : system.lists 1 = join.system.lists 1)
    (calls : ∀ call ∈ system.calls, call.Outside ∨ call.Ending)
    : Early size { join with system } where
  unanswered := h.unanswered
  joinerList := same.trans h.joinerList
  joinerView placed := by rw [views, h.joinerView placed]
  tailView := by rw [views, h.tailView]
  unpublished := h.unpublished
  unconnected := h.unconnected
  calls

/-- Handling a request at the old tail before it has answered the joiner. -/
theorem Early.lock {id node : Nat} {call : Call} (h : Early size join)
    (write : isWrtOp call.request = true) (found : join.system.calls[id]? = some call)
    (waiting : call.stage = .arriving node)
    : Early size { join with system := join.system.handle id call node [] } := by
  have outside : call.Outside := by
    rcases h.calls call (List.mem_of_getElem? found) with outside | ⟨forwarding, -⟩
    · exact outside
    · simp [forwarding] at waiting
  obtain ⟨rfl, frames⟩ := outside.waiting waiting
  rcases join.system.handle_write id 0 [] write with
    ⟨new, handled, -, crashed | ⟨reply, returning, kept⟩⟩ | ⟨reply, list, rest, handled, -, -⟩
  all_goals rw [handled]
  · exact h.request rfl rfl (forall_mem_set h.calls (.inl (.crashed crashed)))
  · exact h.request rfl rfl
      (forall_mem_set h.calls (.inl (.returning reply returning (kept.trans frames))))
  · exact h.request rfl rfl
      (forall_mem_set h.calls (.inr ⟨rfl, reply, by simp [Call.apply, frames]⟩))

/-- Handling a request at the old tail when both have one list. -/
theorem Level.lock {id node : Nat} {call : Call} {list : ListT} (h : Level size join list)
    (write : isWrtOp call.request = true) (found : join.system.calls[id]? = some call)
    (waiting : call.stage = .arriving node)
    : Standing size { join with system := join.system.handle id call node [] } := by
  obtain ⟨rfl, frames⟩ := (h.calls call (List.mem_of_getElem? found)).waiting waiting
  have level (new : Call) (outside : new.Outside)
      : Level size { join with system := join.system.setCall id new } list :=
    ⟨h.linked.request rfl, h.holds.request rfl, h.tailList, forall_mem_set h.calls outside⟩
  rcases join.system.handle_write id 0 [] write with
    ⟨new, handled, -, crashed | ⟨reply, returning, kept⟩⟩
    | ⟨reply, new, rest, handled, ran, success⟩
  all_goals rw [handled]
  · exact .inr (.inr (.inl ⟨list, level new (.crashed crashed)⟩))
  · exact .inr (.inr (.inl ⟨list, level new (.returning reply returning (kept.trans frames))⟩))
  · rw [h.tailList] at ran
    refine .inr (.inr (.inr ⟨id, call.apply 0 reply, list, new, reply, 1, {
      linked := h.linked.request rfl
      found :=
        (System.setCall_getElem? (System.lt_of_getElem? found) _ id).mpr (.inl ⟨rfl, rfl⟩)
      write
      handled := ⟨rest, ran⟩
      success
      started := Nat.one_pos
      wave := .forwarding rfl (by simp [Call.apply, frames, System.waveFrames]) (by decide)
      tailList := by simp
      holds := h.holds.request rfl
      sent := .inl ⟨rfl, rfl⟩
      others := fun other otherCall differ at_ => ?_
    }⟩))
    have before : join.system.calls[other]? = some otherCall :=
      (List.getElem?_set_ne (Ne.symm differ)).symm.trans at_
    exact h.calls otherCall (List.mem_of_getElem? before)

section

variable {writer applied id node : Nat} {call other : Call} {old new : ListT} {reply : MessageT}

/-- The old tail's view with a connection is not that of a last server. -/
theorem tailView_ne_last : tailView size true ≠ .last size := by
  simp [tailView, ChainView.last]

theorem tailView_hop : (tailView size true).hop = .send 1 := by
  have successor : (size : Int) - 1 < size + 1 - 1 := by omega
  simp only [tailView, ChainView.hop, ChainView.hasSuccessor, successor, decide_true, if_true]

theorem tailView_hop_unconnected : (tailView size false).hop = .missing := by
  have successor : (size : Int) - 1 < size + 1 - 1 := by omega
  simp only [tailView, ChainView.hop, ChainView.hasSuccessor, successor, decide_true, if_true,
    Bool.false_eq_true, if_false]

/-- A write that has left the old tail has gone to a joiner that listens. -/
theorem Between.listening (h : Between size join writer call old new reply applied)
    (view : join.system.views 0 = tailView size true)
    : join.joiner = .listening := by
  rcases h.linked.tail with ⟨last, -⟩ | ⟨-, -, listening⟩
  · exact absurd (view.symm.trans last) tailView_ne_last
  · exact listening

theorem holds_listening {list : ListT} (system : System) (listening : join.joiner = .listening)
    : Holds { join with system } list ↔ system.lists 1 = list := by
  simp [Holds, listening]

/-- A new version of the write leaves the other requests outside. -/
theorem Between.others_set (h : Between size join writer call old new reply applied)
    (updated : Call)
    : ∀ id other,
        id ≠ writer → (join.system.calls.set writer updated)[id]? = some other → other.Outside := by
  intro id other differ found
  rw [List.getElem?_set_ne (Ne.symm differ)] at found
  exact h.others id other differ found

/-- The write moves on without being handled anywhere. -/
theorem Between.moved (h : Between size join writer call old new reply applied)
    (same : other.request = call.request) (wave : System.Wave 2 other reply applied)
    (sent : other.stage = .forwarding ∧ applied = 1 ∨ join.system.views 0 = tailView size true)
    : Between size { join with system := join.system.setCall writer other } writer other old new
        reply applied where
  linked := h.linked.request rfl
  found := (System.setCall_getElem? (System.lt_of_getElem? h.found) _ writer).mpr (.inl ⟨rfl, rfl⟩)
  write := same ▸ h.write
  handled := same ▸ h.handled
  success := same ▸ h.success
  started := h.started
  wave
  tailList := h.tailList
  holds := h.holds.request rfl
  sent
  others := h.others_set other

/-- The reply leaves a server: the write goes back to the old tail, or is over. -/
theorem Between.returned {depth : Nat} (h : Between size join writer call old new reply applied)
    (all : applied = 2) (view : join.system.views 0 = tailView size true)
    (same : other.request = call.request) (stage : other.stage = .returning reply)
    (frames : other.frames = System.waveFrames reply depth)
    : Standing size { join with system := join.system.setCall writer other } := by
  rcases Nat.eq_zero_or_pos depth with rfl | deep
  · have holds := h.holds
    rw [if_pos all] at holds
    refine .inr (.inr (.inl ⟨new, h.linked.request rfl, holds.request rfl, h.tailList, ?_⟩))
    intro updated member
    obtain ⟨id, at_⟩ := List.getElem?_of_mem member
    rcases (System.setCall_getElem? (System.lt_of_getElem? h.found) _ id).mp at_ with
      ⟨-, rfl⟩ | ⟨differ, before⟩
    · exact .returning reply stage frames
    · exact h.others id updated differ before
  · exact .inr (.inr (.inr ⟨writer, other, old, new, reply, applied,
      h.moved same (.returning depth stage frames deep all) (.inr view)⟩))

/-- While a write is between the servers only the joiner handles a request, namely the write:
the old tail is not free.
-/
theorem Between.lock (h : Between size join writer call old new reply applied)
    (found : join.system.calls[id]? = some other) (waiting : other.stage = .arriving node)
    (free : join.system.Free node)
    : Standing size { join with system := join.system.handle id other node [] } := by
  by_cases own : id = writer
  · subst own
    cases h.found.symm.trans found
    have view : join.system.views 0 = tailView size true := by
      rcases h.sent with ⟨forwarding, -⟩ | view
      · simp [forwarding] at waiting
      · exact view
    obtain ⟨rfl, within, frames⟩ := h.wave.arrives waiting
    obtain ⟨rest, ran⟩ := h.handled
    obtain rfl : node = 1 := by
      have started := h.started
      omega
    have listening := h.listening view
    have own : join.system.lists 1 = old := (holds_listening join.system listening).mp h.holds
    rw [System.handle_forwarded (own.symm ▸ ran) (mustForward_accepted h.write h.success)]
    refine .inr (.inr (.inr ⟨id, call.apply 1 reply, old, new, reply, 2, {
      linked := h.linked.request rfl
      found :=
        (System.setCall_getElem? (System.lt_of_getElem? found) _ id).mpr (.inl ⟨rfl, rfl⟩)
      write := h.write
      handled := ⟨rest, ran⟩
      success := h.success
      started := Nat.two_pos
      wave := .forwarding rfl (by simp [Call.apply, frames, System.waveFrames]) (Nat.le_refl 2)
      tailList := by simpa using h.tailList
      holds := (holds_listening _ listening).mpr (by simp)
      sent := .inr view
      others := h.others_set _
    }⟩))
  · obtain ⟨rfl, -⟩ := (h.others id other own found).waiting waiting
    exact absurd rfl
      (free call (List.mem_of_getElem? h.found) _ (h.wave.head_mem h.started))

/-- Only the write reads a view: the old tail's, which by now names the joiner, or the
joiner's.
-/
theorem Between.forward {frame : Frame} {rest : List Frame}
    (h : Between size join writer call old new reply applied)
    (found : join.system.calls[id]? = some other) (stage : other.stage = .forwarding)
    (frames : other.frames = frame :: rest)
    (keepsUp : frame.node = 0 → (join.system.views 0).hop ≠ .stop)
    : Standing size
        {
          join with
          system :=
            join.system.setCall id (other.forward frame rest (join.system.views frame.node))
        } := by
  have own : id = writer := by
    by_contra differ
    exact (h.others id other differ found).not_forwarding stage
  subst own
  cases h.found.symm.trans found
  obtain ⟨within, last, rfl, rfl, rfl⟩ := h.wave.forwards h.started stage frames
  dsimp only
  obtain rfl | rfl : last = 0 ∨ last = 1 := by omega
  · have view : join.system.views 0 = tailView size true := by
      rcases h.linked.tail with ⟨last, -⟩ | ⟨view, -⟩
      -- here the write would end at the old tail
      · exact absurd (last ▸ ChainView.hop_last size) (keepsUp rfl)
      · exact view
    rw [Call.forward, view, tailView_hop]
    exact .inr (.inr (.inr ⟨id, _, old, new, reply, 1,
      h.moved rfl (.arriving rfl frames (by decide)) (.inr view)⟩))
  · have view : join.system.views 0 = tailView size true := by
      rcases h.sent with ⟨-, one⟩ | view
      · cases one
      · exact view
    rw [Call.forward, h.linked.joinerView, ChainView.hop_last]
    exact h.returned rfl view rfl rfl rfl

/-- The acknowledgement passes a server. -/
theorem Between.receive {frame : Frame} {rest : List Frame} {given : MessageT}
    (h : Between size join writer call old new reply applied)
    (found : join.system.calls[id]? = some other) (stage : other.stage = .returning given)
    (frames : other.frames = frame :: rest)
    : Standing size { join with system := join.system.setCall id (other.receive frame rest given) }
      := by
  have own : id = writer := by
    by_contra differ
    simp [(h.others id other differ found).returned stage] at frames
  subst own
  cases h.found.symm.trans found
  have view : join.system.views 0 = tailView size true := by
    rcases h.sent with ⟨forwarding, -⟩ | view
    · simp [forwarding] at stage
    · exact view
  obtain ⟨rfl, all, depth, rfl, rfl⟩ := h.wave.receives stage frames
  rw [Call.receive, if_pos (by simp [acknowledges, h.success])]
  exact h.returned all view rfl rfl rfl

end

/-- The old tail gives up its view for good. -/
theorem GaveUp.request {system : System} (h : GaveUp size join)
    (views : system.views = join.system.views)
    : GaveUp size { join with system } :=
  ⟨by rw [views, h.view], h.waiting⟩

section

variable {id : Nat} {call : Call}

theorem Standing.lock {node : Nat} (h : Standing size join)
    (write : isWrtOp call.request = true) (found : join.system.calls[id]? = some call)
    (waiting : call.stage = .arriving node) (free : join.system.Free node)
    : Standing size { join with system := join.system.handle id call node [] } := by
  rcases h with early | gaveUp | ⟨list, level⟩ | ⟨_, _, _, _, _, _, between⟩
  · exact .inl (early.lock write found waiting)
  · exact .inr (.inl (gaveUp.request (join.system.handle_views node [] id call)))
  · exact level.lock write found waiting
  · exact between.lock found waiting free

/-- Before the old tail's answer a write ends at the old tail; afterwards it may not. -/
theorem Standing.forward {frame : Frame} {rest : List Frame} (h : Standing size join)
    (found : join.system.calls[id]? = some call) (stage : call.stage = .forwarding)
    (frames : call.frames = frame :: rest)
    (keepsUp
      : join.joiner.answered = true
        → frame.node = 0
        → (join.system.views 0).hop ≠ .stop)
    : Standing size
        {
          join with
          system := join.system.setCall id (call.forward frame rest (join.system.views frame.node))
        } := by
  rcases h with early | gaveUp | ⟨list, level⟩ | ⟨_, _, _, _, _, _, between⟩
  · rcases early.calls call (List.mem_of_getElem? found) with outside | ⟨-, reply, ending⟩
    · exact absurd stage outside.not_forwarding
    · rw [ending] at frames
      obtain ⟨rfl, rfl⟩ := List.cons.inj frames
      dsimp only
      rw [Call.forward, early.tailView, ChainView.hop_last]
      exact .inl (early.request rfl rfl
        (forall_mem_set early.calls (.inl (.returning _ rfl rfl))))
  · exact .inr (.inl (gaveUp.request rfl))
  · exact absurd stage (level.calls call (List.mem_of_getElem? found)).not_forwarding
  · exact between.forward found stage frames
      (keepsUp between.linked.answered)

theorem Standing.receive {frame : Frame} {rest : List Frame} {reply : MessageT}
    (h : Standing size join) (found : join.system.calls[id]? = some call)
    (stage : call.stage = .returning reply) (frames : call.frames = frame :: rest)
    : Standing size
        { join with system := join.system.setCall id (call.receive frame rest reply) } := by
  have inside : ¬call.Outside := fun outside => by simp [outside.returned stage] at frames
  rcases h with early | gaveUp | ⟨list, level⟩ | ⟨_, _, _, _, _, _, between⟩
  · rcases early.calls call (List.mem_of_getElem? found) with outside | ⟨forwarding, -⟩
    · exact absurd outside inside
    · simp [forwarding] at stage
  · exact .inr (.inl (gaveUp.request rfl))
  · exact absurd (level.calls call (List.mem_of_getElem? found)) inside
  · exact between.receive found stage frames

/-- A request outside `zk_forward` is replied to. -/
theorem Standing.reply {reply : MessageT} (h : Standing size join)
    (found : join.system.calls[id]? = some call) (frames : call.frames = [])
    : Standing size
        {
          join with
          system :=
            {
              join.system.setCall id { call with stage := .answered } with
              events := join.system.events ++ [.replied id reply]
            }
        } := by
  have answered : ({ call with stage := .answered } : Call).Outside := .answered rfl
  rcases h with early | gaveUp | ⟨list, level⟩ | ⟨writer, busy, old, new, success, applied, between⟩
  · exact .inl (early.request rfl rfl (forall_mem_set early.calls (.inl answered)))
  · exact .inr (.inl (gaveUp.request rfl))
  · exact .inr (.inr (.inl ⟨list, level.linked.request rfl, level.holds.request rfl, level.tailList,
      forall_mem_set level.calls answered⟩))
  · have differ : id ≠ writer := by
      intro given
      subst given
      cases between.found.symm.trans found
      simpa [frames] using between.wave.head_mem between.started
    refine .inr (.inr (.inr ⟨writer, busy, old, new, success, applied,
      between.request rfl rfl ?_ (fun number other apart at_ => ?_)⟩))
    · exact (List.getElem?_set_ne differ).trans between.found
    · rcases (System.setCall_getElem? (System.lt_of_getElem? found) _ number).mp at_ with
        ⟨-, rfl⟩ | ⟨-, before⟩
      · exact answered
      · exact between.others number other apart before

end

end Join

end CarChain
