import CarChain.Errors.SyncOutcomes
import CarChain.Replication.Join
import CarChain.Replication.Waves

/-! The states of a join.

Until the old tail publishes the joiner it goes on as the last server, also after it has
answered the joiner.
-/

namespace CarChain

open CRuntime CStandard

theorem ChainView.hop_last (size : Nat) : (ChainView.last size : ChainView Nat).hop = .stop := by
  simp [ChainView.last, ChainView.hop, ChainView.hasSuccessor]

/-- A request that is not inside `zk_forward`. -/
inductive Call.Outside (call : Call) : Prop where
  | arriving (stage : call.stage = .arriving 0) (frames : call.frames = [])
  | returning (reply : MessageT) (stage : call.stage = .returning reply) (frames : call.frames = [])
  | answered (stage : call.stage = .answered)
  | crashed (stage : call.stage = .crashed)

/-- A write that the old tail has applied and not yet looked for a successor. -/
def Call.Ending (call : Call) : Prop :=
  call.stage = .forwarding ∧ ∃ reply, call.frames = [⟨0, reply, 0⟩]

namespace Call

variable {call : Call}

theorem Outside.waiting {node : Nat} (h : call.Outside) (waiting : call.stage = .arriving node)
    : node = 0 ∧ call.frames = [] := by
  cases h with
  | arriving stage frames =>
      rw [stage] at waiting
      cases waiting
      exact ⟨rfl, frames⟩
  | returning reply stage => simp [stage] at waiting
  | answered stage => simp [stage] at waiting
  | crashed stage => simp [stage] at waiting

theorem Outside.not_forwarding (h : call.Outside) : call.stage ≠ .forwarding := by
  cases h <;> simp [*]

theorem Outside.returned {reply : MessageT} (h : call.Outside)
    (returning : call.stage = .returning reply)
    : call.frames = [] := by
  cases h with
  | returning reply stage frames => exact frames
  | arriving stage => simp [stage] at returning
  | answered stage => simp [stage] at returning
  | crashed stage => simp [stage] at returning

end Call

namespace Join

variable {size : Nat} {address : CString} {join after : Join}

theorem reliable_answers (list : ListT) : (SyncPeer.reliable list).Answers :=
  ⟨rfl, grants_nil _, Nat.zero_le _, rfl⟩

theorem exchange_reliable (list : ListT) : (SyncPeer.reliable list).exchange.2 = list.ordered :=
  congrArg Prod.snd (SyncPeer.exchange_answered (reliable_answers list))

/-- Without failures the joiner gets the list that the old tail answered with. -/
theorem zkSync_reliable {source list : ListT} {rest : List Bool}
    (ran
      : (zkSync (.reliable source) (joinerTopology size address) listCreate).run []
        = .ok ((0, list), rest))
    : list = source.ordered := by
  have known : KnowsPredecessor (joinerTopology size address) [] := by
    simp [KnowsPredecessor, joinerTopology]
  have copies : CopiesAll (SyncPeer.reliable source) [] := by
    simp [CopiesAll, LinksGranted]
  have accepts : (SyncPeer.reliable source).accepts = true := rfl
  have full := (syncsFully_answered known accepts (reliable_answers source)).mpr (.inr copies)
  rw [full list rest ran, SyncPeer.listAfter, if_pos ⟨known, accepts⟩, exchange_reliable]

-----------------------------------------------------------------------------------------
-- The kinds of states
-----------------------------------------------------------------------------------------

/-- The list that the joiner has, or is about to have, after the old tail's answer. -/
def Holds (join : Join) (list : ListT) : Prop :=
  match join.joiner with
  | .copying source => join.system.lists 1 = listCreate ∧ source.ordered = list
  | .synced => join.system.lists 1 = list
  | .listening => join.system.lists 1 = list
  | _ => False

/-- The old tail has not answered the joiner. -/
structure Early (size : Nat) (join : Join) : Prop where
  unanswered : join.joiner.answered = false
  joinerList : join.system.lists 1 = listCreate
  joinerView : join.joiner = .placed → join.system.views 1 = .last (size + 1)
  tailView : join.system.views 0 = .last size
  unpublished : join.updater ≠ .waiting
  unconnected : join.updater ≠ .publishing true
  calls : ∀ call ∈ join.system.calls, call.Outside ∨ call.Ending

/-- The old tail has published the joiner without a connection, for good. -/
structure GaveUp (size : Nat) (join : Join) : Prop where
  view : join.system.views 0 = tailView size false
  waiting : join.updater = .waiting

/-- The old tail is still the last server or has published its connection to the joiner. -/
structure Linked (size : Nat) (join : Join) : Prop where
  answered : join.joiner.answered = true
  joinerView : join.system.views 1 = .last (size + 1)
  tail
    : join.system.views 0 = .last size ∧ join.updater ≠ .waiting
      ∨ join.system.views 0 = tailView size true
        ∧ join.updater = .waiting
        ∧ join.joiner = .listening
  ready : join.updater = .publishing true → join.joiner = .listening

/-- Both have one list, and no write is between them. -/
structure Level (size : Nat) (join : Join) (list : ListT) : Prop where
  linked : Linked size join
  holds : Holds join list
  tailList : join.system.lists 0 = list
  calls : ∀ call ∈ join.system.calls, call.Outside

/-- One write has been applied by the old tail, and perhaps by the joiner. -/
structure Between (size : Nat) (join : Join) (writer : Nat) (call : Call) (old new : ListT)
    (reply : MessageT) (applied : Nat)
    : Prop where
  linked : Linked size join
  found : join.system.calls[writer]? = some call
  write : isWrtOp call.request = true
  handled : ∃ rest, (dispatch call.request old).run [] = .ok ((reply, new), rest)
  success : reply.opcode = call.request.opcode + 1
  started : 0 < applied
  wave : System.Wave 2 call reply applied
  tailList : join.system.lists 0 = new
  holds : Holds join (if applied = 2 then new else old)
  sent : call.stage = .forwarding ∧ applied = 1 ∨ join.system.views 0 = tailView size true
  others
    : ∀ id other, id ≠ writer → join.system.calls[id]? = some other → other.Outside

/-- Where a join stands. -/
def Standing (size : Nat) (join : Join) : Prop :=
  Early size join
  ∨ GaveUp size join
  ∨ (∃ list, Level size join list)
  ∨ ∃ writer call old new reply applied, Between size join writer call old new reply applied

end Join

end CarChain
