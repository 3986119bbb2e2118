import CarChain.Replication.JoinRequests

/-! Whether the joiner has what the old tail has.

Until the old tail publishes the joiner it goes on as the last server, also after it has
answered the joiner: a write that ends there in between never reaches the joiner. Without
such a write the two lists are those of a chain of two, up to the write that is under way.
-/

namespace CarChain

open CStandard StepSystem

namespace Join

variable {size : Nat} {address : CString} {join after : Join}

/-- The joiner moves on while it does not listen, so the old tail has not published it. -/
theorem Linked.joiner {system : System} {phase : JoinerPhase} (h : Linked size join)
    (answered : phase.answered = true) (views : system.views = join.system.views)
    (deaf : join.joiner ≠ .listening)
    : Linked size { join with system, joiner := phase } where
  answered
  joinerView := by rw [views, h.joinerView]
  tail := by
    rcases h.tail with last | ⟨-, -, listening⟩
    · exact .inl (views ▸ last)
    · exact absurd listening deaf
  ready publishing := absurd (h.ready publishing) deaf

/-- After the old tail's answer the joiner touches only its own list. -/
structure JoinerKept (size : Nat) (join after : Join) : Prop where
  calls : after.system.calls = join.system.calls
  tailList : after.system.lists 0 = join.system.lists 0
  views : after.system.views = join.system.views
  linked : Linked size after
  holds : ∀ list, Holds join list → Holds after list

theorem Linked.joinerStep {list : ListT} (h : Linked size join) (holds : Holds join list)
    (taken : join.joinerStep size address = some after)
    : JoinerKept size join after := by
  have answered := h.answered
  unfold Join.joinerStep at taken
  split at taken
  case h_4 source phase =>
    have own : join.system.lists 1 = listCreate := by
      simp only [Holds, phase] at holds
      exact holds.1
    rw [own] at taken
    split at taken
    · rename_i copy rest ran
      cases taken
      have copied := zkSync_reliable ran
      exact {
        calls := rfl
        tailList := by simp
        views := rfl
        linked := h.joiner rfl rfl (by simp [phase])
        holds := fun _ held => by
          simp only [Holds, phase] at held ⊢
          simp [copied, held.2]
      }
    · cases taken
  case h_5 phase =>
    cases taken
    exact {
      calls := rfl
      tailList := rfl
      views := rfl
      linked := h.joiner rfl rfl (by simp [phase])
      holds := fun _ held => by simpa only [Holds, phase] using held
    }
  case h_6 => cases taken
  all_goals
    rename_i phase
    simp [phase, JoinerPhase.answered] at answered

/-- The step in which the old tail answers the joiner, which needs the list mutex. -/
theorem Early.joinerStep (h : Early size join)
    (taken : join.joinerStep size address = some after)
    : Standing size after := by
  have unanswered := h.unanswered
  unfold Join.joinerStep at taken
  split at taken
  case h_1 phase =>
    cases taken
    exact .inl { h with unanswered := rfl, joinerView := fun placed => by cases placed }
  case h_2 phase =>
    cases taken
    refine .inl {
      h with
      unanswered := rfl
      joinerView := fun _ => ?_
      tailView := by simpa [System.setView] using h.tailView
    }
    simp [System.setView, joinerTopology, ZkTopology.view, ChainView.last]
  case h_3 phase =>
    split at taken
    · rename_i free
      cases taken
      refine .inr (.inr (.inl ⟨(join.system.lists 0).ordered, ?_, ?_, ?_, ?_⟩))
      · exact {
          answered := rfl
          joinerView := h.joinerView phase
          tail := .inl ⟨h.tailView, h.unpublished⟩
          ready := fun publishing => absurd publishing h.unconnected
        }
      · simp [Holds, h.joinerList]
      · simp [exchange_reliable]
      · intro call member
        rcases h.calls call member with outside | ⟨-, reply, frames⟩
        · exact outside
        · exact absurd rfl (free call member _ (by rw [frames]; exact List.mem_singleton.mpr rfl))
    · cases taken
  all_goals
    rename_i phase
    simp [phase, JoinerPhase.answered] at unanswered

theorem GaveUp.joinerStep (h : GaveUp size join)
    (taken : join.joinerStep size address = some after)
    : GaveUp size after := by
  obtain ⟨view, waiting⟩ := h
  unfold Join.joinerStep at taken
  split at taken
  case h_2 =>
    cases taken
    exact ⟨by simpa [System.setView] using view, waiting⟩
  case h_3 | h_4 =>
    split at taken
    · cases taken
      exact ⟨view, waiting⟩
    · cases taken
  case h_6 => cases taken
  all_goals
    cases taken
    exact ⟨view, waiting⟩

theorem Standing.joinerStep (h : Standing size join)
    (taken : join.joinerStep size address = some after)
    : Standing size after := by
  rcases h with early | gaveUp | ⟨list, level⟩ | ⟨_, _, _, _, _, _, between⟩
  · exact early.joinerStep taken
  · exact .inr (.inl (gaveUp.joinerStep taken))
  · have kept := level.linked.joinerStep level.holds taken
    exact .inr (.inr (.inl ⟨list, kept.linked, kept.holds _ level.holds,
      kept.tailList.trans level.tailList, kept.calls ▸ level.calls⟩))
  · have kept := between.linked.joinerStep between.holds taken
    exact .inr (.inr (.inr ⟨_, _, _, _, _, _, {
      linked := kept.linked
      found := kept.calls ▸ between.found
      write := between.write
      handled := between.handled
      success := between.success
      started := between.started
      wave := between.wave
      tailList := kept.tailList.trans between.tailList
      holds := kept.holds _ between.holds
      sent := kept.views ▸ between.sent
      others := kept.calls ▸ between.others
    }⟩))

/-- A step of the update thread changes its phase, up to a connection to a joiner that
listens, or publishes a view.
-/
theorem updaterStep_cases (taken : join.updaterStep size = some after)
    : (∃ updater,
        after = { join with updater }
        ∧ join.updater ≠ .waiting
        ∧ updater ≠ .waiting
        ∧ (updater = .publishing true → join.joiner = .listening))
      ∨ ∃ connected,
          join.updater = .publishing connected
          ∧ after
            = {
                join with
                system := join.system.setView 0 (tailView size connected)
                updater := .waiting
              } := by
  unfold Join.updaterStep at taken
  split at taken
  case h_1 phase =>
    split at taken
    · cases taken
    · cases taken
      exact .inl ⟨_, rfl, by simp [phase], by simp, by simp⟩
  case h_2 phase =>
    cases taken
    exact .inl ⟨_, rfl, by simp [phase], by simp, by simp⟩
  case h_3 retry phase =>
    split at taken
    · rename_i listening
      cases taken
      exact .inl ⟨_, rfl, by simp [phase], by simp, fun _ => listening⟩
    · split at taken <;> cases taken <;>
        exact .inl ⟨_, rfl, by simp [phase], by simp, by simp⟩
  case h_4 connected phase =>
    cases taken
    exact .inr ⟨connected, phase, rfl⟩
  case h_5 => cases taken

theorem Linked.updater {updater : UpdaterPhase} (h : Linked size join)
    (before : join.updater ≠ .waiting) (unpublished : updater ≠ .waiting)
    (ready : updater = .publishing true → join.joiner = .listening)
    : Linked size { join with updater } where
  answered := h.answered
  joinerView := h.joinerView
  tail := by
    rcases h.tail with ⟨last, -⟩ | ⟨-, waiting, -⟩
    · exact .inl ⟨last, unpublished⟩
    · exact absurd waiting before
  ready

theorem Linked.publish (h : Linked size join) (publishing : join.updater = .publishing true)
    : Linked size
        {
          join with
          system := join.system.setView 0 (tailView size true)
          updater := .waiting
        } where
  answered := h.answered
  joinerView := by simpa [System.setView] using h.joinerView
  tail := .inr ⟨by simp [System.setView], rfl, h.ready publishing⟩
  ready published := by cases published

/-- The update thread connects to a joiner that listens, or gives up. -/
theorem Standing.updaterStep (h : Standing size join)
    (taken : join.updaterStep size = some after)
    : Standing size after := by
  rcases updaterStep_cases taken with
    ⟨updater, rfl, before, unpublished, ready⟩ | ⟨connected, publishing, rfl⟩
  · rcases h with early | gaveUp | ⟨list, level⟩ | ⟨_, _, _, _, _, _, between⟩
    · refine .inl { early with unpublished, unconnected := fun connected => ?_ }
      have unanswered := early.unanswered
      simp [ready connected, JoinerPhase.answered] at unanswered
    · exact absurd gaveUp.waiting before
    · exact .inr (.inr (.inl ⟨list,
        { level with linked := level.linked.updater before unpublished ready }⟩))
    · exact .inr (.inr (.inr ⟨_, _, _, _, _, _,
        { between with linked := between.linked.updater before unpublished ready }⟩))
  · cases connected with
    | false => exact .inr (.inl ⟨by simp [System.setView], rfl⟩)
    | true =>
        rcases h with early | gaveUp | ⟨list, level⟩ | ⟨_, _, _, _, _, _, between⟩
        · exact absurd publishing early.unconnected
        · simp [gaveUp.waiting] at publishing
        · exact .inr (.inr (.inl ⟨list, { level with linked := level.linked.publish publishing }⟩))
        · exact .inr (.inr (.inr ⟨_, _, _, _, _, _, {
            between with
            linked := between.linked.publish publishing
            sent := .inr (by simp [System.setView])
          }⟩))

/-- Neither of them touches a request. -/
theorem joinerStep_calls (taken : join.joinerStep size address = some after)
    : after.system.calls = join.system.calls := by
  unfold Join.joinerStep at taken
  split at taken
  case h_3 | h_4 =>
    split at taken
    · cases taken
      rfl
    · cases taken
  case h_6 => cases taken
  all_goals
    cases taken
    rfl

theorem updaterStep_calls (taken : join.updaterStep size = some after)
    : after.system.calls = join.system.calls := by
  rcases updaterStep_cases taken with ⟨updater, rfl, -⟩ | ⟨connected, -, rfl⟩ <;> rfl

-----------------------------------------------------------------------------------------
-- Runs
-----------------------------------------------------------------------------------------

/-- All requests are writes, and the join stands somewhere. -/
structure Inv (size : Nat) (join : Join) : Prop where
  writes : ∀ request ∈ join.system.calls.map Call.request, isWrtOp request = true
  standing : Standing size join

/-- With a connection and no write between them both have one list. -/
theorem Inv.lists_equal (h : Inv size join)
    (connected : (join.system.views 0).successor = some 1) (quiet : ¬join.system.WriteUnderWay)
    : join.system.lists 1 = join.system.lists 0 := by
  rcases h.standing with early | gaveUp | ⟨list, level⟩ | ⟨_, _, call, _, _, _, between⟩
  · simp [early.tailView, ChainView.last] at connected
  · simp [gaveUp.view, tailView] at connected
  · rcases level.linked.tail with ⟨last, -⟩ | ⟨-, -, listening⟩
    · simp [last, ChainView.last] at connected
    · rw [(holds_listening join.system listening).mp level.holds, level.tailList]
  · refine absurd ⟨_, List.mem_of_getElem? between.found, between.write, ?_⟩ quiet
    exact between.wave.insideForward between.started

/-- Every step of a request keeps the invariant, by the kinds of steps. -/
theorem inv_request {system : System} {action : Action} (h : Inv size join)
    (writesOnly : join.WritesOnly (.request action)) (keepsUp : join.KeepsUp (.request action))
    (taken : join.system.step action = some system)
    : Inv size { join with system } := by
  refine ⟨System.step_requests h.writes ?_ taken, ?_⟩
  · intro entry request given
    subst given
    exact writesOnly.2
  cases action with
  | send entry request =>
      obtain ⟨rfl, -⟩ := writesOnly
      cases taken
      exact h.standing.send request
  | lock id script =>
      cases writesOnly
      obtain ⟨call, node, found, waiting, free, rfl⟩ := System.step_lock taken
      have write := h.writes _ (List.mem_map_of_mem (List.mem_of_getElem? found))
      exact h.standing.lock write found waiting free
  | forward id =>
      obtain ⟨call, frame, rest, found, stage, frames, rfl⟩ := System.step_forward taken
      exact h.standing.forward found stage frames
        (fun answered => keepsUp answered call found frame (by simp [frames]))
  | answer id =>
      obtain ⟨call, reply, found, stage, ⟨frame, rest, frames, rfl⟩ | ⟨frames, rfl⟩⟩ :=
        System.step_answer taken
      · exact h.standing.receive found stage frames
      · exact h.standing.reply found frames
  | topology node view => exact writesOnly.elim

/-- A write that ends at the old tail after its answer is missing from what the joiner has. -/
theorem Inv.loses {system : System} {id : Nat} (h : Inv size join)
    (late : ¬join.KeepsUp (.request (.forward id)))
    (taken : join.system.step (.forward id) = some system)
    : ∃ list, Holds { join with system } list ∧ ¬list.cars.Perm (system.lists 0).cars := by
  obtain ⟨call, frame, rest, found, stage, frames, rfl⟩ := System.step_forward taken
  simp only [KeepsUp, Option.mem_def, found, Option.some.injEq, forall_eq', frames,
    List.head?_cons, Classical.not_imp, not_not] at late
  obtain ⟨answered, here, stop⟩ := late
  rcases h.standing with early | gaveUp | ⟨list, level⟩ | ⟨writer, own, old, new, _, _, between⟩
  · simp [early.unanswered] at answered
  · rw [gaveUp.view, tailView_hop_unconnected] at stop
    cases stop
  · exact absurd stage (level.calls call (List.mem_of_getElem? found)).not_forwarding
  · obtain rfl : id = writer := by
      by_contra differ
      exact (between.others id call differ found).not_forwarding stage
    cases between.found.symm.trans found
    obtain ⟨within, last, rfl, rfl, rfl⟩ := between.wave.forwards between.started stage frames
    cases here
    have holds := between.holds
    rw [if_neg (by decide)] at holds
    obtain ⟨rest, ran⟩ := between.handled
    refine ⟨old, holds.request rfl, fun rearranged => ?_⟩
    rcases run_dispatch_write between.write ran with ⟨-, -, changed⟩ | ⟨-, error, -⟩
    · exact changed (between.tailList ▸ rearranged.symm)
    · exact isWrtOp_success_ne between.write (between.success.symm.trans error)

/-- The steps of a join in which no write ends at the old tail after its answer. -/
def Orderly (join : Join) (action : JoinAction) : Prop :=
  join.WritesOnly action ∧ join.KeepsUp action

instance (join : Join) (action : JoinAction) : Decidable (join.Orderly action) :=
  inferInstanceAs (Decidable (_ ∧ _))

theorem inv_initial (size : Nat) (list : ListT) : Inv size (initial size list) where
  writes _ member := by cases member
  standing := .inl {
    unanswered := rfl
    joinerList := rfl
    joinerView := fun placed => by cases placed
    tailView := rfl
    unpublished := by simp [initial]
    unconnected := by simp [initial]
    calls := fun _ member => by cases member
  }

theorem inv_step {action : JoinAction} (h : Inv size join) (orderly : join.Orderly action)
    (taken : join.step size address action = some after)
    : Inv size after := by
  cases action with
  | request action =>
      obtain ⟨system, moved, rfl⟩ := Option.map_eq_some_iff.mp taken
      exact inv_request h orderly.1 orderly.2 moved
  | joiner => exact ⟨joinerStep_calls taken ▸ h.writes, h.standing.joinerStep taken⟩
  | updater => exact ⟨updaterStep_calls taken ▸ h.writes, h.standing.updaterStep taken⟩

/-- In every run in which no write ends at the old tail after it has answered the joiner: when
the old tail holds an open connection to the joiner and no write is in progress, the two have
the same cars.
-/
theorem join_loses_no_update {list : ListT}
    (reached : Reaches (step size address) Orderly (initial size list) join)
    (connected : (join.system.views 0).successor = some 1) (quiet : ¬join.system.WriteUnderWay)
    : (join.system.lists 1).cars.Perm (join.system.lists 0).cars := by
  have inv := reached.invariant (inv_initial size list)
    (fun _ _ _ inv orderly taken => inv_step inv orderly taken)
  rw [inv.lists_equal connected quiet]

/-- A car before the join and one after it. -/
theorem join_loses_no_update_two
    : ∃ join : Join,
        (join.system.lists 0).cars.length = 2
        ∧ (join.system.lists 1).cars.Perm (join.system.lists 0).cars := by
  have reached
      : Reaches (step 1 (CString.literal "localhost:8000")) Orderly (initial 1 listCreate) _ :=
    reaches_of_replay [
      .request (.send 0 (addRequest (clio 2020))), .request (.lock 0 []), .request (.forward 0),
      .request (.answer 0),
      .joiner, .joiner, .joiner, .joiner, .joiner, .updater, .updater, .updater, .updater,
      .request (.send 0 (addRequest (clio 2010))), .request (.lock 1 []), .request (.forward 1),
      .request (.lock 1 []), .request (.forward 1), .request (.answer 1), .request (.answer 1)
    ] rfl
  exact ⟨_, rfl, join_loses_no_update reached rfl (by decide)⟩

/-- An ADD that ends at the old tail between its answer to the joiner and its new view is
reported as done and never reaches the joiner.
-/
theorem join_loses_update
    : ∃ join : Join,
        Reaches (step 1 (CString.literal "localhost:8000")) WritesOnly (initial 1 listCreate) join
        ∧ (join.system.views 0).successor = some 1
        ∧ ¬join.system.WriteUnderWay
        ∧ ¬(join.system.lists 1).cars.Perm (join.system.lists 0).cars := by
  have reached
      : Reaches (step 1 (CString.literal "localhost:8000")) WritesOnly (initial 1 listCreate) _ :=
    reaches_of_replay [
      .joiner, .joiner, .joiner,
      .request (.send 0 (addRequest (clio 2020))), .request (.lock 0 []), .request (.forward 0),
      .request (.answer 0),
      .joiner, .joiner, .updater, .updater, .updater, .updater
    ] rfl
  exact ⟨_, reached, rfl, by decide, by decide⟩

end Join

end CarChain
