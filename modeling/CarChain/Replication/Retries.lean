import CarChain.Replication.WaveStates
import Mathlib.Algebra.GroupWithZero.Nat

/-! What the second attempts of `zk_forward` add up to.

A server that cannot apply a write replies with an error, and the server before it makes its
second attempt. That server replies with an error as well then, and so on up the chain: each
server is asked twice as often as the one before it, and applies the write each time.
-/

namespace CarChain

open CRuntime StepSystem

/-- The second attempts that are under way, read as binary digits from the head on: the times
that the server behind the innermost frame has been asked before.
-/
def timesAsked : List Frame → Nat
  | [] => 0
  | frame :: rest => 2 * timesAsked rest + frame.attempt

/-- The times that a server with a frame has applied the write. -/
def timesEntered : List Frame → Nat → Nat
  | [], _ => 0
  | _ :: rest, node => if node = rest.length then timesAsked rest + 1 else timesEntered rest node

/-- The times that a server has applied the write when the first one without a frame was asked
this many times and has replied.
-/
def copies (asked : Nat) (frames : List Frame) (node : Nat) : Nat :=
  if node < frames.length then timesEntered frames node else asked * 2 ^ (node - frames.length)

/-- The frames of the first servers of a chain, each at its first or second attempt. -/
def Stacked : List Frame → Prop
  | [] => True
  | frame :: rest => frame.node = rest.length ∧ frame.attempt ≤ 1 ∧ Stacked rest

section

variable {frame : Frame} {rest : List Frame}

theorem copies_nil (asked node : Nat) : copies asked [] node = asked * 2 ^ node := rfl

theorem copies_below {node : Nat} (asked : Nat) (frames : List Frame) (below : node < frames.length)
    : copies asked frames node = timesEntered frames node :=
  if_pos below

theorem copies_above {node : Nat} (asked : Nat) (frames : List Frame)
    (above : frames.length ≤ node)
    : copies asked frames node = asked * 2 ^ (node - frames.length) :=
  if_neg (Nat.not_lt.mpr above)

theorem timesEntered_cons_of_lt {node : Nat} (frame : Frame) (before : node < rest.length)
    : timesEntered (frame :: rest) node = timesEntered rest node := by
  rw [timesEntered, if_neg (Nat.ne_of_lt before)]

theorem timesEntered_cons_self (frame : Frame) (rest : List Frame)
    : timesEntered (frame :: rest) rest.length = timesAsked rest + 1 := by
  rw [timesEntered, if_pos rfl]

/-- Twice as many requests reach the servers behind one as reach it. -/
theorem copies_behind {node : Nat} (asked : Nat) (frame : Frame) (behind : rest.length < node)
    : copies (2 * asked) (frame :: rest) node = copies asked rest node := by
  have more : node - rest.length = node - (rest.length + 1) + 1 := by omega
  rw [copies_above _ _ (Nat.succ_le_of_lt behind), copies_above _ _ (Nat.le_of_lt behind),
    List.length_cons, more, Nat.pow_succ, Nat.mul_comm 2, Nat.mul_assoc, Nat.mul_comm 2]

/-- The first server without a frame applies the write once more. -/
theorem copies_apply (first : frame.attempt = 0) (node : Nat)
    : copies (timesAsked (frame :: rest)) (frame :: rest) node
      = copies (timesAsked rest) rest node + if node = rest.length then 1 else 0 := by
  rw [timesAsked, first, Nat.add_zero]
  rcases Nat.lt_trichotomy node rest.length with before | rfl | behind
  · rw [copies_below _ _ (Nat.lt_succ_of_lt before), copies_below _ _ before,
      timesEntered_cons_of_lt frame before, if_neg (Nat.ne_of_lt before), Nat.add_zero]
  · rw [copies_below _ _ (Nat.lt_succ_self _), copies_above _ _ (Nat.le_refl _),
      timesEntered_cons_self, if_pos rfl, Nat.sub_self, Nat.pow_zero, Nat.mul_one]
  · rw [copies_behind _ _ behind, if_neg (Nat.ne_of_gt behind), Nat.add_zero]

/-- A second attempt asks the next server once more. -/
theorem copies_retry (first : frame.attempt = 0) (node : Nat)
    : copies (timesAsked ({ frame with attempt := 1 } :: rest))
        ({ frame with attempt := 1 } :: rest) node
      = copies (timesAsked (frame :: rest) + 1) (frame :: rest) node := by
  simp [copies, timesEntered, timesAsked, first]

/-- A server whose second attempt fails has been asked once more. -/
theorem copies_return (second : frame.attempt = 1) (node : Nat)
    : copies (timesAsked rest + 1) rest node
      = copies (timesAsked (frame :: rest) + 1) (frame :: rest) node := by
  have twice : 2 * timesAsked rest + 1 + 1 = 2 * (timesAsked rest + 1) := by omega
  rw [timesAsked, second, twice]
  rcases Nat.lt_trichotomy node rest.length with before | rfl | behind
  · rw [copies_below _ _ before, copies_below _ _ (Nat.lt_succ_of_lt before),
      timesEntered_cons_of_lt frame before]
  · rw [copies_above _ _ (Nat.le_refl _), copies_below _ _ (Nat.lt_succ_self _),
      timesEntered_cons_self, Nat.sub_self, Nat.pow_zero, Nat.mul_one]
  · rw [copies_behind _ _ behind]

end

/-- The handler of an addition refuses it without its three allocations and appends the car
otherwise.
-/
theorem run_dispatch_addition {request : MessageT} {car : DataT} (list : ListT)
    (add : request.opcode = Opcode.opAdd) (asks : requestedCar request = some car)
    (script : List Bool)
    : ∃ rest,
        (dispatch request list).run script
          = .ok
              (
                if grants 3 script then (request.setSuccess CType.ctNone, list.appended car)
                else (request.setError, list),
                rest
              ) := by
  obtain ⟨rest, handled⟩ := run_handleAdd request list script
  rw [asks] at handled
  exact ⟨rest, (congrArg (StateT.run · script) (dispatch_add list add)).trans handled⟩

namespace System

/-- One addition at the head of a chain, for which one server has no memory whenever it is asked
and every other server has.
-/
def RefusedAt (refuser : Nat) (request : MessageT) (system : System) : Action → Prop
  | .send entry sent => system.calls = [] ∧ entry = 0 ∧ sent = request
  | .lock id script =>
      ∀ call ∈ system.calls[id]?, ∀ node ∈ call.waitingAt, grants 3 script = decide (node ≠ refuser)
  | .topology _ _ => False
  | .forward _ => True
  | .answer _ => True

instance (refuser : Nat) (request : MessageT) (system : System)
    : (action : Action) → Decidable (system.RefusedAt refuser request action)
  | .send entry sent =>
      inferInstanceAs (Decidable (system.calls = [] ∧ entry = 0 ∧ sent = request))
  | .lock id script =>
      inferInstanceAs
        (Decidable
          (∀ call ∈ system.calls[id]?, ∀ node ∈ call.waitingAt,
            grants 3 script = decide (node ≠ refuser)))
  | .topology _ _ => isFalse id
  | .forward _ => isTrue trivial
  | .answer _ => isTrue trivial

/-- The servers before the one that refuses have gained copies of the car, the others none. -/
def Gained (refuser : Nat) (car : DataT) (lists : Nat → ListT) (system : System)
    (times : Nat → Nat)
    : Prop :=
  ∀ node,
    (system.lists node).cars
      = (lists node).cars ++ List.replicate (if node < refuser then times node else 0) car

/-- Where the addition stands, and the copies there are then. -/
def Standing (refuser : Nat) (car : DataT) (lists : Nat → ListT) (system : System) (call : Call)
    : Prop :=
  match call.stage with
  | .arriving node =>
      node = call.frames.length
      ∧ system.Gained refuser car lists (copies (timesAsked call.frames) call.frames)
  | .forwarding =>
      call.frames ≠ []
      ∧ system.Gained refuser car lists (copies (timesAsked call.frames) call.frames)
  | .returning reply =>
      reply.opcode = Opcode.opError
      ∧ system.Gained refuser car lists (copies (timesAsked call.frames + 1) call.frames)
  | .answered => system.Gained refuser car lists (fun node => 2 ^ node)
  | .crashed => False

/-- What holds of the addition in every reachable state. -/
structure Retrying (n refuser : Nat) (request : MessageT) (car : DataT) (lists : Nat → ListT)
    (system : System) (call : Call)
    : Prop where
  views : system.views = chainViews n
  calls : system.calls = [call]
  request : call.request = request
  stacked : Stacked call.frames
  within : call.frames.length ≤ refuser
  standing : system.Standing refuser car lists call

-----------------------------------------------------------------------------------------
-- The steps of the addition
-----------------------------------------------------------------------------------------

variable {n refuser : Nat} {request : MessageT} {car : DataT} {lists : Nat → ListT}
  {system : System} {call : Call}

theorem Gained.congr {times other : Nat → Nat} (h : system.Gained refuser car lists times)
    (same : ∀ node, other node = times node)
    : system.Gained refuser car lists other := by
  intro node
  rw [same]
  exact h node

/-- A server before the one that refuses appends the car. -/
theorem Gained.append {times other : Nat → Nat} {node : Nat}
    (h : system.Gained refuser car lists times) (before : node < refuser)
    (more : ∀ place, other place = times place + if place = node then 1 else 0)
    : (system.setList node ((system.lists node).appended car)).Gained refuser car lists other := by
  intro place
  rw [more]
  by_cases here : place = node
  · subst here
    have had := h place
    rw [if_pos before] at had
    simp [setList, ListT.appended, had, before, List.replicate_succ']
  · simpa [setList, here] using h place

/-- The addition is replaced by what it has become. -/
theorem Retrying.moved {after : System} {new : Call}
    (h : Retrying n refuser request car lists system call)
    (calls : after.calls = system.calls.set 0 new) (views : after.views = system.views)
    (same : new.request = call.request) (stacked : Stacked new.frames)
    (within : new.frames.length ≤ refuser) (standing : after.Standing refuser car lists new)
    : ∃ new, Retrying n refuser request car lists after new :=
  ⟨new, views.trans h.views, by rw [calls, h.calls]; rfl, same.trans h.request, stacked, within,
    standing⟩

/-- The addition is handled: it goes on from a server that has memory and turns back at the one
that has none.
-/
theorem Retrying.lock {node : Nat} {script : List Bool}
    (h : Retrying n refuser request car lists system call) (add : request.opcode = Opcode.opAdd)
    (asks : requestedCar request = some car) (waiting : call.stage = .arriving node)
    (memory : grants 3 script = decide (node ≠ refuser))
    : ∃ new, Retrying n refuser request car lists (system.handle 0 call node script) new := by
  have standing := h.standing
  simp only [Standing, waiting] at standing
  obtain ⟨rfl, gained⟩ := standing
  have write : isWrtOp call.request = true := by simp [isWrtOp, h.request, add]
  obtain ⟨rest, ran⟩ := run_dispatch_addition (system.lists call.frames.length) add asks script
  rw [← h.request] at ran
  by_cases here : call.frames.length = refuser
  · rw [if_neg (by simp [memory, here])] at ran
    rw [handle_kept ran (by simp [mustForward]), setList_same rfl]
    refine h.moved rfl rfl rfl h.stacked h.within ⟨rfl, ?_⟩
    -- the server that refuses gains nothing, and neither do those behind it
    intro place
    have before := gained place
    by_cases early : place < refuser
    · rw [if_pos early] at before ⊢
      rw [copies_below _ _ (here ▸ early)] at before ⊢
      exact before
    · rw [if_neg early] at before ⊢
      exact before
  · have early : call.frames.length < refuser := Nat.lt_of_le_of_ne h.within here
    rw [if_pos (by simp [memory, here])] at ran
    rw [handle_forwarded ran (mustForward_accepted write rfl)]
    refine h.moved rfl rfl rfl ⟨rfl, Nat.zero_le 1, h.stacked⟩ early ⟨List.cons_ne_nil _ _, ?_⟩
    exact gained.append early (copies_apply rfl)

/-- The innermost frame sends the addition on. -/
theorem Retrying.forward {frame : Frame} {rest : List Frame}
    (h : Retrying n refuser request car lists system call) (within : refuser < n)
    (stage : call.stage = .forwarding) (frames : call.frames = frame :: rest)
    : ∃ new,
        Retrying n refuser request car lists
          (system.setCall 0 (call.forward frame rest (system.views frame.node))) new := by
  have standing := h.standing
  simp only [Standing, stage] at standing
  have stacked := h.stacked
  have few := h.within
  rw [frames] at stacked few
  rw [List.length_cons] at few
  have inner : frame.node + 1 < n := by
    rw [stacked.1]
    omega
  rw [h.views, Call.forward, chainViews_hop_inner inner]
  refine h.moved rfl rfl rfl h.stacked h.within ⟨?_, standing.2⟩
  rw [stacked.1, frames, List.length_cons]

/-- The innermost frame gets an error: it makes its second attempt, or passes the error on. -/
theorem Retrying.receive {frame : Frame} {rest : List Frame} {given : MessageT}
    (h : Retrying n refuser request car lists system call) (add : request.opcode = Opcode.opAdd)
    (stage : call.stage = .returning given) (frames : call.frames = frame :: rest)
    : ∃ new,
        Retrying n refuser request car lists (system.setCall 0 (call.receive frame rest given))
          new := by
  have standing := h.standing
  simp only [Standing, stage, frames] at standing
  obtain ⟨error, gained⟩ := standing
  have stacked := h.stacked
  have few := h.within
  rw [frames] at stacked few
  have refused : ¬acknowledges given call.request = true := by
    rw [acknowledges, error, h.request, add]
    decide
  rw [Call.receive, if_neg refused]
  by_cases first : frame.attempt = 0
  · rw [if_pos first]
    exact h.moved rfl rfl rfl ⟨stacked.1, Nat.le_refl 1, stacked.2.2⟩ few
      ⟨List.cons_ne_nil _ _, gained.congr (copies_retry first)⟩
  · rw [if_neg first]
    have second : frame.attempt = 1 := by
      have atMost := stacked.2.1
      omega
    exact h.moved rfl rfl rfl stacked.2.2 (Nat.le_of_succ_le few)
      ⟨rfl, gained.congr (copies_return second)⟩

/-- The error reaches the client. -/
theorem Retrying.answer {given : MessageT}
    (h : Retrying n refuser request car lists system call)
    (stage : call.stage = .returning given) (frames : call.frames = [])
    : ∃ new,
        Retrying n refuser request car lists
          {
            system.setCall 0 { call with stage := .answered } with
            events := system.events ++ [.replied 0 given]
          } new := by
  have standing := h.standing
  simp only [Standing, stage, frames] at standing
  have all : ∀ node, 2 ^ node = copies (timesAsked [] + 1) [] node := by
    intro node
    rw [copies_nil, timesAsked, Nat.zero_add, Nat.one_mul]
  exact h.moved rfl rfl rfl h.stacked h.within (standing.2.congr all)

-----------------------------------------------------------------------------------------
-- Runs
-----------------------------------------------------------------------------------------

/-- Nothing was sent yet, or the addition is on its way; every reply to the client is an error. -/
structure Refusing (n refuser : Nat) (request : MessageT) (car : DataT) (lists : Nat → ListT)
    (system : System)
    : Prop where
  phase
    : (system.calls = [] ∧ system.views = chainViews n ∧ system.lists = lists)
      ∨ ∃ call, Retrying n refuser request car lists system call
  errors : ∀ id reply, .replied id reply ∈ system.events → reply.opcode = Opcode.opError

theorem refusing_initial : Refusing n refuser request car lists (initial lists (chainViews n)) where
  phase := .inl ⟨rfl, rfl, rfl⟩
  errors id reply member := by cases member

/-- The addition is the one request there is. -/
theorem Refusing.found {id : Nat} (h : Refusing n refuser request car lists system)
    (found : system.calls[id]? = some call)
    : id = 0 ∧ Retrying n refuser request car lists system call := by
  rcases h.phase with ⟨none_, -⟩ | ⟨own, retrying⟩
  · simp [none_] at found
  · rw [retrying.calls] at found
    cases id with
    | zero =>
        cases found
        exact ⟨rfl, retrying⟩
    | succ id => simp at found

theorem refusing_step {action : Action} {after : System} (within : refuser < n)
    (add : request.opcode = Opcode.opAdd) (asks : requestedCar request = some car)
    (h : Refusing n refuser request car lists system)
    (permitted : system.RefusedAt refuser request action) (taken : step system action = some after)
    : Refusing n refuser request car lists after := by
  cases action with
  | send entry sent =>
      cases taken
      obtain ⟨none_, rfl, rfl⟩ := permitted
      rcases h.phase with ⟨-, views, same⟩ | ⟨own, retrying⟩
      · refine ⟨
          .inr ⟨Call.new 0 sent, views, by simp [none_], rfl, trivial, Nat.zero_le _, rfl, ?_⟩,
          fun id reply member => h.errors id reply (by simpa using member)
        ⟩
        intro node
        simp [same, Call.new, timesAsked, copies_nil]
      · rw [retrying.calls] at none_
        cases none_
  | lock id script =>
      obtain ⟨call, node, found, waiting, -, rfl⟩ := step_lock taken
      obtain ⟨rfl, retrying⟩ := h.found found
      have memory := permitted call found node (by simp [Call.waitingAt, waiting])
      refine ⟨.inr (retrying.lock add asks waiting memory), fun id reply member => ?_⟩
      rw [handle_events] at member
      exact h.errors id reply member
  | forward id =>
      obtain ⟨call, frame, rest, found, stage, frames, rfl⟩ := step_forward taken
      obtain ⟨rfl, retrying⟩ := h.found found
      exact ⟨.inr (retrying.forward within stage frames), h.errors⟩
  | answer id =>
      obtain ⟨call, given, found, stage, ⟨frame, rest, frames, rfl⟩ | ⟨frames, rfl⟩⟩ :=
        step_answer taken
      · obtain ⟨rfl, retrying⟩ := h.found found
        exact ⟨.inr (retrying.receive add stage frames), h.errors⟩
      · obtain ⟨rfl, retrying⟩ := h.found found
        refine ⟨.inr (retrying.answer stage frames), fun id reply member => ?_⟩
        rcases List.mem_append.mp member with before | new
        · exact h.errors id reply before
        · cases List.mem_singleton.mp new
          have standing := retrying.standing
          simp only [Standing, stage] at standing
          exact standing.1
  | topology node view => exact permitted.elim

/-- In a stable chain one server never has the memory for an addition. When its client has been
told that it failed, each server before that one has twice as many new copies of the car as the
server before it, starting with one at the head, and the others have none.
-/
theorem refused_addition_copies (within : refuser < n) (add : request.opcode = Opcode.opAdd)
    (asks : requestedCar request = some car)
    (reached
      : Reaches step (RefusedAt refuser request) (initial lists (chainViews n)) system)
    (answered : ∃ call ∈ system.calls, call.stage = .answered)
    : (∀ id reply, .replied id reply ∈ system.events → reply.opcode = Opcode.opError)
      ∧ ∀ node,
          (system.lists node).cars
            = (lists node).cars ++ List.replicate (if node < refuser then 2 ^ node else 0) car := by
  have h : Refusing n refuser request car lists system :=
    reached.invariant refusing_initial
      (fun _ _ _ => refusing_step within add asks)
  refine ⟨h.errors, ?_⟩
  obtain ⟨call, member, stage⟩ := answered
  obtain ⟨id, found⟩ := List.getElem?_of_mem member
  have standing := (h.found found).2.standing
  simp only [Standing, stage] at standing
  exact standing

/-- A server asks its successor, which has no memory for the addition, in both attempts. -/
def refusedByLast : List Action :=
  [.forward 0, .lock 0 [false], .answer 0, .forward 0, .lock 0 [true, false], .answer 0, .answer 0]

/-- The last of three servers has no memory for an addition: the one before it tries twice, and
then the head has it do all of that again.
-/
def refusedFourTimes : List Action :=
  [.send 0 (addRequest (clio 2020)), .lock 0 [], .forward 0, .lock 0 []]
  ++ refusedByLast
  ++ [.forward 0, .lock 0 []]
  ++ refusedByLast
  ++ [.answer 0]

theorem refused_addition_copies_three
    : ∃ system : System,
        (∃ call ∈ system.calls, call.stage = .answered)
        ∧ ∀ node,
            (system.lists node).cars
              = listCreate.cars
                ++ List.replicate (if node < 2 then 2 ^ node else 0) (clio 2020) := by
  have replayed
      : ∃ system,
          replay step (RefusedAt 2 (addRequest (clio 2020)))
              (initial (fun _ => listCreate) (chainViews 3)) refusedFourTimes
            = some system
          ∧ ∃ call ∈ system.calls, call.stage = .answered :=
    ⟨_, rfl, by decide⟩
  obtain ⟨system, ran, answered⟩ := replayed
  exact ⟨system, answered,
    (refused_addition_copies (by decide) rfl rfl (reaches_of_replay _ ran) answered).2⟩

end System

end CarChain
