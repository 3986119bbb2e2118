import CarChain.Membership.Registration
import CarChain.Membership.UpdateProgress
import Mathlib.Data.Set.List

/-! The servers of a chain beside one another (`list_server.c`, `zk_server.c`).

They share the children of `/chain`. `zk_register` adds one, and ZooKeeper removes it once the
session of its server has ended. Every change fires the watches of all servers that are in the
chain, and each of them follows it with its own threads, at its own pace.
-/

namespace CarChain

open CStandard StepSystem

/-- The node of a server at ZooKeeper: not created yet, there, or removed with its session. -/
inductive NodePhase where
  | absent
  | present
  | removed
  deriving DecidableEq

structure Cluster (Server : Type) where
  members : List CString
  node : Server → NodePhase
  thread : Server → ThreadState

inductive ClusterAction (Server : Type) where
  | register (server : Server) (children : List CString)
  | remove (server : Server) (children : List CString)
  | act (server : Server) (action : ThreadAction)
  deriving DecidableEq

namespace Cluster

variable {Server : Type}

/-- The servers as they are started, with the names that ZooKeeper will give their nodes. -/
def initial (own : Server → CString) : Cluster Server where
  members := []
  node _ := .absent
  thread server := .initial [own server]

/-- The children change, and the servers among them see it. -/
def change (own : Server → CString) (cluster : Cluster Server) (children : List CString)
    : Cluster Server :=
  {
    cluster with
    members := children
    thread := fun server =>
      if cluster.node server = .present then
        ((cluster.thread server).step (own server) (.change children)).getD
          (cluster.thread server)
      else
        cluster.thread server
  }

def withThread [DecidableEq Server] (cluster : Cluster Server) (server : Server)
    (thread : ThreadState)
    : Cluster Server :=
  { cluster with thread := Function.update cluster.thread server thread }

/-- What a thread can do with its node in this phase. The session of a server that is in the
chain has not expired, and one that is not in the chain gets no children from ZooKeeper.
-/
def allows : NodePhase → ThreadAction → Bool
  | _, .change _ => false
  | .present, .sessionExpired => false
  | .present, _ => true
  | phase, .startUp action => phase = .removed ∧ action = .swap .main
  | _, .update action => action = .swap .thread
  | _, _ => true

/-- One step of a cluster. A child comes and goes with its server, and the children are in any
order.
-/
def step [DecidableEq Server] (own : Server → CString) (cluster : Cluster Server)
    : ClusterAction Server → Option (Cluster Server)
  | .register server children =>
      if cluster.node server = .absent
        ∧ (cluster.thread server).main = .serving
        ∧ (cluster.thread server).expired = false
        ∧ children.Perm (own server :: cluster.members) then
        some
          ({ cluster with node := Function.update cluster.node server .present }.change own
            children)
      else
        none
  | .remove server children =>
      if cluster.node server = .present
        ∧ children.Perm (cluster.members.erase (own server)) then
        some
          ({ cluster with node := Function.update cluster.node server .removed }.change own
            children)
      else
        none
  | .act server action =>
      if allows (cluster.node server) action then
        ((cluster.thread server).step (own server) action).map (cluster.withThread server)
      else
        none

/-- The steps of a server are undisturbed for as long as its node has not been removed. -/
def Undisturbed (cluster : Cluster Server) : ClusterAction Server → Prop
  | .act server action =>
      cluster.node server ≠ .removed → (cluster.thread server).Undisturbed action
  | _ => True

instance (cluster : Cluster Server) : DecidablePred cluster.Undisturbed := fun action =>
  match action with
  | .act server action =>
      inferInstanceAs
        (Decidable
          (cluster.node server ≠ .removed → (cluster.thread server).Undisturbed action))
  | .register _ _ => inferInstanceAs (Decidable True)
  | .remove _ _ => inferInstanceAs (Decidable True)

-----------------------------------------------------------------------------------------
-- Each server takes the steps of its threads
-----------------------------------------------------------------------------------------

/-- What holds of every state reached: a server whose node has not been removed has taken steps
of its own threads, and those in the chain are the children.
-/
structure Formed (own : Server → CString) (cluster : Cluster Server) : Prop where
  threads
    : ∀ server,
        cluster.node server ≠ .removed
        → Reaches (ThreadState.step (own server)) ThreadState.Undisturbed
            (.initial [own server]) (cluster.thread server)
  told
    : ∀ server,
        cluster.node server = .present
        → (cluster.thread server).watch.members = cluster.members
          ∧ (cluster.thread server).expired = false
  listed
    : ∀ name,
        name ∈ cluster.members ↔ ∃ server, cluster.node server = .present ∧ own server = name
  once : cluster.members.Nodup

variable {own : Server → CString} {cluster after : Cluster Server}

theorem formed_initial (own : Server → CString) : (initial own).Formed own := by
  constructor
  · exact fun _ _ => .start
  · exact fun _ present => by cases present
  · simp [initial]
  · exact List.nodup_nil

/-- A server that is told of a change takes a step of its threads. -/
theorem change_thread {children : List CString} {server : Server}
    (present : cluster.node server = .present) (among : own server ∈ children)
    : (cluster.thread server).step (own server) (.change children)
      = some ((cluster.change own children).thread server) := by
  simp [change, present, ThreadState.step, ThreadState.withWatch, WatchState.step, among]

theorem change_keeps {children : List CString} {server : Server}
    (present : cluster.node server = .present) (among : own server ∈ children)
    : ((cluster.change own children).thread server).watch.members = children
      ∧ ((cluster.change own children).thread server).expired
        = (cluster.thread server).expired := by
  simp [change, present, ThreadState.step, ThreadState.withWatch, WatchState.step, among]

theorem change_absent {children : List CString} {server : Server}
    (elsewhere : cluster.node server ≠ .present)
    : (cluster.change own children).thread server = cluster.thread server := by
  simp [change, elsewhere]

theorem withThread_thread_self [DecidableEq Server] {server : Server} {thread : ThreadState}
    : (cluster.withThread server thread).thread server = thread :=
  Function.update_self ..

theorem withThread_thread_of_ne [DecidableEq Server] {server other : Server}
    {thread : ThreadState} (apart : other ≠ server)
    : (cluster.withThread server thread).thread other = cluster.thread other :=
  Function.update_of_ne apart ..

/-- A change keeps what holds, if the new children are those of the servers in the chain. -/
theorem formed_change {children : List CString}
    (threads
      : ∀ server,
          cluster.node server ≠ .removed
          → Reaches (ThreadState.step (own server)) ThreadState.Undisturbed
              (.initial [own server]) (cluster.thread server))
    (lives
      : ∀ server, cluster.node server = .present → (cluster.thread server).expired = false)
    (listed
      : ∀ name,
          name ∈ children ↔ ∃ server, cluster.node server = .present ∧ own server = name)
    (once : children.Nodup)
    : (cluster.change own children).Formed own := by
  have among {server : Server} (present : cluster.node server = .present)
      : own server ∈ children :=
    (listed _).mpr ⟨server, present, rfl⟩
  refine ⟨fun server stays => ?_, fun server (present : cluster.node server = .present) => ?_,
    listed, once⟩
  · by_cases present : cluster.node server = .present
    · have permitted : (cluster.thread server).Undisturbed (.change children) := ⟨nofun, nofun⟩
      exact .next (threads server stays) permitted (change_thread present (among present))
    · rw [change_absent present]
      exact threads server stays
  · obtain ⟨members, expired⟩ := change_keeps present (among present)
    exact ⟨members, expired.trans (lives server present)⟩

/-- No step of its threads ends the session of a server or changes the children. -/
theorem allowed_keeps {name : CString} {state state' : ThreadState} {action : ThreadAction}
    (allowed : allows .present action) (advances : ThreadState.Advances name state action state')
    : state'.watch.members = state.watch.members ∧ state'.expired = state.expired := by
  cases advances with
  | change | sessionExpired => cases allowed
  | checkConnected | wakeMain | timeOut | threadCreated | threadRefused | disconnect | cleanup
  | testActive | fallAsleep | endThread | wakeUpdater | updateFails | found | notFound
  | updateDone =>
      exact ⟨rfl, rfl⟩
  | startUp action watch serving call stepped =>
      exact ⟨(WatchState.call_keeps call stepped).2.2.2.2, rfl⟩
  | update action watch updating call handle stepped =>
      exact ⟨(WatchState.call_keeps call stepped).2.2.2.2, rfl⟩
  | sessionConnected woken after handle signalled =>
      rcases ThreadState.signal_eq_some signalled with ⟨-, rfl⟩ | ⟨-, rfl⟩ | ⟨-, -, rfl⟩ <;>
        exact ⟨rfl, rfl⟩
  | childEvent woken watch after handle stepped signalled =>
      obtain ⟨-, rfl⟩ := WatchState.deliver_eq_some stepped
      rcases ThreadState.signal_eq_some signalled with ⟨-, rfl⟩ | ⟨-, rfl⟩ | ⟨-, -, rfl⟩ <;>
        exact ⟨rfl, rfl⟩
  | takeUpdate watch locking stepped =>
      obtain ⟨-, -, rfl⟩ := WatchState.take_eq_some stepped
      exact ⟨rfl, rfl⟩

/-- Every step keeps it. -/
theorem formed_step [DecidableEq Server] {action : ClusterAction Server}
    (distinct : Function.Injective own) (formed : cluster.Formed own)
    (undisturbed : cluster.Undisturbed action) (taken : cluster.step own action = some after)
    : after.Formed own := by
  obtain ⟨threads, told, listed, once⟩ := formed
  cases action with
  | register server children =>
      simp only [step, Option.ite_none_right_eq_some, Option.some.injEq] at taken
      obtain ⟨⟨absent, -, lives, permuted⟩, rfl⟩ := taken
      have fresh : own server ∉ cluster.members := by
        rw [listed]
        rintro ⟨other, present, same⟩
        rw [distinct same, absent] at present
        cases present
      refine formed_change (fun other stays => ?_) (fun other present => ?_) (fun name => ?_) ?_
      · by_cases same : other = server
        · exact threads other (by simp [same, absent])
        · exact threads other (by simpa [Function.update_of_ne same] using stays)
      · by_cases same : other = server
        · exact same ▸ lives
        · exact (told other (by simpa [Function.update_of_ne same] using present)).2
      · rw [permuted.mem_iff, List.mem_cons, listed]
        constructor
        · rintro (rfl | ⟨other, present, rfl⟩)
          · exact ⟨server, Function.update_self .., rfl⟩
          · have apart : other ≠ server := by
              rintro rfl
              simp [absent] at present
            exact ⟨other, by simpa [Function.update_of_ne apart] using present, rfl⟩
        · rintro ⟨other, present, rfl⟩
          by_cases same : other = server
          · exact .inl (by rw [same])
          · exact .inr ⟨other, by simpa [Function.update_of_ne same] using present, rfl⟩
      · exact permuted.nodup_iff.mpr (List.nodup_cons.mpr ⟨fresh, once⟩)
  | remove server children =>
      simp only [step, Option.ite_none_right_eq_some, Option.some.injEq] at taken
      obtain ⟨⟨present, permuted⟩, rfl⟩ := taken
      have stayed {other : Server} {phase : NodePhase} (differs : phase ≠ .removed)
          (there : Function.update cluster.node server .removed other = phase)
          : other ≠ server ∧ cluster.node other = phase := by
        by_cases same : other = server
        · subst same
          rw [Function.update_self] at there
          exact absurd there.symm differs
        · exact ⟨same, by rwa [Function.update_of_ne same] at there⟩
      refine formed_change (fun other stays => ?_) (fun other there => ?_) (fun name => ?_) ?_
      · obtain ⟨-, before⟩ := stayed stays rfl
        exact threads other (before ▸ stays)
      · exact (told other (stayed (by decide) there).2).2
      · rw [permuted.mem_iff, once.mem_erase_iff, listed]
        constructor
        · rintro ⟨differs, other, there, rfl⟩
          have apart : other ≠ server := fun same => differs (by rw [same])
          exact ⟨other, by simpa [Function.update_of_ne apart] using there, rfl⟩
        · rintro ⟨other, there, rfl⟩
          obtain ⟨apart, before⟩ := stayed (by decide) there
          exact ⟨fun same => apart (distinct same), other, before, rfl⟩
      · exact permuted.nodup_iff.mpr (once.erase _)
  | act server action =>
      simp only [step, Option.ite_none_right_eq_some] at taken
      obtain ⟨allowed, taken⟩ := taken
      obtain ⟨thread, stepped, rfl⟩ := Option.map_eq_some_iff.mp taken
      refine ⟨fun other stays => ?_, fun other present => ?_, listed, once⟩
      · by_cases same : other = server
        · subst same
          rw [withThread_thread_self]
          exact .next (threads other stays) (undisturbed stays) stepped
        · rw [withThread_thread_of_ne same]
          exact threads other stays
      · by_cases same : other = server
        · subst same
          have there : cluster.node other = .present := present
          obtain ⟨members, expired⟩ :=
            allowed_keeps (there ▸ allowed) (ThreadState.advances_of_step stepped)
          rw [withThread_thread_self, members, expired]
          exact told other there
        · rw [withThread_thread_of_ne same]
          exact told other present

-----------------------------------------------------------------------------------------
-- What the servers owe
-----------------------------------------------------------------------------------------

end Cluster

namespace ThreadState

/-- The steps that answer a change: events, the start-up call, and the update thread. -/
def isOwed : ThreadAction → Bool
  | .startUp _ | .childEvent _ => true
  | action => isUpdaterStep action

/-- The steps that a server has left to make if nothing else happens to it. Its start-up call
looks for the server in the step that publishes.
-/
def owed (state : ThreadState) : Nat :=
  stepsLeft state + (state.watch.fired + callLeft state.watch.main true)

variable {own : CString} {state after : ThreadState}

theorem callLeft_true_le (phase : Option CallPhase)
    : callLeft phase true ≤ callLeft phase false := by
  rcases phase with _ | _ | _ | _ <;> simp [callLeft]

/-- Each event is delivered once, and the start-up call comes to its end. -/
theorem awaited_step {action : ThreadAction} (quiet : Quiet state action)
    (advances : Advances own state action after)
    : after.watch.fired
        + callLeft after.watch.main true
        + (if isOwed action ∧ ¬isUpdaterStep action then 1 else 0)
      ≤ state.watch.fired + callLeft state.watch.main true := by
  cases advances with
  | change => cases quiet
  | checkConnected | wakeMain | timeOut | threadCreated | threadRefused | disconnect | cleanup
  | sessionExpired | testActive | fallAsleep | endThread | wakeUpdater | found | notFound
  | updateDone | updateFails =>
      exact Nat.le_refl _
  | startUp action watch serving call stepped =>
      obtain ⟨-, fired, -⟩ := WatchState.call_keeps call stepped
      have less : callLeft watch.main false + 1 = callLeft state.watch.main true :=
        callLeft_step call (fun _ => rfl) stepped
      have located := callLeft_true_le watch.main
      simp only [isOwed, isUpdaterStep, fired]
      simp only [Bool.false_eq_true, not_false_eq_true, and_self, if_true]
      omega
  | sessionConnected woken after handle signalled =>
      rw [(follows_signal signalled).1]
      exact Nat.le_refl _
  | childEvent woken watch after handle stepped signalled =>
      obtain ⟨positive, rfl⟩ := WatchState.deliver_eq_some stepped
      rw [(follows_signal signalled).1]
      simp only [isOwed, isUpdaterStep]
      simp only [Bool.false_eq_true, not_false_eq_true, and_self, if_true]
      omega
  | takeUpdate watch locking stepped =>
      obtain ⟨-, -, rfl⟩ := WatchState.take_eq_some stepped
      exact Nat.le_refl _
  | update action watch updating call handle stepped =>
      obtain ⟨-, fired, -, main, -⟩ := WatchState.call_keeps call stepped
      simp [isOwed, isUpdaterStep, fired, main rfl]

/-- The start-up call of a server that serves can go on. -/
theorem startUp_continues {phase : CallPhase} (own : CString) (serves : state.main = .serving)
    (calling : state.watch.main = some phase)
    : ∃ action, (step own state (.startUp action)).isSome := by
  cases phase with
  | entered =>
      exact ⟨.watch .main, by
        simp [step, serves, withWatch, WatchState.step, WatchState.call, calling,
          WatchAction.isCallOf]⟩
  | watched =>
      exact ⟨.read .main, by
        simp [step, serves, withWatch, WatchState.step, WatchState.call, calling,
          WatchAction.isCallOf]⟩
  | read children seen =>
      exact ⟨.swap .main, by
        simp [step, serves, withWatch, WatchState.step, WatchState.call, calling,
          WatchAction.isCallOf]⟩

/-- An event that is due can wake the update thread. -/
theorem childEvent_continues (own : CString) (serves : state.main = .serving)
    (asleep : state.updater = .asleep) (fired : 0 < state.watch.fired)
    : (step own state (.childEvent .updater)).isSome := by
  simp [step, HandleOpen, serves, withWatch, WatchState.step, fired, signal, asleep]

/-- A server that sleeps owes nothing once its start-up call and the events are over. -/
theorem owes_nothing (asleep : state.updater = .asleep) (startedUp : state.watch.main = none)
    (delivered : state.watch.fired = 0)
    : ∀ action, isOwed action → step own state action = none := by
  intro action owing
  rw [Option.eq_none_iff_forall_ne_some]
  intro after taken
  cases advances_of_step taken with
  | startUp action watch serving call stepped =>
      have less := callLeft_step call (fun _ => rfl) stepped
      simp [WatchState.call, startedUp, callLeft] at less
  | childEvent woken watch after handle stepped signalled =>
      have fired := (WatchState.deliver_eq_some stepped).1
      simp [delivered] at fired
  | _ => simp_all [isOwed, isUpdaterStep]

/-- A server that serves, whose session lives and that owes nothing has its current place. -/
theorem stored_current (safe : Safe state) (follows : Follows own state)
    (serves : state.main = .serving) (lives : state.expired = false)
    (rests : ∀ action, isOwed action → step own state action = none)
    : state.watch.stored = placeOf (nodePath own) state.watch.members := by
  have updaterRests (action : ThreadAction) (updaters : isUpdaterStep action)
      : step own state action = none :=
    rests action (by cases action <;> simp_all [isUpdaterStep, isOwed])
  rcases rests_current safe follows updaterRests with absent | ⟨-, inactive⟩ | ⟨asleep, -, stored⟩
  · have connecting := safe.created.mp absent
    simp [Connecting, serves] at connecting
  · have stops := safe.inactive inactive
    simp [serves, lives] at stops
  · refine stored ?_ ?_
    · by_contra calling
      obtain ⟨phase, calling⟩ := Option.ne_none_iff_exists'.mp calling
      obtain ⟨action, continues⟩ := startUp_continues own serves calling
      rw [rests _ rfl] at continues
      cases continues
    · by_contra fired
      have continues := childEvent_continues own serves asleep (Nat.pos_of_ne_zero fired)
      rw [rests _ rfl] at continues
      cases continues

/-- Every step that a server owes is one of those it had left. -/
theorem owed_step {action : ThreadAction} (quiet : Quiet state action)
    (advances : Advances own state action after)
    : owed after + (if isOwed action then 1 else 0)
      ≤ owed state + (if rouses action then 2 else 0) := by
  have ofUpdater := stepsLeft_step quiet advances
  have ofOthers := awaited_step quiet advances
  have implied : isUpdaterStep action → isOwed action := by
    cases action <;> simp [isUpdaterStep, isOwed]
  unfold owed
  by_cases updaters : isUpdaterStep action
  · simp only [updaters, implied updaters, if_true, not_true_eq_false, and_false, if_false]
      at ofUpdater ofOthers ⊢
    omega
  · by_cases owing : isOwed action
    · simp only [updaters, owing, if_true, not_false_eq_true, and_self, Bool.false_eq_true,
        if_false] at ofUpdater ofOthers ⊢
      omega
    · simp only [updaters, owing, Bool.false_eq_true, false_and, if_false] at ofUpdater ofOthers ⊢
      omega

end ThreadState

namespace Cluster

variable {Server : Type}

/-- What holds of an action of a thread. -/
def onThread (holds : ThreadAction → Bool) : ClusterAction Server → Bool
  | .act _ action => holds action
  | _ => false

/-- Undisturbed steps that leave the chain as it is. -/
def Calm (cluster : Cluster Server) (action : ClusterAction Server) : Prop :=
  cluster.Undisturbed action ∧ onThread (fun _ => true) action

instance (cluster : Cluster Server) : DecidablePred cluster.Calm :=
  fun _ => inferInstanceAs (Decidable (_ ∧ _ = _))

/-- The steps that all servers together have left to make. -/
def owed [Fintype Server] (cluster : Cluster Server) : Nat :=
  ∑ server, (cluster.thread server).owed

variable {own : Server → CString} {cluster after : Cluster Server}

theorem owed_step [Fintype Server] [DecidableEq Server] {action : ClusterAction Server}
    (calm : cluster.Calm action)
    (taken : cluster.step own action = some after)
    : after.owed + (if onThread ThreadState.isOwed action then 1 else 0)
      ≤ cluster.owed + (if onThread ThreadState.rouses action then 2 else 0) := by
  cases action with
  | register server children => cases calm.2
  | remove server children => cases calm.2
  | act server action =>
      simp only [step, Option.ite_none_right_eq_some] at taken
      obtain ⟨allowed, taken⟩ := taken
      obtain ⟨thread, stepped, rfl⟩ := Option.map_eq_some_iff.mp taken
      have quiet : ThreadState.Quiet (cluster.thread server) action := by
        cases action <;> first | rfl | cases allowed
      exact sum_spends (ThreadState.owed_step quiet (ThreadState.advances_of_step stepped))

-----------------------------------------------------------------------------------------
-- What the servers store when they rest
-----------------------------------------------------------------------------------------

/-- No server has a step left that it owes. -/
def Rests [DecidableEq Server] (own : Server → CString) (cluster : Cluster Server) : Prop :=
  ∀ action, onThread ThreadState.isOwed action → cluster.step own action = none

/-- The servers of the chain, in the order of their names, store the places of one chain. -/
structure InOrder (own : Server → CString) (cluster : Cluster Server) (order : List Server)
    : Prop where
  once : order.Nodup
  present : ∀ server, server ∈ order ↔ cluster.node server = .present
  names : order.map own = chainOf cluster.members
  places
    : order.map (fun server => (cluster.thread server).watch.stored)
      = (List.range order.length).map (fun index =>
          ⟨index, order.length, newRole order.length index⟩)

/-- The place of a child is its index in the chain. -/
theorem placeOf_chain {children : List CString} {index : Nat} (once : children.Nodup)
    (within : index < (chainOf children).length)
    : placeOf (nodePath (chainOf children)[index]) children
      = ⟨index, (chainOf children).length, newRole (chainOf children).length index⟩ := by
  have position : (chainOf children).idxOf (chainOf children)[index] = index :=
    ((chainOf_perm children).nodup_iff.mpr once).idxOf_getElem index within
  rw [placeOf, qsort_nodePath, zkFindNodeIndex_chain (List.getElem_mem within), position,
    List.length_map]

/-- A server that is in the chain, serves and rests stores its place among the children. -/
theorem stored_of_rests [DecidableEq Server] {server : Server} (formed : cluster.Formed own)
    (rests : cluster.Rests own) (present : cluster.node server = .present)
    (serves : (cluster.thread server).main = .serving)
    : (cluster.thread server).watch.stored
      = placeOf (nodePath (own server)) cluster.members := by
  have reached := formed.threads server (by simp [present])
  obtain ⟨members, lives⟩ := formed.told server present
  rw [← members]
  refine ThreadState.stored_current (ThreadState.safe_of_reaches reached)
    (ThreadState.follows_of_reaches reached) serves lives (fun action owing => ?_)
  have allowed : allows .present action := by
    cases action <;> first | rfl | cases owing
  have stands := rests (.act server action) owing
  simpa [step, present, allowed] using stands

/-- Servers that all store their places store those of one chain. -/
theorem inOrder_of_stored (distinct : Function.Injective own) (formed : cluster.Formed own)
    (stored
      : ∀ server,
          cluster.node server = .present
          → (cluster.thread server).watch.stored
            = placeOf (nodePath (own server)) cluster.members)
    : ∃ order, cluster.InOrder own order := by
  have once : (chainOf cluster.members).Nodup :=
    (chainOf_perm cluster.members).nodup_iff.mpr formed.once
  have owned (name : CString) (there : name ∈ chainOf cluster.members)
      : ∃ server, cluster.node server = .present ∧ own server = name :=
    (formed.listed name).mp ((chainOf_perm cluster.members).mem_iff.mp there)
  obtain ⟨order, named⟩ : ∃ order : List Server, order.map own = chainOf cluster.members := by
    have ranged : chainOf cluster.members ∈ Set.range (List.map own) := by
      rw [Set.range_list_map]
      intro name there
      obtain ⟨server, -, same⟩ := owned name there
      exact ⟨server, same⟩
    exact ranged
  have inChain (server : Server) : server ∈ order ↔ cluster.node server = .present := by
    rw [← List.mem_map_of_injective distinct, named, (chainOf_perm cluster.members).mem_iff,
      formed.listed]
    constructor
    · rintro ⟨other, present, same⟩
      exact distinct same ▸ present
    · exact fun present => ⟨server, present, rfl⟩
  refine ⟨order, List.Nodup.of_map own (named ▸ once), inChain, named, ?_⟩
  have size : order.length = (chainOf cluster.members).length := by
    rw [← named, List.length_map]
  refine List.ext_getElem (by simp) (fun index within _ => ?_)
  rw [List.length_map] at within
  have below : index < (chainOf cluster.members).length := size ▸ within
  have name : own order[index] = (chainOf cluster.members)[index] := by
    simp [← named]
  rw [List.getElem_map, stored _ ((inChain _).mp (List.getElem_mem within)), name,
    placeOf_chain formed.once below]
  simp [size]

/-- Servers that rest and serve store the places of one chain. -/
theorem inOrder_of_rests [DecidableEq Server] (distinct : Function.Injective own)
    (formed : cluster.Formed own) (rests : cluster.Rests own)
    (serving : ∀ server, cluster.node server = .present → (cluster.thread server).main = .serving)
    : ∃ order, cluster.InOrder own order :=
  inOrder_of_stored distinct formed
    (fun server present => stored_of_rests formed rests present (serving server present))

/-- From the moment on at which servers stop coming and going, all servers together make no more
steps than they owe then, and two for each time that something else wakes one of them. When no
such step is left and no server is stopping, the servers in the chain agree on it, in every
interleaving in which ZooKeeper answers and start-up calls publish in time.
-/
theorem settles [Fintype Server] [DecidableEq Server] {later : Cluster Server}
    {actions : List (ClusterAction Server)} (distinct : Function.Injective own)
    (reached : Reaches (step own) Undisturbed (initial own) cluster)
    (run : Runs (step own) Calm cluster actions later)
    : actions.countP (onThread ThreadState.isOwed)
        ≤ cluster.owed + 2 * actions.countP (onThread ThreadState.rouses)
      ∧ (
        later.Rests own
        → (∀ server, later.node server = .present → (later.thread server).main = .serving)
        → ∃ order, later.InOrder own order
      ) := by
  have formed : cluster.Formed own :=
    reached.invariant (formed_initial own)
      (fun _ _ _ before undisturbed taken => formed_step distinct before undisturbed taken)
  have stays : later.Formed own :=
    run.reaches.invariant formed
      (fun _ _ _ before calm taken => formed_step distinct before calm.1 taken)
  refine ⟨?_, fun rests serving => ?_⟩
  · have spent
        : later.owed + actions.countP (onThread ThreadState.isOwed)
          ≤ cluster.owed + 2 * actions.countP (onThread ThreadState.rouses) :=
      run.spends (show (fun _ : Cluster Server => True) cluster from trivial)
        (fun _ _ _ _ _ _ => trivial)
        (fun _ _ _ _ calm taken => owed_step calm taken)
    omega
  · exact inOrder_of_rests distinct stays rests serving

/-- The names of two servers. -/
def twoNames : Bool → CString
  | false => childName 0
  | true => childName 1

/-- One server gets behind `zk_connect` and registers itself. -/
def joining (server : Bool) (children : List CString) : List (ClusterAction Bool) :=
  [
    .act server .checkConnected, .act server (.sessionConnected .main),
    .act server .checkConnected, .act server (.createThread true),
    .register server children
  ]

/-- The start-up call of a server, beside its update thread. -/
def startingUp (server : Bool) : List (ClusterAction Bool) :=
  [
    .act server (.startUp (.watch .main)), .act server .testActive,
    .act server (.startUp (.read .main)), .act server .lockAndTest,
    .act server (.startUp (.swap .main))
  ]

/-- The first server takes up that the second one has joined. -/
def followingUp : List (ClusterAction Bool) :=
  [
    .act false (.childEvent .updater), .act false .lockAndTest,
    .act false (.update (.watch .thread)), .act false (.update (.read .thread)),
    .act false .locate, .act false (.update (.swap .thread)), .act false .updateDone,
    .act false .testActive, .act false .lockAndTest
  ]

/-- Servers that sleep owe nothing once the start-up calls and the events are over. -/
theorem rests_of_asleep [DecidableEq Server]
    (sleeps
      : ∀ server,
          (cluster.thread server).updater = .asleep
          ∧ (cluster.thread server).watch.main = none
          ∧ (cluster.thread server).watch.fired = 0)
    : cluster.Rests own := by
  intro action owing
  cases action with
  | register server children => cases owing
  | remove server children => cases owing
  | act server action =>
      obtain ⟨asleep, startedUp, delivered⟩ := sleeps server
      simp [step, ThreadState.owes_nothing asleep startedUp delivered action owing]

/-- One server is in the chain and another one joins. -/
theorem settles_two
    : ∃ later : Cluster Bool, later.members.length = 2 ∧ ∃ order, later.InOrder twoNames order := by
  have reached : Reaches (step twoNames) Undisturbed (initial twoNames) _ :=
    reaches_of_replay
      (joining false [twoNames false] ++ startingUp false
        ++ joining true [twoNames true, twoNames false])
      rfl
  have settled {later : Cluster Bool}
      (replayed : replay (step twoNames) Calm _ (followingUp ++ startingUp true) = some later) :=
    settles (by decide) reached (runs_of_replay replayed)
  exact ⟨_, rfl, (settled rfl).2 (rests_of_asleep (by decide)) (by decide)⟩

end Cluster

end CarChain
