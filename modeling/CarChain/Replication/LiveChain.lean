import CarChain.Membership.ChainState
import CarChain.Membership.Registration
import CarChain.Replication.Acknowledged
import CarChain.Replication.Progress

/-! A chain whose servers find their successors themselves (`zk_server.c`, `list_skel.c`).

Each server runs `zk_update_chain_internal` whenever it likes and forwards over the connection
that its last update has stored, also when that update read the children long ago. Servers that
register later have greater numbers, so requests only ever go to servers that registered later.
-/

namespace CarChain

open CRuntime CStandard StepSystem

variable {n node : Nat}

-----------------------------------------------------------------------------------------
-- One update
-----------------------------------------------------------------------------------------

/-- What ZooKeeper and the network show an update in a chain of at most `n` servers: some
servers as children, no address for a server but its own, and at an address the server with that
address or one that has registered there later.
-/
structure ZkSession.Shows (zk : ZkSession Nat) (n : Nat) (address : Nat → CString) : Prop where
  children
    : ∀ children,
        zk.getChildren = some children
        → ∃ counters : List Nat,
            counters.Nodup
            ∧ (∀ counter ∈ counters, counter < n)
            ∧ children = counters.map childName
  data : ∀ counter < n, ∀ data, zk.get (serverPath counter) = some data → data = address counter
  connects
    : ∀ counter < n, ∀ attempt conn,
        zk.connect ((address counter).truncate 256) attempt = some conn
        → counter ≤ conn ∧ conn < n

theorem connectRetrying_eq_some {Conn : Type} {connect : Nat → Option Conn} {first left : Nat}
    {conn : Conn} (connected : connectRetrying connect first left = some conn)
    : ∃ attempt, connect attempt = some conn := by
  induction left generalizing first with
  | zero => cases connected
  | succ left ih =>
      rw [connectRetrying] at connected
      split at connected
      · rename_i there
        cases connected
        exact ⟨first, there⟩
      · exact ih connected

/-- The address at an index is the data of the node there, cut to the buffer. -/
theorem zkGetNodeAddressAtIndex_eq_some {Conn : Type} {zk : ZkSession Conn}
    {nodePaths : List CString} {rank size : Nat} {script rest : List Bool} {address : CString}
    (ran
      : (zkGetNodeAddressAtIndex zk nodePaths (rank + 1) size).run script
        = .ok (some address, rest))
    : ∃ path data,
        nodePaths[rank + 1]? = some path
        ∧ zk.get path = some data
        ∧ address = data.truncate size := by
  have index : ((rank + 1 : Int)).toNat = rank + 1 := by omega
  rw [zkGetNodeAddressAtIndex, if_neg (by omega), index] at ran
  split at ran
  · cases ran
  · rename_i path here
    have read : zkGetNodeAddress zk path size = some address :=
      congrArg Prod.fst (Except.ok.inj ran)
    rw [zkGetNodeAddress, Option.ite_none_left_eq_some, Option.map_eq_some_iff] at read
    obtain ⟨-, data, got, rfl⟩ := read
    exact ⟨path, data, here, got, rfl⟩

/-- A successor's connection is one to the address of the node behind the own one. -/
theorem findSuccessor_eq_some {Conn : Type} {zk : ZkSession Conn} {nodePaths : List CString}
    {rank : Nat} {script rest : List Bool} {copied : Option CString} {conn : Conn}
    (ran : (findSuccessor zk nodePaths rank).run script = .ok ((copied, some conn), rest))
    : ∃ path data attempt,
        nodePaths[rank + 1]? = some path
        ∧ zk.get path = some data
        ∧ zk.connect (data.truncate 256) attempt = some conn := by
  unfold findSuccessor at ran
  split at ran
  · obtain ⟨address, between, looked, ran⟩ := run_bind_eq_ok.mp ran
    cases address with
    | none => cases ran
    | some address =>
        obtain ⟨copy, later, -, ran⟩ := run_bind_eq_ok.mp ran
        obtain ⟨path, data, here, read, rfl⟩ := zkGetNodeAddressAtIndex_eq_some looked
        split at ran
        · cases ran
        · rename_i connection connected
          obtain ⟨attempt, reached⟩ := connectRetrying_eq_some connected
          cases ran
          exact ⟨path, data, attempt, here, read, reached⟩
  · cases ran

/-- The view of a server at a rank of the children that an update has read. -/
structure RankedView (zk : ZkSession Nat) (n : Nat) (address : Nat → CString) (node : Nat)
    (view : ChainView Nat) (ranked : List Nat) (rank : Nat)
    : Prop where
  increasing : ranked.Pairwise (· < ·)
  bounded : ∀ counter ∈ ranked, counter < n
  complete
    : ∃ children,
        zk.getChildren = some children
        ∧ ∀ counter < n, childName counter ∈ children → counter ∈ ranked
  own : ranked[rank]? = some node
  nodeIndex : view.nodeIndex = rank
  chainSize : view.chainSize = ranked.length
  successor
    : ∀ conn,
        view.successor = some conn
        → ∃ counter attempt,
            ranked[rank + 1]? = some counter
            ∧ zk.connect ((address counter).truncate 256) attempt = some conn

/-- A server that finds itself in the chain has a rank there among the counters. -/
theorem rank_of_placed {zk : ZkSession Nat} {address : Nat → CString} {nodePaths : List CString}
    {script rest : List Bool} (few : n ≤ counterMax) (within : node < n)
    (shows : zk.Shows n address)
    (sorted : (zkGetSortedChainNodes zk).run script = .ok (some nodePaths, rest))
    (placed : zkFindNodeIndex nodePaths (serverPath node) ≠ -1)
    : ∃ (ranked : List Nat) (rank : Nat),
        nodePaths = ranked.map serverPath
        ∧ ranked.Pairwise (· < ·)
        ∧ (∀ counter ∈ ranked, counter < n)
        ∧ (
          ∃ children,
            zk.getChildren = some children
            ∧ ∀ counter < n, childName counter ∈ children → counter ∈ ranked
        )
        ∧ ranked[rank]? = some node
        ∧ zkFindNodeIndex nodePaths (serverPath node) = rank := by
  cases listed : zk.getChildren with
  | none =>
      rw [zkGetSortedChainNodes, listed] at sorted
      cases sorted
  | some children =>
      obtain ⟨-, rfl⟩ := zkGetSortedChainNodes_some listed sorted
      obtain ⟨counters, distinct, below, rfl⟩ := shows.children children listed
      obtain ⟨ranked, complete, increasing⟩ := exists_ranked distinct
      have inside : ∀ counter ∈ ranked, counter < n :=
        fun counter member => below counter (complete.mem_iff.mp member)
      have bounded : ∀ counter ∈ ranked, counter ≤ counterMax := fun counter member => by
        have less := inside counter member
        omega
      have paths : (chainOf (counters.map childName)).map nodePath = ranked.map serverPath := by
        rw [chainOf_childName bounded increasing complete, List.map_map]
        rfl
      rw [paths] at placed ⊢
      have found {counter : Nat} (small : counter < n)
          (member : childName counter ∈ ranked.map childName)
          : counter ∈ ranked := by
        obtain ⟨other, there, same⟩ := List.mem_map.mp member
        exact childName_inj (bounded other there) (by omega) same ▸ there
      have member : serverPath node ∈ ranked.map serverPath := by
        by_contra absent
        rw [zkFindNodeIndex, findNodeIndexFrom_eq, if_neg absent] at placed
        exact placed rfl
      have named : childName node ∈ ranked.map childName := by
        obtain ⟨counter, there, same⟩ := List.mem_map.mp member
        exact List.mem_map.mpr ⟨counter, there, nodePath_inj.mp same⟩
      obtain ⟨rank, here⟩ := List.getElem?_of_mem (found within named)
      exact ⟨ranked, rank, rfl, increasing, inside,
        ⟨_, rfl, fun counter small there =>
          found small ((complete.map childName).mem_iff.mpr there)⟩,
        here, zkFindNodeIndex_rank bounded increasing here⟩

/-- An update leaves the view as it was, or publishes that of the own rank. -/
theorem update_publishes {zk : ZkSession Nat} {address : Nat → CString}
    {state after : ZkState Nat} {code : Int32} {script rest : List Bool} (few : n ≤ counterMax)
    (within : node < n) (shows : zk.Shows n address)
    (own : state.nodePath = none ∨ state.nodePath = some (serverPath node))
    (ran : (zkUpdateChainInternal zk state).run script = .ok ((code, after), rest))
    : after.nodePath = state.nodePath
      ∧ (
        after.view = state.view
        ∨ ∃ ranked rank, RankedView zk n address node after.view ranked rank
      ) := by
  rcases own with none_yet | own
  · rw [zkUpdateChainInternal, none_yet] at ran
    cases ran
    exact ⟨rfl, .inl rfl⟩
  · unfold zkUpdateChainInternal at ran
    rw [own] at ran
    dsimp only at ran
    split at ran
    · cases ran
      exact ⟨rfl, .inl rfl⟩
    · obtain ⟨found, left, sorted, ran⟩ := run_bind_eq_ok.mp ran
      cases found with
      | none =>
          cases ran
          exact ⟨rfl, .inl rfl⟩
      | some nodePaths =>
          dsimp only at ran
          split at ran
          · cases ran
            exact ⟨rfl, .inl rfl⟩
          · rename_i placed
            obtain ⟨⟨copied, successor⟩, left, next, ran⟩ := run_bind_eq_ok.mp ran
            obtain ⟨previous, left, -, ran⟩ := run_bind_eq_ok.mp ran
            cases ran
            obtain ⟨ranked, rank, rfl, increasing, bounded, complete, here, index⟩ :=
              rank_of_placed few within shows sorted placed
            rw [index] at next
            refine ⟨rfl, .inr ⟨ranked, rank, increasing, bounded, complete, here, index, ?_, ?_⟩⟩
            · exact congrArg Nat.cast (List.length_map _)
            · rintro conn (rfl : successor = some conn)
              obtain ⟨path, data, attempt, behind, read, reached⟩ := findSuccessor_eq_some next
              rw [List.getElem?_map, Option.map_eq_some_iff] at behind
              obtain ⟨counter, behind, rfl⟩ := behind
              have listed := bounded counter (List.mem_of_getElem? behind)
              obtain rfl := shows.data counter listed data read
              exact ⟨counter, attempt, behind, reached⟩

/-- Behind a server of a chain, the next one is the least that registered later. -/
theorem next_le {ranked : List Nat} {rank other : Nat} (increasing : ranked.Pairwise (· < ·))
    (here : ranked[rank]? = some node) (member : other ∈ ranked) (later : node < other)
    : ∃ counter, ranked[rank + 1]? = some counter ∧ counter ≤ other := by
  obtain ⟨inside, own⟩ := List.getElem?_eq_some_iff.mp here
  obtain ⟨place, there, same⟩ := List.getElem_of_mem member
  have ordered := List.pairwise_iff_getElem.mp increasing
  have behind : rank < place := by
    rcases Nat.lt_trichotomy rank place with before | equal | after
    · exact before
    · subst equal
      omega
    · have less := ordered place rank there inside after
      omega
  refine ⟨ranked[rank + 1], List.getElem?_eq_getElem (by omega), ?_⟩
  rcases Nat.lt_or_eq_of_le (show rank + 1 ≤ place from behind) with further | next
  · have less := ordered (rank + 1) place (by omega) there further
    omega
  · subst next
    omega

theorem lt_next {ranked : List Nat} {rank counter : Nat} (increasing : ranked.Pairwise (· < ·))
    (here : ranked[rank]? = some node) (behind : ranked[rank + 1]? = some counter)
    : node < counter := by
  obtain ⟨inside, own⟩ := List.getElem?_eq_some_iff.mp here
  obtain ⟨inside', next⟩ := List.getElem?_eq_some_iff.mp behind
  have less := List.pairwise_iff_getElem.mp increasing rank (rank + 1) inside inside'
    (Nat.lt_succ_self rank)
  omega

theorem hop_eq_send {Conn : Type} {view : ChainView Conn} {conn : Conn}
    (sends : view.hop = .send conn)
    : view.successor = some conn := by
  rw [ChainView.hop] at sends
  split at sends
  · split at sends
    · cases sends
    · rename_i there
      cases sends
      exact there
  · cases sends

/-- A server of the chain forwards only to one that registered later. -/
theorem RankedView.sendsDown {zk : ZkSession Nat} {address : Nat → CString}
    {view : ChainView Nat} {ranked : List Nat} {rank : Nat} (shows : zk.Shows n address)
    (h : RankedView zk n address node view ranked rank)
    : SendsDown n node view := by
  intro conn sends
  rw [ChainView.target] at sends
  split at sends
  · rename_i next hop
    cases sends
    obtain ⟨counter, attempt, behind, reached⟩ := h.successor conn (hop_eq_send hop)
    obtain ⟨later, below⟩ := shows.connects counter
      (h.bounded counter (List.mem_of_getElem? behind)) attempt conn reached
    exact ⟨Nat.lt_of_lt_of_le (lt_next h.increasing h.own behind) later, below⟩
  · cases sends

-----------------------------------------------------------------------------------------
-- Servers and requests together
-----------------------------------------------------------------------------------------

/-- The servers with their requests, and the `zk_state` of each server. -/
structure LiveChain where
  system : System
  zk : Nat → ZkState Nat

inductive LiveAction where
  | request (action : Action)
  | register (node : Nat) (script : List Bool)
  | update (node : Nat) (zk : ZkSession Nat) (script : List Bool)

/-- A step of a request that is under way. -/
def LiveAction.advances : LiveAction → Bool
  | .request action => action.advances
  | _ => false

def LiveAction.enters : LiveAction → Bool
  | .request action => action.enters
  | _ => false

namespace LiveChain

/-- Every server is behind `zk_connect`. -/
def initial (lists : Nat → ListT) : LiveChain :=
  ⟨.initial lists (fun _ => zkConnect.view), fun _ => zkConnect⟩

/-- One step. A request reads the view that the last update of its server has published. -/
def step (chain : LiveChain) : LiveAction → Option LiveChain
  | .request (.topology _ _) => none
  | .request action => (chain.system.step action).map (fun system => { chain with system })
  | .register node script =>
      match (zkRegister true (some (createdPath node)) (chain.zk node)).run script with
      | .error _ => none
      | .ok ((_, after), _) => some { chain with zk := Function.update chain.zk node after }
  | .update node zk script =>
      match (zkUpdateChainInternal zk (chain.zk node)).run script with
      | .error _ => none
      | .ok ((_, after), _) =>
          some ⟨chain.system.setView node after.view, Function.update chain.zk node after⟩

/-- Requests enter at one of the servers, and ZooKeeper shows the updates what there is. -/
def Honest (n : Nat) (address : Nat → CString) (_ : LiveChain) : LiveAction → Prop
  | .request (.send entry _) => entry < n
  | .request _ => True
  | .register node _ => node < n
  | .update node zk _ => node < n ∧ zk.Shows n address

/-- What holds of every state reached: requests keep mutexes in order, and views are those that
updates of a server with its own path have published.
-/
structure Ordered (n : Nat) (chain : LiveChain) : Prop where
  inOrder : chain.system.InOrder n
  published : ∀ node, chain.system.views node = (chain.zk node).view
  own
    : ∀ node,
        (chain.zk node).nodePath = none ∨ (chain.zk node).nodePath = some (serverPath node)

variable {chain after : LiveChain} {address : Nat → CString}

theorem ordered_initial (n : Nat) (lists : Nat → ListT) : (initial lists).Ordered n where
  inOrder := System.inOrder_initial (fun node next sends => by cases sends)
  published _ := rfl
  own _ := .inl rfl

/-- A registration leaves the view alone and stores the own path, if anything. -/
theorem register_keeps {state after : ZkState Nat} {code : Int32} {script rest : List Bool}
    (few : n ≤ counterMax) (within : node < n)
    (ran
      : (zkRegister true (some (createdPath node)) state).run script = .ok ((code, after), rest))
    : after.view = state.view
      ∧ (after.nodePath = none ∨ after.nodePath = some (serverPath node)) := by
  have path := createdPath_truncate (show node ≤ counterMax by omega)
  simp only [zkRegister, Bool.not_true, Bool.false_eq_true, if_false, path] at ran
  obtain ⟨stored, left, copied, ran⟩ := run_bind_eq_ok.mp ran
  rw [run_strdup] at copied
  cases granted : grants 1 script with
  | true =>
      simp only [granted, if_true, Except.ok.injEq, Prod.mk.injEq] at copied
      obtain ⟨rfl, rfl⟩ := copied
      cases ran
      exact ⟨rfl, .inr rfl⟩
  | false =>
      simp only [granted, Bool.false_eq_true, if_false, Except.ok.injEq, Prod.mk.injEq] at copied
      obtain ⟨rfl, rfl⟩ := copied
      cases ran
      exact ⟨rfl, .inl rfl⟩

/-- A step of a request that enters or is under way leaves the views alone. -/
theorem views_of_step {system later : System} {action : Action}
    (inside : ∀ node view, action ≠ .topology node view)
    (taken : system.step action = some later)
    : later.views = system.views := by
  cases action with
  | send entry request =>
      cases taken
      rfl
  | lock id script =>
      obtain ⟨call, node, -, -, -, rfl⟩ := System.step_lock taken
      exact System.handle_views node script system id call
  | forward id =>
      obtain ⟨call, frame, rest, -, -, -, rfl⟩ := System.step_forward taken
      rfl
  | answer id =>
      obtain ⟨call, reply, -, -, ⟨frame, rest, -, rfl⟩ | ⟨-, rfl⟩⟩ := System.step_answer taken
      · rfl
      · rfl
  | topology node view => exact absurd rfl (inside node view)

/-- A step of a request is one of the chain of requests. -/
theorem request_eq_some {action : Action} (taken : chain.step (.request action) = some after)
    : ∃ system,
        chain.system.step action = some system
        ∧ (∀ node view, action ≠ .topology node view)
        ∧ after = { chain with system } := by
  have inside : ∀ node view, action ≠ .topology node view := by
    rintro node view rfl
    cases taken
  have moved
      : (chain.system.step action).map (fun system => { chain with system }) = some after := by
    cases action <;> first | exact absurd rfl (inside _ _) | exact taken
  obtain ⟨system, stepped, rfl⟩ := Option.map_eq_some_iff.mp moved
  exact ⟨system, stepped, inside, rfl⟩

theorem downward_of_honest {action : Action} (inside : ∀ node view, action ≠ .topology node view)
    (honest : chain.Honest n address (.request action))
    : chain.system.Downward n action := by
  cases action with
  | send entry request => exact honest
  | topology node view => exact absurd rfl (inside node view)
  | lock | forward | answer => trivial

theorem update_eq_some {zk : ZkSession Nat} {script : List Bool}
    (taken : chain.step (.update node zk script) = some after)
    : ∃ code state rest,
        (zkUpdateChainInternal zk (chain.zk node)).run script = .ok ((code, state), rest)
        ∧ after = ⟨chain.system.setView node state.view, Function.update chain.zk node state⟩ := by
  simp only [step] at taken
  split at taken
  · cases taken
  · rename_i ran
    cases taken
    exact ⟨_, _, _, ran, rfl⟩

theorem register_eq_some {script : List Bool}
    (taken : chain.step (.register node script) = some after)
    : ∃ code state rest,
        (zkRegister true (some (createdPath node)) (chain.zk node)).run script
          = .ok ((code, state), rest)
        ∧ after = { chain with zk := Function.update chain.zk node state } := by
  simp only [step] at taken
  split at taken
  · cases taken
  · rename_i ran
    cases taken
    exact ⟨_, _, _, ran, rfl⟩

/-- A server that stores a new state and shows its view leaves those of the others alone. -/
theorem published_update {system : System} {zk : Nat → ZkState Nat}
    (published : ∀ node, system.views node = (zk node).view) (node : Nat) (state : ZkState Nat)
    : ∀ other,
        (system.setView node state.view).views other
          = (Function.update zk node state other).view := by
  intro other
  by_cases same : other = node
  · subst same
    simp [System.setView]
  · simp [System.setView, Function.update_of_ne same, published]

theorem own_update {zk : Nat → ZkState Nat} {state : ZkState Nat}
    (own : ∀ node, (zk node).nodePath = none ∨ (zk node).nodePath = some (serverPath node))
    (path : state.nodePath = none ∨ state.nodePath = some (serverPath node))
    : ∀ other,
        (Function.update zk node state other).nodePath = none
        ∨ (Function.update zk node state other).nodePath = some (serverPath other) := by
  intro other
  by_cases same : other = node
  · subst same
    simpa using path
  · simpa [Function.update_of_ne same] using own other

theorem ordered_step {action : LiveAction} (few : n ≤ counterMax) (h : chain.Ordered n)
    (honest : chain.Honest n address action) (taken : chain.step action = some after)
    : after.Ordered n := by
  obtain ⟨inOrder, published, own⟩ := h
  cases action with
  | request action =>
      obtain ⟨system, stepped, inside, rfl⟩ := request_eq_some taken
      refine ⟨System.inOrder_step inOrder (downward_of_honest inside honest) stepped, ?_, own⟩
      intro node
      rw [views_of_step inside stepped]
      exact published node
  | register node script =>
      obtain ⟨code, state, rest, ran, rfl⟩ := register_eq_some taken
      obtain ⟨view, path⟩ := register_keeps few honest ran
      refine ⟨inOrder, fun other => ?_, own_update own path⟩
      by_cases same : other = node
      · subst same
        simp [published, view]
      · simp [Function.update_of_ne same, published]
  | update node zk script =>
      obtain ⟨code, state, rest, ran, rfl⟩ := update_eq_some taken
      obtain ⟨within, shows⟩ := honest
      have down : SendsDown n node (chain.zk node).view := published node ▸ inOrder.views node
      obtain ⟨path, publishes⟩ := update_publishes few within shows (own node) ran
      have sends : SendsDown n node state.view := by
        rcases publishes with same | ⟨ranked, rank, ranks⟩
        · exact same ▸ down
        · exact ranks.sendsDown shows
      refine ⟨?_, published_update published node state, own_update own (path ▸ own node)⟩
      exact System.inOrder_step inOrder
        (show chain.system.Downward n (.topology node state.view) from sends) rfl

/-- Updates and registrations take nothing from what requests may still take. -/
theorem stepsLeft_step {action : LiveAction} (h : chain.Ordered n)
    (taken : chain.step action = some after)
    : after.system.stepsLeft n + (if action.advances then 1 else 0)
      ≤ chain.system.stepsLeft n + (if action.enters then serveSteps n else 0) := by
  cases action with
  | request action =>
      obtain ⟨system, stepped, -, rfl⟩ := request_eq_some taken
      exact System.stepsLeft_step h.inOrder stepped
  | register node script =>
      obtain ⟨code, state, rest, -, rfl⟩ := register_eq_some taken
      exact Nat.le_refl _
  | update node zk script =>
      obtain ⟨code, state, rest, -, rfl⟩ := update_eq_some taken
      exact Nat.le_refl _

/-- At every moment of a chain whose servers update their views themselves, whatever children
ZooKeeper shows to each of them and whichever connections fail, if an address is answered by its
own server or one that registered later: a server forwards only to one that registered later,
requests take no more steps than a chain of `n` needs for each one sent, and while one is unanswered
and no server was taken down, one can take a step.
-/
theorem requests_end {lists : Nat → ListT} {actions : List LiveAction} (few : n ≤ counterMax)
    (run : Runs step (Honest n address) (initial lists) actions chain)
    : (∀ node next, (chain.system.views node).target = some next → node < next)
      ∧ chain.system.stepsLeft n + actions.countP LiveAction.advances
        ≤ serveSteps n * actions.countP LiveAction.enters
      ∧ (
        (∀ call ∈ chain.system.calls, call.stage ≠ .crashed)
        → (∃ call ∈ chain.system.calls, call.stage ≠ .answered)
        → chain.system.CanAdvance
      ) := by
  have preserved
      : ∀ (state : LiveChain) action after,
          state.Ordered n
          → state.Honest n address action
          → state.step action = some after
          → after.Ordered n :=
    fun _ _ _ => ordered_step few
  have ordered : chain.Ordered n := run.reaches.invariant (ordered_initial n lists) preserved
  refine ⟨fun node next sends => (ordered.inOrder.views node next sends).1, ?_,
    ordered.inOrder.canAdvance⟩
  have pays
      : ∀ (state : LiveChain) action after,
          state.Ordered n
          → state.Honest n address action
          → state.step action = some after
          → after.system.stepsLeft n + (if action.advances then 1 else 0)
            ≤ state.system.stepsLeft n + (if action.enters then serveSteps n else 0) :=
    fun _ _ _ ordered _ taken => stepsLeft_step ordered taken
  have spent := run.spends (ordered_initial n lists) preserved pays
  simpa [initial, System.initial, System.stepsLeft, totalSteps] using spent

/-- Servers on the local host. -/
def localAddress : Nat → CString
  | 0 => .literal "127.0.0.1:6000"
  | 1 => .literal "127.0.0.1:6001"
  | _ => .literal "127.0.0.1:6002"

/-- Some of three servers are listed, and all of them are reached. -/
def shown (counters : List Nat) : ZkSession Nat where
  wgetChildren := true
  getChildren := some (counters.map childName)
  get path := ((List.range 3).find? (fun counter => serverPath counter = path)).map localAddress
  connect address _ := (List.range 3).find? (fun counter => localAddress counter = address)

theorem shown_exact {counter attempt conn : Nat} (counters : List Nat) (within : counter < 3)
    (connected
      : (shown counters).connect ((localAddress counter).truncate 256) attempt = some conn)
    : conn = counter := by
  obtain rfl | rfl | rfl : counter = 0 ∨ counter = 1 ∨ counter = 2 := by omega
  all_goals exact (Option.some.inj connected).symm

theorem shown_shows {n : Nat} {counters : List Nat} (few : n ≤ 3) (distinct : counters.Nodup)
    (below : ∀ counter ∈ counters, counter < n)
    : (shown counters).Shows n localAddress where
  children children listed := ⟨counters, distinct, below, (Option.some.inj listed).symm⟩
  data counter within data read := by
    obtain rfl | rfl | rfl : counter = 0 ∨ counter = 1 ∨ counter = 2 := by omega
    all_goals exact (Option.some.inj read).symm
  connects counter within attempt conn connected := by
    rw [shown_exact counters (Nat.lt_of_lt_of_le within few) connected]
    exact ⟨Nat.le_refl _, within⟩

/-- Both servers register and update, and an addition is sent on to the second one. -/
def additionForwarded : List LiveAction :=
  [
    .register 0 [], .register 1 [], .update 1 (shown [1, 0]) [], .update 0 (shown [1, 0]) [],
    .request (.send 0 (addRequest (clio 2020))), .request (.lock 0 []), .request (.forward 0)
  ]

theorem requests_end_two
    : ∃ chain : LiveChain,
        (chain.system.views 0).target = some 1
        ∧ chain.system.stepsLeft 2 + additionForwarded.countP LiveAction.advances
          ≤ serveSteps 2 * additionForwarded.countP LiveAction.enters
        ∧ chain.system.CanAdvance := by
  have free
      : Runs step (fun _ _ => True) (initial (fun _ => listCreate)) additionForwarded _ :=
    runs_of_replay rfl
  have run
      : Runs step (Honest 2 localAddress) (initial (fun _ => listCreate)) additionForwarded _ :=
    free.exchange (fun action member state => by
      simp only [additionForwarded, List.mem_cons, List.not_mem_nil, or_false] at member
      rcases member with rfl | rfl | rfl | rfl | rfl | rfl | rfl
      · exact (by decide : 0 < 2)
      · exact (by decide : 1 < 2)
      · exact ⟨by decide, shown_shows (by decide) (by decide) (by decide)⟩
      · exact ⟨by decide, shown_shows (by decide) (by decide) (by decide)⟩
      · exact (by decide : 0 < 2)
      · exact trivial
      · exact trivial)
  obtain ⟨-, bounded, advances⟩ := requests_end (by decide) run
  exact ⟨_, rfl, bounded, advances (by decide) (by decide)⟩

-----------------------------------------------------------------------------------------
-- Servers that leave
-----------------------------------------------------------------------------------------

end LiveChain

section

variable {departed : Nat → Prop} {address : Nat → CString}

/-- What ZooKeeper and the network show while servers only leave: all servers that stay are among
the children, and at an address there is the server with that address.
-/
structure ZkSession.ShowsStaying (zk : ZkSession Nat) (n : Nat) (address : Nat → CString)
    (departed : Nat → Prop)
    : Prop where
  shows : zk.Shows n address
  staying
    : ∀ children,
        zk.getChildren = some children
        → ∀ counter < n, ¬departed counter → childName counter ∈ children
  exact
    : ∀ counter < n, ∀ attempt conn,
        zk.connect ((address counter).truncate 256) attempt = some conn → conn = counter

/-- A view that misses no server that stays passes over none. -/
theorem RankedView.passes {zk : ZkSession Nat} {view : ChainView Nat} {ranked : List Nat}
    {rank : Nat} (shows : zk.ShowsStaying n address departed)
    (h : RankedView zk n address node view ranked rank)
    : view.hop.Passes n departed node := by
  obtain ⟨children, listed, complete⟩ := h.complete
  have behind {other : Nat} (later : node < other) (within : other < n) (stays : ¬departed other)
      : ∃ counter, ranked[rank + 1]? = some counter ∧ counter ≤ other :=
    next_le h.increasing h.own
      (complete other within (shows.staying children listed other within stays))
      later
  cases hop : view.hop with
  | missing => trivial
  | stop =>
      intro other within later
      by_contra stays
      obtain ⟨counter, there, -⟩ := behind later within stays
      obtain ⟨inside, -⟩ := List.getElem?_eq_some_iff.mp there
      have forwards : view.hasSuccessor = true := by
        rw [ChainView.hasSuccessor, h.nodeIndex, h.chainSize]
        simp only [decide_eq_true_eq]
        omega
      rw [ChainView.hop, if_pos forwards] at hop
      split at hop <;> cases hop
  | send conn =>
      intro other within later
      by_contra stays
      obtain ⟨counter, attempt, there, reached⟩ := h.successor conn (hop_eq_send hop)
      have listed := h.bounded counter (List.mem_of_getElem? there)
      obtain rfl := shows.exact counter listed attempt conn reached
      obtain ⟨next, same, below⟩ := behind later (Nat.lt_trans within listed) stays
      cases there.symm.trans same
      omega

end

namespace LiveChain

variable {chain after : LiveChain} {address : Nat → CString} {departed : Nat → Prop}

/-- Servers leave; those that stay are shown to every update. -/
def Leaving (n : Nat) (address : Nat → CString) (departed : Nat → Prop) (_ : LiveChain)
    : LiveAction → Prop
  | .request _ => True
  | .register _ _ => False
  | .update node zk _ => node < n ∧ zk.ShowsStaying n address departed

/-- A chain in which every server has published its place, before any request. -/
structure Established (n : Nat) (departed : Nat → Prop) (chain : LiveChain) : Prop where
  silent : ∃ lists, chain.system = .initial lists (fun node => (chain.zk node).view)
  own : ∀ node, (chain.zk node).nodePath = none ∨ (chain.zk node).nodePath = some (serverPath node)
  passes : ∀ node, (chain.zk node).view.hop.Passes n departed node

/-- What holds of every state reached from there. -/
structure Shrinking (n : Nat) (departed : Nat → Prop) (chain : LiveChain) : Prop where
  reporting : chain.system.Reporting n departed
  published : ∀ node, chain.system.views node = (chain.zk node).view
  own : ∀ node, (chain.zk node).nodePath = none ∨ (chain.zk node).nodePath = some (serverPath node)

theorem shrinking_step {action : LiveAction} (few : n ≤ counterMax) (h : chain.Shrinking n departed)
    (leaving : chain.Leaving n address departed action) (taken : chain.step action = some after)
    : after.Shrinking n departed := by
  obtain ⟨reporting, published, own⟩ := h
  cases action with
  | request action =>
      obtain ⟨system, stepped, inside, rfl⟩ := request_eq_some taken
      have shrinks : chain.system.Shrinks n departed action := by
        cases action with
        | topology node view => exact absurd rfl (inside node view)
        | send | lock | forward | answer => trivial
      refine ⟨System.reporting_step reporting shrinks stepped, fun node => ?_, own⟩
      rw [views_of_step inside stepped]
      exact published node
  | register node script => cases leaving
  | update node zk script =>
      obtain ⟨code, state, rest, ran, rfl⟩ := update_eq_some taken
      obtain ⟨within, shows⟩ := leaving
      obtain ⟨path, publishes⟩ := update_publishes few within shows.shows (own node) ran
      have passes : state.view.hop.Passes n departed node := by
        rcases publishes with same | ⟨ranked, rank, ranks⟩
        · rw [same, ← published]
          exact reporting.views node
        · exact ranks.passes shows
      refine ⟨?_, published_update published node state, own_update own (path ▸ own node)⟩
      exact System.reporting_step reporting
        (show chain.system.Shrinks n departed (.topology node state.view) from passes) rfl

/-- No acknowledged write is lost while servers leave a chain whose servers update their views
themselves: whatever else ZooKeeper shows to each of them, whenever they update and whichever
connections, handlers and attempts fail, if each address is answered by its own server only, a
client is told that its write succeeded only when every server that stays has applied it, from the
one it was sent to.
-/
theorem acknowledged_everywhere {id : Nat} {call : Call} {reply : MessageT} {start : LiveChain}
    (few : n ≤ counterMax) (established : start.Established n departed)
    (reached : Reaches step (Leaving n address departed) start chain)
    (found : chain.system.calls[id]? = some call) (write : isWrtOp call.request = true)
    (replied : .replied id reply ∈ chain.system.events)
    (success : acknowledges reply call.request = true)
    : ∀ node, call.entry ≤ node → node < n → ¬departed node → node ∈ call.applied := by
  obtain ⟨⟨lists, silent⟩, own, passes⟩ := established
  have first : start.Shrinking n departed :=
    ⟨silent ▸ System.reporting_initial passes, fun node => by rw [silent]; rfl, own⟩
  have h : chain.Shrinking n departed :=
    reached.invariant first (fun _ _ _ => shrinking_step few)
  obtain ⟨answered, at_, -, everywhere⟩ := h.reporting.replied id reply replied
  cases found.symm.trans at_
  exact everywhere write success

theorem skips_next (departed : Nat → Prop) (node : Nat) : Skips departed (node + 1) (node + 1) :=
  fun _ within later => absurd within (Nat.not_lt.mpr later)

/-- A start-up after which no server is passed over establishes a chain. -/
theorem Ordered.established (h : chain.Ordered n) (calls : chain.system.calls = [])
    (events : chain.system.events = [])
    (passes : ∀ node, (chain.zk node).view.hop.Passes n departed node)
    : chain.Established n departed where
  silent :=
    ⟨chain.system.lists, by rw [System.initial, ← funext h.published, ← calls, ← events]⟩
  own := h.own
  passes := passes

/-- The start-up of three servers. -/
def threeStarted : List LiveAction :=
  [
    .register 0 [], .register 1 [], .register 2 [],
    .update 2 (shown [2, 0, 1]) [], .update 1 (shown [0, 1, 2]) [],
    .update 0 (shown [1, 2, 0]) []
  ]

/-- The second server has no memory for an addition and leaves before the head's second attempt,
which goes to the third one.
-/
def secondLeaves : List LiveAction :=
  [
    .request (.send 0 (addRequest (clio 2020))), .request (.lock 0 []), .request (.forward 0),
    .request (.lock 0 [false]), .request (.answer 0),
    .update 0 (shown [2, 0]) [],
    .request (.forward 0), .request (.lock 0 []), .request (.forward 0), .request (.answer 0),
    .request (.answer 0)
  ]

theorem threeStarted_honest
    : ∀ action ∈ threeStarted, ∀ chain : LiveChain, chain.Honest 3 localAddress action := by
  intro action member chain
  simp only [threeStarted, List.mem_cons, List.not_mem_nil, or_false] at member
  rcases member with rfl | rfl | rfl | rfl | rfl | rfl
  · exact (by decide : 0 < 3)
  · exact (by decide : 1 < 3)
  · exact (by decide : 2 < 3)
  all_goals exact ⟨by decide, shown_shows (by decide) (by decide) (by decide)⟩

theorem secondLeaves_leaving
    : ∀ action ∈ secondLeaves,
        ∀ chain : LiveChain, chain.Leaving 3 localAddress (· = 1) action := by
  intro action member chain
  simp only [secondLeaves, List.mem_cons, List.not_mem_nil, or_false] at member
  rcases member with
    rfl | rfl | rfl | rfl | rfl | rfl | rfl | rfl | rfl | rfl | rfl
  case inr.inr.inr.inr.inr.inl =>
    refine ⟨by decide, shown_shows (by decide) (by decide) (by decide), ?_, ?_⟩
    · intro children listed counter within stays
      cases listed
      obtain rfl | rfl : counter = 0 ∨ counter = 2 := by omega
      · exact .tail _ (.head _)
      · exact .head _
    · exact fun counter within attempt conn => shown_exact [2, 0] within
  all_goals trivial

theorem acknowledged_everywhere_departure
    : ∃ chain : LiveChain,
        chain.system.events.length = 2
        ∧ ∀ call ∈ chain.system.calls[0]?,
            ∀ node, call.entry ≤ node → node < 3 → ¬node = 1 → node ∈ call.applied := by
  have started : Runs step (fun _ _ => True) (initial (fun _ => listCreate)) threeStarted _ :=
    runs_of_replay rfl
  have ordered : Ordered 3 _ :=
    (started.exchange threeStarted_honest).reaches.invariant (ordered_initial 3 _)
      (fun _ _ _ => ordered_step (by decide))
  have established : Established 3 (· = 1) _ :=
    ordered.established rfl rfl (fun node => by
      match node with
      | 0 => exact skips_next (· = 1) 0
      | 1 => exact skips_next (· = 1) 1
      | node + 2 =>
          have last : Skips (· = 1) (node + 2 + 1) 3 := fun other within later => by omega
          match node with
          | 0 => exact last
          | node + 1 => exact last)
  exact ⟨_, rfl, fun call found =>
    acknowledged_everywhere (by decide) established
      ((runs_of_replay
          (show replay step (fun _ _ => True) _ secondLeaves = some _ from rfl)).exchange
        secondLeaves_leaving).reaches
      found (by cases found; rfl) (List.mem_cons_of_mem _ (.head _)) (by cases found; rfl)⟩

end LiveChain

end CarChain
