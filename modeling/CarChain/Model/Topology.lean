import CarChain.Model.Forward

/-! A server's view of the chain (`zk_util.c`, `zk_update_chain_internal`).

The children of `/chain` sorted by path are the chain; a server finds its own path among them
and takes its neighbours from the places beside it. What ZooKeeper and the network answer
during one update is a parameter. The session handle is not NULL once `zk_connect` has
returned 0, before which nothing here is called.
-/

namespace CarChain

open CRuntime CStandard

variable {Conn : Type}

def chainPath : CString := .literal "/chain"

/-- `"%s/%s"` of `CHAIN_PATH` and a child. -/
def nodePath (child : CString) : CString := chainPath ++ .literal "/" ++ child

/-- What the calls of one update return: whether the watch was set, the children, the data of
a node, and the connection a numbered attempt makes to an address.
-/
structure ZkSession (Conn : Type) where
  wgetChildren : Bool
  getChildren : Option (List CString)
  get : CString → Option CString
  connect : CString → Nat → Option Conn

-----------------------------------------------------------------------------------------
-- zk_util.c
-----------------------------------------------------------------------------------------

def pathcmp (left right : CString) : Int := strcmp left right

def zkGetSortedChainNodes (zk : ZkSession Conn) : Mem (Option (List CString)) :=
  match zk.getChildren with
  | none => pure none
  | some children => do
      if children = [] then return none
      if !(← malloc) then return none
      match ← fillAll (fun child => strdup (nodePath child)) children with
      | none => return none
      | some nodePaths => return some (qsort pathcmp nodePaths)

/-- The data of a node, cut to what the buffer holds. -/
def zkGetNodeAddress (zk : ZkSession Conn) (nodePath : CString) (size : Nat) : Option CString :=
  if size = 0 then none else (zk.get nodePath).map (CString.truncate size)

def zkGetNodeAddressAtIndex (zk : ZkSession Conn) (nodePaths : List CString) (index : Int)
    (size : Nat)
    : Mem (Option CString) :=
  if index < 0 then pure none
  else
    match nodePaths[index.toNat]? with
    | none => throw .outOfBounds
    | some nodePath => pure (zkGetNodeAddress zk nodePath size)

/-- The loop of `zk_find_node_index` from an index on. -/
def findNodeIndexFrom (targetPath : CString) : Nat → List CString → Int
  | _, [] => -1
  | index, path :: rest =>
      if strcmp path targetPath = 0 then index else findNodeIndexFrom targetPath (index + 1) rest

def zkFindNodeIndex (nodePaths : List CString) (targetPath : CString) : Int :=
  findNodeIndexFrom targetPath 0 nodePaths

-----------------------------------------------------------------------------------------
-- zk_server.c
-----------------------------------------------------------------------------------------

inductive ZkRole where
  | single
  | head
  | middle
  | tail
  deriving DecidableEq

/-- The fields of `zk_state` that an update replaces together. -/
structure ZkTopology (Conn : Type) where
  successor : Option Conn
  successorAddress : Option CString
  predecessorAddress : Option CString
  role : ZkRole
  nodeIndex : Int
  chainSize : Int

/-- `zk_state`, as far as updates read and write it. -/
structure ZkState (Conn : Type) extends ZkTopology Conn where
  nodePath : Option CString

def newRole (count nodeIndex : Int) : ZkRole :=
  if count = 1 then .single
  else if nodeIndex = 0 then .head
  else if nodeIndex = count - 1 then .tail
  else .middle

/-- At most five attempts to connect. -/
def connectRetrying (connect : Nat → Option Conn) : Nat → Nat → Option Conn
  | _, 0 => none
  | retry, left + 1 =>
      match connect retry with
      | some conn => some conn
      | none => connectRetrying connect (retry + 1) left

/-- The successor's address and the connection to it. A connection outlives a failed copy of
its address, but not the other way round.
-/
def findSuccessor (zk : ZkSession Conn) (nodePaths : List CString) (nodeIndex : Int)
    : Mem (Option CString × Option Conn) := do
  if nodeIndex < nodePaths.length - 1 then
    match ← zkGetNodeAddressAtIndex zk nodePaths (nodeIndex + 1) 256 with
    | none => return (none, none)
    | some address =>
        let copied ← strdup address
        match connectRetrying (zk.connect address) 0 5 with
        | none => return (none, none)
        | some conn => return (copied, some conn)
  else
    return (none, none)

def findPredecessor (zk : ZkSession Conn) (nodePaths : List CString) (nodeIndex : Int)
    : Mem (Option CString) := do
  if 0 < nodeIndex then
    match ← zkGetNodeAddressAtIndex zk nodePaths (nodeIndex - 1) 256 with
    | none => return none
    | some address => strdup address
  else
    return none

/-- The state after the critical section that publishes a new topology. -/
def ZkState.swap (state : ZkState Conn) (topology : ZkTopology Conn) : ZkState Conn :=
  { state with toZkTopology := topology }

def zkUpdateChainInternal (zk : ZkSession Conn) (state : ZkState Conn)
    : Mem (Int32 × ZkState Conn) :=
  match state.nodePath with
  | none => pure (-1, state)
  | some ownPath => do
      if !zk.wgetChildren then return (-1, state)
      match ← zkGetSortedChainNodes zk with
      | none => return (-1, state)
      | some nodePaths =>
          let nodeIndex := zkFindNodeIndex nodePaths ownPath
          if nodeIndex = -1 then return (-1, state)
          let role := newRole nodePaths.length nodeIndex
          let (successorAddress, successor) ← findSuccessor zk nodePaths nodeIndex
          let predecessorAddress ← findPredecessor zk nodePaths nodeIndex
          return (
            0,
            state.swap
              {
                successor
                successorAddress
                predecessorAddress
                role
                nodeIndex
                chainSize := nodePaths.length
              }
          )

/-- What `zk_forward` reads of the state. -/
def ZkTopology.view (topology : ZkTopology Conn) : ChainView Conn :=
  ⟨topology.successor, topology.nodeIndex, topology.chainSize⟩

-----------------------------------------------------------------------------------------
-- The sorted chain
-----------------------------------------------------------------------------------------

/-- The children in the order of their paths. -/
def chainOf (children : List CString) : List CString := qsort strcmp children

theorem chainOf_perm (children : List CString) : (chainOf children).Perm children :=
  qsort_perm strcmp children

theorem nodePath_inj {left right : CString} : nodePath left = nodePath right ↔ left = right :=
  CString.append_right_inj

/-- Sorting the paths sorts the children, since the paths share their first part. -/
theorem qsort_nodePath (children : List CString)
    : qsort pathcmp (children.map nodePath) = (chainOf children).map nodePath := by
  refine (List.map_insertionSort _ _ nodePath children ?_).symm
  intro left _ right _
  exact iff_of_eq (congrArg (· ≤ 0) (strcmp_append _ left right).symm)

/-- Every order of the same children yields the same chain. -/
theorem chainOf_eq_of_perm {left right : List CString} (h : left.Perm right)
    : chainOf left = chainOf right :=
  qsort_strcmp_eq_of_perm h

theorem nodePath_allocates : Allocates (fun child => strdup (nodePath child)) nodePath 1 where
  granted child := strdup_allocates.granted (nodePath child)
  refused child := strdup_allocates.refused (nodePath child)

/-- With its allocations granted a server reads the paths of the chain. -/
theorem run_zkGetSortedChainNodes {zk : ZkSession Conn} {children : List CString}
    {script : List Bool} (listed : zk.getChildren = some children) (nonempty : children ≠ [])
    (granted : grants (1 + children.length) script = true)
    : (zkGetSortedChainNodes zk).run script
      = .ok (some ((chainOf children).map nodePath), script.drop (1 + children.length)) := by
  rw [grants_add, Bool.and_eq_true] at granted
  have forPaths : grants (1 * children.length) (script.drop 1) = true := by
    simpa using granted.2
  have filled := nodePath_allocates.run_fillAll children forPaths
  unfold zkGetSortedChainNodes
  rw [listed]
  dsimp only
  rw [if_neg nonempty, run_bind_of_ok (run_malloc script), granted.1, if_neg (by simp),
    run_bind_of_ok filled]
  simp [qsort_nodePath, Nat.add_comm 1]

/-- What a server reads is the chain of the children it was given, or nothing. -/
theorem zkGetSortedChainNodes_some {zk : ZkSession Conn} {children nodePaths : List CString}
    {script rest : List Bool} (listed : zk.getChildren = some children)
    (ran : (zkGetSortedChainNodes zk).run script = .ok (some nodePaths, rest))
    : children ≠ [] ∧ nodePaths = (chainOf children).map nodePath := by
  by_cases nonempty : children = []
  · simp [zkGetSortedChainNodes, listed, nonempty] at ran
  refine ⟨nonempty, ?_⟩
  cases granted : grants (1 + children.length) script with
  | true =>
      rw [run_zkGetSortedChainNodes listed nonempty granted] at ran
      cases ran
      rfl
  | false =>
      unfold zkGetSortedChainNodes at ran
      rw [listed] at ran
      dsimp only at ran
      rw [if_neg nonempty, run_bind_of_ok (run_malloc script)] at ran
      rw [grants_add] at granted
      cases first : grants 1 script with
      | false => simp [first] at ran
      | true =>
          have later : grants (1 * children.length) (script.drop 1) = false := by
            simpa [first] using granted
          obtain ⟨left, stopped⟩ := nodePath_allocates.run_fillAll_refused children later
          rw [first, if_neg (by simp), run_bind_of_ok stopped] at ran
          cases ran

/-- The chain starts with its least child. -/
theorem chainOf_head {children : List CString} {child : CString}
    : (chainOf children).head? = some child
      ↔ child ∈ children ∧ ∀ other ∈ children, strcmp child other ≤ 0 := by
  have sorted := qsort_strcmp_pairwise children
  have rearranged := chainOf_perm children
  change (chainOf children).Pairwise _ at sorted
  cases chain : chainOf children with
  | nil =>
      rw [chain] at rearranged
      simp [rearranged.nil_eq.symm]
  | cons first rest =>
      rw [chain] at sorted rearranged
      have least : ∀ other ∈ children, strcmp first other ≤ 0 := by
        intro other member
        rcases List.mem_cons.mp (rearranged.mem_iff.mpr member) with rfl | later
        · simp
        · exact List.rel_of_pairwise_cons sorted later
      constructor
      · rintro same
        cases same
        exact ⟨rearranged.mem_iff.mp (by simp), least⟩
      · intro h
        obtain ⟨member, below⟩ := h
        have above := least child member
        have under := below first (rearranged.mem_iff.mp (by simp))
        rw [strcmp_neg first child] at under
        have equal := strcmp_eq_zero.mp (show strcmp first child = 0 by omega)
        simp [equal]

/-- The chain ends with its greatest child. -/
theorem chainOf_getLast {children : List CString} {child : CString}
    : (chainOf children).getLast? = some child
      ↔ child ∈ children ∧ ∀ other ∈ children, strcmp other child ≤ 0 := by
  have sorted := qsort_strcmp_pairwise children
  have rearranged := chainOf_perm children
  change (chainOf children).Pairwise _ at sorted
  rcases List.eq_nil_or_concat' (chainOf children) with chain | ⟨rest, last, chain⟩
  · rw [chain] at rearranged ⊢
    simp [rearranged.nil_eq.symm]
  · rw [chain] at sorted rearranged
    have greatest : ∀ other ∈ children, strcmp other last ≤ 0 := by
      intro other member
      rcases List.mem_append.mp (rearranged.mem_iff.mpr member) with before | same
      · exact (List.pairwise_append.mp sorted).2.2 other before last (by simp)
      · obtain rfl := List.mem_singleton.mp same
        simp
    rw [chain, List.getLast?_concat]
    constructor
    · rintro same
      cases same
      exact ⟨rearranged.mem_iff.mp (by simp), greatest⟩
    · intro h
      obtain ⟨member, above⟩ := h
      have below := greatest child member
      have beyond := above last (rearranged.mem_iff.mp (by simp))
      rw [strcmp_neg last child] at below
      have equal := strcmp_eq_zero.mp (show strcmp last child = 0 by omega)
      simp [equal]

/-- The search returns the position of its target or −1, by induction on the paths. -/
theorem findNodeIndexFrom_eq (targetPath : CString) (index : Nat) (paths : List CString)
    : findNodeIndexFrom targetPath index paths
      = if targetPath ∈ paths then (index + paths.idxOf targetPath : Int) else -1 := by
  induction paths generalizing index with
  | nil => rfl
  | cons path rest ih =>
      rw [findNodeIndexFrom]
      by_cases same : path = targetPath
      · simp [same]
      · have apart : targetPath ≠ path := Ne.symm same
        rw [if_neg (fun equal => same (strcmp_eq_zero.mp equal)), ih]
        simp only [List.mem_cons, apart, false_or, List.idxOf_cons_ne _ same]
        split <;> simp [Int.add_assoc, Int.add_comm 1]

/-- A child's path has the child's place in the chain. -/
theorem zkFindNodeIndex_chain {chain : List CString} {child : CString} (h : child ∈ chain)
    : zkFindNodeIndex (chain.map nodePath) (nodePath child) = chain.idxOf child := by
  have position : (chain.map nodePath).idxOf (nodePath child) = chain.idxOf child := by
    induction chain with
    | nil => rfl
    | cons first rest ih =>
        by_cases same : first = child
        · simp [same]
        · have later : child ∈ rest := (List.mem_cons.mp h).resolve_left (Ne.symm same)
          rw [List.map_cons, List.idxOf_cons_ne _ (fun equal => same (nodePath_inj.mp equal)),
            List.idxOf_cons_ne _ same, ih later]
  rw [zkFindNodeIndex, findNodeIndexFrom_eq, if_pos (List.mem_map_of_mem h), position]
  simp

/-- A place in the chain, as an update stores it. -/
structure Place where
  nodeIndex : Int
  chainSize : Int
  role : ZkRole
  deriving DecidableEq

def ZkTopology.place (topology : ZkTopology Conn) : Place :=
  ⟨topology.nodeIndex, topology.chainSize, topology.role⟩

/-- The place of a path among the sorted paths of the children. -/
def placeOf (ownPath : CString) (children : List CString) : Place :=
  let nodePaths := qsort pathcmp (children.map nodePath)
  let nodeIndex := zkFindNodeIndex nodePaths ownPath
  ⟨nodeIndex, nodePaths.length, newRole nodePaths.length nodeIndex⟩

/-- Whatever happens to addresses and connections, an update that returns 0 stores the place
among the children it read.
-/
theorem zkUpdateChainInternal_place {zk : ZkSession Conn} {state after : ZkState Conn}
    {ownPath : CString} {children : List CString} {script rest : List Bool}
    (own : state.nodePath = some ownPath) (listed : zk.getChildren = some children)
    (ran : (zkUpdateChainInternal zk state).run script = .ok ((0, after), rest))
    : after.place = placeOf ownPath children := by
  unfold zkUpdateChainInternal at ran
  rw [own] at ran
  dsimp only at ran
  split at ran
  · cases ran
  · obtain ⟨found, left, sorted, ran⟩ := run_bind_eq_ok.mp ran
    cases found with
    | none => cases ran
    | some nodePaths =>
        obtain ⟨-, rfl⟩ := zkGetSortedChainNodes_some listed sorted
        dsimp only at ran
        split at ran
        · cases ran
        · obtain ⟨next, left, -, ran⟩ := run_bind_eq_ok.mp ran
          obtain ⟨previous, left, -, ran⟩ := run_bind_eq_ok.mp ran
          cases ran
          rw [← qsort_nodePath]
          rfl

end CarChain
