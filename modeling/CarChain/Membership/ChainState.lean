import CarChain.Model.Topology

/-! The chain fields of one server over any sequence of updates (`zk_server.c`).

Whatever ZooKeeper answers and whichever connections fail, an update either leaves the fields
alone or writes all of them together; what they promise each other then holds from the state
of `zk_connect` on.
-/

namespace CarChain

open CRuntime CStandard

variable {Conn : Type}

/-- The chain fields as `zk_connect` sets them up. -/
def ZkTopology.atConnect : ZkTopology Conn where
  successor := none
  successorAddress := none
  predecessorAddress := none
  role := .single
  nodeIndex := -1
  chainSize := 0

/-- The state as `zk_connect` sets it up; no path is registered yet. -/
def zkConnect : ZkState Conn := { ZkTopology.atConnect with nodePath := none }

/-- What happens to the state: `zk_register` stores the own path, or an update runs. -/
inductive ZkStep (Conn : Type) where
  | register (ownPath : CString)
  | update (zk : ZkSession Conn)

/-- The steps one after the other: what each update returns, and the chain fields behind it. -/
def performUpdates (state : ZkState Conn)
    : List (ZkStep Conn) → Mem (List (Int32 × ZkTopology Conn))
  | [] => return []
  | .register ownPath :: rest => performUpdates { state with nodePath := some ownPath } rest
  | .update zk :: rest => do
      let (code, after) ← zkUpdateChainInternal zk state
      return (code, after.toZkTopology) :: (← performUpdates after rest)

/-- The chain fields give the server a place in a chain. -/
def ZkTopology.Placed (topology : ZkTopology Conn) : Prop :=
  0 ≤ topology.nodeIndex ∧ topology.nodeIndex < topology.chainSize

/-- What the chain fields promise each other, with or without a place in a chain. -/
structure ZkTopology.Consistent (topology : ZkTopology Conn) : Prop where
  addressed : topology.successor.isSome = true ↔ topology.successorAddress.isSome = true
  successor : topology.successor.isSome = true → topology.nodeIndex < topology.chainSize - 1
  predecessor : topology.predecessorAddress.isSome = true → 0 < topology.nodeIndex
  forwards
    : topology.view.hasSuccessor = true ↔ topology.role = .head ∨ topology.role = .middle

/-- Along the updates: one that does not return 0 returns −1 and changes none of the fields,
which stay those of `zk_connect` until the first one that returns 0 and have a place from then
on.
-/
def KeepsChainState
    : (updated : Bool) → (before : ZkTopology Conn) → List (Int32 × ZkTopology Conn) → Prop
  | _, _, [] => True
  | updated, before, (code, after) :: rest =>
      (code = 0 ∨ code = -1 ∧ after = before)
      ∧ (if updated || code = 0 then after.Placed else after = .atConnect)
      ∧ after.Consistent
      ∧ KeepsChainState (updated || code = 0) after rest

-----------------------------------------------------------------------------------------
-- One update
-----------------------------------------------------------------------------------------

/-- Looking up an address at an index of the chain does not leave the array. -/
theorem run_zkGetNodeAddressAtIndex (zk : ZkSession Conn) {nodePaths : List CString}
    {index : Int} (within : index < nodePaths.length) (size : Nat)
    : ∃ address, (zkGetNodeAddressAtIndex zk nodePaths index size).run [] = .ok (address, []) := by
  unfold zkGetNodeAddressAtIndex
  split
  · exact ⟨none, rfl⟩
  · have inside : index.toNat < nodePaths.length := by omega
    rw [List.getElem?_eq_getElem inside]
    exact ⟨_, rfl⟩

/-- The connection to a successor comes with its address, and only from an index before the
last one.
-/
theorem run_findSuccessor (zk : ZkSession Conn) (nodePaths : List CString) (nodeIndex : Int)
    : ∃ address conn,
        (findSuccessor zk nodePaths nodeIndex).run [] = .ok ((address, conn), [])
        ∧ (conn.isSome = true ↔ address.isSome = true)
        ∧ (conn.isSome = true → nodeIndex < nodePaths.length - 1) := by
  unfold findSuccessor
  split
  · rename_i before
    obtain ⟨address, found⟩ :=
      run_zkGetNodeAddressAtIndex zk (show nodeIndex + 1 < nodePaths.length by omega) 256
    rw [run_bind_of_ok found]
    cases address with
    | none => exact ⟨none, none, rfl, by simp, by simp⟩
    | some address =>
        dsimp only
        rw [run_bind_of_ok (run_strdup address [])]
        cases connectRetrying (zk.connect address) 0 5 with
        | none => exact ⟨none, none, rfl, by simp, by simp⟩
        | some conn => exact ⟨some address, some conn, rfl, by simp, fun _ => before⟩
  · exact ⟨none, none, rfl, by simp, by simp⟩

/-- The address of a predecessor is only looked up behind the first index. -/
theorem run_findPredecessor (zk : ZkSession Conn) {nodePaths : List CString} {nodeIndex : Int}
    (within : nodeIndex < nodePaths.length)
    : ∃ address,
        (findPredecessor zk nodePaths nodeIndex).run [] = .ok (address, [])
        ∧ (address.isSome = true → 0 < nodeIndex) := by
  unfold findPredecessor
  split
  · rename_i positive
    obtain ⟨address, found⟩ :=
      run_zkGetNodeAddressAtIndex zk (show nodeIndex - 1 < nodePaths.length by omega) 256
    rw [run_bind_of_ok found]
    cases address with
    | none => exact ⟨none, rfl, by simp⟩
    | some address => exact ⟨some address, run_strdup address [], fun _ => positive⟩
  · exact ⟨none, rfl, by simp⟩

/-- The role that an update stores is the one `zk_forward` works out from the indexes. -/
theorem newRole_forwards {count nodeIndex : Int} (placed : 0 ≤ nodeIndex ∧ nodeIndex < count)
    : nodeIndex < count - 1
      ↔ newRole count nodeIndex = .head ∨ newRole count nodeIndex = .middle := by
  unfold newRole
  split
  · simp
    omega
  · split
    · simp
      omega
    · split
      · simp
        omega
      · simp
        omega

/-- A server finds itself at an index of the chain or not at all. -/
theorem zkFindNodeIndex_range (nodePaths : List CString) (ownPath : CString)
    : zkFindNodeIndex nodePaths ownPath = -1
      ∨ 0 ≤ zkFindNodeIndex nodePaths ownPath
        ∧ zkFindNodeIndex nodePaths ownPath < nodePaths.length := by
  rw [zkFindNodeIndex, findNodeIndexFrom_eq]
  split
  · rename_i member
    have within := List.idxOf_lt_length_of_mem member
    omega
  · exact .inl rfl

/-- Without an allocation failure the chain is read, or it is not. -/
theorem run_zkGetSortedChainNodes_nil (zk : ZkSession Conn)
    : ∃ nodePaths, (zkGetSortedChainNodes zk).run [] = .ok (nodePaths, []) := by
  cases listed : zk.getChildren with
  | none => exact ⟨none, by simp [zkGetSortedChainNodes, listed]⟩
  | some children =>
      by_cases nonempty : children = []
      · exact ⟨none, by simp [zkGetSortedChainNodes, listed, nonempty]⟩
      · have read := run_zkGetSortedChainNodes listed nonempty (grants_nil _)
        rw [List.drop_nil] at read
        exact ⟨_, read⟩

/-- Every update returns: −1 and the state it was called in, or 0 and a place in a chain. -/
theorem run_zkUpdateChainInternal (zk : ZkSession Conn) (state : ZkState Conn)
    : ∃ code after,
        (zkUpdateChainInternal zk state).run [] = .ok ((code, after), [])
        ∧ (code = -1 ∧ after = state ∨ code = 0 ∧ after.Placed ∧ after.Consistent) := by
  have refused : ∃ code after,
      (pure (-1, state) : Mem (Int32 × ZkState Conn)).run [] = .ok ((code, after), [])
      ∧ (code = -1 ∧ after = state ∨ code = 0 ∧ after.Placed ∧ after.Consistent) :=
    ⟨-1, state, rfl, .inl ⟨rfl, rfl⟩⟩
  unfold zkUpdateChainInternal
  cases state.nodePath with
  | none => exact refused
  | some ownPath =>
      dsimp only
      split
      · exact refused
      · obtain ⟨nodePaths, listed⟩ := run_zkGetSortedChainNodes_nil zk
        rw [run_bind_of_ok listed]
        cases nodePaths with
        | none => exact refused
        | some nodePaths =>
            dsimp only
            split
            · exact refused
            · rename_i found
              have placed := (zkFindNodeIndex_range nodePaths ownPath).resolve_left found
              obtain ⟨address, conn, next, addressed, before⟩ :=
                run_findSuccessor zk nodePaths (zkFindNodeIndex nodePaths ownPath)
              obtain ⟨previous, ran, positive⟩ := run_findPredecessor zk placed.2
              rw [run_bind_of_ok next]
              dsimp only
              rw [run_bind_of_ok ran]
              refine ⟨0, _, rfl, .inr ⟨rfl, placed, addressed, before, positive, ?_⟩⟩
              exact decide_eq_true_iff.trans (newRole_forwards placed)

-----------------------------------------------------------------------------------------
-- Any sequence of updates
-----------------------------------------------------------------------------------------

theorem ZkTopology.consistent_atConnect : (atConnect : ZkTopology Conn).Consistent := by
  constructor <;> simp [atConnect, view, ChainView.hasSuccessor]

/-- The promises are kept from any state that keeps them, by induction on the steps. -/
theorem performUpdates_keeps_from {state : ZkState Conn} {updated : Bool}
    (consistent : state.Consistent)
    (placed : if updated then state.Placed else state.toZkTopology = .atConnect)
    (steps : List (ZkStep Conn))
    : ∃ trace,
        (performUpdates state steps).run [] = .ok (trace, [])
        ∧ KeepsChainState updated state.toZkTopology trace := by
  induction steps generalizing state updated with
  | nil => exact ⟨[], rfl, trivial⟩
  | cons step rest ih =>
      cases step with
      | register ownPath => exact ih consistent placed
      | update zk =>
          obtain ⟨code, after, ran, outcome⟩ := run_zkUpdateChainInternal zk state
          have later : after.Consistent
              ∧ if updated || code = 0 then after.Placed else after.toZkTopology = .atConnect := by
            rcases outcome with ⟨rfl, rfl⟩ | ⟨rfl, place, consistent⟩
            · exact ⟨consistent, by simpa using placed⟩
            · exact ⟨consistent, by simpa using place⟩
          obtain ⟨trace, ranRest, keeps⟩ := ih later.1 later.2
          refine ⟨(code, after.toZkTopology) :: trace, ?_, ?_, later.2, later.1, keeps⟩
          · rw [performUpdates, run_bind_of_ok ran]
            dsimp only
            rw [run_bind_of_ok ranRest]
            rfl
          · rcases outcome with ⟨rfl, rfl⟩ | ⟨rfl, -, -⟩
            · exact .inr ⟨rfl, rfl⟩
            · exact .inl rfl

/-- From the state of `zk_connect` on, every sequence of registrations and updates keeps the
promises of the chain fields after every update.
-/
theorem performUpdates_keeps (steps : List (ZkStep Conn))
    : ∃ trace,
        (performUpdates zkConnect steps).run [] = .ok (trace, [])
        ∧ KeepsChainState false .atConnect trace :=
  @performUpdates_keeps_from _ zkConnect false ZkTopology.consistent_atConnect rfl steps

end CarChain
