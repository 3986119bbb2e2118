import CarChain.Model.Topology

/-! What one update stores when ZooKeeper answers, the addresses can be read and the successor
accepts a connection.
-/

namespace CarChain

open CRuntime CStandard

variable {Conn : Type}

/-- A non-empty set of registered servers: the names of the children, and the address each
registered. A server builds its address in a buffer of 256 bytes and registers it whole.
-/
structure Membership where
  names : List CString
  nonempty : names ≠ []
  distinct : names.Nodup
  address : CString → CString
  fits : ∀ name ∈ names, (address name).strlen < 256
  separate : ∀ left ∈ names, ∀ right ∈ names, address left = address right → left = right

/-- The members in the order of the chain. -/
def Membership.chain (members : Membership) : List CString := chainOf members.names

section

variable (members : Membership)

theorem Membership.chain_perm : members.chain.Perm members.names := chainOf_perm _

theorem Membership.mem_chain {name : CString} : name ∈ members.chain ↔ name ∈ members.names :=
  members.chain_perm.mem_iff

theorem Membership.chain_nodup : members.chain.Nodup :=
  members.chain_perm.nodup_iff.mpr members.distinct

end

/-- The calls of an update succeed: the children come in some order, every address can be
read, and one of five attempts to connect to a member succeeds.
-/
structure ZkSession.Serves (zk : ZkSession Conn) (members : Membership) : Prop where
  watched : zk.wgetChildren = true
  listed : ∃ children, zk.getChildren = some children ∧ children.Perm members.names
  readable : ∀ name ∈ members.names, zk.get (nodePath name) = some (members.address name)
  accepts : ∀ name ∈ members.names, ∃ retry < 5, (zk.connect (members.address name) retry).isSome

/-- What a member stores of its place in the chain. -/
structure OwnView (members : Membership) (name : CString) (topology : ZkTopology Conn) : Prop where
  nodeIndex : topology.nodeIndex = members.chain.idxOf name
  chainSize : topology.chainSize = members.chain.length
  role : topology.role = newRole members.chain.length (members.chain.idxOf name)
  successorAddress
    : topology.successorAddress
      = (members.chain[members.chain.idxOf name + 1]?).map members.address
  predecessorAddress
    : topology.predecessorAddress
      = if members.chain.idxOf name = 0 then none
        else (members.chain[members.chain.idxOf name - 1]?).map members.address
  connected : topology.successor.isSome = topology.successorAddress.isSome

/-- Retrying finds a connection when some attempt makes one, by induction on the attempts. -/
theorem connectRetrying_isSome {connect : Nat → Option Conn} {first left : Nat}
    (h : ∃ retry, first ≤ retry ∧ retry < first + left ∧ (connect retry).isSome)
    : (connectRetrying connect first left).isSome := by
  induction left generalizing first with
  | zero =>
      obtain ⟨retry, low, high, -⟩ := h
      omega
  | succ left ih =>
      rw [connectRetrying]
      cases now : connect first with
      | some conn => rfl
      | none =>
          obtain ⟨retry, low, high, made⟩ := h
          have later : first ≠ retry := by
            intro given
            subst given
            simp [now] at made
          exact ih ⟨retry, by omega, by omega, made⟩

section

variable {zk : ZkSession Conn} {members : Membership} (serves : zk.Serves members)

include serves

/-- Reading and sorting the children yields the paths of the chain. -/
theorem ZkSession.Serves.run_sortedNodes {script : List Bool}
    (granted : grants (1 + members.names.length) script = true)
    : (zkGetSortedChainNodes zk).run script
      = .ok (some (members.chain.map nodePath), script.drop (1 + members.names.length)) := by
  obtain ⟨children, listed, rearranged⟩ := serves.listed
  have some_child : children ≠ [] := by
    intro h
    subst h
    exact members.nonempty rearranged.nil_eq.symm
  rw [← rearranged.length_eq] at granted ⊢
  rw [run_zkGetSortedChainNodes listed some_child granted, chainOf_eq_of_perm rearranged]
  rfl

/-- The address at a place of the chain is that of the member there. -/
theorem ZkSession.Serves.addressAt {index : Nat} (within : index < members.chain.length)
    : zkGetNodeAddressAtIndex zk (members.chain.map nodePath) index 256
      = pure (some (members.address members.chain[index])) := by
  have member : members.chain[index] ∈ members.names :=
    members.mem_chain.mp (List.getElem_mem within)
  unfold zkGetNodeAddressAtIndex
  rw [if_neg (by omega)]
  simp [within, zkGetNodeAddress, serves.readable _ member,
    CString.truncate_of_lt (members.fits _ member)]

theorem ZkSession.Serves.run_findSuccessor {index : Nat} {script : List Bool}
    (within : index < members.chain.length) (granted : grants 1 script = true)
    : ∃ conn used,
        (findSuccessor zk (members.chain.map nodePath) index).run script
          = .ok (((members.chain[index + 1]?).map members.address, conn), script.drop used)
        ∧ conn.isSome = (members.chain[index + 1]?).isSome
        ∧ used ≤ 1 := by
  unfold findSuccessor
  by_cases next : index + 1 < members.chain.length
  · have member : members.chain[index + 1] ∈ members.names :=
      members.mem_chain.mp (List.getElem_mem next)
    obtain ⟨retry, few, made⟩ := serves.accepts _ member
    have connected
        : (connectRetrying (zk.connect (members.address members.chain[index + 1])) 0 5).isSome :=
      connectRetrying_isSome ⟨retry, Nat.zero_le _, by omega, made⟩
    obtain ⟨conn, connection⟩ := Option.isSome_iff_exists.mp connected
    refine ⟨some conn, 1, ?_, by simp [next], Nat.le_refl 1⟩
    have address := serves.addressAt next
    push_cast at address
    rw [if_pos (by simp; omega), address, pure_bind]
    dsimp only
    rw [run_bind_of_ok (strdup_allocates.granted _ granted), connection]
    simp [next]
  · refine ⟨none, 0, ?_, by simp [next], Nat.zero_le 1⟩
    rw [if_neg (by simp; omega)]
    simp [next]

theorem ZkSession.Serves.run_findPredecessor {index : Nat} {script : List Bool}
    (within : index < members.chain.length) (granted : grants 1 script = true)
    : ∃ rest,
        (findPredecessor zk (members.chain.map nodePath) index).run script
          = .ok
              (
                if index = 0 then none else (members.chain[index - 1]?).map members.address,
                rest
              ) := by
  unfold findPredecessor
  cases index with
  | zero => exact ⟨script, rfl⟩
  | succ before =>
      have address := serves.addressAt (Nat.lt_of_succ_lt within)
      refine ⟨script.drop 1, ?_⟩
      rw [if_pos (by omega), show ((before + 1 : Nat) : Int) - 1 = before by omega, address,
        pure_bind]
      dsimp only
      rw [strdup_allocates.granted _ granted]
      simp [Nat.lt_of_succ_lt within]

/-- An update of a member returns 0 and stores its place in the chain, whatever it had stored
before. One allocation is for the array of paths, one for each path, and one for each
neighbour's address.
-/
theorem ZkSession.Serves.run_update {name : CString} {state : ZkState Conn} {script : List Bool}
    (member : name ∈ members.names) (own : state.nodePath = some (nodePath name))
    (granted : grants (members.names.length + 3) script = true)
    : ∃ topology rest,
        (zkUpdateChainInternal zk state).run script = .ok ((0, state.swap topology), rest)
        ∧ OwnView members name topology := by
  have split : members.names.length + 3 = (1 + members.names.length) + (1 + 1) := by omega
  rw [split, grants_add (1 + members.names.length), grants_add 1 1, Bool.and_eq_true,
    Bool.and_eq_true] at granted
  obtain ⟨forPaths, forNext, forPrevious⟩ := granted
  have inChain : name ∈ members.chain := members.mem_chain.mpr member
  have within := List.idxOf_lt_length_of_mem inChain
  have sorted := serves.run_sortedNodes forPaths
  obtain ⟨conn, used, next, connected, few⟩ := serves.run_findSuccessor within forNext
  have enough
      : grants 1 ((script.drop (1 + members.names.length)).drop used) = true := by
    rcases Nat.le_one_iff_eq_zero_or_eq_one.mp few with rfl | rfl
    · exact forNext
    · exact forPrevious
  obtain ⟨rest, previous⟩ := serves.run_findPredecessor within enough
  refine ⟨
    {
      successor := conn
      successorAddress := (members.chain[members.chain.idxOf name + 1]?).map members.address
      predecessorAddress :=
        if members.chain.idxOf name = 0 then none
        else (members.chain[members.chain.idxOf name - 1]?).map members.address
      role := newRole members.chain.length (members.chain.idxOf name)
      nodeIndex := members.chain.idxOf name
      chainSize := members.chain.length
    },
    rest, ?_, ⟨rfl, rfl, rfl, rfl, rfl, by simpa using connected⟩
  ⟩
  unfold zkUpdateChainInternal
  rw [own]
  dsimp only
  rw [serves.watched, if_neg (by simp), run_bind_of_ok sorted]
  dsimp only
  rw [zkFindNodeIndex_chain inChain, if_neg (by omega), run_bind_of_ok next]
  dsimp only
  rw [run_bind_of_ok previous]
  simp

end

end CarChain
