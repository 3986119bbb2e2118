import CarChain.Library.CDecimal
import CarChain.Model.Topology

/-! The order in which servers register is the order of the chain (`zk_server.c`, `zk_util.c`).

ZooKeeper appends a counter to the name of every server that registers, printed with
`%010d` and larger than all counters before. Sorting the paths as text is then sorting the
servers by their counters.
-/

namespace CarChain

open CRuntime CStandard

variable {Conn : Type}

/-- The greatest counter that ZooKeeper gives. -/
def counterMax : Nat := 2147483647

/-- A counter as ZooKeeper prints it. -/
def printedCounter (counter : Nat) : CString :=
  ⟨zeroPadded 10 counter, fun h => absurd (mem_zeroPadded h).1 (by decide)⟩

/-- `NODE_PREFIX`. -/
def nodePrefix : CString := .literal "/chain/node"

/-- The path that `zoo_create` reports for a sequential node. -/
def createdPath (counter : Nat) : CString := nodePrefix ++ printedCounter counter

/-- The name of that node among the children. -/
def childName (counter : Nat) : CString := .literal "node" ++ printedCounter counter

/-- The full path of a server in the chain. -/
def serverPath (counter : Nat) : CString := nodePath (childName counter)

/-- A path as `snprintf` leaves it in the buffer that is allocated for it. -/
def builtPath (child : CString) : CString :=
  (nodePath child).truncate (chainPath.strlen + child.strlen + 2)

/-- `zk_register`: whether the parent exists or could be created, and the path of the new node,
which is read into a buffer of 256 bytes.
-/
def zkRegister (parent : Bool) (created : Option CString) (state : ZkState Conn)
    : Mem (Int32 × ZkState Conn) := do
  if !parent then return (-1, state)
  match created with
  | none => return (-1, state)
  | some path =>
      match ← strdup (path.truncate 256) with
      | none => return (-1, { state with nodePath := none })
      | some nodePath => return (0, { state with nodePath := some nodePath })

/-- ZooKeeper returns the servers with these counters as children, in any order. -/
def ZkSession.Lists (zk : ZkSession Conn) (counters : List Nat) : Prop :=
  ∃ children : List Nat, children.Perm counters ∧ zk.getChildren = some (children.map childName)

/-- What `zk_get_sorted_chain_nodes` returns for servers in this order: NULL without any. -/
def pathsOf (ranked : List Nat) : Option (List CString) :=
  if ranked = [] then none else some (ranked.map serverPath)

/-- The servers with these counters are found in this order. -/
structure RegistrationOrder (Conn : Type) (counters ranked : List Nat) : Prop where
  complete : ranked.Perm counters
  increasing : ranked.Pairwise (· < ·)
  built : ∀ counter ∈ counters, builtPath (childName counter) = serverPath counter
  sorted
    : ∀ zk : ZkSession Conn,
        zk.Lists counters → (zkGetSortedChainNodes zk).run [] = .ok (pathsOf ranked, [])
  newestLast
    : ∀ new ≤ counterMax,
        (∀ counter ∈ counters, counter < new)
        → ∀ zk : ZkSession Conn,
            zk.Lists (new :: counters)
            → (zkGetSortedChainNodes zk).run []
              = .ok (some (ranked.map serverPath ++ [serverPath new]), [])
  removal
    : ∀ gone ∈ counters,
        ∀ zk : ZkSession Conn,
          zk.Lists (counters.erase gone)
          → (zkGetSortedChainNodes zk).run [] = .ok (pathsOf (ranked.erase gone), [])
  ownRank
    : ∀ (rank : Nat) counter,
        ranked[rank]? = some counter
        → ∀ state : ZkState Conn, ∃ after ownPath,
            (zkRegister true (some (createdPath counter)) state).run [] = .ok ((0, after), [])
            ∧ after.nodePath = some ownPath
            ∧ zkFindNodeIndex (ranked.map serverPath) ownPath = rank

-----------------------------------------------------------------------------------------
-- Paths and counters
-----------------------------------------------------------------------------------------

theorem counter_lt {counter : Nat} (h : counter ≤ counterMax) : counter < 10 ^ (9 + 1) := by
  unfold counterMax at h
  omega

/-- The buffer of a path has room for the parent, the slash, the child and the terminator. -/
theorem builtPath_eq (child : CString) : builtPath child = nodePath child := by
  refine CString.truncate_of_lt ?_
  have slash : (CString.literal "/").bytes.length = 1 := rfl
  simp [nodePath, CString.strlen, slash]
  omega

/-- The path that is reported fits its buffer, and is the full path of the child. -/
theorem createdPath_truncate {counter : Nat} (h : counter ≤ counterMax)
    : (createdPath counter).truncate 256 = serverPath counter := by
  have digits := length_zeroPadded (counter_lt h)
  have front : nodePrefix.bytes.length = 11 := rfl
  rw [CString.truncate_of_lt]
  · rfl
  · simp [createdPath, CString.strlen, printedCounter, digits, front]

/-- Names are ordered as their counters. -/
theorem strcmp_childName_le {left right : Nat} (hl : left ≤ counterMax) (hr : right ≤ counterMax)
    : strcmp (childName left) (childName right) ≤ 0 ↔ left ≤ right := by
  rw [childName, childName, strcmp_append]
  exact strcmpBytes_zeroPadded_le (counter_lt hl) (counter_lt hr)

theorem childName_inj {left right : Nat} (hl : left ≤ counterMax) (hr : right ≤ counterMax)
    (h : childName left = childName right)
    : left = right := by
  have below := (strcmp_childName_le hl hr).mp (by rw [h, strcmp_self])
  have above := (strcmp_childName_le hr hl).mp (by rw [h, strcmp_self])
  omega

-----------------------------------------------------------------------------------------
-- What is read of the chain
-----------------------------------------------------------------------------------------

section

variable {zk : ZkSession Conn} {counters ranked : List Nat}

/-- Sorting the names in any order sorts the counters. -/
theorem chainOf_childName (bounded : ∀ counter ∈ ranked, counter ≤ counterMax)
    (increasing : ranked.Pairwise (· < ·)) (complete : ranked.Perm counters)
    : chainOf (counters.map childName) = ranked.map childName := by
  have ordered : (ranked.map childName).Pairwise (fun left right => strcmp left right ≤ 0) := by
    rw [List.pairwise_map]
    refine increasing.imp_of_mem (fun {left right} hl hr less => ?_)
    exact (strcmp_childName_le (bounded left hl) (bounded right hr)).mpr (Nat.le_of_lt less)
  rw [← chainOf_eq_of_perm (complete.map childName)]
  exact ordered.insertionSort_eq

/-- Whatever the order of the children, their paths are read in the order of their counters. -/
theorem run_zkGetSortedChainNodes_counters (bounded : ∀ counter ∈ ranked, counter ≤ counterMax)
    (increasing : ranked.Pairwise (· < ·)) (complete : ranked.Perm counters)
    (lists : zk.Lists counters)
    : (zkGetSortedChainNodes zk).run [] = .ok (pathsOf ranked, []) := by
  obtain ⟨children, order, listed⟩ := lists
  have sorted := chainOf_childName bounded increasing (complete.trans order.symm)
  unfold pathsOf
  split
  · rename_i nobody
    subst nobody
    have empty := (complete.trans order.symm).nil_eq
    subst empty
    simp [zkGetSortedChainNodes, listed]
  · rename_i some_server
    have nonempty : children.map childName ≠ [] := by
      intro nobody
      rw [List.map_eq_nil_iff] at nobody
      subst nobody
      exact some_server (complete.trans order.symm).eq_nil
    rw [run_zkGetSortedChainNodes listed nonempty (grants_nil _), sorted, List.drop_nil,
      List.map_map]
    rfl

/-- A registered server finds the path it stored at its rank. -/
theorem zkFindNodeIndex_rank (bounded : ∀ counter ∈ ranked, counter ≤ counterMax)
    (increasing : ranked.Pairwise (· < ·)) {rank counter : Nat}
    (here : ranked[rank]? = some counter)
    : zkFindNodeIndex (ranked.map serverPath) (serverPath counter) = rank := by
  have distinct : (ranked.map childName).Nodup := by
    rw [List.nodup_map_iff_inj_on (increasing.imp Nat.ne_of_lt)]
    exact fun left hl right hr same => childName_inj (bounded left hl) (bounded right hr) same
  obtain ⟨inside, same⟩ := List.getElem?_eq_some_iff.mp here
  have position : (ranked.map childName).idxOf (childName counter) = rank := by
    have placed := distinct.idxOf_getElem rank (by simpa using inside)
    rwa [List.getElem_map, same] at placed
  have member : childName counter ∈ ranked.map childName :=
    List.mem_map_of_mem (List.mem_of_getElem? here)
  have found := zkFindNodeIndex_chain member
  rw [position, List.map_map] at found
  exact found

/-- `zk_register` stores the full path of the new child. -/
theorem run_zkRegister {counter : Nat} (bounded : counter ≤ counterMax) (state : ZkState Conn)
    : (zkRegister true (some (createdPath counter)) state).run []
      = .ok ((0, { state with nodePath := some (serverPath counter) }), []) := by
  rw [zkRegister, ← createdPath_truncate bounded]
  rfl

end

/-- Different counters can be put in increasing order. -/
theorem exists_ranked {counters : List Nat} (distinct : counters.Nodup)
    : ∃ ranked : List Nat, ranked.Perm counters ∧ ranked.Pairwise (· < ·) := by
  have complete := List.perm_insertionSort (· ≤ ·) counters
  have ordered := List.pairwise_insertionSort (· ≤ ·) counters
  have apart : (counters.insertionSort (· ≤ ·)).Nodup := complete.nodup_iff.mpr distinct
  refine ⟨_, complete, (ordered.and apart).imp (fun {left right} h => ?_)⟩
  exact Nat.lt_of_le_of_ne h.1 h.2

/-- Servers with any different counters, in whatever order ZooKeeper returns them, form a chain
in the order of their registration.
-/
theorem registrationOrder (Conn : Type) {counters : List Nat} (distinct : counters.Nodup)
    (bounded : ∀ counter ∈ counters, counter ≤ counterMax)
    : ∃ ranked, RegistrationOrder Conn counters ranked := by
  obtain ⟨ranked, complete, increasing⟩ := exists_ranked distinct
  have within : ∀ counter ∈ ranked, counter ≤ counterMax :=
    fun counter member => bounded counter (complete.mem_iff.mp member)
  refine ⟨ranked, complete, increasing, fun counter _ => builtPath_eq _, fun zk lists => ?_,
    fun new fits last zk lists => ?_, fun gone _ zk lists => ?_,
    fun rank counter here state => ?_⟩
  · exact run_zkGetSortedChainNodes_counters within increasing complete lists
  · have longer : (ranked ++ [new]).Pairwise (· < ·) := by
      refine List.pairwise_append.mpr ⟨increasing, List.pairwise_singleton _ _, ?_⟩
      intro counter member other other_is_new
      obtain rfl := List.mem_singleton.mp other_is_new
      exact last counter (complete.mem_iff.mp member)
    have bounds : ∀ counter ∈ ranked ++ [new], counter ≤ counterMax := by
      intro counter member
      rcases List.mem_append.mp member with before | same
      · exact within counter before
      · rwa [List.mem_singleton.mp same]
    have together : (ranked ++ [new]).Perm (new :: counters) :=
      List.perm_append_comm.trans (complete.cons new)
    rw [run_zkGetSortedChainNodes_counters bounds longer together lists, pathsOf, if_neg (by simp),
      List.map_append, List.map_singleton]
  · have remain : (ranked.erase gone).Pairwise (· < ·) := increasing.sublist List.erase_sublist
    have bounds : ∀ counter ∈ ranked.erase gone, counter ≤ counterMax :=
      fun counter member => within counter (List.mem_of_mem_erase member)
    exact run_zkGetSortedChainNodes_counters bounds remain (complete.erase gone) lists
  · have known := within counter (List.mem_of_getElem? here)
    exact ⟨_, _, run_zkRegister known state, rfl, zkFindNodeIndex_rank within increasing here⟩

theorem registrationOrder_three
    : [12, 9, 10].Nodup
      ∧ (∀ counter ∈ [12, 9, 10], counter ≤ counterMax)
      ∧ ∃ ranked, RegistrationOrder Unit [12, 9, 10] ranked :=
  have distinct : [12, 9, 10].Nodup := by decide
  have bounded : ∀ counter ∈ [12, 9, 10], counter ≤ counterMax := by decide
  ⟨distinct, bounded, registrationOrder Unit distinct bounded⟩

end CarChain
