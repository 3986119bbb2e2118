import CarChain.Model.Topology

/-! The client's connections to the two ends of the chain (`zookeeper-interactions.c`).

The client takes the first and the last child as ZooKeeper returns them, while the servers
sort the children first. ZooKeeper promises no order, so the two agree exactly when the
children happen to come with the least one first and the greatest one last.
-/

namespace CarChain

open CRuntime CStandard

/-- What the calls of one callback return: the watched children, whether a buffer can be
allocated, the data of a node, and the connection to an address.
-/
structure ClientSession (Conn : Type) where
  children : Option (List CString)
  buffer : Bool
  get : CString → Option CString
  connect : CString → Option Conn

/-- `rlistHead` and `rlistTail`. -/
structure ClientEnds (Conn : Type) where
  head : Option Conn
  tail : Option Conn
  deriving DecidableEq

inductive ClientEvent where
  | child
  | sessionConnected
  | sessionExpired
  | other
  deriving DecidableEq

variable {Conn : Type}

/-- `snprintf` of a child's path into a buffer of 1024 bytes. -/
def clientNodePath (child : CString) : CString := (nodePath child).truncate 1024

/-- The part that `connectToHead` and `connectToTail` share: connect to the address stored in
a node. Only a connection attempt replaces the previous one.
-/
def connectToNode (zk : ClientSession Conn) (node : CString) (previous : Option Conn)
    : Option Conn :=
  if zk.buffer then
    match zk.get node with
    | none => previous
    | some data => zk.connect (data.truncate 513)
  else
    previous

def connectToHead (zk : ClientSession Conn) (children : List CString) (ends : ClientEnds Conn)
    : Except Fault (ClientEnds Conn) :=
  match children.head? with
  | none => .error .outOfBounds
  | some child => .ok { ends with head := connectToNode zk (clientNodePath child) ends.head }

def connectToTail (zk : ClientSession Conn) (children : List CString) (ends : ClientEnds Conn)
    : Except Fault (ClientEnds Conn) :=
  match children.getLast? with
  | none => .error .outOfBounds
  | some child => .ok { ends with tail := connectToNode zk (clientNodePath child) ends.tail }

/-- The callback of the client while its session handle is open. -/
def watcher (zk : ClientSession Conn) (event : ClientEvent) (ends : ClientEnds Conn)
    : Except Fault (ClientEnds Conn) :=
  match event with
  | .child =>
      match zk.children with
      | none => .ok ends
      | some [] => .ok ⟨none, none⟩
      | some children => do connectToTail zk children (← connectToHead zk children ⟨none, none⟩)
  | .sessionConnected => .ok ends
  | .sessionExpired => .ok ⟨none, none⟩
  | .other => .ok ends

/-- The start of a client, which has no connections yet. A read of the children that fails
returns −1 as well, as far as its code is looked at at all.
-/
def connectToZookeper (zk : ClientSession Conn) : Except Fault (Int32 × ClientEnds Conn) :=
  match zk.children with
  | none => .ok (-1, ⟨none, none⟩)
  | some [] => .ok (-1, ⟨none, none⟩)
  | some children => do
      let ends ← connectToTail zk children (← connectToHead zk children ⟨none, none⟩)
      return (if ends.head.isNone ∨ ends.tail.isNone then -1 else 0, ends)

/-- Given the children in this order, the client connects to the nodes that a server given
the same children in any order has at the ends of its sorted array, whatever the nodes hold.
-/
def EndsAgree (seen : List CString) : Prop :=
  ∀ (Conn : Type) (client : ClientSession Conn) (ends : ClientEnds Conn)
    (server : ZkSession Conn) (listed : List CString) (script rest : List Bool)
    (first last : CString) (nodePaths : List CString),
    listed.Perm seen
    → server.getChildren = some listed
    → (zkGetSortedChainNodes server).run script = .ok (some nodePaths, rest)
    → nodePaths.head? = some first
    → nodePaths.getLast? = some last
    → connectToHead client seen ends
        = .ok { ends with head := connectToNode client first ends.head }
      ∧ connectToTail client seen ends
        = .ok { ends with tail := connectToNode client last ends.tail }

/-- The paths that fit the client's buffer of the first and of the last child are those of the
least and of the greatest one. For names of ordinary length that means: the least child
comes first and the greatest one last.
-/
structure EndsInPlace (seen : List CString) : Prop where
  first
    : ∃ child least,
        seen.head? = some child
        ∧ (least ∈ seen ∧ ∀ other ∈ seen, strcmp least other ≤ 0)
        ∧ clientNodePath child = nodePath least
  last
    : ∃ child greatest,
        seen.getLast? = some child
        ∧ (greatest ∈ seen ∧ ∀ other ∈ seen, strcmp other greatest ≤ 0)
        ∧ clientNodePath child = nodePath greatest

/-- A path that fits the buffer is read whole. -/
theorem clientNodePath_of_lt {child : CString} (h : (nodePath child).strlen < 1024)
    : clientNodePath child = nodePath child :=
  CString.truncate_of_lt h

/-- For names that fit, the first child is the least one and the last child the greatest. -/
theorem endsInPlace_iff_of_fits {seen : List CString}
    (fits : ∀ child ∈ seen, (nodePath child).strlen < 1024)
    : EndsInPlace seen
      ↔ (∃ child, seen.head? = some child ∧ ∀ other ∈ seen, strcmp child other ≤ 0)
        ∧ ∃ child, seen.getLast? = some child ∧ ∀ other ∈ seen, strcmp other child ≤ 0 := by
  constructor
  · intro h
    obtain ⟨⟨child, least, head, ⟨-, below⟩, path⟩, ⟨final, greatest, last, ⟨-, above⟩, end_⟩⟩ := h
    rw [clientNodePath_of_lt (fits child (List.mem_of_head? head)), nodePath_inj] at path
    rw [clientNodePath_of_lt (fits final (List.mem_of_getLast? last)), nodePath_inj] at end_
    exact ⟨⟨child, head, path ▸ below⟩, ⟨final, last, end_ ▸ above⟩⟩
  · intro h
    obtain ⟨⟨child, head, below⟩, ⟨final, last, above⟩⟩ := h
    have member := List.mem_of_head? head
    have other := List.mem_of_getLast? last
    exact ⟨
      ⟨child, child, head, ⟨member, below⟩, clientNodePath_of_lt (fits child member)⟩,
      ⟨final, final, last, ⟨other, above⟩, clientNodePath_of_lt (fits final other)⟩
    ⟩

/-- The client and a server agree on a node when the client reads that node's path. -/
theorem connectToHead_of_path {client : ClientSession Conn} {seen : List CString}
    {ends : ClientEnds Conn} {child node : CString} (head : seen.head? = some child)
    (path : clientNodePath child = node)
    : connectToHead client seen ends
      = .ok { ends with head := connectToNode client node ends.head } := by
  rw [connectToHead, head, ← path]

theorem connectToTail_of_path {client : ClientSession Conn} {seen : List CString}
    {ends : ClientEnds Conn} {child node : CString} (last : seen.getLast? = some child)
    (path : clientNodePath child = node)
    : connectToTail client seen ends
      = .ok { ends with tail := connectToNode client node ends.tail } := by
  rw [connectToTail, last, ← path]

/-- With the ends in place, both ways in which a client connects reach the ends of the chain. -/
theorem connect_of_endsInPlace {client : ClientSession Conn} {ends : ClientEnds Conn}
    {seen : List CString} {least greatest : CString} (listed : client.children = some seen)
    (place : EndsInPlace seen) (first : (chainOf seen).head? = some least)
    (last : (chainOf seen).getLast? = some greatest)
    : ∃ reached : ClientEnds Conn,
        reached.head = connectToNode client (nodePath least) none
        ∧ reached.tail = connectToNode client (nodePath greatest) none
        ∧ watcher client .child ends = .ok reached
        ∧ ∃ code, connectToZookeper client = .ok (code, reached) := by
  obtain ⟨⟨child, front, head, below, path⟩, ⟨final, back, tail, above, end_⟩⟩ := place
  obtain rfl := Option.some.inj ((chainOf_head.mpr below).symm.trans first)
  obtain rfl := Option.some.inj ((chainOf_getLast.mpr above).symm.trans last)
  cases seen with
  | nil => cases head
  | cons other rest =>
      have both
          : (connectToHead client (other :: rest) ⟨none, none⟩ >>= fun reached =>
              connectToTail client (other :: rest) reached)
            = .ok
                ⟨
                  connectToNode client (nodePath front) none,
                  connectToNode client (nodePath back) none
                ⟩ := by
        rw [connectToHead_of_path head path, ok_bind, connectToTail_of_path tail end_]
      refine ⟨⟨_, _⟩, rfl, rfl, ?_, ?_⟩
      · simp only [watcher, listed]
        exact both
      · simp only [connectToZookeper, listed, ← bind_assoc, both]
        exact ⟨_, rfl⟩

/-- A client that tells one node from all others by the address it holds. -/
def pickyClient (node : CString) : ClientSession CString where
  children := none
  buffer := true
  get path := some (if path = node then .literal "127.0.0.1:5000" else .literal "127.0.0.1:5001")
  connect := some

/-- Its connection shows which node was read. -/
theorem connectToNode_picky {read node : CString} {previous : Option CString}
    : connectToNode (pickyClient node) read previous
        = connectToNode (pickyClient node) node previous
      ↔ read = node := by
  by_cases same : read = node
  · simp [same]
  · have apart : (CString.literal "127.0.0.1:5001").truncate 513
        ≠ (CString.literal "127.0.0.1:5000").truncate 513 := by
      rw [CString.truncate_of_lt (by decide), CString.truncate_of_lt (by decide)]
      decide
    simp [connectToNode, pickyClient, same, apart]

/-- Client and servers agree on the ends for every other order of the children exactly when
the client was given them with the ends in place.
-/
theorem endsAgree_iff {seen : List CString} (nonempty : seen ≠ [])
    : EndsAgree seen ↔ EndsInPlace seen := by
  constructor
  · intro agree
    have long : chainOf seen ≠ [] := by
      intro empty
      exact nonempty (empty ▸ chainOf_perm seen).nil_eq.symm
    obtain ⟨least, first⟩ := Option.isSome_iff_exists.mp (List.isSome_head?.mpr long)
    obtain ⟨greatest, last⟩ := Option.isSome_iff_exists.mp (List.getLast?_isSome.mpr long)
    obtain ⟨child, head⟩ := Option.isSome_iff_exists.mp (List.isSome_head?.mpr nonempty)
    obtain ⟨final, tail⟩ := Option.isSome_iff_exists.mp (List.getLast?_isSome.mpr nonempty)
    have used (node : CString) := agree CString (pickyClient node) ⟨none, none⟩
      ⟨true, some seen, fun _ => none, fun _ _ => none⟩ seen [] _ (nodePath least)
      (nodePath greatest) _ (.refl seen) rfl
      (run_zkGetSortedChainNodes rfl nonempty (grants_nil _))
      (by simp [first]) (by simp [last])
    constructor
    · refine ⟨child, least, head, chainOf_head.mp first, ?_⟩
      have read := (used (nodePath least)).1
      rw [connectToHead, head] at read
      simp only [Except.ok.injEq, ClientEnds.mk.injEq, and_true] at read
      exact connectToNode_picky.mp read
    · refine ⟨final, greatest, tail, chainOf_getLast.mp last, ?_⟩
      have read := (used (nodePath greatest)).2
      rw [connectToTail, tail] at read
      simp only [Except.ok.injEq, ClientEnds.mk.injEq, true_and] at read
      exact connectToNode_picky.mp read
  · intro h
    obtain ⟨⟨child, least, head, below, path⟩, ⟨final, greatest, tail, above, end_⟩⟩ := h
    intro Conn client ends server listed script rest first last nodePaths perm given ran
      starts finishes
    obtain ⟨-, rfl⟩ := zkGetSortedChainNodes_some given ran
    rw [chainOf_eq_of_perm perm] at starts finishes
    rw [List.head?_map, chainOf_head.mpr below] at starts
    rw [List.getLast?_map, chainOf_getLast.mpr above] at finishes
    cases starts
    cases finishes
    exact ⟨connectToHead_of_path head path, connectToTail_of_path tail end_⟩

/-- Four children whose ends are in place and whose inner ones are not. -/
def innerSwapped : List CString :=
  [.literal "node0000000010", .literal "node0000000012", .literal "node0000000011",
    .literal "node0000000013"]

/-- The order of the inner children does not matter. -/
theorem endsAgree_iff_swapped : innerSwapped ≠ [] ∧ EndsAgree innerSwapped :=
  ⟨
    by decide,
    (endsAgree_iff (by decide)).mpr
      ((endsInPlace_iff_of_fits (by decide)).mpr
        ⟨⟨_, rfl, by decide⟩, ⟨_, rfl, by decide⟩⟩)
  ⟩

/-- With the younger of two servers listed first, the client takes it for the head. -/
theorem endsAgree_unsorted
    : ¬EndsAgree [.literal "node0000000001", .literal "node0000000000"] := by
  intro agree
  have read := (agree CString (pickyClient (nodePath (.literal "node0000000000"))) ⟨none, none⟩
    ⟨true, some [.literal "node0000000000", .literal "node0000000001"], fun _ => none,
      fun _ _ => none⟩
    [.literal "node0000000000", .literal "node0000000001"] [] []
    (nodePath (.literal "node0000000000")) (nodePath (.literal "node0000000001"))
    [nodePath (.literal "node0000000000"), nodePath (.literal "node0000000001")]
    (.swap _ _ _) rfl (by decide) rfl rfl).1
  simp only [connectToHead, List.head?_cons, Except.ok.injEq, ClientEnds.mk.injEq] at read
  exact absurd (connectToNode_picky.mp read.1) (by decide)

end CarChain
