import CarChain.Library.LinkedCells
import CarChain.Model.CarList

/-! The list as the program keeps it: nodes in memory, linked from a head (`list.c`).

This is the level below `ListT`, whose cars are the ones met on the way from the head. A car
belongs to the one node that points to it, so it is kept in its node.
-/

namespace CarChain

open CRuntime CStandard LinkedCells

/-- `struct list_t` and the memory of its nodes (`struct car_t`). -/
structure NodeList where
  nodes : Cells DataT
  head : Option Addr
  size : Int32

namespace NodeList

/-- `list_create`. -/
def listCreate : NodeList := ⟨∅, none, 0⟩

/-- `list_add` of a car, with the node that `malloc` returns. -/
def listAdd (list : NodeList) (car : Option DataT) (node : Option Addr)
    : Except Fault (NodeList × Int32) :=
  match car, node with
  | none, _ => .ok (list, -1)
  | some _, none => .ok (list, -1)
  | some car, some node =>
      let nodes := list.nodes.insert node ⟨some car, none⟩
      match list.head with
      | none => .ok (⟨nodes, some node, list.size + 1⟩, 0)
      | some head => do
          let last ← lastCell nodes (count nodes) head
          let nodes ← setNext nodes last (some node)
          return (⟨nodes, some head, list.size + 1⟩, 0)

/-- What `list_remove_by_model` does to the node it found: unlink it behind `prev`, or from
the head without one, and free it.
-/
def unlinkNode (list : NodeList) (prev : Option Addr) (cur : Addr) (next : Option Addr)
    : Except Fault NodeList := do
  match prev with
  | some prev =>
      let nodes ← setNext list.nodes prev next
      return ⟨nodes.erase cur, list.head, list.size - 1⟩
  | none => return ⟨list.nodes.erase cur, next, list.size - 1⟩

/-- The while loop of `list_remove_by_model`, within a bound on its rounds. -/
def removeFrom (modelo : CString) (list : NodeList)
    : Nat → Option Addr → Option Addr → Except Fault (NodeList × Int32)
  | 0, _, _ => .error .loopBound
  | _ + 1, _, none => .ok (list, 1)
  | bound + 1, prev, some cur => do
      let node ← load list.nodes cur
      match node.data with
      | none => removeFrom modelo list bound (some cur) node.next
      | some car =>
          if strcmp car.modelo modelo = 0 then
            return (← unlinkNode list prev cur node.next, 0)
          else
            removeFrom modelo list bound (some cur) node.next

/-- `list_remove_by_model`; the loop visits each node once, then the NULL behind the last. -/
def listRemoveByModel (list : NodeList) (modelo : Option CString)
    : Except Fault (NodeList × Int32) :=
  match modelo with
  | none => .ok (list, -1)
  | some modelo => removeFrom modelo list (count list.nodes + 1) none list.head

/-- The for loop of one pass of `list_order_by_year` from a node on: the nodes it leaves, and
`swapped`, or `none` where it returns −1.
-/
def passFrom : Nat → Cells DataT → Addr → Bool → Except Fault (Cells DataT × Option Bool)
  | 0, _, _, _ => .error .loopBound
  | bound + 1, nodes, p, swapped => do
      let node ← load nodes p
      match node.next with
      | none => return (nodes, some swapped)
      | some next =>
          let following ← load nodes next
          match node.data, following.data with
          | some left, some right =>
              if right.year < left.year then
                let nodes ← setData nodes p (some right)
                let nodes ← setData nodes next (some left)
                passFrom bound nodes next true
              else
                passFrom bound nodes next swapped
          | _, _ => return (nodes, none)

/-- The do-while loop of `list_order_by_year`, within a bound on its passes. -/
def passes (head : Addr) : Nat → Cells DataT → Except Fault (Cells DataT × Int32)
  | 0, _ => .error .loopBound
  | bound + 1, nodes => do
      match ← passFrom (count nodes) nodes head false with
      | (nodes, none) => return (nodes, -1)
      | (nodes, some true) => passes head bound nodes
      | (nodes, some false) => return (nodes, 0)

/-- `list_order_by_year` that may make this many passes. -/
def listOrderByYearWithin (bound : Nat) (list : NodeList) : Except Fault (NodeList × Int32) :=
  match list.head with
  | none => .ok (list, 0)
  | some head => do
      let node ← load list.nodes head
      if node.next = none then return (list, 0)
      let (nodes, code) ← passes head bound list.nodes
      return ({ list with nodes }, code)

/-- `list_order_by_year`, with as many passes as there are nodes. -/
def listOrderByYear (list : NodeList) : Except Fault (NodeList × Int32) :=
  listOrderByYearWithin (count list.nodes) list

/-- `list_size`. -/
def listSize (list : NodeList) : Int32 := list.size

-----------------------------------------------------------------------------------------
-- What the operations do to the chain
-----------------------------------------------------------------------------------------

/-- The chain of the list: from the head through nodes that hold these cars to NULL. -/
def Chain (list : NodeList) (chain : List (Addr × DataT)) : Prop :=
  Path list.nodes list.head chain none

variable {list : NodeList} {chain : List (Addr × DataT)}

/-- `list_add` links the new node behind the last one. -/
theorem run_listAdd (linked : list.Chain chain) {node : Addr} (fresh : node ∉ list.nodes)
    (car : DataT)
    : ∃ after : NodeList,
        list.listAdd (some car) (some node) = .ok (after, 0)
        ∧ after.Chain (chain ++ [(node, car)])
        ∧ after.size = list.size + 1
        ∧ ∀ addr, addr ∈ after.nodes ↔ addr = node ∨ addr ∈ list.nodes := by
  obtain ⟨nodes, head, size⟩ := list
  rcases List.eq_nil_or_concat' chain with rfl | ⟨front, ⟨last, car'⟩, rfl⟩
  · cases (linked : head = none)
    refine ⟨⟨nodes.insert node ⟨some car, none⟩, some node, size + 1⟩, rfl, ?_, rfl, ?_⟩
    · exact ⟨rfl, none, Finmap.lookup_insert _, rfl⟩
    · exact fun addr => Finmap.mem_insert
  · have path : Path nodes head (front ++ [(last, car')]) none := linked
    have apart : node ∉ addrs (front ++ [(last, car')]) := fun h => fresh (path.allocated h)
    obtain ⟨first, rfl⟩ : ∃ first, head = some first := by
      cases front <;> exact ⟨_, path.1⟩
    have inserted := path.insert ⟨some car, none⟩ apart
    have enough := inserted.length_le
    rw [List.length_append, List.length_singleton] at enough
    have walked := inserted.lastCell enough
    obtain ⟨middle, -, here, next, found, rfl⟩ := path_append.mp inserted
    refine ⟨⟨(nodes.insert node ⟨some car, none⟩).insert last ⟨some car', some node⟩, some first,
      size + 1⟩, ?_, ?_, rfl, fun addr => ?_⟩
    · rw [listAdd]
      dsimp only
      rw [walked, ok_bind, setNext_of_lookup found, ok_bind]
      rfl
    · rw [Chain, List.append_assoc]
      exact path.link fresh
    · have allocated := Finmap.mem_of_lookup_eq_some found
      rw [Finmap.mem_insert] at allocated ⊢
      rw [Finmap.mem_insert]
      constructor
      · intro given
        rcases given with rfl | member
        · exact allocated
        · exact member
      · exact .inr

/-- The test of the while loop of `list_remove_by_model` on a node with a car. -/
def matchesModel (modelo : CString) (node : Addr × DataT) : Bool :=
  strcmp node.2.modelo modelo = 0

/-- The loop passes over nodes with other models, by induction on them. -/
theorem removeFrom_skip (modelo : CString) {front rest : List (Addr × DataT)}
    (prev : Option Addr) {cur : Option Addr} (path : Path list.nodes cur (front ++ rest) none)
    (differ : ∀ node ∈ front, matchesModel modelo node = false) (bound : Nat)
    : ∃ next,
        Path list.nodes next rest none
        ∧ removeFrom modelo list (front.length + bound) prev cur
          = removeFrom modelo list bound ((addrs front).getLast?.or prev) next := by
  induction front generalizing prev cur with
  | nil => exact ⟨cur, path, by simp⟩
  | cons node front ih =>
      obtain ⟨addr, car⟩ := node
      obtain ⟨rfl, next, found, later⟩ := path
      obtain ⟨reached, path, same⟩ :=
        ih (some addr) later (fun node member => differ node (List.mem_cons_of_mem _ member))
      refine ⟨reached, path, ?_⟩
      have apart : ¬strcmp car.modelo modelo = 0 := by
        simpa [matchesModel] using differ (addr, car) (by simp)
      rw [List.length_cons, Nat.add_right_comm, removeFrom, load_of_lookup found, ok_bind]
      dsimp only
      rw [if_neg apart, same]
      cases front <;> simp [List.getLast?_cons]

/-- Unlinking a node frees it and takes it out of the chain. -/
theorem run_unlinkNode {front rest : List (Addr × DataT)} {cur : Addr} {car : DataT}
    {next : Option Addr} (linked : list.Chain (front ++ (cur, car) :: rest))
    (found : list.nodes.lookup cur = some ⟨some car, next⟩)
    : ∃ after : NodeList,
        list.unlinkNode (addrs front).getLast? cur next = .ok after
        ∧ after.Chain (front ++ rest)
        ∧ after.size = list.size - 1
        ∧ ∀ addr, addr ∈ after.nodes ↔ addr ≠ cur ∧ addr ∈ list.nodes := by
  obtain ⟨nodes, head, size⟩ := list
  rcases List.eq_nil_or_concat' front with rfl | ⟨front, ⟨prev, left⟩, rfl⟩
  · have distinct := Path.nodup linked
    obtain ⟨-, other, found', later⟩ : Path nodes head ((cur, car) :: rest) none := linked
    cases found.symm.trans found'
    refine ⟨⟨nodes.erase cur, next, size - 1⟩, rfl, ?_, rfl, fun addr => Finmap.mem_erase⟩
    exact later.erase (List.nodup_cons.mp distinct).1
  · have path : Path nodes head (front ++ (prev, left) :: (cur, car) :: rest) none := by
      simpa [Chain] using linked
    obtain ⟨foundPrev, unlinked⟩ := path.unlink found
    refine ⟨⟨(nodes.insert prev ⟨some left, next⟩).erase cur, head, size - 1⟩, ?_, ?_, rfl, ?_⟩
    · simp [unlinkNode, setNext_of_lookup foundPrev]
    · simpa [Chain] using unlinked
    · intro addr
      have allocated := Finmap.mem_of_lookup_eq_some foundPrev
      rw [Finmap.mem_erase, Finmap.mem_insert]
      constructor
      · intro h
        rcases h with ⟨apart, rfl | member⟩
        · exact ⟨apart, allocated⟩
        · exact ⟨apart, member⟩
      · exact fun ⟨apart, member⟩ => ⟨apart, .inr member⟩

/-- `list_remove_by_model` takes out the first node with that model. -/
theorem run_listRemoveByModel {front rest : List (Addr × DataT)} {node : Addr × DataT}
    {modelo : CString} (linked : list.Chain (front ++ node :: rest))
    (differ : ∀ node ∈ front, matchesModel modelo node = false)
    (first : matchesModel modelo node = true)
    : ∃ after : NodeList,
        list.listRemoveByModel (some modelo) = .ok (after, 0)
        ∧ after.Chain (front ++ rest)
        ∧ after.size = list.size - 1
        ∧ ∀ addr, addr ∈ after.nodes ↔ addr ≠ node.1 ∧ addr ∈ list.nodes := by
  obtain ⟨cur, car⟩ := node
  have within := Path.length_le linked
  rw [List.length_append, List.length_cons] at within
  obtain ⟨bound, enough⟩ := Nat.exists_eq_add_of_le
    (show front.length + 1 ≤ count list.nodes + 1 by omega)
  obtain ⟨reached, ⟨rfl, next, found, -⟩, same⟩ :=
    removeFrom_skip modelo none linked differ (1 + bound)
  obtain ⟨after, unlinked, shorter, size, kept⟩ := run_unlinkNode linked found
  refine ⟨after, ?_, shorter, size, kept⟩
  have equal : strcmp car.modelo modelo = 0 := by simpa [matchesModel] using first
  rw [listRemoveByModel, enough, Nat.add_assoc, same, Option.or_none, Nat.add_comm 1, removeFrom,
    load_of_lookup found, ok_bind]
  dsimp only
  rw [if_pos equal, unlinked]
  rfl

/-- Without such a node it returns 1 and leaves the list alone. -/
theorem run_listRemoveByModel_missing {modelo : CString} (linked : list.Chain chain)
    (differ : ∀ node ∈ chain, matchesModel modelo node = false)
    : list.listRemoveByModel (some modelo) = .ok (list, 1) := by
  obtain ⟨bound, enough⟩ := Nat.exists_eq_add_of_le linked.length_le
  have path : Path list.nodes list.head (chain ++ []) none := by rwa [List.append_nil]
  obtain ⟨reached, rfl, same⟩ := removeFrom_skip modelo none path differ (bound + 1)
  rw [listRemoveByModel, enough, Nat.add_assoc, same, removeFrom]

/-- Two linked nodes exchange their cars and keep their links; the chain from the second one on
starts with the first car then.
-/
theorem run_exchangeCars {nodes : Cells DataT} {p q : Addr} {left right : DataT}
    {next : Option Addr} {rest : List (Addr × DataT)}
    (first : nodes.lookup p = some ⟨some left, some q⟩)
    (second : nodes.lookup q = some ⟨some right, next⟩)
    (later : Path nodes (some q) ((q, right) :: rest) none)
    (outside : p ∉ addrs ((q, right) :: rest))
    : ∃ between after,
        setData nodes p (some right) = .ok between
        ∧ setData between q (some left) = .ok after
        ∧ after.lookup p = some ⟨some right, some q⟩
        ∧ Path after (some q) ((q, left) :: rest) none
        ∧ DataWritten nodes after [p, q] := by
  have apart : p ≠ q := by
    intro same
    exact outside (by simp [same])
  have followed : (nodes.insert p ⟨some right, some q⟩).lookup q = some ⟨some right, next⟩ := by
    rw [Finmap.lookup_insert_of_ne _ apart.symm, second]
  refine ⟨_, _, setData_of_lookup first, setData_of_lookup followed, ?_, ?_, ?_⟩
  · rw [Finmap.lookup_insert_of_ne _ apart, Finmap.lookup_insert]
  · exact (later.insert _ outside).write followed
  · exact (dataWritten_insert (some right) first (by simp)).trans
      (dataWritten_insert (some left) followed (by simp))

/-- One pass is a sweep that carries the car of the node it has reached; it writes the cars of
nodes from there on. By induction on the nodes still ahead.
-/
theorem run_passFrom {nodes : Cells DataT} {p : Addr} {carried : DataT}
    {rest : List (Addr × DataT)} {bound : Nat} (swapped : Bool)
    (path : Path nodes (some p) ((p, carried) :: rest) none) (enough : rest.length < bound)
    : ∃ after swept,
        passFrom bound nodes p swapped
          = .ok (after, some (swapped || (AdjacentSort.pass DataT.year carried (items rest)).2))
        ∧ Path after (some p) swept none
        ∧ addrs swept = p :: addrs rest
        ∧ items swept = (AdjacentSort.pass DataT.year carried (items rest)).1
        ∧ DataWritten nodes after (p :: addrs rest) := by
  obtain ⟨bound, rfl⟩ := Nat.exists_eq_succ_of_ne_zero (Nat.ne_of_gt (Nat.zero_lt_of_lt enough))
  induction rest generalizing nodes p carried swapped bound with
  | nil =>
      obtain ⟨-, next, found, rfl⟩ := id path
      refine ⟨nodes, [(p, carried)], ?_, path, rfl, rfl, .refl nodes _⟩
      rw [passFrom, load_of_lookup found, ok_bind]
      simp [AdjacentSort.pass]
  | cons node rest ih =>
      obtain ⟨q, car⟩ := node
      have outside : p ∉ addrs ((q, car) :: rest) := (List.nodup_cons.mp path.nodup).1
      obtain ⟨bound, rfl⟩ := Nat.exists_eq_succ_of_ne_zero
        (show bound ≠ 0 by rw [List.length_cons] at enough; omega)
      obtain ⟨-, _, found, later⟩ := id path
      obtain ⟨rfl, next, following, -⟩ := id later
      have fewer : rest.length < bound + 1 := by simpa using enough
      rw [passFrom, load_of_lookup found, ok_bind]
      dsimp only
      rw [load_of_lookup following, ok_bind]
      dsimp only
      rw [items_cons, AdjacentSort.pass]
      split
      · -- The cars change places: the carried one is now in the second node.
        obtain ⟨between, exchanged, first, second, here, moved, exchange⟩ :=
          run_exchangeCars found following later outside
        obtain ⟨after, swept, ran, path', addrs', items', written⟩ := ih true moved bound fewer
        rw [first, ok_bind, second, ok_bind, ran]
        have kept : after.lookup p = some ⟨some car, some q⟩ := by
          rw [written.frame p outside, here]
        refine ⟨after, (p, car) :: swept, ?_, ⟨rfl, some q, kept, path'⟩, ?_, ?_, ?_⟩
        · simp
        · simp [addrs']
        · simp [items']
        · have both : [p, q] ⊆ p :: addrs ((q, car) :: rest) := by simp
          exact (exchange.mono both).trans (written.mono (List.subset_cons_self _ _))
      · obtain ⟨after, swept, ran, path', addrs', items', written⟩ := ih swapped later bound fewer
        rw [ran]
        have kept : after.lookup p = some ⟨some carried, some q⟩ := by
          rw [written.frame p outside, found]
        refine ⟨after, (p, carried) :: swept, rfl, ⟨rfl, some q, kept, path'⟩, ?_, ?_, ?_⟩
        · simp [addrs']
        · simp [items']
        · exact written.mono (List.subset_cons_self _ _)

/-- The do-while loop settles the cars in the nodes where they are, by induction on the bound
on its passes.
-/
theorem run_passes {nodes : Cells DataT} {head : Addr} {settled : List DataT} {bound : Nat}
    (path : Path nodes (some head) chain none)
    (ends : AdjacentSort.settle DataT.year bound (items chain) = some settled)
    : ∃ after sorted,
        passes head bound nodes = .ok (after, 0)
        ∧ Path after (some head) sorted none
        ∧ addrs sorted = addrs chain
        ∧ items sorted = settled
        ∧ DataWritten nodes after (addrs chain) := by
  induction bound generalizing nodes chain with
  | zero => simp [AdjacentSort.settle] at ends
  | succ bound ih =>
      obtain ⟨car, rest, rfl⟩ : ∃ car rest, chain = (head, car) :: rest := by
        cases chain with
        | nil => cases path
        | cons node rest => exact ⟨node.2, rest, by rw [Option.some.inj path.1]⟩
      obtain ⟨after, swept, ran, path', addrs', items', written⟩ :=
        run_passFrom false path
          (show rest.length < count nodes from path.length_le)
      rw [items_cons, AdjacentSort.settle, AdjacentSort.sweep] at ends
      rw [passes, ran, ok_bind]
      cases swapped : (AdjacentSort.pass DataT.year car (items rest)).2 with
      | true =>
          rw [if_pos swapped, ← items'] at ends
          obtain ⟨last, sorted, ran', path'', addrs'', items'', written'⟩ := ih path' ends
          refine ⟨last, sorted, ran', path'', by rw [addrs'', addrs', addrs_cons], items'', ?_⟩
          rw [addrs'] at written'
          exact written.trans written'
      | false =>
          rw [if_neg (by simp [swapped])] at ends
          exact ⟨after, swept, rfl, path', addrs', items'.trans (Option.some.inj ends), written⟩

/-- A larger bound on the passes changes nothing, by induction on the smaller one. -/
theorem passes_of_le {nodes : Cells DataT} {head : Addr} {bound more : Nat}
    {result : Cells DataT × Int32} (h : passes head bound nodes = .ok result) (le : bound ≤ more)
    : passes head more nodes = .ok result := by
  induction bound generalizing nodes more with
  | zero => simp [passes] at h
  | succ bound ih =>
      obtain ⟨more, rfl⟩ := Nat.exists_eq_succ_of_ne_zero (show more ≠ 0 by omega)
      rw [passes] at h ⊢
      cases ran : passFrom (count nodes) nodes head false with
      | error fault => simp [ran] at h
      | ok left =>
          obtain ⟨between, outcome⟩ := left
          rw [ran] at h
          rw [ok_bind] at h ⊢
          match outcome, h with
          | none, h => exact h
          | some true, h => exact ih h (by omega)
          | some false, h => exact h

theorem listOrderByYearWithin_of_le {bound more : Nat} {result : NodeList × Int32}
    (h : list.listOrderByYearWithin bound = .ok result) (le : bound ≤ more)
    : list.listOrderByYearWithin more = .ok result := by
  obtain ⟨nodes, head, size⟩ := list
  cases head with
  | none => exact h
  | some head =>
      rw [listOrderByYearWithin] at h ⊢
      dsimp only at h ⊢
      cases found : load nodes head with
      | error fault => simp [found] at h
      | ok node =>
          rw [found] at h
          rw [ok_bind] at h ⊢
          by_cases alone : node.next = none
          · rw [if_pos alone] at h ⊢
            exact h
          · rw [if_neg alone] at h ⊢
            cases ran : passes head bound nodes with
            | error fault => simp [ran] at h
            | ok settled =>
                rw [passes_of_le ran le]
                rwa [ran] at h

/-- `list_order_by_year` settles the cars in the nodes where they are. -/
theorem run_listOrderByYearWithin {bound : Nat} (linked : list.Chain chain)
    (enough : chain.length ≤ bound)
    : ∃ (after : NodeList) (sorted : List (Addr × DataT)),
        list.listOrderByYearWithin bound = .ok (after, 0)
        ∧ after.Chain sorted
        ∧ addrs sorted = addrs chain
        ∧ AdjacentSort.StableSort DataT.year (items chain) (items sorted)
        ∧ after.size = list.size
        ∧ DataWritten list.nodes after.nodes (addrs chain) := by
  obtain ⟨nodes, head, size⟩ := list
  match chain, linked with
  | [], linked =>
      cases (linked : head = none)
      exact ⟨_, [], rfl, rfl, rfl, AdjacentSort.stableSort_of_ordered .nil, rfl, .refl nodes _⟩
  | [(addr, car)], linked =>
      obtain ⟨here, next, found, ends⟩ := id linked
      cases here
      cases ends
      refine ⟨⟨nodes, some addr, size⟩, [(addr, car)], ?_, linked, rfl, ?_, rfl, .refl nodes _⟩
      · rw [listOrderByYearWithin]
        dsimp only
        rw [load_of_lookup found, ok_bind]
        rfl
      · exact AdjacentSort.stableSort_of_ordered (AdjacentSort.ordered_of_short (by simp))
  | (addr, car) :: (second, other) :: rest, linked =>
      obtain ⟨here, next, found, later⟩ := id linked
      cases here
      obtain ⟨rfl, -⟩ := later
      obtain ⟨settled, ends⟩ :=
        AdjacentSort.settle_length DataT.year (show car :: other :: items rest ≠ [] by simp)
      have ends := AdjacentSort.settle_of_le ends (by simpa using enough)
      obtain ⟨after, sorted, ran, path, addrs', rfl, written⟩ := run_passes linked ends
      refine ⟨⟨after, some addr, size⟩, sorted, ?_, path, addrs',
        AdjacentSort.settle_stableSort ends, rfl, written⟩
      rw [listOrderByYearWithin]
      dsimp only
      rw [load_of_lookup found, ok_bind, if_neg (by simp), ran]
      rfl

end NodeList

end CarChain
