import CarChain.Model.NodeList

/-! Runs of list operations on nodes in memory, and the sequences of cars they stand for. -/

namespace CarChain

open CRuntime CStandard LinkedCells

/-- A call on the list; an addition comes with the node that `malloc` returns in it. -/
inductive ListCall where
  | add (car : DataT) (node : Addr)
  | remove (modelo : CString)
  | order
  deriving DecidableEq

def NodeList.perform (list : NodeList) : ListCall → Except Fault (NodeList × Int32)
  | .add car node => list.listAdd (some car) (some node)
  | .remove modelo => list.listRemoveByModel (some modelo)
  | .order => list.listOrderByYear

/-- The calls one after the other, and what each of them returns. -/
def NodeList.performAll (list : NodeList) : List ListCall → Except Fault (NodeList × List Int32)
  | [] => .ok (list, [])
  | call :: rest => do
      let (list, code) ← list.perform call
      let (list, codes) ← list.performAll rest
      return (list, code :: codes)

/-- What a call relies on: `malloc` returns a node that is not in use, and the list keeps
fewer than `INT_MAX` nodes.
-/
def ListCall.Permitted (list : NodeList) : ListCall → Prop
  | .add _ node => node ∉ list.nodes ∧ count list.nodes + 1 < intMax
  | .remove _ => True
  | .order => True

instance (list : NodeList) (call : ListCall) : Decidable (call.Permitted list) :=
  match call with
  | .add _ node => inferInstanceAs (Decidable (node ∉ list.nodes ∧ count list.nodes + 1 < intMax))
  | .remove _ => isTrue trivial
  | .order => isTrue trivial

/-- Each of the calls is permitted when it is made. -/
def NodeList.Admits (list : NodeList) : List ListCall → Prop
  | [] => True
  | call :: rest =>
      call.Permitted list
      ∧ match list.perform call with
        | .ok (after, _) => after.Admits rest
        | .error _ => True

def NodeList.decideAdmits
    : ∀ (calls : List ListCall) (list : NodeList), Decidable (list.Admits calls)
  | [], _ => isTrue trivial
  | call :: rest, list =>
      match h : list.perform call with
      | .ok (after, _) =>
          have := decideAdmits rest after
          decidable_of_iff (call.Permitted list ∧ after.Admits rest) (by simp [Admits, h])
      | .error _ => decidable_of_iff (call.Permitted list) (by simp [Admits, h])

instance (list : NodeList) (calls : List ListCall) : Decidable (list.Admits calls) :=
  NodeList.decideAdmits calls list

/-- What each call does to the nodes met from the head and the cars in them, and what it
returns. Ordering leaves the nodes where they are.
-/
def ListCall.Meaning (before after : List (Addr × DataT)) (code : Int32) : ListCall → Prop
  | .add car node => after = before ++ [(node, car)] ∧ code = 0
  | .remove modelo =>
      (∃ front node rest,
        before = front ++ node :: rest
        ∧ (∀ other ∈ front, other.2.modelo ≠ modelo)
        ∧ node.2.modelo = modelo
        ∧ after = front ++ rest
        ∧ code = 0)
      ∨ (∀ node ∈ before, node.2.modelo ≠ modelo) ∧ after = before ∧ code = 1
  | .order =>
      addrs after = addrs before
      ∧ AdjacentSort.StableSort DataT.year (items before) (items after)
      ∧ code = 0

/-- The calls one after the other, by their meaning. -/
def Follows : List (Addr × DataT) → List ListCall → List Int32 → List (Addr × DataT) → Prop
  | before, [], [], after => after = before
  | before, call :: calls, code :: codes, after =>
      ∃ between, call.Meaning before between code ∧ Follows between calls codes after
  | _, _, _, _ => False

/-- The list in memory stands for a chain of nodes: the links lead through these nodes to
NULL and each holds its car, the nodes allocated are those of the chain, and the counter is
their number.
-/
structure NodeList.Represents (list : NodeList) (chain : List (Addr × DataT)) : Prop where
  linked : list.Chain chain
  owned : ∀ addr, addr ∈ list.nodes ↔ addr ∈ addrs chain
  size : list.listSize.toInt = chain.length

-----------------------------------------------------------------------------------------
-- One call
-----------------------------------------------------------------------------------------

section

variable {list : NodeList} {chain : List (Addr × DataT)}

/-- The nodes in use are as many as the chain has. -/
theorem NodeList.Represents.count_eq (represents : list.Represents chain)
    : count list.nodes = chain.length := by
  have same : list.nodes.keys = (addrs chain).toFinset := by
    ext addr
    rw [Finmap.mem_keys, List.mem_toFinset]
    exact represents.owned addr
  rw [count, same, List.toFinset_card_of_nodup represents.linked.nodup, length_addrs]

theorem matchesModel_eq_true {modelo : CString} {node : Addr × DataT}
    : NodeList.matchesModel modelo node = true ↔ node.2.modelo = modelo := by
  simp [NodeList.matchesModel, strcmp_eq_zero]

theorem matchesModel_eq_false {modelo : CString} {node : Addr × DataT}
    : NodeList.matchesModel modelo node = false ↔ node.2.modelo ≠ modelo := by
  simp [NodeList.matchesModel, strcmp_eq_zero]

/-- An addition that stays below the limit appends a node with the car. -/
theorem NodeList.perform_add (represents : list.Represents chain) {car : DataT} {node : Addr}
    (permitted : (ListCall.add car node).Permitted list)
    : ∃ after,
        list.perform (.add car node) = .ok (after, 0)
        ∧ after.Represents (chain ++ [(node, car)]) := by
  obtain ⟨fresh, below⟩ := permitted
  obtain ⟨after, ran, linked, size, nodes⟩ := run_listAdd represents.linked fresh car
  refine ⟨after, ran, linked, fun addr => ?_, ?_⟩
  · rw [nodes, represents.owned]
    simp [or_comm]
  · rw [represents.count_eq] at below
    rw [listSize, size, List.length_append, List.length_singleton]
    exact toInt_add_one represents.size below

/-- A removal takes the first node of the model out of the chain. -/
theorem NodeList.perform_remove {modelo : CString} {front rest : List (Addr × DataT)}
    {node : Addr × DataT} (represents : list.Represents (front ++ node :: rest))
    (differ : ∀ other ∈ front, other.2.modelo ≠ modelo) (same : node.2.modelo = modelo)
    : ∃ after,
        list.perform (.remove modelo) = .ok (after, 0) ∧ after.Represents (front ++ rest) := by
  have distinct := represents.linked.nodup
  obtain ⟨after, ran, linked, size, nodes⟩ :=
    run_listRemoveByModel represents.linked
      (fun other member => matchesModel_eq_false.mpr (differ other member))
      (matchesModel_eq_true.mpr same)
  refine ⟨after, ran, linked, fun addr => ?_, ?_⟩
  · rw [nodes, represents.owned]
    simp only [addrs_append, addrs_cons, List.nodup_append, List.nodup_cons] at distinct
    simp only [addrs_append, addrs_cons, List.mem_append, List.mem_cons]
    constructor
    · intro remains
      rcases remains with ⟨apart, before | rfl | behind⟩
      · exact .inl before
      · exact absurd rfl apart
      · exact .inr behind
    · intro remains
      rcases remains with before | behind
      · exact ⟨fun h => distinct.2.2 addr before node.1 (by simp) h, .inl before⟩
      · exact ⟨fun h => distinct.2.1.1 (h ▸ behind), .inr (.inr behind)⟩
  · rw [listSize, size]
    refine toInt_sub_one (represents.size.trans ?_)
    simp [Nat.add_assoc]

/-- Ordering sorts the cars of the chain in the nodes where they are. -/
theorem NodeList.perform_order (represents : list.Represents chain)
    : ∃ after sorted,
        list.perform .order = .ok (after, 0)
        ∧ after.Represents sorted
        ∧ addrs sorted = addrs chain
        ∧ AdjacentSort.StableSort DataT.year (items chain) (items sorted) := by
  obtain ⟨after, sorted, ran, linked, same, sorts, size, written⟩ :=
    run_listOrderByYearWithin represents.linked represents.linked.length_le
  refine ⟨after, sorted, ran, ⟨linked, fun addr => ?_, ?_⟩, same, sorts⟩
  · rw [written.mem_iff, represents.owned, same]
  · rw [listSize, size, ← length_addrs, same, length_addrs]
    exact represents.size

/-- A permitted call returns, and does to the chain what it means. -/
theorem NodeList.perform_refines (represents : list.Represents chain) {call : ListCall}
    (permitted : call.Permitted list)
    : ∃ after code later,
        list.perform call = .ok (after, code)
        ∧ after.Represents later
        ∧ call.Meaning chain later code := by
  cases call with
  | add car node =>
      obtain ⟨after, ran, added⟩ := perform_add represents permitted
      exact ⟨after, 0, _, ran, added, rfl, rfl⟩
  | remove modelo =>
      rcases split_at_first (fun node => node.2.modelo = modelo) chain with
        ⟨front, node, rest, rfl, differ, same⟩ | differ
      · obtain ⟨after, ran, removed⟩ := perform_remove represents differ same
        exact ⟨after, 0, _, ran, removed, .inl ⟨front, node, rest, rfl, differ, same, rfl, rfl⟩⟩
      · refine ⟨list, 1, chain, ?_, represents, .inr ⟨differ, rfl, rfl⟩⟩
        exact run_listRemoveByModel_missing represents.linked
          (fun node member => matchesModel_eq_false.mpr (differ node member))
  | order =>
      obtain ⟨after, sorted, ran, ordered, same, sorts⟩ := perform_order represents
      exact ⟨after, 0, sorted, ran, ordered, same, sorts, rfl⟩

-----------------------------------------------------------------------------------------
-- Runs
-----------------------------------------------------------------------------------------

/-- A run of permitted calls does to the chain what the calls mean, by induction on them. -/
theorem NodeList.performAll_refines_from (represents : list.Represents chain)
    {calls : List ListCall} (admits : list.Admits calls)
    : ∃ after codes later,
        list.performAll calls = .ok (after, codes)
        ∧ after.Represents later
        ∧ Follows chain calls codes later := by
  induction calls generalizing list chain with
  | nil => exact ⟨list, [], chain, rfl, represents, rfl⟩
  | cons call calls ih =>
      obtain ⟨permitted, rest⟩ := admits
      obtain ⟨between, code, middle, ran, represents, meaning⟩ :=
        perform_refines represents permitted
      rw [ran] at rest
      obtain ⟨after, codes, later, ranRest, represents, follows⟩ := ih represents rest
      refine ⟨after, code :: codes, later, ?_, represents, middle, meaning, follows⟩
      rw [performAll, ran, ok_bind]
      dsimp only
      rw [ranRest]
      rfl

theorem listCreate_represents : NodeList.listCreate.Represents [] where
  linked := rfl
  owned addr := by simp [NodeList.listCreate, Finmap.notMem_empty]
  size := rfl

/-- From a new list, every run of permitted calls returns and leaves a chain of nodes without
a cycle that stands for the sequence the calls mean, and each call returned its code.
-/
theorem NodeList.performAll_refines {calls : List ListCall} (admits : listCreate.Admits calls)
    : ∃ after codes chain,
        listCreate.performAll calls = .ok (after, codes)
        ∧ after.Represents chain
        ∧ (addrs chain).Nodup
        ∧ Follows [] calls codes chain := by
  obtain ⟨after, codes, chain, ran, represents, follows⟩ :=
    performAll_refines_from listCreate_represents admits
  exact ⟨after, codes, chain, ran, represents, represents.linked.nodup, follows⟩

-----------------------------------------------------------------------------------------
-- The list of the level above
-----------------------------------------------------------------------------------------

/-- The same calls on the sequence of cars. -/
def ListT.perform (list : ListT) : ListCall → Mem (ListT × Int32)
  | .add car _ => CarChain.listAdd list car
  | .remove modelo => pure (CarChain.listRemoveByModel list modelo)
  | .order => CarChain.listOrderByYear list

/-- What a call means on nodes is what it does on the sequence of their cars. -/
theorem ListT.perform_of_meaning {model : ListT} {before after : List (Addr × DataT)}
    {code : Int32} {call : ListCall} (meaning : call.Meaning before after code)
    (same : model.cars = items before)
    : ∃ later : ListT,
        (model.perform call).run [] = .ok ((later, code), []) ∧ later.cars = items after := by
  cases call with
  | add car node =>
      obtain ⟨rfl, rfl⟩ := meaning
      exact ⟨model.appended car, rfl, by simp [ListT.appended, same]⟩
  | remove modelo =>
      rcases meaning with ⟨front, node, rest, rfl, differ, found, rfl, rfl⟩ | ⟨differ, rfl, rfl⟩
      · have here : model.cars = items front ++ node.2 :: items rest := by simpa using same
        have others : ∀ other ∈ items front, other.modelo ≠ modelo := by
          intro other member
          obtain ⟨node, inFront, rfl⟩ := List.mem_map.mp member
          exact differ node inFront
        have removed := listRemoveByModel_first here others found
        refine ⟨(CarChain.listRemoveByModel model modelo).1, ?_, by simpa using removed.2⟩
        rw [← removed.1]
        rfl
      · refine ⟨model, ?_, same⟩
        have missing : ¬∃ car ∈ model.cars, car.modelo = modelo := by
          intro h
          obtain ⟨car, member, found⟩ := h
          rw [same] at member
          obtain ⟨node, inChain, rfl⟩ := List.mem_map.mp member
          exact differ node inChain found
        rw [ListT.perform, listRemoveByModel_missing missing]
        rfl
  | order =>
      obtain ⟨-, sorts, rfl⟩ := meaning
      obtain ⟨later, returned, sorted⟩ := listOrderByYear_stableSort model
      rw [same] at sorted
      refine ⟨later, ?_, sorted.unique sorts⟩
      rw [ListT.perform, returned]
      rfl

/-- The node level refines the sequence level: a permitted call does the same on both. -/
theorem NodeList.perform_simulates {model : ListT} (represents : list.Represents chain)
    (same : model.cars = items chain) {call : ListCall} (permitted : call.Permitted list)
    : ∃ after code later model',
        list.perform call = .ok (after, code)
        ∧ (model.perform call).run [] = .ok ((model', code), [])
        ∧ after.Represents later
        ∧ model'.cars = items later := by
  obtain ⟨after, code, later, ran, represents', meaning⟩ := perform_refines represents permitted
  obtain ⟨model', performed, same'⟩ := ListT.perform_of_meaning meaning same
  exact ⟨after, code, later, model', ran, performed, represents', same'⟩

end

/-- The calls of a run on two cars: both are added, ordered, and one of them removed twice. -/
def twoCars : List ListCall :=
  [.add (clio 2020) 1, .add { clio 2010 with modelo := CString.literal "Megane" } 2, .order,
    .remove (clio 2020).modelo, .remove (clio 2020).modelo]

theorem NodeList.performAll_refines_twoCars
    : listCreate.Admits twoCars
      ∧ ∃ after codes chain,
          listCreate.performAll twoCars = .ok (after, codes)
          ∧ after.Represents chain
          ∧ (addrs chain).Nodup
          ∧ Follows [] twoCars codes chain :=
  have admits : listCreate.Admits twoCars := by decide
  ⟨admits, performAll_refines admits⟩

end CarChain
