import CarChain.Lists.Refinement
import CarChain.Model.NodeArrays

/-! The arrays built from a list after any run of calls on it. -/

namespace CarChain

open CRuntime CStandard LinkedCells CArray

namespace NodeList

variable {list : NodeList} {chain : List (Addr × DataT)}

/-- A permitted call leaves fewer nodes than an `int` can count: it adds at most one, and only
below the limit.
-/
theorem length_lt_of_meaning (represents : list.Represents chain) {call : ListCall}
    (permitted : call.Permitted list) (below : chain.length < intMax)
    {later : List (Addr × DataT)} {code : Int32} (meaning : call.Meaning chain later code)
    : later.length < intMax := by
  cases call with
  | add car node =>
      have room := permitted.2
      rw [represents.count_eq] at room
      obtain ⟨rfl, -⟩ := meaning
      rw [List.length_append, List.length_singleton]
      exact room
  | remove modelo =>
      rcases meaning with ⟨front, node, rest, rfl, -, -, rfl, -⟩ | ⟨-, rfl, -⟩
      · simp only [List.length_append, List.length_cons] at below ⊢
        omega
      · exact below
  | order =>
      rw [← length_addrs, meaning.1, length_addrs]
      exact below

/-- Every run of permitted calls leaves a list that represents fewer than `INT_MAX` nodes, by
induction on the calls.
-/
theorem performAll_represents (represents : list.Represents chain) (below : chain.length < intMax)
    {calls : List ListCall} (admits : list.Admits calls)
    : ∃ after codes later,
        list.performAll calls = .ok (after, codes)
        ∧ after.Represents later
        ∧ later.length < intMax := by
  induction calls generalizing list chain with
  | nil => exact ⟨list, [], chain, rfl, represents, below⟩
  | cons call calls ih =>
      obtain ⟨permitted, rest⟩ := admits
      obtain ⟨between, code, middle, ran, represents', meaning⟩ :=
        perform_refines represents permitted
      rw [ran] at rest
      obtain ⟨after, codes, later, ranRest, represents'', fewer⟩ :=
        ih represents' (length_lt_of_meaning represents permitted below meaning) rest
      refine ⟨after, code :: codes, later, ?_, represents'', fewer⟩
      rw [performAll, ran, ok_bind]
      dsimp only
      rw [ranRest]
      rfl

/-- Each builder fills its array: it holds these items in the order of the list and NULL
directly behind the last, and has no other cell. A write outside of it would have faulted.
-/
structure ArraysComplete (list : NodeList) (cars : List DataT) : Prop where
  byYear
    : ∀ ano,
        (list.listGetByYear ano).run []
          = .ok (some (terminated (cars.filter (fun car => car.ano = ano))), [])
  all : list.listGetAll.run [] = .ok (some (terminated cars), [])
  models : list.listGetModelList.run [] = .ok (some (terminated (cars.map DataT.modelo)), [])

/-- On a list of fewer than `INT_MAX` nodes every builder fills its array. -/
theorem Represents.arraysComplete (represents : list.Represents chain)
    (below : chain.length < intMax)
    : list.ArraysComplete (items chain) := by
  have same : (modelOf chain).cars = items chain := rfl
  obtain ⟨linked, -, size⟩ := represents
  constructor
  · intro ano
    rw [listGetByYear_refines linked (Nat.le_of_lt below) same,
      run_bind_of_ok (run_listGetByYear _ ano [])]
    rfl
  · rw [listGetAll_refines linked size below same]
    rfl
  · rw [listGetModelList_refines linked size same,
      run_bind_of_ok (run_listGetModelList _ (grants_nil _)), List.drop_nil]
    rfl

/-- After every run of permitted calls from a new list, the arrays built from it are complete. -/
theorem arrays_complete {calls : List ListCall} (admits : listCreate.Admits calls)
    : ∃ after codes chain,
        listCreate.performAll calls = .ok (after, codes)
        ∧ after.Chain chain
        ∧ after.ArraysComplete (items chain) := by
  obtain ⟨after, codes, chain, ran, represents, below⟩ :=
    performAll_represents listCreate_represents (by decide) admits
  exact ⟨after, codes, chain, ran, represents.linked, represents.arraysComplete below⟩

theorem arrays_complete_twoCars
    : listCreate.Admits twoCars
      ∧ ∃ after codes chain,
          listCreate.performAll twoCars = .ok (after, codes)
          ∧ after.Chain chain
          ∧ after.ArraysComplete (items chain) :=
  have admits : listCreate.Admits twoCars := by decide
  ⟨admits, arrays_complete admits⟩

end NodeList

end CarChain
