import CarChain.Model.NodeList

/-! The order in which `list_order_by_year` leaves the cars. -/

namespace CarChain

open CRuntime CStandard LinkedCells

/-- Ordering a list whose nodes all have cars ends, after at most as many passes as there are
nodes, and returns 0: the same nodes in the same links and the same counter, with the cars
rearranged into non-decreasing years and those of one year in the order they had.
-/
theorem NodeList.listOrderByYear_stable {list : NodeList} {chain : List (Addr × DataT)}
    (linked : list.Chain chain)
    : ∃ (after : NodeList) (sorted : List (Addr × DataT)),
        (∀ bound, chain.length ≤ bound → list.listOrderByYearWithin bound = .ok (after, 0))
        ∧ list.listOrderByYear = .ok (after, 0)
        ∧ after.Chain sorted
        ∧ (items sorted).Perm (items chain)
        ∧ (items sorted).Pairwise (fun left right => left.ano ≤ right.ano)
        ∧ (∀ ano : Int32,
            (items sorted).filter (fun car => car.ano = ano)
            = (items chain).filter (fun car => car.ano = ano))
        ∧ after.listSize = list.listSize
        ∧ addrs sorted = addrs chain := by
  obtain ⟨after, sorted, ran, linked', same, sorts, size, -⟩ :=
    run_listOrderByYearWithin linked (Nat.le_refl _)
  have settled (bound : Nat) (enough : chain.length ≤ bound)
      : list.listOrderByYearWithin bound = .ok (after, 0) :=
    listOrderByYearWithin_of_le ran enough
  refine ⟨after, sorted, settled, settled _ linked.length_le, linked', sorts.perm, ?_, ?_, size,
    same⟩
  · exact sorts.ordered.imp (fun below => Int32.le_iff_toInt_le.mpr below)
  · intro ano
    simpa [DataT.year, Int32.toInt_inj] using sorts.stable ano.toInt

/-- Three nodes with a repeated and a negative year. -/
def threeYears : List (Addr × DataT) :=
  [(1, clio 2020), (2, { clio 2020 with preco := 1 }), (3, clio (-5))]

/-- The list in memory that links them. -/
def threeNodes : NodeList where
  nodes :=
    (((∅ : Cells DataT).insert 1 ⟨some (clio 2020), some 2⟩).insert 2
      ⟨some { clio 2020 with preco := 1 }, some 3⟩).insert 3 ⟨some (clio (-5)), none⟩
  head := some 1
  size := 3

theorem NodeList.listOrderByYear_stable_three
    : ∃ (after : NodeList) (sorted : List (Addr × DataT)),
        (∀ bound, threeYears.length ≤ bound →
          threeNodes.listOrderByYearWithin bound = .ok (after, 0))
        ∧ threeNodes.listOrderByYear = .ok (after, 0)
        ∧ after.Chain sorted
        ∧ (items sorted).Perm (items threeYears)
        ∧ (items sorted).Pairwise (fun left right => left.ano ≤ right.ano)
        ∧ (∀ ano : Int32,
            (items sorted).filter (fun car => car.ano = ano)
            = (items threeYears).filter (fun car => car.ano = ano))
        ∧ after.listSize = threeNodes.listSize
        ∧ addrs sorted = addrs threeYears :=
  listOrderByYear_stable ⟨rfl, _, rfl, rfl, _, rfl, rfl, _, rfl, rfl⟩

end CarChain
