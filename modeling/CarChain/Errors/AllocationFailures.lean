import CarChain.Lists.Refinement
import CarChain.Model.NodeArrays
import CarChain.Model.RawData

/-! Calls whose allocations fail (`data.c`, `list.c`).

A call is all or nothing if it returns, with its whole result or with its error value, and in
the second case leaves the car or the list it was given alone. Calls that only read have no
car or list behind them.
-/

namespace CarChain

open CRuntime CStandard LinkedCells CArray

/-- A call with what it is given. -/
inductive AllocatingCall where
  | dataCreate (ano : Int32) (preco : UInt32) (marca : Int32) (modelo : Option CString)
    (combustivel : Int32)
  | dataDup (data : Option RawData)
  | dataReplace (data : Option RawData) (ano : Int32) (preco : UInt32) (marca : Int32)
    (modelo : Option CString) (combustivel : Int32)
  | listAdd (list : NodeList) (car : Option DataT) (node : Addr)
  | listGetByYear (list : NodeList) (ano : Int32)
  | listGetModelList (list : NodeList)

/-- `list_add` with its `malloc`, which returns this node if it does not fail. -/
def NodeList.listAddAllocating (list : NodeList) (car : Option DataT) (node : Addr)
    : Mem (NodeList × Int32) :=
  match car with
  | none => list.listAdd none none
  | some car => do
      if !(← malloc) then list.listAdd (some car) none
      else list.listAdd (some car) (some node)

/-- The call returns, and what it returns is a full result or an error. -/
def FullOrError {α : Type} (call : Mem α) (script : List Bool) (full error : α → Prop) : Prop :=
  ∃ outcome rest, call.run script = .ok (outcome, rest) ∧ (full outcome ∨ error outcome)

namespace AllocatingCall

/-- Lists are chains of nodes that their counter counts, and `malloc` returns no node in use. -/
def WellFormed : AllocatingCall → Prop
  | .listAdd list _ node => (∃ chain, list.Represents chain) ∧ node ∉ list.nodes
  | .listGetByYear list _ => ∃ chain, list.Represents chain
  | .listGetModelList list => ∃ chain, list.Represents chain
  | _ => True

/-- What each call does if its allocations are answered by the script. -/
def AllOrNothing (script : List Bool) : AllocatingCall → Prop
  | .dataCreate ano preco marca modelo combustivel =>
      FullOrError (CarChain.dataCreate ano preco marca modelo combustivel) script
        (fun made =>
          ∃ text, modelo = some text ∧ made = some ⟨ano, preco, marca, text, combustivel⟩)
        (fun made => made = none)
  | .dataDup data =>
      FullOrError (RawData.dataDup data) script
        (fun copy => copy ≠ none ∧ copy = data)
        (fun copy => copy = none)
  | .dataReplace data ano preco marca modelo combustivel =>
      FullOrError (RawData.dataReplace data ano preco marca modelo combustivel) script
        (fun outcome =>
          data ≠ none
          ∧ modelo ≠ none
          ∧ outcome = (some ⟨ano, preco, marca, modelo, combustivel⟩, 0))
        (fun outcome => outcome = (data, -1))
  | .listAdd list car node =>
      FullOrError (list.listAddAllocating car node) script
        (fun (after, code) =>
          ∃ chain added,
            car = some added
            ∧ list.Chain chain
            ∧ after.Chain (chain ++ [(node, added)])
            ∧ after.size = list.size + 1
            ∧ code = 0)
        (fun (after, code) => after = list ∧ code = -1)
  | .listGetByYear list ano =>
      FullOrError (list.listGetByYear ano) script
        (fun arr =>
          ∃ chain,
            list.Chain chain
            ∧ arr = some (terminated ((items chain).filter (fun car => car.ano = ano))))
        (fun arr => arr = none)
  | .listGetModelList list =>
      FullOrError list.listGetModelList script
        (fun models =>
          ∃ chain,
            list.Chain chain ∧ models = some (terminated ((items chain).map DataT.modelo)))
        (fun models => models = none)

/-- The call duplicates a car with a model, and one of its two allocations is refused. -/
def DupRefused (script : List Bool) : AllocatingCall → Prop
  | .dataDup (some data) => data.modelo ≠ none ∧ grants 2 script = false
  | _ => False

variable {list : NodeList} {chain : List (Addr × DataT)}

-----------------------------------------------------------------------------------------
-- Each call
-----------------------------------------------------------------------------------------

theorem dataCreate_allOrNothing (ano : Int32) (preco : UInt32) (marca : Int32)
    (modelo : Option CString) (combustivel : Int32) (script : List Bool)
    : (dataCreate ano preco marca modelo combustivel).AllOrNothing script := by
  cases modelo with
  | none => exact ⟨none, script, rfl, .inr rfl⟩
  | some text =>
      cases granted : grants 2 script with
      | true =>
          have made := run_dataCreate_some ano preco marca text combustivel granted
          exact ⟨_, _, made, .inl ⟨text, rfl, rfl⟩⟩
      | false =>
          obtain ⟨rest, stopped⟩ :=
            run_dataCreate_refused ano preco marca text combustivel granted
          exact ⟨none, rest, stopped, .inr rfl⟩

/-- A copy is all or nothing unless an allocation it relies on is refused; then it faults. -/
theorem dataDup_allOrNothing_iff (data : Option RawData) (script : List Bool)
    : (dataDup data).AllOrNothing script ↔ ¬(dataDup data).DupRefused script := by
  match data with
  | none => exact iff_of_true ⟨none, script, rfl, .inr rfl⟩ id
  | some ⟨ano, preco, marca, none, combustivel⟩ =>
      exact iff_of_true ⟨none, script, rfl, .inr rfl⟩ (fun refused => refused.1 rfl)
  | some ⟨ano, preco, marca, some modelo, combustivel⟩ =>
      have ran := @RawData.run_dataDup ⟨ano, preco, marca, some modelo, combustivel⟩ _ rfl script
      cases granted : grants 2 script with
      | true =>
          rw [if_pos granted] at ran
          refine iff_of_true ⟨_, _, ran, .inl ⟨by simp, rfl⟩⟩ (fun refused => ?_)
          exact absurd (granted.symm.trans refused.2) (by simp)
      | false =>
          rw [if_neg (by simp [granted])] at ran
          refine iff_of_false (fun returns => ?_) (not_not.mpr ⟨by simp, granted⟩)
          obtain ⟨outcome, rest, returned, -⟩ := returns
          exact absurd (ran.symm.trans returned) (by simp)

theorem dataReplace_allOrNothing (data : Option RawData) (ano : Int32) (preco : UInt32)
    (marca : Int32) (modelo : Option CString) (combustivel : Int32) (script : List Bool)
    : (dataReplace data ano preco marca modelo combustivel).AllOrNothing script := by
  match data, modelo with
  | none, _ => exact ⟨(none, -1), script, rfl, .inr rfl⟩
  | some data, none => exact ⟨(some data, -1), script, rfl, .inr rfl⟩
  | some data, some text =>
      have ran := RawData.run_dataReplace data ano preco marca text combustivel script
      cases granted : grants 1 script with
      | true => exact ⟨_, _, ran, .inl (by simp [granted])⟩
      | false => exact ⟨_, _, ran, .inr (by simp [granted])⟩

theorem listAdd_allOrNothing (represents : list.Represents chain) (car : Option DataT)
    {node : Addr} (fresh : node ∉ list.nodes) (script : List Bool)
    : (listAdd list car node).AllOrNothing script := by
  cases car with
  | none => exact ⟨(list, -1), script, rfl, .inr ⟨rfl, rfl⟩⟩
  | some car =>
      unfold AllOrNothing FullOrError NodeList.listAddAllocating
      dsimp only
      rw [run_bind_of_ok (run_malloc script)]
      cases grants 1 script with
      | false => exact ⟨(list, -1), _, rfl, .inr ⟨rfl, rfl⟩⟩
      | true =>
          obtain ⟨after, added, linked, size, -⟩ :=
            NodeList.run_listAdd represents.linked fresh car
          refine ⟨(after, 0), script.drop 1, ?_, .inl ?_⟩
          · rw [if_neg (by simp), added]
            rfl
          · exact ⟨chain, car, rfl, represents.linked, linked, size, rfl⟩

theorem listGetByYear_allOrNothing (represents : list.Represents chain) (ano : Int32)
    (script : List Bool)
    : (listGetByYear list ano).AllOrNothing script := by
  unfold AllOrNothing FullOrError
  dsimp only
  have same : (NodeList.modelOf chain).cars = items chain := rfl
  have within := NodeList.le_intMax represents.size
  rw [NodeList.listGetByYear_refines represents.linked within same,
    run_bind_of_ok (run_listGetByYear _ ano script)]
  cases grants 1 script with
  | true => exact ⟨_, _, rfl, .inl ⟨chain, represents.linked, rfl⟩⟩
  | false => exact ⟨none, _, rfl, .inr rfl⟩

/-- The array of models is complete when it and every copy can be allocated. -/
theorem listGetModelList_allOrNothing (represents : list.Represents chain) (script : List Bool)
    : (listGetModelList list).AllOrNothing script := by
  unfold AllOrNothing FullOrError
  dsimp only
  have same : (NodeList.modelOf chain).cars = items chain := rfl
  rw [NodeList.listGetModelList_refines represents.linked represents.size same]
  cases granted : grants (1 + (NodeList.modelOf chain).cars.length) script with
  | true =>
      rw [run_bind_of_ok (run_listGetModelList _ granted)]
      exact ⟨_, _, rfl, .inl ⟨chain, represents.linked, rfl⟩⟩
  | false =>
      obtain ⟨rest, stopped⟩ := run_listGetModelList_refused _ granted
      rw [run_bind_of_ok stopped]
      exact ⟨none, rest, rfl, .inr rfl⟩

-----------------------------------------------------------------------------------------
-- All calls
-----------------------------------------------------------------------------------------

/-- Whatever allocations fail, a call is all or nothing, except for a `data_dup` of a car with
a model in which one of them fails.
-/
theorem allOrNothing_iff {call : AllocatingCall} (wellFormed : call.WellFormed)
    (script : List Bool)
    : call.AllOrNothing script ↔ ¬call.DupRefused script := by
  cases call with
  | dataCreate ano preco marca modelo combustivel =>
      exact iff_of_true (dataCreate_allOrNothing ano preco marca modelo combustivel script) id
  | dataDup data => exact dataDup_allOrNothing_iff data script
  | dataReplace data ano preco marca modelo combustivel =>
      exact iff_of_true
        (dataReplace_allOrNothing data ano preco marca modelo combustivel script) id
  | listAdd list car node =>
      obtain ⟨⟨chain, represents⟩, fresh⟩ := wellFormed
      exact iff_of_true (listAdd_allOrNothing represents car fresh script) id
  | listGetByYear list ano =>
      obtain ⟨chain, represents⟩ := wellFormed
      exact iff_of_true (listGetByYear_allOrNothing represents ano script) id
  | listGetModelList list =>
      obtain ⟨chain, represents⟩ := wellFormed
      exact iff_of_true (listGetModelList_allOrNothing represents script) id

/-- The models of two cars, with memory for the array and the first copy only. -/
theorem allOrNothing_iff_refused
    : ∃ list chain,
        NodeList.Represents list chain
        ∧ items chain = [clio 2020, clio 2010]
        ∧ (listGetModelList list).WellFormed
        ∧ (listGetModelList list).AllOrNothing [true, true, false] := by
  obtain ⟨list, codes, chain, -, represents, follows⟩ :=
    NodeList.performAll_refines_from listCreate_represents
      (show NodeList.listCreate.Admits [.add (clio 2020) 1, .add (clio 2010) 2] by decide)
  match codes, follows with
  | [_, _], ⟨_, ⟨rfl, _⟩, _, ⟨rfl, _⟩, last⟩ =>
      obtain rfl : chain = [(1, clio 2020), (2, clio 2010)] := last
      exact ⟨list, _, represents, rfl, ⟨_, represents⟩,
        (@allOrNothing_iff (listGetModelList list) ⟨_, represents⟩ [true, true, false]).mpr id⟩

/-- Duplicating a car without memory for the copy of its model writes through NULL. -/
theorem dataDup_not_allOrNothing
    : ¬∀ (call : AllocatingCall) (script : List Bool),
        call.WellFormed → call.AllOrNothing script := by
  intro claimed
  obtain ⟨outcome, rest, returned, -⟩ :=
    claimed (dataDup (some (clio 2020).raw)) [true, false] trivial
  cases returned

end AllocatingCall

end CarChain
