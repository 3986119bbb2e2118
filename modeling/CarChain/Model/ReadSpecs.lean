import CarChain.Model.HandlerSpecs
import CarChain.Model.Server

/-! What the handlers of read requests return, for every allocation script. -/

namespace CarChain

open CRuntime CStandard

section

variable {msg : MessageT} (list : ListT)

theorem dispatch_get (h : msg.opcode = Opcode.opGet) : dispatch msg list = handleGet msg list := by
  unfold dispatch
  rw [h]
  rfl

theorem dispatch_getmodels (h : msg.opcode = Opcode.opGetmodels)
    : dispatch msg list = handleGetmodels msg list := by
  unfold dispatch
  rw [h]
  rfl

theorem dispatch_size (h : msg.opcode = Opcode.opSize)
    : dispatch msg list = handleSize msg list := by
  unfold dispatch
  rw [h]
  rfl

end

-----------------------------------------------------------------------------------------
-- The handlers
-----------------------------------------------------------------------------------------

section

variable {msg : MessageT} {query : Data} (list : ListT) {script : List Bool}

/-- A request by brand gets a copy of the first car of the brand, if there is one and memory
for the copy is granted.
-/
theorem run_handleGet_marca {car : DataT} (carried : msg.data = some query)
    (typed : msg.cType = CType.ctMarca) (found : listGetByMarca list query.marca = some car)
    (granted : grants 2 script = true)
    : (handleGet msg list).run script
      = .ok
          (({ msg with data := some car.toPb }.setSuccess CType.ctData, list), script.drop 2) := by
  have converted : (dataToPb (some car)).run script = .ok (some car.toPb, script.drop 2) :=
    dataToPb_allocates.granted car granted
  unfold handleGet
  rw [carried]
  dsimp only
  rw [if_pos typed, found]
  dsimp only
  rw [run_bind_of_ok converted]
  rfl

theorem run_handleGet_marca_refused {car : DataT} (carried : msg.data = some query)
    (typed : msg.cType = CType.ctMarca) (found : listGetByMarca list query.marca = some car)
    (refused : grants 2 script = false)
    : ∃ rest, (handleGet msg list).run script = .ok ((msg.setError, list), rest) := by
  obtain ⟨rest, stopped⟩ := dataToPb_allocates.refused car refused
  have stopped : (dataToPb (some car)).run script = .ok (none, rest) := stopped
  refine ⟨rest, ?_⟩
  unfold handleGet
  rw [carried]
  dsimp only
  rw [if_pos typed, found]
  dsimp only
  rw [run_bind_of_ok stopped]
  rfl

theorem run_handleGet_marca_missing (carried : msg.data = some query)
    (typed : msg.cType = CType.ctMarca) (missing : listGetByMarca list query.marca = none)
    : (handleGet msg list).run script = .ok ((msg.setError, list), script) := by
  unfold handleGet
  rw [carried]
  dsimp only
  rw [if_pos typed, missing]
  rfl

/-- The cars of a year, and the allocations of a reply that carries them. -/
def ListT.ofYear (list : ListT) (ano : Int32) : List DataT :=
  list.cars.filter (fun car => car.ano = ano)

def yearAllocations (list : ListT) (ano : Int32) : Nat :=
  1 + arrayAllocations (list.ofYear ano).length

/-- A request by year gets the cars of the year when memory for them is granted, once the
cars of the request are freed.
-/
theorem run_handleGet_year (carried : msg.data = some query) (typed : msg.cType = CType.ctYear)
    (granted : grants (yearAllocations list query.ano) script = true)
    : (handleGet msg list).run script
      = (do
          freePbDataArray msg.cars msg.nCars
          let cars := list.ofYear query.ano
          pure
            (
              { msg with cars := pbCells cars, nCars := cars.length }.setSuccess CType.ctYear,
              list
            )
        : Mem Handled).run (script.drop (yearAllocations list query.ano)) := by
  rw [yearAllocations, grants_add, Bool.and_eq_true] at granted
  have converted := run_dataArrayToPb (list.ofYear query.ano) granted.2
  have kept : ¬(pbCells (list.ofYear query.ano) = none ∧ 0 < (list.ofYear query.ano).length) := by
    intro h
    obtain ⟨empty, long⟩ := h
    rw [pbCells, if_neg (List.ne_nil_of_length_pos long)] at empty
    exact absurd empty (by simp)
  unfold handleGet
  rw [carried]
  dsimp only
  rw [if_neg (by rw [typed]; decide), if_pos typed, run_bind_of_ok (run_listGetByYear _ _ _),
    granted.1, if_pos rfl]
  dsimp only
  rw [← ListT.ofYear, run_bind_of_ok converted]
  dsimp only
  rw [if_neg kept, List.drop_drop]
  rfl

/-- Without that memory it reports an error. -/
theorem run_handleGet_year_refused (carried : msg.data = some query)
    (typed : msg.cType = CType.ctYear)
    (refused : grants (yearAllocations list query.ano) script = false)
    : ∃ rest, (handleGet msg list).run script = .ok ((msg.setError, list), rest) := by
  rw [yearAllocations, grants_add] at refused
  unfold handleGet
  rw [carried]
  dsimp only
  rw [if_neg (by rw [typed]; decide), if_pos typed, run_bind_of_ok (run_listGetByYear _ _ _)]
  cases first : grants 1 script with
  | false => exact ⟨script.drop 1, rfl⟩
  | true =>
      have later : grants (arrayAllocations (list.ofYear query.ano).length) (script.drop 1)
          = false := by
        simpa [first] using refused
      obtain ⟨long, rest, stopped⟩ := run_dataArrayToPb_refused (list.ofYear query.ano) later
      refine ⟨rest, ?_⟩
      rw [if_pos rfl]
      dsimp only
      rw [← ListT.ofYear, run_bind_of_ok stopped]
      dsimp only
      rw [if_pos ⟨rfl, long⟩]
      rfl

/-- A request for the models gets all of them when memory for them is granted, once the models
of the request are freed.
-/
theorem run_handleGetmodels (typed : msg.cType = CType.ctNone)
    (granted : grants (1 + list.cars.length) script = true)
    : (handleGetmodels msg list).run script
      = (do
          let _ ← listFreeModelList msg.models
          pure
            (
              {
                msg with
                nModels := list.models.length
                models := some (nullTerminated list.models)
              }.setSuccess CType.ctModel,
              list
            )
        : Mem Handled).run (script.drop (2 + list.cars.length)) := by
  rw [handleGetmodels, if_neg (by simp [typed]), run_bind_of_ok (run_listGetModelList list granted)]
  dsimp only
  rw [countToNull_nullTerminated, pure_bind]

/-- Without that memory, or mistyped, it reports an error. -/
theorem run_handleGetmodels_refused
    (h : msg.cType ≠ CType.ctNone ∨ grants (1 + list.cars.length) script = false)
    : ∃ rest, (handleGetmodels msg list).run script = .ok ((msg.setError, list), rest) := by
  rw [handleGetmodels]
  by_cases typed : msg.cType = CType.ctNone
  · obtain ⟨rest, stopped⟩ :=
      run_listGetModelList_refused list (h.resolve_left (not_not.mpr typed))
    exact ⟨rest, by rw [if_neg (by simp [typed]), run_bind_of_ok stopped]; rfl⟩
  · exact ⟨script, by rw [if_pos typed]; rfl⟩

/-- A request for the size gets the counter. -/
theorem run_handleSize (typed : msg.cType = CType.ctNone) (within : list.cars.length ≤ intMax)
    : (handleSize msg list).run script
      = .ok (({ msg with result := list.size }.setSuccess CType.ctResult, list), script) := by
  have nonneg : 0 ≤ listSize list := by
    rw [listSize, Int32.le_iff_toInt_le, ListT.toInt_size within]
    exact Int.natCast_nonneg _
  rw [handleSize, if_neg (by simp [typed])]
  dsimp only
  rw [if_pos nonneg]
  rfl

end

end CarChain
