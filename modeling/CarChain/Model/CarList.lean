import CarChain.Library.AdjacentSort
import CarChain.Library.CRuntime
import CarChain.Library.CStandard

/-! Cars and the list that holds them (`data.c`, `list.c`).

The node chain of a list is the sequence of its cars. A node always carries a car and a
car always has a model, because `list_add` refuses a NULL car and `data_create` a NULL
model; the checks for them inside the walks are therefore not repeated here.
-/

namespace CarChain

open CRuntime CStandard

-----------------------------------------------------------------------------------------
-- data.c
-----------------------------------------------------------------------------------------

/-- `struct data_t`. The program copies the price and never computes with it, so it is kept
as the bits of the C `float`; the enums are the `int`s that arrive on the wire.
-/
structure DataT where
  ano : Int32
  preco : UInt32
  marca : Int32
  modelo : CString
  combustivel : Int32
  deriving DecidableEq

/-- `data_create` allocates the structure, then the copy of the model. -/
def dataCreate (ano : Int32) (preco : UInt32) (marca : Int32) (modelo : Option CString)
    (combustivel : Int32)
    : Mem (Option DataT) :=
  match modelo with
  | none => pure none
  | some modelo => do
      if !(← malloc) then return none
      if !(← malloc) then return none
      return some { ano, preco, marca, modelo, combustivel }

/-- `data_dup` writes through both allocations before it looks at them: the only check made
afterwards is of the model of the original, which is not NULL there.
-/
def dataDup (data : DataT) : Mem DataT := do
  if !(← malloc) then throw .nullDereference
  if !(← malloc) then throw .nullDereference
  return data

/-- Both allocations of `data_create` decide whether the car is made. -/
theorem run_dataCreate_some (ano : Int32) (preco : UInt32) (marca : Int32) (modelo : CString)
    (combustivel : Int32) {script : List Bool} (granted : grants 2 script = true)
    : (dataCreate ano preco marca (some modelo) combustivel).run script
      = .ok (some { ano, preco, marca, modelo, combustivel }, script.drop 2) := by
  rcases script with _ | ⟨_ | _, _ | ⟨_ | _, rest⟩⟩ <;> first | rfl | simp at granted

theorem run_dataCreate_refused (ano : Int32) (preco : UInt32) (marca : Int32) (modelo : CString)
    (combustivel : Int32) {script : List Bool} (refused : grants 2 script = false)
    : ∃ rest, (dataCreate ano preco marca (some modelo) combustivel).run script
        = .ok (none, rest) := by
  rcases script with _ | ⟨_ | _, _ | ⟨_ | _, rest⟩⟩ <;> first | exact ⟨_, rfl⟩ | simp at refused

/-- `data_dup` returns a copy when both allocations succeed and faults otherwise. -/
theorem run_dataDup (data : DataT) (script : List Bool)
    : (dataDup data).run script
      = if grants 2 script then .ok (data, script.drop 2) else .error .nullDereference := by
  rcases script with _ | ⟨_ | _, _ | ⟨_ | _, rest⟩⟩ <;> rfl

-----------------------------------------------------------------------------------------
-- list.c
-----------------------------------------------------------------------------------------

/-- The greatest `int`. -/
def intMax : Nat := 2147483647

/-- A counter that stays below its limit counts without overflow. -/
theorem toInt_add_one {size : Int32} {length : Nat} (h : size.toInt = length)
    (below : length + 1 < intMax)
    : (size + 1).toInt = (length + 1 : Nat) := by
  unfold intMax at below
  rw [Int32.toInt_add, h, Int32.toInt_one, Int.bmod_eq_of_le (by omega) (by omega)]
  omega

theorem toInt_sub_one {size : Int32} {length : Nat} (h : size.toInt = (length + 1 : Nat))
    : (size - 1).toInt = length := by
  have below := size.toInt_lt
  rw [Int32.toInt_sub, h, Int32.toInt_one, Int.bmod_eq_of_le (by omega) (by omega)]
  omega

/-- `struct list_t`, with its counter equal to the number of nodes. -/
structure ListT where
  cars : List DataT
  size : Int32
  size_eq : size = Int32.ofNat cars.length
  deriving DecidableEq

/-- The counter is determined by the nodes. -/
@[ext]
theorem ListT.ext {left right : ListT} (h : left.cars = right.cars) : left = right := by
  obtain ⟨cars, size, size_eq⟩ := left
  obtain ⟨other, otherSize, other_eq⟩ := right
  simp_all

def listCreate : ListT := ⟨[], 0, rfl⟩

/-- `list_add` walks to the last node and links a new one behind it; −1 when the node
cannot be allocated.
-/
def listAdd (list : ListT) (car : DataT) : Mem (ListT × Int32) := do
  if !(← malloc) then return (list, -1)
  return (
    {
      cars := list.cars ++ [car]
      size := list.size + 1
      size_eq := by simp [list.size_eq, Int32.ofNat_add]
    },
    0
  )

/-- The walk of `list_remove_by_model`: the chain without its first car of that model, or
`none` when the walk reaches the end.
-/
def unlinkFirst (modelo : CString) : List DataT → Option (List DataT)
  | [] => none
  | car :: rest =>
      if strcmp car.modelo modelo = 0 then some rest
      else (unlinkFirst modelo rest).map (car :: ·)

/-- Unlinking takes one node away, by induction on the walk. -/
theorem unlinkFirst_length {modelo : CString} {cars kept : List DataT}
    (h : unlinkFirst modelo cars = some kept)
    : cars.length = kept.length + 1 := by
  induction cars generalizing kept with
  | nil => simp [unlinkFirst] at h
  | cons car rest ih =>
      rw [unlinkFirst] at h
      split at h
      · simp [Option.some.inj h]
      · obtain ⟨tail, found, rfl⟩ := Option.map_eq_some_iff.mp h
        simp [ih found]

/-- Some node is unlinked exactly when some car has the model. -/
theorem unlinkFirst_isSome (modelo : CString) (cars : List DataT)
    : (unlinkFirst modelo cars).isSome = true ↔ ∃ car ∈ cars, car.modelo = modelo := by
  induction cars with
  | nil => simp [unlinkFirst]
  | cons car rest ih =>
      rw [unlinkFirst]
      split
      · rename_i found
        simp [strcmp_eq_zero.mp found]
      · rename_i differ
        have apart : car.modelo ≠ modelo := fun same => differ (strcmp_eq_zero.mpr same)
        simp [ih, apart]

/-- A list splits at its first item with a property, if it has one. -/
theorem split_at_first {α : Type} (holds : α → Prop) [DecidablePred holds] (items : List α)
    : (∃ front item later,
        items = front ++ item :: later ∧ (∀ other ∈ front, ¬holds other) ∧ holds item)
      ∨ ∀ item ∈ items, ¬holds item := by
  cases found : items.find? (fun item => holds item) with
  | none => exact .inr (by simpa using found)
  | some item =>
      obtain ⟨here, front, later, split, differ⟩ := List.find?_eq_some_iff_append.mp found
      exact .inl ⟨front, item, later, split, by simpa using differ, by simpa using here⟩

/-- The walk unlinks the first car of the model, by induction on the cars before it. -/
theorem unlinkFirst_append {modelo : CString} {front : List DataT} {car : DataT}
    (rest : List DataT) (differ : ∀ other ∈ front, other.modelo ≠ modelo)
    (same : car.modelo = modelo)
    : unlinkFirst modelo (front ++ car :: rest) = some (front ++ rest) := by
  induction front with
  | nil => simp [unlinkFirst, same]
  | cons other front ih =>
      have apart := differ other (by simp)
      have later := ih (fun other member => differ other (List.mem_cons_of_mem _ member))
      simp [unlinkFirst, strcmp_eq_zero, apart, later]

/-- `list_remove_by_model`: 0 when a car was removed, 1 when none has the model. -/
def listRemoveByModel (list : ListT) (modelo : CString) : ListT × Int32 :=
  match found : unlinkFirst modelo list.cars with
  | some kept =>
      (
        {
          cars := kept
          size := list.size - 1
          size_eq := by simp [list.size_eq, unlinkFirst_length found, Int32.ofNat_add]
        },
        0
      )
  | none => (list, 1)

def listGetByMarca (list : ListT) (marca : Int32) : Option DataT :=
  list.cars.find? (fun car => car.marca = marca)

/-- `list_get_by_year` returns a NULL-terminated array, or NULL when it cannot allocate. -/
def listGetByYear (list : ListT) (ano : Int32) : Mem (Option (List (Option DataT))) := do
  if !(← malloc) then return none
  return some (nullTerminated (list.cars.filter (fun car => car.ano = ano)))

/-- The year by which cars are put in order. -/
def DataT.year (car : DataT) : Int := car.ano.toInt

/-- `list_order_by_year` repeats its sweeps over adjacent nodes until one swaps nothing; the
sweeps are bounded here by the number of nodes, which `listOrderByYear_spec` shows enough.
-/
def listOrderByYear (list : ListT) : Mem (ListT × Int32) :=
  if list.cars.length < 2 then pure (list, 0)
  else
    match found : AdjacentSort.settle DataT.year list.cars.length list.cars with
    | some cars =>
        pure
          (
            {
              cars
              size := list.size
              size_eq := by rw [list.size_eq, (AdjacentSort.settle_perm found).length_eq]
            },
            0
          )
    | none => throw .loopBound

def listSize (list : ListT) : Int32 := list.size

/-- `strdup` of a model. -/
def strdup (text : CString) : Mem (Option CString) := do
  if !(← malloc) then return none
  return some text

/-- `list_get_model_list` returns a NULL-terminated array of copies. The final `realloc` only
shrinks it: when that fails the array is returned as it is.
-/
def listGetModelList (list : ListT) : Mem (Option (List (Option CString))) := do
  if !(← malloc) then return none
  match ← fillAll (fun car => strdup car.modelo) list.cars with
  | none => return none
  | some models =>
      let _ ← malloc
      return some (nullTerminated models)

/-- `list_free_model_list` frees up to the first NULL, reading every cell on the way. -/
def listFreeModelList : Option (List (Option CString)) → Mem Int32
  | none => pure (-1)
  | some models => do
      let _ ← countToNull models
      return 0

/-- `list_get_all` returns a NULL-terminated array of all cars, or NULL. -/
def listGetAll (list : ListT) : Mem (Option (List (Option DataT))) := do
  if !(← malloc) then return none
  return some (nullTerminated list.cars)

-----------------------------------------------------------------------------------------
-- What each operation does to the list
-----------------------------------------------------------------------------------------

/-- The list behind which a car has been linked. -/
def ListT.appended (list : ListT) (car : DataT) : ListT :=
  ⟨list.cars ++ [car], list.size + 1, by simp [list.size_eq, Int32.ofNat_add]⟩

theorem run_listAdd (list : ListT) (car : DataT) (script : List Bool)
    : (listAdd list car).run script
      = .ok (if grants 1 script then (list.appended car, 0) else (list, -1), script.drop 1) := by
  rcases script with _ | ⟨_ | _, rest⟩ <;> rfl

/-- The counter of a list that an `int` can count is its length. -/
theorem ListT.toInt_size {list : ListT} (within : list.cars.length ≤ intMax)
    : list.size.toInt = list.cars.length := by
  unfold intMax at within
  rw [list.size_eq, Int32.toInt_ofNat_of_lt (by omega)]

theorem run_strdup (text : CString) (script : List Bool)
    : (strdup text).run script
      = .ok (if grants 1 script then some text else none, script.drop 1) := by
  rcases script with _ | ⟨_ | _, rest⟩ <;> rfl

theorem strdup_allocates : Allocates strdup id 1 where
  granted text script granted := by rw [run_strdup, granted]; rfl
  refused text script refused := ⟨_, by rw [run_strdup, refused]; rfl⟩

theorem ListT.appended_not_perm (list : ListT) (car : DataT)
    : ¬(list.appended car).cars.Perm list.cars := by
  intro rearranged
  have lengths := rearranged.length_eq
  simp [ListT.appended] at lengths

/-- Removal returns 0 exactly when some car has the model, and then shortens the list. -/
theorem listRemoveByModel_found {list : ListT} {modelo : CString}
    (h : ∃ car ∈ list.cars, car.modelo = modelo)
    : (listRemoveByModel list modelo).2 = 0
      ∧ (listRemoveByModel list modelo).1.cars.length + 1 = list.cars.length := by
  unfold listRemoveByModel
  split
  · rename_i kept found
    exact ⟨rfl, (unlinkFirst_length found).symm⟩
  · rename_i missing
    have some_car := (unlinkFirst_isSome modelo list.cars).mpr h
    simp [missing] at some_car

/-- What is removed is the first car of the model; the others keep their order. -/
theorem listRemoveByModel_first {list : ListT} {modelo : CString} {front rest : List DataT}
    {car : DataT} (here : list.cars = front ++ car :: rest)
    (differ : ∀ other ∈ front, other.modelo ≠ modelo) (same : car.modelo = modelo)
    : (listRemoveByModel list modelo).2 = 0
      ∧ (listRemoveByModel list modelo).1.cars = front ++ rest := by
  have unlinked := unlinkFirst_append rest differ same
  rw [← here] at unlinked
  unfold listRemoveByModel
  split
  · rename_i kept found
    exact ⟨rfl, Option.some.inj (found.symm.trans unlinked)⟩
  · rename_i missing
    exact absurd (missing.symm.trans unlinked) (by simp)

theorem listRemoveByModel_missing {list : ListT} {modelo : CString}
    (h : ¬∃ car ∈ list.cars, car.modelo = modelo)
    : listRemoveByModel list modelo = (list, 1) := by
  unfold listRemoveByModel
  split
  · rename_i kept found
    exact absurd ((unlinkFirst_isSome modelo list.cars).mp (by simp [found])) h
  · rfl

/-- Cars in order of their years. -/
def ListT.InYearOrder (list : ListT) : Prop := AdjacentSort.Ordered DataT.year list.cars

instance (list : ListT) : Decidable list.InYearOrder :=
  inferInstanceAs (Decidable (List.Pairwise _ list.cars))

/-- Ordering always ends: it sorts the cars by year, keeping those of one year in their order,
and returns 0 without allocating.
-/
theorem listOrderByYear_stableSort (list : ListT)
    : ∃ ordered : ListT,
        listOrderByYear list = pure (ordered, 0)
        ∧ AdjacentSort.StableSort DataT.year list.cars ordered.cars := by
  unfold listOrderByYear
  split
  · rename_i short
    exact ⟨list, rfl, AdjacentSort.stableSort_of_ordered (AdjacentSort.ordered_of_short short)⟩
  · rename_i long
    have nonempty : list.cars ≠ [] := fun empty => long (by simp [empty])
    split
    · rename_i cars found
      exact ⟨_, rfl, AdjacentSort.settle_stableSort found⟩
    · rename_i unsettled
      obtain ⟨settled, found⟩ := AdjacentSort.settle_length DataT.year nonempty
      exact absurd (unsettled.symm.trans found) (by simp)

/-- It leaves a list alone that is in order already, which is then its own stable sort. -/
theorem listOrderByYear_spec (list : ListT)
    : ∃ ordered : ListT,
        listOrderByYear list = pure (ordered, 0)
        ∧ ordered.cars.Perm list.cars
        ∧ ordered.InYearOrder
        ∧ (list.InYearOrder → ordered = list) := by
  obtain ⟨ordered, returned, sorts⟩ := listOrderByYear_stableSort list
  refine ⟨ordered, returned, sorts.perm, sorts.ordered, fun inOrder => ?_⟩
  exact ListT.ext (sorts.unique (AdjacentSort.stableSort_of_ordered inOrder))

-----------------------------------------------------------------------------------------
-- Arrays made from the list
-----------------------------------------------------------------------------------------

theorem run_listGetByYear (list : ListT) (ano : Int32) (script : List Bool)
    : (listGetByYear list ano).run script
      = .ok
          (
            if grants 1 script then
              some (nullTerminated (list.cars.filter (fun car => car.ano = ano)))
            else
              none,
            script.drop 1
          ) := by
  rcases script with _ | ⟨_ | _, rest⟩ <;> rfl

/-- The models of the cars, in order. -/
def ListT.models (list : ListT) : List CString := list.cars.map DataT.modelo

theorem strdupModel_allocates
    : Allocates (fun car : DataT => strdup car.modelo) DataT.modelo 1 where
  granted car _ granted := strdup_allocates.granted car.modelo granted
  refused car _ refused := strdup_allocates.refused car.modelo refused

/-- With the allocation of the array and one for each car granted, all models are copied; the
last answer is the one for `realloc`.
-/
theorem run_listGetModelList (list : ListT) {script : List Bool}
    (granted : grants (1 + list.cars.length) script = true)
    : (listGetModelList list).run script
      = .ok (some (nullTerminated list.models), script.drop (2 + list.cars.length)) := by
  rw [grants_add, Bool.and_eq_true] at granted
  have filled := strdupModel_allocates.run_fillAll list.cars
    (show grants (1 * list.cars.length) (script.drop 1) = true by simpa using granted.2)
  have answers : 1 + (1 * list.cars.length + 1) = 2 + list.cars.length := by omega
  rw [listGetModelList, run_bind_of_ok (run_malloc script), granted.1, if_neg (by simp),
    run_bind_of_ok filled]
  dsimp only
  rw [run_bind_of_ok (run_malloc _), List.drop_drop, List.drop_drop, answers]
  rfl

theorem run_listGetModelList_refused (list : ListT) {script : List Bool}
    (refused : grants (1 + list.cars.length) script = false)
    : ∃ rest, (listGetModelList list).run script = .ok (none, rest) := by
  rw [grants_add] at refused
  rw [listGetModelList, run_bind_of_ok (run_malloc script)]
  cases first : grants 1 script with
  | false => exact ⟨script.drop 1, rfl⟩
  | true =>
      have later : grants (1 * list.cars.length) (script.drop 1) = false := by
        simpa [first] using refused
      obtain ⟨rest, stopped⟩ := strdupModel_allocates.run_fillAll_refused list.cars later
      exact ⟨rest, by rw [if_neg (by simp), run_bind_of_ok stopped]; rfl⟩

/-- A car for runs on fixed inputs. -/
def clio (ano : Int32) : DataT := ⟨ano, 0, 2, CString.literal "Clio", 0⟩

end CarChain
