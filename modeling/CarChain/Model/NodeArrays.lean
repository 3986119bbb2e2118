import CarChain.Library.CArray
import CarChain.Model.NodeList

/-! The arrays built from the nodes of a list (`list.c`).

Each builder allocates its array first and fills it while it follows the links, so that the
length it asked for and the number of nodes it meets are two different things here.
-/

namespace CarChain

open CRuntime CStandard LinkedCells CArray

/-- An `int` where a `size_t` is expected. -/
def sizeT (value : Int32) : Nat := (value.toInt % 2 ^ 64).toNat

theorem sizeT_of_toInt {value : Int32} {count : Nat} (h : value.toInt = count)
    : sizeT value = count := by
  have below := value.toInt_lt
  rw [sizeT, h]
  omega

namespace NodeList

/-- The body of the first loop of `list_get_by_year`. -/
def countYear (ano : Int32) (data : Option DataT) (found : Nat) : Mem (Option Nat) :=
  match data with
  | none => pure (some found)
  | some car => pure (some (if car.ano = ano then found + 1 else found))

/-- The body of its second loop, on the array and the index of the next cell. -/
def storeYear (ano : Int32) (data : Option DataT) (filling : Slots DataT × Nat)
    : Mem (Option (Slots DataT × Nat)) :=
  let (arr, i) := filling
  match data with
  | none => pure (some (arr, i))
  | some car =>
      if car.ano = ano then do return some (← write arr i (some car), i + 1)
      else pure (some (arr, i))

/-- `list_get_by_year`; its loops are never left early. -/
def listGetByYear (list : NodeList) (ano : Int32) : Mem (Option (Slots DataT)) := do
  let some found ← forEach list.nodes (countYear ano) (count list.nodes) list.head 0
    | return none
  let some arr ← mallocArray (found + 1)
    | return none
  let some (arr, i) ← forEach list.nodes (storeYear ano) (count list.nodes) list.head (arr, 0)
    | return none
  return some (← write arr i none)

/-- The body of the loop of `list_get_all`, which looks at no car. -/
def storeData (data : Option DataT) (filling : Slots DataT × Nat)
    : Mem (Option (Slots DataT × Nat)) := do
  let (array, i) := filling
  return some (← write array i data, i + 1)

/-- `list_get_all`, with the length taken from the counter; its loop is never left early. -/
def listGetAll (list : NodeList) : Mem (Option (Slots DataT)) := do
  let some array ← mallocArray (sizeT (list.size + 1))
    | return none
  let some (array, i) ← forEach list.nodes storeData (count list.nodes) list.head (array, 0)
    | return none
  return some (← write array i none)

/-- The body of the loop of `list_get_model_list`; without a copy it frees those before. -/
def storeModel (data : Option DataT) (filling : Slots CString × Nat)
    : Mem (Option (Slots CString × Nat)) := do
  let (models, i) := filling
  match data with
  | none => return some (models, i)
  | some car =>
      match ← strdup car.modelo with
      | none =>
          let _ ← freeBelow models i
          return none
      | some dup => return some (← write models i (some dup), i + 1)

/-- `list_get_model_list`, with the capacity taken from the counter. -/
def listGetModelList (list : NodeList) : Mem (Option (Slots CString)) := do
  let cap := sizeT (if 0 ≤ list.size then list.size else 0)
  let some models ← mallocArray (cap + 1)
    | return none
  let some (models, i) ← forEach list.nodes storeModel (count list.nodes) list.head (models, 0)
    | return none
  let models ← write models i none
  match ← reallocArray models (i + 1) with
  | some tmp => return some tmp
  | none => return some models

-----------------------------------------------------------------------------------------
-- The loops
-----------------------------------------------------------------------------------------

/-- Counting and storing agree on the cars they take. -/
def carsOf (ano : Int32) (cars : List DataT) : List DataT := cars.filter (fun car => car.ano = ano)

/-- The first loop counts the cars of the year, by induction on them. -/
theorem forItems_countYear (ano : Int32) (cars : List DataT) (found : Nat)
    : forItems (countYear ano) cars found = pure (some (found + (carsOf ano cars).length)) := by
  induction cars generalizing found with
  | nil => rfl
  | cons car rest ih =>
      rw [forItems, countYear, pure_bind]
      dsimp only
      rw [ih, carsOf, carsOf, List.filter_cons]
      by_cases same : car.ano = ano
      · simp [same, Nat.add_assoc, Nat.add_comm 1]
      · simp [same]

/-- A loop that stores some of the items and passes over the others fills the array with what
it stores, by induction on the items; the array needs a cell for each of those.
-/
theorem forItems_store {α : Type} {takes : α → Bool}
    {body : Option α → Slots α × Nat → Mem (Option (Slots α × Nat))}
    (stores
      : ∀ item (arr : Slots α) i,
          takes item = true
          → body (some item) (arr, i) = (do return some (← write arr i (some item), i + 1)))
    (passes : ∀ item filling, takes item = false → body (some item) filling = pure (some filling))
    (items done : List α) (room : Nat)
    : forItems body items (filled done ((items.filter takes).length + room), done.length)
      = pure
          (some
            (filled (done ++ items.filter takes) room, (done ++ items.filter takes).length)) := by
  induction items generalizing done with
  | nil => simp [forItems]
  | cons item rest ih =>
      rw [forItems]
      cases taken : takes item with
      | false =>
          rw [passes item _ taken, pure_bind, List.filter_cons_of_neg (by simp [taken])]
          exact ih done
      | true =>
          rw [stores item _ _ taken, List.filter_cons_of_pos taken, List.length_cons,
            Nat.add_right_comm, write_item, liftM_ok, pure_bind, pure_bind, List.append_cons]
          simpa using ih (done ++ [item])

/-- The second loop stores the cars that the first one counted. -/
theorem forItems_storeYear (ano : Int32) (cars : List DataT)
    : forItems (storeYear ano) cars (filled [] ((carsOf ano cars).length + 1), 0)
      = pure (some (filled (carsOf ano cars) 1, (carsOf ano cars).length)) := by
  refine forItems_store (fun car arr i taken => ?_) (fun car filling passed => ?_) cars [] 1
  · exact if_pos (by simpa using taken)
  · exact if_neg (by simpa using passed)

theorem forItems_storeData (cars : List DataT)
    : forItems storeData cars (filled [] (cars.length + 1), 0)
      = pure (some (filled cars 1, cars.length)) := by
  have stored := @forItems_store _ (fun _ => true) storeData (fun _ _ _ _ => rfl)
    (fun _ _ passed => absurd passed (by simp)) cars [] 1
  simpa using stored

/-- The third loop copies the models as `fillAll` does, by induction on the cars: behind the
copies made before, and freeing them when it ends early.
-/
theorem forItems_storeModel (cars : List DataT) (done : List CString) (room : Nat)
    : forItems storeModel cars (filled done (cars.length + room), done.length) = (do
        match ← fillAll (fun car => strdup car.modelo) cars with
        | none => return none
        | some models => return some (filled (done ++ models) room, (done ++ models).length)) := by
  induction cars generalizing done with
  | nil => simp [forItems, fillAll]
  | cons car rest ih =>
      rw [forItems, fillAll, storeModel, bind_assoc, bind_assoc]
      refine bind_congr fun copy => ?_
      cases copy with
      | none => simp [freeBelow_filled (Nat.le_refl done.length)]
      | some dup =>
          have next := ih (done ++ [dup])
          rw [List.length_append, List.length_singleton] at next
          dsimp only
          rw [List.length_cons, Nat.add_right_comm, write_item, liftM_ok, pure_bind, pure_bind]
          dsimp only
          rw [next, bind_assoc]
          refine bind_congr fun copies => ?_
          cases copies <;> simp

-----------------------------------------------------------------------------------------
-- The builders of the level above
-----------------------------------------------------------------------------------------

/-- The list of the level above with the cars of a chain. -/
def modelOf (chain : List (Addr × DataT)) : ListT where
  cars := items chain
  size := .ofNat (items chain).length
  size_eq := rfl

/-- The cells of an array that were all written. -/
def written {α : Type} (array : List (Option α)) : Slots α := array.map some

section

variable {list : NodeList} {chain : List (Addr × DataT)} {model : ListT}

/-- An `int` counter of fewer than `INT_MAX` nodes asks for a cell each and one for NULL. -/
theorem sizeT_size_add_one (size : list.size.toInt = chain.length) (below : chain.length < intMax)
    : sizeT (list.size + 1) = chain.length + 1 := by
  unfold intMax at below
  refine sizeT_of_toInt ?_
  rw [Int32.toInt_add, size, Int32.toInt_one, Int.bmod_eq_of_le (by omega) (by omega)]
  omega

/-- The capacity of the array of models is the number of nodes. -/
theorem sizeT_capacity (size : list.size.toInt = chain.length)
    : sizeT (if 0 ≤ list.size then list.size else 0) = chain.length := by
  have positive : 0 ≤ list.size := by
    rw [Int32.le_iff_toInt_le, size]
    exact Int.natCast_nonneg _
  rw [if_pos positive, sizeT_of_toInt size]

/-- What an `int` counts is not more than `INT_MAX`. -/
theorem le_intMax (size : list.size.toInt = chain.length) : chain.length ≤ intMax := by
  have below := list.size.toInt_lt
  unfold intMax
  omega

theorem lt_addressSpace (within : chain.length ≤ intMax) : chain.length + 1 < 2 ^ 61 := by
  unfold intMax at within
  omega

/-- `list_get_by_year` counts and stores the same cars, so its array is the one of the level
above, every cell of it written.
-/
theorem listGetByYear_refines (linked : list.Chain chain) (within : chain.length ≤ intMax)
    (same : model.cars = items chain) (ano : Int32)
    : list.listGetByYear ano = (do
        return (← CarChain.listGetByYear model ano).map written) := by
  have fewer : (carsOf ano (items chain)).length ≤ chain.length := by
    rw [← length_items chain]
    exact List.length_filter_le _ _
  have room : (carsOf ano (items chain)).length + 1 < 2 ^ 61 :=
    Nat.lt_of_le_of_lt (Nat.succ_le_succ fewer) (lt_addressSpace within)
  have steps := linked.length_le
  rw [listGetByYear, Path.forEach linked steps, forItems_countYear, pure_bind]
  dsimp only
  rw [Nat.zero_add, mallocArray_eq room, CarChain.listGetByYear, bind_assoc, bind_assoc, same]
  refine bind_congr fun granted => ?_
  cases granted with
  | false => rfl
  | true =>
      simp only [Bool.not_true, Bool.false_eq_true, if_false, pure_bind, Path.forEach linked steps,
        forItems_storeYear, write_terminator, liftM_ok]
      rfl

/-- `list_get_all` takes the number of its cells from the counter, which is the number of nodes
that it stores.
-/
theorem listGetAll_refines (linked : list.Chain chain) (size : list.size.toInt = chain.length)
    (below : chain.length < intMax) (same : model.cars = items chain)
    : list.listGetAll = (do return (← CarChain.listGetAll model).map written) := by
  have stored := forItems_storeData (items chain)
  rw [length_items] at stored
  rw [listGetAll, sizeT_size_add_one size below,
    mallocArray_eq (lt_addressSpace (Nat.le_of_lt below)), CarChain.listGetAll, bind_assoc,
    bind_assoc, same]
  refine bind_congr fun granted => ?_
  cases granted with
  | false => rfl
  | true =>
      have ended := write_terminator (items chain)
      rw [length_items] at ended
      simp only [Bool.not_true, Bool.false_eq_true, if_false, pure_bind,
        Path.forEach linked linked.length_le, stored, ended, liftM_ok]
      rfl

/-- `list_get_model_list` has a cell for the copy of each node's model, and shrinks to what it
had from the start.
-/
theorem listGetModelList_refines (linked : list.Chain chain)
    (size : list.size.toInt = chain.length) (same : model.cars = items chain)
    : list.listGetModelList = (do return (← CarChain.listGetModelList model).map written) := by
  have stored := forItems_storeModel (items chain) [] 1
  rw [length_items] at stored
  rw [listGetModelList, sizeT_capacity size, mallocArray_eq (lt_addressSpace (le_intMax size)),
    CarChain.listGetModelList, bind_assoc, bind_assoc, same]
  refine bind_congr fun granted => ?_
  cases granted with
  | false => rfl
  | true =>
      simp only [Bool.not_true, Bool.false_eq_true, if_false, pure_bind,
        Path.forEach linked linked.length_le]
      rw [show 0 = ([] : List CString).length from rfl, stored, bind_assoc, bind_assoc]
      refine bind_congr fun copies => ?_
      cases copies with
      | none => rfl
      | some models =>
          simp only [pure_bind, List.nil_append, write_terminator, liftM_ok, reallocArray,
            take_terminated, bind_assoc]
          refine bind_congr fun shrunk => ?_
          cases shrunk <;> rfl

end

end NodeList

end CarChain
