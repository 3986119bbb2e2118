import CarChain.Model.CarList

/-! Messages and the conversion of cars to and from them (`sdmessage.proto`, `message.c`).

The repeated fields of a message are kept as the generated structure has them: a pointer to
allocated cells, and a count beside it that nothing ties to their number.
-/

namespace CarChain

open CRuntime CStandard

namespace Opcode

abbrev opBad : Int32 := 0
abbrev opAdd : Int32 := 10
abbrev opGet : Int32 := 20
abbrev opDel : Int32 := 30
abbrev opSize : Int32 := 40
abbrev opGetmodels : Int32 := 50
abbrev opGetlistbytear : Int32 := 60
abbrev opError : Int32 := 99

end Opcode

namespace CType

abbrev ctBad : Int32 := 0
abbrev ctData : Int32 := 10
abbrev ctMarca : Int32 := 20
abbrev ctYear : Int32 := 30
abbrev ctModel : Int32 := 40
abbrev ctResult : Int32 := 50
abbrev ctList : Int32 := 60
abbrev ctNone : Int32 := 70

end CType

/-- The generated structure `Data`. -/
structure Data where
  ano : Int32
  preco : UInt32
  marca : Int32
  modelo : Option CString
  combustivel : Int32
  deriving DecidableEq

/-- The generated structure `MessageT`. Enum fields are open in proto3, so they hold any
`int32`.
-/
structure MessageT where
  opcode : Int32
  cType : Int32
  data : Option Data
  result : Int32
  nModels : Nat
  models : Option (List (Option CString))
  nCars : Nat
  cars : Option (List (Option Data))
  deriving DecidableEq

/-- `MESSAGE_T__INIT`. -/
def MessageT.init : MessageT where
  opcode := Opcode.opBad
  cType := CType.ctBad
  data := none
  result := 0
  nModels := 0
  models := none
  nCars := 0
  cars := none

-----------------------------------------------------------------------------------------
-- message.c
-----------------------------------------------------------------------------------------

def pbToData : Option Data → Mem (Option DataT)
  | none => pure none
  | some pb => dataCreate pb.ano pb.preco pb.marca pb.modelo pb.combustivel

/-- The fields `data_to_pb` copies. -/
def DataT.toPb (car : DataT) : Data where
  ano := car.ano
  preco := car.preco
  marca := car.marca
  modelo := some car.modelo
  combustivel := car.combustivel

/-- `data_to_pb` allocates the structure, then duplicates the model. -/
def dataToPb : Option DataT → Mem (Option Data)
  | none => pure none
  | some car => do
      if !(← malloc) then return none
      match ← strdup car.modelo with
      | none => return none
      | some _ => return some car.toPb

/-- `free_pb_data_array` reads as many cells as it is told to free. -/
def freePbDataArray (pbArray : Option (List (Option Data))) (count : Nat) : Mem Unit :=
  match pbArray with
  | none => pure ()
  | some cells => if cells.length < count then throw .outOfBounds else pure ()

/-- `data_array_to_pb` stores the length of a NULL-terminated array and returns the converted
cells; NULL for an empty array as well as for a failed allocation.
-/
def dataArrayToPb (arr : List (Option DataT)) : Mem (Option (List (Option Data)) × Nat) := do
  let n ← countToNull arr
  if n = 0 then return (none, n)
  if !(← malloc) then return (none, n)
  match ← fillAll dataToPb (arr.take n) with
  | none => return (none, n)
  | some cells => return (some (cells.map some), n)

/-- `pb_to_data_array` returns a NULL-terminated array of the first `count` cells; NULL for
an empty array as well as for any failure.
-/
def pbToDataArray (pbArr : Option (List (Option Data))) (count : Nat)
    : Mem (Option (List (Option DataT))) :=
  match pbArr with
  | none => pure none
  | some cells => do
      if count = 0 then return none
      if !(← malloc) then return none
      match ← fillAll pbToData (cells.take count) with
      | none => return none
      | some cars =>
          if cells.length < count then throw .outOfBounds
          return some (nullTerminated cars)

-----------------------------------------------------------------------------------------
-- Requests of client_stub.c
-----------------------------------------------------------------------------------------

/-- The message that `rlist_add` sends for a car. -/
def addRequest (car : DataT) : MessageT :=
  {
    MessageT.init with
    opcode := Opcode.opAdd
    cType := CType.ctData
    data := some car.toPb
  }

/-- The message that `rlist_order_by_year` and `rlist_get_all` send. -/
def getlistbyearRequest : MessageT :=
  { MessageT.init with opcode := Opcode.opGetlistbytear, cType := CType.ctNone }

/-- The message that `rlist_size` sends. -/
def sizeRequest : MessageT := { MessageT.init with opcode := Opcode.opSize, cType := CType.ctNone }

-----------------------------------------------------------------------------------------
-- What the conversions return
-----------------------------------------------------------------------------------------

theorem dataToPb_allocates : Allocates (dataToPb ∘ some) DataT.toPb 2 where
  granted _ script granted := by
    rcases script with _ | ⟨_ | _, _ | ⟨_ | _, rest⟩⟩ <;> first | rfl | simp at granted
  refused _ script refused := by
    rcases script with _ | ⟨_ | _, _ | ⟨_ | _, rest⟩⟩ <;>
      first | exact ⟨_, rfl⟩ | simp at refused

/-- A car survives the trip into a message and back. -/
theorem pbToData_allocates : Allocates (pbToData ∘ (fun car : DataT => some car.toPb)) id 2 where
  granted _ _ granted := run_dataCreate_some _ _ _ _ _ granted
  refused _ _ refused := run_dataCreate_refused _ _ _ _ _ refused

/-- The cells of a message field that carries these cars, NULL when there are none. -/
def pbCells (cars : List DataT) : Option (List (Option Data)) :=
  if cars = [] then none else some (cars.map (fun car => some car.toPb))

/-- The allocations of `data_array_to_pb` and of `pb_to_data_array` for this many cars. -/
def arrayAllocations (count : Nat) : Nat := if count = 0 then 0 else 1 + 2 * count

theorem arrayAllocations_cons (car : DataT) (rest : List DataT)
    : arrayAllocations (car :: rest).length = 1 + 2 * (car :: rest).length := by
  simp [arrayAllocations]

/-- With its allocations granted, a terminated array of cars becomes the cells of a message. -/
theorem run_dataArrayToPb (cars : List DataT) {script : List Bool}
    (granted : grants (arrayAllocations cars.length) script = true)
    : (dataArrayToPb (nullTerminated cars)).run script
      = .ok ((pbCells cars, cars.length), script.drop (arrayAllocations cars.length)) := by
  cases cars with
  | nil => rfl
  | cons car rest =>
      rw [arrayAllocations_cons, grants_add, Bool.and_eq_true] at granted
      have filled := dataToPb_allocates.run_fillAll (car :: rest) granted.2
      rw [dataArrayToPb, countToNull_nullTerminated, pure_bind, if_neg (by simp),
        run_bind_of_ok (run_malloc script), granted.1, if_neg (by simp), take_nullTerminated,
        fillAll_map, run_bind_of_ok filled]
      simp [pbCells, arrayAllocations, Function.comp_def, Nat.add_comm 1]

/-- When one of them is refused the cells are NULL although the length is not 0. -/
theorem run_dataArrayToPb_refused (cars : List DataT) {script : List Bool}
    (refused : grants (arrayAllocations cars.length) script = false)
    : 0 < cars.length
      ∧ ∃ rest, (dataArrayToPb (nullTerminated cars)).run script
          = .ok ((none, cars.length), rest) := by
  cases cars with
  | nil => simp [arrayAllocations] at refused
  | cons car rest =>
      refine ⟨by simp, ?_⟩
      rw [arrayAllocations_cons, grants_add] at refused
      rw [dataArrayToPb, countToNull_nullTerminated, pure_bind, if_neg (by simp),
        run_bind_of_ok (run_malloc script)]
      cases first : grants 1 script with
      | false => exact ⟨_, rfl⟩
      | true =>
          have later : grants (2 * (car :: rest).length) (script.drop 1) = false := by
            simpa [first] using refused
          obtain ⟨left, stopped⟩ := dataToPb_allocates.run_fillAll_refused (car :: rest) later
          refine ⟨left, ?_⟩
          rw [if_neg (by simp), take_nullTerminated, fillAll_map, run_bind_of_ok stopped]
          rfl

/-- The cells of a message convert back to the cars they were made from. -/
theorem run_pbToDataArray (cars : List DataT) (nonempty : cars ≠ []) {script : List Bool}
    (granted : grants (arrayAllocations cars.length) script = true)
    : (pbToDataArray (pbCells cars) cars.length).run script
      = .ok (some (nullTerminated cars), script.drop (arrayAllocations cars.length)) := by
  cases cars with
  | nil => exact absurd rfl nonempty
  | cons car rest =>
      rw [arrayAllocations_cons, grants_add, Bool.and_eq_true] at granted
      have filled := pbToData_allocates.run_fillAll (car :: rest) granted.2
      rw [pbCells, if_neg nonempty, pbToDataArray]
      dsimp only
      rw [if_neg (by simp), run_bind_of_ok (run_malloc script), granted.1, if_neg (by simp),
        List.take_of_length_le (by simp), fillAll_map, run_bind_of_ok filled]
      simp [arrayAllocations, Nat.add_comm 1]

/-- When one of its allocations is refused the array is NULL, as for no cars at all. -/
theorem run_pbToDataArray_refused (cars : List DataT) {script : List Bool}
    (refused : grants (arrayAllocations cars.length) script = false)
    : ∃ rest, (pbToDataArray (pbCells cars) cars.length).run script = .ok (none, rest) := by
  cases cars with
  | nil => simp [arrayAllocations] at refused
  | cons car rest =>
      rw [arrayAllocations_cons, grants_add] at refused
      rw [pbCells, if_neg (by simp), pbToDataArray]
      dsimp only
      rw [if_neg (by simp), run_bind_of_ok (run_malloc script)]
      cases first : grants 1 script with
      | false => exact ⟨_, rfl⟩
      | true =>
          have later : grants (2 * (car :: rest).length) (script.drop 1) = false := by
            simpa [first] using refused
          obtain ⟨left, stopped⟩ := pbToData_allocates.run_fillAll_refused (car :: rest) later
          refine ⟨left, ?_⟩
          rw [if_neg (by simp), List.take_of_length_le (by simp), fillAll_map,
            run_bind_of_ok stopped]
          rfl

end CarChain
