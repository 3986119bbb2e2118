import CarChain.Model.CarList

/-! Cars whose model may be NULL (`data.c`).

The functions of `data.c` take any pointer to a car and look at its model themselves. Behind
`data_create` a car has a model, and `DataT` is all that the rest of the program sees.
-/

namespace CarChain

open CRuntime CStandard

/-- `struct data_t`, with the pointer to the model as it is. -/
structure RawData where
  ano : Int32
  preco : UInt32
  marca : Int32
  modelo : Option CString
  combustivel : Int32
  deriving DecidableEq

def DataT.raw (data : DataT) : RawData where
  ano := data.ano
  preco := data.preco
  marca := data.marca
  modelo := some data.modelo
  combustivel := data.combustivel

namespace RawData

/-- `data_dup`. The pointer it checks behind the second `malloc` is `data->modelo`, which was
checked before and is not NULL; `newdata` and `newdata->modelo` are written through unchecked.
-/
def dataDup (data : Option RawData) : Mem (Option RawData) :=
  match data with
  | none => pure none
  | some data =>
      match data.modelo with
      | none => pure none
      | some modelo => do
          let newdata ← malloc
          let newModelo ← malloc
          if !newdata then throw .nullDereference
          if data.modelo = none then return none
          if !newModelo then throw .nullDereference
          return some { data with modelo := some modelo }

/-- `data_replace`: the car behind the call and what it returns. -/
def dataReplace (data : Option RawData) (ano : Int32) (preco : UInt32) (marca : Int32)
    (modelo : Option CString) (combustivel : Int32)
    : Mem (Option RawData × Int32) :=
  match data, modelo with
  | none, _ => pure (none, -1)
  | some data, none => pure (some data, -1)
  | some data, some modelo => do
      if !(← malloc) then return (some data, -1)
      return (some { ano, preco, marca, modelo := some modelo, combustivel }, 0)

/-- A car with a model is copied with two allocations, and each of them is relied on. -/
theorem run_dataDup {data : RawData} {modelo : CString} (named : data.modelo = some modelo)
    (script : List Bool)
    : (dataDup (some data)).run script
      = if grants 2 script then .ok (some data, script.drop 2) else .error .nullDereference := by
  obtain ⟨ano, preco, marca, _, combustivel⟩ := data
  obtain rfl : _ = some modelo := named
  rcases script with _ | ⟨_ | _, _ | ⟨_ | _, rest⟩⟩ <;> rfl

/-- On the cars of the program it is the `data_dup` of cars with a model. -/
theorem run_dataDup_raw (data : DataT) (script : List Bool)
    : (dataDup (some data.raw)).run script
      = (do return some (← CarChain.dataDup data).raw : Mem (Option RawData)).run script := by
  rcases script with _ | ⟨_ | _, _ | ⟨_ | _, rest⟩⟩ <;> rfl

/-- Replacing a car needs one allocation, for the copy of the new model. -/
theorem run_dataReplace (data : RawData) (ano : Int32) (preco : UInt32) (marca : Int32)
    (modelo : CString) (combustivel : Int32) (script : List Bool)
    : (dataReplace (some data) ano preco marca (some modelo) combustivel).run script
      = .ok (
          if grants 1 script then
            (some { ano, preco, marca, modelo := some modelo, combustivel }, 0)
          else
            (some data, -1),
          script.drop 1
        ) := by
  rcases script with _ | ⟨_ | _, rest⟩ <;> rfl

end RawData

end CarChain
