import CarChain.Model.Server

/-! The operations on a remote list (`client_stub.c`).

Each one makes one exchange on its open connection; what the exchange does on the other side
is a parameter. Messages that are freed at the end are not shown.
-/

namespace CarChain

open CRuntime CStandard

variable {Remote : Type} (networkSendReceive : MessageT → Net Remote (Option MessageT))

/-- `rlist_add`. -/
def rlistAdd (car : Option DataT) : Net Remote Int32 := do
  if car = none then return -1
  match ← dataToPb car with
  | none => return -1
  | some protoCar =>
      let msg := { MessageT.init with
        opcode := Opcode.opAdd, cType := CType.ctData, data := some protoCar }
      match ← networkSendReceive msg with
      | none => return -1
      | some reply =>
          if reply.opcode = Opcode.opError then return -1
          else if reply.opcode = Opcode.opAdd + 1 then return 0
          else return -1

/-- The message that `rlist_remove_by_model` sends. -/
def delRequest (modelo : CString) : MessageT :=
  {
    MessageT.init with
    opcode := Opcode.opDel
    cType := CType.ctModel
    nModels := 1
    models := some [some modelo]
  }

/-- `rlist_remove_by_model`. -/
def rlistRemoveByModel (modelo : Option CString) : Net Remote Int32 := do
  match modelo with
  | none => return -1
  | some modelo =>
      if !(← malloc) then return -1
      match ← strdup modelo with
      | none => return -1
      | some modelo =>
          match ← networkSendReceive (delRequest modelo) with
          | none => return -1
          | some reply =>
              if reply.opcode = Opcode.opDel + 1 then return reply.result
              else return -1

/-- The message that `rlist_get_by_marca` sends. -/
def marcaRequest (marca : Int32) : MessageT :=
  {
    MessageT.init with
    opcode := Opcode.opGet
    cType := CType.ctMarca
    data := some { Data.init with marca }
  }

/-- `rlist_get_by_marca`. -/
def rlistGetByMarca (marca : Int32) : Net Remote (Option DataT) := do
  if !(← malloc) then return none
  match ← networkSendReceive (marcaRequest marca) with
  | none => return none
  | some reply =>
      if reply.opcode = Opcode.opGet + 1 then return ← pbToData reply.data
      else return none

/-- The message that `rlist_get_by_year` sends. -/
def yearRequest (ano : Int32) : MessageT :=
  {
    MessageT.init with
    opcode := Opcode.opGet
    cType := CType.ctYear
    data := some { Data.init with ano }
  }

/-- The cells of a counted array that a loop reads one after the other. -/
def countedCells {α : Type} (cells : Option (List (Option α))) (count : Nat)
    : Except Fault (List (Option α)) :=
  if count = 0 then .ok []
  else
    match cells with
    | none => .error .nullDereference
    | some cells => if cells.length < count then .error .outOfBounds else .ok (cells.take count)

/-- `rlist_get_by_year`; a car that cannot be converted leaves a NULL in the array. -/
def rlistGetByYear (ano : Int32) : Net Remote (Option (List (Option DataT))) := do
  if !(← malloc) then return none
  match ← networkSendReceive (yearRequest ano) with
  | none => return none
  | some reply =>
      if reply.opcode = Opcode.opGet + 1 then
        if !(← malloc) then return none
        let cells ← (countedCells reply.cars reply.nCars : Except Fault _)
        let cars ← (cells.mapM pbToData : Mem _)
        return some (cars ++ [none])
      else
        return none

/-- `rlist_order_by_year`: the code returned and the cars it printed. The loop over the array
runs before the code is returned, whatever the reply.
-/
def rlistOrderByYear : Net Remote (Int32 × List DataT) := do
  match ← networkSendReceive getlistbyearRequest with
  | none => return (-1, [])
  | some reply =>
      let res : Int32 := if reply.opcode = Opcode.opGetlistbytear + 1 then 0 else -1
      match ← pbToDataArray reply.cars reply.nCars with
      | none => throw .nullDereference
      | some array =>
          let count ← countToNull array
          return (res, (array.take count).filterMap id)

/-- `rlist_size`. -/
def rlistSize : Net Remote Int32 := do
  match ← networkSendReceive sizeRequest with
  | none => return -1
  | some reply =>
      if reply.opcode = Opcode.opSize + 1 then return reply.result
      else return -1

/-- The message that `rlist_get_model_list` sends. -/
def getmodelsRequest : MessageT :=
  { MessageT.init with opcode := Opcode.opGetmodels, cType := CType.ctNone }

/-- `strdup` of a cell; NULL is dereferenced. -/
def strdupCell : Option CString → Mem (Option CString)
  | none => throw .nullDereference
  | some text => strdup text

/-- `rlist_get_model_list`. -/
def rlistGetModelList : Net Remote (Option (List (Option CString))) := do
  match ← networkSendReceive getmodelsRequest with
  | none => return none
  | some reply =>
      if reply.opcode = Opcode.opGetmodels + 1 then
        if !(← malloc) then return none
        let cells ← (countedCells reply.models reply.nModels : Except Fault _)
        let models ← (cells.mapM strdupCell : Mem _)
        return some (models ++ [none])
      else
        return none

-----------------------------------------------------------------------------------------
-- Loops over the arrays of a reply
-----------------------------------------------------------------------------------------

theorem countedCells_countedField {α : Type} (items : List α)
    : countedCells (countedField items) items.length = .ok (items.map some) := by
  cases items with
  | nil => rfl
  | cons item rest =>
      have all : (rest.map some).take rest.length = rest.map some :=
        List.take_of_length_le (by simp)
      simp [countedCells, countedField, all]

/-- Without an allocation failure the cells of cars convert to the cars. -/
theorem run_mapM_pbToData (cars : List DataT)
    : (((cars.map DataT.toPb).map some).mapM pbToData).run [] = .ok (cars.map some, []) := by
  rw [List.map_map]
  exact run_mapM_map (fun _ => rfl) cars

/-- Without an allocation failure the cells of strings are copied. -/
theorem run_mapM_strdupCell (texts : List CString)
    : ((texts.map some).mapM strdupCell).run [] = .ok (texts.map some, []) :=
  run_mapM_map (fun _ => rfl) texts

-----------------------------------------------------------------------------------------
-- What the calls make of a reply
-----------------------------------------------------------------------------------------

section

variable {networkSendReceive} {before after : Remote} {reply : MessageT}

/-- The exchange of a message gets this reply, without an allocation failure. -/
def Responds (networkSendReceive : MessageT → Net Remote (Option MessageT)) (msg : MessageT)
    (before : Remote) (reply : MessageT) (after : Remote)
    : Prop :=
  ((networkSendReceive msg).run before).run [] = .ok ((some reply, after), [])

theorem run_rlistAdd {car : DataT}
    (answers : Responds networkSendReceive (addRequest car) before reply after)
    (success : reply.opcode = Opcode.opAdd + 1)
    : ((rlistAdd networkSendReceive (some car)).run before).run [] = .ok ((0, after), []) := by
  have converted : (dataToPb (some car)).run [] = .ok (some car.toPb, []) := rfl
  rw [rlistAdd, if_neg (by simp), run_net_bind (run_net_lift converted)]
  refine (run_net_bind answers).trans ?_
  dsimp only
  rw [success]
  rfl

theorem run_rlistGetByMarca {marca : Int32} {car : DataT}
    (answers : Responds networkSendReceive (marcaRequest marca) before reply after)
    (success : reply.opcode = Opcode.opGet + 1) (carries : reply.data = some car.toPb)
    : ((rlistGetByMarca networkSendReceive marca).run before).run []
      = .ok ((some car, after), []) := by
  rw [rlistGetByMarca, run_net_bind (run_net_lift (run_malloc [])), if_neg (by simp)]
  refine (run_net_bind answers).trans ?_
  dsimp only
  rw [if_pos success, carries]
  rfl

theorem run_rlistGetByMarca_refused {marca : Int32}
    (answers : Responds networkSendReceive (marcaRequest marca) before reply after)
    (refused : reply.opcode ≠ Opcode.opGet + 1)
    : ((rlistGetByMarca networkSendReceive marca).run before).run [] = .ok ((none, after), []) := by
  rw [rlistGetByMarca, run_net_bind (run_net_lift (run_malloc [])), if_neg (by simp)]
  refine (run_net_bind answers).trans ?_
  dsimp only
  rw [if_neg refused]
  rfl

theorem run_rlistGetByYear {ano : Int32} {cars : List DataT}
    (answers : Responds networkSendReceive (yearRequest ano) before reply after)
    (success : reply.opcode = Opcode.opGet + 1) (counted : reply.nCars = cars.length)
    (carries : reply.cars = countedField (cars.map DataT.toPb))
    : ((rlistGetByYear networkSendReceive ano).run before).run []
      = .ok ((some (nullTerminated cars), after), []) := by
  have cells : countedCells reply.cars reply.nCars = .ok ((cars.map DataT.toPb).map some) := by
    rw [carries, counted, ← countedCells_countedField, List.length_map]
  rw [rlistGetByYear, run_net_bind (run_net_lift (run_malloc [])), if_neg (by simp)]
  refine (run_net_bind answers).trans ?_
  dsimp only
  rw [if_pos success, run_net_bind (run_net_lift (run_malloc [])), if_neg (by simp), cells,
    run_net_bind run_net_ok]
  exact run_net_bind (run_net_lift (run_mapM_pbToData cars))

theorem run_rlistGetModelList {texts : List CString}
    (answers : Responds networkSendReceive getmodelsRequest before reply after)
    (success : reply.opcode = Opcode.opGetmodels + 1) (counted : reply.nModels = texts.length)
    (carries : reply.models = countedField texts)
    : ((rlistGetModelList networkSendReceive).run before).run []
      = .ok ((some (nullTerminated texts), after), []) := by
  have cells : countedCells reply.models reply.nModels = .ok (texts.map some) := by
    rw [carries, counted, countedCells_countedField]
  rw [rlistGetModelList]
  refine (run_net_bind answers).trans ?_
  dsimp only
  rw [if_pos success, run_net_bind (run_net_lift (run_malloc [])), if_neg (by simp), cells,
    run_net_bind run_net_ok]
  exact run_net_bind (run_net_lift (run_mapM_strdupCell texts))

theorem run_rlistSize (answers : Responds networkSendReceive sizeRequest before reply after)
    (success : reply.opcode = Opcode.opSize + 1)
    : ((rlistSize networkSendReceive).run before).run [] = .ok ((reply.result, after), []) := by
  rw [rlistSize]
  refine (run_net_bind answers).trans ?_
  dsimp only
  rw [if_pos success]
  rfl

end

end CarChain
