import CarChain.Model.Forward

/-! The server-side skeleton (`list_skel.c`): one handler for each operation, and `invoke`.

A handler rewrites the request into its reply in place. It is a function of the message and
the list that returns both, run under the list mutex that `invoke` holds throughout.
-/

namespace CarChain

open CRuntime CStandard

namespace MessageT

def setError (msg : MessageT) : MessageT :=
  { msg with opcode := Opcode.opError, cType := CType.ctNone }

def setSuccess (msg : MessageT) (cType : Int32) : MessageT :=
  { msg with opcode := msg.opcode + 1, cType }

@[simp]
theorem setError_opcode (msg : MessageT) : msg.setError.opcode = Opcode.opError := rfl

@[simp]
theorem setSuccess_opcode (msg : MessageT) (cType : Int32)
    : (msg.setSuccess cType).opcode = msg.opcode + 1 :=
  rfl

end MessageT

/-- The reply and the list a handler leaves. -/
abbrev Handled := MessageT × ListT

def handleAdd (msg : MessageT) (list : ListT) : Mem Handled := do
  if msg.cType ≠ CType.ctData ∨ msg.data = none then return (msg.setError, list)
  match ← pbToData msg.data with
  | none => return (msg.setError, list)
  | some car =>
      let (list, code) ← listAdd list car
      if code = -1 then return (msg.setError, list)
      return (msg.setSuccess CType.ctNone, list)

def handleGet (msg : MessageT) (list : ListT) : Mem Handled := do
  match msg.data with
  | none => return (msg.setError, list)
  | some query =>
      if msg.cType = CType.ctMarca then
        match listGetByMarca list query.marca with
        | none => return (msg.setError, list)
        | some car =>
            match ← dataToPb (some car) with
            | none => return (msg.setError, list)
            | some pbData => return ({ msg with data := some pbData }.setSuccess CType.ctData, list)
      else if msg.cType = CType.ctYear then
        match ← listGetByYear list query.ano with
        | none => return (msg.setError, list)
        | some cars =>
            let (pbCars, size) ← dataArrayToPb cars
            if pbCars = none ∧ 0 < size then return (msg.setError, list)
            freePbDataArray msg.cars msg.nCars
            return ({ msg with cars := pbCars, nCars := size }.setSuccess CType.ctYear, list)
      else
        return (msg.setError, list)

def handleGetmodels (msg : MessageT) (list : ListT) : Mem Handled := do
  if msg.cType ≠ CType.ctNone then return (msg.setError, list)
  match ← listGetModelList list with
  | none => return (msg.setError, list)
  | some models =>
      let size ← countToNull models
      let _ ← listFreeModelList msg.models
      return ({ msg with nModels := size, models := some models }.setSuccess CType.ctModel, list)

/-- The list is put in order before anything is allocated for the reply. -/
def handleGetlistbyear (msg : MessageT) (list : ListT) : Mem Handled := do
  if msg.cType ≠ CType.ctNone then return (msg.setError, list)
  let (list, code) ← listOrderByYear list
  if code = -1 then return (msg.setError, list)
  match ← listGetAll list with
  | none => return (msg.setError, list)
  | some sorted =>
      let (pbSorted, size) ← dataArrayToPb sorted
      if pbSorted = none ∧ 0 < size then return (msg.setError, list)
      freePbDataArray msg.cars msg.nCars
      return ({ msg with cars := pbSorted, nCars := size }.setSuccess CType.ctList, list)

/-- `msg->models[0]`, read only behind the checks that there is such a cell. -/
def firstModel (msg : MessageT) : Mem (Option CString) :=
  match msg.models with
  | none => pure none
  | some models =>
      if msg.nModels = 0 then pure none
      else
        match models with
        | [] => throw .outOfBounds
        | model :: _ => pure model

def handleDel (msg : MessageT) (list : ListT) : Mem Handled := do
  if msg.cType ≠ CType.ctModel then return (msg.setError, list)
  match ← firstModel msg with
  | none => return (msg.setError, list)
  | some modelo =>
      let (list, result) := listRemoveByModel list modelo
      if result ≠ 0 then return (msg.setError, list)
      return ({ msg with result }.setSuccess CType.ctResult, list)

def handleSize (msg : MessageT) (list : ListT) : Mem Handled := do
  if msg.cType ≠ CType.ctNone then return (msg.setError, list)
  let size := listSize list
  if 0 ≤ size then return ({ msg with result := size }.setSuccess CType.ctResult, list)
  return (msg.setError, list)

def isWrtOp (msg : MessageT) : Bool := msg.opcode = Opcode.opAdd ∨ msg.opcode = Opcode.opDel

/-- The switch on the opcode inside `invoke`. -/
def dispatch (msg : MessageT) (list : ListT) : Mem Handled :=
  if msg.opcode = Opcode.opAdd then handleAdd msg list
  else if msg.opcode = Opcode.opGet then handleGet msg list
  else if msg.opcode = Opcode.opGetmodels then handleGetmodels msg list
  else if msg.opcode = Opcode.opGetlistbytear then handleGetlistbyear msg list
  else if msg.opcode = Opcode.opDel then handleDel msg list
  else if msg.opcode = Opcode.opSize then handleSize msg list
  else pure (msg.setError, list)

/-- A write whose handler succeeded is forwarded. -/
def mustForward (request reply : MessageT) : Bool :=
  isWrtOp request ∧ reply.opcode ≠ Opcode.opError

variable {Conn : Type}

/-- `invoke` on a message and a list that are not NULL: the return code, the reply left in
the message, and the list. The copy of the request made before the switch is what is
forwarded.
-/
def invoke (env : ForwardEnv Conn) (msg : MessageT) (list : ListT) : Mem (Int32 × Handled) := do
  let (reply, list) ← dispatch msg list
  if mustForward msg reply then
    let code ← (zkForward env (some msg) : Except Fault Int32)
    if code ≠ 0 then return (0, reply.setError, list)
    return (0, reply, list)
  else
    return (0, reply, list)

section

variable (env : ForwardEnv Conn) {msg reply : MessageT} {list after : ListT}
  {script rest : List Bool}

/-- A message that is not forwarded gets what its handler left. -/
theorem run_invoke_kept (handled : (dispatch msg list).run script = .ok ((reply, after), rest))
    (kept : mustForward msg reply = false)
    : (invoke env msg list).run script = .ok ((0, reply, after), rest) := by
  rw [invoke, run_bind_of_ok handled]
  simp [kept]

/-- A forwarded message gets an error for every code but 0; the list stays as the handler
left it.
-/
theorem run_invoke_forwarded (handled : (dispatch msg list).run script = .ok ((reply, after), rest))
    (forwarded : mustForward msg reply = true)
    : (invoke env msg list).run script
      = match zkForward env (some msg) with
        | .ok code => .ok ((0, if code = 0 then reply else reply.setError, after), rest)
        | .error fault => .error fault := by
  rw [invoke, run_bind_of_ok handled]
  dsimp only
  rw [if_pos forwarded]
  cases zkForward env (some msg) with
  | error fault => rfl
  | ok code => by_cases zero : code = 0 <;> simp [zero]

/-- A handler that faults takes the call down with it. -/
theorem run_invoke_fault {fault : Fault} (handled : (dispatch msg list).run script = .error fault)
    : (invoke env msg list).run script = .error fault := by
  rw [invoke, StateT.run_bind, handled]
  rfl

end

end CarChain
