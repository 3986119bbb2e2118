import CarChain.Library.Lockstep
import CarChain.Model.Skeleton

/-! The skeleton over any implementation of the list (`list_skel.c`, `list.h`).

The handlers reach the list through the functions of `list.h` only. Here these functions are a
parameter, so that the handlers can be run on nodes in memory as well as on a sequence of cars.
-/

namespace CarChain

open CRuntime CStandard

/-- The functions of `list.h` that the skeleton calls. An array is given by its cells up to the
first NULL.
-/
structure ListInterface (L : Type) where
  listAdd : L → DataT → Mem (L × Int32)
  listRemoveByModel : L → CString → Mem (L × Int32)
  listGetByMarca : L → Int32 → Mem (Option DataT)
  listGetByYear : L → Int32 → Mem (Option (List (Option DataT)))
  listOrderByYear : L → Mem (L × Int32)
  listSize : L → Int32
  listGetModelList : L → Mem (Option (List (Option CString)))
  listGetAll : L → Mem (Option (List (Option DataT)))

namespace ListInterface

section

variable {L : Type} (ops : ListInterface L)

/-- `handle_add`. -/
def handleAdd (msg : MessageT) (list : L) : Mem (MessageT × L) := do
  if msg.cType ≠ CType.ctData ∨ msg.data = none then return (msg.setError, list)
  match ← pbToData msg.data with
  | none => return (msg.setError, list)
  | some car =>
      let (list, code) ← ops.listAdd list car
      if code = -1 then return (msg.setError, list)
      return (msg.setSuccess CType.ctNone, list)

/-- `handle_get`. -/
def handleGet (msg : MessageT) (list : L) : Mem (MessageT × L) := do
  match msg.data with
  | none => return (msg.setError, list)
  | some query =>
      if msg.cType = CType.ctMarca then
        match ← ops.listGetByMarca list query.marca with
        | none => return (msg.setError, list)
        | some car =>
            match ← dataToPb (some car) with
            | none => return (msg.setError, list)
            | some pbData => return ({ msg with data := some pbData }.setSuccess CType.ctData, list)
      else if msg.cType = CType.ctYear then
        match ← ops.listGetByYear list query.ano with
        | none => return (msg.setError, list)
        | some cars =>
            let (pbCars, size) ← dataArrayToPb cars
            if pbCars = none ∧ 0 < size then return (msg.setError, list)
            freePbDataArray msg.cars msg.nCars
            return ({ msg with cars := pbCars, nCars := size }.setSuccess CType.ctYear, list)
      else
        return (msg.setError, list)

/-- `handle_getmodels`. -/
def handleGetmodels (msg : MessageT) (list : L) : Mem (MessageT × L) := do
  if msg.cType ≠ CType.ctNone then return (msg.setError, list)
  match ← ops.listGetModelList list with
  | none => return (msg.setError, list)
  | some models =>
      let size ← countToNull models
      let _ ← listFreeModelList msg.models
      return ({ msg with nModels := size, models := some models }.setSuccess CType.ctModel, list)

/-- `handle_getlistbyear`. -/
def handleGetlistbyear (msg : MessageT) (list : L) : Mem (MessageT × L) := do
  if msg.cType ≠ CType.ctNone then return (msg.setError, list)
  let (list, code) ← ops.listOrderByYear list
  if code = -1 then return (msg.setError, list)
  match ← ops.listGetAll list with
  | none => return (msg.setError, list)
  | some sorted =>
      let (pbSorted, size) ← dataArrayToPb sorted
      if pbSorted = none ∧ 0 < size then return (msg.setError, list)
      freePbDataArray msg.cars msg.nCars
      return ({ msg with cars := pbSorted, nCars := size }.setSuccess CType.ctList, list)

/-- `handle_del`. -/
def handleDel (msg : MessageT) (list : L) : Mem (MessageT × L) := do
  if msg.cType ≠ CType.ctModel then return (msg.setError, list)
  match ← firstModel msg with
  | none => return (msg.setError, list)
  | some modelo =>
      let (list, result) ← ops.listRemoveByModel list modelo
      if result ≠ 0 then return (msg.setError, list)
      return ({ msg with result }.setSuccess CType.ctResult, list)

/-- `handle_size`. -/
def handleSize (msg : MessageT) (list : L) : Mem (MessageT × L) := do
  if msg.cType ≠ CType.ctNone then return (msg.setError, list)
  let size := ops.listSize list
  if 0 ≤ size then return ({ msg with result := size }.setSuccess CType.ctResult, list)
  return (msg.setError, list)

/-- The switch on the opcode inside `invoke`. -/
def dispatch (msg : MessageT) (list : L) : Mem (MessageT × L) :=
  if msg.opcode = Opcode.opAdd then ops.handleAdd msg list
  else if msg.opcode = Opcode.opGet then ops.handleGet msg list
  else if msg.opcode = Opcode.opGetmodels then ops.handleGetmodels msg list
  else if msg.opcode = Opcode.opGetlistbytear then ops.handleGetlistbyear msg list
  else if msg.opcode = Opcode.opDel then ops.handleDel msg list
  else if msg.opcode = Opcode.opSize then ops.handleSize msg list
  else pure (msg.setError, list)

/-- `invoke` on a message and a list that are not NULL. -/
def invoke {Conn : Type} (env : ForwardEnv Conn) (msg : MessageT) (list : L)
    : Mem (Int32 × MessageT × L) := do
  let (reply, list) ← ops.dispatch msg list
  if mustForward msg reply then
    let code ← (zkForward env (some msg) : Except Fault Int32)
    if code ≠ 0 then return (0, reply.setError, list)
    return (0, reply, list)
  else
    return (0, reply, list)

/-- The requests that one server handles one after the other under its list mutex, each with what
its forwarding meets: the codes and the replies.
-/
def invokeAll {Conn : Type}
    : List (MessageT × ForwardEnv Conn) → L → Mem (List (Int32 × MessageT) × L)
  | [], list => pure ([], list)
  | (msg, env) :: rest, list => do
      let (code, reply, list) ← ops.invoke env msg list
      let (replies, list) ← invokeAll rest list
      return ((code, reply) :: replies, list)

/-- Each of the requests finds such a list when it is handled. -/
def EachBefore {Conn : Type} (holds : L → Prop)
    : List (MessageT × ForwardEnv Conn) → L → List Bool → Prop
  | [], _, _ => True
  | (msg, env) :: rest, list, script =>
      holds list
      ∧ match (ops.invoke env msg list).run script with
        | .ok ((_, _, after), left) => EachBefore holds rest after left
        | .error _ => True

end

-----------------------------------------------------------------------------------------
-- The list as a sequence of cars
-----------------------------------------------------------------------------------------

/-- The functions on a sequence of cars. -/
def sequence : ListInterface ListT where
  listAdd := CarChain.listAdd
  listRemoveByModel list modelo := pure (CarChain.listRemoveByModel list modelo)
  listGetByMarca list marca := pure (CarChain.listGetByMarca list marca)
  listGetByYear := CarChain.listGetByYear
  listOrderByYear := CarChain.listOrderByYear
  listSize := CarChain.listSize
  listGetModelList := CarChain.listGetModelList
  listGetAll := CarChain.listGetAll

/-- On a sequence of cars the switch is the one of the skeleton. -/
theorem sequence_dispatch : sequence.dispatch = CarChain.dispatch := by
  have add : sequence.handleAdd = CarChain.handleAdd := rfl
  have get : sequence.handleGet = CarChain.handleGet := rfl
  have getmodels : sequence.handleGetmodels = CarChain.handleGetmodels := rfl
  have getlistbyear : sequence.handleGetlistbyear = CarChain.handleGetlistbyear := rfl
  have del : sequence.handleDel = CarChain.handleDel := rfl
  have size : sequence.handleSize = CarChain.handleSize := rfl
  funext msg list
  simp only [dispatch, CarChain.dispatch, add, get, getmodels, getlistbyear, del, size]

theorem sequence_invoke {Conn : Type}
    : @invoke _ sequence Conn = @CarChain.invoke Conn := by
  funext env msg list
  rw [invoke, CarChain.invoke, sequence_dispatch]

-----------------------------------------------------------------------------------------
-- Two implementations
-----------------------------------------------------------------------------------------

/-- The functions of one implementation do what those of the other do, as long as the list has
room for the cars that are still to be added.
-/
structure Simulates {L H : Type} (low : ListInterface L) (high : ListInterface H)
    (rel : Nat → L → H → Prop)
    : Prop where
  weaken : ∀ {room left right}, rel (room + 1) left right → rel room left right
  listAdd
    : ∀ {room left right} car,
        rel (room + 1) left right
        → Lockstep (fun l h => rel room l.1 h.1 ∧ l.2 = h.2) (low.listAdd left car)
          (high.listAdd right car)
  listRemoveByModel
    : ∀ {room left right} modelo,
        rel room left right
        → Lockstep (fun l h => rel room l.1 h.1 ∧ l.2 = h.2) (low.listRemoveByModel left modelo)
          (high.listRemoveByModel right modelo)
  listGetByMarca
    : ∀ {room left right} marca,
        rel room left right
        → Lockstep Eq (low.listGetByMarca left marca) (high.listGetByMarca right marca)
  listGetByYear
    : ∀ {room left right} ano,
        rel room left right
        → Lockstep Eq (low.listGetByYear left ano) (high.listGetByYear right ano)
  listOrderByYear
    : ∀ {room left right},
        rel room left right
        → Lockstep (fun l h => rel room l.1 h.1 ∧ l.2 = h.2) (low.listOrderByYear left)
          (high.listOrderByYear right)
  listSize : ∀ {room left right}, rel room left right → low.listSize left = high.listSize right
  listGetModelList
    : ∀ {room left right},
        rel room left right → Lockstep Eq (low.listGetModelList left) (high.listGetModelList right)
  listGetAll
    : ∀ {room left right},
        rel room left right → Lockstep Eq (low.listGetAll left) (high.listGetAll right)

/-- The same reply, and lists that are related. -/
def SameReply {L H : Type} (rel : L → H → Prop) (left : MessageT × L) (right : MessageT × H)
    : Prop :=
  left.1 = right.1 ∧ rel left.2 right.2

section

variable {L H : Type} {low : ListInterface L} {high : ListInterface H} {rel : Nat → L → H → Prop}
  {room : Nat} {left : L} {right : H} (msg : MessageT)

/-- A handler that returns with the lists as they are. -/
theorem sameReply_return (reply : MessageT) (related : rel room left right)
    : Lockstep (SameReply (rel room)) (pure (reply, left)) (pure (reply, right)) :=
  .pure ⟨rfl, related⟩

theorem Simulates.handleAdd (h : Simulates low high rel) (related : rel (room + 1) left right)
    : Lockstep (SameReply (rel room)) (low.handleAdd msg left) (high.handleAdd msg right) := by
  unfold ListInterface.handleAdd
  split
  · exact sameReply_return _ (h.weaken related)
  · refine Lockstep.bind_same _ (fun made => ?_)
    cases made with
    | none => exact sameReply_return _ (h.weaken related)
    | some car =>
        refine (h.listAdd car related).bind ?_
        rintro ⟨list, code⟩ ⟨list', code'⟩ ⟨later, rfl⟩
        dsimp only
        split <;> exact sameReply_return _ later

theorem Simulates.handleGet (h : Simulates low high rel) (related : rel room left right)
    : Lockstep (SameReply (rel room)) (low.handleGet msg left) (high.handleGet msg right) := by
  unfold ListInterface.handleGet
  cases msg.data with
  | none => exact sameReply_return _ related
  | some query =>
      dsimp only
      split
      · refine (h.listGetByMarca query.marca related).bind ?_
        rintro found _ rfl
        cases found with
        | none => exact sameReply_return _ related
        | some car =>
            refine Lockstep.bind_same _ (fun converted => ?_)
            cases converted <;> exact sameReply_return _ related
      · split
        · refine (h.listGetByYear query.ano related).bind ?_
          rintro found _ rfl
          cases found with
          | none => exact sameReply_return _ related
          | some cars =>
              refine Lockstep.bind_same _ (fun converted => ?_)
              split
              · exact sameReply_return _ related
              · exact Lockstep.bind_same _ (fun _ => sameReply_return _ related)
        · exact sameReply_return _ related

theorem Simulates.handleGetmodels (h : Simulates low high rel) (related : rel room left right)
    : Lockstep (SameReply (rel room)) (low.handleGetmodels msg left)
        (high.handleGetmodels msg right) := by
  unfold ListInterface.handleGetmodels
  split
  · exact sameReply_return _ related
  · refine (h.listGetModelList related).bind ?_
    rintro made _ rfl
    cases made with
    | none => exact sameReply_return _ related
    | some models =>
        refine Lockstep.bind_same _ (fun size => ?_)
        exact Lockstep.bind_same _ (fun _ => sameReply_return _ related)

theorem Simulates.handleGetlistbyear (h : Simulates low high rel) (related : rel room left right)
    : Lockstep (SameReply (rel room)) (low.handleGetlistbyear msg left)
        (high.handleGetlistbyear msg right) := by
  unfold ListInterface.handleGetlistbyear
  split
  · exact sameReply_return _ related
  · refine (h.listOrderByYear related).bind ?_
    rintro ⟨list, code⟩ ⟨list', code'⟩ ⟨ordered, rfl⟩
    dsimp only
    split
    · exact sameReply_return _ ordered
    · refine (h.listGetAll ordered).bind ?_
      rintro made _ rfl
      cases made with
      | none => exact sameReply_return _ ordered
      | some sorted =>
          refine Lockstep.bind_same _ (fun converted => ?_)
          split
          · exact sameReply_return _ ordered
          · exact Lockstep.bind_same _ (fun _ => sameReply_return _ ordered)

theorem Simulates.handleDel (h : Simulates low high rel) (related : rel room left right)
    : Lockstep (SameReply (rel room)) (low.handleDel msg left) (high.handleDel msg right) := by
  unfold ListInterface.handleDel
  split
  · exact sameReply_return _ related
  · refine Lockstep.bind_same _ (fun named => ?_)
    cases named with
    | none => exact sameReply_return _ related
    | some modelo =>
        refine (h.listRemoveByModel modelo related).bind ?_
        rintro ⟨list, result⟩ ⟨list', result'⟩ ⟨later, rfl⟩
        dsimp only
        split <;> exact sameReply_return _ later

theorem Simulates.handleSize (h : Simulates low high rel) (related : rel room left right)
    : Lockstep (SameReply (rel room)) (low.handleSize msg left) (high.handleSize msg right) := by
  unfold ListInterface.handleSize
  rw [h.listSize related]
  split
  · exact sameReply_return _ related
  · dsimp only
    split <;> exact sameReply_return _ related

/-- The switch gives the same reply over both implementations, by the cases of the opcode. -/
theorem Simulates.dispatch (h : Simulates low high rel) (related : rel (room + 1) left right)
    : Lockstep (SameReply (rel room)) (low.dispatch msg left) (high.dispatch msg right) := by
  have weaker := h.weaken related
  unfold ListInterface.dispatch
  split
  · exact h.handleAdd msg related
  · split
    · exact h.handleGet msg weaker
    · split
      · exact h.handleGetmodels msg weaker
      · split
        · exact h.handleGetlistbyear msg weaker
        · split
          · exact h.handleDel msg weaker
          · split
            · exact h.handleSize msg weaker
            · exact sameReply_return _ weaker

/-- The same code too, and with the same messages to the chain. -/
theorem Simulates.invoke {Conn : Type} (h : Simulates low high rel) (env : ForwardEnv Conn)
    (related : rel (room + 1) left right)
    : Lockstep (fun l r => l.1 = r.1 ∧ SameReply (rel room) l.2 r.2) (low.invoke env msg left)
        (high.invoke env msg right) := by
  unfold ListInterface.invoke
  refine (h.dispatch msg related).bind ?_
  rintro ⟨reply, list⟩ ⟨_, list'⟩ ⟨same, later⟩
  dsimp only at same
  subst same
  dsimp only
  split
  · refine Lockstep.bind_same _ (fun code => ?_)
    split <;> exact .pure ⟨rfl, rfl, later⟩
  · exact .pure ⟨rfl, rfl, later⟩

/-- All requests get the same replies over both implementations, by induction on them, if each of
them finds a list with room for a car.
-/
theorem Simulates.invokeAll {Conn : Type} (h : Simulates low high rel) {holds : H → Prop}
    {requests : List (MessageT × ForwardEnv Conn)} {script : List Bool}
    (fits : ∀ {left right}, rel 0 left right → holds right → rel 1 left right)
    (related : rel 0 left right) (before : high.EachBefore holds requests right script)
    : SameOutcome (fun l r => l.1 = r.1 ∧ rel 0 l.2 r.2)
        ((low.invokeAll requests left).run script)
        ((high.invokeAll requests right).run script) := by
  induction requests generalizing left right script with
  | nil => exact ⟨⟨rfl, related⟩, rfl⟩
  | cons request rest ih =>
      obtain ⟨msg, env⟩ := request
      obtain ⟨here, later⟩ := before
      unfold ListInterface.invokeAll
      rcases sameOutcome_cases (h.invoke msg env (fits related here) script) with
        ⟨fault, ranLow, ranHigh⟩
        | ⟨⟨code, reply, list⟩, ⟨_, _, list'⟩, between, ranLow, ranHigh, rfl, rfl, stands⟩
      · rw [StateT.run_bind, StateT.run_bind, ranLow, ranHigh]
        rfl
      · rw [ranHigh] at later
        rw [run_bind_of_ok ranLow, run_bind_of_ok ranHigh]
        rcases sameOutcome_cases (ih stands later) with
          ⟨fault, restLow, restHigh⟩
          | ⟨⟨replies, last⟩, ⟨_, last'⟩, left, restLow, restHigh, rfl, ends⟩
        · rw [StateT.run_bind, StateT.run_bind, restLow, restHigh]
          rfl
        · rw [run_bind_of_ok restLow, run_bind_of_ok restHigh]
          exact ⟨⟨rfl, ends⟩, rfl⟩

end

end ListInterface

end CarChain
