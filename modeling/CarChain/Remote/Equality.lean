import CarChain.Model.ReadSpecs
import CarChain.Model.Stub

/-! The operations on a remote list and the same operations on a local one. -/

namespace CarChain

open CRuntime CStandard

/-- The calls that a client and a local program can both make; a car may be NULL. -/
inductive ListOp where
  | add (car : Option DataT)
  | getByMarca (marca : Int32)
  | getByYear (ano : Int32)
  | getModelList
  | size
  deriving DecidableEq

/-- What a call returns, pointers by what they point to. -/
inductive Outcome where
  | code (result : Int32)
  | car (result : Option DataT)
  | cars (result : Option (List (Option DataT)))
  | models (result : Option (List (Option CString)))
  deriving DecidableEq

namespace ListOp

/-- The call by way of a single server. -/
def viaServer (pb : Protobuf) : ListOp → Net ListT Outcome
  | .add car => .code <$> rlistAdd (exchange pb) car
  | .getByMarca marca => .car <$> rlistGetByMarca (exchange pb) marca
  | .getByYear ano => .cars <$> rlistGetByYear (exchange pb) ano
  | .getModelList => .models <$> rlistGetModelList (exchange pb)
  | .size => .code <$> rlistSize (exchange pb)

/-- The call on a list of the program itself. -/
def locally : ListOp → Net ListT Outcome
  | .add none => return .code (-1)
  | .add (some car) => do
      let (list, code) ← (listAdd (← get) car : Mem _)
      set list
      return .code code
  | .getByMarca marca => return .car (listGetByMarca (← get) marca)
  | .getByYear ano => return .cars (← listGetByYear (← get) ano)
  | .getModelList => return .models (← listGetModelList (← get))
  | .size => return .code (listSize (← get))

/-- The list after the call. -/
def after (list : ListT) : ListOp → ListT
  | .add (some car) => list.appended car
  | _ => list

/-- The reply of the server to the call. -/
def reply (list : ListT) : ListOp → MessageT
  | .add none => MessageT.init
  | .add (some car) => (addRequest car).setSuccess CType.ctNone
  | .getByMarca marca =>
      match listGetByMarca list marca with
      | none => (marcaRequest marca).setError
      | some car => { marcaRequest marca with data := some car.toPb }.setSuccess CType.ctData
  | .getByYear ano =>
      {
        yearRequest ano with
        cars := pbCells (list.ofYear ano)
        nCars := (list.ofYear ano).length
      }.setSuccess CType.ctYear
  | .getModelList =>
      {
        getmodelsRequest with
        nModels := list.models.length
        models := some (nullTerminated list.models)
      }.setSuccess CType.ctModel
  | .size => { sizeRequest with result := list.size }.setSuccess CType.ctResult

/-- The request of the call. -/
def request : ListOp → MessageT
  | .add none => MessageT.init
  | .add (some car) => addRequest car
  | .getByMarca marca => marcaRequest marca
  | .getByYear ano => yearRequest ano
  | .getModelList => getmodelsRequest
  | .size => sizeRequest

/-- Both messages of the call fit in frames and unpack to what was packed; a call with NULL
exchanges nothing. The counter that a call for the size reads has not run over, which is
undefined in C.
-/
def Carried (pb : Protobuf) (list : ListT) (op : ListOp) : Prop :=
  op = .add none
  ∨ pb.Delivers op.request
    ∧ pb.Delivers (op.reply list)
    ∧ (op = .size → list.cars.length ≤ intMax)

/-- Each call of a sequence is carried, on the list that the calls before it leave. -/
def AllCarried (pb : Protobuf) : ListT → List ListOp → Prop
  | _, [] => True
  | list, op :: rest => op.Carried pb list ∧ AllCarried pb (op.after list) rest

-----------------------------------------------------------------------------------------
-- One call
-----------------------------------------------------------------------------------------

section

variable {pb : Protobuf} {list : ListT} {op : ListOp}

theorem request_decoded (op : ListOp) : op.request.decoded = op.request := by
  rcases op with (_ | car) | marca | ano | _ | _ <;> rfl

/-- The handlers answer each request with its reply and keep the list the call leaves. -/
theorem run_dispatch_request (nonnull : op ≠ .add none)
    (within : op = .size → list.cars.length ≤ intMax)
    : (dispatch op.request list).run [] = .ok ((op.reply list, op.after list), []) := by
  rcases op with (_ | car) | marca | ano | _ | _
  · exact absurd rfl nonnull
  · rfl
  · rw [ListOp.request, dispatch_get list rfl, reply]
    cases found : listGetByMarca list marca with
    | none => exact run_handleGet_marca_missing list rfl rfl found
    | some car => exact run_handleGet_marca list rfl rfl found (grants_nil 2)
  · have handled := @run_handleGet_year (yearRequest ano) { Data.init with ano } list [] rfl rfl
      (grants_nil _)
    rw [List.drop_nil] at handled
    exact (congrArg (StateT.run · []) (dispatch_get list rfl)).trans handled
  · have handled := @run_handleGetmodels getmodelsRequest list [] rfl (grants_nil _)
    rw [List.drop_nil] at handled
    exact (congrArg (StateT.run · []) (dispatch_getmodels list rfl)).trans handled
  · rw [ListOp.request, dispatch_size list rfl]
    exact run_handleSize list rfl (within rfl)

theorem exchange_request (nonnull : op ≠ .add none)
    (within : op = .size → list.cars.length ≤ intMax)
    (asked : pb.Delivers op.request) (answered : pb.Delivers (op.reply list))
    : Responds (exchange pb) op.request list (op.reply list).decoded (op.after list) := by
  have request := asked.carried_eq
  rw [request_decoded] at request
  rw [Responds, run_exchange request (run_dispatch_request nonnull within), answered.carried_eq]

/-- A carried call returns the same by way of the server and locally, and leaves the same list
at both ends.
-/
theorem run_viaServer (carried : op.Carried pb list)
    : ∃ outcome,
        ((op.viaServer pb).run list).run [] = .ok ((outcome, op.after list), [])
        ∧ (op.locally.run list).run [] = .ok ((outcome, op.after list), []) := by
  rcases carried with rfl | ⟨asked, answered, within⟩
  · exact ⟨.code (-1), rfl, rfl⟩
  by_cases nonnull : op = .add none
  · subst nonnull
    exact ⟨.code (-1), rfl, rfl⟩
  have answers := exchange_request nonnull within asked answered
  rcases op with (_ | car) | marca | ano | _ | _
  · exact absurd rfl nonnull
  · exact ⟨.code 0, run_net_map _ (run_rlistAdd answers rfl), rfl⟩
  · refine ⟨.car (listGetByMarca list marca), run_net_map _ ?_, rfl⟩
    rw [reply] at answers
    cases found : listGetByMarca list marca with
    | none =>
        rw [found] at answers
        exact run_rlistGetByMarca_refused answers
          (show Opcode.opError ≠ Opcode.opGet + 1 by decide)
    | some car =>
        rw [found] at answers
        exact run_rlistGetByMarca answers rfl rfl
  · refine ⟨.cars (some (nullTerminated (list.ofYear ano))), run_net_map _ ?_, ?_⟩
    · exact run_rlistGetByYear answers rfl rfl (decodedCells_pbCells (list.ofYear ano))
    · exact run_net_map _ (run_net_lift (run_listGetByYear list ano []))
  · refine ⟨.models (some (nullTerminated list.models)), run_net_map _ ?_, ?_⟩
    · exact run_rlistGetModelList answers rfl rfl (decodedCells_nullTerminated list.models)
    · have listed := run_listGetModelList list (grants_nil _)
      rw [List.drop_nil] at listed
      exact run_net_map _ (run_net_lift listed)
  · exact ⟨.code list.size, run_net_map _ (run_rlistSize answers rfl), rfl⟩

end

-----------------------------------------------------------------------------------------
-- Sequences of calls
-----------------------------------------------------------------------------------------

/-- The bytes of an addition of a Clio and of requests for the size, before it and after. -/
def clioAddition : Protobuf :=
  .table
    [(sizeRequest, [8, 40, 16, 70]),
      (reply listCreate .size, [8, 41, 16, 50]),
      (addRequest (clio 2020),
        [8, 10, 16, 10, 26, 11, 8, 228, 15, 24, 2, 34, 4, 67, 108, 105, 111]),
      (reply listCreate (.add (clio 2020)),
        [8, 11, 16, 70, 26, 11, 8, 228, 15, 24, 2, 34, 4, 67, 108, 105, 111]),
      (reply (listCreate.appended (clio 2020)) .size, [8, 41, 16, 50, 48, 2])]

end ListOp

end CarChain
