import CarChain.Model.Skeleton

/-! What the handlers do to the list and to the opcode, for every allocation script.

Each handler gets one equation or one case distinction; the results about servers and chains
use these and never unfold a handler.
-/

namespace CarChain

open CRuntime CStandard

section

variable {msg : MessageT} (list : ListT)

theorem dispatch_add (h : msg.opcode = Opcode.opAdd) : dispatch msg list = handleAdd msg list :=
  if_pos h

theorem dispatch_del (h : msg.opcode = Opcode.opDel) : dispatch msg list = handleDel msg list := by
  unfold dispatch
  rw [h]
  rfl

theorem dispatch_getlistbyear (h : msg.opcode = Opcode.opGetlistbytear)
    : dispatch msg list = handleGetlistbyear msg list := by
  unfold dispatch
  rw [h]
  rfl

end

/-- The writes are ADD and DEL, whose opcodes differ. -/
theorem isWrtOp_cases {msg : MessageT} (h : isWrtOp msg = true)
    : (msg.opcode = Opcode.opAdd ∧ msg.opcode ≠ Opcode.opDel)
      ∨ (msg.opcode = Opcode.opDel ∧ msg.opcode ≠ Opcode.opAdd) := by
  have opcode : msg.opcode = Opcode.opAdd ∨ msg.opcode = Opcode.opDel := by
    simpa [isWrtOp] using h
  rcases opcode with add | del
  · exact .inl ⟨add, by rw [add]; decide⟩
  · exact .inr ⟨del, by rw [del]; decide⟩

-----------------------------------------------------------------------------------------
-- Writes
-----------------------------------------------------------------------------------------

/-- The car an ADD request carries, if it is well formed. -/
def requestedCar (msg : MessageT) : Option DataT :=
  if msg.cType = CType.ctData then
    msg.data.bind
      (fun pb =>
        pb.modelo.map
          (fun modelo =>
            {
              ano := pb.ano
              preco := pb.preco
              marca := pb.marca
              modelo
              combustivel := pb.combustivel
            }))
  else
    none

/-- The model a DEL request names, if it is well formed. -/
def requestedModel (msg : MessageT) : Option CString :=
  if msg.cType = CType.ctModel ∧ msg.nModels ≠ 0 then
    (msg.models.bind List.head?).join
  else
    none

/-- Some car of the list has the model. -/
def HasModel (list : ListT) (modelo : CString) : Prop := ∃ car ∈ list.cars, car.modelo = modelo

instance (list : ListT) (modelo : CString) : Decidable (HasModel list modelo) :=
  inferInstanceAs (Decidable (∃ car ∈ list.cars, car.modelo = modelo))

/-- The local effect of a write succeeds: an ADD carries a car and gets its three
allocations, a DEL names a model that is in the list.
-/
def WriteAccepted (msg : MessageT) (list : ListT) (script : List Bool) : Prop :=
  (msg.opcode = Opcode.opAdd ∧ (requestedCar msg).isSome ∧ grants 3 script)
  ∨ (msg.opcode = Opcode.opDel ∧ ∃ modelo, requestedModel msg = some modelo ∧ HasModel list modelo)

theorem run_handleAdd (msg : MessageT) (list : ListT) (script : List Bool)
    : ∃ rest,
        (handleAdd msg list).run script
          = .ok
              (
                match requestedCar msg with
                | some car =>
                    if grants 3 script then (msg.setSuccess CType.ctNone, list.appended car)
                    else (msg.setError, list)
                | none => (msg.setError, list),
                rest
              ) := by
  unfold handleAdd requestedCar
  by_cases typed : msg.cType = CType.ctData
  · cases carried : msg.data with
    | none => exact ⟨script, by simp [typed]⟩
    | some pb =>
        obtain ⟨ano, preco, marca, model, combustivel⟩ := pb
        cases model with
        | none => exact ⟨script, by simp [typed, pbToData, dataCreate]⟩
        | some modelo =>
            have three : grants 3 script = (grants 2 script && grants 1 (script.drop 2)) :=
              grants_add 2 1 script
            rw [if_neg (by simp [typed]), if_pos typed]
            cases made : grants 2 script with
            | false =>
                obtain ⟨rest, stopped⟩ :=
                  run_dataCreate_refused ano preco marca modelo combustivel made
                exact ⟨rest, by simp [pbToData, stopped, three, made]⟩
            | true =>
                have created := run_dataCreate_some ano preco marca modelo combustivel made
                refine ⟨(script.drop 2).drop 1, ?_⟩
                cases linked : grants 1 (script.drop 2) <;>
                  simp [pbToData, created, run_listAdd, three, made, linked]
  · exact ⟨script, by simp [typed]⟩

/-- A DEL request that names no model may read its first one out of bounds; otherwise it
takes the list to what `list_remove_by_model` makes of it.
-/
theorem run_handleDel (msg : MessageT) (list : ListT) (script : List Bool)
    : (handleDel msg list).run script = .error .outOfBounds ∧ requestedModel msg = none
      ∨ (handleDel msg list).run script
        = .ok
            (
              match requestedModel msg with
              | some modelo =>
                  if HasModel list modelo then
                    (
                      { msg with result := 0 }.setSuccess CType.ctResult,
                      (listRemoveByModel list modelo).1
                    )
                  else
                    (msg.setError, list)
              | none => (msg.setError, list),
              script
            ) := by
  unfold handleDel requestedModel
  by_cases typed : msg.cType = CType.ctModel
  · by_cases empty : msg.nModels = 0
    · right
      cases carried : msg.models <;> simp [typed, empty, firstModel, carried]
    · cases carried : msg.models with
      | none => exact Or.inr (by simp [typed, empty, firstModel, carried])
      | some models =>
          match models with
          | [] => exact Or.inl (by simp [typed, empty, firstModel, carried])
          | none :: _ => exact Or.inr (by simp [typed, empty, firstModel, carried])
          | some modelo :: _ =>
              right
              by_cases found : HasModel list modelo
              · have removed := (listRemoveByModel_found found).1
                simp [typed, empty, firstModel, carried, found, removed]
              · have kept := listRemoveByModel_missing found
                simp [typed, empty, firstModel, carried, found, kept]
  · exact Or.inr (by simp [typed])

/-- A write that returns was either accepted, and then changed the cars of the list and counts
its opcode up, or refused, and then left the list alone.
-/
theorem run_dispatch_write {msg : MessageT} {list : ListT} {script rest : List Bool}
    {reply : MessageT} {after : ListT} (write : isWrtOp msg = true)
    (returned : (dispatch msg list).run script = .ok ((reply, after), rest))
    : WriteAccepted msg list script
        ∧ reply.opcode = msg.opcode + 1
        ∧ ¬after.cars.Perm list.cars
      ∨ ¬WriteAccepted msg list script ∧ reply.opcode = Opcode.opError ∧ after = list := by
  unfold WriteAccepted
  rcases isWrtOp_cases write with ⟨add, notDel⟩ | ⟨del, notAdd⟩
  · obtain ⟨left, ran⟩ := run_handleAdd msg list script
    rw [dispatch_add list add, ran] at returned
    cases car : requestedCar msg with
    | none =>
        simp only [car, Except.ok.injEq, Prod.mk.injEq] at returned
        obtain ⟨⟨rfl, rfl⟩, -⟩ := returned
        simp [notDel]
    | some car =>
        cases granted : grants 3 script <;>
          simp only [car, granted, if_true, Bool.false_eq_true, if_false, Except.ok.injEq,
            Prod.mk.injEq] at returned
        all_goals obtain ⟨⟨rfl, rfl⟩, -⟩ := returned
        · simp [notDel]
        · simp [add, ListT.appended_not_perm]
  · rw [dispatch_del list del] at returned
    rcases run_handleDel msg list script with ⟨stopped, -⟩ | ran
    · simp [stopped] at returned
    · rw [ran] at returned
      cases model : requestedModel msg with
      | none =>
          simp only [model, Except.ok.injEq, Prod.mk.injEq] at returned
          obtain ⟨⟨rfl, rfl⟩, -⟩ := returned
          simp [notAdd]
      | some modelo =>
          by_cases found : HasModel list modelo <;>
            simp only [model, found, if_true, if_false, Except.ok.injEq, Prod.mk.injEq] at returned
          all_goals obtain ⟨⟨rfl, rfl⟩, -⟩ := returned
          · refine .inl ⟨.inr ⟨del, modelo, rfl, found⟩, rfl, ?_⟩
            intro rearranged
            have shorter := (listRemoveByModel_found found).2
            have lengths := rearranged.length_eq
            omega
          · simp [notAdd, found]

/-- A write whose local effect succeeds returns. -/
theorem run_dispatch_accepted {msg : MessageT} {list : ListT} {script : List Bool}
    (accepted : WriteAccepted msg list script)
    : isWrtOp msg = true
      ∧ ∃ reply after rest,
          (dispatch msg list).run script = .ok ((reply, after), rest)
          ∧ reply.opcode = msg.opcode + 1
          ∧ ¬after.cars.Perm list.cars := by
  have write : isWrtOp msg = true := by
    rcases accepted with ⟨add, -⟩ | ⟨del, -⟩ <;> simp [isWrtOp, *]
  have returned : ∃ handled, (dispatch msg list).run script = .ok handled := by
    rcases accepted with ⟨add, -⟩ | ⟨del, modelo, named, -⟩
    · obtain ⟨rest, ran⟩ := run_handleAdd msg list script
      rw [dispatch_add list add, ran]
      exact ⟨_, rfl⟩
    · rw [dispatch_del list del]
      rcases run_handleDel msg list script with ⟨-, unnamed⟩ | ran
      · rw [named] at unnamed
        cases unnamed
      · exact ⟨_, ran⟩
  obtain ⟨⟨⟨reply, after⟩, rest⟩, ran⟩ := returned
  rcases run_dispatch_write write ran with ⟨-, opcode, changed⟩ | ⟨refused, -⟩
  · exact ⟨write, reply, after, rest, ran, opcode, changed⟩
  · exact absurd accepted refused

/-- A successful write never carries the error opcode. -/
theorem isWrtOp_success_ne {msg : MessageT} (write : isWrtOp msg = true)
    : msg.opcode + 1 ≠ Opcode.opError := by
  rcases isWrtOp_cases write with ⟨add, -⟩ | ⟨del, -⟩
  · rw [add]
    decide
  · rw [del]
    decide

theorem mustForward_accepted {msg reply : MessageT} (write : isWrtOp msg = true)
    (success : reply.opcode = msg.opcode + 1)
    : mustForward msg reply = true := by
  simp [mustForward, write, success, isWrtOp_success_ne write]

-----------------------------------------------------------------------------------------
-- Reads
-----------------------------------------------------------------------------------------

/-- The handler returns the list it was given. -/
def Keeps (list : ListT) (action : Mem Handled) : Prop :=
  Returns action (fun handled => handled.2 = list)

theorem keeps_return (list : ListT) (reply : MessageT) : Keeps list (pure (reply, list)) :=
  returns_pure rfl

theorem handleGet_keeps (msg : MessageT) (list : ListT) : Keeps list (handleGet msg list) := by
  unfold handleGet
  split
  · exact keeps_return list _
  · split
    · split
      · exact keeps_return list _
      · refine returns_bind_any (fun pbData => ?_)
        cases pbData <;> exact keeps_return list _
    · split
      · refine returns_bind_any (fun cars => ?_)
        cases cars with
        | none => exact keeps_return list _
        | some cars =>
            refine returns_bind_any (fun converted => ?_)
            split
            split
            · exact keeps_return list _
            · exact returns_bind_any (fun _ => keeps_return list _)
      · exact keeps_return list _

theorem handleGetmodels_keeps (msg : MessageT) (list : ListT)
    : Keeps list (handleGetmodels msg list) := by
  unfold handleGetmodels
  split
  · exact keeps_return list _
  · refine returns_bind_any (fun models => ?_)
    cases models with
    | none => exact keeps_return list _
    | some models =>
        exact returns_bind_any (fun _ => returns_bind_any (fun _ => keeps_return list _))

theorem handleSize_keeps (msg : MessageT) (list : ListT) : Keeps list (handleSize msg list) := by
  unfold handleSize
  split
  · exact keeps_return list _
  · dsimp only
    split <;> exact keeps_return list _

/-- A message that may change the list: a write, or a request for the ordered list. -/
def mayChange (msg : MessageT) : Bool := isWrtOp msg ∨ msg.opcode = Opcode.opGetlistbytear

/-- Every other request leaves the list as it is, by the cases of the switch. -/
theorem dispatch_keeps {msg : MessageT} (list : ListT) (h : mayChange msg = false)
    : Keeps list (dispatch msg list) := by
  simp only [mayChange, isWrtOp, Bool.decide_or, Bool.decide_eq_true, Bool.or_eq_false_iff,
    decide_eq_false_iff_not] at h
  obtain ⟨⟨notAdd, notDel⟩, notOrder⟩ := h
  unfold dispatch
  rw [if_neg notAdd]
  split
  · exact handleGet_keeps msg list
  · split
    · exact handleGetmodels_keeps msg list
    · split
      · exact handleSize_keeps msg list
      · exact keeps_return list _

-----------------------------------------------------------------------------------------
-- The ordered list
-----------------------------------------------------------------------------------------

/-- The list `list_order_by_year` leaves. -/
def ListT.ordered (list : ListT) : ListT :=
  match (listOrderByYear list).run [] with
  | .ok ((ordered, _), _) => ordered
  | .error _ => list

theorem listOrderByYear_eq (list : ListT) : listOrderByYear list = pure (list.ordered, 0) := by
  obtain ⟨ordered, returned, -⟩ := listOrderByYear_spec list
  rw [ListT.ordered, returned]
  rfl

theorem ListT.ordered_perm (list : ListT) : list.ordered.cars.Perm list.cars := by
  obtain ⟨ordered, returned, rearranged, -⟩ := listOrderByYear_spec list
  rw [ListT.ordered, returned]
  exact rearranged

theorem ListT.ordered_inYearOrder (list : ListT) : list.ordered.InYearOrder := by
  obtain ⟨ordered, returned, -, sorted, -⟩ := listOrderByYear_spec list
  rw [ListT.ordered, returned]
  exact sorted

/-- Ordering changes a list exactly when it is not in year order yet. -/
theorem ListT.ordered_eq_self {list : ListT} : list.ordered = list ↔ list.InYearOrder := by
  constructor
  · intro same
    exact same ▸ list.ordered_inYearOrder
  · intro sorted
    obtain ⟨ordered, returned, -, -, unchanged⟩ := listOrderByYear_spec list
    rw [ListT.ordered, returned]
    exact unchanged sorted

@[simp]
theorem ListT.ordered_length (list : ListT) : list.ordered.cars.length = list.cars.length :=
  list.ordered_perm.length_eq

/-- The allocations of a reply that carries every car: the array of all cars, then its
conversion.
-/
def replyAllocations (list : ListT) : Nat := 1 + arrayAllocations list.cars.length

/-- The reply that carries these cars. -/
def MessageT.withCars (msg : MessageT) (cars : List DataT) : MessageT :=
  { msg with cars := pbCells cars, nCars := cars.length }.setSuccess CType.ctList

theorem run_handleGetlistbyear_mistyped {msg : MessageT} (list : ListT) (script : List Bool)
    (h : msg.cType ≠ CType.ctNone)
    : (handleGetlistbyear msg list).run script = .ok ((msg.setError, list), script) := by
  simp [handleGetlistbyear, h]

/-- With its allocations granted the handler replies with the ordered cars, unless freeing
the cars of the request reads out of bounds.
-/
theorem run_handleGetlistbyear {msg : MessageT} (list : ListT) {script : List Bool}
    (typed : msg.cType = CType.ctNone) (granted : grants (replyAllocations list) script = true)
    : (handleGetlistbyear msg list).run script = .error .outOfBounds
        ∧ (∃ cells, msg.cars = some cells ∧ cells.length < msg.nCars)
      ∨ (handleGetlistbyear msg list).run script
        = .ok
            (
              (msg.withCars list.ordered.cars, list.ordered),
              script.drop (replyAllocations list)
            ) := by
  rw [replyAllocations, grants_add, Bool.and_eq_true] at granted
  have forCells : grants (arrayAllocations list.ordered.cars.length) (script.drop 1) = true := by
    simpa using granted.2
  have converted := run_dataArrayToPb list.ordered.cars forCells
  have kept : ¬(pbCells list.ordered.cars = none ∧ 0 < list.ordered.cars.length) := by
    intro h
    obtain ⟨empty, long⟩ := h
    rw [pbCells, if_neg (List.ne_nil_of_length_pos long)] at empty
    exact absurd empty (by simp)
  have ran : (handleGetlistbyear msg list).run script
      = (do
          freePbDataArray msg.cars msg.nCars
          pure (msg.withCars list.ordered.cars, list.ordered) : Mem Handled).run
        (script.drop (replyAllocations list)) := by
    rw [handleGetlistbyear, if_neg (by simp [typed]), listOrderByYear_eq, pure_bind]
    dsimp only
    rw [if_neg (by decide), listGetAll]
    simp only [bind_assoc]
    rw [run_bind_of_ok (run_malloc script), granted.1, if_neg (by simp), pure_bind]
    dsimp only
    rw [run_bind_of_ok converted]
    dsimp only
    rw [if_neg kept, List.drop_drop]
    simp [replyAllocations, MessageT.withCars]
  rw [ran]
  unfold freePbDataArray
  cases msg.cars with
  | none => exact .inr rfl
  | some cells =>
      by_cases short : cells.length < msg.nCars
      · exact .inl ⟨by simp [short], cells, rfl, short⟩
      · exact .inr (by simp [short])

/-- When one of them is refused the handler reports an error over the ordered list. -/
theorem run_handleGetlistbyear_refused {msg : MessageT} (list : ListT) {script : List Bool}
    (typed : msg.cType = CType.ctNone) (refused : grants (replyAllocations list) script = false)
    : ∃ rest,
        (handleGetlistbyear msg list).run script = .ok ((msg.setError, list.ordered), rest) := by
  rw [replyAllocations, grants_add] at refused
  rw [handleGetlistbyear, if_neg (by simp [typed]), listOrderByYear_eq, pure_bind]
  dsimp only
  rw [if_neg (by decide), listGetAll]
  simp only [bind_assoc]
  rw [run_bind_of_ok (run_malloc script)]
  cases first : grants 1 script with
  | false => exact ⟨script.drop 1, rfl⟩
  | true =>
      have later : grants (arrayAllocations list.ordered.cars.length) (script.drop 1) = false := by
        simpa [first] using refused
      obtain ⟨long, rest, stopped⟩ := run_dataArrayToPb_refused list.ordered.cars later
      refine ⟨rest, ?_⟩
      rw [if_neg (by simp), pure_bind]
      dsimp only
      rw [run_bind_of_ok stopped]
      dsimp only
      rw [if_pos ⟨rfl, long⟩]
      rfl

end CarChain
