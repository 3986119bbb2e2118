import CarChain.Model.ReadSpecs

/-! Which requests make `invoke` read behind the arrays that unpacking gave them. -/

namespace CarChain

open CRuntime CStandard

variable {Conn : Type}

/-- Handling the message reads its arrays only at indices below their counts. -/
def ReadsWithin (env : ForwardEnv Conn) (msg : MessageT) (list : ListT) (script : List Bool)
    : Prop :=
  (invoke env msg list).run script ≠ .error .outOfBounds

/-- A request for the models that brings models itself, where the reply can be allocated. -/
def BringsModels (msg : MessageT) (list : ListT) (script : List Bool) : Prop :=
  msg.opcode = Opcode.opGetmodels
  ∧ msg.cType = CType.ctNone
  ∧ 0 < msg.nModels
  ∧ grants (1 + list.cars.length) script = true

instance (msg : MessageT) (list : ListT) (script : List Bool)
    : Decidable (BringsModels msg list script) :=
  inferInstanceAs (Decidable (_ ∧ _ ∧ _ ∧ _))

/-- Looking for the terminator of an array without one reads behind its end. -/
theorem countToNull_map_some {α : Type} (items : List α)
    : countToNull (items.map some) = throw .outOfBounds := by
  induction items with
  | nil => rfl
  | cons item rest ih =>
      rw [List.map_cons, countToNull, ih]
      rfl

section

variable {msg : MessageT} (list : ListT) (script : List Bool)

/-- The counted cells of an unpacked message can be freed. -/
theorem freePbDataArray_unpacked (unpacked : msg.Unpacked)
    : freePbDataArray msg.cars msg.nCars = pure () := by
  obtain ⟨cars, counted, cells⟩ := unpacked.cars
  rw [counted, cells]
  unfold countedField
  split
  · rfl
  · simp [freePbDataArray]

theorem firstModel_unpacked (unpacked : msg.Unpacked) : ∃ model, firstModel msg = pure model := by
  obtain ⟨texts, counted, cells⟩ := unpacked.models
  unfold firstModel
  rw [counted, cells]
  cases texts with
  | nil => exact ⟨none, rfl⟩
  | cons text rest => exact ⟨some text, rfl⟩

/-- `list_free_model_list` reads behind the models of an unpacked message, if it has any. -/
theorem listFreeModelList_unpacked (unpacked : msg.Unpacked)
    : listFreeModelList msg.models
      = if 0 < msg.nModels then throw .outOfBounds else pure (-1) := by
  obtain ⟨texts, counted, cells⟩ := unpacked.models
  rw [counted, cells]
  cases texts with
  | nil => rfl
  | cons text rest =>
      rw [countedField, if_neg (by simp), listFreeModelList, countToNull_map_some]
      rfl

/-- The handler ends with a reply. -/
def Replies (action : Mem Handled) (script : List Bool) : Prop :=
  ∃ handled, action.run script = .ok handled

theorem handleDel_replies (unpacked : msg.Unpacked) : Replies (handleDel msg list) script := by
  obtain ⟨model, read⟩ := firstModel_unpacked unpacked
  rcases run_handleDel msg list script with ⟨stopped, -⟩ | ran
  · unfold handleDel at stopped
    rw [read] at stopped
    split at stopped
    · cases stopped
    · cases model with
      | none => cases stopped
      | some modelo =>
          rw [pure_bind] at stopped
          dsimp only at stopped
          split at stopped <;> cases stopped
  · exact ⟨_, ran⟩

theorem handleGet_replies (unpacked : msg.Unpacked) : Replies (handleGet msg list) script := by
  cases carried : msg.data with
  | none => exact ⟨_, by rw [handleGet, carried]; rfl⟩
  | some query =>
      by_cases marca : msg.cType = CType.ctMarca
      · cases found : listGetByMarca list query.marca with
        | none => exact ⟨_, run_handleGet_marca_missing list carried marca found⟩
        | some car =>
            cases granted : grants 2 script with
            | true => exact ⟨_, run_handleGet_marca list carried marca found granted⟩
            | false =>
                obtain ⟨rest, ran⟩ := run_handleGet_marca_refused list carried marca found granted
                exact ⟨_, ran⟩
      · by_cases year : msg.cType = CType.ctYear
        · cases granted : grants (yearAllocations list query.ano) script with
          | true =>
              have ran := run_handleGet_year list carried year granted
              rw [freePbDataArray_unpacked unpacked] at ran
              exact ⟨_, ran⟩
          | false =>
              obtain ⟨rest, ran⟩ := run_handleGet_year_refused list carried year granted
              exact ⟨_, ran⟩
        · exact ⟨((msg.setError, list), script), by simp [handleGet, carried, marca, year]⟩

theorem handleGetlistbyear_replies (unpacked : msg.Unpacked)
    : Replies (handleGetlistbyear msg list) script := by
  by_cases typed : msg.cType = CType.ctNone
  · cases granted : grants (replyAllocations list) script with
    | true =>
        rcases run_handleGetlistbyear list typed granted with ⟨-, cells, carried, short⟩ | ran
        · have freed := freePbDataArray_unpacked unpacked
          rw [carried, freePbDataArray, if_pos short] at freed
          exact absurd (congrArg (fun action => action.run []) freed) (by simp)
        · exact ⟨_, ran⟩
    | false =>
        obtain ⟨rest, ran⟩ := run_handleGetlistbyear_refused list typed granted
        exact ⟨_, ran⟩
  · exact ⟨_, run_handleGetlistbyear_mistyped list script typed⟩

theorem handleSize_replies : Replies (handleSize msg list) script := by
  unfold handleSize
  split
  · exact ⟨_, rfl⟩
  · dsimp only
    split <;> exact ⟨_, rfl⟩

/-- A request for the models reads behind those it brings, and replies otherwise. -/
theorem handleGetmodels_cases (unpacked : msg.Unpacked) (opcode : msg.opcode = Opcode.opGetmodels)
    : BringsModels msg list script ∧ (handleGetmodels msg list).run script = .error .outOfBounds
      ∨ ¬BringsModels msg list script ∧ Replies (handleGetmodels msg list) script := by
  by_cases typed : msg.cType = CType.ctNone
  · cases granted : grants (1 + list.cars.length) script with
    | true =>
        have ran := run_handleGetmodels list typed granted
        rw [listFreeModelList_unpacked unpacked] at ran
        by_cases brings : 0 < msg.nModels
        · rw [if_pos brings] at ran
          exact .inl ⟨⟨opcode, typed, brings, granted⟩, ran⟩
        · rw [if_neg brings] at ran
          exact .inr ⟨fun h => brings h.2.2.1, _, ran⟩
    | false =>
        obtain ⟨rest, ran⟩ := @run_handleGetmodels_refused msg list script (.inr granted)
        exact .inr ⟨fun h => absurd (granted.symm.trans h.2.2.2) (by simp), _, ran⟩
  · obtain ⟨rest, ran⟩ := @run_handleGetmodels_refused msg list script (.inl typed)
    exact .inr ⟨fun h => typed h.2.1, _, ran⟩

/-- Every other request gets a reply, by the cases of the switch. -/
theorem dispatch_cases (unpacked : msg.Unpacked)
    : BringsModels msg list script ∧ (dispatch msg list).run script = .error .outOfBounds
      ∨ ¬BringsModels msg list script ∧ Replies (dispatch msg list) script := by
  by_cases getmodels : msg.opcode = Opcode.opGetmodels
  · rw [dispatch_getmodels list getmodels]
    exact handleGetmodels_cases list script unpacked getmodels
  · refine .inr ⟨fun h => getmodels h.1, ?_⟩
    unfold dispatch
    split
    · obtain ⟨rest, ran⟩ := run_handleAdd msg list script
      exact ⟨_, ran⟩
    · split
      · exact handleGet_replies list script unpacked
      · split
        · exact handleGetlistbyear_replies list script unpacked
        · split
          · exact handleDel_replies list script unpacked
          · split
            · exact handleSize_replies list script
            · exact ⟨_, rfl⟩

/-- Forwarding reads no array of the request. -/
theorem zkForward_ne_outOfBounds (env : ForwardEnv Conn) (msg : MessageT)
    : zkForward env (some msg) ≠ .error .outOfBounds := by
  by_cases answered : env.Answered msg
  · rcases zkForward_of_answered answered with ⟨returned, -⟩ | ⟨returned, -⟩ <;> simp [returned]
  · simp [zkForward_of_unanswered answered]

/-- Handling an unpacked message stays within its arrays exactly when it is not a request for
the models that brings models itself and whose reply can be allocated.
-/
theorem readsWithin_iff (env : ForwardEnv Conn) (unpacked : msg.Unpacked)
    : ReadsWithin env msg list script ↔ ¬BringsModels msg list script := by
  unfold ReadsWithin
  rcases dispatch_cases list script unpacked with
    ⟨brings, stopped⟩ | ⟨within, ⟨⟨reply, after⟩, rest⟩, handled⟩
  · simp [brings, run_invoke_fault env stopped]
  · simp only [within, not_false_eq_true, iff_true]
    cases forwarded : mustForward msg reply with
    | false => simp [run_invoke_kept env handled forwarded]
    | true =>
        rw [run_invoke_forwarded env handled forwarded]
        have inside := zkForward_ne_outOfBounds env msg
        cases sent : zkForward env (some msg) with
        | ok code => simp
        | error fault =>
            intro h
            cases h
            exact inside sent

end

/-- A request for the models that brings one. -/
def modelsRequest : MessageT :=
  {
    MessageT.init with
    opcode := Opcode.opGetmodels
    cType := CType.ctNone
    nModels := 1
    models := some [some (clio 2020).modelo]
  }

theorem modelsRequest_unpacked : modelsRequest.Unpacked where
  models := ⟨[(clio 2020).modelo], rfl, rfl⟩
  cars := ⟨[], rfl, rfl⟩
  data data absent := by cases absent

theorem readsWithin_iff_refused
    : ReadsWithin ForwardEnv.alone modelsRequest listCreate [false]
      ↔ ¬BringsModels modelsRequest listCreate [false] :=
  readsWithin_iff listCreate [false] .alone modelsRequest_unpacked

/-- On an empty list it makes `list_free_model_list` read the cell behind that one. -/
theorem invoke_reads_behind_models
    : modelsRequest.Unpacked ∧ ¬ReadsWithin ForwardEnv.alone modelsRequest listCreate [] :=
  ⟨modelsRequest_unpacked, fun within => within rfl⟩

end CarChain
