import CarChain.Model.HandlerSpecs
import CarChain.Model.Stub

/-! What `rlist_order_by_year` does with each reply it can get. -/

namespace CarChain

open CRuntime CStandard

/-- The reply says that the list was ordered. -/
def ReportsOrder (reply : Option MessageT) : Prop :=
  ∃ msg, reply = some msg ∧ msg.opcode = Opcode.opGetlistbytear + 1

/-- The call ends without a fault, returns 0 for a reply of success and −1 for every other
one, and on success has printed each car of the reply once, in order.
-/
def OrderContract (reply : Option MessageT) (script : List Bool) : Prop :=
  ∃ code printed rest,
    ((rlistOrderByYear (fun _ => pure reply)).run ()).run script
      = .ok (((code, printed), ()), rest)
    ∧ (code = 0 ↔ ReportsOrder reply)
    ∧ (code = 0 ∨ code = -1)
    ∧ ∀ msg,
        reply = some msg
        → msg.opcode = Opcode.opGetlistbytear + 1
        → msg.nCars = printed.length ∧ msg.cars = pbCells printed

/-- Without a reply there is nothing to print. -/
theorem orderContract_none (script : List Bool) : OrderContract none script := by
  refine ⟨-1, [], script, rfl, ?_, .inr rfl, by simp⟩
  simp [ReportsOrder]

section

variable {msg : MessageT} {cars : List DataT} {script : List Bool}

/-- The cars of a reply are printed when they can all be converted. -/
theorem orderContract_cars (counted : msg.nCars = cars.length) (cells : msg.cars = pbCells cars)
    (nonempty : cars ≠ []) (granted : grants (arrayAllocations cars.length) script = true)
    : OrderContract (some msg) script := by
  have converted := run_pbToDataArray cars nonempty granted
  refine ⟨if msg.opcode = Opcode.opGetlistbytear + 1 then 0 else -1, cars,
    script.drop (arrayAllocations cars.length), ?_, ?_, ?_, ?_⟩
  · rw [rlistOrderByYear, pure_bind]
    dsimp only
    rw [cells, counted, run_net_bind (run_net_lift converted)]
    simp
  · by_cases success : msg.opcode = Opcode.opGetlistbytear + 1 <;> simp [ReportsOrder, success]
  · by_cases success : msg.opcode = Opcode.opGetlistbytear + 1 <;> simp [success]
  · rintro _ ⟨⟩ -
    exact ⟨counted, cells⟩

/-- When the array is NULL, for want of cars or of memory, the loop dereferences it. -/
theorem run_rlistOrderByYear_fault {rest : List Bool}
    (unconverted : (pbToDataArray msg.cars msg.nCars).run script = .ok (none, rest))
    : ((rlistOrderByYear (fun _ => pure (some msg))).run ()).run script
      = .error .nullDereference := by
  rw [rlistOrderByYear, pure_bind]
  dsimp only
  rw [run_net_bind (run_net_lift unconverted)]
  rfl

theorem not_orderContract {rest : List Bool}
    (unconverted : (pbToDataArray msg.cars msg.nCars).run script = .ok (none, rest))
    : ¬OrderContract (some msg) script := by
  intro h
  obtain ⟨code, printed, left, returned, -⟩ := h
  rw [run_rlistOrderByYear_fault unconverted] at returned
  cases returned

end

/-- The call keeps its contract exactly when there is no reply, or the reply carries cars and
the memory for all of them is granted.
-/
theorem orderContract_iff {reply : Option MessageT} {script : List Bool}
    (unpacked : ∀ msg, reply = some msg → msg.Unpacked)
    : OrderContract reply script
      ↔ reply = none
        ∨ ∃ msg,
            reply = some msg
            ∧ 0 < msg.nCars
            ∧ grants (arrayAllocations msg.nCars) script = true := by
  cases reply with
  | none => simp [orderContract_none]
  | some msg =>
      obtain ⟨cars, counted, cells⟩ := (unpacked msg rfl).cars
      rw [← pbCells_eq] at cells
      simp only [Option.some.injEq, exists_eq_left', reduceCtorEq, false_or]
      rw [counted]
      by_cases empty : cars = []
      · have unconverted : (pbToDataArray msg.cars msg.nCars).run script = .ok (none, script) := by
          rw [cells, empty]
          rfl
        simp [not_orderContract unconverted, empty]
      · cases granted : grants (arrayAllocations cars.length) script with
        | true =>
            simp [orderContract_cars counted cells empty granted, List.length_pos_iff.mpr empty]
        | false =>
            obtain ⟨rest, unconverted⟩ := run_pbToDataArray_refused cars granted
            rw [← cells, ← counted] at unconverted
            simp [not_orderContract unconverted]

/-- The reply of success that carries these cars. -/
def orderedReply (cars : List DataT) : MessageT := getlistbyearRequest.withCars cars

theorem orderedReply_unpacked (cars : List DataT) : (orderedReply cars).Unpacked where
  models := ⟨[], rfl, rfl⟩
  cars := ⟨cars, rfl, pbCells_eq cars⟩
  data data absent := by cases absent

theorem orderContract_iff_two
    : OrderContract (some (orderedReply [clio 2010, clio 2020])) []
      ↔ some (orderedReply [clio 2010, clio 2020]) = none
        ∨ ∃ msg,
            some (orderedReply [clio 2010, clio 2020]) = some msg
            ∧ 0 < msg.nCars
            ∧ grants (arrayAllocations msg.nCars) [] = true :=
  orderContract_iff (fun _ same => Option.some.inj same ▸ orderedReply_unpacked _)

/-- What the server answers for an empty list makes the call dereference a NULL array. -/
theorem orderContract_empty
    : (handleGetlistbyear getlistbyearRequest listCreate).run []
        = .ok ((orderedReply [], listCreate), [])
      ∧ (orderedReply []).Unpacked
      ∧ ¬OrderContract (some (orderedReply [])) [] := by
  refine ⟨by decide, orderedReply_unpacked [], ?_⟩
  exact not_orderContract (show (pbToDataArray none 0).run [] = .ok (none, []) from rfl)

end CarChain
