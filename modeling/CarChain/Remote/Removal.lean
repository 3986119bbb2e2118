import CarChain.Model.HandlerSpecs
import CarChain.Model.Stub

/-! The result of `rlist_remove_by_model` on its way from the list to the client. -/

namespace CarChain

open CRuntime CStandard

/-- The replies to a request to remove a car. -/
def delSuccess (modelo : CString) : MessageT :=
  { delRequest modelo with result := 0 }.setSuccess CType.ctResult

def delError (modelo : CString) : MessageT := (delRequest modelo).setError

/-- A codec delivers a request to remove a car and its replies. -/
structure Protobuf.DeliversDel (pb : Protobuf) (modelo : CString) : Prop where
  request : pb.Delivers (delRequest modelo)
  success : pb.Delivers (delSuccess modelo)
  error : pb.Delivers (delError modelo)

/-- What the client is promised of a removal that reached the server: 0 and the list without
its first car of that model, or 1 and the same list when it has none.
-/
def RemovePromise (list : ListT) (modelo : CString) (result : Int32) (after : ListT) : Prop :=
  (∃ front car later,
    list.cars = front ++ car :: later
    ∧ (∀ other ∈ front, other.modelo ≠ modelo)
    ∧ car.modelo = modelo
    ∧ result = 0
    ∧ after.cars = front ++ later)
  ∨ ¬HasModel list modelo ∧ result = 1 ∧ after = list

/-- The contract of `rlist_remove_by_model` on a single server: the promise holds, or the
client could not allocate its request, returned −1 and nothing happened.
-/
def RemoveContract (pb : Protobuf) (list : ListT) (modelo : CString) (script : List Bool) : Prop :=
  ∃ result after rest,
    ((rlistRemoveByModel (exchange pb) (some modelo)).run list).run script
      = .ok ((result, after), rest)
    ∧ if grants 2 script then RemovePromise list modelo result after
      else result = -1 ∧ after = list

section

variable {pb : Protobuf} {modelo : CString} {list : ListT} {script : List Bool}

/-- The server answers a request to remove a car with success when it has such a car. -/
theorem run_exchange_delRequest (delivers : pb.DeliversDel modelo)
    : ((exchange pb (delRequest modelo)).run list).run script
      = .ok
          (
            if HasModel list modelo then
              (some (delSuccess modelo).decoded, (listRemoveByModel list modelo).1)
            else
              (some (delError modelo).decoded, list),
            script
          ) := by
  have asked : carried pb (delRequest modelo) = some (delRequest modelo) :=
    delivers.request.carried_eq
  rcases run_handleDel (delRequest modelo) list script with ⟨-, absent⟩ | handled
  · cases absent
  · have named : requestedModel (delRequest modelo) = some modelo := rfl
    rw [named] at handled
    dsimp only at handled
    rw [← dispatch_del list rfl] at handled
    by_cases found : HasModel list modelo
    · rw [if_pos found] at handled ⊢
      rw [run_exchange asked handled, ← delivers.success.carried_eq]
      rfl
    · rw [if_neg found] at handled ⊢
      rw [run_exchange asked handled, ← delivers.error.carried_eq]
      rfl

/-- The stub returns what the reply says when the request was allocated. -/
theorem run_rlistRemoveByModel (delivers : pb.DeliversDel modelo)
    (granted : grants 2 script = true)
    : ((rlistRemoveByModel (exchange pb) (some modelo)).run list).run script
      = .ok
          (
            if HasModel list modelo then (0, (listRemoveByModel list modelo).1) else (-1, list),
            script.drop 2
          ) := by
  have two : grants 1 script = true ∧ grants 1 (script.drop 1) = true := by
    simpa [grants_add 1 1] using granted
  have built : (strdup modelo).run (script.drop 1) = .ok (some modelo, script.drop 2) := by
    simpa using strdup_allocates.granted modelo two.2
  have exchanged :=
    @run_exchange_delRequest pb modelo list (script.drop 2) delivers
  rw [rlistRemoveByModel, run_net_bind (run_net_lift (run_malloc script)), two.1, if_neg (by simp),
    run_net_bind (run_net_lift built)]
  dsimp only
  by_cases found : HasModel list modelo
  · rw [if_pos found] at exchanged ⊢
    rw [run_net_bind exchanged]
    rfl
  · rw [if_neg found] at exchanged ⊢
    rw [run_net_bind exchanged]
    rfl

/-- Without memory for the request nothing is exchanged. -/
theorem run_rlistRemoveByModel_refused (refused : grants 2 script = false)
    : ∃ rest,
        ((rlistRemoveByModel (exchange pb) (some modelo)).run list).run script
          = .ok ((-1, list), rest) := by
  rw [rlistRemoveByModel, run_net_bind (run_net_lift (run_malloc script))]
  cases first : grants 1 script with
  | false => exact ⟨script.drop 1, rfl⟩
  | true =>
      have second : grants 1 (script.drop 1) = false := by
        simpa [grants_add 1 1, first] using refused
      obtain ⟨rest, unbuilt⟩ := strdup_allocates.refused modelo second
      exact ⟨rest, by rw [if_neg (by simp), run_net_bind (run_net_lift unbuilt)]; rfl⟩

/-- The contract is kept exactly when some car has the model, or the client cannot allocate
its request.
-/
theorem removeContract_iff (delivers : pb.DeliversDel modelo)
    : RemoveContract pb list modelo script ↔ HasModel list modelo ∨ grants 2 script = false := by
  unfold RemoveContract
  cases granted : grants 2 script with
  | false =>
      obtain ⟨rest, ran⟩ := @run_rlistRemoveByModel_refused pb modelo list script granted
      simp only [Bool.false_eq_true, if_false, or_true, iff_true]
      exact ⟨-1, list, rest, ran, rfl, rfl⟩
  | true =>
      have ran := @run_rlistRemoveByModel pb modelo list script delivers granted
      simp only [if_true, Bool.true_eq_false, or_false]
      constructor
      · intro h
        obtain ⟨result, after, rest, returned, promise⟩ := h
        by_contra missing
        rw [ran, if_neg missing] at returned
        cases returned
        rcases promise with ⟨front, car, later, split, -, same, -⟩ | ⟨-, one, -⟩
        · exact missing ⟨car, by simp [split], same⟩
        · exact absurd one (by decide)
      · intro found
        rw [if_pos found] at ran
        refine ⟨0, (listRemoveByModel list modelo).1, _, ran, .inl ?_⟩
        rcases split_at_first (fun car : DataT => car.modelo = modelo) list.cars with
          ⟨front, car, later, split, differ, same⟩ | missing
        · exact ⟨front, car, later, split, differ, same, rfl,
            (listRemoveByModel_first split differ same).2⟩
        · obtain ⟨car, member, same⟩ := found
          exact absurd same (missing car member)

end

/-- The bytes of a request to remove a Clio and of its replies. -/
def clioRemoval : Protobuf :=
  .table
    [(delRequest (clio 2020).modelo, [8, 30, 16, 40, 58, 4, 67, 108, 105, 111]),
      (delSuccess (clio 2020).modelo, [8, 31, 16, 50, 58, 4, 67, 108, 105, 111]),
      (delError (clio 2020).modelo, [8, 99, 16, 70, 58, 4, 67, 108, 105, 111])]

theorem clioRemoval_delivers : clioRemoval.DeliversDel (clio 2020).modelo :=
  ⟨by decide, by decide, by decide⟩

/-- The first of two cars of the model is the one removed. -/
theorem removeContract_iff_two
    : HasModel ⟨[clio 2020, clio 2010], 2, rfl⟩ (clio 2020).modelo
      ∧ RemoveContract clioRemoval ⟨[clio 2020, clio 2010], 2, rfl⟩ (clio 2020).modelo [] :=
  ⟨by decide, (removeContract_iff clioRemoval_delivers).mpr (.inl (by decide))⟩

/-- Without such a car the client gets −1, although the exchange succeeded. -/
theorem not_removeContract_empty
    : ¬RemoveContract clioRemoval listCreate (clio 2020).modelo [] := by
  intro h
  obtain ⟨result, after, rest, returned, promise⟩ := h
  rw [run_rlistRemoveByModel clioRemoval_delivers rfl] at returned
  simp only [grants_nil, if_true] at promise
  cases returned
  rcases promise with ⟨front, car, later, split, -⟩ | ⟨-, one, -⟩
  · simp [listCreate] at split
  · exact absurd one (by decide)

end CarChain
