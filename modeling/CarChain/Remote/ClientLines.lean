import CarChain.Remote.ClientRequests
import CarChain.Remote.Equality
import CarChain.Remote.OrderedReplies
import CarChain.Remote.Removal

/-! The lines of the client program over its stub (`list_client.c`, `client_stub.c`), with the list
that a single server keeps for it.
-/

namespace CarChain

open CRuntime CStandard

-----------------------------------------------------------------------------------------
-- The list behind the program
-----------------------------------------------------------------------------------------

/-- The calls of the stub that commands make. -/
inductive StubCall where
  | plain (op : ListOp)
  | removeByModel (modelo : CString)
  | orderByYear
  deriving DecidableEq

namespace StubCall

/-- The list after the call. -/
def after (list : ListT) : StubCall → ListT
  | .plain op => op.after list
  | .removeByModel modelo => (listRemoveByModel list modelo).1
  | .orderByYear => list.ordered

/-- The messages of the call fit in frames and unpack to what was packed. -/
def Carried (pb : Protobuf) (list : ListT) : StubCall → Prop
  | .plain op => op.Carried pb list
  | .removeByModel modelo => pb.DeliversDel modelo
  | .orderByYear =>
      pb.Delivers getlistbyearRequest ∧ pb.Delivers (orderedReply list.ordered.cars)

end StubCall

/-- The functions of `list.h` on a list of the program's own. Ordering it is followed by reading
its cars, which the stub prints.
-/
def listOps : RemoteOps ListT where
  add
    | none => return -1
    | some car => do
        let (list, code) ← (listAdd (← get) car : Mem _)
        set list
        return code
  getByMarca marca := return listGetByMarca (← get) marca
  getByYear ano := do return ← (listGetByYear (← get) ano : Mem _)
  getModelList := do return ← (listGetModelList (← get) : Mem _)
  orderByYear := do
    let (list, code) ← (listOrderByYear (← get) : Mem _)
    set list
    return (code, list.cars)
  removeByModel
    | none => return -1
    | some modelo => do
        let (list, code) := listRemoveByModel (← get) modelo
        set list
        return code
  size := return listSize (← get)

/-- What the functions of the stub come to with a single server. They are those of `list.h` on its
list but for two: a removal that finds no such model fails, and the client does not live to
print the cars of an empty list.
-/
def servedOps : RemoteOps ListT :=
  {
    listOps with
    orderByYear := do
      let (list, code) ← (listOrderByYear (← get) : Mem _)
      set list
      if list.cars = [] then throw .nullDereference
      return (code, list.cars)
    removeByModel
      | none => return -1
      | some modelo => do
          let (list, code) := listRemoveByModel (← get) modelo
          set list
          return if code = 1 then -1 else code
  }

/-- The call that a command makes on its words, when they are as it wants them. -/
def callOf (atof : CString → UInt32) : Command → List CString → Option StubCall
  | .commandAdd, [modelo, ano, preco, marca, combustivel] =>
      if atoi marca < 0 ∨ 4 < atoi marca then none
      else if atoi combustivel < 0 ∨ 3 < atoi combustivel then none
      else
        some (.plain (.add (some ⟨atoi ano, atof preco, atoi marca, modelo, atoi combustivel⟩)))
  | .commandGetByMarca, [marca] =>
      if atoi marca < 0 ∨ 4 < atoi marca then none else some (.plain (.getByMarca (atoi marca)))
  | .commandGetByYear, [year] => some (.plain (.getByYear (atoi year)))
  | .commandGetModelList, _ => some (.plain .getModelList)
  | .commandGetListOrderedByYear, _ => some .orderByYear
  | .commandRemove, [modelo] => some (.removeByModel modelo)
  | .commandSize, _ => some (.plain .size)
  | _, _ => none

/-- The call that the words of a line make. -/
def lineCall (atof : CString → UInt32) (argv : List (List UInt8)) : Option StubCall := do
  let (command, args) ← dispatchCommand argv
  callOf atof command (args.map argument)

/-- The list that the words of a line leave. -/
def lineAfter (atof : CString → UInt32) (list : ListT) (argv : List (List UInt8)) : ListT :=
  ((lineCall atof argv).map (StubCall.after list)).getD list

/-- The calls of these lines are carried, each on the list that those before it leave. -/
def LinesCarried (pb : Protobuf) (atof : CString → UInt32)
    : ListT → List (List (List UInt8)) → Prop
  | _, [] => True
  | list, argv :: later =>
      (∀ call, lineCall atof argv = some call → call.Carried pb list)
      ∧ LinesCarried pb atof (lineAfter atof list argv) later

/-- Two computations end in the same way: with the same value and over this list, or with the
same fault.
-/
def EndsAlike {α : Type} (left right : Net ListT α) (list after : ListT) : Prop :=
  ∃ outcome : Except Fault α,
    (left.run list).run [] = outcome.map (fun value => ((value, after), []))
    ∧ (right.run list).run [] = outcome.map (fun value => ((value, after), []))

section

variable {α β : Type} {left right : Net ListT α} {list between after : ListT}

theorem EndsAlike.pure (value : α) (list : ListT)
    : EndsAlike (Pure.pure value) (Pure.pure value) list list :=
  ⟨.ok value, rfl, rfl⟩

theorem EndsAlike.bind (first : EndsAlike left right list between)
    {next next' : α → Net ListT β}
    (second : ∀ value, EndsAlike (next value) (next' value) between after)
    : EndsAlike (left >>= next) (right >>= next') list after := by
  obtain ⟨outcome, ranLeft, ranRight⟩ := first
  cases outcome with
  | error fault =>
      refine ⟨.error fault, ?_, ?_⟩
      · rw [StateT.run_bind, StateT.run_bind, ranLeft]
        rfl
      · rw [StateT.run_bind, StateT.run_bind, ranRight]
        rfl
  | ok value =>
      obtain ⟨outcome, ranNext, ranNext'⟩ := second value
      exact ⟨outcome, (run_net_bind ranLeft).trans ranNext, (run_net_bind ranRight).trans ranNext'⟩

/-- A first part that returns is followed by second parts that end alike. -/
theorem EndsAlike.behind {action : Net ListT α} {value : α}
    (ran : (action.run list).run [] = .ok ((value, between), []))
    {next next' : α → Net ListT β}
    (second : EndsAlike (next value) (next' value) between after)
    : EndsAlike (action >>= next) (action >>= next') list after := by
  obtain ⟨outcome, ranNext, ranNext'⟩ := second
  exact ⟨outcome, (run_net_bind ran).trans ranNext, (run_net_bind ran).trans ranNext'⟩

/-- Counting takes no memory, by induction on the cells. -/
theorem run_countToNull (cells : List (Option α))
    : ∃ outcome : Except Fault Nat,
        (countToNull cells).run [] = outcome.map (fun count => (count, [])) := by
  induction cells with
  | nil => exact ⟨.error .outOfBounds, rfl⟩
  | cons cell rest ih =>
      cases cell with
      | none => exact ⟨.ok 0, rfl⟩
      | some item =>
          obtain ⟨outcome, ran⟩ := ih
          refine ⟨outcome.map (· + 1), ?_⟩
          rw [countToNull, StateT.run_bind, ran]
          cases outcome <;> rfl

/-- A part of a command that looks at no list ends alike on both sides. -/
theorem EndsAlike.countToNull (cells : List (Option α)) (list : ListT)
    : EndsAlike (liftM (CRuntime.countToNull cells) : Net ListT Nat)
        (liftM (CRuntime.countToNull cells)) list list := by
  obtain ⟨outcome, ran⟩ := run_countToNull cells
  have lifted : ((liftM (CRuntime.countToNull cells) : Net ListT Nat).run list).run []
      = outcome.map (fun count => ((count, list), [])) := by
    change StateT.run (CRuntime.countToNull cells >>= fun count => Pure.pure (count, list)) [] = _
    rw [StateT.run_bind, ran]
    cases outcome <;> rfl
  exact ⟨outcome, lifted, lifted⟩

/-- What a mapped computation returns is mapped. -/
theorem run_of_run_map {f : α → β} {mapped : β}
    (ran : ((f <$> left).run list).run [] = .ok ((mapped, after), []))
    : ∃ value, f value = mapped ∧ (left.run list).run [] = .ok ((value, after), []) := by
  rw [map_eq_pure_bind, StateT.run_bind] at ran
  obtain ⟨⟨value, between⟩, script, ranLeft, returned⟩ := run_bind_eq_ok.mp ran
  cases returned
  exact ⟨value, rfl, ranLeft⟩

/-- Computations whose results are told apart end alike when their results do. -/
theorem EndsAlike.of_map {f : α → β} (apart : Function.Injective f) {outcome : β}
    (ranLeft : ((f <$> left).run list).run [] = .ok ((outcome, after), []))
    (ranRight : ((f <$> right).run list).run [] = .ok ((outcome, after), []))
    : EndsAlike left right list after := by
  obtain ⟨value, same, ranLeft⟩ := run_of_run_map ranLeft
  obtain ⟨value', same', ranRight⟩ := run_of_run_map ranRight
  obtain rfl := apart (same.trans same'.symm)
  exact ⟨.ok value, ranLeft, ranRight⟩

end

section

variable {pb : Protobuf} {list : ListT}

theorem endsAlike_add {car : Option DataT} (carried : (ListOp.add car).Carried pb list)
    : EndsAlike ((stubs (exchange pb) (exchange pb)).add car) (servedOps.add car) list
        ((ListOp.add car).after list) := by
  obtain ⟨outcome, remote, here⟩ := ListOp.run_viaServer carried
  refine .of_map (f := Outcome.code) (fun _ _ same => Outcome.code.inj same) remote ?_
  cases car with
  | none => exact here
  | some car => exact here

theorem endsAlike_getByMarca {marca : Int32} (carried : (ListOp.getByMarca marca).Carried pb list)
    : EndsAlike ((stubs (exchange pb) (exchange pb)).getByMarca marca) (servedOps.getByMarca marca)
        list list := by
  obtain ⟨outcome, remote, here⟩ := ListOp.run_viaServer carried
  exact .of_map (f := Outcome.car) (fun _ _ same => Outcome.car.inj same) remote here

theorem endsAlike_getByYear {ano : Int32} (carried : (ListOp.getByYear ano).Carried pb list)
    : EndsAlike ((stubs (exchange pb) (exchange pb)).getByYear ano) (servedOps.getByYear ano)
        list list := by
  obtain ⟨outcome, remote, here⟩ := ListOp.run_viaServer carried
  exact .of_map (f := Outcome.cars) (fun _ _ same => Outcome.cars.inj same) remote here

theorem endsAlike_getModelList (carried : ListOp.getModelList.Carried pb list)
    : EndsAlike (stubs (exchange pb) (exchange pb)).getModelList servedOps.getModelList list
        list := by
  obtain ⟨outcome, remote, here⟩ := ListOp.run_viaServer carried
  exact .of_map (f := Outcome.models) (fun _ _ same => Outcome.models.inj same) remote here

theorem endsAlike_size (carried : ListOp.size.Carried pb list)
    : EndsAlike (stubs (exchange pb) (exchange pb)).size servedOps.size list list := by
  obtain ⟨outcome, remote, here⟩ := ListOp.run_viaServer carried
  exact .of_map (f := Outcome.code) (fun _ _ same => Outcome.code.inj same) remote here

/-- A removal that finds a car returns 0. -/
theorem listRemoveByModel_code {modelo : CString} (found : HasModel list modelo)
    : (listRemoveByModel list modelo).2 = 0 := by
  unfold listRemoveByModel
  split
  · rfl
  · rename_i missing
    have unlinks := (unlinkFirst_isSome modelo list.cars).mpr found
    rw [missing] at unlinks
    cases unlinks

theorem run_removeByModel_own (modelo : CString)
    : ((listOps.removeByModel (some modelo)).run list).run []
      = .ok (((listRemoveByModel list modelo).2, (listRemoveByModel list modelo).1), []) :=
  rfl

theorem run_removeByModel_served (modelo : CString)
    : ((servedOps.removeByModel (some modelo)).run list).run []
      = .ok
          (
            (
              if (listRemoveByModel list modelo).2 = 1 then -1
              else (listRemoveByModel list modelo).2,
              (listRemoveByModel list modelo).1
            ),
            []
          ) :=
  rfl

theorem endsAlike_removeByModel {modelo : CString} (delivers : pb.DeliversDel modelo)
    : EndsAlike ((stubs (exchange pb) (exchange pb)).removeByModel (some modelo))
        (servedOps.removeByModel (some modelo)) list (listRemoveByModel list modelo).1 := by
  have remote := @run_rlistRemoveByModel pb modelo list [] delivers (grants_nil 2)
  have here := @run_removeByModel_served list modelo
  by_cases found : HasModel list modelo
  · rw [if_pos found] at remote
    rw [listRemoveByModel_code found, if_neg (by decide)] at here
    exact ⟨.ok 0, remote, here⟩
  · have kept : listRemoveByModel list modelo = (list, 1) :=
      listRemoveByModel_missing found
    rw [if_neg found] at remote
    rw [kept, if_pos rfl] at here
    rw [kept]
    exact ⟨.ok (-1), remote, here⟩

/-- A list of the program's own is ordered, and all its cars are printed. -/
theorem run_orderByYear_own
    : (listOps.orderByYear.run list).run [] = .ok (((0, list.ordered.cars), list.ordered), []) := by
  have sorted : (listOrderByYear list).run [] = .ok ((list.ordered, 0), []) := by
    rw [listOrderByYear_eq]
    rfl
  have lifted := @run_net_lift ListT _ list _ _ _ _ sorted
  simp only [listOps, StateT.run_bind, StateT.run_get, pure_bind, lifted]
  rfl

/-- With a server the list is ordered, and its cars are printed if there are any. -/
theorem run_orderByYear_eq
    : (servedOps.orderByYear.run list).run []
      = ((if list.ordered.cars = [] then throw .nullDereference
          else Pure.pure (0, list.ordered.cars) : Net ListT _).run list.ordered).run [] := by
  have sorted : (listOrderByYear list).run [] = .ok ((list.ordered, 0), []) := by
    rw [listOrderByYear_eq]
    rfl
  have lifted : ((liftM (listOrderByYear list) : Net ListT _).run list).run []
      = .ok (((list.ordered, 0), list), []) := run_net_lift sorted
  simp only [servedOps, StateT.run_bind, StateT.run_get, pure_bind, lifted, ok_bind]
  show StateT.run (StateT.run (if list.ordered.cars = [] then _ else _) list.ordered) [] = _
  split <;> rfl

theorem run_orderByYear_empty (empty : list.ordered.cars = [])
    : (servedOps.orderByYear.run list).run [] = .error .nullDereference := by
  rw [run_orderByYear_eq, if_pos empty]
  rfl

theorem run_orderByYear (filled : list.ordered.cars ≠ [])
    : (servedOps.orderByYear.run list).run []
      = .ok (((0, list.ordered.cars), list.ordered), []) := by
  rw [run_orderByYear_eq, if_neg filled]
  rfl

/-- An ordered list has no cars when the list had none. -/
theorem ListT.cars_of_ordered_eq_nil (list : ListT) : list.ordered.cars = [] ↔ list.cars = [] := by
  rw [← List.length_eq_zero_iff, ListT.ordered_length, List.length_eq_zero_iff]

/-- The loop of `rlist_order_by_year` over an array, behind a reply of success. -/
def printArray : Option (List (Option DataT)) → Net ListT (Int32 × List DataT)
  | none => throw .nullDereference
  | some array => do
      let count ← (countToNull array : Mem Nat)
      return (0, (array.take count).filterMap id)

/-- The cars of a reply are printed in order, or there are none and the array is NULL. -/
theorem endsAlike_orderByYear
    (carried
      : pb.Delivers getlistbyearRequest ∧ pb.Delivers (orderedReply list.ordered.cars))
    : EndsAlike (stubs (exchange pb) (exchange pb)).orderByYear servedOps.orderByYear list
        list.ordered := by
  obtain ⟨asked, answered⟩ := carried
  have handled : (dispatch getlistbyearRequest list).run []
      = .ok ((orderedReply list.ordered.cars, list.ordered), []) := by
    rcases @run_handleGetlistbyear getlistbyearRequest list [] rfl (grants_nil _) with
      ⟨-, cells, absent, -⟩ | ran
    · cases absent
    · rw [dispatch_getlistbyear list rfl, ran, List.drop_nil]
      rfl
  have exchanged := run_exchange asked.carried_eq handled
  rw [answered.carried_eq] at exchanged
  have cells : (orderedReply list.ordered.cars).decoded.cars = pbCells list.ordered.cars := by
    rw [pbCells_eq]
    exact decodedCells_pbCells list.ordered.cars
  have asks : ((stubs (exchange pb) (exchange pb)).orderByYear.run list).run []
      = ((liftM (pbToDataArray (pbCells list.ordered.cars) list.ordered.cars.length)
            >>= printArray).run list.ordered).run [] := by
    rw [← cells]
    exact run_net_bind exchanged
  by_cases empty : list.ordered.cars = []
  · rw [empty] at asks
    exact ⟨.error .nullDereference, asks, run_orderByYear_empty empty⟩
  · have converted := @run_pbToDataArray list.ordered.cars empty [] (grants_nil _)
    rw [List.drop_nil] at converted
    have ordered := run_orderByYear empty
    rw [run_net_bind (run_net_lift converted)] at asks
    generalize list.ordered.cars = cars at asks ordered ⊢
    have printed : ((nullTerminated cars).take cars.length).filterMap id = cars := by simp
    refine ⟨.ok (0, cars), asks.trans ?_, ordered⟩
    simp only [printArray, countToNull_nullTerminated]
    rw [run_net_bind (run_net_lift rfl), printed]
    rfl

variable (atof : CString → UInt32)

/-- A command whose call is carried ends alike with a server and with a list of its own. -/
theorem endsAlike_runCommand {args : List CString} (command : Command)
    (carried : ∀ call, callOf atof command args = some call → call.Carried pb list)
    : EndsAlike (runCommand (stubs (exchange pb) (exchange pb)) atof args command)
        (runCommand servedOps atof args command) list
        (((callOf atof command args).map (StubCall.after list)).getD list) := by
  cases command with
  | commandAdd =>
      match args with
      | [] | [_] | [_, _] | [_, _, _] | [_, _, _, _] | _ :: _ :: _ :: _ :: _ :: _ :: _ =>
          exact .pure _ list
      | [modelo, ano, preco, marca, combustivel] =>
          simp only [runCommand, commandAdd, callOf] at carried ⊢
          split
          · exact .pure _ list
          · rename_i marcaValid
            rw [if_neg marcaValid] at carried
            split
            · exact .pure _ list
            · rename_i combustivelValid
              rw [if_neg combustivelValid] at carried
              have created := run_dataCreate_some (atoi ano) (atof preco) (atoi marca) modelo
                (atoi combustivel) (grants_nil 2)
              refine .behind (run_net_lift created) ((endsAlike_add (carried _ rfl)).bind ?_)
              intro result
              split <;> exact .pure _ _
  | commandGetByMarca =>
      match args with
      | [] => exact .pure _ list
      | _ :: _ :: _ => exact .pure _ list
      | [word] =>
          simp only [runCommand, commandGetByMarca, callOf] at carried ⊢
          split
          · exact .pure _ list
          · rename_i valid
            rw [if_neg valid] at carried
            refine (endsAlike_getByMarca (carried _ rfl)).bind ?_
            rintro (_ | car) <;> exact .pure _ list
  | commandGetByYear =>
      match args with
      | [] => exact .pure _ list
      | _ :: _ :: _ => exact .pure _ list
      | [word] =>
          refine (endsAlike_getByYear (carried _ rfl)).bind ?_
          rintro (_ | _ | ⟨_ | car, rest⟩)
          · exact .pure _ list
          · exact ⟨.error .outOfBounds, rfl, rfl⟩
          · exact .pure _ list
          · exact (EndsAlike.countToNull _ list).bind (fun count => .pure _ list)
  | commandGetModelList =>
      refine (endsAlike_getModelList (carried _ rfl)).bind ?_
      rintro (_ | cells)
      · exact .pure _ list
      · exact (EndsAlike.countToNull cells list).bind (fun count => .pure _ list)
  | commandGetListOrderedByYear =>
      refine (endsAlike_orderByYear (carried _ rfl)).bind ?_
      rintro ⟨result, cars⟩
      dsimp only
      split <;> exact .pure _ _
  | commandRemove =>
      match args with
      | [] => exact .pure _ list
      | _ :: _ :: _ => exact .pure _ list
      | [modelo] =>
          refine (endsAlike_removeByModel (carried _ rfl)).bind ?_
          intro result
          split
          · exact .pure _ _
          · split <;> exact .pure _ _
  | commandSize =>
      refine (endsAlike_size (carried _ rfl)).bind ?_
      intro result
      split <;> exact .pure _ list
  | cmdHelp => exact .pure _ list
  | commandQuit => exact .pure _ list

theorem endsAlike_runDispatch {argv : List (List UInt8)}
    (carried : ∀ call, lineCall atof argv = some call → call.Carried pb list)
    : EndsAlike (runDispatch (stubs (exchange pb) (exchange pb)) atof argv)
        (runDispatch servedOps atof argv) list (lineAfter atof list argv) := by
  cases argv with
  | nil => exact .pure _ list
  | cons name args =>
      unfold runDispatch lineAfter lineCall at *
      cases found : dispatchCommand (name :: args) with
      | none => exact .pure _ list
      | some command =>
          rw [found] at carried
          exact endsAlike_runCommand atof command.1 carried

/-- Lines end alike one after the other, by induction on them. -/
theorem endsAlike_lines {argvs : List (List (List UInt8))}
    (carried : LinesCarried pb atof list argvs)
    : EndsAlike (argvs.mapM (runDispatch (stubs (exchange pb) (exchange pb)) atof))
        (argvs.mapM (runDispatch servedOps atof)) list (argvs.foldl (lineAfter atof) list) := by
  induction argvs generalizing list with
  | nil => exact .pure [] list
  | cons argv later ih =>
      obtain ⟨first, others⟩ := carried
      rw [List.mapM_cons, List.mapM_cons]
      refine (endsAlike_runDispatch atof first).bind (fun result => ?_)
      exact (ih others).bind (fun results => .pure _ _)

/-- The loop makes the calls that are recorded for its input, by induction on its rounds. -/
theorem clientLoop_of_mainLoop {Remote : Type} (ops : RemoteOps Remote) {bound line : Nat}
    {stdin : List UInt8} {calls : List DispatchCall}
    (read : mainLoop bound line stdin = some calls)
    : clientLoop ops atof bound stdin
      = (calls.map DispatchCall.argv).mapM (runDispatch ops atof) := by
  induction bound generalizing line stdin calls with
  | zero => cases read
  | succ bound ih =>
      unfold mainLoop at read
      unfold clientLoop
      cases line' : fgets 256 stdin with
      | none =>
        simp only [line'] at read ⊢
        cases read
        rfl
      | some taken =>
        obtain ⟨input, rest⟩ := taken
        simp only [line'] at read ⊢
        split at read
        · rename_i empty
          rw [if_pos empty]
          exact ih read
        · rename_i filled
          rw [if_neg filled]
          split at read
          · rename_i quit
            cases read
            simp [quit]
          · rename_i stays
            obtain ⟨later, found, rfl⟩ := Option.map_eq_some_iff.mp read
            simp [stays, ih found]

/-- On every input the program dispatches its words. -/
theorem clientLoop_eq {Remote : Type} (ops : RemoteOps Remote) (stdin : List UInt8)
    : clientLoop ops atof (stdin.length + 1) stdin
      = (inputWords stdin).mapM (runDispatch ops atof) := by
  obtain ⟨calls, read⟩ :=
    Option.isSome_iff_exists.mp (mainLoop_isSome (Nat.lt_succ_self stdin.length) 0)
  rw [inputWords, show commandCalls stdin = some calls from read, Option.getD_some]
  exact clientLoop_of_mainLoop atof ops read

end

end CarChain
