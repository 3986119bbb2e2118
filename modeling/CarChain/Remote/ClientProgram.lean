import CarChain.Remote.ClientLines

/-! The client program as a whole (`list_client.c`), with a single server: which inputs it comes to
the end of, and on which it is the same program as one with a list of its own.
-/

namespace CarChain

open CRuntime CStandard

-----------------------------------------------------------------------------------------
-- Lines that find nothing
-----------------------------------------------------------------------------------------

section

variable (atof : CString → UInt32)

/-- No line is of this kind, each with the list that those before it leave. -/
def NoLine (kind : ListT → List (List UInt8) → Prop) : ListT → List (List (List UInt8)) → Prop
  | _, [] => True
  | list, argv :: later => ¬kind list argv ∧ NoLine kind (lineAfter atof list argv) later

/-- The line orders an empty list. -/
def OrdersNothing (list : ListT) (argv : List (List UInt8)) : Prop :=
  lineCall atof argv = some .orderByYear ∧ list.cars = []

/-- The call orders an empty list or removes a model that no car has. -/
def StubCall.FindsNothing (list : ListT) : StubCall → Prop
  | .plain _ => False
  | .removeByModel modelo => ¬HasModel list modelo
  | .orderByYear => list.cars = []

/-- The words of a line make such a call. -/
def FindsNothing (list : ListT) (argv : List (List UInt8)) : Prop :=
  ∃ call, lineCall atof argv = some call ∧ call.FindsNothing list

end

section

variable {pb : Protobuf} {atof : CString → UInt32} {list : ListT} {argv : List (List UInt8)}
  {later : List (List (List UInt8))}

theorem linesCarried_cons {call : StubCall} (found : lineCall atof argv = some call)
    (carried : call.Carried pb list) (others : LinesCarried pb atof (call.after list) later)
    : LinesCarried pb atof list (argv :: later) := by
  refine ⟨fun other same => ?_, ?_⟩
  · rw [found] at same
    cases same
    exact carried
  · rw [lineAfter, found]
    exact others

theorem noLine_cons {call : StubCall} (found : lineCall atof argv = some call)
    (something : ¬call.FindsNothing list)
    (others : NoLine atof (FindsNothing atof) (call.after list) later)
    : NoLine atof (FindsNothing atof) list (argv :: later) := by
  refine ⟨?_, ?_⟩
  · rintro ⟨other, same, nothing⟩
    rw [found] at same
    cases same
    exact something nothing
  · rw [lineAfter, found]
    exact others

theorem noLine_cons_of_none (found : lineCall atof argv = none)
    (others : NoLine atof (FindsNothing atof) list later)
    : NoLine atof (FindsNothing atof) list (argv :: later) := by
  refine ⟨?_, ?_⟩
  · rintro ⟨other, same, -⟩
    rw [found] at same
    cases same
  · rw [lineAfter, found]
    exact others

/-- Lines of no kind are of none of the kinds within it, by induction on them. -/
theorem NoLine.mono {kind within : ListT → List (List UInt8) → Prop}
    {argvs : List (List (List UInt8))} (none_ : NoLine atof kind list argvs)
    (implied : ∀ list argv, within list argv → kind list argv)
    : NoLine atof within list argvs := by
  induction argvs generalizing list with
  | nil => trivial
  | cons argv later ih => exact ⟨mt (implied list argv) none_.1, ih none_.2⟩

theorem linesCarried_cons_of_none (found : lineCall atof argv = none)
    (others : LinesCarried pb atof list later)
    : LinesCarried pb atof list (argv :: later) := by
  refine ⟨fun other same => ?_, ?_⟩
  · rw [found] at same
    cases same
  · rw [lineAfter, found]
    exact others

end

/-- A client that adds a Clio, asks for the ordered list, and removes it. -/
def removalInput : List UInt8 :=
  unlines [typed "add Clio 2020 0 2 0", typed "get_list_ordered_by_year", typed "remove Clio",
    typed "quit"]

/-- Its words, of which the last make no call. -/
def removalWords : List (List (List UInt8)) :=
  [
    [typed "add", typed "Clio", typed "2020", typed "0", typed "2", typed "0"],
    [typed "get_list_ordered_by_year"],
    [typed "remove", typed "Clio"],
    [typed "quit"]
  ]

/-- The bytes of its requests and of the replies to them. -/
def removalCodec : Protobuf :=
  .table
    [(addRequest (clio 2020),
        [8, 10, 16, 10, 26, 11, 8, 228, 15, 24, 2, 34, 4, 67, 108, 105, 111]),
      (ListOp.reply listCreate (.add (clio 2020)),
        [8, 11, 16, 70, 26, 11, 8, 228, 15, 24, 2, 34, 4, 67, 108, 105, 111]),
      (getlistbyearRequest, [8, 60, 16, 70]),
      (orderedReply [clio 2020],
        [8, 61, 16, 60, 66, 11, 8, 228, 15, 24, 2, 34, 4, 67, 108, 105, 111]),
      (delRequest (clio 2020).modelo, [8, 30, 16, 40, 58, 4, 67, 108, 105, 111]),
      (delSuccess (clio 2020).modelo, [8, 31, 16, 50, 58, 4, 67, 108, 105, 111]),
      (delError (clio 2020).modelo, [8, 99, 16, 70, 58, 4, 67, 108, 105, 111])]

theorem inputWords_removal : inputWords removalInput = removalWords := by decide +kernel

theorem removal_carried
    : LinesCarried removalCodec (fun _ => 0) listCreate (inputWords removalInput) := by
  rw [inputWords_removal]
  refine linesCarried_cons (show _ = some (.plain (.add (some (clio 2020)))) by decide +kernel)
    ?_ ?_
  · exact .inr ⟨by decide, by decide, fun _ => by decide⟩
  refine linesCarried_cons (show _ = some .orderByYear by decide +kernel) ?_ ?_
  · exact ⟨by decide, by decide⟩
  refine linesCarried_cons
    (show _ = some (.removeByModel (clio 2020).modelo) by decide +kernel) ?_ ?_
  · exact ⟨by decide, by decide, by decide⟩
  · exact linesCarried_cons_of_none (by decide +kernel) trivial

theorem removal_findsSomething
    : NoLine (fun _ => 0) (FindsNothing fun _ => 0) listCreate (inputWords removalInput) := by
  rw [inputWords_removal]
  refine noLine_cons (show _ = some (.plain (.add (some (clio 2020)))) by decide +kernel) id ?_
  refine noLine_cons (show _ = some .orderByYear by decide +kernel) (List.cons_ne_nil _ _) ?_
  refine noLine_cons (show _ = some (.removeByModel (clio 2020).modelo) by decide +kernel)
    (not_not.mpr (by decide)) ?_
  exact noLine_cons_of_none (by decide +kernel) trivial

-----------------------------------------------------------------------------------------
-- Inputs that the client does not survive
-----------------------------------------------------------------------------------------

section

variable {pb : Protobuf} {list : ListT} (atof : CString → UInt32)

/-- The computation returns. -/
def Finishes {α : Type} (action : Net ListT α) (list : ListT) : Prop :=
  ∃ value after, (action.run list).run [] = .ok ((value, after), [])

/-- The computation returns and leaves this list. -/
def Leaves {α : Type} (action : Net ListT α) (list after : ListT) : Prop :=
  ∃ value, (action.run list).run [] = .ok ((value, after), [])

theorem Leaves.pure {α : Type} (value : α) (list : ListT) : Leaves (Pure.pure value) list list :=
  ⟨value, rfl⟩

theorem Leaves.behind {α β : Type} {action : Net ListT α} {value : α} {between after : ListT}
    (ran : (action.run list).run [] = .ok ((value, between), [])) {next : α → Net ListT β}
    (second : Leaves (next value) between after)
    : Leaves (action >>= next) list after := by
  obtain ⟨result, ranNext⟩ := second
  exact ⟨result, (run_net_bind ran).trans ranNext⟩

theorem Leaves.bind {α β : Type} {action : Net ListT α} {between after : ListT}
    (first : Leaves action list between) {next : α → Net ListT β}
    (second : ∀ value, Leaves (next value) between after)
    : Leaves (action >>= next) list after := by
  obtain ⟨value, ran⟩ := first
  exact .behind ran (second value)

/-- The items of a terminated array are counted. -/
theorem Leaves.countToNull {α : Type} (items : List α) {next : Nat → Net ListT CommandResult}
    (second : ∀ count, Leaves (next count) list list)
    : Leaves ((liftM (CRuntime.countToNull (nullTerminated items)) : Net ListT Nat) >>= next)
        list list := by
  rw [countToNull_nullTerminated]
  exact .behind (run_net_lift rfl) (second items.length)

/-- A command on a list of the program's own leaves it as its call does. -/
theorem leaves_runCommand (args : List CString) (command : Command)
    : Leaves (runCommand listOps atof args command) list
        (((callOf atof command args).map (StubCall.after list)).getD list) := by
  cases command with
  | commandAdd =>
      match args with
      | [] | [_] | [_, _] | [_, _, _] | [_, _, _, _] | _ :: _ :: _ :: _ :: _ :: _ :: _ =>
          exact .pure _ list
      | [modelo, ano, preco, marca, combustivel] =>
          simp only [runCommand, commandAdd, callOf]
          split
          · exact .pure _ list
          · split
            · exact .pure _ list
            · exact ⟨_, rfl⟩
  | commandGetByMarca =>
      rcases args with _ | ⟨word, _ | ⟨_, _⟩⟩
      · exact .pure _ list
      · simp only [runCommand, commandGetByMarca, callOf]
        split
        · exact .pure _ list
        · have ran : ((listOps.getByMarca (atoi word)).run list).run []
              = .ok ((listGetByMarca list (atoi word), list), []) := rfl
          refine .behind ran ?_
          split <;> exact .pure _ list
      · exact .pure _ list
  | commandGetByYear =>
      rcases args with _ | ⟨word, _ | ⟨_, _⟩⟩
      · exact .pure _ list
      · have ran : ((listOps.getByYear (atoi word)).run list).run []
            = .ok ((some (nullTerminated (list.ofYear (atoi word))), list), []) := by
          have listed := run_listGetByYear list (atoi word) []
          have lifted := @run_net_lift ListT _ list _ _ _ _ listed
          simp only [listOps, StateT.run_bind, StateT.run_get, pure_bind, lifted]
          rfl
        refine .behind ran ?_
        cases list.ofYear (atoi word) with
        | nil => exact .pure _ list
        | cons car rest => exact .countToNull (car :: rest) (fun count => .pure _ list)
      · exact .pure _ list
  | commandGetModelList =>
      have listed := run_listGetModelList list (grants_nil _)
      rw [List.drop_nil] at listed
      have ran : (listOps.getModelList.run list).run []
          = .ok ((some (nullTerminated list.models), list), []) := by
        have lifted := @run_net_lift ListT _ list _ _ _ _ listed
        simp only [listOps, StateT.run_bind, StateT.run_get, pure_bind, lifted]
      exact .behind ran (.countToNull list.models (fun count => .pure _ list))
  | commandGetListOrderedByYear => exact .behind run_orderByYear_own (.pure _ list.ordered)
  | commandRemove =>
      rcases args with _ | ⟨modelo, _ | ⟨_, _⟩⟩
      · exact .pure _ list
      · refine .behind (run_removeByModel_own modelo) ?_
        split
        · exact .pure _ _
        · split <;> exact .pure _ _
      · exact .pure _ list
  | commandSize =>
      have ran : (listOps.size.run list).run [] = .ok ((listSize list, list), []) := rfl
      refine .behind ran ?_
      split <;> exact .pure _ list
  | cmdHelp => exact .pure _ list
  | commandQuit => exact .pure _ list

/-- Only one command orders a list. -/
theorem command_of_orderByYear {command : Command} {args : List CString}
    (called : callOf atof command args = some .orderByYear)
    : command = .commandGetListOrderedByYear := by
  unfold callOf at called
  split at called <;> grind

/-- Only one command removes a car. -/
theorem command_of_removeByModel {command : Command} {args : List CString} {modelo : CString}
    (called : callOf atof command args = some (.removeByModel modelo))
    : command = .commandRemove ∧ args = [modelo] := by
  unfold callOf at called
  split at called <;> grind

/-- With a server a command leaves the list of its call, unless it orders an empty one. -/
theorem leaves_runCommand_served {args : List CString} (command : Command)
    (lives : ¬(callOf atof command args = some .orderByYear ∧ list.cars = []))
    : Leaves (runCommand servedOps atof args command) list
        (((callOf atof command args).map (StubCall.after list)).getD list) := by
  cases command with
  | commandGetListOrderedByYear =>
      have filled : list.ordered.cars ≠ [] := fun empty =>
        lives ⟨rfl, list.cars_of_ordered_eq_nil.mp empty⟩
      exact .behind (run_orderByYear filled) (.pure _ list.ordered)
  | commandRemove =>
      rcases args with _ | ⟨modelo, _ | ⟨_, _⟩⟩
      · exact .pure _ list
      · refine .behind (run_removeByModel_served modelo) ?_
        split
        · exact .pure _ _
        · split <;> exact .pure _ _
      · exact .pure _ list
  | commandAdd => exact leaves_runCommand atof args .commandAdd
  | commandGetByMarca => exact leaves_runCommand atof args .commandGetByMarca
  | commandGetByYear => exact leaves_runCommand atof args .commandGetByYear
  | commandGetModelList => exact leaves_runCommand atof args .commandGetModelList
  | commandSize => exact leaves_runCommand atof args .commandSize
  | cmdHelp => exact .pure _ list
  | commandQuit => exact .pure _ list

/-- Ordering an empty list is the end of the client. -/
theorem run_runDispatch_ordersNothing {argv : List (List UInt8)}
    (nothing : OrdersNothing atof list argv)
    : ((runDispatch servedOps atof argv).run list).run [] = .error .nullDereference := by
  obtain ⟨ordering, empty⟩ := nothing
  obtain ⟨⟨command, args⟩, found, called⟩ := Option.bind_eq_some_iff.mp ordering
  obtain rfl := command_of_orderByYear atof called
  have unordered : list.ordered.cars = [] := list.cars_of_ordered_eq_nil.mpr empty
  cases argv with
  | nil => cases found
  | cons name rest =>
      rw [runDispatch, found]
      show StateT.run (StateT.run (servedOps.orderByYear >>= _) list) [] = _
      rw [StateT.run_bind, StateT.run_bind, run_orderByYear_empty unordered]
      rfl

/-- With a server a line leaves the list of its call, unless it orders an empty one. -/
theorem leaves_runDispatch_served {argv : List (List UInt8)} (lives : ¬OrdersNothing atof list argv)
    : Leaves (runDispatch servedOps atof argv) list (lineAfter atof list argv) := by
  cases argv with
  | nil => exact .pure _ list
  | cons name args =>
      unfold runDispatch lineAfter
      unfold OrdersNothing at lives
      unfold lineCall at lives ⊢
      cases found : dispatchCommand (name :: args) with
      | none => exact .pure _ list
      | some command =>
          rw [found] at lives
          exact leaves_runCommand_served atof command.1 lives

/-- The lines are all performed exactly when none of them orders an empty list, by induction on
them.
-/
theorem finishes_lines_iff {argvs : List (List (List UInt8))}
    : Finishes (argvs.mapM (runDispatch servedOps atof)) list
      ↔ NoLine atof (OrdersNothing atof) list argvs := by
  induction argvs generalizing list with
  | nil => exact iff_of_true ⟨[], list, rfl⟩ trivial
  | cons argv later ih =>
      rw [NoLine, ← ih, List.mapM_cons]
      by_cases nothing : OrdersNothing atof list argv
      · refine iff_of_false ?_ (fun lives => lives.1 nothing)
        rintro ⟨results, after, returned⟩
        rw [StateT.run_bind, StateT.run_bind, run_runDispatch_ordersNothing atof nothing]
          at returned
        cases returned
      · obtain ⟨result, ran⟩ := leaves_runDispatch_served atof nothing
        rw [and_iff_right nothing]
        constructor
        · rintro ⟨results, after, returned⟩
          rw [run_net_bind ran, StateT.run_bind] at returned
          obtain ⟨⟨rest, last⟩, script, ranLater, done⟩ := run_bind_eq_ok.mp returned
          cases done
          exact ⟨rest, last, ranLater⟩
        · rintro ⟨rest, after, ranLater⟩
          exact ⟨result :: rest, after,
            (run_net_bind ran).trans ((run_net_bind ranLater).trans rfl)⟩

/-- The client comes to the end of an input whose calls are carried exactly when no line of it
orders an empty list.
-/
theorem clientLoop_finishes_iff {stdin : List UInt8}
    (carried : LinesCarried pb atof list (inputWords stdin))
    : Finishes
          (clientLoop (stubs (exchange pb) (exchange pb)) atof (stdin.length + 1) stdin) list
        ↔ NoLine atof (OrdersNothing atof) list (inputWords stdin) := by
  rw [← finishes_lines_iff, clientLoop_eq]
  obtain ⟨outcome, remote, here⟩ := endsAlike_lines atof carried
  unfold Finishes
  rw [remote, here]

end

theorem clientLoop_finishes_iff_removal
    : Finishes
        (clientLoop (stubs (exchange removalCodec) (exchange removalCodec)) (fun _ => 0)
          (removalInput.length + 1) removalInput) listCreate :=
  (clientLoop_finishes_iff (fun _ => 0) removal_carried).mpr
    (removal_findsSomething.mono (fun _ _ ⟨ordering, empty⟩ => ⟨.orderByYear, ordering, empty⟩))

-----------------------------------------------------------------------------------------
-- A list of the program's own
-----------------------------------------------------------------------------------------

section

variable {pb : Protobuf} {list : ListT} (atof : CString → UInt32)

/-- Two commands make such calls. -/
theorem command_of_findsNothing {command : Command} {args : List CString}
    (nothing : ∃ call, callOf atof command args = some call ∧ call.FindsNothing list)
    : command = .commandGetListOrderedByYear
      ∨ ∃ modelo, command = .commandRemove ∧ args = [modelo] := by
  obtain ⟨call, called, nothing⟩ := nothing
  cases call with
  | plain op => exact nothing.elim
  | removeByModel modelo => exact .inr ⟨modelo, command_of_removeByModel atof called⟩
  | orderByYear => exact .inl (command_of_orderByYear atof called)

/-- A removal does the same with a server and without when some car has the model. -/
theorem run_commandRemove_eq_iff (modelo : CString)
    : ((commandRemove servedOps [modelo]).run list).run []
        = ((commandRemove listOps [modelo]).run list).run []
      ↔ HasModel list modelo := by
  rw [commandRemove, run_net_bind (run_removeByModel_served modelo), commandRemove,
    run_net_bind (run_removeByModel_own modelo)]
  by_cases found : HasModel list modelo
  · exact iff_of_true (by rw [listRemoveByModel_code found]; rfl) found
  · refine iff_of_false ?_ found
    rw [listRemoveByModel_missing found]
    intro same
    cases same

/-- With a server and without one a command does the same unless it finds nothing. -/
theorem run_runCommand_eq_iff (args : List CString) (command : Command)
    : ((runCommand servedOps atof args command).run list).run []
        = ((runCommand listOps atof args command).run list).run []
      ↔ ¬∃ call, callOf atof command args = some call ∧ call.FindsNothing list := by
  cases command with
  | commandGetListOrderedByYear =>
      show StateT.run (StateT.run (servedOps.orderByYear >>= _) list) []
          = StateT.run (StateT.run (listOps.orderByYear >>= _) list) [] ↔ _
      have called (nothing : list.cars = [])
          : ∃ call, callOf atof .commandGetListOrderedByYear args = some call
              ∧ call.FindsNothing list :=
        ⟨.orderByYear, rfl, nothing⟩
      rw [run_net_bind run_orderByYear_own]
      by_cases empty : list.cars = []
      · have unordered : list.ordered.cars = [] := list.cars_of_ordered_eq_nil.mpr empty
        refine iff_of_false ?_ (not_not.mpr (called empty))
        rw [StateT.run_bind, StateT.run_bind, run_orderByYear_empty unordered]
        intro same
        cases same
      · have filled : list.ordered.cars ≠ [] := mt list.cars_of_ordered_eq_nil.mp empty
        rw [run_net_bind (run_orderByYear filled)]
        refine iff_of_true rfl ?_
        rintro ⟨call, same, nothing⟩
        cases same
        exact empty nothing
  | commandRemove =>
      rcases args with _ | ⟨modelo, _ | ⟨_, _⟩⟩
      · exact iff_of_true rfl (fun nothing => by simpa using command_of_findsNothing atof nothing)
      · refine run_commandRemove_eq_iff modelo |>.trans ⟨?_, fun something => ?_⟩
        · rintro found ⟨call, same, nothing⟩
          cases same
          exact nothing found
        · by_contra missing
          exact something ⟨.removeByModel modelo, rfl, missing⟩
      · exact iff_of_true rfl (fun nothing => by simpa using command_of_findsNothing atof nothing)
  | commandAdd =>
      exact iff_of_true rfl (fun nothing => by simpa using command_of_findsNothing atof nothing)
  | commandGetByMarca =>
      exact iff_of_true rfl (fun nothing => by simpa using command_of_findsNothing atof nothing)
  | commandGetByYear =>
      exact iff_of_true rfl (fun nothing => by simpa using command_of_findsNothing atof nothing)
  | commandGetModelList =>
      exact iff_of_true rfl (fun nothing => by simpa using command_of_findsNothing atof nothing)
  | commandSize =>
      exact iff_of_true rfl (fun nothing => by simpa using command_of_findsNothing atof nothing)
  | cmdHelp =>
      exact iff_of_true rfl (fun nothing => by simpa using command_of_findsNothing atof nothing)
  | commandQuit =>
      exact iff_of_true rfl (fun nothing => by simpa using command_of_findsNothing atof nothing)

theorem run_runDispatch_eq_iff (argv : List (List UInt8))
    : ((runDispatch servedOps atof argv).run list).run []
        = ((runDispatch listOps atof argv).run list).run []
      ↔ ¬FindsNothing atof list argv := by
  cases argv with
  | nil =>
      refine iff_of_true rfl ?_
      rintro ⟨call, called, -⟩
      cases called
  | cons name args =>
      unfold runDispatch FindsNothing lineCall
      cases dispatchCommand (name :: args) with
      | none =>
          refine iff_of_true rfl ?_
          rintro ⟨call, called, -⟩
          cases called
      | some command => exact run_runCommand_eq_iff atof (command.2.map argument) command.1

theorem leaves_runDispatch (list : ListT) (argv : List (List UInt8))
    : Leaves (runDispatch listOps atof argv) list (lineAfter atof list argv) := by
  cases argv with
  | nil => exact .pure _ list
  | cons name args =>
      unfold runDispatch lineAfter lineCall
      cases dispatchCommand (name :: args) with
      | none => exact .pure _ list
      | some command => exact leaves_runCommand atof (command.2.map argument) command.1

/-- Lines on a list of the program's own leave their list, by induction on them. -/
theorem leaves_lines (argvs : List (List (List UInt8))) (list : ListT)
    : Leaves (argvs.mapM (runDispatch listOps atof)) list
        (argvs.foldl (lineAfter atof) list) := by
  induction argvs generalizing list with
  | nil => exact .pure [] list
  | cons argv later ih =>
      rw [List.mapM_cons]
      refine (leaves_runDispatch atof list argv).bind (fun result => ?_)
      exact (ih (lineAfter atof list argv)).bind (fun results => .pure _ _)

/-- Lines end alike with a server and without one exactly when none of them finds nothing, by
induction on them.
-/
theorem endsAlike_lines_iff {argvs : List (List (List UInt8))}
    (carried : LinesCarried pb atof list argvs)
    : EndsAlike (argvs.mapM (runDispatch (stubs (exchange pb) (exchange pb)) atof))
          (argvs.mapM (runDispatch listOps atof)) list (argvs.foldl (lineAfter atof) list)
      ↔ NoLine atof (FindsNothing atof) list argvs := by
  induction argvs generalizing list with
  | nil => exact iff_of_true (.pure [] list) trivial
  | cons argv later ih =>
      obtain ⟨first, others⟩ := carried
      rw [NoLine, ← ih others, ← run_runDispatch_eq_iff, List.mapM_cons, List.mapM_cons]
      obtain ⟨outcome, remote, served⟩ := endsAlike_runDispatch atof first
      constructor
      · rintro ⟨whole, ranRemote, ranOwn⟩
        -- the list of the program's own is never in the way
        obtain ⟨result, ran⟩ := leaves_runDispatch atof list argv
        obtain ⟨results, ranLater⟩ := leaves_lines atof later (lineAfter atof list argv)
        rw [run_net_bind ran, run_net_bind ranLater] at ranOwn
        cases whole with
        | error fault => cases ranOwn
        | ok all =>
            cases ranOwn
            rw [StateT.run_bind] at ranRemote
            obtain ⟨⟨value, between⟩, script, ranFirst, ranRest⟩ := run_bind_eq_ok.mp ranRemote
            rw [StateT.run_bind] at ranRest
            obtain ⟨⟨values, after⟩, left, ranOthers, done⟩ := run_bind_eq_ok.mp ranRest
            cases done
            cases outcome with
            | error fault => cases remote.symm.trans ranFirst
            | ok value =>
                cases remote.symm.trans ranFirst
                exact ⟨served.trans ran.symm, .ok _, ranOthers, ranLater⟩
      · rintro ⟨same, rest⟩
        exact EndsAlike.bind ⟨outcome, remote, same.symm.trans served⟩
          (fun result => rest.bind (fun results => .pure _ _))

end

end CarChain
