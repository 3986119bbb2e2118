import CarChain.Model.Commands

/-! The requests that any input makes the client send (`list_client.c`). -/

namespace CarChain

open CRuntime CStandard

variable {Remote : Type}

/-- A word of a line that the client has read into its buffer. -/
structure IsWord (text : CString) : Prop where
  nonempty : text.bytes ≠ []
  short : text.bytes.length ≤ 255
  plain : ∀ byte ∈ text.bytes, isBlank byte = false ∧ byte ≠ 10

/-- A car that `commandAdd` lets through. -/
structure DataT.Admissible (car : DataT) : Prop where
  modelo : IsWord car.modelo
  marca : 0 ≤ car.marca ∧ car.marca ≤ 4
  combustivel : 0 ≤ car.combustivel ∧ car.combustivel ≤ 3

/-- A request that the client may make of the head. -/
inductive AskedOfHead : MessageT → Prop where
  | add (car : DataT) (admissible : car.Admissible) : AskedOfHead (addRequest car)
  | remove (modelo : CString) (word : IsWord modelo) : AskedOfHead (delRequest modelo)
  | order : AskedOfHead getlistbyearRequest

/-- A request that the client may make of the tail. -/
inductive AskedOfTail : MessageT → Prop where
  | getByMarca (marca : Int32) (valid : 0 ≤ marca ∧ marca ≤ 4) : AskedOfTail (marcaRequest marca)
  | getByYear (ano : Int32) : AskedOfTail (yearRequest ano)
  | getModelList : AskedOfTail getmodelsRequest
  | size : AskedOfTail sizeRequest

/-- What a client computes depends on its connections by the answers to such requests only. -/
structure SameAnswers (head head' tail tail' : MessageT → Net Remote (Option MessageT)) : Prop where
  head : ∀ msg, AskedOfHead msg → head msg = head' msg
  tail : ∀ msg, AskedOfTail msg → tail msg = tail' msg

/-- A first part that returns such values is followed by second parts that agree on them. -/
theorem net_bind_congr {α β : Type} {action : Mem α} {post : α → Prop} (h : Returns action post)
    {next next' : α → Net Remote β} (same : ∀ value, post value → next value = next' value)
    : (liftM action >>= next : Net Remote β) = liftM action >>= next' := by
  funext remote script
  change StateT.run (StateT.run _ remote) script = StateT.run (StateT.run _ remote) script
  cases ran : action.run script with
  | error fault =>
      have lifted : ((liftM action : Net Remote α).run remote).run script = .error fault := by
        change StateT.run (action >>= fun value => pure (value, remote)) script = _
        rw [StateT.run_bind, ran]
        rfl
      rw [StateT.run_bind, StateT.run_bind, StateT.run_bind, StateT.run_bind, lifted]
      rfl
  | ok result =>
      obtain ⟨value, rest⟩ := result
      rw [run_net_bind (run_net_lift ran), run_net_bind (run_net_lift ran),
        same value (h _ _ _ ran)]

section

variable {head head' tail tail' : MessageT → Net Remote (Option MessageT)}

/-- `data_to_pb` copies the car or fails. -/
theorem dataToPb_returns (car : DataT)
    : Returns (dataToPb (some car)) (fun pb => pb = none ∨ pb = some car.toPb) := by
  refine returns_bind_any (fun granted => ?_)
  split
  · exact returns_pure (.inl rfl)
  · refine returns_bind_any (fun copy => ?_)
    cases copy with
    | none => exact returns_pure (.inl rfl)
    | some copy => exact returns_pure (.inr rfl)

theorem dataCreate_returns (ano : Int32) (preco : UInt32) (marca : Int32) (modelo : CString)
    (combustivel : Int32)
    : Returns (dataCreate ano preco marca (some modelo) combustivel)
        (fun car => car = none ∨ car = some ⟨ano, preco, marca, modelo, combustivel⟩) := by
  refine returns_bind_any (fun first => ?_)
  split
  · exact returns_pure (.inl rfl)
  · refine returns_bind_any (fun second => ?_)
    split
    · exact returns_pure (.inl rfl)
    · exact returns_pure (.inr rfl)

theorem strdup_returns (text : CString)
    : Returns (strdup text) (fun copy => copy = none ∨ copy = some text) := by
  refine returns_bind_any (fun granted => ?_)
  cases granted with
  | false => exact returns_pure (.inl rfl)
  | true => exact returns_pure (.inr rfl)

theorem rlistAdd_congr {car : DataT} (same : head (addRequest car) = head' (addRequest car))
    : rlistAdd head (some car) = rlistAdd head' (some car) := by
  unfold rlistAdd
  rw [if_neg (by simp), if_neg (by simp)]
  refine net_bind_congr (dataToPb_returns car) ?_
  rintro _ (rfl | rfl)
  · rfl
  · exact congrArg (· >>= _) same

theorem rlistRemoveByModel_congr {modelo : CString}
    (same : head (delRequest modelo) = head' (delRequest modelo))
    : rlistRemoveByModel head (some modelo) = rlistRemoveByModel head' (some modelo) := by
  unfold rlistRemoveByModel
  refine congrArg (liftM malloc >>= ·) (funext fun granted => ?_)
  split
  · rfl
  · refine net_bind_congr (strdup_returns modelo) ?_
    rintro _ (rfl | rfl)
    · rfl
    · exact congrArg (· >>= _) same

/-- The words that are taken from a buffer. -/
theorem isWord_argument {stdin input rest word : List UInt8}
    (read : fgets 256 stdin = some (input, rest))
    (member : word ∈ words (before 10 (before 0 input)))
    : IsWord (argument word) := by
  obtain ⟨nonempty, short, plain⟩ := mem_tokenize member
  have noNul : 0 ∉ word := by
    intro nul
    have stopped := List.mem_takeWhile_imp (List.takeWhile_subset _ (plain 0 nul).2)
    simp at stopped
  have room : input.length ≤ 255 := length_le_of_fgets read
  have same : (argument word).bytes = word := before_of_notMem noNul
  refine ⟨by rwa [same], ?_, fun byte inside => ?_⟩
  · rw [same]
    exact short.trans (((List.takeWhile_sublist _).trans (List.takeWhile_sublist _)).length_le.trans
      room)
  · rw [same] at inside
    refine ⟨(plain byte inside).1, ?_⟩
    rintro rfl
    have stopped := List.mem_takeWhile_imp (plain 10 inside).2
    simp at stopped

variable (atof : CString → UInt32)

theorem commandAdd_congr (same : SameAnswers head head' tail tail') {args : List CString}
    (whole : ∀ word ∈ args, IsWord word)
    : commandAdd (stubs head tail) atof args = commandAdd (stubs head' tail') atof args := by
  unfold commandAdd
  split
  · rename_i modelo ano preco marca combustivel
    dsimp only
    split
    · rfl
    · rename_i marcaValid
      split
      · rfl
      · rename_i combustivelValid
        rw [not_or, Int32.not_lt, Int32.not_lt] at marcaValid combustivelValid
        have word := whole modelo List.mem_cons_self
        refine net_bind_congr (dataCreate_returns _ _ _ modelo _) ?_
        rintro _ (rfl | rfl)
        · rfl
        · have asked := rlistAdd_congr
            (same.head _ (.add ⟨atoi ano, atof preco, atoi marca, modelo, atoi combustivel⟩
              ⟨word, marcaValid, combustivelValid⟩))
          exact congrArg (· >>= _) asked
  · rfl

theorem commandGetByMarca_congr (same : SameAnswers head head' tail tail') (args : List CString)
    : commandGetByMarca (stubs head tail) args = commandGetByMarca (stubs head' tail') args := by
  unfold commandGetByMarca
  split
  · rename_i word
    dsimp only
    split
    · rfl
    · rename_i valid
      rw [not_or, Int32.not_lt, Int32.not_lt] at valid
      have asked : rlistGetByMarca tail (atoi word) = rlistGetByMarca tail' (atoi word) := by
        unfold rlistGetByMarca
        rw [same.tail _ (.getByMarca (atoi word) valid)]
      exact congrArg (· >>= _) asked
  · rfl

/-- A command makes the same of connections that give the same answers. -/
theorem runCommand_congr (same : SameAnswers head head' tail tail') {args : List CString}
    (whole : ∀ word ∈ args, IsWord word) (command : Command)
    : runCommand (stubs head tail) atof args command
      = runCommand (stubs head' tail') atof args command := by
  cases command with
  | commandAdd => exact commandAdd_congr atof same whole
  | commandGetByMarca => exact commandGetByMarca_congr same args
  | commandGetByYear =>
      show commandGetByYear (stubs head tail) args = commandGetByYear (stubs head' tail') args
      unfold commandGetByYear
      split
      · rename_i word
        have asked : rlistGetByYear tail (atoi word) = rlistGetByYear tail' (atoi word) := by
          unfold rlistGetByYear
          rw [same.tail _ (.getByYear (atoi word))]
        exact congrArg (· >>= _) asked
      · rfl
  | commandGetModelList =>
      have asked : rlistGetModelList tail = rlistGetModelList tail' := by
        unfold rlistGetModelList
        rw [same.tail _ .getModelList]
      exact congrArg (· >>= _) asked
  | commandGetListOrderedByYear =>
      have asked : rlistOrderByYear head = rlistOrderByYear head' := by
        unfold rlistOrderByYear
        rw [same.head _ .order]
      exact congrArg (· >>= _) asked
  | commandRemove =>
      show commandRemove (stubs head tail) args = commandRemove (stubs head' tail') args
      unfold commandRemove
      split
      · rename_i modelo
        have word := whole modelo List.mem_cons_self
        exact congrArg (· >>= _) (rlistRemoveByModel_congr (same.head _ (.remove modelo word)))
      · rfl
  | commandSize =>
      have asked : rlistSize tail = rlistSize tail' := by
        unfold rlistSize
        rw [same.tail _ .size]
      exact congrArg (· >>= _) asked
  | cmdHelp => rfl
  | commandQuit => rfl

/-- The words of a command are behind the first. -/
theorem args_of_dispatchCommand {argv args : List (List UInt8)} {command : Command}
    (found : dispatchCommand argv = some (command, args))
    : ∀ word ∈ args, word ∈ argv := by
  intro word member
  cases argv with
  | nil => cases found
  | cons name rest =>
      obtain ⟨entry, -, same⟩ := Option.map_eq_some_iff.mp found
      cases same
      exact List.mem_cons_of_mem _ member

theorem runDispatch_congr (same : SameAnswers head head' tail tail') {argv : List (List UInt8)}
    (whole : ∀ word ∈ argv, IsWord (argument word))
    : runDispatch (stubs head tail) atof argv = runDispatch (stubs head' tail') atof argv := by
  unfold runDispatch
  split
  · rfl
  · split
    · rfl
    · rename_i found
      refine runCommand_congr atof same (fun word member => ?_) _
      obtain ⟨text, inside, rfl⟩ := List.mem_map.mp member
      exact whole text (args_of_dispatchCommand found text inside)

/-- On every input the client makes such requests only, each on the connection it belongs to: with
connections that give the same answers to these, and differ in all others, it computes the same,
whatever the answers are. The induction is on the rounds of its loop.
-/
theorem clientLoop_congr (same : SameAnswers head head' tail tail') (bound : Nat)
    (stdin : List UInt8)
    : clientLoop (stubs head tail) atof bound stdin
      = clientLoop (stubs head' tail') atof bound stdin := by
  induction bound generalizing stdin with
  | zero => rfl
  | succ bound ih =>
      unfold clientLoop
      split
      · rfl
      · rename_i input rest read
        dsimp only
        rw [ih rest, runDispatch_congr atof same (fun word member => isWord_argument read member)]

end

/-- The bytes of a text that is typed. -/
def typed (text : String) : List UInt8 := text.toList.map Char.toUInt8

/-- A client that asks for the size, adds a Clio, and asks again. -/
def clioInput : List UInt8 :=
  unlines [typed "size", typed "add Clio 2020 0 2 0", typed "size", typed "quit"]

/-- A connection without answers, to which only some requests may be made. -/
def unanswered (asked : MessageT → Bool) (msg : MessageT) : Net Unit (Option MessageT) :=
  if asked msg then return none else throw .outOfBounds

theorem clientLoop_congr_clio
    : clientLoop (stubs (unanswered fun _ => true) (unanswered fun _ => true)) (fun _ => 0)
          (clioInput.length + 1) clioInput
        = clientLoop
            (stubs (unanswered fun msg => msg.opcode ∈ [10, 30, 60])
              (unanswered fun msg => msg.opcode ∈ [20, 40, 50]))
            (fun _ => 0) (clioInput.length + 1) clioInput := by
  refine clientLoop_congr _ ⟨fun msg asked => ?_, fun msg asked => ?_⟩ _ _
  · cases asked <;> rfl
  · cases asked <;> rfl

end CarChain
