import CarChain.Model.HandlerSpecs

/-! Whether a request that ends in an error leaves the list alone.

`invoke` mutates before it knows the outcome in two places: a write changes the local list
before it is forwarded, and a request for the ordered list orders it before the reply is
allocated. Nothing is undone, although the client reports such a request as discarded. These
two are the only places, and the condition below names them.
-/

namespace CarChain

open CRuntime

variable {Conn : Type} {env : ForwardEnv Conn} {msg : MessageT} {list : ListT}
  {script : List Bool}

/-- Whenever the call returns 0 and leaves an error in the message, the list is what it was. -/
def FailsAtomically (env : ForwardEnv Conn) (msg : MessageT) (list : ListT) (script : List Bool)
    : Prop :=
  ∀ reply after rest,
    (invoke env msg list).run script = .ok ((0, reply, after), rest)
    → reply.opcode = Opcode.opError
    → after = list

/-- An accepted write whose forwarding is answered throughout and still fails. -/
def LosesForward (env : ForwardEnv Conn) (msg : MessageT) (list : ListT) (script : List Bool)
    : Prop :=
  WriteAccepted msg list script ∧ env.Answered msg ∧ ¬env.Succeeds msg

/-- A well-formed request for the ordered list of cars that are in no order, with too little
memory for the reply.
-/
def LosesReply (msg : MessageT) (list : ListT) (script : List Bool) : Prop :=
  msg.opcode = Opcode.opGetlistbytear
  ∧ msg.cType = CType.ctNone
  ∧ ¬list.InYearOrder
  ∧ grants (replyAllocations list) script = false

/-- After an accepted write only a forwarding that fails leaves an error, over a list that
has changed.
-/
theorem invoke_accepted (accepted : WriteAccepted msg list script)
    : FailsAtomically env msg list script ↔ ¬(env.Answered msg ∧ ¬env.Succeeds msg) := by
  obtain ⟨write, reply, after, rest, handled, opcode, changed⟩ := run_dispatch_accepted accepted
  have ran := run_invoke_forwarded env handled (mustForward_accepted write opcode)
  constructor
  · intro atomic h
    obtain ⟨answered, fails⟩ := h
    rcases zkForward_of_answered answered with ⟨-, succeeds⟩ | ⟨failed, -⟩
    · exact fails succeeds
    · rw [failed] at ran
      have same := atomic _ _ _ ran rfl
      exact changed (same ▸ .refl _)
  · intro kept left final remaining returned error
    by_cases answered : env.Answered msg
    · rcases zkForward_of_answered answered with ⟨zero, -⟩ | ⟨-, fails⟩
      · rw [ran, zero] at returned
        simp only [if_true, Except.ok.injEq, Prod.mk.injEq] at returned
        obtain ⟨⟨-, rfl, -⟩, -⟩ := returned
        exact absurd (opcode.symm.trans error) (isWrtOp_success_ne write)
      · exact absurd ⟨answered, fails⟩ kept
    · rw [ran, zkForward_of_unanswered answered] at returned
      cases returned

/-- A refused write leaves the list alone and is not forwarded. -/
theorem invoke_refused (write : isWrtOp msg = true) (refused : ¬WriteAccepted msg list script)
    : FailsAtomically env msg list script := by
  intro reply after rest returned _
  cases handled : (dispatch msg list).run script with
  | error fault =>
      rw [run_invoke_fault env handled] at returned
      cases returned
  | ok result =>
      obtain ⟨⟨left, final⟩, remaining⟩ := result
      rcases run_dispatch_write write handled with ⟨accepted, -⟩ | ⟨-, error, unchanged⟩
      · exact absurd accepted refused
      · have kept : mustForward msg left = false := by simp [mustForward, error]
        rw [run_invoke_kept env handled kept] at returned
        cases returned
        exact unchanged

/-- A message that is no write ends as its handler leaves it. -/
theorem invoke_eq_dispatch {handled : Handled} {rest : List Bool} (read : isWrtOp msg = false)
    : (invoke env msg list).run script = .ok ((0, handled), rest)
      ↔ (dispatch msg list).run script = .ok (handled, rest) := by
  cases ran : (dispatch msg list).run script with
  | error fault => simp [run_invoke_fault env ran]
  | ok result =>
      obtain ⟨⟨reply, after⟩, left⟩ := result
      have kept : mustForward msg reply = false := by simp [mustForward, read]
      simp [run_invoke_kept env ran kept]

/-- A request for the ordered list leaves an error over a changed list exactly when it loses
its reply.
-/
theorem invoke_getlistbyear (order : msg.opcode = Opcode.opGetlistbytear)
    : FailsAtomically env msg list script ↔ ¬LosesReply msg list script := by
  have read : isWrtOp msg = false := by
    unfold isWrtOp
    rw [order]
    decide
  have error_ne : msg.opcode + 1 ≠ Opcode.opError := by
    rw [order]
    decide
  unfold FailsAtomically LosesReply
  simp only [invoke_eq_dispatch read, dispatch_getlistbyear list order]
  by_cases typed : msg.cType = CType.ctNone
  · cases granted : grants (replyAllocations list) script with
    | true =>
        refine iff_of_true ?_ (by simp)
        intro reply after rest ran error
        rcases run_handleGetlistbyear list typed granted with ⟨faulted, -⟩ | returned
        · rw [faulted] at ran
          cases ran
        · rw [returned] at ran
          cases ran
          exact absurd error error_ne
    | false =>
        obtain ⟨rest, returned⟩ := run_handleGetlistbyear_refused list typed granted
        rw [returned]
        simp only [order, typed, and_true, true_and, not_not]
        constructor
        · intro atomic
          exact ListT.ordered_eq_self.mp (atomic _ _ _ rfl rfl)
        · intro sorted reply after remaining ran _
          cases ran
          exact ListT.ordered_eq_self.mpr sorted
  · refine iff_of_true ?_ (by simp [typed])
    intro reply after rest ran _
    rw [run_handleGetlistbyear_mistyped list script typed] at ran
    cases ran
    rfl

/-- A request is atomic in failure exactly when it neither loses its forwarding nor its
reply, by the opcode and, for writes, by whether the local effect succeeds.
-/
theorem invoke_failsAtomically_iff (env : ForwardEnv Conn) (msg : MessageT) (list : ListT)
    (script : List Bool)
    : FailsAtomically env msg list script
      ↔ ¬LosesForward env msg list script ∧ ¬LosesReply msg list script := by
  by_cases write : isWrtOp msg = true
  · have noOrder : ¬LosesReply msg list script := by
      intro h
      obtain ⟨order, -⟩ := h
      rw [isWrtOp, order] at write
      exact absurd write (by decide)
    by_cases accepted : WriteAccepted msg list script
    · simp [invoke_accepted accepted, LosesForward, accepted, noOrder]
    · simp [invoke_refused write accepted, LosesForward, accepted, noOrder]
  · have noForward : ¬LosesForward env msg list script := fun lost =>
      write (run_dispatch_accepted lost.1).1
    by_cases order : msg.opcode = Opcode.opGetlistbytear
    · simp [invoke_getlistbyear order, noForward]
    · have kept : Keeps list (dispatch msg list) :=
        dispatch_keeps list (by simpa [mayChange, order] using write)
      refine iff_of_true ?_ ⟨noForward, fun lost => order lost.1⟩
      intro reply after rest ran _
      exact kept _ _ _ ((invoke_eq_dispatch (by simpa using write)).mp ran)

/-- A head that knows it has a successor but holds no connection to it refuses an ADD whose
car is in its list by then.
-/
theorem invoke_add_without_connection
    : ¬FailsAtomically
      (ForwardEnv.steady (⟨none, 0, 2⟩ : ChainView Unit) (fun _ _ => none))
      (addRequest (clio 2020)) listCreate [] := by
  intro atomic
  exact absurd (atomic _ _ _ rfl rfl) (by decide)

end CarChain
