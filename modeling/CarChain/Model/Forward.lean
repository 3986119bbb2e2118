import CarChain.Model.Message

/-! Forwarding a write to the next server (`zk_forward`).

`zk_forward` reads three fields of `zk_state` under its mutex and then exchanges one message
with the successor, at most twice. Connections are a parameter: what matters of one here is
which server answers on it.
-/

namespace CarChain

open CRuntime

/-- The fields of `zk_state` that `zk_forward` reads in one critical section. -/
structure ChainView (Conn : Type) where
  successor : Option Conn
  nodeIndex : Int
  chainSize : Int
  deriving DecidableEq

namespace ChainView

variable {Conn : Type}

def hasSuccessor (view : ChainView Conn) : Bool := view.nodeIndex < view.chainSize - 1

/-- The view of a server that is last of a chain of this many. -/
def last (chainSize : Nat) : ChainView Conn := ⟨none, chainSize - 1, chainSize⟩

/-- The view of a server with an open connection to the next one. -/
def connected (index chainSize : Nat) (next : Conn) : ChainView Conn :=
  ⟨some next, index, chainSize⟩

end ChainView

/-- What one attempt does with the view it read. -/
inductive Hop (Conn : Type) where
  | stop
  | missing
  | send (next : Conn)
  deriving DecidableEq

/-- No forwarding for the last server, failure without a connection, else an exchange. -/
def ChainView.hop {Conn : Type} (view : ChainView Conn) : Hop Conn :=
  if view.hasSuccessor then
    match view.successor with
    | none => .missing
    | some next => .send next
  else
    .stop

/-- The test `reply->opcode == msg->opcode + 1`. -/
def acknowledges (reply msg : MessageT) : Bool := reply.opcode = msg.opcode + 1

/-- What the attempts of one call meet: the view each reads, and what `network_send_receive`
returns for a message on the connection in that view.
-/
structure ForwardEnv (Conn : Type) where
  view : Nat → ChainView Conn
  exchange : Nat → Conn → MessageT → Option MessageT

variable {Conn : Type}

/-- The loop of `zk_forward` from an attempt on, with a number of attempts left. The reply is
dereferenced before anything checks that there is one.
-/
def zkForwardFrom (env : ForwardEnv Conn) (msg : MessageT) : Nat → Nat → Except Fault Int32
  | _, 0 => .ok (-1)
  | attempt, left + 1 =>
      match (env.view attempt).hop with
      | .stop => .ok 0
      | .missing => .ok (-1)
      | .send next =>
          match env.exchange attempt next msg with
          | none => .error .nullDereference
          | some reply =>
              if acknowledges reply msg then .ok 0 else zkForwardFrom env msg (attempt + 1) left

/-- `zk_forward` makes two attempts. -/
def zkForward (env : ForwardEnv Conn) : Option MessageT → Except Fault Int32
  | none => .ok (-1)
  | some msg => zkForwardFrom env msg 0 2

/-- The environment of a call that meets the same view and the same partner each time. -/
def ForwardEnv.steady (view : ChainView Conn) (exchange : Conn → MessageT → Option MessageT)
    : ForwardEnv Conn :=
  ⟨fun _ => view, fun _ => exchange⟩

namespace ForwardEnv

variable (env : ForwardEnv Conn) (msg : MessageT)

/-- An attempt ends the call with success: the server is last, or the reply acknowledges. -/
def Delivers (attempt : Nat) : Prop :=
  (env.view attempt).hop = .stop
  ∨ ∃ next reply,
      (env.view attempt).hop = .send next
      ∧ env.exchange attempt next msg = some reply
      ∧ acknowledges reply msg = true

/-- An attempt leads to a further one: it exchanged messages and was not acknowledged. A
missing reply counts as one that does not acknowledge.
-/
def Repeats (attempt : Nat) : Prop :=
  ∃ next,
    (env.view attempt).hop = .send next
    ∧ ∀ reply, env.exchange attempt next msg = some reply → acknowledges reply msg = false

/-- An attempt whose exchange yields no reply. -/
def Unanswered (attempt : Nat) : Prop :=
  ∃ next, (env.view attempt).hop = .send next ∧ env.exchange attempt next msg = none

/-- Some attempt that is reached delivers. The second one is reached when the first one
exchanged messages without an acknowledgement, a missing reply included.
-/
def Succeeds : Prop :=
  env.Delivers msg 0 ∨ env.Repeats msg 0 ∧ env.Delivers msg 1

/-- Every reached attempt that exchanges messages is answered. -/
def Answered : Prop :=
  ¬env.Unanswered msg 0 ∧ (env.Repeats msg 0 → ¬env.Unanswered msg 1)

end ForwardEnv

variable {env : ForwardEnv Conn} {msg : MessageT}

/-- Every attempt delivers, repeats, or gives up for want of a connection. -/
theorem ForwardEnv.cases (env : ForwardEnv Conn) (msg : MessageT) (attempt : Nat)
    : env.Delivers msg attempt
      ∨ env.Repeats msg attempt
      ∨ (env.view attempt).hop = .missing := by
  unfold ForwardEnv.Delivers ForwardEnv.Repeats
  cases hop : (env.view attempt).hop with
  | stop => simp
  | missing => simp
  | send next =>
      cases answer : env.exchange attempt next msg with
      | none => simp [answer]
      | some reply => cases accepted : acknowledges reply msg <;> simp [answer, accepted]

/-- An attempt that delivers ends the loop with 0, whatever attempts are left. -/
theorem zkForwardFrom_delivers {attempt left : Nat} (h : env.Delivers msg attempt)
    : zkForwardFrom env msg attempt (left + 1) = .ok 0 := by
  rcases h with last | ⟨next, reply, hop, answer, accepted⟩
  · simp [zkForwardFrom, last]
  · simp [zkForwardFrom, hop, answer, accepted]

theorem zkForwardFrom_missing {attempt left : Nat} (h : (env.view attempt).hop = .missing)
    : zkForwardFrom env msg attempt (left + 1) = .ok (-1) := by
  simp [zkForwardFrom, h]

/-- An answered attempt that repeats hands over to the next one. -/
theorem zkForwardFrom_repeats {attempt left : Nat} (h : env.Repeats msg attempt)
    (answered : ¬env.Unanswered msg attempt)
    : zkForwardFrom env msg attempt (left + 1) = zkForwardFrom env msg (attempt + 1) left := by
  obtain ⟨next, hop, refused⟩ := h
  cases answer : env.exchange attempt next msg with
  | none => exact absurd ⟨next, hop, answer⟩ answered
  | some reply => simp [zkForwardFrom, hop, answer, refused reply answer]

/-- An unanswered attempt dereferences the missing reply. -/
theorem zkForwardFrom_unanswered {attempt left : Nat} (h : env.Unanswered msg attempt)
    : zkForwardFrom env msg attempt (left + 1) = .error .nullDereference := by
  obtain ⟨next, hop, answer⟩ := h
  simp [zkForwardFrom, hop, answer]

/-- An attempt delivers or not; without a connection it does not, and neither when it
repeats.
-/
theorem not_delivers_of_missing {attempt : Nat} (h : (env.view attempt).hop = .missing)
    : ¬env.Delivers msg attempt ∧ ¬env.Repeats msg attempt := by
  simp [ForwardEnv.Delivers, ForwardEnv.Repeats, h]

theorem not_delivers_of_repeats {attempt : Nat} (h : env.Repeats msg attempt)
    : ¬env.Delivers msg attempt := by
  obtain ⟨next, hop, refused⟩ := h
  intro given
  rcases given with last | ⟨other, reply, same, answer, accepted⟩
  · rw [hop] at last
    cases last
  · rw [hop] at same
    cases same
    rw [refused reply answer] at accepted
    cases accepted

/-- When every reached attempt is answered, the value returned is the promised one, by the
outcome of the first attempt and, where it repeats, of the second.
-/
theorem zkForward_of_answered (h : env.Answered msg)
    : zkForward env (some msg) = .ok 0 ∧ env.Succeeds msg
      ∨ zkForward env (some msg) = .ok (-1) ∧ ¬env.Succeeds msg := by
  obtain ⟨first, second⟩ := h
  unfold ForwardEnv.Succeeds
  rcases env.cases msg 0 with delivers | repeats | missing
  · exact .inl ⟨zkForwardFrom_delivers delivers, .inl delivers⟩
  · have reached : zkForward env (some msg) = zkForwardFrom env msg 1 1 :=
      zkForwardFrom_repeats repeats first
    rw [reached]
    rcases env.cases msg 1 with delivers | again | missing
    · exact .inl ⟨zkForwardFrom_delivers delivers, .inr ⟨repeats, delivers⟩⟩
    · refine .inr ⟨?_, ?_⟩
      · rw [zkForwardFrom_repeats again (second repeats)]
        rfl
      · simp [not_delivers_of_repeats repeats, not_delivers_of_repeats again]
    · refine .inr ⟨zkForwardFrom_missing missing, ?_⟩
      simp [not_delivers_of_repeats repeats, not_delivers_of_missing missing]
  · refine .inr ⟨zkForwardFrom_missing missing, ?_⟩
    simp [not_delivers_of_missing missing]

/-- A reached attempt without a reply faults. -/
theorem zkForward_of_unanswered (h : ¬env.Answered msg)
    : zkForward env (some msg) = .error .nullDereference := by
  by_cases first : env.Unanswered msg 0
  · exact zkForwardFrom_unanswered first
  · have repeats : env.Repeats msg 0 := by
      by_contra stopped
      exact h ⟨first, fun repeats => absurd repeats stopped⟩
    have second : env.Unanswered msg 1 := by
      by_contra answered
      exact h ⟨first, fun _ => answered⟩
    exact (zkForwardFrom_repeats repeats first).trans (zkForwardFrom_unanswered second)

end CarChain
