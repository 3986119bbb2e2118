import CarChain.Model.Forward
import CarChain.Model.Wire

/-! What `zk_forward` returns for every outcome of its attempts.

The code tests the opcode of a reply without testing that there is one, while every other
caller of `network_send_receive` tests for NULL first. So the promised outcomes hold up to the
attempts whose exchange yields no reply, and exactly there.
-/

namespace CarChain

variable {Conn : Type} {env : ForwardEnv Conn} {msg : MessageT}

namespace ForwardEnv

/-- The attempts whose exchanges run on sockets. -/
def overSockets (pb : Protobuf) (view : Nat → ChainView Conn) (socket : Nat → Transport)
    : ForwardEnv Conn :=
  ⟨view, fun attempt _ msg => networkSendReceive pb (socket attempt) msg⟩

/-- The call never faults, and returns 0 when some attempt succeeds and −1 otherwise. -/
structure Survives (env : ForwardEnv Conn) (msg : MessageT) : Prop where
  noFault : ∀ fault, zkForward env (some msg) ≠ .error fault
  success : zkForward env (some msg) = .ok 0 ↔ env.Succeeds msg
  failure : zkForward env (some msg) = .ok (-1) ↔ ¬env.Succeeds msg

end ForwardEnv

/-- A stream that ends inside a frame leaves the attempt without a reply. -/
theorem unanswered_of_no_frame {pb : Protobuf} {view : Nat → ChainView Conn}
    {socket : Nat → Transport} {attempt : Nat} {next : Conn}
    (hop : (view attempt).hop = .send next) (cut : frameOf (stream (socket attempt).reads) = none)
    : (ForwardEnv.overSockets pb view socket).Unanswered msg attempt := by
  refine ⟨next, hop, ?_⟩
  rw [Option.eq_none_iff_forall_not_mem]
  intro reply received
  obtain ⟨-, -, packed, whole, -⟩ := networkSendReceive_eq_some.mp received
  rw [cut] at whole
  cases whole

/-- Forwarding keeps its promise exactly when every reached attempt that exchanges messages
gets some reply.
-/
theorem zkForward_survives_iff (env : ForwardEnv Conn) (msg : MessageT)
    : env.Survives msg ↔ env.Answered msg := by
  constructor
  · intro survives
    by_contra unanswered
    exact survives.noFault _ (zkForward_of_unanswered unanswered)
  · intro answered
    rcases zkForward_of_answered answered with ⟨zero, succeeds⟩ | ⟨failed, fails⟩
    · exact ⟨by simp [zero], by simp [zero, succeeds], by simp [zero, succeeds]⟩
    · exact ⟨by simp [failed], by simp [failed, fails], by simp [failed, fails]⟩

/-- An exchange that writes its whole frame and then meets the end of the stream, because the
server at the other end is gone.
-/
def Transport.closedByPeer : Transport where
  writes := []
  sendBuffer := true
  reads := [.received []]
  receiveBuffer := true

/-- The bytes of one message, and of no other one. -/
def Protobuf.only (msg : MessageT) (packed : List UInt8) : Protobuf where
  pack _ := packed
  unpack bytes := if bytes = packed then some msg else none

/-- The call of a head whose successor is gone faults: the update that would tell it so comes
later.
-/
theorem zkForward_crashed_successor
    : ¬(ForwardEnv.overSockets
        (.only (addRequest (clio 2020))
          [8, 10, 16, 10, 26, 11, 8, 228, 15, 24, 2, 34, 4, 67, 108, 105, 111])
        (fun _ => ChainView.connected 0 2 ())
        (fun _ => Transport.closedByPeer)).Survives
      (addRequest (clio 2020)) := by
  intro survives
  exact survives.noFault .nullDereference (by decide)

end CarChain
