import CarChain.Library.StepSystem
import CarChain.Model.Skeleton
import CarChain.Model.Stream

/-! Exchanges that follow one another on one connection.

Neither requests nor replies are numbered: which reply belongs to which request is a matter of
where both streams stand. A call that fails returns NULL and leaves the socket open.
-/

namespace CarChain

open CStandard

/-- A server that answers each frame it receives with one frame; the answer may depend on
everything received before.
-/
structure Answering where
  reply : List (List UInt8) → List UInt8
  nonempty : ∀ received, reply received ≠ []
  fits : ∀ received, (reply received).length ≤ uint16Max

/-- The whole frames at the front of a stream. -/
def framesIn : Nat → List UInt8 → List (List UInt8)
  | 0, _ => []
  | fuel + 1, bytes =>
      match frameOf bytes with
      | none => []
      | some packed => packed :: framesIn fuel (bytes.drop (frame packed).length)

/-- The bytes with which the server answers frames that follow those before. -/
def Answering.answers (server : Answering) : List (List UInt8) → List (List UInt8) → List UInt8
  | _, [] => []
  | before, packed :: later =>
      frame (server.reply (before ++ [packed])) ++ server.answers (before ++ [packed]) later

/-- An open connection: what the client has put on it, and how many bytes of the answers it
has taken off it.
-/
structure Link where
  sent : List UInt8
  taken : Nat
  deriving DecidableEq

namespace Link

def opened : Link := ⟨[], 0⟩

/-- The frames the server has received. -/
def received (link : Link) : List (List UInt8) := framesIn link.sent.length link.sent

/-- The bytes of the answers that the client has not taken yet. -/
def pending (server : Answering) (link : Link) : List UInt8 :=
  (server.answers [] link.received).drop link.taken

/-- A call of `network_send_receive`: the message, and what happens on the socket. -/
abbrev Call := MessageT × Transport

/-- The bytes a call puts on the stream. -/
def put (pb : Protobuf) (call : Call) : List UInt8 :=
  (clientSend pb call.2.sendBuffer call.2.writes call.1).put

/-- The connection after the sending half of a call. -/
def afterSend (pb : Protobuf) (link : Link) (call : Call) : Link :=
  { link with sent := link.sent ++ put pb call }

/-- What a call leaves of the connection; it receives only when sending succeeded. -/
def afterCall (pb : Protobuf) (link : Link) (call : Call) : Link :=
  if sendMessage pb call.2 call.1 ≠ 0 then link.afterSend pb call
  else
    {
      link.afterSend pb call with
      taken := link.taken + receivedBytes call.2.receiveBuffer call.2.reads
    }

/-- The reads of a call deliver bytes that the server has sent by then, in order. -/
def Delivers (pb : Protobuf) (server : Answering) (link : Link) (call : Call) : Prop :=
  (stream call.2.reads).IsPrefix ((link.afterSend pb call).pending server)

/-- A response that the call returns is the server's reply to the request of the call. -/
def Correlated (pb : Protobuf) (server : Answering) (link : Link) (call : Call) : Prop :=
  ∀ response,
    networkSendReceive pb call.2 call.1 = some response
    → (link.afterSend pb call).received = link.received ++ [pb.pack call.1]
      ∧ pb.unpack (server.reply (link.received ++ [pb.pack call.1])) = some response

/-- The call leaves no exchange unfinished: the writes accepted no byte of the request, or they
accepted its frame, the buffer for the reply was allocated and the reads delivered the frame
of the server's reply to it.
-/
def Settles (pb : Protobuf) (server : Answering) (link : Link) (call : Call) : Prop :=
  put pb call = []
  ∨ put pb call = frame (pb.pack call.1)
    ∧ call.2.receiveBuffer = true
    ∧ stream call.2.reads = frame (server.reply (link.received ++ [pb.pack call.1]))

/-- The connections reached by calls that meet the guard. -/
abbrev Reached (pb : Protobuf) (guard : Link → Call → Prop) : Link → Prop :=
  StepSystem.Reaches (fun link call => some (link.afterCall pb call)) guard opened

end Link

-----------------------------------------------------------------------------------------
-- Frames on a stream
-----------------------------------------------------------------------------------------

/-- The packed form of a message that a frame can carry. -/
def Sendable (packed : List UInt8) : Prop := packed ≠ [] ∧ packed.length ≤ uint16Max

/-- The frames put on a stream are the frames found in it, by induction on them. -/
theorem framesIn_frames {packeds : List (List UInt8)}
    (sendable : ∀ packed ∈ packeds, Sendable packed)
    {rest : List UInt8} (incomplete : frameOf rest = none) {fuel : Nat}
    (enough : (packeds.flatMap frame ++ rest).length ≤ fuel)
    : framesIn fuel (packeds.flatMap frame ++ rest) = packeds := by
  induction packeds generalizing fuel with
  | nil => cases fuel <;> simp [framesIn, incomplete]
  | cons packed later ih =>
      obtain ⟨nonempty, fits⟩ := sendable packed (by simp)
      rw [List.flatMap_cons, List.append_assoc] at enough ⊢
      obtain ⟨fuel, rfl⟩ := Nat.exists_eq_succ_of_ne_zero (show fuel ≠ 0 by
        simp only [List.length_append, frame, networkOrder, List.length_cons] at enough
        omega)
      have fewer : (later.flatMap frame ++ rest).length ≤ fuel := by
        simp only [List.length_append, frame, networkOrder, List.length_cons] at enough ⊢
        omega
      have others := ih (fun packed member => sendable packed (List.mem_cons_of_mem _ member)) fewer
      simp only [framesIn, frameOf_frame _ nonempty fits]
      rw [List.drop_left, others]

theorem answers_append (server : Answering) (before front : List (List UInt8)) (packed : List UInt8)
    : server.answers before (front ++ [packed])
      = server.answers before front ++ frame (server.reply (before ++ front ++ [packed])) := by
  induction front generalizing before with
  | nil => simp [Answering.answers]
  | cons first front ih => simp [Answering.answers, ih]

namespace Link

variable {pb : Protobuf} {server : Answering} {link : Link} {call : Call}

/-- Both streams stand at the end of an exchange: whole frames have been put on one, and all
the answers to them have been taken off the other.
-/
def InStep (server : Answering) (link : Link) : Prop :=
  ∃ packeds : List (List UInt8),
    (∀ packed ∈ packeds, Sendable packed)
    ∧ link.sent = packeds.flatMap frame
    ∧ link.taken = (server.answers [] packeds).length

theorem received_of_sent {packeds : List (List UInt8)}
    (sendable : ∀ packed ∈ packeds, Sendable packed) (sent : link.sent = packeds.flatMap frame)
    : link.received = packeds := by
  have found := framesIn_frames sendable (show frameOf [] = none from rfl) (Nat.le_refl _)
  rw [List.append_nil] at found
  rw [received, sent]
  exact found

/-- A request that is sent was put on the stream whole; what was not sent is unanswered. -/
theorem sendMessage_eq_zero
    : sendMessage pb call.2 call.1 = 0 ↔ put pb call = frame (pb.pack call.1) := by
  rw [sendMessage_eq]
  exact (sendFrame_put pb call.2.sendBuffer call.2.writes call.1).2

/-- A request whose frame was put on the stream had an admissible size. -/
theorem fits_of_put (whole : put pb call = frame (pb.pack call.1))
    : (pb.pack call.1).length ≤ uint16Max := by
  by_contra large
  have none_put : put pb call = [] := by
    rw [put, clientSend, sendFrame_oversized (Nat.lt_of_not_le large)]
  rw [none_put] at whole
  simp [frame, networkOrder] at whole

/-- After a request that can be answered, the server has received its frame next, and what is
pending is the answer to it.
-/
theorem InStep.afterSend (inStep : link.InStep server)
    (whole : put pb call = frame (pb.pack call.1)) (nonempty : pb.pack call.1 ≠ [])
    : (link.afterSend pb call).received = link.received ++ [pb.pack call.1]
      ∧ (link.afterSend pb call).pending server
        = frame (server.reply (link.received ++ [pb.pack call.1])) := by
  obtain ⟨packeds, sendable, sent, taken⟩ := inStep
  have fits := fits_of_put whole
  have before := received_of_sent sendable sent
  have after : (link.afterSend pb call).received = packeds ++ [pb.pack call.1] := by
    refine received_of_sent (fun packed member => ?_) (by simp [Link.afterSend, sent, whole])
    rcases List.mem_append.mp member with early | last
    · exact sendable packed early
    · rw [List.mem_singleton.mp last]
      exact ⟨nonempty, fits⟩
  refine ⟨by rw [after, before], ?_⟩
  rw [pending, after, answers_append, before]
  simp [Link.afterSend, taken]

/-- An empty request is no frame to the server: nothing is pending after it. -/
theorem InStep.afterSend_empty (inStep : link.InStep server)
    (whole : put pb call = frame (pb.pack call.1)) (empty : pb.pack call.1 = [])
    : (link.afterSend pb call).pending server = [] := by
  obtain ⟨packeds, sendable, sent, taken⟩ := inStep
  have sent' : (link.afterSend pb call).sent = packeds.flatMap frame ++ frame [] := by
    simp [Link.afterSend, sent, whole, empty]
  have after : (link.afterSend pb call).received = packeds := by
    rw [received, sent']
    exact framesIn_frames sendable (by simp [frame, networkOrder, frameOf, hostOrder])
      (Nat.le_refl _)
  rw [pending, after]
  simp [Link.afterSend, taken]

/-- From streams in step, whatever fails in a call, a response it returns is the reply to its
own request: what it can read is a part of that reply and of nothing else.
-/
theorem InStep.correlated (inStep : link.InStep server) (delivered : Delivers pb server link call)
    : Correlated pb server link call := by
  intro response returned
  obtain ⟨sent, -, packed, arrived, unpacked⟩ := networkSendReceive_eq_some.mp returned
  have whole := sendMessage_eq_zero.mp sent
  unfold Delivers at delivered
  by_cases empty : pb.pack call.1 = []
  · rw [inStep.afterSend_empty whole empty] at delivered
    rw [List.prefix_nil.mp delivered] at arrived
    cases arrived
  · obtain ⟨received, pending⟩ := inStep.afterSend whole empty
    refine ⟨received, ?_⟩
    rw [pending] at delivered
    have nonempty := server.nonempty (link.received ++ [pb.pack call.1])
    have fits := server.fits (link.received ++ [pb.pack call.1])
    by_cases all : stream call.2.reads = frame (server.reply (link.received ++ [pb.pack call.1]))
    · rw [all, ← List.append_nil (frame _), frameOf_frame [] nonempty fits] at arrived
      rw [Option.some.inj arrived]
      exact unpacked
    · rw [frameOf_cut fits delivered all] at arrived
      cases arrived

/-- A call that settles leaves the streams in step. -/
theorem InStep.afterCall (inStep : link.InStep server) (delivered : Delivers pb server link call)
    (settles : Settles pb server link call)
    : (link.afterCall pb call).InStep server := by
  rcases settles with nothing | ⟨whole, buffer, answered⟩
  · have unsent : sendMessage pb call.2 call.1 ≠ 0 := by
      rw [Ne, sendMessage_eq_zero, nothing]
      simp [frame, networkOrder]
    obtain ⟨packeds, sendable, sent, taken⟩ := inStep
    refine ⟨packeds, sendable, ?_, ?_⟩
    · simp [Link.afterCall, unsent, Link.afterSend, nothing, sent]
    · simp [Link.afterCall, unsent, Link.afterSend, taken]
  · have nonempty : pb.pack call.1 ≠ [] := by
      intro empty
      unfold Delivers at delivered
      rw [inStep.afterSend_empty whole empty, answered] at delivered
      simp [frame, networkOrder] at delivered
    have sent : sendMessage pb call.2 call.1 = 0 := sendMessage_eq_zero.mpr whole
    obtain ⟨packeds, sendable, before, taken⟩ := inStep
    have received := received_of_sent sendable before
    refine ⟨packeds ++ [pb.pack call.1], fun packed member => ?_, ?_, ?_⟩
    · rcases List.mem_append.mp member with early | last
      · exact sendable packed early
      · rw [List.mem_singleton.mp last]
        exact ⟨nonempty, fits_of_put whole⟩
    · simp [Link.afterCall, sent, Link.afterSend, before, whole]
    · have length := receivedBytes_frame answered (server.nonempty _) (server.fits _)
      rw [received] at length
      simp [Link.afterCall, sent, buffer, length, taken, answers_append]

/-- On a connection all of whose calls so far left no exchange unfinished, whatever fails in
the next call, a response it returns is the server's reply to the request it sent.
-/
theorem response_correlated
    (reached
      : Reached pb (fun link call => Delivers pb server link call ∧ Settles pb server link call)
          link)
    (delivered : Delivers pb server link call)
    : Correlated pb server link call := by
  have inStep : link.InStep server := by
    refine reached.invariant ⟨[], by simp, rfl, rfl⟩ ?_
    rintro link call after inStep ⟨delivered, settles⟩ ⟨⟩
    exact inStep.afterCall delivered settles
  exact inStep.correlated delivered

-----------------------------------------------------------------------------------------
-- Two exchanges
-----------------------------------------------------------------------------------------

instance : Decidable (Delivers pb server link call) := inferInstanceAs (Decidable (_ <+: _))

instance : Decidable (Settles pb server link call) := inferInstanceAs (Decidable (_ ∨ _ ∧ _ ∧ _))

/-- The reply to an addition, and to a request for the size after it. -/
def addReply : MessageT := (addRequest (clio 2020)).setSuccess CType.ctNone

def sizeReply : MessageT := { sizeRequest with result := 1 }.setSuccess CType.ctResult

def addReplyBytes : List UInt8 :=
  [8, 11, 16, 70, 26, 11, 8, 228, 15, 24, 2, 34, 4, 67, 108, 105, 111]

def sizeReplyBytes : List UInt8 := [8, 41, 16, 50, 48, 2]

def twoExchanges : Protobuf :=
  .table
    [(addRequest (clio 2020), [8, 10, 16, 10, 26, 11, 8, 228, 15, 24, 2, 34, 4, 67, 108, 105, 111]),
      (sizeRequest, [8, 40, 16, 70]), (addReply, addReplyBytes), (sizeReply, sizeReplyBytes)]

/-- The server that gets the addition first and then requests for the size. -/
def oneCar : Answering where
  reply received := if received.length = 1 then addReplyBytes else sizeReplyBytes
  nonempty received := by split <;> decide
  fits received := by split <;> decide

/-- A call whose request is written, and whose reads meet these results. -/
def reading (msg : MessageT) (reads : List ReadResult) : Call :=
  (msg, ⟨[.sent 1], true, reads, true⟩)

theorem response_correlated_two
    : let link := opened.afterCall twoExchanges
        (reading (addRequest (clio 2020)) [.received [0, 17], .received addReplyBytes])
      let call := reading sizeRequest [.received [0], .interrupted, .received (6 :: sizeReplyBytes)]
      networkSendReceive twoExchanges call.2 call.1 = some sizeReply
      ∧ Correlated twoExchanges oneCar link call :=
  ⟨by decide, response_correlated (.next .start ⟨by decide, by decide⟩ rfl) (by decide)⟩

/-- The read of the first reply fails; the second call returns that reply as its own. -/
theorem response_stale
    : ∃ link call,
        Reached twoExchanges (Delivers twoExchanges oneCar) link
        ∧ Delivers twoExchanges oneCar link call
        ∧ ¬Correlated twoExchanges oneCar link call := by
  refine ⟨opened.afterCall twoExchanges (reading (addRequest (clio 2020)) [.failed]),
    reading sizeRequest [.received (frame addReplyBytes)], .next .start (by decide) rfl,
    by decide, ?_⟩
  intro correlated
  obtain ⟨-, unpacked⟩ := correlated addReply (by decide)
  exact absurd unpacked (by decide)

end Link

end CarChain
