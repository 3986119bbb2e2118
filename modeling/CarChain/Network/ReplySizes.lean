import Mathlib.Algebra.GroupWithZero.Nat
import CarChain.Model.ReadSpecs
import CarChain.Model.Stub

/-! Which replies of a server can be sent back.

Requests are bounded by one frame each, but a reply may carry something of every car in the
list, which grows without a bound.
-/

namespace CarChain

open CRuntime CStandard

/-- The strings that packing a message writes. -/
def MessageT.strings (msg : MessageT) : List CString :=
  (msg.data.bind Data.modelo).toList
    ++ ((msg.models.getD []).take msg.nModels).filterMap id
    ++ ((msg.cars.getD []).take msg.nCars).filterMap (fun car => car.bind Data.modelo)

/-- The sum of the lengths of its strings. -/
def MessageT.stringBytes (msg : MessageT) : Nat := (msg.strings.map CString.strlen).sum

/-- A packed message is at least as long as its strings. -/
def Protobuf.PacksStrings (pb : Protobuf) : Prop :=
  ∀ msg, msg.stringBytes ≤ (pb.pack msg).length

def Protobuf.Fits (pb : Protobuf) (msg : MessageT) : Prop := (pb.pack msg).length ≤ uint16Max

/-- The lists a server gets to by additions that it received and accepted. -/
inductive Accepted (pb : Protobuf) : ListT → Prop
  | create : Accepted pb listCreate
  | add {list after : ListT} {request reply : MessageT} {script rest : List Bool}
    (before : Accepted pb list) (addition : request.opcode = Opcode.opAdd)
    (received : pb.Fits request)
    (invoked : (invoke .alone request list).run script = .ok ((0, reply, after), rest))
    (accepted : reply.opcode = request.opcode + 1)
    : Accepted pb after

/-- A request to read, order or remove. -/
def OtherRequest (msg : MessageT) : Prop :=
  msg.opcode = Opcode.opGet
  ∨ msg.opcode = Opcode.opGetmodels
  ∨ msg.opcode = Opcode.opGetlistbytear
  ∨ msg.opcode = Opcode.opSize
  ∨ msg.opcode = Opcode.opDel

/-- On every such list, every reply of success to such a request fits in a frame. -/
def EveryReplyFits (pb : Protobuf) : Prop :=
  ∀ list request script reply after rest,
    Accepted pb list
    → OtherRequest request
    → (invoke .alone request list).run script = .ok ((0, reply, after), rest)
    → reply.opcode = request.opcode + 1
    → pb.Fits reply

-----------------------------------------------------------------------------------------
-- Replies that do not fit
-----------------------------------------------------------------------------------------

section

variable {pb : Protobuf} {car : DataT}

/-- An addition that is received is accepted by a server that can allocate. -/
theorem Accepted.appended {list : ListT} (before : Accepted pb list)
    (received : pb.Fits (addRequest car))
    : Accepted pb (list.appended car) := by
  obtain ⟨rest, ran⟩ := run_handleAdd (addRequest car) list []
  have named : requestedCar (addRequest car) = some car := rfl
  rw [named, ← dispatch_add list rfl] at ran
  exact before.add rfl received (run_invoke_alone ran) rfl

theorem addRequest_stringBytes (car : DataT)
    : (addRequest car).stringBytes = car.modelo.strlen := by
  simp [MessageT.stringBytes, MessageT.strings, addRequest, DataT.toPb, MessageT.init]

/-- The reply that carries the models of a list. -/
def modelsReply (models : List CString) : MessageT :=
  {
    MessageT.init with
    opcode := Opcode.opGetmodels
    cType := CType.ctNone
    nModels := models.length
    models := some (nullTerminated models)
  }.setSuccess CType.ctModel

theorem modelsReply_stringBytes (models : List CString)
    : (modelsReply models).stringBytes = (models.map CString.strlen).sum := by
  simp [MessageT.stringBytes, MessageT.strings, modelsReply, MessageT.setSuccess, MessageT.init,
    List.filterMap_map]

/-- A request for the models is answered with all of them. -/
theorem run_invoke_getmodels (list : ListT)
    : (invoke .alone getmodelsRequest list).run []
      = .ok ((0, modelsReply list.models, list), []) := by
  have ran := @run_handleGetmodels getmodelsRequest list [] rfl (grants_nil _)
  rw [← dispatch_getmodels _ rfl, List.drop_nil] at ran
  exact run_invoke_alone ran

/-- Two cars whose models add up to more than a frame make the list of models too large. -/
theorem not_everyReplyFits (packs : pb.PacksStrings) (received : pb.Fits (addRequest car))
    (long : uint16Max < 2 * car.modelo.strlen)
    : ¬EveryReplyFits pb := by
  intro every
  have start : Accepted pb listCreate := .create
  have reached := (start.appended received).appended received
  have fits : pb.Fits (modelsReply [car.modelo, car.modelo]) :=
    every _ _ _ _ _ _ reached (.inr (.inl rfl)) (run_invoke_getmodels _) rfl
  have strings := packs (modelsReply [car.modelo, car.modelo])
  rw [modelsReply_stringBytes] at strings
  simp only [List.map_cons, List.map_nil, List.sum_cons, List.sum_nil] at strings
  unfold Protobuf.Fits at fits
  omega

end

/-- A codec that writes nothing but the strings, behind one byte. -/
def Protobuf.strings : Protobuf where
  pack msg := 8 :: msg.strings.flatMap CString.bytes
  unpack _ := none

theorem Protobuf.strings_length (msg : MessageT)
    : (Protobuf.strings.pack msg).length = msg.stringBytes + 1 := by
  rw [Protobuf.strings, List.length_cons, List.length_flatMap]
  rfl

/-- A car whose model has this many letters. -/
def lettered (count : Nat) : DataT :=
  { clio 2020 with modelo := ⟨List.replicate count 65, by simp [List.mem_replicate]⟩ }

theorem lettered_strlen (count : Nat) : (lettered count).modelo.strlen = count :=
  List.length_replicate

/-- Not every reply of success can be sent: two accepted cars with models of 40000 letters
make the reply to a request for the models too large for a frame.
-/
theorem replies_exceed_frame : ¬∀ pb : Protobuf, pb.PacksStrings → EveryReplyFits pb := by
  intro every
  have length := lettered_strlen 40000
  have packs : Protobuf.strings.PacksStrings := by
    intro msg
    rw [Protobuf.strings_length]
    omega
  have received : Protobuf.strings.Fits (addRequest (lettered 40000)) := by
    rw [Protobuf.Fits, Protobuf.strings_length, addRequest_stringBytes, length]
    decide
  exact not_everyReplyFits packs received (by rw [length]; decide) (every _ packs)

-----------------------------------------------------------------------------------------
-- What happens to a reply
-----------------------------------------------------------------------------------------

/-- On a working connection a reply of success to such a request is sent, received by the
client, and the connection stays open, when its packed size is within the frame limit; a
larger one is refused, and no byte of it is sent.
-/
theorem serveRequest_reply {pb : Protobuf} {Conn : Type} {env : ForwardEnv Conn}
    {request reply : MessageT} {list after : ListT} {script rest : List Bool}
    {writes : List WriteResult} (visible : ∀ msg, msg.opcode ≠ 0 → pb.pack msg ≠ [])
    (other : OtherRequest request)
    (invoked : (invoke env request list).run script = .ok ((0, reply, after), rest))
    (success : reply.opcode = request.opcode + 1) (gentle : ∀ result ∈ writes, result.Gentle)
    : (
        pb.Fits reply
        → ∃ round : Round,
          (serveRequest pb env true writes request list).run script = .ok (round, rest)
          ∧ round.list = after
          ∧ round.connected = true
          ∧ ∀ reads,
            stream reads = round.put
            → (clientReceive pb true reads).1 = pb.unpack (pb.pack reply)
      )
      ∧ (
        ¬pb.Fits reply
        → (networkSend pb true writes reply).code = -1
          ∧ (networkSend pb true writes reply).put = []
      ) := by
  have nonempty : pb.pack reply ≠ [] := by
    refine visible reply ?_
    rw [success]
    rcases other with h | h | h | h | h <;> rw [h] <;> decide
  refine ⟨fun fits => ?_, fun large => ?_⟩
  · refine ⟨_, by rw [serveRequest, run_bind_of_ok invoked]; rfl, rfl, ?_, fun reads arrived => ?_⟩
    · simp [networkSend, (sendFrame_of_gentle fits gentle).1]
    · rw [clientReceive, receive_carried pb reply gentle arrived, carried_eq nonempty fits]
  · rw [networkSend, sendFrame_oversized (Nat.lt_of_not_le large)]
    exact ⟨rfl, rfl⟩

/-- The list of two cars with models of 40000 letters. -/
def letteredTwice : ListT :=
  (listCreate.appended (lettered 40000)).appended (lettered 40000)

theorem letteredTwice_models_large : ¬Protobuf.strings.Fits (modelsReply letteredTwice.models) := by
  have length := lettered_strlen 40000
  have models : letteredTwice.models = [(lettered 40000).modelo, (lettered 40000).modelo] := rfl
  rw [Protobuf.Fits, Protobuf.strings_length, modelsReply_stringBytes, models]
  simp [length, uint16Max]

/-- The size of an empty list is sent, and the models of that one are not. -/
theorem serveRequest_reply_two
    : (
        ∃ round : Round,
          (serveRequest .strings .alone true [.interrupted, .sent 1] sizeRequest listCreate).run []
            = .ok (round, [])
          ∧ round.connected = true
      )
      ∧ (networkSend .strings true [] (modelsReply letteredTwice.models)).code = -1
      ∧ (networkSend .strings true [] (modelsReply letteredTwice.models)).put = [] := by
  have visible : ∀ msg : MessageT, msg.opcode ≠ 0 → Protobuf.strings.pack msg ≠ [] :=
    fun _ _ => by simp [Protobuf.strings]
  have sized : OtherRequest sizeRequest := .inr (.inr (.inr (.inl rfl)))
  have gentle : ∀ result ∈ [WriteResult.interrupted, .sent 1], result.Gentle := by
    simp [WriteResult.Gentle]
  obtain ⟨round, ran, -, connected, -⟩ :=
    (serveRequest_reply visible sized
        (show (invoke .alone sizeRequest listCreate).run []
          = .ok ((0, sizeRequest.setSuccess CType.ctResult, listCreate), []) from rfl)
        rfl gentle).1
      (by rw [Protobuf.Fits]; decide)
  have refused :=
    (serveRequest_reply visible (.inr (.inl rfl)) (run_invoke_getmodels letteredTwice) rfl
      (show ∀ result ∈ ([] : List WriteResult), result.Gentle from nofun)).2
      letteredTwice_models_large
  exact ⟨⟨round, ran, connected⟩, refused⟩

end CarChain
