import CarChain.Model.Skeleton
import CarChain.Model.Stream

/-! A server that is alone in its chain, from the bytes of a request to those of the reply
(`serve_client`).
-/

namespace CarChain

open CRuntime CStandard

-----------------------------------------------------------------------------------------
-- What unpacking makes of a packed message
-----------------------------------------------------------------------------------------

/-- A field that was left out is the empty string. -/
def decodedText (text : Option CString) : Option CString := some (text.getD default)

/-- `DATA__INIT`, whose string is the empty one. -/
def Data.init : Data := ⟨0, 0, 0, some default, 0⟩

def Data.decoded (data : Data) : Data := { data with modelo := decodedText data.modelo }

/-- The cells that are counted, each with an item; NULL when there are none. -/
def decodedCells {α : Type} (decode : Option α → Option α) (count : Nat)
    (cells : Option (List (Option α)))
    : Option (List (Option α)) :=
  if count = 0 then none else some (((cells.getD []).take count).map decode)

/-- The message that unpacking makes of a packed one: no string is NULL, and the arrays hold
exactly the cells that were counted.
-/
def MessageT.decoded (msg : MessageT) : MessageT :=
  {
    msg with
    data := msg.data.map Data.decoded
    models := decodedCells decodedText msg.nModels msg.models
    cars := decodedCells (fun car => some (car.getD Data.init).decoded) msg.nCars msg.cars
  }

/-- The cells of a field that unpacking filled with these items, NULL when there are none. -/
def countedField {α : Type} (items : List α) : Option (List (Option α)) :=
  if items = [] then none else some (items.map some)

/-- A message that unpacking can produce: its arrays hold as many items as are counted and no
terminator, and no string is NULL.
-/
structure MessageT.Unpacked (msg : MessageT) : Prop where
  models
    : ∃ texts : List CString, msg.nModels = texts.length ∧ msg.models = countedField texts
  cars
    : ∃ cars : List DataT,
        msg.nCars = cars.length ∧ msg.cars = countedField (cars.map DataT.toPb)
  data : ∀ data, msg.data = some data → data.modelo ≠ none

theorem pbCells_eq (cars : List DataT) : pbCells cars = countedField (cars.map DataT.toPb) := by
  simp [pbCells, countedField, Function.comp_def]

/-- The cells of cars unpack to themselves. -/
theorem decodedCells_pbCells (cars : List DataT)
    : decodedCells (fun car => some (car.getD Data.init).decoded) cars.length (pbCells cars)
      = countedField (cars.map DataT.toPb) := by
  have same (car : DataT) : car.toPb.decoded = car.toPb := rfl
  cases cars with
  | nil => rfl
  | cons car rest =>
      have all : (rest.map (fun car => some car.toPb)).take rest.length
          = rest.map (fun car => some car.toPb) :=
        List.take_of_length_le (by simp)
      simp [decodedCells, pbCells, countedField, Function.comp_def, same, all]

/-- The strings of a terminated array unpack without the terminator. -/
theorem decodedCells_nullTerminated (texts : List CString)
    : decodedCells decodedText texts.length (some (nullTerminated texts)) = countedField texts := by
  cases texts with
  | nil => rfl
  | cons text rest =>
      simp [decodedCells, countedField, nullTerminated, decodedText, Function.comp_def]

/-- What the other end makes of a message sent over a connection that loses nothing: a message
too large is not sent, and an empty frame is refused.
-/
def carried (pb : Protobuf) (msg : MessageT) : Option MessageT :=
  if uint16Max < (pb.pack msg).length then none
  else (frameOf (frame (pb.pack msg))).bind pb.unpack

/-- Over partial writes with interruptions, and however the reads cut the bytes, that is what
arrives at either end.
-/
theorem receive_carried (pb : Protobuf) (msg : MessageT) {writes : List WriteResult}
    {reads : List ReadResult} (gentle : ∀ result ∈ writes, result.Gentle)
    (arrived : stream reads = (sendFrame pb true writes msg).put)
    : (receiveFrame pb true reads).1 = carried pb msg := by
  unfold carried
  rw [receiveFrame_fst, if_pos rfl, arrived]
  by_cases large : uint16Max < (pb.pack msg).length
  · rw [if_pos large, sendFrame_oversized large]
    rfl
  · rw [if_neg large, (sendFrame_of_gentle (Nat.le_of_not_lt large) gentle).2.1]

/-- A packed message that a frame holds arrives as what it unpacks to. -/
theorem carried_eq {pb : Protobuf} {msg : MessageT} (nonempty : pb.pack msg ≠ [])
    (fits : (pb.pack msg).length ≤ uint16Max)
    : carried pb msg = pb.unpack (pb.pack msg) := by
  rw [carried, if_neg (Nat.not_lt.mpr fits), ← List.append_nil (frame _),
    frameOf_frame [] nonempty fits]
  rfl

/-- A message that fits in a frame and that unpacking gives back in its decoded form. -/
structure Protobuf.Delivers (pb : Protobuf) (msg : MessageT) : Prop where
  inverse : pb.unpack (pb.pack msg) = some msg.decoded
  positive : 1 ≤ (pb.pack msg).length
  fits : (pb.pack msg).length ≤ uint16Max

instance (pb : Protobuf) (msg : MessageT) : Decidable (pb.Delivers msg) :=
  decidable_of_iff
    (pb.unpack (pb.pack msg) = some msg.decoded
      ∧ 1 ≤ (pb.pack msg).length
      ∧ (pb.pack msg).length ≤ uint16Max)
    ⟨fun ⟨inverse, positive, fits⟩ => ⟨inverse, positive, fits⟩,
      fun ⟨inverse, positive, fits⟩ => ⟨inverse, positive, fits⟩⟩

theorem Protobuf.Delivers.carried_eq {pb : Protobuf} {msg : MessageT} (delivers : pb.Delivers msg)
    : carried pb msg = some msg.decoded :=
  (CarChain.carried_eq (List.length_pos_iff.mp delivers.positive) delivers.fits).trans
    delivers.inverse

-----------------------------------------------------------------------------------------
-- Serving requests
-----------------------------------------------------------------------------------------

/-- The chain of a single server: it forwards nothing. -/
def ForwardEnv.alone : ForwardEnv Unit := .steady (ChainView.last 1) (fun _ _ => none)

theorem zkForward_alone (msg : MessageT) : zkForward .alone (some msg) = .ok 0 := rfl

/-- What one round of `serve_client` does after it received a request, and whether the next one
follows.
-/
structure Round where
  list : ListT
  put : List UInt8
  rest : List WriteResult
  connected : Bool

/-- The rest of a round of `serve_client`: the loop goes on when the request was processed and the
reply sent, and is left otherwise. In both cases the message has been freed; where the loop is left,
the step behind it frees the message once more, which is `RequestPtr.cleanUp`. The entry that the
round makes in the log is left out.
-/
def serveRequest (pb : Protobuf) {Conn : Type} (env : ForwardEnv Conn) (buffer : Bool)
    (writes : List WriteResult) (request : MessageT) (list : ListT)
    : Mem Round := do
  let (code, reply, list) ← invoke env request list
  if code ≠ 0 then return ⟨list, [], writes, false⟩
  let sent := networkSend pb buffer writes reply
  return ⟨list, sent.put, sent.rest, sent.code = 0⟩

/-- Computations that also change what is on the other side of a connection. -/
abbrev Net (Remote : Type) := StateT Remote Mem

/-- An exchange with a single server over a connection that loses nothing. -/
def exchange (pb : Protobuf) (msg : MessageT) : Net ListT (Option MessageT) := do
  match carried pb msg with
  | none => return none
  | some request =>
      let (code, reply, list) ← (invoke ForwardEnv.alone request (← get) : Mem _)
      set list
      if code ≠ 0 then return none
      return carried pb reply

section

variable {Remote α β : Type} {remote between : Remote} {script left : List Bool} {value : α}

/-- A first part that returns hands its value, the other side and the script on. -/
theorem run_net_bind {action : Net Remote α} {next : α → Net Remote β}
    (h : (action.run remote).run script = .ok ((value, between), left))
    : ((action >>= next).run remote).run script = ((next value).run between).run left := by
  rw [StateT.run_bind, run_bind_of_ok h]

/-- A part on this side leaves the other one alone. -/
theorem run_net_lift {action : Mem α} (h : action.run script = .ok (value, left))
    : ((liftM action : Net Remote α).run remote).run script = .ok ((value, remote), left) := by
  have lifted : (liftM action : Net Remote α).run remote
      = (do let value ← action; pure (value, remote) : Mem (α × Remote)) :=
    rfl
  rw [lifted, run_bind_of_ok h]
  rfl

/-- A check on this side that passes leaves both sides alone. -/
theorem run_net_ok
    : ((liftM (.ok value : Except Fault α) : Net Remote α).run remote).run script
      = .ok ((value, remote), script) :=
  rfl

theorem run_net_map {action : Net Remote α} (f : α → β)
    (h : (action.run remote).run script = .ok ((value, between), left))
    : ((f <$> action).run remote).run script = .ok ((f value, between), left) := by
  rw [map_eq_pure_bind, run_net_bind h]
  rfl

end

/-- A single server forwards nothing: it answers what its handler leaves. -/
theorem run_invoke_alone {msg reply : MessageT} {list after : ListT} {script left : List Bool}
    (handled : (dispatch msg list).run script = .ok ((reply, after), left))
    : (invoke ForwardEnv.alone msg list).run script = .ok ((0, reply, after), left) := by
  cases forwarded : mustForward msg reply with
  | false => exact run_invoke_kept _ handled forwarded
  | true =>
      rw [run_invoke_forwarded _ handled forwarded, zkForward_alone]
      rfl

/-- An exchange hands the request to its handler and the reply back. -/
theorem run_exchange {pb : Protobuf} {msg request reply : MessageT} {list after : ListT}
    {script left : List Bool} (carriedTo : carried pb msg = some request)
    (handled : (dispatch request list).run script = .ok ((reply, after), left))
    : ((exchange pb msg).run list).run script = .ok ((carried pb reply, after), left) := by
  have invoked := run_invoke_alone handled
  rw [exchange, carriedTo]
  simp [StateT.run_bind, invoked]

end CarChain
