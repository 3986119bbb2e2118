import CarChain.Model.HandlerSpecs
import CarChain.Model.Topology
import CarChain.Model.Wire

/-! The copy of the predecessor's list that a server makes when it starts (`zk_sync`).

The server asks its predecessor for all cars through the client stub and appends a duplicate
of each to its own list. Each layer on the way reports its failures as NULL, which the last
one takes for an empty list.
-/

namespace CarChain

open CRuntime

variable {Conn : Type}

/-- One run of `zk_sync` as far as others decide it: whether the predecessor takes the
connection, whether each message arrives whole, and the predecessor itself. Of packing only
the size of a reply matters here.
-/
structure SyncPeer (Conn : Type) where
  accepts : Bool
  requestArrives : Bool
  list : ListT
  forward : ForwardEnv Conn
  script : List Bool
  packedSize : MessageT → Nat
  replyArrives : Bool

/-- What `network_send_receive` returns for the request for all cars, and the list that the
predecessor has afterwards. `network_send` refuses a reply that no frame can hold.
-/
def SyncPeer.exchange (peer : SyncPeer Conn) : Option MessageT × ListT :=
  if !peer.requestArrives then (none, peer.list)
  else
    match (invoke peer.forward getlistbyearRequest peer.list).run peer.script with
    | .error _ => (none, peer.list)
    | .ok ((_, reply, after), _) =>
        if uint16Max < peer.packedSize reply ∨ !peer.replyArrives then (none, after)
        else (some reply, after)

def rlistGetAll (peer : SyncPeer Conn) : Mem (Option (List (Option DataT))) :=
  match peer.exchange.1 with
  | none => pure none
  | some reply =>
      if reply.opcode = Opcode.opGetlistbytear + 1 then pbToDataArray reply.cars reply.nCars
      else pure none

/-- The loop of `zk_sync` over the array it got. A duplicate that `list_add` does not take
is destroyed.
-/
def copyCars (list : ListT) : List (Option DataT) → Mem ListT
  | [] => throw .outOfBounds
  | none :: _ => pure list
  | some car :: rest => do
      let copy ← dataDup car
      -- the code of `list_add` only decides whether the car is counted for the log
      let (list, _) ← listAdd list copy
      copyCars list rest

/-- `zk_sync` on a list that is not NULL. -/
def zkSync (peer : SyncPeer Conn) (state : ZkTopology Conn) (list : ListT) : Mem (Int32 × ListT) :=
  match state.predecessorAddress with
  | none => pure (0, list)
  | some address => do
      match ← strdup address with
      | none => return (0, list)
      | some _ =>
          if !peer.accepts then return (-1, list)
          match ← rlistGetAll peer with
          -- an empty list and every failed exchange arrive here alike
          | none => return (0, list)
          | some cars => return (0, ← copyCars list cars)

-----------------------------------------------------------------------------------------
-- The copy loop
-----------------------------------------------------------------------------------------

/-- Each of the first `count` cars can be duplicated. -/
def DupsGranted (count : Nat) (script : List Bool) : Prop :=
  ∀ index < count, grants 2 (script.drop (3 * index)) = true

/-- For each of the first `count` duplicates `list_add` gets its node. -/
def LinksGranted (count : Nat) (script : List Bool) : Prop :=
  ∀ index < count, grants 1 (script.drop (3 * index + 2)) = true

theorem dupsGranted_succ {count : Nat} {script : List Bool}
    : DupsGranted (count + 1) script
      ↔ grants 2 script = true ∧ DupsGranted count (script.drop 3) := by
  unfold DupsGranted
  rw [Nat.forall_lt_succ_left]
  simp [List.drop_drop, Nat.mul_add, Nat.add_comm 3]

theorem linksGranted_succ {count : Nat} {script : List Bool}
    : LinksGranted (count + 1) script
      ↔ grants 1 (script.drop 2) = true ∧ LinksGranted count (script.drop 3) := by
  unfold LinksGranted
  rw [Nat.forall_lt_succ_left]
  simp [List.drop_drop, Nat.mul_add, Nat.add_comm 3, Nat.add_assoc]

/-- A car is duplicated, or the loop faults; then it is linked, or left out. -/
theorem run_copyCars_cons (list : ListT) (car : DataT) (rest : List DataT) (script : List Bool)
    : (copyCars list (nullTerminated (car :: rest))).run script
      = if grants 2 script then
          (copyCars (if grants 1 (script.drop 2) then list.appended car else list)
            (nullTerminated rest)).run (script.drop 3)
        else
          .error .nullDereference := by
  have loop : copyCars list (nullTerminated (car :: rest))
      = (do
          let copy ← dataDup car
          let (list, _) ← listAdd list copy
          copyCars list (nullTerminated rest)) := rfl
  rw [loop, StateT.run_bind, run_dataDup]
  cases grants 2 script with
  | false => rfl
  | true =>
      rw [if_pos rfl, ok_bind, StateT.run_bind, run_listAdd, List.drop_drop]
      cases grants 1 (script.drop 2) <;> rfl

/-- The loop faults when some car cannot be duplicated, by induction on the cars. -/
theorem run_copyCars_fault (list : ListT) (cars : List DataT) {script : List Bool}
    (refused : ¬DupsGranted cars.length script)
    : (copyCars list (nullTerminated cars)).run script = .error .nullDereference := by
  induction cars generalizing list script with
  | nil => exact absurd (fun _ bound => absurd bound (Nat.not_lt_zero _)) refused
  | cons car rest ih =>
      rw [run_copyCars_cons]
      split
      · rename_i first
        exact ih _ (fun later => refused (dupsGranted_succ.mpr ⟨first, later⟩))
      · rfl

/-- Otherwise it appends all cars, or fewer when some link is refused, by induction on the
cars.
-/
theorem run_copyCars (list : ListT) (cars : List DataT) {script : List Bool}
    (granted : DupsGranted cars.length script)
    : ∃ after,
        (copyCars list (nullTerminated cars)).run script
          = .ok (after, script.drop (3 * cars.length))
        ∧ after.cars.length ≤ list.cars.length + cars.length
        ∧ (after.cars = list.cars ++ cars ↔ LinksGranted cars.length script) := by
  induction cars generalizing list script with
  | nil => exact ⟨list, rfl, by simp, by simp [LinksGranted]⟩
  | cons car rest ih =>
      obtain ⟨first, later⟩ := dupsGranted_succ.mp granted
      rw [run_copyCars_cons, if_pos first]
      cases link : grants 1 (script.drop 2) with
      | true =>
          obtain ⟨after, ran, bound, complete⟩ := ih (list.appended car) later
          refine ⟨after, ?_, ?_, ?_⟩
          · rw [if_pos rfl, ran, List.drop_drop, List.length_cons, Nat.mul_add, Nat.add_comm]
          · simpa [ListT.appended, Nat.add_comm, Nat.add_left_comm] using bound
          · rw [List.length_cons, linksGranted_succ, ← complete]
            simp [ListT.appended, link]
      | false =>
          obtain ⟨after, ran, bound, -⟩ := ih list later
          refine ⟨after, ?_, ?_, ?_⟩
          · rw [if_neg (by simp), ran, List.drop_drop, List.length_cons, Nat.mul_add, Nat.add_comm]
          · rw [List.length_cons]
            omega
          · rw [List.length_cons, linksGranted_succ]
            refine ⟨fun same => ?_, fun linked => by simp [link] at linked⟩
            have lengths := congrArg List.length same
            simp only [List.length_append, List.length_cons] at lengths
            omega

-----------------------------------------------------------------------------------------
-- The exchange
-----------------------------------------------------------------------------------------

namespace SyncPeer

/-- The reply to the request for all cars. -/
def fullReply (peer : SyncPeer Conn) : MessageT :=
  getlistbyearRequest.withCars peer.list.ordered.cars

/-- The request and its reply get through, and the reply can be made and fits a frame. -/
def Answers (peer : SyncPeer Conn) : Prop :=
  peer.requestArrives = true
  ∧ grants (replyAllocations peer.list) peer.script = true
  ∧ peer.packedSize peer.fullReply ≤ uint16Max
  ∧ peer.replyArrives = true

instance (peer : SyncPeer Conn) : Decidable peer.Answers := inferInstanceAs (Decidable (_ ∧ _))

variable {peer : SyncPeer Conn}

/-- The request is no write, so `invoke` at the predecessor is its handler. -/
theorem run_invoke_getlistbyear (peer : SyncPeer Conn) {reply : MessageT} {after : ListT}
    {rest : List Bool}
    (ran
      : (handleGetlistbyear getlistbyearRequest peer.list).run peer.script
        = .ok ((reply, after), rest))
    : (invoke peer.forward getlistbyearRequest peer.list).run peer.script
      = .ok ((0, reply, after), rest) := by
  rw [← dispatch_getlistbyear peer.list rfl] at ran
  have read : isWrtOp getlistbyearRequest = false := by decide
  exact run_invoke_kept peer.forward ran (by simp [mustForward, read])

/-- With the reply's allocations granted the predecessor makes it and has ordered its list. -/
theorem run_invoke_granted (granted : grants (replyAllocations peer.list) peer.script = true)
    : ∃ rest,
        (invoke peer.forward getlistbyearRequest peer.list).run peer.script
          = .ok ((0, peer.fullReply, peer.list.ordered), rest) := by
  have typed : getlistbyearRequest.cType = CType.ctNone := rfl
  rcases run_handleGetlistbyear peer.list typed granted with ⟨-, cells, carried, -⟩ | ran
  · cases carried
  · exact ⟨_, run_invoke_getlistbyear peer ran⟩

theorem run_invoke_refused (refused : grants (replyAllocations peer.list) peer.script = false)
    : ∃ rest,
        (invoke peer.forward getlistbyearRequest peer.list).run peer.script
          = .ok ((0, getlistbyearRequest.setError, peer.list.ordered), rest) := by
  have typed : getlistbyearRequest.cType = CType.ctNone := rfl
  obtain ⟨rest, ran⟩ := run_handleGetlistbyear_refused peer.list typed refused
  exact ⟨rest, run_invoke_getlistbyear peer ran⟩

theorem exchange_answered (answers : peer.Answers)
    : peer.exchange = (some peer.fullReply, peer.list.ordered) := by
  obtain ⟨request, granted, fits, reply⟩ := answers
  obtain ⟨rest, ran⟩ := run_invoke_granted granted
  have kept : ¬(uint16Max < peer.packedSize peer.fullReply ∨ (!peer.replyArrives) = true) := by
    simp [Nat.not_lt.mpr fits, reply]
  rw [exchange, request, ran]
  exact if_neg kept

/-- The predecessor keeps its cars. -/
theorem exchange_perm (peer : SyncPeer Conn) : peer.exchange.2.cars.Perm peer.list.cars := by
  unfold exchange
  cases peer.requestArrives with
  | false => exact .refl _
  | true =>
      rw [if_neg (by simp)]
      cases granted : grants (replyAllocations peer.list) peer.script with
      | true =>
          obtain ⟨rest, ran⟩ := run_invoke_granted granted
          rw [ran]
          dsimp only
          split <;> exact peer.list.ordered_perm
      | false =>
          obtain ⟨rest, ran⟩ := run_invoke_refused granted
          rw [ran]
          dsimp only
          split <;> exact peer.list.ordered_perm

/-- Every failure on the way reaches the server as NULL. -/
theorem rlistGetAll_unanswered (unanswered : ¬peer.Answers) : rlistGetAll peer = pure none := by
  unfold rlistGetAll exchange
  cases request : peer.requestArrives with
  | false => rfl
  | true =>
      rw [if_neg (by simp)]
      cases granted : grants (replyAllocations peer.list) peer.script with
      | true =>
          obtain ⟨rest, ran⟩ := run_invoke_granted granted
          have lost : uint16Max < peer.packedSize peer.fullReply ∨ (!peer.replyArrives) = true := by
            by_contra kept
            simp only [not_or, Nat.not_lt, Bool.not_eq_true', Bool.not_eq_false] at kept
            exact unanswered ⟨request, granted, kept.1, kept.2⟩
          rw [ran]
          dsimp only
          rw [if_pos lost]
      | false =>
          obtain ⟨rest, ran⟩ := run_invoke_refused granted
          rw [ran]
          dsimp only
          by_cases lost
              : uint16Max < peer.packedSize getlistbyearRequest.setError
                ∨ (!peer.replyArrives) = true
          · rw [if_pos lost]
          · rw [if_neg lost]
            exact if_neg (by decide)

/-- An answered request yields the array of the predecessor's ordered cars. -/
theorem rlistGetAll_answered (answers : peer.Answers)
    : rlistGetAll peer
      = pbToDataArray (pbCells peer.list.ordered.cars) peer.list.ordered.cars.length := by
  unfold rlistGetAll
  rw [exchange_answered answers]
  rfl

/-- Over a socket from which the server reads what the predecessor wrote, the exchange is the
one of `network_send_receive`.
-/
theorem exchange_eq_networkSendReceive {pb : Protobuf} {io : Transport} {reply : MessageT}
    {after : ListT} {rest : List Bool}
    (ran
      : (invoke peer.forward getlistbyearRequest peer.list).run peer.script
        = .ok ((0, reply, after), rest))
    (inverse : pb.unpack (pb.pack reply) = some reply) (nonempty : pb.pack reply ≠ [])
    (sizes : peer.packedSize reply = (pb.pack reply).length)
    (fits : peer.packedSize reply ≤ uint16Max)
    (written : (stream io.reads).IsPrefix (frame (pb.pack reply)))
    (request : peer.requestArrives = true)
    (arrives
      : peer.replyArrives = true
        ↔ sendMessage pb io getlistbyearRequest = 0
          ∧ io.receiveBuffer = true
          ∧ stream io.reads = frame (pb.pack reply))
    : networkSendReceive pb io getlistbyearRequest = peer.exchange.1 := by
  rw [networkSendReceive_of_written inverse nonempty (sizes ▸ fits) written, exchange, request, ran]
  dsimp only
  cases given : peer.replyArrives with
  | true =>
      rw [if_pos (arrives.mp given)]
      simp [Nat.not_lt.mpr fits]
  | false =>
      rw [if_neg (fun all => by simp [arrives.mpr all] at given)]
      simp

end SyncPeer

end CarChain
