import CarChain.Model.Session
import CarChain.Network.ClientSlots
import CarChain.Network.Correlation
import CarChain.Network.Framing

/-! Whole connections: the requests that a server reads are answered in order, whatever cuts the
two streams, and a client that is greeted gets the answers to its own requests
(`network_server.c`, `network_client.c`).
-/

namespace CarChain

open CRuntime CStandard

variable {Conn : Type}

/-- The buffers of a round can be allocated. -/
def RoundEnv.Granted (round : RoundEnv Conn) : Prop :=
  round.receiveBuffer = true ∧ round.sendBuffer = true

-----------------------------------------------------------------------------------------
-- The server's side
-----------------------------------------------------------------------------------------

section

variable {pb : Protobuf} {round : RoundEnv Conn} {later : List (RoundEnv Conn)}
  {reads : List ReadResult} {writes : List WriteResult} {list : ListT} {more : List UInt8}
  {request : MessageT}

theorem frames_cons (msg : MessageT) (msgs : List MessageT)
    : frames pb (msg :: msgs) = frame (pb.pack msg) ++ frames pb msgs :=
  List.flatMap_cons

/-- A round that receives nothing ends the session. -/
theorem serveClient_of_none (nothing : (networkReceive pb round.receiveBuffer reads).1 = none)
    : serveClient pb (round :: later) reads writes list = pure ⟨list, [], .closed⟩ := by
  rw [serveClient]
  split
  · rfl
  · rename_i received
    rw [received] at nothing
    cases nothing

/-- A round that receives a request serves it, and the others go on behind it. -/
theorem serveClient_of_some {rest : List ReadResult}
    (received : networkReceive pb round.receiveBuffer reads = (some request, rest))
    : serveClient pb (round :: later) reads writes list
      = (do
          let served ← serveRequest pb round.chain round.sendBuffer writes request list
          if !served.connected then return ⟨served.list, served.put, .aborted⟩
          let session ← serveClient pb later rest served.rest served.list
          return ⟨session.list, served.put ++ session.put, session.ending⟩) := by
  simp [serveClient, received, RequestPtr.cleanUp]

/-- What a round receives is the first request of the stream, and the rest of the stream is
behind it.
-/
theorem requestsIn_of_received {rest : List ReadResult} (chain : ForwardEnv Conn)
    (chains : List (ForwardEnv Conn))
    (received : networkReceive pb round.receiveBuffer reads = (some request, rest))
    : requestsIn pb (chain :: chains) (stream reads)
      = (request, chain) :: requestsIn pb chains (stream rest) := by
  have first := receiveFrame_fst pb round.receiveBuffer reads
  rw [show receiveFrame pb round.receiveBuffer reads = _ from received] at first
  cases buffer : round.receiveBuffer with
  | false => simp [buffer] at first
  | true =>
      rw [buffer, if_pos rfl] at first
      obtain ⟨packed, found, unpacked⟩ := Option.bind_eq_some_iff.mp first.symm
      obtain ⟨nonempty, fits, more, arrived⟩ := frameOf_eq_some.mp found
      have behind := (receiveFrame_frame pb arrived nonempty fits).2
      rw [show receiveFrame pb true reads = (some request, rest) by rw [← buffer]; exact received]
        at behind
      rw [requestsIn, found]
      simp only [unpacked]
      rw [arrived, List.drop_left, behind]

/-- A stream that holds no whole request has none to answer. -/
theorem requestsIn_of_none (chain : ForwardEnv Conn) (chains : List (ForwardEnv Conn))
    (nothing : (receiveFrame pb true reads).1 = none)
    : requestsIn pb (chain :: chains) (stream reads) = [] := by
  rw [receiveFrame_fst, if_pos rfl] at nothing
  rw [requestsIn]
  cases found : frameOf (stream reads) with
  | none => rfl
  | some packed =>
      rw [found, Option.bind_some] at nothing
      simp [nothing]

/-- Whatever a request and its chain come to, `invoke` returns 0. -/
theorem invoke_code (env : ForwardEnv Conn)
    : Returns (invoke env request list) (fun result => result.1 = 0) := by
  unfold invoke
  refine returns_bind_any ?_
  rintro ⟨reply, after⟩
  dsimp only
  split
  · refine returns_bind_any (fun code => ?_)
    split <;> exact returns_pure rfl
  · exact returns_pure rfl

/-- Serving a request that is handled sends the reply. -/
theorem run_serveRequest {env : ForwardEnv Conn} {script left : List Bool} {code : Int32}
    {reply : MessageT} {after : ListT} (buffer : Bool)
    (handled : (invoke env request list).run script = .ok ((code, reply, after), left))
    : (serveRequest pb env buffer writes request list).run script
      = .ok
          (
            let sent := networkSend pb buffer writes reply
            ⟨after, sent.put, sent.rest, sent.code = 0⟩,
            left
          ) := by
  obtain rfl : code = 0 := invoke_code env _ _ _ handled
  rw [serveRequest, run_bind_of_ok handled]
  simp

theorem run_serveRequest_fault {env : ForwardEnv Conn} {script : List Bool} {fault : Fault}
    (buffer : Bool) (faulted : (invoke env request list).run script = .error fault)
    : (serveRequest pb env buffer writes request list).run script = .error fault := by
  rw [serveRequest, StateT.run_bind, faulted]
  rfl

/-- Requests behind one that is handled are answered unless its reply is too large. -/
theorem run_answerAll_cons {env : ForwardEnv Conn} {script left : List Bool} {code : Int32}
    {reply : MessageT} {after : ListT} (later : List (MessageT × ForwardEnv Conn))
    (handled : (invoke env request list).run script = .ok ((code, reply, after), left))
    : (answerAll pb ((request, env) :: later) list).run script
      = if uint16Max < (pb.pack reply).length then .ok ((after, [], .aborted), left)
        else
          (do
            let (list, replies, ending) ← answerAll pb later after
            return (list, reply :: replies, ending) : Mem _).run left := by
  rw [answerAll, run_bind_of_ok handled]
  dsimp only
  split <;> rfl

theorem run_answerAll_fault {env : ForwardEnv Conn} {script : List Bool} {fault : Fault}
    (later : List (MessageT × ForwardEnv Conn))
    (faulted : (invoke env request list).run script = .error fault)
    : (answerAll pb ((request, env) :: later) list).run script = .error fault := by
  rw [answerAll, StateT.run_bind, faulted]
  rfl

/-- The greetings, an addition, a request for the size, and the replies to them. -/
def twoGreeted : Protobuf :=
  .table
    [(statusMessage Opcode.opReady, [8, 101, 16, 70]),
      (statusMessage Opcode.opBusy, [8, 100, 16, 70]),
      (addRequest (clio 2020),
        [8, 10, 16, 10, 26, 11, 8, 228, 15, 24, 2, 34, 4, 67, 108, 105, 111]),
      (sizeRequest, [8, 40, 16, 70]), (Link.addReply, Link.addReplyBytes),
      (Link.sizeReply, Link.sizeReplyBytes)]

/-- Rounds of a server that is alone. -/
def twoRounds : List (RoundEnv Unit) := List.replicate 2 ⟨true, true, ForwardEnv.alone⟩

theorem twoRounds_granted
    : ∀ round ∈ twoRounds, round.Granted ∧ round.chain = ForwardEnv.alone := by
  intro round member
  rw [List.eq_of_mem_replicate member]
  exact ⟨⟨rfl, rfl⟩, rfl⟩

/-- The bytes of the addition and of the request for the size, cut twice. -/
def twoReads : List ReadResult :=
  [.received [0], .interrupted,
    .received ([17, 8, 10, 16, 10, 26, 11, 8, 228, 15, 24, 2, 34, 4, 67, 108, 105, 111, 0]),
    .received [4, 8, 40, 16, 70]]

/-- What a connection has put on its stream for the replies it made. A connection that was closed
has put all of them there; a process that aborted has put all but the last there, and that one
not or not whole.
-/
def Session.Puts (pb : Protobuf) (session : Session) (replies : List MessageT) : Prop :=
  match session.ending with
  | .closed => session.put = frames pb replies
  | .aborted =>
      ∃ earlier last cut,
        replies = earlier ++ [last]
        ∧ cut.IsPrefix (frame (pb.pack last))
        ∧ cut ≠ frame (pb.pack last)
        ∧ session.put = frames pb earlier ++ cut

/-- A reply that was sent whole comes before what the later rounds put. -/
theorem Session.Puts.cons {session : Session} {replies : List MessageT}
    (puts : session.Puts pb replies) (reply : MessageT)
    : (⟨session.list, frame (pb.pack reply) ++ session.put, session.ending⟩ : Session).Puts pb
        (reply :: replies) := by
  obtain ⟨list, put, ending⟩ := session
  cases ending with
  | closed =>
      change frame (pb.pack reply) ++ put = _
      rw [show put = frames pb replies from puts, frames_cons]
  | aborted =>
      obtain ⟨earlier, last, cut, rfl, within, part, rfl⟩ := puts
      exact ⟨reply :: earlier, last, cut, rfl, within, part, by simp [frames_cons]⟩

end

-----------------------------------------------------------------------------------------
-- A connection at both ends
-----------------------------------------------------------------------------------------

/-- One connection that `network_main_loop` has accepted with this count of active clients: it is
greeted, and served when it was greeted with READY. That a thread cannot be made is left out.
-/
def serveConnection (pb : Protobuf) (count : Int32) (statusBuffer : Bool)
    (rounds : List (RoundEnv Conn)) (reads : List ReadResult) (writes : List WriteResult)
    (list : ListT)
    : Mem Session := do
  if maxClients ≤ count then
    return ⟨list, (sendStatus pb statusBuffer writes Opcode.opBusy).put, .closed⟩
  let greeting := sendStatus pb statusBuffer writes Opcode.opReady
  if greeting.code ≠ 0 then return ⟨list, greeting.put, .closed⟩
  let session ← serveClient pb rounds reads greeting.rest list
  return ⟨session.list, greeting.put ++ session.put, session.ending⟩

/-- A client that could open a socket to the server, with memory for the greeting. -/
structure Dial.Reaches (dial : Dial) (fd : Nat) : Prop where
  socket : dial.socket = some fd
  resolves : dial.resolves = true
  connects : dial.connects = true
  buffer : dial.buffer = true

section

variable {pb : Protobuf} {msg reply : MessageT} {msgs : List MessageT} {script left : List Bool}
  {list after : ListT}

/-- What arrives of a message that is carried. -/
theorem carried_eq_some
    : carried pb msg = some reply
      ↔ pb.pack msg ≠ []
        ∧ (pb.pack msg).length ≤ uint16Max
        ∧ pb.unpack (pb.pack msg) = some reply := by
  refine ⟨fun arrives => ?_, fun ⟨nonempty, fits, unpacked⟩ => ?_⟩
  · have fits : (pb.pack msg).length ≤ uint16Max := by
      by_contra large
      rw [carried, if_pos (Nat.lt_of_not_le large)] at arrives
      cases arrives
    have nonempty : pb.pack msg ≠ [] := by
      intro empty
      simp [carried, empty, frame, networkOrder, frameOf, hostOrder] at arrives
    exact ⟨nonempty, fits, (carried_eq nonempty fits).symm.trans arrives⟩
  · exact (carried_eq nonempty fits).trans unpacked

/-- The frame of a message that is carried is received at the front of a stream. -/
theorem receiveFrame_carried {reads : List ReadResult} {more : List UInt8}
    (arrives : carried pb msg = some reply) (arrived : stream reads = frame (pb.pack msg) ++ more)
    : ∃ rest, receiveFrame pb true reads = (some reply, rest) ∧ stream rest = more := by
  obtain ⟨nonempty, fits, unpacked⟩ := carried_eq_some.mp arrives
  obtain ⟨received, behind⟩ := receiveFrame_frame pb arrived nonempty fits
  exact ⟨_, Prod.ext (received.trans unpacked) rfl, behind⟩

/-- Replies that are carried are received in order, by induction on them. -/
theorem receiveAll_carried (receiver : Party) {replies : List MessageT} {reads : List ReadResult}
    (arrive : msgs.map (carried pb) = replies.map some) (arrived : stream reads = frames pb msgs)
    : (receiver.receiveAll pb msgs.length reads).1 = replies.map some
      ∧ stream (receiver.receiveAll pb msgs.length reads).2 = [] := by
  induction msgs generalizing replies reads with
  | nil => exact ⟨arrive, arrived⟩
  | cons msg later ih =>
      cases replies with
      | nil => cases arrive
      | cons reply replies =>
          rw [List.map_cons, List.map_cons, List.cons.injEq] at arrive
          rw [frames_cons] at arrived
          obtain ⟨rest, received, behind⟩ := receiveFrame_carried arrive.1 arrived
          obtain ⟨others, ended⟩ := ih arrive.2 behind
          simp only [List.length_cons, Party.receiveAll, Party.receive_eq, received, others]
          exact ⟨rfl, ended⟩

/-- An exchange that yields a reply carried the request, handled it, and carried the reply. -/
theorem exchange_eq_some
    (ran : ((exchange pb msg).run list).run script = .ok ((some reply, after), left))
    : ∃ request code raw,
        carried pb msg = some request
        ∧ (invoke ForwardEnv.alone request list).run script = .ok ((code, raw, after), left)
        ∧ carried pb raw = some reply := by
  rw [exchange] at ran
  cases arrives : carried pb msg with
  | none =>
      rw [arrives] at ran
      cases ran
  | some request =>
      rw [arrives] at ran
      cases handled : (invoke ForwardEnv.alone request list).run script with
      | error fault => simp [StateT.run_bind, handled] at ran
      | ok result =>
          obtain ⟨⟨code, raw, next⟩, between⟩ := result
          obtain rfl : code = 0 := invoke_code _ _ _ _ handled
          simp [StateT.run_bind, handled] at ran
          obtain ⟨⟨back, rfl⟩, rfl⟩ := ran
          exact ⟨request, 0, raw, rfl, handled, back⟩

/-- A message that is carried is the first request of a stream that begins with its frame. -/
theorem requestsIn_carried {request : MessageT} {more : List UInt8} {chain : ForwardEnv Conn}
    {chains : List (ForwardEnv Conn)} (arrives : carried pb msg = some request)
    : requestsIn pb (chain :: chains) (frame (pb.pack msg) ++ more)
      = (request, chain) :: requestsIn pb chains more := by
  obtain ⟨nonempty, fits, unpacked⟩ := carried_eq_some.mp arrives
  rw [requestsIn, frameOf_frame more nonempty fits]
  simp only [unpacked, List.drop_left]

/-- Exchanges that all yield replies are what the server answers on a stream of the requests, by
induction on them.
-/
theorem answerAll_exchanges {replies : List MessageT} {chains : List (ForwardEnv Unit)}
    (single : ∀ chain ∈ chains, chain = ForwardEnv.alone) (enough : msgs.length ≤ chains.length)
    (ran
      : ((msgs.mapM (exchange pb)).run list).run script
        = .ok ((replies.map some, after), left))
    : ∃ raw,
        (answerAll pb (requestsIn pb chains (frames pb msgs)) list).run script
          = .ok ((after, raw, .closed), left)
        ∧ raw.length = msgs.length
        ∧ raw.map (carried pb) = replies.map some
        ∧ ∀ msg ∈ msgs, (pb.pack msg).length ≤ uint16Max := by
  induction msgs generalizing replies chains list script with
  | nil =>
      have ended : requestsIn pb chains (frames pb []) = [] := by cases chains <;> rfl
      rw [ended]
      cases replies with
      | nil =>
          cases ran
          exact ⟨[], rfl, rfl, rfl, by simp⟩
      | cons reply replies => cases ran
  | cons msg later ih =>
      cases chains with
      | nil => simp at enough
      | cons chain chains =>
          obtain rfl := single chain List.mem_cons_self
          rw [List.mapM_cons, StateT.run_bind] at ran
          obtain ⟨⟨first, between⟩, middle, ranFirst, ran⟩ := run_bind_eq_ok.mp ran
          rw [StateT.run_bind] at ran
          obtain ⟨⟨others, last⟩, final, ranOthers, ran⟩ := run_bind_eq_ok.mp ran
          cases replies with
          | nil => cases ran
          | cons reply replies =>
              cases ran
              obtain ⟨request, code, raw, arrives, handled, back⟩ := exchange_eq_some ranFirst
              obtain ⟨fewer, answered, count, carriedBack, small⟩ :=
                ih (fun chain member => single chain (List.mem_cons_of_mem _ member))
                  (Nat.le_of_succ_le_succ enough) ranOthers
              refine ⟨raw :: fewer, ?_, by simp [count], by simp [back, carriedBack],
                List.forall_mem_cons.mpr ⟨(carried_eq_some.mp arrives).2.1, small⟩⟩
              have fits := Nat.not_lt.mpr (carried_eq_some.mp back).2.1
              rw [frames_cons, requestsIn_carried arrives, run_answerAll_cons _ handled,
                if_neg fits, run_bind_of_ok answered]
              rfl

/-- A client that is greeted keeps its socket, and what follows the greeting is still to read. -/
theorem networkConnect_ready {dial : Dial} {fd : Nat} {more : List UInt8} (fds : List Nat)
    (greets : pb.Delivers (statusMessage Opcode.opReady)) (reaches : dial.Reaches fd)
    (arrived : stream dial.reads = frame (pb.pack (statusMessage Opcode.opReady)) ++ more)
    : ∃ rest, networkConnect pb dial fds = ⟨0, some fd, fd :: fds, rest⟩ ∧ stream rest = more := by
  obtain ⟨rest, received, behind⟩ := receiveFrame_carried greets.carried_eq arrived
  have shaken : handleHandshake pb dial.buffer dial.reads = (Opcode.opReady, rest) := by
    rw [handleHandshake, reaches.buffer, clientReceive, received]
    rfl
  refine ⟨rest, ?_, behind⟩
  simp [networkConnect, reaches.socket, reaches.resolves, reaches.connects, shaken]

/-- A client that is turned away closes its socket. -/
theorem networkConnect_busy {dial : Dial} {fd : Nat} (fds : List Nat)
    (greets : pb.Delivers (statusMessage Opcode.opBusy)) (reaches : dial.Reaches fd)
    (arrived : stream dial.reads = frame (pb.pack (statusMessage Opcode.opBusy)))
    : ∃ rest, networkConnect pb dial fds = ⟨-1, none, fds, rest⟩ := by
  obtain ⟨rest, received, -⟩ :=
    receiveFrame_carried greets.carried_eq (arrived.trans (List.append_nil _).symm)
  have shaken : handleHandshake pb dial.buffer dial.reads = (Opcode.opBusy, rest) := by
    rw [handleHandshake, reaches.buffer, clientReceive, received]
    rfl
  refine ⟨rest, ?_⟩
  simp [networkConnect, reaches.socket, reaches.resolves, reaches.connects, shaken,
    Connecting.failed, Opcode.opBusy, Opcode.opReady]

end

end CarChain
