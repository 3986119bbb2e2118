import CarChain.Model.Server

/-! A whole connection, from the handshake to its end (`network_server.c`, `network_client.c`).

The server greets a connection with one message that carries no more than an opcode, and then
answers requests one after the other. Both ends see a stream of bytes; how reads and writes cut
it is up to the socket.
-/

namespace CarChain

open CRuntime

namespace Opcode

abbrev opBusy : Int32 := 100
abbrev opReady : Int32 := 101

end Opcode

-----------------------------------------------------------------------------------------
-- The handshake
-----------------------------------------------------------------------------------------

/-- The message of `send_status`. -/
def statusMessage (opcode : Int32) : MessageT :=
  { MessageT.init with opcode, cType := CType.ctNone }

/-- `send_status`. -/
def sendStatus (pb : Protobuf) (buffer : Bool) (writes : List WriteResult) (opcode : Int32)
    : Sending :=
  networkSend pb buffer writes (statusMessage opcode)

/-- `handle_handshake`: the opcode of the first message, and −1 without one. -/
def handleHandshake (pb : Protobuf) (buffer : Bool) (reads : List ReadResult)
    : Int32 × List ReadResult :=
  match clientReceive pb buffer reads with
  | (none, rest) => (-1, rest)
  | (some msg, rest) => (msg.opcode, rest)

/-- What the calls of `network_connect` come to: the descriptor of the new socket, whether the
host name resolves and the connection is established, and what then arrives on it.
-/
structure Dial where
  socket : Option Nat
  resolves : Bool
  connects : Bool
  buffer : Bool
  reads : List ReadResult

/-- What `network_connect` leaves: its code, the descriptor in the structure (none is −1), the
open descriptors, and what is still to be read.
-/
structure Connecting where
  code : Int32
  sockfd : Option Nat
  fds : List Nat
  rest : List ReadResult

/-- A failure behind the call of `socket` closes the new descriptor. -/
def Connecting.failed (fd : Nat) (fds : List Nat) (rest : List ReadResult) : Connecting where
  code := -1
  sockfd := none
  fds := fds.erase fd
  rest := rest

/-- `network_connect` on a structure with an address. -/
def networkConnect (pb : Protobuf) (dial : Dial) (fds : List Nat) : Connecting :=
  match dial.socket with
  | none => ⟨-1, none, fds, dial.reads⟩
  | some fd =>
      if !dial.resolves then .failed fd (fd :: fds) dial.reads
      else if !dial.connects then .failed fd (fd :: fds) dial.reads
      else
        let (opcode, rest) := handleHandshake pb dial.buffer dial.reads
        if opcode = Opcode.opReady then ⟨0, some fd, fd :: fds, rest⟩
        else if opcode = Opcode.opBusy then .failed fd (fd :: fds) rest
        else .failed fd (fd :: fds) rest

-----------------------------------------------------------------------------------------
-- The requests of a connection
-----------------------------------------------------------------------------------------

/-- What one round of `serve_client` meets: whether its buffers can be allocated, and what
`zk_forward` finds.
-/
structure RoundEnv (Conn : Type) where
  receiveBuffer : Bool
  sendBuffer : Bool
  chain : ForwardEnv Conn

/-- What `request` points to where the loop of `serve_client` is left. -/
inductive RequestPtr where
  | null
  | freed
  deriving DecidableEq

/-- How `serve_client` ends: with its socket closed, or with the process. -/
inductive Ending where
  | closed
  | aborted
  deriving DecidableEq

/-- The step behind the loop frees the message that `request` points to. One that was freed in
the loop is freed a second time: the check of its descriptor, with which
`message_t__free_unpacked` starts, fails, and the process aborts.
-/
def RequestPtr.cleanUp : RequestPtr → Ending
  | .null => .closed
  | .freed => .aborted

/-- What a connection leaves: the list, which an aborted process takes with it, the bytes put on
the stream, and how the thread ended.
-/
structure Session where
  list : ListT
  put : List UInt8
  ending : Ending
  deriving DecidableEq

variable {Conn : Type}

/-- `serve_client`. It makes a round for each time that it finds `server_running` set, and leaves
the loop early with the first message that is not received, processed or sent. Only a message
that was not received leaves NULL in `request` then.
-/
def serveClient (pb : Protobuf)
    : List (RoundEnv Conn) → List ReadResult → List WriteResult → ListT → Mem Session
  | [], _, _, list => pure ⟨list, [], RequestPtr.null.cleanUp⟩
  | round :: later, reads, writes, list => do
      match networkReceive pb round.receiveBuffer reads with
      | (none, _) => return ⟨list, [], RequestPtr.null.cleanUp⟩
      | (some request, reads) =>
          let served ← serveRequest pb round.chain round.sendBuffer writes request list
          if !served.connected then return ⟨served.list, served.put, RequestPtr.freed.cleanUp⟩
          let session ← serveClient pb later reads served.rest served.list
          return ⟨session.list, served.put ++ session.put, session.ending⟩

-----------------------------------------------------------------------------------------
-- What a connection is for
-----------------------------------------------------------------------------------------

/-- The requests at the front of a stream that can be received, each with the chain that it is
forwarded to.
-/
def requestsIn (pb : Protobuf)
    : List (ForwardEnv Conn) → List UInt8 → List (MessageT × ForwardEnv Conn)
  | [], _ => []
  | chain :: later, bytes =>
      match frameOf bytes with
      | none => []
      | some packed =>
          match pb.unpack packed with
          | none => []
          | some msg => (msg, chain) :: requestsIn pb later (bytes.drop (frame packed).length)

/-- Requests that are handled in order, and the replies that `invoke` makes, whatever becomes of
them.
-/
def invokeEach : List (MessageT × ForwardEnv Conn) → ListT → Mem (ListT × List MessageT)
  | [], list => pure (list, [])
  | (msg, chain) :: later, list => do
      let (_, reply, list) ← invoke chain msg list
      let (list, replies) ← invokeEach later list
      return (list, reply :: replies)

/-- A server as its clients see it: the requests are handled in order, and the replies are those
of `invoke`, up to the first that no frame can carry. The process aborts behind that one.
-/
def answerAll (pb : Protobuf)
    : List (MessageT × ForwardEnv Conn) → ListT → Mem (ListT × List MessageT × Ending)
  | [], list => pure (list, [], .closed)
  | (msg, chain) :: later, list => do
      let (_, reply, list) ← invoke chain msg list
      if uint16Max < (pb.pack reply).length then return (list, [], .aborted)
      let (list, replies, ending) ← answerAll pb later list
      return (list, reply :: replies, ending)

end CarChain
