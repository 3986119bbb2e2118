import CarChain.Library.CText
import CarChain.Membership.ClientEnds

/-! The address that a server publishes and the port that it binds (`list_server.c`,
`client_stub.c`, `network_server.c`, `network_client.c`).

The port argument is published as it was typed and converted by each reader again. The server
itself narrows the converted number to a `short` before it binds it, the readers do not.
-/

namespace CarChain

open CRuntime CStandard

/-- The text before the port of every published address. -/
def localHost : CString := .literal "127.0.0.1"

/-- `build_local_address` into a buffer of this size. -/
def buildLocalAddress (bufferSize : Nat) (port : CString) : Option CString :=
  if bufferSize < 11 + port.strlen + 1 then none
  else some ((localHost ++ .literal ":" ++ port).truncate bufferSize)

/-- What `main` of the server makes of its port argument: the number and the address. -/
def serverArguments (argument : CString) : Option (Int32 × CString) :=
  let port := atoi argument
  if port < 1024 ∨ 65535 < port then none
  else (buildLocalAddress 256 argument).map (fun address => (port, address))

/-- `htons`, on a machine that stores the low byte first. -/
def htons (value : UInt16) : UInt16 := value <<< 8 ||| value >>> 8

/-- The port in the address that `network_server_init` binds; its parameter is a `short`. -/
def boundPort (port : Int32) : UInt16 := htons port.toInt16.toUInt16

/-- The fields of `struct rlist_t` that `rlist_connect` fills in. -/
structure RListT where
  serverAddress : CString
  serverPort : Int32
  deriving DecidableEq

/-- The port in the address that `network_connect` connects to. -/
def RListT.peerPort (rlist : RListT) : UInt16 := htons rlist.serverPort.toUInt32.toUInt16

/-- `rlist_connect`; whether `network_connect` reaches a server at a host and a port is a
parameter.
-/
def rlistConnect (reaches : CString → UInt16 → Bool) (addressPort : Option CString)
    : Mem (Option RListT) :=
  match addressPort with
  | none => pure none
  | some address =>
      match address.strchr 58 with
      | none => pure none
      | some (host, portStr) => do
          if !(← malloc) then return none
          let port := atoi portStr
          if port ≤ 0 ∨ 65535 < port then return none
          if !(← malloc) then return none
          let rlist : RListT := ⟨host, port⟩
          if reaches rlist.serverAddress rlist.peerPort then return some rlist else return none

/-- What is published for a port reaches every reader whole, and each of them connects to the
local host at the port that is bound.
-/
structure AddressReaches (port : Int32) (address : CString) : Prop where
  serverReads
    : ∀ {Conn : Type} (zk : ZkSession Conn) nodePath,
        zk.get nodePath = some address → zkGetNodeAddress zk nodePath 256 = some address
  clientReads
    : ∀ {Conn : Type} (zk : ClientSession Conn) nodePath previous,
        zk.buffer = true
        → zk.get nodePath = some address
        → connectToNode zk nodePath previous = zk.connect address
  connects
    : ∀ reaches,
        (rlistConnect reaches (some address)).run []
          = .ok (if reaches localHost (boundPort port) then some ⟨localHost, port⟩ else none, [])

-----------------------------------------------------------------------------------------
-- Both sides
-----------------------------------------------------------------------------------------

/-- Narrowed to a `short` first, a port above 32767 is negative, but keeps its low 16 bits. -/
theorem peerPort_eq (host : CString) (port : Int32)
    : (RListT.mk host port).peerPort = boundPort port := by
  have narrowed : port.toUInt32.toUInt16 = port.toInt16.toUInt16 := by
    apply UInt16.eq_of_toBitVec_eq
    show port.toBitVec.setWidth 16 = port.toBitVec.signExtend 16
    exact (BitVec.signExtend_eq_setWidth_of_le port.toBitVec (by decide)).symm
  rw [RListT.peerPort, boundPort, narrowed]

/-- An address that is built is the local host, a colon and the argument as it was typed, and
leaves room in its buffer.
-/
theorem buildLocalAddress_some {argument address : CString}
    (built : buildLocalAddress 256 argument = some address)
    : address = localHost ++ .literal ":" ++ argument ∧ address.strlen < 256 := by
  unfold buildLocalAddress at built
  split at built
  · cases built
  · rename_i fits
    have host : localHost.bytes.length = 9 := rfl
    have colon : (CString.literal ":").bytes.length = 1 := rfl
    have length : (localHost ++ .literal ":" ++ argument).strlen = 10 + argument.strlen := by
      simp only [CString.strlen, CString.append_bytes, List.length_append, host, colon]
    rw [CString.truncate_of_lt (by omega)] at built
    cases built
    exact ⟨rfl, by omega⟩

/-- The parser finds the colon of the address, whatever the argument contains, and converts
the argument to the number that the server got from it.
-/
theorem run_rlistConnect {argument : CString} (low : ¬atoi argument ≤ 0)
    (high : ¬65535 < atoi argument) (reaches : CString → UInt16 → Bool)
    : (rlistConnect reaches (some (localHost ++ .literal ":" ++ argument))).run []
      = .ok (
          if reaches localHost (boundPort (atoi argument)) then
            some ⟨localHost, atoi argument⟩
          else
            none,
          []
        ) := by
  have split : (localHost ++ .literal ":" ++ argument).strchr 58 = some (localHost, argument) :=
    CString.strchr_append (by decide) rfl argument
  have valid : ¬(atoi argument ≤ 0 ∨ 65535 < atoi argument) := not_or.mpr ⟨low, high⟩
  unfold rlistConnect
  dsimp only
  rw [split, ← peerPort_eq localHost (atoi argument)]
  dsimp only
  rw [run_bind_of_ok run_malloc_nil, if_neg (by simp), if_neg valid,
    run_bind_of_ok run_malloc_nil, if_neg (by simp)]
  split <;> rfl

/-- Every port argument that the server accepts is published so that its readers reach it. -/
theorem serverArguments_reaches {argument : CString} {port : Int32} {address : CString}
    (accepted : serverArguments argument = some (port, address))
    : AddressReaches port address := by
  unfold serverArguments at accepted
  dsimp only at accepted
  split at accepted
  · cases accepted
  · rename_i range
    obtain ⟨built, found, same⟩ := Option.map_eq_some_iff.mp accepted
    cases same
    obtain ⟨rfl, fits⟩ := buildLocalAddress_some found
    have range := not_or.mp range
    have low : ¬atoi argument ≤ 0 := by
      intro low
      refine range.1 ?_
      rw [Int32.le_iff_toInt_le] at low
      rw [Int32.lt_iff_toInt_lt]
      exact Int.lt_of_le_of_lt low (by decide)
    refine ⟨fun zk nodePath stored => ?_, fun zk nodePath previous buffer stored => ?_, ?_⟩
    · rw [zkGetNodeAddress, if_neg (by simp), stored, Option.map_some,
        CString.truncate_of_lt fits]
    · unfold connectToNode
      rw [if_pos buffer, stored]
      dsimp only
      rw [CString.truncate_of_lt (Nat.lt_trans fits (by decide))]
    · exact run_rlistConnect low range.2

/-- The port argument of a server that listens in the upper half of the ports, with more text. -/
def typedPort : CString := .literal "50000:8080x"

theorem serverArguments_reaches_typedPort
    : serverArguments typedPort = some (50000, .literal "127.0.0.1:50000:8080x")
      ∧ AddressReaches 50000 (.literal "127.0.0.1:50000:8080x") :=
  have accepted : serverArguments typedPort
      = some (50000, .literal "127.0.0.1:50000:8080x") := by
    decide
  ⟨accepted, serverArguments_reaches accepted⟩

end CarChain
