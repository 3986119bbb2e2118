import CarChain.Model.Wire

/-! What sending and receiving do to the byte streams of a connection (`network_client.c`,
`network_server.c`).

`send_message` and `network_send` are the same code twice, and so are `receive_message` and
`network_receive`. Here they return the results of the socket calls that are left, so that
several of them can follow one another on one connection.
-/

namespace CarChain

/-- How many of `n` bytes the loop of `write_all` has put on the stream when it ends. -/
def bytesWritten (n : Nat) : Nat → List WriteResult → Nat
  | _, [] => n
  | written, result :: rest =>
      if written < n then
        match result with
        | .failed => written
        | .interrupted => bytesWritten n written rest
        | .sent count => bytesWritten n (written + min count (n - written)) rest
      else
        written

/-- How many bytes the loop of `read_all` has taken off the stream when it ends. -/
def bytesRead (n : Nat) : Nat → List ReadResult → Nat
  | taken, [] => taken
  | taken, result :: rest =>
      if taken < n then
        match result with
        | .failed => taken
        | .interrupted => bytesRead n taken rest
        | .received chunk =>
            if chunk = [] then taken
            else if n - taken < chunk.length then n
            else bytesRead n (taken + chunk.length) rest
      else
        taken

/-- What sending one message does: the code returned, the bytes put on the stream, and the
results of the writes still to come.
-/
structure Sending where
  code : Int32
  put : List UInt8
  rest : List WriteResult

/-- The body that `send_message` and `network_send` share. -/
def sendFrame (pb : Protobuf) (buffer : Bool) (writes : List WriteResult) (msg : MessageT)
    : Sending :=
  let packed := pb.pack msg
  if uint16Max < packed.length then ⟨-1, [], writes⟩
  else if !buffer then ⟨-1, [], writes⟩
  else
    let header := networkOrder packed.length
    match writeAll 2 0 writes with
    | (result, rest) =>
        if result ≠ 2 then ⟨-1, header.take (bytesWritten 2 0 writes), rest⟩
        else
          match writeAll packed.length 0 rest with
          | (result, left) =>
              {
                code := if result = packed.length then 0 else -1
                put := header ++ packed.take (bytesWritten packed.length 0 rest)
                rest := left
              }

/-- The body that `receive_message` and `network_receive` share. -/
def receiveFrame (pb : Protobuf) (buffer : Bool) (reads : List ReadResult)
    : Option MessageT × List ReadResult :=
  match readAll 2 [] reads with
  | (some [high, low], rest) =>
      if hostOrder high low = 0 then (none, rest)
      else if !buffer then (none, rest)
      else
        match readAll (hostOrder high low) [] rest with
        | (some bytes, left) =>
            (if bytes.length = hostOrder high low then pb.unpack bytes else none, left)
        | (none, left) => (none, left)
  | (_, rest) => (none, rest)

/-- `send_message` of the client, on a connection used before and after. -/
def clientSend := sendFrame

/-- `receive_message` of the client, on a connection used before and after. -/
def clientReceive := receiveFrame

/-- `network_send` of the server. -/
def networkSend := sendFrame

/-- `network_receive` of the server. -/
def networkReceive := receiveFrame

/-- How many bytes receiving takes off the stream. -/
def receivedBytes (buffer : Bool) (reads : List ReadResult) : Nat :=
  match readAll 2 [] reads with
  | (some [high, low], rest) =>
      if hostOrder high low = 0 ∨ buffer = false then bytesRead 2 0 reads
      else bytesRead 2 0 reads + bytesRead (hostOrder high low) 0 rest
  | _ => bytesRead 2 0 reads

/-- The exchange sends by this code. -/
theorem sendMessage_eq (pb : Protobuf) (io : Transport) (msg : MessageT)
    : sendMessage pb io msg = (clientSend pb io.sendBuffer io.writes msg).code := by
  unfold sendMessage clientSend sendFrame
  dsimp only
  split
  · rfl
  · split
    · rfl
    · split <;> rfl

/-- The exchange receives by this code. -/
theorem receiveMessage_eq_clientReceive (pb : Protobuf) (io : Transport)
    : receiveMessage pb io = (clientReceive pb io.receiveBuffer io.reads).1 := by
  unfold receiveMessage clientReceive receiveFrame
  generalize readAll 2 [] io.reads = header
  match header with
  | (none, _) | (some [], _) | (some [_], _) | (some (_ :: _ :: _ :: _), _) => rfl
  | (some [high, low], rest) =>
      dsimp only
      split
      · rfl
      · split
        · rfl
        · generalize readAll (hostOrder high low) [] rest = body
          match body with
          | (some _, _) | (none, _) => rfl

-----------------------------------------------------------------------------------------
-- Sending
-----------------------------------------------------------------------------------------

/-- `write_all` returns the number it was given when it has written all, and −1 when it
stopped before that.
-/
theorem writeAll_cases {n written : Nat} (within : written ≤ n) (writes : List WriteResult)
    : (writeAll n written writes).1 = n ∧ bytesWritten n written writes = n
      ∨ (writeAll n written writes).1 = -1 ∧ bytesWritten n written writes < n := by
  induction writes generalizing written with
  | nil => exact .inl ⟨rfl, rfl⟩
  | cons result rest ih =>
      unfold writeAll bytesWritten
      split
      · rename_i room
        cases result with
        | failed => exact .inr ⟨rfl, room⟩
        | interrupted => exact ih within
        | sent count => exact ih (by omega)
      · exact .inl ⟨by dsimp only; omega, by omega⟩

/-- A message that is too large puts no byte on the stream. -/
theorem sendFrame_oversized {pb : Protobuf} {buffer : Bool} {writes : List WriteResult}
    {msg : MessageT} (large : uint16Max < (pb.pack msg).length)
    : sendFrame pb buffer writes msg = ⟨-1, [], writes⟩ := by
  simp [sendFrame, large]

/-- What is put on the stream is the frame of the message up to where sending stopped; the
code is 0 exactly when that is the whole frame, and then the message had an admissible size.
-/
theorem sendFrame_put (pb : Protobuf) (buffer : Bool) (writes : List WriteResult) (msg : MessageT)
    : (sendFrame pb buffer writes msg).put.IsPrefix (frame (pb.pack msg))
      ∧ ((sendFrame pb buffer writes msg).code = 0
        ↔ (sendFrame pb buffer writes msg).put = frame (pb.pack msg)) := by
  have notEmpty : frame (pb.pack msg) ≠ [] := by simp [frame, networkOrder]
  unfold sendFrame
  dsimp only
  split
  · exact ⟨List.nil_prefix, by simpa using notEmpty.symm⟩
  · split
    · exact ⟨List.nil_prefix, by simpa using notEmpty.symm⟩
    · rcases writeAll_cases (Nat.zero_le 2) writes with ⟨header, -⟩ | ⟨header, few⟩
      · rw [if_neg (by simpa using header)]
        rcases writeAll_cases (Nat.zero_le (pb.pack msg).length) (writeAll 2 0 writes).2 with
          ⟨body, all⟩ | ⟨body, few⟩
        · simp only [body, all, List.take_length, frame]
          simp
        · have partly : (pb.pack msg).take (bytesWritten (pb.pack msg).length 0
              (writeAll 2 0 writes).2) ≠ pb.pack msg := by
            intro whole
            have lengths := congrArg List.length whole
            rw [List.length_take] at lengths
            omega
          have failed : ¬(-1 : Int) = (pb.pack msg).length := by omega
          refine ⟨(List.prefix_append_right_inj _).mpr (List.take_prefix _ _), ?_⟩
          simp [body, failed, frame, partly]
      · rw [if_pos (by simp [header])]
        have partly : (networkOrder (pb.pack msg).length).take (bytesWritten 2 0 writes)
            ≠ frame (pb.pack msg) := by
          intro whole
          have lengths := congrArg List.length whole
          simp only [frame, networkOrder, List.length_take, List.length_append, List.length_cons,
            List.length_nil] at lengths
          omega
        refine ⟨(List.take_prefix _ _).trans (List.prefix_append _ _), ?_⟩
        simp [partly]

/-- A write that goes on: it was interrupted, or it accepted a positive number of bytes. -/
def WriteResult.Gentle : WriteResult → Prop
  | .failed => False
  | .interrupted => True
  | .sent count => 0 < count

/-- A read that goes on: it was interrupted, or it delivered a positive number of bytes. -/
def ReadResult.Gentle : ReadResult → Prop
  | .failed => False
  | .interrupted => True
  | .received chunk => chunk ≠ []

/-- Partial writes with interruptions in between write everything, and leave such writes. -/
theorem writeAll_of_gentle {n written : Nat} (within : written ≤ n) {writes : List WriteResult}
    (gentle : ∀ result ∈ writes, result.Gentle)
    : (writeAll n written writes).1 = n
      ∧ bytesWritten n written writes = n
      ∧ ∀ result ∈ (writeAll n written writes).2, result.Gentle := by
  induction writes generalizing written with
  | nil => exact ⟨rfl, rfl, by simp [writeAll]⟩
  | cons result rest ih =>
      have later := fun result member => gentle result (List.mem_cons_of_mem _ member)
      unfold writeAll bytesWritten
      split
      · rename_i room
        cases result with
        | failed => exact (gentle .failed (by simp)).elim
        | interrupted => exact ih within later
        | sent count => exact ih (by omega) later
      · exact ⟨by dsimp only; omega, by omega, gentle⟩

/-- Sending a message of an admissible size over such writes puts its frame on the stream. -/
theorem sendFrame_of_gentle {pb : Protobuf} {writes : List WriteResult} {msg : MessageT}
    (fits : (pb.pack msg).length ≤ uint16Max) (gentle : ∀ result ∈ writes, result.Gentle)
    : (sendFrame pb true writes msg).code = 0
      ∧ (sendFrame pb true writes msg).put = frame (pb.pack msg)
      ∧ ∀ result ∈ (sendFrame pb true writes msg).rest, result.Gentle := by
  obtain ⟨header, headerAll, between⟩ := writeAll_of_gentle (Nat.zero_le 2) gentle
  obtain ⟨body, bodyAll, after⟩ := writeAll_of_gentle (Nat.zero_le (pb.pack msg).length) between
  unfold sendFrame
  dsimp only
  rw [if_neg (by omega), if_neg (by simp), if_neg (by simpa using header)]
  exact ⟨if_pos body, by simp [bodyAll, frame], after⟩

-----------------------------------------------------------------------------------------
-- Receiving
-----------------------------------------------------------------------------------------

/-- What is received is decided by the bytes of the stream. -/
theorem receiveFrame_fst (pb : Protobuf) (buffer : Bool) (reads : List ReadResult)
    : (receiveFrame pb buffer reads).1
      = if buffer then (frameOf (stream reads)).bind pb.unpack else none := by
  have same := receiveMessage_eq_clientReceive pb ⟨[], true, reads, buffer⟩
  rw [receiveMessage_eq] at same
  exact same.symm

/-- The header of a frame at the front of the stream is read as the size of what follows. -/
theorem readAll_header {reads : List ReadResult} {packed more : List UInt8}
    (arrived : stream reads = frame packed ++ more) (fits : packed.length ≤ uint16Max)
    : ∃ high low rest,
        readAll 2 [] reads = (some [high, low], rest)
        ∧ hostOrder high low = packed.length
        ∧ stream rest = packed ++ more := by
  obtain ⟨rest, header, remains⟩ :=
    readAll_complete 2 [] reads (by simp) (by simp [arrived, frame, networkOrder])
  refine ⟨_, _, rest, ?_, hostOrder_networkOrder fits, ?_⟩
  · simpa [arrived, frame, networkOrder] using header
  · simpa [arrived, frame, networkOrder] using remains

/-- A whole frame at the front of the stream is received, and what follows it stays. -/
theorem receiveFrame_frame (pb : Protobuf) {reads : List ReadResult} {packed more : List UInt8}
    (arrived : stream reads = frame packed ++ more) (nonempty : packed ≠ [])
    (fits : packed.length ≤ uint16Max)
    : (receiveFrame pb true reads).1 = pb.unpack packed
      ∧ stream (receiveFrame pb true reads).2 = more := by
  refine ⟨by simp [receiveFrame_fst, arrived, frameOf_frame more nonempty fits], ?_⟩
  have positive : packed.length ≠ 0 := by simpa using nonempty
  obtain ⟨high, low, rest, header, size, body⟩ := readAll_header arrived fits
  obtain ⟨left, read, behind⟩ :=
    readAll_complete packed.length [] rest (by simp) (by simp [body])
  unfold receiveFrame
  rw [header]
  dsimp only
  rw [size, if_neg positive, if_neg (by simp), read]
  simpa [body] using behind

/-- `read_all` takes what it needs of the stream, or all there is. -/
theorem bytesRead_eq {n taken : Nat} (within : taken ≤ n) (reads : List ReadResult)
    : bytesRead n taken reads = min n (taken + (stream reads).length) := by
  induction reads generalizing taken with
  | nil => simp [bytesRead, stream, within]
  | cons result rest ih =>
      unfold bytesRead
      split
      · rename_i room
        cases result with
        | failed => simp [stream, within]
        | interrupted => exact ih within
        | received chunk =>
            dsimp only
            split
            · rename_i closed
              simp [stream, closed, within]
            · rename_i open_
              rw [stream, if_neg open_, List.length_append]
              split
              · omega
              · rw [ih (by omega), Nat.add_assoc]
      · omega

/-- Receiving the frame that the stream holds takes all of it. -/
theorem receivedBytes_frame {reads : List ReadResult} {packed : List UInt8}
    (arrived : stream reads = frame packed) (nonempty : packed ≠ [])
    (fits : packed.length ≤ uint16Max)
    : receivedBytes true reads = (frame packed).length := by
  have positive : packed.length ≠ 0 := by simpa using nonempty
  obtain ⟨high, low, rest, header, size, body⟩ :=
    readAll_header (show stream reads = frame packed ++ [] by simpa using arrived) fits
  unfold receivedBytes
  rw [header]
  dsimp only
  rw [size, if_neg (by simp [positive]), bytesRead_eq (Nat.zero_le 2),
    bytesRead_eq (Nat.zero_le _), arrived, body]
  simp only [frame, networkOrder, List.length_append, List.length_cons, List.length_nil]
  omega

/-- A codec that knows these messages only. -/
def Protobuf.table (entries : List (MessageT × List UInt8)) : Protobuf where
  pack msg := (entries.lookup msg).getD []
  unpack bytes := (entries.find? (fun entry => entry.2 = bytes)).map Prod.fst

end CarChain
