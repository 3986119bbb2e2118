import CarChain.Model.Message

/-! Frames on a socket (`read_all` and `write_all` of `message.c`, `network_client.c`).

A frame is the length of a packed message in two bytes, high byte first, and the packed
message. The code generated from `sdmessage.proto` leaves packing and unpacking to the protobuf
library, which is a parameter here. What the socket does is a list of results, one for each
call.
-/

namespace CarChain

/-- `message_t__pack` and `message_t__unpack`; the packed size is the length of what `pack`
writes.
-/
structure Protobuf where
  pack : MessageT → List UInt8
  unpack : List UInt8 → Option MessageT

/-- What one `read` has to offer. Of a chunk it takes at most what was asked for; an empty
chunk is the end of the stream.
-/
inductive ReadResult where
  | failed
  | interrupted
  | received (chunk : List UInt8)
  deriving DecidableEq

/-- What one `write` does. Of a count it accepts at most what was offered. -/
inductive WriteResult where
  | failed
  | interrupted
  | sent (count : Nat)
  deriving DecidableEq

/-- One exchange on an open socket: the results of its calls, and whether the buffers for the
request and for the reply can be allocated. Past the end of the results the peer has closed
the stream and accepts every write.
-/
structure Transport where
  writes : List WriteResult
  sendBuffer : Bool
  reads : List ReadResult
  receiveBuffer : Bool
  deriving DecidableEq

def uint16Max : Nat := 65535

/-- The loop of `write_all` with some bytes written already; −1 on an error. -/
def writeAll (n : Nat) : Nat → List WriteResult → Int × List WriteResult
  | _, [] => (n, [])
  | written, result :: rest =>
      if written < n then
        match result with
        | .failed => (-1, rest)
        | .interrupted => writeAll n written rest
        | .sent count => writeAll n (written + min count (n - written)) rest
      else
        (written, result :: rest)

/-- The loop of `read_all` with some bytes in the buffer already: the buffer it leaves, or
`none` where it returns −1.
-/
def readAll (n : Nat) (buffer : List UInt8)
    : List ReadResult → Option (List UInt8) × List ReadResult
  | [] => (some buffer, [])
  | result :: rest =>
      if buffer.length < n then
        match result with
        | .failed => (none, rest)
        | .interrupted => readAll n buffer rest
        | .received chunk =>
            if chunk = [] then
              (some buffer, rest)
            else if n - buffer.length < chunk.length then
              (
                some (buffer ++ chunk.take (n - buffer.length)),
                .received (chunk.drop (n - buffer.length)) :: rest
              )
            else
              readAll n (buffer ++ chunk) rest
      else
        (some buffer, result :: rest)

/-- `htons`, byte by byte. -/
def networkOrder (size : Nat) : List UInt8 := [UInt8.ofNat (size / 256), UInt8.ofNat size]

/-- `ntohs` of two bytes. -/
def hostOrder (high low : UInt8) : Nat := high.toNat * 256 + low.toNat

/-- `send_message`: 0 when the whole frame was written. -/
def sendMessage (pb : Protobuf) (io : Transport) (msg : MessageT) : Int32 :=
  let size := (pb.pack msg).length
  if uint16Max < size then -1
  else if !io.sendBuffer then -1
  else
    match writeAll 2 0 io.writes with
    | (header, rest) =>
        if header ≠ 2 then -1
        else if (writeAll size 0 rest).1 = size then 0
        else -1

/-- `receive_message`. -/
def receiveMessage (pb : Protobuf) (io : Transport) : Option MessageT :=
  match readAll 2 [] io.reads with
  | (some [high, low], rest) =>
      if hostOrder high low = 0 then none
      else if !io.receiveBuffer then none
      else
        match (readAll (hostOrder high low) [] rest).1 with
        | some bytes => if bytes.length = hostOrder high low then pb.unpack bytes else none
        | none => none
  | _ => none

/-- `network_send_receive` on an open socket. -/
def networkSendReceive (pb : Protobuf) (io : Transport) (msg : MessageT) : Option MessageT :=
  if sendMessage pb io msg ≠ 0 then none else receiveMessage pb io

-----------------------------------------------------------------------------------------
-- What arrives
-----------------------------------------------------------------------------------------

/-- The bytes a list of results delivers before the stream ends or fails. -/
def stream : List ReadResult → List UInt8
  | [] => []
  | .failed :: _ => []
  | .interrupted :: rest => stream rest
  | .received chunk :: rest => if chunk = [] then [] else chunk ++ stream rest

/-- However the stream is cut into chunks, enough bytes fill the buffer in order and the
others stay, by induction on the results.
-/
theorem readAll_complete (n : Nat) (buffer : List UInt8) (reads : List ReadResult)
    (within : buffer.length ≤ n) (enough : n ≤ buffer.length + (stream reads).length)
    : ∃ rest,
        readAll n buffer reads = (some (buffer ++ (stream reads).take (n - buffer.length)), rest)
        ∧ stream rest = (stream reads).drop (n - buffer.length) := by
  induction reads generalizing buffer with
  | nil =>
      have full : n = buffer.length := by simpa [stream] using Nat.le_antisymm enough within
      exact ⟨[], by simp [readAll, stream]⟩
  | cons result rest ih =>
      unfold readAll
      split
      · rename_i room
        cases result with
        | failed =>
            simp only [stream, List.length_nil] at enough
            omega
        | interrupted => exact ih buffer within enough
        | received chunk =>
            dsimp only
            split
            · rename_i closed
              simp only [stream, closed, if_true, List.length_nil] at enough
              omega
            · rename_i open_
              simp only [stream, open_, if_false, List.length_append] at enough ⊢
              split
              · rename_i longer
                have kept : chunk.drop (n - buffer.length) ≠ [] := by
                  simpa using longer
                refine ⟨.received (chunk.drop (n - buffer.length)) :: rest, ?_, ?_⟩
                · rw [List.take_append_of_le_length (Nat.le_of_lt longer)]
                · rw [stream, if_neg kept, List.drop_append_of_le_length (Nat.le_of_lt longer)]
              · rename_i shorter
                obtain ⟨left, read, remains⟩ :=
                  ih (buffer ++ chunk) (by simp; omega) (by simp; omega)
                refine ⟨left, ?_, ?_⟩
                · rw [read, List.length_append, List.take_append,
                    List.take_of_length_le (Nat.le_of_not_lt shorter), List.append_assoc,
                    Nat.sub_sub]
                · rw [remains, List.length_append, List.drop_append,
                    List.drop_of_length_le (Nat.le_of_not_lt shorter), List.nil_append, Nat.sub_sub]
      · rename_i full
        have same : n - buffer.length = 0 := by omega
        exact ⟨result :: rest, by simp [same], by simp [same]⟩

/-- A stream that ends early never fills the buffer, by induction on the results. -/
theorem readAll_short {n : Nat} {buffer bytes : List UInt8} {reads rest : List ReadResult}
    (few : buffer.length + (stream reads).length < n)
    (read : readAll n buffer reads = (some bytes, rest))
    : bytes.length < n := by
  induction reads generalizing buffer with
  | nil =>
      simp only [readAll, Prod.mk.injEq, Option.some.injEq] at read
      rw [← read.1]
      omega
  | cons result later ih =>
      unfold readAll at read
      rw [if_pos (by omega)] at read
      cases result with
      | failed => simp at read
      | interrupted => exact ih few read
      | received chunk =>
          dsimp only at read
          split at read
          · simp only [Prod.mk.injEq, Option.some.injEq] at read
            rw [← read.1]
            omega
          · rename_i open_
            simp only [stream, open_, if_false, List.length_append] at few
            rw [if_neg (by omega)] at read
            exact ih (by simp; omega) read

/-- The packed message at the front of a stream, if a whole frame of one is there. -/
def frameOf : List UInt8 → Option (List UInt8)
  | high :: low :: rest =>
      if hostOrder high low = 0 ∨ rest.length < hostOrder high low then none
      else some (rest.take (hostOrder high low))
  | _ => none

/-- Receiving depends on the bytes of the stream and not on how they are cut: a whole frame
is unpacked, anything else yields NULL.
-/
theorem receiveMessage_eq (pb : Protobuf) (io : Transport)
    : receiveMessage pb io
      = if io.receiveBuffer then (frameOf (stream io.reads)).bind pb.unpack else none := by
  unfold receiveMessage
  match arrived : stream io.reads with
  | [] | [_] =>
      match header : readAll 2 [] io.reads with
      | (none, _) | (some [], _) | (some [_], _) | (some (_ :: _ :: _ :: _), _) => simp [frameOf]
      | (some [_, _], _) =>
          have short := readAll_short (by simp [arrived]) header
          simp at short
  | high :: low :: body =>
      obtain ⟨rest, header, remains⟩ :=
        readAll_complete 2 [] io.reads (by simp) (by simp [arrived])
      have two : readAll 2 [] io.reads = (some [high, low], rest) := by simpa [arrived] using header
      have left : stream rest = body := by simpa [arrived] using remains
      rw [two]
      dsimp only
      by_cases zero : hostOrder high low = 0
      · simp [zero, frameOf]
      · cases io.receiveBuffer with
        | false => simp [zero]
        | true =>
            by_cases short : body.length < hostOrder high low
            · match read : readAll (hostOrder high low) [] rest with
              | (none, _) => simp [frameOf, short]
              | (some bytes, _) =>
                  have few := readAll_short (by simpa [left] using short) read
                  simp [frameOf, short, Nat.ne_of_lt few]
            · obtain ⟨_, read, -⟩ := readAll_complete (hostOrder high low) [] rest (by simp)
                (by simpa [left] using short)
              rw [read, left]
              simp [frameOf, zero, short]

/-- The exchange yields no reply when sending fails, the reply buffer is missing, the stream
holds no whole frame or the frame does not unpack; otherwise it yields what was unpacked.
-/
theorem networkSendReceive_eq_some {pb : Protobuf} {io : Transport} {msg reply : MessageT}
    : networkSendReceive pb io msg = some reply
      ↔ sendMessage pb io msg = 0
        ∧ io.receiveBuffer = true
        ∧ ∃ packed, frameOf (stream io.reads) = some packed ∧ pb.unpack packed = some reply := by
  rw [networkSendReceive, receiveMessage_eq]
  by_cases sent : sendMessage pb io msg = 0 <;> cases io.receiveBuffer <;>
    simp [sent, Option.bind_eq_some_iff]

/-- The frame of a packed message, as `send_message` writes it. -/
def frame (packed : List UInt8) : List UInt8 := networkOrder packed.length ++ packed

/-- Sizes up to the maximum survive the two bytes of a header. -/
theorem hostOrder_networkOrder {size : Nat} (fits : size ≤ uint16Max)
    : hostOrder (UInt8.ofNat (size / 256)) (UInt8.ofNat size) = size := by
  simp only [hostOrder, UInt8.toNat_ofNat']
  unfold uint16Max at fits
  omega

/-- A frame of a packed message of any admissible size is read back, whatever follows it. -/
theorem frameOf_frame {packed : List UInt8} (more : List UInt8) (nonempty : packed ≠ [])
    (fits : packed.length ≤ uint16Max)
    : frameOf (frame packed ++ more) = some packed := by
  have size := hostOrder_networkOrder fits
  have positive : packed.length ≠ 0 := by simpa using nonempty
  simp [frame, networkOrder, frameOf, size, positive]

/-- The two bytes of a header are those of the size that they are read as. -/
theorem networkOrder_hostOrder (high low : UInt8)
    : networkOrder (hostOrder high low) = [high, low] := by
  have small := low.toNat_lt
  have first : (high.toNat * 256 + low.toNat) / 256 = high.toNat := by omega
  have second : UInt8.ofNat (high.toNat * 256 + low.toNat) = low := by
    apply UInt8.toNat_inj.mp
    simp only [UInt8.toNat_ofNat']
    omega
  rw [networkOrder, hostOrder, first, second, UInt8.ofNat_toNat]

/-- A packed message is found at the front of a stream just where its frame stands. -/
theorem frameOf_eq_some {bytes packed : List UInt8}
    : frameOf bytes = some packed
      ↔ packed ≠ [] ∧ packed.length ≤ uint16Max ∧ ∃ more, bytes = frame packed ++ more := by
  refine ⟨fun found => ?_, ?_⟩
  · match bytes with
    | [] | [_] => cases found
    | high :: low :: rest =>
        rw [frameOf] at found
        split at found
        · cases found
        · rename_i whole
          rw [not_or, Nat.not_lt] at whole
          obtain ⟨positive, enough⟩ := whole
          obtain rfl := Option.some.inj found
          have length : (rest.take (hostOrder high low)).length = hostOrder high low :=
            List.length_take_of_le enough
          refine ⟨List.ne_nil_of_length_pos (by omega), ?_, rest.drop (hostOrder high low), ?_⟩
          · have := high.toNat_lt
            have := low.toNat_lt
            rw [length, hostOrder, uint16Max]
            omega
          · rw [frame, length, networkOrder_hostOrder, List.append_assoc, List.take_append_drop]
            rfl
  · rintro ⟨nonempty, fits, more, rfl⟩
    exact frameOf_frame more nonempty fits

/-- A frame that ends early is no frame. -/
theorem frameOf_cut {packed bytes : List UInt8} (fits : packed.length ≤ uint16Max)
    (cut : bytes.IsPrefix (frame packed)) (short : bytes ≠ frame packed)
    : frameOf bytes = none := by
  obtain ⟨missing, whole⟩ := cut
  have some_missing : missing ≠ [] := by
    intro h
    subst h
    exact short (by simpa using whole)
  match bytes with
  | [] | [_] => rfl
  | high :: low :: body =>
      rw [frame, networkOrder] at whole
      simp only [List.cons_append, List.nil_append, List.cons.injEq] at whole
      obtain ⟨rfl, rfl, rest⟩ := whole
      have size := hostOrder_networkOrder fits
      have fewer : body.length < packed.length := by
        rw [← rest, List.length_append]
        have positive := List.length_pos_iff.mpr some_missing
        omega
      simp [frameOf, size, fewer]

/-- Where the peer wrote the frame of one reply, the exchange yields that reply if the request
was sent and the whole frame is read, and nothing otherwise.
-/
theorem networkSendReceive_of_written {pb : Protobuf} {io : Transport} {msg reply : MessageT}
    (inverse : pb.unpack (pb.pack reply) = some reply) (nonempty : pb.pack reply ≠ [])
    (fits : (pb.pack reply).length ≤ uint16Max)
    (written : (stream io.reads).IsPrefix (frame (pb.pack reply)))
    : networkSendReceive pb io msg
      = if sendMessage pb io msg = 0
          ∧ io.receiveBuffer = true
          ∧ stream io.reads = frame (pb.pack reply) then
          some reply
        else
          none := by
  have whole : frameOf (frame (pb.pack reply)) = some (pb.pack reply) := by
    simpa using frameOf_frame [] nonempty fits
  rw [networkSendReceive, receiveMessage_eq]
  by_cases all : stream io.reads = frame (pb.pack reply)
  · rw [all, whole, Option.bind_some, inverse]
    by_cases sent : sendMessage pb io msg = 0 <;> cases io.receiveBuffer <;> simp [sent]
  · rw [frameOf_cut fits written all]
    simp [all]

end CarChain
