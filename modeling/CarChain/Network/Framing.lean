import CarChain.Model.Stream

/-! Sequences of messages sent at one end of a connection and received at the other. -/

namespace CarChain

open CStandard

/-- The ends of a connection; each has its own copy of the code. -/
inductive Party where
  | client
  | server
  deriving DecidableEq

def Party.send : Party → Protobuf → Bool → List WriteResult → MessageT → Sending
  | .client => clientSend
  | .server => networkSend

def Party.receive
    : Party → Protobuf → Bool → List ReadResult → Option MessageT × List ReadResult
  | .client => clientReceive
  | .server => networkReceive

@[simp]
theorem Party.send_eq (party : Party) : party.send = sendFrame := by
  cases party <;> rfl

@[simp]
theorem Party.receive_eq (party : Party) : party.receive = receiveFrame := by
  cases party <;> rfl

/-- Sending messages one after the other: the codes, and the bytes put on the stream. -/
def Party.sendAll (party : Party) (pb : Protobuf)
    : List MessageT → List WriteResult → List Int32 × List UInt8
  | [], _ => ([], [])
  | msg :: later, writes =>
      let sent := party.send pb true writes msg
      let (codes, put) := party.sendAll pb later sent.rest
      (sent.code :: codes, sent.put ++ put)

/-- Receiving this many times: what each call returns, and the results that are left. -/
def Party.receiveAll (party : Party) (pb : Protobuf)
    : Nat → List ReadResult → List (Option MessageT) × List ReadResult
  | 0, reads => ([], reads)
  | count + 1, reads =>
      let (msg, rest) := party.receive pb true reads
      let (msgs, left) := party.receiveAll pb count rest
      (msg :: msgs, left)

/-- The frames of these messages. -/
def frames (pb : Protobuf) (msgs : List MessageT) : List UInt8 :=
  msgs.flatMap (fun msg => frame (pb.pack msg))

/-- A message that fits in a frame and that unpacking gives back. -/
structure Protobuf.Carries (pb : Protobuf) (msg : MessageT) : Prop where
  inverse : pb.unpack (pb.pack msg) = some msg
  positive : 1 ≤ (pb.pack msg).length
  fits : (pb.pack msg).length ≤ uint16Max

section

variable {pb : Protobuf} {msgs : List MessageT}

theorem Protobuf.Carries.nonempty {msg : MessageT} (carries : pb.Carries msg)
    : pb.pack msg ≠ [] :=
  List.length_pos_iff.mp carries.positive

/-- Partial writes put the frames on the stream one after the other, by induction on the
messages.
-/
theorem sendAll_frames (sender : Party)
    (fits : ∀ msg ∈ msgs, (pb.pack msg).length ≤ uint16Max) {writes : List WriteResult}
    (gentle : ∀ result ∈ writes, result.Gentle)
    : sender.sendAll pb msgs writes = (msgs.map (fun _ => 0), frames pb msgs) := by
  induction msgs generalizing writes with
  | nil => rfl
  | cons msg later ih =>
      obtain ⟨code, put, rest⟩ := sendFrame_of_gentle (fits msg (by simp)) gentle
      have others := ih (fun msg member => fits msg (List.mem_cons_of_mem _ member)) rest
      simp [Party.sendAll, code, put, others, frames]

/-- Frames at the front of the stream are received in order, by induction on them. -/
theorem receiveAll_frames (receiver : Party) (carries : ∀ msg ∈ msgs, pb.Carries msg)
    {reads : List ReadResult} {more : List UInt8} (arrived : stream reads = frames pb msgs ++ more)
    (count : Nat)
    : ∃ rest,
        stream rest = more
        ∧ receiver.receiveAll pb (msgs.length + count) reads
          = (msgs.map some ++ (receiver.receiveAll pb count rest).1,
            (receiver.receiveAll pb count rest).2) := by
  induction msgs generalizing reads with
  | nil => exact ⟨reads, arrived, by simp⟩
  | cons msg later ih =>
      have carried := carries msg (by simp)
      rw [frames, List.flatMap_cons, List.append_assoc] at arrived
      obtain ⟨received, behind⟩ := receiveFrame_frame pb arrived carried.nonempty carried.fits
      obtain ⟨rest, remains, others⟩ :=
        ih (fun msg member => carries msg (List.mem_cons_of_mem _ member)) behind
      refine ⟨rest, remains, ?_⟩
      rw [List.length_cons, Nat.add_right_comm, Party.receiveAll]
      simp [received, carried.inverse, others]

/-- A stream that ends before the last frame does ends inside some frame. -/
theorem cut_inside {bytes : List UInt8} (cut : bytes.IsPrefix (frames pb msgs))
    (short : bytes ≠ frames pb msgs)
    : ∃ front msg later rest,
        msgs = front ++ msg :: later
        ∧ bytes = frames pb front ++ rest
        ∧ rest.IsPrefix (frame (pb.pack msg))
        ∧ rest ≠ frame (pb.pack msg) := by
  induction msgs generalizing bytes with
  | nil => exact absurd (List.prefix_nil.mp cut) short
  | cons msg later ih =>
      rw [frames, List.flatMap_cons] at cut short
      rcases List.prefix_or_prefix_of_prefix cut (List.prefix_append (frame (pb.pack msg)) _) with
        within | ⟨beyond, rfl⟩
      · by_cases whole : bytes = frame (pb.pack msg)
        · cases later with
          | nil => exact absurd (by simpa using whole) short
          | cons next later =>
              refine ⟨[msg], next, later, [], rfl, by simp [frames, whole], List.nil_prefix, ?_⟩
              simp [frame, networkOrder]
        · exact ⟨[], msg, later, bytes, rfl, by simp [frames], within, whole⟩
      · obtain ⟨front, found, after, rest, rfl, rfl, inside, part⟩ :=
          ih ((List.prefix_append_right_inj _).mp cut) (fun h => short (by rw [h]; rfl))
        exact ⟨msg :: front, found, after, rest, rfl, by simp [frames], inside, part⟩

/-- Messages that fit in frames and that unpacking gives back, sent over partial writes with
interruptions in between, put their frames on the stream. However the reads deliver these
bytes, as many calls return the messages in order and leave the stream at its end; if it ends
before, they return the messages whose frames are whole and then none. A message that is too
large puts no byte on the stream.
-/
theorem frames_roundTrip (sender receiver : Party) (carries : ∀ msg ∈ msgs, pb.Carries msg)
    {writes : List WriteResult} (gentle : ∀ result ∈ writes, result.Gentle)
    : sender.sendAll pb msgs writes = (msgs.map (fun _ => 0), frames pb msgs)
      ∧ (∀ reads, stream reads = frames pb msgs →
          (receiver.receiveAll pb msgs.length reads).1 = msgs.map some
          ∧ stream (receiver.receiveAll pb msgs.length reads).2 = [])
      ∧ (∀ reads, (stream reads).IsPrefix (frames pb msgs) → stream reads ≠ frames pb msgs →
          ∃ front msg later,
            msgs = front ++ msg :: later
            ∧ (frames pb front).IsPrefix (stream reads)
            ∧ ¬(frames pb (front ++ [msg])).IsPrefix (stream reads)
            ∧ (receiver.receiveAll pb (front.length + 1) reads).1 = front.map some ++ [none])
      ∧ ∀ msg buffer results,
          uint16Max < (pb.pack msg).length
          → (sender.send pb buffer results msg).put = []
            ∧ (sender.send pb buffer results msg).code = -1 := by
  refine ⟨sendAll_frames sender (fun msg member => (carries msg member).fits) gentle, ?_, ?_, ?_⟩
  · intro reads arrived
    obtain ⟨rest, ended, received⟩ :=
      receiveAll_frames receiver carries (arrived.trans (List.append_nil _).symm) 0
    rw [Nat.add_zero] at received
    simpa [received, Party.receiveAll] using ended
  · intro reads cut short
    obtain ⟨front, msg, later, rest, rfl, arrived, inside, part⟩ := cut_inside cut short
    have early := fun msg member => carries msg (List.mem_append_left _ member)
    have stops : frameOf rest = none := frameOf_cut (carries msg (by simp)).fits inside part
    obtain ⟨left, remains, received⟩ := receiveAll_frames receiver early arrived 1
    refine ⟨front, msg, later, rfl, ⟨rest, arrived.symm⟩, ?_, ?_⟩
    · rw [arrived]
      intro whole
      have beyond : (frame (pb.pack msg)).IsPrefix rest := by
        simpa [frames, List.prefix_append_right_inj] using whole
      exact part (inside.eq_of_length (Nat.le_antisymm inside.length_le beyond.length_le))
    · rw [received]
      simp [Party.receiveAll, receiveFrame_fst, remains, stops]
  · intro msg buffer results large
    simp [sendFrame_oversized large]

end

/-- The bytes of an addition and of a request for the size. -/
def twoRequests : Protobuf :=
  .table
    [(addRequest (clio 2020), [8, 10, 16, 10, 26, 11, 8, 228, 15, 24, 2, 34, 4, 67, 108, 105, 111]),
      (sizeRequest, [8, 40, 16, 70])]

theorem twoRequests_carries
    : ∀ msg ∈ [addRequest (clio 2020), sizeRequest], twoRequests.Carries msg := by
  intro msg member
  simp only [List.mem_cons, List.not_mem_nil, or_false] at member
  rcases member with rfl | rfl <;> exact ⟨by decide, by decide, by decide⟩

theorem frames_roundTrip_two
    : Party.client.sendAll twoRequests [addRequest (clio 2020), sizeRequest]
          [.sent 1, .interrupted, .sent 3]
        = ([0, 0], frames twoRequests [addRequest (clio 2020), sizeRequest])
      ∧ (Party.server.receiveAll twoRequests 2
          [.received [0], .interrupted, .received ([17, 8, 10, 16, 10, 26, 11, 8, 228, 15, 24, 2,
            34, 4, 67, 108, 105, 111, 0]), .received [4, 8, 40, 16, 70]]).1
        = [some (addRequest (clio 2020)), some sizeRequest] := by
  have trip := frames_roundTrip .client .server twoRequests_carries
    (show ∀ result ∈ [WriteResult.sent 1, .interrupted, .sent 3], result.Gentle by
      simp [WriteResult.Gentle])
  exact ⟨trip.1, (trip.2.1 _ (by decide)).1⟩

end CarChain
