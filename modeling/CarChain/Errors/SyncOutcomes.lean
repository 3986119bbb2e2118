import CarChain.Model.Sync

/-! When a start-up copy that reports success is a copy.

`zk_sync` promises 0 on success and −1 on failure. It returns −1 only when the connection is
refused; a predecessor whose address is not known, an exchange that fails and a car that is
not linked all end in 0.
-/

namespace CarChain

open CRuntime CStandard

variable {Conn : Type} (peer : SyncPeer Conn) (state : ZkTopology Conn) (script : List Bool)

/-- The predecessor's address is known and can be copied. -/
def KnowsPredecessor : Prop := state.predecessorAddress ≠ none ∧ grants 1 script = true

instance : Decidable (KnowsPredecessor state script) := inferInstanceAs (Decidable (_ ∧ _))

/-- The predecessor's list when `zk_sync` is over; without a connection it is asked nothing. -/
def SyncPeer.listAfter : ListT :=
  if KnowsPredecessor state script ∧ peer.accepts = true then peer.exchange.2 else peer.list

/-- Returning 0 from an empty list means to have the predecessor's list. -/
def SyncsFully : Prop :=
  ∀ after rest,
    (zkSync peer state listCreate).run script = .ok ((0, after), rest)
    → after = peer.listAfter state script

/-- The array of all cars is made, and no car is duplicated without being linked unless the
loop faults.
-/
def CopiesAll : Prop :=
  let count := peer.list.cars.length
  let allocations := arrayAllocations count
  grants allocations (script.drop 1) = true
  ∧ (DupsGranted count (script.drop (1 + allocations))
      → LinksGranted count (script.drop (1 + allocations)))

variable {peer state script}

/-- Leaving the list empty is right exactly when the predecessor has no cars. -/
theorem listCreate_eq_listAfter
    : listCreate = peer.listAfter state script ↔ peer.list.cars = [] := by
  have cars : (peer.listAfter state script).cars.Perm peer.list.cars := by
    unfold SyncPeer.listAfter
    split
    · exact peer.exchange_perm
    · exact .refl _
  constructor
  · intro same
    rw [← same] at cars
    exact cars.nil_eq.symm
  · intro empty
    rw [empty] at cars
    exact ListT.ext cars.eq_nil.symm

/-- An outcome that leaves the list empty. -/
theorem syncsFully_of_empty {rest : List Bool}
    (ran : (zkSync peer state listCreate).run script = .ok ((0, listCreate), rest))
    : SyncsFully peer state script ↔ peer.list.cars = [] := by
  rw [← listCreate_eq_listAfter]
  constructor
  · exact fun full => full _ _ ran
  · intro same after left other
    rw [ran] at other
    cases other
    exact same

theorem run_zkSync_unknown (peer : SyncPeer Conn) (unknown : ¬KnowsPredecessor state script)
    : ∃ rest, (zkSync peer state listCreate).run script = .ok ((0, listCreate), rest) := by
  unfold zkSync
  cases address : state.predecessorAddress with
  | none => exact ⟨script, rfl⟩
  | some text =>
      have refused : grants 1 script = false := by
        simpa [KnowsPredecessor, address] using unknown
      obtain ⟨rest, stopped⟩ := strdup_allocates.refused text refused
      exact ⟨rest, by rw [run_bind_of_ok stopped]; rfl⟩

theorem run_zkSync_known (known : KnowsPredecessor state script)
    : (zkSync peer state listCreate).run script
      = (do
          if !peer.accepts then return (-1, listCreate)
          match ← rlistGetAll peer with
          | none => return (0, listCreate)
          | some cars => return (0, ← copyCars listCreate cars) : Mem (Int32 × ListT)).run
        (script.drop 1) := by
  obtain ⟨address, granted⟩ := known
  obtain ⟨text, found⟩ := Option.ne_none_iff_exists'.mp address
  rw [zkSync, found]
  exact run_bind_of_ok (strdup_allocates.granted text granted)

/-- An exchange that fails is no exchange. -/
theorem run_zkSync_unanswered (known : KnowsPredecessor state script)
    (accepts : peer.accepts = true) (unanswered : ¬peer.Answers)
    : (zkSync peer state listCreate).run script = .ok ((0, listCreate), script.drop 1) := by
  rw [run_zkSync_known known, accepts, SyncPeer.rlistGetAll_unanswered unanswered]
  rfl

/-- After an answered request the rest of the run is the conversion and the copy loop. -/
theorem run_zkSync_answered (known : KnowsPredecessor state script)
    (accepts : peer.accepts = true) (answers : peer.Answers)
    : (zkSync peer state listCreate).run script
      = (do
          match ← pbToDataArray (pbCells peer.list.ordered.cars) peer.list.ordered.cars.length with
          | none => return (0, listCreate)
          | some cars => return (0, ← copyCars listCreate cars) : Mem (Int32 × ListT)).run
        (script.drop 1) := by
  rw [run_zkSync_known known, accepts, SyncPeer.rlistGetAll_answered answers]
  rfl

/-- A list that is not empty is copied over an array of its own allocations. -/
theorem syncsFully_nonempty (known : KnowsPredecessor state script)
    (accepts : peer.accepts = true) (answers : peer.Answers) (nonempty : peer.list.cars ≠ [])
    : SyncsFully peer state script ↔ CopiesAll peer script := by
  have ran := run_zkSync_answered known accepts answers
  have full : peer.listAfter state script = peer.list.ordered := by
    rw [SyncPeer.listAfter, if_pos ⟨known, accepts⟩, SyncPeer.exchange_answered answers]
  have count : peer.list.ordered.cars.length = peer.list.cars.length := peer.list.ordered_length
  have some_cars : peer.list.ordered.cars ≠ [] := by
    rwa [ne_eq, ← List.length_eq_zero_iff, count, List.length_eq_zero_iff]
  unfold CopiesAll
  dsimp only
  rw [← count]
  cases granted : grants (arrayAllocations peer.list.ordered.cars.length) (script.drop 1) with
  | false =>
      obtain ⟨rest, stopped⟩ := run_pbToDataArray_refused _ granted
      rw [run_bind_of_ok stopped] at ran
      rw [syncsFully_of_empty ran]
      simp [nonempty]
  | true =>
      rw [run_bind_of_ok (run_pbToDataArray _ some_cars granted)] at ran
      dsimp only at ran
      rw [List.drop_drop] at ran
      by_cases dups
          : DupsGranted peer.list.ordered.cars.length
              (script.drop (1 + arrayAllocations peer.list.ordered.cars.length))
      · obtain ⟨after, copied, -, complete⟩ := run_copyCars listCreate _ dups
        rw [run_bind_of_ok copied] at ran
        have equal : SyncsFully peer state script ↔ after = peer.list.ordered := by
          rw [← full]
          constructor
          · exact fun all => all _ _ ran
          · intro same other left returned
            rw [ran] at returned
            cases returned
            exact same
        have linked : after = peer.list.ordered ↔ after.cars = peer.list.ordered.cars :=
          ⟨congrArg ListT.cars, ListT.ext⟩
        rw [equal, linked, ← complete]
        exact ⟨fun same => ⟨rfl, fun _ => same⟩, fun all => all.2 dups⟩
      -- a fault takes the server down, so nothing is returned
      · have faulted := run_copyCars_fault listCreate _ dups
        have vacuous : SyncsFully peer state script := by
          intro after rest returned
          rw [ran, StateT.run_bind, faulted] at returned
          cases returned
        exact iff_of_true vacuous ⟨rfl, fun granted => absurd granted dups⟩

theorem syncsFully_answered (known : KnowsPredecessor state script)
    (accepts : peer.accepts = true) (answers : peer.Answers)
    : SyncsFully peer state script ↔ peer.list.cars = [] ∨ CopiesAll peer script := by
  by_cases empty : peer.list.cars = []
  · have no_cars : peer.list.ordered.cars = [] := by
      rw [← List.length_eq_zero_iff, peer.list.ordered_length, empty, List.length_nil]
    have ran := run_zkSync_answered known accepts answers
    rw [no_cars] at ran
    rw [syncsFully_of_empty ran]
    simp [empty]
  · rw [syncsFully_nonempty known accepts answers empty]
    simp [empty]

/-- Returning 0 means to have the predecessor's list exactly when the predecessor has no
cars, or refuses the connection so that 0 is not returned, or answers in full to a server
that can copy everything.
-/
theorem zkSync_syncsFully_iff (peer : SyncPeer Conn) (state : ZkTopology Conn)
    (script : List Bool)
    : SyncsFully peer state script
      ↔ peer.list.cars = []
        ∨ KnowsPredecessor state script
          ∧ (peer.accepts = false ∨ peer.Answers ∧ CopiesAll peer script) := by
  by_cases known : KnowsPredecessor state script
  · cases accepts : peer.accepts with
    | false =>
        have refused : (zkSync peer state listCreate).run script
            = .ok ((-1, listCreate), script.drop 1) := by
          rw [run_zkSync_known known, accepts]
          rfl
        have full : SyncsFully peer state script := by
          intro after rest ran
          rw [refused] at ran
          cases ran
        simp [full, known]
    | true =>
        by_cases answers : peer.Answers
        · rw [syncsFully_answered known accepts answers]
          simp [known, answers]
        · rw [syncsFully_of_empty (run_zkSync_unanswered known accepts answers)]
          simp [answers]
  · obtain ⟨rest, ran⟩ := run_zkSync_unknown peer known
    rw [syncsFully_of_empty ran]
    simp [known]

/-- The second of two servers cannot read the address of the first one, which has a car; its
start-up copy returns 0 over an empty list.
-/
theorem zkSync_unread_address
    : ∃ (zk : ZkSession Unit) (before : ZkState Unit) (state : ZkState Unit) (peer : SyncPeer Unit),
        (zkUpdateChainInternal zk before).run [] = .ok ((0, state), [])
        ∧ state.nodeIndex = 1
        ∧ (zkSync peer state.toZkTopology listCreate).run [] = .ok ((0, listCreate), [])
        ∧ peer.listAfter state.toZkTopology [] ≠ listCreate := by
  let children := [CString.literal "node0", CString.literal "node1"]
  let own := nodePath (CString.literal "node1")
  refine ⟨⟨true, some children, fun _ => none, fun _ _ => none⟩,
    ⟨⟨none, none, none, .single, 0, 0⟩, some own⟩, _,
    ⟨true, true, listCreate.appended (clio 2020), ⟨fun _ => .last 1, fun _ _ _ => none⟩, [],
      fun _ => 17, true⟩, rfl, ?_, rfl, ?_⟩
  · decide
  · decide

end CarChain
