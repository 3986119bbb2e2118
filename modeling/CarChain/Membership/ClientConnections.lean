import Mathlib.Data.List.Count
import Mathlib.Data.List.Nodup
import CarChain.Membership.ClientThreads

/-! Where the connections of the client are, and who uses them.

A callback closes what the pointers point to and sets them to NULL in separate steps; nothing
keeps a command from running in between.
-/

namespace CarChain

open StepSystem

/-- The pointers that have been closed and not been set to NULL yet. -/
def CallbackPhase.clears : CallbackPhase → List ChainEnd
  | .clearing _ side => [side]
  | _ => []

/-- The pointers that have been closed for good. -/
def ClientPhase.disposed : ClientPhase → List ChainEnd
  | .cleaning .tail => [.head]
  | .gone => [.head, .tail]
  | _ => []

/-- The connection that has been opened and not been assigned yet. -/
def ClientPhase.carried : ClientPhase → Option Nat
  | .assigning _ dialled => dialled.getD none
  | _ => none

def CallbackPhase.carried : CallbackPhase → Option Nat
  | .assigning _ dialled => dialled.getD none
  | _ => none

/-- Before `connectToZookeper` has returned. -/
def ClientPhase.starts : ClientPhase → Bool
  | .starting _ | .assigning _ _ | .checking => true
  | _ => false

/-- The pointer that a command has read. -/
def ClientPhase.asks : ClientPhase → List ChainEnd
  | .asking side _ => [side]
  | _ => []

/-- The pointer whose connection is closed next. -/
def CallbackPhase.closes : CallbackPhase → List ChainEnd
  | .closing _ side => [side]
  | _ => []

/-- The pointers that are still to be assigned for the first time. -/
def ClientPhase.unassigned : ClientPhase → List ChainEnd
  | .starting .head | .assigning .head _ => [.head, .tail]
  | .starting .tail | .assigning .tail _ => [.tail]
  | _ => []

/-- The pointers that have been set to NULL and not been assigned again. -/
def CallbackPhase.emptied : CallbackPhase → List ChainEnd
  | .closing _ .tail | .clearing _ .tail => [.head]
  | .connecting .head | .assigning .head _ => [.head, .tail]
  | .connecting .tail | .assigning .tail _ => [.tail]
  | _ => []

namespace ClientThreads

variable {state after : ClientThreads} {action : ClientAction} {side : ChainEnd}

/-- The open connection that the pointer stands for. -/
def live (state : ClientThreads) (side : ChainEnd) : Option Nat :=
  if side ∈ state.callback.clears ∨ side ∈ state.main.disposed then none else state.stored side

/-- The open connections that the pointers stand for and the threads are about to assign. -/
def kept (state : ClientThreads) : List Nat :=
  (state.live .head).toList
  ++ (state.live .tail).toList
  ++ state.main.carried.toList
  ++ state.callback.carried.toList

/-- No callback begins during the start, and none runs during the clean-up. The second always
holds when the handle is open at the end, since `zookeeper_close` waits.
-/
def Orderly (state : ClientThreads) : ClientAction → Prop
  | .childEvent _ | .sessionExpired => state.main.starts = false
  | .disconnect => state.callback = .idle
  | _ => True

instance (state : ClientThreads) (action : ClientAction) : Decidable (state.Orderly action) :=
  match action with
  | .childEvent _ | .sessionExpired => inferInstanceAs (Decidable (_ = false))
  | .disconnect => inferInstanceAs (Decidable (_ = CallbackPhase.idle))
  | .dial _ | .assign | .check | .ask _ | .finish | .quit | .handleClosed | .enter | .close
  | .clear | .redial _ | .reassign => isTrue trivial

/-- Which pointers are NULL, and where the threads stand towards each other, in an orderly run. -/
structure Sequenced (state : ClientThreads) : Prop where
  unassigned : ∀ side ∈ state.main.unassigned, state.stored side = none
  emptied : ∀ side ∈ state.callback.emptied, state.stored side = none
  starting : state.main.starts = true → state.callback = .idle
  cleaning : ∀ side, state.main = .cleaning side → state.handle = false
  disposed : state.main.disposed ≠ [] → state.callback = .idle ∧ state.handle = false

theorem sequenced_initial : Sequenced initial := by
  constructor <;> simp [initial, CallbackPhase.emptied, ClientPhase.disposed]

/-- An assignment of what was dialled to a pointer that is NULL. -/
theorem assigned_of_none (dialled : Option (Option Nat)) (empty : state.stored side = none)
    : state.assigned side dialled = Function.update state.stored side (dialled.getD none) := by
  cases dialled with
  | none => simp [assigned, ← empty]
  | some conn => rfl

/-- What was dialled is the connection with the next number, or none. -/
theorem count_dialled (result : DialResult) (conn : Nat)
    : ((state.dialled result).1.getD none).toList.count conn
        + (if conn < state.opened then 1 else 0)
      = if conn < (state.dialled result).2 then 1 else 0 := by
  cases result with
  | unread => exact Nat.zero_add _
  | refused => exact Nat.zero_add _
  | connected =>
      show [state.opened].count conn + (if conn < state.opened then 1 else 0)
        = if conn < state.opened + 1 then 1 else 0
      rw [List.count_singleton]
      simp only [beq_iff_eq]
      split_ifs <;> omega

/-- A callback only runs when main is past the start and before the clean-up, so that its steps have
to account for the pointers alone.
-/
theorem Sequenced.of_running (h : state.Sequenced) (running : state.callback ≠ .idle)
    (main : after.main = state.main) (handle : after.handle = state.handle)
    (unassigned : ∀ side ∈ state.main.unassigned, after.stored side = none)
    (emptied : ∀ side ∈ after.callback.emptied, after.stored side = none)
    : after.Sequenced where
  unassigned := main ▸ unassigned
  emptied := emptied
  starting starts := absurd (h.starting (main ▸ starts)) running
  cleaning side cleans := handle ▸ h.cleaning side (main ▸ cleans)
  disposed some := absurd (h.disposed (main ▸ some)).1 running

theorem sequenced_step (h : state.Sequenced) (orderly : state.Orderly action)
    (advances : Advances state action after)
    : after.Sequenced := by
  have ⟨unassigned, emptied, starting, cleaning, disposed⟩ := h
  cases advances with
  | dial side result main free =>
      rw [main] at unassigned starting
      refine ⟨?_, emptied, starting, ?_, ?_⟩
      · cases side <;> exact unassigned
      · simp
      · simp [ClientPhase.disposed]
  | assign side dialled main =>
      have idle := starting (by rw [main]; rfl)
      have empty := unassigned side (by rw [main]; cases side <;> simp [ClientPhase.unassigned])
      rw [main] at unassigned
      cases side with
      | head =>
          refine ⟨?_, by simp [idle, CallbackPhase.emptied], fun _ => idle, by simp, ?_⟩
          · have tail := unassigned .tail (by simp [ClientPhase.unassigned])
            simp [ClientPhase.unassigned, assigned_of_none dialled empty, tail]
          · simp [ClientPhase.disposed]
      | tail =>
          refine ⟨by simp [ClientPhase.unassigned], by simp [idle, CallbackPhase.emptied],
            fun _ => idle, by simp, by simp [ClientPhase.disposed]⟩
  | check both main =>
      cases both <;>
        exact ⟨by simp [ClientPhase.unassigned], emptied, by simp [ClientPhase.starts], by simp,
          by simp [ClientPhase.disposed]⟩
  | ask side conn main stored =>
      exact ⟨by simp [ClientPhase.unassigned], emptied, by simp [ClientPhase.starts], by simp,
        by simp [ClientPhase.disposed]⟩
  | finish side conn main =>
      exact ⟨by simp [ClientPhase.unassigned], emptied, by simp [ClientPhase.starts], by simp,
        by simp [ClientPhase.disposed]⟩
  | quit main free =>
      exact ⟨by simp [ClientPhase.unassigned], emptied, by simp [ClientPhase.starts], by simp,
        by simp [ClientPhase.disposed]⟩
  | handleClosed joins main joined =>
      exact ⟨by simp [ClientPhase.unassigned], emptied, by simp [ClientPhase.starts], by simp,
        by simp [ClientPhase.disposed]⟩
  | disconnect side main =>
      have closed := cleaning side main
      cases side <;>
        exact ⟨by simp [ClientPhase.unassigned], emptied, by simp [ClientPhase.starts],
          fun _ _ => closed, fun _ => ⟨orderly, closed⟩⟩
  | childEvent children idle handle =>
      refine ⟨unassigned, ?_, fun starts => ?_, cleaning, fun some => ?_⟩
      · cases children <;> simp [CallbackPhase.emptied]
      · exact absurd starts (by simp [show state.main.starts = false from orderly])
      · exact absurd handle (by simp [(disposed some).2])
  | sessionExpired idle handle =>
      refine ⟨unassigned, by simp [CallbackPhase.emptied], fun starts => ?_, fun _ _ => rfl,
        fun some => ?_⟩
      · exact absurd starts (by simp [show state.main.starts = false from orderly])
      · exact absurd handle (by simp [(disposed some).2])
  | enter waits free =>
      exact h.of_running (by simp [waits]) rfl rfl unassigned (by simp [CallbackPhase.emptied])
  | skip kind side closes stored =>
      rw [closes] at emptied
      refine h.of_running (by simp [closes]) rfl rfl unassigned ?_
      cases side with
      | head => simp [CallbackKind.behind, CallbackPhase.emptied, stored]
      | tail =>
          have head := emptied .head (by simp [CallbackPhase.emptied])
          cases kind <;> simp [CallbackKind.behind, CallbackPhase.emptied, head, stored]
  | close kind side conn closes stored =>
      rw [closes] at emptied
      refine h.of_running (by simp [closes]) rfl rfl unassigned ?_
      cases side <;> exact emptied
  | clear kind side clears =>
      rw [clears] at emptied
      refine h.of_running (by simp [clears]) rfl rfl (fun other waits => ?_) ?_
      · by_cases same : other = side
        · simp [same]
        · simp [Function.update_of_ne same, unassigned other waits]
      · cases side with
        | head => simp [CallbackKind.behind, CallbackPhase.emptied]
        | tail =>
            have head := emptied .head (by simp [CallbackPhase.emptied])
            cases kind <;> simp [CallbackKind.behind, CallbackPhase.emptied, head]
  | redial side result connects free =>
      rw [connects] at emptied
      refine h.of_running (by simp [connects]) rfl rfl unassigned ?_
      cases side <;> exact emptied
  | reassign side dialled assigns =>
      have running : state.callback ≠ .idle := by simp [assigns]
      have past : state.main.unassigned = [] := by
        cases main : state.main with
        | starting side => exact absurd (starting (by simp [main, ClientPhase.starts])) running
        | assigning side dialled =>
            exact absurd (starting (by simp [main, ClientPhase.starts])) running
        | _ => rfl
      have empty := emptied side (by rw [assigns]; cases side <;> simp [CallbackPhase.emptied])
      rw [assigns] at emptied
      refine h.of_running running rfl rfl (by simp [past]) ?_
      cases side with
      | head =>
          have tail := emptied .tail (by simp [CallbackPhase.emptied])
          simp [CallbackPhase.emptied, assigned_of_none dialled empty, tail]
      | tail => simp [CallbackPhase.emptied]

/-- Each connection that was opened is kept in one place or was closed once. -/
def Balanced (state : ClientThreads) : Prop :=
  ∀ conn, (state.kept ++ state.closed).count conn = if conn < state.opened then 1 else 0

theorem balanced_initial : Balanced initial := by
  intro conn
  rw [show initial.kept ++ initial.closed = [] from rfl]
  simp [initial]

theorem balanced_step (h : state.Sequenced) (balanced : state.Balanced)
    (orderly : state.Orderly action) (advances : Advances state action after)
    : after.Balanced := by
  intro conn
  have before := balanced conn
  simp only [kept, List.count_append] at before ⊢
  cases advances with
  | dial side result main free =>
      have opened := state.count_dialled result conn
      simp [live, main, ClientPhase.disposed, ClientPhase.carried] at before ⊢
      omega
  | assign side dialled main =>
      have idle := h.starting (by rw [main]; rfl)
      have empty := h.unassigned side (by rw [main]; cases side <;> simp [ClientPhase.unassigned])
      rw [assigned_of_none dialled empty]
      cases side <;>
        simp [live, main, idle, empty, ClientPhase.disposed, ClientPhase.carried,
          CallbackPhase.clears] at before ⊢ <;>
        omega
  | check both main =>
      simp [live, main, ClientPhase.disposed, ClientPhase.carried] at before
      cases both <;> simp [live, ClientPhase.disposed, ClientPhase.carried] <;> omega
  | ask side asked main stored =>
      simp [live, main, ClientPhase.disposed, ClientPhase.carried] at before ⊢
      omega
  | finish side asked main =>
      simp [live, main, ClientPhase.disposed, ClientPhase.carried] at before ⊢
      omega
  | quit main free =>
      simp [live, main, ClientPhase.disposed, ClientPhase.carried] at before ⊢
      omega
  | handleClosed joins main joined =>
      simp [live, main, ClientPhase.disposed, ClientPhase.carried] at before ⊢
      omega
  | disconnect side main =>
      have idle : state.callback = .idle := orderly
      cases side <;>
        simp [live, main, idle, ClientPhase.disposed, ClientPhase.carried,
          CallbackPhase.clears] at before ⊢ <;>
        omega
  | childEvent children idle handle =>
      simp [live, idle, CallbackPhase.clears, CallbackPhase.carried] at before
      cases children <;> simp [live, CallbackPhase.clears, CallbackPhase.carried] <;> omega
  | sessionExpired idle handle =>
      simp [live, idle, CallbackPhase.clears, CallbackPhase.carried] at before ⊢
      omega
  | enter waits free =>
      simp [live, waits, CallbackPhase.clears, CallbackPhase.carried] at before ⊢
      omega
  | skip kind side closes stored =>
      simp [live, closes, CallbackPhase.clears, CallbackPhase.carried] at before
      cases side <;> cases kind <;>
        simp [live, CallbackKind.behind, CallbackPhase.clears, CallbackPhase.carried] <;>
        omega
  | close kind side closed closes stored =>
      have own : state.main.disposed = [] := by
        by_contra some
        have idle := (h.disposed some).1
        simp [closes] at idle
      cases side <;>
        simp [live, own, closes, stored, CallbackPhase.clears, CallbackPhase.carried,
          List.count_cons] at before ⊢ <;>
        omega
  | clear kind side clears =>
      simp [live, clears, CallbackPhase.clears, CallbackPhase.carried] at before
      cases side <;> cases kind <;>
        simp [live, CallbackKind.behind, CallbackPhase.clears, CallbackPhase.carried]
          at before ⊢ <;>
        omega
  | redial side result connects free =>
      have opened := state.count_dialled result conn
      simp [live, connects, CallbackPhase.clears, CallbackPhase.carried] at before ⊢
      omega
  | reassign side dialled assigns =>
      have empty := h.emptied side (by rw [assigns]; cases side <;> simp [CallbackPhase.emptied])
      have own : state.main.disposed = [] := by
        by_contra some
        have idle := (h.disposed some).1
        simp [assigns] at idle
      rw [assigned_of_none dialled empty]
      cases side <;>
        simp [live, own, assigns, empty, CallbackPhase.clears, CallbackPhase.carried]
          at before ⊢ <;>
        omega

/-- What holds of every state of an orderly run. -/
structure Accounted (state : ClientThreads) : Prop where
  sequenced : state.Sequenced
  balanced : state.Balanced

theorem accounted_initial : Accounted initial := ⟨sequenced_initial, balanced_initial⟩

theorem accounted_step (h : state.Accounted) (orderly : state.Orderly action)
    (taken : step state action = some after)
    : after.Accounted := by
  have advances := (advances_of_step taken).2
  exact ⟨sequenced_step h.sequenced orderly advances,
    balanced_step h.sequenced h.balanced orderly advances⟩

/-- In every orderly interleaving of the client with the callbacks no connection is closed twice
and none is lost: each one is still kept or has been closed. When the client is gone it has closed
every connection that it had opened.
-/
theorem opened_closed_once (reached : Reaches step Orderly initial state)
    : state.closed.Nodup
      ∧ (∀ conn < state.opened, conn ∈ state.closed ∨ conn ∈ state.kept)
      ∧ (state.main = .gone → state.closed.Perm (List.range state.opened)) := by
  obtain ⟨sequenced, balanced⟩ : state.Accounted :=
    reached.invariant accounted_initial (fun _ _ _ => accounted_step)
  refine ⟨List.nodup_iff_count_le_one.mpr fun conn => ?_, fun conn within => ?_, fun gone => ?_⟩
  · have one := balanced conn
    rw [List.count_append] at one
    split at one <;> omega
  · have one := balanced conn
    rw [if_pos within] at one
    have member : conn ∈ state.kept ++ state.closed := List.count_pos_iff.mp (by omega)
    exact (List.mem_append.mp member).symm
  · have idle := (sequenced.disposed (by simp [gone, ClientPhase.disposed])).1
    have nothing : state.kept = [] := by
      simp [kept, live, gone, idle, ClientPhase.disposed, ClientPhase.carried,
        CallbackPhase.carried]
    refine List.perm_iff_count.mpr fun conn => ?_
    have one := balanced conn
    rw [nothing, List.nil_append] at one
    rw [one, List.count_range]

theorem opened_closed_once_renewal
    : ∃ state : ClientThreads, state.opened = 4 ∧ state.closed.Perm (List.range state.opened) := by
  have reached : Reaches step Orderly initial _ :=
    reaches_of_replay
      (startAndRenewal
        ++ [
          .redial .connected, .reassign, .redial .connected, .reassign,
          .ask .head, .finish, .quit, .handleClosed, .disconnect, .disconnect
        ])
      rfl
  exact ⟨_, rfl, (opened_closed_once reached).2.2 rfl⟩

-----------------------------------------------------------------------------------------
-- Commands on connections that are closed
-----------------------------------------------------------------------------------------

/-- A callback does not close the connection that a command is using, and no command reads a
pointer to a connection that has been closed.
-/
def Spares (state : ClientThreads) : ClientAction → Prop
  | .close => ∀ side ∈ state.callback.closes, side ∉ state.main.asks
  | .ask side => side ∉ state.callback.clears
  | _ => True

instance (state : ClientThreads) (action : ClientAction) : Decidable (state.Spares action) :=
  match action with
  | .close => inferInstanceAs (Decidable (∀ side ∈ state.callback.closes, side ∉ state.main.asks))
  | .ask side => inferInstanceAs (Decidable (side ∉ state.callback.clears))
  | .dial _ | .assign | .check | .finish | .quit | .handleClosed | .disconnect | .childEvent _
  | .sessionExpired | .enter | .clear | .redial _ | .reassign => isTrue trivial

/-- The command that is running, if any, has a connection that is open. -/
def UsesOpen (state : ClientThreads) : Prop :=
  ∀ side conn, state.main = .asking side conn → conn ∉ state.closed

/-- What the pointers say about the command that is running and about a closed connection. -/
structure Pointed (state : ClientThreads) : Prop where
  asked
    : ∀ side conn,
        state.main = .asking side conn
        → state.stored side = some conn ∧ side ∉ state.callback.clears
  cleared
    : ∀ side ∈ state.callback.clears,
        ∀ conn, state.stored side = some conn → conn ∈ state.closed

/-- A running command has a connection that its pointer keeps open. -/
theorem usesOpen_of_pointed (balanced : state.Balanced) (pointed : state.Pointed)
    : state.UsesOpen := by
  intro side conn asks closed
  obtain ⟨stored, clean⟩ := pointed.asked side conn asks
  have live : state.live side = some conn := by
    simp [live, clean, stored, asks, ClientPhase.disposed]
  have kept : conn ∈ state.kept := by
    cases side <;> simp [kept, live]
  have one := balanced conn
  rw [List.count_append] at one
  have first := List.count_pos_iff.mpr kept
  have second := List.count_pos_iff.mpr closed
  split at one <;> omega

theorem pointed_initial : Pointed initial := by
  constructor <;> simp [initial, CallbackPhase.clears]

theorem pointed_step (h : state.Sequenced) (pointed : state.Pointed) (spares : state.Spares action)
    (advances : Advances state action after)
    : after.Pointed := by
  obtain ⟨asked, cleared⟩ := pointed
  cases advances with
  | dial side result main free => exact ⟨by simp, cleared⟩
  | assign side dialled main =>
      have idle := h.starting (by rw [main]; rfl)
      cases side <;> exact ⟨by simp, by simp [idle, CallbackPhase.clears]⟩
  | check both main => cases both <;> exact ⟨by simp, cleared⟩
  | ask side conn main stored =>
      refine ⟨fun other asked asks => ?_, cleared⟩
      cases asks
      exact ⟨stored, spares⟩
  | finish side conn main => exact ⟨by simp, cleared⟩
  | quit main free => exact ⟨by simp, cleared⟩
  | handleClosed joins main joined => exact ⟨by simp, cleared⟩
  | disconnect side main =>
      refine ⟨by cases side <;> simp, fun other clears conn stored => ?_⟩
      exact List.mem_append_right _ (cleared other clears conn stored)
  | childEvent children idle handle =>
      refine ⟨fun side conn asks => ⟨(asked side conn asks).1, ?_⟩, ?_⟩ <;>
        cases children <;> simp [CallbackPhase.clears]
  | sessionExpired idle handle =>
      exact ⟨fun side conn asks => ⟨(asked side conn asks).1, by simp [CallbackPhase.clears]⟩,
        by simp [CallbackPhase.clears]⟩
  | enter waits free =>
      exact ⟨fun side conn asks => ⟨(asked side conn asks).1, by simp [CallbackPhase.clears]⟩,
        by simp [CallbackPhase.clears]⟩
  | skip kind side closes stored =>
      have behind : (kind.behind side).clears = [] := by cases kind <;> cases side <;> rfl
      exact ⟨fun side conn asks => ⟨(asked side conn asks).1, by simp [behind]⟩, by simp [behind]⟩
  | close kind side conn closes stored =>
      refine ⟨fun other used asks => ⟨(asked other used asks).1, ?_⟩, ?_⟩
      · have apart := spares side (by simp [closes, CallbackPhase.closes])
        simp only [show state.main = _ from asks, ClientPhase.asks, List.mem_singleton] at apart
        simpa [CallbackPhase.clears, eq_comm] using apart
      · intro other clears used same
        rw [CallbackPhase.clears, List.mem_singleton] at clears
        subst clears
        cases stored.symm.trans same
        exact List.mem_cons_self
  | clear kind side clears =>
      have behind : (kind.behind side).clears = [] := by cases kind <;> cases side <;> rfl
      refine ⟨fun other used asks => ?_, by simp [behind]⟩
      obtain ⟨stored, clean⟩ := asked other used asks
      rw [clears, CallbackPhase.clears, List.mem_singleton] at clean
      exact ⟨by simp [Function.update_of_ne clean, stored], by simp [behind]⟩
  | redial side result connects free =>
      exact ⟨fun side conn asks => ⟨(asked side conn asks).1, by simp [CallbackPhase.clears]⟩,
        by simp [CallbackPhase.clears]⟩
  | reassign side dialled assigns =>
      have empty := h.emptied side (by rw [assigns]; cases side <;> simp [CallbackPhase.emptied])
      refine ⟨fun other used asks => ?_, by cases side <;> simp [CallbackPhase.clears]⟩
      have stored := (asked other used asks).1
      have apart : other ≠ side := by
        rintro rfl
        rw [empty] at stored
        cases stored
      refine ⟨?_, by cases side <;> simp [CallbackPhase.clears]⟩
      rw [assigned_of_none dialled empty]
      simp [Function.update_of_ne apart, stored]

/-- What holds of every state of an orderly run that spares the commands. -/
structure Tracked (state : ClientThreads) : Prop extends Accounted state where
  pointed : state.Pointed

theorem tracked_step (h : state.Tracked)
    (permitted : state.Orderly action ∧ state.Spares action)
    (taken : step state action = some after)
    : after.Tracked :=
  ⟨accounted_step h.toAccounted permitted.1 taken,
    pointed_step h.sequenced h.pointed permitted.2 (advances_of_step taken).2⟩

/-- Nothing keeps a callback from closing a connection under a command. In an orderly run every
command has an open connection up to the first step that closes the connection of the command
that is running, or lets one read a pointer that has been closed; and that step breaks it.
-/
theorem usesOpen_iff
    (reached
      : Reaches step (fun state action => state.Orderly action ∧ state.Spares action) initial state)
    (orderly : state.Orderly action) (taken : step state action = some after)
    : after.UsesOpen ↔ state.Spares action := by
  obtain ⟨⟨sequenced, balanced⟩, pointed⟩ : state.Tracked :=
    reached.invariant ⟨accounted_initial, pointed_initial⟩ (fun _ _ _ => tracked_step)
  have advances := (advances_of_step taken).2
  constructor
  · intro open_
    cases advances with
    | ask side conn main stored =>
        exact fun clears => open_ side conn rfl (pointed.cleared side clears conn stored)
    | skip kind side closes stored =>
        intro other closing asks
        rw [closes, CallbackPhase.closes, List.mem_singleton] at closing
        subst closing
        cases main : state.main with
        | asking other conn =>
            rw [main, ClientPhase.asks, List.mem_singleton] at asks
            subst asks
            have kept := (pointed.asked other conn main).1
            rw [stored] at kept
            cases kept
        | _ => simp [main, ClientPhase.asks] at asks
    | close kind side conn closes stored =>
        intro other closing asks
        rw [closes, CallbackPhase.closes, List.mem_singleton] at closing
        subst closing
        cases main : state.main with
        | asking other used =>
            rw [main, ClientPhase.asks, List.mem_singleton] at asks
            subst asks
            have kept := (pointed.asked other used main).1
            cases stored.symm.trans kept
            exact open_ other conn main List.mem_cons_self
        | _ => simp [main, ClientPhase.asks] at asks
    | _ => trivial
  · intro spares
    exact usesOpen_of_pointed (balanced_step sequenced balanced orderly advances)
      (pointed_step sequenced pointed spares advances)

/-- The callback closes the head's connection under a command. -/
theorem usesOpen_iff_renewal
    : ∃ after : ClientThreads, after.main = .asking .head 0 ∧ ¬after.UsesOpen := by
  have reached
      : Reaches step (fun state action => state.Orderly action ∧ state.Spares action) initial _ :=
    reaches_of_replay [
      .dial .connected, .assign, .dial .connected, .assign, .check,
      .ask .head, .childEvent true, .enter
    ] rfl
  exact ⟨_, rfl, fun open_ =>
    absurd
      ((usesOpen_iff reached (show Orderly _ .close from trivial) rfl).mp open_) (by decide)⟩

end ClientThreads

end CarChain
