import CarChain.Library.Progress
import CarChain.Membership.ClientConnections
import CarChain.Membership.ClientEnds

/-! How the client follows the chain (`zookeeper-interactions.c`).

The start reads the children of `/chain` and leaves a watch there. A watch that fires runs
`watcher`, which reads the children again with a new watch and connects to the ends of what it
has read, two seconds later and one callback after the other.
-/

namespace CarChain

open CStandard StepSystem

/-- The threads of a client with its watch at ZooKeeper, the children that the start and the last
callback have read, and the node that each connection was opened to.
-/
structure ClientWatch where
  threads : ClientThreads
  members : List CString
  armed : Nat
  fired : Nat
  atStart : List CString
  atEvent : Option (List CString)
  node : Nat → Option CString

/-- `event` is a child event with what its callback then reads, if it can read. -/
inductive ClientWatchAction where
  | change (children : List CString)
  | event (read : Option (List CString))
  | act (action : ClientAction)
  deriving DecidableEq

/-- What is at one end of the chain, or of the children as they were read. -/
def endOf {α : Type} : ChainEnd → List α → Option α
  | .head, items => items.head?
  | .tail, items => items.getLast?

/-- The pointers that a callback in this phase has set to NULL or assigned, or has found so. -/
def CallbackPhase.renewed : CallbackPhase → ChainEnd → Bool
  | .waiting, _ => false
  | .closing _ .head, _ => false
  | .clearing _ .head, _ => false
  | .closing _ .tail, side => side = .head
  | .clearing _ .tail, side => side = .head
  | _, _ => true

/-- What is left of the watches, or of the events that are due, behind a step of the threads. A
session that expires takes its watch with it, and `watcher` returns at once from what is due.
-/
def ClientAction.leaves : ClientAction → Nat → Nat
  | .sessionExpired, _ => 0
  | _, count => count

namespace ClientWatch

/-- A client that has read some children. -/
def initial (children : List CString) : ClientWatch where
  threads := .initial
  members := children
  armed := 1
  fired := 0
  atStart := children
  atEvent := none
  node _ := none

/-- The children that were read last. -/
def latest (state : ClientWatch) : List CString := state.atEvent.getD state.atStart

/-- The nodes of the connections behind a step of the threads. -/
def noted (state : ClientWatch) (action : ClientAction) : Nat → Option CString :=
  match action, state.threads.main, state.threads.callback with
  | .dial .connected, .starting side, _ =>
      Function.update state.node state.threads.opened
        ((endOf side state.atStart).map clientNodePath)
  | .redial .connected, _, .connecting side =>
      Function.update state.node state.threads.opened
        ((endOf side state.latest).map clientNodePath)
  | _, _, _ => state.node

/-- One step. A callback that cannot read the children leaves no watch and returns at once; one
that can gets them in any order. Changes behind `zookeeper_close` at the end of the program stay
due: a client that leaves does not follow them.
-/
def step (state : ClientWatch) : ClientWatchAction → Option ClientWatch
  | .change children =>
      some
        {
          state with
          members := children
          armed := 0
          fired := state.fired + state.armed
        }
  | .event none =>
      if 0 < state.fired
        ∧ state.threads.main.ended = false
        ∧ state.threads.callback = .idle
        ∧ state.threads.handle then
        some { state with fired := state.fired - 1 }
      else
        none
  | .event (some children) =>
      if 0 < state.fired ∧ children.Perm state.members then
        (state.threads.step (.childEvent (children ≠ []))).map (fun threads =>
          {
            state with
            threads
            fired := state.fired - 1
            armed := state.armed + 1
            atEvent := some children
          })
      else
        none
  | .act (.childEvent _) => none
  | .act action =>
      (state.threads.step action).map (fun threads =>
        {
          state with
          threads
          node := state.noted action
          armed := action.leaves state.armed
          fired := action.leaves state.fired
        })

/-- Callbacks begin when the start is over, and can read the children. -/
def Orderly (state : ClientWatch) : ClientWatchAction → Prop
  | .event none => False
  | .event (some _) => state.threads.main.starts = false
  | .act action => state.threads.Orderly action
  | .change _ => True

instance (state : ClientWatch) (action : ClientWatchAction) : Decidable (state.Orderly action) :=
  match action with
  | .event none => inferInstanceAs (Decidable False)
  | .event (some _) => inferInstanceAs (Decidable (_ = false))
  | .act action => inferInstanceAs (Decidable (state.threads.Orderly action))
  | .change _ => inferInstanceAs (Decidable True)

-----------------------------------------------------------------------------------------
-- What the connections were opened to
-----------------------------------------------------------------------------------------

end ClientWatch

namespace ClientThreads

variable {state after : ClientThreads} {action : ClientAction}

/-- Every connection that the threads know has been opened. -/
structure Bounded (state : ClientThreads) : Prop where
  stored : ∀ side conn, state.stored side = some conn → conn < state.opened
  main : ∀ conn, state.main.carried = some conn → conn < state.opened
  callback : ∀ conn, state.callback.carried = some conn → conn < state.opened

theorem dialled_bounded (result : DialResult)
    : state.opened ≤ (state.dialled result).2
      ∧ ∀ conn,
          (state.dialled result).1.getD none = some conn → conn < (state.dialled result).2 := by
  cases result <;> simp [dialled]

theorem assigned_bounded {side other : ChainEnd} {dialled : Option (Option Nat)} {conn : Nat}
    (there : state.assigned side dialled other = some conn)
    : state.stored other = some conn ∨ other = side ∧ dialled.getD none = some conn := by
  cases dialled with
  | none => exact .inl there
  | some result =>
      by_cases same : other = side
      · subst same
        exact .inr ⟨rfl, by simpa [assigned] using there⟩
      · exact .inl (by simpa [assigned, Function.update_of_ne same] using there)

theorem bounded_step (h : state.Bounded) (advances : Advances state action after)
    : after.Bounded := by
  obtain ⟨stored, main, callback⟩ := h
  cases advances with
  | dial side result starts free =>
      obtain ⟨more, fresh⟩ := state.dialled_bounded result
      exact ⟨fun other conn there => Nat.lt_of_lt_of_le (stored other conn there) more, fresh,
        fun conn there => Nat.lt_of_lt_of_le (callback conn there) more⟩
  | assign side dialled assigns =>
      refine ⟨fun other conn there => ?_, fun conn there => ?_, callback⟩
      · rcases assigned_bounded there with before | ⟨-, before⟩
        · exact stored other conn before
        · exact main conn (by rwa [assigns])
      · cases side <;> cases there
  | check both checks =>
      exact ⟨stored, fun conn there => (by cases both <;> cases there), callback⟩
  | ask side conn ready there => exact ⟨stored, fun _ carried => (by cases carried), callback⟩
  | finish side conn asks => exact ⟨stored, fun _ carried => (by cases carried), callback⟩
  | quit ready free => exact ⟨stored, fun _ carried => (by cases carried), callback⟩
  | handleClosed joins leaves joined =>
      exact ⟨stored, fun _ carried => (by cases carried), callback⟩
  | disconnect side cleans =>
      exact ⟨stored, fun conn there => (by cases side <;> cases there), callback⟩
  | childEvent children idle handle =>
      exact ⟨stored, main, fun conn there => by cases children <;> cases there⟩
  | sessionExpired idle handle => exact ⟨stored, main, fun _ carried => by cases carried⟩
  | enter waits free => exact ⟨stored, main, fun _ carried => by cases carried⟩
  | skip kind side closes there =>
      exact ⟨stored, main, fun conn carried => by cases kind <;> cases side <;> cases carried⟩
  | close kind side conn closes there =>
      exact ⟨stored, main, fun _ carried => by cases carried⟩
  | clear kind side clears =>
      refine ⟨fun other conn there => ?_, main,
        fun conn carried => by cases kind <;> cases side <;> cases carried⟩
      by_cases same : other = side
      · simp [same] at there
      · exact stored other conn (by simpa [Function.update_of_ne same] using there)
  | redial side result connects free =>
      obtain ⟨more, fresh⟩ := state.dialled_bounded result
      exact ⟨fun other conn there => Nat.lt_of_lt_of_le (stored other conn there) more,
        fun conn there => Nat.lt_of_lt_of_le (main conn there) more, fresh⟩
  | reassign side dialled assigns =>
      refine ⟨fun other conn there => ?_, main, fun conn there => ?_⟩
      · rcases assigned_bounded there with before | ⟨-, before⟩
        · exact stored other conn before
        · exact callback conn (by rwa [assigns])
      · cases side <;> cases there

/-- No step leads back to the start. -/
theorem starts_of_step (advances : Advances state action after) (starts : after.main.starts = true)
    : state.main.starts = true := by
  cases advances with
  | dial side result main free => simp [main, ClientPhase.starts]
  | assign side dialled main => simp [main, ClientPhase.starts]
  | check both main => simp [main, ClientPhase.starts]
  | ask side conn main stored => cases starts
  | finish side conn main => cases starts
  | quit main free => cases starts
  | handleClosed joins main joined => cases starts
  | disconnect side main => cases side <;> cases starts
  | childEvent | sessionExpired | enter | skip | close | clear | redial | reassign => exact starts

/-- The start is over, and no callback runs but that of an expired session. -/
structure Unrenewed (state : ClientThreads) : Prop where
  started : state.main.starts = false
  callback
    : state.callback = .idle
      ∨ ∃ side,
          state.callback = .closing .expired side ∨ state.callback = .clearing .expired side

/-- It stays so, and no connection is opened, until a callback begins. -/
theorem unrenewed_step (h : state.Unrenewed) (inside : ∀ children, action ≠ .childEvent children)
    (advances : Advances state action after)
    : after.Unrenewed ∧ after.opened = state.opened := by
  obtain ⟨started, callback⟩ := h
  have stays : after.main.starts = false := by
    by_contra starts
    rw [starts_of_step advances (by simpa using starts)] at started
    cases started
  cases advances with
  | dial side result main free => simp [main, ClientPhase.starts] at started
  | assign side dialled main => simp [main, ClientPhase.starts] at started
  | check both main => simp [main, ClientPhase.starts] at started
  | ask | finish | quit | handleClosed | disconnect => exact ⟨⟨stays, callback⟩, rfl⟩
  | childEvent children idle handle => exact absurd rfl (inside children)
  | sessionExpired idle handle => exact ⟨⟨stays, .inr ⟨.head, .inl rfl⟩⟩, rfl⟩
  | enter waits free => simp [waits] at callback
  | skip kind side closes stored =>
      obtain rfl : kind = .expired := by simp_all
      cases side
      · exact ⟨⟨stays, .inr ⟨.tail, .inl rfl⟩⟩, rfl⟩
      · exact ⟨⟨stays, .inl rfl⟩, rfl⟩
  | close kind side conn closes stored =>
      obtain rfl : kind = .expired := by simp_all
      exact ⟨⟨stays, .inr ⟨side, .inr rfl⟩⟩, rfl⟩
  | clear kind side clears =>
      obtain rfl : kind = .expired := by simp_all
      cases side
      · exact ⟨⟨stays, .inr ⟨.tail, .inl rfl⟩⟩, rfl⟩
      · exact ⟨⟨stays, .inl rfl⟩, rfl⟩
  | redial side result connects free => simp [connects] at callback
  | reassign side dialled assigns => simp [assigns] at callback

/-- Behind an expired session `watcher` sets both pointers to NULL. -/
structure Severed (state : ClientThreads) : Prop where
  handle : state.handle = false
  unrenewed : state.Unrenewed
  empty : state.callback = .idle → ∀ side, state.stored side = none

theorem severed_step (h : state.Sequenced) (severed : state.Severed)
    (advances : Advances state action after)
    : after.Severed := by
  obtain ⟨handle, unrenewed, empty⟩ := severed
  have inside : ∀ children, action ≠ .childEvent children := by
    rintro children rfl
    cases advances with
    | childEvent children idle opened => simp [handle] at opened
  refine ⟨?_, (unrenewed_step unrenewed inside advances).1, fun idle => ?_⟩
  · cases advances <;> first | exact handle | rfl
  · obtain ⟨started, callback⟩ := unrenewed
    cases advances with
    | dial side result main free => simp [main, ClientPhase.starts] at started
    | assign side dialled main => simp [main, ClientPhase.starts] at started
    | check | ask | finish | quit | handleClosed | disconnect => exact empty idle
    | childEvent children => exact absurd rfl (inside children)
    | sessionExpired | enter | close | redial => cases idle
    | skip kind side closes stored =>
        cases side with
        | head => cases idle
        | tail =>
            have head := h.emptied .head (by simp [closes, CallbackPhase.emptied])
            rintro (_ | _)
            · exact head
            · exact stored
    | clear kind side clears =>
        cases side with
        | head => cases idle
        | tail =>
            have head := h.emptied .head (by simp [clears, CallbackPhase.emptied])
            rintro (_ | _)
            · simpa using head
            · simp
    | reassign side dialled assigns => simp [assigns] at callback

end ClientThreads

namespace ClientWatch

variable {state after : ClientWatch} {threads : ClientThreads} {action : ClientAction}

/-- Nothing is noted about a connection that has been opened before. -/
theorem noted_of_lt {conn : Nat} (before : conn < state.threads.opened)
    : state.noted action conn = state.node conn := by
  have at_most_one
      : state.noted action = state.node
        ∨ ∃ path, state.noted action = Function.update state.node state.threads.opened path := by
    unfold noted
    split
    · exact .inr ⟨_, rfl⟩
    · exact .inr ⟨_, rfl⟩
    · exact .inl rfl
  rcases at_most_one with same | ⟨path, same⟩
  · rw [same]
  · rw [same, Function.update_of_ne (Nat.ne_of_lt before)]

/-- What holds of every state of an orderly run. Both the pointers that have been renewed and
what is about to be assigned lead to the ends of the children that were read.
-/
structure Tracks (state : ClientWatch) : Prop where
  sequenced : state.threads.Sequenced
  bounded : state.threads.Bounded
  unread : state.threads.main.starts = true → state.atEvent = none
  watched
    : state.fired = 0
      → state.latest.Perm state.members ∧ 0 < state.armed ∨ state.threads.Severed
  renewed
    : ∀ side conn,
        state.threads.callback.renewed side
        → state.threads.stored side = some conn
        → state.node conn = (endOf side state.latest).map clientNodePath
  starting
    : ∀ side conn,
        state.threads.main = .assigning side (some (some conn))
        → state.node conn = (endOf side state.atStart).map clientNodePath
  renewing
    : ∀ side conn,
        state.threads.callback = .assigning side (some (some conn))
        → state.node conn = (endOf side state.latest).map clientNodePath

theorem tracks_initial (children : List CString) : Tracks (initial children) where
  sequenced := ClientThreads.sequenced_initial
  bounded := by constructor <;> simp [initial, ClientThreads.initial, ClientPhase.carried,
    CallbackPhase.carried]
  unread := fun _ => rfl
  watched := fun _ => .inl ⟨.refl _, Nat.one_pos⟩
  renewed := by simp [initial, ClientThreads.initial]
  starting := by simp [initial, ClientThreads.initial]
  renewing := by simp [initial, ClientThreads.initial]

theorem latest_of_starts (h : state.Tracks) (starts : state.threads.main.starts = true)
    : state.latest = state.atStart := by
  rw [latest, h.unread starts]
  rfl

/-- What has been assigned leads to where it was dialled, and nothing else has changed. -/
theorem assigned_leads {side other : ChainEnd} {dialled : Option (Option Nat)} {conn : Nat}
    (h : state.Tracks) (renewed : state.threads.callback.renewed other)
    (leads
      : ∀ conn,
          dialled = some (some conn)
          → state.node conn = (endOf side state.latest).map clientNodePath)
    (bounded : ∀ conn, dialled.getD none = some conn → conn < state.threads.opened)
    (there : state.threads.assigned side dialled other = some conn)
    : state.noted action conn = (endOf other state.latest).map clientNodePath := by
  rcases ClientThreads.assigned_bounded there with stored | ⟨rfl, assigned⟩
  · rw [noted_of_lt (h.bounded.stored other conn stored)]
    exact h.renewed other conn renewed stored
  · rw [noted_of_lt (bounded conn assigned)]
    refine leads conn ?_
    cases dialled with
    | none => cases assigned
    | some result => exact congrArg some assigned

/-- A callback that has closed an end has no connection there. -/
theorem stored_behind {kind : CallbackKind} {side other : ChainEnd} (h : state.threads.Sequenced)
    (closes
      : state.threads.callback = .closing kind side ∨ state.threads.callback = .clearing kind side)
    (renewed : (kind.behind side).renewed other) (apart : other ≠ side)
    : state.threads.stored other = none := by
  refine h.emptied other ?_
  rcases closes with closing | clearing
  · rw [closing]
    cases side <;> cases other <;>
      simp_all [CallbackKind.behind, CallbackPhase.renewed, CallbackPhase.emptied]
  · rw [clearing]
    cases side <;> cases other <;>
      simp_all [CallbackKind.behind, CallbackPhase.renewed, CallbackPhase.emptied]

/-- Behind a step of the threads, the pointers that have been renewed lead to the ends. -/
theorem renewed_act {other : ChainEnd} {conn : Nat} (h : state.Tracks)
    (inside : ∀ children, action ≠ .childEvent children)
    (advances : ClientThreads.Advances state.threads action threads)
    (renewed : threads.callback.renewed other) (there : threads.stored other = some conn)
    : state.noted action conn = (endOf other state.latest).map clientNodePath := by
  have kept (before : state.threads.callback.renewed other)
      (same : state.threads.stored other = some conn)
      : state.noted action conn = (endOf other state.latest).map clientNodePath := by
    rw [noted_of_lt (h.bounded.stored other conn same)]
    exact h.renewed other conn before same
  cases advances with
  | dial | check | ask | finish | quit | handleClosed | disconnect => exact kept renewed there
  | assign side dialled main =>
      have starts : state.threads.main.starts = true := by rw [main]; rfl
      refine assigned_leads h renewed (fun conn assigns => ?_) (fun conn carried => ?_) there
      · rw [latest_of_starts h starts]
        exact h.starting side conn (by rw [main, assigns])
      · exact h.bounded.main conn (by rwa [main])
  | childEvent children idle handle => exact absurd rfl (inside children)
  | sessionExpired | enter => cases renewed
  | skip kind side closes stored =>
      by_cases apart : other = side
      · subst apart
        cases stored.symm.trans there
      · cases (stored_behind h.sequenced (.inl closes) renewed apart).symm.trans there
  | close kind side closed closes stored =>
      refine kept ?_ there
      rw [closes]
      cases side <;> exact renewed
  | clear kind side clears =>
      have cleared : Function.update state.threads.stored side none other = some conn := there
      by_cases apart : other = side
      · simp [apart] at cleared
      · rw [Function.update_of_ne apart] at cleared
        cases (stored_behind h.sequenced (.inr clears) renewed apart).symm.trans cleared
  | redial side result connects free =>
      exact kept (by simp [connects, CallbackPhase.renewed]) there
  | reassign side dialled assigns =>
      refine assigned_leads h (by rw [assigns]; rfl) (fun conn carried => ?_)
        (fun conn carried => ?_) there
      · exact h.renewing side conn (by rw [assigns, carried])
      · exact h.bounded.callback conn (by rwa [assigns])

/-- A step of the threads leaves what has been read current, or the session has expired. -/
theorem watched_act (h : state.Tracks) (orderly : state.threads.Orderly action)
    (advances : ClientThreads.Advances state.threads action threads)
    (delivered : action.leaves state.fired = 0)
    : state.latest.Perm state.members ∧ 0 < action.leaves state.armed ∨ threads.Severed := by
  by_cases expires : action = .sessionExpired
  · subst expires
    cases advances with
    | sessionExpired idle handle =>
        exact .inr ⟨rfl, ⟨orderly, .inr ⟨.head, .inl rfl⟩⟩, fun idle => by cases idle⟩
  · have stays (count : Nat) : action.leaves count = count := by
      cases action <;> first | rfl | exact absurd rfl expires
    rw [stays] at delivered ⊢
    exact (h.watched delivered).imp_right
      (fun severed => ClientThreads.severed_step h.sequenced severed advances)

/-- A step of the threads other than the start of a callback keeps it. -/
theorem tracks_act (h : state.Tracks) (orderly : state.threads.Orderly action)
    (inside : ∀ children, action ≠ .childEvent children)
    (advances : ClientThreads.Advances state.threads action threads)
    : Tracks
        {
          state with
          threads
          node := state.noted action
          armed := action.leaves state.armed
          fired := action.leaves state.fired
        } := by
  have same {conn : Nat} (before : conn < state.threads.opened)
      : state.noted action conn = state.node conn :=
    noted_of_lt before
  refine {
    sequenced := ClientThreads.sequenced_step h.sequenced orderly advances
    bounded := ClientThreads.bounded_step h.bounded advances
    unread := fun starts => h.unread (ClientThreads.starts_of_step advances starts)
    watched := fun delivered => watched_act h orderly advances delivered
    renewed := fun other conn renewed there => renewed_act h inside advances renewed there
    starting := fun other conn assigns => ?_
    renewing := fun other conn assigns => ?_
  }
  · show state.noted action conn = _
    cases advances with
    | dial side result main free =>
        cases result with
        | connected =>
            cases assigns
            simp [noted, main]
        | unread => cases assigns
        | refused => cases assigns
    | assign side dialled main => cases side <;> cases assigns
    | check both main => cases both <;> cases assigns
    | ask | finish | quit | handleClosed => cases assigns
    | disconnect side main => cases side <;> cases assigns
    | childEvent children idle handle => exact absurd rfl (inside children)
    | sessionExpired | enter | skip | close | clear | redial | reassign =>
        have assigning : state.threads.main = .assigning other (some (some conn)) := assigns
        rw [same (h.bounded.main conn (by simp [assigning, ClientPhase.carried]))]
        exact h.starting other conn assigns
  · show state.noted action conn = _
    cases advances with
    | childEvent children idle handle => exact absurd rfl (inside children)
    | sessionExpired | enter | close => cases assigns
    | skip kind side closes stored => cases kind <;> cases side <;> cases assigns
    | clear kind side clears => cases kind <;> cases side <;> cases assigns
    | redial side result connects free =>
        cases result with
        | connected =>
            cases assigns
            simp [noted, connects]
            rfl
        | unread => cases assigns
        | refused => cases assigns
    | reassign side dialled main => cases side <;> cases assigns
    | dial | assign | check | ask | finish | quit | handleClosed | disconnect =>
        have assigning : state.threads.callback = .assigning other (some (some conn)) := assigns
        rw [same (h.bounded.callback conn (by simp [assigning, CallbackPhase.carried]))]
        exact h.renewing other conn assigns

/-- A callback that begins has read the current children. -/
theorem tracks_event {children : List CString} (h : state.Tracks)
    (started : state.threads.main.starts = false) (read : children.Perm state.members)
    (advances : ClientThreads.Advances state.threads (.childEvent (children ≠ [])) threads)
    : Tracks
        {
          state with
          threads
          fired := state.fired - 1
          armed := state.armed + 1
          atEvent := some children
        } := by
  have orderly : state.threads.Orderly (.childEvent (children ≠ [])) := started
  refine {
    sequenced := ClientThreads.sequenced_step h.sequenced orderly advances
    bounded := ClientThreads.bounded_step h.bounded advances
    unread := fun starts => ?_
    watched := fun _ => .inl ⟨read, Nat.succ_pos _⟩
    renewed := fun side conn renewed there => ?_
    starting := fun side conn assigns => ?_
    renewing := fun side conn assigns => ?_
  }
  · rw [ClientThreads.starts_of_step advances starts] at started
    cases started
  all_goals cases advances with | childEvent children idle handle => ?_
  · revert renewed
    simp only
    split <;> exact fun renewed => by cases renewed
  · exact h.starting side conn assigns
  · revert assigns
    simp only
    split <;> exact fun assigns => by cases assigns

/-- A step of the threads is not the start of a callback. -/
theorem act_eq_some (taken : state.step (.act action) = some after)
    : ∃ threads,
        state.threads.step action = some threads
        ∧ (∀ children, action ≠ .childEvent children)
        ∧ after
          = {
              state with
              threads
              node := state.noted action
              armed := action.leaves state.armed
              fired := action.leaves state.fired
            } := by
  have inside : ∀ children, action ≠ .childEvent children := by
    rintro children rfl
    cases taken
  have moved
      : (state.threads.step action).map (fun threads =>
          {
            state with
            threads
            node := state.noted action
            armed := action.leaves state.armed
            fired := action.leaves state.fired
          })
        = some after := by
    cases action <;> first | exact taken | cases taken
  obtain ⟨threads, stepped, rfl⟩ := Option.map_eq_some_iff.mp moved
  exact ⟨threads, stepped, inside, rfl⟩

theorem tracks_step {action : ClientWatchAction} (h : state.Tracks)
    (orderly : state.Orderly action) (taken : state.step action = some after)
    : after.Tracks := by
  cases action with
  | change children =>
      cases taken
      refine { h with watched := fun delivered => ?_ }
      have nothing : state.fired + state.armed = 0 := delivered
      rcases h.watched (by omega) with ⟨-, watched⟩ | severed
      · omega
      · exact .inr severed
  | event read =>
      cases read with
      | none => cases orderly
      | some children =>
          simp only [step, Option.ite_none_right_eq_some] at taken
          obtain ⟨⟨-, read⟩, taken⟩ := taken
          obtain ⟨threads, stepped, rfl⟩ := Option.map_eq_some_iff.mp taken
          exact tracks_event h orderly read (ClientThreads.advances_of_step stepped).2
  | act action =>
      obtain ⟨threads, stepped, inside, rfl⟩ := act_eq_some taken
      exact tracks_act h orderly inside (ClientThreads.advances_of_step stepped).2

/-- Only a change of the chain changes the children. -/
theorem members_of_step {action : ClientWatchAction}
    (inside : ∀ children, action ≠ .change children) (taken : state.step action = some after)
    : after.members = state.members := by
  cases action with
  | change children => exact absurd rfl (inside children)
  | event read =>
      cases read with
      | none =>
          simp only [step, Option.ite_none_right_eq_some, Option.some.injEq] at taken
          obtain ⟨-, rfl⟩ := taken
          rfl
      | some children =>
          simp only [step, Option.ite_none_right_eq_some] at taken
          obtain ⟨threads, -, rfl⟩ := Option.map_eq_some_iff.mp taken.2
          rfl
  | act action =>
      obtain ⟨threads, -, -, rfl⟩ := act_eq_some taken
      rfl

/-- Every pointer that is not NULL leads to the node at its end of the children. -/
def Leads (state : ClientWatch) (children : List CString) : Prop :=
  ∀ side conn,
    state.threads.stored side = some conn
    → state.node conn = (endOf side children).map clientNodePath

theorem tracks_of_reaches {children : List CString}
    (reached : Reaches step Orderly (initial children) state)
    : state.Tracks :=
  reached.invariant (tracks_initial children) (fun _ _ _ => tracks_step)

/-- Between two callbacks the pointers lead to the ends of the children as they were read last. -/
theorem leads_of_tracks (tracks : state.Tracks) (idle : state.threads.callback = .idle)
    : state.Leads state.latest :=
  fun side conn there => tracks.renewed side conn (by rw [idle]; rfl) there

/-- With no event left to deliver, what was read last are the current children. -/
theorem latest_of_tracks (tracks : state.Tracks) (idle : state.threads.callback = .idle)
    (delivered : state.fired = 0)
    : state.latest.Perm state.members
      ∨ state.threads.handle = false ∧ ∀ side, state.threads.stored side = none := by
  rcases tracks.watched delivered with ⟨current, -⟩ | ⟨closed, -, empty⟩
  · exact .inl current
  · exact .inr ⟨closed, empty idle⟩

/-- In every orderly interleaving of the client with its callbacks and with changes of the chain,
whenever no callback is running and no event is left to deliver, each connection that there is
leads to its end of the children as they were read last. These are the current children in some
order, unless the session has expired: then both pointers are NULL.
-/
theorem ends_current {children : List CString}
    (reached : Reaches step Orderly (initial children) state)
    (idle : state.threads.callback = .idle) (delivered : state.fired = 0)
    : state.Leads state.latest
      ∧ (
        state.latest.Perm state.members
        ∨ state.threads.handle = false ∧ ∀ side, state.threads.stored side = none
      ) :=
  have tracks := tracks_of_reaches reached
  ⟨leads_of_tracks tracks idle, latest_of_tracks tracks idle delivered⟩

/-- A client connects to a chain of one, asks, and follows when a second server joins. -/
def followedJoin (first second : CString) : List ClientWatchAction :=
  [
    .act (.dial .connected), .act .assign, .act (.dial .connected), .act .assign, .act .check,
    .change [first, second], .act (.ask .tail), .act .finish, .event (some [first, second]),
    .act .enter, .act .close, .act .clear, .act .close, .act .clear,
    .act (.redial .connected), .act .reassign, .act (.redial .connected), .act .reassign
  ]

theorem ends_current_join
    : ∃ state : ClientWatch,
        state.threads.opened = 4
        ∧ state.threads.stored .head = some 2
        ∧ state.Leads state.latest
        ∧ state.latest.Perm state.members := by
  have reached : Reaches step Orderly (initial [.literal "node0"]) _ :=
    reaches_of_replay (followedJoin (.literal "node0") (.literal "node1")) rfl
  obtain ⟨leads, current⟩ := ends_current reached rfl rfl
  exact ⟨_, rfl, rfl, leads, current.resolve_right (fun expired => by cases expired.1)⟩

end ClientWatch

end CarChain
