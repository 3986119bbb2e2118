import CarChain.Membership.ClientWatch
import CarChain.Membership.Cluster

/-! Servers and clients that follow one chain (`zk_server.c`, `zookeeper-interactions.c`).

All of them watch the children of `/chain`: the servers to find their places, the clients to find
the two ends. Nobody tells a client which server is the head; both work it out by themselves.
-/

namespace CarChain

open CStandard StepSystem

/-- The servers, and the clients that have been started. -/
structure Coordination (Server Client : Type) where
  cluster : Cluster Server
  client : Client → Option ClientWatch

inductive CoordinationAction (Server Client : Type) where
  | cluster (action : ClusterAction Server)
  | start (client : Client) (children : List CString)
  | client (client : Client) (action : ClientWatchAction)
  deriving DecidableEq

namespace Coordination

variable {Server Client : Type}

def initial (own : Server → CString) : Coordination Server Client where
  cluster := .initial own
  client _ := none

/-- The clients after a step of the servers: they see when the children change. -/
def told (state : Coordination Server Client) (action : ClusterAction Server)
    (members : List CString)
    : Client → Option ClientWatch :=
  if Cluster.onThread (fun _ => true) action then state.client
  else fun client => (state.client client).bind (fun watch => watch.step (.change members))

/-- One step. A client that finds children starts to follow them. -/
def step [DecidableEq Server] [DecidableEq Client] (own : Server → CString)
    (state : Coordination Server Client)
    : CoordinationAction Server Client → Option (Coordination Server Client)
  | .cluster action =>
      (state.cluster.step own action).map (fun cluster =>
        ⟨cluster, state.told action cluster.members⟩)
  | .start client children =>
      if (state.client client).isNone ∧ children ≠ [] ∧ children.Perm state.cluster.members then
        some
          { state with client := Function.update state.client client (some (.initial children)) }
      else
        none
  | .client _ (.change _) => none
  | .client client action =>
      ((state.client client).bind (fun watch => watch.step action)).map (fun watch =>
        { state with client := Function.update state.client client (some watch) })

/-- ZooKeeper answers servers and clients, start-up calls publish in time, and callbacks of a client
begin when its start is over.
-/
def Undisturbed (state : Coordination Server Client) : CoordinationAction Server Client → Prop
  | .cluster action => state.cluster.Undisturbed action
  | .start _ _ => True
  | .client client action => ∀ watch ∈ state.client client, watch.Orderly action

instance (state : Coordination Server Client) : DecidablePred state.Undisturbed := fun action =>
  match action with
  | .cluster action => inferInstanceAs (Decidable (state.cluster.Undisturbed action))
  | .start _ _ => inferInstanceAs (Decidable True)
  | .client client action =>
      inferInstanceAs (Decidable (∀ watch ∈ state.client client, watch.Orderly action))

/-- What holds of every state of an undisturbed run. -/
structure Followed (own : Server → CString) (state : Coordination Server Client) : Prop where
  formed : state.cluster.Formed own
  tracks
    : ∀ client watch,
        state.client client = some watch
        → watch.Tracks ∧ watch.members.Perm state.cluster.members

variable {own : Server → CString} {state after : Coordination Server Client}

theorem followed_initial (own : Server → CString)
    : (initial own : Coordination Server Client).Followed own :=
  ⟨Cluster.formed_initial own, fun _ _ started => by cases started⟩

/-- The threads of the servers leave the children as they are. -/
theorem members_of_onThread [DecidableEq Server] {cluster cluster' : Cluster Server}
    {action : ClusterAction Server} (thread : Cluster.onThread (fun _ => true) action)
    (taken : cluster.step own action = some cluster')
    : cluster'.members = cluster.members := by
  cases action with
  | register server children => cases thread
  | remove server children => cases thread
  | act server action =>
      simp only [Cluster.step, Option.ite_none_right_eq_some] at taken
      obtain ⟨stepped, -, rfl⟩ := Option.map_eq_some_iff.mp taken.2
      rfl

theorem followed_step [DecidableEq Server] [DecidableEq Client]
    {action : CoordinationAction Server Client} (distinct : Function.Injective own)
    (followed : state.Followed own) (undisturbed : state.Undisturbed action)
    (taken : state.step own action = some after)
    : after.Followed own := by
  obtain ⟨formed, tracks⟩ := followed
  cases action with
  | cluster action =>
      obtain ⟨cluster, stepped, rfl⟩ := Option.map_eq_some_iff.mp taken
      refine ⟨Cluster.formed_step distinct formed undisturbed stepped, fun client watch there => ?_⟩
      simp only [told] at there
      split at there
      · rename_i thread
        rw [members_of_onThread thread stepped]
        exact tracks client watch there
      · obtain ⟨before, started, changed⟩ := Option.bind_eq_some_iff.mp there
        have orderly : before.Orderly (.change cluster.members) := trivial
        refine ⟨ClientWatch.tracks_step (tracks client before started).1 orderly changed, ?_⟩
        cases changed
        exact .refl _
  | start client children =>
      simp only [step, Option.ite_none_right_eq_some, Option.some.injEq] at taken
      obtain ⟨⟨-, -, read⟩, rfl⟩ := taken
      refine ⟨formed, fun other watch there => ?_⟩
      by_cases same : other = client
      · subst same
        simp only [Function.update_self, Option.some.injEq] at there
        subst there
        exact ⟨ClientWatch.tracks_initial children, read⟩
      · simp only [Function.update_of_ne same] at there
        exact tracks other watch there
  | client client action =>
      have inside : ∀ children, action ≠ .change children := by
        rintro children rfl
        cases taken
      have moved
          : ((state.client client).bind (fun watch => watch.step action)).map (fun watch =>
              { state with client := Function.update state.client client (some watch) })
            = some after := by
        cases action <;> first | exact absurd rfl (inside _) | exact taken
      obtain ⟨watch', moves, rfl⟩ := Option.map_eq_some_iff.mp moved
      obtain ⟨before, started, stepped⟩ := Option.bind_eq_some_iff.mp moves
      refine ⟨formed, fun other watch there => ?_⟩
      by_cases same : other = client
      · subst same
        simp only [Function.update_self, Option.some.injEq] at there
        subst there
        obtain ⟨tracked, members⟩ := tracks other before started
        refine ⟨ClientWatch.tracks_step tracked (undisturbed before started) stepped, ?_⟩
        rw [ClientWatch.members_of_step inside stepped]
        exact members
      · simp only [Function.update_of_ne same] at there
        exact tracks other watch there

theorem followed_of_reaches [DecidableEq Server] [DecidableEq Client]
    (distinct : Function.Injective own)
    (reached : Reaches (step own) Undisturbed (initial own) state)
    : state.Followed own :=
  reached.invariant (followed_initial own)
    (fun _ _ _ before undisturbed taken => followed_step distinct before undisturbed taken)

/-- The path that a client reads at one end is the node of the server at that end. -/
theorem path_of_endsInPlace {members seen : List CString} {order : List Server} {side : ChainEnd}
    (names : order.map own = chainOf members) (read : seen.Perm members)
    (place : EndsInPlace seen)
    : ∃ server,
        endOf side order = some server
        ∧ (endOf side seen).map clientNodePath = some (nodePath (own server)) := by
  have chain : order.map own = chainOf seen := names.trans (chainOf_eq_of_perm read.symm)
  cases side with
  | head =>
      obtain ⟨child, least, head, extreme, path⟩ := place.first
      have first : (order.map own).head? = some least := by rw [chain, chainOf_head.mpr extreme]
      rw [List.head?_map, Option.map_eq_some_iff] at first
      obtain ⟨server, front, rfl⟩ := first
      exact ⟨server, front, by rw [endOf, head, Option.map_some, path]⟩
  | tail =>
      obtain ⟨child, greatest, tail, extreme, path⟩ := place.last
      have last : (order.map own).getLast? = some greatest := by
        rw [chain, chainOf_getLast.mpr extreme]
      rw [List.getLast?_map, Option.map_eq_some_iff] at last
      obtain ⟨server, back, rfl⟩ := last
      exact ⟨server, back, by rw [endOf, tail, Option.map_some, path]⟩

/-- In every undisturbed interleaving of servers and clients, whenever no server has a step left
that it owes and none is stopping, the servers store the places of one chain; and each client
between two callbacks, with no event left and its ends in place, has its connections to the first
and to the last server of that chain.
-/
theorem ends_meet [DecidableEq Server] [DecidableEq Client] (distinct : Function.Injective own)
    (reached : Reaches (step own) Undisturbed (initial own) state)
    (rests : state.cluster.Rests own)
    (serving
      : ∀ server,
          state.cluster.node server = .present
          → (state.cluster.thread server).main = .serving)
    : ∃ order,
        state.cluster.InOrder own order
        ∧ ∀ client watch,
            state.client client = some watch
            → watch.threads.callback = .idle
            → watch.fired = 0
            → EndsInPlace watch.latest
            → ∀ side conn,
                watch.threads.stored side = some conn
                → ∃ server,
                    endOf side order = some server
                    ∧ watch.node conn = some (nodePath (own server)) := by
  have followed := followed_of_reaches distinct reached
  obtain ⟨order, inOrder⟩ := Cluster.inOrder_of_rests distinct followed.formed rests serving
  refine ⟨order, inOrder, fun client watch started idle delivered place side conn there => ?_⟩
  obtain ⟨tracks, members⟩ := followed.tracks client watch started
  have leads := ClientWatch.leads_of_tracks tracks idle
  rcases ClientWatch.latest_of_tracks tracks idle delivered with read | ⟨-, empty⟩
  · obtain ⟨server, atEnd, path⟩ :=
      path_of_endsInPlace inOrder.names (read.trans members) place
    exact ⟨server, atEnd, (leads side conn there).trans path⟩
  · rw [empty side] at there
    cases there

/-- A client connects to the first server, and follows when the second one joins. -/
def twoServersAndClient : List (CoordinationAction Bool Unit) :=
  let first := Cluster.twoNames false
  let second := Cluster.twoNames true
  (Cluster.joining false [first] ++ Cluster.startingUp false).map .cluster
  ++ [.start () [first]]
  ++ ((ClientWatch.followedJoin first second).take 5).map (.client ())
  ++ (Cluster.joining true [first, second] ++ Cluster.followingUp).map .cluster
  ++ ((ClientWatch.followedJoin first second).drop 8).map (.client ())
  ++ (Cluster.startingUp true).map .cluster

theorem ends_meet_two
    : ∃ state : Coordination Bool Unit,
        ∃ watch order,
          state.client () = some watch
          ∧ watch.threads.stored .tail = some 3
          ∧ state.cluster.InOrder Cluster.twoNames order
          ∧ ∃ server,
              endOf .tail order = some server
              ∧ watch.node 3 = some (nodePath (Cluster.twoNames server)) := by
  have reached : Reaches (step Cluster.twoNames) Undisturbed (initial Cluster.twoNames) _ :=
    reaches_of_replay twoServersAndClient rfl
  obtain ⟨order, inOrder, ends⟩ :=
    ends_meet (by decide) reached (Cluster.rests_of_asleep (by decide)) (by decide)
  have place : EndsInPlace [Cluster.twoNames false, Cluster.twoNames true] :=
    (endsInPlace_iff_of_fits (by decide)).mpr
      ⟨⟨_, rfl, by decide⟩, ⟨_, rfl, by decide⟩⟩
  exact ⟨_, _, order, rfl, rfl, inOrder, ends () _ rfl rfl rfl place .tail 3 rfl⟩

end Coordination

end CarChain
