import CarChain.Model.Sync
import CarChain.Replication.System

/-! A server joins behind the old tail.

Server 0 is the old tail and server 1 the joiner. The joiner registers, updates its view,
copies the old tail's list and only then listens. The old tail learns of it through its watch;
its update thread connects, which the joiner accepts once it listens, and publishes a new view.
Writes reach the old tail all the while.
-/

namespace CarChain

open CStandard

/-- The start-up of the joiner in the order of `main`. The old tail's answer to `zk_sync` and
the copy of it are two steps; between them the joiner has the list it was answered with.
-/
inductive JoinerPhase where
  | starting
  | registered
  | placed
  | copying (source : ListT)
  | synced
  | listening
  deriving DecidableEq

/-- The update thread of the old tail: its watch is armed, its flag is set, it makes a numbered
attempt to connect, it is about to publish, it waits for the next event.
-/
inductive UpdaterPhase where
  | armed
  | pending
  | connecting (retry : Nat)
  | publishing (connected : Bool)
  | waiting
  deriving DecidableEq

structure Join where
  system : System
  joiner : JoinerPhase
  updater : UpdaterPhase

/-- A step of a request, the next step of the joiner, or that of the update thread. -/
inductive JoinAction where
  | request (action : Action)
  | joiner
  | updater

/-- Whether the old tail has answered the joiner. -/
def JoinerPhase.answered : JoinerPhase → Bool
  | .copying _ => true
  | .synced => true
  | .listening => true
  | _ => false

/-- The old tail as `zk_sync` meets it when nothing fails, so that every reply fits a frame. -/
def SyncPeer.reliable (list : ListT) : SyncPeer Nat where
  accepts := true
  requestArrives := true
  list
  forward := .steady (.last 1) (fun _ _ => none)
  script := []
  packedSize _ := 0
  replyArrives := true

namespace Join

/-- What the old tail of a chain of this size publishes about the joiner. -/
def tailView (size : Nat) (connected : Bool) : ChainView Nat :=
  ⟨if connected then some 1 else none, size - 1, size + 1⟩

/-- The joiner's own place, behind a chain of this size. -/
def joinerTopology (size : Nat) (address : CString) : ZkTopology Nat where
  successor := none
  successorAddress := none
  predecessorAddress := some address
  role := .tail
  nodeIndex := size
  chainSize := size + 1

/-- The old tail is the last of a chain of this size; the joiner has what `zk_connect` left. -/
def initial (size : Nat) (list : ListT) : Join where
  system :=
    .initial (fun node => if node = 0 then list else listCreate)
      (fun node => if node = 0 then .last size else ⟨none, -1, 0⟩)
  joiner := .starting
  updater := .armed

def joinerStep (size : Nat) (address : CString) (join : Join) : Option Join :=
  match join.joiner with
  | .starting => some { join with joiner := .registered }
  | .registered =>
      some
        {
          join with
          system := join.system.setView 1 (joinerTopology size address).view
          joiner := .placed
        }
  | .placed =>
      if join.system.Free 0 then
        some
          {
            join with
            system := join.system.setList 0 (SyncPeer.reliable (join.system.lists 0)).exchange.2
            joiner := .copying (join.system.lists 0)
          }
      else
        none
  | .copying source =>
      match (zkSync (.reliable source) (joinerTopology size address) (join.system.lists 1)).run []
      with
      | .ok ((0, list), _) =>
          some { join with system := join.system.setList 1 list, joiner := .synced }
      | _ => none
  | .synced => some { join with joiner := .listening }
  | .listening => none

/-- The thread gives up connecting after five attempts and publishes all the same. -/
def updaterStep (size : Nat) (join : Join) : Option Join :=
  match join.updater with
  | .armed => if join.joiner = .starting then none else some { join with updater := .pending }
  | .pending => some { join with updater := .connecting 0 }
  | .connecting retry =>
      if join.joiner = .listening then some { join with updater := .publishing true }
      else if retry + 1 < 5 then some { join with updater := .connecting (retry + 1) }
      else some { join with updater := .publishing false }
  | .publishing connected =>
      some
        {
          join with
          system := join.system.setView 0 (tailView size connected)
          updater := .waiting
        }
  | .waiting => none

def step (size : Nat) (address : CString) (join : Join) : JoinAction → Option Join
  | .request action => (join.system.step action).map (fun system => { join with system })
  | .joiner => join.joinerStep size address
  | .updater => join.updaterStep size

/-- ADD and DEL requests at the old tail, with no failures and no other changes of views. -/
def WritesOnly (_ : Join) : JoinAction → Prop
  | .request (.send entry request) => entry = 0 ∧ isWrtOp request = true
  | .request (.lock _ script) => script = []
  | .request (.topology _ _) => False
  | _ => True

instance (join : Join) : (action : JoinAction) → Decidable (join.WritesOnly action)
  | .request (.send entry request) =>
      inferInstanceAs (Decidable (entry = 0 ∧ isWrtOp request = true))
  | .request (.lock _ script) => inferInstanceAs (Decidable (script = []))
  | .request (.topology _ _) => isFalse id
  | .request (.forward _) => isTrue trivial
  | .request (.answer _) => isTrue trivial
  | .joiner => isTrue trivial
  | .updater => isTrue trivial

/-- Once the old tail has answered the joiner, no write ends there as at the last server. -/
def KeepsUp (join : Join) : JoinAction → Prop
  | .request (.forward id) =>
      join.joiner.answered = true
      → ∀ call ∈ join.system.calls[id]?, ∀ frame ∈ call.frames.head?,
          frame.node = 0 → (join.system.views 0).hop ≠ .stop
  | _ => True

instance (join : Join) : (action : JoinAction) → Decidable (join.KeepsUp action)
  | .request (.forward id) =>
      inferInstanceAs
        (Decidable
          (join.joiner.answered = true
            → ∀ call ∈ join.system.calls[id]?, ∀ frame ∈ call.frames.head?,
                frame.node = 0 → (join.system.views 0).hop ≠ .stop))
  | .request (.send _ _) => isTrue trivial
  | .request (.lock _ _) => isTrue trivial
  | .request (.answer _) => isTrue trivial
  | .request (.topology _ _) => isTrue trivial
  | .joiner => isTrue trivial
  | .updater => isTrue trivial

end Join

end CarChain
