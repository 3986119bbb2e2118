import CarChain.Replication.Waves

/-! A chain of replicated servers behaves like one server that is not replicated.

Writes enter at the head and reads at the tail. Without requests for the ordered list every
run is steady, so the invariant of waves applies to it.
-/

namespace CarChain

open Linearization StepSystem

namespace System

/-- A client that never asks for the ordered list. -/
def AsksNoOrder (_ : System) : Action → Prop
  | .send _ request => request.opcode ≠ Opcode.opGetlistbytear
  | _ => True

instance (system : System) : (action : Action) → Decidable (system.AsksNoOrder action)
  | .send _ request => inferInstanceAs (Decidable (request.opcode ≠ Opcode.opGetlistbytear))
  | .lock _ _ => isTrue trivial
  | .forward _ => isTrue trivial
  | .answer _ => isTrue trivial
  | .topology _ _ => isTrue trivial

/-- Writes to the head and reads to the tail of a stable chain, with no failures. -/
def ReadsAndWrites (n : Nat) (system : System) (action : Action) : Prop :=
  system.Program n action ∧ system.AsksNoOrder action

instance (n : Nat) (system : System) (action : Action)
    : Decidable (system.ReadsAndWrites n action) :=
  inferInstanceAs (Decidable (_ ∧ _))

/-- No request on its way asks for the ordered list. -/
def NoOrderAsked (system : System) : Prop :=
  ∀ request ∈ system.calls.map Call.request, request.opcode ≠ Opcode.opGetlistbytear

variable {n : Nat} {system after : System}

theorem noOrderAsked_step {action : Action} (unasked : system.NoOrderAsked)
    (asks : system.AsksNoOrder action) (taken : step system action = some after)
    : after.NoOrderAsked :=
  step_requests unasked (fun _ _ sent => by rwa [sent] at asks) taken

/-- Where nobody asks for the ordered list, no handler puts a list in order. -/
theorem steady_of_readsAndWrites {action : Action} (unasked : system.NoOrderAsked)
    (traffic : system.ReadsAndWrites n action)
    : system.Steady n action := by
  refine ⟨traffic.1, ?_⟩
  cases action with
  | lock id script =>
      intro call found order
      exact absurd order (unasked _ (List.mem_map_of_mem (List.mem_of_getElem? found)))
  | _ => trivial

/-- For every interleaving of writes at the head and reads at the tail of a chain: one order
of all requests explains every reply as that of a single server and respects real time, and
without a write under way all servers have one list.
-/
theorem chain_linearizable {lists : Nat → ListT} {start : ListT} (positive : 0 < n)
    (equal : ∀ node < n, lists node = start)
    (reached : Reaches step (ReadsAndWrites n) (initial lists (chainViews n)) system)
    : (∃ order, Linearizes serve start (system.calls.map Call.request) system.events order)
      ∧ (¬system.WriteUnderWay
          → ∀ node < n, ∀ other < n, system.lists node = system.lists other) := by
  have steady : Reaches step (Steady n) (initial lists (chainViews n)) system :=
    reached.exchange (fun _ member => by cases member)
      (fun _ _ _ unasked traffic taken => noOrderAsked_step unasked traffic.2 taken)
      (fun _ _ _ unasked traffic _ => steady_of_readsAndWrites unasked traffic)
  have inv := inv_reached positive equal steady
  exact ⟨inv.linearizes, inv.lists_equal⟩

theorem chain_linearizable_two
    : ∃ system : System,
        system.events.length = 4
        ∧ (∃ order,
            Linearizes serve listCreate (system.calls.map Call.request) system.events order)
        ∧ (¬system.WriteUnderWay
            → ∀ node < 2, ∀ other < 2, system.lists node = system.lists other) := by
  have reached
      : Reaches step (ReadsAndWrites 2) (initial (fun _ => listCreate) (chainViews 2)) _ :=
    reaches_of_replay [
      .send 0 (addRequest (clio 2020)), .lock 0 [], .forward 0, .lock 0 [], .forward 0,
      .answer 0, .answer 0,
      .send 1 sizeRequest, .lock 1 [], .answer 1
    ] rfl
  exact ⟨_, rfl, chain_linearizable Nat.two_pos (fun _ _ => rfl) reached⟩

end System

end CarChain
