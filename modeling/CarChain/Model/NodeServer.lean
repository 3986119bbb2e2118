import Mathlib.Order.Lattice.Nat
import CarChain.Model.ListInterface
import CarChain.Model.NodeArrays

/-! The skeleton over nodes in memory, from `list_skel_init` to `list_skel_destroy`. -/

namespace CarChain

open CRuntime CStandard LinkedCells CArray

/-- Where `malloc` puts the next node: at an address that is not in use. -/
structure NodeAllocator where
  place : Cells DataT → Addr
  fresh : ∀ nodes, place nodes ∉ nodes

/-- The allocator that takes the address behind the highest in use. -/
def NodeAllocator.bump : NodeAllocator where
  place nodes := nodes.keys.sup id + 1
  fresh nodes member := by
    have below := Finset.le_sup (f := id) (Finmap.mem_keys.mpr member)
    exact Nat.not_succ_le_self _ below

/-- The cells of an array up to its first NULL; reading one that was never written faults, and so
does reading behind the last.
-/
def cellsToNull {α : Type} : Slots α → Except Fault (List (Option α))
  | [] => .error .outOfBounds
  | none :: _ => .error .outOfBounds
  | some none :: _ => .ok [none]
  | some (some item) :: rest => do return some item :: (← cellsToNull rest)

/-- A terminated array is read up to its end, by induction on its items. -/
theorem cellsToNull_terminated {α : Type} (items : List α)
    : cellsToNull (terminated items) = .ok (nullTerminated items) := by
  induction items with
  | nil => rfl
  | cons item rest ih =>
      have step : cellsToNull (terminated (item :: rest))
          = (do return some item :: (← cellsToNull (terminated rest))) :=
        rfl
      rw [step, ih]
      rfl

namespace NodeList

/-- `list_get_by_marca`. -/
def listGetByMarca (list : NodeList) (marca : Int32) : Except Fault (Option DataT) :=
  findFrom list.nodes (fun car => car.marca = marca) (count list.nodes) list.head

/-- `list_destroy` of a list that is not NULL: the nodes it leaves allocated, and 0. A car is
freed with its node.
-/
def listDestroy (list : NodeList) : Except Fault (Cells DataT × Int32) := do
  let nodes ← freeAll (count list.nodes) list.nodes list.head
  return (nodes, 0)

/-- The cells of an array that a builder returned. -/
def readArray {α : Type} (array : Option (Slots α)) : Except Fault (Option (List (Option α))) :=
  match array with
  | none => .ok none
  | some array => do return some (← cellsToNull array)

/-- The functions of `list.h` on nodes in memory. -/
def interface (allocator : NodeAllocator) : ListInterface NodeList where
  listAdd list car := do
    let granted ← malloc
    let node := if granted then some (allocator.place list.nodes) else none
    (list.listAdd (some car) node : Except Fault _)
  listRemoveByModel list modelo := list.listRemoveByModel (some modelo)
  listGetByMarca list marca := list.listGetByMarca marca
  listGetByYear list ano := do readArray (← list.listGetByYear ano)
  listOrderByYear list := list.listOrderByYear
  listSize := listSize
  listGetModelList list := do readArray (← list.listGetModelList)
  listGetAll list := do readArray (← list.listGetAll)

end NodeList

end CarChain
