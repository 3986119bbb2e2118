import Mathlib.Algebra.GroupWithZero.Nat
import CarChain.Library.CRuntime

/-! Arrays of pointers that a program allocates and fills cell by cell from the first one on.

A cell is not written yet, or holds NULL or a pointer to an item. Writing outside of an array
faults, and so does reading a cell that is outside or was never written.
-/

namespace CArray

open CRuntime

variable {α : Type}

abbrev Slots (α : Type) := List (Option (Option α))

/-- `malloc(count * sizeof *array)`; a pointer has eight bytes and the product is a `size_t`. -/
def mallocArray (count : Nat) : Mem (Option (Slots α)) := do
  if !(← malloc) then return none
  return some (List.replicate (count * 8 % 2 ^ 64 / 8) none)

/-- `array[index] = value`. -/
def write (array : Slots α) (index : Nat) (value : Option α) : Except Fault (Slots α) :=
  if index < array.length then .ok (array.set index (some value)) else .error .outOfBounds

/-- The pointer `array[index]`. -/
def read (array : Slots α) (index : Nat) : Except Fault (Option α) :=
  match array[index]? with
  | some (some value) => .ok value
  | some none => .error .outOfBounds
  | none => .error .outOfBounds

/-- `while (i > 0) free(array[--i])`. -/
def freeBelow (array : Slots α) : Nat → Except Fault Unit
  | 0 => .ok ()
  | index + 1 => do
      let _ ← read array index
      freeBelow array index

/-- `realloc(array, count * sizeof *array)` for at most as many cells as the array has. -/
def reallocArray (array : Slots α) (count : Nat) : Mem (Option (Slots α)) := do
  if !(← malloc) then return none
  return some (array.take count)

/-- The array whose first cells hold these items, with room for more. -/
def filled (items : List α) (room : Nat) : Slots α :=
  items.map (fun item => some (some item)) ++ List.replicate room none

/-- The array of these items and a NULL behind the last, without any other cell. -/
def terminated (items : List α) : Slots α := (nullTerminated items).map some

@[simp]
theorem length_filled (items : List α) (room : Nat)
    : (filled items room).length = items.length + room := by
  simp [filled]

@[simp]
theorem length_terminated (items : List α) : (terminated items).length = items.length + 1 := by
  simp [terminated, nullTerminated]

/-- An array that the address space can hold has the cells that were asked for. -/
theorem mallocArray_eq {count : Nat} (below : count < 2 ^ 61)
    : (mallocArray count : Mem (Option (Slots α))) = (do
        if !(← malloc) then return none
        return some (filled [] count)) := by
  have bytes : count * 8 % 2 ^ 64 / 8 = count := by omega
  rw [mallocArray, bytes]
  rfl

/-- What is written to the first free cell is behind the items. -/
theorem set_filled (items : List α) (room : Nat) (value : Option (Option α))
    : (filled items (room + 1)).set items.length value
      = items.map (fun item => some (some item)) ++ value :: List.replicate room none := by
  rw [filled, List.set_append_right _ _ (by simp)]
  simp [List.replicate_succ]

/-- Writing the next item uses up one cell. -/
theorem write_item (items : List α) (room : Nat) (item : α)
    : write (filled items (room + 1)) items.length (some item)
      = .ok (filled (items ++ [item]) room) := by
  rw [write, if_pos (by simp), set_filled]
  simp [filled]

/-- Writing NULL to the last free cell terminates the array. -/
theorem write_terminator (items : List α)
    : write (filled items 1) items.length none = .ok (terminated items) := by
  rw [write, if_pos (by simp), set_filled]
  simp [terminated, nullTerminated]

/-- The items written so far can be freed, by induction on how many are left. -/
theorem freeBelow_filled {items : List α} {room index : Nat} (within : index ≤ items.length)
    : freeBelow (filled items room) index = .ok () := by
  induction index with
  | zero => rfl
  | succ index ih =>
      have inside : index < items.length := within
      have written : (filled items room)[index]? = some (some (some items[index])) := by
        rw [filled, List.getElem?_append_left (by simpa using inside)]
        simp [inside]
      rw [freeBelow, read, written]
      exact ih (Nat.le_of_lt inside)

/-- Shrinking a terminated array to its own length leaves it as it is. -/
theorem take_terminated (items : List α)
    : (terminated items).take (items.length + 1) = terminated items :=
  List.take_of_length_le (by simp)

end CArray
