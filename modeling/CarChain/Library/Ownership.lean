import Mathlib.Logic.Function.Basic
import Mathlib.Logic.Relator

/-! Resources that are in one place at a time.

A relation says at which place a resource is. Steps move what is at a place to another one,
bring new resources in or lose some; none of them doubles a resource.
-/

namespace Ownership

variable {Place Resource : Type} {held after : Place → Resource → Prop}

/-- Whatever goes from each place goes to a single one, so a resource still has one place. -/
theorem leftUnique_of_moved (moves : Place → Place) (unique : Relator.LeftUnique held)
    (moved : ∀ place resource,
      after place resource → ∃ source, held source resource ∧ moves source = place)
    : Relator.LeftUnique after := by
  intro place other resource here there
  obtain ⟨source, from_, rfl⟩ := moved place resource here
  obtain ⟨second, also, rfl⟩ := moved other resource there
  rw [unique from_ also]

/-- Resources that stay where they are or get lost. -/
theorem leftUnique_of_kept (unique : Relator.LeftUnique held)
    (kept : ∀ place resource, after place resource → held place resource)
    : Relator.LeftUnique after :=
  leftUnique_of_moved id unique (fun place resource here => ⟨place, kept place resource here, rfl⟩)

/-- A resource that was nowhere comes to one place. -/
theorem leftUnique_of_new {target : Place} {new : Resource} (unique : Relator.LeftUnique held)
    (nowhere : ∀ place, ¬held place new)
    (brought : ∀ place resource,
      after place resource → held place resource ∨ place = target ∧ resource = new)
    : Relator.LeftUnique after := by
  intro place other resource here there
  rcases brought place resource here with old | ⟨rfl, rfl⟩
  · rcases brought other resource there with also | ⟨-, rfl⟩
    · exact unique old also
    · exact absurd old (nowhere place)
  · rcases brought other resource there with old | ⟨rfl, -⟩
    · exact absurd old (nowhere other)
    · rfl

end Ownership
