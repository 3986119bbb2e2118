import Mathlib.Data.List.Basic
import Mathlib.Order.Lattice

/-! Sorting by sweeps of adjacent exchanges, repeated until a sweep exchanges nothing.

The sweep carries one item along the list, as a loop does that swaps the payloads of two
neighbouring nodes and then moves to the second one.
-/

namespace AdjacentSort

variable {α β : Type} [LinearOrder β] (key : α → β)

/-- One sweep that has already reached `carried`, and whether it exchanged anything. -/
def pass (carried : α) : List α → List α × Bool
  | [] => ([carried], false)
  | next :: rest =>
      if key next < key carried then (next :: (pass carried rest).1, true)
      else (carried :: (pass next rest).1, (pass next rest).2)

/-- One sweep over the whole list. -/
def sweep : List α → List α × Bool
  | [] => ([], false)
  | first :: rest => pass key first rest

/-- Sweeps repeated while they exchange something, within a bound on their number. -/
def settle : Nat → List α → Option (List α)
  | 0, _ => none
  | bound + 1, items =>
      if (sweep key items).2 then settle bound (sweep key items).1
      else some (sweep key items).1

/-- The items stand in non-decreasing order of their keys. -/
def Ordered (items : List α) : Prop :=
  items.Pairwise (fun left right => key left ≤ key right)

/-- A stable sort: the items rearranged into non-decreasing order, those of one key in the
order they had.
-/
structure StableSort (items sorted : List α) : Prop where
  perm : sorted.Perm items
  ordered : Ordered key sorted
  stable
    : ∀ value,
        sorted.filter (fun item => key item = value) = items.filter (fun item => key item = value)

variable {key}

/-- A sweep rearranges the list, by induction on what the carried item still passes. -/
theorem pass_perm (carried : α) (rest : List α)
    : (pass key carried rest).1.Perm (carried :: rest) := by
  induction rest generalizing carried with
  | nil => exact .refl _
  | cons next rest ih =>
      rw [pass]
      split
      · exact ((ih carried).cons next).trans (.swap carried next rest)
      · exact (ih next).cons carried

theorem sweep_perm (items : List α) : (sweep key items).1.Perm items := by
  cases items with
  | nil => exact .refl _
  | cons first rest => exact pass_perm first rest

/-- A settled list is a rearrangement, by induction on the number of sweeps. -/
theorem settle_perm {bound : Nat} {items settled : List α}
    (h : settle key bound items = some settled)
    : settled.Perm items := by
  induction bound generalizing items with
  | zero => simp [settle] at h
  | succ bound ih =>
      rw [settle] at h
      split at h
      · exact (ih h).trans (sweep_perm items)
      · exact Option.some.inj h ▸ sweep_perm items

/-- A sweep exchanges nothing exactly when the list is in order, and then returns it. -/
theorem pass_ordered {carried : α} {rest : List α} (h : Ordered key (carried :: rest))
    : pass key carried rest = (carried :: rest, false) := by
  induction rest generalizing carried with
  | nil => rfl
  | cons next rest ih =>
      obtain ⟨below, later⟩ := List.pairwise_cons.mp h
      have inOrder : ¬key next < key carried := not_lt.mpr (below next (by simp))
      rw [pass, if_neg inOrder, ih later]

theorem sweep_ordered {items : List α} (h : Ordered key items)
    : sweep key items = (items, false) := by
  cases items with
  | nil => rfl
  | cons first rest => exact pass_ordered h

/-- A sweep that exchanged nothing met an ordered list, by transitivity along it. -/
theorem ordered_of_pass {carried : α} {rest : List α} (h : (pass key carried rest).2 = false)
    : Ordered key (carried :: rest) := by
  induction rest generalizing carried with
  | nil => exact List.pairwise_singleton _ _
  | cons next rest ih =>
      rw [pass] at h
      split at h
      · exact absurd h (by simp)
      · rename_i inOrder
        have later := ih h
        refine List.pairwise_cons.mpr ⟨?_, later⟩
        intro item member
        rcases List.mem_cons.mp member with rfl | beyond
        · exact not_lt.mp inOrder
        · exact (not_lt.mp inOrder).trans ((List.pairwise_cons.mp later).1 item beyond)

theorem ordered_of_sweep {items : List α} (h : (sweep key items).2 = false)
    : Ordered key items := by
  cases items with
  | nil => exact List.Pairwise.nil
  | cons first rest => exact ordered_of_pass h

/-- The repeated sweeps stop on an ordered list, by induction on their number. -/
theorem settle_ordered {bound : Nat} {items settled : List α}
    (h : settle key bound items = some settled)
    : Ordered key settled := by
  induction bound generalizing items with
  | zero => simp [settle] at h
  | succ bound ih =>
      rw [settle] at h
      split at h
      · exact ih h
      · rename_i still
        have ordered := ordered_of_sweep (Bool.not_eq_true _ ▸ still)
        rw [sweep_ordered ordered] at h
        exact Option.some.inj h ▸ ordered

/-- A sweep keeps items of one key in their order: the two it exchanges have different keys.
By induction on what the carried item still passes.
-/
theorem pass_filter (carried : α) (rest : List α) (value : β)
    : (pass key carried rest).1.filter (fun item => key item = value)
      = (carried :: rest).filter (fun item => key item = value) := by
  induction rest generalizing carried with
  | nil => rfl
  | cons next rest ih =>
      rw [pass]
      split
      · rename_i exchanged
        have notBoth : ¬(key next = value ∧ key carried = value) := by
          intro h
          obtain ⟨rfl, same⟩ := h
          exact absurd same (ne_of_gt exchanged)
        have moved := ih carried
        by_cases first : key next = value
        · have second : key carried ≠ value := fun same => notBoth ⟨first, same⟩
          simp_all
        · simp_all [List.filter_cons]
      · have moved := ih next
        simp_all [List.filter_cons]

theorem sweep_filter (items : List α) (value : β)
    : (sweep key items).1.filter (fun item => key item = value)
      = items.filter (fun item => key item = value) := by
  cases items with
  | nil => rfl
  | cons first rest => exact pass_filter first rest value

/-- The repeated sweeps are stable, by induction on their number. -/
theorem settle_filter {bound : Nat} {items settled : List α} (value : β)
    (h : settle key bound items = some settled)
    : settled.filter (fun item => key item = value)
      = items.filter (fun item => key item = value) := by
  induction bound generalizing items with
  | zero => simp [settle] at h
  | succ bound ih =>
      rw [settle] at h
      split at h
      · exact (ih h).trans (sweep_filter items value)
      · exact Option.some.inj h ▸ sweep_filter items value

theorem settle_stableSort {bound : Nat} {items settled : List α}
    (h : settle key bound items = some settled)
    : StableSort key items settled where
  perm := settle_perm h
  ordered := settle_ordered h
  stable value := settle_filter value h

/-- Lists in order that agree on the items of each key are equal, by induction on the first:
both begin with the least key, and with the same item of it.
-/
theorem eq_of_filter_eq {left right : List α} (hl : Ordered key left) (hr : Ordered key right)
    (same
      : ∀ value,
          left.filter (fun item => key item = value)
          = right.filter (fun item => key item = value))
    : left = right := by
  have least {first : α} {rest other : List α} (ordered : Ordered key other)
      (same : (first :: rest).filter (fun item => key item = key first)
        = other.filter (fun item => key item = key first))
      : ∃ second later, other = second :: later ∧ key second ≤ key first := by
    have member : first ∈ other := by
      refine List.mem_of_mem_filter (p := fun item => key item = key first) ?_
      rw [← same]
      simp
    cases other with
    | nil => simp at member
    | cons second later =>
        refine ⟨second, later, rfl, ?_⟩
        rcases List.mem_cons.mp member with rfl | beyond
        · exact le_refl _
        · exact (List.pairwise_cons.mp ordered).1 first beyond
  induction left generalizing right with
  | nil =>
      cases right with
      | nil => rfl
      | cons second later =>
          obtain ⟨_, _, absent, -⟩ := least hl (same (key second)).symm
          simp at absent
  | cons first rest ih =>
      obtain ⟨second, later, rfl, below⟩ := least hr (same (key first))
      obtain ⟨_, _, found, above⟩ := least hl (same (key second)).symm
      cases found
      have keys : key second = key first := le_antisymm below above
      have heads := same (key first)
      simp only [List.filter_cons, keys, decide_true, if_true, List.cons.injEq] at heads
      obtain ⟨rfl, -⟩ := heads
      congr 1
      refine ih (List.pairwise_cons.mp hl).2 (List.pairwise_cons.mp hr).2 (fun value => ?_)
      have filtered := same value
      simp only [List.filter_cons] at filtered
      split at filtered
      · exact (List.cons.inj filtered).2
      · exact filtered

/-- There is one stable sort of a list. -/
theorem StableSort.unique {items left right : List α} (hl : StableSort key items left)
    (hr : StableSort key items right)
    : left = right :=
  eq_of_filter_eq hl.ordered hr.ordered
    (fun value => (hl.stable value).trans (hr.stable value).symm)

theorem stableSort_of_ordered {items : List α} (h : Ordered key items)
    : StableSort key items items :=
  ⟨.refl _, h, fun _ => rfl⟩

/-- Fewer than two items are in order. -/
theorem ordered_of_short {items : List α} (h : items.length < 2) : Ordered key items := by
  match items, h with
  | [], _ => exact List.Pairwise.nil
  | [item], _ => exact List.pairwise_singleton _ _

/-- A larger bound on the sweeps changes nothing, by induction on the smaller one. -/
theorem settle_of_le {bound more : Nat} {items settled : List α}
    (h : settle key bound items = some settled) (le : bound ≤ more)
    : settle key more items = some settled := by
  induction bound generalizing items more with
  | zero => simp [settle] at h
  | succ bound ih =>
      obtain ⟨more, rfl⟩ := Nat.exists_eq_succ_of_ne_zero (show more ≠ 0 by omega)
      rw [settle] at h ⊢
      split at h
      · rename_i swapped
        rw [if_pos swapped]
        exact ih h (by omega)
      · rename_i still
        rw [if_neg still]
        exact h

-----------------------------------------------------------------------------------------
-- The number of sweeps
-----------------------------------------------------------------------------------------

/-- A sweep moves a greatest item to the end, by following the carried item. -/
theorem pass_last (carried : α) (rest : List α)
    : ∃ front greatest,
        (pass key carried rest).1 = front ++ [greatest]
        ∧ front.length = rest.length
        ∧ ∀ item ∈ carried :: rest, key item ≤ key greatest := by
  induction rest generalizing carried with
  | nil => exact ⟨[], carried, rfl, rfl, by simp⟩
  | cons next rest ih =>
      rw [pass]
      split
      · rename_i exchanged
        obtain ⟨front, greatest, same, length, bound⟩ := ih carried
        refine ⟨next :: front, greatest, by simp [same], by simp [length], ?_⟩
        have top := bound carried (by simp)
        simp only [List.mem_cons] at bound ⊢
        intro item h
        rcases h with rfl | rfl | member
        · exact top
        · exact (le_of_lt exchanged).trans top
        · exact bound item (.inr member)
      · rename_i inOrder
        obtain ⟨front, greatest, same, length, bound⟩ := ih next
        refine ⟨carried :: front, greatest, by simp [same], by simp [length], ?_⟩
        have top := bound next (by simp)
        simp only [List.mem_cons] at bound ⊢
        intro item h
        rcases h with rfl | rfl | member
        · exact (not_lt.mp inOrder).trans top
        · exact top
        · exact bound item (.inr member)

/-- An ordered tail above everything before it is not touched by a sweep. -/
theorem pass_append {carried : α} {front tail : List α} (ordered : Ordered key tail)
    (above : ∀ item ∈ carried :: front, ∀ later ∈ tail, key item ≤ key later)
    : pass key carried (front ++ tail)
      = ((pass key carried front).1 ++ tail, (pass key carried front).2) := by
  induction front generalizing carried with
  | nil =>
      have all : Ordered key (carried :: tail) :=
        List.pairwise_cons.mpr ⟨above carried (by simp), ordered⟩
      simp [pass, pass_ordered all]
  | cons next front ih =>
      simp only [List.cons_append, pass]
      split
      · rw [ih (fun item member => above item (by
          rcases List.mem_cons.mp member with rfl | member <;> simp_all))]
        rfl
      · rw [ih (fun item member => above item (List.mem_cons_of_mem _ member))]
        rfl

/-- A sweep over a list whose tail is settled settles one more item. -/
theorem sweep_settles {front tail : List α} (ordered : Ordered key tail)
    (above : ∀ item ∈ front, ∀ later ∈ tail, key item ≤ key later)
    (swapped : (sweep key (front ++ tail)).2 = true)
    : ∃ shorter greatest,
        (sweep key (front ++ tail)).1 = shorter ++ greatest :: tail
        ∧ shorter.length + 1 = front.length
        ∧ 0 < shorter.length
        ∧ Ordered key (greatest :: tail)
        ∧ ∀ item ∈ shorter, ∀ later ∈ greatest :: tail, key item ≤ key later := by
  cases front with
  | nil =>
      rw [List.nil_append, sweep_ordered ordered] at swapped
      exact absurd swapped (by simp)
  | cons first rest =>
      rw [List.cons_append, sweep, pass_append ordered above] at swapped ⊢
      obtain ⟨shorter, greatest, same, length, bound⟩ := @pass_last α β _ key first rest
      have rearranged : (shorter ++ [greatest]).Perm (first :: rest) :=
        same ▸ @pass_perm α β _ key first rest
      have member {item : α} (h : item ∈ shorter ++ [greatest]) : item ∈ first :: rest :=
        rearranged.mem_iff.mp h
      refine ⟨shorter, greatest, by simp [same], by simp [length], ?_, ?_, ?_⟩
      · cases rest with
        | nil => simp [pass] at swapped
        | cons next rest => simp [length]
      · exact List.pairwise_cons.mpr ⟨above greatest (member (by simp)), ordered⟩
      · intro item inShorter later inTail
        rcases List.mem_cons.mp inTail with rfl | inTail
        · exact bound item (member (by simp [inShorter]))
        · exact above item (member (by simp [inShorter])) later inTail

/-- With a settled tail, as many sweeps as items before it suffice. -/
theorem settle_append {bound : Nat} {front tail : List α} (ordered : Ordered key tail)
    (above : ∀ item ∈ front, ∀ later ∈ tail, key item ≤ key later)
    (enough : front.length ≤ bound) (some_sweep : 0 < bound)
    : ∃ settled, settle key bound (front ++ tail) = some settled := by
  induction bound generalizing front tail with
  | zero => exact absurd some_sweep (by simp)
  | succ bound ih =>
      by_cases swapped : (sweep key (front ++ tail)).2 = true
      · obtain ⟨shorter, greatest, same, length, left, ordered, above⟩ :=
          sweep_settles ordered above swapped
        obtain ⟨settled, found⟩ := ih ordered above (by omega) (by omega)
        exact ⟨settled, by rw [settle, if_pos swapped, same, found]⟩
      · exact ⟨_, by rw [settle, if_neg swapped]⟩

/-- As many sweeps as items settle every list, from the empty settled tail. -/
theorem settle_length (key : α → β) {items : List α} (nonempty : items ≠ [])
    : ∃ settled, settle key items.length items = some settled := by
  have ordered : Ordered key ([] : List α) := List.Pairwise.nil
  have above : ∀ item ∈ items, ∀ later ∈ ([] : List α), key item ≤ key later := by simp
  obtain ⟨settled, found⟩ := settle_append ordered above (Nat.le_refl _)
    (List.length_pos_of_ne_nil nonempty)
  exact ⟨settled, by simpa using found⟩

end AdjacentSort
