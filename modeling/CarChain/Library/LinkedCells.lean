import Mathlib.Data.Finmap
import CarChain.Library.CRuntime

/-! Singly linked cells in memory, and the paths that pointers trace through them.

A path from one pointer to another visits cells that are allocated and hold an item each. What
a program does to a list of cells is stated by the path before and the path after; every
update of a cell off the path leaves it alone.
-/

namespace LinkedCells

open CRuntime

variable {α : Type}

abbrev Addr := Nat

structure Cell (α : Type) where
  data : Option α
  next : Option Addr
  deriving DecidableEq

/-- The allocated cells. -/
abbrev Cells (α : Type) := Finmap (fun _ : Addr => Cell α)

/-- The number of allocated cells. -/
def count (cells : Cells α) : Nat := cells.keys.card

/-- Reading a cell; an address where nothing is allocated faults. -/
def load (cells : Cells α) (addr : Addr) : Except Fault (Cell α) :=
  match cells.lookup addr with
  | some cell => .ok cell
  | none => .error .outOfBounds

/-- Writing the link of a cell. -/
def setNext (cells : Cells α) (addr : Addr) (next : Option Addr) : Except Fault (Cells α) := do
  let cell ← load cells addr
  return cells.insert addr { cell with next }

/-- Writing the data of a cell. -/
def setData (cells : Cells α) (addr : Addr) (data : Option α) : Except Fault (Cells α) := do
  let cell ← load cells addr
  return cells.insert addr { cell with data }

/-- The loop `while (cur->next) cur = cur->next`, within a bound on its rounds. -/
def lastCell (cells : Cells α) : Nat → Addr → Except Fault Addr
  | 0, _ => .error .loopBound
  | bound + 1, cur => do
      let cell ← load cells cur
      match cell.next with
      | none => return cur
      | some next => lastCell cells bound next

/-- Following the links from `start` visits these cells with these items and arrives at
`stop`.
-/
def Path (cells : Cells α) : Option Addr → List (Addr × α) → Option Addr → Prop
  | start, [], stop => start = stop
  | start, (addr, item) :: rest, stop =>
      start = some addr
      ∧ ∃ next, cells.lookup addr = some ⟨some item, next⟩ ∧ Path cells next rest stop

/-- The addresses of the cells of a path. -/
def addrs (chain : List (Addr × α)) : List Addr := chain.map Prod.fst

/-- The items of a path. -/
def items (chain : List (Addr × α)) : List α := chain.map Prod.snd

@[simp]
theorem addrs_nil : addrs ([] : List (Addr × α)) = [] := rfl

@[simp]
theorem addrs_cons (cell : Addr × α) (rest : List (Addr × α))
    : addrs (cell :: rest) = cell.1 :: addrs rest :=
  rfl

@[simp]
theorem addrs_append (front back : List (Addr × α))
    : addrs (front ++ back) = addrs front ++ addrs back :=
  List.map_append

@[simp]
theorem items_nil : items ([] : List (Addr × α)) = [] := rfl

@[simp]
theorem items_cons (cell : Addr × α) (rest : List (Addr × α))
    : items (cell :: rest) = cell.2 :: items rest :=
  rfl

@[simp]
theorem items_append (front back : List (Addr × α))
    : items (front ++ back) = items front ++ items back :=
  List.map_append

@[simp]
theorem length_items (chain : List (Addr × α)) : (items chain).length = chain.length := by
  simp [items]

@[simp]
theorem length_addrs (chain : List (Addr × α)) : (addrs chain).length = chain.length := by
  simp [addrs]

section

variable {cells other : Cells α} {start middle stop : Option Addr}
  {chain front back : List (Addr × α)} {addr : Addr} {item : α} {next : Option Addr}

-----------------------------------------------------------------------------------------
-- Paths
-----------------------------------------------------------------------------------------

/-- Paths compose and split, by induction on the first one. -/
theorem path_append
    : Path cells start (front ++ back) stop
      ↔ ∃ middle, Path cells start front middle ∧ Path cells middle back stop := by
  induction front generalizing start with
  | nil => simp [Path]
  | cons cell rest ih =>
      obtain ⟨addr, item⟩ := cell
      simp only [List.cons_append, Path, ih]
      constructor
      · intro h
        obtain ⟨here, next, found, middle, first, second⟩ := h
        exact ⟨middle, ⟨here, next, found, first⟩, second⟩
      · intro h
        obtain ⟨middle, ⟨here, next, found, first⟩, second⟩ := h
        exact ⟨here, next, found, middle, first, second⟩

/-- A path depends only on the cells it visits. -/
theorem Path.congr (path : Path cells start chain stop)
    (same : ∀ addr ∈ addrs chain, other.lookup addr = cells.lookup addr)
    : Path other start chain stop := by
  induction chain generalizing start with
  | nil => exact path
  | cons cell rest ih =>
      obtain ⟨addr, item⟩ := cell
      obtain ⟨here, next, found, later⟩ := path
      refine ⟨here, next, (same addr (by simp)).trans found, ih later ?_⟩
      exact fun visited member => same visited (List.mem_cons_of_mem _ member)

/-- Writing a cell off the path keeps it. -/
theorem Path.insert (path : Path cells start chain stop) (cell : Cell α)
    (apart : addr ∉ addrs chain)
    : Path (cells.insert addr cell) start chain stop := by
  refine path.congr (fun visited member => Finmap.lookup_insert_of_ne _ ?_)
  intro h
  subst h
  exact apart member

/-- Freeing a cell off the path keeps it. -/
theorem Path.erase (path : Path cells start chain stop) (apart : addr ∉ addrs chain)
    : Path (cells.erase addr) start chain stop := by
  refine path.congr (fun visited member => Finmap.lookup_erase_ne ?_)
  intro h
  subst h
  exact apart member

/-- The cells of a path are allocated. -/
theorem Path.allocated (path : Path cells start chain stop) (member : addr ∈ addrs chain)
    : addr ∈ cells := by
  induction chain generalizing start with
  | nil => simp at member
  | cons cell rest ih =>
      obtain ⟨visited, item⟩ := cell
      obtain ⟨-, next, found, later⟩ := path
      rcases List.mem_cons.mp member with rfl | beyond
      · exact Finmap.mem_of_lookup_eq_some found
      · exact ih later beyond

/-- A terminated path is determined by its start, by induction on it. -/
theorem Path.unique {left right : List (Addr × α)} (hl : Path cells start left none)
    (hr : Path cells start right none)
    : left = right := by
  induction left generalizing start right with
  | nil =>
      cases hl
      cases right with
      | nil => rfl
      | cons cell rest => exact absurd hr.1 (by simp)
  | cons cell rest ih =>
      obtain ⟨addr, item⟩ := cell
      obtain ⟨rfl, next, found, later⟩ := hl
      cases right with
      | nil => exact absurd hr (by simp [Path])
      | cons other others =>
          obtain ⟨addr', item'⟩ := other
          obtain ⟨here, next', found', later'⟩ := hr
          cases here
          rw [found] at found'
          cases found'
          rw [ih later later']

/-- A terminated path never comes back to a cell: two ways to the end from one cell would
have different lengths.
-/
theorem Path.nodup (path : Path cells start chain none) : (addrs chain).Nodup := by
  induction chain generalizing start with
  | nil => exact List.nodup_nil
  | cons cell rest ih =>
      obtain ⟨addr, item⟩ := cell
      obtain ⟨-, next, found, later⟩ := id path
      refine List.nodup_cons.mpr ⟨?_, ih later⟩
      intro again
      obtain ⟨visited, member, same⟩ := List.mem_map.mp again
      obtain ⟨before, after, rfl⟩ := List.append_of_mem member
      obtain ⟨middle, -, loop⟩ := path_append.mp later
      obtain ⟨here, -⟩ := id loop
      have whole : Path cells middle ((addr, item) :: (before ++ visited :: after)) none := by
        rw [here, same]
        exact ⟨rfl, next, found, later⟩
      have lengths := congrArg List.length (loop.unique whole)
      simp only [List.length_cons, List.length_append] at lengths
      omega

/-- A terminated path has no more cells than are allocated. -/
theorem Path.length_le (path : Path cells start chain none) : chain.length ≤ count cells := by
  have distinct := List.toFinset_card_of_nodup path.nodup
  have within : (addrs chain).toFinset ⊆ cells.keys := by
    intro addr member
    exact Finmap.mem_keys.mpr (path.allocated (List.mem_toFinset.mp member))
  rw [← length_addrs, ← distinct]
  exact Finset.card_le_card within

-----------------------------------------------------------------------------------------
-- What each update does to a path
-----------------------------------------------------------------------------------------

theorem load_of_lookup {cell : Cell α} (found : cells.lookup addr = some cell)
    : load cells addr = .ok cell := by
  rw [load, found]

theorem setNext_of_lookup {cell : Cell α} (found : cells.lookup addr = some cell)
    : setNext cells addr next = .ok (cells.insert addr { cell with next }) := by
  rw [setNext, load_of_lookup found]
  rfl

theorem setData_of_lookup {cell : Cell α} {data : Option α}
    (found : cells.lookup addr = some cell)
    : setData cells addr data = .ok (cells.insert addr { cell with data }) := by
  rw [setData, load_of_lookup found]
  rfl

/-- The walk to the end finds the last cell, by induction on the cells before it. -/
theorem Path.lastCell {first last : Addr} {bound : Nat}
    (path : Path cells (some first) (front ++ [(last, item)]) none) (enough : front.length < bound)
    : LinkedCells.lastCell cells bound first = .ok last := by
  obtain ⟨bound, rfl⟩ := Nat.exists_eq_succ_of_ne_zero (Nat.ne_of_gt (Nat.zero_lt_of_lt enough))
  induction front generalizing first bound with
  | nil =>
      obtain ⟨here, next, found, ends⟩ := path
      cases here
      cases ends
      rw [LinkedCells.lastCell, load_of_lookup found]
      rfl
  | cons cell rest ih =>
      obtain ⟨addr, item⟩ := cell
      obtain ⟨here, next, found, later⟩ := path
      cases here
      obtain ⟨bound, rfl⟩ := Nat.exists_eq_succ_of_ne_zero
        (show bound ≠ 0 by rw [List.length_cons] at enough; omega)
      have another : ∃ second, next = some second := by
        cases rest with
        | nil => exact ⟨_, later.1⟩
        | cons cell _ => exact ⟨_, later.1⟩
      obtain ⟨second, rfl⟩ := another
      rw [LinkedCells.lastCell, load_of_lookup found]
      exact ih later bound (by simpa using enough)

/-- Linking a fresh cell behind the last one extends the path. -/
theorem Path.link {last new : Addr} {added : α}
    (path : Path cells start (front ++ [(last, item)]) none) (fresh : new ∉ cells)
    : Path ((cells.insert new ⟨some added, none⟩).insert last ⟨some item, some new⟩) start
        (front ++ [(last, item), (new, added)]) none := by
  have distinct := path.nodup
  have apart (addr : Addr) (member : addr ∈ addrs (front ++ [(last, item)])) : addr ≠ new := by
    intro h
    subst h
    exact fresh (path.allocated member)
  obtain ⟨middle, before, here, -⟩ := path_append.mp path
  have notBefore : last ∉ addrs front := by
    rw [addrs_append, List.nodup_append] at distinct
    intro member
    exact distinct.2.2 last member last (by simp) rfl
  refine path_append.mpr ⟨middle, ?_, here, some new, Finmap.lookup_insert _, rfl, none, ?_, rfl⟩
  · refine (before.insert _ ?_).insert _ notBefore
    intro member
    exact apart new (by simp [member]) rfl
  · rw [Finmap.lookup_insert_of_ne _ (apart last (by simp)).symm]
    exact Finmap.lookup_insert _

/-- Unlinking a cell from its predecessor and freeing it takes it out of the path. -/
theorem Path.unlink {prev cur : Addr} {left : α}
    (path : Path cells start (front ++ (prev, left) :: (cur, item) :: back) none)
    (found : cells.lookup cur = some ⟨some item, next⟩)
    : cells.lookup prev = some ⟨some left, some cur⟩
      ∧ Path ((cells.insert prev ⟨some left, next⟩).erase cur) start (front ++ (prev, left) :: back)
          none := by
  have distinct := path.nodup
  obtain ⟨middle, before, here, after, foundPrev, rfl, other, found', later⟩ := path_append.mp path
  rw [found] at found'
  cases found'
  refine ⟨foundPrev, path_append.mpr ⟨middle, ?_, here, next, ?_, ?_⟩⟩
  all_goals
    simp only [addrs_append, addrs_cons, List.nodup_append, List.nodup_cons, List.mem_cons,
      not_or] at distinct
  · refine (before.insert _ ?_).erase ?_
    · exact fun member => distinct.2.2 prev member prev (by simp) rfl
    · exact fun member => distinct.2.2 cur member cur (by simp) rfl
  · rw [Finmap.lookup_erase_ne distinct.2.1.1.1]
    exact Finmap.lookup_insert _
  · exact (later.insert _ distinct.2.1.1.2).erase distinct.2.1.2.1

-----------------------------------------------------------------------------------------
-- Writes to the data alone
-----------------------------------------------------------------------------------------

/-- Only the data of these cells were written: no cell was linked anew, allocated or freed. -/
structure DataWritten (before after : Cells α) (written : List Addr) : Prop where
  links : ∀ addr, (after.lookup addr).map Cell.next = (before.lookup addr).map Cell.next
  frame : ∀ addr, addr ∉ written → after.lookup addr = before.lookup addr

theorem DataWritten.refl (cells : Cells α) (written : List Addr)
    : DataWritten cells cells written :=
  ⟨fun _ => rfl, fun _ _ => rfl⟩

theorem DataWritten.mono {before after : Cells α} {written more : List Addr}
    (h : DataWritten before after written) (within : written ⊆ more)
    : DataWritten before after more where
  links := h.links
  frame addr apart := h.frame addr (fun member => apart (within member))

/-- Writes follow one another. -/
theorem DataWritten.trans {before between after : Cells α} {written : List Addr}
    (hl : DataWritten before between written) (hr : DataWritten between after written)
    : DataWritten before after written where
  links addr := (hr.links addr).trans (hl.links addr)
  frame addr apart := (hr.frame addr apart).trans (hl.frame addr apart)

/-- The allocated cells are the same. -/
theorem DataWritten.mem_iff {before after : Cells α} {written : List Addr}
    (h : DataWritten before after written)
    : addr ∈ after ↔ addr ∈ before := by
  rw [← Finmap.lookup_isSome, ← Finmap.lookup_isSome]
  have link := h.links addr
  cases left : after.lookup addr <;> cases right : before.lookup addr <;> simp_all

theorem DataWritten.count_eq {before after : Cells α} {written : List Addr}
    (h : DataWritten before after written)
    : count after = count before := by
  have same : after.keys = before.keys := by
    ext addr
    rw [Finmap.mem_keys, Finmap.mem_keys]
    exact h.mem_iff
  rw [count, same, count]

/-- Writing the data of one cell. -/
theorem dataWritten_insert {cell : Cell α} {written : List Addr} (data : Option α)
    (found : cells.lookup addr = some cell) (member : addr ∈ written)
    : DataWritten cells (cells.insert addr { cell with data }) written where
  links other := by
    by_cases same : other = addr
    · subst same
      simp [Finmap.lookup_insert, found]
    · rw [Finmap.lookup_insert_of_ne _ same]
  frame other apart := by
    refine Finmap.lookup_insert_of_ne _ ?_
    intro h
    subst h
    exact apart member

/-- Writing the data of the first cell of a terminated path changes its item. -/
theorem Path.write {written : α} (path : Path cells start ((addr, item) :: back) none)
    (found : cells.lookup addr = some ⟨some item, next⟩)
    : Path (cells.insert addr ⟨some written, next⟩) start ((addr, written) :: back) none := by
  have distinct := path.nodup
  obtain ⟨here, other, found', later⟩ := path
  rw [found] at found'
  cases found'
  refine ⟨here, next, Finmap.lookup_insert _, later.insert _ ?_⟩
  exact (List.nodup_cons.mp distinct).1

end

-----------------------------------------------------------------------------------------
-- Loops that only read the cells
-----------------------------------------------------------------------------------------

section

variable {σ : Type} {cells : Cells α} {start : Option Addr} {chain : List (Addr × α)}

/-- `for (cur = start; cur; cur = cur->next)` with a body that turns the value so far into the
next one or leaves the function, within a bound on its rounds.
-/
def forEach (cells : Cells α) (body : Option α → σ → Mem (Option σ))
    : Nat → Option Addr → σ → Mem (Option σ)
  | _, none, value => pure (some value)
  | 0, some _, _ => throw .loopBound
  | bound + 1, some cur, value => do
      let cell ← load cells cur
      match ← body cell.data value with
      | none => return none
      | some value => forEach cells body bound cell.next value

/-- The same body on the items of a sequence. -/
def forItems (body : Option α → σ → Mem (Option σ)) : List α → σ → Mem (Option σ)
  | [], value => pure (some value)
  | item :: rest, value => do
      match ← body (some item) value with
      | none => return none
      | some value => forItems body rest value

/-- A loop over linked cells meets the items of their path, by induction on it. -/
theorem Path.forEach {body : Option α → σ → Mem (Option σ)}
    (path : Path cells start chain none) {bound : Nat} (enough : chain.length ≤ bound) (value : σ)
    : LinkedCells.forEach cells body bound start value = forItems body (items chain) value := by
  induction chain generalizing start bound value with
  | nil =>
      cases (path : start = none)
      cases bound <;> rfl
  | cons cell rest ih =>
      obtain ⟨addr, item⟩ := cell
      obtain ⟨rfl, next, found, later⟩ := path
      rw [List.length_cons] at enough
      obtain ⟨bound, rfl⟩ := Nat.exists_eq_succ_of_ne_zero (show bound ≠ 0 by omega)
      rw [LinkedCells.forEach, load_of_lookup found, liftM_ok, pure_bind, items_cons, forItems]
      refine congrArg _ (funext fun outcome => ?_)
      cases outcome with
      | none => rfl
      | some value => exact ih later (by omega) value

/-- `for (cur = start; cur; cur = cur->next)` that returns the first data that passes a test,
within a bound on its rounds.
-/
def findFrom (cells : Cells α) (takes : α → Bool) : Nat → Option Addr → Except Fault (Option α)
  | _, none => .ok none
  | 0, some _ => .error .loopBound
  | bound + 1, some cur => do
      let cell ← load cells cur
      match cell.data with
      | none => findFrom cells takes bound cell.next
      | some item => if takes item then return some item else findFrom cells takes bound cell.next

/-- The search finds the first item of the path that passes, by induction on it. -/
theorem Path.findFrom {takes : α → Bool} (path : Path cells start chain none) {bound : Nat}
    (enough : chain.length ≤ bound)
    : LinkedCells.findFrom cells takes bound start = .ok ((items chain).find? takes) := by
  induction chain generalizing start bound with
  | nil =>
      cases (path : start = none)
      cases bound <;> rfl
  | cons cell rest ih =>
      obtain ⟨addr, item⟩ := cell
      obtain ⟨rfl, next, found, later⟩ := path
      rw [List.length_cons] at enough
      obtain ⟨bound, rfl⟩ := Nat.exists_eq_succ_of_ne_zero (show bound ≠ 0 by omega)
      rw [LinkedCells.findFrom, load_of_lookup found, ok_bind, items_cons, List.find?_cons]
      dsimp only
      cases takes item with
      | true => rfl
      | false => exact ih later (by omega)

-----------------------------------------------------------------------------------------
-- Freeing
-----------------------------------------------------------------------------------------

/-- The loop that reads the link of a cell, frees it and goes on to the next one, within a bound
on its rounds.
-/
def freeAll : Nat → Cells α → Option Addr → Except Fault (Cells α)
  | _, cells, none => .ok cells
  | 0, _, some _ => .error .loopBound
  | bound + 1, cells, some current => do
      let cell ← load cells current
      freeAll bound (cells.erase current) cell.next

/-- Each cell of the path is freed once and no other one is, by induction on the path. -/
theorem Path.freeAll (path : Path cells start chain none) {bound : Nat}
    (enough : chain.length ≤ bound)
    : ∃ after,
        LinkedCells.freeAll bound cells start = .ok after
        ∧ ∀ addr, addr ∈ after ↔ addr ∈ cells ∧ addr ∉ addrs chain := by
  induction chain generalizing cells start bound with
  | nil =>
      cases (path : start = none)
      refine ⟨cells, ?_, by simp⟩
      cases bound <;> rfl
  | cons cell rest ih =>
      have distinct := path.nodup
      obtain ⟨addr, item⟩ := cell
      obtain ⟨rfl, next, found, later⟩ := path
      rw [List.length_cons] at enough
      obtain ⟨bound, rfl⟩ := Nat.exists_eq_succ_of_ne_zero (show bound ≠ 0 by omega)
      obtain ⟨after, freed, kept⟩ :=
        ih (later.erase (List.nodup_cons.mp distinct).1) (show rest.length ≤ bound by omega)
      refine ⟨after, ?_, fun other => ?_⟩
      · rw [LinkedCells.freeAll, load_of_lookup found, ok_bind]
        exact freed
      · rw [kept, Finmap.mem_erase, addrs_cons, List.mem_cons, not_or]
        constructor
        · intro remains
          exact ⟨remains.1.2, remains.1.1, remains.2⟩
        · intro remains
          exact ⟨⟨remains.2.1, remains.1⟩, remains.2.2⟩

end

end LinkedCells
