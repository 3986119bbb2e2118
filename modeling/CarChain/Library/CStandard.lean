import Mathlib.Data.List.Sort

/-! The parts of the C standard library that a string-handling program relies on:
NUL-terminated strings, `strcmp`, `snprintf` into a sized buffer, and `qsort`.
-/

namespace CStandard

/-- The bytes before the terminator of a C string. -/
structure CString where
  bytes : List UInt8
  noNul : 0 ∉ bytes
  deriving DecidableEq

namespace CString

/-- A C string is determined by its bytes. -/
@[ext]
theorem ext {left right : CString} (h : left.bytes = right.bytes) : left = right := by
  cases left
  cases right
  simp_all

instance : Inhabited CString := ⟨⟨[], by simp⟩⟩

/-- `literal text` is a string literal of single-byte characters. -/
def literal (text : String)
    (noNul : 0 ∉ text.toList.map Char.toUInt8 := by decide)
    : CString :=
  ⟨text.toList.map Char.toUInt8, noNul⟩

/-- The number of bytes before the terminator. -/
def strlen (text : CString) : Nat := text.bytes.length

/-- `left` followed by `right`, as two adjacent `%s` conversions print them. -/
def append (left right : CString) : CString :=
  ⟨left.bytes ++ right.bytes, by simp [left.noNul, right.noNul]⟩

instance : Append CString := ⟨append⟩

@[simp]
theorem append_bytes (left right : CString)
    : (left ++ right).bytes = left.bytes ++ right.bytes :=
  rfl

/-- Printing after a fixed text loses nothing, by cancelling the common prefix. -/
theorem append_right_inj {left right other : CString}
    : left ++ right = left ++ other ↔ right = other := by
  constructor
  · intro h
    exact ext (List.append_cancel_left (congrArg bytes h))
  · intro given
    subst given
    rfl

/-- What a buffer of `size` bytes holds after a string is printed or read into it. -/
def truncate (size : Nat) (text : CString) : CString :=
  ⟨text.bytes.take (size - 1), fun h => text.noNul (List.mem_of_mem_take h)⟩

/-- A string with room for its terminator is stored whole. -/
theorem truncate_of_lt {size : Nat} {text : CString} (h : text.strlen < size)
    : text.truncate size = text :=
  ext (List.take_of_length_le (by simp only [strlen] at h; omega))

end CString

/-- The difference of the first pair of bytes that differ, the terminator counting as 0. -/
def strcmpBytes : List UInt8 → List UInt8 → Int
  | [], [] => 0
  | [], right :: _ => -(right.toNat : Int)
  | left :: _, [] => left.toNat
  | left :: restLeft, right :: restRight =>
      if left = right then strcmpBytes restLeft restRight
      else (left.toNat : Int) - right.toNat

def strcmp (left right : CString) : Int := strcmpBytes left.bytes right.bytes

/-- Equal strings compare as 0, by induction on the bytes. -/
theorem strcmpBytes_self (bytes : List UInt8) : strcmpBytes bytes bytes = 0 := by
  induction bytes with
  | nil => rfl
  | cons byte rest ih => simpa [strcmpBytes] using ih

/-- Comparison is antisymmetric up to sign, by the recursion of the comparison. -/
theorem strcmpBytes_neg (left right : List UInt8)
    : strcmpBytes right left = -strcmpBytes left right := by
  induction left, right using strcmpBytes.induct with
  | case1 => rfl
  | case2 => simp [strcmpBytes]
  | case3 => simp [strcmpBytes]
  | case4 restLeft byte restRight ih => simpa [strcmpBytes] using ih
  | case5 left restLeft right restRight differ =>
      simp only [strcmpBytes, if_neg differ, if_neg (Ne.symm differ)]
      omega

/-- A byte of a terminated string is positive. -/
private theorem toNat_pos {byte : UInt8} {rest : List UInt8} (h : 0 ∉ byte :: rest)
    : 0 < byte.toNat := by
  have nonzero : byte ≠ 0 := fun zero => h (by simp [zero])
  have differ : byte.toNat ≠ (0 : UInt8).toNat := fun same => nonzero (UInt8.toNat_inj.mp same)
  simpa [Nat.pos_iff_ne_zero] using differ

/-- Strings without an inner terminator compare as 0 only when they are equal. -/
theorem strcmpBytes_eq_zero {left right : List UInt8} (hl : 0 ∉ left) (hr : 0 ∉ right)
    (h : strcmpBytes left right = 0)
    : left = right := by
  induction left, right using strcmpBytes.induct with
  | case1 => rfl
  | case2 byte rest =>
      have positive := toNat_pos hr
      simp only [strcmpBytes] at h
      omega
  | case3 byte rest =>
      have positive := toNat_pos hl
      simp only [strcmpBytes] at h
      omega
  | case4 restLeft byte restRight ih =>
      simp only [strcmpBytes, if_true] at h
      rw [ih (fun m => hl (List.mem_cons_of_mem _ m)) (fun m => hr (List.mem_cons_of_mem _ m)) h]
  | case5 left restLeft right restRight differ =>
      simp only [strcmpBytes, if_neg differ] at h
      exact absurd (UInt8.toNat_inj.mp (by omega)) differ

/-- Not being greater is transitive, by the recursion of the first comparison; the first
differing byte of either comparison decides the composed one.
-/
theorem strcmpBytes_trans {left middle right : List UInt8} (hl : 0 ∉ left)
    (first : strcmpBytes left middle ≤ 0) (second : strcmpBytes middle right ≤ 0)
    : strcmpBytes left right ≤ 0 := by
  induction left, middle using strcmpBytes.induct generalizing right with
  | case1 => exact second
  | case2 byte rest => cases right <;> simp [strcmpBytes]
  | case3 byte rest =>
      have positive := toNat_pos hl
      simp only [strcmpBytes] at first
      omega
  | case4 restLeft byte restRight ih =>
      cases right with
      | nil => simpa [strcmpBytes] using second
      | cons other later =>
          by_cases same : byte = other
          · simp only [strcmpBytes, same, if_true] at first second ⊢
            exact ih (fun m => hl (List.mem_cons_of_mem _ m)) first second
          · simpa only [strcmpBytes, if_neg same] using second
  | case5 left restLeft middle restMiddle differ =>
      have below : left.toNat < middle.toNat := by
        have apart : left.toNat ≠ middle.toNat := fun same => differ (UInt8.toNat_inj.mp same)
        simp only [strcmpBytes, if_neg differ] at first
        omega
      cases right with
      | nil =>
          simp only [strcmpBytes] at second
          omega
      | cons other later =>
          have above : middle.toNat ≤ other.toNat := by
            by_cases same : middle = other
            · exact same ▸ Nat.le_refl _
            · simp only [strcmpBytes, if_neg same] at second
              omega
          have apart : left ≠ other := fun same => by
            subst same
            omega
          simp only [strcmpBytes, if_neg apart]
          omega

@[simp]
theorem strcmp_self (text : CString) : strcmp text text = 0 := strcmpBytes_self text.bytes

/-- `strcmp` returns 0 exactly on equal strings. -/
theorem strcmp_eq_zero {left right : CString} : strcmp left right = 0 ↔ left = right := by
  constructor
  · intro h
    exact CString.ext (strcmpBytes_eq_zero left.noNul right.noNul h)
  · intro given
    subst given
    exact strcmp_self left

theorem strcmp_neg (left right : CString) : strcmp right left = -strcmp left right :=
  strcmpBytes_neg left.bytes right.bytes

/-- A common prefix does not influence a comparison, by induction on the prefix. -/
theorem strcmpBytes_append (shared left right : List UInt8)
    : strcmpBytes (shared ++ left) (shared ++ right) = strcmpBytes left right := by
  induction shared with
  | nil => rfl
  | cons byte rest ih => simpa [strcmpBytes] using ih

theorem strcmp_append (shared left right : CString)
    : strcmp (shared ++ left) (shared ++ right) = strcmp left right :=
  strcmpBytes_append shared.bytes left.bytes right.bytes

-----------------------------------------------------------------------------------------
-- Sorting
-----------------------------------------------------------------------------------------

variable {α : Type}

/-- The array after `qsort` with a comparison function. -/
def qsort (compare : α → α → Int) (items : List α) : List α :=
  items.insertionSort (fun left right => compare left right ≤ 0)

/-- Sorting rearranges the array. -/
theorem qsort_perm (compare : α → α → Int) (items : List α)
    : (qsort compare items).Perm items :=
  List.perm_insertionSort _ items

/-- Strings sorted by `strcmp` are in non-decreasing order. -/
theorem qsort_strcmp_pairwise (items : List CString)
    : (qsort strcmp items).Pairwise (fun left right => strcmp left right ≤ 0) := by
  have : Std.Total (fun left right : CString => strcmp left right ≤ 0) :=
    ⟨fun left right => by rw [strcmp_neg left right]; omega⟩
  have : IsTrans CString (fun left right : CString => strcmp left right ≤ 0) :=
    ⟨fun left _ _ first second => strcmpBytes_trans left.noNul first second⟩
  exact List.pairwise_insertionSort _ items

/-- The sorted array of strings does not depend on the order they came in, because
`strcmp` separates different strings.
-/
theorem qsort_strcmp_eq_of_perm {left right : List CString} (h : left.Perm right)
    : qsort strcmp left = qsort strcmp right := by
  have separates (a b : CString) (_ : a ∈ qsort strcmp left) (_ : b ∈ qsort strcmp right)
      (below : strcmp a b ≤ 0) (above : strcmp b a ≤ 0)
      : a = b := by
    rw [strcmp_neg a b] at above
    exact strcmp_eq_zero.mp (by omega)
  apply List.Perm.eq_of_pairwise separates
  · exact qsort_strcmp_pairwise left
  · exact qsort_strcmp_pairwise right
  · exact (qsort_perm _ left).trans (h.trans (qsort_perm _ right).symm)

end CStandard
