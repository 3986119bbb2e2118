import Mathlib.Algebra.GroupWithZero.Nat
import CarChain.Library.CStandard

/-! Numbers as decimal text in C: what `%d`, `%ld` and `%010d` print, and how `strcmp` orders it.
-/

namespace CStandard

/-- What `%d` prints for a number that is not negative. -/
def decimal (value : Nat) : List UInt8 := (Nat.toDigits 10 value).map Char.toUInt8

/-- What `%0<width>d` prints for a number that is not negative. -/
def zeroPadded (width value : Nat) : List UInt8 :=
  List.replicate (width - (decimal value).length) 48 ++ decimal value

/-- What `%d` and `%ld` print. -/
def signedDecimal (value : Int) : List UInt8 :=
  if value < 0 then 45 :: decimal value.natAbs else decimal value.natAbs

/-- The byte of a digit. -/
def digitByte (digit : Nat) : UInt8 := (Nat.digitChar digit).toUInt8

/-- The last digits of a number, the most significant first. -/
def lastDigits : Nat → Nat → List UInt8
  | 0, _ => []
  | width + 1, value => lastDigits width (value / 10) ++ [digitByte (value % 10)]

-----------------------------------------------------------------------------------------
-- Digits
-----------------------------------------------------------------------------------------

theorem toNat_digitByte {digit : Nat} (h : digit < 10) : (digitByte digit).toNat = 48 + digit := by
  have each : ∀ digit : Fin 10, (digitByte digit).toNat = 48 + digit := by decide
  exact each ⟨digit, h⟩

@[simp]
theorem length_lastDigits (width value : Nat) : (lastDigits width value).length = width := by
  induction width generalizing value with
  | zero => rfl
  | succ width ih => simp [lastDigits, ih]

theorem decimal_of_lt {value : Nat} (h : value < 10) : decimal value = [digitByte value] := by
  rw [decimal, Nat.toDigits_of_lt_base h]
  rfl

/-- A number of more than one digit is printed as its tenth and its last digit. -/
theorem decimal_of_le {value : Nat} (h : 10 ≤ value)
    : decimal value = decimal (value / 10) ++ [digitByte (value % 10)] := by
  rw [decimal, Nat.toDigits_of_base_le (by decide) h, List.map_append]
  rfl

/-- What is printed are bytes of digits. -/
theorem mem_decimal {value : Nat} {byte : UInt8} (h : byte ∈ decimal value)
    : 48 ≤ byte.toNat ∧ byte.toNat ≤ 57 := by
  obtain ⟨char, printed, rfl⟩ := List.mem_map.mp h
  have digit := Nat.isDigit_of_mem_toDigits (by decide) (by decide) printed
  simp only [Char.isDigit, Bool.and_eq_true, decide_eq_true_eq, ge_iff_le,
    UInt32.le_iff_toNat_le] at digit
  obtain ⟨low, high⟩ := digit
  rw [Char.toUInt8, UInt32.toNat_toUInt8]
  have low : 48 ≤ char.val.toNat := low
  have high : char.val.toNat ≤ 57 := high
  omega

/-- Bytes before the sign and the digits are not printed. -/
theorem notMem_signedDecimal {value : Int} {byte : UInt8} (h : byte.toNat < 45)
    : byte ∉ signedDecimal value := by
  have digits : byte ∉ decimal value.natAbs := by
    intro member
    have range := mem_decimal member
    omega
  unfold signedDecimal
  split
  · intro member
    rcases List.mem_cons.mp member with sign | member
    · subst sign
      exact absurd h (by decide)
    · exact digits member
  · exact digits

/-- A number printed into a string. -/
def CString.ofInt (value : Int) : CString := ⟨signedDecimal value, notMem_signedDecimal (by decide)⟩

theorem mem_zeroPadded {width value : Nat} {byte : UInt8} (h : byte ∈ zeroPadded width value)
    : 48 ≤ byte.toNat ∧ byte.toNat ≤ 57 := by
  rcases List.mem_append.mp h with padding | printed
  · rw [List.eq_of_mem_replicate padding]
    decide
  · exact mem_decimal printed

/-- A number that fits its width is printed as its last digits, by induction on the width. -/
theorem zeroPadded_eq {width value : Nat} (fits : value < 10 ^ (width + 1))
    : zeroPadded (width + 1) value = lastDigits (width + 1) value := by
  induction width generalizing value with
  | zero =>
      have small : value < 10 := by simpa using fits
      rw [zeroPadded, decimal_of_lt small]
      simp [lastDigits, Nat.mod_eq_of_lt small]
  | succ width ih =>
      rw [lastDigits, ← ih (by omega), zeroPadded, zeroPadded]
      by_cases small : value < 10
      · rw [Nat.div_eq_of_lt small, Nat.mod_eq_of_lt small, decimal_of_lt small,
          decimal_of_lt (by decide)]
        simp [List.replicate_succ', show digitByte 0 = 48 from rfl]
      · rw [decimal_of_le (Nat.not_lt.mp small)]
        simp

/-- Printed in its width, a number takes exactly its width. -/
theorem length_zeroPadded {width value : Nat} (fits : value < 10 ^ (width + 1))
    : (zeroPadded (width + 1) value).length = width + 1 := by
  rw [zeroPadded_eq fits, length_lastDigits]

/-- A number takes no more digits than the width that it fits. -/
theorem length_decimal_le {width value : Nat} (fits : value < 10 ^ (width + 1))
    : (decimal value).length ≤ width + 1 := by
  have whole := length_zeroPadded fits
  rw [zeroPadded, List.length_append, List.length_replicate] at whole
  omega

-----------------------------------------------------------------------------------------
-- The order of printed numbers
-----------------------------------------------------------------------------------------

/-- Behind texts of one length the first difference decides, by induction on them. -/
theorem strcmpBytes_append_of_length {left right : List UInt8} (same : left.length = right.length)
    (x y : List UInt8)
    : strcmpBytes (left ++ x) (right ++ y)
      = if left = right then strcmpBytes x y else strcmpBytes left right := by
  induction left, right using strcmpBytes.induct with
  | case1 => simp
  | case2 byte rest => simp at same
  | case3 byte rest => simp at same
  | case4 restLeft byte restRight ih =>
      have shorter : restLeft.length = restRight.length := by simpa using same
      simp [strcmpBytes, ih shorter]
  | case5 left restLeft right restRight differ => simp [strcmpBytes, differ]

/-- A smaller number comes first, by induction on the width: either its leading digits are
smaller or they are the same and its last digit is.
-/
theorem strcmpBytes_lastDigits_of_lt {width left right : Nat} (below : right < 10 ^ width)
    (h : left < right)
    : strcmpBytes (lastDigits width left) (lastDigits width right) < 0 := by
  induction width generalizing left right with
  | zero =>
      rw [Nat.pow_zero] at below
      omega
  | succ width ih =>
      rw [lastDigits, lastDigits, strcmpBytes_append_of_length (by simp)]
      by_cases leading : left / 10 = right / 10
      · have last : left % 10 < right % 10 := by omega
        have first := toNat_digitByte (show left % 10 < 10 by omega)
        have second := toNat_digitByte (show right % 10 < 10 by omega)
        have differ : digitByte (left % 10) ≠ digitByte (right % 10) := by
          intro same
          rw [same] at first
          omega
        rw [if_pos (by rw [leading]), strcmpBytes, if_neg differ]
        omega
      · have earlier := ih (show right / 10 < 10 ^ width by omega)
          (show left / 10 < right / 10 by omega)
        have differ : lastDigits width (left / 10) ≠ lastDigits width (right / 10) := by
          intro same
          rw [same, strcmpBytes_self] at earlier
          exact absurd earlier (by simp)
        rw [if_neg differ]
        exact earlier

/-- Printed in one width, numbers are ordered as text as they are as numbers. -/
theorem strcmpBytes_zeroPadded_le {width left right : Nat} (hl : left < 10 ^ (width + 1))
    (hr : right < 10 ^ (width + 1))
    : strcmpBytes (zeroPadded (width + 1) left) (zeroPadded (width + 1) right) ≤ 0
      ↔ left ≤ right := by
  rw [zeroPadded_eq hl, zeroPadded_eq hr]
  rcases Nat.lt_trichotomy left right with less | rfl | greater
  · exact iff_of_true (Int.le_of_lt (strcmpBytes_lastDigits_of_lt hr less)) (Nat.le_of_lt less)
  · exact iff_of_true (Int.le_of_eq (strcmpBytes_self _)) (Nat.le_refl _)
  · have before := strcmpBytes_lastDigits_of_lt hl greater
    rw [strcmpBytes_neg] at before
    exact iff_of_false (by omega) (by omega)

end CStandard
