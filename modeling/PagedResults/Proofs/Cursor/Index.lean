import Mathlib.Algebra.Group.Int.Defs
import Mathlib.Data.Int.Order.Basic
import PagedResults.Cursor.Scrollable

/-! # Indices as exact integers

An index is a word of 64 bits with a sign. As long as no more rows are kept than have an index, the sums and
differences that a cursor forms are exact, but for the one that saturates.
-/

namespace PagedResults

namespace Index

variable {first second : Int64}

theorem toInt_saturatingAdd (first second : Int64) : (saturatingAdd first second).toInt =
    max (-2 ^ 63) (min (first.toInt + second.toInt) (2 ^ 63 - 1)) := by
  have least : Int64.minValue.toInt = -2 ^ 63 := Int64.toInt_minValue
  have greatest : Int64.maxValue.toInt = 2 ^ 63 - 1 := Int64.toInt_maxValue
  unfold saturatingAdd Int64.ofIntClamp
  split
  · split
    · rw [Int64.toInt_ofIntLE]
      omega
    · rw [greatest]
      omega
  · rw [least]
    omega

theorem toInt_add (low : -2 ^ 63 ≤ first.toInt + second.toInt) (high : first.toInt + second.toInt < 2 ^ 63) :
    (first + second).toInt = first.toInt + second.toInt := by
  rw [Int64.toInt_add]
  exact Int.bmod_eq_of_le (by omega) (by omega)

theorem toInt_sub (low : -2 ^ 63 ≤ first.toInt - second.toInt) (high : first.toInt - second.toInt < 2 ^ 63) :
    (first - second).toInt = first.toInt - second.toInt := by
  rw [Int64.toInt_sub]
  exact Int.bmod_eq_of_le (by omega) (by omega)

theorem toInt_min (first second : Int64) : (min first second).toInt = min first.toInt second.toInt := by
  change (if first ≤ second then first else second).toInt = _
  have order : first ≤ second ↔ first.toInt ≤ second.toInt := Int64.le_iff_toInt_le
  split
  · next less => exact (Int.min_eq_left (order.mp less)).symm
  · next more => exact (Int.min_eq_right (Int.le_of_lt (Int.not_le.mp (mt order.mpr more)))).symm

@[simp] theorem toInt_zero : (0 : Int64).toInt = 0 := rfl

@[simp] theorem toInt_one : (1 : Int64).toInt = 1 := rfl

@[simp] theorem toInt_neg_one : (-1 : Int64).toInt = -1 := rfl

end Index

namespace ScrollableCursor

variable {σ ρ : Type} {cursor : ScrollableCursor ρ}

theorem toInt_length (few : cursor.rows.size ≤ mostRows) : cursor.length.toInt = cursor.rows.size :=
  Int64.toInt_ofNat_of_lt (Nat.lt_of_le_of_lt few (by decide))

/-- Rows for which there is room are kept. -/
theorem extend_apply {rows : List Row} (cursor : ScrollableCursor ρ) (source : σ)
    (fits : cursor.rows.size + rows.length ≤ mostRows) :
    extend rows (cursor, source) = (.ok (), keep rows cursor, source) :=
  if_neg (Nat.not_lt.mpr fits)

end ScrollableCursor

end PagedResults
