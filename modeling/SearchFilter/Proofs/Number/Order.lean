import SearchFilter.Proofs.Number.WideIntegers

/-! # The order of numbers

A number that is read from a text is finite as a floating-point number (`finite_of_read?`).  Two
integers are compared as integers, and any other two numbers by their values as floating-point
numbers (`compare?_integer`, `compare?_eq_cmp`), so one of two numbers is at most the other.

Rounding keeps the order of integers, so `AtMost` is transitive as long as not two integers meet a
floating-point number between them (`AtMost.trans`): if both are rounded to this number, it is at
most either of them and either of them is at most it, whatever their own order is. -/

namespace SearchFilter.Number

open Binary64 (overflow roundInt)

def Finite (a : Number) : Prop := a.toBinary64.isFinite = true

/-- The value of a number as a floating-point number. -/
def toRat (a : Number) : ℚ := a.toBinary64.toRat

/-- The number is an integer of 64 bits. -/
def IsInteger (a : Number) : Prop := ∃ n, a = .integer n

variable {a b c : Number} {s : Text}

/-! ### Finite numbers -/

theorem natAbs_lt_overflow (n : Int64) : n.toInt.natAbs < overflow := by
  have hlow := n.minValue_le_toInt
  have hhigh := n.toInt_le
  have hmin : Int64.minValue.toInt = -2 ^ 63 := by decide
  have hmax : Int64.maxValue.toInt = 2 ^ 63 - 1 := by decide
  calc n.toInt.natAbs ≤ 2 ^ 63 := by omega
    _ < overflow := by decide +kernel

theorem finite_integer (n : Int64) : (integer n).Finite :=
  (Binary64.ofInt_of_lt_overflow (natAbs_lt_overflow n)).1

theorem toRat_integer (n : Int64) : (integer n).toRat = roundInt n.toInt :=
  (Binary64.ofInt_of_lt_overflow (natAbs_lt_overflow n)).2

theorem finite_of_read? (h : read? s = some a) : a.Finite := by
  rw [read?] at h
  split at h
  · obtain rfl := Option.some.inj h
    exact finite_integer _
  · obtain ⟨x, hx, rfl⟩ := Option.map_eq_some_iff.mp h
    exact (Option.filter_eq_some_iff.mp hx).2

/-! ### Comparisons -/

theorem compare?_integer (m n : Int64) :
    (integer m).compare? (integer n) = some (cmp m.toInt n.toInt) := by
  rw [compare?, cmp_eq_compare]

theorem compare?_eq_cmp (ha : a.Finite) (hb : b.Finite) (h : ¬ (a.IsInteger ∧ b.IsInteger)) :
    a.compare? b = some (cmp a.toRat b.toRat) := by
  have hvalues := Binary64.compare?_eq_cmp ha hb
  cases a with
  | float x => exact hvalues
  | integer m =>
      cases b with
      | float y => exact hvalues
      | integer n => exact absurd ⟨⟨m, rfl⟩, n, rfl⟩ h

/-- Finite numbers are comparable, and the order of the two can be read from either side. -/
theorem exists_compare?_eq (ha : a.Finite) (hb : b.Finite) :
    ∃ o, a.compare? b = some o ∧ b.compare? a = some o.swap := by
  by_cases h : a.IsInteger ∧ b.IsInteger
  · obtain ⟨⟨m, rfl⟩, n, rfl⟩ := h
    exact ⟨_, compare?_integer m n, by rw [compare?_integer, cmp_swap]⟩
  · exact ⟨_, compare?_eq_cmp ha hb h, by rw [compare?_eq_cmp hb ha (mt And.symm h), cmp_swap]⟩

/-- The first number is not compared as greater than the second one. -/
def AtMost (a b : Number) : Prop := a.compare? b ≠ some .gt

theorem atMost_integer_iff {m n : Int64} : (integer m).AtMost (integer n) ↔ m ≤ n := by
  rw [AtMost, compare?_integer, ne_eq, Option.some.injEq, cmp_eq_gt_iff, not_lt,
    Int64.le_iff_toInt_le]

theorem atMost_iff (ha : a.Finite) (hb : b.Finite) (h : ¬ (a.IsInteger ∧ b.IsInteger)) :
    a.AtMost b ↔ a.toRat ≤ b.toRat := by
  rw [AtMost, compare?_eq_cmp ha hb h, ne_eq, Option.some.injEq, cmp_eq_gt_iff, not_lt]

theorem AtMost.toRat_le (ha : a.Finite) (hb : b.Finite) (h : a.AtMost b) : a.toRat ≤ b.toRat := by
  by_cases hintegers : a.IsInteger ∧ b.IsInteger
  · obtain ⟨⟨m, rfl⟩, n, rfl⟩ := hintegers
    rw [atMost_integer_iff, Int64.le_iff_toInt_le] at h
    rw [toRat_integer, toRat_integer]
    exact Int.cast_le.mpr (Binary64.roundInt_mono h)
  · exact (atMost_iff ha hb hintegers).mp h

/-- The order of numbers is transitive unless the outer ones are integers that the one between them
is the rounded form of. -/
theorem AtMost.trans (ha : a.Finite) (hb : b.Finite) (hc : c.Finite) (hab : a.AtMost b)
    (hbc : b.AtMost c) (hrounded : ∀ m n : Int64, a = .integer m → ¬ b.IsInteger → c = .integer n →
      roundInt m.toInt = roundInt n.toInt → m ≤ n) : a.AtMost c := by
  have hvalues : a.toRat ≤ c.toRat := (hab.toRat_le ha hb).trans (hbc.toRat_le hb hc)
  by_cases hac : a.IsInteger ∧ c.IsInteger
  · obtain ⟨⟨m, rfl⟩, n, rfl⟩ := hac
    rw [atMost_integer_iff]
    by_cases hinteger : b.IsInteger
    · obtain ⟨k, rfl⟩ := hinteger
      exact Int64.le_trans (atMost_integer_iff.mp hab) (atMost_integer_iff.mp hbc)
    · by_contra hlt
      have hround : roundInt n.toInt ≤ roundInt m.toInt :=
        Binary64.roundInt_mono (Int64.lt_iff_toInt_lt.mp (Int64.not_le.mp hlt)).le
      rw [toRat_integer, toRat_integer, Int.cast_le] at hvalues
      exact hlt (hrounded m n rfl hinteger rfl (le_antisymm hvalues hround))
  · exact (atMost_iff ha hc hac).mpr hvalues

end SearchFilter.Number
