import SearchFilter.Proofs.Escape
import SearchFilter.Proofs.Number.Integers
import SearchFilter.Value.Order

/-! # The order of integers

An integer of 64 bits stands in a record as a number or as a text that spells it
(`Scalar.Denotes`).  Either way it is read as that integer, and so is every decimal form of a bound,
so the natural order compares the two integers themselves, with no rounding at any place
(`compareWith_natural`, `isAtMost_natural_iff`). -/

namespace SearchFilter

/-- The value is the integer or a text that spells it. -/
inductive Scalar.Denotes (a : Int64) : Scalar → Prop
  | integer : Denotes a (.integer a)
  | text {s : Text} : Number.Numeral a.toInt s → Denotes a (.text s)

variable {a b : Int64} {m : Scalar} {bound : Text}

theorem Scalar.Denotes.number?_eq (h : m.Denotes a) : m.number? = some (.integer a) := by
  cases h with
  | integer => rfl
  | text hs => exact Number.read?_of_numeral hs

theorem Scalar.compareWith_natural (hm : m.Denotes a) (hbound : Number.Numeral b.toInt bound) :
    m.compareWith .natural bound = compare a.toInt b.toInt := by
  rw [compareWith, compareAsNumber?, hm.number?_eq, Number.read?_of_numeral hbound]
  rfl

namespace AttributeValue

/-- **The natural order is exact on integers of 64 bits**: a member that is such an integer or
spells it in any decimal form is at most a bound exactly if the integer is at most the one that the
bound spells, and at least the bound exactly if it is at least that one. -/
theorem isAtMost_natural_iff {v : AttributeValue} (hv : v.members = [m]) (hm : m.Denotes a)
    (hbound : Number.Numeral b.toInt bound) :
    (v.isAtMost .natural bound = true ↔ a ≤ b) ∧ (v.isAtLeast .natural bound = true ↔ b ≤ a) := by
  have hdecode : decode bound = bound := decode_of_not_mem hbound.not_mem_backslash
  have hcompare : m.compareWith .natural (decode bound) = compare a.toInt b.toInt := by
    rw [hdecode, Scalar.compareWith_natural hm hbound]
  constructor
  · rw [isAtMost, hv, Int64.le_iff_toInt_le, ← Int.not_lt, ← Int.compare_eq_gt]
    simp [hcompare]
  · rw [isAtLeast, hv, Int64.le_iff_toInt_le, ← Int.not_lt, ← Int.compare_eq_lt]
    simp [hcompare]

/-- The least integer, written with zeros and between blanks, is below the next one, and the
greatest one is above the one before it; rounded to floating-point numbers both pairs would be
equal. -/
theorem isAtMost_natural_ends :
    let least : Text := ['\u2003', '-', '0', '0', '9', '2', '2', '3', '3', '7', '2', '0', '3', '6',
      '8', '5', '4', '7', '7', '5', '8', '0', '8', '\n']
    let next : Text := ['-', '9', '2', '2', '3', '3', '7', '2', '0', '3', '6', '8', '5', '4', '7',
      '7', '5', '8', '0', '7']
    let last : Text := ['+', '9', '2', '2', '3', '3', '7', '2', '0', '3', '6', '8', '5', '4', '7',
      '7', '5', '8', '0', '6', ' ']
    (single (.text least)).isAtMost .natural next = true ∧
      (single (.text least)).isAtLeast .natural next = false ∧
      (multi [.integer Int64.maxValue]).isAtMost .natural last = false := by
  intro least next last
  have hleast : Scalar.Denotes Int64.minValue (.text least) := by
    have hform : least = ['\u2003'] ++ (['-'] ++
        Number.padded 2 Int64.minValue.toInt.natAbs) ++ ['\n'] := by decide
    rw [hform]
    exact .text (.intro 2 (by decide) (.minus (by decide)) (by decide))
  have hnext : Number.Numeral (Int64.minValue + 1).toInt next := by
    have hform : next = [] ++ (['-'] ++
        Number.padded 0 (Int64.minValue + 1).toInt.natAbs) ++ [] := by decide
    rw [hform]
    exact .intro 0 (by decide) (.minus (by decide)) (by decide)
  have hlast : Number.Numeral (Int64.maxValue - 1).toInt last := by
    have hform : last = [] ++ (['+'] ++
        Number.padded 0 (Int64.maxValue - 1).toInt.natAbs) ++ [' '] := by decide
    rw [hform]
    exact .intro 0 (by decide) (.plus (by decide)) (by decide)
  refine ⟨(isAtMost_natural_iff rfl hleast hnext).1.mpr (by decide), ?_, ?_⟩
  · rw [← Bool.not_eq_true, (isAtMost_natural_iff rfl hleast hnext).2]
    decide
  · rw [← Bool.not_eq_true, (isAtMost_natural_iff rfl .integer hlast).1]
    decide

end AttributeValue
end SearchFilter
