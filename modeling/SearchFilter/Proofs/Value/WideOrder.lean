import SearchFilter.Proofs.Escape
import SearchFilter.Proofs.Number.Order
import SearchFilter.Proofs.Text.Case
import SearchFilter.Value.Order

/-! # The order of integers beyond 64 bits

Where one of two integers is too wide to be kept as such, both are compared as floating-point
numbers, that is, after rounding (`compareWith_wide`).  This never turns their order around, but two
integers that are rounded to one number count as equal.  An integer beyond the finite numbers is no
number to the natural order: it is compared as a text, character by character
(`compareWith_overflow`). -/

namespace SearchFilter

open Binary64 (overflow roundInt)

variable {a b : Int} {m : Scalar} {s bound : Text}

/-! ### Decimal forms as texts -/

namespace Text

theorem lowercase_of_caseless (h : ∀ c ∈ s, c ≠ 'Σ' ∧ lowercaseChar c = [c]) :
    lowercase s = s := by
  have hsigma : 'Σ' ∉ s := fun hc => (h _ hc).1 rfl
  rw [lowercase, lowercaseAfter_of_not_mem hsigma, List.flatMap_congr fun c hc => (h c hc).2,
    List.flatMap_singleton']

theorem lowercaseChar_of_isBlank {c : Char} (hc : isBlank c = true) :
    c ≠ 'Σ' ∧ lowercaseChar c = [c] := by
  have htable : ∀ n ∈ [9, 10, 11, 12, 13, 0x20, 0x85, 0xA0, 0x1680, 0x2000, 0x2001, 0x2002, 0x2003,
      0x2004, 0x2005, 0x2006, 0x2007, 0x2008, 0x2009, 0x200A, 0x2028, 0x2029, 0x202F, 0x205F, 0x3000],
      Char.ofNat n ≠ 'Σ' ∧ lowercaseChar (Char.ofNat n) = [Char.ofNat n] := by decide +kernel
  have h := htable c.toNat (by
    simp only [isBlank, Bool.or_eq_true, Bool.and_eq_true, decide_eq_true_eq, beq_iff_eq] at hc
    simp only [List.mem_cons, List.not_mem_nil, or_false]
    omega)
  rwa [Char.ofNat_toNat] at h

end Text

namespace Number

theorem SignOf.caseless {sign : Text} (h : SignOf a sign) :
    ∀ c ∈ sign, c ≠ 'Σ' ∧ Text.lowercaseChar c = [c] := by
  cases h with
  | none => exact List.forall_mem_nil _
  | plus => exact List.forall_mem_singleton.mpr ⟨by decide, rfl⟩
  | minus => exact List.forall_mem_singleton.mpr ⟨by decide, rfl⟩

theorem caseless_of_isDigit {c : Char} (hc : isDigit c = true) :
    c ≠ 'Σ' ∧ Text.lowercaseChar c = [c] := by
  have hdigits : ∀ i < 10, Char.ofNat (48 + i) ≠ 'Σ' ∧
      Text.lowercaseChar (Char.ofNat (48 + i)) = [Char.ofNat (48 + i)] := by decide
  obtain ⟨hlow, hhigh⟩ := isDigit_iff.mp hc
  have h := hdigits (c.toNat - 48) (by omega)
  rwa [Nat.add_sub_cancel' hlow, Char.ofNat_toNat] at h

theorem Numeral.lowercase_eq (h : Numeral a s) : Text.lowercase s = s := by
  refine Text.lowercase_of_caseless fun c hc => ?_
  cases h with
  | @intro before sign after zeros hbefore hsigns hafter =>
      simp only [List.mem_append] at hc
      rcases hc with (hc | hc | hc) | hc
      · exact Text.lowercaseChar_of_isBlank (hbefore c hc)
      · exact hsigns.caseless c hc
      · exact caseless_of_isDigit (isDigit_of_mem_padded hc)
      · exact Text.lowercaseChar_of_isBlank (hafter c hc)

theorem numeral_ofInt (a : Int) : Numeral a (Text.ofInt a) := by
  have hblank : Text.AllBlank [] := Text.allBlank_nil
  cases a with
  | ofNat n =>
      have hform : Text.ofInt (.ofNat n) = [] ++ ([] ++ padded 0 n) ++ [] := by
        simp [Text.ofInt, padded]
      rw [hform]
      exact .intro 0 hblank (.none (Int.natCast_nonneg n)) hblank
  | negSucc n =>
      have hform : Text.ofInt (.negSucc n) = [] ++ (['-'] ++ padded 0 (n + 1)) ++ [] := by
        simp [Text.ofInt, padded]
      rw [hform]
      exact .intro 0 hblank (.minus (by omega)) hblank

end Number

/-! ### Integers in a record -/

namespace Scalar

/-- The value is the integer or a text that spells it. -/
inductive Writes (a : Int) : Scalar → Prop
  | integer {n : Int64} : n.toInt = a → Writes a (.integer n)
  | text {s : Text} : Number.Numeral a s → Writes a (.text s)

theorem Writes.number?_eq (h : m.Writes a) : m.number? = Number.nearest? a := by
  cases h with
  | @integer n hn => rw [number?, Number.nearest?, ← hn, Number.int64?_toInt]
  | text hs => exact Number.read?_eq_nearest? hs

theorem Writes.numeral_toText (h : m.Writes a) : Number.Numeral a m.toText := by
  cases h with
  | @integer n hn => exact hn ▸ Number.numeral_ofInt n.toInt
  | text hs => exact hs

end Scalar

/-! ### Rounded integers and texts -/

namespace Number

theorem nearest?_toInt (n : Int64) : nearest? n.toInt = some (.integer n) := by
  rw [nearest?, int64?_toInt]

/-- In the range of the finite numbers every integer has a number that stands for it. -/
theorem exists_nearest?_eq (h : a.natAbs < overflow) :
    ∃ x, nearest? a = some x ∧ x.Finite ∧ x.toRat = roundInt a ∧ (x.IsInteger → Fits a) := by
  by_cases hfits : Fits a
  · obtain ⟨n, rfl⟩ : ∃ n : Int64, n.toInt = a := ⟨.ofInt a, Int64.toInt_ofInt_of_le hfits.1 hfits.2⟩
    exact ⟨.integer n, nearest?_toInt n, finite_integer n, toRat_integer n, fun _ => hfits⟩
  · obtain ⟨hfinite, hvalue⟩ := Binary64.ofInt_of_lt_overflow h
    refine ⟨.float (.ofInt a), ?_, hfinite, hvalue, ?_⟩
    · rw [nearest?, int64?_eq_none hfits, if_pos h]
    · rintro ⟨n, hn⟩
      cases hn

theorem nearest?_eq_none (h : overflow ≤ a.natAbs) : nearest? a = none := by
  have hfits : ¬ Fits a := by
    intro hfits
    have hbound : 2 ^ 63 < overflow := by decide +kernel
    have hlow := hfits.1
    have hhigh := hfits.2
    omega
  rw [nearest?, int64?_eq_none hfits, if_neg (by omega)]

end Number

namespace Scalar

/-- Where not both integers have 64 bits, the rounded integers are compared. -/
theorem compareWith_wide (hm : m.Writes a) (hbound : Number.Numeral b bound)
    (hwide : ¬ (Number.Fits a ∧ Number.Fits b)) (ha : a.natAbs < overflow)
    (hb : b.natAbs < overflow) :
    m.compareWith .natural bound = cmp (roundInt a) (roundInt b) := by
  obtain ⟨x, hx, hxfinite, hxvalue, hxfits⟩ := Number.exists_nearest?_eq ha
  obtain ⟨y, hy, hyfinite, hyvalue, hyfits⟩ := Number.exists_nearest?_eq hb
  have hfloat : ¬ (x.IsInteger ∧ y.IsInteger) := fun h => hwide ⟨hxfits h.1, hyfits h.2⟩
  rw [← hm.number?_eq] at hx
  rw [← Number.read?_eq_nearest? hbound] at hy
  rw [compareWith, compareAsNumber?_eq hx hy, Number.compare?_eq_cmp hxfinite hyfinite hfloat,
    hxvalue, hyvalue, Int.cast_strictMono.cmp_map_eq, Option.getD_some]

theorem compareWith_overflow (hm : m.Writes a) (hbound : Number.Numeral b bound)
    (h : overflow ≤ a.natAbs ∨ overflow ≤ b.natAbs) :
    m.compareWith .natural bound = compare m.toText bound := by
  have hnone : m.number? = none ∨ Number.read? bound = none := by
    rw [hm.number?_eq, Number.read?_eq_nearest? hbound]
    exact h.imp Number.nearest?_eq_none Number.nearest?_eq_none
  rw [compareWith_of_none hnone, compareAsText, hm.numeral_toText.lowercase_eq,
    hbound.lowercase_eq]

end Scalar

/-- Rounding makes integers equal or keeps their order. -/
theorem Binary64.roundInt_le_roundInt_iff : roundInt a ≤ roundInt b ↔
    a ≤ b ∨ roundInt a = roundInt b := by
  constructor
  · intro h
    rcases le_total a b with hab | hba
    · exact .inl hab
    · exact .inr (le_antisymm h (roundInt_mono hba))
  · rintro (h | h)
    · exact roundInt_mono h
    · exact h.le

namespace AttributeValue

/-- **Beyond 64 bits the natural order is exact up to rounding**: of two integers that do not both
have 64 bits the first is at most the second exactly if it is so or both are rounded to the same 53
binary places, as long as both are in the range of the finite floating-point numbers.  If one of
them is not, their texts are compared. -/
theorem isAtMost_wide_iff {v : AttributeValue} (hv : v.members = [m]) (hm : m.Writes a)
    (hbound : Number.Numeral b bound) (hwide : ¬ (Number.Fits a ∧ Number.Fits b)) :
    (a.natAbs < overflow ∧ b.natAbs < overflow →
      (v.isAtMost .natural bound = true ↔ a ≤ b ∨ roundInt a = roundInt b) ∧
        (v.isAtLeast .natural bound = true ↔ b ≤ a ∨ roundInt a = roundInt b)) ∧
    (overflow ≤ a.natAbs ∨ overflow ≤ b.natAbs →
      (v.isAtMost .natural bound = true ↔ compare m.toText bound ≠ .gt) ∧
        (v.isAtLeast .natural bound = true ↔ compare m.toText bound ≠ .lt)) := by
  rw [isAtMost_iff_of_members hv, isAtLeast_iff_of_members hv,
    decode_of_not_mem hbound.not_mem_backslash]
  constructor
  · rintro ⟨ha, hb⟩
    rw [Scalar.compareWith_wide hm hbound hwide ha hb, ne_eq, ne_eq, cmp_eq_gt_iff,
      cmp_eq_lt_iff, not_lt, not_lt, Binary64.roundInt_le_roundInt_iff,
      Binary64.roundInt_le_roundInt_iff, eq_comm (a := roundInt b)]
    exact ⟨Iff.rfl, Iff.rfl⟩
  · intro h
    rw [Scalar.compareWith_overflow hm hbound h]
    exact ⟨Iff.rfl, Iff.rfl⟩

/-- The greatest integer of 64 bits and the next one, which is too wide, are rounded to one number;
the first integer with 310 digits is beyond the finite numbers, and its first digit is less than 2. -/
theorem isAtMost_wide_ends :
    let next : Text := '+' :: Text.ofInt (2 ^ 63)
    let huge : Text := Text.ofInt (10 ^ 309)
    ((single (.integer Int64.maxValue)).isAtMost .natural next = true ∧
      (single (.integer Int64.maxValue)).isAtLeast .natural next = true) ∧
    (multi [.text huge]).isAtMost .natural ['2'] = true ∧
      (multi [.text huge]).isAtLeast .natural ['2'] = false := by
  intro next huge
  have hnext : Number.Numeral (2 ^ 63) next := by
    have hform : next = [] ++ (['+'] ++ Number.padded 0 (2 ^ 63 : Int).natAbs) ++ [] := by decide
    rw [hform]
    exact .intro 0 (by decide) (.plus (by decide)) (by decide)
  have hmax : (Scalar.integer Int64.maxValue).Writes (2 ^ 63 - 1) := .integer (by decide)
  have hhuge : (Scalar.text huge).Writes (10 ^ 309) := .text (Number.numeral_ofInt _)
  have htwo : Number.Numeral 2 ['2'] := Number.numeral_ofInt 2
  have hfinite := (isAtMost_wide_iff (v := single (.integer Int64.maxValue)) rfl hmax hnext fun h =>
    absurd h.2.2 (by decide)).1 ⟨by decide +kernel, by decide +kernel⟩
  have hround : roundInt (2 ^ 63 - 1) = roundInt (2 ^ 63) := by decide +kernel
  have htexts := (isAtMost_wide_iff (v := multi [.text huge]) rfl hhuge htwo fun h =>
    absurd h.1.2 (by decide +kernel)).2 (.inl (by decide +kernel))
  refine ⟨⟨hfinite.1.mpr (.inr hround), hfinite.2.mpr (.inr hround)⟩, ?_, ?_⟩
  · rw [htexts.1]
    decide +kernel
  · rw [← Bool.not_eq_true, htexts.2]
    decide +kernel

/-- An integer counts as at least the next one where both are rounded to one number, and as at most
a lesser one where its text comes first. -/
theorem isAtLeast_natural_next :
    ((single (.integer Int64.maxValue)).isAtLeast .natural (Text.ofInt (2 ^ 63)) = true ∧
      ¬ 2 ^ 63 ≤ Int64.maxValue.toInt) ∧
    (single (.text (Text.ofInt (10 ^ 309)))).isAtMost .natural (Text.ofInt 2) = true ∧
      ¬ (10 ^ 309 : Int) ≤ 2 := by
  decide +kernel

end AttributeValue
end SearchFilter
