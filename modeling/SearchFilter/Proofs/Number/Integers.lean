import Mathlib.Algebra.Group.Int.Defs
import Mathlib.Data.List.Basic
import SearchFilter.Number.Read
import SearchFilter.Proofs.Text.Blanks

/-! # Reading integers

An integer has many decimal forms: a sign stands before the digits or none does, the digits begin
with any number of zeros, and blanks stand around all of it (`Numeral`).  Zeros in front do not
change the number (`ofDigits_padded`), and what stands between the blanks neither begins
nor ends with one, so every form is read as the integer (`integer?_trim`).  An integer of 64 bits is
kept as such and never becomes a floating-point number (`read?_of_numeral`). -/

namespace SearchFilter.Number

/-! ### Decimal forms -/

/-- The signs that may stand before an integer; zero takes either. -/
inductive SignOf (n : Int) : Text → Prop
  | none : 0 ≤ n → SignOf n []
  | plus : 0 ≤ n → SignOf n ['+']
  | minus : n ≤ 0 → SignOf n ['-']

/-- The digits of a number behind some zeros. -/
def padded (zeros k : Nat) : Text := List.replicate zeros '0' ++ Text.ofNat k

/-- The text is a decimal form of the integer. -/
inductive Numeral (n : Int) : Text → Prop
  | intro {before sign after : Text} (zeros : Nat) :
      before.AllBlank → SignOf n sign → after.AllBlank →
        Numeral n (before ++ (sign ++ padded zeros n.natAbs) ++ after)

variable {n : Int} {zeros k : Nat} {c : Char} {sign ds s : Text}

/-! ### Digits -/

theorem isDigit_iff : isDigit c = true ↔ 48 ≤ c.toNat ∧ c.toNat ≤ 57 := by
  have hrange : '0' ≤ c ∧ c ≤ '9' ↔ 48 ≤ c.toNat ∧ c.toNat ≤ 57 := Iff.rfl
  simp [isDigit, digit?, hrange]

theorem digit?_of_isDigit (hc : isDigit c = true) : digit? c = some (c.toNat - '0'.toNat) :=
  if_pos (isDigit_iff.mp hc)

theorem not_isBlank_of_isDigit (hc : isDigit c = true) : Text.isBlank c = false := by
  obtain ⟨hlow, hhigh⟩ := isDigit_iff.mp hc
  rw [← Bool.not_eq_true]
  simp only [Text.isBlank, Bool.or_eq_true, Bool.and_eq_true, decide_eq_true_eq, beq_iff_eq]
  omega

theorem isDigit_of_mem_ofNat (hc : c ∈ Text.ofNat k) : isDigit c = true := by
  have h := Nat.isDigit_of_mem_toDigits (by decide) (by decide) hc
  simp only [Char.isDigit, Bool.and_eq_true, decide_eq_true_eq] at h
  exact isDigit_iff.mpr h

theorem isDigit_of_mem_padded (hc : c ∈ padded zeros k) : isDigit c = true := by
  rcases List.mem_append.mp hc with hzero | hdigit
  · rw [List.eq_of_mem_replicate hzero]
    decide
  · exact isDigit_of_mem_ofNat hdigit

theorem padded_ne_nil (zeros k : Nat) : padded zeros k ≠ [] :=
  List.append_ne_nil_of_right_ne_nil _ Nat.toDigits_ne_nil

theorem ofDigits_ofNat (k : Nat) : ofDigits (Text.ofNat k) = k := by
  have hdigits : ofDigits (Text.ofNat k) = Nat.ofDigitChars 10 (Text.ofNat k) 0 := by
    refine List.foldl_ext _ _ 0 fun total c hc => ?_
    rw [digit?_of_isDigit (isDigit_of_mem_ofNat hc), Option.getD_some]
  rw [hdigits, Text.ofNat, Nat.ofDigitChars_toDigits (by decide) (by decide)]

theorem ofDigits_padded (zeros k : Nat) : ofDigits (padded zeros k) = k := by
  induction zeros with
  | zero => exact ofDigits_ofNat k
  | succ zeros ih => exact ih

/-! ### Signs -/

theorem splitSign_of_ne (hminus : c ≠ '-') (hplus : c ≠ '+') (s : Text) :
    splitSign (c :: s) = (false, c :: s) := by
  unfold splitSign
  split
  · rename_i heq
    exact absurd (List.cons.inj heq).1 hminus
  · rename_i heq
    exact absurd (List.cons.inj heq).1 hplus
  · rfl

theorem splitSign_of_isDigit (hc : isDigit c = true) (s : Text) :
    splitSign (c :: s) = (false, c :: s) := by
  refine splitSign_of_ne ?_ ?_ s
  · rintro rfl
    cases hc
  · rintro rfl
    cases hc

/-- The sign is split off, and with the digits of the magnitude it gives the integer. -/
theorem SignOf.splitSign_append (h : SignOf n sign) (hds : ds ≠ [])
    (hdigits : ∀ c ∈ ds, isDigit c = true) :
    ∃ negative, splitSign (sign ++ ds) = (negative, ds) ∧ signed negative n.natAbs = n := by
  cases h with
  | none hn =>
      obtain ⟨c, ds, rfl⟩ := List.exists_cons_of_ne_nil hds
      refine ⟨false, splitSign_of_isDigit (hdigits c List.mem_cons_self) ds, ?_⟩
      exact Int.natAbs_of_nonneg hn
  | plus hn => exact ⟨false, rfl, Int.natAbs_of_nonneg hn⟩
  | minus hn =>
      have hnegated : -(n.natAbs : Int) = n := by omega
      exact ⟨true, rfl, hnegated⟩

theorem SignOf.not_isBlank (h : SignOf n sign) : ∀ c ∈ sign, Text.isBlank c = false := by
  have hplus : Text.isBlank '+' = false := by decide
  have hminus : Text.isBlank '-' = false := by decide
  cases h <;> simp [hplus, hminus]

/-! ### Integers -/

theorem integer?_of_signOf (h : SignOf n sign) (zeros : Nat) :
    integer? (sign ++ padded zeros n.natAbs) = some n := by
  have hne : padded zeros n.natAbs ≠ [] := padded_ne_nil zeros n.natAbs
  have hall : (padded zeros n.natAbs).all isDigit = true :=
    List.all_eq_true.mpr fun c hc => isDigit_of_mem_padded hc
  obtain ⟨negative, hsplit, hsigned⟩ := h.splitSign_append hne (List.all_eq_true.mp hall)
  simp [integer?, hsplit, hne, hall, ofDigits_padded, hsigned]

theorem Numeral.exists_trim_eq (h : Numeral n s) :
    ∃ sign zeros, SignOf n sign ∧ s.trim = sign ++ padded zeros n.natAbs := by
  cases h with
  | @intro before sign after zeros hbefore hsign hafter =>
      have hsolid : ∀ c ∈ sign ++ padded zeros n.natAbs, Text.isBlank c = false :=
        List.forall_mem_append.mpr ⟨hsign.not_isBlank, fun c hc =>
          not_isBlank_of_isDigit (isDigit_of_mem_padded hc)⟩
      exact ⟨sign, zeros, hsign, Text.trim_append_append hbefore hsolid hafter⟩

theorem integer?_trim (h : Numeral n s) : integer? s.trim = some n := by
  obtain ⟨sign, zeros, hsign, htrim⟩ := h.exists_trim_eq
  rw [htrim, integer?_of_signOf hsign]

theorem int64?_toInt (a : Int64) : int64? a.toInt = some a := by
  rw [int64?, if_pos ⟨a.minValue_le_toInt, a.toInt_le⟩, Int64.ofInt_toInt]

/-- The integer has 64 bits. -/
def Fits (a : Int) : Prop := -2 ^ 63 ≤ a ∧ a < 2 ^ 63

theorem int64?_eq_none (h : ¬ Fits n) : int64? n = none := by
  have hmin : Int64.minValue.toInt = -2 ^ 63 := by decide
  have hmax : Int64.maxValue.toInt = 2 ^ 63 - 1 := by decide
  rw [Fits] at h
  rw [int64?, if_neg (by omega)]

/-- Every decimal form of an integer of 64 bits is read as such. -/
theorem read?_of_numeral {a : Int64} (h : Numeral a.toInt s) : read? s = some (.integer a) := by
  have hinteger : (integer? s.trim).bind int64? = some a := by
    rw [integer?_trim h, Option.bind_some, int64?_toInt]
  simp only [read?, hinteger]

theorem Numeral.not_mem_backslash (h : Numeral n s) : '\\' ∉ s := by
  cases h with
  | @intro before sign after zeros hbefore hsign hafter =>
      have hblank : ∀ {w : Text}, w.AllBlank → '\\' ∉ w := fun hw hmem =>
        absurd (hw _ hmem) (by decide)
      have hdigits : '\\' ∉ padded zeros n.natAbs := fun hmem =>
        absurd (isDigit_of_mem_padded hmem) (by decide)
      have hsigns : '\\' ∉ sign := by cases hsign <;> decide
      simp [hblank hbefore, hblank hafter, hdigits, hsigns]

end SearchFilter.Number
