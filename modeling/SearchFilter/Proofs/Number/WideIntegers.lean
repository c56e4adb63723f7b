import SearchFilter.Proofs.Number.AsciiCase
import SearchFilter.Proofs.Number.Rounding

/-! # Reading integers beyond 64 bits

An integer that is too wide to be kept as such is read as the floating-point number nearest to it
(`float?_of_signOf`).  Zeros in front of its digits are dropped before they are counted, and a count
of more than 400 digits already tells that the number is beyond the finite ones
(`ofDecimal_of_pow_le`).  So every decimal form of an integer is read as one and the same number, or
none of them as a number at all (`nearest?`, `read?_eq_nearest?`). -/

namespace SearchFilter.Number

open Binary64 (overflow)

variable {n : Int} {k : Nat} {c : Char} {sign ds s : Text}

/-! ### Digits and their count -/

theorem mul_pow_le_foldl (ds : Text) (k : Nat) :
    k * 10 ^ ds.length ≤ ds.foldl (fun total c => 10 * total + (digit? c).getD 0) k := by
  induction ds generalizing k with
  | nil => simp
  | cons c ds ih =>
      calc k * 10 ^ (ds.length + 1) = 10 * k * 10 ^ ds.length := by ring
        _ ≤ (10 * k + (digit? c).getD 0) * 10 ^ ds.length := Nat.mul_le_mul_right _ (by omega)
        _ ≤ _ := ih _

/-- A number is at least the place of its first digit, if this is not a zero. -/
theorem pow_length_le_ofDigits (hc : isDigit c = true) (hzero : c ≠ '0') (ds : Text) :
    10 ^ ds.length ≤ ofDigits (c :: ds) := by
  have hpos : 1 ≤ (digit? c).getD 0 := by
    have hne : c.toNat ≠ 48 := fun h => hzero (Char.toNat_inj.mp h)
    obtain ⟨hlow, -⟩ := isDigit_iff.mp hc
    rw [digit?_of_isDigit hc, Option.getD_some]
    change 1 ≤ c.toNat - 48
    omega
  calc 10 ^ ds.length ≤ (digit? c).getD 0 * 10 ^ ds.length := Nat.le_mul_of_pos_left _ hpos
    _ ≤ ofDigits (c :: ds) := by
        rw [ofDigits, List.foldl_cons, Nat.mul_zero, Nat.zero_add]
        exact mul_pow_le_foldl ds _

theorem ofDigits_dropWhile (ds : Text) : ofDigits (ds.dropWhile (· == '0')) = ofDigits ds := by
  induction ds with
  | nil => rfl
  | cons c ds ih =>
      by_cases hc : c = '0'
      · subst hc
        exact ih
      · rw [List.dropWhile_cons_of_neg (by simpa using hc)]

/-! ### Rounding -/

/-- A number with more than 400 digits is beyond the finite numbers. -/
theorem ofDecimal_of_pow_le (negative : Bool) {count : Nat} (hk : k ≠ 0)
    (hcount : 10 ^ (count - 1) ≤ k) :
    Binary64.ofDecimal negative k count 0 = Binary64.ofRatio negative k 1 := by
  rw [Binary64.ofDecimal, if_neg hk]
  split
  · have hoverflow : overflow ≤ k :=
      calc overflow ≤ 10 ^ 400 := by decide +kernel
        _ ≤ 10 ^ (count - 1) := Nat.pow_le_pow_right (by decide) (by omega)
        _ ≤ k := hcount
    rw [Binary64.ofRatio_of_overflow_le negative hoverflow]
  · rw [if_neg (by omega)]
    simp

/-- The zeros in front of the digits are not counted. -/
theorem ofParts_of_digits (negative : Bool) (hdigits : ∀ c ∈ ds, isDigit c = true)
    (hds : ofDigits ds ≠ 0) :
    ofParts negative ds [] 0 = Binary64.ofRatio negative (ofDigits ds) 1 := by
  have hvalue := ofDigits_dropWhile ds
  have hcount : 10 ^ ((ds.dropWhile (· == '0')).length - 1) ≤ ofDigits ds := by
    rw [← hvalue]
    cases hrest : ds.dropWhile (· == '0') with
    | nil =>
        rw [hrest] at hvalue
        exact absurd hvalue.symm hds
    | cons c rest =>
        have hmem : c ∈ ds.dropWhile (· == '0') := hrest ▸ List.mem_cons_self
        have hdigit : isDigit c = true := hdigits c ((List.dropWhile_sublist _).mem hmem)
        have hstop := Text.stopsAt_dropWhile (· == '0') ds
        rw [hrest, Text.stopsAt_cons] at hstop
        exact pow_length_le_ofDigits hdigit (by simpa using hstop) rest
  simp only [ofParts, List.append_nil, List.length_nil]
  rw [hvalue]
  exact ofDecimal_of_pow_le negative hds hcount

theorem map_toLower_ne {w : Text} (hdigits : ∀ c ∈ ds, isDigit c = true)
    (hw : w.all isDigit = false) : ds.map Char.toLower ≠ w := by
  rintro rfl
  obtain ⟨c, hc, hletter⟩ := List.all_eq_false.mp hw
  obtain ⟨d, hd, rfl⟩ := List.mem_map.mp hc
  rw [isDigit_toLower] at hletter
  exact hletter (hdigits d hd)

theorem decimal?_of_digits (negative : Bool) (hne : ds ≠ [])
    (hdigits : ∀ c ∈ ds, isDigit c = true) :
    decimal? negative ds = some (ofParts negative ds [] 0) := by
  have htake : ds.takeWhile isDigit = ds := List.takeWhile_eq_self_iff.mpr hdigits
  have hdrop : ds.dropWhile isDigit = [] := List.dropWhile_eq_nil_iff.mpr hdigits
  rw [decimal?_of_stopsAt (by simp [hdrop]), htake, hdrop, if_neg (by simpa using hne)]
  rfl

theorem float?_of_signOf (h : SignOf n sign) (hn : n ≠ 0) (zeros : Nat) :
    float? (sign ++ padded zeros n.natAbs) = some (.ofInt n) := by
  have hne : padded zeros n.natAbs ≠ [] := padded_ne_nil zeros n.natAbs
  have hdigits : ∀ c ∈ padded zeros n.natAbs, isDigit c = true := fun c hc =>
    isDigit_of_mem_padded hc
  have hvalue : ofDigits (padded zeros n.natAbs) = n.natAbs := ofDigits_padded zeros n.natAbs
  obtain ⟨negative, hsplit, hsigned⟩ := h.splitSign_append hne hdigits
  have hnegative : negative = decide (n < 0) := by
    cases negative with
    | false =>
        have hsigned : (n.natAbs : Int) = n := hsigned
        exact (decide_eq_false (by omega)).symm
    | true =>
        have hsigned : -(n.natAbs : Int) = n := hsigned
        exact (decide_eq_true (by omega)).symm
  have hinf : (padded zeros n.natAbs).map Char.toLower ≠ "inf".toList :=
    map_toLower_ne hdigits rfl
  have hinfinity : (padded zeros n.natAbs).map Char.toLower ≠ "infinity".toList :=
    map_toLower_ne hdigits rfl
  have hnan : (padded zeros n.natAbs).map Char.toLower ≠ "nan".toList :=
    map_toLower_ne hdigits rfl
  rw [float?, hsplit]
  simp only
  rw [if_neg (not_or.mpr ⟨hinf, hinfinity⟩), if_neg hnan, decimal?_of_digits negative hne hdigits,
    ofParts_of_digits negative hdigits (by omega), hvalue, hnegative, Binary64.ofInt]

/-! ### Numbers -/

/-- The number that stands for an integer: the integer itself if it has 64 bits, and else the
floating-point number nearest to it, if this is finite. -/
def nearest? (n : Int) : Option Number :=
  match int64? n with
  | some a => some (.integer a)
  | none => if n.natAbs < overflow then some (.float (.ofInt n)) else none

/-- Every decimal form of an integer is read as the number that stands for it. -/
theorem read?_eq_nearest? (h : Numeral n s) : read? s = nearest? n := by
  have hinteger := integer?_trim h
  rw [read?, nearest?]
  simp only [hinteger, Option.bind_some]
  cases hfits : int64? n with
  | some a => rfl
  | none =>
      have hn : n ≠ 0 := by
        rintro rfl
        cases hfits
      have hfloat : float? s.trim = some (.ofInt n) := by
        obtain ⟨sign, zeros, hsign, htrim⟩ := h.exists_trim_eq
        rw [htrim, float?_of_signOf hsign hn]
      by_cases hfinite : n.natAbs < overflow
      · have := (Binary64.ofInt_of_lt_overflow hfinite).1
        simp [hfloat, hfinite, Option.filter, this]
      · have : Binary64.ofInt n = .infinite (decide (n < 0)) :=
          Binary64.ofRatio_of_overflow_le _ (by omega)
        simp [hfloat, hfinite, this, Option.filter, Binary64.isFinite]

end SearchFilter.Number
