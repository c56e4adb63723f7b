import Mathlib.Algebra.Order.Field.Power
import Mathlib.Algebra.Order.Field.Rat
import Mathlib.Tactic.FieldSimp
import Mathlib.Tactic.NormNum
import Mathlib.Tactic.Positivity
import Mathlib.Tactic.Ring
import SearchFilter.Number.Binary64

/-! # Rounding integers

An integer that becomes a floating-point number keeps 53 binary places: it is rounded to a multiple
of its last place (`roundNat`, `roundInt`), a tie to the even one.  Rounding never turns the order
of two integers around (`roundInt_mono`), but it may make them equal.

The floating-point number nearest to an integer has the value of the rounded integer
(`ofInt_of_lt_overflow`), up to a bound half way between the greatest finite number and the next
power of two; from there on it is infinite (`ofRatio_of_overflow_le`).  Finite numbers are compared by
value (`compare?_eq_cmp`). -/

namespace SearchFilter.Binary64

variable {num num' den half k n m : Nat}

/-! ### The nearest multiple -/

theorem le_roundToEven (hden : 0 < den) (h : k * den ≤ num) : k ≤ roundToEven num den := by
  have hk : k ≤ num / den := (Nat.le_div_iff_mul_le hden).mpr h
  unfold roundToEven
  dsimp only
  split
  · exact hk
  · split
    · exact Nat.le_succ_of_le hk
    · exact Nat.le_add_right_of_le hk

theorem roundToEven_le_succ (num den : Nat) : roundToEven num den ≤ num / den + 1 := by
  unfold roundToEven
  dsimp only
  split
  · exact Nat.le_succ _
  · split
    · exact Nat.le_refl _
    · omega

theorem roundToEven_mul (k : Nat) (hden : 0 < den) : roundToEven (k * den) den = k := by
  simp [roundToEven, hden]

theorem roundToEven_mono (hden : 0 < den) (h : num ≤ num') :
    roundToEven num den ≤ roundToEven num' den := by
  rcases Nat.lt_or_eq_of_le (Nat.div_le_div_right (c := den) h) with hlt | heq
  · calc roundToEven num den ≤ num / den + 1 := roundToEven_le_succ num den
      _ ≤ num' / den := hlt
      _ ≤ roundToEven num' den := le_roundToEven hden (Nat.div_mul_le_self num' den)
  · have hmod : num % den ≤ num' % den := by
      have hnum := Nat.div_add_mod num den
      have hnum' := Nat.div_add_mod num' den
      rw [heq] at hnum
      omega
    unfold roundToEven
    dsimp only
    rw [heq]
    split_ifs <;> omega

theorem roundToEven_le (hden : 0 < den) (h : num ≤ k * den) : roundToEven num den ≤ k :=
  roundToEven_mul k hden ▸ roundToEven_mono hden h

/-- Half way between an odd multiple and the next one is rounded up. -/
theorem succ_le_roundToEven_iff (hhalf : 0 < half) (hk : k % 2 = 1) :
    k + 1 ≤ roundToEven num (2 * half) ↔ (2 * k + 1) * half ≤ num := by
  have hden : 0 < 2 * half := by omega
  have hmiddle : (2 * k + 1) * half = k * (2 * half) + half := by ring
  have hnext : (k + 1) * (2 * half) = k * (2 * half) + 2 * half := by ring
  have hsplit : num / (2 * half) * (2 * half) + num % (2 * half) = num := Nat.div_add_mod' _ _
  have hrest := Nat.mod_lt num hden
  rcases Nat.lt_trichotomy (num / (2 * half)) k with hlt | heq | hgt
  · have hle : roundToEven num (2 * half) ≤ k := (roundToEven_le_succ num _).trans hlt
    have hnum : num < k * (2 * half) := (Nat.div_lt_iff_lt_mul hden).mp hlt
    omega
  · rw [heq] at hsplit
    unfold roundToEven
    dsimp only
    rw [heq]
    split_ifs <;> omega
  · have hnum : (k + 1) * (2 * half) ≤ num := (Nat.le_div_iff_mul_le hden).mp hgt
    have hle := le_roundToEven hden hnum
    omega

/-! ### Integers -/

/-- The unit of the last of the 53 binary places that are kept of a number. -/
def lastPlace (n : Nat) : Nat := 2 ^ (n.log2 - 52)

/-- The number rounded to 53 significant binary places, a tie to the even one. -/
def roundNat (n : Nat) : Nat := roundToEven n (lastPlace n) * lastPlace n

/-- The integer rounded to 53 significant binary places, a tie to the even one. -/
def roundInt (a : Int) : Int := a.sign * roundNat a.natAbs

theorem lastPlace_pos (n : Nat) : 0 < lastPlace n := Nat.two_pow_pos _

theorem two_pow_eq_mul_lastPlace {e : Nat} (h : n.log2 ≤ e) :
    2 ^ e = 2 ^ (e - (n.log2 - 52)) * lastPlace n := by
  rw [lastPlace, ← Nat.pow_add]
  congr 1
  omega

theorem two_pow_log2_le_roundNat (hn : n ≠ 0) : 2 ^ n.log2 ≤ roundNat n := by
  have hlow : 2 ^ n.log2 ≤ n := Nat.log2_self_le hn
  rw [two_pow_eq_mul_lastPlace (Nat.le_refl n.log2)] at hlow ⊢
  exact Nat.mul_le_mul_right _ (le_roundToEven (lastPlace_pos n) hlow)

theorem roundNat_le_two_pow (n : Nat) : roundNat n ≤ 2 ^ (n.log2 + 1) := by
  have hhigh : n ≤ 2 ^ (n.log2 + 1) := Nat.le_of_lt Nat.lt_log2_self
  rw [two_pow_eq_mul_lastPlace (Nat.le_succ n.log2)] at hhigh ⊢
  exact Nat.mul_le_mul_right _ (roundToEven_le (lastPlace_pos n) hhigh)

/-- Two numbers have the same last place, or a power of two stands between them. -/
theorem roundNat_mono (h : n ≤ m) : roundNat n ≤ roundNat m := by
  by_cases hn : n = 0
  · rw [hn]
    exact Nat.zero_le _
  have hm : m ≠ 0 := by omega
  have hlog : n.log2 ≤ m.log2 := (Nat.le_log2 hm).mpr ((Nat.log2_self_le hn).trans h)
  rcases Nat.lt_or_eq_of_le hlog with hlt | heq
  · calc roundNat n ≤ 2 ^ (n.log2 + 1) := roundNat_le_two_pow n
      _ ≤ 2 ^ m.log2 := Nat.pow_le_pow_right (by decide) hlt
      _ ≤ roundNat m := two_pow_log2_le_roundNat hm
  · rw [roundNat, roundNat, lastPlace, lastPlace, heq]
    exact Nat.mul_le_mul_right _ (roundToEven_mono (Nat.two_pow_pos _) h)

theorem roundInt_natCast (n : Nat) : roundInt n = roundNat n := by
  rcases Nat.eq_zero_or_pos n with rfl | hn
  · rfl
  · rw [roundInt, Int.sign_natCast_of_ne_zero (by omega), Int.one_mul, Int.natAbs_natCast]

theorem roundInt_neg (a : Int) : roundInt (-a) = -roundInt a := by
  rw [roundInt, roundInt, Int.sign_neg, Int.natAbs_neg, Int.neg_mul]

theorem roundInt_mono {a b : Int} (h : a ≤ b) : roundInt a ≤ roundInt b := by
  have hnonneg : ∀ n : Nat, 0 ≤ roundInt n := fun n => by
    rw [roundInt_natCast]
    exact Int.natCast_nonneg _
  rcases Int.eq_nat_or_neg a with ⟨n, rfl | rfl⟩ <;> rcases Int.eq_nat_or_neg b with ⟨m, rfl | rfl⟩
  · rw [roundInt_natCast, roundInt_natCast]
    exact Int.ofNat_le.mpr (roundNat_mono (by omega))
  · obtain ⟨rfl, rfl⟩ : n = 0 ∧ m = 0 := by omega
    exact Int.le_refl _
  · rw [roundInt_neg]
    have hn := hnonneg n
    have hm := hnonneg m
    omega
  · rw [roundInt_neg, roundInt_neg, roundInt_natCast, roundInt_natCast]
    have hround : roundNat m ≤ roundNat n := roundNat_mono (by omega)
    omega

/-! ### Values -/

/-- The value of a finite number. -/
def toRat : Binary64 → ℚ
  | finite negative mantissa exponent =>
      (if negative then -1 else 1) * (mantissa * 2 ^ exponent)
  | _ => 0

theorem scaled_eq {negative : Bool} {mantissa : Nat} {exponent unit : Int} (h : unit ≤ exponent) :
    (scaled negative mantissa exponent unit : ℚ) =
      toRat (.finite negative mantissa exponent) * 2 ^ (-unit) := by
  have hpower : (2 : ℚ) ^ (exponent - unit).toNat = 2 ^ exponent * 2 ^ (-unit) := by
    rw [← zpow_natCast, Int.toNat_of_nonneg (by omega), ← zpow_add₀ (by norm_num),
      Int.sub_eq_add_neg]
  rw [scaled, toRat]
  cases negative <;> simp [hpower] <;> ring

theorem compare?_eq_cmp {x y : Binary64} (hx : x.isFinite = true) (hy : y.isFinite = true) :
    x.compare? y = some (cmp x.toRat y.toRat) := by
  cases x with
  | nan => cases hx
  | infinite s => cases hx
  | finite s m e =>
      cases y with
      | nan => cases hy
      | infinite t => cases hy
      | finite t n f =>
          have hpos : (0 : ℚ) < 2 ^ (-min e f) := by positivity
          have hcast := (Int.cast_strictMono (R := ℚ)).cmp_map_eq
            (scaled s m e (min e f)) (scaled t n f (min e f))
          rw [scaled_eq (Int.min_le_left e f), scaled_eq (Int.min_le_right e f),
            cmp_mul_pos_right hpos] at hcast
          rw [compare?, hcast, cmp_eq_compare]

/-! ### Integers as floating-point numbers -/

/-- The least integer that is too great for the finite numbers: half way between the greatest one,
`(2 ^ 53 - 1) * 2 ^ 971`, and the next power of two. -/
def overflow : Nat := (2 ^ 54 - 1) * 2 ^ 970

/-- The leading place of an integer is the first of the 53 places of its mantissa. -/
theorem binade_one (hn : n ≠ 0) : binade n 1 = (n.log2 : Int) - 52 := by
  have hone : Nat.log2 1 = 0 := by decide
  have hup : (-((n.log2 : Int) - 52)).toNat = 52 - n.log2 := by omega
  have hdown : ((n.log2 : Int) - 52).toNat = n.log2 - 52 := by omega
  have hnormal : ¬ n * 2 ^ (52 - n.log2) < 2 ^ 52 * 2 ^ (n.log2 - 52) := by
    rw [Nat.not_lt, ← Nat.pow_add]
    calc 2 ^ (52 + (n.log2 - 52))
        = 2 ^ n.log2 * 2 ^ (52 - n.log2) := by
          rw [← Nat.pow_add]
          congr 1
          omega
      _ ≤ n * 2 ^ (52 - n.log2) := Nat.mul_le_mul_right _ (Nat.log2_self_le hn)
  unfold binade
  simp only [hone, Nat.cast_zero, Int.sub_zero, hup, hdown, Nat.pow_eq, Nat.one_mul,
    if_neg hnormal, leastExponent]
  omega

/-- The mantissa of an integer before a carry. -/
def mantissa (n : Nat) : Nat := roundToEven (n * 2 ^ (52 - n.log2)) (lastPlace n)

theorem mantissa_mul (n : Nat) : (mantissa n : ℚ) * 2 ^ ((n.log2 : Int) - 52) = roundNat n := by
  rcases Nat.le_total 52 n.log2 with hwide | hnarrow
  · have hexponent : (n.log2 : Int) - 52 = ((n.log2 - 52 : Nat) : Int) := by omega
    rw [mantissa, roundNat, Nat.sub_eq_zero_of_le hwide, hexponent, zpow_natCast, lastPlace]
    simp
  · have hplace : lastPlace n = 1 := by rw [lastPlace, Nat.sub_eq_zero_of_le hnarrow, Nat.pow_zero]
    have hround : ∀ k, roundToEven k 1 = k := fun k => by
      simpa using roundToEven_mul k Nat.one_pos
    have hexponent : (n.log2 : Int) - 52 = -((52 - n.log2 : Nat) : Int) := by omega
    rw [mantissa, roundNat, hplace, hround, hround, hexponent, zpow_neg, zpow_natCast]
    push_cast
    field_simp

/-- The exponent exceeds a bound in the binades above it, and in its own one after a carry. -/
theorem exponent_le_iff (hn : n ≠ 0) (k : Nat) :
    (n.log2 : Int) - 52 + (if mantissa n = 2 ^ 53 then 1 else 0) ≤ (k : Int) + 1 ↔
      n < (2 ^ 54 - 1) * 2 ^ k := by
  have hlow : 2 ^ n.log2 ≤ n := Nat.log2_self_le hn
  have hhigh : n < 2 ^ (n.log2 + 1) := Nat.lt_log2_self
  have hunit : 0 < 2 ^ k := Nat.two_pow_pos k
  rcases Nat.lt_trichotomy n.log2 (53 + k) with hlt | heq | hgt
  · have hpow : 2 ^ (n.log2 + 1) ≤ 2 ^ (53 + k) := Nat.pow_le_pow_right (by decide) hlt
    rw [Nat.pow_add 2 53] at hpow
    refine iff_of_true ?_ (by omega)
    split <;> omega
  · have hmantissa : mantissa n = roundToEven n (2 * 2 ^ k) := by
      have hplace : 53 + k - 52 = k + 1 := by omega
      have hwide : 52 - (53 + k) = 0 := by omega
      rw [mantissa, lastPlace, heq, hplace, hwide, Nat.pow_zero, Nat.mul_one, Nat.pow_succ']
    have hcarry : 2 ^ 53 - 1 + 1 ≤ roundToEven n (2 * 2 ^ k) ↔ (2 * (2 ^ 53 - 1) + 1) * 2 ^ k ≤ n :=
      succ_le_roundToEven_iff hunit (by decide)
    have hle : roundToEven n (2 * 2 ^ k) ≤ 2 ^ 53 := by
      rw [heq, Nat.add_right_comm, Nat.pow_add] at hhigh
      exact roundToEven_le (by omega) (by omega)
    rw [hmantissa, heq]
    split <;> omega
  · have hpow : 2 ^ (54 + k) ≤ 2 ^ n.log2 := Nat.pow_le_pow_right (by decide) (by omega)
    rw [Nat.pow_add] at hpow
    refine iff_of_false ?_ (by omega)
    split <;> omega

/-- A positive integer becomes a finite number of its rounded value, or an infinite one. -/
theorem ofRatio_one (negative : Bool) (hn : n ≠ 0) : ∃ (m : Nat) (e : Int),
    (m : ℚ) * 2 ^ e = roundNat n ∧ (e ≤ greatestExponent ↔ n < overflow) ∧
      ofRatio negative n 1 =
        if greatestExponent < e then .infinite negative else .finite negative m e := by
  have hup : (-((n.log2 : Int) - 52)).toNat = 52 - n.log2 := by omega
  have hdown : ((n.log2 : Int) - 52).toNat = n.log2 - 52 := by omega
  have hvalue := mantissa_mul n
  have hexponent : _ ≤ greatestExponent ↔ n < overflow := exponent_le_iff hn 970
  have hunfold : ofRatio negative n 1 =
      let r := if mantissa n = 2 ^ 53 then (2 ^ 52, (n.log2 : Int) - 52 + 1)
        else (mantissa n, (n.log2 : Int) - 52)
      if greatestExponent < r.2 then .infinite negative else .finite negative r.1 r.2 := by
    simp only [ofRatio, if_neg hn, binade_one hn, hup, hdown, Nat.pow_eq, Nat.one_mul, mantissa,
      lastPlace]
    rfl
  by_cases hcarry : mantissa n = 2 ^ 53
  · rw [if_pos hcarry] at hexponent hunfold
    refine ⟨2 ^ 52, (n.log2 : Int) - 52 + 1, ?_, hexponent, hunfold⟩
    rw [← hvalue, hcarry, zpow_add_one₀ (by norm_num)]
    push_cast
    ring
  · rw [if_neg hcarry] at hexponent hunfold
    exact ⟨mantissa n, (n.log2 : Int) - 52, hvalue, by simpa using hexponent, hunfold⟩

theorem ofRatio_of_overflow_le (negative : Bool) (h : overflow ≤ n) :
    ofRatio negative n 1 = .infinite negative := by
  have hpos : 0 < overflow := by
    rw [overflow]
    positivity
  obtain ⟨m, e, -, he, heq⟩ := ofRatio_one negative (n := n) (by omega)
  rw [heq, if_pos (by omega)]

/-- An integer in the range of the finite numbers becomes one of its rounded value. -/
theorem ofInt_of_lt_overflow {a : Int} (h : a.natAbs < overflow) :
    (ofInt a).isFinite = true ∧ (ofInt a).toRat = roundInt a := by
  by_cases ha : a = 0
  · subst ha
    exact ⟨rfl, by simp [ofInt, ofRatio, zero, toRat, roundInt]⟩
  · obtain ⟨m, e, hvalue, he, heq⟩ := ofRatio_one (decide (a < 0)) (n := a.natAbs) (by omega)
    rw [ofInt, heq, if_neg (by omega)]
    refine ⟨rfl, ?_⟩
    rw [toRat, hvalue, roundInt]
    rcases Int.lt_or_gt_of_ne ha with hneg | hpos
    · simp [hneg, Int.sign_eq_neg_one_of_neg hneg]
    · simp [Int.sign_eq_one_of_pos hpos, not_lt_of_gt hpos]

end SearchFilter.Binary64
