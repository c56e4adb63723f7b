import SearchFilter.Text.Hex

/-! # Which characters are hexadecimal digits

A number below sixteen has a lower-case digit and an upper-case one, which are the same character
for the first ten.  `hexDigit?` gives a number for its two digits and nothing for any other
character (`hexDigit?_eq_some_iff`), so two characters are read as a number exactly if both of
them are digits (`hexPair?_eq_none_iff`). -/

namespace SearchFilter.Text

variable {c high low : Char} {d : Nat} {s t : Text}

/-! ### Digits -/

/-- The character is the lower-case or the upper-case digit of the number. -/
def IsHexDigit (d : Nat) (c : Char) : Prop :=
  d < 16 ∧ (c = d.digitChar ∨ c = d.digitChar.toUpper)

instance (d : Nat) (c : Char) : Decidable (IsHexDigit d c) :=
  inferInstanceAs (Decidable (_ ∧ _))

theorem toNat_lt_of_hexDigit? (h : hexDigit? c = some d) : c.toNat < 0x80 := by
  have hle : ∀ {b : Char}, c ≤ b → c.toNat ≤ b.toNat := fun hb => hb
  unfold hexDigit? at h
  split at h
  · rename_i hc
    exact Nat.lt_of_le_of_lt (hle hc.2) (by decide)
  · split at h
    · rename_i hc
      exact Nat.lt_of_le_of_lt (hle hc.2) (by decide)
    · split at h
      · rename_i hc
        exact Nat.lt_of_le_of_lt (hle hc.2) (by decide)
      · cases h

/-- A character is read as a number exactly if it is one of the two digits of that number. -/
theorem hexDigit?_eq_some_iff : hexDigit? c = some d ↔ IsHexDigit d c := by
  constructor
  · intro h
    have hd : d < 16 := hexDigit?_lt h
    have htable : ∀ n < 0x80, ∀ m < 16, hexDigit? (Char.ofNat n) = some m →
        Char.ofNat n = m.digitChar ∨ Char.ofNat n = m.digitChar.toUpper := by decide +kernel
    have hdigit := htable c.toNat (toNat_lt_of_hexDigit? h) d hd
    rw [Char.ofNat_toNat] at hdigit
    exact ⟨hd, hdigit h⟩
  · rintro ⟨hd, hc⟩
    have htable : ∀ m < 16, hexDigit? m.digitChar = some m ∧
        hexDigit? m.digitChar.toUpper = some m := by decide
    rcases hc with rfl | rfl
    · exact (htable d hd).1
    · exact (htable d hd).2

theorem exists_isHexDigit_iff : (∃ d, IsHexDigit d c) ↔ (hexDigit? c).isSome = true := by
  rw [Option.isSome_iff_exists]
  exact exists_congr fun _ => hexDigit?_eq_some_iff.symm

/-! ### Pairs -/

theorem hexPair?_of_isHexDigit {b : UInt8} (hhigh : IsHexDigit (b.toNat / 16) high)
    (hlow : IsHexDigit (b.toNat % 16) low) : hexPair? high low = some b.toNat := by
  have hhalves : 16 * (b.toNat / 16) + b.toNat % 16 = b.toNat := Nat.div_add_mod b.toNat 16
  rw [hexPair?, hexDigit?_eq_some_iff.mpr hhigh, hexDigit?_eq_some_iff.mpr hlow]
  exact congrArg some hhalves

/-- The text begins with two hexadecimal digits. -/
def StartsWithPair (s : Text) : Prop :=
  ∃ high low rest, s = high :: low :: rest ∧ (∃ d, IsHexDigit d high) ∧ ∃ d, IsHexDigit d low

theorem startsWithPair_cons_cons : StartsWithPair (high :: low :: s) ↔
    (∃ d, IsHexDigit d high) ∧ ∃ d, IsHexDigit d low := by
  constructor
  · rintro ⟨_, _, _, heq, hhigh, hlow⟩
    simp only [List.cons.injEq] at heq
    obtain ⟨rfl, rfl, -⟩ := heq
    exact ⟨hhigh, hlow⟩
  · rintro ⟨hhigh, hlow⟩
    exact ⟨high, low, s, rfl, hhigh, hlow⟩

instance : (s : Text) → Decidable (StartsWithPair s)
  | [] => isFalse fun ⟨_, _, _, heq, _⟩ => nomatch heq
  | [_] => isFalse fun ⟨_, _, _, heq, _⟩ => nomatch heq
  | high :: low :: _ =>
    decidable_of_iff ((hexDigit? high).isSome = true ∧ (hexDigit? low).isSome = true)
      (by rw [startsWithPair_cons_cons, exists_isHexDigit_iff, exists_isHexDigit_iff])

theorem hexPair?_eq_none_iff : hexPair? high low = none ↔ ¬ StartsWithPair (high :: low :: s) := by
  rw [startsWithPair_cons_cons, exists_isHexDigit_iff, exists_isHexDigit_iff, hexPair?]
  cases hexDigit? high <;> cases hexDigit? low <;> simp

/-- What stands behind a character that is no digit does not make a pair of what stands before. -/
theorem startsWithPair_append_cons (hc : hexDigit? c = none) :
    StartsWithPair (s ++ c :: t) ↔ StartsWithPair s := by
  have hdigit : ¬ ∃ d, IsHexDigit d c := by
    rw [exists_isHexDigit_iff, hc]
    decide
  match s with
  | [] =>
      constructor
      · rintro ⟨_, _, _, heq, hhigh, -⟩
        rw [(List.cons.inj heq).1] at hdigit
        exact absurd hhigh hdigit
      · rintro ⟨_, _, _, heq, -⟩
        cases heq
  | [_] =>
      constructor
      · rintro ⟨_, _, _, heq, -, hlow⟩
        rw [(List.cons.inj (List.cons.inj heq).2).1] at hdigit
        exact absurd hlow hdigit
      · rintro ⟨_, _, _, heq, -⟩
        cases heq
  | high :: low :: s =>
      rw [List.cons_append, List.cons_append, startsWithPair_cons_cons, startsWithPair_cons_cons]

end SearchFilter.Text
