import SearchFilter.Text.Basic

/-!
# Hexadecimal digits

Digits are read in either case and written in lower case.
-/

namespace SearchFilter.Text

/-- The value of a hexadecimal digit of either case. -/
def hexDigit? (c : Char) : Option Nat :=
  if '0' ≤ c ∧ c ≤ '9' then some (c.toNat - '0'.toNat)
  else if 'a' ≤ c ∧ c ≤ 'f' then some (c.toNat - 'a'.toNat + 10)
  else if 'A' ≤ c ∧ c ≤ 'F' then some (c.toNat - 'A'.toNat + 10)
  else none

/-- The value of the pair of hexadecimal digits. -/
def hexPair? (high low : Char) : Option Nat :=
  match hexDigit? high, hexDigit? low with
  | some h, some l => some (16 * h + l)
  | _, _ => none

theorem hexDigit?_lt {c : Char} {d : Nat} (h : hexDigit? c = some d) : d < 16 := by
  simp only [hexDigit?, Char.le_def, UInt32.le_iff_toNat_le] at h
  simp only [Char.toNat] at h
  have a0 : ('0' : Char).val.toNat = 48 := rfl
  have a9 : ('9' : Char).val.toNat = 57 := rfl
  have la : ('a' : Char).val.toNat = 97 := rfl
  have lf : ('f' : Char).val.toNat = 102 := rfl
  have ua : ('A' : Char).val.toNat = 65 := rfl
  have uf : ('F' : Char).val.toNat = 70 := rfl
  rw [a0, a9, la, lf, ua, uf] at h
  split at h
  · cases h; omega
  · split at h
    · cases h; omega
    · split at h
      · cases h; omega
      · cases h

/-- Reads `count` hexadecimal digits that continue the number `n`. -/
def readHex : (count : Nat) → (n : Nat) → Text → Option (Nat × Text)
  | 0, n, s => some (n, s)
  | count + 1, n, c :: s =>
    match hexDigit? c with
    | some d => readHex count (16 * n + d) s
    | none => none
  | _ + 1, _, [] => none

/-- The lower-case hexadecimal digits of a number, without leading zeros. -/
def hexDigits (n : Nat) : Text :=
  Nat.toDigits 16 n

end SearchFilter.Text
