import SearchFilter.Number.Binary64

/-!
# Shortest decimals

`shortest` gives the decimal with the fewest digits among those that round to a given number.
The numbers that round to `m * 2 ^ e` form an interval around it (`Rounding`), which contains its
ends exactly when `m` is even.  For one digit, two, and so on, the two neighbours of the number on
the grid of decimals with that many digits are tried; the first grid with a hit wins, and of two
hits the nearer one.  Of two equally near hits a `TieRule` chooses.

All arithmetic is exact: lengths are in quarters of the last binary place and both sides of a
comparison are multiplied out.
-/

namespace SearchFilter.Binary64

/-- Which of two equally near decimals is taken. -/
inductive TieRule where
  | greater
  | even
  deriving DecidableEq

/-- The number `digits * 10 ^ exponent`. -/
structure Decimal where
  digits : Nat
  exponent : Int
  deriving DecidableEq

def digitCount (n : Nat) : Nat :=
  (Nat.toDigits 10 n).length

/-- The exponent of the leading decimal digit of `m * 2 ^ e`, for a positive `m`. -/
def leadingExponent (m : Nat) (e : Int) : Int :=
  let num := m * Nat.pow 2 e.toNat
  let den := Nat.pow 2 (-e).toNat
  if den ≤ num then digitCount (num / den) - 1 else -digitCount ((den - 1) / num)

/-- The decimals that round to a number, in quarters of its last binary place. -/
structure Rounding where
  low : Nat
  value : Nat
  high : Nat
  closed : Bool

/-- The interval of `m * 2 ^ e`; below a power of two the next number is only half as far. -/
def Rounding.of (m : Nat) (e : Int) : Rounding :=
  ⟨if m = Nat.pow 2 52 ∧ leastExponent < e then 4 * m - 1 else 4 * m - 2, 4 * m, 4 * m + 2,
    m % 2 = 0⟩

/-- Whether `num / den` quarters lie in the interval. -/
def Rounding.contains (r : Rounding) (num den : Nat) : Bool :=
  if r.closed then r.low * den ≤ num && num ≤ r.high * den
  else r.low * den < num && num < r.high * den

/-- The nearest multiple of `10 ^ k` that rounds to `m * 2 ^ e`, if one of its neighbours does. -/
def onGrid (tie : TieRule) (m : Nat) (e k : Int) : Option Decimal :=
  let num := Nat.pow 10 k.toNat * Nat.pow 2 (2 - e).toNat
  let den := Nat.pow 10 (-k).toNat * Nat.pow 2 (e - 2).toNat
  let r := Rounding.of m e
  let below := r.value * den / num
  let above := below + 1
  match r.contains (below * num) den, r.contains (above * num) den with
  | false, false => none
  | true, false => some ⟨below, k⟩
  | false, true => some ⟨above, k⟩
  | true, true =>
    let down := r.value * den - below * num
    let up := above * num - r.value * den
    if down < up then some ⟨below, k⟩
    else if up < down then some ⟨above, k⟩
    else match tie with
      | .greater => some ⟨above, k⟩
      | .even => some ⟨if below % 2 = 0 then below else above, k⟩

/-- The decimal with trailing zeros moved into the exponent, up to `count` of them. -/
def Decimal.normalized : (count : Nat) → Decimal → Decimal
  | 0, d => d
  | count + 1, d =>
    if d.digits ≠ 0 ∧ d.digits % 10 = 0 then
      Decimal.normalized count ⟨d.digits / 10, d.exponent + 1⟩
    else d

/-- The shortest decimal that rounds to `m * 2 ^ e`; seventeen digits always suffice. -/
def shortest (tie : TieRule) (m : Nat) (e : Int) : Decimal :=
  let leading := leadingExponent m e
  let hit := (List.range 17).findSome? fun (n : Nat) => onGrid tie m e (leading - n)
  (hit.getD ⟨0, 0⟩).normalized 17

end SearchFilter.Binary64
