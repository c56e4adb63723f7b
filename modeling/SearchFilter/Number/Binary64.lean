/-!
# Binary floating-point numbers

The numbers of the IEEE 754 format binary64.  A finite number is a sign, a mantissa below `2 ^ 53`
and an exponent of two between `-1074` and `971`; the mantissa is at least `2 ^ 52` unless the
exponent is the least one.  `ofRatio` rounds an exact fraction to the nearest of these numbers, a
tie to the even mantissa; it is the only way in which the library makes one.

Numbers are compared exactly (`compare?`), which leaves a pair with a NaN undecided.
-/

namespace SearchFilter

/-- A number of the binary64 format; the payload of a NaN is not kept. -/
inductive Binary64 where
  | nan
  | infinite (negative : Bool)
  | finite (negative : Bool) (mantissa : Nat) (exponent : Int)
  deriving DecidableEq

namespace Binary64

/-- The exponent of the least numbers. -/
def leastExponent : Int := -1074

/-- The exponent of the greatest numbers. -/
def greatestExponent : Int := 971

def zero (negative : Bool) : Binary64 :=
  .finite negative 0 leastExponent

/-- The integer nearest to `num / den`, the even one of two equally near. -/
def roundToEven (num den : Nat) : Nat :=
  let q := num / den
  let r := num % den
  if 2 * r < den then q else if den < 2 * r then q + 1 else q + q % 2

/-- The exponent of the binade of `num / den`, at least that of the least numbers. -/
def binade (num den : Nat) : Int :=
  let e : Int := (num.log2 : Int) - den.log2 - 52
  let e :=
    if num * Nat.pow 2 (-e).toNat < Nat.pow 2 52 * (den * Nat.pow 2 e.toNat) then e - 1 else e
  max e leastExponent

/-- The number nearest to `num / den`, infinite beyond the greatest finite one. -/
def ofRatio (negative : Bool) (num den : Nat) : Binary64 :=
  if num = 0 then zero negative
  else
    let e := binade num den
    let m := roundToEven (num * Nat.pow 2 (-e).toNat) (den * Nat.pow 2 e.toNat)
    let (m, e) := if m = Nat.pow 2 53 then (Nat.pow 2 52, e + 1) else (m, e)
    if greatestExponent < e then .infinite negative else .finite negative m e

def ofInt (n : Int) : Binary64 :=
  ofRatio (decide (n < 0)) n.natAbs 1

/-- The number nearest to `digits * 10 ^ exponent`, where `digits` has `count` decimal digits.
Exponents far outside the format decide the answer by themselves. -/
def ofDecimal (negative : Bool) (digits count : Nat) (exponent : Int) : Binary64 :=
  if digits = 0 then zero negative
  else if 400 < exponent + count then .infinite negative
  else if exponent + count < -400 then zero negative
  else ofRatio negative (digits * Nat.pow 10 exponent.toNat) (Nat.pow 10 (-exponent).toNat)

/-- Whether the number is neither infinite nor a NaN. -/
def isFinite : Binary64 → Bool
  | finite .. => true
  | _ => false

/-- The value of a finite number in units of `2 ^ unit`, where `unit` is at most its exponent. -/
def scaled (negative : Bool) (mantissa : Nat) (exponent unit : Int) : Int :=
  let n : Int := mantissa * Nat.pow 2 (exponent - unit).toNat
  if negative then -n else n

/-- The order of two numbers by value, undecided when one is a NaN. -/
def compare? : Binary64 → Binary64 → Option Ordering
  | nan, _ => none
  | _, nan => none
  | infinite s, infinite t => some (compare t s)
  | infinite s, finite .. => some (if s then .lt else .gt)
  | finite .., infinite t => some (if t then .gt else .lt)
  | finite s m e, finite t n f =>
    let unit := min e f
    some (compare (scaled s m e unit) (scaled t n f unit))

end Binary64
end SearchFilter
