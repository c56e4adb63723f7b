import SearchFilter.Number.Binary64
import SearchFilter.Text.Basic

/-!
# Reading numbers

`integer?` reads a decimal integer: digits after an optional sign.  `float?` reads a decimal
floating-point number: a sign, digits with an optional point among, before or after them, and an
optional exponent; or a sign and one of the words for infinity and NaN in any case.  `number?` is
the reading that ordering uses: blanks around the number are skipped, an integer of 64 bits is kept
exactly, and everything else becomes a finite floating-point number or is no number at all.
-/

namespace SearchFilter.Number

def digit? (c : Char) : Option Nat :=
  if '0' ≤ c ∧ c ≤ '9' then some (c.toNat - '0'.toNat) else none

def isDigit (c : Char) : Bool :=
  (digit? c).isSome

/-- The number that a run of digits denotes, most significant first. -/
def ofDigits (ds : Text) : Nat :=
  ds.foldl (fun n c => 10 * n + (digit? c).getD 0) 0

/-- Splits an optional sign off: whether it was a minus, and the rest. -/
def splitSign : Text → Bool × Text
  | '-' :: s => (true, s)
  | '+' :: s => (false, s)
  | s => (false, s)

/-- The integer that the sign and the magnitude give. -/
def signed (negative : Bool) (n : Nat) : Int :=
  if negative then -n else n

/-- Reads an integer of any size. -/
def integer? (s : Text) : Option Int :=
  let (negative, ds) := splitSign s
  if ds.isEmpty || !ds.all isDigit then none
  else some (signed negative (ofDigits ds))

/-- The integer as one of 64 bits, if it is in their range. -/
def int64? (n : Int) : Option Int64 :=
  if Int64.minValue.toInt ≤ n ∧ n ≤ Int64.maxValue.toInt then some (Int64.ofInt n) else none

/-- Reads the exponent part of a number, nothing at all being exponent zero. -/
def exponent? : Text → Option Int
  | [] => some 0
  | c :: s => if c = 'e' ∨ c = 'E' then integer? s else none

/-- The number with the given digits before and after its point, times a power of ten. -/
def ofParts (negative : Bool) (whole fraction : Text) (exponent : Int) : Binary64 :=
  let ds := (whole ++ fraction).dropWhile (· == '0')
  Binary64.ofDecimal negative (ofDigits ds) ds.length (exponent - fraction.length)

/-- Reads digits with an optional point and exponent. -/
def decimal? (negative : Bool) (s : Text) : Option Binary64 :=
  let whole := s.takeWhile isDigit
  let (fraction, rest) := match s.dropWhile isDigit with
    | '.' :: r => (r.takeWhile isDigit, r.dropWhile isDigit)
    | r => ([], r)
  if whole.isEmpty && fraction.isEmpty then none
  else (exponent? rest).map (ofParts negative whole fraction)

def float? (s : Text) : Option Binary64 :=
  let (negative, r) := splitSign s
  let word := r.map Char.toLower
  if word = "inf".toList ∨ word = "infinity".toList then some (.infinite negative)
  else if word = "nan".toList then some .nan
  else decimal? negative r

end SearchFilter.Number

namespace SearchFilter

/-- A number as ordering sees it. -/
inductive Number where
  | integer (n : Int64)
  | float (x : Binary64)
  deriving DecidableEq

namespace Number

/-- Reads a number with blanks around it: an integer of 64 bits, or else a finite floating-point
number. -/
def read? (s : Text) : Option Number :=
  let s := s.trim
  match (integer? s).bind int64? with
  | some n => some (.integer n)
  | none => ((float? s).filter Binary64.isFinite).map .float

def toBinary64 : Number → Binary64
  | integer n => .ofInt n.toInt
  | float x => x

/-- Two integers are compared exactly, any other two numbers as floating-point numbers. -/
def compare? : Number → Number → Option Ordering
  | integer a, integer b => some (compare a.toInt b.toInt)
  | x, y => x.toBinary64.compare? y.toBinary64

end Number
end SearchFilter
