import SearchFilter.Number.Read
import SearchFilter.Text.Hex
import SearchFilter.Toml.Basic

/-!
# Plain TOML values

Numbers, dates and the words for truth values are written without brackets or quotes.  Such a value
is a run of token characters (`isTokenChar`), which as a whole must be one of them (`ofToken?`).
-/

namespace SearchFilter.Toml

/-- Whether a character may occur in a plain value. -/
def isTokenChar (c : Char) : Bool :=
  c.isAlphanum || c == '+' || c == '-' || c == '_' || c == '.' || c == ':'

/-! ### Numbers -/

/-- The digits of a run in which single underscores may stand between digits. -/
def digits? (isDigit : Char → Bool) (s : Text) : Option Text :=
  let pieces := Text.splitOn '_' s
  if pieces.all fun piece => !piece.isEmpty && piece.all isDigit then some pieces.flatten else none

/-- The digits of the whole part of a number, in which no zero comes first but zero itself. -/
def wholeDigits? (s : Text) : Option Text :=
  (digits? Number.isDigit s).filter fun ds => ds.length ≤ 1 || ds.head? != some '0'

/-- The integer that the digits denote in a base, if all of them are digits of it. -/
def inBase? (base : Nat) (s : Text) : Option Int :=
  let isDigit (c : Char) : Bool := (Text.hexDigit? c).any (· < base)
  (digits? isDigit s).map fun ds =>
    ((ds.foldl (fun n c => base * n + (Text.hexDigit? c).getD 0) 0 : Nat) : Int)

/-- The integer that a token denotes, of whatever size. -/
def integerOf? : Text → Option Int
  | '0' :: 'x' :: s => inBase? 16 s
  | '0' :: 'o' :: s => inBase? 8 s
  | '0' :: 'b' :: s => inBase? 2 s
  | s =>
    let (negative, ds) := Number.splitSign s
    (wholeDigits? ds).map fun ds => Number.signed negative (Number.ofDigits ds)

/-- Whether a token is an exponent part: a letter, an optional sign and digits. -/
def isExponent : Text → Bool
  | c :: s => (c == 'e' || c == 'E') && (digits? Number.isDigit (Number.splitSign s).2).isSome
  | [] => false

/-- Whether a token, after its sign, has the form of a number with a fraction or an exponent. -/
def hasFloatForm (s : Text) : Bool :=
  let inWhole (c : Char) : Bool := Number.isDigit c || c == '_'
  (wholeDigits? (s.takeWhile inWhole)).isSome &&
    match s.dropWhile inWhole with
    | '.' :: r =>
      (digits? Number.isDigit (r.takeWhile inWhole)).isSome &&
        ((r.dropWhile inWhole).isEmpty || isExponent (r.dropWhile inWhole))
    | r => isExponent r

/-- Whether a token is a number with a fraction or an exponent; none is so large as to be
infinite. -/
def isFloat (s : Text) : Bool :=
  let unsigned := (Number.splitSign s).2
  unsigned == "inf".toList || unsigned == "nan".toList ||
    hasFloatForm unsigned && Number.float? (s.filter (· != '_')) != some (.infinite false)

/-! ### Dates and times -/

/-- Reads a number of exactly `count` digits that lies between two bounds. -/
def readField (count least greatest : Nat) (s : Text) : Option (Nat × Text) :=
  let ds := s.take count
  let n := Number.ofDigits ds
  if ds.length = count ∧ ds.all Number.isDigit ∧ least ≤ n ∧ n ≤ greatest then
    some (n, s.drop count)
  else none

/-- The number of days of a month. -/
def daysOf (year month : Nat) : Nat :=
  if month = 2 then
    if year % 4 = 0 ∧ (year % 100 ≠ 0 ∨ year % 400 = 0) then 29 else 28
  else if month = 4 ∨ month = 6 ∨ month = 9 ∨ month = 11 then 30
  else 31

def skipChar (c : Char) : Text → Option Text
  | [] => none
  | d :: s => if d = c then some s else none

def skipDate (s : Text) : Option Text := do
  let (year, s) ← readField 4 0 9999 s
  let (month, s) ← readField 2 1 12 (← skipChar '-' s)
  let (_, s) ← readField 2 1 (daysOf year month) (← skipChar '-' s)
  return s

/-- Skips a time: hour, minute, second and an optional fraction. -/
def skipTime (s : Text) : Option Text := do
  let (_, s) ← readField 2 0 23 s
  let (_, s) ← readField 2 0 59 (← skipChar ':' s)
  let (_, s) ← readField 2 0 60 (← skipChar ':' s)
  match s with
  | '.' :: s =>
    if (s.head?.map Number.isDigit).getD false then return s.dropWhile Number.isDigit else none
  | s => return s

/-- Whether a text is an offset from universal time, or nothing. -/
def isOffset : Text → Bool
  | [] => true
  | c :: s =>
    if c = 'Z' ∨ c = 'z' then s.isEmpty
    else if c = '+' ∨ c = '-' then
      let rest := do
        let (_, s) ← readField 2 0 23 s
        let (_, s) ← readField 2 0 59 (← skipChar ':' s)
        return s
      rest == some []
    else false

/-- Whether a text is a date, a time, or a date and a time with an optional offset. -/
def isDate (s : Text) : Bool :=
  skipTime s == some [] ||
    match skipDate s with
    | none => false
    | some [] => true
    | some (c :: s) => (c == 'T' || c == 't' || c == ' ') && (skipTime s).any isOffset

/-! ### Tokens -/

/-- The value that a token is. -/
def ofToken? (s : Text) : Option Toml :=
  if s = "true".toList then some (.boolean true)
  else if s = "false".toList then some (.boolean false)
  else match integerOf? s with
    | some n => (Number.int64? n).map fun n => .integer n.toInt
    | none =>
      if isFloat s then some (.float s) else if isDate s then some (.date s) else none

/-- Splits a token off.  A date and a time of day may have a space between them, which is then part
of the token. -/
def splitToken (s : Text) : Text × Text :=
  let token := s.takeWhile isTokenChar
  match s.dropWhile isTokenChar with
  | ' ' :: c :: r =>
    if Number.isDigit c && skipDate token == some [] then
      (token ++ ' ' :: (c :: r).takeWhile isTokenChar, (c :: r).dropWhile isTokenChar)
    else (token, ' ' :: c :: r)
  | r => (token, r)

end SearchFilter.Toml
