import SearchFilter.Json.Basic
import SearchFilter.Number.Read
import SearchFilter.Text.Identifier

/-!
# Reading relaxed JSON

The reader accepts JSON with the comforts of JSON5: comments, a comma after the last item, names
without quotes, strings in single quotes and over several lines, hexadecimal integers, a plus sign,
a point at either end of a number, and infinities and NaN, which become null.

A number written with neither point nor exponent is an integer, if it fits into 64 bits with or
without a sign; any other is a floating-point number, and null where it is too large for one.
A hexadecimal integer that does not fit into 128 bits is malformed.  Of several members with one
name an object keeps the last.

A reader takes a text and returns what it has read with the rest of the text, or nothing if the text
is malformed.
-/

namespace SearchFilter.Json.Relaxed

/-! ### Blanks and comments -/

/-- Whether a character ends a line. -/
def isLineEnd (c : Char) : Bool :=
  c == '\n' || c == '\r' || c == '\u2028' || c == '\u2029'

/-- Whether a character may stand between tokens. -/
def isSpace (c : Char) : Bool :=
  Text.isBlank c && c != '\u0085' || c == '\ufeff'

/-- Where between two tokens a reader is. -/
inductive Gap where
  | blanks
  | lineComment
  | blockComment

/-- Skips blanks and comments. -/
def skipGap : Gap → Text → Option Text
  | .blanks, [] => some []
  | .blanks, '/' :: '/' :: s => skipGap .lineComment s
  | .blanks, '/' :: '*' :: s => skipGap .blockComment s
  | .blanks, c :: s => if isSpace c then skipGap .blanks s else some (c :: s)
  | .lineComment, [] => some []
  | .lineComment, c :: s => if isLineEnd c then skipGap .blanks s else skipGap .lineComment s
  | .blockComment, '*' :: '/' :: s => skipGap .blanks s
  | .blockComment, _ :: s => skipGap .blockComment s
  | .blockComment, [] => none

/-- Skips blanks and comments before a token. -/
def skip (s : Text) : Option Text :=
  skipGap .blanks s

/-! ### Strings and names -/

/-- Reads the four digits of a `\u` escape, and those of a second one that must follow a high
surrogate. -/
def readUnicodeEscape (s : Text) : Option (Char × Text) := do
  let (n, rest) ← Text.readHex 4 0 s
  if 0xD800 ≤ n ∧ n < 0xDC00 then
    match rest with
    | '\\' :: 'u' :: rest =>
      let (m, rest) ← Text.readHex 4 0 rest
      if 0xDC00 ≤ m ∧ m < 0xE000 then
        return (Char.ofNat (0x10000 + 0x400 * (n - 0xD800) + (m - 0xDC00)), rest)
      else none
    | _ => none
  else if 0xDC00 ≤ n ∧ n < 0xE000 then none
  else return (Char.ofNat n, rest)

/-- The character that a letter stands for after a backslash. -/
def simpleEscape (c : Char) : Char :=
  if c = 'b' then '\x08'
  else if c = 'f' then '\x0c'
  else if c = 'n' then '\n'
  else if c = 'r' then '\r'
  else if c = 't' then '\t'
  else if c = 'v' then '\x0b'
  else c

/-- Reads what follows a backslash in a string: the character it denotes, or none where the string
goes on in the next line. -/
def readEscape : Text → Option (Option Char × Text)
  | [] => none
  | '\r' :: '\n' :: s => some (none, s)
  | 'u' :: s => (readUnicodeEscape s).map fun (c, rest) => (some c, rest)
  | 'x' :: s => (Text.readHex 2 0 s).map fun (n, rest) => (some (Char.ofNat n), rest)
  | '0' :: s =>
    if (s.head?.map Number.isDigit).getD false then none else some (some '\x00', s)
  | c :: s =>
    if isLineEnd c then some (none, s)
    else if Number.isDigit c then none
    else some (some (simpleEscape c), s)

/-- Reads the rest of a string up to the quote that opened it.  Every step uses up some of the text,
so a `budget` as long as the text is never spent. -/
def readQuoted (quote : Char) : (budget : Text) → Text → Option (Text × Text)
  | [], _ => none
  | _ :: _, [] => none
  | _ :: budget, c :: s =>
    if c = quote then some ([], s)
    else if c = '\\' then do
      let (escaped, rest) ← readEscape s
      let (t, rest) ← readQuoted quote budget rest
      return (escaped.toList ++ t, rest)
    else if c = '\n' ∨ c = '\r' then none
    else (readQuoted quote budget s).map fun (t, rest) => (c :: t, rest)

def beginsName (c : Char) : Bool :=
  c == '$' || c == '_' || Text.isLetter c

def continuesName (c : Char) : Bool :=
  beginsName c || Text.isContinuation c || c == '\u200c' || c == '\u200d'

/-- Reads a name as far as it goes; `first` says which characters may come next.  Every step uses up
some of the text, so a `budget` as long as the text is never spent. -/
def readName (first : Char → Bool) : (budget : Text) → Text → Option (Text × Text)
  | _ :: budget, '\\' :: s =>
    match s with
    | 'u' :: s => do
      let (c, rest) ← readUnicodeEscape s
      if !first c then none
      let (t, rest) ← readName continuesName budget rest
      return (c :: t, rest)
    | _ => none
  | _ :: budget, c :: s =>
    if first c then (readName continuesName budget s).map fun (t, rest) => (c :: t, rest)
    else some ([], c :: s)
  | _, s => some ([], s)

/-- Reads the name of a member. -/
def readKey : Text → Option (Text × Text)
  | '"' :: s => readQuoted '"' s s
  | '\'' :: s => readQuoted '\'' s s
  | s =>
    match readName beginsName s s with
    | some ([], _) => none
    | r => r

/-! ### Numbers -/

/-- The number that a floating-point value denotes; null stands for what is not finite. -/
def ofFloat (x : Binary64) : Json :=
  if x.isFinite then .float x else .null

/-- The number that an integer denotes: itself if it fits into 64 bits. -/
def ofInteger (n : Int) : Json :=
  if Int64.minValue.toInt ≤ n ∧ n < UInt64.size then .integer n else ofFloat (.ofInt n)

/-- Reads the digits of a hexadecimal integer of 128 bits, at least one. -/
def readHexInteger (negative : Bool) (s : Text) : Option (Json × Text) :=
  let ds := s.takeWhile fun c => (Text.hexDigit? c).isSome
  if ds.isEmpty then none
  else
    let n := Number.signed negative (ds.foldl (fun n c => 16 * n + (Text.hexDigit? c).getD 0) 0)
    if -Nat.pow 2 127 ≤ n ∧ n < Nat.pow 2 128 then some (ofInteger n, s.drop ds.length) else none

/-- Splits an exponent part off: a letter, an optional sign and digits. -/
def splitExponent : Text → Option (Text × Text)
  | [] => some ([], [])
  | c :: s =>
    if c = 'e' ∨ c = 'E' then
      let (sign, r) := match s with
        | '+' :: r => (['+'], r)
        | '-' :: r => (['-'], r)
        | r => ([], r)
      let ds := r.takeWhile Number.isDigit
      if ds.isEmpty then none else some (c :: sign ++ ds, r.drop ds.length)
    else some ([], c :: s)

/-- Splits a point and the digits after it off, if there is a point. -/
def splitFraction : Text → Option Text × Text
  | '.' :: s => (some (s.takeWhile Number.isDigit), s.dropWhile Number.isDigit)
  | s => (none, s)

/-- Reads a decimal number without its sign.  No zero may begin its whole part but zero itself. -/
def readDecimal (negative : Bool) (s : Text) : Option (Json × Text) := do
  let whole := match s with
    | '0' :: _ => ['0']
    | s => s.takeWhile Number.isDigit
  let (fraction, rest) := splitFraction (s.drop whole.length)
  if whole.isEmpty && (fraction.getD []).isEmpty then none
  let (exponent, rest) ← splitExponent rest
  if fraction.isNone && exponent.isEmpty then
    return (ofInteger (Number.signed negative (Number.ofDigits whole)), rest)
  let e ← Number.exponent? exponent
  return (ofFloat (Number.ofParts negative whole (fraction.getD []) e), rest)

/-- Reads a number without its sign. -/
def readUnsigned (negative : Bool) (s : Text) : Option (Json × Text) :=
  match Text.dropPrefix? "Infinity".toList s, Text.dropPrefix? "NaN".toList s with
  | some rest, _ => some (.null, rest)
  | _, some rest => some (.null, rest)
  | none, none =>
    match s with
    | '0' :: 'x' :: rest => readHexInteger negative rest
    | '0' :: 'X' :: rest => readHexInteger negative rest
    | s => readDecimal negative s

def readNumber : Text → Option (Json × Text)
  | '-' :: s => readUnsigned true s
  | '+' :: s => readUnsigned false s
  | s => readUnsigned false s

/-! ### Values -/

abbrev ValueReader := Text → Option (Json × Text)

/-- Reads the items of an array up to its bracket.  Each item uses up some of the text, so a `budget`
as long as the text is never spent. -/
def readItems (read : ValueReader) : (budget : Text) → Text → Option (List Json × Text)
  | [], _ => none
  | _ :: budget, s =>
    match s with
    | ']' :: rest => some ([], rest)
    | s => do
      let (j, rest) ← read s
      match ← skip rest with
      | ']' :: rest => return ([j], rest)
      | ',' :: rest =>
        let (js, rest) ← readItems read budget (← skip rest)
        return (j :: js, rest)
      | _ => none

/-- Reads a member: its name, a colon and its value. -/
def readMember (read : ValueReader) (s : Text) : Option ((Text × Json) × Text) := do
  let (name, rest) ← readKey s
  match ← skip rest with
  | ':' :: rest =>
    let (j, rest) ← read (← skip rest)
    return ((name, j), rest)
  | _ => none

/-- Reads the members of an object up to its brace.  Each member uses up some of the text, so a
`budget` as long as the text is never spent. -/
def readMembers (read : ValueReader) :
    (budget : Text) → Text → Option (List (Text × Json) × Text)
  | [], _ => none
  | _ :: budget, s =>
    match s with
    | '\x7d' :: rest => some ([], rest)
    | s => do
      let (m, rest) ← readMember read s
      match ← skip rest with
      | '\x7d' :: rest => return ([m], rest)
      | ',' :: rest =>
        let (ms, rest) ← readMembers read budget (← skip rest)
        return (m :: ms, rest)
      | _ => none

/-- Reads one of the words that are values, or a number. -/
def readWord (s : Text) : Option (Json × Text) :=
  match Text.dropPrefix? "null".toList s, Text.dropPrefix? "true".toList s,
      Text.dropPrefix? "false".toList s with
  | some rest, _, _ => some (.null, rest)
  | _, some rest, _ => some (.boolean true, rest)
  | _, _, some rest => some (.boolean false, rest)
  | none, none, none => readNumber s

/-- Reads a value that nests at most `room` deep. -/
def readValue : (room : Nat) → ValueReader
  | 0, _ => none
  | room + 1, s =>
    match s with
    | '[' :: rest => do
      let (items, rest) ← readItems (readValue room) s (← skip rest)
      return (.array items, rest)
    | '\x7b' :: rest => do
      let (members, rest) ← readMembers (readValue room) s (← skip rest)
      return (.object (Bindings.ofList members), rest)
    | '"' :: rest => (readQuoted '"' rest rest).map fun (t, rest) => (.string t, rest)
    | '\'' :: rest => (readQuoted '\'' rest rest).map fun (t, rest) => (.string t, rest)
    | s => readWord s

/-- The value that a text holds, if it is well formed.  A text cannot nest deeper than it is long. -/
def parse (s : Text) : Option Json := do
  let (j, rest) ← readValue (s.length + 1) (← skip s)
  if (← skip rest).isEmpty then return j else none

end SearchFilter.Json.Relaxed
