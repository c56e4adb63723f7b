import SearchFilter.Toml.Scalar

/-!
# Reading TOML

A document is a sequence of lines: keys with their values, headers of tables, and comments.  Reading
goes through the lines in order and enters each value into the table that the last header has opened.

A reader takes a text and returns what it has read with the rest of the text, or nothing if the text
is malformed.  Where a reader repeats, every step uses up some of the text, so that a `budget` as
long as the text is never spent.
-/

namespace SearchFilter.Toml

/-! ### Blanks, comments and line ends -/

/-- Whether a character is a blank within a line. -/
def isBlank (c : Char) : Bool :=
  c == ' ' || c == '\t'

/-- Skips blanks within a line. -/
def skipBlanks (s : Text) : Text :=
  s.dropWhile isBlank

/-- Whether a character may stand in a comment or a string: no control character but the tab. -/
def isPlain (c : Char) : Bool :=
  c == '\t' || (0x20 ≤ c.toNat && c.toNat != 0x7F)

def skipNewline : Text → Option Text
  | '\n' :: s => some s
  | '\r' :: '\n' :: s => some s
  | _ => none

/-- Skips a comment, if one begins here. -/
def skipComment : Text → Text
  | '#' :: s => s.dropWhile isPlain
  | s => s

/-- Skips what may follow a key with its value or a header: blanks, a comment and the end of the line
or of the text. -/
def skipLineEnd (s : Text) : Option Text :=
  match skipComment (skipBlanks s) with
  | [] => some []
  | s => skipNewline s

/-- Skips blanks, comments and line ends between the items of an array. -/
def skipLines : (budget : Text) → Text → Text
  | [], s => s
  | _ :: budget, s =>
    let r := skipComment (skipBlanks s)
    match skipNewline r with
    | some r => skipLines budget r
    | none => r

/-! ### Strings -/

/-- Reads a code point of `count` hexadecimal digits. -/
def readCodePoint (count : Nat) (s : Text) : Option (Char × Text) :=
  match Text.readHex count 0 s with
  | some (n, rest) => if n.isValidChar then some (Char.ofNat n, rest) else none
  | none => none

/-- Reads what follows a backslash. -/
def readEscape : Text → Option (Char × Text)
  | 'b' :: s => some ('\x08', s)
  | 't' :: s => some ('\t', s)
  | 'n' :: s => some ('\n', s)
  | 'f' :: s => some ('\x0c', s)
  | 'r' :: s => some ('\r', s)
  | '"' :: s => some ('"', s)
  | '\\' :: s => some ('\\', s)
  | 'u' :: s => readCodePoint 4 s
  | 'U' :: s => readCodePoint 8 s
  | _ => none

/-- Reads the rest of a string on one line, with escapes if it is in double quotes. -/
def readString (quote : Char) : (budget : Text) → Text → Option (Text × Text)
  | _ :: budget, c :: s =>
    if c = quote then some ([], s)
    else if c = '\\' ∧ quote = '"' then do
      let (e, rest) ← readEscape s
      let (t, rest) ← readString quote budget rest
      return (e :: t, rest)
    else if isPlain c then (readString quote budget s).map fun (t, rest) => (c :: t, rest)
    else none
  | _, _ => none

/-- Skips the blanks and line ends after a backslash that ends a line. -/
def skipFolded : (budget : Text) → Text → Text
  | [], s => s
  | _ :: budget, s =>
    match skipNewline (skipBlanks s) with
    | some r => skipFolded budget r
    | none => skipBlanks s

/-- The number of copies of `quote` at the beginning, at most five. -/
def quoteRun (quote : Char) (s : Text) : Nat :=
  ((s.take 5).takeWhile (· == quote)).length

/-- Reads the rest of a string over several lines.  Three quotes end it, with up to two more before
them that belong to it. -/
def readLongString (quote : Char) : (budget : Text) → Text → Option (Text × Text)
  | _ :: budget, c :: s =>
    if c = quote then
      let n := quoteRun quote (c :: s)
      if 3 ≤ n then some (List.replicate (n - 3) quote, (c :: s).drop n)
      else (readLongString quote budget s).map fun (t, rest) => (c :: t, rest)
    else if c = '\\' ∧ quote = '"' then
      match skipNewline (skipBlanks s) with
      | some rest => readLongString quote budget (skipFolded rest rest)
      | none => do
        let (e, rest) ← readEscape s
        let (t, rest) ← readLongString quote budget rest
        return (e :: t, rest)
    else match skipNewline (c :: s) with
      | some rest => (readLongString quote budget rest).map fun (t, rest) => ('\n' :: t, rest)
      | none =>
        if isPlain c then (readLongString quote budget s).map fun (t, rest) => (c :: t, rest)
        else none
  | _, _ => none

def readAnyString (s : Text) : Option (Text × Text) :=
  let long (quote : Char) (rest : Text) : Option (Text × Text) :=
    let rest := (skipNewline rest).getD rest
    readLongString quote rest rest
  match s with
  | '"' :: '"' :: '"' :: rest => long '"' rest
  | '\'' :: '\'' :: '\'' :: rest => long '\'' rest
  | '"' :: rest => readString '"' rest rest
  | '\'' :: rest => readString '\'' rest rest
  | _ => none

/-! ### Keys -/

/-- Whether a character may occur in a name without quotes. -/
def isNameChar (c : Char) : Bool :=
  c.isAlphanum || c == '-' || c == '_'

/-- Reads one name of a key. -/
def readName : Text → Option (Text × Text)
  | '"' :: s => readString '"' s s
  | '\'' :: s => readString '\'' s s
  | s =>
    let name := s.takeWhile isNameChar
    if name.isEmpty then none else some (name, s.dropWhile isNameChar)

def maxNames : Nat := 79

/-- Reads a key of at most `room` names with points between them, and the blanks around it. -/
def readPath : (room : Nat) → Text → Option (List Text × Text)
  | 0, _ => none
  | room + 1, s => do
    let (name, rest) ← readName (skipBlanks s)
    match skipBlanks rest with
    | '.' :: rest =>
      let (names, rest) ← readPath room rest
      return (name :: names, rest)
    | rest => return ([name], rest)

def readKey (s : Text) : Option (List Text × Text) :=
  readPath maxNames s

/-! ### Values -/

abbrev ValueReader := Text → Option (Toml × Text)

/-- Reads the items of an array up to its bracket. -/
def readItems (read : ValueReader) : (budget : Text) → Text → Option (List Toml × Text)
  | [], _ => none
  | _ :: budget, s =>
    match skipLines s s with
    | ']' :: rest => some ([], rest)
    | s => do
      let (v, rest) ← read s
      match skipLines rest rest with
      | ']' :: rest => return ([v], rest)
      | ',' :: rest =>
        let (vs, rest) ← readItems read budget rest
        return (v :: vs, rest)
      | _ => none

def readMember (read : ValueReader) (s : Text) : Option ((List Text × Toml) × Text) := do
  let (key, rest) ← readKey s
  let (v, rest) ← read (skipBlanks (← skipChar '=' rest))
  return ((key, v), rest)

/-- Reads the members of a table in braces up to its brace, and adds them to those already read. -/
def readMembers (read : ValueReader) : (budget : Text) → Members → Text → Option (Members × Text)
  | [], _, _ => none
  | _ :: budget, ms, s => do
    let ((key, v), rest) ← readMember read s
    let ms ← addKey .inner key v .header ms
    match skipBlanks rest with
    | '\x7d' :: rest => return (ms, rest)
    | ',' :: rest => readMembers read budget ms rest
    | _ => none

def maxDepth : Nat := 80

/-- Reads a value that nests less than `room` deep. -/
def readValue : (room : Nat) → ValueReader
  | 0, _ => none
  | room + 1, s =>
    match s with
    | '[' :: rest =>
      if room = 0 then none
      else (readItems (readValue room) s rest).map fun (items, rest) => (.array items, rest)
    | '\x7b' :: rest =>
      if room = 0 then none
      else match skipBlanks rest with
        | '\x7d' :: rest => some (.braces [], rest)
        | rest =>
          (readMembers (readValue room) s [] rest).map fun (ms, rest) => (.braces ms, rest)
    | '"' :: _ => (readAnyString s).map fun (t, rest) => (.string t, rest)
    | '\'' :: _ => (readAnyString s).map fun (t, rest) => (.string t, rest)
    | s =>
      let (token, rest) := splitToken s
      (ofToken? token).map fun v => (v, rest)

/-! ### Documents -/

/-- What has been read of a document: its tables, and the path of the last header. -/
structure Progress where
  root : Members
  path : List Text

/-- Reads a header after its opening bracket or brackets. -/
def readHeader (double : Bool) (p : Progress) (s : Text) : Option (Progress × Text) := do
  let (path, rest) ← readKey s
  let rest ← skipChar ']' rest
  let rest ← if double then skipChar ']' rest else pure rest
  let root ← openTable double path p.root
  return (⟨root, path⟩, rest)

/-- Reads a key with its value and enters it under the last header. -/
def readEntry (p : Progress) (s : Text) : Option (Progress × Text) := do
  let ((key, v), rest) ← readMember (readValue maxDepth) s
  let root ← addUnder p.path key v p.root
  return ({ p with root }, rest)

/-- Reads what stands on a line that is neither blank nor a comment alone. -/
def readStatement (p : Progress) : Text → Option (Progress × Text)
  | '[' :: '[' :: s => readHeader true p s
  | '[' :: s => readHeader false p s
  | s => readEntry p s

/-- Reads the lines of a document. -/
def readLines : (budget : Text) → Progress → Text → Option Members
  | [], p, s => if s.isEmpty then some p.root else none
  | _ :: budget, p, s =>
    match skipBlanks s with
    | [] => some p.root
    | c :: r =>
      if c = '#' ∨ c = '\n' ∨ c = '\r' then
        match skipLineEnd (c :: r) with
        | some rest => readLines budget p rest
        | none => none
      else do
        let (p, rest) ← readStatement p (c :: r)
        readLines budget p (← skipLineEnd rest)

/-- The members of the table that a document is, if it is well formed.  A byte order mark may stand
before it. -/
def parse (s : Text) : Option Members :=
  let s := match s with
    | '\ufeff' :: s => s
    | s => s
  readLines s ⟨[], []⟩ s

end SearchFilter.Toml
