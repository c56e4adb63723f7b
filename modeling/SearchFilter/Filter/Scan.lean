import SearchFilter.Filter.Parse
import SearchFilter.Text.Slice

/-!
# Reading by positions

`Filter.parse` hands what is left of a text from one reader to the next.  The readers here share a
cursor instead: the text, and the number of bytes of it that have been read.  All that they look at
are slices of the text from one number of bytes to another, and a slice that began or ended inside a
character, or behind the end, would be none at all (`Text.slice?`).  Where there is none, reading
breaks off (`Stop.broken`).

A loop has a budget of characters, of which each round uses one up; as long as the text that is
read, it is never spent.
-/

namespace SearchFilter.Filter

/-- How far an input has been read. -/
structure Cursor where
  /-- The input without the blanks at its end. -/
  text : Text
  /-- The input, of which errors show a part. -/
  original : Text
  /-- The number of bytes that have been read. -/
  position : Nat

/-- Why reading stops. -/
inductive Stop where
  /-- A slice is asked for where there is none. -/
  | broken
  | failed (e : ParseError)
  deriving DecidableEq

/-- A reader that moves a cursor on. -/
abbrev Scan := StateT Cursor (Except Stop)

namespace Scan

variable {α : Type}

/-! ### Steps -/

/-- A slice of a text. -/
def slice (start stop : Nat) (s : Text) : Scan Text :=
  match s.slice? start stop with
  | some t => pure t
  | none => throw .broken

/-- What has not been read yet. -/
def rest : Scan Text := do
  let c ← get
  slice c.position c.text.utf8Length c.text

def peek : Scan (Option Char) := do
  return (← rest).head?

def advance (n : Nat) : Scan Unit :=
  modify fun c => { c with position := c.position + n }

/-- Goes past the next character. -/
def bump : Scan Unit := do
  match ← peek with
  | some c => advance c.utf8Size
  | none => pure ()

/-- Fails where the cursor is. -/
def fail (reason : ParseReason) : Scan α := do
  let c ← get
  let s ← slice c.position c.original.utf8Length c.original
  throw (.failed ⟨reason, c.position, s.take fragmentLength⟩)

/-- Goes past the characters that pass a test. -/
def skipWhile (test : Char → Bool) : (budget : Text) → Scan Unit
  | [] => pure ()
  | _ :: budget => do
    if (← peek).any test then
      bump
      skipWhile test budget

def skipBlanks : Scan Unit := do
  skipWhile Text.isBlank (← get).text

/-- Goes past the given character. -/
def expect (c : Char) (reason : ParseReason) : Scan Unit := do
  match ← peek with
  | some d => if d = c then bump else fail reason
  | none => fail .unexpectedEnd

/-! ### Comparisons -/

/-- Reads an operator, whose characters take one byte each. -/
def operator : Scan Operator := do
  match ← rest with
  | '=' :: _ => do advance 1; return .equality
  | '<' :: '=' :: _ => do advance 2; return .lessOrEqual
  | '>' :: '=' :: _ => do advance 2; return .greaterOrEqual
  | '~' :: '=' :: _ => do advance 2; return .approximate
  | _ => fail .missingOperator

/-- Goes past a value. -/
def skipValue : (budget : Text) → Scan Unit
  | [] => pure ()
  | _ :: budget => do
    match ← peek with
    | none => pure ()
    | some c =>
      if c = '(' ∨ c = ')' then pure ()
      else if c = '\x00' then fail .unescapedNul
      else do
        bump
        skipValue budget

def name : Scan Text := do
  let start := (← get).position
  skipWhile isNameChar (← get).text
  if (← get).position = start then
    match ← peek with
    | none => fail .unexpectedEnd
    | some _ => fail .invalidAttribute
  else
    let c ← get
    slice start c.position c.text

def value : Scan Text := do
  let start := (← get).position
  skipValue (← get).text
  let c ← get
  slice start c.position c.text

/-- Reads a comparison without parentheses. -/
def item : Scan Filter := do
  let name ← name
  skipBlanks
  let operator ← operator
  let value ← value
  return .comparison ⟨name, operator, value⟩

/-! ### Filters -/

/-- Reads filters with `scan` for as long as a parenthesis opens one. -/
def many (scan : Scan Filter) : (budget : Text) → Scan (List Filter)
  | [] => pure []
  | _ :: budget => do
    if (← peek) = some '(' then
      let f ← scan
      skipBlanks
      let fs ← many scan budget
      return f :: fs
    else return []

/-- Reads the filters of a group, at least one. -/
def group (scan : Scan Filter) (kind : Connective) : Scan Filter := do
  -- the same slice as that for the first blank
  let budget ← rest
  skipBlanks
  let children ← many scan budget
  if children.isEmpty then fail .emptyGroup
  return .group kind children

/-- Reads what stands between the parentheses of a filter; `scan` reads a filter inside it. -/
def body (scan : Scan Filter) : Scan Filter := do
  match ← peek with
  | some '&' => do bump; group scan .and
  | some '|' => do bump; group scan .or
  | some '!' => do
    bump
    skipBlanks
    let f ← scan
    return f.negate
  | some _ => item
  | none => fail .unexpectedEnd

/-- Reads a filter in parentheses that nests at most `room` deep. -/
def filter : (room : Nat) → Scan Filter
  | 0 => fail .nestingTooDeep
  | room + 1 => do
    expect '(' .expectedOpenParen
    skipBlanks
    let f ← body (filter room)
    skipBlanks
    expect ')' .expectedCloseParen
    return f

/-- Reads a filter, or a comparison without its parentheses. -/
def outer : Scan Filter := do
  match ← peek with
  | none => fail .unexpectedEnd
  | some '(' => filter maxDepth
  | some _ => item

/-- Returns what has been read, if that is all. -/
def finish (f : Filter) : Scan Filter := do
  let c ← get
  if c.position < c.text.utf8Length then fail .trailingInput
  return f

/-- Reads an input that holds one filter and nothing else. -/
def input : Scan Filter := do
  skipBlanks
  let f ← outer
  skipBlanks
  finish f

end Scan

/-- The filter that a text holds. -/
def scan (s : Text) : Except Stop Filter :=
  match s.slice? 0 s.trimEnd.utf8Length with
  | none => .error .broken
  | some text => (Scan.input.run ⟨text, s, 0⟩).map Prod.fst

end SearchFilter.Filter
