import SearchFilter.Filter.Construct

/-!
# Reading filters

The written form of a filter, where `ws` is any number of blanks:

    input  = ws ( filter / item ) ws
    filter = "(" ws ( "&" list / "|" list / "!" ws filter / item ) ws ")"
    list   = 1*( ws filter ) ws
    item   = name ws operator value

A value runs up to the next parenthesis and keeps the blanks around it; only at the end of the
input are blanks dropped.  Filters nest at most `maxDepth` deep.

A reader takes a text and returns what it has read with the rest of the text, or a `Fault`, which
holds the rest of the text where reading stopped.  `parse` turns that rest into a position.
-/

namespace SearchFilter

/-- Why a text is not a filter. -/
inductive ParseReason where
  | unexpectedEnd
  | expectedOpenParen
  | expectedCloseParen
  | missingOperator
  | invalidAttribute
  | unescapedNul
  | emptyGroup
  | trailingInput
  | nestingTooDeep
  deriving DecidableEq

def ParseReason.message : ParseReason → Text
  | unexpectedEnd => "Unexpected end of filter".toList
  | expectedOpenParen => "Expected '('".toList
  | expectedCloseParen => "Expected ')'".toList
  | missingOperator => "Missing comparison operator".toList
  | invalidAttribute => "Invalid attribute name".toList
  | unescapedNul => "Unescaped NUL in value".toList
  | emptyGroup => "Empty filter group".toList
  | trailingInput => "Unexpected trailing input".toList
  | nestingTooDeep => "Filter nested too deeply".toList

/-- A text that is not a filter, and where that shows. -/
structure ParseError where
  reason : ParseReason
  /-- The number of bytes before the fault. -/
  position : Nat
  /-- What stands at the fault, cut short. -/
  fragment : Text
  deriving DecidableEq

def ParseError.message (e : ParseError) : Text :=
  e.reason.message ++ " at position ".toList ++ Text.ofNat e.position ++ " near '".toList
    ++ e.fragment ++ ['\'']

/-- What goes before an error's wording where it is reported on its own. -/
def ParseError.heading : Text := "Invalid filter expression: ".toList

namespace Filter

/-- How deep filters may nest. -/
def maxDepth : Nat := 256

/-- How many characters of the input an error shows. -/
def fragmentLength : Nat := 24

/-- A reason to stop reading, and what is left there. -/
structure Fault where
  reason : ParseReason
  rest : Text
  deriving DecidableEq

/-- Reads the given character; `reason` says what is wrong if another one stands there. -/
def expect (c : Char) (reason : ParseReason) : Text → Except Fault Text
  | [] => .error ⟨.unexpectedEnd, []⟩
  | d :: s => if d = c then .ok s else .error ⟨reason, d :: s⟩

/-- Whether a character ends a value. -/
def endsValue (c : Char) : Bool :=
  c == '(' || c == ')' || c == '\x00'

def readOperator : Text → Except Fault (Operator × Text)
  | '=' :: s => .ok (.equality, s)
  | '<' :: '=' :: s => .ok (.lessOrEqual, s)
  | '>' :: '=' :: s => .ok (.greaterOrEqual, s)
  | '~' :: '=' :: s => .ok (.approximate, s)
  | s => .error ⟨.missingOperator, s⟩

/-- Reads a value: everything up to a parenthesis. -/
def readValue (s : Text) : Except Fault (Text × Text) :=
  match s.dropWhile (!endsValue ·) with
  | '\x00' :: rest => .error ⟨.unescapedNul, '\x00' :: rest⟩
  | rest => .ok (s.takeWhile (!endsValue ·), rest)

/-- Reads a comparison without parentheses. -/
def readItem (s : Text) : Except Fault (Filter × Text) := do
  let name := s.takeWhile isNameChar
  if name.isEmpty then
    throw ⟨if s.isEmpty then .unexpectedEnd else .invalidAttribute, s⟩
  let (operator, rest) ← readOperator (Text.trimStart (s.dropWhile isNameChar))
  let (value, rest) ← readValue rest
  return (.comparison ⟨name, operator, value⟩, rest)

abbrev FilterReader := Text → Except Fault (Filter × Text)

/-- Reads filters with `read` for as long as a parenthesis opens one.  Each filter uses up some of
the text, so a `budget` as long as the text is never spent. -/
def readMany (read : FilterReader) :
    (budget : Text) → Text → Except Fault (List Filter × Text)
  | _ :: budget, '(' :: s => do
    let (f, rest) ← read ('(' :: s)
    let (fs, rest) ← readMany read budget (Text.trimStart rest)
    return (f :: fs, rest)
  | _, s => .ok ([], s)

/-- Reads the filters of a group, at least one. -/
def readGroup (read : FilterReader) (kind : Connective) (s : Text) :
    Except Fault (Filter × Text) := do
  let (children, rest) ← readMany read s (Text.trimStart s)
  if children.isEmpty then throw ⟨.emptyGroup, rest⟩
  return (.group kind children, rest)

/-- Reads what stands between the parentheses of a filter; `read` reads a filter inside it. -/
def readBody (read : FilterReader) : FilterReader
  | '&' :: s => readGroup read .and s
  | '|' :: s => readGroup read .or s
  | '!' :: s => do
    let (f, rest) ← read (Text.trimStart s)
    return (f.negate, rest)
  | s => readItem s

/-- Reads a filter in parentheses that nests at most `room` deep. -/
def readFilter : (room : Nat) → FilterReader
  | 0, s => .error ⟨.nestingTooDeep, s⟩
  | room + 1, s => do
    let s ← expect '(' .expectedOpenParen s
    let (f, rest) ← readBody (readFilter room) (Text.trimStart s)
    let rest ← expect ')' .expectedCloseParen (Text.trimStart rest)
    return (f, rest)

/-- Reads a filter, or a comparison without its parentheses. -/
def readOuter : FilterReader
  | [] => .error ⟨.unexpectedEnd, []⟩
  | '(' :: s => readFilter maxDepth ('(' :: s)
  | s => readItem s

/-- Reads a text that holds one filter and nothing else; it has no blanks at its end. -/
def readAll (s : Text) : Except Fault Filter := do
  let (f, rest) ← readOuter (Text.trimStart s)
  match Text.trimStart rest with
  | [] => return f
  | rest => throw ⟨.trailingInput, rest⟩

/-- The error that a fault in the text without its trailing blanks means for the whole text. -/
def Fault.toError (input : Text) (fault : Fault) : ParseError where
  reason := fault.reason
  position := input.trimEnd.utf8Length - fault.rest.utf8Length
  fragment := (fault.rest ++ input.trailingBlanks).take fragmentLength

/-- The filter that a text holds. -/
def parse (input : Text) : Except ParseError Filter :=
  match readAll input.trimEnd with
  | .ok f => .ok f
  | .error fault => .error (fault.toError input)

end Filter
end SearchFilter
