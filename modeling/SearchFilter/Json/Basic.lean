import SearchFilter.Bindings
import SearchFilter.Number.Format
import SearchFilter.Text.Hex

/-!
# JSON values and their text

`Json` holds what a JSON text denotes; an integer is kept apart from a floating-point number.
`compact` writes a value without blanks, `pretty` with one item on a line.  In both, characters
stand for themselves in a string unless they are quotes, backslashes or control characters.
-/

namespace SearchFilter

inductive Json where
  | null
  | boolean (b : Bool)
  | integer (n : Int)
  | float (x : Binary64)
  | string (s : Text)
  | array (items : List Json)
  | object (members : List (Text × Json))

namespace Json

/-- The style of numbers: an exponent from `1e16` up and below `1e-5`, a point in every number
without one, and the even one of two equally near shortest decimals. -/
def floatFormat : FloatFormat where
  tie := .even
  positional leading := -5 ≤ leading && leading < 16
  showsPoint := true

/-- The text of a floating-point number; what is not finite is written as null. -/
def floatText (x : Binary64) : Text :=
  if x.isFinite then floatFormat.text x else "null".toList

/-- The form of a character inside a string. -/
def escapeChar (c : Char) : Text :=
  if c = '"' then ['\\', '"']
  else if c = '\\' then ['\\', '\\']
  else if c = '\x08' then ['\\', 'b']
  else if c = '\x0c' then ['\\', 'f']
  else if c = '\n' then ['\\', 'n']
  else if c = '\r' then ['\\', 'r']
  else if c = '\t' then ['\\', 't']
  else if c.toNat < 0x20 then
    let digits := Text.hexDigits c.toNat
    '\\' :: 'u' :: List.replicate (4 - digits.length) '0' ++ digits
  else [c]

def stringText (s : Text) : Text :=
  '"' :: s.flatMap escapeChar ++ ['"']

/-- The texts, a separator between each two. -/
def separated (separator : Text) : List Text → Text
  | [] => []
  | [s] => s
  | s :: t :: rest => s ++ separator ++ separated separator (t :: rest)

mutual

/-- The value without blanks. -/
def compact : Json → Text
  | null => "null".toList
  | boolean b => (if b then "true" else "false").toList
  | integer n => Text.ofInt n
  | float x => floatText x
  | string s => stringText s
  | array items => '[' :: separated [','] (compactItems items) ++ [']']
  | object members => '\x7b' :: separated [','] (compactMembers members) ++ ['\x7d']

def compactItems : List Json → List Text
  | [] => []
  | j :: js => compact j :: compactItems js

def compactMembers : List (Text × Json) → List Text
  | [] => []
  | (name, j) :: rest => (stringText name ++ ':' :: compact j) :: compactMembers rest

end

/-- Items on lines of their own, two spaces deeper than the brackets around them. -/
def bracketed (opening closing : Char) (level : Nat) (items : List Text) : Text :=
  let line (n : Nat) : Text := '\n' :: List.replicate (2 * n) ' '
  if items.isEmpty then [opening, closing]
  else opening :: line (level + 1) ++ separated (',' :: line (level + 1)) items
    ++ line level ++ [closing]

mutual

/-- The value with every item on a line of its own. -/
def pretty (level : Nat) : Json → Text
  | array items => bracketed '[' ']' level (prettyItems (level + 1) items)
  | object members => bracketed '\x7b' '\x7d' level (prettyMembers (level + 1) members)
  | null => compact null
  | boolean b => compact (boolean b)
  | integer n => compact (integer n)
  | float x => compact (float x)
  | string s => compact (string s)

def prettyItems (level : Nat) : List Json → List Text
  | [] => []
  | j :: js => pretty level j :: prettyItems level js

def prettyMembers (level : Nat) : List (Text × Json) → List Text
  | [] => []
  | (name, j) :: rest =>
    (stringText name ++ ':' :: ' ' :: pretty level j) :: prettyMembers level rest

end

end Json
end SearchFilter
