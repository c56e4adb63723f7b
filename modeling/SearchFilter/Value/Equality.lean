import SearchFilter.Escape
import SearchFilter.Text.Case
import SearchFilter.Value.Basic

/-!
# Equality and wildcard tests

`matchesPattern` tests a value against a pattern, in which every raw `*` stands for any text and
the pieces between them, once decoded, stand for themselves up to simple case folding.  The first
piece must begin the text and the last one end it; the pieces between are sought from the left, each
where it first occurs after the one before.

`equals` is the test of an equality comparison.  A value with a raw `*` is a pattern; one without is
compared as a whole, by full lowercase form.
-/

namespace SearchFilter

namespace Pattern

/-- The most wildcards a pattern may hold; one with more matches nothing. -/
def maxWildcards : Nat := 10443

/-- The pieces between the wildcards, decoded and folded. -/
def pieces (pattern : Text) : List Text :=
  (Text.splitOn '*' pattern).map fun piece => (decode piece).map Text.fold

/-- What follows the first occurrence of `piece`. -/
def dropThrough? (piece : Text) : Text → Option Text
  | [] => if piece.isEmpty then some [] else none
  | c :: s =>
    match Text.dropPrefix? piece (c :: s) with
    | some rest => some rest
    | none => dropThrough? piece s

/-- Whether the pieces occur in the text one after another, the last of them at its end. -/
def matchesRest : List Text → Text → Bool
  | [], s => s.isEmpty
  | [last], s => last.isSuffixOf s
  | piece :: next :: pieces, s =>
    match dropThrough? piece s with
    | some rest => matchesRest (next :: pieces) rest
    | none => false

/-- Whether the pieces, with any texts between them, make up the text. -/
def covers : List Text → Text → Bool
  | [], _ => false
  | [piece], s => piece == s
  | piece :: next :: pieces, s =>
    match Text.dropPrefix? piece s with
    | some rest => matchesRest (next :: pieces) rest
    | none => false

/-- Whether the pattern is small enough to be used. -/
def fits (pattern : Text) : Bool :=
  pattern.count '*' ≤ maxWildcards

/-- Whether the whole text matches the pattern. -/
def admits (pattern s : Text) : Bool :=
  fits pattern && covers (pieces pattern) (s.map Text.fold)

end Pattern

namespace AttributeValue

/-- Whether some member matches the pattern. -/
def matchesPattern (v : AttributeValue) (pattern : Text) : Bool :=
  v.members.any fun m => Pattern.admits pattern m.toText

/-- Whether some member other than the empty text has the lowercase form of the decoded value. -/
def equalsWhole (v : AttributeValue) (value : Text) : Bool :=
  let expected := Text.lowercase (decode value)
  v.members.any fun m => !m.isEmpty && Text.lowercase m.toText == expected

def equals (v : AttributeValue) (value : Text) : Bool :=
  if value.contains '*' then v.matchesPattern value else v.equalsWhole value

/-- The test of an approximate comparison: no notion of likeness is defined, so none holds. -/
def isLike (_ : AttributeValue) (_ : Text) : Bool :=
  false

end AttributeValue
end SearchFilter
