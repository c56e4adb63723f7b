import SearchFilter.Number.Format
import SearchFilter.Number.Read

/-!
# Attribute values

An attribute holds one scalar or a sequence of them.  A test of an attribute succeeds when any of
its members passes, so a sequence and a single value differ only in how they are written.
-/

namespace SearchFilter

inductive Scalar where
  | boolean (b : Bool)
  | integer (n : Int64)
  | float (x : Binary64)
  | text (s : Text)
  deriving DecidableEq

namespace Scalar

/-- The style of numbers in tests: never an exponent, no point in a whole number, and the greater
of two equally near shortest decimals. -/
def floatFormat : FloatFormat where
  tie := .greater
  positional _ := true
  showsPoint := false

/-- The text of a value, which equality and wildcards test. -/
def toText : Scalar → Text
  | boolean b => (if b then "TRUE" else "FALSE").toList
  | integer n => Text.ofInt n.toInt
  | float x => floatFormat.text x
  | text s => s

def isEmpty : Scalar → Bool
  | text s => s.isEmpty
  | _ => false

theorem isEmpty_iff {m : Scalar} : m.isEmpty = true ↔ m = text [] := by
  cases m <;> simp [isEmpty]

/-- The number that the value is or spells. -/
def number? : Scalar → Option Number
  | boolean _ => none
  | integer n => some (.integer n)
  | float x => some (.float x)
  | text s => Number.read? s

end Scalar

inductive AttributeValue where
  | single (value : Scalar)
  | multi (values : List Scalar)
  deriving DecidableEq

namespace AttributeValue

def members : AttributeValue → List Scalar
  | single value => [value]
  | multi values => values

def isMulti : AttributeValue → Bool
  | single _ => false
  | multi _ => true

/-- Whether some member is not the empty text. -/
def isPresent (v : AttributeValue) : Bool :=
  v.members.any (!·.isEmpty)

end AttributeValue
end SearchFilter
