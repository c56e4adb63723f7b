import SearchFilter.Filter.Basic
import SearchFilter.Escape
import SearchFilter.Value.Basic

/-!
# Building filters

Filters are built from attributes (`Attribute`), whose comparisons take any printable value, and
from the group constructors, which check how many filters they are given.

Every builder but `Attribute.verbatim` escapes its value, so that no character of it is read as a
wildcard, an escape or a parenthesis.
-/

namespace SearchFilter

/-- Whether a character may occur in an attribute name. -/
def isNameChar (c : Char) : Bool :=
  c.isAlphanum || c == '-' || c == '.' || c == ';' || c == '_'

/-- Whether a text is an attribute name: one or more name characters. -/
def isAttributeName (s : Text) : Bool :=
  !s.isEmpty && s.all isNameChar

/-- Why a filter cannot be built. -/
inductive ConstructionError where
  /-- A negation of other than one filter. -/
  | notArity (count : Nat)
  /-- A group without filters. -/
  | emptyGroup (kind : Connective)
  /-- A name that would not be read back. -/
  | invalidAttribute (name : Text)
  deriving DecidableEq

def ConstructionError.message : ConstructionError → Text
  | notArity n => "NOT requires exactly one filter, got ".toList ++ Text.ofNat n
  | emptyGroup kind => kind.name ++ " group requires at least one filter".toList
  | invalidAttribute name => "Invalid attribute name '".toList ++ name ++ ['\'']

/-- Values that a comparison can be built from. -/
class Printable (α : Type) where
  /-- The text of a value. -/
  text : α → Text

instance : Printable Text := ⟨id⟩
instance : Printable Int64 := ⟨fun n => Text.ofInt n.toInt⟩
instance : Printable Bool := ⟨fun b => (if b then "true" else "false").toList⟩
instance : Printable Binary64 := ⟨Scalar.floatFormat.text⟩
instance : Printable Scalar := ⟨Scalar.toText⟩

/-- The name of an attribute that comparisons are built on. -/
structure Attribute where
  name : Text
  deriving DecidableEq

namespace Attribute

/-- The attribute, provided its name would be read back. -/
def ofName (name : Text) : Except ConstructionError Attribute :=
  if isAttributeName name then .ok ⟨name⟩ else .error (.invalidAttribute name)

variable {α : Type} [Printable α] (a : Attribute)

/-- A comparison whose value is already in its written form. -/
def compared (operator : Operator) (value : Text) : Filter :=
  .comparison ⟨a.name, operator, value⟩

/-- The attribute is there. -/
def present : Filter :=
  a.compared .equality ['*']

/-- The attribute equals a value in its written form, wildcards and escapes included. -/
def verbatim (value : α) : Filter :=
  a.compared .equality (Printable.text value)

/-- The attribute equals the value. -/
def equalTo (value : α) : Filter :=
  a.compared .equality (escape (Printable.text value))

def startsWith (value : α) : Filter :=
  a.compared .equality (escape (Printable.text value) ++ ['*'])

def endsWith (value : α) : Filter :=
  a.compared .equality ('*' :: escape (Printable.text value))

def contains (value : α) : Filter :=
  a.compared .equality ('*' :: escape (Printable.text value) ++ ['*'])

/-- The attribute is like the value. -/
def approximately (value : α) : Filter :=
  a.compared .approximate (escape (Printable.text value))

def atMost (value : α) : Filter :=
  a.compared .lessOrEqual (escape (Printable.text value))

def atLeast (value : α) : Filter :=
  a.compared .greaterOrEqual (escape (Printable.text value))

end Attribute

namespace Filter

/-- A group of the given kind, provided it may hold that many filters. -/
def ofGroup (kind : Connective) (children : List Filter) : Except ConstructionError Filter :=
  if kind.admits children.length then .ok (.group kind children)
  else match kind with
    | .not => .error (.notArity children.length)
    | _ => .error (.emptyGroup kind)

def conj (children : List Filter) : Except ConstructionError Filter :=
  ofGroup .and children

def disj (children : List Filter) : Except ConstructionError Filter :=
  ofGroup .or children

/-- Not the one filter of the list. -/
def neg (children : List Filter) : Except ConstructionError Filter :=
  ofGroup .not children

def negate (f : Filter) : Filter :=
  .group .not [f]

end Filter
end SearchFilter
