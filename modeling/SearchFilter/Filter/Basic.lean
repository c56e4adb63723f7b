import SearchFilter.Text.Basic

/-!
# Search filters

A filter is a tree.  Its leaves are comparisons of an attribute with a value; its inner nodes are
groups, which combine any number of filters by conjunction or disjunction or negate one.

The value of a comparison is kept as it is written: escapes stand in it, and a raw `*` is a
wildcard.
-/

namespace SearchFilter

/-- How a comparison relates an attribute to its value. -/
inductive Operator where
  | equality
  | lessOrEqual
  | greaterOrEqual
  | approximate
  deriving DecidableEq

def Operator.symbol : Operator → Text
  | equality => ['=']
  | lessOrEqual => ['<', '=']
  | greaterOrEqual => ['>', '=']
  | approximate => ['~', '=']

/-- How a group combines its filters. -/
inductive Connective where
  | and
  | or
  | not
  deriving DecidableEq

/-- The character that opens a group. -/
def Connective.symbol : Connective → Char
  | and => '&'
  | or => '|'
  | not => '!'

/-- The name of a connective in messages. -/
def Connective.name : Connective → Text
  | and => "AND".toList
  | or => "OR".toList
  | not => "NOT".toList

/-- Whether a group of this kind may hold `n` filters. -/
def Connective.admits : Connective → Nat → Bool
  | not, n => n == 1
  | _, n => n != 0

/-- A leaf: the name of an attribute, an operator and a value. -/
structure Comparison where
  name : Text
  operator : Operator
  value : Text
  deriving DecidableEq

/-- Whether the comparison only asks that the attribute be there. -/
def Comparison.isPresence (c : Comparison) : Bool :=
  c.operator == .equality && c.value == ['*']

def Comparison.text (c : Comparison) : Text :=
  '(' :: c.name ++ c.operator.symbol ++ c.value ++ [')']

/-- A search filter. -/
inductive Filter where
  | comparison (c : Comparison)
  | group (kind : Connective) (children : List Filter)

namespace Filter

/-! ### Equality -/

mutual

def decEq : (f g : Filter) → Decidable (f = g)
  | comparison c, comparison d =>
    if h : c = d then isTrue (by rw [h]) else isFalse (by simpa using h)
  | comparison _, group _ _ => isFalse (by simp)
  | group _ _, comparison _ => isFalse (by simp)
  | group k fs, group l gs =>
    if h : k = l then
      match decEqAll fs gs with
      | isTrue h' => isTrue (by rw [h, h'])
      | isFalse h' => isFalse (by simp [h'])
    else isFalse (by simp [h])

def decEqAll : (fs gs : List Filter) → Decidable (fs = gs)
  | [], [] => isTrue rfl
  | [], _ :: _ => isFalse (by simp)
  | _ :: _, [] => isFalse (by simp)
  | f :: fs, g :: gs =>
    match decEq f g with
    | isTrue h =>
      match decEqAll fs gs with
      | isTrue h' => isTrue (by rw [h, h'])
      | isFalse h' => isFalse (by simp [h'])
    | isFalse h => isFalse (by simp [h])

end

instance : DecidableEq Filter := decEq

def comparison? : Filter → Option Comparison
  | comparison c => some c
  | group .. => none

/-! ### The nodes of a tree -/

/-- A node without what is below it. -/
inductive Node where
  | leaf (c : Comparison)
  | inner (kind : Connective) (children : Nat)
  deriving DecidableEq

mutual

/-- The nodes of the tree with their depths, each one before those below it. -/
def nodes (depth : Nat) : Filter → List (Nat × Node)
  | comparison c => [(depth, .leaf c)]
  | group kind children => (depth, .inner kind children.length) :: nodesAll (depth + 1) children

def nodesAll (depth : Nat) : List Filter → List (Nat × Node)
  | [] => []
  | f :: fs => nodes depth f ++ nodesAll depth fs

end

end Filter
end SearchFilter
