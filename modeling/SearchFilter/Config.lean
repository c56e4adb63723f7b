import SearchFilter.Filter.Layout
import SearchFilter.Toml.Read
import SearchFilter.Text.Utf8
import SearchFilter.Value.Order

/-!
# Configuration

A configuration says how filters are laid out and how values are ordered.  It is read from a TOML
document with a table `format` and a table `matching`; what the document does not set keeps its
default, and what is not a setting is ignored.

A table of settings may also be written as an array of their values in order.
-/

namespace SearchFilter

structure PrintRules where
  /-- Whether filters are printed over several lines. -/
  pretty : Bool := false
  indentWidth : Nat := Layout.defaultWidth
  indentChar : Char := ' '
  deriving DecidableEq

def PrintRules.toLayout (rules : PrintRules) : Layout :=
  if rules.pretty then ⟨rules.indentWidth, rules.indentChar⟩ else .compact

/-- The layout of the rules where several lines are asked for: the width is at least one. -/
def PrintRules.spread (rules : PrintRules) : Layout :=
  ⟨max rules.indentWidth 1, rules.indentChar⟩

/-- A configuration. -/
structure Config where
  printing : PrintRules := {}
  ordering : OrderPolicy := .natural
  deriving DecidableEq

namespace Config

/-! ### Settings of one kind -/

def bool? : Toml → Option Bool
  | .boolean b => some b
  | _ => none

def nat? : Toml → Option Nat
  | .integer n => if 0 ≤ n then some n.toNat else none
  | _ => none

def char? : Toml → Option Char
  | .string [c] => some c
  | _ => none

/-- The policy of the given name. -/
def policyNamed? (name : Text) : Option OrderPolicy :=
  if name = "natural".toList then some .natural
  else if name = "lexical".toList then some .lexical
  else none

/-- Whether a value holds nothing. -/
def isVoid : Toml → Bool
  | .array items => items.isEmpty
  | .braces members => members.isEmpty
  | .table _ members => members.isEmpty
  | _ => false

/-- The policy that a member of a table selects by its name; its value must hold nothing. -/
def policyOfMember? (m : Text × Toml) : Option OrderPolicy :=
  if isVoid m.2 then policyNamed? m.1 else none

/-- The policy that the members of a table select; there must be just one. -/
def policyOfMembers? : Toml.Members → Option OrderPolicy
  | [m] => policyOfMember? m
  | _ => none

/-- A policy: its name, or a table whose only key is its name. -/
def policy? : Toml → Option OrderPolicy
  | .string s => policyNamed? s
  | .braces members => policyOfMembers? members
  | .table _ members => policyOfMembers? members
  | _ => none

/-! ### Tables of settings -/

/-- The settings of a value: the members of a table, the items of an array under the given names, or
none for a date. -/
def settings? (names : List Text) : Toml → Option Toml.Members
  | .braces members => some members
  | .table _ members => some members
  | .array items => some (names.zip items)
  | .tables earlier last => some (names.zip ((earlier ++ [last]).map (.table .header)))
  | .date _ => some []
  | _ => none

/-- The setting of a name, or its default. -/
def setting {α : Type} (read : Toml → Option α) (default : α) (name : Text)
    (members : Toml.Members) : Option α :=
  match members.lookup name with
  | none => some default
  | some v => read v

/-- The rules for printing that a value sets. -/
def printRules? (v : Toml) : Option PrintRules := do
  let names := ["pretty".toList, "indent_width".toList, "indent_char".toList]
  let members ← settings? names v
  let defaults : PrintRules := {}
  let pretty ← setting bool? defaults.pretty "pretty".toList members
  let indentWidth ← setting nat? defaults.indentWidth "indent_width".toList members
  let indentChar ← setting char? defaults.indentChar "indent_char".toList members
  return { pretty, indentWidth, indentChar }

/-- The policy that the rules for matching in a value set. -/
def ordering? (v : Toml) : Option OrderPolicy := do
  let members ← settings? ["ordering".toList] v
  setting policy? .natural "ordering".toList members

/-- The configuration that a document sets. -/
def parse (s : Text) : Option Config := do
  let members ← Toml.parse s
  let printing ← setting printRules? {} "format".toList members
  let ordering ← setting ordering? .natural "matching".toList members
  return { printing, ordering }

end Config
end SearchFilter
