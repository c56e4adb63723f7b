import SearchFilter.Escape
import SearchFilter.Text.Case
import SearchFilter.Value.Basic

/-!
# Ordering tests

Two values are ordered as texts, by lowercase form, or as numbers.  Under the natural policy they
are numbers if both of them are or spell one; under the lexical policy they are always texts.
-/

namespace SearchFilter

inductive OrderPolicy where
  /-- Whenever both sides are numbers. -/
  | natural
  /-- Never. -/
  | lexical
  deriving DecidableEq

namespace Scalar

/-- The order of a value and a text as texts. -/
def compareAsText (m : Scalar) (value : Text) : Ordering :=
  compare (Text.lowercase m.toText) (Text.lowercase value)

/-- The order of a value and a text as numbers, if they are two comparable numbers. -/
def compareAsNumber? (m : Scalar) (value : Text) : Option Ordering :=
  match m.number?, Number.read? value with
  | some a, some b => a.compare? b
  | _, _ => none

/-- The order of a value and a text. -/
def compareWith (policy : OrderPolicy) (m : Scalar) (value : Text) : Ordering :=
  match policy with
  | .natural => (m.compareAsNumber? value).getD (m.compareAsText value)
  | .lexical => m.compareAsText value

variable {m : Scalar} {value : Text}

theorem compareAsNumber?_eq {a b : Number} (hm : m.number? = some a)
    (hvalue : Number.read? value = some b) : m.compareAsNumber? value = a.compare? b := by
  rw [compareAsNumber?, hm, hvalue]

theorem compareWith_of_none (h : m.number? = none ∨ Number.read? value = none) :
    m.compareWith .natural value = m.compareAsText value := by
  have hnone : m.compareAsNumber? value = none := by
    rw [compareAsNumber?]
    rcases h with hm | hvalue
    · rw [hm]
    · rw [hvalue]
      cases m.number? <;> rfl
  rw [compareWith, hnone, Option.getD_none]

end Scalar

namespace AttributeValue

/-- Whether some member is at most the decoded value. -/
def isAtMost (policy : OrderPolicy) (v : AttributeValue) (value : Text) : Bool :=
  let bound := decode value
  v.members.any fun m => m.compareWith policy bound != .gt

/-- Whether some member is at least the decoded value. -/
def isAtLeast (policy : OrderPolicy) (v : AttributeValue) (value : Text) : Bool :=
  let bound := decode value
  v.members.any fun m => m.compareWith policy bound != .lt

variable {m : Scalar} {v : AttributeValue} {policy : OrderPolicy} {value : Text}

theorem isAtMost_iff_of_members (hv : v.members = [m]) :
    v.isAtMost policy value = true ↔ m.compareWith policy (decode value) ≠ .gt := by
  simp [isAtMost, hv]

theorem isAtLeast_iff_of_members (hv : v.members = [m]) :
    v.isAtLeast policy value = true ↔ m.compareWith policy (decode value) ≠ .lt := by
  simp [isAtLeast, hv]

end AttributeValue
end SearchFilter
