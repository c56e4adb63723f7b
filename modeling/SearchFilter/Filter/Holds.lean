import SearchFilter.Filter.Basic
import SearchFilter.Record.Entry
import SearchFilter.Value.Equality
import SearchFilter.Value.Order

/-!
# Evaluating filters

A comparison holds for a record when the record has its attribute and some member of the value
passes the test of its operator; it does not hold for a record without the attribute, so that its
negation does.  Groups are evaluated as their connectives say.
-/

namespace SearchFilter

/-- Whether a comparison holds for the value of its attribute. -/
def Comparison.accepts (c : Comparison) (policy : OrderPolicy) (v : AttributeValue) : Bool :=
  match c.operator with
  | .equality => if c.isPresence then v.isPresent else v.equals c.value
  | .lessOrEqual => v.isAtMost policy c.value
  | .greaterOrEqual => v.isAtLeast policy c.value
  | .approximate => v.isLike c.value

variable {ρ : Type} [Record ρ]

/-- Whether a comparison holds for a record. -/
def Comparison.holds (c : Comparison) (r : ρ) (policy : OrderPolicy) : Bool :=
  match Record.value? r c.name with
  | none => false
  | some v => c.accepts policy v

namespace Filter

mutual

def holds (r : ρ) (policy : OrderPolicy) : Filter → Bool
  | comparison c => c.holds r policy
  | group .and children => allHold r policy children
  | group .or children => anyHolds r policy children
  | group .not children => !anyHolds r policy children

def allHold (r : ρ) (policy : OrderPolicy) : List Filter → Bool
  | [] => true
  | f :: fs => holds r policy f && allHold r policy fs

def anyHolds (r : ρ) (policy : OrderPolicy) : List Filter → Bool
  | [] => false
  | f :: fs => holds r policy f || anyHolds r policy fs

end

theorem allHold_eq_all (r : ρ) (policy : OrderPolicy) (fs : List Filter) :
    allHold r policy fs = fs.all (holds r policy) := by
  induction fs with
  | nil => rfl
  | cons f fs ih => rw [allHold, ih, List.all_cons]

theorem anyHolds_eq_any (r : ρ) (policy : OrderPolicy) (fs : List Filter) :
    anyHolds r policy fs = fs.any (holds r policy) := by
  induction fs with
  | nil => rfl
  | cons f fs ih => rw [anyHolds, ih, List.any_cons]

end Filter
end SearchFilter
