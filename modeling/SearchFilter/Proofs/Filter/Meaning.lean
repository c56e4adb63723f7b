import SearchFilter.Filter.Holds
import SearchFilter.Filter.Simplify
import SearchFilter.Proofs.Filter.Trees

/-! # What filters mean

The value of a group depends on the values of its members only (`holds_group`), so members may be
replaced by others with the same value.  Simplification does no more than that: where it takes a
member for its group, the group has the value of the member (`holds_collapse`), and the simplified
filter holds for the same records under the same policies (`holds_simplify`). -/

namespace SearchFilter

/-- The value of a group whose members have the given values. -/
def Connective.combine : Connective → List Bool → Bool
  | and, bs => bs.all id
  | or, bs => bs.any id
  | not, bs => !bs.any id

namespace Filter

variable {ρ : Type} [Record ρ] (r : ρ) (policy : OrderPolicy)

theorem holds_group (kind : Connective) (fs : List Filter) :
    holds r policy (.group kind fs) = kind.combine (fs.map (holds r policy)) := by
  have hall : allHold r policy fs = (fs.map (holds r policy)).all id := by
    rw [allHold_eq_all, List.all_map, Function.id_comp]
  have hany : anyHolds r policy fs = (fs.map (holds r policy)).any id := by
    rw [anyHolds_eq_any, List.any_map, Function.id_comp]
  cases kind with
  | and => exact hall
  | or => exact hany
  | not => exact congrArg (!·) hany

/-! ### Simplification -/

theorem holds_collapse (kind : Connective) (fs : List Filter) :
    holds r policy (collapse kind fs) = holds r policy (.group kind fs) := by
  unfold collapse
  split
  · simp [holds_group, Connective.combine]
  · simp [holds_group, Connective.combine]
  · rfl

/-- **Simplification preserves meaning**: for every record and under both policies the simplified
filter holds exactly if the filter does. -/
theorem holds_simplify (f : Filter) : holds r policy f.simplify = holds r policy f := by
  induction f with
  | comparison c => rfl
  | group kind children ih =>
      have hvalues : (children.map simplify).map (holds r policy) =
          children.map (holds r policy) := by
        rw [List.map_map]
        exact List.map_congr_left ih
      rw [simplify, simplifyAll_eq_map, holds_collapse, holds_group, holds_group, hvalues]

end Filter
end SearchFilter
