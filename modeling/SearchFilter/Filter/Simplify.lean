import SearchFilter.Filter.Basic

/-!
# Simplification

A conjunction or disjunction of a single filter says the same as that filter.  `simplify` replaces
every such group by what it holds, from the leaves up; negations, the order of the filters in a
group and the leaves stay as they are.
-/

namespace SearchFilter.Filter

/-- A group, or its only member where the group adds nothing. -/
def collapse : Connective → List Filter → Filter
  | .and, [f] => f
  | .or, [f] => f
  | kind, children => .group kind children

mutual

/-- The filter without groups that add nothing. -/
def simplify : Filter → Filter
  | comparison c => .comparison c
  | group kind children => collapse kind (simplifyAll children)

def simplifyAll : List Filter → List Filter
  | [] => []
  | f :: fs => simplify f :: simplifyAll fs

end

theorem simplifyAll_eq_map (fs : List Filter) : simplifyAll fs = fs.map simplify := by
  induction fs with
  | nil => rfl
  | cons f fs ih => rw [simplifyAll, ih, List.map_cons]

end SearchFilter.Filter
