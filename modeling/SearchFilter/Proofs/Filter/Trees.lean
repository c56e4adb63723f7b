import SearchFilter.Filter.Simplify

/-! # Trees of filters

A filter is a tree whose groups hold any number of filters, so induction along a tree
(`Filter.induction`) assumes the statement of every member of a group.  Two notions are defined by
it: how deep the parentheses of a filter nest (`levels`), and that all comparisons and all groups of
a tree have a property (`Every`). -/

namespace SearchFilter
namespace Filter

/-- Induction along a tree: a group inherits what all of its members have. -/
@[elab_as_elim, induction_eliminator]
theorem induction {motive : Filter → Prop} (comparison : ∀ c, motive (.comparison c))
    (group : ∀ kind children, (∀ f ∈ children, motive f) → motive (.group kind children)) :
    ∀ f, motive f
  | .comparison c => comparison c
  | .group kind children => group kind children fun f _ => induction comparison group f

/-! ### Levels -/

mutual

/-- How many pairs of parentheses stand around the innermost comparison. -/
def levels : Filter → Nat
  | comparison _ => 1
  | group _ children => levelsAll children + 1

def levelsAll : List Filter → Nat
  | [] => 0
  | f :: fs => max (levels f) (levelsAll fs)

end

theorem one_le_levels (f : Filter) : 1 ≤ f.levels := by
  cases f with
  | comparison c => exact Nat.le_refl 1
  | group kind children => exact Nat.le_add_left 1 _

theorem levelsAll_le_iff {n : Nat} {fs : List Filter} :
    levelsAll fs ≤ n ↔ ∀ f ∈ fs, f.levels ≤ n := by
  induction fs with
  | nil => simp [levelsAll]
  | cons f fs ih => rw [levelsAll, Nat.max_le, ih, List.forall_mem_cons]

theorem levels_le_levelsAll {f : Filter} {fs : List Filter} (hf : f ∈ fs) :
    f.levels ≤ levelsAll fs :=
  levelsAll_le_iff.mp (Nat.le_refl _) f hf

theorem levels_collapse_le (kind : Connective) (fs : List Filter) :
    (collapse kind fs).levels ≤ levelsAll fs + 1 := by
  unfold collapse
  split
  · exact Nat.le_succ_of_le (levels_le_levelsAll (by simp))
  · exact Nat.le_succ_of_le (levels_le_levelsAll (by simp))
  · exact Nat.le_refl _

theorem levels_simplify_le (f : Filter) : f.simplify.levels ≤ f.levels := by
  induction f with
  | comparison c => exact Nat.le_refl _
  | group kind children ih =>
      have hchildren : levelsAll (children.map simplify) ≤ levelsAll children := by
        rw [levelsAll_le_iff]
        intro g hg
        obtain ⟨f, hf, rfl⟩ := List.mem_map.mp hg
        exact Nat.le_trans (ih f hf) (levels_le_levelsAll hf)
      calc (simplify (.group kind children)).levels
          = (collapse kind (children.map simplify)).levels := by rw [simplify, simplifyAll_eq_map]
        _ ≤ levelsAll (children.map simplify) + 1 := levels_collapse_le kind _
        _ ≤ levelsAll children + 1 := Nat.succ_le_succ hchildren

/-! ### Properties of all nodes -/

/-- Every comparison of the tree satisfies `p`, and `q` relates the kind of every group to the
number of its members. -/
inductive Every (p : Comparison → Prop) (q : Connective → Nat → Prop) : Filter → Prop
  | comparison {c : Comparison} : p c → Every p q (.comparison c)
  | group {kind : Connective} {children : List Filter} :
      q kind children.length → (∀ f ∈ children, Every p q f) → Every p q (.group kind children)

variable {p p' : Comparison → Prop} {q q' : Connective → Nat → Prop}

theorem every_group {kind : Connective} {children : List Filter} :
    Every p q (.group kind children) ↔ q kind children.length ∧ ∀ f ∈ children, Every p q f :=
  ⟨fun h => by cases h with | group hq hc => exact ⟨hq, hc⟩, fun h => .group h.1 h.2⟩

theorem Every.mono (hp : ∀ c, p c → p' c) (hq : ∀ kind n, q kind n → q' kind n) {f : Filter}
    (h : Every p q f) : Every p' q' f := by
  induction h with
  | comparison hc => exact .comparison (hp _ hc)
  | group hn _ ih => exact .group (hq _ _ hn) ih

theorem Every.collapse {kind : Connective} {fs : List Filter} (hn : q kind fs.length)
    (h : ∀ f ∈ fs, Every p q f) : Every p q (collapse kind fs) := by
  unfold Filter.collapse
  split
  · exact h _ (by simp)
  · exact h _ (by simp)
  · exact .group hn h

/-- Simplification makes no comparison that was not there, and no group of another kind or with
another number of members. -/
theorem Every.simplify {f : Filter} (h : Every p q f) : Every p q f.simplify := by
  induction h with
  | comparison hc => exact .comparison hc
  | @group kind children hn _ ih =>
      rw [Filter.simplify, simplifyAll_eq_map]
      refine Every.collapse (by simpa using hn) ?_
      intro g hg
      obtain ⟨f, hf, rfl⟩ := List.mem_map.mp hg
      exact ih f hf

end Filter
end SearchFilter
