import Mathlib.Algebra.Order.BigOperators.Group.List
import Mathlib.Algebra.Order.Group.Nat
import Mathlib.Algebra.Order.Ring.Nat
import SearchFilter.Proofs.Filter.Canonical
import SearchFilter.Proofs.Filter.LayoutLines

/-! # Simplification makes layouts shorter

A filter is simplified already, or simplification makes it smaller, in whatever size a group is
larger than its only member and grows with its members (`shrinks_group`).  The length of a layout is
such a size, whatever the layout is filled with: a group that is left out takes its parentheses with
it, and what it held moves up a level.  So a filter that simplification changes is laid out as
another text than before (`layOut_simplify_eq_iff`). -/

namespace SearchFilter
namespace Filter

/-! ### Sizes -/

/-- The filter is simplified already, or it gets smaller. -/
def Shrinks (size : Filter → Nat) (f : Filter) : Prop :=
  f.simplify = f ∨ size f.simplify < size f

section Sizes
variable {size inner : Filter → Nat}

theorem Shrinks.size_le {f : Filter} (h : f.Shrinks size) : size f.simplify ≤ size f := by
  rcases h with heq | hlt
  · rw [heq]
  · exact Nat.le_of_lt hlt

/-- The members of a list are simplified already, or they get smaller together. -/
theorem map_simplify_eq_or_sum_lt {fs : List Filter} (h : ∀ f ∈ fs, f.Shrinks inner) :
    fs.map simplify = fs ∨ ((fs.map simplify).map inner).sum < (fs.map inner).sum := by
  by_cases hall : ∀ f ∈ fs, f.simplify = f
  · exact .inl ((List.map_congr_left hall).trans (List.map_id' fs))
  · simp only [not_forall] at hall
    obtain ⟨f, hf, hne⟩ := hall
    right
    rw [List.map_map]
    exact List.sum_lt_sum _ _ (fun g hg => (h g hg).size_le) ⟨f, hf, (h f hf).resolve_left hne⟩

/-- A group shrinks if its members do, its size grows with theirs, and a group that adds nothing is
larger than what it holds. -/
theorem shrinks_group {kind : Connective} {fs : List Filter} (h : ∀ f ∈ fs, f.Shrinks inner)
    (hgrows : ∀ gs : List Filter, (gs.map inner).sum < (fs.map inner).sum →
      size (.group kind gs) < size (.group kind fs))
    (hlone : kind ≠ .not → ∀ f, size f < size (.group kind [f])) :
    Shrinks size (.group kind fs) := by
  have hmembers : size (.group kind (fs.map simplify)) ≤ size (.group kind fs) := by
    rcases map_simplify_eq_or_sum_lt h with heq | hlt
    · rw [heq]
    · exact Nat.le_of_lt (hgrows _ hlt)
  rw [Shrinks, simplify, simplifyAll_eq_map]
  rcases collapse_eq_or kind (fs.map simplify) with ⟨f, hf, hkind, heq⟩ | ⟨-, heq⟩
  · right
    rw [heq]
    rw [hf] at hmembers
    exact Nat.lt_of_lt_of_le (hlone hkind f) hmembers
  · rw [heq]
    rcases map_simplify_eq_or_sum_lt h with hsame | hlt
    · exact .inl (by rw [hsame])
    · exact .inr (hgrows _ hlt)

end Sizes

/-! ### The length of a layout -/

theorem length_text_group (kind : Connective) (fs : List Filter) :
    (text (.group kind fs)).length = (fs.map fun f => f.text.length).sum + 3 := by
  simp [text_group, List.length_flatMap]

theorem shrinks_text (f : Filter) : f.Shrinks fun f => f.text.length := by
  induction f with
  | comparison c => exact .inl rfl
  | group kind children ih =>
      refine shrinks_group ih (fun gs hgs => ?_) fun _ f => ?_
      · rw [length_text_group, length_text_group]
        omega
      · simp [length_text_group]

section Spread
variable {l : Layout}

theorem length_layOut_group (hwidth : l.width ≠ 0) {kind : Connective} (hkind : kind ≠ .not)
    (level : Nat) (fs : List Filter) : (layOut l level (.group kind fs)).length =
      (fs.map fun f => (f.layOut l (level + 1)).length + 1).sum + 2 * (level * l.width) + 4 := by
  have hlines : ¬ (l.isCompact || kind == .not) = true := by
    simp [Layout.isCompact, hwidth, hkind]
  rw [layOut_group, if_neg hlines, layOutAll_eq_flatMap]
  simp [List.length_flatMap, Layout.indentation]
  omega

theorem length_layOut_not (level : Nat) (fs : List Filter) :
    (layOut l level (.group .not fs)).length =
      level * l.width + (text (.group .not fs)).length := by
  rw [layOut_group, if_pos (by simp), List.length_append, Layout.indentation,
    List.length_replicate]

theorem length_layOut_le_succ (hwidth : l.width ≠ 0) (level : Nat) (f : Filter) :
    (f.layOut l level).length ≤ (f.layOut l (level + 1)).length := by
  have hindent (level : Nat) : level * l.width ≤ (level + 1) * l.width :=
    Nat.mul_le_mul_right _ (Nat.le_succ level)
  induction f generalizing level with
  | comparison c =>
      rw [layOut_comparison, layOut_comparison]
      simpa [Layout.indentation] using hindent level
  | group kind children ih =>
      by_cases hkind : kind = .not
      · subst hkind
        rw [length_layOut_not, length_layOut_not]
        exact Nat.add_le_add_right (hindent level) _
      · have hsum : (children.map fun f => (f.layOut l (level + 1)).length + 1).sum ≤
            (children.map fun f => (f.layOut l (level + 1 + 1)).length + 1).sum := by
          exact List.sum_le_sum fun f hf => Nat.succ_le_succ (ih f hf (level + 1))
        have hends := Nat.mul_le_mul_left 2 (hindent level)
        rw [length_layOut_group hwidth hkind, length_layOut_group hwidth hkind]
        omega

theorem shrinks_layOut (hwidth : l.width ≠ 0) (level : Nat) (f : Filter) :
    f.Shrinks fun f => (f.layOut l level).length := by
  induction f generalizing level with
  | comparison c => exact .inl rfl
  | group kind children ih =>
      by_cases hkind : kind = .not
      · subst hkind
        -- below a negation there is one line only, where the level does not count
        refine shrinks_group (fun f _ => shrinks_text f) (fun gs hgs => ?_) (absurd rfl)
        rw [length_layOut_not, length_layOut_not, length_text_group, length_text_group]
        omega
      · have hmembers : ∀ f ∈ children, f.Shrinks fun f => (f.layOut l (level + 1)).length + 1 :=
          fun f hf => Or.imp_right Nat.succ_lt_succ (ih f hf (level + 1))
        refine shrinks_group hmembers (fun gs hgs => ?_) fun _ f => ?_
        · rw [length_layOut_group hwidth hkind, length_layOut_group hwidth hkind]
          omega
        · have hlevel := length_layOut_le_succ hwidth level f
          rw [length_layOut_group hwidth hkind, List.map_singleton, List.sum_singleton]
          omega

/-- A filter and its simplified form are laid out alike only if they are the same. -/
theorem layOut_simplify_eq_iff (hwidth : l.width ≠ 0) (level : Nat) (f : Filter) :
    f.simplify.layOut l level = f.layOut l level ↔ f.simplify = f := by
  constructor
  · intro h
    refine (shrinks_layOut hwidth level f).resolve_right fun hlt => ?_
    exact Nat.ne_of_lt hlt (congrArg List.length h)
  · intro h
    rw [h]

end Spread

end Filter
end SearchFilter
