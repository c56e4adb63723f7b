import Mathlib.Logic.Relation
import SearchFilter.Filter.Construct
import SearchFilter.Proofs.Filter.Locality

/-! # Rewriting filters

The laws of Boolean algebra that a filter may be rewritten by (`Law`): the order and the repetition
of the members of a group do not matter, a group in a group of its own kind may be dissolved, a
negation may be moved inwards, two negations may be left out, and a filter absorbs a disjunction
that it is a member of.  A law that is applied anywhere in a tree (`Rewrites`) leaves the value of
the tree as it is, whatever the values of the comparisons are (`Law.eval_eq`,
`Rewrites.eval_eq`); an attribute that a record does not have makes no exception, since a comparison
on it is false and its negation is true.  So a filter that was rewritten any number of times holds
for the records it held for before (`holds_of_rewrites`). -/

namespace SearchFilter

/-! ### Groups of values -/

namespace Connective

variable {kind : Connective}

theorem combine_perm {bs cs : List Bool} (h : bs.Perm cs) : kind.combine bs = kind.combine cs := by
  cases kind with
  | and => exact h.all_eq
  | or => exact h.any_eq
  | not => exact congrArg (!·) h.any_eq

theorem combine_cons_of_mem {b : Bool} {bs : List Bool} (h : b ∈ bs) :
    kind.combine (b :: bs) = kind.combine bs := by
  have hall : (b :: bs).all id = bs.all id := by
    rw [List.all_cons, Bool.and_eq_right_iff_imp]
    exact fun hbs => List.all_eq_true.mp hbs b h
  have hany : (b :: bs).any id = bs.any id := by
    rw [List.any_cons, Bool.or_eq_right_iff_imp]
    exact fun hb => List.any_eq_true.mpr ⟨b, h, hb⟩
  cases kind with
  | and => exact hall
  | or => exact hany
  | not => exact congrArg (!·) hany

theorem combine_splice (hkind : kind ≠ .not) (bs cs ds : List Bool) :
    kind.combine (bs ++ kind.combine cs :: ds) = kind.combine (bs ++ cs ++ ds) := by
  cases kind with
  | and => simp [combine]
  | or => simp [combine]
  | not => exact absurd rfl hkind

theorem not_combine_and (bs : List Bool) : (!and.combine bs) = or.combine (bs.map (!·)) := by
  simp [combine, List.not_all_eq_any_not]

theorem not_combine_or (bs : List Bool) : (!or.combine bs) = and.combine (bs.map (!·)) := by
  simp [combine, List.not_any_eq_all_not]

end Connective

namespace Filter

/-! ### Laws -/

/-- The left filter may be replaced by the right one. -/
inductive Law : Filter → Filter → Prop
  | permute {kind : Connective} {fs gs : List Filter} (h : fs.Perm gs) :
      Law (.group kind fs) (.group kind gs)
  | duplicate {kind : Connective} {f : Filter} {fs : List Filter} (h : f ∈ fs) :
      Law (.group kind fs) (.group kind (f :: fs))
  | splice {kind : Connective} (hkind : kind ≠ .not) (before fs after : List Filter) :
      Law (.group kind (before ++ .group kind fs :: after)) (.group kind (before ++ fs ++ after))
  | negateAnd (fs : List Filter) :
      Law (negate (.group .and fs)) (.group .or (fs.map negate))
  | negateOr (fs : List Filter) :
      Law (negate (.group .or fs)) (.group .and (fs.map negate))
  | negateTwice (f : Filter) : Law (negate (negate f)) f
  | absorb (f : Filter) (gs : List Filter) : Law (.group .and [f, .group .or (f :: gs)]) f

/-- One law is applied at one place of a tree. -/
inductive Rewrites : Filter → Filter → Prop
  | law {f g : Filter} (h : Law f g) : Rewrites f g
  | inside {kind : Connective} (before after : List Filter) {f g : Filter} (h : Rewrites f g) :
      Rewrites (.group kind (before ++ f :: after)) (.group kind (before ++ g :: after))

variable {f g : Filter} (p : Comparison → Bool)

theorem eval_negate (f : Filter) : (negate f).eval p = !f.eval p := by
  simp [negate, eval_group, Connective.combine]

theorem map_eval_map_negate (fs : List Filter) :
    (fs.map negate).map (eval p) = (fs.map (eval p)).map (!·) := by
  rw [List.map_map, List.map_map]
  exact List.map_congr_left fun f _ => eval_negate p f

/-- A law holds whatever the values of the comparisons are. -/
theorem Law.eval_eq (h : Law f g) : f.eval p = g.eval p := by
  cases h with
  | permute hperm =>
      rw [eval_group, eval_group]
      exact Connective.combine_perm (hperm.map _)
  | duplicate hmem =>
      rw [eval_group, eval_group, List.map_cons]
      exact (Connective.combine_cons_of_mem (List.mem_map_of_mem hmem)).symm
  | splice hkind before fs after =>
      rw [eval_group, eval_group, List.map_append, List.map_cons, eval_group, List.map_append,
        List.map_append]
      exact Connective.combine_splice hkind _ _ _
  | negateAnd fs =>
      rw [eval_negate, eval_group, eval_group, map_eval_map_negate, Connective.not_combine_and]
  | negateOr fs =>
      rw [eval_negate, eval_group, eval_group, map_eval_map_negate, Connective.not_combine_or]
  | negateTwice => rw [eval_negate, eval_negate, Bool.not_not]
  | absorb g gs => cases hg : g.eval p <;> simp [eval_group, Connective.combine, hg]

theorem eval_group_congr (kind : Connective) (before after : List Filter)
    (h : f.eval p = g.eval p) :
    (group kind (before ++ f :: after)).eval p = (group kind (before ++ g :: after)).eval p := by
  simp only [eval_group, List.map_append, List.map_cons, h]

theorem Rewrites.eval_eq (h : Rewrites f g) : f.eval p = g.eval p := by
  induction h with
  | law h => exact h.eval_eq p
  | inside before after _ ih => exact eval_group_congr p _ before after ih

/-- **Evaluation respects Boolean algebra**: filters that are rewritten into each other by any number
of laws, each of them at any place of the tree and in either direction, hold for the same records
under the same policies. -/
theorem holds_of_rewrites {ρ : Type} [Record ρ] (h : Relation.EqvGen Rewrites f g) (r : ρ)
    (policy : OrderPolicy) : holds r policy f = holds r policy g := by
  induction h with
  | rel f g hstep => rw [holds_eq_eval, holds_eq_eval, hstep.eval_eq]
  | refl f => rfl
  | symm f g _ ih => exact ih.symm
  | trans f g k _ _ hfirst hsecond => exact hfirst.trans hsecond

/-- Two negations are left out, a disjunction is absorbed, the outer negation is moved inwards and the
members change places; the record has only one of the two attributes. -/
theorem holds_of_rewrites_nested :
    let a : Filter := .comparison ⟨['a'], .equality, ['1']⟩
    let b : Filter := .comparison ⟨['b'], .greaterOrEqual, ['2']⟩
    let r := Entry.empty.insert ['a'] (.single (.integer 1))
    let f := negate (.group .and [b, .group .and [negate (negate a), .group .or [a, b]]])
    let g : Filter := .group .or [negate a, negate b]
    ∀ policy, holds r policy f = holds r policy g ∧ holds r policy g = true := by
  intro a b r f g policy
  have hnegations : Rewrites f
      (negate (.group .and [b, .group .and [a, .group .or [a, b]]])) :=
    .inside [] [] (.inside [b] [] (.inside [] [.group .or [a, b]] (.law (.negateTwice a))))
  have habsorb : Rewrites (negate (.group .and [b, .group .and [a, .group .or [a, b]]]))
      (negate (.group .and [b, a])) :=
    .inside [] [] (.inside [b] [] (.law (.absorb a [b])))
  have hinwards : Rewrites (negate (.group .and [b, a])) (.group .or [negate b, negate a]) :=
    .law (.negateAnd [b, a])
  have hpermute : Rewrites (.group .or [negate b, negate a]) g := .law (.permute (.swap _ _ _))
  have hrewrites : Relation.EqvGen Rewrites f g :=
    .trans _ _ _ (.rel _ _ hnegations) <| .trans _ _ _ (.rel _ _ habsorb) <|
      .trans _ _ _ (.rel _ _ hinwards) (.rel _ _ hpermute)
  exact ⟨holds_of_rewrites hrewrites r policy, by cases policy <;> decide⟩

end Filter
end SearchFilter
