import Mathlib.Data.List.Basic
import SearchFilter.Proofs.Filter.Meaning

/-! # The canonical form of a filter

A conjunction or disjunction of a single filter adds nothing to it.  `Alike` is the least congruence
that identifies such a group with its only member, wherever it stands in a tree, and a filter is
`Canonical` if it has no such group.  Simplification takes every filter to a canonical one that is
alike (`canonical_simplify`, `alike_simplify`) and leaves canonical ones as they are
(`simplify_of_canonical`), so it picks one filter from each class of the congruence
(`simplify_eq_simplify_iff_alike`).  Read from the root on, the nodes of the simplified filter are
those of the filter without the groups that add nothing (`preorder_simplify`). -/

namespace SearchFilter
namespace Filter

/-! ### Groups that add nothing -/

/-- A conjunction or disjunction of a single filter. -/
def Node.isLone : Node → Bool
  | .leaf _ => false
  | .inner kind n => kind != .not && n == 1

/-- No conjunction or disjunction in the tree has exactly one member. -/
def Canonical (f : Filter) : Prop :=
  f.Every (fun _ => True) fun kind n => (Node.inner kind n).isLone = false

mutual

/-- The least congruence that identifies every filter with the conjunction and the disjunction of
this filter alone. -/
inductive Alike : Filter → Filter → Prop
  | refl (f : Filter) : Alike f f
  | symm {f g : Filter} : Alike f g → Alike g f
  | trans {f g h : Filter} : Alike f g → Alike g h → Alike f h
  | group (kind : Connective) {fs gs : List Filter} :
      AlikeAll fs gs → Alike (.group kind fs) (.group kind gs)
  | conjunction (f : Filter) : Alike f (.group .and [f])
  | disjunction (f : Filter) : Alike f (.group .or [f])

/-- The filters of two lists of one length are alike in pairs. -/
inductive AlikeAll : List Filter → List Filter → Prop
  | nil : AlikeAll [] []
  | cons {f g : Filter} {fs gs : List Filter} :
      Alike f g → AlikeAll fs gs → AlikeAll (f :: fs) (g :: gs)

end

theorem collapse_eq_or (kind : Connective) (fs : List Filter) :
    (∃ f, fs = [f] ∧ kind ≠ .not ∧ collapse kind fs = f) ∨
      ((Node.inner kind fs.length).isLone = false ∧ collapse kind fs = .group kind fs) := by
  unfold collapse
  split
  · rename_i f
    exact .inl ⟨f, rfl, by decide, rfl⟩
  · rename_i f
    exact .inl ⟨f, rfl, by decide, rfl⟩
  · rename_i hand hor
    refine .inr ⟨?_, rfl⟩
    rw [Node.isLone, Bool.and_eq_false_imp]
    intro hkind
    have hlength : fs.length ≠ 1 := by
      intro hlength
      obtain ⟨f, rfl⟩ := List.length_eq_one_iff.mp hlength
      cases kind with
      | and => exact hand f rfl rfl
      | or => exact hor f rfl rfl
      | not => simp at hkind
    simpa using hlength

theorem isLone_of_ne_not {kind : Connective} (h : kind ≠ .not) :
    (Node.inner kind 1).isLone = true := by
  simpa [Node.isLone] using h

/-! ### Simplified filters -/

theorem canonical_simplify (f : Filter) : f.simplify.Canonical := by
  induction f with
  | comparison c => exact .comparison trivial
  | group kind children ih =>
      have hchildren : ∀ g ∈ children.map simplify, g.Canonical := by
        intro g hg
        obtain ⟨f, hf, rfl⟩ := List.mem_map.mp hg
        exact ih f hf
      rw [simplify, simplifyAll_eq_map]
      rcases collapse_eq_or kind (children.map simplify) with ⟨g, hg, -, heq⟩ | ⟨hn, heq⟩
      · rw [heq]
        exact hchildren g (by simp [hg])
      · rw [heq]
        exact .group hn hchildren

theorem simplify_of_canonical {f : Filter} (h : f.Canonical) : f.simplify = f := by
  induction h with
  | comparison _ => rfl
  | @group kind children hn _ ih =>
      have hchildren : children.map simplify = children := by
        rw [List.map_congr_left ih, List.map_id']
      rw [simplify, simplifyAll_eq_map, hchildren]
      rcases collapse_eq_or kind children with ⟨f, rfl, hkind, -⟩ | ⟨-, heq⟩
      · have hlone := isLone_of_ne_not hkind
        exact absurd hn (by simp [hlone])
      · exact heq

/-! ### The congruence -/

theorem alike_collapse (kind : Connective) (fs : List Filter) :
    Alike (.group kind fs) (collapse kind fs) := by
  rcases collapse_eq_or kind fs with ⟨f, rfl, hkind, heq⟩ | ⟨-, heq⟩
  · rw [heq]
    cases kind with
    | and => exact .symm (.conjunction f)
    | or => exact .symm (.disjunction f)
    | not => exact absurd rfl hkind
  · rw [heq]
    exact .refl _

theorem alikeAll_map {g : Filter → Filter} {fs : List Filter} (h : ∀ f ∈ fs, Alike f (g f)) :
    AlikeAll fs (fs.map g) := by
  induction fs with
  | nil => exact .nil
  | cons f fs ih =>
      obtain ⟨hf, hfs⟩ := List.forall_mem_cons.mp h
      exact .cons hf (ih hfs)

theorem alike_simplify (f : Filter) : Alike f f.simplify := by
  induction f with
  | comparison c => exact .refl _
  | group kind children ih =>
      rw [simplify, simplifyAll_eq_map]
      exact .trans (.group kind (alikeAll_map ih)) (alike_collapse kind _)

mutual

theorem Alike.simplify_eq {f g : Filter} : Alike f g → f.simplify = g.simplify
  | .refl _ => rfl
  | .symm h => h.simplify_eq.symm
  | .trans h₁ h₂ => h₁.simplify_eq.trans h₂.simplify_eq
  | .group kind h => congrArg (collapse kind) h.simplifyAll_eq
  | .conjunction _ => rfl
  | .disjunction _ => rfl

theorem AlikeAll.simplifyAll_eq {fs gs : List Filter} :
    AlikeAll fs gs → simplifyAll fs = simplifyAll gs
  | .nil => rfl
  | .cons h hs => congrArg₂ List.cons h.simplify_eq hs.simplifyAll_eq

end

section Meaning
variable {ρ : Type} [Record ρ] (r : ρ) (policy : OrderPolicy)

mutual

theorem Alike.holds_eq {f g : Filter} : Alike f g → holds r policy f = holds r policy g
  | .refl _ => rfl
  | .symm h => h.holds_eq.symm
  | .trans h₁ h₂ => h₁.holds_eq.trans h₂.holds_eq
  | .group kind h => by rw [holds_group, holds_group, h.map_holds_eq]
  | .conjunction _ => by simp [holds_group, Connective.combine]
  | .disjunction _ => by simp [holds_group, Connective.combine]

theorem AlikeAll.map_holds_eq {fs gs : List Filter} :
    AlikeAll fs gs → fs.map (holds r policy) = gs.map (holds r policy)
  | .nil => rfl
  | .cons h hs => congrArg₂ List.cons h.holds_eq hs.map_holds_eq

end

end Meaning

/-! ### What is left -/

/-- The nodes of the tree, each one before those below it. -/
def preorder (f : Filter) : List Node := (f.nodes 0).map Prod.snd

theorem nodesAll_eq_flatMap (depth : Nat) (fs : List Filter) :
    nodesAll depth fs = fs.flatMap (nodes depth) := by
  induction fs with
  | nil => rfl
  | cons f fs ih => rw [nodesAll, ih, List.flatMap_cons]

/-- The depth is only noted beside the nodes. -/
theorem map_snd_nodes (depth : Nat) (f : Filter) : (f.nodes depth).map Prod.snd = f.preorder := by
  induction f generalizing depth with
  | comparison c => rfl
  | group kind children ih =>
      have hchildren : ∀ d, (nodesAll d children).map Prod.snd = children.flatMap preorder := by
        intro d
        rw [nodesAll_eq_flatMap, List.map_flatMap]
        exact List.flatMap_congr fun f hf => ih f hf d
      rw [preorder, nodes, nodes, List.map_cons, List.map_cons, hchildren, hchildren]

theorem preorder_group (kind : Connective) (fs : List Filter) :
    preorder (.group kind fs) = .inner kind fs.length :: fs.flatMap preorder := by
  rw [preorder, nodes, List.map_cons, nodesAll_eq_flatMap, List.map_flatMap]
  simp only [map_snd_nodes]

theorem preorder_collapse (kind : Connective) (fs : List Filter) :
    preorder (collapse kind fs) =
      [Node.inner kind fs.length].filter (!·.isLone) ++ fs.flatMap preorder := by
  rcases collapse_eq_or kind fs with ⟨f, rfl, hkind, heq⟩ | ⟨hlone, heq⟩
  · have hlone := isLone_of_ne_not hkind
    rw [heq]
    simp [hlone]
  · rw [heq, preorder_group]
    simp [hlone]

/-- The nodes of a simplified filter are those of the filter that add something, in their order. -/
theorem preorder_simplify (f : Filter) :
    f.simplify.preorder = f.preorder.filter (!·.isLone) := by
  induction f with
  | comparison c => rfl
  | group kind children ih =>
      have hchildren : (children.map simplify).flatMap preorder =
          (children.flatMap preorder).filter (!·.isLone) := by
        rw [List.flatMap_map, List.filter_flatMap]
        exact List.flatMap_congr ih
      rw [simplify, simplifyAll_eq_map, preorder_collapse, List.length_map, hchildren,
        preorder_group, ← List.filter_append, List.singleton_append]

/-- **Simplification computes a canonical form**: no conjunction or disjunction with exactly one
member is left at any depth, nothing else is lost or moved, a second simplification changes nothing,
and two filters have the same simplified form exactly if they differ in such groups only. -/
theorem simplify_eq_simplify_iff_alike :
    (∀ f : Filter, f.simplify.Canonical ∧ f.simplify.simplify = f.simplify ∧
      f.simplify.preorder = f.preorder.filter (!·.isLone)) ∧
    ∀ f g : Filter, f.simplify = g.simplify ↔ Alike f g := by
  refine ⟨fun f => ⟨canonical_simplify f, ?_, preorder_simplify f⟩, fun f g => ⟨fun h => ?_, ?_⟩⟩
  · exact simplify_of_canonical (canonical_simplify f)
  · have hf : Alike f g.simplify := h ▸ alike_simplify f
    exact .trans hf (.symm (alike_simplify g))
  · exact Alike.simplify_eq

end Filter
end SearchFilter
