import SearchFilter.Proofs.Escape
import SearchFilter.Proofs.Filter.Meaning
import SearchFilter.Proofs.Number.Order

/-! # When the natural order is transitive

The natural order of two texts (`AtMost`) is that of two numbers if both are numbers, and their
order as texts (`PrecedesOrEquals`) if not.  Either of the two orders is transitive by itself, the
first one up to rounding, but a chain of two steps may change from one to the other.  `OneOrder`
says of three texts that it does not matter: where one of them is no number, the other two stand in
the same order as numbers and as texts, and no two integers meet the number between them that both
are rounded to.  Then the order carries over (`AtMost.trans`), so a text between two bounds shows
that the lower one is at most the upper one (`isAtMost_trans`).  None of the conditions can be left
out (`isAtMost_not_trans`). -/

namespace SearchFilter

namespace Text

open Binary64 (roundInt)

/-- The first text is not after the second one in the natural order. -/
def AtMost (s t : Text) : Prop := (Scalar.text s).compareWith .natural t ≠ .gt

/-- The first text is not after the second one as a text. -/
def PrecedesOrEquals (s t : Text) : Prop := (Scalar.text s).compareAsText t ≠ .gt

instance (s t : Text) : Decidable (AtMost s t) := inferInstanceAs (Decidable (_ ≠ _))

instance (s t : Text) : Decidable (PrecedesOrEquals s t) := inferInstanceAs (Decidable (_ ≠ _))

variable {s t x y z : Text} {a b : Number}

/-! ### The two orders -/

theorem atMost_iff_of_none (h : Number.read? s = none ∨ Number.read? t = none) :
    AtMost s t ↔ PrecedesOrEquals s t := by
  rw [AtMost, PrecedesOrEquals, Scalar.compareWith_of_none (m := .text s) h]

theorem atMost_iff_of_read? (hs : Number.read? s = some a) (ht : Number.read? t = some b) :
    AtMost s t ↔ a.AtMost b := by
  obtain ⟨o, ho, -⟩ := Number.exists_compare?_eq (Number.finite_of_read? hs)
    (Number.finite_of_read? ht)
  rw [AtMost, Scalar.compareWith, Scalar.compareAsNumber?_eq (m := .text s) hs ht, Number.AtMost, ho]
  simp

theorem PrecedesOrEquals.trans (hst : PrecedesOrEquals s t) (htx : PrecedesOrEquals t x) :
    PrecedesOrEquals s x :=
  Ordering.isLE_iff_ne_gt.mp <| Std.TransCmp.isLE_trans (Ordering.isLE_iff_ne_gt.mpr hst)
    (Ordering.isLE_iff_ne_gt.mpr htx)

theorem compareWith_swap (s t : Text) :
    (Scalar.text t).compareWith .natural s = ((Scalar.text s).compareWith .natural t).swap := by
  have htexts : (Scalar.text t).compareAsText s = ((Scalar.text s).compareAsText t).swap :=
    Std.OrientedCmp.eq_swap
  cases hs : Number.read? s with
  | none =>
      rw [Scalar.compareWith_of_none (.inr hs), Scalar.compareWith_of_none (m := .text s) (.inl hs),
        htexts]
  | some a =>
      cases ht : Number.read? t with
      | none =>
          rw [Scalar.compareWith_of_none (m := .text t) (.inl ht),
            Scalar.compareWith_of_none (.inr ht), htexts]
      | some b =>
          obtain ⟨o, ho, hswap⟩ := Number.exists_compare?_eq (Number.finite_of_read? hs)
            (Number.finite_of_read? ht)
          rw [Scalar.compareWith, Scalar.compareWith, Scalar.compareAsNumber?_eq (m := .text s) hs ht,
            Scalar.compareAsNumber?_eq (m := .text t) ht hs, ho, hswap]
          rfl

/-! ### Three texts -/

/-- Where one of the texts is no number, the other two stand in the same order as numbers and as
texts; and two outer integers with a floating-point number between them that both are rounded to
stand in the order of the texts. -/
structure OneOrder (x y z : Text) : Prop where
  first : Number.read? z = none → (AtMost x y ↔ PrecedesOrEquals x y)
  last : Number.read? x = none → (AtMost y z ↔ PrecedesOrEquals y z)
  outer : Number.read? y = none → (AtMost x z ↔ PrecedesOrEquals x z)
  rounded : ∀ (m n : Int64) (v : Binary64), Number.read? x = some (.integer m) →
    Number.read? y = some (.float v) → Number.read? z = some (.integer n) →
    roundInt m.toInt = roundInt n.toInt → m ≤ n

/-- The natural order of three texts that stand in one order is transitive. -/
theorem AtMost.trans (h : OneOrder x y z) (hxy : AtMost x y) (hyz : AtMost y z) : AtMost x z := by
  cases hx : Number.read? x with
  | none =>
      rw [atMost_iff_of_none (.inl hx)] at hxy ⊢
      exact hxy.trans ((h.last hx).mp hyz)
  | some a =>
      cases hz : Number.read? z with
      | none =>
          rw [atMost_iff_of_none (.inr hz)] at hyz ⊢
          exact ((h.first hz).mp hxy).trans hyz
      | some c =>
          cases hy : Number.read? y with
          | none =>
              rw [atMost_iff_of_none (.inr hy)] at hxy
              rw [atMost_iff_of_none (.inl hy)] at hyz
              exact (h.outer hy).mpr (hxy.trans hyz)
          | some b =>
              rw [atMost_iff_of_read? hx hy] at hxy
              rw [atMost_iff_of_read? hy hz] at hyz
              rw [atMost_iff_of_read? hx hz]
              refine Number.AtMost.trans (Number.finite_of_read? hx) (Number.finite_of_read? hy)
                (Number.finite_of_read? hz) hxy hyz fun m n hm hinteger hn => ?_
              cases b with
              | integer k => exact absurd ⟨k, rfl⟩ hinteger
              | float v => exact h.rounded m n v (hm ▸ hx) hy (hn ▸ hz)

end Text

namespace AttributeValue

open Text (AtMost OneOrder)

variable {s t x y z : Text}

theorem isAtMost_text_iff (ht : '\\' ∉ t) :
    (single (.text s)).isAtMost .natural t = true ↔ AtMost s t := by
  rw [isAtMost_iff_of_members rfl, decode_of_not_mem ht, AtMost]

theorem isAtLeast_text_iff (ht : '\\' ∉ t) :
    (single (.text s)).isAtLeast .natural t = true ↔ AtMost t s := by
  rw [isAtLeast_iff_of_members rfl, decode_of_not_mem ht, AtMost, Text.compareWith_swap s t, ne_eq,
    ne_eq, Ordering.swap_eq_gt]

/-- **The natural order is an order where one rule decides**: if three texts stand in one order, the
first is at most the third whenever it is at most the second and this at most the third, and a text
that a filter finds between two bounds shows that the lower bound is at most the upper one. -/
theorem isAtMost_trans (hz : '\\' ∉ z) (h : OneOrder x y z) :
    ('\\' ∉ y → (single (.text x)).isAtMost .natural y = true →
      (single (.text y)).isAtMost .natural z = true →
      (single (.text x)).isAtMost .natural z = true) ∧
    ('\\' ∉ x → ∀ {ρ : Type} [Record ρ] (r : ρ) (name : Text),
      Record.value? r name = some (single (.text y)) →
      Filter.holds r .natural (.group .and [.comparison ⟨name, .greaterOrEqual, x⟩,
        .comparison ⟨name, .lessOrEqual, z⟩]) = true →
      (single (.text x)).isAtMost .natural z = true) := by
  rw [isAtMost_text_iff hz, isAtMost_text_iff hz]
  constructor
  · intro hy hxy hyz
    rw [isAtMost_text_iff hy] at hxy
    exact hxy.trans h hyz
  · intro hx ρ _ r name hr hrange
    have hbounds : (single (.text y)).isAtLeast .natural x = true ∧
        (single (.text y)).isAtMost .natural z = true := by
      rw [Filter.holds_group] at hrange
      simpa [Connective.combine, Filter.holds, Comparison.holds, hr, Comparison.accepts]
        using hrange
    rw [isAtLeast_text_iff hx, isAtMost_text_iff hz] at hbounds
    exact hbounds.1.trans h hbounds.2

/-- Two integers stand in order on both sides of the number that both are rounded to, and two numbers
stand in order on both sides of a text that is no number. -/
theorem isAtMost_trans_between :
    let below (s t : String) : Bool := (single (.text s.toList)).isAtMost .natural t.toList
    let r := Entry.empty.insert ['n'] (single (.text "1a".toList))
    (below "9007199254740992" "9007199254740992.0" = true ∧
        below "9007199254740992.0" "9007199254740993" = true ∧
        below "9007199254740992" "9007199254740993" = true) ∧
      Filter.holds r .natural (.group .and [.comparison ⟨['n'], .greaterOrEqual, "10".toList⟩,
        .comparison ⟨['n'], .lessOrEqual, "20".toList⟩]) = true ∧
      below "10" "20" = true := by
  intro below r
  have hm : Number.read? "9007199254740992".toList = some (.integer 9007199254740992) := by
    decide +kernel
  have hn : Number.read? "9007199254740993".toList = some (.integer 9007199254740993) := by
    decide +kernel
  have hlo : Number.read? "10".toList = some (.integer 10) := by decide +kernel
  have hv : Number.read? "1a".toList = none := by decide +kernel
  have hhi : Number.read? "20".toList = some (.integer 20) := by decide +kernel
  have hnumbers : OneOrder "9007199254740992".toList "9007199254740992.0".toList
      "9007199254740993".toList :=
    { first := fun h => nomatch hn.symm.trans h
      last := fun h => nomatch hm.symm.trans h
      outer := fun h => absurd h (by decide +kernel)
      rounded := by
        intro a b v ha _ hb _
        cases hm.symm.trans ha
        cases hn.symm.trans hb
        decide }
  have hmixed : OneOrder "10".toList "1a".toList "20".toList :=
    { first := fun h => nomatch hhi.symm.trans h
      last := fun h => nomatch hlo.symm.trans h
      outer := fun _ => by decide +kernel
      rounded := fun _ _ _ _ h _ _ => nomatch hv.symm.trans h }
  have hfirst : below "9007199254740992" "9007199254740992.0" = true := by decide +kernel
  have hlast : below "9007199254740992.0" "9007199254740993" = true := by decide +kernel
  have hrange : Filter.holds r .natural (.group .and
      [.comparison ⟨['n'], .greaterOrEqual, "10".toList⟩,
        .comparison ⟨['n'], .lessOrEqual, "20".toList⟩]) = true := by decide +kernel
  have houter := (isAtMost_trans (by decide) hnumbers).1 (by decide) hfirst hlast
  have hbounds := (isAtMost_trans (by decide) hmixed).2 (by decide) r ['n'] rfl hrange
  exact ⟨⟨hfirst, hlast, houter⟩, hrange, hbounds⟩

/-- The order changes from texts to numbers in the outer pair, from numbers to texts in the first
one, or from texts to numbers in the last one; or a number between two integers is rounded to both of
them.  So a text stands between two bounds that nothing is between. -/
theorem isAtMost_not_trans :
    let below (s t : String) : Bool := (single (.text s.toList)).isAtMost .natural t.toList
    let r := Entry.empty.insert ['n'] (single (.text ['1', 'a']))
    (below "10" "1a" = true ∧ below "1a" "9" = true ∧ below "10" "9" = false) ∧
      (below "9" "10" = true ∧ below "10" "1a" = true ∧ below "9" "1a" = false) ∧
      (below "1a" "9" = true ∧ below "9" "10" = true ∧ below "1a" "10" = false) ∧
      (below "9007199254740993" "9007199254740992.0" = true ∧
        below "9007199254740992.0" "9007199254740992" = true ∧
        below "9007199254740993" "9007199254740992" = false) ∧
      Filter.holds r .natural (.group .and [.comparison ⟨['n'], .greaterOrEqual, ['1', '0']⟩,
        .comparison ⟨['n'], .lessOrEqual, ['9']⟩]) = true := by
  decide +kernel

end AttributeValue
end SearchFilter
