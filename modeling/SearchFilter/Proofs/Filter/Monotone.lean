import Mathlib.Algebra.Ring.Parity
import SearchFilter.Proofs.Filter.Comparisons
import SearchFilter.Proofs.Filter.Meaning

/-! # Growing records

A record grows when attributes or members of their values are added (`Record.Within`).  Every
comparison asks for a member that passes a test of its own (`accepts_eq_any`), so it is not lost in
a grown record.  A negation turns gains into losses: what a filter may gain or lose depends on how
many negations its comparisons lie under (`leaves`).  One connective carries the values of its
members over in the same direction, or in the other one (`carries_combine`), so the whole tree does
what its comparisons do (`carries_holds`).  Where all of these lie under an even number of negations, the
filter is not lost in a grown record, and where all of them lie under an odd number, it is not gained
(`holds_of_within`). -/

namespace SearchFilter

variable {ρ ρ' : Type} [Record ρ] [Record ρ'] {r : ρ} {r' : ρ'} {policy : OrderPolicy}

/-! ### Members -/

/-- Every attribute of the first record is in the second one, with all of its members. -/
def Record.Within (r : ρ) (r' : ρ') : Prop :=
  ∀ name v, Record.value? r name = some v →
    ∃ v', Record.value? r' name = some v' ∧ v.members ⊆ v'.members

theorem Record.HasMember.mono (h : Record.Within r r') {name : Text} {p : Scalar → Prop}
    (hr : Record.HasMember r name p) : Record.HasMember r' name p := by
  obtain ⟨v, hv, m, hm, hp⟩ := hr
  obtain ⟨v', hv', hmembers⟩ := h name v hv
  exact ⟨v', hv', m, hmembers hm, hp⟩

theorem AttributeValue.equals_eq_any (v : AttributeValue) (value : Text) :
    v.equals value = v.members.any fun m => (single m).equals value := by
  unfold equals
  split
  · simp [matchesPattern, members]
  · simp [equalsWhole, members]

namespace Comparison

/-- A value is accepted if one of its members is, whatever the comparison. -/
theorem accepts_eq_any (c : Comparison) (policy : OrderPolicy) (v : AttributeValue) :
    c.accepts policy v = v.members.any fun m => c.accepts policy (.single m) := by
  unfold accepts
  cases c.operator with
  | equality =>
      cases c.isPresence with
      | true => simp [AttributeValue.isPresent, AttributeValue.members]
      | false => simp [← v.equals_eq_any c.value]
  | lessOrEqual => simp [AttributeValue.isAtMost, AttributeValue.members]
  | greaterOrEqual => simp [AttributeValue.isAtLeast, AttributeValue.members]
  | approximate => simp [AttributeValue.isLike]

theorem holds_iff_hasMember (c : Comparison) : c.holds r policy = true ↔
    Record.HasMember r c.name fun m => c.accepts policy (.single m) = true := by
  rw [holds, Record.HasMember]
  cases Record.value? r c.name with
  | none => simp
  | some v => simp [accepts_eq_any c policy v]

theorem holds_mono (h : Record.Within r r') {c : Comparison} (hc : c.holds r policy = true) :
    c.holds r' policy = true := by
  rw [holds_iff_hasMember] at hc ⊢
  exact hc.mono h

end Comparison

/-! ### Negations -/

/-- The number of negations around the members of a group that `n` negations stand around. -/
def Connective.around (n : Nat) : Connective → Nat
  | not => n + 1
  | _ => n

namespace Filter

mutual

/-- The comparisons of the tree from left to right, each with the number of negations it lies under;
`n` of them stand around the tree. -/
def leaves (n : Nat) : Filter → List (Nat × Comparison)
  | comparison c => [(n, c)]
  | group kind children => leavesAll (kind.around n) children

def leavesAll (n : Nat) : List Filter → List (Nat × Comparison)
  | [] => []
  | f :: fs => leaves n f ++ leavesAll n fs

end

theorem leavesAll_eq_flatMap (n : Nat) (fs : List Filter) :
    leavesAll n fs = fs.flatMap (leaves n) := by
  induction fs with
  | nil => rfl
  | cons f fs ih => rw [leavesAll, ih, List.flatMap_cons]

/-- Under an even number of negations the first value implies the second, under an odd number the
second one implies the first. -/
def Carries (n : Nat) (a b : Bool) : Prop :=
  (Even n → a = true → b = true) ∧ (Odd n → b = true → a = true)

theorem carries_not {n : Nat} {a b : Bool} (h : Carries (n + 1) a b) : Carries n (!a) (!b) := by
  obtain ⟨heven, hodd⟩ := h
  constructor
  · intro hn ha
    have hb := hodd hn.add_one
    cases b with
    | false => rfl
    | true => simp [hb rfl] at ha
  · intro hn hb
    have ha := heven hn.add_one
    cases a with
    | false => rfl
    | true => simp [ha rfl] at hb

theorem carries_combine {n : Nat} (kind : Connective) {fs : List Filter} {p q : Filter → Bool}
    (h : ∀ f ∈ fs, Carries (kind.around n) (p f) (q f)) :
    Carries n (kind.combine (fs.map p)) (kind.combine (fs.map q)) := by
  have hany : ∀ {k}, (∀ f ∈ fs, Carries k (p f) (q f)) →
      Carries k ((fs.map p).any id) ((fs.map q).any id) := by
    intro k hk
    simp only [Carries, List.any_map, Function.id_comp, List.any_eq_true]
    constructor
    · rintro hn ⟨f, hf, hp⟩
      exact ⟨f, hf, (hk f hf).1 hn hp⟩
    · rintro hn ⟨f, hf, hq⟩
      exact ⟨f, hf, (hk f hf).2 hn hq⟩
  cases kind with
  | and =>
      simp only [Carries, Connective.combine, List.all_map, Function.id_comp, List.all_eq_true]
      exact ⟨fun hn hp f hf => (h f hf).1 hn (hp f hf), fun hn hq f hf => (h f hf).2 hn (hq f hf)⟩
  | or => exact hany h
  | not => exact carries_not (hany h)

/-- A filter carries over what its comparisons do. -/
theorem carries_holds {n : Nat} {f : Filter}
    (h : ∀ l ∈ f.leaves n, Carries l.1 (l.2.holds r policy) (l.2.holds r' policy)) :
    Carries n (holds r policy f) (holds r' policy f) := by
  induction f generalizing n with
  | comparison c => exact h (n, c) (List.mem_singleton_self _)
  | group kind children ih =>
      rw [leaves, leavesAll_eq_flatMap] at h
      rw [holds_group, holds_group]
      refine carries_combine kind fun f hf => ih f hf fun l hl => ?_
      exact h l (List.mem_flatMap.mpr ⟨f, hf, hl⟩)

/-- **Filters are monotone in the record**: where every comparison lies under an even number of
negations, a filter that holds for a record holds for any record that this one is within; where
every comparison lies under an odd number, a filter that holds for the grown record holds for the
smaller one. -/
theorem holds_of_within (h : Record.Within r r') (policy : OrderPolicy) (f : Filter) :
    ((∀ l ∈ f.leaves 0, Even l.1) → holds r policy f = true → holds r' policy f = true) ∧
      ((∀ l ∈ f.leaves 0, Odd l.1) → holds r' policy f = true → holds r policy f = true) := by
  have hgrows : ∀ c : Comparison, c.holds r policy = true → c.holds r' policy = true :=
    fun c => c.holds_mono h
  constructor
  · intro heven
    refine (carries_holds fun l hl => ?_).1 Even.zero
    exact ⟨fun _ => hgrows l.2, fun hodd => absurd (heven l hl) (Nat.not_even_iff_odd.mpr hodd)⟩
  · intro hodd
    refine (carries_holds fun l hl => ?_).1 Even.zero
    exact ⟨fun heven => absurd (hodd l hl) (Nat.not_odd_iff_even.mpr heven), fun _ => hgrows l.2⟩

/-- A single number becomes a sequence that holds it twice, and an attribute with the empty text
comes in; the comparisons lie under no negation and under two, or under one and under three. -/
theorem holds_of_within_entries :
    let r := Entry.empty.insert ['a'] (.single (.integer 5))
    let r' := (Entry.empty.insert ['b'] (.single (.text []))).insert ['a']
      (.multi [.text ['x'], .integer 5, .integer 5])
    let f : Filter := .group .and [.comparison ⟨['a'], .greaterOrEqual, ['4']⟩,
      .group .not [.group .or [.group .not [.comparison ⟨['a'], .equality, ['5']⟩]]]]
    let g : Filter := .group .not [.group .or [.comparison ⟨['a'], .equality, ['y', '*']⟩,
      .group .not [.group .not [.comparison ⟨['b'], .equality, ['*']⟩]]]]
    Record.Within r r' ∧
      ((∀ l ∈ f.leaves 0, Even l.1) ∧ holds r .natural f = true ∧ holds r' .natural f = true) ∧
      (∀ l ∈ g.leaves 0, Odd l.1) ∧ holds r' .natural g = true ∧ holds r .natural g = true := by
  intro r r' f g
  have hwithin : Record.Within r r' := by
    intro name v hv
    by_cases hname : name = ['a']
    · subst hname
      obtain rfl : AttributeValue.single (.integer 5) = v := Option.some.inj hv
      exact ⟨_, rfl, by simp [AttributeValue.members]⟩
    · have hnone : Record.value? r name = none :=
        (Entry.value?_insert Entry.empty ['a'] _ name).trans (if_neg hname)
      rw [hnone] at hv
      cases hv
  have heven : ∀ l ∈ f.leaves 0, Even l.1 := by decide
  have hodd : ∀ l ∈ g.leaves 0, Odd l.1 := by decide
  have hf : holds r .natural f = true := by decide
  have hg : holds r' .natural g = true := by decide
  exact ⟨hwithin, ⟨heven, hf, (holds_of_within hwithin .natural f).1 heven hf⟩, hodd, hg,
    (holds_of_within hwithin .natural g).2 hodd hg⟩

end Filter
end SearchFilter
