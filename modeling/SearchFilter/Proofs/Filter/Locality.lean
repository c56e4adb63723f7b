import SearchFilter.Proofs.Filter.Monotone

/-! # What a filter sees

A filter is a Boolean term over its comparisons (`eval`), and its value for a record is the value of
this term where every comparison has its own value for the record (`holds_eq_eval`).  The value of a
term is fixed by the values of the comparisons that occur in it (`eval_congr`), and a comparison
looks up the attribute that it names and nothing else (`Comparison.holds_congr`); of the policy it
takes notice only if it orders values (`Comparison.accepts_of_not_orders`).  So two records that
agree on the attributes that a filter names are the same to the filter (`holds_of_agree`). -/

namespace SearchFilter

/-- Whether an operator asks for the order of two values. -/
def Operator.orders : Operator → Bool
  | lessOrEqual => true
  | greaterOrEqual => true
  | equality => false
  | approximate => false

variable {ρ ρ' : Type} [Record ρ] [Record ρ'] {r : ρ} {r' : ρ'} {policy policy' : OrderPolicy}

/-! ### One comparison -/

/-- The policy is about order only. -/
theorem Comparison.accepts_of_not_orders {c : Comparison} (hc : c.operator.orders = false)
    (policy policy' : OrderPolicy) (v : AttributeValue) :
    c.accepts policy v = c.accepts policy' v := by
  unfold accepts
  cases hoperator : c.operator with
  | equality => rfl
  | approximate => rfl
  | lessOrEqual =>
      rw [hoperator] at hc
      cases hc
  | greaterOrEqual =>
      rw [hoperator] at hc
      cases hc

theorem Comparison.holds_congr {c : Comparison}
    (hvalue : Record.value? r c.name = Record.value? r' c.name)
    (hpolicy : policy = policy' ∨ c.operator.orders = false) :
    c.holds r policy = c.holds r' policy' := by
  rw [holds, holds, hvalue]
  cases Record.value? r' c.name with
  | none => rfl
  | some v =>
      rcases hpolicy with rfl | hc
      · rfl
      · exact c.accepts_of_not_orders hc policy policy' v

theorem Comparison.holds_of_none {c : Comparison} (h : Record.value? r c.name = none) :
    c.holds r policy = false := by
  rw [holds, h]

namespace Filter

/-! ### Comparisons that occur in a filter -/

/-- The comparisons of the tree from left to right. -/
def comparisons (f : Filter) : List Comparison := (f.leaves 0).map Prod.snd

/-- The names of the attributes that the filter asks for. -/
def names (f : Filter) : List Text := f.comparisons.map Comparison.name

theorem map_snd_leaves (n : Nat) (f : Filter) : (f.leaves n).map Prod.snd = f.comparisons := by
  induction f generalizing n with
  | comparison c => rfl
  | group kind children ih =>
      have hchildren : ∀ m, (leavesAll m children).map Prod.snd = children.flatMap comparisons := by
        intro m
        rw [leavesAll_eq_flatMap, List.map_flatMap]
        exact List.flatMap_congr fun f hf => ih f hf m
      rw [comparisons, leaves, leaves, hchildren, hchildren]

theorem comparisons_group (kind : Connective) (fs : List Filter) :
    comparisons (.group kind fs) = fs.flatMap comparisons := by
  rw [comparisons, leaves, leavesAll_eq_flatMap, List.map_flatMap]
  simp only [map_snd_leaves]

/-! ### Boolean terms -/

mutual

/-- The Boolean value of the tree whose comparisons have the given values. -/
def eval (p : Comparison → Bool) : Filter → Bool
  | comparison c => p c
  | group kind children => kind.combine (evalAll p children)

def evalAll (p : Comparison → Bool) : List Filter → List Bool
  | [] => []
  | f :: fs => eval p f :: evalAll p fs

end

theorem evalAll_eq_map (p : Comparison → Bool) (fs : List Filter) :
    evalAll p fs = fs.map (eval p) := by
  induction fs with
  | nil => rfl
  | cons f fs ih => rw [evalAll, ih, List.map_cons]

theorem eval_group (p : Comparison → Bool) (kind : Connective) (fs : List Filter) :
    eval p (.group kind fs) = kind.combine (fs.map (eval p)) := by
  rw [eval, evalAll_eq_map]

/-- The value of a tree is fixed by the values of the comparisons that occur in it. -/
theorem eval_congr {p q : Comparison → Bool} {f : Filter} (h : ∀ c ∈ f.comparisons, p c = q c) :
    f.eval p = f.eval q := by
  induction f with
  | comparison c => exact h c (List.mem_singleton_self c)
  | group kind children ih =>
      rw [comparisons_group] at h
      have hchildren : children.map (eval p) = children.map (eval q) := by
        refine List.map_congr_left fun f hf => ih f hf fun c hc => ?_
        exact h c (List.mem_flatMap.mpr ⟨f, hf, hc⟩)
      rw [eval_group, eval_group, hchildren]

theorem holds_eq_eval (f : Filter) : holds r policy f = f.eval (·.holds r policy) := by
  induction f with
  | comparison c => rfl
  | group kind children ih =>
      rw [holds_group, eval_group]
      exact congrArg kind.combine (List.map_congr_left ih)

/-- **A filter sees only what it names**: two records that agree on every attribute that the filter
names, by its value or by having none, are the same to the filter, under one policy in any case and
under any two if the filter orders no values.  A record with none of these attributes gives the
filter the value of its tree with every comparison false. -/
theorem holds_of_agree (r : ρ) (r' : ρ') (f : Filter) (policy policy' : OrderPolicy) :
    ((∀ name ∈ f.names, Record.value? r name = Record.value? r' name) →
      (policy = policy' ∨ ∀ c ∈ f.comparisons, c.operator.orders = false) →
      holds r policy f = holds r' policy' f) ∧
    ((∀ name ∈ f.names, Record.value? r name = none) →
      holds r policy f = f.eval fun _ => false) := by
  have hnames : ∀ c ∈ f.comparisons, c.name ∈ f.names := fun c hc => List.mem_map_of_mem hc
  constructor
  · intro hagree hpolicy
    have hcomparisons : ∀ c ∈ f.comparisons, c.holds r policy = c.holds r' policy' := by
      intro c hc
      have horders : policy = policy' ∨ c.operator.orders = false :=
        hpolicy.imp_right fun h => h c hc
      exact c.holds_congr (hagree c.name (hnames c hc)) horders
    rw [holds_eq_eval, holds_eq_eval, eval_congr hcomparisons]
  · intro hnone
    have hfalse : ∀ c ∈ f.comparisons, c.holds r policy = false := fun c hc =>
      c.holds_of_none (hnone c.name (hnames c hc))
    rw [holds_eq_eval, eval_congr hfalse]

/-- Two records that differ in an attribute the filter does not name are the same to a filter that
orders no values, under either policy; a filter that orders values sees the policy. -/
theorem holds_of_agree_entries :
    let r := Entry.empty.insert ['a'] (.multi [.text ['1', '0'], .text []])
    let r' := (Entry.empty.insert ['b'] (.single (.integer 7))).insert ['a']
      (.multi [.text ['1', '0'], .text []])
    let f : Filter := .group .and [.comparison ⟨['a'], .equality, ['1', '*']⟩,
      .group .not [.comparison ⟨['c'], .equality, ['*']⟩]]
    let g : Filter := .comparison ⟨['a'], .greaterOrEqual, ['9']⟩
    (holds r .natural f = holds r' .lexical f ∧ holds r .natural f = true) ∧
      (holds r .natural g = holds r' .natural g ∧ holds r' .lexical g = false) ∧
      holds Entry.empty .natural f = f.eval fun _ => false := by
  intro r r' f g
  have hagree : ∀ name ∈ f.names ++ g.names, Record.value? r name = Record.value? r' name := by
    decide
  obtain ⟨hf, hg⟩ := List.forall_mem_append.mp hagree
  have horders : ∀ c ∈ f.comparisons, c.operator.orders = false := by decide
  have hnone : ∀ name ∈ f.names, Record.value? Entry.empty name = none := fun _ _ => rfl
  refine ⟨⟨(holds_of_agree r r' f _ _).1 hf (.inr horders), by decide⟩, ⟨?_, by decide⟩, ?_⟩
  · exact (holds_of_agree r r' g _ _).1 hg (.inl rfl)
  · exact (holds_of_agree Entry.empty r' f .natural .natural).2 hnone

end Filter
end SearchFilter
