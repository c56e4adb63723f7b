import SearchFilter.Proofs.Filter.Building

/-! # Sequences of operations

A program makes one filter after another: it builds comparisons, parses texts, and groups, negates,
simplifies, copies and takes apart what it has made before (`Operation`).  It goes from the filters
that it has made to those and one more, or to the same ones where the operation fails (`perform`);
an operation takes nothing away, since everything can be copied first.

The filters that can be made this way are those that can be built (`constructible_iff`).  So no
order of operations makes a group with more or fewer members than its kind allows
(`arity_of_performAll`). -/

namespace SearchFilter.Filter

/-! ### Constructors of groups -/

/-- The constructors of groups: one for any kind, and one for each of the kinds. -/
inductive GroupConstructor where
  | group (kind : Connective)
  | conj
  | disj
  | neg

namespace GroupConstructor

/-- The kind of the groups that are made. -/
def kind : GroupConstructor → Connective
  | group kind => kind
  | conj => .and
  | disj => .or
  | neg => .not

/-- The group of the filters, provided that it may hold that many. -/
def make : GroupConstructor → List Filter → Except ConstructionError Filter
  | group kind => ofGroup kind
  | conj => Filter.conj
  | disj => Filter.disj
  | neg => Filter.neg

theorem make_eq_ofGroup (c : GroupConstructor) (fs : List Filter) :
    c.make fs = ofGroup c.kind fs := by
  cases c <;> rfl

end GroupConstructor

theorem ofGroup_eq_ite (kind : Connective) (fs : List Filter) :
    ofGroup kind fs =
      if kind = .not then
        if fs.length = 1 then .ok (.group .not fs) else .error (.notArity fs.length)
      else if 1 ≤ fs.length then .ok (.group kind fs) else .error (.emptyGroup kind) := by
  cases kind <;> simp [ofGroup, Connective.admits, Nat.one_le_iff_ne_zero]

theorem admits_iff {kind : Connective} {n : Nat} :
    kind.admits n = true ↔ (kind = .not → n = 1) ∧ (kind ≠ .not → 1 ≤ n) := by
  cases kind <;> simp [Connective.admits, Nat.one_le_iff_ne_zero]

/-! ### Operations -/

/-- An operation of the library, with the filters that it is applied to. -/
inductive Operation where
  /-- Builds a comparison on an attribute. -/
  | build {a : Attribute} {f : Filter} (h : a.BuildsAny f)
  /-- Parses a text. -/
  | parse (s : Text)
  /-- Puts filters together. -/
  | group (c : GroupConstructor) (fs : List Filter)
  /-- Negates a filter. -/
  | negate (f : Filter)
  /-- Simplifies a filter. -/
  | simplify (f : Filter)
  /-- Makes a filter of the comparison that a filter is. -/
  | wrap (f : Filter)
  /-- Copies a filter. -/
  | clone (f : Filter)
  /-- Takes a member out of a group. -/
  | member (kind : Connective) (fs : List Filter) (i : Nat)

namespace Operation

/-- The filters that have to be there. -/
def operands : Operation → List Filter
  | build _ => []
  | parse _ => []
  | group _ fs => fs
  | negate f => [f]
  | simplify f => [f]
  | wrap f => [f]
  | clone f => [f]
  | member kind fs _ => [.group kind fs]

/-- The filter that is made, unless the operation fails. -/
def result : Operation → Option Filter
  | @build _ f _ => some f
  | parse s => (Filter.parse s).toOption
  | group c fs => (c.make fs).toOption
  | negate f => some f.negate
  | simplify f => some f.simplify
  | wrap f => f.comparison?.map .comparison
  | clone f => some f
  | member _ fs i => fs[i]?

end Operation

/-- The filters that are there after an operation, if its operands have been there before. -/
def perform (made : List Filter) (op : Operation) : Option (List Filter) :=
  if ∀ f ∈ op.operands, f ∈ made then some (op.result.toList ++ made) else none

/-- The filters that are there after operations, one after another. -/
def performAll (made : List Filter) (ops : List Operation) : Option (List Filter) :=
  ops.foldlM perform made

variable {op : Operation} {ops ops' : List Operation} {made made' : List Filter} {f : Filter}

theorem perform_eq_some_iff :
    perform made op = some made' ↔
      (∀ f ∈ op.operands, f ∈ made) ∧ op.result.toList ++ made = made' := by
  rw [perform]
  split
  · rename_i h
    rw [Option.some.injEq, and_iff_right h]
  · rename_i h
    exact iff_of_false nofun fun hstep => h hstep.1

theorem performAll_cons :
    performAll made (op :: ops) = (perform made op).bind fun next => performAll next ops := rfl

theorem performAll_append :
    performAll made (ops ++ ops') =
      (performAll made ops).bind fun next => performAll next ops' := List.foldlM_append

/-! ### What can be made -/

theorem constructible_of_result (hop : ∀ g ∈ op.operands, g.Constructible)
    (h : op.result = some f) : f.Constructible := by
  cases op with
  | build hbuilds =>
      cases h
      exact .built ⟨_, hbuilds⟩
  | parse s =>
      cases hparse : Filter.parse s with
      | ok g =>
          rw [Operation.result, hparse] at h
          cases h
          exact .parsed hparse
      | error e =>
          rw [Operation.result, hparse] at h
          cases h
  | group c fs =>
      cases hmake : c.make fs with
      | ok g =>
          rw [Operation.result, hmake] at h
          cases h
          rw [c.make_eq_ofGroup] at hmake
          exact .grouped hop hmake
      | error e =>
          rw [Operation.result, hmake] at h
          cases h
  | negate g =>
      cases h
      exact .negated (hop g List.mem_cons_self)
  | simplify g =>
      cases h
      exact .simplified (hop g List.mem_cons_self)
  | wrap g =>
      obtain ⟨c, hc, rfl⟩ := Option.map_eq_some_iff.mp h
      exact .rewrapped (hop g List.mem_cons_self) hc
  | clone g =>
      cases h
      exact hop _ List.mem_cons_self
  | member kind fs i => exact .member (hop _ List.mem_cons_self) (List.mem_of_getElem? h)

theorem constructible_of_perform (h : perform made op = some made')
    (hmade : ∀ g ∈ made, g.Constructible) : ∀ g ∈ made', g.Constructible := by
  obtain ⟨hop, rfl⟩ := perform_eq_some_iff.mp h
  intro g hg
  rcases List.mem_append.mp hg with hnew | hold
  · have hresult : op.result = some g := Option.mem_toList.mp hnew
    exact constructible_of_result (fun f hf => hmade f (hop f hf)) hresult
  · exact hmade g hold

theorem constructible_of_performAll (h : performAll made ops = some made')
    (hmade : ∀ g ∈ made, g.Constructible) : ∀ g ∈ made', g.Constructible := by
  induction ops generalizing made with
  | nil =>
      cases h
      exact hmade
  | cons op ops ih =>
      obtain ⟨next, hstep, hrest⟩ := Option.bind_eq_some_iff.mp (performAll_cons.symm.trans h)
      exact ih hrest (constructible_of_perform hstep hmade)

/-! ### What is made where more is there -/

theorem perform_append (others : List Filter) (h : perform made op = some made') :
    perform (made ++ others) op = some (made' ++ others) := by
  obtain ⟨hop, rfl⟩ := perform_eq_some_iff.mp h
  rw [perform_eq_some_iff]
  exact ⟨fun f hf => List.mem_append_left others (hop f hf), (List.append_assoc _ _ _).symm⟩

theorem performAll_append_right (others : List Filter) (h : performAll made ops = some made') :
    performAll (made ++ others) ops = some (made' ++ others) := by
  induction ops generalizing made with
  | nil =>
      cases h
      rfl
  | cons op ops ih =>
      obtain ⟨next, hstep, hrest⟩ := Option.bind_eq_some_iff.mp (performAll_cons.symm.trans h)
      rw [performAll_cons, perform_append others hstep]
      exact ih hrest

/-- Some sequence of operations makes the filter. -/
def Producible (f : Filter) : Prop := ∃ ops made, performAll [] ops = some made ∧ f ∈ made

/-- Filters that are made one by one are made together, by one sequence after another. -/
theorem exists_performAll_of_producible {fs : List Filter} (h : ∀ g ∈ fs, g.Producible) :
    ∃ ops made, performAll [] ops = some made ∧ ∀ g ∈ fs, g ∈ made := by
  induction fs with
  | nil => exact ⟨[], [], rfl, by simp⟩
  | cons f fs ih =>
      obtain ⟨hf, hfs⟩ := List.forall_mem_cons.mp h
      obtain ⟨ops, made, hops, hmem⟩ := hf
      obtain ⟨ops', made', hops', hall⟩ := ih hfs
      refine ⟨ops' ++ ops, made ++ made', ?_, ?_⟩
      · rw [performAll_append, hops']
        exact performAll_append_right made' hops
      · exact List.forall_mem_cons.mpr ⟨List.mem_append_left _ hmem,
          fun g hg => List.mem_append_right _ (hall g hg)⟩

theorem producible_of_result (op : Operation) (hop : ∀ g ∈ op.operands, g.Producible)
    (h : op.result = some f) : f.Producible := by
  obtain ⟨ops, made, hops, hall⟩ := exists_performAll_of_producible hop
  refine ⟨ops ++ [op], f :: made, ?_, List.mem_cons_self⟩
  rw [performAll_append, hops]
  have hstep : perform made op = some (f :: made) := perform_eq_some_iff.mpr ⟨hall, by rw [h]; rfl⟩
  exact performAll_cons.trans (by rw [hstep]; rfl)

theorem Made.producible {leaf : Filter → Prop} (hleaf : ∀ g, leaf g → g.Producible)
    (h : Made leaf f) : f.Producible := by
  induction h with
  | built hf => exact hleaf _ hf
  | @parsed s f hparse =>
      exact producible_of_result (.parse s) (by simp [Operation.operands])
        (by rw [Operation.result, hparse]; rfl)
  | @grouped kind fs f _ hf ih =>
      exact producible_of_result (.group (.group kind) fs) ih
        (by rw [Operation.result, GroupConstructor.make, hf]; rfl)
  | @negated f _ ih =>
      exact producible_of_result (.negate f) (List.forall_mem_singleton.mpr ih) rfl
  | @simplified f _ ih =>
      exact producible_of_result (.simplify f) (List.forall_mem_singleton.mpr ih) rfl
  | @rewrapped f c _ hc ih =>
      exact producible_of_result (.wrap f) (List.forall_mem_singleton.mpr ih)
        (by rw [Operation.result, hc]; rfl)
  | @member kind fs f _ hf ih =>
      obtain ⟨i, hi⟩ := List.mem_iff_getElem?.mp hf
      exact producible_of_result (.member kind fs i) (List.forall_mem_singleton.mpr ih) hi

/-- What can be built is what sequences of operations make. -/
theorem constructible_iff : f.Constructible ↔ f.Producible := by
  constructor
  · refine Made.producible ?_
    rintro g ⟨a, hg⟩
    exact producible_of_result (.build hg) (by simp [Operation.operands]) rfl
  · rintro ⟨ops, made, hops, hf⟩
    exact constructible_of_performAll hops (by simp) f hf

/-! ### Arities -/

/-- **No group has too many members or too few.**  Whatever operations have made a filter, each
negation in it has one member and each conjunction and disjunction has at least one; and a
constructor makes a group exactly of filters in such a number, or else reports that a negation was
given another number or that a group was given none. -/
theorem arity_of_performAll :
    (∀ ops made, performAll [] ops = some made → ∀ f ∈ made,
      f.Every (fun _ => True) fun kind n => (kind = .not → n = 1) ∧ (kind ≠ .not → 1 ≤ n)) ∧
    ∀ (c : GroupConstructor) (fs : List Filter), c.make fs =
      if c.kind = .not then
        if fs.length = 1 then .ok (.group .not fs) else .error (.notArity fs.length)
      else if 1 ≤ fs.length then .ok (.group c.kind fs) else .error (.emptyGroup c.kind) := by
  constructor
  · intro ops made hops f hf
    have hmade : f.Constructible := constructible_of_performAll hops (by simp) f hf
    exact hmade.every.mono (fun _ h => h) fun _ _ h => admits_iff.mp h
  · intro c fs
    rw [c.make_eq_ofGroup, ofGroup_eq_ite]

/-- A disjunction is parsed, simplified, and grouped with what it holds; that group is negated, and
negating two filters at once fails. -/
theorem arity_of_performAll_of_disjunction :
    let leaf : Filter := .comparison ⟨['a'], .equality, ['1']⟩
    let whole : Filter := .group .or [leaf]
    let both : Filter := .group .and [leaf, whole]
    let ops : List Operation := [.parse ['(', '|', '(', 'a', '=', '1', ')', ')'], .simplify whole,
      .group .conj [leaf, whole], .group .neg [leaf, whole], .negate both]
    performAll [] ops = some [both.negate, both, leaf, whole] ∧
      both.negate.Every (fun _ => True) (fun kind n =>
        (kind = .not → n = 1) ∧ (kind ≠ .not → 1 ≤ n)) ∧
      GroupConstructor.neg.make [leaf, whole] = .error (.notArity 2) := by
  intro leaf whole both ops
  have hops : performAll [] ops = some [both.negate, both, leaf, whole] := by rfl
  obtain ⟨hevery, hmake⟩ := arity_of_performAll
  exact ⟨hops, hevery ops _ hops both.negate List.mem_cons_self, hmake .neg [leaf, whole]⟩

end SearchFilter.Filter
