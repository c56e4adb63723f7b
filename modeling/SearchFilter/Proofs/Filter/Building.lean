import SearchFilter.Proofs.Escape
import SearchFilter.Proofs.Filter.Parsing

/-! # Filters that can be built

`Made` collects the filters that any sequence of operations makes: comparisons on attributes, what
is parsed, groups, negations and simplifications, and what is taken out of such filters.  Which
comparisons are allowed is left open.  With names unchecked and values verbatim the result is every
filter that can be built at all (`Constructible`); with names checked and values escaped it is what
a program builds from texts that it does not control (`Guarded`).

An escaped value adds no wildcard to those of the builder and takes none away
(`Attribute.Builds.eq_comparison`). -/

namespace SearchFilter

/-! ### Comparisons -/

/-- The comparisons that are built on an attribute from printable values, each with its operator and
the pieces of its value around the wildcards. -/
inductive Attribute.Builds (a : Attribute) : Operator → List Text → Filter → Prop
  | present : a.Builds .equality [[], []] a.present
  | equalTo {α : Type} [Printable α] (value : α) :
      a.Builds .equality [escape (Printable.text value)] (a.equalTo value)
  | startsWith {α : Type} [Printable α] (value : α) :
      a.Builds .equality [escape (Printable.text value), []] (a.startsWith value)
  | endsWith {α : Type} [Printable α] (value : α) :
      a.Builds .equality [[], escape (Printable.text value)] (a.endsWith value)
  | contains {α : Type} [Printable α] (value : α) :
      a.Builds .equality [[], escape (Printable.text value), []] (a.contains value)
  | approximately {α : Type} [Printable α] (value : α) :
      a.Builds .approximate [escape (Printable.text value)] (a.approximately value)
  | atMost {α : Type} [Printable α] (value : α) :
      a.Builds .lessOrEqual [escape (Printable.text value)] (a.atMost value)
  | atLeast {α : Type} [Printable α] (value : α) :
      a.Builds .greaterOrEqual [escape (Printable.text value)] (a.atLeast value)

theorem isValue_escape (s : Text) : IsValue (escape s) :=
  ⟨not_mem_escape (by decide) s, not_mem_escape (by decide) s, not_mem_escape (by decide) s⟩

theorem splitOn_escape (s : Text) : Text.splitOn '*' (escape s) = [escape s] :=
  Text.splitOn_of_not_mem (not_mem_escape (by decide) s)

/-- A built comparison has the name, the operator and the wildcards of its builder, whatever the
value. -/
theorem Attribute.Builds.eq_comparison {a : Attribute} {o : Operator} {pieces : List Text}
    {f : Filter} (h : a.Builds o pieces f) :
    ∃ value, f = .comparison ⟨a.name, o, value⟩ ∧ IsValue value ∧
      Text.splitOn '*' value = pieces := by
  have hstar : IsValue ['*'] := by simp [IsValue]
  cases h with
  | present => exact ⟨_, rfl, hstar, rfl⟩
  | equalTo value => exact ⟨_, rfl, isValue_escape _, splitOn_escape _⟩
  | startsWith value =>
      refine ⟨_, rfl, isValue_append.mpr ⟨isValue_escape _, hstar⟩, ?_⟩
      rw [Text.splitOn_append_cons, splitOn_escape]
      rfl
  | endsWith value =>
      refine ⟨_, rfl, isValue_append.mpr ⟨hstar, isValue_escape _⟩, ?_⟩
      rw [← List.nil_append ('*' :: _), Text.splitOn_append_cons, splitOn_escape]
      rfl
  | contains value =>
      refine ⟨_, rfl, isValue_append.mpr ⟨isValue_append.mpr ⟨hstar, isValue_escape _⟩, hstar⟩, ?_⟩
      rw [Text.splitOn_append_cons, ← List.nil_append ('*' :: _), Text.splitOn_append_cons,
        splitOn_escape]
      rfl
  | approximately value => exact ⟨_, rfl, isValue_escape _, splitOn_escape _⟩
  | atMost value => exact ⟨_, rfl, isValue_escape _, splitOn_escape _⟩
  | atLeast value => exact ⟨_, rfl, isValue_escape _, splitOn_escape _⟩

/-- All comparisons that are built on an attribute, a verbatim value included. -/
inductive Attribute.BuildsAny (a : Attribute) : Filter → Prop
  | escaped {o : Operator} {pieces : List Text} {f : Filter} : a.Builds o pieces f → a.BuildsAny f
  | verbatim {α : Type} [Printable α] (value : α) : a.BuildsAny (a.verbatim value)

theorem Attribute.BuildsAny.eq_comparison {a : Attribute} {f : Filter} (h : a.BuildsAny f) :
    ∃ c, f = .comparison c := by
  cases h with
  | escaped h =>
      obtain ⟨value, rfl, -⟩ := h.eq_comparison
      exact ⟨_, rfl⟩
  | verbatim value => exact ⟨_, rfl⟩

namespace Filter

/-! ### Sequences of operations -/

/-- The filters that sequences of operations make, where `leaf` says which comparisons are built.
The constructors of conjunctions, disjunctions and negations are those of groups. -/
inductive Made (leaf : Filter → Prop) : Filter → Prop
  | built {f : Filter} : leaf f → Made leaf f
  | parsed {s : Text} {f : Filter} : parse s = .ok f → Made leaf f
  | grouped {kind : Connective} {fs : List Filter} {f : Filter} :
      (∀ g ∈ fs, Made leaf g) → ofGroup kind fs = .ok f → Made leaf f
  | negated {f : Filter} : Made leaf f → Made leaf f.negate
  | simplified {f : Filter} : Made leaf f → Made leaf f.simplify
  | rewrapped {f : Filter} {c : Comparison} :
      Made leaf f → f.comparison? = some c → Made leaf (.comparison c)
  | member {kind : Connective} {fs : List Filter} {f : Filter} :
      Made leaf (.group kind fs) → f ∈ fs → Made leaf f

/-- Filters that can be built: any name, any value. -/
def Constructible (f : Filter) : Prop := Made (fun g => ∃ a : Attribute, a.BuildsAny g) f

/-- Filters that can be built with checked names and escaped values. -/
def Guarded (f : Filter) : Prop :=
  Made (fun g => ∃ name a o pieces, Attribute.ofName name = .ok a ∧ a.Builds o pieces g) f

theorem ofGroup_eq_ok_iff {kind : Connective} {fs : List Filter} {f : Filter} :
    ofGroup kind fs = .ok f ↔ kind.admits fs.length = true ∧ f = .group kind fs := by
  unfold ofGroup
  by_cases hn : kind.admits fs.length = true
  · simp [hn, eq_comm]
  · cases kind <;> simp [hn]

/-- What holds of the comparisons that are built and of those that can be read holds of every
comparison, and every group holds as many filters as its kind admits. -/
theorem Made.every {leaf : Filter → Prop} {p : Comparison → Prop}
    (hleaf : ∀ f, leaf f → ∃ c, f = .comparison c ∧ p c) (hp : ∀ c, c.Readable → p c) {f : Filter}
    (h : Made leaf f) : f.Every p fun kind n => kind.admits n = true := by
  induction h with
  | built hf =>
      obtain ⟨c, rfl, hc⟩ := hleaf _ hf
      exact .comparison hc
  | parsed hs => exact (inputForm_of_parse hs).1.readable.mono hp fun _ _ hn => hn
  | grouped _ hf ih =>
      obtain ⟨hn, rfl⟩ := ofGroup_eq_ok_iff.mp hf
      exact .group hn ih
  | negated _ ih => exact .group rfl (List.forall_mem_singleton.mpr ih)
  | simplified _ ih => exact ih.simplify
  | @rewrapped f c _ hc ih =>
      cases f with
      | comparison d =>
          cases hc
          exact ih
      | group kind children => cases hc
  | member _ hf ih => exact (every_group.mp ih).2 _ hf

theorem Constructible.every {f : Filter} (h : f.Constructible) :
    f.Every (fun _ => True) fun kind n => kind.admits n = true := by
  refine Made.every ?_ (fun _ _ => trivial) h
  rintro g ⟨a, hg⟩
  obtain ⟨c, rfl⟩ := hg.eq_comparison
  exact ⟨c, rfl, trivial⟩

theorem Guarded.readable {f : Filter} (h : f.Guarded) : f.Readable := by
  refine Made.every ?_ (fun _ hc => hc) h
  rintro g ⟨name, a, o, pieces, ha, hg⟩
  obtain ⟨value, rfl, hvalue, -⟩ := hg.eq_comparison
  refine ⟨_, rfl, ?_, hvalue⟩
  rw [Attribute.ofName] at ha
  split at ha
  · rename_i hname
    cases ha
    exact isAttributeName_iff.mp hname
  · cases ha

end Filter
end SearchFilter
