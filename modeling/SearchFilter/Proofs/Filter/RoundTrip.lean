import Mathlib.Logic.Function.Iterate
import SearchFilter.Filter.Layout
import SearchFilter.Proofs.Filter.Building

/-! # Writing and reading

The text of a filter is one of its forms if its comparisons can be read (`Readable.filterForm`), so
parsing gives the filter back as long as it does not nest too deep, and no other filter is given
back (`parse_text_eq_ok_iff`).  Filters built with checked names and escaped values can always be
read (`parse_text_of_guarded`). -/

namespace SearchFilter.Filter

/-- Blanks and a form of the filter. -/
def AfterBlanks (s : Text) (f : Filter) : Prop :=
  ∃ w t, w.AllBlank ∧ FilterForm t f ∧ s = w ++ t

theorem FilterForm.afterBlanks {s : Text} {f : Filter} (h : FilterForm s f) : AfterBlanks s f :=
  ⟨[], s, Text.allBlank_nil, h, rfl⟩

theorem listForm_flatMap {write : Filter → Text} {fs : List Filter} (hne : fs ≠ [])
    (h : ∀ f ∈ fs, AfterBlanks (write f) f) : ListForm (fs.flatMap write) fs := by
  induction fs with
  | nil => exact absurd rfl hne
  | cons f fs ih =>
      obtain ⟨⟨w, t, hw, ht, hf⟩, hfs⟩ := List.forall_mem_cons.mp h
      rw [List.flatMap_cons, hf]
      cases fs with
      | nil => exact .one hw ht Text.allBlank_nil
      | cons g fs => exact .cons hw ht (ih (by simp) hfs)

theorem BodyForm.parens {s : Text} {f : Filter} (h : BodyForm s f) :
    FilterForm ('(' :: s ++ [')']) f := by
  have := FilterForm.parens Text.allBlank_nil h Text.allBlank_nil
  rw [extend_nil] at this
  simpa using this

/-- The text of a filter is written by the rules and denotes the filter. -/
theorem Readable.filterForm {f : Filter} (h : f.Readable) : FilterForm f.text f := by
  induction h with
  | @comparison c hc =>
      have hitem : ItemForm (c.name ++ c.operator.symbol ++ c.value) c := by
        simpa using ItemForm.mk hc Text.allBlank_nil
      have := (BodyForm.item hitem).parens
      simpa [text, Comparison.text] using this
  | @group kind children hn _ ih =>
      rw [text]
      by_cases hkind : kind = .not
      · subst hkind
        obtain ⟨f, rfl⟩ : ∃ f, children = [f] := by
          rw [← List.length_eq_one_iff]
          simpa [Connective.admits] using hn
        have hf := ih f (by simp)
        have := (BodyForm.neg Text.allBlank_nil hf).parens
        simpa [textAll, Connective.symbol] using this
      · rw [textAll_eq_flatMap]
        have hlist := listForm_flatMap (Connective.ne_nil_of_admits hn) fun f hf =>
          (ih f hf).afterBlanks
        exact (BodyForm.list hkind hlist).parens

theorem Readable.inputForm {f : Filter} (h : f.Readable) : InputForm f.text f := by
  simpa using InputForm.filter Text.allBlank_nil h.filterForm Text.allBlank_nil

theorem parse_text_of_parse {s : Text} {f : Filter} (h : parse s = .ok f) :
    parse f.text = .ok f := by
  obtain ⟨hform, hn⟩ := inputForm_of_parse h
  exact parse_of_inputForm hform.readable.inputForm hn

/-- Names and values decide whether the comparisons of a filter can be read, the number of members
whether its groups can. -/
theorem readable_of_every {f : Filter}
    (hc : f.Every Comparison.Readable fun _ _ => True)
    (hg : f.Every (fun _ => True) fun kind n => kind.admits n = true) : f.Readable := by
  induction hc with
  | comparison h => exact .comparison h
  | group _ _ ih =>
      obtain ⟨hn, hfs⟩ := every_group.mp hg
      exact .group hn fun f hf => ih f hf (hfs f hf)

/-- **Writing and reading**: the text of a filter is parsed as this filter exactly if all its names
and values can be read and it does not nest too deep; nesting too deep is the reason given where
that is all that is wrong.  What is parsed can always be written and parsed again. -/
theorem parse_text_eq_ok_iff :
    (∀ f : Filter, f.Constructible →
      (parse f.text = .ok f ↔
        f.Every Comparison.Readable (fun _ _ => True) ∧ f.levels ≤ maxDepth) ∧
      (f.Every Comparison.Readable (fun _ _ => True) → maxDepth < f.levels →
        ∃ e, parse f.text = .error e ∧ e.reason = .nestingTooDeep)) ∧
    ∀ s f, parse s = .ok f → parse f.text = .ok f := by
  refine ⟨fun f hf => ⟨⟨fun h => ?_, ?_⟩, ?_⟩, fun s f h => parse_text_of_parse h⟩
  · obtain ⟨hform, hn⟩ := inputForm_of_parse h
    exact ⟨hform.readable.mono (fun _ hc => hc) fun _ _ _ => trivial, hn⟩
  · rintro ⟨hc, hn⟩
    exact parse_of_inputForm (readable_of_every hc hf.every).inputForm hn
  · intro hc hn
    exact parse_of_inputForm_of_deep (readable_of_every hc hf.every).inputForm hn

/-- 255 negations of a comparison are parsed back, one more nests too deep. -/
theorem parse_text_iterate_negate :
    let f n := negate^[n] (Attribute.equalTo ⟨['a']⟩ ['('])
    (f 255).Constructible ∧ parse (f 255).text = .ok (f 255) ∧
      (∃ e, parse (f 256).text = .error e ∧ e.reason = .nestingTooDeep) ∧
      parse (text (.comparison ⟨['a'], .equality, [' ', '1']⟩)) =
        .ok (.comparison ⟨['a'], .equality, [' ', '1']⟩) := by
  intro f
  have hf : ∀ n, (f n).Constructible ∧ (f n).levels = n + 1 ∧
      (f n).Every Comparison.Readable fun _ _ => True := by
    intro n
    induction n with
    | zero =>
        refine ⟨.built ⟨_, .escaped (.equalTo _)⟩, rfl, .comparison ⟨?_, isValue_escape _⟩⟩
        exact isAttributeName_iff.mp rfl
    | succ n ih =>
        obtain ⟨hmade, hn, hc⟩ := ih
        have hsucc : f (n + 1) = (f n).negate := Function.iterate_succ_apply' negate n _
        rw [hsucc]
        exact ⟨.negated hmade, by simp [negate, levels, levelsAll, hn],
          .group trivial (List.forall_mem_singleton.mpr hc)⟩
  obtain ⟨hmade, hn, hc⟩ := hf 255
  obtain ⟨hmade', hn', hc'⟩ := hf 256
  refine ⟨hmade, (parse_text_eq_ok_iff.1 _ hmade).1.mpr ⟨hc, by rw [hn]; decide⟩,
    (parse_text_eq_ok_iff.1 _ hmade').2 hc' (by rw [hn']; decide),
    parse_text_eq_ok_iff.2 ['(', ' ', 'a', ' ', '=', ' ', '1', ')'] _ rfl⟩

/-- **Escaped values stay values**: a filter that is built with checked names and escaped values is
parsed back from its text, and each of its comparisons has the name, the operator and the wildcards
of its builder, whatever the value. -/
theorem parse_text_of_guarded :
    (∀ f : Filter, f.Guarded → f.levels ≤ maxDepth → parse f.text = .ok f) ∧
    ∀ (a : Attribute) (o : Operator) (pieces : List Text) (f : Filter), a.Builds o pieces f →
      ∃ value, f = .comparison ⟨a.name, o, value⟩ ∧ Text.splitOn '*' value = pieces := by
  constructor
  · intro f hf hn
    exact parse_of_inputForm hf.readable.inputForm hn
  · intro a o pieces f hf
    obtain ⟨value, rfl, -, hpieces⟩ := hf.eq_comparison
    exact ⟨value, rfl, hpieces⟩

/-- A value that looks like the end of a filter and another filter is read back as a value. -/
theorem parse_text_contains :
    let f := Attribute.contains ⟨['c', 'n']⟩ [')', '(', 'u', 'i', 'd', '=', '*']
    f.Guarded ∧ parse f.text = .ok f ∧
      ∃ value, f = .comparison ⟨['c', 'n'], .equality, value⟩ ∧
        Text.splitOn '*' value =
          [[], escape [')', '(', 'u', 'i', 'd', '=', '*'], []] := by
  intro f
  have hbuilt : Attribute.Builds ⟨['c', 'n']⟩ _ _ f := .contains [')', '(', 'u', 'i', 'd', '=', '*']
  have hf : f.Guarded := .built ⟨['c', 'n'], _, _, _, rfl, hbuilt⟩
  exact ⟨hf, parse_text_of_guarded.1 f hf (by decide), parse_text_of_guarded.2 _ _ _ _ hbuilt⟩

end SearchFilter.Filter
