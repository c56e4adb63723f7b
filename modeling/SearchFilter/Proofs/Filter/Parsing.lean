import SearchFilter.Proofs.Filter.Reading

/-! # Parsing

`parse` accepts exactly the texts of the grammar that nest at most `maxDepth` deep, and returns what
they denote (`parse_eq_ok_iff`).  A text of the grammar that nests deeper is refused for that reason
(`parse_of_inputForm_of_deep`). -/

namespace SearchFilter.Filter

/-! ### Blanks around the input -/

theorem trimEnd_append_symbol (s : Text) (o : Operator) (v : Text) :
    Text.trimEnd (s ++ o.symbol ++ v) = s ++ o.symbol ++ v.trimEnd := by
  have heq : ∃ p, o.symbol = p ++ ['='] := by
    cases o
    · exact ⟨[], rfl⟩
    · exact ⟨['<'], rfl⟩
    · exact ⟨['>'], rfl⟩
    · exact ⟨['~'], rfl⟩
  obtain ⟨p, hp⟩ := heq
  have hs : ∀ u, s ++ o.symbol ++ u = s ++ p ++ '=' :: u := by simp [hp]
  rw [hs, hs, Text.trimEnd_append_cons (by decide)]

theorem ItemForm.trimEnd {w s : Text} {c : Comparison} (h : ItemForm s c) :
    ItemForm s.trimEnd c.trim ∧ Text.trimEnd (w ++ s) = w ++ s.trimEnd := by
  obtain ⟨hc, hv⟩ := h
  rename_i v
  constructor
  · rw [trimEnd_append_symbol]
    exact .mk hc.trim hv
  · have hs : w ++ (c.name ++ v ++ c.operator.symbol ++ c.value) =
        (w ++ (c.name ++ v)) ++ c.operator.symbol ++ c.value := by simp
    rw [hs, trimEnd_append_symbol, trimEnd_append_symbol]
    simp

theorem ItemForm.trim_eq {s : Text} {c : Comparison} (h : ItemForm s c) (hs : s.trimEnd = s) :
    c.trim = c := by
  obtain ⟨hc, hv⟩ := h
  rw [trimEnd_append_symbol] at hs
  have hvalue : c.value.trimEnd = c.value := List.append_cancel_left hs
  rw [Comparison.trim, hvalue]

theorem FilterForm.trimEnd_append {s : Text} {f : Filter} (h : FilterForm s f) (w : Text) :
    Text.trimEnd (w ++ s) = w ++ s := by
  obtain ⟨t, rfl⟩ := h.exists_concat
  rw [← List.append_assoc, Text.trimEnd_append_cons (by decide)]
  rfl

theorem InputForm.append_blank {s w : Text} {f : Filter} (h : InputForm s f) (hw : w.AllBlank) :
    InputForm (s ++ w) f := by
  cases h with
  | filter hv hs hv' => simpa using InputForm.filter hv hs (Text.allBlank_append.mpr ⟨hv', hw⟩)
  | item hv hs hv' => simpa using InputForm.item hv hs (Text.allBlank_append.mpr ⟨hv', hw⟩)

/-! ### The outermost filter -/

theorem readOuter_of_nameChar {c : Char} (hc : NameChar c) (s : Text) :
    readOuter (c :: s) = readItem (c :: s) := by
  unfold readOuter
  split
  · rename_i h
    cases h
  · rename_i h
    cases h
    exact absurd hc (by decide)
  · rfl

theorem FilterForm.readOuter_eq {s : Text} {f : Filter} (h : FilterForm s f) :
    readOuter s = readFilter maxDepth s := by
  obtain ⟨t, rfl⟩ := h.exists_cons
  rfl

theorem readOuter_sound {s rest : Text} {f : Filter} (h : readOuter s = .ok (f, rest)) :
    (∃ t, FilterForm t f ∧ f.levels ≤ maxDepth ∧ s = t ++ rest) ∨
      ∃ t c, ItemForm t c ∧ f = .comparison c ∧ s = t ++ rest ∧ AtParen rest := by
  unfold readOuter at h
  split at h
  · cases h
  · exact .inl (readFilter_eq_ok_iff.mp h)
  · exact .inr (readItem_eq_ok_iff.mp h)

theorem readAll_eq_ok_iff {s : Text} {f : Filter} :
    readAll s = .ok f ↔ ∃ rest, readOuter s.trimStart = .ok (f, rest) ∧ rest.AllBlank := by
  rw [readAll, bind_eq_ok_iff]
  constructor
  · rintro ⟨⟨g, rest⟩, hg, h⟩
    dsimp only at h
    split at h
    · rename_i hrest
      cases h
      exact ⟨rest, hg, Text.trimStart_eq_nil_iff.mp hrest⟩
    · cases h
  · rintro ⟨rest, hf, hrest⟩
    refine ⟨(f, rest), hf, ?_⟩
    dsimp only
    rw [Text.trimStart_eq_nil_iff.mpr hrest]
    rfl

theorem parse_eq_ok_iff_readAll {s : Text} {f : Filter} :
    parse s = .ok f ↔ readAll s.trimEnd = .ok f := by
  rw [parse]
  split
  · rename_i h
    rw [h]
    simp
  · rename_i h
    rw [h]
    simp

theorem parse_eq_error_iff {s : Text} {e : ParseError} :
    parse s = .error e ↔ ∃ x, readAll s.trimEnd = .error x ∧ x.toError s = e := by
  rw [parse]
  split
  · rename_i h
    rw [h]
    simp
  · rename_i h
    rw [h]
    simp

theorem AtParen.eq_nil {s : Text} (h : AtParen s) (hs : s.AllBlank) : s = [] := by
  cases s with
  | nil => rfl
  | cons c s =>
      have hc := hs c (by simp)
      rcases h c rfl with rfl | rfl
      · exact absurd hc (by decide)
      · exact absurd hc (by decide)

/-! ### Whole inputs -/

theorem inputForm_of_readAll {s : Text} {f : Filter} (hs : s.trimEnd = s)
    (h : readAll s = .ok f) : InputForm s f ∧ f.levels ≤ maxDepth := by
  obtain ⟨rest, houter, hrest⟩ := readAll_eq_ok_iff.mp h
  obtain ⟨w, hw, hw'⟩ := Text.exists_append_trimStart s
  rcases readOuter_sound houter with ⟨t, ht, hn, hrest'⟩ | ⟨t, c, ht, rfl, hrest', hparen⟩
  · rw [hrest', ← List.append_assoc] at hw'
    rw [hw']
    exact ⟨.filter hw ht hrest, hn⟩
  · rw [hparen.eq_nil hrest, List.append_nil] at hrest'
    have hstop : t.trimEnd = t := by
      rw [hw', hrest', ht.trimEnd.2] at hs
      exact List.append_cancel_left hs
    have hform := InputForm.item hw ht Text.allBlank_nil
    rw [ht.trim_eq hstop, List.append_nil, ← hrest', ← hw'] at hform
    exact ⟨hform, by simp [levels, maxDepth]⟩

/-- Whatever is parsed is written by the rules and denotes the result. -/
theorem inputForm_of_parse {s : Text} {f : Filter} (h : parse s = .ok f) :
    InputForm s f ∧ f.levels ≤ maxDepth := by
  obtain ⟨hform, hn⟩ := inputForm_of_readAll s.trimEnd_trimEnd (parse_eq_ok_iff_readAll.mp h)
  have := hform.append_blank (Text.allBlank_trailingBlanks s)
  rw [Text.trimEnd_append_trailingBlanks] at this
  exact ⟨this, hn⟩

/-- Whatever is written by the rules is parsed, if it does not nest too deep. -/
theorem parse_of_inputForm {s : Text} {f : Filter} (h : InputForm s f) (hn : f.levels ≤ maxDepth) :
    parse s = .ok f := by
  rw [parse_eq_ok_iff_readAll, readAll_eq_ok_iff]
  refine ⟨[], ?_, Text.allBlank_nil⟩
  cases h with
  | @filter w s w' f hw hs hw' =>
      have htrim := hs.trimStart_append hw []
      simp only [List.append_nil] at htrim
      rw [Text.trimEnd_append _ hw', hs.trimEnd_append, htrim, hs.readOuter_eq]
      exact readFilter_eq_ok_iff.mpr ⟨s, hs, hn, (List.append_nil s).symm⟩
  | @item w s w' c hw hs hw' =>
      obtain ⟨hform, htrim⟩ := hs.trimEnd
      obtain ⟨a, t, ht, ha⟩ := hform.exists_cons
      have hstop : Text.StopsAt Text.isBlank (a :: t) :=
        Text.stopsAt_cons.mpr (not_isBlank_of_nameChar ha)
      rw [Text.trimEnd_append _ hw', htrim, Text.trimStart_append hw, ht,
        Text.trimStart_of_stopsAt hstop, readOuter_of_nameChar ha, ← ht]
      exact readItem_eq_ok_iff.mpr ⟨_, _, hform, rfl, (List.append_nil _).symm, by simp [AtParen]⟩

/-- Whatever is written by the rules but nests too deep is refused for that reason. -/
theorem parse_of_inputForm_of_deep {s : Text} {f : Filter} (h : InputForm s f)
    (hn : maxDepth < f.levels) : ∃ e, parse s = .error e ∧ e.reason = .nestingTooDeep := by
  cases h with
  | @filter w s w' f hw hs hw' =>
      have htrim := hs.trimStart_append hw []
      obtain ⟨r, hr⟩ := readFilter_deepFault hs hn []
      simp only [List.append_nil] at htrim hr
      have hall : readAll (w ++ s ++ w').trimEnd = .error ⟨.nestingTooDeep, r⟩ := by
        rw [Text.trimEnd_append _ hw', hs.trimEnd_append, readAll, htrim, hs.readOuter_eq, hr]
        rfl
      rw [parse, hall]
      exact ⟨_, rfl, rfl⟩
  | item hw hs hw' => exact absurd hn (by simp [levels, maxDepth])

/-- **Parsing decides the grammar**: a text is parsed exactly if it is written by the rules and its
parentheses nest at most `maxDepth` deep, and the result is what it denotes. -/
theorem parse_eq_ok_iff (s : Text) (f : Filter) :
    parse s = .ok f ↔ InputForm s f ∧ f.levels ≤ maxDepth := by
  constructor
  · exact inputForm_of_parse
  · rintro ⟨hform, hn⟩
    exact parse_of_inputForm hform hn

/-! Blanks belong to a value up to the parenthesis that closes the filter, and are dropped at the
end of the input. -/

example : parse ['(', ' ', 'a', ' ', '=', ' ', '1', ' ', ')', ' '] =
    .ok (.comparison ⟨['a'], .equality, [' ', '1', ' ']⟩) := rfl

example : parse [' ', 'a', ' ', '=', ' ', '1', ' '] =
    .ok (.comparison ⟨['a'], .equality, [' ', '1']⟩) := rfl

end SearchFilter.Filter
