import SearchFilter.Proofs.Filter.RoundTrip

/-! # Reading laid out filters

A layout puts its indentation in front of the whole filter, in front of the members of a
conjunction or disjunction and in front of the parenthesis that closes it.  The rules allow blanks
in these places, and nothing else is added: a filter is laid out as blanks and one of its forms
(`Readable.afterBlanks_layOut`).  So parsing undoes every layout whose fill is blank, whatever its
width and from whatever level (`parse_layOut_eq_ok_iff`). -/

namespace SearchFilter

theorem Layout.allBlank_indentation {l : Layout} (hl : Text.isBlank l.fill = true) (level : Nat) :
    Text.AllBlank (l.indentation level) := by
  intro c hc
  have hfill : c = l.fill := List.eq_of_mem_replicate hc
  rw [hfill]
  exact hl

namespace Filter

theorem layOutAll_eq_flatMap (l : Layout) (level : Nat) (fs : List Filter) :
    layOutAll l level fs = fs.flatMap ('\n' :: layOut l level ·) := by
  induction fs with
  | nil => rfl
  | cons f fs ih => rw [layOutAll_cons, ih, List.flatMap_cons]

theorem AfterBlanks.blank_append {s w : Text} {f : Filter} (h : AfterBlanks s f)
    (hw : w.AllBlank) : AfterBlanks (w ++ s) f := by
  obtain ⟨v, t, hv, ht, rfl⟩ := h
  exact ⟨w ++ v, t, Text.allBlank_append.mpr ⟨hw, hv⟩, ht, (List.append_assoc w v t).symm⟩

theorem AfterBlanks.inputForm {s w : Text} {f : Filter} (h : AfterBlanks s f) (hw : w.AllBlank) :
    InputForm (s ++ w) f := by
  obtain ⟨v, t, hv, ht, rfl⟩ := h
  exact .filter hv ht hw

section Blank
variable {l : Layout} (hl : Text.isBlank l.fill = true)
include hl

/-- The members of a group are laid out as a list, and the blanks in front of the parenthesis that
closes the group still belong to that list. -/
theorem listForm_layOutAll {level : Nat} {fs : List Filter} (hne : fs ≠ [])
    (h : ∀ f ∈ fs, AfterBlanks (f.layOut l level) f) (outer : Nat) :
    ListForm (layOutAll l level fs ++ '\n' :: l.indentation outer) fs := by
  have hline : ∀ {w : Text}, w.AllBlank → Text.AllBlank ('\n' :: w) := fun hw =>
    List.forall_mem_cons.mpr ⟨by decide, hw⟩
  have hlist : ListForm (layOutAll l level fs) fs := by
    rw [layOutAll_eq_flatMap]
    refine listForm_flatMap hne fun f hf => ?_
    exact (h f hf).blank_append (hline Text.allBlank_nil)
  exact hlist.append_blank (hline (Layout.allBlank_indentation hl outer))

theorem Readable.afterBlanks_layOut {f : Filter} (h : f.Readable) (level : Nat) :
    AfterBlanks (f.layOut l level) f := by
  have hindent := Layout.allBlank_indentation hl level
  induction h generalizing level with
  | @comparison c hc =>
      have hform : FilterForm c.text (.comparison c) := Readable.filterForm (.comparison hc)
      rw [layOut_comparison]
      exact hform.afterBlanks.blank_append hindent
  | @group kind children hn hchildren ih =>
      rw [layOut_group]
      apply AfterBlanks.blank_append _ hindent
      apply FilterForm.afterBlanks
      by_cases hline : l.isCompact || kind == .not
      · rw [if_pos hline]
        exact Readable.filterForm (.group hn hchildren)
      · have hkind : kind ≠ .not := by
          rintro rfl
          simp at hline
        have hmembers : ∀ f ∈ children, AfterBlanks (f.layOut l (level + 1)) f := fun f hf =>
          ih f hf (level + 1) (Layout.allBlank_indentation hl (level + 1))
        have hlist := listForm_layOutAll hl (Connective.ne_nil_of_admits hn) hmembers level
        have hbody := (BodyForm.list hkind hlist).parens
        rw [if_neg hline]
        simpa using hbody

/-- Parsing undoes a layout, whatever blanks follow. -/
theorem Readable.parse_layOut_append {f : Filter} (h : f.Readable) (hn : f.levels ≤ maxDepth)
    (level : Nat) {w : Text} (hw : w.AllBlank) : parse (f.layOut l level ++ w) = .ok f :=
  parse_of_inputForm ((h.afterBlanks_layOut hl level).inputForm hw) hn

end Blank

/-- **Layouts are undone by parsing**: a filter that is laid out with blanks, in any width and from
any level, is parsed as this filter exactly if its names, values and groups can be read and it does
not nest too deep. -/
theorem parse_layOut_eq_ok_iff {l : Layout} (hl : Text.isBlank l.fill = true) (level : Nat)
    (f : Filter) : parse (f.layOut l level) = .ok f ↔ f.Readable ∧ f.levels ≤ maxDepth := by
  constructor
  · intro h
    obtain ⟨hform, hn⟩ := inputForm_of_parse h
    exact ⟨hform.readable, hn⟩
  · rintro ⟨hread, hn⟩
    have hparse := hread.parse_layOut_append hl hn level Text.allBlank_nil
    rwa [List.append_nil] at hparse

/-- Three em spaces for each level, from the second level on; the blanks in the value stay. -/
theorem parse_layOut_emSpaces :
    let l : Layout := ⟨3, '\u2003'⟩
    let f : Filter := .group .and
      [.group .or [.comparison ⟨['a'], .equality, [' ', '1', ' ']⟩],
        .group .not [.comparison ⟨['b'], .lessOrEqual, []⟩]]
    Text.isBlank l.fill = true ∧ f.Readable ∧ f.levels = 3 ∧ parse (f.layOut l 2) = .ok f := by
  intro l f
  have hfill : Text.isBlank l.fill = true := by decide
  have hparse : parse f.text = .ok f := by rfl
  have hread : f.Readable := (inputForm_of_parse hparse).1.readable
  have hn : f.levels = 3 := by decide
  exact ⟨hfill, hread, hn, (parse_layOut_eq_ok_iff hfill 2 f).mpr ⟨hread, by rw [hn]; decide⟩⟩

end Filter
end SearchFilter
