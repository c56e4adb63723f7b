import SearchFilter.Proofs.Filter.Faults

/-! # What stands around a filter

Blanks around an input change nothing but the positions of errors, which count the blanks in front,
and what errors show, which goes on with the blanks behind (`parse_blank_append_append`).

A filter in parentheses tells by itself where it ends: no form in parentheses is the beginning of a
longer one (`FilterForm.eq_nil_of_append`).  So an input in parentheses is not parsed any more when
its end is missing, and whatever else stands behind it is where the error is
(`parse_of_parenthesized`). -/

namespace SearchFilter.Filter

/-! ### Blanks around an input -/

theorem readAll_blank_append {w : Text} (hw : w.AllBlank) (s : Text) :
    readAll (w ++ s) = readAll s := by
  rw [readAll, readAll, Text.trimStart_append hw]

theorem utf8Length_rest_le {s : Text} {x : Fault} (h : readAll s = .error x) :
    x.rest.utf8Length ≤ s.utf8Length := by
  obtain ⟨t, ht, -⟩ := inputFault_of_error h
  rw [ht, Text.utf8Length_append]
  exact Nat.le_add_left _ _

/-- A text that is cut short goes on as if it had not been cut. -/
theorem take_take_append {α : Type} (n : Nat) (s t : List α) :
    (s.take n ++ t).take n = (s ++ t).take n := by
  rw [List.take_append, List.take_append, List.take_take, Nat.min_self, List.length_take]
  congr 2
  omega

/-- **Blanks around an input are neutral**: the input is parsed as the same filter with them and
without, or for the same reason it is not, and then the position counts the blanks in front. -/
theorem parse_blank_append_append {w s w' : Text} (hw : w.AllBlank) (hs : ¬ s.AllBlank)
    (hw' : w'.AllBlank) :
    parse (w ++ s ++ w') = (parse s).mapError fun e =>
      { reason := e.reason
        position := w.utf8Length + e.position
        fragment := (e.fragment ++ w').take fragmentLength } := by
  have hend : (w ++ s ++ w').trimEnd = w ++ s.trimEnd := by
    rw [Text.trimEnd_append _ hw', Text.trimEnd_append_of_not_allBlank w hs]
  have htrailing : (w ++ s ++ w').trailingBlanks = s.trailingBlanks ++ w' := by
    rw [Text.trailingBlanks_append _ hw', Text.trailingBlanks_append_of_not_allBlank w hs]
  rw [parse, parse, hend, readAll_blank_append hw]
  cases h : readAll s.trimEnd with
  | ok f => rfl
  | error x =>
      have hrest := utf8Length_rest_le h
      have hposition : w.utf8Length + s.trimEnd.utf8Length - x.rest.utf8Length =
          w.utf8Length + (s.trimEnd.utf8Length - x.rest.utf8Length) := Nat.add_sub_assoc hrest _
      have herror : x.toError (w ++ s ++ w') =
          { reason := x.reason
            position := w.utf8Length + (s.trimEnd.utf8Length - x.rest.utf8Length)
            fragment := (x.rest ++ (s.trailingBlanks ++ w')).take fragmentLength } := by
        rw [Fault.toError, hend, htrailing, Text.utf8Length_append, hposition]
      dsimp only [Except.mapError]
      rw [herror, Fault.toError, take_take_append, List.append_assoc]

/-- A group that is not closed, between blanks of three and of two bytes. -/
theorem parse_blank_append_append_of_open :
    let w : Text := ['\u3000', '\u0085']
    let s : Text := [' ', '(', '|', '(', 'a', '=', ' ', ')', ' ']
    w.AllBlank ∧ ¬ s.AllBlank ∧ parse s = .error ⟨.unexpectedEnd, 8, [' ']⟩ ∧
      parse (w ++ s ++ w) = .error ⟨.unexpectedEnd, 13, [' ', '\u3000', '\u0085']⟩ := by
  intro w s
  have hw : w.AllBlank := by decide
  have hs : ¬ s.AllBlank := by decide
  have herror : parse s = .error ⟨.unexpectedEnd, 8, [' ']⟩ := by rfl
  refine ⟨hw, hs, herror, ?_⟩
  rw [parse_blank_append_append hw hs hw, herror]
  rfl

/-! ### Inputs in parentheses -/

/-- A form in parentheses is not the beginning of a longer one. -/
theorem FilterForm.eq_nil_of_append {s t : Text} {f g : Filter} (hs : FilterForm s f)
    (ht : FilterForm (s ++ t) g) : t = [] := by
  have hshort : readFilter (max f.levels g.levels) (s ++ t) = .ok (f, t) :=
    readFilter_eq_ok_iff.mpr ⟨s, hs, Nat.le_max_left _ _, rfl⟩
  have hlong : readFilter (max f.levels g.levels) (s ++ t) = .ok (g, []) :=
    readFilter_eq_ok_iff.mpr ⟨s ++ t, ht, Nat.le_max_right _ _, (List.append_nil _).symm⟩
  rw [hshort] at hlong
  cases hlong
  rfl

theorem exists_filterForm_of_parse {s : Text} {f : Filter} (h : parse ('(' :: s) = .ok f) :
    ∃ t w : Text, '(' :: s = t ++ w ∧ FilterForm t f ∧ f.levels ≤ maxDepth ∧ w.AllBlank := by
  have hblank {v u : Text} (hv : v.AllBlank) (hs : '(' :: s = v ++ u) : v = [] := by
    cases v with
    | nil => rfl
    | cons c v =>
        cases hs
        exact absurd (hv '(' List.mem_cons_self) (by decide)
  obtain ⟨hform, hn⟩ := inputForm_of_parse h
  generalize hs : '(' :: s = input at hform
  cases hform with
  | @filter v t w _ hv ht hw =>
      rw [List.append_assoc] at hs
      rw [hblank hv hs, List.nil_append]
      exact ⟨t, w, rfl, ht, hn, hw⟩
  | @item v t w _ hv ht hw =>
      rw [List.append_assoc] at hs
      rw [hblank hv hs] at hs
      obtain ⟨c, u, rfl, hc⟩ := ht.exists_cons
      cases hs
      exact absurd hc (by decide)

theorem filterForm_of_parse {s : Text} {f : Filter} (hs : s.trim = s) (hopen : s.head? = some '(')
    (h : parse s = .ok f) : FilterForm s f ∧ f.levels ≤ maxDepth := by
  obtain ⟨u, rfl⟩ := List.head?_eq_some_iff.mp hopen
  have hstart : Text.trimStart ('(' :: u) = '(' :: u :=
    Text.trimStart_of_stopsAt (Text.stopsAt_cons.mpr (by decide))
  obtain ⟨t, w, hcut, ht, hn, hw⟩ := exists_filterForm_of_parse h
  have hend : Text.trimEnd (t ++ w) = t := by
    rw [Text.trimEnd_append t hw]
    exact ht.trimEnd_append []
  rw [Text.trim, hstart, hcut, hend] at hs
  rw [hcut, ← hs]
  exact ⟨ht, hn⟩

/-- Behind a form in parentheses and blanks, anything else is left. -/
theorem FilterForm.readAll_append {s w : Text} {f : Filter} (h : FilterForm s f)
    (hn : f.levels ≤ maxDepth) (hw : w.AllBlank) {c : Char} (hc : Text.isBlank c = false)
    (t : Text) : readAll (s ++ (w ++ c :: t)) = .error ⟨.trailingInput, c :: t⟩ := by
  have hstart : Text.trimStart (s ++ (w ++ c :: t)) = s ++ (w ++ c :: t) :=
    h.trimStart_append Text.allBlank_nil (w ++ c :: t)
  have hread : readOuter (s ++ (w ++ c :: t)) = .ok (f, w ++ c :: t) := by
    have hfilter : readFilter maxDepth (s ++ (w ++ c :: t)) = .ok (f, w ++ c :: t) :=
      readFilter_eq_ok_iff.mpr ⟨s, h, hn, rfl⟩
    obtain ⟨u, rfl⟩ := h.exists_cons
    exact hfilter
  have hrest : Text.trimStart (w ++ c :: t) = c :: t := by
    rw [Text.trimStart_append hw, Text.trimStart_of_stopsAt (Text.stopsAt_cons.mpr hc)]
  rw [readAll, hstart, hread]
  dsimp only [bind, Except.bind]
  rw [hrest]
  rfl

theorem FilterForm.parse_append {s x : Text} {f : Filter} (h : FilterForm s f)
    (hn : f.levels ≤ maxDepth) (hx : ¬ x.AllBlank) :
    ∃ e, parse (s ++ x) = .error e ∧ e.reason = .trailingInput ∧
      e.position = s.utf8Length + Text.utf8Length (x.takeWhile Text.isBlank) := by
  obtain ⟨w, hw, hcut⟩ := Text.exists_append_trimStart x
  have hstop : x.trimStart.StopsAt Text.isBlank := Text.stopsAt_dropWhile Text.isBlank x
  cases hstart : x.trimStart with
  | nil => exact absurd (Text.trimStart_eq_nil_iff.mp hstart) hx
  | cons c t =>
      rw [hstart] at hcut hstop
      have hc : Text.isBlank c = false := Text.stopsAt_cons.mp hstop
      have hend : Text.trimEnd (s ++ (w ++ c :: t)) = s ++ (w ++ c :: Text.trimEnd t) := by
        rw [← List.append_assoc, Text.trimEnd_append_cons hc, List.append_assoc]
      have hread := h.readAll_append hn hw hc (Text.trimEnd t)
      rw [← hend] at hread
      refine ⟨_, by rw [hcut, parse, hread], rfl, ?_⟩
      rw [hcut, Text.takeWhile_append_of_stopsAt hw hstop, Fault.toError, hend,
        ← List.append_assoc, Text.utf8Length_append, Nat.add_sub_cancel, Text.utf8Length_append]

/-- **A filter in parentheses tells where it ends**: an input that is parsed, has no blanks around
it and begins with a parenthesis is not parsed any more when anything is missing at its end, and if
anything but blanks stands behind it, then that is too much. -/
theorem parse_of_parenthesized {s : Text} {f : Filter} (hs : s.trim = s)
    (hopen : s.head? = some '(') (h : parse s = .ok f) :
    (∀ t, t <+: s → t ≠ s → ∃ e, parse t = .error e) ∧
    ∀ x : Text, ¬ x.AllBlank → ∃ e, parse (s ++ x) = .error e ∧ e.reason = .trailingInput ∧
      e.position = s.utf8Length + Text.utf8Length (x.takeWhile Text.isBlank) := by
  obtain ⟨hform, hn⟩ := filterForm_of_parse hs hopen h
  refine ⟨fun t ht hne => ?_, fun x hx => hform.parse_append hn hx⟩
  obtain ⟨r, rfl⟩ := ht
  cases hparse : parse t with
  | error e => exact ⟨e, rfl⟩
  | ok g =>
      cases t with
      | nil => cases hparse
      | cons c t =>
          cases hopen
          obtain ⟨u, w, hcut, hu, -⟩ := exists_filterForm_of_parse hparse
          rw [hcut, List.append_assoc] at hform
          obtain ⟨-, rfl⟩ := List.append_eq_nil_iff.mp (hu.eq_nil_of_append hform)
          exact absurd (List.append_nil _).symm hne

/-- A conjunction of a blank value and one of two bytes, cut behind its first member, and with a
parenthesis too many behind a blank of three bytes. -/
theorem parse_of_parenthesized_conjunction :
    let s : Text := ['(', '&', '(', 'a', '=', ' ', ')', ' ', '(', 'b', '=', 'é', ')', ')']
    s.trim = s ∧ s.head? = some '(' ∧
      parse s = .ok (.group .and [.comparison ⟨['a'], .equality, [' ']⟩,
        .comparison ⟨['b'], .equality, ['é']⟩]) ∧
      (∃ e, parse (s.take 7) = .error e) ∧
      ∃ e, parse (s ++ ['\u3000', ')']) = .error e ∧ e.reason = .trailingInput ∧
        e.position = 18 := by
  intro s
  have htrim : s.trim = s := by rfl
  have hopen : s.head? = some '(' := by rfl
  have hparse : parse s = .ok (.group .and [.comparison ⟨['a'], .equality, [' ']⟩,
      .comparison ⟨['b'], .equality, ['é']⟩]) := by rfl
  obtain ⟨hcut, hlonger⟩ := parse_of_parenthesized htrim hopen hparse
  exact ⟨htrim, hopen, hparse, hcut (s.take 7) (List.take_prefix 7 s) (by decide),
    hlonger ['\u3000', ')'] (by decide)⟩

end SearchFilter.Filter
