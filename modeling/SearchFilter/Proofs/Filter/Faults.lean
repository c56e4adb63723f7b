import SearchFilter.Proofs.Filter.Parsing

/-! # Faults

Where a text is not read, the reader has read a part of it and stopped at a fault.  There is one
relation between this part and the fault for each rule of the grammar:

    item     ItemFault      no name, no operator, or a NUL in the value
    filter   FilterFault    nested too deep, no parenthesis where one is needed, or in its body
    body     BodyFault      in its list, its filter or its item
    list     ListFault      no filter, or in one of its filters
    input    InputFault     in its filter or its item, or behind it

They say what has been read and what stands at the fault, and with the grammar they account for
every outcome of a reader.  A text is cut at its fault (`parse_eq_error`), so the position of an
error is the length of what has been read. -/

namespace SearchFilter.Filter

/-! ### The relations -/

/-- Where the character `c` is missing; `reason` is given if there is another one. -/
inductive ExpectFault (c : Char) (reason : ParseReason) : Fault → Prop
  | ended : ExpectFault c reason ⟨.unexpectedEnd, []⟩
  | other {d : Char} {s : Text} : d ≠ c → ExpectFault c reason ⟨reason, d :: s⟩

/-- Where an item stops. -/
inductive ItemFault : Text → Fault → Prop
  | ended : ItemFault [] ⟨.unexpectedEnd, []⟩
  | name {c : Char} {s : Text} : ¬ NameChar c → ItemFault [] ⟨.invalidAttribute, c :: s⟩
  | operator {name w s : Text} : IsName name → w.AllBlank → (∀ (o : Operator) t, s ≠ o.symbol ++ t) →
      ItemFault (name ++ w) ⟨.missingOperator, s⟩
  | value {t s : Text} {c : Comparison} : ItemForm t c → ItemFault t ⟨.unescapedNul, '\x00' :: s⟩

/-- What may stand in a list in front of one more filter: blanks, or a list that nests at most `n`
deep. -/
inductive ListStart (n : Nat) : Text → List Filter → Prop
  | blank {w : Text} : w.AllBlank → ListStart n w []
  | list {t : Text} {fs : List Filter} : ListForm t fs → levelsAll fs ≤ n → ListStart n t fs

mutual

/-- Where a filter stops that may nest at most `n` deep. -/
inductive FilterFault : Nat → Text → Fault → Prop
  | deep {s : Text} : FilterFault 0 [] ⟨.nestingTooDeep, s⟩
  | opening {n : Nat} {x : Fault} : ExpectFault '(' .expectedOpenParen x → FilterFault (n + 1) [] x
  | body {n : Nat} {w s : Text} {x : Fault} : w.AllBlank → BodyFault n s x →
      FilterFault (n + 1) ('(' :: w ++ s) x
  | closing {n : Nat} {v s w : Text} {f : Filter} {x : Fault} : v.AllBlank → BodyForm s f →
      f.levels ≤ n + 1 → w.AllBlank → ExpectFault ')' .expectedCloseParen x →
      FilterFault (n + 1) ('(' :: v ++ s ++ w) x

/-- Where a body stops whose filters may nest at most `n` deep. -/
inductive BodyFault : Nat → Text → Fault → Prop
  | list {n : Nat} {kind : Connective} {s : Text} {x : Fault} : kind ≠ .not → ListFault n s x →
      BodyFault n (kind.symbol :: s) x
  | neg {n : Nat} {w s : Text} {x : Fault} : w.AllBlank → FilterFault n s x →
      BodyFault n ('!' :: w ++ s) x
  | item {n : Nat} {s : Text} {x : Fault} : ItemFault s x → BodyFault n s x

/-- Where a list stops whose filters may nest at most `n` deep. -/
inductive ListFault : Nat → Text → Fault → Prop
  | empty {n : Nat} {w s : Text} : w.AllBlank → s.StopsAt Text.isBlank → s.StopsAt (· == '(') →
      ListFault n w ⟨.emptyGroup, s⟩
  | member {n : Nat} {t s : Text} {fs : List Filter} {x : Fault} : ListStart n t fs →
      FilterFault n s x → ListFault n (t ++ s) x

end

/-- Where an input stops. -/
inductive InputFault : Text → Fault → Prop
  | filter {w s : Text} {x : Fault} : w.AllBlank → FilterFault maxDepth s x → InputFault (w ++ s) x
  | item {w s : Text} {x : Fault} : w.AllBlank → ItemFault s x → InputFault (w ++ s) x
  | trailing {s t : Text} {c : Char} {f : Filter} : InputForm s f → f.levels ≤ maxDepth →
      Text.isBlank c = false → InputFault s ⟨.trailingInput, c :: t⟩

/-! ### Leaves -/

theorem expectFault_of_error {c : Char} {reason : ParseReason} {s : Text} {x : Fault}
    (h : expect c reason s = .error x) : x.rest = s ∧ ExpectFault c reason x := by
  cases s with
  | nil =>
      cases h
      exact ⟨rfl, .ended⟩
  | cons d s =>
      rw [expect] at h
      split at h
      · cases h
      · rename_i hd
        cases h
        exact ⟨rfl, .other hd⟩

theorem readOperator_eq_error {s : Text} {x : Fault} (h : readOperator s = .error x) :
    x = ⟨.missingOperator, s⟩ ∧ ∀ (o : Operator) t, s ≠ o.symbol ++ t := by
  constructor
  · unfold readOperator at h
    split at h <;> simp only [Except.error.injEq, reduceCtorEq] at h
    exact h.symm
  · intro o t hs
    rw [readOperator_eq_ok_iff.mpr hs] at h
    cases h

theorem readOperator_of_forall {s : Text} (h : ∀ (o : Operator) t, s ≠ o.symbol ++ t) :
    readOperator s = .error ⟨.missingOperator, s⟩ := by
  cases hs : readOperator s with
  | ok p => exact absurd (readOperator_eq_ok_iff.mp hs) (h p.1 p.2)
  | error x => rw [(readOperator_eq_error hs).1]

theorem readValue_eq_error {s : Text} {x : Fault} (h : readValue s = .error x) :
    ∃ v t, s = v ++ '\x00' :: t ∧ IsValue v ∧ x = ⟨.unescapedNul, '\x00' :: t⟩ := by
  rw [readValue] at h
  split at h
  · rename_i t ht
    cases h
    refine ⟨s.takeWhile (!endsValue ·), t, ?_, isValue_iff.mpr fun c hc => ?_, rfl⟩
    · rw [← ht, List.takeWhile_append_dropWhile]
    · simpa using List.mem_takeWhile_imp hc
  · cases h

theorem itemFault_of_error {s : Text} {x : Fault} (h : readItem s = .error x) :
    ∃ t, s = t ++ x.rest ∧ ItemFault t x := by
  unfold readItem at h
  dsimp only at h
  split at h
  · rename_i hname
    cases s with
    | nil =>
        cases h
        exact ⟨[], rfl, .ended⟩
    | cons c s =>
        have hc : ¬ NameChar c := by
          intro hc
          rw [List.takeWhile_cons_of_pos (isNameChar_iff.mpr hc)] at hname
          cases hname
        cases h
        exact ⟨[], rfl, .name hc⟩
  · rename_i hname
    have hname' : IsName (s.takeWhile isNameChar) := by
      refine ⟨by simpa using hname, fun c hc => ?_⟩
      exact isNameChar_iff.mp (by simpa using List.mem_takeWhile_imp hc)
    obtain ⟨w, hw, hs⟩ := Text.exists_append_trimStart (s.dropWhile isNameChar)
    have hcut : s = s.takeWhile isNameChar ++ w ++ Text.trimStart (s.dropWhile isNameChar) := by
      rw [List.append_assoc, ← hs, List.takeWhile_append_dropWhile]
    rcases bind_eq_error_iff.mp h with ho | ⟨⟨o, r⟩, ho, h⟩
    · obtain ⟨rfl, hnone⟩ := readOperator_eq_error ho
      exact ⟨_, hcut, .operator hname' hw hnone⟩
    · rcases bind_eq_error_iff.mp h with hv | ⟨⟨v, r'⟩, -, h⟩
      · obtain ⟨v, t, (hr : r = _), hvalue, rfl⟩ := readValue_eq_error hv
        rw [readOperator_eq_ok_iff.mp ho, hr] at hcut
        refine ⟨_, hcut.trans ?_, .value (.mk (c := ⟨_, o, v⟩) ⟨hname', hvalue⟩ hw)⟩
        simp
      · cases h

/-! ### Lists of filters -/

theorem ListStart.blank_append {n : Nat} {w t : Text} {fs : List Filter} (hw : w.AllBlank)
    (h : ListStart n t fs) : ListStart n (w ++ t) fs := by
  cases h with
  | blank ht => exact .blank (Text.allBlank_append.mpr ⟨hw, ht⟩)
  | list ht hn => exact .list (ht.blank_append hw) hn

theorem ListStart.cons {n : Nat} {s t : Text} {f : Filter} {fs : List Filter}
    (hs : FilterForm s f) (hn : f.levels ≤ n) (h : ListStart n t fs) :
    ListStart n (s ++ t) (f :: fs) := by
  cases h with
  | blank ht =>
      refine .list ?_ (by simpa [levelsAll] using hn)
      simpa using ListForm.one Text.allBlank_nil hs ht
  | list ht hfs =>
      refine .list ?_ (Nat.max_le.mpr ⟨hn, hfs⟩)
      simpa using ListForm.cons Text.allBlank_nil hs ht

/-- What is required of the faults of a reader of filters that nest at most `n` deep. -/
def Faults (n : Nat) (read : FilterReader) : Prop :=
  ∀ s x, read s = .error x → ∃ t, s = t ++ x.rest ∧ FilterFault n t x

section Lists
variable {n : Nat} {read : FilterReader}

/-- A list is left empty only where no parenthesis opens a filter. -/
theorem eq_of_readMany_eq_nil {budget s rest : Text} (hb : s.length ≤ budget.length)
    (h : readMany read budget s = .ok ([], rest)) : rest = s ∧ s.StopsAt (· == '(') := by
  by_cases hs : s.StopsAt (· == '(')
  · rw [readMany_of_stopsAt _ hs] at h
    cases h
    exact ⟨rfl, hs⟩
  · obtain ⟨s, rfl⟩ := Text.exists_eq_cons_of_not_stopsAt hs
    cases budget with
    | nil => simp at hb
    | cons b budget =>
        rw [readMany_cons] at h
        obtain ⟨_, -, h⟩ := bind_eq_ok_iff.mp h
        obtain ⟨_, -, h⟩ := bind_eq_ok_iff.mp h
        cases h

variable (hread : Reads n read) (hfaults : Faults n read)
include hread hfaults

theorem readMany_eq_error {budget s : Text} {x : Fault} (h : readMany read budget s = .error x) :
    ∃ t u fs, s = t ++ u ++ x.rest ∧ ListStart n t fs ∧ FilterFault n u x := by
  induction budget generalizing s with
  | nil => cases h
  | cons b budget ih =>
      by_cases hs : s.StopsAt (· == '(')
      · rw [readMany_of_stopsAt _ hs] at h
        cases h
      · obtain ⟨s, rfl⟩ := Text.exists_eq_cons_of_not_stopsAt hs
        rw [readMany_cons] at h
        rcases bind_eq_error_iff.mp h with hf | ⟨⟨f, r⟩, hf, h⟩
        · obtain ⟨u, hu, hfault⟩ := hfaults _ _ hf
          exact ⟨[], u, [], hu, .blank Text.allBlank_nil, hfault⟩
        · obtain ⟨t, ht, hn, hs⟩ := (hread _ _ _).mp hf
          rcases bind_eq_error_iff.mp h with hmany | ⟨⟨fs, r'⟩, -, h⟩
          · obtain ⟨t', u, fs, hr, hstart, hfault⟩ := ih hmany
            obtain ⟨w, hw, hr'⟩ := Text.exists_append_trimStart r
            refine ⟨t ++ (w ++ t'), u, f :: fs, ?_, .cons ht hn (hstart.blank_append hw), hfault⟩
            rw [hs, hr', hr]
            simp
          · cases h

theorem listFault_of_error {kind : Connective} {s : Text} {x : Fault}
    (h : readGroup read kind s = .error x) : ∃ t, s = t ++ x.rest ∧ ListFault n t x := by
  obtain ⟨w, hw, hs⟩ := Text.exists_append_trimStart s
  rcases bind_eq_error_iff.mp h with hmany | ⟨⟨fs, r⟩, hmany, h⟩
  · obtain ⟨t, u, fs, ht, hstart, hfault⟩ := readMany_eq_error hread hfaults hmany
    refine ⟨w ++ t ++ u, ?_, .member (hstart.blank_append hw) hfault⟩
    rw [hs, ht]
    simp
  · cases fs with
    | nil =>
        have hlength : (Text.trimStart s).length ≤ s.length := (List.dropWhile_suffix _).length_le
        obtain ⟨rfl, hparen⟩ := eq_of_readMany_eq_nil hlength hmany
        cases h
        exact ⟨w, hs, .empty hw (Text.stopsAt_dropWhile _ s) hparen⟩
    | cons f fs => cases h

end Lists

/-! ### Filters in parentheses -/

section Parentheses
variable {n : Nat} {read : FilterReader}

theorem bodyFault_of_error (hread : Reads n read) (hfaults : Faults n read) {s : Text} {x : Fault}
    (h : readBody read s = .error x) : ∃ t, s = t ++ x.rest ∧ BodyFault n t x := by
  rcases readBody_eq_or read s with ⟨kind, s', hkind, rfl, heq⟩ | ⟨s', rfl, heq⟩ | heq
  · rw [heq] at h
    obtain ⟨t, rfl, hfault⟩ := listFault_of_error hread hfaults h
    exact ⟨kind.symbol :: t, rfl, .list hkind hfault⟩
  · rw [heq] at h
    obtain ⟨w, hw, hs⟩ := Text.exists_append_trimStart s'
    rcases bind_eq_error_iff.mp h with hf | ⟨⟨f, r⟩, -, h⟩
    · obtain ⟨t, ht, hfault⟩ := hfaults _ _ hf
      refine ⟨'!' :: w ++ t, ?_, .neg hw hfault⟩
      rw [List.cons_append, List.cons_append, List.append_assoc, ← ht, ← hs]
    · cases h
  · rw [heq] at h
    obtain ⟨t, ht, hfault⟩ := itemFault_of_error h
    exact ⟨t, ht, .item hfault⟩

theorem faults_succ (hread : Reads n (readFilter n)) (hfaults : Faults n (readFilter n)) :
    Faults (n + 1) (readFilter (n + 1)) := by
  intro s x h
  rcases bind_eq_error_iff.mp h with hopen | ⟨s', hopen, h⟩
  · obtain ⟨rfl, hfault⟩ := expectFault_of_error hopen
    exact ⟨[], rfl, .opening hfault⟩
  · rw [expect_eq_ok_iff] at hopen
    obtain ⟨v, hv, hs⟩ := Text.exists_append_trimStart s'
    rcases bind_eq_error_iff.mp h with hbody | ⟨⟨f, r⟩, hbody, h⟩
    · obtain ⟨t, ht, hfault⟩ := bodyFault_of_error hread hfaults hbody
      refine ⟨'(' :: v ++ t, ?_, .body hv hfault⟩
      rw [hopen, hs, ht]
      simp
    · obtain ⟨t, g, w, ht, hn, hw, rfl, hs'⟩ := readBody_sound hread hbody
      rcases bind_eq_error_iff.mp h with hclose | ⟨_, -, h⟩
      · obtain ⟨hrest, hfault⟩ := expectFault_of_error hclose
        refine ⟨'(' :: v ++ t ++ w, ?_, .closing hv ht hn hw hfault⟩
        rw [hopen, hs, hs', hrest]
        simp
      · cases h

theorem faults_readFilter : Faults n (readFilter n) := by
  induction n with
  | zero =>
      intro s x h
      cases h
      exact ⟨[], rfl, .deep⟩
  | succ n ih => exact faults_succ reads_readFilter ih

end Parentheses

/-! ### Whole inputs -/

theorem inputFault_of_error {s : Text} {x : Fault} (h : readAll s = .error x) :
    ∃ t, s = t ++ x.rest ∧ InputFault t x := by
  obtain ⟨w, hw, hs⟩ := Text.exists_append_trimStart s
  rcases bind_eq_error_iff.mp h with houter | ⟨⟨f, r⟩, houter, h⟩
  · unfold readOuter at houter
    split at houter
    · rename_i hnil
      cases houter
      refine ⟨w ++ [], ?_, .item hw .ended⟩
      rw [hs, hnil]
      simp
    · rename_i s' hopen
      obtain ⟨t, ht, hfault⟩ := faults_readFilter _ _ houter
      refine ⟨w ++ t, ?_, .filter hw hfault⟩
      rw [hs, hopen, ht, List.append_assoc]
    · obtain ⟨t, ht, hfault⟩ := itemFault_of_error houter
      refine ⟨w ++ t, ?_, .item hw hfault⟩
      rw [hs, ht, List.append_assoc]
  · obtain ⟨v, hv, hr⟩ := Text.exists_append_trimStart r
    have hstop := Text.stopsAt_dropWhile Text.isBlank r
    rw [← Text.trimStart] at hstop
    dsimp only at h
    cases hrest : Text.trimStart r with
    | nil =>
        rw [hrest] at h
        cases h
    | cons c rest =>
        rw [hrest] at h hstop hr
        have hc : Text.isBlank c = false := Text.stopsAt_cons.mp hstop
        cases h
        rcases readOuter_sound houter with ⟨t, ht, hn, ht'⟩ | ⟨t, d, ht, rfl, ht', -⟩
        · refine ⟨w ++ t ++ v, ?_, .trailing (.filter hw ht hv) hn hc⟩
          rw [hs, ht', hr]
          simp
        · refine ⟨w ++ t ++ v, ?_, .trailing (.item hw ht hv) (by simp [levels, maxDepth]) hc⟩
          rw [hs, ht', hr]
          simp

theorem Fault.toError_position {s t : Text} {x : Fault} (h : s.trimEnd = t ++ x.rest) :
    (x.toError s).position = t.utf8Length := by
  rw [Fault.toError, h, Text.utf8Length_append, Nat.add_sub_cancel]

/-- **Every error is a fault**: a text that is not parsed is cut into what has been read, what is
left at the fault, and the blanks at its end; the position is the length of the first part. -/
theorem parse_eq_error {s : Text} {e : ParseError} (h : parse s = .error e) :
    ∃ t x, s.trimEnd = t ++ x.rest ∧ InputFault t x ∧ e.reason = x.reason ∧
      e.position = t.utf8Length := by
  obtain ⟨x, hx, rfl⟩ := parse_eq_error_iff.mp h
  obtain ⟨t, ht, hfault⟩ := inputFault_of_error hx
  exact ⟨t, x, ht, hfault, rfl, Fault.toError_position ht⟩

end SearchFilter.Filter
