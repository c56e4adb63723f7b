import SearchFilter.Filter.Parse
import SearchFilter.Proofs.Filter.Grammar

/-! # Reading filters

What a reader accepts, stated against the grammar: a reader succeeds exactly on the texts that begin
with a form, and returns what that form denotes with the rest of the text.

Each reader is treated before the ones that call it.  A comparison is read up to a parenthesis or
the end of the text (`readItem_eq_ok_iff`), a filter in parentheses whatever stands after it, if it
does not nest too deep (`readFilter_eq_ok_iff`).  If it does, that is what the reader reports
(`readFilter_deepFault`). -/

namespace SearchFilter.Filter

theorem bind_eq_ok_iff {ε α β : Type} {x : Except ε α} {g : α → Except ε β} {b : β} :
    x >>= g = .ok b ↔ ∃ a, x = .ok a ∧ g a = .ok b := by
  cases x with
  | error e => simp [bind, Except.bind]
  | ok a => simp [bind, Except.bind]

theorem bind_eq_error_iff {ε α β : Type} {x : Except ε α} {g : α → Except ε β} {e : ε} :
    x >>= g = .error e ↔ x = .error e ∨ ∃ a, x = .ok a ∧ g a = .error e := by
  cases x with
  | error e => simp [bind, Except.bind]
  | ok a => simp [bind, Except.bind]

/-! ### Leaves -/

theorem expect_eq_ok_iff {c : Char} {reason : ParseReason} {s rest : Text} :
    expect c reason s = .ok rest ↔ s = c :: rest := by
  cases s with
  | nil => simp [expect]
  | cons d s =>
      rw [expect]
      split
      · rename_i h
        simp [h]
      · rename_i h
        simp [h]

theorem readOperator_eq_ok_iff {s rest : Text} {o : Operator} :
    readOperator s = .ok (o, rest) ↔ s = o.symbol ++ rest := by
  constructor
  · intro h
    unfold readOperator at h
    split at h <;> simp only [Except.ok.injEq, Prod.mk.injEq, reduceCtorEq] at h
    all_goals
      obtain ⟨rfl, rfl⟩ := h
      rfl
  · rintro rfl
    cases o <;> rfl

/-- The text is empty or goes on with a parenthesis. -/
def AtParen (s : Text) : Prop := ∀ c ∈ s.head?, c = '(' ∨ c = ')'

theorem isValue_iff {v : Text} : IsValue v ↔ ∀ c ∈ v, (!endsValue c) = true := by
  simp only [IsValue, endsValue, Bool.not_eq_true', Bool.or_eq_false_iff, beq_eq_false_iff_ne]
  constructor
  · rintro ⟨h1, h2, h3⟩ c hc
    exact ⟨⟨ne_of_mem_of_not_mem hc h1, ne_of_mem_of_not_mem hc h2⟩, ne_of_mem_of_not_mem hc h3⟩
  · intro h
    exact ⟨fun hc => (h _ hc).1.1 rfl, fun hc => (h _ hc).1.2 rfl, fun hc => (h _ hc).2 rfl⟩

theorem readValue_eq_ok_iff {s v rest : Text} :
    readValue s = .ok (v, rest) ↔ s = v ++ rest ∧ IsValue v ∧ AtParen rest := by
  constructor
  · intro h
    rw [readValue] at h
    split at h
    · simp at h
    · rename_i hnul
      simp only [Except.ok.injEq, Prod.mk.injEq] at h
      obtain ⟨rfl, rfl⟩ := h
      refine ⟨List.takeWhile_append_dropWhile.symm,
        isValue_iff.mpr fun c hc => by simpa using List.mem_takeWhile_imp hc, ?_⟩
      have hstop := Text.stopsAt_dropWhile (!endsValue ·) s
      cases hd : s.dropWhile (!endsValue ·) with
      | nil => simp [AtParen]
      | cons c rest =>
          rw [hd] at hstop hnul
          have hc : c ≠ '\x00' := fun hc => hnul rest (by rw [hc])
          simpa [AtParen, endsValue, hc, or_iff_not_imp_left] using hstop
  · rintro ⟨rfl, hv, hrest⟩
    have hstop : Text.StopsAt (!endsValue ·) rest := by
      intro c hc
      rcases hrest c hc with rfl | rfl <;> rfl
    rw [readValue, Text.takeWhile_append_of_stopsAt (isValue_iff.mp hv) hstop,
      Text.dropWhile_append_of_stopsAt (isValue_iff.mp hv) hstop]
    split
    · rename_i rest
      exact absurd (hrest '\x00' rfl) (by decide)
    · rfl

theorem not_isNameChar_of_isBlank {c : Char} (h : Text.isBlank c = true) :
    isNameChar c = false := by
  by_contra hc
  rw [not_isBlank_of_nameChar (isNameChar_iff.mp (by simpa using hc))] at h
  exact absurd h (by decide)

theorem stopsAt_isNameChar {w : Text} (hw : w.AllBlank) (o : Operator) (s : Text) :
    (w ++ (o.symbol ++ s)).StopsAt isNameChar := by
  cases w with
  | nil => cases o <;> exact Text.stopsAt_cons.mpr (by decide)
  | cons c w => exact Text.stopsAt_cons.mpr (not_isNameChar_of_isBlank (hw c (by simp)))

theorem stopsAt_isBlank_symbol (o : Operator) (s : Text) :
    (o.symbol ++ s).StopsAt Text.isBlank := by
  cases o <;> exact Text.stopsAt_cons.mpr (by decide)

/-- After a name that goes on no further, the operator and the value decide. -/
theorem readItem_name_append {name s : Text} (hname : IsName name) (hs : s.StopsAt isNameChar) :
    readItem (name ++ s) = do
      let (operator, rest) ← readOperator (Text.trimStart s)
      let (value, rest) ← readValue rest
      return (.comparison ⟨name, operator, value⟩, rest) := by
  have hall : ∀ c ∈ name, isNameChar c = true := fun c hc => isNameChar_iff.mpr (hname.2 c hc)
  have hne : name.isEmpty = false := by simpa using hname.1
  unfold readItem
  rw [Text.takeWhile_append_of_stopsAt hall hs, Text.dropWhile_append_of_stopsAt hall hs]
  simp only [hne, Bool.false_eq_true, if_false]

theorem readItem_eq_ok_iff {s rest : Text} {f : Filter} :
    readItem s = .ok (f, rest) ↔
      ∃ t c, ItemForm t c ∧ f = .comparison c ∧ s = t ++ rest ∧ AtParen rest := by
  constructor
  · intro h
    unfold readItem at h
    dsimp only at h
    split at h
    · cases h
    · rename_i hname
      obtain ⟨⟨o, r⟩, ho, h⟩ := bind_eq_ok_iff.mp h
      obtain ⟨⟨v, r'⟩, hv, h⟩ := bind_eq_ok_iff.mp h
      cases h
      obtain ⟨w, hw, hs⟩ := Text.exists_append_trimStart (s.dropWhile isNameChar)
      obtain ⟨rfl, hvalue, hrest⟩ := readValue_eq_ok_iff.mp hv
      rw [readOperator_eq_ok_iff.mp ho] at hs
      have hread : Comparison.Readable ⟨s.takeWhile isNameChar, o, v⟩ := by
        refine ⟨⟨by simpa using hname, fun c hc => ?_⟩, hvalue⟩
        exact isNameChar_iff.mp (by simpa using List.mem_takeWhile_imp hc)
      refine ⟨_, _, .mk hread hw, rfl, ?_, hrest⟩
      calc s = s.takeWhile isNameChar ++ s.dropWhile isNameChar :=
            List.takeWhile_append_dropWhile.symm
        _ = s.takeWhile isNameChar ++ w ++ o.symbol ++ v ++ r' := by rw [hs]; simp
  · rintro ⟨_, c, ⟨hc, hw⟩, rfl, rfl, hrest⟩
    rename_i w
    have hs : c.name ++ w ++ c.operator.symbol ++ c.value ++ rest =
        c.name ++ (w ++ (c.operator.symbol ++ (c.value ++ rest))) := by simp
    rw [hs, readItem_name_append hc.name (stopsAt_isNameChar hw _ _), Text.trimStart_append hw,
      Text.trimStart_of_stopsAt (stopsAt_isBlank_symbol _ _)]
    have ho := readOperator_eq_ok_iff.mpr (rfl : c.operator.symbol ++ (c.value ++ rest) = _)
    have hv := readValue_eq_ok_iff.mpr ⟨(rfl : c.value ++ rest = _), hc.value, hrest⟩
    simp only [ho, hv, bind, Except.bind]
    rfl

/-! ### Lists of filters -/

/-- What is required of a reader of filters that nest at most `n` deep. -/
def Reads (n : Nat) (read : FilterReader) : Prop :=
  ∀ s f rest, read s = .ok (f, rest) ↔ ∃ t, FilterForm t f ∧ f.levels ≤ n ∧ s = t ++ rest

section Lists
variable {n : Nat} {read : FilterReader}

theorem readMany_of_stopsAt (budget : Text) {s : Text} (hs : s.StopsAt (· == '(')) :
    readMany read budget s = .ok ([], s) := by
  unfold readMany
  split
  · simp at hs
  · rfl

theorem readMany_cons (b : Char) (budget s : Text) :
    readMany read (b :: budget) ('(' :: s) = do
      let (f, rest) ← read ('(' :: s)
      let (fs, rest) ← readMany read budget (Text.trimStart rest)
      return (f :: fs, rest) := by
  rw [readMany]

theorem readMany_sound (hread : Reads n read) {budget s rest : Text} {fs : List Filter}
    (h : readMany read budget s = .ok (fs, rest)) :
    (fs = [] ∧ s = rest) ∨ ∃ t, ListForm t fs ∧ levelsAll fs ≤ n ∧ s = t ++ rest := by
  induction budget generalizing s fs with
  | nil =>
      simp only [readMany, Except.ok.injEq, Prod.mk.injEq] at h
      exact .inl ⟨h.1.symm, h.2⟩
  | cons b budget ih =>
      by_cases hs : s.StopsAt (· == '(')
      · rw [readMany_of_stopsAt _ hs] at h
        simp only [Except.ok.injEq, Prod.mk.injEq] at h
        exact .inl ⟨h.1.symm, h.2⟩
      · obtain ⟨s, rfl⟩ := Text.exists_eq_cons_of_not_stopsAt hs
        rw [readMany_cons] at h
        obtain ⟨⟨f, r⟩, hf, h⟩ := bind_eq_ok_iff.mp h
        obtain ⟨⟨gs, r'⟩, hgs, h⟩ := bind_eq_ok_iff.mp h
        cases h
        obtain ⟨t, ht, hn, hs⟩ := (hread _ _ _).mp hf
        obtain ⟨w, hw, hr⟩ := Text.exists_append_trimStart r
        refine .inr ?_
        rcases ih hgs with ⟨rfl, hr'⟩ | ⟨u, hu, hun, hr'⟩
        · refine ⟨t ++ w, by simpa using ListForm.one Text.allBlank_nil ht hw, ?_, ?_⟩
          · simpa [levelsAll] using hn
          · rw [hs, hr, hr', List.append_assoc]
        · refine ⟨t ++ (w ++ u), ?_, Nat.max_le.mpr ⟨hn, hun⟩, ?_⟩
          · simpa using ListForm.cons Text.allBlank_nil ht (hu.blank_append hw)
          · rw [hs, hr, hr', List.append_assoc, List.append_assoc]

theorem readMany_first {w s : Text} {f : Filter} (hw : w.AllBlank) (hs : FilterForm s f) (b : Char)
    (budget t : Text) :
    readMany read (b :: budget) (Text.trimStart (w ++ s ++ t)) = do
      let (f, rest) ← read (s ++ t)
      let (fs, rest) ← readMany read budget (Text.trimStart rest)
      return (f :: fs, rest) := by
  rw [hs.trimStart_append hw]
  obtain ⟨u, rfl⟩ := hs.exists_cons
  exact readMany_cons b budget (u ++ t)

/-- It becomes the first member, if it does not nest too deep. -/
theorem readMany_filterForm (hread : Reads n read) {w s : Text} {f : Filter} (hw : w.AllBlank)
    (hs : FilterForm s f) (hn : f.levels ≤ n) (b : Char) (budget t : Text) :
    readMany read (b :: budget) (Text.trimStart (w ++ s ++ t)) = do
      let (fs, rest) ← readMany read budget (Text.trimStart t)
      return (f :: fs, rest) := by
  have hf : read (s ++ t) = .ok (f, t) := (hread _ _ _).mpr ⟨s, hs, hn, rfl⟩
  rw [readMany_first hw hs, hf]
  rfl

theorem readMany_complete (hread : Reads n read) {s rest : Text} {fs : List Filter}
    (h : ListForm s fs) (hn : levelsAll fs ≤ n) (hblank : rest.StopsAt Text.isBlank)
    (hparen : rest.StopsAt (· == '(')) {budget : Text} (hb : fs.length ≤ budget.length) :
    readMany read budget (Text.trimStart (s ++ rest)) = .ok (fs, rest) := by
  induction fs generalizing s budget with
  | nil => exact absurd rfl h.ne_nil
  | cons f fs ih =>
      obtain ⟨hf, hfs⟩ := Nat.max_le.mp hn
      cases budget with
      | nil => simp at hb
      | cons b budget =>
          cases h with
          | one hw hs hw' =>
              rw [List.append_assoc, readMany_filterForm hread hw hs hf, Text.trimStart_append hw',
                Text.trimStart_of_stopsAt hblank, readMany_of_stopsAt _ hparen]
              rfl
          | cons hw hs ht =>
              have hb' : fs.length ≤ budget.length := by simpa using hb
              rw [List.append_assoc, readMany_filterForm hread hw hs hf, ih ht hfs hb']
              rfl

theorem readGroup_sound (hread : Reads n read) {kind : Connective} {s rest : Text} {f : Filter}
    (h : readGroup read kind s = .ok (f, rest)) :
    ∃ t fs, ListForm t fs ∧ levelsAll fs ≤ n ∧ f = .group kind fs ∧ s = t ++ rest := by
  obtain ⟨⟨fs, r⟩, hmany, h⟩ := bind_eq_ok_iff.mp h
  obtain ⟨w, hw, hs⟩ := Text.exists_append_trimStart s
  rcases readMany_sound hread hmany with ⟨rfl, -⟩ | ⟨t, ht, hn, hr⟩
  · cases h
  · have hne : fs.isEmpty = false := List.isEmpty_eq_false_iff.mpr ht.ne_nil
    simp only [hne, Bool.false_eq_true, if_false] at h
    cases h
    refine ⟨w ++ t, fs, ht.blank_append hw, hn, rfl, ?_⟩
    rw [hs, hr, List.append_assoc]

theorem readGroup_complete (hread : Reads n read) (kind : Connective) {s rest : Text}
    {fs : List Filter} (h : ListForm s fs) (hn : levelsAll fs ≤ n)
    (hblank : rest.StopsAt Text.isBlank) (hparen : rest.StopsAt (· == '(')) :
    readGroup read kind (s ++ rest) = .ok (.group kind fs, rest) := by
  have hb : fs.length ≤ (s ++ rest).length := by
    have := h.length_le
    rw [List.length_append]
    omega
  have hne : fs.isEmpty = false := List.isEmpty_eq_false_iff.mpr h.ne_nil
  rw [readGroup, readMany_complete hread h hn hblank hparen hb]
  simp only [bind, Except.bind, hne, Bool.false_eq_true, if_false]
  rfl

end Lists

/-! ### Filters in parentheses -/

section Parentheses
variable {n : Nat} {read : FilterReader}

theorem readBody_symbol {kind : Connective} (hkind : kind ≠ .not) (s : Text) :
    readBody read (kind.symbol :: s) = readGroup read kind s := by
  cases kind with
  | and => rfl
  | or => rfl
  | not => exact absurd rfl hkind

theorem readBody_of_nameChar {c : Char} (hc : NameChar c) (s : Text) :
    readBody read (c :: s) = readItem (c :: s) := by
  unfold readBody
  split
  case h_4 => rfl
  all_goals
    rename_i h
    cases h
    exact absurd hc (by decide)

/-- The first character of a body tells whether it is a list, a negation or an item. -/
theorem readBody_eq_or (read : FilterReader) (s : Text) :
    (∃ kind s', kind ≠ .not ∧ s = kind.symbol :: s' ∧ readBody read s = readGroup read kind s') ∨
    (∃ s', s = '!' :: s' ∧ readBody read s = do
      let (f, rest) ← read (Text.trimStart s')
      return (f.negate, rest)) ∨
    readBody read s = readItem s := by
  unfold readBody
  split
  · exact .inl ⟨.and, _, by decide, rfl, rfl⟩
  · exact .inl ⟨.or, _, by decide, rfl, rfl⟩
  · exact .inr (.inl ⟨_, rfl, rfl⟩)
  · exact .inr (.inr rfl)

theorem readBody_sound (hread : Reads n read) {s r : Text} {f : Filter}
    (h : readBody read s = .ok (f, r)) :
    ∃ t g w, BodyForm t g ∧ g.levels ≤ n + 1 ∧ w.AllBlank ∧ f = g.extend w ∧
      s = t ++ w ++ Text.trimStart r := by
  obtain ⟨w, hw, hs⟩ := Text.exists_append_trimStart r
  rcases readBody_eq_or read s with ⟨kind, s', hkind, rfl, heq⟩ | ⟨s', rfl, heq⟩ | heq
  · rw [heq] at h
    obtain ⟨t, fs, ht, hn, rfl, ht'⟩ := readGroup_sound hread h
    refine ⟨_, _, w, .list hkind ht, Nat.succ_le_succ hn, hw, rfl, ?_⟩
    rw [ht', List.cons_append, List.cons_append, List.append_assoc, ← hs]
  · rw [heq] at h
    obtain ⟨⟨g, r'⟩, hg, h⟩ := bind_eq_ok_iff.mp h
    cases h
    obtain ⟨v, hv, hs'⟩ := Text.exists_append_trimStart s'
    obtain ⟨t, ht, hn, ht'⟩ := (hread _ _ _).mp hg
    refine ⟨_, _, w, .neg hv ht, ?_, hw, rfl, ?_⟩
    · simpa [levels, levelsAll] using hn
    · rw [List.append_assoc, ← hs, List.cons_append, List.cons_append, List.append_assoc, ← ht',
        ← hs']
  · rw [heq] at h
    obtain ⟨t, c, ht, rfl, rfl, hparen⟩ := readItem_eq_ok_iff.mp h
    have hstop : r.StopsAt Text.isBlank := by
      intro a ha
      rcases hparen a ha with rfl | rfl <;> rfl
    refine ⟨t, _, [], .item ht, Nat.le_add_left 1 n, Text.allBlank_nil, (extend_nil _).symm, ?_⟩
    rw [Text.trimStart_of_stopsAt hstop, List.append_nil]

theorem readBody_complete (hread : Reads n read) {s w : Text} {f : Filter} (h : BodyForm s f)
    (hn : f.levels ≤ n + 1) (hw : w.AllBlank) (rest : Text) :
    ∃ r, readBody read (s ++ (w ++ ')' :: rest)) = .ok (f.extend w, r) ∧
      Text.trimStart r = ')' :: rest := by
  have hblank : Text.StopsAt Text.isBlank (')' :: rest) := Text.stopsAt_cons.mpr (by decide)
  have hparen : Text.StopsAt (· == '(') (')' :: rest) := Text.stopsAt_cons.mpr (by decide)
  cases h with
  | @list kind s fs hkind hs =>
      refine ⟨')' :: rest, ?_, Text.trimStart_of_stopsAt hblank⟩
      rw [List.cons_append, readBody_symbol hkind, ← List.append_assoc]
      exact readGroup_complete hread kind (hs.append_blank hw) (Nat.le_of_succ_le_succ hn) hblank
        hparen
  | @neg v s g hv hs =>
      have hg : g.levels ≤ n := by simpa [levels, levelsAll] using hn
      refine ⟨w ++ ')' :: rest, ?_, ?_⟩
      · have hread' : read (s ++ (w ++ ')' :: rest)) = .ok (g, w ++ ')' :: rest) :=
          (hread _ _ _).mpr ⟨s, hs, hg, rfl⟩
        rw [List.cons_append, List.cons_append, readBody, hs.trimStart_append hv, hread']
        rfl
      · rw [Text.trimStart_append hw, Text.trimStart_of_stopsAt hblank]
  | @item s c hs =>
      refine ⟨')' :: rest, ?_, Text.trimStart_of_stopsAt hblank⟩
      have hitem := readItem_eq_ok_iff.mpr
        ⟨_, _, hs.extend hw, rfl, rfl, (by simp [AtParen] : AtParen (')' :: rest))⟩
      obtain ⟨a, t, rfl, ha⟩ := hs.exists_cons
      rw [List.cons_append, readBody_of_nameChar ha]
      simpa [extend] using hitem

theorem readFilter_parens {v u : Text} {g : Filter} (hv : v.AllBlank) (hu : BodyForm u g)
    (w t : Text) :
    readFilter (n + 1) ('(' :: v ++ u ++ w ++ [')'] ++ t) = do
      let (f, rest) ← readBody (readFilter n) (u ++ (w ++ ')' :: t))
      let rest ← expect ')' .expectedCloseParen (Text.trimStart rest)
      return (f, rest) := by
  have hs : '(' :: v ++ u ++ w ++ [')'] ++ t = '(' :: (v ++ u ++ (w ++ ')' :: t)) := by simp
  rw [hs, readFilter, ← hu.trimStart_append hv]
  rfl

theorem reads_succ (h : Reads n (readFilter n)) : Reads (n + 1) (readFilter (n + 1)) := by
  intro s f rest
  constructor
  · intro hf
    obtain ⟨s', hs', hf⟩ := bind_eq_ok_iff.mp hf
    obtain ⟨⟨g, r⟩, hbody, hf⟩ := bind_eq_ok_iff.mp hf
    obtain ⟨r', hr', hf⟩ := bind_eq_ok_iff.mp hf
    cases hf
    rw [expect_eq_ok_iff] at hs' hr'
    obtain ⟨v, hv, hs⟩ := Text.exists_append_trimStart s'
    obtain ⟨t, g, w, ht, hn, hw, rfl, hs''⟩ := readBody_sound h hbody
    rw [hr'] at hs''
    refine ⟨_, .parens hv ht hw, by rwa [levels_extend], ?_⟩
    rw [hs', hs, hs'']
    simp
  · rintro ⟨_, ⟨hv, ht, hw⟩, hn, rfl⟩
    rename_i v t w g
    rw [levels_extend] at hn
    obtain ⟨r, hbody, hr⟩ := readBody_complete h ht hn hw rest
    rw [readFilter_parens hv ht]
    simp only [expect, if_true, hbody, hr, bind, Except.bind]
    rfl

theorem reads_readFilter : Reads n (readFilter n) := by
  induction n with
  | zero =>
      intro s f rest
      constructor
      · intro h
        cases h
      · rintro ⟨t, -, hn, -⟩
        have := one_le_levels f
        omega
  | succ n ih => exact reads_succ ih

theorem readFilter_eq_ok_iff {s rest : Text} {f : Filter} :
    readFilter n s = .ok (f, rest) ↔ ∃ t, FilterForm t f ∧ f.levels ≤ n ∧ s = t ++ rest :=
  reads_readFilter s f rest

end Parentheses

/-! ### Filters that nest too deep -/

/-- Reading stopped because parentheses nest too deep. -/
def DeepFault {α : Type} (x : Except Fault α) : Prop := ∃ r, x = .error ⟨.nestingTooDeep, r⟩

theorem DeepFault.bind {α β : Type} {x : Except Fault α} (h : DeepFault x)
    (g : α → Except Fault β) : DeepFault (x >>= g) := by
  obtain ⟨r, rfl⟩ := h
  exact ⟨r, rfl⟩

section Deep
variable {n : Nat} {read : FilterReader}

theorem readMany_deepFault (hread : Reads n read)
    (hdeep : ∀ s f t, FilterForm s f → n < f.levels → DeepFault (read (s ++ t)))
    {s : Text} {fs : List Filter} (h : ListForm s fs) (hn : n < levelsAll fs) (t : Text)
    {budget : Text} (hb : fs.length ≤ budget.length) :
    DeepFault (readMany read budget (Text.trimStart (s ++ t))) := by
  -- The first member that nests too deep stops the reader, the ones before it are read.
  induction fs generalizing s budget with
  | nil => exact absurd rfl h.ne_nil
  | cons f fs ih =>
      cases budget with
      | nil => simp at hb
      | cons b budget =>
          cases h with
          | one hw hs hw' =>
              rw [List.append_assoc, readMany_first hw hs]
              exact (hdeep _ f _ hs (by simpa [levelsAll] using hn)).bind _
          | cons hw hs ht =>
              rw [List.append_assoc]
              by_cases hf : f.levels ≤ n
              · rw [readMany_filterForm hread hw hs hf]
                have hfs : n < levelsAll fs := by
                  rw [levelsAll] at hn
                  omega
                exact (ih ht hfs (by simpa using hb)).bind _
              · rw [readMany_first hw hs]
                exact (hdeep _ f _ hs (Nat.lt_of_not_le hf)).bind _

theorem readBody_deepFault (hread : Reads n read)
    (hdeep : ∀ s f t, FilterForm s f → n < f.levels → DeepFault (read (s ++ t)))
    {s : Text} {f : Filter} (h : BodyForm s f) (hn : n + 1 < f.levels) (t : Text) :
    DeepFault (readBody read (s ++ t)) := by
  cases h with
  | @list kind s fs hkind hs =>
      have hb : fs.length ≤ (s ++ t).length := by
        have := hs.length_le
        rw [List.length_append]
        omega
      rw [List.cons_append, readBody_symbol hkind]
      exact (readMany_deepFault hread hdeep hs (Nat.lt_of_succ_lt_succ hn) t hb).bind _
  | @neg v s g hv hs =>
      have hg : n < g.levels := by simpa [levels, levelsAll] using hn
      rw [List.cons_append, List.cons_append, readBody, hs.trimStart_append hv]
      exact (hdeep s g t hs hg).bind _
  | item hs => exact absurd hn (by simp [levels])

/-- A filter that nests too deep is not read, and this is the reason given. -/
theorem readFilter_deepFault {s : Text} {f : Filter} (h : FilterForm s f) (hn : n < f.levels)
    (t : Text) : DeepFault (readFilter n (s ++ t)) := by
  induction n generalizing s f t with
  | zero => exact ⟨_, rfl⟩
  | succ n ih =>
      obtain ⟨hv, hu, hw⟩ := h
      rename_i v u w g
      rw [levels_extend] at hn
      have hbody := readBody_deepFault reads_readFilter (fun _ _ t hs hf => ih hs hf t) hu hn
        (w ++ ')' :: t)
      rw [readFilter_parens hv hu]
      exact hbody.bind _

end Deep

end SearchFilter.Filter
