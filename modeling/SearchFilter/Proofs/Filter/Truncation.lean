import SearchFilter.Text.Slice
import SearchFilter.Proofs.Filter.Persistence

/-! # Texts that end too early

Where a text ends before its filter does, the reason that is given depends on what stands behind the
last parenthesis that opens (`innermost`): if that is nothing but `&` or `|`, a group is called
empty, if it is nothing but a name, an operator is called missing, and otherwise the text is said to
have ended or to nest too deep (`EndReason`).

A filter that is cut off is given up where the text ends, or else in front of the first half of an
operator, because every other fault is final (`reason_at_end`). -/

namespace SearchFilter.Filter

/-! ### Behind the last parenthesis that opens -/

/-- What stands behind the last parenthesis that opens, or all of the text if none does. -/
def innermost (s : Text) : Text := (s.reverse.takeWhile (· != '(')).reverse

theorem innermost_append_of_not_mem (s : Text) {t : Text} (h : '(' ∉ t) :
    innermost (s ++ t) = innermost s ++ t := by
  have hall : ∀ c ∈ t.reverse, (c != '(') = true := fun c hc =>
    bne_iff_ne.mpr (ne_of_mem_of_not_mem (List.mem_reverse.mp hc) h)
  rw [innermost, List.reverse_append, List.takeWhile_append_of_pos hall, List.reverse_append,
    List.reverse_reverse, innermost]

theorem innermost_of_not_mem {s : Text} (h : '(' ∉ s) : innermost s = s :=
  innermost_append_of_not_mem [] h

theorem innermost_append_open (s t : Text) : innermost (s ++ '(' :: t) = innermost t := by
  have hreverse : (s ++ '(' :: t).reverse = t.reverse ++ '(' :: s.reverse := by simp
  rw [innermost, hreverse, List.takeWhile_append, innermost]
  split
  · rename_i hlength
    rw [(List.takeWhile_prefix _).eq_of_length hlength,
      List.takeWhile_cons_of_neg (by simp), List.append_nil]
  · rfl

theorem innermost_open (t : Text) : innermost ('(' :: t) = innermost t :=
  innermost_append_open [] t

/-- What stands in front only matters where no parenthesis opens. -/
theorem innermost_suffix_append (s t : Text) : innermost t <:+ innermost (s ++ t) := by
  by_cases h : '(' ∈ t
  · obtain ⟨u, v, rfl⟩ := List.append_of_mem h
    refine ⟨[], ?_⟩
    rw [List.nil_append, ← List.append_assoc, innermost_append_open, innermost_append_open]
  · rw [innermost_append_of_not_mem s h, innermost_of_not_mem h]
    exact List.suffix_append _ t

theorem trim_innermost_append_blank (s : Text) {w : Text} (hw : w.AllBlank) :
    (innermost (s ++ w)).trim = (innermost s).trim := by
  rw [innermost_append_of_not_mem s (hw.not_mem (by decide)),
    Text.trim_append_blank _ hw]

theorem trim_innermost_blank_append {w : Text} (hw : w.AllBlank) (s : Text) :
    (innermost (w ++ s)).trim = (innermost s).trim := by
  by_cases h : '(' ∈ s
  · obtain ⟨u, v, rfl⟩ := List.append_of_mem h
    rw [← List.append_assoc, innermost_append_open, innermost_append_open]
  · rw [innermost_append_of_not_mem w h, innermost_of_not_mem h,
      innermost_of_not_mem (hw.not_mem (by decide)), Text.trim_blank_append hw]

/-! ### Reasons at the end -/

/-- Nothing but the symbol of a conjunction or a disjunction. -/
def IsSymbol (u : Text) : Prop := u = ['&'] ∨ u = ['|']

instance : DecidablePred IsSymbol := fun _ => inferInstanceAs (Decidable (_ ∨ _))

/-- Why a text is given up at its end, where `u` stands behind the last parenthesis that opens. -/
inductive EndReason (u : Text) : ParseReason → Prop
  | group : IsSymbol u → EndReason u .emptyGroup
  | operator : IsName u → EndReason u .missingOperator
  | other {reason : ParseReason} : ¬ IsSymbol u → ¬ IsName u →
      reason = .unexpectedEnd ∨ reason = .nestingTooDeep → EndReason u reason

theorem not_isName_of_isSymbol {u : Text} (h : IsSymbol u) : ¬ IsName u := by
  rcases h with rfl | rfl
  · exact fun hname => hname.not_mem (by decide) List.mem_cons_self
  · exact fun hname => hname.not_mem (by decide) List.mem_cons_self

theorem EndReason.emptyGroup_iff {u : Text} {reason : ParseReason} (h : EndReason u reason) :
    reason = .emptyGroup ↔ IsSymbol u := by
  cases h with
  | group hu => exact iff_of_true rfl hu
  | operator hu => exact iff_of_false (by decide) fun hsymbol => not_isName_of_isSymbol hsymbol hu
  | other hsymbol _ hreason =>
      refine iff_of_false ?_ hsymbol
      rcases hreason with rfl | rfl <;> decide

theorem EndReason.missingOperator_iff {u : Text} {reason : ParseReason} (h : EndReason u reason) :
    reason = .missingOperator ↔ IsName u := by
  cases h with
  | group hu => exact iff_of_false (by decide) (not_isName_of_isSymbol hu)
  | operator hu => exact iff_of_true rfl hu
  | other _ hname hreason =>
      refine iff_of_false ?_ hname
      rcases hreason with rfl | rfl <;> decide

theorem EndReason.ended_iff {u : Text} {reason : ParseReason} (h : EndReason u reason) :
    (reason = .unexpectedEnd ∨ reason = .nestingTooDeep) ↔ ¬ IsSymbol u ∧ ¬ IsName u := by
  cases h with
  | group hu => exact iff_of_false (by decide) fun hnone => hnone.1 hu
  | operator hu => exact iff_of_false (by decide) fun hnone => hnone.2 hu
  | other hsymbol hname hreason => exact iff_of_true hreason ⟨hsymbol, hname⟩

theorem endReason_of_blank {w : Text} (hw : w.AllBlank) {reason : ParseReason}
    (h : reason = .unexpectedEnd ∨ reason = .nestingTooDeep) :
    EndReason (innermost w).trim reason := by
  have hnil : (innermost w).trim = [] := trim_innermost_append_blank [] hw
  rw [hnil]
  exact .other (by simp [IsSymbol]) (fun hname => hname.1 rfl) h

/-- Behind a parenthesis that closes, or an equals sign, nothing is missing but the end. -/
theorem endReason_of_mem {c : Char} (hc : c = ')' ∨ c = '=') {s : Text} (h : c ∈ innermost s) :
    EndReason (innermost s).trim .unexpectedEnd := by
  have hblank : Text.isBlank c = false := by rcases hc with rfl | rfl <;> decide
  have hmem : c ∈ (innermost s).trim := Text.mem_trim h hblank
  refine .other ?_ (fun hname => hname.not_mem ?_ hmem) (.inl rfl)
  · rintro (hu | hu)
    · rw [hu, List.mem_singleton] at hmem
      rcases hc with rfl | rfl <;> cases hmem
    · rw [hu, List.mem_singleton] at hmem
      rcases hc with rfl | rfl <;> cases hmem
  · rcases hc with rfl | rfl <;> decide

/-! ### Forms -/

/-- The text ends behind a parenthesis that closes or an equals sign, with no parenthesis that opens
in between. -/
def Closes (s : Text) : Prop := ∃ c, (c = ')' ∨ c = '=') ∧ c ∈ innermost s

theorem Closes.append_left {s : Text} (h : Closes s) (t : Text) : Closes (t ++ s) := by
  obtain ⟨c, hc, hmem⟩ := h
  exact ⟨c, hc, (innermost_suffix_append t s).subset hmem⟩

theorem Closes.append_blank {s w : Text} (h : Closes s) (hw : w.AllBlank) : Closes (s ++ w) := by
  obtain ⟨c, hc, hmem⟩ := h
  rw [Closes, innermost_append_of_not_mem s (hw.not_mem (by decide))]
  exact ⟨c, hc, List.mem_append_left w hmem⟩

theorem FilterForm.closes {s : Text} {f : Filter} (h : FilterForm s f) : Closes s := by
  obtain ⟨t, rfl⟩ := h.exists_concat
  rw [Closes, innermost_append_of_not_mem t (by decide)]
  exact ⟨')', .inl rfl, by simp⟩

theorem ListForm.closes {s : Text} {fs : List Filter} (h : ListForm s fs) : Closes s := by
  induction fs generalizing s with
  | nil => exact absurd rfl h.ne_nil
  | cons f fs ih =>
      cases h with
      | one _ hs hw' => exact (hs.closes.append_left _).append_blank hw'
      | cons _ _ ht => exact (ih ht).append_left _

theorem ItemForm.closes {s : Text} {c : Comparison} (h : ItemForm s c) : Closes s := by
  obtain ⟨hc, hw⟩ := h
  rename_i w
  have hname : '(' ∉ c.name := hc.name.not_mem (by decide)
  have hblank : '(' ∉ w := hw.not_mem (by decide)
  have hsymbol : '(' ∉ c.operator.symbol ∧ '=' ∈ c.operator.symbol := by
    cases c.operator <;> decide
  rw [Closes, innermost_of_not_mem]
  · exact ⟨'=', .inr rfl, by simp [hsymbol.2]⟩
  · simp [hname, hblank, hsymbol.1, hc.value.1]

theorem BodyForm.closes {s : Text} {f : Filter} (h : BodyForm s f) : Closes s := by
  cases h with
  | list _ hs => exact hs.closes.append_left [_]
  | neg _ hs => exact hs.closes.append_left _
  | item hs => exact hs.closes

/-! ### Readers at the end of a text -/

/-- What is required of a reader that has nothing left where it stops. -/
def EndsWell (read : FilterReader) : Prop :=
  ∀ s x, read s = .error x → x.rest = [] → EndReason (innermost s).trim x.reason

theorem endsWell_readItem : EndsWell readItem := by
  intro s x h hx
  obtain ⟨t, hs, hfault⟩ := itemFault_of_error h
  rw [hx, List.append_nil] at hs
  subst hs
  cases hfault with
  | ended => exact endReason_of_blank Text.allBlank_nil (.inl rfl)
  | name _ => cases hx
  | @operator name w _ hname hw _ =>
      have hmem : '(' ∉ name := hname.not_mem (by decide)
      have htrim : Text.trim name = name := by
        have h := Text.trim_append_append Text.allBlank_nil
          (fun c hc => not_isBlank_of_nameChar (hname.2 c hc)) Text.allBlank_nil
        rwa [List.nil_append, List.append_nil] at h
      rw [trim_innermost_append_blank name hw, innermost_of_not_mem hmem, htrim]
      exact .operator hname
  | value _ => cases hx

/-- Where no parenthesis opens a filter, one is needed, or it would nest too deep. -/
theorem eq_nil_of_readFilter_error {n : Nat} {s : Text} {x : Fault} (h : readFilter n s = .error x)
    (hx : x.rest = []) (hs : s.StopsAt (· == '(')) :
    s = [] ∧ (x.reason = .unexpectedEnd ∨ x.reason = .nestingTooDeep) := by
  cases n with
  | zero =>
      cases h
      exact ⟨hx, .inr rfl⟩
  | succ n =>
      cases s with
      | nil =>
          cases h
          exact ⟨rfl, .inl rfl⟩
      | cons c s =>
          have hc : c ≠ '(' := by simpa using hs
          have hexpect : expect '(' .expectedOpenParen (c :: s) =
              .error ⟨.expectedOpenParen, c :: s⟩ := by rw [expect, if_neg hc]
          rw [readFilter, hexpect] at h
          cases h
          cases hx

theorem exists_of_readMany_error {n : Nat} {read : FilterReader} (hread : Reads n read)
    {budget s : Text} {x : Fault} (h : readMany read budget s = .error x) :
    ∃ u v : Text, s = u ++ '(' :: v ∧ read ('(' :: v) = .error x := by
  induction budget generalizing s with
  | nil => cases h
  | cons b budget ih =>
      by_cases hs : s.StopsAt (· == '(')
      · rw [readMany_of_stopsAt _ hs] at h
        cases h
      · obtain ⟨s, rfl⟩ := Text.exists_eq_cons_of_not_stopsAt hs
        rw [readMany_cons] at h
        rcases bind_eq_error_iff.mp h with hf | ⟨⟨f, r⟩, hf, h⟩
        · exact ⟨[], s, rfl, hf⟩
        · rcases bind_eq_error_iff.mp h with hmany | ⟨⟨fs, r'⟩, -, h⟩
          · obtain ⟨u, v, hr, herror⟩ := ih hmany
            obtain ⟨t, -, -, hcut⟩ := (hread _ _ _).mp hf
            obtain ⟨w, -, hr'⟩ := Text.exists_append_trimStart r
            refine ⟨t ++ w ++ u, v, ?_, herror⟩
            rw [hcut, hr', hr]
            simp
          · cases h

section Parentheses
variable {n : Nat}

theorem endReason_readGroup (hends : EndsWell (readFilter n)) {kind : Connective}
    (hkind : kind ≠ .not) {s : Text} {x : Fault} (h : readGroup (readFilter n) kind s = .error x)
    (hx : x.rest = []) : EndReason (innermost (kind.symbol :: s)).trim x.reason := by
  obtain ⟨w, hw, hs⟩ := Text.exists_append_trimStart s
  rcases bind_eq_error_iff.mp h with hmany | ⟨⟨fs, r⟩, hmany, h⟩
  · obtain ⟨u, v, hcut, herror⟩ := exists_of_readMany_error reads_readFilter hmany
    have hreason := hends _ _ herror hx
    have hsame : innermost (kind.symbol :: s) = innermost ('(' :: v) := by
      rw [hs, hcut, ← List.append_assoc, ← List.cons_append, innermost_append_open, innermost_open]
    rwa [hsame]
  · cases fs with
    | nil =>
        have hlength : (Text.trimStart s).length ≤ s.length := (List.dropWhile_suffix _).length_le
        obtain ⟨rfl, -⟩ := eq_of_readMany_eq_nil hlength hmany
        cases h
        have hblank : s.AllBlank := Text.trimStart_eq_nil_iff.mp hx
        have hsame : (innermost ([kind.symbol] ++ s)).trim = [kind.symbol] := by
          rw [trim_innermost_append_blank _ hblank]
          cases kind <;> rfl
        rw [← List.singleton_append, hsame]
        cases kind with
        | and => exact .group (.inl rfl)
        | or => exact .group (.inr rfl)
        | not => exact absurd rfl hkind
    | cons f fs => cases h

theorem endsWell_readBody (hends : EndsWell (readFilter n)) :
    EndsWell (readBody (readFilter n)) := by
  intro s x h hx
  rcases readBody_eq_or (readFilter n) s with ⟨kind, s', hkind, rfl, heq⟩ | ⟨s', rfl, heq⟩ | heq
  · rw [heq] at h
    exact endReason_readGroup hends hkind h hx
  · rw [heq] at h
    obtain ⟨w, hw, hs⟩ := Text.exists_append_trimStart s'
    rcases bind_eq_error_iff.mp h with hf | ⟨⟨f, r⟩, -, h⟩
    · by_cases hstop : (Text.trimStart s').StopsAt (· == '(')
      · obtain ⟨hnil, hreason⟩ := eq_nil_of_readFilter_error hf hx hstop
        have hblank : Text.AllBlank s' := Text.trimStart_eq_nil_iff.mp hnil
        have hsame : (innermost (['!'] ++ s')).trim = ['!'] :=
          trim_innermost_append_blank ['!'] hblank
        rw [← List.singleton_append, hsame]
        have hname : ¬ IsName ['!'] := fun h => h.not_mem (by decide) List.mem_cons_self
        exact .other (by decide) hname hreason
      · obtain ⟨v, hv⟩ := Text.exists_eq_cons_of_not_stopsAt hstop
        have hreason := hends _ _ hf hx
        have hcut : '!' :: s' = ('!' :: w) ++ '(' :: v := congrArg ('!' :: ·) (hv ▸ hs)
        have hsame : innermost ('!' :: s') = innermost (Text.trimStart s') := by
          rw [hcut, hv, innermost_append_open, innermost_open]
        rwa [hsame]
    · cases h
  · rw [heq] at h
    exact endsWell_readItem s x h hx

theorem endsWell_succ (hends : EndsWell (readFilter n)) : EndsWell (readFilter (n + 1)) := by
  intro s x h hx
  rcases bind_eq_error_iff.mp h with hopen | ⟨s', hopen, h⟩
  · obtain ⟨rfl, hfault⟩ := expectFault_of_error hopen
    cases hfault with
    | ended => exact endReason_of_blank Text.allBlank_nil (.inl rfl)
    | other _ => cases hx
  · rw [expect_eq_ok_iff] at hopen
    obtain ⟨v, hv, hs⟩ := Text.exists_append_trimStart s'
    rw [hopen, innermost_open]
    rcases bind_eq_error_iff.mp h with hbody | ⟨⟨f, r⟩, hbody, h⟩
    · have hreason := endsWell_readBody hends _ _ hbody hx
      rwa [hs, trim_innermost_blank_append hv]
    · obtain ⟨t, g, w, ht, -, hw, -, hs'⟩ := readBody_sound reads_readFilter hbody
      rcases bind_eq_error_iff.mp h with hclose | ⟨_, -, h⟩
      · obtain ⟨hrest, hfault⟩ := expectFault_of_error hclose
        rw [hs', ← hrest, hx, List.append_nil] at hs
        obtain ⟨c, hc, hmem⟩ := (ht.closes.append_blank hw).append_left v
        cases hfault with
        | ended =>
            rw [hs]
            exact endReason_of_mem hc hmem
        | other _ => cases hx
      · cases h

theorem endsWell_readFilter : EndsWell (readFilter n) := by
  induction n with
  | zero =>
      intro s x h hx
      cases h
      have hs : s = [] := hx
      rw [hs]
      exact endReason_of_blank Text.allBlank_nil (.inr rfl)
  | succ n ih => exact endsWell_succ ih

end Parentheses

/-! ### Whole inputs -/

theorem endReason_of_readAll {s : Text} {x : Fault} (h : readAll s = .error x) (hx : x.rest = []) :
    EndReason (innermost s).trim x.reason := by
  obtain ⟨w, hw, hs⟩ := Text.exists_append_trimStart s
  rw [hs, trim_innermost_blank_append hw]
  rcases bind_eq_error_iff.mp h with houter | ⟨⟨f, r⟩, -, h⟩
  · generalize Text.trimStart s = t at houter
    unfold readOuter at houter
    split at houter
    · cases houter
      exact endReason_of_blank Text.allBlank_nil (.inl rfl)
    · exact endsWell_readFilter _ _ houter hx
    · exact endsWell_readItem _ _ houter hx
  · dsimp only at h
    split at h
    · cases h
    · rename_i hne
      cases h
      exact absurd hx hne

/-- Nothing is left at the fault of an error at the end. -/
theorem endReason_of_parse {s : Text} {e : ParseError} (h : parse s = .error e)
    (hend : e.position = s.trimEnd.utf8Length) : EndReason (innermost s).trim e.reason := by
  obtain ⟨x, hx, rfl⟩ := parse_eq_error_iff.mp h
  obtain ⟨t, ht, -⟩ := inputFault_of_error hx
  rw [Fault.toError_position ht, ht, Text.utf8Length_append] at hend
  have hrest : x.rest = [] := Text.utf8Length_eq_zero.mp (Nat.left_eq_add.mp hend)
  have hreason := endReason_of_readAll hx hrest
  rwa [← trim_innermost_append_blank _ s.allBlank_trailingBlanks,
    s.trimEnd_append_trailingBlanks] at hreason

/-- The fault of a filter that is cut off can become right. -/
theorem not_settled_of_cut {s t : Text} {f : Filter} {x : Fault} (h : parse (s ++ t) = .ok f)
    (hx : readAll s.trimEnd = .error x) : ¬ x.Settled := by
  intro hsettled
  obtain ⟨u, hu⟩ := Text.trimEnd_prefix_trimEnd_append s t
  have hlonger := readAll_append_of_settled hx hsettled u
  rw [hu, parse_eq_ok_iff_readAll.mp h] at hlonger
  cases hlonger

/-- So it stands at the end, or else in front of the first half of an operator. -/
theorem position_of_cut {s t : Text} {f : Filter} {e : ParseError} (h : parse (s ++ t) = .ok f)
    (he : parse s = .error e) :
    e.position = s.trimEnd.utf8Length ∨
      e.reason = .missingOperator ∧ ∃ u, ∃ c ∈ ['<', '>', '~'],
        s.trimEnd = u ++ [c] ∧ e.position = Text.utf8Length u := by
  obtain ⟨x, hx, rfl⟩ := parse_eq_error_iff.mp he
  obtain ⟨u, hu, -⟩ := inputFault_of_error hx
  have hposition := Fault.toError_position hu
  by_cases hrest : x.rest = []
  · rw [hrest, List.append_nil] at hu
    exact .inl (by rw [hposition, hu])
  · have hhalf : ¬ (x.reason = .missingOperator → ∀ c ∈ ['<', '>', '~'], x.rest ≠ [c]) :=
      fun hall => not_settled_of_cut h hx ⟨hrest, hall⟩
    push Not at hhalf
    obtain ⟨hreason, c, hc, hcut⟩ := hhalf
    exact .inr ⟨hreason, u, c, hc, by rw [hu, hcut], hposition⟩

/-- **Where a text ends too early.**  An input that is given up at its end has an empty group
exactly if nothing but `&` or `|` stands behind the last parenthesis that opens, lacks an operator
exactly if nothing but a name does, and otherwise has ended too early or nests too deep.  A filter
that is cut off is given up at the end of what is left of it, or where half an operator is left of
it. -/
theorem reason_at_end {s : Text} {e : ParseError} (h : parse s = .error e) :
    (e.position = s.trimEnd.utf8Length →
      (e.reason = .emptyGroup ↔ IsSymbol (innermost s).trim) ∧
      (e.reason = .missingOperator ↔ IsName (innermost s).trim) ∧
      ((e.reason = .unexpectedEnd ∨ e.reason = .nestingTooDeep) ↔
        ¬ IsSymbol (innermost s).trim ∧ ¬ IsName (innermost s).trim)) ∧
    ∀ t f, parse (s ++ t) = .ok f →
      e.position = s.trimEnd.utf8Length ∨
        e.reason = .missingOperator ∧ ∃ u, ∃ c ∈ ['<', '>', '~'],
          s.trimEnd = u ++ [c] ∧ e.position = Text.utf8Length u := by
  refine ⟨fun hend => ?_, fun _ _ hlonger => position_of_cut hlonger h⟩
  have hreason := endReason_of_parse h hend
  exact ⟨hreason.emptyGroup_iff, hreason.missingOperator_iff, hreason.ended_iff⟩

/-- A conjunction that lacks the name, the operator and the value of its second member, and one that
lacks half an operator. -/
theorem reason_at_end_of_conjunction :
    let s : Text := ['(', '&', '(', 'a', '=', 'é', ')', ' ', '(', 'b']
    let t : Text := ['=', '1', ')', ')']
    parse (s ++ '<' :: t) = .ok (.group .and [.comparison ⟨['a'], .equality, ['é']⟩,
        .comparison ⟨['b'], .lessOrEqual, ['1']⟩]) ∧
      (∃ e, parse (s.take 9) = .error e ∧ e.position = 10 ∧ e.reason = .unexpectedEnd) ∧
      (∃ e, parse s = .error e ∧ e.position = 11 ∧ e.reason = .missingOperator) ∧
      ∃ e, parse (s ++ ['<']) = .error e ∧ e.reason = .missingOperator ∧
        ∃ u, ∃ c ∈ ['<', '>', '~'], Text.trimEnd (s ++ ['<']) = u ++ [c] ∧
          e.position = Text.utf8Length u := by
  intro s t
  have hwhole : parse (s ++ '<' :: t) = .ok (.group .and [.comparison ⟨['a'], .equality, ['é']⟩,
      .comparison ⟨['b'], .lessOrEqual, ['1']⟩]) := by rfl
  have hended : parse (s.take 9) = .error ⟨.unexpectedEnd, 10, []⟩ := by rfl
  have hname : parse s = .error ⟨.missingOperator, 11, []⟩ := by rfl
  have hhalf : parse (s ++ ['<']) = .error ⟨.missingOperator, 11, ['<']⟩ := by rfl
  refine ⟨hwhole, ⟨_, hended, rfl, ?_⟩, ⟨_, hname, rfl, ?_⟩, ⟨_, hhalf, ?_⟩⟩
  · have hnone : ¬ IsSymbol [] ∧ ¬ IsName [] := ⟨by decide, fun hname => hname.1 rfl⟩
    exact (((reason_at_end hended).1 (by rfl)).2.2.mpr hnone).resolve_right (by decide)
  · have hmember : IsName ['b'] := ⟨by decide, List.forall_mem_singleton.mpr (by decide)⟩
    exact ((reason_at_end hname).1 (by rfl)).2.1.mpr hmember
  · have hlonger : parse (s ++ ['<'] ++ t) = .ok _ := hwhole
    exact ((reason_at_end hhalf).2 t _ hlonger).resolve_left (by decide)

/-- A disjunction that is cut off in front of its members is called empty. -/
theorem reason_at_end_of_open_disjunction :
    let s : Text := ['(', '|']
    parse (s ++ ['(', 'a', '=', '1', ')', ')']) =
        .ok (.group .or [.comparison ⟨['a'], .equality, ['1']⟩]) ∧
      ∃ e, parse s = .error e ∧ e.position = s.trimEnd.utf8Length ∧ e.reason = .emptyGroup ∧
        ¬ (e.reason = .unexpectedEnd ∨ e.reason = .nestingTooDeep) :=
  ⟨by rfl, ⟨.emptyGroup, 2, []⟩, by rfl, by decide, rfl, by decide⟩

end SearchFilter.Filter
