import SearchFilter.Proofs.Filter.Faults
import SearchFilter.Proofs.Filter.Sequencing

/-! # Faults in a text that goes on

A reader looks at most two characters ahead.  So what it makes of a text does not change when the
text goes on, as long as something is left of it (`Outlasts`), and more than the first half of an
operator where that is missing (`Fault.Settled`).  This passes from readers to their sequences
(`Persists.andThen`), and so up to whole inputs: a settled fault is one in every text that goes on
(`readAll_append_of_settled`). -/

namespace SearchFilter.Filter

/-- What is left at the fault cannot become right by what follows. -/
def Fault.Settled (x : Fault) : Prop :=
  x.rest ≠ [] ∧ (x.reason = .missingOperator → ∀ c ∈ ['<', '>', '~'], x.rest ≠ [c])

/-- The fault where more text follows. -/
def Fault.append (x : Fault) (t : Text) : Fault := ⟨x.reason, x.rest ++ t⟩

variable {α β : Type} {s t : Text}

/-- What has been made of `s` is made of `s` and `t` too, if something is left and a fault is
settled. -/
inductive Outlasts (s t : Text) : Except Fault (α × Text) → Except Fault (α × Text) → Prop
  | ok {a : α} {r : Text} {longer : Except Fault (α × Text)} : r <:+ s →
      (r ≠ [] → longer = .ok (a, r ++ t)) → Outlasts s t (.ok (a, r)) longer
  | error {x : Fault} {longer : Except Fault (α × Text)} : x.rest <:+ s →
      (x.Settled → longer = .error (x.append t)) → Outlasts s t (.error x) longer

/-- What the reader makes of a text outlasts whatever follows. -/
def Persists (read : Reader α) : Prop := ∀ s t, Outlasts s t (read s) (read (s ++ t))

/-! ### Sequences -/

theorem Outlasts.of_suffix {u : Text} {short longer : Except Fault (α × Text)} (hs : u <:+ s)
    (h : Outlasts u t short longer) : Outlasts s t short longer := by
  cases h with
  | ok hr hlonger => exact .ok (hr.trans hs) hlonger
  | error hr hlonger => exact .error (hr.trans hs) hlonger

/-- If something is left in the end, then something was left after the first step. -/
theorem Outlasts.bind {short longer : Except Fault (α × Text)}
    {next next' : α × Text → Except Fault (β × Text)} (h : Outlasts s t short longer)
    (hnext : ∀ a r, short = .ok (a, r) → Outlasts r t (next (a, r)) (next' (a, r ++ t))) :
    Outlasts s t (short >>= next) (longer >>= next') := by
  cases h with
  | error hr hlonger =>
      refine .error hr fun hx => ?_
      rw [hlonger hx]
      rfl
  | @ok a r _ hr hlonger =>
      have hrest := hnext a r rfl
      dsimp only [Bind.bind, Except.bind]
      generalize next (a, r) = result at hrest ⊢
      generalize hlater : next' (a, r ++ t) = later at hrest ⊢
      cases hrest with
      | @ok b r' _ hr' hlater' =>
          refine .ok (hr'.trans hr) fun hne => ?_
          have hr0 : r ≠ [] := by
            rintro rfl
            exact hne (List.suffix_nil.mp hr')
          rw [hlonger hr0]
          exact hlater.trans (hlater' hne)
      | @error x _ hr' hlater' =>
          refine .error (hr'.trans hr) fun hx => ?_
          have hr0 : r ≠ [] := by
            rintro rfl
            exact hx.1 (List.suffix_nil.mp hr')
          rw [hlonger hr0]
          exact hlater.trans (hlater' hx)

theorem Persists.andThen {read : Reader α} {next : α → Reader β} (h : Persists read)
    (hnext : ∀ a, Persists (next a)) : Persists (andThen read next) :=
  fun s t => (h s t).bind fun a r _ => hnext a r t

/-! ### The smallest readers -/

theorem forall_head?_append {q : Char → Prop} (h : ∀ c ∈ s.head?, q c) (hs : s ≠ []) (t : Text) :
    ∀ c ∈ (s ++ t).head?, q c := by
  intro c hc
  rw [List.head?_append_of_ne_nil _ hs] at hc
  exact h c hc

theorem persists_give (a : α) : Persists (give a) := fun s _ =>
  .ok (List.suffix_refl s) fun _ => rfl

theorem outlasts_ended {longer : Except Fault (α × Text)} (reason : ParseReason) :
    Outlasts s t (.error ⟨reason, []⟩) longer :=
  .error (List.nil_suffix) fun hx => absurd rfl hx.1

theorem persists_readBlanks : Persists readBlanks := by
  intro s t
  refine .ok (List.dropWhile_suffix _) fun hne => ?_
  rw [readBlanks, Text.trimStart_append_of_ne_nil hne]

theorem persists_readChar (c : Char) (reason : ParseReason) : Persists (readChar c reason) := by
  intro s t
  cases s with
  | nil => exact outlasts_ended .unexpectedEnd
  | cons d s =>
      rw [List.cons_append, readChar, readChar, expect, expect]
      by_cases hd : d = c
      · rw [if_pos hd, if_pos hd]
        exact .ok (List.suffix_cons d s) fun _ => rfl
      · rw [if_neg hd, if_neg hd]
        exact .error (List.suffix_refl _) fun _ => rfl

theorem symbol_eq_or (o : Operator) :
    o.symbol = ['='] ∨ ∃ c ∈ ['<', '>', '~'], o.symbol = [c, '='] := by
  cases o with
  | equality => exact .inl rfl
  | lessOrEqual => exact .inr ⟨'<', by decide, rfl⟩
  | greaterOrEqual => exact .inr ⟨'>', by decide, rfl⟩
  | approximate => exact .inr ⟨'~', by decide, rfl⟩

/-- A text that does not begin with an operator, nor is the first half of one, does not when it goes
on. -/
theorem append_ne_symbol_append (h : ∀ (o : Operator) r, s ≠ o.symbol ++ r) (hs : s ≠ [])
    (hhalf : ∀ c ∈ ['<', '>', '~'], s ≠ [c]) (t : Text) (o : Operator) (r : Text) :
    s ++ t ≠ o.symbol ++ r := by
  intro heq
  rcases List.append_eq_append_iff.mp heq with ⟨u, hsymbol, -⟩ | ⟨u, hu, -⟩
  · cases s with
    | nil => exact hs rfl
    | cons a s =>
        rcases symbol_eq_or o with ho | ⟨c, hc, ho⟩
        · rw [ho] at hsymbol
          obtain ⟨rfl, hnil⟩ := List.cons.inj hsymbol
          obtain ⟨rfl, rfl⟩ := List.append_eq_nil_iff.mp hnil.symm
          exact h .equality [] rfl
        · rw [ho] at hsymbol
          obtain ⟨rfl, hend⟩ := List.cons.inj hsymbol
          cases s with
          | nil => exact hhalf c hc rfl
          | cons b s =>
              obtain ⟨rfl, hnil⟩ := List.cons.inj hend
              obtain ⟨rfl, rfl⟩ := List.append_eq_nil_iff.mp hnil.symm
              exact h o [] (by rw [ho, List.append_nil])
  · exact h o u hu

theorem persists_readOperator : Persists readOperator := by
  intro s t
  cases hs : readOperator s with
  | ok p =>
      obtain ⟨o, r⟩ := p
      rw [readOperator_eq_ok_iff] at hs
      refine .ok ⟨o.symbol, hs.symm⟩ fun _ => readOperator_eq_ok_iff.mpr ?_
      rw [hs, List.append_assoc]
  | error x =>
      obtain ⟨rfl, hnone⟩ := readOperator_eq_error hs
      refine .error (List.suffix_refl s) fun hx => readOperator_of_forall fun o r => ?_
      exact append_ne_symbol_append hnone hx.1 (hx.2 rfl) t o r

theorem readValue_of_nul {v : Text} (hv : IsValue v) (t : Text) :
    readValue (v ++ '\x00' :: t) = .error ⟨.unescapedNul, '\x00' :: t⟩ := by
  have hstop : Text.StopsAt (!endsValue ·) ('\x00' :: t) := Text.stopsAt_cons.mpr (by decide)
  rw [readValue, Text.dropWhile_append_of_stopsAt (isValue_iff.mp hv) hstop]
  rfl

theorem persists_readValue : Persists readValue := by
  intro s t
  cases hs : readValue s with
  | ok p =>
      obtain ⟨v, r⟩ := p
      obtain ⟨rfl, hv, hparen⟩ := readValue_eq_ok_iff.mp hs
      refine .ok (List.suffix_append v r) fun hr => readValue_eq_ok_iff.mpr ?_
      exact ⟨List.append_assoc v r t, hv, forall_head?_append hparen hr t⟩
  | error x =>
      obtain ⟨v, u, rfl, hv, rfl⟩ := readValue_eq_error hs
      refine .error (List.suffix_append v _) fun _ => ?_
      rw [List.append_assoc]
      exact readValue_of_nul hv (u ++ t)

theorem persists_readName : Persists readName := by
  intro s t
  rw [readName, readName]
  by_cases hname : (s.takeWhile isNameChar).isEmpty
  · rw [if_pos hname]
    cases s with
    | nil => exact outlasts_ended .unexpectedEnd
    | cons c s =>
        have hc : ¬ isNameChar c = true := fun hc => by
          rw [List.takeWhile_cons_of_pos hc] at hname
          cases hname
        rw [List.cons_append, List.takeWhile_cons_of_neg hc]
        exact .error (List.suffix_refl _) fun _ => rfl
  · rw [if_neg hname]
    refine .ok (List.dropWhile_suffix _) fun hne => ?_
    have hall : ∀ c ∈ s.takeWhile isNameChar, isNameChar c = true := fun _ hc =>
      List.mem_takeWhile_imp hc
    have hstop : Text.StopsAt isNameChar (s.dropWhile isNameChar ++ t) :=
      forall_head?_append (Text.stopsAt_dropWhile isNameChar s) hne t
    have hs : s ++ t = s.takeWhile isNameChar ++ (s.dropWhile isNameChar ++ t) := by
      rw [← List.append_assoc, List.takeWhile_append_dropWhile]
    rw [hs, Text.takeWhile_append_of_stopsAt hall hstop, if_neg hname,
      Text.dropWhile_append_of_stopsAt hall hstop]

theorem persists_readEnd : Persists readEnd := by
  intro s t
  cases s with
  | nil => exact .ok (List.suffix_refl []) fun hr => absurd rfl hr
  | cons c s => exact .error (List.suffix_refl _) fun _ => rfl

/-! ### Filters -/

theorem persists_readItem : Persists readItem := by
  rw [readItem_eq_andThen]
  exact persists_readName.andThen fun _ => persists_readBlanks.andThen fun _ =>
    persists_readOperator.andThen fun _ => persists_readValue.andThen fun _ => persists_give _

section Filters
variable {n : Nat} {read : FilterReader}

theorem length_rest_lt (hread : Reads n read) {f : Filter} {r : Text} (h : read s = .ok (f, r)) :
    r.length < s.length := by
  obtain ⟨u, hu, -, rfl⟩ := (hread _ _ _).mp h
  obtain ⟨v, rfl⟩ := hu.exists_cons
  rw [List.length_append, List.length_cons]
  omega

/-- Budgets that are long enough make no difference to lists. -/
theorem outlasts_readMany (hread : Reads n read) (hpersists : Persists read) {budget budget' : Text}
    (hb : s.length ≤ budget.length) (hb' : (s ++ t).length ≤ budget'.length) :
    Outlasts s t (readMany read budget s) (readMany read budget' (s ++ t)) := by
  induction budget generalizing s budget' with
  | nil =>
      rw [List.eq_nil_of_length_eq_zero (Nat.le_zero.mp hb)]
      exact .ok (List.suffix_refl []) fun hr => absurd rfl hr
  | cons b budget ih =>
      by_cases hs : s.StopsAt (· == '(')
      · rw [readMany_of_stopsAt _ hs]
        refine .ok (List.suffix_refl s) fun hne => readMany_of_stopsAt budget' ?_
        exact forall_head?_append hs hne t
      · obtain ⟨s, rfl⟩ := Text.exists_eq_cons_of_not_stopsAt hs
        cases budget' with
        | nil => simp at hb'
        | cons b' budget' =>
            rw [List.cons_append, readMany_cons_eq_andThen, readMany_cons_eq_andThen]
            refine (hpersists ('(' :: s) t).bind fun f r hf => ?_
            refine (persists_readBlanks r t).bind fun _ r' hr' => ?_
            cases hr'
            have hshort : (Text.trimStart r).length < ('(' :: s).length :=
              Nat.lt_of_le_of_lt (List.dropWhile_suffix _).length_le (length_rest_lt hread hf)
            refine (ih ?_ ?_).bind fun fs r'' _ => persists_give (f :: fs) r'' t
            · exact Nat.le_of_lt_succ (Nat.lt_of_lt_of_le hshort hb)
            · simp only [List.length_append, List.length_cons] at hb' hshort ⊢
              omega

theorem persists_readGroup (hread : Reads n read) (hpersists : Persists read) (kind : Connective) :
    Persists (readGroup read kind) := by
  intro s t
  rw [readGroup_eq_andThen, readGroup_eq_andThen]
  refine (persists_readBlanks s t).bind fun _ r hr => ?_
  cases hr
  have hshort : (Text.trimStart s).length ≤ s.length := (List.dropWhile_suffix _).length_le
  refine (outlasts_readMany hread hpersists hshort ?_).bind fun fs r' _ => ?_
  · simpa using hshort
  · dsimp only
    split
    · exact .error (List.suffix_refl r') fun _ => rfl
    · exact persists_give (Filter.group kind fs) r' t

theorem persists_readBody (hread : Reads n read) (hpersists : Persists read) :
    Persists (readBody read) := by
  intro s t
  cases s with
  | nil => exact outlasts_ended .unexpectedEnd
  | cons c s =>
      have hsuffix : s <:+ c :: s := List.suffix_cons c s
      by_cases hand : c = '&'
      · subst hand
        exact (persists_readGroup hread hpersists .and s t).of_suffix hsuffix
      by_cases hor : c = '|'
      · subst hor
        exact (persists_readGroup hread hpersists .or s t).of_suffix hsuffix
      by_cases hnot : c = '!'
      · subst hnot
        have hneg := (persists_readBlanks.andThen fun _ => hpersists.andThen fun f =>
          persists_give f.negate) s t
        exact hneg.of_suffix hsuffix
      · rw [List.cons_append, readBody_of_ne hand hor hnot, readBody_of_ne hand hor hnot]
        exact persists_readItem (c :: s) t

theorem persists_readFilter (n : Nat) : Persists (readFilter n) := by
  induction n with
  | zero => exact fun s _ => .error (List.suffix_refl s) fun _ => rfl
  | succ n ih =>
      rw [readFilter_succ_eq_andThen]
      have hbody := persists_readBody reads_readFilter ih
      exact (persists_readChar _ _).andThen fun _ => persists_readBlanks.andThen fun _ =>
        hbody.andThen fun f => persists_readBlanks.andThen fun _ =>
          (persists_readChar _ _).andThen fun _ => persists_give f

end Filters

/-! ### Whole inputs -/

theorem persists_readOuter : Persists readOuter := by
  intro s t
  cases s with
  | nil => exact outlasts_ended .unexpectedEnd
  | cons c s =>
      by_cases hc : c = '('
      · subst hc
        exact persists_readFilter maxDepth ('(' :: s) t
      · rw [List.cons_append, readOuter_of_ne hc, readOuter_of_ne hc]
        exact persists_readItem (c :: s) t

/-- **Faults are final**: a settled fault is found in every text that goes on, at the same place. -/
theorem readAll_append_of_settled {x : Fault} (h : readAll s = .error x) (hx : x.Settled)
    (t : Text) : readAll (s ++ t) = .error (x.append t) := by
  have hpersists := (persists_readBlanks.andThen fun _ => persists_readOuter.andThen fun f =>
    persists_readBlanks.andThen fun _ => persists_readEnd.andThen fun _ => persists_give f) s t
  rw [← readAll_eq_andThen, ← readAll_eq_andThen, h] at hpersists
  generalize hlonger : (readAll (s ++ t)).map (fun f => (f, ([] : Text))) = longer at hpersists
  cases hpersists with
  | error _ hpersists =>
      rw [hpersists hx] at hlonger
      cases hread : readAll (s ++ t) with
      | ok f =>
          rw [hread] at hlonger
          cases hlonger
      | error y =>
          rw [hread] at hlonger
          rw [Except.error.inj hlonger]

end SearchFilter.Filter
