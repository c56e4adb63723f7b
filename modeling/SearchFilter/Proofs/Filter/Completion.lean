import SearchFilter.Proofs.Filter.Faults
import SearchFilter.Proofs.Filter.RoundTrip

/-! # Completing a text up to its fault

What a reader has read up to a fault is the beginning of something that can be read: there is a text
that completes it.  A form leaves no parenthesis open (`FilterForm.openAfter_eq`), so the parentheses
that are open at a fault are those of the filters around it, and while there are fewer than
`maxDepth` of them the completion does not nest too deep (`FilterFault.exists_append`).  So the
position of an error lies no further than the first character that is wrong
(`exists_parse_of_parse_eq_error`). -/

namespace SearchFilter

/-! ### Texts up to a position -/

/-- The characters of the first `n` bytes of a text. -/
def Text.takeUtf8 : Nat → Text → Text
  | _, [] => []
  | n, c :: s => if c.utf8Size ≤ n then c :: Text.takeUtf8 (n - c.utf8Size) s else []

theorem Text.takeUtf8_append (s t : Text) : Text.takeUtf8 s.utf8Length (s ++ t) = s := by
  induction s with
  | nil =>
      cases t with
      | nil => rfl
      | cons c t =>
          have hc : ¬ c.utf8Size ≤ 0 := Nat.not_le.mpr c.utf8Size_pos
          rw [List.nil_append, Text.takeUtf8, Text.utf8Length_nil, if_neg hc]
  | cons c s ih =>
      have hc : c.utf8Size ≤ Text.utf8Length (c :: s) := Nat.le_add_right _ _
      rw [List.cons_append, Text.takeUtf8, if_pos hc, Text.utf8Length_cons, Nat.add_sub_cancel_left,
        ih]

namespace Filter

/-! ### Open parentheses -/

/-- How many parentheses are open after a text where `k` are open before it. -/
def openAfter (k : Nat) (s : Text) : Nat :=
  s.foldl (fun k c => if c = '(' then k + 1 else if c = ')' then k - 1 else k) k

/-- How many parentheses a text opens and does not close. -/
def unclosed (s : Text) : Nat := openAfter 0 s

@[simp] theorem openAfter_nil (k : Nat) : openAfter k [] = k := rfl

@[simp] theorem openAfter_open (k : Nat) (s : Text) :
    openAfter k ('(' :: s) = openAfter (k + 1) s := rfl

@[simp] theorem openAfter_close (k : Nat) (s : Text) :
    openAfter k (')' :: s) = openAfter (k - 1) s := rfl

@[simp] theorem openAfter_append (k : Nat) (s t : Text) :
    openAfter k (s ++ t) = openAfter (openAfter k s) t := List.foldl_append

theorem openAfter_cons_of_ne {c : Char} (hopen : c ≠ '(') (hclose : c ≠ ')') (k : Nat) (s : Text) :
    openAfter k (c :: s) = openAfter k s := by
  rw [openAfter, List.foldl_cons, if_neg hopen, if_neg hclose, openAfter]

theorem openAfter_of_not_mem {s : Text} (hopen : '(' ∉ s) (hclose : ')' ∉ s) (k : Nat) :
    openAfter k s = k := by
  induction s with
  | nil => rfl
  | cons c s ih =>
      obtain ⟨hc, hs⟩ := List.ne_and_not_mem_of_not_mem_cons hopen
      obtain ⟨hc', hs'⟩ := List.ne_and_not_mem_of_not_mem_cons hclose
      rw [openAfter_cons_of_ne hc.symm hc'.symm, ih hs hs']

theorem openAfter_of_isValue {s : Text} (h : IsValue s) (k : Nat) : openAfter k s = k :=
  openAfter_of_not_mem h.1 h.2.1 k

theorem openAfter_of_allBlank {w : Text} (h : w.AllBlank) (k : Nat) : openAfter k w = k :=
  openAfter_of_isValue (isValue_of_allBlank h) k

theorem openAfter_of_isName {s : Text} (h : IsName s) (k : Nat) : openAfter k s = k :=
  openAfter_of_not_mem (h.not_mem (by decide)) (h.not_mem (by decide)) k

@[simp] theorem openAfter_operator (k : Nat) (o : Operator) : openAfter k o.symbol = k := by
  cases o <;> rfl

@[simp] theorem openAfter_connective (k : Nat) (kind : Connective) (s : Text) :
    openAfter k (kind.symbol :: s) = openAfter k s := by
  cases kind <;> rfl

theorem ItemForm.openAfter_eq {s : Text} {c : Comparison} (h : ItemForm s c) (k : Nat) :
    openAfter k s = k := by
  obtain ⟨hc, hw⟩ := h
  simp [openAfter_of_isName hc.name, openAfter_of_allBlank hw, openAfter_of_isValue hc.value]

mutual

/-- A form closes the parentheses that it opens, and no others. -/
theorem FilterForm.openAfter_eq {s : Text} {f : Filter} (k : Nat) :
    FilterForm s f → openAfter k s = k
  | .parens hw hs hw' => by
      simp [openAfter_of_allBlank hw, openAfter_of_allBlank hw', hs.openAfter_eq]

theorem BodyForm.openAfter_eq {s : Text} {f : Filter} (k : Nat) : BodyForm s f → openAfter k s = k
  | .list _ hs => by rw [openAfter_connective, hs.openAfter_eq]
  | .neg hw hs => by
      rw [List.cons_append, openAfter_cons_of_ne (by decide) (by decide), openAfter_append,
        openAfter_of_allBlank hw, hs.openAfter_eq]
  | .item hs => hs.openAfter_eq k

theorem ListForm.openAfter_eq {s : Text} {fs : List Filter} (k : Nat) :
    ListForm s fs → openAfter k s = k
  | .one hw hs hw' => by
      simp [openAfter_of_allBlank hw, openAfter_of_allBlank hw', hs.openAfter_eq]
  | .cons hw hs ht => by simp [openAfter_of_allBlank hw, hs.openAfter_eq, ht.openAfter_eq]

end

theorem ListStart.openAfter_eq {n : Nat} {s : Text} {fs : List Filter} (h : ListStart n s fs)
    (k : Nat) : openAfter k s = k := by
  cases h with
  | blank hw => exact openAfter_of_allBlank hw k
  | list hs _ => exact hs.openAfter_eq k

/-! ### Completions -/

/-- Behind a name and blanks, an operator is all that an item needs. -/
theorem itemForm_of_isName {name w : Text} (hname : IsName name) (hw : w.AllBlank) :
    ItemForm (name ++ w ++ ['=']) ⟨name, .equality, []⟩ := by
  have hread : Comparison.Readable ⟨name, .equality, []⟩ := ⟨hname, by simp [IsValue]⟩
  simpa [Operator.symbol] using ItemForm.mk hread hw

/-- What has been read of an item is completed to an item. -/
theorem ItemFault.exists_append {s : Text} {x : Fault} (h : ItemFault s x) :
    ∃ t c, ItemForm (s ++ t) c := by
  have hleast := itemForm_of_isName (isAttributeName_iff.mp (rfl : isAttributeName ['a'] = true))
    Text.allBlank_nil
  cases h with
  | ended => exact ⟨_, _, hleast⟩
  | name _ => exact ⟨_, _, hleast⟩
  | operator hname hw _ => exact ⟨_, _, itemForm_of_isName hname hw⟩
  | value ht => exact ⟨[], _, by rwa [List.append_nil]⟩

theorem exists_filterForm (n : Nat) : ∃ t f, FilterForm t f ∧ f.levels ≤ n + 1 := by
  obtain ⟨t, c, ht⟩ := ItemFault.ended.exists_append
  exact ⟨_, _, (BodyForm.item ht).parens, Nat.le_add_left 1 n⟩

theorem ListForm.concat {s t : Text} {f : Filter} {fs : List Filter} (h : ListForm s fs)
    (ht : FilterForm t f) : ListForm (s ++ t) (fs ++ [f]) := by
  induction fs generalizing s with
  | nil => exact absurd rfl h.ne_nil
  | cons g fs ih =>
      cases h with
      | @one w u w' _ hw hs hw' =>
          have hlast : ListForm (w' ++ t) [f] := by simpa using ListForm.one hw' ht Text.allBlank_nil
          simpa using ListForm.cons hw hs hlast
      | cons hw hs hu => simpa using ListForm.cons hw hs (ih hu)

theorem ListStart.concat {n : Nat} {s t : Text} {f : Filter} {fs : List Filter}
    (h : ListStart n s fs) (ht : FilterForm t f) (hn : f.levels ≤ n) :
    ∃ gs, ListForm (s ++ t) gs ∧ levelsAll gs ≤ n := by
  cases h with
  | blank hw =>
      exact ⟨[f], by simpa using ListForm.one hw ht Text.allBlank_nil, by simpa [levelsAll] using hn⟩
  | list hs hfs =>
      refine ⟨fs ++ [f], hs.concat ht, levelsAll_le_iff.mpr ?_⟩
      rw [List.forall_mem_append, List.forall_mem_singleton]
      exact ⟨levelsAll_le_iff.mp hfs, hn⟩

mutual

/-- What has been read of a filter that may nest at most `n` deep is completed to such a filter, if
it leaves fewer than `n` parentheses open. -/
theorem FilterFault.exists_append {n k : Nat} {s : Text} {x : Fault} :
    FilterFault n s x → openAfter k s < k + n → ∃ t f, FilterForm (s ++ t) f ∧ f.levels ≤ n
  | .deep, hk => absurd hk (Nat.lt_irrefl k)
  | .opening _, _ => exists_filterForm _
  | .body hw hs, hk => by
      rw [List.cons_append, openAfter_open, openAfter_append, openAfter_of_allBlank hw] at hk
      -- The parenthesis is open in the body, where filters may nest one level less.
      obtain ⟨t, f, ht, hn⟩ := hs.exists_append (k := k + 1) (by omega)
      refine ⟨t ++ [')'], f.extend [], ?_, by rwa [levels_extend]⟩
      simpa using FilterForm.parens hw ht Text.allBlank_nil
  | .closing hv hs hn hw _, _ => ⟨[')'], _, .parens hv hs hw, by rwa [levels_extend]⟩

theorem BodyFault.exists_append {n k : Nat} {s : Text} {x : Fault} :
    BodyFault n s x → openAfter k s < k + n → ∃ t f, BodyForm (s ++ t) f ∧ f.levels ≤ n + 1
  | .list hkind hs, hk => by
      rw [openAfter_connective] at hk
      obtain ⟨t, fs, ht, hn⟩ := hs.exists_append hk
      exact ⟨t, _, .list hkind ht, Nat.succ_le_succ hn⟩
  | .neg hw hs, hk => by
      rw [List.cons_append, openAfter_cons_of_ne (by decide) (by decide), openAfter_append,
        openAfter_of_allBlank hw] at hk
      obtain ⟨t, f, ht, hn⟩ := hs.exists_append hk
      refine ⟨t, .group .not [f], ?_, by simpa [levels, levelsAll] using hn⟩
      simpa using BodyForm.neg hw ht
  | .item hs, _ => by
      obtain ⟨t, c, ht⟩ := hs.exists_append
      exact ⟨t, _, .item ht, Nat.le_add_left 1 n⟩

theorem ListFault.exists_append {n k : Nat} {s : Text} {x : Fault} :
    ListFault n s x → openAfter k s < k + n → ∃ t fs, ListForm (s ++ t) fs ∧ levelsAll fs ≤ n
  | .empty hw _ _, hk => by
      rw [openAfter_of_allBlank hw] at hk
      obtain ⟨m, rfl⟩ : ∃ m, n = m + 1 := Nat.exists_eq_add_one.mpr (by omega)
      obtain ⟨t, f, ht, hn⟩ := exists_filterForm m
      obtain ⟨fs, hfs, hn'⟩ := (ListStart.blank hw).concat ht hn
      exact ⟨t, fs, hfs, hn'⟩
  | .member ht hs, hk => by
      rw [openAfter_append, ht.openAfter_eq] at hk
      obtain ⟨u, f, hu, hn⟩ := hs.exists_append hk
      obtain ⟨gs, hgs, hn'⟩ := ht.concat hu hn
      exact ⟨u, gs, by rwa [List.append_assoc], hn'⟩

end

/-- What has been read of an input is completed to an input, if it leaves fewer than `maxDepth`
parentheses open. -/
theorem InputFault.exists_append {s : Text} {x : Fault} (h : InputFault s x)
    (hs : unclosed s < maxDepth) : ∃ t f, InputForm (s ++ t) f ∧ f.levels ≤ maxDepth := by
  cases h with
  | @filter w s _ hw hfault =>
      rw [unclosed, openAfter_append, openAfter_of_allBlank hw] at hs
      obtain ⟨t, f, ht, hn⟩ := hfault.exists_append (by rwa [Nat.zero_add])
      exact ⟨t, f, by simpa using InputForm.filter hw ht Text.allBlank_nil, hn⟩
  | @item w s _ hw hfault =>
      obtain ⟨t, c, ht⟩ := hfault.exists_append
      refine ⟨t, .comparison c.trim, ?_, by simp [levels, maxDepth]⟩
      simpa using InputForm.item hw ht Text.allBlank_nil
  | trailing hform hn _ => exact ⟨[], _, by rwa [List.append_nil], hn⟩

/-- **Errors point no further than the first fault**: the position of an error is the length of a
part of the text, and this part can be completed to a text that is parsed, if it leaves fewer than
`maxDepth` parentheses open. -/
theorem exists_parse_of_parse_eq_error {s : Text} {e : ParseError} (h : parse s = .error e) :
    (s.takeUtf8 e.position).utf8Length = e.position ∧
      (unclosed (s.takeUtf8 e.position) < maxDepth →
        ∃ t f, parse (s.takeUtf8 e.position ++ t) = .ok f) := by
  obtain ⟨u, x, hs, hfault, -, hposition⟩ := parse_eq_error h
  have hu : s.takeUtf8 e.position = u := by
    rw [← s.trimEnd_append_trailingBlanks, hs, hposition, List.append_assoc, Text.takeUtf8_append]
  rw [hu]
  refine ⟨hposition.symm, fun hopen => ?_⟩
  obtain ⟨t, f, hform, hn⟩ := hfault.exists_append hopen
  exact ⟨t, f, parse_of_inputForm hform hn⟩

/-- The operator is missing where two parentheses are open, behind a character of two bytes. -/
theorem exists_parse_of_missing_operator :
    let s : Text := ['(', '|', '(', 'o', '=', 'é', ')', '(', 'c', 'n', ' ', 'x']
    let e : ParseError := ⟨.missingOperator, 12, ['x']⟩
    parse s = .error e ∧ unclosed (s.takeUtf8 e.position) = 2 ∧
      ∃ t f, parse (s.takeUtf8 e.position ++ t) = .ok f := by
  intro s e
  have herror : parse s = .error e := by rfl
  have hopen : unclosed (s.takeUtf8 e.position) = 2 := by rfl
  exact ⟨herror, hopen, (exists_parse_of_parse_eq_error herror).2 (by rw [hopen]; decide)⟩

end Filter
end SearchFilter
