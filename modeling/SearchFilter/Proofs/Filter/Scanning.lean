import SearchFilter.Filter.Scan
import SearchFilter.Proofs.Filter.Completion
import SearchFilter.Proofs.Filter.Sequencing

/-! # Positions and what is left

Where the position of a cursor is the length of what stands before it (`Cursor.behind`), there are
the slices that a reader asks for, and each step leaves the cursor behind more of the text: behind
one character, behind a run of them, or behind an operator.  So a scan does by positions what a
reader does with what is left (`Tracks`), and that goes for sequences of them (`Tracks.bind`).  From
there every scan is matched with the reader that does the same, up to whole inputs
(`scan_eq_mapError_parse`). -/

namespace SearchFilter.Filter

/-- A cursor behind what has been read, before what is left and the blanks at the end. -/
def Cursor.behind (t s w : Text) : Cursor :=
  ⟨t ++ s, t ++ s ++ w, t.utf8Length⟩

theorem Cursor.advance_behind (t u s w : Text) :
    { behind t (u ++ s) w with position := t.utf8Length + u.utf8Length } = behind (t ++ u) s w := by
  simp [behind, Text.utf8Length_append]

namespace Scan

variable {α β : Type} {t s w : Text}

/-! ### Steps behind what has been read -/

theorem run_bind_ok {m : Scan α} {c c' : Cursor} {a : α} (h : m.run c = .ok (a, c'))
    (next : α → Scan β) : (m >>= next).run c = (next a).run c' := by
  rw [StateT.run_bind, h]
  rfl

theorem run_get_bind (next : Cursor → Scan β) (c : Cursor) :
    ((get : Scan Cursor) >>= next).run c = (next c).run c := rfl

theorem run_slice {start stop : Nat} {text u : Text} (h : text.slice? start stop = some u)
    (c : Cursor) : (slice start stop text).run c = .ok (u, c) := by
  rw [slice, h]
  rfl

theorem run_rest : rest.run (.behind t s w) = .ok (s, .behind t s w) := by
  have hslice : (t ++ s).slice? t.utf8Length (t ++ s).utf8Length = some s :=
    Text.slice?_eq_some_iff.mpr ⟨t, [], by simp, rfl, rfl⟩
  exact run_slice hslice _

theorem run_peek : peek.run (.behind t s w) = .ok (s.head?, .behind t s w) := by
  rw [peek, run_bind_ok run_rest]
  rfl

theorem run_bump (c : Char) :
    bump.run (.behind t (c :: s) w) = .ok ((), .behind (t ++ [c]) s w) := by
  rw [bump, run_bind_ok run_peek, ← Cursor.advance_behind]
  rfl

theorem run_fail (reason : ParseReason) : (fail reason : Scan α).run (.behind t s w) =
    .error (.failed ⟨reason, t.utf8Length, (s ++ w).take fragmentLength⟩) := by
  have hslice : (t ++ s ++ w).slice? t.utf8Length (t ++ s ++ w).utf8Length = some (s ++ w) :=
    Text.slice?_eq_some_iff.mpr ⟨t, [], by simp, rfl, by simp⟩
  rw [fail, run_get_bind]
  exact run_bind_ok (run_slice hslice _) _

theorem run_skipWhile (test : Char → Bool) {budget : Text} (h : s.length ≤ budget.length) :
    (skipWhile test budget).run (.behind t s w) =
      .ok ((), .behind (t ++ s.takeWhile test) (s.dropWhile test) w) := by
  induction budget generalizing t s with
  | nil =>
      rw [List.eq_nil_of_length_eq_zero (Nat.le_zero.mp h), List.takeWhile_nil, List.append_nil]
      rfl
  | cons _ budget ih =>
      rw [skipWhile, run_bind_ok run_peek]
      cases s with
      | nil =>
          rw [List.takeWhile_nil, List.append_nil]
          rfl
      | cons c s =>
          rw [List.head?_cons, Option.any_some]
          by_cases hc : test c = true
          · have hs : s.length ≤ budget.length := Nat.le_of_succ_le_succ h
            rw [if_pos hc, run_bind_ok (run_bump c), ih hs, List.takeWhile_cons_of_pos hc,
              List.dropWhile_cons_of_pos hc, List.append_assoc, List.singleton_append]
          · rw [if_neg hc, List.takeWhile_cons_of_neg hc, List.dropWhile_cons_of_neg hc,
              List.append_nil]
            rfl

theorem run_skipBlanks : skipBlanks.run (.behind t s w) =
    .ok ((), .behind (t ++ s.takeWhile Text.isBlank) (Text.trimStart s) w) := by
  rw [skipBlanks, run_get_bind]
  exact run_skipWhile Text.isBlank (by simp [Cursor.behind])

/-! ### Scans and readers -/

/-- A scan behind `t` ends as the reading of `s` does, with `w` behind it. -/
inductive Ends (t s w : Text) : Except Stop (α × Cursor) → Except Fault (α × Text) → Prop
  | ok {u r : Text} {a : α} : s = u ++ r → Ends t s w (.ok (a, .behind (t ++ u) r w)) (.ok (a, r))
  | failed {u : Text} {x : Fault} : s = u ++ x.rest →
      Ends t s w
        (.error (.failed ⟨x.reason, (t ++ u).utf8Length, (x.rest ++ w).take fragmentLength⟩))
        (.error x)

/-- A scan does by positions what a reader does with what is left. -/
def Tracks (m : Scan α) (read : Reader α) : Prop :=
  ∀ t s w, Ends t s w (m.run (.behind t s w)) (read s)

theorem Ends.of_append {u r : Text} {scanned : Except Stop (α × Cursor)}
    {result : Except Fault (α × Text)} (hs : s = u ++ r) (h : Ends (t ++ u) r w scanned result) :
    Ends t s w scanned result := by
  cases h with
  | ok hr =>
      rw [List.append_assoc]
      exact .ok (by rw [hs, hr, List.append_assoc])
  | failed hr =>
      rw [List.append_assoc]
      exact .failed (by rw [hs, hr, List.append_assoc])

theorem ends_pure (a : α) : Ends t s w ((pure a : Scan α).run (.behind t s w)) (.ok (a, s)) := by
  have h : Ends t s w (.ok (a, .behind (t ++ []) s w)) (.ok (a, s)) := .ok rfl
  rwa [List.append_nil] at h

theorem ends_fail (reason : ParseReason) :
    Ends t s w ((fail reason : Scan α).run (.behind t s w)) (.error ⟨reason, s⟩) := by
  have h : Ends (α := α) t s w _ (.error ⟨reason, s⟩) := .failed (u := []) rfl
  rwa [List.append_nil, ← run_fail reason] at h

theorem ends_bump {c : Char} {next : Scan α} {result : Except Fault (α × Text)}
    (h : Ends (t ++ [c]) s w (next.run (.behind (t ++ [c]) s w)) result) :
    Ends t (c :: s) w ((do bump; next).run (.behind t (c :: s) w)) result := by
  rw [run_bind_ok (run_bump c)]
  exact .of_append (u := [c]) rfl h

theorem tracks_pure (a : α) : Tracks (pure a) (give a) := fun _ _ _ => ends_pure a

theorem tracks_fail (reason : ParseReason) :
    Tracks (fail reason : Scan α) fun s => .error ⟨reason, s⟩ :=
  fun _ _ _ => ends_fail reason

theorem Tracks.bind {m : Scan α} {read : Reader α} {next : α → Scan β}
    {readNext : α → Reader β} (hm : Tracks m read) (hnext : ∀ a, Tracks (next a) (readNext a)) :
    Tracks (m >>= next) (andThen read readNext) := by
  intro t s w
  have h := hm t s w
  rw [StateT.run_bind, andThen]
  generalize m.run (.behind t s w) = scanned at h ⊢
  generalize read s = result at h ⊢
  cases h with
  | ok hs => exact .of_append hs (hnext _ _ _ _)
  | failed hs => exact .failed hs

theorem tracks_skipBlanks : Tracks skipBlanks readBlanks := by
  intro t s w
  rw [run_skipBlanks]
  exact .ok (List.takeWhile_append_dropWhile).symm

theorem tracks_expect (c : Char) (reason : ParseReason) :
    Tracks (expect c reason) (readChar c reason) := by
  intro t s w
  rw [expect, run_bind_ok run_peek]
  cases s with
  | nil => exact ends_fail .unexpectedEnd
  | cons d s =>
      rw [List.head?_cons]
      dsimp only
      rw [readChar, Filter.expect]
      by_cases hd : d = c
      · rw [if_pos hd, if_pos hd, run_bump]
        exact .ok rfl
      · rw [if_neg hd, if_neg hd]
        exact ends_fail reason

theorem ends_advance {n : Nat} {u r : Text} (hn : n = u.utf8Length) (a : α) :
    Ends t (u ++ r) w ((do advance n; return a : Scan α).run (.behind t (u ++ r) w))
      (.ok (a, r)) := by
  have hrun : (do advance n; return a : Scan α).run (.behind t (u ++ r) w) =
      .ok (a, .behind (t ++ u) r w) := by
    rw [hn, ← Cursor.advance_behind]
    rfl
  rw [hrun]
  exact .ok rfl

theorem tracks_operator : Tracks operator readOperator := by
  intro t s w
  rw [operator, run_bind_ok run_rest]
  split
  · exact ends_advance (u := ['=']) rfl Operator.equality
  · exact ends_advance (u := ['<', '=']) rfl Operator.lessOrEqual
  · exact ends_advance (u := ['>', '=']) rfl Operator.greaterOrEqual
  · exact ends_advance (u := ['~', '=']) rfl Operator.approximate
  · rename_i hequality hless hgreater happroximate
    have hnone : ∀ (o : Operator) r, s ≠ o.symbol ++ r := fun o r => by
      cases o with
      | equality => exact hequality r
      | lessOrEqual => exact hless r
      | greaterOrEqual => exact hgreater r
      | approximate => exact happroximate r
    rw [readOperator_of_forall hnone]
    exact ends_fail .missingOperator

theorem readValue_cons {c : Char} (hc : endsValue c = false) (s : Text) :
    readValue (c :: s) = (readValue s).map fun p => (c :: p.1, p.2) := by
  have hdrop : (c :: s).dropWhile (!endsValue ·) = s.dropWhile (!endsValue ·) :=
    List.dropWhile_cons_of_pos (by simp [hc])
  have htake : (c :: s).takeWhile (!endsValue ·) = c :: s.takeWhile (!endsValue ·) :=
    List.takeWhile_cons_of_pos (by simp [hc])
  rw [readValue, readValue, hdrop, htake]
  split
  · rfl
  · rfl

theorem ends_skipValue {budget : Text} (h : s.length ≤ budget.length) :
    Ends t s w ((skipValue budget).run (.behind t s w))
      ((readValue s).map fun p => ((), p.2)) := by
  induction budget generalizing t s with
  | nil =>
      rw [List.eq_nil_of_length_eq_zero (Nat.le_zero.mp h)]
      exact ends_pure ()
  | cons _ budget ih =>
      rw [skipValue, run_bind_ok run_peek]
      cases s with
      | nil => exact ends_pure ()
      | cons c s =>
          dsimp only [List.head?_cons]
          split
          · rename_i hc
            rcases hc with rfl | rfl
            · exact ends_pure ()
            · exact ends_pure ()
          · rename_i hparen
            split
            · rename_i hc
              subst hc
              exact ends_fail .unescapedNul
            · rename_i hnul
              have hc : endsValue c = false := by
                simpa [endsValue, hnul] using hparen
              have hs : s.length ≤ budget.length := Nat.le_of_succ_le_succ h
              -- the value is not returned here, only what is left behind it
              have hvalue : ((readValue s).map fun p => (c :: p.1, p.2)).map (fun p => ((), p.2)) =
                  (readValue s).map fun p => ((), p.2) := by
                cases readValue s with
                | error x => rfl
                | ok p => rfl
              rw [readValue_cons hc, hvalue]
              exact ends_bump (ih hs)

/-- What has been gone past is a slice. -/
theorem ends_slice {u r : Text} (hs : s = u ++ r) :
    Ends t s w ((slice t.utf8Length (t ++ u).utf8Length (t ++ u ++ r)).run (.behind (t ++ u) r w))
      (.ok (u, r)) := by
  rw [run_slice (Text.slice?_eq_some_iff.mpr ⟨t, r, rfl, rfl, rfl⟩)]
  exact .ok hs

theorem tracks_value : Tracks value readValue := by
  intro t s w
  have h : Ends t s w ((skipValue (t ++ s)).run (.behind t s w)) _ := ends_skipValue (by simp)
  rw [value, run_get_bind]
  dsimp only
  rw [run_get_bind, StateT.run_bind]
  change Ends t s w ((skipValue (t ++ s)).run (.behind t s w) >>= _) _
  generalize (skipValue (t ++ s)).run (.behind t s w) = scanned at h ⊢
  cases hread : readValue s with
  | error x =>
      rw [hread] at h
      cases h with
      | failed hs => exact .failed hs
  | ok p =>
      obtain ⟨v, r⟩ := p
      rw [hread] at h
      cases h with
      | ok hs =>
          have hv : s = v ++ r := (readValue_eq_ok_iff.mp hread).1
          rw [hv, List.append_left_inj] at hs
          subst hs
          exact ends_slice hv

theorem tracks_name : Tracks name readName := by
  intro t s w
  rw [readName]
  have hskip : (skipWhile isNameChar (t ++ s)).run (.behind t s w) = _ :=
    run_skipWhile isNameChar (by simp)
  rw [name, run_get_bind]
  dsimp only
  rw [run_get_bind]
  change Ends t s w ((skipWhile isNameChar (t ++ s) >>= _).run (.behind t s w)) _
  rw [run_bind_ok hskip, run_get_bind]
  -- the position has not moved exactly if there is no name
  have hposition :
      (Cursor.behind (t ++ s.takeWhile isNameChar) (s.dropWhile isNameChar) w).position =
      (Cursor.behind t s w).position ↔ s.takeWhile isNameChar = [] := by
    simp [Cursor.behind, Text.utf8Length_append, Text.utf8Length_eq_zero]
  simp only [hposition, List.isEmpty_iff]
  split
  · rename_i hname
    have hdrop : s.dropWhile isNameChar = s := by
      have hs := List.takeWhile_append_dropWhile (p := isNameChar) (l := s)
      rwa [hname, List.nil_append] at hs
    rw [hname, hdrop, List.append_nil, run_bind_ok run_peek]
    cases s with
    | nil => exact ends_fail .unexpectedEnd
    | cons c s => exact ends_fail .invalidAttribute
  · exact ends_slice List.takeWhile_append_dropWhile.symm

theorem tracks_item : Tracks item readItem := by
  rw [readItem_eq_andThen]
  exact tracks_name.bind fun _ => tracks_skipBlanks.bind fun _ => tracks_operator.bind fun _ =>
    tracks_value.bind fun _ => tracks_pure _

/-! ### Lists and filters -/

section Filters
variable {scan : Scan Filter} {read : FilterReader}

theorem tracks_many (hscan : Tracks scan read) (budget : Text) :
    Tracks (many scan budget) (readMany read budget) := by
  induction budget with
  | nil => exact tracks_pure []
  | cons b budget ih =>
      intro t s w
      rw [many, run_bind_ok run_peek]
      by_cases hs : s.head? = some '('
      · obtain ⟨s, rfl⟩ := List.head?_eq_some_iff.mp hs
        rw [if_pos hs, readMany_cons_eq_andThen]
        exact (hscan.bind fun f => tracks_skipBlanks.bind fun _ => ih.bind fun fs =>
          tracks_pure (f :: fs)) t ('(' :: s) w
      · have hstop : s.StopsAt (· == '(') := by
          intro c hc
          exact beq_false_of_ne fun heq => hs (heq ▸ hc)
        rw [if_neg hs, readMany_of_stopsAt _ hstop]
        exact ends_pure []

theorem tracks_group (hscan : Tracks scan read) (kind : Connective) :
    Tracks (group scan kind) (readGroup read kind) := by
  intro t s w
  rw [group, run_bind_ok run_rest, readGroup_eq_andThen]
  refine (tracks_skipBlanks.bind fun _ => (tracks_many hscan s).bind fun fs => ?_) t s w
  cases fs with
  | nil => exact (tracks_fail .emptyGroup).bind fun _ => tracks_pure _
  | cons f fs => exact tracks_pure _

theorem tracks_body (hscan : Tracks scan read) : Tracks (body scan) (readBody read) := by
  intro t s w
  rw [body, run_bind_ok run_peek]
  cases s with
  | nil => exact ends_fail .unexpectedEnd
  | cons c s =>
      rw [List.head?_cons]
      split
      · rename_i hc
        cases hc
        exact ends_bump (tracks_group hscan .and _ s w)
      · rename_i hc
        cases hc
        exact ends_bump (tracks_group hscan .or _ s w)
      · rename_i hc
        cases hc
        have h := tracks_skipBlanks.bind fun _ => hscan.bind fun f => tracks_pure f.negate
        exact ends_bump (h _ s w)
      · rename_i hand hor hnot hc
        cases hc
        rw [readBody_of_ne hand hor hnot]
        exact tracks_item t (c :: s) w
      · rename_i hc
        cases hc

theorem tracks_filter (room : Nat) : Tracks (filter room) (readFilter room) := by
  induction room with
  | zero => exact tracks_fail .nestingTooDeep
  | succ room ih =>
      rw [readFilter_succ_eq_andThen]
      exact (tracks_expect '(' .expectedOpenParen).bind fun _ => tracks_skipBlanks.bind fun _ =>
        (tracks_body ih).bind fun f => tracks_skipBlanks.bind fun _ =>
          (tracks_expect ')' .expectedCloseParen).bind fun _ => tracks_pure f

end Filters

/-! ### Whole inputs -/

theorem tracks_outer : Tracks outer readOuter := by
  intro t s w
  rw [outer, run_bind_ok run_peek]
  cases s with
  | nil => exact ends_fail .unexpectedEnd
  | cons c s =>
      rw [List.head?_cons]
      by_cases hc : c = '('
      · subst hc
        exact tracks_filter maxDepth t ('(' :: s) w
      · rw [readOuter_of_ne hc]
        split
        · rename_i heq
          cases heq
        · rename_i heq
          exact (hc (Option.some.inj heq)).elim
        · exact tracks_item t (c :: s) w

theorem tracks_finish (f : Filter) : Tracks (finish f) (andThen readEnd fun _ => give f) := by
  intro t s w
  have hend : (Cursor.behind t s w).position < (Cursor.behind t s w).text.utf8Length ↔ s ≠ [] := by
    rw [Cursor.behind, Text.utf8Length_append, Nat.lt_add_right_iff_pos, Nat.pos_iff_ne_zero,
      ne_eq, Text.utf8Length_eq_zero]
  rw [finish, run_get_bind]
  cases s with
  | nil =>
      rw [if_neg (fun h => hend.mp h rfl)]
      exact ends_pure f
  | cons c s =>
      rw [if_pos (hend.mpr (List.cons_ne_nil c s))]
      exact (tracks_fail .trailingInput).bind (fun _ => tracks_pure f) t (c :: s) w

theorem tracks_input : Tracks input fun s => (readAll s).map fun f => (f, []) := by
  rw [funext readAll_eq_andThen]
  exact tracks_skipBlanks.bind fun _ => tracks_outer.bind fun f =>
    tracks_skipBlanks.bind fun _ => tracks_finish f

end Scan

/-- **Slices never break**: reading by positions is reading what is left. -/
theorem scan_eq_mapError_parse (s : Text) : scan s = (parse s).mapError .failed := by
  have hs : s.trimEnd ++ s.trailingBlanks = s := s.trimEnd_append_trailingBlanks
  have hslice : s.slice? 0 s.trimEnd.utf8Length = some s.trimEnd :=
    Text.slice?_eq_some_iff.mpr ⟨[], s.trailingBlanks, hs.symm, rfl, rfl⟩
  have hstart : (⟨s.trimEnd, s, 0⟩ : Cursor) = .behind [] s.trimEnd s.trailingBlanks := by
    simp [Cursor.behind, hs]
  have h : Scan.Ends [] s.trimEnd s.trailingBlanks _ ((readAll s.trimEnd).map fun f => (f, [])) :=
    Scan.tracks_input [] s.trimEnd s.trailingBlanks
  rw [scan, hslice, parse]
  dsimp only
  rw [hstart]
  generalize Scan.input.run (.behind [] s.trimEnd s.trailingBlanks) = scanned at h ⊢
  cases hread : readAll s.trimEnd with
  | ok f =>
      rw [hread] at h
      cases h with
      | ok => rfl
  | error x =>
      rw [hread] at h
      cases h with
      | failed hx =>
          rename_i u
          have hposition : s.trimEnd.utf8Length - x.rest.utf8Length = u.utf8Length := by
            rw [hx, Text.utf8Length_append, Nat.add_sub_cancel]
          dsimp only [Except.map, Except.mapError, Fault.toError]
          rw [hposition, List.nil_append]

end SearchFilter.Filter
