import Mathlib.Data.List.DropRight
import SearchFilter.Diff.Text
import SearchFilter.Proofs.Diff.Ends

/-! # What a difference shows

A text is cut into its lines behind its line breaks, and in one way only (`isCut_iff`).  A line has
its line break at its end, so what the difference shows of it is one line again, with a mark in
front.  The text of the difference is therefore cut at its line feeds into the lines that the
stretches of the script show.  Behind the marks of kept and deleted lines stands the list that the
script begins from, behind those of kept and inserted lines the one that it leads to
(`behind_shown`); and these are the lines of the two texts (`between_ends`). -/

namespace SearchFilter.Diff

/-! ### Lines -/

def Unbroken (s : Text) : Prop := '\n' ∉ s ∧ '\r' ∉ s

/-- The lines are the pieces that a text is cut into behind its line breaks: a line feed, a carriage
return with a line feed behind it, and a carriage return without one. -/
inductive IsCut : Text → List Text → Prop
  | nil : IsCut [] []
  | last {text : Text} : text ≠ [] → Unbroken text → IsCut text [text]
  | cons {text ending rest : Text} {ls : List Text} : Unbroken text →
      ending ∈ [['\n'], ['\r'], ['\r', '\n']] → (ending = ['\r'] → rest.head? ≠ some '\n') →
        IsCut rest ls → IsCut (text ++ ending ++ rest) ((text ++ ending) :: ls)

theorem unbroken_nil : Unbroken [] := ⟨List.not_mem_nil, List.not_mem_nil⟩

theorem unbroken_cons {c : Char} {s : Text} :
    Unbroken (c :: s) ↔ ¬ (c = '\n' ∨ c = '\r') ∧ Unbroken s := by
  simp only [Unbroken, List.mem_cons, not_or, eq_comm]
  tauto

theorem IsCut.cons_char {c : Char} {s line : Text} {ls : List Text} (hc : ¬ (c = '\n' ∨ c = '\r'))
    (h : IsCut s (line :: ls)) : IsCut (c :: s) ((c :: line) :: ls) := by
  cases h with
  | last hne htext => exact .last (List.cons_ne_nil c _) (unbroken_cons.mpr ⟨hc, htext⟩)
  | cons htext hending hnext hrest =>
      exact .cons (unbroken_cons.mpr ⟨hc, htext⟩) hending hnext hrest

theorem IsCut.cons_break {ending rest : Text} {ls : List Text}
    (hending : ending ∈ [['\n'], ['\r'], ['\r', '\n']])
    (hnext : ending = ['\r'] → rest.head? ≠ some '\n') (h : IsCut rest ls) :
    IsCut (ending ++ rest) (ending :: ls) :=
  .cons unbroken_nil hending hnext h

theorem isCut_lines (s : Text) : IsCut s (lines s) := by
  fun_induction lines s with
  | case1 => exact .nil
  | case2 s ih => exact ih.cons_break (.tail _ (.tail _ (.head _))) (by simp)
  | case3 c s hpair hbreak ih =>
      have hending : [c] ∈ [['\n'], ['\r'], ['\r', '\n']] := by
        rcases hbreak with rfl | rfl <;> simp
      refine ih.cons_break hending fun hreturn hnext => ?_
      obtain ⟨t, ht⟩ := List.head?_eq_some_iff.mp hnext
      exact hpair t (List.cons.inj hreturn).1 ht
  | case4 c s _ hbreak hrest ih =>
      rw [hrest] at ih
      cases ih
      exact .last (List.cons_ne_nil c _) (unbroken_cons.mpr ⟨hbreak, unbroken_nil⟩)
  | case5 c s _ hbreak line rest hrest ih =>
      rw [hrest] at ih
      exact ih.cons_char hbreak

theorem lines_cons_of_not_break {c : Char} (hc : ¬ (c = '\n' ∨ c = '\r')) (s : Text) :
    lines (c :: s) = match lines s with
      | [] => [[c]]
      | line :: ls => (c :: line) :: ls := by
  have hpair : ∀ t, c = '\r' → s = '\n' :: t → False := fun _ hreturn _ => hc (.inr hreturn)
  exact (lines.eq_3 c s hpair).trans (if_neg hc)

theorem lines_append_of_unbroken {text s line : Text} {ls : List Text} (htext : Unbroken text)
    (hs : lines s = line :: ls) : lines (text ++ s) = (text ++ line) :: ls := by
  induction text with
  | nil => exact hs
  | cons c text ih =>
      obtain ⟨hc, htext⟩ := unbroken_cons.mp htext
      rw [List.cons_append, lines_cons_of_not_break hc, ih htext]
      rfl

theorem lines_of_unbroken {text : Text} (hne : text ≠ []) (htext : Unbroken text) :
    lines text = [text] := by
  induction text with
  | nil => exact absurd rfl hne
  | cons c text ih =>
      obtain ⟨hc, htext⟩ := unbroken_cons.mp htext
      rw [lines_cons_of_not_break hc]
      cases text with
      | nil => rfl
      | cons d text => rw [ih (List.cons_ne_nil d text) htext]

theorem lines_ending_append {ending rest : Text}
    (hending : ending ∈ [['\n'], ['\r'], ['\r', '\n']])
    (hnext : ending = ['\r'] → rest.head? ≠ some '\n') :
    lines (ending ++ rest) = ending :: lines rest := by
  simp only [List.mem_cons, List.not_mem_nil, or_false] at hending
  rcases hending with rfl | rfl | rfl
  · rfl
  · have hpair : ∀ t, '\r' = '\r' → rest = '\n' :: t → False := fun t _ ht =>
      hnext rfl (congrArg List.head? ht)
    exact lines.eq_3 '\r' rest hpair
  · rfl

/-- A text can be cut in one way only. -/
theorem isCut_iff {s : Text} {ls : List Text} : IsCut s ls ↔ ls = lines s := by
  constructor
  · intro h
    induction h with
    | nil => rfl
    | last hne htext => exact (lines_of_unbroken hne htext).symm
    | cons htext hending hnext _ ih =>
        rw [ih, List.append_assoc]
        exact (lines_append_of_unbroken htext (lines_ending_append hending hnext)).symm
  · rintro rfl
    exact isCut_lines s

/-- A line is a text without line breaks, and a line break or nothing. -/
theorem IsCut.exists_of_mem {s line : Text} {ls : List Text} (h : IsCut s ls) (hline : line ∈ ls) :
    ∃ text ending, line = text ++ ending ∧ Unbroken text ∧
      ending ∈ [[], ['\n'], ['\r'], ['\r', '\n']] := by
  induction h with
  | nil => cases hline
  | @last text _ htext =>
      exact ⟨text, [], by simpa using hline, htext, List.mem_cons_self⟩
  | @cons text ending _ _ htext hending _ _ ih =>
      rcases List.mem_cons.mp hline with rfl | hline
      · exact ⟨text, ending, rfl, htext, List.mem_cons_of_mem _ hending⟩
      · exact ih hline

/-- A line without the line feed at its end, if there is one. -/
def body (line : Text) : Text :=
  if line.getLast? = some '\n' then line.dropLast else line

/-- A line holds no line feed but the one at its end. -/
theorem eq_body_or_eq_body_append {s line : Text} (h : line ∈ lines s) :
    '\n' ∉ body line ∧ (line = body line ∨ line = body line ++ ['\n']) := by
  obtain ⟨text, ending, rfl, ⟨hn, -⟩, hending⟩ := (isCut_lines s).exists_of_mem h
  have hlast : text.getLast? ≠ some '\n' := fun h => hn (List.mem_of_getLast? h)
  simp only [List.mem_cons, List.not_mem_nil, or_false] at hending
  rcases hending with rfl | rfl | rfl | rfl
  · simp [body, hlast, hn]
  · simp [body, hn]
  · simp [body, hn]
  · simp [body, hn, List.dropLast_append_of_ne_nil]

theorem chomp_eq_body {s line : Text} (h : line ∈ lines s) : chomp line = body line := by
  obtain ⟨hbody, hline⟩ := eq_body_or_eq_body_append h
  have hchomp : chomp (body line) = body line :=
    List.rdropWhile_eq_self_iff.mpr fun hne hlast =>
      hbody (beq_iff_eq.mp hlast ▸ List.getLast_mem hne)
  rcases hline with hline | hline
  · exact (congrArg chomp hline).trans hchomp
  · calc chomp line
      _ = chomp (body line ++ ['\n']) := by rw [← hline]
      _ = chomp (body line) := List.rdropWhile_concat_pos _ _ _ rfl
      _ = body line := hchomp

theorem newline_not_mem_chomp {s line : Text} (h : line ∈ lines s) : '\n' ∉ chomp line :=
  chomp_eq_body h ▸ (eq_body_or_eq_body_append h).1

/-! ### Shown lines -/

/-- The lines of the difference that a stretch of the script gives. -/
def Edit.shown : Edit Text → List Text
  | keep lines => lines.map fun line => ' ' :: chomp line
  | delete lines => lines.map fun line => '-' :: chomp line
  | insert lines => lines.map fun line => '+' :: chomp line

def Script.shown (script : Script Text) : List Text :=
  script.flatMap Edit.shown

theorem Edit.text_false (e : Edit Text) : e.text false = e.shown.flatMap (· ++ ['\n']) := by
  cases e <;> simp [text, shown, Color.paint, List.flatMap_map]

theorem ofTexts_false (before after : Text) :
    ofTexts false before after =
      (Script.between (lines before) (lines after)).shown.flatMap (· ++ ['\n']) := by
  rw [ofTexts, Script.shown, List.flatMap_assoc, funext Edit.text_false]

/-- Lines that are ended by a line feed each are the pieces between these, before an empty one. -/
theorem splitOn_flatMap_newline {shown : List Text} (h : ∀ line ∈ shown, '\n' ∉ line) :
    Text.splitOn '\n' (shown.flatMap (· ++ ['\n'])) = shown ++ [[]] := by
  induction shown with
  | nil => rfl
  | cons line shown ih =>
      have hline := Text.splitOn_of_not_mem (h line List.mem_cons_self)
      have hshown := ih fun line hmem => h line (List.mem_cons_of_mem _ hmem)
      rw [List.flatMap_cons, List.append_assoc, List.singleton_append, Text.splitOn_append_cons,
        hline, hshown]
      rfl

/-- A shown line is a line of one of the two lists behind a mark. -/
theorem Script.exists_of_mem_shown {script : Script Text} {line : Text}
    (h : line ∈ script.shown) : ∃ mark ∈ [' ', '-', '+'],
      ∃ item ∈ script.before ++ script.after, line = mark :: chomp item := by
  obtain ⟨e, he, hline⟩ := List.mem_flatMap.mp h
  have hends : ∀ item ∈ e.before ++ e.after, item ∈ script.before ++ script.after := by
    intro item hitem
    rcases List.mem_append.mp hitem with hitem | hitem
    · exact List.mem_append_left _ (List.mem_flatMap.mpr ⟨e, he, hitem⟩)
    · exact List.mem_append_right _ (List.mem_flatMap.mpr ⟨e, he, hitem⟩)
  cases e with
  | keep xs =>
      obtain ⟨item, hitem, rfl⟩ := List.mem_map.mp hline
      exact ⟨' ', by simp, item, hends item (by simp [hitem]), rfl⟩
  | delete xs =>
      obtain ⟨item, hitem, rfl⟩ := List.mem_map.mp hline
      exact ⟨'-', by simp, item, hends item (by simp [hitem]), rfl⟩
  | insert xs =>
      obtain ⟨item, hitem, rfl⟩ := List.mem_map.mp hline
      exact ⟨'+', by simp, item, hends item (by simp [hitem]), rfl⟩

/-! ### What stands behind the marks -/

/-- The lines that begin with one of the marks, without it. -/
def behind (marks : List Char) (shown : List Text) : List Text :=
  (shown.filter fun line => line.head?.any (marks.contains ·)).map List.tail

theorem behind_append (marks : List Char) (shown shown' : List Text) :
    behind marks (shown ++ shown') = behind marks shown ++ behind marks shown' := by
  simp [behind]

theorem behind_map_cons (marks : List Char) (mark : Char) (xs : List Text) :
    behind marks (xs.map fun line => mark :: chomp line) =
      if mark ∈ marks then xs.map chomp else [] := by
  split <;> simp_all [behind, List.filter_map, Function.comp_def]

/-- Kept and deleted lines are what the script begins from, kept and inserted ones what it leads
to. -/
theorem behind_shown (script : Script Text) :
    behind [' ', '-'] script.shown = script.before.map chomp ∧
      behind [' ', '+'] script.shown = script.after.map chomp := by
  induction script with
  | nil => exact ⟨rfl, rfl⟩
  | cons e script ih =>
      have hshown : Script.shown (e :: script) = e.shown ++ Script.shown script := rfl
      rw [hshown, behind_append, behind_append, ih.1, ih.2]
      cases e <;> simp [Edit.shown, behind_map_cons]

/-! ### The difference of two texts -/

/-- **A difference loses nothing.**  It consists of lines that each have one of three marks in
front.  Those marked with a space or a minus sign are the lines that the first text is cut into, in
their order, those marked with a space or a plus sign the lines of the second. -/
theorem exists_splitOn_ofTexts (before after : Text) :
    IsCut before (lines before) ∧ IsCut after (lines after) ∧
    ∃ shown, Text.splitOn '\n' (ofTexts false before after) = shown ++ [[]] ∧
      (∀ line ∈ shown, ∃ mark ∈ [' ', '-', '+'], ∃ rest, line = mark :: rest) ∧
      behind [' ', '-'] shown = (lines before).map body ∧
      behind [' ', '+'] shown = (lines after).map body := by
  have hends := between_ends (lines before) (lines after)
  have hshown := behind_shown (Script.between (lines before) (lines after))
  set script := Script.between (lines before) (lines after)
  refine ⟨isCut_lines before, isCut_lines after, script.shown, ?_, ?_, ?_, ?_⟩
  · rw [ofTexts_false]
    refine splitOn_flatMap_newline fun line hline => ?_
    obtain ⟨mark, hmark, item, hitem, rfl⟩ := Script.exists_of_mem_shown hline
    rw [hends.1, hends.2, List.mem_append] at hitem
    have hitem : '\n' ∉ chomp item :=
      hitem.elim (newline_not_mem_chomp ·) (newline_not_mem_chomp ·)
    have hmark : '\n' ≠ mark := by rintro rfl; simp at hmark
    exact List.not_mem_cons_of_ne_of_not_mem hmark hitem
  · intro line hline
    obtain ⟨mark, hmark, item, hitem, rfl⟩ := Script.exists_of_mem_shown hline
    exact ⟨mark, hmark, chomp item, rfl⟩
  · rw [hshown.1, hends.1]
    exact List.map_congr_left fun line hline => chomp_eq_body hline
  · rw [hshown.2, hends.2]
    exact List.map_congr_left fun line hline => chomp_eq_body hline

end SearchFilter.Diff
