import SearchFilter.Proofs.Diff.Lines

/-! # Differences that show a change

A script changes the items that it deletes or inserts (`Script.changed`).  It changes nothing only
between equal lists (`before_eq_after_of_changed_eq_nil`), and the script of a list with itself keeps
all of it (`changed_between_self`).  A text is put together from its lines, so the difference of two
texts has a line with a minus or plus sign in front exactly if the texts differ
(`exists_marked_iff`). -/

namespace SearchFilter.Diff

/-! ### What a script changes -/

section Scripts
variable {α : Type}

/-- The items that a stretch deletes or inserts. -/
def Edit.changed : Edit α → List α
  | keep _ => []
  | delete xs => xs
  | insert xs => xs

def Script.changed (script : Script α) : List α :=
  script.flatMap Edit.changed

theorem before_eq_after_of_changed_eq_nil {script : Script α} (h : script.changed = []) :
    script.before = script.after := by
  have hstretch : ∀ e ∈ script, e.before = e.after := by
    intro e he
    have hnil : e.changed = [] := List.flatMap_eq_nil_iff.mp h e he
    cases e with
    | keep xs => rfl
    | delete xs => exact hnil
    | insert xs => exact hnil.symm
  rw [Script.before, Script.after, List.flatMap_congr hstretch]

variable [DecidableEq α]

theorem sharedStart_self (xs : List α) : sharedStart xs xs = xs := by
  induction xs with
  | nil => rfl
  | cons x xs ih => rw [sharedStart, if_pos rfl, ih]

theorem divide_self (rounds : Nat) (xs : List α) : divide rounds xs xs = keeping xs := by
  unfold divide
  extract_lets start left finish rest inner
  have hstart : start = xs := sharedStart_self xs
  have hleft : left = [] := by simp [left, hstart]
  have hfinish : finish = [] := by
    unfold finish
    rw [hleft]
    rfl
  have hrest : rest = [] := by simp [rest, hleft]
  have hinner : inner = [] := if_pos (by rw [hrest]; rfl)
  rw [hstart, hinner, hfinish]
  simp [keeping]

theorem changed_between_self (xs : List α) : (Script.between xs xs).changed = [] := by
  unfold Script.between
  rw [divide_self]
  cases xs with
  | nil => rfl
  | cons x xs => rfl

/-- The script of two lists changes nothing exactly if they are the same. -/
theorem changed_between_eq_nil_iff (xs ys : List α) :
    (Script.between xs ys).changed = [] ↔ xs = ys := by
  constructor
  · intro h
    obtain ⟨hbefore, hafter⟩ := between_ends xs ys
    rw [← hbefore, before_eq_after_of_changed_eq_nil h, hafter]
  · rintro rfl
    exact changed_between_self xs

end Scripts

/-! ### Marked lines -/

/-- The line has a minus or a plus sign in front. -/
def Marked (line : Text) : Prop :=
  ∃ mark ∈ ['-', '+'], ∃ rest, line = mark :: rest

theorem exists_marked_map_iff {mark : Char} (hmark : mark ∈ ['-', '+']) (xs : List Text) :
    (∃ line ∈ xs.map fun item => mark :: chomp item, Marked line) ↔ xs ≠ [] := by
  constructor
  · rintro ⟨line, hline, -⟩ rfl
    exact List.not_mem_nil hline
  · intro hne
    obtain ⟨item, items, rfl⟩ := List.exists_cons_of_ne_nil hne
    exact ⟨mark :: chomp item, List.mem_cons_self, mark, hmark, chomp item, rfl⟩

theorem Edit.exists_marked_iff (e : Edit Text) :
    (∃ line ∈ e.shown, Marked line) ↔ e.changed ≠ [] := by
  cases e with
  | keep xs => simp [shown, changed, Marked]
  | delete xs => exact exists_marked_map_iff (by decide) xs
  | insert xs => exact exists_marked_map_iff (by decide) xs

theorem Script.exists_marked_iff (script : Script Text) :
    (∃ line ∈ script.shown, Marked line) ↔ script.changed ≠ [] := by
  have hstretch : (∃ line ∈ script.shown, Marked line) ↔
      ∃ e ∈ script, ∃ line ∈ e.shown, Marked line := by
    simp only [Script.shown, List.mem_flatMap]
    tauto
  rw [hstretch, Script.changed, ne_eq, List.flatMap_eq_nil_iff]
  simp only [Edit.exists_marked_iff, not_forall, exists_prop, ne_eq]

/-! ### The difference of two texts -/

/-- Without colors, the difference is cut at its line feeds into the shown lines. -/
theorem splitOn_ofTexts_false (before after : Text) :
    Text.splitOn '\n' (ofTexts false before after) =
      (Script.between (lines before) (lines after)).shown ++ [[]] := by
  have hends := between_ends (lines before) (lines after)
  rw [ofTexts_false]
  refine splitOn_flatMap_newline fun line hline => ?_
  obtain ⟨mark, hmark, item, hitem, rfl⟩ := Script.exists_of_mem_shown hline
  rw [hends.1, hends.2, List.mem_append] at hitem
  have hitem : '\n' ∉ chomp item :=
    hitem.elim (newline_not_mem_chomp ·) (newline_not_mem_chomp ·)
  have hmark : '\n' ≠ mark := by rintro rfl; simp at hmark
  exact List.not_mem_cons_of_ne_of_not_mem hmark hitem

theorem flatten_lines (s : Text) : (lines s).flatten = s := by
  have h := isCut_lines s
  generalize lines s = ls at h
  induction h with
  | nil => rfl
  | last => simp
  | cons _ _ _ _ ih => rw [List.flatten_cons, ih]

theorem exists_marked_ofTexts_iff (before after : Text) :
    (∃ line ∈ Text.splitOn '\n' (ofTexts false before after), Marked line) ↔ before ≠ after := by
  have hlast : ¬ Marked [] := by
    rintro ⟨mark, -, rest, h⟩
    cases h
  have hlines : lines before = lines after ↔ before = after := by
    constructor
    · intro h
      rw [← flatten_lines before, h, flatten_lines]
    · exact congrArg lines
  simp only [splitOn_ofTexts_false, List.mem_append, List.mem_singleton, or_and_right, exists_or,
    exists_eq_left, or_iff_left hlast, Script.exists_marked_iff, ne_eq, changed_between_eq_nil_iff,
    hlines]

end SearchFilter.Diff
