import Mathlib.Data.List.DropRight
import SearchFilter.Text.Basic

/-! # Runs of blanks

The two trims take away a run of blanks (`AllBlank`) and all of it.  A text is cut where a property
of its characters ends: if every character of `w` has it and `s` does not go on with one that has it
(`StopsAt`), then `w ++ s` is cut between the two (`takeWhile_append_of_stopsAt`,
`dropWhile_append_of_stopsAt`).  Leading blanks, names and values are all read this way. -/

namespace SearchFilter.Text

/-- A run of blanks, possibly empty. -/
def AllBlank (w : Text) : Prop := ∀ c ∈ w, isBlank c = true

instance (w : Text) : Decidable (AllBlank w) :=
  decidable_of_iff (w.all isBlank = true) List.all_eq_true

/-- The text is empty, or its first character fails `p`. -/
def StopsAt (p : Char → Bool) (s : Text) : Prop := ∀ c ∈ s.head?, p c = false

/-! ### Cuts -/

@[simp] theorem stopsAt_nil (p : Char → Bool) : StopsAt p [] := by simp [StopsAt]

@[simp] theorem stopsAt_cons {p : Char → Bool} {c : Char} {s : Text} :
    StopsAt p (c :: s) ↔ p c = false := by simp [StopsAt]

theorem exists_eq_cons_of_not_stopsAt {a : Char} {s : Text} (h : ¬ s.StopsAt (· == a)) :
    ∃ t, s = a :: t := by
  cases s with
  | nil => exact absurd (stopsAt_nil _) h
  | cons c s => exact ⟨s, by simpa using h⟩

theorem stopsAt_dropWhile (p : Char → Bool) (s : Text) : StopsAt p (s.dropWhile p) := by
  intro c hc
  have h := List.head?_dropWhile_not p s
  rw [Option.mem_def.mp hc] at h
  simpa using h

theorem dropWhile_of_stopsAt {p : Char → Bool} {s : Text} (h : StopsAt p s) :
    s.dropWhile p = s := by
  cases s with
  | nil => rfl
  | cons c s => exact List.dropWhile_cons_of_neg (by simpa using h)

theorem takeWhile_of_stopsAt {p : Char → Bool} {s : Text} (h : StopsAt p s) :
    s.takeWhile p = [] := by
  cases s with
  | nil => rfl
  | cons c s => exact List.takeWhile_cons_of_neg (by simpa using h)

theorem takeWhile_append_of_stopsAt {p : Char → Bool} {w s : Text} (hw : ∀ c ∈ w, p c = true)
    (hs : StopsAt p s) : (w ++ s).takeWhile p = w := by
  rw [List.takeWhile_append_of_pos hw, takeWhile_of_stopsAt hs, List.append_nil]

theorem dropWhile_append_of_stopsAt {p : Char → Bool} {w s : Text} (hw : ∀ c ∈ w, p c = true)
    (hs : StopsAt p s) : (w ++ s).dropWhile p = s := by
  rw [List.dropWhile_append_of_pos hw, dropWhile_of_stopsAt hs]

/-! ### Runs -/

@[simp] theorem allBlank_nil : AllBlank [] := by simp [AllBlank]

@[simp] theorem allBlank_append {v w : Text} : AllBlank (v ++ w) ↔ AllBlank v ∧ AllBlank w :=
  List.forall_mem_append

theorem AllBlank.not_mem {c : Char} {w : Text} (hw : AllBlank w) (hc : isBlank c = false) :
    c ∉ w := by
  intro hmem
  rw [hw c hmem] at hc
  cases hc

theorem allBlank_trailingBlanks (s : Text) : AllBlank (trailingBlanks s) := by
  intro c hc
  rw [trailingBlanks, List.mem_reverse] at hc
  exact List.mem_takeWhile_imp hc

/-! ### The beginning of a text -/

theorem trimStart_of_stopsAt {s : Text} (h : StopsAt isBlank s) : trimStart s = s :=
  dropWhile_of_stopsAt h

theorem trimStart_append {w : Text} (hw : AllBlank w) (s : Text) :
    trimStart (w ++ s) = trimStart s := List.dropWhile_append_of_pos hw

theorem exists_append_trimStart (s : Text) : ∃ w, AllBlank w ∧ s = w ++ trimStart s :=
  ⟨s.takeWhile isBlank, fun _ hc => List.mem_takeWhile_imp hc,
    List.takeWhile_append_dropWhile.symm⟩

theorem trimStart_eq_nil_iff {s : Text} : trimStart s = [] ↔ AllBlank s :=
  List.dropWhile_eq_nil_iff

/-- What follows a text that is not blank does not matter to its leading blanks. -/
theorem trimStart_append_of_ne_nil {s : Text} (h : trimStart s ≠ []) (t : Text) :
    trimStart (s ++ t) = trimStart s ++ t := by
  have hne : (s.dropWhile isBlank).isEmpty = false := List.isEmpty_eq_false_iff.mpr h
  rw [trimStart, List.dropWhile_append, hne, if_neg Bool.false_ne_true, trimStart]

/-! ### The end of a text -/

theorem trimEnd_trimEnd (s : Text) : trimEnd (trimEnd s) = trimEnd s :=
  List.rdropWhile_idempotent isBlank s

theorem trimEnd_append {w : Text} (s : Text) (hw : AllBlank w) : trimEnd (s ++ w) = trimEnd s := by
  have h : ∀ c ∈ w.reverse, isBlank c = true := fun c hc => hw c (List.mem_reverse.mp hc)
  rw [trimEnd, List.reverse_append, List.dropWhile_append_of_pos h, trimEnd]

theorem trimEnd_append_cons {c : Char} (hc : isBlank c = false) (s t : Text) :
    trimEnd (s ++ c :: t) = s ++ c :: trimEnd t := by
  have hs : (c :: s.reverse).dropWhile isBlank = c :: s.reverse :=
    List.dropWhile_cons_of_neg (by simp [hc])
  have key : (t.reverse ++ c :: s.reverse).dropWhile isBlank =
      t.reverse.dropWhile isBlank ++ c :: s.reverse := by
    rw [List.dropWhile_append, hs]
    split
    · rename_i h
      rw [List.isEmpty_iff.mp h, List.nil_append]
    · rfl
  rw [trimEnd, List.reverse_append, List.reverse_cons, List.append_assoc, List.singleton_append,
    key, trimEnd]
  simp

/-- What stands before a text that is not blank does not matter to its trailing blanks. -/
theorem trimEnd_append_of_not_allBlank (t : Text) {s : Text} (h : ¬ s.AllBlank) :
    trimEnd (t ++ s) = t ++ trimEnd s := by
  obtain ⟨c, hmem, hc⟩ : ∃ c ∈ s, isBlank c = false := by simpa [AllBlank] using h
  obtain ⟨u, v, rfl⟩ := List.append_of_mem hmem
  rw [← List.append_assoc, trimEnd_append_cons hc, trimEnd_append_cons hc, List.append_assoc]

/-- Nothing that follows takes away more than the trailing blanks. -/
theorem trimEnd_prefix_trimEnd_append (s t : Text) : trimEnd s <+: trimEnd (s ++ t) := by
  by_cases ht : t.AllBlank
  · exact ⟨[], by rw [List.append_nil, trimEnd_append s ht]⟩
  · rw [trimEnd_append_of_not_allBlank s ht]
    have hs : trimEnd s <+: s := ⟨trailingBlanks s, trimEnd_append_trailingBlanks s⟩
    exact hs.trans (List.prefix_append s (trimEnd t))

theorem trailingBlanks_append {w : Text} (s : Text) (hw : AllBlank w) :
    trailingBlanks (s ++ w) = trailingBlanks s ++ w := by
  have h : trimEnd (s ++ w) ++ trailingBlanks (s ++ w) =
      trimEnd (s ++ w) ++ (trailingBlanks s ++ w) := by
    rw [trimEnd_append_trailingBlanks, trimEnd_append s hw, ← List.append_assoc,
      trimEnd_append_trailingBlanks]
  exact List.append_cancel_left h

theorem trailingBlanks_append_of_not_allBlank (t : Text) {s : Text} (h : ¬ s.AllBlank) :
    trailingBlanks (t ++ s) = trailingBlanks s := by
  have hall : trimEnd (t ++ s) ++ trailingBlanks (t ++ s) =
      trimEnd (t ++ s) ++ trailingBlanks s := by
    rw [trimEnd_append_trailingBlanks, trimEnd_append_of_not_allBlank t h, List.append_assoc,
      trimEnd_append_trailingBlanks]
  exact List.append_cancel_left hall

/-! ### Both sides -/

theorem trim_append_append {before s after : Text} (hbefore : AllBlank before)
    (hs : ∀ c ∈ s, isBlank c = false) (hafter : AllBlank after) :
    trim (before ++ s ++ after) = s := by
  have hreverse : StopsAt isBlank s.reverse := fun c hc =>
    hs c (List.mem_reverse.mp (List.mem_of_head? hc))
  have hend : trimEnd s = s := by
    rw [trimEnd, dropWhile_of_stopsAt hreverse, List.reverse_reverse]
  rw [trim, List.append_assoc, trimStart_append hbefore]
  cases s with
  | nil =>
      rw [List.nil_append, trimStart_eq_nil_iff.mpr hafter]
      rfl
  | cons c s =>
      have hstart : StopsAt isBlank (c :: s ++ after) := by simpa using hs c List.mem_cons_self
      rw [trimStart_of_stopsAt hstart, trimEnd_append _ hafter, hend]

theorem trim_blank_append {w : Text} (hw : AllBlank w) (s : Text) : trim (w ++ s) = trim s := by
  rw [trim, trimStart_append hw, trim]

theorem trim_append_blank (s : Text) {w : Text} (hw : AllBlank w) : trim (s ++ w) = trim s := by
  by_cases hs : trimStart s = []
  · have hall : AllBlank (s ++ w) := allBlank_append.mpr ⟨trimStart_eq_nil_iff.mp hs, hw⟩
    rw [trim, trim, hs, trimStart_eq_nil_iff.mpr hall]
  · rw [trim, trim, trimStart_append_of_ne_nil hs, trimEnd_append _ hw]

theorem mem_trim {c : Char} {s : Text} (h : c ∈ s) (hc : isBlank c = false) : c ∈ trim s := by
  obtain ⟨w, hw, hs⟩ := exists_append_trimStart s
  have hnot : ∀ v : Text, AllBlank v → c ∉ v := by
    intro v hv hmem
    rw [hv c hmem] at hc
    cases hc
  rw [hs, ← trimEnd_append_trailingBlanks (trimStart s), List.mem_append, List.mem_append] at h
  rcases h with h | h | h
  · exact absurd h (hnot w hw)
  · exact h
  · exact absurd h (hnot _ (allBlank_trailingBlanks _))

end SearchFilter.Text
