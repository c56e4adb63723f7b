import SearchFilter.Proofs.Text.Case
import SearchFilter.Value.Equality

/-! # Wildcards

A pattern admits the texts that are made of forms of its pieces, in order, with any texts between
them (`Spells`).  The matcher looks for each piece where it first occurs; this finds a way to cut
the text if there is one, because the first occurrence leaves at least what any later one leaves
(`dropThrough?_append`), and what is left over in front of the next piece belongs to the wildcard
(`matchesRest_iff`).  Folding all characters first is the same as comparing letters (`spells_map`),
so a pattern that is small enough admits exactly the texts that its decoded pieces spell up to case
(`matchesPattern_iff`). -/

namespace SearchFilter
namespace Pattern

/-! ### What pieces spell -/

/-- A text is spelled by pieces: it is made of a form of each piece, in order, with any texts
between them. -/
inductive Spells (same : Text → Text → Prop) : List Text → Text → Prop
  | last {piece form : Text} : same form piece → Spells same [piece] form
  | cons {piece form rest : Text} {pieces : List Text} (gap : Text) :
      same form piece → Spells same pieces rest →
        Spells same (piece :: pieces) (form ++ (gap ++ rest))

variable {same : Text → Text → Prop}

@[simp] theorem spells_singleton {piece s : Text} : Spells same [piece] s ↔ same s piece := by
  constructor
  · intro h
    cases h with
    | last h => exact h
    | cons gap _ h => cases h
  · exact .last

theorem spells_cons_cons {piece next s : Text} {pieces : List Text} :
    Spells same (piece :: next :: pieces) s ↔ ∃ form gap rest, s = form ++ (gap ++ rest) ∧
      same form piece ∧ Spells same (next :: pieces) rest := by
  constructor
  · intro h
    cases h with
    | cons gap hform hrest => exact ⟨_, gap, _, rfl, hform, hrest⟩
  · rintro ⟨form, gap, rest, rfl, hform, hrest⟩
    exact .cons gap hform hrest

theorem Spells.forall_of_nil {pieces : List Text} (h : Spells same pieces []) :
    ∀ piece ∈ pieces, same [] piece := by
  generalize hs : ([] : Text) = s at h
  induction h with
  | last hform =>
      subst hs
      simpa using hform
  | cons gap hform _ ih =>
      simp only [List.nil_eq, List.append_eq_nil_iff] at hs
      obtain ⟨rfl, rfl, rfl⟩ := hs
      exact List.forall_mem_cons.mpr ⟨hform, ih rfl⟩

theorem spells_map (f : Char → Char) {pieces : List Text} {s : Text} :
    Spells Eq (pieces.map (List.map f)) (s.map f) ↔
      Spells (fun form piece => form.map f = piece.map f) pieces s := by
  induction pieces generalizing s with
  | nil =>
      constructor
      · intro h
        cases h
      · intro h
        cases h
  | cons piece pieces ih =>
      cases pieces with
      | nil => simp
      | cons next pieces =>
          rw [List.map_cons, List.map_cons, spells_cons_cons, spells_cons_cons]
          constructor
          · rintro ⟨_, _, _, hs, hform, hrest⟩
            obtain ⟨form, tail, rfl, rfl, htail⟩ := List.map_eq_append_iff.mp hs
            obtain ⟨gap, rest, rfl, -, rfl⟩ := List.map_eq_append_iff.mp htail
            exact ⟨form, gap, rest, rfl, hform, ih.mp hrest⟩
          · rintro ⟨form, gap, rest, rfl, hform, hrest⟩
            refine ⟨form.map f, gap.map f, rest.map f, ?_, hform, ih.mpr hrest⟩
            rw [List.map_append, List.map_append]

/-! ### Searching from the left -/

theorem eq_append_of_dropThrough? {piece s rest : Text} (h : dropThrough? piece s = some rest) :
    ∃ before, s = before ++ (piece ++ rest) := by
  induction s with
  | nil =>
      rw [dropThrough?] at h
      split at h
      · rename_i hpiece
        cases h
        exact ⟨[], by simpa using hpiece⟩
      · cases h
  | cons c s ih =>
      rw [dropThrough?] at h
      split at h
      · rename_i r hprefix
        cases h
        exact ⟨[], by rw [Text.dropPrefix?_eq_some_iff.mp hprefix, List.nil_append]⟩
      · obtain ⟨before, rfl⟩ := ih h
        exact ⟨c :: before, rfl⟩

/-- The first occurrence of a piece leaves at least what any other occurrence leaves. -/
theorem dropThrough?_append (before piece rest : Text) :
    ∃ skipped, dropThrough? piece (before ++ (piece ++ rest)) = some (skipped ++ rest) := by
  induction before with
  | nil =>
      cases h : piece ++ rest with
      | nil =>
          obtain ⟨rfl, rfl⟩ := List.append_eq_nil_iff.mp h
          exact ⟨[], rfl⟩
      | cons c s =>
          have hprefix := Text.dropPrefix?_eq_some_iff.mpr h.symm
          exact ⟨[], by rw [List.nil_append, dropThrough?, hprefix, List.nil_append]⟩
  | cons c before ih =>
      rw [List.cons_append, dropThrough?]
      cases hprefix : Text.dropPrefix? piece (c :: (before ++ (piece ++ rest))) with
      | none => exact ih
      | some r =>
          -- both `rest` and `r` end the text, and `r` is the longer one
          have htext := Text.dropPrefix?_eq_some_iff.mp hprefix
          have hlength := congrArg List.length htext
          simp only [List.length_cons, List.length_append] at hlength
          have hr : r <:+ c :: (before ++ (piece ++ rest)) := ⟨piece, htext.symm⟩
          have hrest : rest <:+ c :: (before ++ (piece ++ rest)) := ⟨c :: before ++ piece, by simp⟩
          obtain ⟨skipped, rfl⟩ := List.suffix_of_suffix_length_le hrest hr (by omega)
          exact ⟨skipped, rfl⟩

/-- The pieces are found behind some text exactly if they spell all that follows such a text. -/
theorem matchesRest_iff {piece : Text} {pieces : List Text} {s : Text} :
    matchesRest (piece :: pieces) s = true ↔
      ∃ gap rest, s = gap ++ rest ∧ Spells Eq (piece :: pieces) rest := by
  induction pieces generalizing piece s with
  | nil =>
      rw [matchesRest, List.isSuffixOf_iff_suffix]
      constructor
      · rintro ⟨gap, rfl⟩
        exact ⟨gap, piece, rfl, .last rfl⟩
      · rintro ⟨gap, rest, rfl, h⟩
        rw [spells_singleton.mp h]
        exact List.suffix_append gap piece
  | cons next pieces ih =>
      rw [matchesRest]
      constructor
      · intro h
        split at h
        · rename_i rest hdrop
          obtain ⟨before, rfl⟩ := eq_append_of_dropThrough? hdrop
          obtain ⟨gap, rest, rfl, hrest⟩ := ih.mp h
          exact ⟨before, piece ++ (gap ++ rest), rfl, .cons gap rfl hrest⟩
        · cases h
      · rintro ⟨before, t, rfl, h⟩
        obtain ⟨form, gap, rest, rfl, rfl, hrest⟩ := spells_cons_cons.mp h
        obtain ⟨skipped, hdrop⟩ := dropThrough?_append before form (gap ++ rest)
        rw [hdrop]
        exact ih.mpr ⟨skipped ++ gap, rest, by rw [List.append_assoc], hrest⟩

/-- The matcher finds the pieces exactly if they spell the text. -/
theorem covers_iff {pieces : List Text} {s : Text} :
    covers pieces s = true ↔ Spells Eq pieces s := by
  match pieces with
  | [] =>
      constructor
      · intro h
        cases h
      · intro h
        cases h
  | [piece] =>
      rw [covers, spells_singleton, beq_iff_eq, eq_comm]
  | piece :: next :: pieces =>
      rw [covers, spells_cons_cons]
      constructor
      · intro h
        split at h
        · rename_i tail hprefix
          obtain ⟨gap, rest, rfl, hrest⟩ := matchesRest_iff.mp h
          exact ⟨piece, gap, rest, Text.dropPrefix?_eq_some_iff.mp hprefix, rfl, hrest⟩
        · cases h
      · rintro ⟨form, gap, rest, rfl, rfl, hrest⟩
        rw [Text.dropPrefix?_eq_some_iff.mpr rfl]
        exact matchesRest_iff.mpr ⟨gap, rest, rfl, hrest⟩

/-! ### Patterns -/

/-- A pattern that is small enough admits the texts that its decoded pieces spell up to case. -/
theorem admits_iff {pattern s : Text} :
    admits pattern s = true ↔ fits pattern = true ∧
      Spells Text.SameLetters ((Text.splitOn '*' pattern).map decode) s := by
  have hsame : Text.SameLetters = fun form piece => form.map Text.fold = piece.map Text.fold := by
    funext form piece
    exact propext Text.sameLetters_iff
  rw [admits, Bool.and_eq_true, covers_iff, pieces, hsame, ← spells_map, List.map_map]
  rfl

theorem admits_iff_of_not_mem {pattern s : Text} (h : '*' ∉ pattern) :
    admits pattern s = true ↔ Text.SameLetters s (decode pattern) := by
  have hfits : fits pattern = true := by
    rw [fits, List.count_eq_zero_of_not_mem h]
    rfl
  rw [admits_iff, Text.splitOn_of_not_mem h, List.map_singleton, spells_singleton]
  exact and_iff_right hfits

/-! ### Patterns with empty pieces -/

variable {piece s : Text}

theorem spells_prefix : Spells Text.SameLetters [piece, []] s ↔
    ∃ form rest, s = form ++ rest ∧ Text.SameLetters form piece := by
  rw [spells_cons_cons]
  constructor
  · rintro ⟨form, gap, rest, rfl, hform, -⟩
    exact ⟨form, gap ++ rest, rfl, hform⟩
  · rintro ⟨form, rest, rfl, hform⟩
    exact ⟨form, rest, [], by rw [List.append_nil], hform, .last .nil⟩

theorem spells_nil_cons {pieces : List Text} : Spells Text.SameLetters ([] :: piece :: pieces) s ↔
    ∃ before rest, s = before ++ rest ∧ Spells Text.SameLetters (piece :: pieces) rest := by
  rw [spells_cons_cons]
  constructor
  · rintro ⟨form, before, rest, rfl, hform, hrest⟩
    rw [Text.sameLetters_nil_right.mp hform]
    exact ⟨before, rest, rfl, hrest⟩
  · rintro ⟨before, rest, rfl, hrest⟩
    exact ⟨[], before, rest, rfl, .nil, hrest⟩

theorem spells_infix : Spells Text.SameLetters [[], piece, []] s ↔
    ∃ before form rest, s = before ++ (form ++ rest) ∧ Text.SameLetters form piece := by
  rw [spells_nil_cons]
  constructor
  · rintro ⟨before, t, rfl, h⟩
    obtain ⟨form, rest, rfl, hform⟩ := spells_prefix.mp h
    exact ⟨before, form, rest, rfl, hform⟩
  · rintro ⟨before, form, rest, rfl, hform⟩
    exact ⟨before, form ++ rest, rfl, spells_prefix.mpr ⟨form, rest, rfl, hform⟩⟩

theorem spells_replicate_nil (n : Nat) (s : Text) :
    Spells Text.SameLetters (List.replicate (n + 2) []) s := by
  induction n with
  | zero => exact spells_prefix.mpr ⟨[], s, rfl, .nil⟩
  | succ n ih => exact spells_nil_cons.mpr ⟨[], s, rfl, ih⟩

end Pattern

/-! ### Values -/

namespace AttributeValue

/-- **Wildcards are exact**: a value matches a pattern that is small enough if and only if one of
its members is made of the decoded pieces between the raw stars, each up to case, with any texts
between them.  Nothing but a raw star is a wildcard: without one a member has the letters of the
decoded pattern one by one, and an ASCII character other than a letter, be it a decoded star or one
that has a meaning in regular expressions, stands for itself only. -/
theorem matchesPattern_iff (v : AttributeValue) {pattern : Text}
    (hfits : Pattern.fits pattern = true) :
    (v.matchesPattern pattern = true ↔ ∃ m ∈ v.members,
      Pattern.Spells Text.SameLetters ((Text.splitOn '*' pattern).map decode) m.toText) ∧
    ('*' ∉ pattern → (v.matchesPattern pattern = true ↔ ∃ m ∈ v.members,
      Text.SameLetters m.toText (decode pattern))) ∧
    ∀ c : Char, c.toNat < 0x80 → c.isAlpha = false → ∀ d, Text.sameLetter d c = true ↔ d = c := by
  refine ⟨?_, fun hstar => ?_, fun c hc halpha d => Text.sameLetter_iff_eq hc halpha⟩
  · simp only [matchesPattern, List.any_eq_true, Pattern.admits_iff, hfits, true_and]
  · simp only [matchesPattern, List.any_eq_true, Pattern.admits_iff_of_not_mem hstar]

/-- A wildcard covers a line break, while an escaped star and a full stop stand for themselves. -/
theorem matchesPattern_across_lines :
    let pattern : Text := ['É', '*', '\\', '2', 'a', '.', 'c']
    let v := AttributeValue.multi [.text [], .text ['é', '\n', 'b', '*', '.', 'C']]
    Pattern.fits pattern = true ∧ v.matchesPattern pattern = true := by
  intro pattern v
  have hfits : Pattern.fits pattern = true := by decide
  refine ⟨hfits, (matchesPattern_iff v hfits).1.mpr ⟨.text ['é', '\n', 'b', '*', '.', 'C'], ?_, ?_⟩⟩
  · simp [v, members]
  · have hfirst : Text.SameLetters ['é'] ['É'] := .cons (by decide) .nil
    have hlast : Text.SameLetters ['*', '.', 'C'] ['*', '.', 'c'] :=
      .cons (by decide) (.cons (by decide) (.cons (by decide) .nil))
    exact .cons ['\n', 'b'] hfirst (.last hlast)

end AttributeValue
end SearchFilter
